import SourceOutline.Text.Casing.Tables

/-!
# Upper and lower case

The full case mappings of Unicode on texts. All characters are mapped one by one, except the capital
sigma, whose lower case has a form of its own at the end of a word.
-/

namespace SourceOutline.Text

/-- Whether a capital sigma ends a word: a character with case stands before it and none after it,
marks and punctuation inside words not counted. `before` is the text before it in reverse. -/
def endsWord (before after : List Char) : Bool :=
  let next? (cs : List Char) : Bool :=
    ((cs.dropWhile caseIgnorableRanges.covers).head?.map casedRanges.covers).getD false
  next? before && !next? after

/-- The lower case of one character between the reversed text before it and the text after it. -/
def lowerChar (before : List Char) (c : Char) (after : List Char) : List Char :=
  if c.toNat < 0x80 then [c.toLower]
  else if c.toNat == 0x130 then ['i', Char.ofNat 0x307]
  else if c.toNat == 0x3a3 then [Char.ofNat (if endsWord before after then 0x3c2 else 0x3c3)]
  else [shiftBy lowerShifts c]

/-- The lower case of a text, `before` being the text before it in reverse. -/
def lowerChars (before : List Char) : List Char → List Char
  | [] => []
  | c :: rest => lowerChar before c rest ++ lowerChars (c :: before) rest

/-- The text in lower case. -/
def lowercase (s : String) : String := String.ofList (lowerChars [] s.toList)

/-- The upper case of one character. -/
def upperChar (c : Char) : List Char :=
  if c.toNat < 0x80 then [c.toUpper]
  else
    match upperExpansions.lookup c.toNat with
    | some codes => codes.map Char.ofNat
    | none => [shiftBy upperShifts c]

/-- The text in upper case. -/
def uppercase (s : String) : String := String.ofList (s.toList.flatMap upperChar)

end SourceOutline.Text
