import SourceOutline.Json.Basic

/-!
# Reading documents

The reader accepts every layout of a document: blanks may stand before and after every mark. Numbers
are whole. A text may hold any escape, a pair of surrogates standing for one character.
-/

namespace SourceOutline.Json

/-- The blanks of a document. -/
def isSpace (c : Char) : Bool := c == ' ' || c == '\n' || c == '\r' || c == '\t'

/-- What is left after the blanks. -/
def skipSpaces (cs : List Char) : List Char := cs.dropWhile isSpace

/-- The value of a hexadecimal digit. -/
def hexValue? (c : Char) : Option Nat :=
  if '0' ≤ c && c ≤ '9' then some (c.toNat - 48)
  else if 'a' ≤ c && c ≤ 'f' then some (c.toNat - 87)
  else if 'A' ≤ c && c ≤ 'F' then some (c.toNat - 55)
  else none

/-- The value of four hexadecimal digits. -/
def unitValue? (a b c d : Char) : Option Nat := do
  let a ← hexValue? a
  let b ← hexValue? b
  let c ← hexValue? c
  let d ← hexValue? d
  some (((a * 16 + b) * 16 + c) * 16 + d)

/-- The character that a letter after a backslash stands for. -/
def escaped? (c : Char) : Option Char :=
  if c == '\x22' || c == '\\' || c == '/' then some c
  else if c == 'n' then some '\n'
  else if c == 'r' then some '\r'
  else if c == 't' then some '\t'
  else if c == 'f' then some '\x0c'
  else if c == 'b' then some '\x08'
  else none

/-- Whether a unit of UTF-16 is the first of a pair. -/
def isHighSurrogate (n : Nat) : Bool := 0xd800 ≤ n && n < 0xdc00

/-- Whether a unit of UTF-16 is the second of a pair. -/
def isLowSurrogate (n : Nat) : Bool := 0xdc00 ≤ n && n < 0xe000

/-- The characters of a text up to its closing quote, and what is left after it. -/
def readText : List Char → Option (List Char × List Char)
  | [] => none
  | '\x22' :: rest => some ([], rest)
  | '\\' :: 'u' :: a :: b :: c :: d :: rest =>
    match unitValue? a b c d with
    | none => none
    | some n =>
      if isHighSurrogate n then
        match rest with
        | '\\' :: 'u' :: e :: f :: g :: h :: rest =>
          match unitValue? e f g h with
          | none => none
          | some m =>
            if isLowSurrogate m then
              (readText rest).map fun (cs, rest) =>
                (Char.ofNat (0x10000 + (n - 0xd800) * 0x400 + (m - 0xdc00)) :: cs, rest)
            else none
        | _ => none
      else (readText rest).map fun (cs, rest) => (Char.ofNat n :: cs, rest)
  | '\\' :: c :: rest =>
    match escaped? c with
    | none => none
    | some c => (readText rest).map fun (cs, rest) => (c :: cs, rest)
  | c :: rest => (readText rest).map fun (cs, rest) => (c :: cs, rest)

/-- The value of decimal digits after `value`. -/
def digitsValue (value : Nat) (digits : List Char) : Nat :=
  digits.foldl (fun n c => 10 * n + (c.toNat - 48)) value

/-- A run of at least one digit, and what is left after it. -/
def readNat (cs : List Char) : Option (Nat × List Char) :=
  match cs.takeWhile Char.isDigit with
  | [] => none
  | digits => some (digitsValue 0 digits, cs.dropWhile Char.isDigit)

mutual

/-- A document, and what is left after it. No more than `fuel` documents are nested or listed one
after the other. -/
def readValue : (fuel : Nat) → List Char → Option (Json × List Char)
  | 0, _ => none
  | fuel + 1, cs =>
    match skipSpaces cs with
    | 'n' :: 'u' :: 'l' :: 'l' :: rest => some (.null, rest)
    | 't' :: 'r' :: 'u' :: 'e' :: rest => some (.bool true, rest)
    | 'f' :: 'a' :: 'l' :: 's' :: 'e' :: rest => some (.bool false, rest)
    | '\x22' :: rest => (readText rest).map fun (s, rest) => (.text (String.ofList s), rest)
    | '-' :: rest => (readNat rest).map fun (n, rest) => (.int (-(n : Int)), rest)
    | '[' :: rest =>
      match skipSpaces rest with
      | ']' :: rest => some (.list [], rest)
      | rest => do
        let (item, rest) ← readValue fuel rest
        let (items, rest) ← readItems fuel rest
        some (.list (item :: items), rest)
    | '\x7b' :: rest =>
      match skipSpaces rest with
      | '\x7d' :: rest => some (.table [], rest)
      | rest => do
        let (field, rest) ← readField fuel rest
        let (fields, rest) ← readFields fuel rest
        some (.table (field :: fields), rest)
    | rest => (readNat rest).map fun (n, rest) => (.int n, rest)

/-- The items of a list after an item, up to the closing bracket. -/
def readItems : (fuel : Nat) → List Char → Option (List Json × List Char)
  | 0, _ => none
  | fuel + 1, cs =>
    match skipSpaces cs with
    | ']' :: rest => some ([], rest)
    | ',' :: rest => do
      let (item, rest) ← readValue fuel rest
      let (items, rest) ← readItems fuel rest
      some (item :: items, rest)
    | _ => none

/-- A named document. -/
def readField : (fuel : Nat) → List Char → Option ((String × Json) × List Char)
  | 0, _ => none
  | fuel + 1, cs =>
    match skipSpaces cs with
    | '\x22' :: rest => do
      let (name, rest) ← readText rest
      match skipSpaces rest with
      | ':' :: rest =>
        let (value, rest) ← readValue fuel rest
        some ((String.ofList name, value), rest)
      | _ => none
    | _ => none

/-- The fields of a table after a field, up to the closing brace. -/
def readFields : (fuel : Nat) → List Char → Option (List (String × Json) × List Char)
  | 0, _ => none
  | fuel + 1, cs =>
    match skipSpaces cs with
    | '\x7d' :: rest => some ([], rest)
    | ',' :: rest => do
      let (field, rest) ← readField fuel rest
      let (fields, rest) ← readFields fuel rest
      some (field :: fields, rest)
    | _ => none

end

/-- The document that a text writes. Every step of the reader takes at least one character, so that
the length of the text bounds the steps. -/
def read? (s : String) : Option Json :=
  match readValue (2 * s.length + 2) s.toList with
  | some (doc, rest) => if (skipSpaces rest).isEmpty then some doc else none
  | none => none

end SourceOutline.Json
