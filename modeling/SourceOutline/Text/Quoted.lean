import SourceOutline.Text.Printable

/-!
# Quoted texts

Messages show a text between quotes. The quotes are single unless the text has a single quote and no
double one. The quote, the backslash and the characters that are not printable are escaped.
-/

namespace SourceOutline.Text

/-- The single quote. -/
def singleQuote : Char := Char.ofNat 0x27

/-- The double quote. -/
def doubleQuote : Char := Char.ofNat 0x22

/-- The lower-case hexadecimal digits of `n`, filled up with zeros to `width`. -/
def hexDigits (width n : Nat) : List Char :=
  let digits := Nat.toDigits 16 n
  List.replicate (width - digits.length) '0' ++ digits

/-- A character by its code point, in the shortest of the three forms that has room for it. -/
def escapeByCode (c : Char) : List Char :=
  if c.toNat ≤ 0xff then '\\' :: 'x' :: hexDigits 2 c.toNat
  else if c.toNat ≤ 0xffff then '\\' :: 'u' :: hexDigits 4 c.toNat
  else '\\' :: 'U' :: hexDigits 8 c.toNat

/-- One character between quotes of kind `quote`; characters of class `shown` stand as they are. -/
def quoteChar (shown : Char → Bool) (quote c : Char) : List Char :=
  if c == quote || c == '\\' then ['\\', c]
  else if c == '\t' then ['\\', 't']
  else if c == '\n' then ['\\', 'n']
  else if c == '\r' then ['\\', 'r']
  else if shown c then [c]
  else escapeByCode c

/-- The text between quotes, with the characters of class `shown` as they are. -/
def quoteShowing (shown : Char → Bool) (s : String) : String :=
  let quote :=
    if s.toList.contains singleQuote && !s.toList.contains doubleQuote then doubleQuote
    else singleQuote
  String.ofList (quote :: s.toList.flatMap (quoteChar shown quote) ++ [quote])

/-- The text between quotes. -/
def quote (s : String) : String := quoteShowing isPrintable s

/-- The text between quotes, with all characters outside ASCII escaped. -/
def quoteAscii (s : String) : String :=
  quoteShowing (fun c => isPrintable c && c.toNat < 0x80) s

/-- A list of texts, each between quotes, in square brackets. -/
def quoteList (items : List String) : String :=
  "[" ++ String.intercalate ", " (items.map quote) ++ "]"

end SourceOutline.Text
