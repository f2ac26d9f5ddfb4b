import SourceOutline.Json.Basic
import SourceOutline.Text.Quoted

/-!
# Writing documents

A document is written on one line, with a blank after every comma and colon, or with every item and
field on a line of its own, indented by its depth. Texts stand between double quotes; control
characters, the double quote and the backslash are escaped, and on demand all characters outside
printable ASCII, those beyond the basic plane as a pair of surrogates.
-/

namespace SourceOutline.Json

open SourceOutline.Text (hexDigits)

/-- How a document is written. -/
structure Style where
  /-- The indentation of one level, or nothing for a document on one line. -/
  indent : Option Nat
  /-- Whether all characters outside printable ASCII are escaped. -/
  ascii : Bool

/-- A unit of UTF-16 as an escape. -/
def escapeUnit (n : Nat) : List Char := '\\' :: 'u' :: hexDigits 4 n

/-- A character as one escape, or two when it lies beyond the basic plane. -/
def escapeUnits (c : Char) : List Char :=
  if c.toNat < 0x10000 then escapeUnit c.toNat
  else
    escapeUnit (0xd800 + (c.toNat - 0x10000) / 0x400) ++
      escapeUnit (0xdc00 + (c.toNat - 0x10000) % 0x400)

/-- One character of a text. -/
def escapeChar (ascii : Bool) (c : Char) : List Char :=
  if c == '\x22' || c == '\\' then ['\\', c]
  else if c == '\n' then ['\\', 'n']
  else if c == '\r' then ['\\', 'r']
  else if c == '\t' then ['\\', 't']
  else if c == '\x0c' then ['\\', 'f']
  else if c == '\x08' then ['\\', 'b']
  else if c.toNat < 0x20 then escapeUnit c.toNat
  else if ascii && 0x7e < c.toNat then escapeUnits c
  else [c]

/-- A text between double quotes. -/
def textChars (ascii : Bool) (s : String) : List Char :=
  '\x22' :: s.toList.flatMap (escapeChar ascii) ++ ['\x22']

/-- The digits of a whole number, with a sign when it is negative. -/
def intChars : Int → List Char
  | .ofNat n => Nat.toDigits 10 n
  | .negSucc n => '-' :: Nat.toDigits 10 (n + 1)

/-- The new line at some depth; nothing in a document on one line. -/
def Style.newline (style : Style) (depth : Nat) : List Char :=
  match style.indent with
  | none => []
  | some width => '\n' :: List.replicate (width * depth) ' '

/-- What stands between two items or fields at some depth. -/
def Style.separator (style : Style) (depth : Nat) : List Char :=
  match style.indent with
  | none => [',', ' ']
  | some _ => ',' :: style.newline depth

/-- What stands between a field's name and its value. -/
def nameMark : List Char := [':', ' ']

mutual

/-- The characters of a document that stands at some depth. -/
def chars (style : Style) (depth : Nat) : Json → List Char
  | .null => ['n', 'u', 'l', 'l']
  | .bool true => ['t', 'r', 'u', 'e']
  | .bool false => ['f', 'a', 'l', 's', 'e']
  | .int n => intChars n
  | .text s => textChars style.ascii s
  | .list [] => ['[', ']']
  | .list (item :: items) =>
    '[' :: style.newline (depth + 1) ++ chars style (depth + 1) item ++
      itemChars style (depth + 1) items ++ style.newline depth ++ [']']
  | .table [] => ['\x7b', '\x7d']
  | .table ((name, value) :: fields) =>
    '\x7b' :: style.newline (depth + 1) ++ textChars style.ascii name ++ nameMark ++
      chars style (depth + 1) value ++ fieldChars style (depth + 1) fields ++
      style.newline depth ++ ['\x7d']

/-- The characters of the items after the first. -/
def itemChars (style : Style) (depth : Nat) : List Json → List Char
  | [] => []
  | item :: items =>
    style.separator depth ++ chars style depth item ++ itemChars style depth items

/-- The characters of the fields after the first. -/
def fieldChars (style : Style) (depth : Nat) : List (String × Json) → List Char
  | [] => []
  | (name, value) :: fields =>
    style.separator depth ++ textChars style.ascii name ++ nameMark ++ chars style depth value ++
      fieldChars style depth fields

end

/-- The written document. -/
def render (style : Style) (doc : Json) : String := String.ofList (doc.chars style 0)

end SourceOutline.Json
