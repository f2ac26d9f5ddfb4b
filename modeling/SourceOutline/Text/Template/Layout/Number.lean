import SourceOutline.Text.Numeral
import SourceOutline.Text.Template.Layout

/-!
# Layouts of numbers

A number is shown as a whole number in one of four bases, as a character, or with a decimal point.
For a decimal point it is first rounded to the precision of a floating-point number.
-/

namespace SourceOutline.Text.Template

/-- A number without its sign and the space around it. -/
structure Presented where
  /-- What stands before the digits and says what their base is. -/
  mark : List Char
  /-- The digits before the point. They can be grouped. -/
  digits : List Char
  /-- The point and all that follows. -/
  rest : List Char
  deriving DecidableEq, Repr

namespace Presented

/-- The letters of the presentations for whole numbers. -/
def wholeLetters : List Char := ['b', 'c', 'd', 'o', 'x', 'X', 'n']

/-- The letters of the presentations with a decimal point. -/
def pointLetters : List Char := ['e', 'E', 'f', 'F', 'g', 'G', '%']

/-- The base of a presentation for whole numbers. -/
def base (letter : Char) : Nat :=
  if letter == 'b' then 2
  else if letter == 'o' then 8
  else if letter == 'x' || letter == 'X' then 16
  else 10

/-- A whole number. The alternate form tells the base unless it is ten. -/
def whole (letter : Char) (alternate : Bool) (n : Nat) : Presented :=
  let digits := Nat.toDigits (base letter) n
  {
    mark := if alternate && base letter != 10 then ['0', letter] else []
    digits := if letter == 'X' then digits.map Char.toUpper else digits
    rest := [] }

/-- A character by its number. -/
def character (n : Nat) : Presented := ⟨[], [], [Char.ofNat n]⟩

/-- Digits before and after the point. The alternate form has a point also before nothing. -/
def pointed (alternate : Bool) (digits fraction ending : List Char) : Presented :=
  ⟨[], digits, (if fraction.isEmpty && !alternate then [] else '.' :: fraction) ++ ending⟩

/-- A power of ten, after the letter that stands for it. -/
def exponent (letter : Char) (power : Nat) : List Char :=
  letter :: '+' :: zeroFilled 2 (Nat.toDigits 10 power)

/-- A number with `places` digits after the point. -/
def fixed (alternate : Bool) (places n : Nat) (ending : List Char) : Presented :=
  pointed alternate (Nat.toDigits 10 n) (List.replicate places '0') ending

/-- A number with one digit before the point, `places` after it, and a power of ten. -/
def scientific (letter : Char) (alternate : Bool) (places n : Nat) : Presented :=
  let (digits, power) := leadingDigits (places + 1) n
  pointed alternate (digits.take 1) (digits.drop 1) (exponent letter power)

/-- A number with `count` leading digits, and with a power of ten only if they are too few for it.
Zeros at the end are left out unless the form is the alternate one. -/
def general (letter : Char) (alternate : Bool) (count n : Nat) : Presented :=
  let (digits, power) := leadingDigits count n
  let trimmed (fraction : List Char) := if alternate then fraction else withoutFinalZeros fraction
  if count ≤ power then
    pointed alternate (digits.take 1) (trimmed (digits.drop 1)) (exponent letter power)
  else pointed alternate (digits.take (power + 1)) (trimmed (digits.drop (power + 1))) []

/-- The number of binary digits of a floating-point number. -/
def floatingBits : Nat := 53

/-- A number with a decimal point. -/
def withPoint (letter : Char) (alternate : Bool) (precision n : Nat) : Presented :=
  let n := roundedToBits floatingBits n
  if letter == '%' then fixed alternate precision (roundedToBits floatingBits (100 * n)) ['%']
  else if letter == 'e' || letter == 'E' then scientific letter alternate precision n
  else if letter == 'g' then general 'e' alternate (max precision 1) n
  else if letter == 'G' then general 'E' alternate (max precision 1) n
  else fixed alternate precision n []

end Presented

/-- The greatest precision of a number. -/
def maxPrecision : Nat := 2147483647

/-- The precision when none is given. -/
def usualPrecision : Nat := 6

/-- The number as its presentation shows it; `c` is the class that messages name. -/
def Layout.presented (layout : Layout) (c : Class) (n : Nat) : Except Fault Presented := do
  let letter := layout.presentation
  if Presented.wholeLetters.contains letter then
    if layout.precision.isSome then throw .wholePrecision
    if layout.zeroMark then throw .wholeZeroMark
    if letter == 'c' then
      if layout.sign.isSome then throw .characterSign
      if layout.alternate then throw .characterAlternate
      if 0x10ffff < n then throw .noCharacter
      return .character n
    return .whole letter layout.alternate n
  else if Presented.pointLetters.contains letter then
    let precision := layout.precision.getD usualPrecision
    if maxPrecision < precision then throw .precisionTooGreat
    return .withPoint letter layout.alternate precision n
  else throw (.unknownPresentation c letter)

/-- Presents a number and fills it up to the width. Zeros after the sign count as digits, so that
they are grouped too. -/
def Layout.ofNumber (layout : Layout) (c : Class) (n : Nat) : Except Fault String := do
  let ⟨mark, digits, rest⟩ ← layout.presented c n
  let sign := match layout.sign with
    | some '+' => ['+']
    | some ' ' => [' ']
    | _ => []
  if maxWidth < layout.width then throw .tooWide
  let taken := sign.length + mark.length + rest.length
  let least := if layout.fill == '0' && layout.alignment == .number then layout.width - taken else 0
  let digits := if digits.isEmpty then [] else match layout.thousands with
    | none => zeroFilled least digits
    | some thousands =>
      let size := if Presented.base layout.presentation == 10 then 3 else 4
      grouped size thousands (zeroFilled (digitsToFill size least) digits)
  let room := layout.width - (taken + digits.length)
  let space (count : Nat) : List Char := List.replicate count layout.fill
  let (before, between, after) := match layout.alignment with
    | .left => (0, 0, room)
    | .right => (room, 0, 0)
    | .center => (room / 2, 0, room - room / 2)
    | .number => (0, room, 0)
  .ok (String.ofList
    (space before ++ sign ++ mark ++ space between ++ digits ++ rest ++ space after))

end SourceOutline.Text.Template
