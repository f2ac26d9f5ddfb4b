/-!
# Numerals

The digits of a natural number as they are written: all of them, only the leading ones, or in groups
with a mark between them. Where digits are left out the number is rounded, and one that lies midway
goes to the even side.
-/

namespace SourceOutline.Text

/-- The quotient of `n` by `d` rounded to the nearest number, and to the even one midway. -/
def roundedQuotient (n d : Nat) : Nat :=
  if d < 2 * (n % d) || (2 * (n % d) == d && n / d % 2 == 1) then n / d + 1 else n / d

/-- The number rounded so that only its leading binary digits are used, `bits` of them. -/
def roundedToBits (bits n : Nat) : Nat :=
  let unit := 1 <<< (Nat.log2 n + 1 - bits)
  roundedQuotient n unit * unit

/-- The leading decimal digits of a number, `count` of them and at least one, and the power of ten
of the first. -/
def leadingDigits (count n : Nat) : List Char × Nat :=
  let digits := Nat.toDigits 10 n
  if digits.length ≤ count then
    (digits ++ List.replicate (count - digits.length) '0', digits.length - 1)
  else
    let rounded := Nat.toDigits 10 (roundedQuotient n (Nat.pow 10 (digits.length - count)))
    (rounded.take count, digits.length - 1 + (rounded.length - count))

/-- The digits with a mark wherever a multiple of `size` digits is left, `left` of them standing
after the first. -/
def withMarks (size : Nat) (mark : Char) : (left : Nat) → List Char → List Char
  | _, [] => []
  | left, c :: rest =>
    if left != 0 && left % size == 0 then c :: mark :: withMarks size mark (left - 1) rest
    else c :: withMarks size mark (left - 1) rest

/-- The digits in groups of `size` from the end, with a mark between them. -/
def grouped (size : Nat) (mark : Char) (digits : List Char) : List Char :=
  withMarks size mark (digits.length - 1) digits

/-- The least number of digits that fills `width` when marks stand between groups of `size`. -/
def digitsToFill (size width : Nat) : Nat := width - (width - 1) / (size + 1)

/-- The digits with zeros before them, at least `count` in all. -/
def zeroFilled (count : Nat) (digits : List Char) : List Char :=
  List.replicate (count - digits.length) '0' ++ digits

/-- The text without the zeros at its end. -/
def withoutFinalZeros (digits : List Char) : List Char :=
  (digits.reverse.dropWhile (· == '0')).reverse

end SourceOutline.Text
