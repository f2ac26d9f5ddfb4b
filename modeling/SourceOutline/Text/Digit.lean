import SourceOutline.Text.Blank

/-!
# Decimal digits and integers

Every script with decimal digits has ten consecutive code points for them. An integer is written
as an optional sign and digits of any script, with single underscores between digits and blanks
around the whole.
-/

namespace SourceOutline.Text

/-- The code points of the digit zero in the scripts that have decimal digits. -/
def digitZeros : List Nat := [
   0x30, 0x660, 0x6f0, 0x7c0, 0x966, 0x9e6, 0xa66, 0xae6, 0xb66, 0xbe6, 0xc66, 0xce6, 0xd66,
   0xde6, 0xe50, 0xed0, 0xf20, 0x1040, 0x1090, 0x17e0, 0x1810, 0x1946, 0x19d0, 0x1a80, 0x1a90,
   0x1b50, 0x1bb0, 0x1c40, 0x1c50, 0xa620, 0xa8d0, 0xa900, 0xa9d0, 0xa9f0, 0xaa50, 0xabf0,
   0xff10, 0x104a0, 0x10d30, 0x11066, 0x110f0, 0x11136, 0x111d0, 0x112f0, 0x11450, 0x114d0,
   0x11650, 0x116c0, 0x11730, 0x118e0, 0x11950, 0x11c50, 0x11d50, 0x11da0, 0x16a60, 0x16ac0,
   0x16b50, 0x1d7ce, 0x1d7d8, 0x1d7e2, 0x1d7ec, 0x1d7f6, 0x1e140, 0x1e2f0, 0x1e950, 0x1fbf0]

/-- The value of a decimal digit of any script. -/
def digitValue? (c : Char) : Option Nat :=
  if c.toNat < 0x80 then
    if '0' ≤ c && c ≤ '9' then some (c.toNat - '0'.toNat) else none
  else
    (digitZeros.find? fun start => start ≤ c.toNat && c.toNat < start + 10).map (c.toNat - ·)

/-- Reads on after a digit, `value` being what was read so far; an underscore must stand between
two digits. -/
def readDigits (value : Nat) : List Char → Option Nat
  | [] => some value
  | '_' :: c :: rest => do
    let d ← digitValue? c
    readDigits (10 * value + d) rest
  | c :: rest => do
    let d ← digitValue? c
    readDigits (10 * value + d) rest

/-- The most digits that an integer may be written with. -/
def maxIntegerDigits : Nat := 4300

/-- Digits with at least one digit and no more than `maxIntegerDigits`. -/
def readNatural (cs : List Char) : Option Nat :=
  match cs with
  | [] => none
  | c :: rest =>
    if (cs.countP fun c => (digitValue? c).isSome) ≤ maxIntegerDigits then do
      let d ← digitValue? c
      readDigits d rest
    else none

/-- Blanks that may stand around an integer: those of ASCII that move the carriage or leave a
space, and all blanks outside ASCII. -/
def isMargin (c : Char) : Bool :=
  if c.toNat < 0x7f then (9 ≤ c.toNat && c.toNat ≤ 13) || c == ' ' else isBlank c

/-- Reads a written integer. -/
def readInteger? (s : String) : Option Int :=
  match (trimBy isMargin s).toList with
  | '-' :: digits => (readNatural digits).map fun n => -(n : Int)
  | '+' :: digits => (readNatural digits).map fun n => (n : Int)
  | digits => (readNatural digits).map fun n => (n : Int)

end SourceOutline.Text
