import SourceOutline.Text.Digit
import SourceOutline.Text.Template.Fault

/-!
# Layouts

A layout says how a value is shown in a field: what fills the space around it, where it stands, how
wide it is, how much of it is shown, and by which letter its presentation is known. This module
reads layouts and lays out texts.
-/

namespace SourceOutline.Text.Template

/-- The greatest number that a template may have. -/
def maxNumber : Nat := 9223372036854775807

/-- The number that the digits write, if all characters are digits and there is one. -/
def number? (cs : List Char) : Except Fault (Option Nat) :=
  if cs.isEmpty then .ok none
  else
    let rec read (value : Nat) : List Char → Except Fault (Option Nat)
      | [] => .ok (some value)
      | c :: rest =>
        match digitValue? c with
        | none => .ok none
        | some d => if maxNumber < 10 * value + d then .error .tooManyDigits
          else read (10 * value + d) rest
    read 0 cs

/-- Where a value stands in a wider space. -/
inductive Alignment where
  /-- At the left. -/
  | left
  /-- At the right. -/
  | right
  /-- In the middle, or just left of it. -/
  | center
  /-- After the sign of a number. -/
  | number
  deriving DecidableEq, Repr

/-- The alignment that a character stands for. -/
def Alignment.ofChar? (c : Char) : Option Alignment :=
  if c == '<' then some .left
  else if c == '>' then some .right
  else if c == '^' then some .center
  else if c == '=' then some .number
  else none

/-- A layout as it is read. -/
structure Layout where
  /-- The character that fills the space. -/
  fill : Char
  /-- Where the value stands. -/
  alignment : Alignment
  /-- The sign, for numbers only. -/
  sign : Option Char
  /-- The mark of a number's zero, for numbers only. -/
  zeroMark : Bool
  /-- The mark of the alternate form, for numbers only. -/
  alternate : Bool
  /-- The least number of characters. -/
  width : Nat
  /-- The mark between thousands, for numbers only. -/
  thousands : Option Char
  /-- The greatest number of characters of a text, or the number of digits to show. -/
  precision : Option Nat
  /-- The letter of the presentation. -/
  presentation : Char

/-- Takes the first character when it is of class `p`. -/
def takeIf (p : Char → Bool) : List Char → Option Char × List Char
  | [] => (none, [])
  | c :: rest => if p c then (some c, rest) else (none, c :: rest)

/-- Reads a number at the start; nothing when no digit stands there. -/
def takeNumber (cs : List Char) : Except Fault (Option Nat × List Char) := do
  let isDigit (c : Char) : Bool := (digitValue? c).isSome
  .ok (← number? (cs.takeWhile isDigit), cs.dropWhile isDigit)

/-- Reads the alignment and the character before it that fills. -/
def takeAlignment (cs : List Char) : Option Char × Option Alignment × List Char :=
  let single := match cs with
    | [] => (none, none, [])
    | c :: rest =>
      match Alignment.ofChar? c with
      | some alignment => (none, some alignment, rest)
      | none => (none, none, cs)
  match cs with
  | fill :: c :: rest =>
    match Alignment.ofChar? c with
    | some alignment => (some fill, some alignment, rest)
    | none => single
  | _ => single

/-- The mark between thousands. -/
def takeThousandsMark (cs : List Char) : Except Fault (Option Char × List Char) :=
  match cs with
  | ',' :: '_' :: _ => .error .twoThousandsMarks
  | '_' :: ',' :: _ => .error .twoThousandsMarks
  | ',' :: rest => .ok (some ',', rest)
  | '_' :: rest => .ok (some '_', rest)
  | _ => .ok (none, cs)

/-- The letters of the presentations that a thousands mark goes with; the null character is one. -/
def thousandsLetters (mark : Char) : List Char :=
  ['d', 'e', 'f', 'g', 'E', 'G', '%', 'F', '\x00'] ++
    if mark == '_' then ['b', 'o', 'x', 'X'] else []

/-- Reads a layout for values of class `c`. Texts stand at the left; all others are numbers and
stand at the right. Zeros that fill the space of a number stand after its sign. -/
def Layout.read (c : Class) (cs : List Char) : Except Fault Layout := do
  let (fill, alignment, rest) := takeAlignment cs
  let (sign, rest) := takeIf (fun c => c == ' ' || c == '+' || c == '-') rest
  let (zeroMark, rest) := takeIf (· == 'z') rest
  let (alternate, rest) := takeIf (· == '#') rest
  let (zeroFill, rest) := if fill.isNone then takeIf (· == '0') rest else (none, rest)
  let (width, rest) ← takeNumber rest
  let (mark, rest) ← takeThousandsMark rest
  let (precision, rest) ← match rest with
    | '.' :: rest => do
      match ← takeNumber rest with
      | (none, _) => .error .noPrecision
      | (some n, rest) => .ok (some n, rest)
    | _ => .ok (none, rest)
  let presentation ← match rest with
    | [] => .ok (if c = .text then 's' else 'd')
    | [letter] => .ok letter
    | _ => .error (.badLayout c (String.ofList cs))
  match mark with
  | some mark =>
    if !(thousandsLetters mark).contains presentation then
      throw (.thousandsMark mark presentation)
  | none => pure ()
  .ok {
    fill := fill.getD (zeroFill.getD ' ')
    alignment := alignment.getD
      (if c = .text then .left else if zeroFill.isSome then .number else .right)
    sign, zeroMark := zeroMark.isSome, alternate := alternate.isSome
    width := width.getD 0
    thousands := mark, precision, presentation }

/-- The greatest width to which a value is filled up. -/
def maxWidth : Nat := 4294967296

/-- Cuts a text to the precision and fills it up to the width. -/
def Layout.ofText (layout : Layout) (value : String) : Except Fault String := do
  if layout.presentation != 's' then throw (.unknownPresentation .text layout.presentation)
  match layout.sign with
  | some ' ' => throw .blankSign
  | some _ => throw .sign
  | none => pure ()
  if layout.zeroMark then throw .zeroMark
  if layout.alternate then throw .alternateForm
  if layout.alignment == .number then throw .numberAlignment
  let shown := match layout.precision with
    | none => value.toList
    | some n => value.toList.take n
  if shown.length < layout.width && maxWidth < layout.width then throw .tooWide
  let room := layout.width - shown.length
  let before := match layout.alignment with
    | .right => room
    | .center => room / 2
    | _ => 0
  .ok (String.ofList (List.replicate before layout.fill ++ shown ++
    List.replicate (room - before) layout.fill))

end SourceOutline.Text.Template
