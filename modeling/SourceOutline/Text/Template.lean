import SourceOutline.Text.Template.Layout.Number
import SourceOutline.Text.Template.Value

/-!
# Templates

A template is a text with fields in braces. A field names a value, may go on from it to an item or
to what the value tells about itself, may quote it, and may say how it is cut and filled up to a
width. A doubled brace stands for itself. The layout of a field may have fields of its own, one
level deep.

A template is first divided into segments, as far as its braces allow. Rendering writes the segments
one after the other, so that a field that cannot be written is noticed before a brace that is wrong
further on.
-/

namespace SourceOutline.Text.Template

/-! ## Segments -/

/-- A field as it is written. -/
structure Field where
  /-- What stands before the exclamation mark or the colon. -/
  name : List Char
  /-- The letter after the exclamation mark. -/
  conversion : Option Char
  /-- What stands after the colon. -/
  layout : List Char
  deriving DecidableEq, Repr

/-- A piece of a template. -/
inductive Segment where
  /-- A character that stands for itself. -/
  | literal (c : Char)
  /-- A field. -/
  | field (f : Field)
  deriving DecidableEq, Repr

/-- What ends the name of a field. -/
inductive NameEnd where
  /-- The closing brace. -/
  | brace
  /-- A colon. -/
  | colon
  /-- An exclamation mark. -/
  | exclamation
  deriving DecidableEq, Repr

/-- The name of a field, what ends it, and what is left. In square brackets no mark ends it. -/
def readName (inBrackets : Bool) : List Char → Except Fault (List Char × NameEnd × List Char)
  | [] => .error .unclosedField
  | c :: rest =>
    let goOn (inBrackets : Bool) :=
      (readName inBrackets rest).map fun (name, nameEnd, rest) => (c :: name, nameEnd, rest)
    if inBrackets then goOn (c != ']')
    else if c == '\x7b' then .error .braceInName
    else if c == '\x7d' then .ok ([], .brace, rest)
    else if c == ':' then .ok ([], .colon, rest)
    else if c == '!' then .ok ([], .exclamation, rest)
    else goOn (c == '[')

/-- The layout of a field up to the brace that closes the field, `depth` braces being open. -/
def readLayout (depth : Nat) : List Char → Except Fault (List Char × List Char)
  | [] => .error .unclosedLayout
  | c :: rest =>
    let goOn (depth : Nat) := (readLayout depth rest).map fun (layout, rest) => (c :: layout, rest)
    if c == '\x7b' then goOn (depth + 1)
    else if c == '\x7d' then (if depth ≤ 1 then .ok ([], rest) else goOn (depth - 1))
    else goOn depth

/-- The rest of a field after its name. -/
def readFieldEnd (name : List Char) (nameEnd : NameEnd) (rest : List Char) :
    Except Fault (Field × List Char) :=
  let withLayout (conversion : Option Char) (cs : List Char) : Except Fault (Field × List Char) :=
    (readLayout 1 cs).map fun (layout, rest) => (⟨name, conversion, layout⟩, rest)
  match nameEnd with
  | .brace => .ok (⟨name, none, []⟩, rest)
  | .colon => withLayout none rest
  | .exclamation =>
    match rest with
    | [] => .error .noConversion
    | [_] => .error .unclosedLayout
    | letter :: next :: more =>
      if next == '\x7d' then .ok (⟨name, some letter, []⟩, more)
      else if next == ':' then withLayout (some letter) more
      else .error .afterConversion

/-- The field that starts after an opening brace, and what is left after it. -/
def readField (cs : List Char) : Except Fault (Field × List Char) := do
  let (name, nameEnd, rest) ← readName false cs
  readFieldEnd name nameEnd rest

/-- The segments of a template up to its first wrong brace, and what is wrong there. Every step
takes a character, so that the length of the template bounds them. -/
def segmentsWithin : (fuel : Nat) → List Char → List Segment × Option Fault
  | 0, _ => ([], none)
  | _ + 1, [] => ([], none)
  | fuel + 1, c :: rest =>
    let literal (rest : List Char) :=
      let (more, fault) := segmentsWithin fuel rest
      (.literal c :: more, fault)
    if c == '\x7d' then
      match rest with
      | '\x7d' :: rest => literal rest
      | _ => ([], some .loneClosing)
    else if c == '\x7b' then
      match rest with
      | [] => ([], some .loneOpening)
      | '\x7b' :: rest => literal rest
      | _ =>
        match readField rest with
        | .error fault => ([], some fault)
        | .ok (field, rest) =>
          let (more, fault) := segmentsWithin fuel rest
          (.field field :: more, fault)
    else literal rest

/-- The segments of a template up to its first wrong brace, and what is wrong there. -/
def segments (template : List Char) : List Segment × Option Fault :=
  segmentsWithin template.length template

/-! ## Values -/

/-- The values that fields can name. -/
abbrev Values := List (String × String)

/-- What a value leads to by a name. -/
def partOf (value : Value) (name : String) : Except Fault Value :=
  match value.part? name, value.asked? name with
  | some part, _ => .ok part
  | none, none => .error (.noPart value.itsClass name)
  | none, some c =>
    if name == "__abstractmethods__" then .error (.untold name)
    else .error (.noPartOfClass c name)

/-- The item of a text or a series at a position. -/
def itemAt (items : List Value) (beyond : Fault) (position : Nat) : Except Fault Value :=
  match items[position]? with
  | none => .error beyond
  | some item => .ok item

/-- The item of a value by what stands in square brackets: the number `position`, or `key` when that
is no number. -/
def itemOf (value : Value) (key : String) (position : Option Nat) : Except Fault Value :=
  let argument := (position.map Value.number).getD (.text key)
  match value with
  | .text s =>
    let letters := s.toList.map fun c => Value.text (String.ofList [c])
    match position with
    | none => .error .textPosition
    | some i => itemAt letters .beyondEnd i
  | .series items =>
    match position with
    | none => .error .seriesPosition
    | some i => itemAt items .beyondSeries i
  | .view c =>
    match position, Value.entryOf? c key with
    | none, some item => .ok item
    | _, _ => .error (.noEntry argument.quoted)
  | .emptyTable => .error (.noEntry argument.quoted)
  | .ofClass c => if c.takesArgument then .ok (.argued c argument) else .error (.noItemsOfClass c)
  | .argued _ _ => .error (.argumentGiven value.quoted)
  | _ => .error (.noItems value.itsClass)

/-- Goes on from `value` as the dots and square brackets after a name say. -/
def goOn (value : Value) : (fuel : Nat) → List Char → Except Fault Value
  | 0, _ => .ok value
  | _ + 1, [] => .ok value
  | fuel + 1, c :: rest =>
    let isStep (c : Char) : Bool := c == '.' || c == '['
    if c == '.' then
      match rest.takeWhile (!isStep ·) with
      | [] => .error .emptyStep
      | name => do goOn (← partOf value (String.ofList name)) fuel (rest.dropWhile (!isStep ·))
    else if c == '[' then
      match rest.dropWhile (· != ']') with
      | [] => .error .unclosedBracket
      | _ :: more => do
        let name := rest.takeWhile (· != ']')
        let position ← number? name
        if name.isEmpty then .error .emptyStep
        else goOn (← itemOf value (String.ofList name) position) fuel more
    else .error .afterBracket

/-- The value that a field names. -/
def lookup (values : Values) (name : List Char) : Except Fault Value := do
  let isStep (c : Char) : Bool := c == '.' || c == '['
  let first := name.takeWhile (!isStep ·)
  match ← number? first with
  | some index => .error (.noPosition index)
  | none =>
    if first.isEmpty then .error (.noPosition 0)
    else
      match values.lookup (String.ofList first) with
      | none => .error (.unknownName (String.ofList first))
      | some value => goOn (.text value) name.length (name.dropWhile (!isStep ·))

/-- The value after the conversion of its field. The null character asks for none. -/
def convert (conversion : Option Char) (value : Value) : Except Fault Value :=
  match conversion with
  | none => .ok value
  | some letter =>
    if letter == '\x00' then .ok value
    else if letter == 's' then .ok (.text value.shown)
    else if letter == 'r' then .ok (.text value.quoted)
    else if letter == 'a' then .ok (.text value.quotedAscii)
    else .error (.unknownConversion letter)

/-- The value in the layout that is written as `layout`. The empty layout shows the value as it is;
any other is for texts and numbers, and a truth counts as a number there. -/
def applyLayout (layout : List Char) (value : Value) : Except Fault String :=
  if layout.isEmpty then .ok value.shown
  else
    match value with
    | .text s => do (← Layout.read .text layout).ofText s
    | .number n => do (← Layout.read .number layout).ofNumber .number n
    | .truth b => do (← Layout.read .truth layout).ofNumber .truth b.toNat
    | _ => .error (.noLayout value.itsClass)

/-! ## Rendering -/

/-- Writes a template, `levels` being how deep fields may stand in layouts. -/
def renderWithin (values : Values) : (levels : Nat) → List Char → Except Fault (List Char)
  | 0, _ => .error .tooDeep
  | levels + 1, template => do
    let (pieces, fault) := segments template
    let written ← pieces.mapM fun
      | .literal c => Except.ok [c]
      | .field f => do
        let value ← lookup values f.name
        let value ← convert f.conversion value
        let layout ← if f.layout.contains '\x7b' then renderWithin values levels f.layout
          else .ok f.layout
        return (← applyLayout layout value).toList
    match fault with
    | some fault => .error fault
    | none => .ok written.flatten

/-- The template with the named values in place of its fields. -/
def render (template : String) (values : Values) : Except Fault String :=
  (renderWithin values 2 template.toList).map String.ofList

end SourceOutline.Text.Template
