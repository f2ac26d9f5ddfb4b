import SourceOutline.Text.Quoted
import SourceOutline.Text.Template.Class

/-!
# Values of fields

A field of a template names a text. After the name it can go on: to an item by its position or its
name, or to a member of the value. This module holds all values that can be reached in this way,
what each of them leads to, and how it is shown.

A value leads to the members of its class. Those that tell something give what they tell; an
operation stays together with the value, on which it is to be called. A class is a value too, and
leads to three kinds of members: first to those of classes that tell something, then to those that
the class lists for its values, and last to the other members of classes.
-/

namespace SourceOutline.Text.Template

/-- What a field can reach. -/
inductive Value where
  /-- A text. -/
  | text (s : String)
  /-- A number. -/
  | number (n : Nat)
  /-- A truth. -/
  | truth (b : Bool)
  /-- Nothing. -/
  | nothing
  /-- Values in a series. -/
  | series (items : List Value)
  /-- A class. -/
  | ofClass (c : Class)
  /-- A class with an argument. -/
  | argued (origin : Class) (argument : Value)
  /-- A member in the class that lists it. -/
  | member (owner : Class) (m : Member)
  /-- An operation with the value that it is called on. -/
  | bound (owner : Class) (m : Member) (subject : Value)
  /-- A view of the members of a class. -/
  | view (c : Class)
  /-- A table without entries. -/
  | emptyTable

namespace Value

/-- The class of a value. -/
def itsClass : Value → Class
  | .text _ => .text
  | .number _ => .number
  | .truth _ => .truth
  | .nothing => .nothing
  | .series _ => .series
  | .ofClass _ => .type
  | .argued _ _ => .arguedClass
  | .member _ m =>
    match m.attachment with
    | .slot => .slot
    | .ofClass => .classMethod
    | .alone => .shared
    | .attribute => .attribute
    | .field => .field
    | _ => .method
  | .bound _ m _ => if m.attachment = .slot then .boundSlot else .boundMethod
  | .view _ => .view
  | .emptyTable => .table

/-- A text that may be missing. -/
def ofOption : Option String → Value
  | some s => .text s
  | none => .nothing

/-- An explanation; nothing when it has no lines. -/
def explained (lines : List String) : Value :=
  if lines.isEmpty then .nothing else .text (String.intercalate "\n" lines)

/-! ## How values are shown -/

/-- Items between two marks. -/
def enclosed (opening closing : String) (items : List String) : String :=
  opening ++ String.intercalate ", " items ++ closing

/-- A class. -/
def shownClass (c : Class) : String := "<class '" ++ c.fullName ++ "'>"

/-- A member in the class that lists it. -/
def shownMember (kind : String) (owner : Class) (m : Member) : String :=
  "<" ++ kind ++ " '" ++ m.name ++ "' of '" ++ owner.fullName ++ "' objects>"

/-- An operation with the class of what it is called on. Where that lies in memory is shown too,
and as no value lies anywhere, it is one place for all. -/
def shownBound (m : Member) (c : Class) : String :=
  (if m.attachment = .slot then "<method-wrapper '" ++ m.name ++ "'"
    else "<built-in method " ++ m.name) ++
    " of " ++ c.fullName ++ " object at 0x7f0000000000>"

/-- An entry in the view of a class, texts being quoted by `quoteText`. -/
def shownEntry (quoteText : String → String) (owner : Class) (m : Member) : String :=
  match m.attachment with
  | .slot => shownMember "slot wrapper" owner m
  | .method | .ofClass => shownMember "method" owner m
  | .attribute => shownMember "attribute" owner m
  | .field => shownMember "member" owner m
  | .maker => shownBound m .type
  | .alone => "<staticmethod(" ++ shownBound m .type ++ ")>"
  | .constant =>
    if m.explanation.isEmpty then "None" else quoteText (String.intercalate "\n" m.explanation)

/-- The members of a class with their names. -/
def shownTable (quoteText : String → String) (c : Class) : String :=
  enclosed "\x7b" "\x7d"
    (c.members.map fun m => quoteText m.name ++ ": " ++ shownEntry quoteText c m)

mutual

/-- How a value is shown when its texts are quoted by `quoteText`. -/
def quotedBy (quoteText : String → String) : Value → String
  | .text s => quoteText s
  | .number n => toString n
  | .truth b => if b then "True" else "False"
  | .nothing => "None"
  | .series items =>
    enclosed "(" (if items.length = 1 then ",)" else ")") (quotedAll quoteText items)
  | .ofClass c => shownClass c
  | .argued origin argument => origin.fullName ++ "[" ++ quotedBy quoteText argument ++ "]"
  | .member owner m => shownEntry quoteText owner m
  | .bound _ m subject => shownBound m subject.itsClass
  | .view c => "mappingproxy(" ++ shownTable quoteText c ++ ")"
  | .emptyTable => "\x7b\x7d"

/-- How the items of a series are shown. -/
def quotedAll (quoteText : String → String) : List Value → List String
  | [] => []
  | item :: items => quotedBy quoteText item :: quotedAll quoteText items

end

/-- How a value is shown when its texts are quoted. -/
def quoted (value : Value) : String := value.quotedBy quote

/-- How a value is shown when its texts are quoted in ASCII. -/
def quotedAscii (value : Value) : String := value.quotedBy quoteAscii

/-- How a value is shown. A text stands as it is, and a view as what it is a view of. -/
def shown : Value → String
  | .text s => s
  | .view c => shownTable quote c
  | value => value.quoted

/-! ## What values lead to -/

/-- The explanation of a class. A class may list an attribute in the place of it. -/
def explanationOf (c : Class) : Value :=
  if c = .type then explained Class.explanationOfType
  else
    match Member.named? c.members "__doc__" with
    | some m => if m.tells then .member c m else explained m.explanation
    | none => .nothing

/-- What the members of classes tell of a class. -/
def toldOfClass? (c : Class) (name : String) : Option Value :=
  if name == "__name__" || name == "__qualname__" then some (.text c.name)
  else if name == "__module__" then some (.text c.home)
  else if name == "__doc__" then some (explanationOf c)
  else if name == "__text_signature__" then some (ofOption c.signature?)
  else if name == "__mro__" then some (.series (c.line.map .ofClass))
  else if name == "__bases__" then some (.series (c.line.tail.take 1 |>.map .ofClass))
  else if name == "__base__" then some ((c.line.tail.head?.map Value.ofClass).getD .nothing)
  else if name == "__dict__" then some (.view c)
  else if name == "__basicsize__" then some (.number c.measures.size)
  else if name == "__itemsize__" then some (.number c.measures.itemSize)
  else if name == "__flags__" then some (.number c.measures.flags)
  else if name == "__weakrefoffset__" then some (.number c.measures.referrers)
  else if name == "__dictoffset__" then some (.number c.measures.ownTable)
  else none

/-- What a member tells of itself, `known` being the class by which it is known. -/
def toldOfMember? (known : Class) (m : Member) (name : String) : Option Value :=
  if name == "__name__" then some (.text m.name)
  else if name == "__qualname__" then some (.text (known.name ++ "." ++ m.name))
  else if name == "__doc__" then some (explained m.explanation)
  else if name == "__text_signature__" then some (ofOption m.signature)
  else none

/-- The class by which an operation is known when it is called on a value. -/
def knownBy (owner : Class) (m : Member) (subject : Value) : Class :=
  if m.attachment = .slot then owner
  else
    match subject with
    | .ofClass c => c
    | _ => subject.itsClass

/-- What an operation tells of itself that is called on a value. -/
def toldOfBound? (owner : Class) (m : Member) (subject : Value) (name : String) : Option Value :=
  if name == "__self__" then some (if m.attachment = .alone then .nothing else subject)
  else if name == "__objclass__" then some (.ofClass owner)
  else if name == "__module__" then some .nothing
  else toldOfMember? (knownBy owner m subject) m name

/-- What a member tells of itself in the class that lists it. -/
def toldOfListed? (owner : Class) (m : Member) (name : String) : Option Value :=
  if name == "__objclass__" then some (.ofClass owner)
  else if name == "__func__" || name == "__wrapped__" then some (.bound owner m (.ofClass owner))
  else if name == "__isabstractmethod__" then some (.truth false)
  else if name == "__dict__" then some .emptyTable
  else toldOfMember? owner m name

/-- What a number tells of itself: it is real, and it is a fraction of one. -/
def toldOfNumber? (n : Nat) (name : String) : Option Value :=
  if name == "real" || name == "numerator" then some (.number n)
  else if name == "imag" then some (.number 0)
  else if name == "denominator" then some (.number 1)
  else none

/-- What a class with an argument tells of itself. -/
def toldOfArgued? (origin : Class) (argument : Value) (name : String) : Option Value :=
  if name == "__origin__" then some (.ofClass origin)
  else if name == "__args__" then some (.series [argument])
  else if name == "__parameters__" then some (.series [])
  else if name == "__unpacked__" then some (.truth false)
  else if name == "__typing_unpacked_tuple_args__" then some .nothing
  else none

/-- What an attribute or a field of its class tells of a value. -/
def told? (value : Value) (name : String) : Option Value :=
  if name == "__class__" then some (.ofClass value.itsClass)
  else
    match value with
    | .ofClass c => toldOfClass? c name
    | .argued origin argument => toldOfArgued? origin argument name
    | .member owner m => toldOfListed? owner m name
    | .bound owner m subject => toldOfBound? owner m subject name
    | .number n => toldOfNumber? n name
    | .truth b => toldOfNumber? b.toNat name
    | _ => none

/-- A member that the class `c` leads to, and `owner` lists. Slots and methods are called on the
value `subject?`; they stay in the class when there is none. -/
def reached (c owner : Class) (m : Member) (subject? : Option Value) : Value :=
  match m.attachment with
  | .slot | .method => (subject?.map (Value.bound owner m)).getD (.member owner m)
  | .ofClass => .bound owner m (.ofClass c)
  | .maker | .alone => .bound owner m (.ofClass owner)
  | .attribute | .field => .member owner m
  | .constant => explained m.explanation

/-- What a value leads to by a member of its class. -/
def ownPart? (value : Value) (name : String) : Option Value :=
  match value.itsClass.member? name with
  | none => none
  | some (owner, m) =>
    if m.tells then value.told? name else some (reached value.itsClass owner m (some value))

/-- What a class leads to. -/
def partOfClass? (c : Class) (name : String) : Option Value :=
  match Class.type.member? name, c.member? name with
  | some (_, m), listed =>
    if m.tells then (Value.ofClass c).told? name
    else
      match listed with
      | some (owner, m) => some (reached c owner m none)
      | none => (Value.ofClass c).ownPart? name
  | none, some (owner, m) => some (reached c owner m none)
  | none, none => none

/-- The members that a class with an argument does not leave to the class. -/
def argumentParts : List String :=
  ["__class__", "__origin__", "__args__", "__unpacked__", "__parameters__",
    "__typing_unpacked_tuple_args__", "__mro_entries__", "__reduce_ex__", "__reduce__", "__copy__",
    "__deepcopy__"]

/-- The class that is asked for a name in the place of a value. -/
def asked? (value : Value) (name : String) : Option Class :=
  match value with
  | .ofClass c => some c
  | .argued origin _ => if argumentParts.contains name then none else some origin
  | _ => none

/-- What a value leads to by a name. -/
def part? (value : Value) (name : String) : Option Value :=
  match value.asked? name with
  | some c => partOfClass? c name
  | none => value.ownPart? name

/-- The entry of a name in the view of a class. -/
def entryOf? (c : Class) (name : String) : Option Value :=
  (Member.named? c.members name).map fun m =>
    match m.attachment with
    | .maker => .bound c m (.ofClass c)
    | .constant => explained m.explanation
    | _ => .member c m

end Value

end SourceOutline.Text.Template
