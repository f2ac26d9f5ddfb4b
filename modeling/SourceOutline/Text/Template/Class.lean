import SourceOutline.Text.Template.Member.Collection
import SourceOutline.Text.Template.Member.Number
import SourceOutline.Text.Template.Member.Object
import SourceOutline.Text.Template.Member.Operation
import SourceOutline.Text.Template.Member.Text

/-!
# Classes of values

Every value that a field of a template can reach has a class. A class has a name, the classes that
it is built on, and members; what it does not list itself it has from those that it is built on.
-/

namespace SourceOutline.Text.Template

/-- The classes of values. -/
inductive Class where
  /-- Texts. -/
  | text
  /-- All values. -/
  | object
  /-- Classes. -/
  | type
  /-- Methods that are called on a value. -/
  | boundMethod
  /-- Slots that are called on a value. -/
  | boundSlot
  /-- Methods in a class. -/
  | method
  /-- Slots in a class. -/
  | slot
  /-- Methods that are called on a class. -/
  | classMethod
  /-- Attributes in a class. -/
  | attribute
  /-- Fields in a class. -/
  | field
  /-- Methods that are called on nothing. -/
  | shared
  /-- Series of values. -/
  | series
  /-- Tables of values by their names. -/
  | table
  /-- Views of tables. -/
  | view
  /-- Numbers. -/
  | number
  /-- The two truths. -/
  | truth
  /-- The value that stands for nothing. -/
  | nothing
  /-- Classes with an argument. -/
  | arguedClass
  deriving DecidableEq, Repr

/-- How the values of a class lie in memory. -/
structure Measures where
  /-- The size of a value. -/
  size : Nat
  /-- The size of each item of a value. -/
  itemSize : Nat
  /-- The flags of the class, as bits. -/
  flags : Nat
  /-- Where a value keeps what refers to it weakly; zero when it does not. -/
  referrers : Nat
  /-- Where a value keeps its own table; zero when it has none. -/
  ownTable : Nat
  deriving DecidableEq, Repr

namespace Class

/-- The name of a class. -/
def name : Class → String
  | .text => "str"
  | .object => "object"
  | .type => "type"
  | .boundMethod => "builtin_function_or_method"
  | .boundSlot => "method-wrapper"
  | .method => "method_descriptor"
  | .slot => "wrapper_descriptor"
  | .classMethod => "classmethod_descriptor"
  | .attribute => "getset_descriptor"
  | .field => "member_descriptor"
  | .shared => "staticmethod"
  | .series => "tuple"
  | .table => "dict"
  | .view => "mappingproxy"
  | .number => "int"
  | .truth => "bool"
  | .nothing => "NoneType"
  | .arguedClass => "GenericAlias"

/-- The module that a class belongs to. -/
def home : Class → String
  | .arguedClass => "types"
  | _ => "builtins"

/-- The name of a class as it stands in messages: with its module, unless that is the one of almost
all classes. -/
def fullName (c : Class) : String :=
  if c.home == "builtins" then c.name else c.home ++ "." ++ c.name

/-- The class with the classes that it is built on. -/
def line : Class → List Class
  | .object => [.object]
  | .truth => [.truth, .number, .object]
  | c => [c, .object]

/-- The members that a class lists. -/
def members : Class → List Member
  | .text => Member.ofText
  | .object => Member.ofObject
  | .type => Member.ofType
  | .boundMethod => Member.ofBoundMethod
  | .boundSlot => Member.ofBoundSlot
  | .method => Member.ofMethod
  | .slot => Member.ofSlot
  | .classMethod => Member.ofClassMethod
  | .attribute => Member.ofAttribute
  | .field => Member.ofField
  | .shared => Member.ofShared
  | .series => Member.ofSeries
  | .table => Member.ofTable
  | .view => Member.ofView
  | .number => Member.ofNumber
  | .truth => Member.ofTruth
  | .nothing => Member.ofNothing
  | .arguedClass => Member.ofArguedClass

/-- The parameters for making a value of a class, if they are told. -/
def signature? : Class → Option String
  | .object => some "()"
  | .series => some "(iterable=(), /)"
  | _ => none

/-- The explanation of the class of classes, which lists an attribute in the place of it. -/
def explanationOfType : List String :=
  ["type(object) -> the object's type", "type(name, bases, dict, **kwds) -> a new type"]

/-- The measures of a class. -/
def measures : Class → Measures
  | .text => ⟨80, 0, 273159424, 0, 0⟩
  | .object => ⟨16, 0, 529664, 0, 0⟩
  | .type => ⟨904, 40, 2148031744, 368, 264⟩
  | .boundMethod => ⟨56, 0, 547200, 40, 0⟩
  | .boundSlot => ⟨32, 0, 545152, 0, 0⟩
  | .method => ⟨56, 0, 678272, 0, 0⟩
  | .slot => ⟨56, 0, 676224, 0, 0⟩
  | .classMethod => ⟨56, 0, 545152, 0, 0⟩
  | .attribute => ⟨48, 0, 545152, 0, 0⟩
  | .field => ⟨48, 0, 545152, 0, 0⟩
  | .shared => ⟨32, 0, 546048, 0, 24⟩
  | .series => ⟨24, 8, 71849248, 0, 0⟩
  | .table => ⟨48, 0, 541611328, 0, 0⟩
  | .view => ⟨24, 0, 545088, 0, 0⟩
  | .number => ⟨24, 4, 21501184, 0, 0⟩
  | .truth => ⟨32, 4, 21500160, 0, 0⟩
  | .nothing => ⟨16, 0, 528640, 0, 0⟩
  | .arguedClass => ⟨64, 0, 548096, 40, 0⟩

/-- The member of a name in a class or in those that it is built on, with the class that lists
it. -/
def member? (c : Class) (name : String) : Option (Class × Member) :=
  c.line.findSome? fun owner => (Member.named? owner.members name).map (owner, ·)

/-- Whether a class takes an argument in square brackets. -/
def takesArgument (c : Class) : Bool := c = .type || (c.member? "__class_getitem__").isSome

end Class

end SourceOutline.Text.Template
