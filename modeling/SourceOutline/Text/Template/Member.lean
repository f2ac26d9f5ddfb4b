/-!
# Members

A field of a template can go on from a value to what the class of the value lists: operations, which
can be called, and attributes, which tell something of the value. Both are members of the class. A
member can itself be asked for its name, its signature and its explanation.
-/

namespace SourceOutline.Text.Template

/-- How a member belongs to a class. -/
inductive Attachment where
  /-- An operation that is part of how values of the class behave, such as their comparison. -/
  | slot
  /-- An operation that is called on a value of the class. -/
  | method
  /-- An operation that is called on the class of a value. -/
  | ofClass
  /-- The operation that makes a value of the class. -/
  | maker
  /-- An operation that is called on nothing. -/
  | alone
  /-- Something that is worked out from a value of the class. -/
  | attribute
  /-- Something that a value of the class holds. -/
  | field
  /-- A text that is the same for all values of the class, or nothing. -/
  | constant
  deriving DecidableEq, Repr

/-- What a class lists. -/
structure Member where
  /-- Its name. -/
  name : String
  /-- How it belongs to the class. -/
  attachment : Attachment
  /-- Its parameters, if they are told. -/
  signature : Option String
  /-- The lines of its explanation; none when it is not explained. A constant has its own lines
  here. -/
  explanation : List String
  deriving DecidableEq, Repr

namespace Member

/-- Whether the member tells something of a value; all others are for calling or are constants. -/
def tells (m : Member) : Bool := m.attachment = .attribute || m.attachment = .field

/-- The operation that makes a value. -/
def maker : Member :=
  ⟨"__new__", .maker, some "($type, *args, **kwargs)",
    ["Create and return a new object.  See help(type) for accurate signature."]⟩

/-- Members that are not explained. -/
def untold (attachment : Attachment) (names : List String) : List Member :=
  names.map fun name => ⟨name, attachment, none, []⟩

/-- The member of a name. -/
def named? (members : List Member) (name : String) : Option Member :=
  members.find? (·.name == name)

/-- All slots that a class can have. A slot means the same in every class. -/
def allSlots : List Member := [
  ⟨"__abs__", .slot, some "($self, /)", ["abs(self)"]⟩,
  ⟨"__add__", .slot, some "($self, value, /)", ["Return self+value."]⟩,
  ⟨"__and__", .slot, some "($self, value, /)", ["Return self&value."]⟩,
  ⟨"__bool__", .slot, some "($self, /)", ["True if self else False"]⟩,
  ⟨"__call__", .slot, some "($self, /, *args, **kwargs)", ["Call self as a function."]⟩,
  ⟨"__contains__", .slot, some "($self, key, /)", ["Return key in self."]⟩,
  ⟨"__delattr__", .slot, some "($self, name, /)", ["Implement delattr(self, name)."]⟩,
  ⟨"__delete__", .slot, some "($self, instance, /)", ["Delete an attribute of instance."]⟩,
  ⟨"__delitem__", .slot, some "($self, key, /)", ["Delete self[key]."]⟩,
  ⟨"__divmod__", .slot, some "($self, value, /)", ["Return divmod(self, value)."]⟩,
  ⟨"__eq__", .slot, some "($self, value, /)", ["Return self==value."]⟩,
  ⟨"__float__", .slot, some "($self, /)", ["float(self)"]⟩,
  ⟨"__floordiv__", .slot, some "($self, value, /)", ["Return self//value."]⟩,
  ⟨"__ge__", .slot, some "($self, value, /)", ["Return self>=value."]⟩,
  ⟨"__get__", .slot, some "($self, instance, owner=None, /)",
    ["Return an attribute of instance, which is of type owner."]⟩,
  ⟨"__getattribute__", .slot, some "($self, name, /)", ["Return getattr(self, name)."]⟩,
  ⟨"__getitem__", .slot, some "($self, key, /)", ["Return self[key]."]⟩,
  ⟨"__gt__", .slot, some "($self, value, /)", ["Return self>value."]⟩,
  ⟨"__hash__", .slot, some "($self, /)", ["Return hash(self)."]⟩,
  ⟨"__index__", .slot, some "($self, /)",
    ["Return self converted to an integer, if self is suitable for use as an index into a list."]⟩,
  ⟨"__init__", .slot, some "($self, /, *args, **kwargs)",
    ["Initialize self.  See help(type(self)) for accurate signature."]⟩,
  ⟨"__int__", .slot, some "($self, /)", ["int(self)"]⟩,
  ⟨"__invert__", .slot, some "($self, /)", ["~self"]⟩,
  ⟨"__ior__", .slot, some "($self, value, /)", ["Return self|=value."]⟩,
  ⟨"__iter__", .slot, some "($self, /)", ["Implement iter(self)."]⟩,
  ⟨"__le__", .slot, some "($self, value, /)", ["Return self<=value."]⟩,
  ⟨"__len__", .slot, some "($self, /)", ["Return len(self)."]⟩,
  ⟨"__lshift__", .slot, some "($self, value, /)", ["Return self<<value."]⟩,
  ⟨"__lt__", .slot, some "($self, value, /)", ["Return self<value."]⟩,
  ⟨"__mod__", .slot, some "($self, value, /)", ["Return self%value."]⟩,
  ⟨"__mul__", .slot, some "($self, value, /)", ["Return self*value."]⟩,
  ⟨"__ne__", .slot, some "($self, value, /)", ["Return self!=value."]⟩,
  ⟨"__neg__", .slot, some "($self, /)", ["-self"]⟩,
  ⟨"__or__", .slot, some "($self, value, /)", ["Return self|value."]⟩,
  ⟨"__pos__", .slot, some "($self, /)", ["+self"]⟩,
  ⟨"__pow__", .slot, some "($self, value, mod=None, /)", ["Return pow(self, value, mod)."]⟩,
  ⟨"__radd__", .slot, some "($self, value, /)", ["Return value+self."]⟩,
  ⟨"__rand__", .slot, some "($self, value, /)", ["Return value&self."]⟩,
  ⟨"__rdivmod__", .slot, some "($self, value, /)", ["Return divmod(value, self)."]⟩,
  ⟨"__repr__", .slot, some "($self, /)", ["Return repr(self)."]⟩,
  ⟨"__rfloordiv__", .slot, some "($self, value, /)", ["Return value//self."]⟩,
  ⟨"__rlshift__", .slot, some "($self, value, /)", ["Return value<<self."]⟩,
  ⟨"__rmod__", .slot, some "($self, value, /)", ["Return value%self."]⟩,
  ⟨"__rmul__", .slot, some "($self, value, /)", ["Return value*self."]⟩,
  ⟨"__ror__", .slot, some "($self, value, /)", ["Return value|self."]⟩,
  ⟨"__rpow__", .slot, some "($self, value, mod=None, /)", ["Return pow(value, self, mod)."]⟩,
  ⟨"__rrshift__", .slot, some "($self, value, /)", ["Return value>>self."]⟩,
  ⟨"__rshift__", .slot, some "($self, value, /)", ["Return self>>value."]⟩,
  ⟨"__rsub__", .slot, some "($self, value, /)", ["Return value-self."]⟩,
  ⟨"__rtruediv__", .slot, some "($self, value, /)", ["Return value/self."]⟩,
  ⟨"__rxor__", .slot, some "($self, value, /)", ["Return value^self."]⟩,
  ⟨"__set__", .slot, some "($self, instance, value, /)",
    ["Set an attribute of instance to value."]⟩,
  ⟨"__setattr__", .slot, some "($self, name, value, /)", ["Implement setattr(self, name, value)."]⟩,
  ⟨"__setitem__", .slot, some "($self, key, value, /)", ["Set self[key] to value."]⟩,
  ⟨"__str__", .slot, some "($self, /)", ["Return str(self)."]⟩,
  ⟨"__sub__", .slot, some "($self, value, /)", ["Return self-value."]⟩,
  ⟨"__truediv__", .slot, some "($self, value, /)", ["Return self/value."]⟩,
  ⟨"__xor__", .slot, some "($self, value, /)", ["Return self^value."]⟩]

/-- The slots of the given names. -/
def slots (names : List String) : List Member := names.filterMap (named? allSlots)

end Member

end SourceOutline.Text.Template
