import SourceOutline.Text.Template.Member

/-!
# Members of members

Members are values as well, each kind with a class of its own. Here stand the members that these
classes list.
-/

namespace SourceOutline.Text.Template.Member

/-- The members of methods that are called on a value. -/
def ofBoundMethod : List Member :=
  slots ["__repr__", "__hash__", "__call__", "__getattribute__", "__lt__", "__le__", "__eq__",
    "__ne__", "__gt__", "__ge__"] ++ [
  ⟨"__reduce__", .method, none, []⟩] ++ untold .field ["__module__"] ++
  untold .attribute ["__doc__", "__name__", "__qualname__", "__self__", "__text_signature__"]

/-- The members of slots that are called on a value. -/
def ofBoundSlot : List Member :=
  slots ["__repr__", "__hash__", "__call__", "__getattribute__", "__lt__", "__le__", "__eq__",
    "__ne__", "__gt__", "__ge__"] ++ [
  ⟨"__reduce__", .method, none, []⟩] ++ untold .field ["__self__"] ++
  untold .attribute ["__objclass__", "__name__", "__qualname__", "__doc__", "__text_signature__"]

/-- The members of methods in a class. -/
def ofMethod : List Member :=
  slots ["__repr__", "__call__", "__getattribute__", "__get__"] ++ [
  ⟨"__reduce__", .method, none, []⟩] ++ untold .field ["__objclass__", "__name__"] ++
  untold .attribute ["__doc__", "__qualname__", "__text_signature__"]

/-- The members of slots in a class. -/
def ofSlot : List Member :=
  slots ["__repr__", "__call__", "__getattribute__", "__get__"] ++ [
  ⟨"__reduce__", .method, none, []⟩] ++ untold .field ["__objclass__", "__name__"] ++
  untold .attribute ["__doc__", "__qualname__", "__text_signature__"]

/-- The members of methods that are called on a class. -/
def ofClassMethod : List Member :=
  slots ["__repr__", "__call__", "__getattribute__", "__get__"] ++
  untold .field ["__objclass__", "__name__"] ++
  untold .attribute ["__doc__", "__qualname__", "__text_signature__"]

/-- The members of attributes in a class. -/
def ofAttribute : List Member :=
  slots ["__repr__", "__getattribute__", "__get__", "__set__", "__delete__"] ++
  untold .field ["__objclass__", "__name__"] ++ untold .attribute ["__doc__", "__qualname__"]

/-- The members of fields in a class. -/
def ofField : List Member :=
  slots ["__repr__", "__getattribute__", "__get__", "__set__", "__delete__"] ++ [
  ⟨"__reduce__", .method, none, []⟩] ++ untold .field ["__objclass__", "__name__"] ++
  untold .attribute ["__doc__", "__qualname__"]

/-- The members of methods that are called on nothing. -/
def ofShared : List Member :=
  [maker] ++ slots ["__repr__", "__call__", "__get__", "__init__"] ++
  untold .field ["__func__", "__wrapped__"] ++
  untold .attribute ["__isabstractmethod__", "__dict__"] ++ [
  ⟨"__doc__", .constant, none,
    ["staticmethod(function) -> method", "", "Convert a function to be a static method.", "",
      "A static method does not receive an implicit first argument.",
      "To declare a static method, use this idiom:", "", "     class C:", "         @staticmethod",
      "         def f(arg1, arg2, argN):", "             ...", "",
      "It can be called either on the class (e.g. C.f()) or on an instance",
      "(e.g. C().f()). Both the class and the instance are ignored, and",
      "neither is passed implicitly as the first argument to the method.", "",
      "Static methods in Python are similar to those found in Java or C++.",
      "For a more advanced concept, see the classmethod builtin."]⟩]

end SourceOutline.Text.Template.Member
