import SourceOutline.Node

/-!
# Dialects

A dialect is a language whose declarations are shown in its own notation. This module says which
nodes of a declaration matter in each dialect: the node of the name, of the parameters and so on.
The words for kinds of nodes are those of the languages' grammars.
-/

namespace SourceOutline

/-- The languages whose declarations are shown in their own notation. -/
inductive Dialect where
  /-- Python. -/
  | python
  /-- TypeScript. -/
  | typescript
  /-- Java. -/
  | java
  /-- Go. -/
  | go
  /-- JavaScript. -/
  | javascript
  /-- Rust. -/
  | rust
  /-- C. -/
  | c
  /-- C++. -/
  | cpp
  /-- C#. -/
  | csharp
  /-- PHP. -/
  | php
  /-- Ruby. -/
  | ruby
  deriving DecidableEq, Repr

namespace Dialect

/-- All dialects, in the order in which they are listed. -/
def all : List Dialect :=
  [.python, .typescript, .java, .go, .javascript, .rust, .c, .cpp, .csharp, .php, .ruby]

/-- The name of the language. -/
def language : Dialect → String
  | .python => "python"
  | .typescript => "typescript"
  | .java => "java"
  | .go => "go"
  | .javascript => "javascript"
  | .rust => "rust"
  | .c => "c"
  | .cpp => "cpp"
  | .csharp => "csharp"
  | .php => "php"
  | .ruby => "ruby"

/-! ## Functions -/

/-- The kinds of nodes that name a function, the preferred kind first. -/
def callableNameKinds : Dialect → List String
  | .typescript | .javascript => ["identifier", "property_identifier"]
  | .php => ["name"]
  | .ruby => ["identifier", "constant"]
  | _ => ["identifier"]

/-- The part of a definition that declares the function, in the dialects that have one. -/
def declarator? (node : Node) : Option Node := node.child? "function_declarator"

/-- The node that names a function. In C and C++ a definition is named in its declarator. -/
def callableNameNode? (d : Dialect) (node : Node) : Option Node :=
  match d with
  | .c | .cpp =>
    let declared := if node.kind == "function_definition"
      then (declarator? node).bind (·.child? "identifier") else none
    declared <|> node.child? "identifier"
  | _ => node.childByRank? d.callableNameKinds

/-- What is shown for a function without a name. -/
def unnamedCallable : Dialect → String
  | .java | .csharp | .ruby => "unknown_method"
  | .go => "unknown_func"
  | .javascript => "anonymous"
  | _ => "unknown_function"

/-- The node of a function's parameters. -/
def parametersNode? (d : Dialect) (node : Node) : Option Node :=
  match d with
  | .python | .rust => node.child? "parameters"
  | .typescript | .java | .javascript | .php => node.child? "formal_parameters"
  | .go => node.inRole? "parameters"
  | .c | .cpp => (declarator? node).bind (·.child? "parameter_list")
  | .csharp => node.child? "parameter_list"
  | .ruby => node.child? "method_parameters"

/-- The node that names an arrow function: the one that it is assigned to. -/
def arrowNameNode? (site : Site) : Option Node :=
  match site.holder with
  | some holder =>
    if ["assignment_expression", "variable_declarator"].contains holder.kind then
      holder.child? "identifier"
    else none
  | none => none

/-- The node of the parameter that a method is called on. -/
def receiverNode? (d : Dialect) (node : Node) : Option Node :=
  match d with
  | .go => (node.inRole? "receiver").bind (·.child? "parameter_declaration")
  | _ => none

/-! ## Types -/

/-- The kinds of nodes that name a type, the preferred kind first. -/
def typeNameKinds : Dialect → List String
  | .typescript | .rust => ["type_identifier", "identifier"]
  | .go | .c | .cpp => ["type_identifier"]
  | .php => ["name"]
  | .ruby => ["constant", "identifier"]
  | _ => ["identifier"]

/-- The node that names a type. -/
def typeNameNode? (d : Dialect) (node : Node) : Option Node := node.childByRank? d.typeNameKinds

/-- What is shown for a type without a name. -/
def unnamedType : Dialect → String
  | .rust | .ruby => "unknown"
  | .c => "anonymous"
  | _ => "unknown_class"

end Dialect

end SourceOutline
