import SourceOutline.Signature.Callable

/-!
# Signatures of types

The signature of a class, a structure, an interface and the like is its head: its name and what it
is built on. As with functions, the parts are read in a fixed order and then written in the notation
of the dialect.
-/

namespace SourceOutline

/-- The texts that the signature of a type is made of. -/
structure TypeParts where
  /-- Modifiers, or the word for the visibility. -/
  qualifiers : Option String
  /-- The name. -/
  name : String
  /-- What the type is built on. -/
  bases : Option String

namespace Dialect

/-- The texts of nodes with commas between them. -/
def listed (source : Source) (nodes : List Node) : Except Fault (Option String) := do
  let texts ← source.nodeTexts nodes
  .ok (if texts.isEmpty then none else some (String.intercalate ", " texts))

/-- The children of a kind of identifier. -/
def identifiers (node : Node) : List Node :=
  node.children.filter fun child => ["identifier", "type_identifier"].contains child.kind

/-- The class that a Java class extends and the interfaces that it implements. -/
def javaBases (source : Source) (node : Node) : Except Fault (Option String) := do
  let super ← source.optionalText ((node.child? "superclass").bind (·.child? "type_identifier"))
  let interfaces ← listed source
    ((node.child? "super_interfaces").elim [] (·.childrenOf "type_identifier"))
  let clauses :=
    (super.map ("extends " ++ ·)).toList ++ (interfaces.map ("implements " ++ ·)).toList
  .ok (if clauses.isEmpty then none else some (String.intercalate " " clauses))

/-- What a type is built on. -/
def bases (d : Dialect) (source : Source) (node : Node) : Except Fault (Option String) :=
  match d with
  | .python => do
    let text ← source.optionalText (node.child? "argument_list")
    .ok (text.map Text.trimBrackets)
  | .typescript =>
    if node.kind == "interface_declaration" then
      listed source ((node.child? "extends_clause").elim [] identifiers)
    else
      source.optionalText (((node.child? "class_heritage").bind (·.child? "extends_clause")).bind
        (identifiers · |>.head?))
  | .java => javaBases source node
  | .javascript =>
    source.optionalText ((node.child? "class_heritage").bind fun heritage =>
      (heritage.childrenOf "extends_clause").findSome? (·.child? "identifier"))
  | .cpp =>
    listed source ((node.child? "base_class_clause").elim [] (·.childrenOf "type_identifier"))
  | .csharp => listed source ((node.child? "base_list").elim [] (·.childrenOf "identifier"))
  | .php => source.optionalText ((node.child? "base_clause").bind (·.child? "name"))
  | .ruby => source.optionalText ((node.child? "superclass").bind (·.child? "constant"))
  | .go | .rust | .c => .ok none

/-- Reads the parts of a type. -/
def readType (d : Dialect) (source : Source) (node : Node) : Except Fault TypeParts := do
  let qualifiers ← d.qualifiers source node
  let name ← source.textOr d.unnamedType (d.typeNameNode? node)
  let bases ← d.bases source node
  .ok { qualifiers, name, bases := shown bases }

/-- The word that introduces a type of which the node has kind `kind`. -/
def typeWord (d : Dialect) (kind : String) : String :=
  match d, kind with
  | .typescript, "interface_declaration" => "interface"
  | .rust, "struct_item" => "struct"
  | .rust, "trait_item" => "trait"
  | .rust, "impl_item" => "impl"
  | .rust, _ => "type"
  | .c, "struct_specifier" => "struct"
  | .c, "union_specifier" => "union"
  | .c, "enum_specifier" => "enum"
  | .c, _ => "type"
  | .cpp, "class_specifier" => "class"
  | .cpp, "struct_specifier" => "struct"
  | .cpp, "enum_specifier" => "enum"
  | .cpp, _ => "type"
  | .csharp, "class_declaration" => "class"
  | .csharp, "interface_declaration" => "interface"
  | .csharp, "struct_declaration" => "struct"
  | .csharp, _ => ""
  | .php, "interface_declaration" => "interface"
  | .php, "trait_declaration" => "trait"
  | .ruby, "module" => "module"
  | _, _ => "class"

/-- Whether the head of a type shows what it is built on. -/
def showsBases (d : Dialect) (kind : String) : Bool :=
  match d with
  | .cpp => kind == "class_specifier" || kind == "struct_specifier"
  | .php => kind == "class_declaration"
  | .ruby => kind == "class"
  | _ => true

/-- Writes a type of which the node has kind `kind`. -/
def writeType (d : Dialect) (kind : String) (p : TypeParts) : String :=
  let word := d.typeWord kind
  let head := around "" " " p.qualifiers ++ around "" " " (shown (some word)) ++ p.name
  let bases := if d.showsBases kind then p.bases else none
  match d with
  | .python => head ++ around "(" ")" bases
  | .java => head ++ around " " "" bases
  | .cpp | .csharp => head ++ around " : " "" bases
  | .ruby => head ++ around " < " "" bases
  | _ => head ++ around " extends " "" bases

/-- The signature of a type in Go, whose declaration holds the type in a part of its own. -/
def goType (source : Source) (node : Node) : Except Fault String :=
  match node.child? "type_spec" with
  | none => .ok "type <unknown>"
  | some spec =>
    match Dialect.go.typeNameNode? spec with
    | none => .error .noTypeName
    | some name => (source.nodeText name).map fun name => "type " ++ name ++ " interface"

/-- The signature of a type. -/
def typeHead (d : Dialect) (source : Source) (node : Node) : Except Fault String :=
  match d with
  | .go => goType source node
  | _ => (d.readType source node).map (d.writeType node.kind)

end Dialect

end SourceOutline
