/-!
# Parsed source

A parser turns a source text into a tree of nodes. A node says what kind of construct it is, which
bytes of the source it covers and on which row it starts. Some of its children have a role, such as
`parameters`, by which they can be asked for.
-/

namespace SourceOutline

/-- A node of a parsed source text. -/
structure Node where
  /-- The kind of construct, in the words of the grammar. -/
  kind : String
  /-- The number of bytes before the node. -/
  start : Nat
  /-- The number of bytes before the end of the node. -/
  stop : Nat
  /-- The number of lines before the one on which the node starts. -/
  row : Nat
  /-- The parts of the construct, in their order. -/
  children : List Node
  /-- The roles of children, each with the child's position. -/
  roles : List (String × Nat)
  deriving Inhabited

namespace Node

/-- The first child of a kind. -/
def child? (node : Node) (kind : String) : Option Node :=
  node.children.find? (·.kind == kind)

/-- All children of a kind. -/
def childrenOf (node : Node) (kind : String) : List Node :=
  node.children.filter (·.kind == kind)

/-- The first child whose kind is one of `kinds`. -/
def childAmong? (node : Node) (kinds : List String) : Option Node :=
  node.children.find? fun child => kinds.contains child.kind

/-- A child of the first of the kinds that any child has. -/
def childByRank? (node : Node) (kinds : List String) : Option Node :=
  kinds.findSome? node.child?

/-- The child in a role. -/
def inRole? (node : Node) (role : String) : Option Node :=
  (node.roles.lookup role).bind (node.children[·]?)

/-- What a parser gives for a source text that it has no tree for. -/
def unparsed : Node := ⟨"ERROR", 0, 0, 0, [], []⟩

end Node

/-- A node in its place: the node and the one that holds it. -/
structure Site where
  /-- The node itself. -/
  node : Node
  /-- The node that has it as a child; nothing for the root of a tree. -/
  holder : Option Node

/-- A node that no other node holds. -/
def Site.ofRoot (node : Node) : Site := ⟨node, none⟩

end SourceOutline
