import SourceOutline.Catalogue.Basic
import SourceOutline.Notice
import SourceOutline.Signature.Extractor
import SourceOutline.Symbol

/-!
# Symbols of a syntax tree

The syntax tree of a source is walked from the root. A node whose kind declares a type or a function
becomes a symbol when it has a name, and what is declared below it belongs to that symbol. A
declaration without a name is left out with everything below it. All other nodes are passed through.
A function is a method when a type declaration stands around it.

A signature that cannot be had is replaced by a plain one, and the user is told.
-/

namespace SourceOutline

/-- What is needed to find the symbols of a source text. -/
structure Grammar where
  /-- The name of the language. -/
  language : String
  /-- Its entry in the catalogue, if it has one. -/
  entry : Option LanguageEntry
  /-- The extractor of signatures. -/
  extractor : Extractor
  /-- The source text. -/
  text : String

namespace Grammar

/-- The first of some nodes whose kind names declarations. -/
def nameNode (entry : Option LanguageEntry) : List Node → Except Fault (Option Node)
  | [] => .ok none
  | node :: rest =>
    match entry with
    | none => .error .unlistedLanguage
    | some e => do
      if ← e.nameNodes.holds node.kind then .ok (some node) else nameNode entry rest

/-- The name of a declaration: the characters of the source text from the start to the end of the
name node. A declaration without a name node, or with an empty one, has no name. -/
def nameOf (g : Grammar) (node : Node) : Except Fault (Option String) := do
  match ← nameNode g.entry node.children with
  | none => .ok none
  | some child =>
    let name := Text.slice g.text child.start child.stop
    .ok (if name.isEmpty then none else some name)

/-- The symbol of a declaration, as yet without children. -/
def symbolAt (g : Grammar) (node : Node) (kind : SymbolKind) (name signature : String) :
    Symbol where
  name := name
  kind := kind
  line := node.row + 1
  signature := some signature
  language := some g.language
  children := []

/-- The template for what is declared. -/
def template (g : Grammar) (declared : String) : Except Fault Json :=
  match g.entry with
  | none => .error .unlistedLanguage
  | some e => e.template declared

/-- The signature of a type, and what to tell the user when it cannot be had. -/
def typeSignature (g : Grammar) (site : Site) (declared warning name : String) : Noting String :=
  match g.template declared >>= g.extractor.typeHead (.text g.text) site with
  | .ok signature => pure signature
  | .error fault => do
    Noting.say (warning ++ "Signature extraction failed for " ++ declared ++ " " ++ name ++ ": " ++
      fault.message)
    pure (declared ++ " " ++ name)

/-- The symbol of a class or of a type like one. -/
def classSymbol (g : Grammar) (site : Site) : Noting (Option Symbol) := do
  match ← Noting.ofExcept (g.nameOf site.node) with
  | none => pure none
  | some name =>
    let signature ← g.typeSignature site "class" "WARNING: " name
    pure (some (g.symbolAt site.node .classType name signature))

/-- The symbol of an interface. -/
def interfaceSymbol (g : Grammar) (site : Site) : Noting (Option Symbol) := do
  match ← Noting.ofExcept (g.nameOf site.node) with
  | none => pure none
  | some name =>
    let signature ← g.typeSignature site "interface" "⚠️ " name
    pure (some (g.symbolAt site.node .interface name signature))

/-- The plain signature of a function. -/
def plainCallable (language name : String) : String :=
  (if language == "python" then "def " else "") ++ name ++ "(...)"

/-- The symbol of a function, which is a method inside a class. -/
def functionSymbol (g : Grammar) (site : Site) (insideClass : Bool) : Noting (Option Symbol) := do
  match ← Noting.ofExcept (g.nameOf site.node) with
  | none => pure none
  | some name =>
    let declared := if insideClass then "method" else "function"
    let kind := if insideClass then SymbolKind.method else SymbolKind.function
    let template ← Noting.ofExcept (g.template declared)
    match g.extractor.callable (.text g.text) site template with
    | .ok signature => pure (some (g.symbolAt site.node kind name signature))
    | .error fault =>
      Noting.say ("⚠️ Signature extraction failed for " ++ declared ++ " " ++ name ++ ": " ++
        fault.message)
      pure (some (g.symbolAt site.node kind name (plainCallable g.language name)))

/-- What a node means for the walk. -/
inductive Role where
  /-- It declares a type. -/
  | type
  /-- It declares a function. -/
  | function
  /-- It declares nothing. -/
  | other
  deriving DecidableEq, Repr

/-- The role of a node by its kind. A kind that declares types and functions declares types. -/
def role (entry : LanguageEntry) (kind : String) : Except Fault Role := do
  if ← entry.classNodes.holds kind then .ok .type
  else if ← entry.functionNodes.holds kind then .ok .function
  else .ok .other

mutual

/-- The symbols of a node and of the nodes below it. -/
def walk (g : Grammar) (entry : LanguageEntry) (holder : Option Node) (insideClass : Bool)
    (node : Node) : Noting (List Symbol) :=
  match node with
  | ⟨kind, start, stop, row, children, roles⟩ => do
    let site : Site := ⟨⟨kind, start, stop, row, children, roles⟩, holder⟩
    match ← Noting.ofExcept (role entry kind) with
    | .type =>
      match ← g.classSymbol site with
      | none => pure []
      | some symbol =>
        let inner ← walkAll g entry site.node true children
        pure [{ symbol with children := inner }]
    | .function =>
      match ← g.functionSymbol site insideClass with
      | none => pure []
      | some symbol =>
        let inner ← walkAll g entry site.node insideClass children
        pure [{ symbol with children := inner }]
    | .other => walkAll g entry site.node insideClass children

/-- The symbols of some nodes, all held by `holder`, and of the nodes below them. -/
def walkAll (g : Grammar) (entry : LanguageEntry) (holder : Node) (insideClass : Bool) :
    List Node → Noting (List Symbol)
  | [] => pure []
  | node :: rest => do
    let first ← walk g entry (some holder) insideClass node
    let more ← walkAll g entry holder insideClass rest
    pure (first ++ more)

end

/-- The symbols of a syntax tree. -/
def symbols (g : Grammar) (entry : LanguageEntry) (tree : Node) : Noting (List Symbol) :=
  g.walk entry none false tree

end Grammar

end SourceOutline
