import SourceOutline.Signature.Dialect
import SourceOutline.Source

/-!
# Signatures of functions

The signature of a function is put together from the texts of its parts. The parts are read in a
fixed order, which decides about the fault when several of them cannot be read, and then written in
the notation of the dialect.
-/

namespace SourceOutline

/-- The texts that the signature of a function is made of. -/
structure CallableParts where
  /-- Modifiers, or the word for the visibility. -/
  qualifiers : Option String
  /-- The parameter that a method is called on. -/
  receiver : Option String
  /-- The name. -/
  name : String
  /-- The parameters without their brackets. -/
  parameters : String
  /-- The type of the result. -/
  result : Option String

/-- An optional text, an empty text being as good as none. -/
def shown : Option String → Option String
  | some "" => none
  | s => s

namespace Dialect

/-- The words for a visibility. -/
def visibilityWords : List String := ["public", "private", "protected", "internal"]

/-- The first of the nodes whose text is a word for a visibility. -/
def firstVisibility (source : Source) : List Node → Except Fault (Option String)
  | [] => .ok none
  | node :: rest => do
    let word ← source.nodeText node
    if visibilityWords.contains word then .ok (some word) else firstVisibility source rest

/-- The modifiers of a declaration, or its visibility, in the dialects that show them. -/
def qualifiers (d : Dialect) (source : Source) (node : Node) : Except Fault (Option String) :=
  match d, node.child? "modifiers" with
  | .java, some modifiers => do
    let words ← source.nodeTexts modifiers.children
    .ok (shown (some (String.intercalate " " words)))
  | .csharp, some modifiers => firstVisibility source modifiers.children
  | _, _ => .ok none

/-- The receiver of a method. -/
def receiver (d : Dialect) (source : Source) (node : Node) : Except Fault (Option String) := do
  let text ← source.optionalText (d.receiverNode? node)
  .ok (shown (text.map Text.trim))

/-- The name of a function. An arrow function is named by what it is assigned to, and its own name
is read first all the same. -/
def callableName (d : Dialect) (source : Source) (node : Node) : Except Fault String :=
  source.textOr d.unnamedCallable (d.callableNameNode? node)

/-- The parameters of a function without their brackets. -/
def parameters (d : Dialect) (source : Source) (node : Node) : Except Fault String := do
  .ok (Text.trimBrackets (← source.textOr "" (d.parametersNode? node)))

/-- The node after the first arrow among some nodes. -/
def afterArrow (source : Source) : List Node → Except Fault (Option Node)
  | [] => .ok none
  | node :: rest => do
    let text ← source.nodeText node
    match rest with
    | next :: _ => if Text.trim text == "->" then .ok (some next) else afterArrow source rest
    | [] => .ok none

/-- The node of a function's result type. -/
def resultNode (d : Dialect) (source : Source) (node : Node) : Except Fault (Option Node) :=
  match d with
  | .python => .ok (node.child? "type")
  | .typescript =>
    .ok ((node.child? "type_annotation").bind fun a => a.children.find? (·.kind != ":"))
  | .java =>
    .ok (node.childAmong? ["type_identifier", "primitive_type", "generic_type", "array_type"])
  | .go => .ok (node.inRole? "result")
  | .rust => afterArrow source node.children
  | .c | .cpp =>
    if node.kind == "function_definition" then
      .ok (node.children.head?.filter (·.kind != "function_declarator"))
    else .ok none
  | .csharp => .ok (node.childAmong? ["predefined_type", "identifier", "generic_name"])
  | .javascript | .php | .ruby => .ok none

/-- The type of a function's result. -/
def result (d : Dialect) (source : Source) (node : Node) : Except Fault (Option String) := do
  let text ← source.optionalText (← d.resultNode source node)
  .ok (shown (if d = .go then text.map Text.trim else text))

/-- Reads the parts of a function. The result comes before the name in Java only. -/
def readCallable (d : Dialect) (source : Source) (site : Site) : Except Fault CallableParts := do
  let node := site.node
  match d with
  | .java =>
    let qualifiers ← d.qualifiers source node
    let result ← d.result source node
    let name ← d.callableName source node
    let parameters ← d.parameters source node
    .ok { qualifiers, receiver := none, name, parameters, result }
  | .javascript =>
    let name ← d.callableName source node
    let parameters ← d.parameters source node
    let name ← if node.kind == "arrow_function"
      then source.textOr d.unnamedCallable (arrowNameNode? site) else .ok name
    .ok { qualifiers := none, receiver := none, name, parameters, result := none }
  | _ =>
    let qualifiers ← d.qualifiers source node
    let receiver ← d.receiver source node
    let name ← d.callableName source node
    let parameters ← d.parameters source node
    let result ← d.result source node
    .ok { qualifiers, receiver, name, parameters, result }

/-- An optional text between two others; nothing when it is missing. -/
def around (before after : String) : Option String → String
  | some s => before ++ s ++ after
  | none => ""

/-- Writes a function of which the node has kind `kind`. -/
def writeCallable (d : Dialect) (kind : String) (p : CallableParts) : String :=
  let call := p.name ++ "(" ++ p.parameters ++ ")"
  match d with
  | .python => "def " ++ call ++ around " -> " "" p.result
  | .typescript =>
    (if kind == "method_definition" then "" else "function ") ++ call ++ around ": " "" p.result
  | .java | .csharp => around "" " " p.qualifiers ++ around "" " " p.result ++ call
  | .go =>
    Text.trimEnd ("func " ++ around "(" ") " p.receiver ++ call ++ " " ++ p.result.getD "")
  | .javascript =>
    if kind == "method_definition" then call
    else if kind == "arrow_function" then p.name ++ " = (" ++ p.parameters ++ ") => \x7b\x7d"
    else "function " ++ call
  | .rust => "fn " ++ call ++ around " -> " "" p.result
  | .c | .cpp => around "" " " p.result ++ call
  | .php => "function " ++ call
  | .ruby => "def " ++ if p.parameters.isEmpty then p.name else call

/-- The signature of a function. -/
def callable (d : Dialect) (source : Source) (site : Site) : Except Fault String :=
  (d.readCallable source site).map (d.writeCallable site.node.kind)

end Dialect

end SourceOutline
