import SourceOutline.Signature.TypeHead
import SourceOutline.Text.Search

/-!
# Signature extractors

An extractor gives the signature of a declaration. The dialects have extractors of their own; for
all other languages the basic extractor looks for something that may be a name and fills the
template of the catalogue. A registry says which extractor a language has.
-/

namespace SourceOutline

/-- A way to get signatures. It is given the source, the place of the declaration and the template
for it. -/
structure Extractor where
  /-- The kind of extractor that it is. -/
  kind : String
  /-- Whether it says which language it is for. -/
  namesLanguage : Bool
  /-- The signature of a function or method. -/
  callable : Source → Site → Json → Except Fault String
  /-- The signature of a type. -/
  typeHead : Source → Site → Json → Except Fault String

namespace Extractor

/-- Whether an extractor is of a kind. -/
def isOf (e : Extractor) (kind : String) : Bool := e.kind == kind

/-- The extractor that writes in the notation of a dialect and needs no template. -/
def dialect (d : Dialect) : Extractor where
  kind := d.language
  namesLanguage := false
  callable source site _ := d.callable source site
  typeHead source site _ := d.typeHead source site.node

/-- The node that may be the name of a declaration: the first child whose kind mentions an
identifier, and otherwise the first that is a name. -/
def basicNameNode? (node : Node) : Option Node :=
  (node.children.find? fun child => Text.contains child.kind "identifier") <|>
    node.childAmong? ["identifier", "type_identifier", "name"]

/-- The name of a declaration. -/
def basicName (source : Source) (node : Node) : Except Fault String :=
  source.textOr "unknown" (basicNameNode? node)

/-- Fills a template, which has to be a text. -/
def fill (template : Json) (values : Text.Template.Values) : Except Fault String :=
  match template with
  | .text template => (Text.Template.render template values).mapError .template
  | other => .error (.misuse (.operation other.kindName "format"))

/-- The extractor that fills templates. It is made for a language and says which one. -/
def basic : Extractor where
  kind := "basic"
  namesLanguage := true
  callable source site template := do
    let name ← basicName source site.node
    fill template [("name", name), ("params", "..."), ("return_type", ""), ("visibility", "")]
  typeHead source site template := do
    let name ← basicName source site.node
    fill template [("name", name), ("visibility", "")]

end Extractor

/-- The extractors of languages, in the order in which the languages were registered. -/
abbrev Registry := List (String × Extractor)

namespace Registry

/-- The registry with all dialects. -/
def initial : Registry := Dialect.all.map fun d => (d.language, .dialect d)

/-- The extractor of a language; the basic one when none is registered. -/
def extractor (r : Registry) (language : String) : Extractor :=
  (List.lookup language r).getD .basic

/-- Gives a language an extractor; a language that has one keeps its place. -/
def register (language : String) (e : Extractor) : Registry → Registry
  | [] => [(language, e)]
  | (other, f) :: rest =>
    if other == language then (other, e) :: rest else (other, f) :: register language e rest

/-- A registered extractor is the one of its language; the others stay. -/
theorem extractor_register (language other : String) (e : Extractor) (r : Registry) :
    extractor (register language e r) other =
      if other = language then e else extractor r other := by
  have beq_false {a b : String} (h : ¬a = b) : (a == b) = false := beq_eq_false_iff_ne.2 h
  induction r with
  | nil =>
    by_cases h : other = language
    · simp [register, extractor, h]
    · simp [register, extractor, List.lookup_cons, h, beq_false h]
  | cons first rest ih =>
    obtain ⟨name, f⟩ := first
    simp only [extractor] at ih ⊢
    by_cases hn : name = language
    · by_cases h : other = language
      · simp [register, hn, h]
      · simp [register, List.lookup_cons, hn, h, beq_false h]
    · by_cases h : other = name
      · simp [register, hn, h]
      · simp [register, List.lookup_cons, hn, beq_false h, ih]

/-- The languages with a registered extractor. -/
def languages (r : Registry) : List String := r.map (·.1)

end Registry

end SourceOutline
