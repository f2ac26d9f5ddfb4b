import SourceOutline.Proofs.Ascii
import SourceOutline.Proofs.Declarations

/-!
# The name of a symbol and the name in its signature

A symbol has a name, and its signature shows a name. The two are looked up in different ways. The
name of the symbol is the first child whose kind names declarations in the catalogue. The extractor
of a dialect ranks kinds of children, or looks into a part of the declaration, or at the node around
it.

Where the extractor ranks children, it chooses the same one exactly when this child's kind is ranked
and there is no child of a better kind (`Node.childByRank?_eq_some_iff_prefers`). In some dialects
and for some kinds of declarations this is always so (`Dialect.steady`). In all others there are
trees for which the symbol and its signature name different things.
-/

namespace SourceOutline

/-! ## Children by kind and by rank -/

namespace Node

variable {node child : Node} {kinds : List String}

/-- The first child among some kinds is the first child of its own kind. -/
theorem child?_kind_of_childAmong? (h : node.childAmong? kinds = some child) :
    child.kind ∈ kinds ∧ node.child? child.kind = some child := by
  obtain ⟨hkind, before, after, hchildren, hbefore⟩ := List.find?_eq_some_iff_append.1 h
  have hmem : child.kind ∈ kinds := List.contains_iff_mem.1 hkind
  refine ⟨hmem, List.find?_eq_some_iff_append.2 ⟨beq_self_eq_true _, before, after, hchildren, ?_⟩⟩
  intro other hother
  have hnot : ¬other.kind ∈ kinds := by simpa using hbefore other hother
  have hne : other.kind ≠ child.kind := fun heq => hnot (heq ▸ hmem)
  simpa using hne

/-- The kind of a child is ranked, and no child is of a better kind. -/
def Prefers (node : Node) (ranks : List String) (child : Node) : Prop :=
  ∃ better worse, ranks = better ++ child.kind :: worse ∧ ∀ kind ∈ better, node.child? kind = none

/-- A child that is the first among some kinds is chosen by rank exactly when it is preferred. -/
theorem childByRank?_eq_some_iff_prefers {ranks : List String}
    (h : node.childAmong? kinds = some child) :
    node.childByRank? ranks = some child ↔ node.Prefers ranks child := by
  obtain ⟨-, hchild⟩ := child?_kind_of_childAmong? h
  rw [childByRank?, List.findSome?_eq_some_iff]
  constructor
  · rintro ⟨better, kind, worse, hranks, hkind, hbetter⟩
    have heq : child.kind = kind := by simpa using List.find?_some hkind
    exact ⟨better, worse, heq ▸ hranks, hbetter⟩
  · rintro ⟨better, worse, hranks, hbetter⟩
    exact ⟨better, child.kind, worse, hranks, hchild, hbetter⟩

end Node

/-- The texts in a list. -/
def Json.words : Json → List String
  | .list items => items.filterMap fun
    | .text word => some word
    | _ => none
  | _ => []

/-- What can be declared. -/
inductive Declared where
  /-- A function or a method. -/
  | callable
  /-- A type. -/
  | type
  deriving DecidableEq, Repr

/-- All that can be declared. -/
def Declared.all : List Declared := [.callable, .type]

/-- The role of a node that declares it. -/
def Declared.role : Declared → Grammar.Role
  | .callable => .function
  | .type => .type

theorem Declared.mem_all (declared : Declared) : declared ∈ Declared.all := by
  cases declared <;> decide

namespace Dialect

theorem mem_all (d : Dialect) : d ∈ Dialect.all := by
  cases d <;> decide

variable {d : Dialect} {declared : Declared} {text name : String} {site : Site}

/-! ## How a dialect is read with the standard catalogue -/

/-- The entry of a dialect in the standard catalogue. -/
def entry : Dialect → LanguageEntry
  | .python => Catalogue.Standard.python
  | .typescript => Catalogue.Standard.typescript
  | .java => Catalogue.Standard.java
  | .go => Catalogue.Standard.go
  | .javascript => Catalogue.Standard.javascript
  | .rust => Catalogue.Standard.rust
  | .c => Catalogue.Standard.c
  | .cpp => Catalogue.Standard.cpp
  | .csharp => Catalogue.Standard.csharp
  | .php => Catalogue.Standard.php
  | .ruby => Catalogue.Standard.ruby

/-- The kinds of nodes that name declarations in the standard catalogue. -/
def nameKinds (d : Dialect) : List String := d.entry.nameNodes.words

/-- The kinds of nodes that declare something in the standard catalogue. -/
def kinds (d : Dialect) : Declared → List String
  | .callable => d.entry.functionNodes.words
  | .type => d.entry.classNodes.words

/-- The walk of a syntax tree takes a node of such a kind for what it declares. -/
theorem role_of_mem_kinds : ∀ d ∈ Dialect.all, ∀ declared ∈ Declared.all,
    ∀ kind ∈ d.kinds declared, Grammar.role d.entry kind = .ok declared.role := by
  decide +kernel

/-- How a source text is read at first: with the standard catalogue, and with the extractor that is
registered for the dialect. -/
def grammar (d : Dialect) (text : String) : Grammar where
  language := d.language
  entry := Catalogue.standard.entryFor? d.language
  extractor := Registry.initial.extractor d.language
  text := text

theorem entry_grammar (d : Dialect) (text : String) : (d.grammar text).entry = some d.entry := by
  cases d <;> rfl

theorem extractor_grammar (d : Dialect) (text : String) :
    (d.grammar text).extractor = .dialect d := by
  cases d <;> rfl

theorem nameNodes_entry (d : Dialect) : d.entry.nameNodes = .texts d.nameKinds := by
  cases d <;> rfl

/-- The name of a symbol stands at the first child that names declarations. -/
theorem exists_child_of_nameOf {node : Node} (h : (d.grammar text).nameOf node = .ok (some name)) :
    ∃ child, node.childAmong? d.nameKinds = some child ∧
      name = Text.slice text child.start child.stop := by
  have hname : d.entry.nameIn? text node = some name :=
    Grammar.nameIn?_of_nameOf (g := d.grammar text) (d.entry_grammar text) h
  have hlists : (fun child : Node => d.entry.nameNodes.lists child.kind) =
      fun child => d.nameKinds.contains child.kind := by
    funext child
    rw [nameNodes_entry, Json.lists, Json.holds_texts]
    rfl
  rw [LanguageEntry.nameIn?, hlists] at hname
  cases hchild : node.childAmong? d.nameKinds with
  | none =>
    rw [Node.childAmong?] at hchild
    rw [hchild] at hname
    cases hname
  | some child =>
    refine ⟨child, rfl, ?_⟩
    rw [Node.childAmong?] at hchild
    rw [hchild] at hname
    dsimp only at hname
    split at hname
    · cases hname
    · exact (Option.some.inj hname).symm

/-! ## The name in a signature -/

/-- The signature that the extractor of a dialect gives. -/
def signature (d : Dialect) (source : Source) (site : Site) : Declared → Except Fault String
  | .callable => d.callable source site
  | .type => d.typeHead source site.node

/-- The kinds of children that the extractor takes names from, the preferred kind first. -/
def ranks (d : Dialect) : Declared → List String
  | .callable => d.callableNameKinds
  | .type => d.typeNameKinds

/-- Whether the extractor takes the name from a child of the declaration. An arrow function is named
where it is assigned, a definition of C or C++ in its declarator, and a type of Go in a part of its
own. -/
def namedByChild (d : Dialect) (kind : String) : Declared → Bool
  | .callable =>
    match d with
    | .javascript => kind != "arrow_function"
    | .c | .cpp => kind != "function_definition"
    | _ => true
  | .type => d != .go

/-- The node that the extractor takes the name from. -/
def shownNode? (d : Dialect) (site : Site) : Declared → Option Node
  | .callable =>
    if d = .javascript ∧ site.node.kind = "arrow_function" then arrowNameNode? site
    else d.callableNameNode? site.node
  | .type =>
    if d = .go then (site.node.child? "type_spec").bind (typeNameNode? .go)
    else d.typeNameNode? site.node

/-- What the extractor shows when there is no such node. -/
def unnamed (d : Dialect) : Declared → String
  | .callable => d.unnamedCallable
  | .type => if d = .go then "<unknown>" else d.unnamedType

/-- The name that the extractor puts into a signature. -/
def shownName (d : Dialect) (source : Source) (site : Site) (declared : Declared) :
    Except Fault String :=
  source.textOr (d.unnamed declared) (d.shownNode? site declared)

/-- The signature of a declaration is written with a name in the notation of the dialect. -/
def Writes (d : Dialect) (kind name signature : String) : Declared → Prop
  | .callable => ∃ parts : CallableParts, parts.name = name ∧ signature = d.writeCallable kind parts
  | .type =>
    if d = .go then
      signature = "type " ++ name ++ " interface" ∨ name = "<unknown>" ∧ signature = "type " ++ name
    else ∃ parts : TypeParts, parts.name = name ∧ signature = d.writeType kind parts

theorem shownName_callable {source : Source}
    (h : ¬(d = .javascript ∧ site.node.kind = "arrow_function")) :
    d.shownName source site .callable = d.callableName source site.node := by
  rw [shownName, shownNode?, if_neg h]
  rfl

/-- The name among the parts of a function is the one that the extractor looks up. -/
theorem shownName_of_readCallable {source : Source} {parts : CallableParts}
    (h : d.readCallable source site = .ok parts) :
    d.shownName source site .callable = .ok parts.name := by
  unfold readCallable at h
  split at h
  · obtain ⟨qualifiers, -, h⟩ := except_bind_eq_ok.1 h
    obtain ⟨result, -, h⟩ := except_bind_eq_ok.1 h
    obtain ⟨name, hname, h⟩ := except_bind_eq_ok.1 h
    obtain ⟨parameters, -, h⟩ := except_bind_eq_ok.1 h
    cases h
    rw [shownName_callable (by simp), hname]
  · obtain ⟨name, hname, h⟩ := except_bind_eq_ok.1 h
    obtain ⟨parameters, -, h⟩ := except_bind_eq_ok.1 h
    dsimp only at h
    split at h
    · next harrow =>
      obtain ⟨shown, hshown, h⟩ := except_bind_eq_ok.1 h
      cases h
      rw [shownName, shownNode?, if_pos ⟨rfl, beq_iff_eq.1 harrow⟩]
      exact hshown
    · next harrow =>
      cases h
      rw [shownName_callable (by simpa using harrow), hname]
  · next hjavascript =>
    obtain ⟨qualifiers, -, h⟩ := except_bind_eq_ok.1 h
    obtain ⟨receiver, -, h⟩ := except_bind_eq_ok.1 h
    obtain ⟨name, hname, h⟩ := except_bind_eq_ok.1 h
    obtain ⟨parameters, -, h⟩ := except_bind_eq_ok.1 h
    obtain ⟨result, -, h⟩ := except_bind_eq_ok.1 h
    cases h
    rw [shownName_callable (fun h => hjavascript h.1), hname]

/-- The name among the parts of a type is the one that the extractor looks up. -/
theorem shownName_of_readType {source : Source} {parts : TypeParts} (hgo : d ≠ .go)
    (h : d.readType source site.node = .ok parts) :
    d.shownName source site .type = .ok parts.name := by
  obtain ⟨qualifiers, -, h⟩ := except_bind_eq_ok.1 h
  obtain ⟨name, hname, h⟩ := except_bind_eq_ok.1 h
  obtain ⟨bases, -, h⟩ := except_bind_eq_ok.1 h
  cases h
  rw [shownName, shownNode?, unnamed, if_neg hgo, if_neg hgo, hname]

/-- The name of a type of Go is that of its part, if there is one. -/
theorem shownName_of_goType {source : Source} {signature : String}
    (h : goType source site.node = .ok signature) :
    ∃ shown, Dialect.go.shownName source site .type = .ok shown ∧
      (signature = "type " ++ shown ++ " interface" ∨
        shown = "<unknown>" ∧ signature = "type " ++ shown) := by
  rw [goType] at h
  split at h
  · next hspec =>
    cases h
    refine ⟨"<unknown>", ?_, .inr ⟨rfl, rfl⟩⟩
    rw [shownName, shownNode?, if_pos rfl, hspec]
    rfl
  · next spec hspec =>
    split at h
    · cases h
    · next named hnamed =>
      obtain ⟨shown, hshown, rfl⟩ := except_map_eq_ok.1 h
      refine ⟨shown, ?_, .inl rfl⟩
      rw [shownName, shownNode?, if_pos rfl, hspec, Option.bind_some, hnamed]
      exact hshown

/-- A signature is written with the name that the extractor looks up. -/
theorem exists_shownName {source : Source} {signature : String}
    (h : d.signature source site declared = .ok signature) :
    ∃ shown, d.shownName source site declared = .ok shown ∧
      d.Writes site.node.kind shown signature declared := by
  cases declared with
  | callable =>
    obtain ⟨parts, hparts, rfl⟩ := except_map_eq_ok.1 h
    exact ⟨parts.name, shownName_of_readCallable hparts, parts, rfl, rfl⟩
  | type =>
    by_cases hgo : d = .go
    · subst hgo
      obtain ⟨shown, hshown, hwrites⟩ := shownName_of_goType h
      exact ⟨shown, hshown, by rwa [Writes, if_pos rfl]⟩
    · have hread : d.typeHead source site.node =
          (d.readType source site.node).map (d.writeType site.node.kind) := by
        cases d <;> first | rfl | exact absurd rfl hgo
      obtain ⟨parts, hparts, rfl⟩ := except_map_eq_ok.1 (hread.symm.trans h)
      refine ⟨parts.name, shownName_of_readType hgo hparts, ?_⟩
      rw [Writes, if_neg hgo]
      exact ⟨parts, rfl, rfl⟩

/-- By rank a child is chosen, unless the name is looked up in another place. -/
theorem shownNode?_of_namedByChild (h : d.namedByChild site.node.kind declared = true) :
    d.shownNode? site declared = site.node.childByRank? (d.ranks declared) := by
  have hdeclarator (node : Node) (hkind : (node.kind != "function_definition") = true) :
      ((if node.kind == "function_definition" then (declarator? node).bind (·.child? "identifier")
        else none) <|> node.child? "identifier") = node.childByRank? ["identifier"] := by
    rw [if_neg (by simpa using hkind), Node.childByRank?, List.findSome?_cons]
    cases node.child? "identifier" with
    | none => rfl
    | some named => rfl
  cases declared with
  | callable =>
    have harrow : ¬(d = .javascript ∧ site.node.kind = "arrow_function") := by
      rintro ⟨rfl, harrow⟩
      simp [namedByChild, harrow] at h
    rw [shownNode?, if_neg harrow]
    cases d with
    | c => exact hdeclarator site.node h
    | cpp => exact hdeclarator site.node h
    | _ => rfl
  | type =>
    have hgo : d ≠ .go := bne_iff_ne.1 h
    rw [shownNode?, if_neg hgo]
    rfl

/-! ## Where the names agree -/

/-- Whether a kind of declaration has the same name in both ways in every syntax tree: its name is
taken from a child, and only the kind that the extractor prefers names declarations. -/
def steady (d : Dialect) (kind : String) (declared : Declared) : Bool :=
  d.namedByChild kind declared && d.nameKinds == (d.ranks declared).take 1

theorem prefers_of_steady {child : Node} (h : d.steady site.node.kind declared = true)
    (hchild : site.node.childAmong? d.nameKinds = some child) :
    site.node.Prefers (d.ranks declared) child := by
  have hkinds : d.nameKinds = (d.ranks declared).take 1 :=
    beq_iff_eq.1 (Bool.and_eq_true_iff.1 h).2
  obtain ⟨hmem, -⟩ := Node.child?_kind_of_childAmong? hchild
  rw [hkinds] at hmem
  cases hranks : d.ranks declared with
  | nil => simp [hranks] at hmem
  | cons best worse =>
    obtain rfl : child.kind = best := by simpa [hranks] using hmem
    exact ⟨[], worse, rfl, fun _ hnone => absurd hnone List.not_mem_nil⟩

/-- The dialects in which this is so for all declarations. -/
example : (Dialect.all.filter fun d => (d.kinds .callable).all (d.steady · .callable) &&
    (d.kinds .type).all (d.steady · .type)) = [.python, .java, .csharp, .php] := by decide +kernel

/-- In an ASCII text the name in the signature is cut out like the name of a symbol. -/
theorem shownName_of_shownNode? {child : Node} (hascii : Text.IsAscii text)
    (h : d.shownNode? site declared = some child) :
    d.shownName (.text text) site declared = .ok (Text.slice text child.start child.stop) := by
  rw [shownName, h]
  exact Source.nodeText_of_isAscii hascii child

/-- In an ASCII text a declaration of some kind has a name, and the extractor gives a signature. -/
structure Signed (d : Dialect) (declared : Declared) (kind text : String) (site : Site)
    (name signature : String) : Prop where
  ascii : Text.IsAscii text
  kind_eq : site.node.kind = kind
  name_eq : (d.grammar text).nameOf site.node = .ok (some name)
  signature_eq : d.signature (.text text) site declared = .ok signature

/-- The symbol of a declaration. -/
def symbolAt (d : Dialect) (text : String) (site : Site) (insideClass : Bool) :
    Declared → Noting (Option Symbol)
  | .callable => (d.grammar text).functionSymbol site insideClass
  | .type => (d.grammar text).classSymbol site

theorem template_grammar (d : Dialect) (text word : String) :
    ∃ template, (d.grammar text).template word = .ok template := by
  cases d <;> exact ⟨_, rfl⟩

/-- The symbol of a declaration has the name of the first way and the signature of the extractor. -/
theorem symbolAt_apply {signature : String} {insideClass : Bool} {console : Console}
    {notices : List Notice}
    (hname : (d.grammar text).nameOf site.node = .ok (some name))
    (hsignature : d.signature (.text text) site declared = .ok signature) :
    ∃ symbol,
      d.symbolAt text site insideClass declared console notices = (.ok (some symbol), notices) ∧
      symbol.name = name ∧ symbol.signature = some signature := by
  have hread : Noting.ofExcept ((d.grammar text).nameOf site.node) console notices =
      (.ok (some name), notices) := by
    rw [hname]
    rfl
  cases declared with
  | callable =>
    obtain ⟨template, htemplate⟩ := d.template_grammar text
      (if insideClass then "method" else "function")
    have hfill : Noting.ofExcept ((d.grammar text).template
        (if insideClass then "method" else "function")) console notices =
          (.ok template, notices) := by
      rw [htemplate]
      rfl
    have hextract : (d.grammar text).extractor.callable (.text (d.grammar text).text) site
        template = .ok signature := by
      rw [extractor_grammar]
      exact hsignature
    rw [symbolAt, Grammar.functionSymbol, Noting.bind_of_ok hread]
    dsimp only
    rw [Noting.bind_of_ok hfill, hextract]
    exact ⟨_, rfl, rfl, rfl⟩
  | type =>
    obtain ⟨template, htemplate⟩ := d.template_grammar text "class"
    have hextract : ((d.grammar text).template "class" >>=
        (d.grammar text).extractor.typeHead (.text (d.grammar text).text) site) =
          .ok signature := by
      rw [htemplate, extractor_grammar]
      exact hsignature
    have hwritten : (d.grammar text).typeSignature site "class" "WARNING: " name console notices =
        (.ok signature, notices) := by
      rw [Grammar.typeSignature, hextract]
      rfl
    rw [symbolAt, Grammar.classSymbol, Noting.bind_of_ok hread]
    dsimp only
    rw [Noting.bind_of_ok hwritten]
    exact ⟨_, rfl, rfl, rfl⟩

/-! ## Where the names differ -/

/-- A node of one character. -/
def letter (kind : String) (start : Nat) : Node := ⟨kind, start, start + 1, 0, [], []⟩

/-- A declaration in the text `A B` whose first child that names declarations is `A`, while the
extractor prefers `B`. -/
def rival (d : Dialect) (kind : String) (declared : Declared) : Site :=
  let named := letter "identifier" 0
  match d, declared with
  | .javascript, .callable =>
    let arrow : Node := ⟨kind, 0, 1, 0, [named], []⟩
    ⟨arrow, some ⟨"variable_declarator", 0, 3, 0, [letter "identifier" 2, arrow], []⟩⟩
  | .c, .callable =>
    let declarator : Node := ⟨"function_declarator", 2, 3, 0, [letter "identifier" 2], []⟩
    .ofRoot ⟨kind, 0, 3, 0, [named, declarator], []⟩
  | .go, .type =>
    let spec : Node := ⟨"type_spec", 2, 3, 0, [letter "type_identifier" 2], []⟩
    .ofRoot ⟨kind, 0, 3, 0, [named, spec], []⟩
  | _, _ =>
    let best := (d.ranks declared).headD ""
    let other := (d.nameKinds.find? (· != best)).getD ""
    .ofRoot ⟨kind, 0, 3, 0, [letter other 0, letter best 2], []⟩

/-- The two ways give different names for the declaration. -/
def Differs (d : Dialect) (kind : String) (declared : Declared) : Prop :=
  (d.rival kind declared).node.kind = kind ∧
    (d.grammar "A B").nameOf (d.rival kind declared).node = .ok (some "A") ∧
    (d.signature (.text "A B") (d.rival kind declared) declared).isOk = true ∧
    d.shownName (.text "A B") (d.rival kind declared) declared = .ok "B"

instance (d : Dialect) (kind : String) (declared : Declared) :
    Decidable (d.Differs kind declared) :=
  inferInstanceAs (Decidable (_ ∧ _ ∧ _ ∧ _))

/-- Every kind of declaration that is not steady has such a declaration. -/
theorem differs_of_not_steady : ∀ d ∈ Dialect.all, ∀ declared ∈ Declared.all,
    ∀ kind ∈ d.kinds declared, d.steady kind declared = false → d.Differs kind declared := by
  decide +kernel

/-! ## The two names of a declaration -/

section Names

variable {kind signature : String}

/-- A declaration has the name of a child, and its signature is written with a name that is the same
when the extractor takes it from this child. -/
theorem Signed.exists_names (h : d.Signed declared kind text site name signature) :
    ∃ child shown, site.node.childAmong? d.nameKinds = some child ∧
      d.shownName (.text text) site declared = .ok shown ∧
      d.Writes kind shown signature declared ∧
      (d.shownNode? site declared = some child → shown = name) := by
  obtain ⟨child, hchild, hname⟩ := exists_child_of_nameOf h.name_eq
  obtain ⟨shown, hshown, hwrites⟩ := exists_shownName h.signature_eq
  refine ⟨child, shown, hchild, hshown, h.kind_eq ▸ hwrites, fun hnode => ?_⟩
  have hslice := shownName_of_shownNode? h.ascii hnode
  rw [hname]
  exact Except.ok.inj (hshown.symm.trans hslice)

theorem Signed.shownNode?_iff {child : Node} (h : d.Signed declared kind text site name signature)
    (hchild : site.node.childAmong? d.nameKinds = some child)
    (hnamed : d.namedByChild kind declared = true) :
    d.shownNode? site declared = some child ↔ site.node.Prefers (d.ranks declared) child := by
  rw [← h.kind_eq] at hnamed
  rw [shownNode?_of_namedByChild hnamed]
  exact Node.childByRank?_eq_some_iff_prefers hchild

/-- A steady declaration has only one name. -/
theorem Signed.shown_eq_of_steady {shown : String}
    (h : d.Signed declared kind text site name signature) (hsteady : d.steady kind declared = true)
    (hshown : d.shownName (.text text) site declared = .ok shown) : shown = name := by
  obtain ⟨child, shown', hchild, hshown', -, hsame⟩ := h.exists_names
  obtain rfl : shown' = shown := Except.ok.inj (hshown'.symm.trans hshown)
  have hnamed : d.namedByChild kind declared = true := (Bool.and_eq_true_iff.1 hsteady).1
  have hprefers : site.node.Prefers (d.ranks declared) child :=
    prefers_of_steady (h.kind_eq.symm ▸ hsteady) hchild
  exact hsame ((h.shownNode?_iff hchild hnamed).2 hprefers)

theorem Differs.exists_signed (h : d.Differs kind declared) :
    ∃ signature, d.Signed declared kind "A B" (d.rival kind declared) "A" signature := by
  obtain ⟨hkind, hname, hok, -⟩ := h
  cases hsignature : d.signature (.text "A B") (d.rival kind declared) declared with
  | error fault =>
    rw [hsignature] at hok
    cases hok
  | ok signature => exact ⟨signature, by decide, hkind, hname, hsignature⟩

end Names

/-- Of the kinds that declare something in the standard catalogue, those for which the name of the
symbol is the name in the signature in every syntax tree are the steady ones. For all kinds, a
signature is written with the name that the extractor looks up, and this is the name of the symbol
when both ways lead to the same child; where the extractor ranks children, they do so exactly when
the child is preferred. -/
theorem names_agree_iff (d : Dialect) (declared : Declared) {kind : String}
    (hkind : kind ∈ d.kinds declared) :
    Grammar.role d.entry kind = .ok declared.role ∧
    (d.steady kind declared = true ↔ ∀ text site name signature shown,
      d.Signed declared kind text site name signature →
      d.shownName (.text text) site declared = .ok shown → shown = name) ∧
    ∀ text site name signature, d.Signed declared kind text site name signature →
      ∃ child shown, site.node.childAmong? d.nameKinds = some child ∧
        d.shownName (.text text) site declared = .ok shown ∧
        d.Writes kind shown signature declared ∧
        (d.shownNode? site declared = some child → shown = name) ∧
        (d.namedByChild kind declared = true →
          (d.shownNode? site declared = some child ↔
            site.node.Prefers (d.ranks declared) child)) ∧
        ∀ insideClass console notices, ∃ symbol,
          d.symbolAt text site insideClass declared console notices =
            (.ok (some symbol), notices) ∧ symbol.name = name ∧
            symbol.signature = some signature := by
  refine ⟨role_of_mem_kinds d d.mem_all declared declared.mem_all kind hkind, ⟨?_, ?_⟩, ?_⟩
  · intro hsteady text site name signature shown hsigned hshown
    exact hsigned.shown_eq_of_steady hsteady hshown
  · intro hagree
    cases hsteady : d.steady kind declared with
    | true => rfl
    | false =>
      have hdiffers : d.Differs kind declared :=
        differs_of_not_steady d d.mem_all declared declared.mem_all kind hkind hsteady
      obtain ⟨signature, hsigned⟩ := hdiffers.exists_signed
      have hsame : "B" = "A" := hagree _ _ _ _ _ hsigned hdiffers.2.2.2
      exact absurd hsame (by decide)
  · intro text site name signature hsigned
    obtain ⟨child, shown, hchild, hshown, hwrites, hsame⟩ := hsigned.exists_names
    refine ⟨child, shown, hchild, hshown, hwrites, hsame, hsigned.shownNode?_iff hchild, ?_⟩
    intro insideClass console notices
    exact symbolAt_apply hsigned.name_eq hsigned.signature_eq

namespace Sample

/-- The function in the text `fn f() -> T`, which has a child for its name and one for its type. -/
def rustFunction : Site :=
  .ofRoot ⟨"function_item", 0, 11, 0, [⟨"fn", 0, 2, 0, [], []⟩, ⟨"identifier", 3, 4, 0, [], []⟩,
    ⟨"parameters", 4, 6, 0, [], []⟩, ⟨"->", 7, 9, 0, [], []⟩,
    ⟨"type_identifier", 10, 11, 0, [], []⟩], []⟩

theorem signed_rustFunction :
    Dialect.rust.Signed .callable "function_item" "fn f() -> T" rustFunction "f" "fn f() -> T" :=
  ⟨by decide, rfl, by decide +kernel, by decide +kernel⟩

/-- The function in the text `Foo bar() {}`, which is named in its declarator. -/
def cppFunction : Site :=
  .ofRoot ⟨"function_definition", 0, 12, 0, [⟨"type_identifier", 0, 3, 0, [], []⟩,
    ⟨"function_declarator", 4, 9, 0, [⟨"identifier", 4, 7, 0, [], []⟩,
      ⟨"parameter_list", 7, 9, 0, [], []⟩], []⟩,
    ⟨"compound_statement", 10, 12, 0, [], []⟩], []⟩

end Sample

theorem names_agree_iff_rust :
    "function_item" ∈ Dialect.rust.kinds .callable ∧
    Dialect.rust.Signed .callable "function_item" "fn f() -> T" Sample.rustFunction "f"
      "fn f() -> T" ∧
    Dialect.rust.shownName (.text "fn f() -> T") Sample.rustFunction .callable = .ok "f" := by
  have hkind : "function_item" ∈ Dialect.rust.kinds .callable := by decide +kernel
  refine ⟨hkind, Sample.signed_rustFunction, ?_⟩
  obtain ⟨child, shown, hchild, hshown, -, hsame, hprefers, -⟩ :=
    (names_agree_iff .rust .callable hkind).2.2 _ _ _ _ Sample.signed_rustFunction
  have hfirst : Sample.rustFunction.node.childAmong? Dialect.rust.nameKinds =
      some ⟨"identifier", 3, 4, 0, [], []⟩ := rfl
  obtain rfl := Option.some.inj (hfirst.symm.trans hchild)
  have hnode := (hprefers rfl).2 ⟨[], [], rfl, fun _ h => absurd h List.not_mem_nil⟩
  rw [hshown, hsame hnode]

/-- A function of C++ is named by its type when this is a child of a kind that names declarations,
but its signature shows the name in the declarator. -/
theorem names_differ_cpp :
    "function_definition" ∈ Dialect.cpp.kinds .callable ∧
    Dialect.cpp.Signed .callable "function_definition" "Foo bar() \x7b\x7d" Sample.cppFunction "Foo"
      "Foo bar()" ∧
    Dialect.cpp.shownName (.text "Foo bar() \x7b\x7d") Sample.cppFunction .callable = .ok "bar" :=
  ⟨by decide +kernel, ⟨by decide, rfl, by decide +kernel, by decide +kernel⟩, by decide +kernel⟩

end Dialect

end SourceOutline
