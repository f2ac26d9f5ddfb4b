import SourceOutline.Proofs.Arrangement
import SourceOutline.Proofs.Console
import SourceOutline.Proofs.Forests

/-!
# The symbols of a tree are its arrangement

The walk of a syntax tree gives one symbol for each place of the arrangement, nested as the places
are. What an extractor does at a node, be it that it gives a signature or that it fails, changes the
signatures and the notices and nothing else.
-/

namespace SourceOutline

namespace Symbol

mutual

/-- The symbol without its signature and the signatures in it. -/
def bare (symbol : Symbol) : Symbol :=
  match symbol with
  | ⟨name, kind, line, _, language, children⟩ =>
    ⟨name, kind, line, none, language, bareAll children⟩

/-- Symbols without signatures. -/
def bareAll : List Symbol → List Symbol
  | [] => []
  | symbol :: rest => bare symbol :: bareAll rest

end

@[simp] theorem bareAll_append (xs ys : List Symbol) :
    bareAll (xs ++ ys) = bareAll xs ++ bareAll ys := by
  induction xs with
  | nil => rfl
  | cons x xs ih => simp [bareAll, ih]

@[simp] theorem kind_bare (symbol : Symbol) : symbol.bare.kind = symbol.kind := by
  cases symbol
  rw [bare]

mutual

theorem preorder_bare : (symbol : Symbol) → symbol.bare.preorder = symbol.preorder.map bare
  | ⟨name, kind, line, signature, language, children⟩ => by
    rw [bare, preorder, preorder, preorderAll_bareAll children]
    rfl

theorem preorderAll_bareAll :
    (forest : List Symbol) → preorderAll (bareAll forest) = (preorderAll forest).map bare
  | [] => rfl
  | symbol :: rest => by
    rw [bareAll, preorderAll, preorderAll, List.map_append, preorder_bare symbol,
      preorderAll_bareAll rest]

end

end Symbol

namespace Arrangement

variable (entry : LanguageEntry) (language text : String)

/-- The symbol of the declaration at a place. -/
def symbolAt (place : Place) (children : List Symbol) : Symbol where
  name := (entry.nameIn? text place.node).getD ""
  kind := entry.kindAt place
  line := place.node.row + 1
  signature := none
  language := some language
  children := children

mutual

/-- The symbol of an arrangement. -/
def symbol (arrangement : Arrangement) : Symbol :=
  match arrangement with
  | ⟨place, parts⟩ => symbolAt entry language text place (symbols parts)

/-- The symbols of some arrangements. -/
def symbols : List Arrangement → List Symbol
  | [] => []
  | arrangement :: rest => symbol arrangement :: symbols rest

end

@[simp] theorem symbols_append (xs ys : List Arrangement) :
    symbols entry language text (xs ++ ys) =
      symbols entry language text xs ++ symbols entry language text ys := by
  induction xs with
  | nil => rfl
  | cons x xs ih => simp [symbols, ih]

mutual

theorem preorder_symbol : (arrangement : Arrangement) →
    (symbol entry language text arrangement).preorder =
      arrangement.preorder.map fun place => symbolAt entry language text place []
  | ⟨place, parts⟩ => by
    rw [symbol, symbolAt, Symbol.preorder, preorder, List.map_cons, preorderAll_symbols parts]
    rfl

/-- The symbols of arrangements are those of their places, in the same order. -/
theorem preorderAll_symbols : (arrangements : List Arrangement) →
    Symbol.preorderAll (symbols entry language text arrangements) =
      (preorderAll arrangements).map fun place => symbolAt entry language text place []
  | [] => rfl
  | arrangement :: rest => by
    rw [symbols, Symbol.preorderAll, preorderAll, List.map_append, preorder_symbol arrangement,
      preorderAll_symbols rest]

end

end Arrangement

/-- The settings of an entry that the walk uses are of kinds that can be used so. -/
structure LanguageEntry.Usable (entry : LanguageEntry) : Prop where
  classNodes : entry.classNodes.Searchable
  functionNodes : entry.functionNodes.Searchable
  nameNodes : entry.nameNodes.Searchable
  templates : ∃ fields, entry.templates = .table fields

namespace Grammar

variable {g : Grammar} {entry : LanguageEntry} {site : Site} {console : Console}
  {shown shown' : List Notice}

/-! ## Names and roles -/

theorem find?_of_nameNode {nodes : List Node} {found : Option Node}
    (h : nameNode (some entry) nodes = .ok found) :
    (nodes.find? fun child => entry.nameNodes.lists child.kind) = found := by
  induction nodes with
  | nil =>
    cases h
    rfl
  | cons node rest ih =>
    rw [nameNode] at h
    obtain ⟨isName, hholds, h⟩ := except_bind_eq_ok.1 h
    have hlists := Json.lists_of_holds hholds
    cases isName with
    | true =>
      cases h
      exact List.find?_cons_of_pos hlists
    | false =>
      rw [List.find?_cons, hlists]
      exact ih h

theorem nameIn?_of_nameOf {node : Node} {name : Option String} (hentry : g.entry = some entry)
    (h : g.nameOf node = .ok name) : entry.nameIn? g.text node = name := by
  obtain ⟨found, hfound, h⟩ := except_bind_eq_ok.1 h
  rw [hentry] at hfound
  rw [LanguageEntry.nameIn?, find?_of_nameNode hfound]
  cases found with
  | none => exact Except.ok.inj h
  | some child => exact Except.ok.inj h

/-- What the role of a node says about its declarations. -/
theorem role_eq_ok {kind : String} {r : Role} (h : role entry kind = .ok r) :
    match r with
    | .type => entry.classNodes.lists kind = true
    | .function => entry.classNodes.lists kind = false ∧ entry.functionNodes.lists kind = true
    | .other => entry.classNodes.lists kind = false ∧ entry.functionNodes.lists kind = false := by
  obtain ⟨isType, htype, h⟩ := except_bind_eq_ok.1 h
  have hclass := Json.lists_of_holds htype
  cases isType with
  | true =>
    cases h
    exact hclass
  | false =>
    obtain ⟨isFunction, hfunction, h⟩ := except_bind_eq_ok.1 h
    have hfun := Json.lists_of_holds hfunction
    cases isFunction with
    | true =>
      cases h
      exact ⟨hclass, hfun⟩
    | false =>
      cases h
      exact ⟨hclass, hfun⟩

/-! ## Symbols of declarations -/

/-- The symbol of a class is made of its name, and of nothing but a signature beside it. -/
theorem classSymbol_eq_ok {result : Option Symbol}
    (h : g.classSymbol site console shown = (.ok result, shown')) :
    ∃ name, g.nameOf site.node = .ok name ∧ ∃ signature, result =
      name.map fun name => g.symbolAt site.node .classType name signature := by
  obtain ⟨name, shown₁, hname, h⟩ := Noting.bind_eq_ok.1 h
  have hname' : g.nameOf site.node = .ok name := congrArg Prod.fst hname
  refine ⟨name, hname', ?_⟩
  cases name with
  | none =>
    cases h
    exact ⟨"", rfl⟩
  | some name =>
    obtain ⟨signature, shown₂, -, h⟩ := Noting.bind_eq_ok.1 h
    cases h
    exact ⟨signature, rfl⟩

/-- The symbol of a function is made of its name, and of nothing but a signature beside it. -/
theorem functionSymbol_eq_ok {insideClass : Bool} {result : Option Symbol}
    (h : g.functionSymbol site insideClass console shown = (.ok result, shown')) :
    ∃ name, g.nameOf site.node = .ok name ∧ ∃ signature, result =
      name.map fun name =>
        g.symbolAt site.node (if insideClass then .method else .function) name signature := by
  obtain ⟨name, shown₁, hname, h⟩ := Noting.bind_eq_ok.1 h
  have hname' : g.nameOf site.node = .ok name := congrArg Prod.fst hname
  refine ⟨name, hname', ?_⟩
  cases name with
  | none =>
    cases h
    exact ⟨"", rfl⟩
  | some name =>
    obtain ⟨template, shown₂, -, h⟩ := Noting.bind_eq_ok.1 h
    rcases hsignature : g.extractor.callable (.text g.text) site template with fault | signature
    · rw [hsignature] at h
      obtain ⟨_, shown₃, -, h⟩ := Noting.bind_eq_ok.1 h
      cases h
      exact ⟨_, rfl⟩
    · rw [hsignature] at h
      cases h
      exact ⟨_, rfl⟩

/-! ## The walk -/

/-- A declaration gives the symbol of its place when it has a name, with the symbols below it, and
nothing without one. Which signature it got makes no difference. -/
theorem bareAll_declaration {place : Place} {kind : SymbolKind} {name : Option String}
    {signature : String} {below : Noting (List Symbol)} {forest : List Symbol}
    (hdeclares : entry.declares place.node = true)
    (hname : entry.nameIn? g.text place.node = name) (hkind : entry.kindAt place = kind)
    (hbelow : ∀ {inner s s'}, below console s = (.ok inner, s') → Symbol.bareAll inner =
      Arrangement.symbols entry g.language g.text
        (entry.arrangementBelow g.text place 0 place.node.children))
    (h : (match name.map fun name => g.symbolAt place.node kind name signature with
        | none => pure []
        | some symbol => below >>= fun inner => pure [{ symbol with children := inner }] :
          Noting (List Symbol)) console shown = (.ok forest, shown')) :
    Symbol.bareAll forest =
      Arrangement.symbols entry g.language g.text
        (entry.arrangementAt g.text place place.node) := by
  cases name with
  | none =>
    cases h
    rw [LanguageEntry.arrangementAt_of_unnamed hdeclares hname]
    rfl
  | some name =>
    obtain ⟨inner, shown₁, hinner, h⟩ := Noting.bind_eq_ok.1 h
    cases h
    rw [LanguageEntry.arrangementAt_of_named hdeclares hname]
    simp only [Symbol.bareAll, Symbol.bare, Arrangement.symbols, Arrangement.symbol, symbolAt,
      Arrangement.symbolAt, hname, hkind, hbelow hinner, Option.getD_some]

mutual

theorem bareAll_walk (hentry : g.entry = some entry) {forest : List Symbol} (place : Place)
    (holder : Option Node) (insideClass : Bool)
    (hinside : (place.above.any fun p => entry.declaresType p.node) = insideClass) :
    (node : Node) → place.node = node → {shown shown' : List Notice} →
      g.walk entry holder insideClass node console shown = (.ok forest, shown') →
      Symbol.bareAll forest =
        Arrangement.symbols entry g.language g.text (entry.arrangementAt g.text place node)
  | ⟨kind, start, stop, row, children, roles⟩, hnode, shown, shown', h => by
    rw [walk] at h
    obtain ⟨r, shown₁, hrole, h⟩ := Noting.bind_eq_ok.1 h
    have hr := role_eq_ok (congrArg Prod.fst hrole)
    -- The flag tells whether a type is declared around the place. Only a type changes it for the
    -- nodes below; each case shows that it is still right there.
    cases r with
    | type =>
      have htype : entry.declaresType place.node = true := by
        rw [hnode]
        exact hr
      obtain ⟨result, shown₂, hsymbol, h⟩ := Noting.bind_eq_ok.1 h
      obtain ⟨name, hname, signature, rfl⟩ := classSymbol_eq_ok hsymbol
      have hname' := nameIn?_of_nameOf hentry hname
      have hline : (place.line.any fun p => entry.declaresType p.node) = true := by
        simp [Place.line, htype]
      rw [← hnode] at h hname' ⊢
      refine bareAll_declaration ?_ hname' ?_ ?_ h
      · simp [LanguageEntry.declares, htype]
      · rw [LanguageEntry.kindAt, if_pos htype]
      · intro inner s s' hinner
        rw [hnode]
        exact bareAll_walkAll hentry place _ _ hline 0 children hinner
    | function =>
      have htype : entry.declaresType place.node = false := by
        rw [hnode]
        exact hr.1
      obtain ⟨result, shown₂, hsymbol, h⟩ := Noting.bind_eq_ok.1 h
      obtain ⟨name, hname, signature, rfl⟩ := functionSymbol_eq_ok hsymbol
      have hname' := nameIn?_of_nameOf hentry hname
      have hline : (place.line.any fun p => entry.declaresType p.node) = insideClass := by
        simp [Place.line, htype, ← hinside]
      rw [← hnode] at h hname' ⊢
      refine bareAll_declaration ?_ hname' ?_ ?_ h
      · simp [LanguageEntry.declares, hnode, hr.2]
      · simp only [LanguageEntry.kindAt, htype, hinside, Bool.false_eq_true, if_false]
      · intro inner s s' hinner
        rw [hnode]
        exact bareAll_walkAll hentry place _ _ hline 0 children hinner
    | other =>
      obtain ⟨hclass, hfunction⟩ := hr
      have hdeclares : entry.declares ⟨kind, start, stop, row, children, roles⟩ = false := by
        simp [LanguageEntry.declares, LanguageEntry.declaresType, hclass, hfunction]
      have hline : (place.line.any fun p => entry.declaresType p.node) = insideClass := by
        simp [Place.line, hnode, LanguageEntry.declaresType, hclass, ← hinside]
      rw [LanguageEntry.arrangementAt_of_not_declares hdeclares]
      exact bareAll_walkAll hentry place _ _ hline 0 children h

theorem bareAll_walkAll (hentry : g.entry = some entry) {forest : List Symbol} (place : Place)
    (holder : Node) (insideClass : Bool)
    (hinside : (place.line.any fun p => entry.declaresType p.node) = insideClass) (index : Nat) :
    (nodes : List Node) → {shown shown' : List Notice} →
      g.walkAll entry holder insideClass nodes console shown = (.ok forest, shown') →
      Symbol.bareAll forest =
        Arrangement.symbols entry g.language g.text
          (entry.arrangementBelow g.text place index nodes)
  | [], shown, shown', h => by
    rw [walkAll] at h
    cases h
    rfl
  | node :: rest, shown, shown', h => by
    rw [walkAll] at h
    obtain ⟨first, shown₁, hfirst, h⟩ := Noting.bind_eq_ok.1 h
    obtain ⟨more, shown₂, hmore, h⟩ := Noting.bind_eq_ok.1 h
    cases h
    rw [Symbol.bareAll_append, LanguageEntry.arrangementBelow, Arrangement.symbols_append,
      bareAll_walk hentry (.child place index node) _ _ hinside node rfl hfirst,
      bareAll_walkAll hentry place _ _ hinside (index + 1) rest hmore]

end

/-! ## The walk comes to its end -/

theorem nameNode_total (h : entry.nameNodes.Searchable) (nodes : List Node) :
    ∃ found, nameNode (some entry) nodes = .ok found := by
  induction nodes with
  | nil => exact ⟨none, rfl⟩
  | cons node rest ih =>
    rw [nameNode, h.holds_eq]
    cases entry.nameNodes.lists node.kind with
    | true => exact ⟨some node, rfl⟩
    | false => exact ih

theorem nameOf_total (hentry : g.entry = some entry) (h : entry.Usable) (node : Node) :
    ∃ name, g.nameOf node = .ok name := by
  obtain ⟨found, hfound⟩ := nameNode_total h.nameNodes node.children
  rw [nameOf, hentry, hfound]
  cases found with
  | none => exact ⟨none, rfl⟩
  | some child => exact ⟨_, rfl⟩

theorem role_total (h : entry.Usable) (kind : String) : ∃ r, role entry kind = .ok r := by
  rw [role, h.classNodes.holds_eq, h.functionNodes.holds_eq]
  cases entry.classNodes.lists kind <;> cases entry.functionNodes.lists kind <;> exact ⟨_, rfl⟩

theorem template_total (hentry : g.entry = some entry) (h : entry.Usable) (declared : String) :
    ∃ template, g.template declared = .ok template := by
  obtain ⟨fields, hfields⟩ := h.templates
  simp only [template, hentry, LanguageEntry.template, hfields]
  exact ⟨_, rfl⟩

/-- A signature is always found for a type. -/
theorem succeeds_typeSignature (g : Grammar) (site : Site) (declared warning name : String) :
    Noting.Succeeds (g.typeSignature site declared warning name) := by
  rw [typeSignature]
  rcases g.template declared >>= g.extractor.typeHead (.text g.text) site with fault | signature
  · exact (Noting.succeeds_say _).bind fun _ => Noting.succeeds_pure _
  · exact Noting.succeeds_pure signature

theorem succeeds_classSymbol (hentry : g.entry = some entry) (h : entry.Usable) (site : Site) :
    Noting.Succeeds (g.classSymbol site) := by
  refine (Noting.succeeds_ofExcept (nameOf_total hentry h site.node)).bind fun name => ?_
  cases name with
  | none => exact Noting.succeeds_pure none
  | some name => exact (succeeds_typeSignature g site _ _ name).bind fun _ => Noting.succeeds_pure _

theorem succeeds_functionSymbol (hentry : g.entry = some entry) (h : entry.Usable) (site : Site)
    (insideClass : Bool) : Noting.Succeeds (g.functionSymbol site insideClass) := by
  refine (Noting.succeeds_ofExcept (nameOf_total hentry h site.node)).bind fun name => ?_
  cases name with
  | none => exact Noting.succeeds_pure none
  | some name =>
    refine (Noting.succeeds_ofExcept (template_total hentry h _)).bind fun template => ?_
    rcases g.extractor.callable (.text g.text) site template with fault | signature
    · exact (Noting.succeeds_say _).bind fun _ => Noting.succeeds_pure _
    · exact Noting.succeeds_pure _

mutual

theorem succeeds_walk (hentry : g.entry = some entry) (h : entry.Usable) (holder : Option Node)
    (insideClass : Bool) : (node : Node) → Noting.Succeeds (g.walk entry holder insideClass node)
  | ⟨kind, start, stop, row, children, roles⟩ => by
    rw [walk]
    refine (Noting.succeeds_ofExcept (role_total h kind)).bind fun r => ?_
    cases r with
    | type =>
      refine (succeeds_classSymbol hentry h _).bind fun symbol => ?_
      cases symbol with
      | none => exact Noting.succeeds_pure []
      | some symbol =>
        exact (succeeds_walkAll hentry h _ true children).bind fun _ => Noting.succeeds_pure _
    | function =>
      refine (succeeds_functionSymbol hentry h _ insideClass).bind fun symbol => ?_
      cases symbol with
      | none => exact Noting.succeeds_pure []
      | some symbol =>
        exact (succeeds_walkAll hentry h _ insideClass children).bind fun _ =>
          Noting.succeeds_pure _
    | other => exact succeeds_walkAll hentry h _ insideClass children

theorem succeeds_walkAll (hentry : g.entry = some entry) (h : entry.Usable) (holder : Node)
    (insideClass : Bool) :
    (nodes : List Node) → Noting.Succeeds (g.walkAll entry holder insideClass nodes)
  | [] => by
    rw [walkAll]
    exact Noting.succeeds_pure []
  | node :: rest => by
    rw [walkAll]
    exact (succeeds_walk hentry h (some holder) insideClass node).bind fun _ =>
      (succeeds_walkAll hentry h holder insideClass rest).bind fun _ => Noting.succeeds_pure _

end

end Grammar

/-! ## The symbols of a source text -/

/-- In the session the language has an entry and a parser, and the parser gives `tree` for the
text. -/
structure Session.Parses (session : Session) (language text : String) (entry : LanguageEntry)
    (tree : Node) : Prop where
  listed : (Run.entryFor language session).1 = .ok (some entry)
  hasParser : (Run.hasParser language session).1 = .ok true
  parsed : (Run.parse language text session).1 = .ok tree

namespace Session.Parses

variable {session : Session} {language text : String} {entry : LanguageEntry} {tree : Node}

theorem findsParser (h : session.Parses language text entry tree) :
    session.findsParser language = .ok true := by
  obtain ⟨_, _, happly⟩ := Run.hasParser_apply language session
  have htrue := h.hasParser
  rwa [happly] at htrue

/-- What is found on the console of the session is also found when everything is shown. -/
theorem openly (h : session.Parses language text entry tree) :
    session.openly.Parses language text entry tree := by
  refine ⟨?_, ?_, h.parsed⟩
  · have hlisted := h.listed
    rcases hc : Run.catalogue session with ⟨fault | c, t⟩
    · rw [Run.entryFor, bind_of_error hc] at hlisted
      cases hlisted
    · rw [Run.entryFor, bind_of_ok hc] at hlisted
      have hcurrent : session.currentCatalogue = .ok c := by rw [← Run.catalogue_fst, hc]
      obtain ⟨t', hentry⟩ :=
        Run.entryFor_total language (Session.currentCatalogue_openly hcurrent)
      rw [hentry]
      exact hlisted
  · obtain ⟨_, _, happly⟩ := Run.hasParser_apply language session.openly
    rw [happly]
    exact Run.findsParser_openly h.findsParser

end Session.Parses

/-- With an entry and a parser, the symbols of a text come from the walk of its tree with the
extractor that is registered for the language. -/
theorem Run.symbolsOfText_eq_walk {session : Session} {language text : String}
    {entry : LanguageEntry} {tree : Node} (h : session.Parses language text entry tree) :
    ∃ s, s.world.console = session.world.console ∧ Run.symbolsOfText text language session =
      Run.noting (Grammar.symbols
        ⟨language, some entry, session.registry.extractor language, text⟩ entry tree) s := by
  rcases hlisted : Run.entryFor language session with ⟨listed, s₁⟩
  obtain rfl : listed = .ok (some entry) := by
    rw [← h.listed, hlisted]
  obtain ⟨catalogue, notices, hs₁⟩ := Run.entryFor_snd language session
  rw [hlisted] at hs₁
  dsimp only at hs₁
  -- The parser is looked for after the entry, in a session that has the same parsers.
  have hfound : ∃ s₂, Run.hasParser language s₁ = (.ok true, s₂) ∧
      s₂.world = session.world ∧ s₂.registry = session.registry := by
    obtain ⟨parsers, notices', hthen⟩ := Run.hasParser_apply language s₁
    have hsame : s₁.findsParser language = .ok true := by
      rw [← h.findsParser, hs₁]
      rfl
    rw [hsame] at hthen
    exact ⟨_, hthen, by rw [hs₁], by rw [hs₁]⟩
  obtain ⟨s₂, hfound, hworld₂, hregistry₂⟩ := hfound
  have hparsed : Run.parse language text s₂ = (.ok tree, s₂) := by
    have htree := h.parsed
    rw [Run.parse, bind_of_ok (Run.world_apply _)] at htree ⊢
    rw [hworld₂]
    exact congrArg (·, s₂) htree
  refine ⟨s₂, congrArg World.console hworld₂, ?_⟩
  rw [Run.symbolsOfText, bind_of_ok hlisted, bind_of_ok hfound]
  dsimp only
  rw [bind_of_ok (Run.extractor_apply language s₂), bind_of_ok hparsed, hregistry₂]

namespace Run

variable {session after : Session} {language text : String} {entry : LanguageEntry} {tree : Node}
  {forest : List Symbol}

/-- Whatever the extractor does, the symbols of a text are those of the arrangement of its tree. -/
theorem bareAll_symbolsOfText (h : session.Parses language text entry tree)
    (hforest : symbolsOfText text language session = (.ok forest, after)) :
    Symbol.bareAll forest =
      Arrangement.symbols entry language text (entry.arrangement text tree) := by
  obtain ⟨s, -, heq⟩ := symbolsOfText_eq_walk h
  rw [heq, noting_apply] at hforest
  have hwalk := congrArg Prod.fst hforest
  exact Grammar.bareAll_walk rfl (.root tree) none false rfl tree rfl (Prod.ext hwalk rfl)

theorem preorderAll_symbolsOfText (h : session.Parses language text entry tree)
    (hforest : symbolsOfText text language session = (.ok forest, after)) :
    (Symbol.preorderAll forest).map Symbol.bare =
      (tree.places.filter (entry.shows text)).map
        fun place => Arrangement.symbolAt entry language text place [] := by
  rw [← Symbol.preorderAll_bareAll, bareAll_symbolsOfText h hforest,
    Arrangement.preorderAll_symbols, LanguageEntry.preorder_arrangement]

/-- With usable settings, the symbols of a text are found where no notice is refused. -/
theorem symbolsOfText_total (h : session.Parses language text entry tree) (husable : entry.Usable)
    (hshown : (symbolsOfText text language).Unrefused session) :
    ∃ forest after, symbolsOfText text language session = (.ok forest, after) := by
  obtain ⟨s, hconsole, heq⟩ := symbolsOfText_eq_walk h.openly
  obtain ⟨forest, shown, hwalk⟩ := Grammar.succeeds_walk
    (g := ⟨language, some entry, session.registry.extractor language, text⟩) rfl husable none false
    tree s.notices
  have hopen : symbolsOfText text language session.openly =
      (.ok forest, { s with notices := shown }) := by
    rw [heq, noting_apply, hconsole, Grammar.symbols]
    exact congrArg (fun walked => (walked.1, { s with notices := walked.2 })) hwalk
  rw [(extracts_symbolsOfText text language).apply_eq hshown, hopen]
  exact ⟨forest, _, rfl⟩

end Run

/-- The symbols of a text are, one for each and in the same order, the declarations of the tree that
have a name and stand below no declaration without one. A symbol belongs to the one of the nearest
declaration around its own. Its name, kind and line are those of the declaration. No session, and no
extractor in one, has a part in this. The symbols are always found, unless an extractor fails and
the console refuses to show the warning. -/
theorem symbolsOfText_eq_outline (entry : LanguageEntry) (husable : entry.Usable)
    (language text : String) (tree : Node) :
    ∃ arrangement : List Arrangement,
      Arrangement.preorderAll arrangement = tree.places.filter (entry.shows text) ∧
      (Arrangement.preorderAll arrangement).Nodup ∧
      (∀ o ∈ arrangement, o.Nested entry none) ∧
      ∀ session : Session, session.Parses language text entry tree →
        ((Run.symbolsOfText text language).Unrefused session →
          ∃ forest after, Run.symbolsOfText text language session = (.ok forest, after)) ∧
        ∀ forest after, Run.symbolsOfText text language session = (.ok forest, after) →
          Symbol.bareAll forest = Arrangement.symbols entry language text arrangement := by
  refine ⟨entry.arrangement text tree, LanguageEntry.preorder_arrangement tree, ?_,
    LanguageEntry.nested_arrangement tree, ?_⟩
  · rw [LanguageEntry.preorder_arrangement]
    exact tree.nodup_places.filter _
  · intro session hparses
    exact ⟨Run.symbolsOfText_total hparses husable,
      fun _ _ => Run.bareAll_symbolsOfText hparses⟩

/-! ### A class with a method, and a function without a name around another -/

namespace Toy

/-- The entry of a language with one kind of node for each use. -/
def entry : LanguageEntry :=
  .ofFields "toy" [("class_nodes", .texts ["class"]), ("function_nodes", .texts ["def"]),
    ("name_nodes", .texts ["id"])]

/-- A name of one character. -/
def letter (start row : Nat) : Node := ⟨"id", start, start + 1, row, [], []⟩

/-- The tree of the text `A f g`. -/
def tree : Node :=
  ⟨"module", 0, 5, 0, [⟨"class", 0, 5, 0, [letter 0 0, ⟨"def", 2, 3, 1, [letter 2 1], []⟩,
    ⟨"def", 4, 5, 2, [⟨"def", 4, 5, 2, [letter 4 2], []⟩], []⟩], []⟩], []⟩

/-- A world with a parser for the language. -/
def world : World where
  disk := ⟨.folder [], ⟨.root, []⟩⟩
  git := {}
  packages := []
  answers := []
  console := .lenient
  modules := []
  parserProblem? := fun language => if language = "toy" then none else some "no parser"
  parsed := [⟨"toy", "A f g", tree⟩]
  catalogue := .standard

/-- An extractor that fails for functions. -/
def extractor : Extractor :=
  ⟨"toy", false, fun _ _ _ => .error .noTypeName, fun _ _ _ => .ok "type A"⟩

/-- A session with the entry and the extractor. -/
def session : Session :=
  ⟨world, some ⟨[entry], .list [], .list []⟩, [], [("toy", extractor)], [], []⟩

theorem usable : entry.Usable := ⟨trivial, trivial, trivial, [], rfl⟩

theorem parses : session.Parses "toy" "A f g" entry tree := ⟨rfl, rfl, rfl⟩

end Toy

theorem symbolsOfText_eq_outline_toy :
    Toy.entry.Usable ∧ Toy.session.Parses "toy" "A f g" Toy.entry Toy.tree ∧
    ∃ arrangement : List Arrangement,
      (Arrangement.preorderAll arrangement).map (·.node.row) = [0, 1] ∧
      (Arrangement.preorderAll arrangement).Nodup ∧
      (∀ o ∈ arrangement, o.Nested Toy.entry none) ∧
      ∃ forest after, Run.symbolsOfText "A f g" "toy" Toy.session = (.ok forest, after) ∧
        Symbol.bareAll forest = Arrangement.symbols Toy.entry "toy" "A f g" arrangement := by
  obtain ⟨arrangement, hpreorder, hnodup, hnested, hsymbols⟩ :=
    symbolsOfText_eq_outline Toy.entry Toy.usable "toy" "A f g" Toy.tree
  obtain ⟨htotal, hfound⟩ := hsymbols Toy.session Toy.parses
  obtain ⟨forest, after, hforest⟩ := htotal (Run.unrefused_of_lenient _ rfl)
  refine ⟨Toy.usable, Toy.parses, arrangement, ?_, hnodup, hnested, forest, after, hforest,
    hfound forest after hforest⟩
  rw [hpreorder]
  rfl

end SourceOutline
