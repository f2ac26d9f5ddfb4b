import SourceOutline.Proofs.Declarations

/-!
# Declarations without a symbol

An entry names kinds of nodes for types, interfaces and functions, so a text *promises* a symbol for
each such node that has a name. Not all promises are kept: nodes that are only listed as interfaces
have no symbols, and nothing is shown inside a declaration without a name.
-/

namespace SourceOutline

namespace LanguageEntry

/-- Whether a node declares a type, an interface or a function, and a name for it. -/
def promises (entry : LanguageEntry) (text : String) (node : Node) : Bool :=
  (entry.declares node || entry.interfaceNodes.lists node.kind) &&
    (entry.nameIn? text node).isSome

variable {entry : LanguageEntry} {text : String} {place : Place}

/-- What is shown is promised. -/
theorem promises_of_shows (h : entry.shows text place) : entry.promises text place.node := by
  simp only [shows, Place.line, List.any_cons, Bool.not_or, Bool.and_eq_true, hides] at h
  obtain ⟨hdeclares, hname, -⟩ := h
  simpa [promises, hdeclares, Option.isSome_iff_ne_none] using hname

/-- What is promised is shown when it is more than an interface and when every declaration around
it has a name. -/
theorem shows_iff_of_promises (h : entry.promises text place.node) :
    entry.shows text place ↔ entry.declares place.node ∧
      ∀ p ∈ place.above, entry.declares p.node → (entry.nameIn? text p.node).isSome := by
  have hself : entry.hides text place.node = false := by
    simp only [promises, Bool.and_eq_true] at h
    simp [hides, h.2]
  have hhides (p : Place) : entry.hides text p.node = false ↔
      (entry.declares p.node → (entry.nameIn? text p.node).isSome) := by
    simp [hides, Option.isSome_iff_ne_none]
  simp only [shows, Place.line, List.any_cons, hself, Bool.false_or, Bool.and_eq_true,
    Bool.not_eq_true', List.any_eq_false, Bool.not_eq_true, hhides]

/-- As many places are shown as are promised just when all that are promised are shown. -/
theorem length_filter_shows_iff (places : List Place) :
    (places.filter (entry.shows text)).length =
        (places.filter fun p => entry.promises text p.node).length ↔
      ∀ place ∈ places, entry.promises text place.node → entry.shows text place := by
  have hfilter : places.filter (entry.shows text) =
      (places.filter fun p => entry.promises text p.node).filter (entry.shows text) := by
    rw [List.filter_filter]
    refine List.filter_congr fun place _ => ?_
    rw [Bool.eq_iff_iff, Bool.and_eq_true]
    exact ⟨fun h => ⟨h, promises_of_shows h⟩, fun h => h.1⟩
  rw [hfilter, List.length_filter_eq_length_iff]
  simp only [List.mem_filter, and_imp]

theorem kindAt_ne_interface (entry : LanguageEntry) (place : Place) :
    entry.kindAt place ≠ .interface := by
  rw [kindAt]
  split
  · simp
  · split <;> simp

end LanguageEntry

/-- Of the declarations that a text promises, a symbol is found for exactly those whose kind is more
than that of an interface and around which every declaration has a name. No symbol is an interface.
So there are as many symbols as promised declarations just when all of them are of this sort. -/
theorem symbolsOfText_shows_promised_iff {session : Session} {language text : String}
    {entry : LanguageEntry} {tree : Node} (h : session.Parses language text entry tree) :
    (entry.Usable → (Run.symbolsOfText text language).Unrefused session → ∃ forest after,
      Run.symbolsOfText text language session = (.ok forest, after)) ∧
    ∀ forest after, Run.symbolsOfText text language session = (.ok forest, after) →
      (∃ origins : List Place, origins.Sublist tree.places ∧ origins.Nodup ∧
        (Symbol.preorderAll forest).map Symbol.bare =
          origins.map (fun place => Arrangement.symbolAt entry language text place []) ∧
        ∀ place ∈ tree.places, entry.promises text place.node →
          (place ∈ origins ↔ entry.declares place.node ∧
            ∀ p ∈ place.above, entry.declares p.node → (entry.nameIn? text p.node).isSome)) ∧
      (∀ symbol ∈ Symbol.preorderAll forest, symbol.kind ≠ .interface) ∧
      (Symbol.sizeAll forest = (tree.places.filter fun p => entry.promises text p.node).length ↔
        ∀ place ∈ tree.places, entry.promises text place.node → entry.declares place.node ∧
          ∀ p ∈ place.above, entry.declares p.node → (entry.nameIn? text p.node).isSome) := by
  refine ⟨Run.symbolsOfText_total h, fun forest after hforest => ?_⟩
  have hpreorder := Run.preorderAll_symbolsOfText h hforest
  refine ⟨⟨tree.places.filter (entry.shows text), List.filter_sublist,
    tree.nodup_places.filter _, hpreorder, ?_⟩, ?_, ?_⟩
  · intro place hplace hpromises
    rw [List.mem_filter, and_iff_right hplace]
    exact LanguageEntry.shows_iff_of_promises hpromises
  · intro symbol hsymbol
    have hbare := List.mem_map_of_mem (f := Symbol.bare) hsymbol
    rw [hpreorder] at hbare
    obtain ⟨place, -, hplace⟩ := List.mem_map.1 hbare
    rw [← Symbol.kind_bare, ← hplace]
    exact entry.kindAt_ne_interface place
  · have hsize := congrArg List.length hpreorder
    rw [List.length_map, List.length_map, Symbol.length_preorderAll] at hsize
    rw [hsize, LanguageEntry.length_filter_shows_iff]
    constructor
    · intro hall place hplace hpromises
      exact (LanguageEntry.shows_iff_of_promises hpromises).1 (hall place hplace hpromises)
    · intro hall place hplace hpromises
      exact (LanguageEntry.shows_iff_of_promises hpromises).2 (hall place hplace hpromises)

theorem symbolsOfText_shows_promised_iff_toy :
    Toy.session.Parses "toy" "A f g" Toy.entry Toy.tree ∧
    ∃ forest after, Run.symbolsOfText "A f g" "toy" Toy.session = (.ok forest, after) ∧
      (∃ origins : List Place, origins.Sublist Toy.tree.places ∧ origins.Nodup ∧
        (Symbol.preorderAll forest).map Symbol.bare =
          origins.map fun place => Arrangement.symbolAt Toy.entry "toy" "A f g" place []) ∧
      ∀ symbol ∈ Symbol.preorderAll forest, symbol.kind ≠ .interface := by
  obtain ⟨htotal, hfound⟩ := symbolsOfText_shows_promised_iff Toy.parses
  obtain ⟨forest, after, hforest⟩ := htotal Toy.usable (Run.unrefused_of_lenient _ rfl)
  obtain ⟨⟨origins, hsublist, hnodup, horigins, -⟩, hkinds, -⟩ := hfound forest after hforest
  exact ⟨Toy.parses, forest, after, hforest, ⟨origins, hsublist, hnodup, horigins⟩, hkinds⟩

/-! ### An interface, and a function in a function without a name -/

namespace Script

/-- A text in TypeScript. -/
def text : String := "interface P {}\n() => { function g() {} }"

/-- The tree of the text. -/
def tree : Node :=
  ⟨"program", 0, 40, 0,
    [⟨"interface_declaration", 0, 14, 0, [⟨"type_identifier", 10, 11, 0, [], []⟩], []⟩,
      ⟨"arrow_function", 15, 40, 1,
        [⟨"function_declaration", 23, 38, 1, [⟨"identifier", 32, 33, 1, [], []⟩], []⟩], []⟩], []⟩

/-- A world with a parser for TypeScript. -/
def world : World where
  disk := ⟨.folder [], ⟨.root, []⟩⟩
  git := {}
  packages := []
  answers := []
  console := .lenient
  modules := []
  parserProblem? := fun language => if language = "typescript" then none else some "no parser"
  parsed := [⟨"typescript", text, tree⟩]
  catalogue := .standard

end Script

/-- Two declarations are promised, and no symbol is found. -/
theorem script_symbols_lost :
    (Run.symbolsOfText Script.text "typescript" (.start Script.world)).1 = .ok [] ∧
    (Script.tree.places.filter fun p =>
        Catalogue.Standard.typescript.promises Script.text p.node).map (·.node.kind) =
      ["interface_declaration", "function_declaration"] := ⟨rfl, rfl⟩

end SourceOutline
