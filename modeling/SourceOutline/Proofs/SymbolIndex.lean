import Mathlib.Algebra.Order.Ring.Int
import Mathlib.Data.List.Nodup
import Mathlib.Data.List.Perm.Basic
import SourceOutline.Proofs.Forests
import SourceOutline.Report.Listing

/-!
# The index of symbols

The index of symbols is made from one list: the symbols at the top of each file, with the path of
the file, in the order of the files (`Summary.symbolIndex_eq`). For each kind it has the entries of
the symbols of this kind in that list, in the same order. What is in other symbols is not in the
list, so the index is complete exactly when no symbol has others in it.
-/

namespace SourceOutline

/-- The entry of a symbol of a file. -/
def IndexEntry.ofSymbol (file : String) (symbol : Symbol) : IndexEntry :=
  ⟨symbol.name, file, symbol.line, symbol.signature, symbol.language⟩

/-- The symbols at the top of some files, each with the path of its file. -/
def topSymbols (files : List FileRecord) : List (String × Symbol) :=
  files.flatMap fun file => (Symbol.topLevel file.symbols).map (file.path, ·)

/-- All symbols of some files, each with the path of its file. -/
def allSymbols (files : List FileRecord) : List (String × Symbol) :=
  files.flatMap fun file => (Symbol.preorderAll file.symbols).map (file.path, ·)

/-- The entries of the symbols of a kind. -/
def entriesOf (kind : SymbolKind) (located : List (String × Symbol)) : List IndexEntry :=
  (located.filter (·.2.kind == kind)).map fun (file, symbol) => .ofSymbol file symbol

namespace SymbolIndex

/-! ## Adding entries -/

/-- The entries of a kind. -/
def entries (index : SymbolIndex) (kind : SymbolKind) : List IndexEntry :=
  (index.lookup kind).getD []

/-- Each kind stands once in an index, and has an entry. -/
structure Proper (index : SymbolIndex) : Prop where
  distinct : (index.map (·.1)).Nodup
  filled : ∀ group ∈ index, group.2 ≠ []

/-- The number of entries. -/
def size (index : SymbolIndex) : Nat := (index.map (·.2.length)).sum

theorem entries_cons (group : SymbolKind × List IndexEntry) (rest : SymbolIndex)
    (kind : SymbolKind) :
    entries (group :: rest) kind = if group.1 = kind then group.2 else entries rest kind := by
  rw [entries, entries, List.lookup_cons]
  by_cases h : group.1 = kind
  · simp [h]
  · have hne : (kind == group.1) = false := by simpa using Ne.symm h
    simp [h, hne]

theorem entries_add (kind other : SymbolKind) (entry : IndexEntry) (index : SymbolIndex) :
    (add kind entry index).entries other =
      index.entries other ++ if kind = other then [entry] else [] := by
  induction index with
  | nil =>
    rw [add, entries_cons]
    rfl
  | cons group rest ih =>
    rw [add]
    by_cases hgroup : group.1 = kind
    · rw [if_pos hgroup, entries_cons, entries_cons, hgroup]
      by_cases hother : kind = other
      · simp [hother]
      · simp [hother]
    · rw [if_neg hgroup, entries_cons, entries_cons, ih]
      by_cases hother : group.1 = other
      · have hne : kind ≠ other := fun h => hgroup (hother.trans h.symm)
        simp [hother, hne]
      · simp [hother]

theorem size_add (kind : SymbolKind) (entry : IndexEntry) (index : SymbolIndex) :
    (add kind entry index).size = index.size + 1 := by
  induction index with
  | nil => rfl
  | cons group rest ih =>
    rw [add]
    split
    · simp only [size, List.map_cons, List.sum_cons, List.length_append, List.length_singleton]
      omega
    · simp only [size, List.map_cons, List.sum_cons] at ih ⊢
      omega

/-- The kinds of an index after one more entry. -/
theorem map_fst_add (kind : SymbolKind) (entry : IndexEntry) (index : SymbolIndex) :
    (add kind entry index).map (·.1) =
      if kind ∈ index.map (·.1) then index.map (·.1) else index.map (·.1) ++ [kind] := by
  induction index with
  | nil => rfl
  | cons group rest ih =>
    rw [add]
    by_cases hgroup : group.1 = kind
    · simp [hgroup]
    · rw [if_neg hgroup, List.map_cons, ih]
      by_cases hmem : kind ∈ rest.map (·.1)
      · simp [hmem]
      · simp [hmem, Ne.symm hgroup]

theorem proper_nil : Proper [] := ⟨List.nodup_nil, List.forall_mem_nil _⟩

theorem Proper.add {index : SymbolIndex} (h : index.Proper) (kind : SymbolKind)
    (entry : IndexEntry) : (add kind entry index).Proper := by
  refine ⟨?_, ?_⟩
  · rw [map_fst_add]
    split
    · exact h.distinct
    · next hnew =>
      refine List.nodup_append.2 ⟨h.distinct, List.nodup_singleton _, ?_⟩
      rintro other hother _ hkind rfl
      exact hnew (List.mem_singleton.1 hkind ▸ hother)
  · have hfilled := h.filled
    clear h
    induction index with
    | nil => simp [SymbolIndex.add]
    | cons group rest ih =>
      rw [List.forall_mem_cons] at hfilled
      rw [SymbolIndex.add]
      split
      · exact List.forall_mem_cons.2 ⟨by simp, hfilled.2⟩
      · exact List.forall_mem_cons.2 ⟨hfilled.1, ih hfilled.2⟩

/-! ## Adding symbols -/

/-- Adds the entries of some symbols with the paths of their files. -/
def addLocated (index : SymbolIndex) (located : List (String × Symbol)) : SymbolIndex :=
  located.foldl (fun index (file, symbol) => add symbol.kind (.ofSymbol file symbol) index) index

theorem addLocated_cons (index : SymbolIndex) (first : String × Symbol)
    (rest : List (String × Symbol)) :
    index.addLocated (first :: rest) =
      (add first.2.kind (.ofSymbol first.1 first.2) index).addLocated rest := rfl

theorem addLocated_append (index : SymbolIndex) (first second : List (String × Symbol)) :
    index.addLocated (first ++ second) = (index.addLocated first).addLocated second :=
  List.foldl_append

mutual

theorem addSymbol_eq (file : String) (index : SymbolIndex) : (symbol : Symbol) →
    addSymbol file index symbol = index.addLocated (symbol.preorder.map (file, ·))
  | ⟨name, kind, line, signature, language, children⟩ => by
    rw [addSymbol, addForest_eq file _ children, Symbol.preorder]
    rfl

/-- Adding a forest adds all symbols in it, one after the other. -/
theorem addForest_eq (file : String) (index : SymbolIndex) : (forest : List Symbol) →
    addForest file index forest = index.addLocated ((Symbol.preorderAll forest).map (file, ·))
  | [] => by
    rw [addForest, Symbol.preorderAll]
    rfl
  | symbol :: rest => by
    rw [addForest, addSymbol_eq file index symbol, addForest_eq file _ rest, Symbol.preorderAll,
      List.map_append, addLocated_append]

end

theorem entries_addLocated (kind : SymbolKind) (located : List (String × Symbol))
    (index : SymbolIndex) :
    (index.addLocated located).entries kind = index.entries kind ++ entriesOf kind located := by
  induction located generalizing index with
  | nil => simp [addLocated, entriesOf]
  | cons first rest ih =>
    rw [addLocated_cons, ih, entries_add, entriesOf, entriesOf, List.filter_cons]
    by_cases h : first.2.kind = kind
    · simp [h]
    · simp [h]

theorem size_addLocated (located : List (String × Symbol)) (index : SymbolIndex) :
    (index.addLocated located).size = index.size + located.length := by
  induction located generalizing index with
  | nil => rfl
  | cons first rest ih =>
    rw [addLocated_cons, ih, size_add, List.length_cons]
    omega

theorem Proper.addLocated {index : SymbolIndex} (h : index.Proper)
    (located : List (String × Symbol)) : (index.addLocated located).Proper := by
  induction located generalizing index with
  | nil => exact h
  | cons first rest ih => exact ih (h.add first.2.kind (.ofSymbol first.1 first.2))

end SymbolIndex

/-! ## The symbols at the top, and all symbols -/

theorem length_topSymbols (files : List FileRecord) :
    (topSymbols files).length = (files.map (·.symbols.length)).sum := by
  induction files with
  | nil => rfl
  | cons file rest ih =>
    rw [topSymbols, List.flatMap_cons, List.length_append, ← topSymbols, ih]
    simp [Symbol.topLevel]

theorem length_allSymbols (files : List FileRecord) :
    (allSymbols files).length = (files.map fun file => Symbol.sizeAll file.symbols).sum := by
  induction files with
  | nil => rfl
  | cons file rest ih =>
    rw [allSymbols, List.flatMap_cons, List.length_append, ← allSymbols, ih, List.length_map,
      Symbol.length_preorderAll, List.map_cons, List.sum_cons]

theorem topSymbols_sublist_allSymbols (files : List FileRecord) :
    (topSymbols files).Sublist (allSymbols files) :=
  .flatMap_right files fun file _ => (Symbol.topLevel_sublist_preorderAll file.symbols).map _

/-- No symbol of the files has others in it. -/
def Flat (files : List FileRecord) : Prop :=
  ∀ file ∈ files, ∀ symbol ∈ file.symbols, symbol.children = []

/-- There are as many symbols at the top as there are symbols exactly when none has others in it. -/
theorem length_topSymbols_eq_iff (files : List FileRecord) :
    (topSymbols files).length = (allSymbols files).length ↔ Flat files := by
  rw [length_topSymbols, length_allSymbols, Flat]
  induction files with
  | nil => simp
  | cons file rest ih =>
    have hfile := Symbol.length_le_sizeAll file.symbols
    have hrest : (rest.map (·.symbols.length)).sum ≤
        (rest.map fun file => Symbol.sizeAll file.symbols).sum := by
      rw [← length_topSymbols, ← length_allSymbols]
      exact (topSymbols_sublist_allSymbols rest).length_le
    rw [List.forall_mem_cons, ← ih, ← Symbol.sizeAll_eq_length_iff]
    simp only [List.map_cons, List.sum_cons]
    omega

/-- The symbols at the top have for each kind the entries of all symbols exactly when no symbol has
others in it. -/
theorem entriesOf_topSymbols_perm_iff (files : List FileRecord) :
    (∀ kind, (entriesOf kind (topSymbols files)).Perm (entriesOf kind (allSymbols files))) ↔
      Flat files := by
  have hsublist := topSymbols_sublist_allSymbols files
  rw [← length_topSymbols_eq_iff]
  constructor
  · intro hperm
    by_contra hne
    -- A symbol that is missing at the top is missing in the entries of its kind.
    obtain ⟨missing, hmissing⟩ := hsublist.subperm.exists_of_length_lt
      (Nat.lt_of_le_of_ne hsublist.length_le hne)
    have hmore := (hmissing.filter (·.2.kind == missing.2.kind)).length_le
    have hsame := (hperm missing.2.kind).length_eq
    simp only [entriesOf, List.length_map] at hsame
    simp only [List.filter_cons, beq_self_eq_true, if_true, List.length_cons] at hmore
    omega
  · intro hlength kind
    rw [hsublist.eq_of_length hlength]

namespace Summary

/-- The index is made from the symbols at the top of the files. -/
theorem symbolIndex_eq (summary : Summary) :
    summary.symbolIndex = SymbolIndex.addLocated [] (topSymbols summary.folder.allFiles) := by
  have hfold (files : List FileRecord) (index : SymbolIndex) :
      files.foldl (fun index file =>
        SymbolIndex.addForest file.path index (Symbol.topLevel file.symbols)) index =
      index.addLocated (topSymbols files) := by
    induction files generalizing index with
    | nil => rfl
    | cons file rest ih =>
      rw [List.foldl_cons, ih, SymbolIndex.addForest_eq, Symbol.preorderAll_topLevel, topSymbols,
        topSymbols, List.flatMap_cons, SymbolIndex.addLocated_append]
  exact hfold _ _

/-- What the index of a summary has, and when that is all there is. -/
structure IndexesTop (summary : Summary) (index : SymbolIndex) : Prop where
  /-- Each kind has an entry for each symbol of this kind at the top of a file, in the order of the
  files and the symbols, and no others. -/
  entries : ∀ kind, index.entries kind = entriesOf kind (topSymbols summary.folder.allFiles)
  /-- Each kind stands there once, and only when it has an entry. -/
  proper : index.Proper
  /-- There are as many entries as there are symbols at the top. -/
  size : index.size = (summary.folder.allFiles.map (·.symbols.length)).sum
  /-- Each kind has an entry for each symbol of this kind, wherever it is, exactly when no symbol
  has others in it. -/
  complete : (∀ kind, (index.entries kind).Perm
    (entriesOf kind (allSymbols summary.folder.allFiles))) ↔ Flat summary.folder.allFiles
  /-- There are as many entries as there are symbols exactly when no symbol has others in it. -/
  counted : index.size =
    (summary.folder.allFiles.map fun file => Symbol.sizeAll file.symbols).sum ↔
      Flat summary.folder.allFiles

theorem symbolIndex_indexesTop (summary : Summary) :
    IndexesTop summary summary.symbolIndex := by
  have hentries (kind : SymbolKind) : summary.symbolIndex.entries kind =
      entriesOf kind (topSymbols summary.folder.allFiles) := by
    rw [symbolIndex_eq, SymbolIndex.entries_addLocated]
    rfl
  have hsize : summary.symbolIndex.size = (topSymbols summary.folder.allFiles).length := by
    rw [symbolIndex_eq, SymbolIndex.size_addLocated]
    exact Nat.zero_add _
  refine ⟨hentries, ?_, ?_, ?_, ?_⟩
  · rw [symbolIndex_eq]
    exact SymbolIndex.proper_nil.addLocated _
  · rw [hsize, length_topSymbols]
  · simp only [hentries]
    exact entriesOf_topSymbols_perm_iff _
  · rw [hsize, ← length_allSymbols, length_topSymbols_eq_iff]

namespace Sample

/-- A class with a method in it. -/
def type : Symbol := ⟨"A", .classType, 1, none, none, [⟨"f", .method, 2, none, none, []⟩]⟩

/-- A summary of one file with this class. -/
def summary : Summary where
  name := "r"
  rootPath := "r"
  folder := ⟨".", ".", [⟨"a.py", "python", 2, [type], false⟩], [], []⟩
  languages := []
  supportedLanguages := []
  totalFiles := 0
  totalLines := 0

end Sample

/-- A method in a class has no entry. -/
theorem symbolIndex_lacks_method :
    entriesOf .method (allSymbols Sample.summary.folder.allFiles) =
      [⟨"f", "a.py", 2, none, none⟩] ∧
    Sample.summary.symbolIndex = [(.classType, [⟨"A", "a.py", 1, none, none⟩])] := ⟨rfl, rfl⟩

end Summary

end SourceOutline
