import Mathlib.Algebra.BigOperators.Group.List.Basic
import Mathlib.Algebra.Order.Ring.Int
import SourceOutline.Proofs.Declarations
import SourceOutline.Proofs.Survey
import SourceOutline.Proofs.Views

/-!
# Counted lines and shown lines

Whether a file keeps the symbols inside other symbols is decided by the number of its symbols
(`Symbol.sizeAll`). What is shown of the file is made by the outline, and is as long as that number
says: there is one entry for the file and one for each symbol (`Outline.length_fileLines`). An entry
takes one line for each line of what it shows, since the lines of a long signature are moved, but
none of them is lost or made (`Outline.lineFeeds_alignLines`).
-/

namespace SourceOutline

namespace Text

/-- The number of line feeds in a text. -/
def lineFeeds (s : String) : Nat := s.toList.count '\n'

@[simp] theorem lineFeeds_append (s t : String) :
    lineFeeds (s ++ t) = lineFeeds s + lineFeeds t := by
  simp [lineFeeds]

theorem lineFeeds_eq_zero {s : String} (h : '\n' ∉ s.toList) : lineFeeds s = 0 :=
  List.count_eq_zero.2 h

/-- A line of a text has no line feed in it. -/
theorem lineFeeds_of_mem_lines {s line : String} (h : line ∈ lines s) : lineFeeds line = 0 := by
  obtain ⟨piece, hpiece, rfl⟩ := List.mem_map.1 h
  refine lineFeeds_eq_zero ?_
  rw [String.toList_ofList]
  exact not_mem_of_mem_splitOn hpiece

/-- A text that is joined from others has their line feeds and those between them. -/
theorem lineFeeds_intercalate (first : String) (rest : List String) :
    lineFeeds (String.intercalate "\n" (first :: rest)) =
      rest.length + ((first :: rest).map lineFeeds).sum := by
  have hfeed : "\n".toList = ['\n'] := rfl
  rw [lineFeeds, String.toList_intercalate, hfeed]
  induction rest generalizing first with
  | nil => simp [lineFeeds]
  | cons second rest ih =>
    have hrest := ih second
    rw [List.map_cons, List.map_cons, List.intercalate_cons_cons, List.count_append,
      List.count_append, ← List.map_cons, hrest]
    simp only [List.map_cons, List.sum_cons, List.length_cons, List.count_singleton_self, lineFeeds]
    omega

end Text

namespace Outline

open Text (lineFeeds lineFeeds_append lineFeeds_intercalate)

/-! ## The lines of a symbol -/

/-- A text of spaces. -/
def spaces (width : Nat) : String := String.ofList (List.replicate width ' ')

theorem lineFeeds_spaces (width : Nat) : lineFeeds (spaces width) = 0 := by
  refine Text.lineFeeds_eq_zero ?_
  rw [spaces, String.toList_ofList]
  intro hmem
  exact absurd (List.eq_of_mem_replicate hmem) (by decide)

theorem lineFeeds_indent (depth : Nat) : lineFeeds (indent depth) = 0 :=
  lineFeeds_spaces (2 * depth)

/-- Taking blanks away from the start of a line makes no new lines. -/
theorem lineFeeds_trimStart {line : String} (h : lineFeeds line = 0) :
    lineFeeds (Text.trimStart line) = 0 := by
  refine Text.lineFeeds_eq_zero fun hmem => ?_
  rw [Text.trimStart, Text.trimStartBy, String.toList_ofList] at hmem
  have hline : '\n' ∈ line.toList := (List.dropWhile_sublist _).mem hmem
  exact absurd h (Nat.pos_iff_ne_zero.1 (List.count_pos_iff.2 hline))

/-- Moving the lines of a text leaves their number as it is. -/
theorem lineFeeds_alignLines {base : String} (hbase : lineFeeds base = 0) (text : String) :
    lineFeeds (alignLines base text) = lineFeeds text := by
  have hlength := Text.length_lines text
  rw [alignLines]
  split
  · rfl
  · next first rest hlines =>
    have hmoved : ∀ n ∈ (first :: rest.map fun line =>
        if (Text.trimStart line).isEmpty then "" else base ++ Text.trimStart line).map lineFeeds,
        n = 0 := by
      have hone {line : String} (hline : line ∈ Text.lines text) : lineFeeds line = 0 :=
        Text.lineFeeds_of_mem_lines hline
      rw [hlines] at hone
      simp only [List.map_cons, List.map_map, List.forall_mem_cons, List.forall_mem_map,
        Function.comp_apply]
      refine ⟨hone List.mem_cons_self, fun line hline => ?_⟩
      have htrimmed := lineFeeds_trimStart (hone (List.mem_cons_of_mem _ hline))
      split
      · rfl
      · rw [lineFeeds_append, hbase, htrimmed]
    rw [lineFeeds_intercalate, List.sum_eq_zero hmoved, List.length_map]
    rw [hlines, List.length_cons] at hlength
    exact Nat.succ.inj hlength

theorem lineFeeds_symbolLine (depth : Nat) (symbol : Symbol) :
    lineFeeds (symbolLine depth symbol) = lineFeeds (symbolText symbol) := by
  rw [symbolLine, lineFeeds_append, lineFeeds_alignLines (lineFeeds_indent depth),
    lineFeeds_indent, Nat.zero_add]

/-! ## The lines of a file -/

theorem length_levels (depth : Nat) (forest : List Symbol) :
    (Symbol.levels depth forest).length = Symbol.sizeAll forest := by
  rw [← Symbol.length_preorderAll, ← Symbol.map_snd_levels depth, List.length_map]

/-- There is one entry for a file and one for each symbol in it. -/
theorem length_fileLines (depth : Nat) (file : FileRecord) :
    (fileLines depth file).length = 1 + Symbol.sizeAll file.symbols := by
  rw [fileLines_eq, List.length_cons, List.length_map, length_levels, Nat.add_comm]

/-- The line feeds in what is shown of a file beside those between the entries. -/
def innerFeeds (depth : Nat) (file : FileRecord) : Nat :=
  lineFeeds (fileHead depth file) +
    ((Symbol.preorderAll file.symbols).map fun symbol => lineFeeds (symbolText symbol)).sum

theorem total_lineFeeds_fileLines (depth : Nat) (file : FileRecord) :
    ((fileLines depth file).map lineFeeds).sum = innerFeeds depth file := by
  rw [fileLines_eq, List.map_cons, List.sum_cons, innerFeeds,
    ← Symbol.map_snd_levels (depth + 1), List.map_map, List.map_map]
  simp only [Function.comp_def, lineFeeds_symbolLine]

/-- A file takes as many lines as it has entries, and one more for each line feed in what they
show. -/
theorem length_lines_fileLines (depth : Nat) (file : FileRecord) :
    (Text.lines (String.intercalate "\n" (fileLines depth file))).length =
      (1 + Symbol.sizeAll file.symbols) + innerFeeds depth file := by
  have hlength := length_fileLines depth file
  have hinner := total_lineFeeds_fileLines depth file
  rw [Text.length_lines, ← lineFeeds]
  rw [fileLines_eq] at hlength hinner ⊢
  rw [lineFeeds_intercalate, hinner, ← hlength, List.length_cons]
  omega

end Outline

namespace Survey

variable {s t : Session}

/-! ## The budget -/

/-- Without a catalogue to work with there is no record of a file. -/
theorem fileRecord_of_no_catalogue {path : Path} {language : String} (budget : Int) {fault : Fault}
    {symbols : List Symbol} {r : Session} (hcatalogue : s.currentCatalogue = .error fault)
    (hsymbols : fileSymbols path language s = (.ok symbols, r)) :
    ∃ t, fileRecord path language (some budget) s = (.error fault, t) := by
  have hr : r.situation = s.situation := (extracts_fileSymbols path language).keeps.of_eq hsymbols
  have hcat : Run.catalogue r = (.error fault, (Run.catalogue r).2) := by
    refine Prod.ext ?_ rfl
    rw [Run.catalogue_fst, Session.currentCatalogue_eq_of_situation hr, hcatalogue]
  have hentry : Run.entryFor language r = (.error fault, (Run.catalogue r).2) := bind_of_error hcat
  refine ⟨(Run.catalogue r).2, ?_⟩
  rw [fileRecord, bind_of_ok hsymbols, bind_of_ok (Run.disk_apply r), withinBudget,
    bind_of_ok (Run.ofExcept_apply _ r), bind_of_error hentry]

/-- The symbols within a budget. -/
def budgeted (budget : Int) (forest : List Symbol) : List Symbol :=
  if (Symbol.sizeAll forest : Int) ≤ budget then forest else Symbol.topLevel forest

/-- The symbols within a budget are not more than the budget or than the symbols at the top. -/
theorem sizeAll_budgeted_le (budget : Int) (forest : List Symbol) :
    (Symbol.sizeAll (budgeted budget forest) : Int) ≤ max budget forest.length := by
  rw [budgeted]
  split
  · omega
  · rw [Symbol.sizeAll_topLevel]
    omega

theorem fileRecord_budgeted {path : Path} {language : String} (budget : Int) {catalogue : Catalogue}
    {forest : List Symbol} {r : Session} (hcatalogue : s.currentCatalogue = .ok catalogue)
    (hforest : fileSymbols path language s = (.ok forest, r)) :
    ∃ record t, fileRecord path language (some budget) s = (.ok record, t) ∧
      record.symbols = budgeted budget forest := by
  obtain ⟨t, hrecord⟩ := fileRecord_eq budget hcatalogue hforest
  refine ⟨_, t, hrecord, ?_⟩
  have hexceeds : budget < Symbol.sizeAll forest ↔ ¬(Symbol.sizeAll forest : Int) ≤ budget :=
    Int.not_le.symm
  simp only [budgeted, hexceeds, ite_not]

/-- What is shown of a file has one entry for the file and one for each symbol, as they are counted,
and one line for each entry and for each line feed in what the entries show. A file is read in any
case in which the console shows what it is told. With a catalogue to work with, and only then, there
is a record of it. The record has all symbols of the file when they are not more than the budget,
and otherwise those at the top without what is in them, so that it is never longer than the budget
or than these. -/
theorem line_budget_holds :
    (∀ (depth : Nat) (file : FileRecord),
      (Outline.fileLines depth file).length = 1 + Symbol.sizeAll file.symbols ∧
      (Text.lines (String.intercalate "\n" (Outline.fileLines depth file))).length =
        (1 + Symbol.sizeAll file.symbols) +
          (Text.lineFeeds (Outline.fileHead depth file) +
            ((Symbol.preorderAll file.symbols).map fun symbol =>
              Text.lineFeeds (Outline.symbolText symbol)).sum)) ∧
    ∀ (path : Path) (language : String) (budget : Int) (session : Session),
      ((fileSymbols path language).Unrefused session →
        ∃ forest, (fileSymbols path language session).1 = .ok forest) ∧
      ∀ forest, (fileSymbols path language session).1 = .ok forest →
        ((∃ record, (fileRecord path language (some budget) session).1 = .ok record) ↔
          ∃ catalogue, session.currentCatalogue = .ok catalogue) ∧
        ∀ record, (fileRecord path language (some budget) session).1 = .ok record →
          ((Symbol.sizeAll forest : Int) ≤ budget → record.symbols = forest) ∧
          (¬(Symbol.sizeAll forest : Int) ≤ budget →
            record.symbols = forest.map fun symbol => { symbol with children := [] }) ∧
          (Symbol.sizeAll record.symbols : Int) ≤ max budget forest.length := by
  refine ⟨fun depth file => ?_, fun path language budget session => ?_⟩
  · exact ⟨Outline.length_fileLines depth file, Outline.length_lines_fileLines depth file⟩
  · refine ⟨fun hshown => ?_, fun forest hfound => ?_⟩
    · obtain ⟨forest, r, hforest⟩ := fileSymbols_total path language session.lenient_openly
      rw [(extracts_fileSymbols path language).apply_eq hshown, hforest]
      exact ⟨forest, rfl⟩
    have hforest : fileSymbols path language session = (.ok forest, _) := Prod.ext hfound rfl
    cases hcatalogue : session.currentCatalogue with
    | error fault =>
      obtain ⟨t, hfails⟩ := fileRecord_of_no_catalogue budget hcatalogue hforest
      rw [hfails]
      exact ⟨by simp, by simp⟩
    | ok catalogue =>
      obtain ⟨record, t, hrecord, hsymbols⟩ := fileRecord_budgeted budget hcatalogue hforest
      rw [hrecord]
      refine ⟨⟨fun _ => ⟨catalogue, rfl⟩, fun _ => ⟨record, rfl⟩⟩, ?_⟩
      rintro _ ⟨⟩
      rw [hsymbols]
      refine ⟨fun hfits => if_pos hfits, fun hexceeds => if_neg hexceeds, ?_⟩
      exact sizeAll_budgeted_le budget forest

/-! ### A class with a method, and a budget of one line -/

namespace Short

/-- The file with the text `A f g`. -/
def path : Path := .ofString "/a"

/-- A session with this file and with the tree of its text. -/
def session : Session :=
  { Toy.session with
    world := { Toy.world with
      disk := ⟨.folder [("a", .file ⟨#[65, 32, 102, 32, 103]⟩)], ⟨.root, []⟩⟩ } }

theorem sizeAll_symbols :
    (fileSymbols path "toy" session).1.toOption.map Symbol.sizeAll = some 2 := by
  decide +kernel

end Short

theorem line_budget_holds_short :
    ∃ forest record, (fileSymbols Short.path "toy" Short.session).1 = .ok forest ∧
      ¬(Symbol.sizeAll forest : Int) ≤ 1 ∧
      (fileRecord Short.path "toy" (some 1) Short.session).1 = .ok record ∧
      (record.symbols = forest.map fun symbol => { symbol with children := [] }) ∧
      (Symbol.sizeAll record.symbols : Int) ≤ max 1 (forest.length : Int) := by
  obtain ⟨hread, hrecords⟩ := line_budget_holds.2 Short.path "toy" 1 Short.session
  obtain ⟨forest, hforest⟩ := hread (Run.unrefused_of_lenient _ rfl)
  obtain ⟨hmade, hrecord⟩ := hrecords forest hforest
  obtain ⟨record, hmade⟩ := hmade.2 ⟨_, rfl⟩
  have hsize := Short.sizeAll_symbols
  rw [hforest] at hsize
  have hexceeds : ¬(Symbol.sizeAll forest : Int) ≤ 1 := by
    rw [Option.some.inj hsize]
    decide
  obtain ⟨-, htop, hmax⟩ := hrecord record hmade
  exact ⟨forest, record, hforest, hexceeds, hmade, htop hexceeds, hmax⟩

end Survey

end SourceOutline
