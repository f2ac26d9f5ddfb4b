import Mathlib.Data.List.DropRight
import SourceOutline.Proofs.LineBudget

/-!
# The lines of an outline

A symbol is one entry of the outline, but what is shown of it may have line feeds in it, so that it
takes several lines. The outline moves all of them to the depth of the symbol
(`Outline.shownAt_symbolLine`), and leaves them as they are apart from the blanks at their starts.
Moving the lines of a text once more changes nothing (`Outline.alignLines_alignLines`).
-/

namespace SourceOutline

namespace Text

/-! ## Lines of joined texts -/

/-- Characters before the first separator belong to the first piece. -/
theorem splitOn_append {sep : Char} {cs ds piece : List Char} {more : List (List Char)}
    (h : sep ∉ cs) (hds : ds.splitOn sep = piece :: more) :
    (cs ++ ds).splitOn sep = (cs ++ piece) :: more := by
  induction cs with
  | nil => exact hds
  | cons c cs ih =>
    rw [List.mem_cons, not_or] at h
    obtain ⟨hc, hcs⟩ := h
    have hne : ¬(c == sep) = true := by simpa using Ne.symm hc
    rw [List.cons_append, List.splitOn_cons_eq_if_modifyHead, if_neg hne, ih hcs]
    rfl

/-- A text goes on after a line feed. -/
theorem lines_append_feed (s t : String) : lines (s ++ "\n" ++ t) = lines s ++ lines t := by
  have hfeed : "\n".toList = ['\n'] := rfl
  rw [lines, String.toList_append, String.toList_append, hfeed, List.append_assoc,
    List.singleton_append, List.splitOn_append_cons_self, List.map_append]
  rfl

theorem lines_append {s t first : String} {rest : List String} (hs : lineFeeds s = 0)
    (ht : lines t = first :: rest) : lines (s ++ t) = (s ++ first) :: rest := by
  rw [lines, List.map_eq_cons_iff] at ht
  obtain ⟨piece, more, hsplit, rfl, rfl⟩ := ht
  rw [lines, String.toList_append, splitOn_append (List.count_eq_zero.1 hs) hsplit, List.map_cons,
    String.ofList_append, String.ofList_toList]

theorem lines_of_lineFeeds {s : String} (h : lineFeeds s = 0) : lines s = [s] := by
  have hempty : lines "" = [""] := rfl
  simpa using lines_append h hempty

/-- The lines of texts that are joined by line feeds are the lines of the texts. -/
theorem lines_intercalate (first : String) (rest : List String) :
    lines (String.intercalate "\n" (first :: rest)) = (first :: rest).flatMap lines := by
  induction rest generalizing first with
  | nil => simp
  | cons second rest ih =>
    rw [String.intercalate_cons_cons, lines_append_feed, ih]
    rfl

theorem flatMap_lines {items : List String} (h : ∀ item ∈ items, lineFeeds item = 0) :
    items.flatMap lines = items := by
  induction items with
  | nil => rfl
  | cons item items ih =>
    obtain ⟨hitem, hitems⟩ := List.forall_mem_cons.1 h
    rw [List.flatMap_cons, lines_of_lineFeeds hitem, ih hitems, List.singleton_append]

theorem exists_lines (s : String) : ∃ first rest, lines s = first :: rest := by
  cases h : lines s with
  | nil => exact absurd (List.map_eq_nil_iff.1 h) (List.splitOn_ne_nil _ _)
  | cons first rest => exact ⟨first, rest, rfl⟩

/-! ## Blanks at the start of a line -/

theorem trimStart_append {base : String} (h : ∀ c ∈ base.toList, isBlank c = true)
    (s : String) : trimStart (base ++ s) = trimStart s := by
  rw [trimStart, trimStartBy, String.toList_append, List.dropWhile_append_of_pos h]
  rfl

theorem trimStart_trimStart (s : String) : trimStart (trimStart s) = trimStart s := by
  rw [trimStart, trimStart, trimStartBy, trimStartBy, String.toList_ofList,
    List.dropWhile_idempotent isBlank]

end Text

namespace Outline

open Text (lineFeeds lineFeeds_append)

/-! ## Moving lines -/

/-- A line that is moved to the right. -/
def alignLine (base line : String) : String :=
  if (Text.trimStart line).isEmpty then "" else base ++ Text.trimStart line

section Base

variable {base : String} (hfeeds : lineFeeds base = 0)
  (hblank : ∀ c ∈ base.toList, Text.isBlank c = true)

theorem alignLines_of_lines {text first : String} {rest : List String}
    (h : Text.lines text = first :: rest) :
    alignLines base text = String.intercalate "\n" (first :: rest.map (alignLine base)) := by
  rw [alignLines, h]
  rfl

include hfeeds in
theorem lineFeeds_alignLine {line : String} (h : lineFeeds line = 0) :
    lineFeeds (alignLine base line) = 0 := by
  rw [alignLine]
  split
  · rfl
  · rw [lineFeeds_append, hfeeds, lineFeeds_trimStart h]

include hfeeds in
/-- The first line of a text stays, and each other line is moved. -/
theorem lines_alignLines {text first : String} {rest : List String}
    (h : Text.lines text = first :: rest) :
    Text.lines (alignLines base text) = first :: rest.map (alignLine base) := by
  have hlines : ∀ line ∈ first :: rest, lineFeeds line = 0 := by
    intro line hline
    exact Text.lineFeeds_of_mem_lines (h ▸ hline)
  obtain ⟨hfirst, hrest⟩ := List.forall_mem_cons.1 hlines
  rw [alignLines_of_lines h, Text.lines_intercalate]
  apply Text.flatMap_lines
  rw [List.forall_mem_cons, List.forall_mem_map]
  exact ⟨hfirst, fun line hline => lineFeeds_alignLine hfeeds (hrest line hline)⟩

include hblank in
/-- What stands after the blanks of a line is kept. -/
theorem trimStart_alignLine (line : String) :
    Text.trimStart (alignLine base line) = Text.trimStart line := by
  rw [alignLine]
  split
  · next hempty =>
    rw [String.isEmpty_iff.1 hempty]
    rfl
  · rw [Text.trimStart_append hblank, Text.trimStart_trimStart]

include hblank in
theorem alignLine_alignLine (line : String) :
    alignLine base (alignLine base line) = alignLine base line := by
  rw [alignLine, trimStart_alignLine hblank]
  rfl

include hfeeds hblank in
/-- Lines that were moved stay where they are. -/
theorem alignLines_alignLines (text : String) :
    alignLines base (alignLines base text) = alignLines base text := by
  obtain ⟨first, rest, hlines⟩ := Text.exists_lines text
  have hmoved := lines_alignLines hfeeds hlines
  have hagain : (rest.map (alignLine base)).map (alignLine base) = rest.map (alignLine base) := by
    simp only [List.map_map, Function.comp_def, alignLine_alignLine hblank]
  rw [alignLines_of_lines hmoved, hagain, alignLines_of_lines hlines]

include hfeeds in
theorem length_lines_alignLines (text : String) :
    (Text.lines (alignLines base text)).length = (Text.lines text).length := by
  rw [Text.length_lines, Text.length_lines]
  exact congrArg (· + 1) (lineFeeds_alignLines hfeeds text)

end Base

/-! ## The lines of a symbol -/

theorem isBlank_of_mem_spaces {width : Nat} :
    ∀ c ∈ (spaces width).toList, Text.isBlank c = true := by
  intro c hc
  rw [spaces, String.toList_ofList] at hc
  rw [List.eq_of_mem_replicate hc]
  decide

/-- Some lines show a symbol at a depth: they start there, unless they are empty, and apart from the
blanks at their starts they are the lines of what is shown of the symbol. -/
structure ShownAt (depth : Nat) (symbol : Symbol) (lines : List String) : Prop where
  indented : ∀ line ∈ lines, line = "" ∨ List.replicate (2 * depth) ' ' <+: line.toList
  text : lines.map Text.trimStart = (Text.lines (symbolText symbol)).map Text.trimStart

theorem alignLine_indented (depth : Nat) (line : String) :
    alignLine (indent depth) line = "" ∨
      List.replicate (2 * depth) ' ' <+: (alignLine (indent depth) line).toList := by
  rw [alignLine]
  split
  · exact .inl rfl
  · right
    rw [String.toList_append, indent, String.toList_ofList]
    exact List.prefix_append _ _

/-- The lines of a symbol show it at its depth. -/
theorem shownAt_symbolLine (depth : Nat) (symbol : Symbol) :
    ShownAt depth symbol (Text.lines (symbolLine depth symbol)) := by
  obtain ⟨first, rest, htext⟩ := Text.exists_lines (symbolText symbol)
  have hmoved := lines_alignLines (lineFeeds_indent depth) htext
  have hlines := Text.lines_append (lineFeeds_indent depth) hmoved
  rw [symbolLine, hlines]
  constructor
  · rw [List.forall_mem_cons, List.forall_mem_map]
    refine ⟨.inr ?_, fun line _ => alignLine_indented depth line⟩
    rw [String.toList_append, indent, String.toList_ofList]
    exact List.prefix_append _ _
  · have hblank : ∀ c ∈ (indent depth).toList, Text.isBlank c = true := isBlank_of_mem_spaces
    rw [htext, List.map_cons, List.map_cons, Text.trimStart_append hblank, List.map_map]
    simp only [Function.comp_def, trimStart_alignLine hblank]

/-! ## The lines of a forest -/

mutual

theorem levelsAt_eq (depth above : Nat) : (symbol : Symbol) →
    symbol.levelsAt (depth + above) =
      (symbol.levelsAt above).map fun place => (depth + place.1, place.2)
  | ⟨name, kind, line, signature, language, children⟩ => by
    rw [Symbol.levelsAt, Symbol.levelsAt, List.map_cons, Nat.add_assoc,
      levels_eq depth (above + 1) children]

/-- The depths of symbols are counted from any level. -/
theorem levels_eq (depth above : Nat) : (forest : List Symbol) →
    Symbol.levels (depth + above) forest =
      (Symbol.levels above forest).map fun place => (depth + place.1, place.2)
  | [] => by
    rw [Symbol.levels, Symbol.levels]
    rfl
  | symbol :: rest => by
    rw [Symbol.levels, Symbol.levels, List.map_append, levelsAt_eq depth above symbol,
      levels_eq depth above rest]

end

theorem forestLines_eq_map (depth : Nat) (forest : List Symbol) :
    forestLines depth forest =
      (Symbol.levels 0 forest).map fun place => symbolLine (depth + place.1) place.2 := by
  rw [forestLines_eq, ← Nat.add_zero depth, levels_eq depth 0 forest, List.map_map]
  rfl

theorem forestLines_cons (depth : Nat) (symbol : Symbol) (rest : List Symbol) :
    forestLines depth (symbol :: rest) = symbolLine depth symbol.alone ::
      (forestLines (depth + 1) symbol.children ++ forestLines depth rest) := by
  cases symbol
  rw [forestLines, symbolLines]
  rfl

/-- Every symbol of a forest is an entry of its own, in the order of the forest. The lines of the
entry start at the depth of the symbol, unless they are empty. Without the blanks at their starts,
the lines of all entries are the lines of what is shown of the symbols. They are also the lines of
the text that is joined from the entries. Moving the lines of a text to a margin of spaces keeps
their number, and nothing is left to move after that. -/
theorem forest_shown_indented (depth : Nat) (forest : List Symbol) :
    List.Forall₂ (fun place entry => ShownAt (depth + place.1) place.2 (Text.lines entry))
      (Symbol.levels 0 forest) (forestLines depth forest) ∧
    ((forestLines depth forest).flatMap Text.lines).map Text.trimStart =
      (Symbol.preorderAll forest).flatMap (fun symbol =>
        (Text.lines (symbolText symbol)).map Text.trimStart) ∧
    (forest ≠ [] → Text.lines (String.intercalate "\n" (forestLines depth forest)) =
      (forestLines depth forest).flatMap Text.lines) ∧
    ∀ (width : Nat) (text : String),
      alignLines (spaces width) (alignLines (spaces width) text) =
        alignLines (spaces width) text ∧
      (Text.lines (alignLines (spaces width) text)).length = (Text.lines text).length := by
  refine ⟨?_, ?_, ?_, ?_⟩
  · rw [forestLines_eq_map, List.forall₂_map_right_iff, List.forall₂_same]
    exact fun place _ => shownAt_symbolLine (depth + place.1) place.2
  · rw [forestLines_eq_map, ← Symbol.map_snd_levels 0, List.flatMap_map, List.flatMap_map,
      List.map_flatMap]
    simp only [(shownAt_symbolLine _ _).text]
  · intro hne
    cases forest with
    | nil => exact absurd rfl hne
    | cons symbol rest =>
      rw [forestLines_cons]
      exact Text.lines_intercalate _ _
  · intro width text
    exact ⟨alignLines_alignLines (lineFeeds_spaces width) isBlank_of_mem_spaces text,
      length_lines_alignLines (lineFeeds_spaces width) text⟩

/-! ### A function on three lines -/

namespace Spread

/-- A function whose signature is spread over three lines, with a class in it. -/
def symbols : List Symbol :=
  [⟨"f", .function, 1, some "def f(\n a,\n\t )", "python",
    [⟨"C", .classType, 3, none, "python", []⟩]⟩]

end Spread

theorem forest_shown_indented_spread :
    Spread.symbols ≠ [] ∧
    (Text.lines (String.intercalate "\n" (forestLines 1 Spread.symbols))).map Text.trimStart =
      ["def f(", "a,", ")", "class C"] ∧
    forestLines 1 Spread.symbols = ["  def f(\n  a,\n  )", "    class C"] := by
  obtain ⟨-, htext, hjoined, -⟩ := forest_shown_indented 1 Spread.symbols
  have hne : Spread.symbols ≠ [] := List.cons_ne_nil _ _
  refine ⟨hne, ?_, by decide +kernel⟩
  rw [hjoined hne, htext]
  decide +kernel

end Outline

end SourceOutline
