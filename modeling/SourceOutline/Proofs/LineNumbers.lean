import SourceOutline.Proofs.Ascii
import SourceOutline.Proofs.Declarations
import SourceOutline.Proofs.Survey

/-!
# Symbols stand on lines of their file

A parser counts the line feeds among the bytes before a node, and the symbol of a declaration gets
the number of the line that follows them. The lines of a file are counted elsewhere, in the
characters of its text. In UTF-8 only the line feed has the byte of a line feed
(`Text.count_utf8Encode`), so the two counts are of the same things, and a node that starts before
the end of a text starts on one of its lines (`Text.rowAt_lt_lineCount`). This also holds on the
last line, whether a line feed ends it or not.
-/

namespace SourceOutline

namespace Text

/-- The byte of a line feed. -/
def lineFeedByte : UInt8 := 10

/-- The number of line feeds among so many bytes at the start of a text. -/
def rowAt (text : String) (offset : Nat) : Nat :=
  (text.toUTF8.data.toList.take offset).count lineFeedByte

/-- A byte that is written for a number below 256 is the line feed only for the number 10. -/
theorem ofNat_ne_lineFeedByte {n : Nat} (h : n < 256) (hne : n ≠ 10) :
    UInt8.ofNat n ≠ lineFeedByte := by
  intro heq
  have hval : (UInt8.ofNat n).toNat = 10 := by rw [heq]; rfl
  rw [UInt8.toNat_ofNat'] at hval
  omega

/-- Only the line feed is written with the byte of a line feed. -/
theorem count_utf8EncodeChar (c : Char) :
    (String.utf8EncodeChar c).count lineFeedByte = if c = '\n' then 1 else 0 := by
  split
  · next h =>
    subst h
    decide
  · next h =>
    have hne : c.val.toNat ≠ 10 := by
      intro heq
      exact h (Char.ext (UInt32.toNat.inj heq))
    have hbytes : ∀ b ∈ String.utf8EncodeChar c, b ≠ lineFeedByte := by
      intro b hb
      rw [String.utf8EncodeChar] at hb
      -- Every byte of an encoding with several bytes is at least 128.
      split at hb
      · rw [List.mem_singleton.1 hb]
        exact ofNat_ne_lineFeedByte (by omega) hne
      · split at hb
        · simp only [List.mem_cons, List.not_mem_nil, or_false] at hb
          rcases hb with rfl | rfl <;> exact ofNat_ne_lineFeedByte (by omega) (by omega)
        · split at hb
          · simp only [List.mem_cons, List.not_mem_nil, or_false] at hb
            rcases hb with rfl | rfl | rfl <;> exact ofNat_ne_lineFeedByte (by omega) (by omega)
          · simp only [List.mem_cons, List.not_mem_nil, or_false] at hb
            rcases hb with rfl | rfl | rfl | rfl <;>
              exact ofNat_ne_lineFeedByte (by omega) (by omega)
    exact List.count_eq_zero.2 fun hmem => hbytes _ hmem rfl

/-- There are as many bytes of line feeds as there are line feeds. -/
theorem count_utf8Encode (cs : List Char) :
    (cs.flatMap String.utf8EncodeChar).count lineFeedByte = cs.count '\n' := by
  induction cs with
  | nil => rfl
  | cons c rest ih =>
    rw [List.flatMap_cons, List.count_append, ih, count_utf8EncodeChar, List.count_cons]
    by_cases hc : c = '\n'
    · simp [hc]
      omega
    · simp [hc]

/-- Before a byte of a text there are fewer line feeds than the text has lines. -/
theorem rowAt_lt_lineCount {text : String} {offset : Nat} (h : offset < text.toUTF8.size) :
    rowAt text offset < lineCount text := by
  have hsize : offset < (text.toList.flatMap String.utf8EncodeChar).length := by
    rw [← toList_toUTF8]
    exact h
  rw [rowAt, toList_toUTF8, lineCount]
  rcases List.eq_nil_or_concat text.toList with hnil | ⟨start, last, hlast⟩
  · rw [hnil] at hsize
    exact absurd hsize (Nat.not_lt_zero _)
  · rw [List.concat_eq_append] at hlast
    rw [hlast] at hsize ⊢
    simp only [List.getLast?_append, List.getLast?_singleton, Option.some_or]
    rw [List.flatMap_append] at hsize ⊢
    by_cases hfeed : last = '\n'
    · -- The last byte is a line feed, and it does not stand before any byte.
      have hencode : [last].flatMap String.utf8EncodeChar = [lineFeedByte] := by
        rw [hfeed]
        decide
      rw [hencode, List.length_append, List.length_singleton] at hsize
      rw [hencode, List.take_append_of_le_length (by omega)]
      have hle := (List.take_sublist offset (start.flatMap String.utf8EncodeChar)).count_le
        lineFeedByte
      rw [count_utf8Encode] at hle
      simp only [hfeed, List.count_append, List.count_singleton_self, if_true]
      omega
    · -- The last line is not ended by a line feed and counts as a line.
      have hle := (List.take_sublist offset
        (start.flatMap String.utf8EncodeChar ++ [last].flatMap String.utf8EncodeChar)).count_le
        lineFeedByte
      rw [← List.flatMap_append, count_utf8Encode] at hle
      simp only [hfeed, if_false]
      rw [List.flatMap_append] at hle
      omega

end Text

/-- The node starts before the end of the text, on the row that the line feeds before it make. -/
structure Node.StartsIn (node : Node) (text : String) : Prop where
  start_lt : node.start < text.toUTF8.size
  row_eq : node.row = Text.rowAt text node.start

/-- The parser of a language tells truly where the declarations of a text start. -/
def Session.LocatesDeclarations (session : Session) (language text : String) : Prop :=
  ∀ entry tree, session.Parses language text entry tree →
    ∀ place ∈ tree.places, entry.declares place.node = true → place.node.StartsIn text

theorem Symbol.line_bare (symbol : Symbol) : symbol.bare.line = symbol.line := by
  cases symbol
  rw [bare]

/-- Symbols of a text come from a parser of its language. -/
theorem Run.symbolsOfText_eq_ok {text language : String} {s t : Session} {forest : List Symbol}
    (h : symbolsOfText text language s = (.ok forest, t)) :
    forest = [] ∨ ∃ entry tree, s.Parses language text entry tree := by
  obtain ⟨listed, s₁, hlisted, h⟩ := bind_eq_ok.1 h
  obtain ⟨found, s₂, hfound, h⟩ := bind_eq_ok.1 h
  -- The parser is looked for after the entry, in a session that has the same parsers.
  obtain ⟨catalogue, notices, hs₁⟩ := entryFor_snd language s
  rw [hlisted] at hs₁
  dsimp only at hs₁
  have hparser : (hasParser language s).1 = .ok found := by
    obtain ⟨_, _, hhere⟩ := hasParser_apply language s
    obtain ⟨_, _, hthen⟩ := hasParser_apply language s₁
    have hsame : s₁.findsParser language = .ok found :=
      congrArg Prod.fst (hthen.symm.trans hfound)
    rw [hs₁] at hsame
    rw [hhere]
    exact hsame
  cases listed with
  | none =>
    cases h
    exact .inl rfl
  | some entry =>
    cases found with
    | false =>
      cases h
      exact .inl rfl
    | true => exact .inr ⟨entry, _, congrArg Prod.fst hlisted, hparser, rfl⟩

namespace Survey

variable {path : Path} {language : String} {s t : Session}

/-- Symbols of a file are those of its text. -/
theorem fileSymbols_eq_ok {forest : List Symbol}
    (h : fileSymbols path language s = (.ok forest, t)) :
    forest = [] ∨ ∃ content after, s.world.disk.read path = .ok content ∧
      Run.symbolsOfText (Discovery.fileText content) language s = (.ok forest, after) := by
  rw [fileSymbols, bind_of_ok (Run.attempt_apply _ s)] at h
  rcases hread : (fileContent path >>= (Run.symbolsOfText · language)) s with ⟨fault | symbols, r⟩
  · rw [hread] at h
    obtain ⟨_, _, -, hnone⟩ := bind_eq_ok.1 h
    cases hnone
    exact .inl rfl
  · rw [hread] at h
    cases h
    obtain ⟨text, r₁, hcontent, hsymbols⟩ := bind_eq_ok.1 hread
    obtain ⟨content, r₂, hdisk, htext⟩ := bind_eq_ok.1 hcontent
    obtain ⟨hbytes, rfl⟩ := Run.onDisk_eq_ok hdisk
    cases htext
    exact .inr ⟨content, r, hbytes, hsymbols⟩

/-- The record of a file has its language, symbols of the file, all of them or those at the top, and
counts the lines of the file. -/
theorem fileRecord_eq_ok {budget : Option Int} {file : FileRecord}
    (h : fileRecord path language budget s = (.ok file, t)) :
    ∃ forest r, fileSymbols path language s = (.ok forest, r) ∧ file.language = language ∧
      file.lines = Discovery.countLines s.world.disk path ∧
      (file.symbols = forest ∨ file.symbols = Symbol.topLevel forest) := by
  obtain ⟨forest, r, hforest, h⟩ := bind_eq_ok.1 h
  obtain ⟨disk, r₁, hdisk, h⟩ := bind_eq_ok.1 h
  obtain ⟨kept, r₂, hkept, h⟩ := bind_eq_ok.1 h
  obtain ⟨_, r₃, -, h⟩ := bind_eq_ok.1 h
  obtain ⟨extractor, r₄, -, h⟩ := bind_eq_ok.1 h
  cases h
  refine ⟨forest, r, hforest, rfl, ?_, ?_⟩
  · have hr : r.situation = s.situation := (extracts_fileSymbols path language).keeps.of_eq hforest
    rw [Run.disk_apply] at hdisk
    cases hdisk
    rw [Session.world_eq_of_situation hr]
  · have hbudget : withinBudget budget forest = .ok kept := congrArg Prod.fst hkept
    cases budget with
    | none => cases hbudget
    | some budget =>
      rw [withinBudget] at hbudget
      split at hbudget
      · exact .inr (Except.ok.inj hbudget).symm
      · exact .inl (Except.ok.inj hbudget).symm

/-- A symbol of a text stands on the line on which a declaration of its tree starts. -/
theorem exists_place_of_mem_preorderAll {text : String} {entry : LanguageEntry} {tree : Node}
    {forest : List Symbol} (hparses : s.Parses language text entry tree)
    (h : Run.symbolsOfText text language s = (.ok forest, t)) {symbol : Symbol}
    (hsymbol : symbol ∈ Symbol.preorderAll forest) :
    ∃ place ∈ tree.places, entry.declares place.node = true ∧ symbol.line = place.node.row + 1 := by
  have hmem : symbol.bare ∈ (Symbol.preorderAll forest).map Symbol.bare :=
    List.mem_map_of_mem hsymbol
  rw [Run.preorderAll_symbolsOfText hparses h] at hmem
  obtain ⟨place, hplace, hbare⟩ := List.mem_map.1 hmem
  obtain ⟨htree, hshows⟩ := List.mem_filter.1 hplace
  simp only [LanguageEntry.shows, Bool.and_eq_true] at hshows
  refine ⟨place, htree, hshows.1, ?_⟩
  rw [← Symbol.line_bare, ← hbare]
  rfl

/-- Every symbol of a file, however deep, stands on a line of the file, when the parser tells truly
where the declarations of the file's text start. -/
theorem fileRecord_lines_inside {budget : Option Int} {session after : Session} {file : FileRecord}
    (hlocates : ∀ content, session.world.disk.read path = .ok content →
      session.LocatesDeclarations language (Discovery.fileText content))
    (h : fileRecord path language budget session = (.ok file, after)) :
    ∀ symbol ∈ Symbol.preorderAll file.symbols, 1 ≤ symbol.line ∧ symbol.line ≤ file.lines := by
  intro symbol hsymbol
  obtain ⟨forest, r, hforest, -, hlines, hkept⟩ := fileRecord_eq_ok h
  -- The symbols at the top are among all symbols of the file.
  have hmem : symbol ∈ Symbol.preorderAll forest := by
    rcases hkept with hall | htop
    · rwa [hall] at hsymbol
    · rw [htop, Symbol.preorderAll_topLevel] at hsymbol
      exact (Symbol.topLevel_sublist_preorderAll forest).subset hsymbol
  rcases fileSymbols_eq_ok hforest with rfl | ⟨content, r', hread, hsymbols⟩
  · cases hmem
  · rcases Run.symbolsOfText_eq_ok hsymbols with rfl | ⟨entry, tree, hparses⟩
    · cases hmem
    · obtain ⟨place, hplace, hdeclares, hline⟩ :=
        exists_place_of_mem_preorderAll hparses hsymbols hmem
      have hstarts := hlocates content hread entry tree hparses place hplace hdeclares
      have hrow := Text.rowAt_lt_lineCount hstarts.start_lt
      have hcount : file.lines = Text.lineCount (Discovery.fileText content) := by
        rw [hlines, Discovery.countLines, hread]
      rw [← hstarts.row_eq] at hrow
      omega

/-! ### A class on the first line, and a method on the last -/

namespace Ragged

/-- The text of the file. -/
def text : String := "A\n f\n\n g é"

/-- The bytes of the file, with two ways to end a line and a byte that is not UTF-8. -/
def content : ByteArray := ⟨#[65, 13, 10, 32, 0xff, 102, 13, 13, 10, 32, 103, 32, 0xc3, 0xa9]⟩

/-- The tree of the text. -/
def tree : Node :=
  ⟨"module", 0, 11, 0, [⟨"class", 0, 11, 0, [Toy.letter 0 0, ⟨"def", 3, 4, 1, [Toy.letter 3 1], []⟩,
    ⟨"def", 7, 8, 3, [Toy.letter 7 3], []⟩], []⟩], []⟩

/-- Where the file is. -/
def place : Path := .ofString "/a"

/-- A session with the file and with the tree of its text. -/
def session : Session :=
  { Toy.session with
    world := { Toy.world with
      disk := ⟨.folder [("a", .file content)], ⟨.root, []⟩⟩
      parsed := [⟨"toy", text, tree⟩] } }

theorem read_place : session.world.disk.read place = .ok content := by decide +kernel

theorem fileText_content : Discovery.fileText content = text := by decide +kernel

theorem parses : session.Parses "toy" text Toy.entry tree := ⟨rfl, rfl, rfl⟩

theorem startsIn : ∀ place ∈ tree.places, Toy.entry.declares place.node = true →
    place.node.start < text.toUTF8.size ∧ place.node.row = Text.rowAt text place.node.start := by
  decide +kernel

theorem locates : session.LocatesDeclarations "toy" text := by
  intro entry tree' hparses site hsite hdeclares
  have hentry : entry = Toy.entry :=
    Option.some.inj (Except.ok.inj (hparses.listed.symm.trans parses.listed))
  have htree : tree' = tree := Except.ok.inj (hparses.parsed.symm.trans parses.parsed)
  subst hentry htree
  obtain ⟨hstart, hrow⟩ := startsIn site hsite hdeclares
  exact ⟨hstart, hrow⟩

theorem lines_symbols :
    (fileRecord place "toy" (some 25) session).1.toOption.map (fun file =>
      (file.lines, (Symbol.preorderAll file.symbols).map (·.line))) = some (4, [1, 2, 4]) := by
  decide +kernel

end Ragged

theorem fileRecord_lines_inside_ragged :
    (∀ content, Ragged.session.world.disk.read Ragged.place = .ok content →
      Ragged.session.LocatesDeclarations "toy" (Discovery.fileText content)) ∧
    ∃ file after, fileRecord Ragged.place "toy" (some 25) Ragged.session = (.ok file, after) ∧
      file.lines = 4 ∧ (Symbol.preorderAll file.symbols).map (·.line) = [1, 2, 4] ∧
      ∀ symbol ∈ Symbol.preorderAll file.symbols, 1 ≤ symbol.line ∧ symbol.line ≤ file.lines := by
  have hlocates : ∀ content, Ragged.session.world.disk.read Ragged.place = .ok content →
      Ragged.session.LocatesDeclarations "toy" (Discovery.fileText content) := by
    intro content hcontent
    obtain rfl : Ragged.content = content :=
      Except.ok.inj (Ragged.read_place.symm.trans hcontent)
    rw [Ragged.fileText_content]
    exact Ragged.locates
  refine ⟨hlocates, ?_⟩
  have hlines := Ragged.lines_symbols
  rcases h : fileRecord Ragged.place "toy" (some 25) Ragged.session with ⟨fault | file, after⟩
  · rw [h] at hlines
    cases hlines
  · rw [h] at hlines
    obtain ⟨hcount, hsymbols⟩ := Prod.mk.inj (Option.some.inj hlines)
    exact ⟨file, after, rfl, hcount, hsymbols, fileRecord_lines_inside hlocates h⟩

end Survey

end SourceOutline
