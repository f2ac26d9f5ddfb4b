import Mathlib.Data.List.Induction
import SourceOutline.Proofs.Caches
import SourceOutline.Proofs.Survey

/-!
# Support of signatures

The record of a file tells whether signatures are supported, and it does so by asking the extractor
of the language whether it says which language it is for. This is so for the basic extractor, which
stands in where a language has no extractor of its own, and not for the extractors of the dialects.
As long as only these are registered, the record tells the opposite of what is meant for every
language of the catalogue (`Survey.signatureSupport_iff`).
-/

namespace SourceOutline

namespace Extractor

theorem dialect_ne_basic (d : Dialect) : dialect d ≠ basic := by
  intro h
  exact Bool.false_ne_true (congrArg namesLanguage h)

/-- The extractor is one of those at hand: that of a dialect, or the basic one. -/
def IsBuiltIn (e : Extractor) : Prop := e = basic ∨ ∃ d, e = dialect d

/-- Of the extractors at hand only the basic one says which language it is for. -/
theorem IsBuiltIn.namesLanguage_iff {e : Extractor} (h : e.IsBuiltIn) :
    e.namesLanguage = true ↔ e = basic := by
  rcases h with rfl | ⟨d, rfl⟩
  · exact iff_of_true rfl rfl
  · exact iff_of_false Bool.false_ne_true (dialect_ne_basic d)

end Extractor

namespace Registry

/-- The registry after extractors were registered, one after the other. -/
def after (calls : List (String × Extractor)) : Registry :=
  calls.foldl (fun registry call => registry.register call.1 call.2) initial

theorem after_concat (calls : List (String × Extractor)) (call : String × Extractor) :
    after (calls ++ [call]) = (after calls).register call.1 call.2 := by
  simp [after]

/-- A language has the extractor that was registered for it last, or else the one that it has at the
start. -/
theorem extractor_after (calls : List (String × Extractor)) (language : String) :
    (after calls).extractor language =
      (calls.reverse.lookup language).getD (initial.extractor language) := by
  induction calls using List.reverseRecOn with
  | nil => rfl
  | append_singleton calls call ih =>
    rw [after_concat, extractor_register, ih, List.reverse_append, List.reverse_singleton,
      List.singleton_append, List.lookup_cons]
    by_cases h : language = call.1
    · simp [h]
    · have hne : (language == call.1) = false := by simpa using h
      simp [h, hne]

theorem isBuiltIn_initial (language : String) : (initial.extractor language).IsBuiltIn := by
  rw [extractor]
  cases h : initial.lookup language with
  | none => exact .inl rfl
  | some e =>
    obtain ⟨before, rest, hsplit, -⟩ := List.lookup_eq_some_iff.1 h
    have hmem : (language, e) ∈ initial := by simp [hsplit]
    obtain ⟨d, -, heq⟩ := List.mem_map.1 hmem
    exact .inr ⟨d, (Prod.mk.inj heq).2.symm⟩

/-- When only extractors at hand are registered, every language has one of them. -/
theorem isBuiltIn_after {calls : List (String × Extractor)}
    (h : ∀ call ∈ calls, call.2.IsBuiltIn) (language : String) :
    ((after calls).extractor language).IsBuiltIn := by
  induction calls using List.reverseRecOn with
  | nil => exact isBuiltIn_initial language
  | append_singleton calls call ih =>
    rw [after_concat, extractor_register]
    split
    · exact h call (by simp)
    · exact ih fun other hother => h other (by simp [hother])

end Registry

namespace Survey

variable {s t : Session} {path : Path} {language : String} {budget : Option Int} {file : FileRecord}

/-- The record of a file tells what the extractor of the language says. -/
theorem signatureSupport_of_fileRecord (h : fileRecord path language budget s = (.ok file, t)) :
    file.signatureSupport = (s.registry.extractor language).namesLanguage := by
  have hleads := (extracts_fileRecord path language budget).leadsTo s
  rw [h] at hleads
  obtain ⟨symbols, r₁, -, h⟩ := bind_eq_ok.1 h
  obtain ⟨disk, r₂, -, h⟩ := bind_eq_ok.1 h
  obtain ⟨kept, r₃, -, h⟩ := bind_eq_ok.1 h
  obtain ⟨entry, r₄, -, h⟩ := bind_eq_ok.1 h
  obtain ⟨extractor, r₅, hextractor, h⟩ := bind_eq_ok.1 h
  cases hextractor
  cases h
  rw [signatureSupport_eq, ← hleads.registry]

/-- The language has an entry in the catalogue and an extractor of its own. -/
def Specific (catalogue : Catalogue) (registry : Registry) (language : String) : Prop :=
  (catalogue.entryFor? language).isSome ∧ registry.extractor language ≠ .basic

/-- However extractors were registered, the record of a file is given, unless the console refuses a
notice, and it tells whether the one that was registered last says which language it is for. This is
whether the language has an entry and an extractor of its own only when the extractor is not the
basic one and says its language just for languages with an entry. With the extractors at hand it is
told of the basic extractor alone, so it is right only for languages without an entry that have
another extractor. -/
theorem signatureSupport_iff {calls : List (String × Extractor)} {catalogue : Catalogue}
    (hregistry : s.registry = .after calls) (hcatalogue : s.currentCatalogue = .ok catalogue)
    (path : Path) (language : String) (budget : Int) :
    ((fileRecord path language (some budget)).Unrefused s →
      ∃ file t, fileRecord path language (some budget) s = (.ok file, t)) ∧
    ∀ file t, fileRecord path language (some budget) s = (.ok file, t) →
      file.signatureSupport = ((calls.reverse.lookup language).getD
        (Registry.initial.extractor language)).namesLanguage ∧
      ((file.signatureSupport = true ↔ Specific catalogue s.registry language) ↔
        s.registry.extractor language ≠ .basic ∧
          ((s.registry.extractor language).namesLanguage = true ↔
            (catalogue.entryFor? language).isSome)) ∧
      ((∀ call ∈ calls, call.2.IsBuiltIn) →
        (file.signatureSupport = true ↔ s.registry.extractor language = .basic) ∧
        ((file.signatureSupport = true ↔ Specific catalogue s.registry language) ↔
          s.registry.extractor language ≠ .basic ∧ catalogue.entryFor? language = none)) := by
  refine ⟨fun hshown => ?_, fun file t hrecord => ?_⟩
  · obtain ⟨file, t, hrecord, -⟩ := fileRecord_total path language budget s.lenient_openly
      (Session.currentCatalogue_openly hcatalogue)
    have happly := (extracts_fileRecord path language (some budget)).apply_eq hshown
    rw [hrecord] at happly
    exact ⟨file, _, happly⟩
  have hsupport := signatureSupport_of_fileRecord hrecord
  have hbasic : Extractor.basic.namesLanguage = true := rfl
  have hright : (file.signatureSupport = true ↔ Specific catalogue s.registry language) ↔
      s.registry.extractor language ≠ .basic ∧
        ((s.registry.extractor language).namesLanguage = true ↔
          (catalogue.entryFor? language).isSome) := by
    rw [hsupport, Specific]
    -- The basic extractor says its language, and no language with it has one of its own.
    by_cases h : s.registry.extractor language = .basic
    · simp [h, hbasic]
    · simp [h]
  refine ⟨?_, hright, fun hcalls => ?_⟩
  · rw [hsupport, hregistry, Registry.extractor_after]
  · have hbuilt : (s.registry.extractor language).IsBuiltIn := by
      rw [hregistry]
      exact Registry.isBuiltIn_after hcalls language
    refine ⟨by rw [hsupport, hbuilt.namesLanguage_iff], hright.trans (and_congr_right ?_)⟩
    intro hne
    rw [hbuilt.namesLanguage_iff, iff_false_left hne]
    simp

/-! ### Extractors in the place of others -/

namespace Lone

/-- A session with one file, in which the given extractors were registered. -/
def session (calls : List (String × Extractor)) : Session :=
  { Session.start {
      disk := {
        tree := .folder [("w", .folder [("a.py", .file ⟨#[]⟩)])]
        here := .ofString "/w" }
      git := {}
      packages := []
      answers := []
      modules := []
      console := .lenient
      parserProblem? := fun _ => some "no parser"
      parsed := []
      catalogue := .standard } with
    registry := .after calls }

theorem lenient_session (calls : List (String × Extractor)) : (session calls).Lenient := rfl

/-- The extractor of a dialect is registered for another language, and the basic one instead. -/
def calls : List (String × Extractor) := [("snake", .dialect .python), ("python", .basic)]

theorem isBuiltIn_calls : ∀ call ∈ calls, call.2.IsBuiltIn := by
  intro call hcall
  rcases List.mem_pair.1 hcall with rfl | rfl
  · exact .inr ⟨.python, rfl⟩
  · exact .inl rfl

end Lone

theorem signatureSupport_iff_exchanged :
    (Lone.session Lone.calls).registry = .after Lone.calls ∧
    (Lone.session Lone.calls).currentCatalogue = .ok .standard ∧
    (∀ call ∈ Lone.calls, call.2.IsBuiltIn) ∧
    (∃ file t, fileRecord (.ofString "a.py") "python" (some 25) (Lone.session Lone.calls) =
      (.ok file, t) ∧ file.signatureSupport = true) ∧
    ∃ file t, fileRecord (.ofString "a.py") "snake" (some 25) (Lone.session Lone.calls) =
      (.ok file, t) ∧ file.signatureSupport = false := by
  have hcatalogue : (Lone.session Lone.calls).currentCatalogue = .ok .standard := rfl
  have hregistry : (Lone.session Lone.calls).registry = .after Lone.calls := rfl
  have hlenient := Lone.lenient_session Lone.calls
  obtain ⟨htotal, hsupport⟩ :=
    signatureSupport_iff hregistry hcatalogue (.ofString "a.py") "python" 25
  obtain ⟨htotal', hsupport'⟩ :=
    signatureSupport_iff hregistry hcatalogue (.ofString "a.py") "snake" 25
  obtain ⟨file, t, hrecord⟩ := htotal (Run.unrefused_of_lenient _ hlenient)
  obtain ⟨other, t', hrecord'⟩ := htotal' (Run.unrefused_of_lenient _ hlenient)
  exact ⟨hregistry, hcatalogue, Lone.isBuiltIn_calls,
    ⟨file, t, hrecord, (hsupport file t hrecord).1⟩,
    other, t', hrecord', (hsupport' other t' hrecord').1⟩

/-- A language with an entry and an extractor of its own is told to have none. -/
theorem signatureSupport_denied :
    Specific .standard (Lone.session []).registry "python" ∧
    ∃ file t, fileRecord (.ofString "a.py") "python" (some 25) (Lone.session []) = (.ok file, t) ∧
      file.signatureSupport = false := by
  have hcatalogue : (Lone.session []).currentCatalogue = .ok .standard := rfl
  refine ⟨⟨by decide, Extractor.dialect_ne_basic .python⟩, ?_⟩
  obtain ⟨file, t, hrecord, -⟩ :=
    fileRecord_total (.ofString "a.py") "python" 25 (Lone.lenient_session []) hcatalogue
  exact ⟨file, t, hrecord, signatureSupport_of_fileRecord hrecord⟩

end Survey

end SourceOutline
