import SourceOutline.Survey
import SourceOutline.Proofs.Console
import SourceOutline.Proofs.Folders
import SourceOutline.Proofs.Scan
import SourceOutline.Proofs.Support

/-!
# A survey, step by step

A survey scans, offers language support and then puts the files into folders one by one
(`Survey.run_eq_ok`). Of a file that lies in the repository nothing can get lost on the way: what
goes wrong when its symbols are read is told and leaves it without symbols, so its record is made in
any case, as long as the console shows what it is told (`Survey.surveyFile_eq`).
-/

namespace SourceOutline.Survey

variable {s t : Session}

/-! ## The situation stays as it was -/

theorem looks_fileContent (path : Path) : Run.Looks (fileContent path) :=
  (Run.looks_onDisk _).bind fun _ => .pure _

theorem extracts_fileSymbols (path : Path) (language : String) :
    Run.Extracts (fileSymbols path language) := by
  have hsymbols := (looks_fileContent path).mono.bind fun text =>
    Run.extracts_symbolsOfText text language
  refine .bind (.attempt (by decide) hsymbols) fun outcome => ?_
  cases outcome with
  | ok symbols => exact .pure _
  | error fault => exact (Run.looks_say _ (by exact .ofList rfl)).mono.bind fun _ => .pure _

theorem extracts_fileRecord (path : Path) (language : String) (budget : Option Int) :
    Run.Extracts (fileRecord path language budget) := by
  refine (extracts_fileSymbols path language).bind fun symbols => ?_
  refine Run.looks_disk.mono.bind fun disk => .bind (.ofExcept _) fun kept => ?_
  refine (Run.looks_entryFor language).mono.bind fun _ => ?_
  exact (Run.extracts_extractor language).bind fun _ => .pure _

theorem extracts_surveyFile (repository : Path) (language : String) (budget : Option Int)
    (progress : Progress) (path : Path) :
    Run.Extracts (surveyFile repository language budget progress path) := by
  refine .bind (.attempt (by decide) ?_) fun outcome => ?_
  · refine Run.looks_disk.mono.bind fun disk => ?_
    refine (extracts_fileRecord path language budget).bind fun file => ?_
    split
    · exact .throw _
    · exact .throw _
    · exact .pure _
  · cases outcome with
    | ok progress => exact .pure _
    | error fault => exact (Run.looks_say _ (by exact .ofList rfl)).mono.bind fun _ => .pure _

theorem extracts_surveyGroup (repository : Path) (budget : Option Int) (progress : Progress)
    (group : String × List Path) :
    Run.Extracts (surveyGroup repository budget progress group) :=
  (Run.looks_say _ (by exact .ofList rfl)).mono.bind fun _ =>
    .foldlM (extracts_surveyFile repository _ budget) _

theorem looks_surveyOther (repository : Path) (progress : Progress) (path : Path) :
    Run.Looks (surveyOther repository progress path) := by
  refine Run.looks_disk.bind fun disk => ?_
  split
  · exact .throw _
  · exact .pure _

theorem extracts_sumUp (repository : Path) (budget : Option Int) (scan : Scan)
    (languages : List (String × LanguageSupport)) :
    Run.Extracts (sumUp repository budget scan languages) := by
  refine .bind (.foldlM (extracts_surveyGroup repository budget) _) fun filed => ?_
  refine .bind (.foldlM (fun _ _ => (looks_surveyOther ..).mono) _) fun progress => ?_
  exact (Run.looks_say _ (by exact .ofList rfl)).mono.bind fun _ => .pure _

/-- What a survey does after the scan. -/
def finish (repository : Path) (budget : Option Int) (scan : Scan) : Run Summary :=
  Support.offer repository >>= sumUp repository budget scan

theorem works_finish (repository : Path) (budget : Option Int) (scan : Scan) :
    Run.Works (finish repository budget scan) :=
  (Support.installs_offer repository).mono.bind fun _ => (extracts_sumUp ..).mono

theorem works_run (repository : Path) (f : LanguageFilter) (limit budget : Option Int) :
    Run.Works (run repository f limit budget) := by
  refine (Run.looks_say _ (by exact .ofList rfl)).mono.bind fun _ => ?_
  exact (Discovery.looks_scan repository f limit false).mono.bind (works_finish repository budget)

/-! ## Files -/

/-- Whatever happens when a file is read, there is a list of symbols in the end. -/
theorem fileSymbols_total (path : Path) (language : String) (hs : s.Lenient) :
    ∃ symbols t, fileSymbols path language s = (.ok symbols, t) := by
  have hsymbols : Run.Extracts (fileContent path >>= (Run.symbolsOfText · language)) :=
    (looks_fileContent path).mono.bind fun text => Run.extracts_symbolsOfText text language
  rw [fileSymbols, bind_of_ok (Run.attempt_apply _ s)]
  rcases h : (fileContent path >>= (Run.symbolsOfText · language)) s with ⟨fault | symbols, t⟩
  · have ht : t.Lenient := hs.of_situation (hsymbols.keeps.of_eq h)
    exact ⟨[], _, bind_of_ok (Run.say_apply _ ht)⟩
  · exact ⟨symbols, t, rfl⟩

/-- With a catalogue and a budget of lines, the record of a file has those of its symbols that are
within the budget. -/
theorem fileRecord_eq {path : Path} {language : String} (budget : Int) {catalogue : Catalogue}
    {symbols : List Symbol} {r : Session} (hcatalogue : s.currentCatalogue = .ok catalogue)
    (hsymbols : fileSymbols path language s = (.ok symbols, r)) :
    ∃ t, fileRecord path language (some budget) s =
      (.ok ⟨path.text, language, Discovery.countLines s.world.disk path,
        if budget < Symbol.sizeAll symbols then Symbol.topLevel symbols else symbols,
        (t.registry.extractor language).namesLanguage⟩, t) := by
  have hr : r.situation = s.situation := (extracts_fileSymbols path language).keeps.of_eq hsymbols
  have hcat : r.currentCatalogue = .ok catalogue := by
    rw [Session.currentCatalogue_eq_of_situation hr, hcatalogue]
  obtain ⟨r', hentry⟩ := Run.entryFor_total language hcat
  refine ⟨r', ?_⟩
  rw [fileRecord, bind_of_ok hsymbols, bind_of_ok (Run.disk_apply r), withinBudget,
    bind_of_ok (Run.ofExcept_apply _ r), bind_of_ok hentry,
    bind_of_ok (Run.extractor_apply language r'), Session.world_eq_of_situation hr,
    signatureSupport_eq]
  rfl

/-- With a catalogue and a budget of lines, a file of a language always gets its record. -/
theorem fileRecord_total (path : Path) (language : String) (budget : Int) {catalogue : Catalogue}
    (hs : s.Lenient) (hcatalogue : s.currentCatalogue = .ok catalogue) :
    ∃ file t, fileRecord path language (some budget) s = (.ok file, t) ∧
      file.language = language ∧ file.lines = Discovery.countLines s.world.disk path := by
  obtain ⟨symbols, r, hsymbols⟩ := fileSymbols_total path language hs
  obtain ⟨t, hrecord⟩ := fileRecord_eq budget hcatalogue hsymbols
  exact ⟨_, t, hrecord, rfl, rfl⟩

/-- A file of a language that lies in the repository is put where it belongs. -/
theorem surveyFile_eq {repository path : Path} {names : List String} {language : String}
    {budget : Int} {catalogue : Catalogue} (progress : Progress) (hs : s.Lenient)
    (hcatalogue : s.currentCatalogue = .ok catalogue)
    (hplace : place? s.world.disk repository path = some names) (hne : names ≠ []) :
    ∃ file t, surveyFile repository language (some budget) progress path s =
        (.ok (progress.add names file), t) ∧
      file.language = language ∧ file.lines = Discovery.countLines s.world.disk path := by
  obtain ⟨file, t, hfile, hlanguage, hlines⟩ :=
    fileRecord_total path language budget hs hcatalogue
  refine ⟨file, t, ?_, hlanguage, hlines⟩
  obtain ⟨name, rest, rfl⟩ := List.exists_cons_of_ne_nil hne
  rw [surveyFile, bind_of_ok (Run.attempt_apply _ s), bind_of_ok (Run.disk_apply s),
    bind_of_ok hfile, hplace]
  rfl

/-- Why a file of a language gets into no folder; nothing when it gets into one. -/
def refusal? (disk : Disk) (repository path : Path) : Option Fault :=
  match place? disk repository path with
  | none => some .unplaced
  | some [] => some .nameless
  | some (_ :: _) => none

theorem place?_of_not_refused {disk : Disk} {repository path : Path}
    (h : refusal? disk repository path = none) :
    ∃ names, place? disk repository path = some names ∧ names ≠ [] := by
  rw [refusal?] at h
  split at h
  · cases h
  · cases h
  · next name rest hplace => exact ⟨name :: rest, hplace, List.cons_ne_nil _ _⟩

/-- What the user is told about a file that gets into no folder. -/
def refusalNotice (path : Path) (fault : Fault) : Notice :=
  .line ("ERROR: Error processing " ++ path.text ++ ": " ++ fault.message)

/-- A file of a language that is refused is told to the user and left out. -/
theorem surveyFile_of_refusal {repository path : Path} {language : String} {budget : Int}
    {catalogue : Catalogue} {fault : Fault} (progress : Progress) (hs : s.Lenient)
    (hcatalogue : s.currentCatalogue = .ok catalogue)
    (hrefusal : refusal? s.world.disk repository path = some fault) :
    ∃ t, surveyFile repository language (some budget) progress path s = (.ok progress, t) ∧
      refusalNotice path fault ∈ t.notices := by
  obtain ⟨file, t, hfile, -, -⟩ := fileRecord_total path language budget hs hcatalogue
  have ht : t.Lenient := hs.of_situation ((extracts_fileRecord _ _ _).keeps.of_eq hfile)
  refine ⟨t.shows [refusalNotice path fault], ?_,
    List.mem_append_right _ (List.mem_singleton_self _)⟩
  rw [surveyFile, bind_of_ok (Run.attempt_apply _ s), bind_of_ok (Run.disk_apply s),
    bind_of_ok hfile]
  rw [refusal?] at hrefusal
  split at hrefusal
  · next hplace =>
    cases hrefusal
    rw [hplace]
    exact bind_of_ok (Run.say_apply _ ht)
  · next hplace =>
    cases hrefusal
    rw [hplace]
    exact bind_of_ok (Run.say_apply _ ht)
  · cases hrefusal

/-- A file without a language is put where it belongs, or else it is the end of the survey. -/
theorem surveyOther_apply (repository path : Path) (progress : Progress) (s : Session) :
    surveyOther repository progress path s =
      match place? s.world.disk repository path with
      | none => (.error .unplaced, s)
      | some names => (.ok (progress.add names (otherRecord "")), s) := by
  rw [surveyOther, bind_of_ok (Run.disk_apply s)]
  cases place? s.world.disk repository path with
  | none => rfl
  | some names => rfl

/-! ## The whole -/

/-- What a survey does, one after the other. The scan may as well be made before anything is shown,
and the offer right after it. -/
theorem run_eq_ok {repository : Path} {f : LanguageFilter} {limit budget : Option Int}
    {summary : Summary} (h : run repository f limit budget s = (.ok summary, t)) :
    ∃ scan scanned languages offered filed progress, ∃ s₃ s₄ s₅ : Session,
      Discovery.scan repository f limit false s = (.ok scan, scanned) ∧
      scanned.situation = s.situation ∧
      Support.offer repository scanned = (.ok languages, offered) ∧
      s₃.situation = offered.situation ∧
      scan.groups.foldlM (surveyGroup repository budget) ⟨.root, 0⟩ s₃ = (.ok filed, s₄) ∧
      scan.others.foldlM (surveyOther repository) filed s₄ = (.ok progress, s₅) ∧
      summary = {
        name := scan.info.name
        rootPath := repository.text
        folder := progress.root
        languages := scan.languageCounts.map fun (language, n) => (language, (n : Int))
        supportedLanguages := scan.groups.map fun (language, _) =>
          (language, supported languages language)
        totalFiles := scan.totalFiles
        totalLines := scan.totalLines } := by
  obtain ⟨_, s₁, hsay, h⟩ := bind_eq_ok.1 h
  obtain ⟨scan, s₂, hscan, h⟩ := bind_eq_ok.1 h
  obtain ⟨languages, s₃, hoffer, h⟩ := bind_eq_ok.1 h
  rw [sumUp] at h
  obtain ⟨filed, s₄, hfiled, h⟩ := bind_eq_ok.1 h
  obtain ⟨progress, s₅, hprogress, h⟩ := bind_eq_ok.1 h
  obtain ⟨_, s₆, -, h⟩ := bind_eq_ok.1 h
  -- The opening notice is not part of the situation, so scan and offer can be moved before it.
  have h₁ : s₁.situation = s.situation := (Run.keeps_say _).of_eq hsay
  have hlooks := Discovery.looks_scan repository f limit false
  obtain ⟨scanned, hscanned, h₂⟩ := hlooks.determined.exists_eq h₁ hscan
  obtain ⟨offered, hoffered, h₃⟩ :=
    (Support.installs_offer repository).determined.exists_eq h₂.symm hoffer
  cases h
  exact ⟨scan, scanned, languages, offered, filed, progress, s₃, s₄, s₅, hscanned,
    hlooks.keeps.of_eq hscanned, hoffered, h₃.symm, hfiled, hprogress, rfl⟩

/-- The scan of a survey that comes to its end is the one that is made when nothing is refused. -/
theorem scan_of_run_openly {repository : Path} {f : LanguageFilter} {limit budget : Option Int}
    {summary : Summary} (h : run repository f limit budget s = (.ok summary, t)) {scan : Scan}
    {r : Session} (hscan : Discovery.scan repository f limit false s.openly = (.ok scan, r)) :
    ∃ scanned, Discovery.scan repository f limit false s = (.ok scan, scanned) := by
  obtain ⟨found, scanned, _, _, _, _, _, _, _, hfound, -⟩ := run_eq_ok h
  obtain ⟨_, hopen, -⟩ :=
    Run.Installs.openly_of_ok (Discovery.looks_scan repository f limit false).mono hfound
  obtain rfl : found = scan :=
    Except.ok.inj ((congrArg Prod.fst hopen).symm.trans (congrArg Prod.fst hscan))
  exact ⟨scanned, hfound⟩

end SourceOutline.Survey
