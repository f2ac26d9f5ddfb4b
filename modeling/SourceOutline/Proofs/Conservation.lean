import Mathlib.Algebra.BigOperators.Group.List.Basic
import Mathlib.Algebra.Order.Ring.Int
import SourceOutline.Proofs.Survey

/-!
# A survey keeps every file

The folders of a summary hold the files of the scan and no others, each as often as it was found and
in the folder where it lies, and the numbers of the summary count them. A survey goes over the files
group by group and then over those without a language. Each step files one more record
(`Survey.Grows`); the groups and the rest together are the scanned files in another order.
-/

namespace SourceOutline.Survey

open scoped List

variable {disk : Disk} {repository : Path}

/-- What a survey writes about a file, without its symbols, and where it puts it. -/
structure Filing where
  /-- The names of the folder. -/
  folder : List String
  /-- The path that is written. -/
  path : String
  /-- The language. -/
  language : String
  /-- The number of lines. -/
  lines : Int

/-- The filing of a record that is put into the folder of some names. -/
def Filing.ofRecord (placed : List String × FileRecord) : Filing :=
  ⟨placed.1, placed.2.path, placed.2.language, placed.2.lines⟩

/-- The names that lead from a repository to a file in it. -/
def namesOf (disk : Disk) (repository path : Path) : List String :=
  (place? disk repository path).getD []

/-- The lines of a file as they are written; those of a file without a language are not counted. -/
def writtenLines (disk : Disk) (language : Option String) (path : Path) : Nat :=
  if language.isSome then Discovery.countLines disk path else 0

/-- The filing that is right for a file. -/
def filing (disk : Disk) (repository : Path) (language : Option String) (path : Path) : Filing where
  folder := (namesOf disk repository path).dropLast
  path := (Path.ofNames (namesOf disk repository path)).text
  language := language.getD "other"
  lines := writtenLines disk language path

/-- Whether a survey gets a file into a folder: the file lies in the repository, and a file of a
language is not the repository itself. -/
def isFiled (disk : Disk) (repository : Path) (language : Option String) (path : Path) : Bool :=
  match language with
  | some _ => (refusal? disk repository path).isNone
  | none => (place? disk repository path).isSome

/-- The filing of a file, if it gets into a folder. -/
def filings (disk : Disk) (repository : Path) (language : Option String) (path : Path) :
    List Filing :=
  if isFiled disk repository language path then [filing disk repository language path] else []

/-- A survey gets on by records with these filings. -/
def Grows (filings : List Filing) (before after : Progress) : Prop :=
  ∃ added, after.root = before.root.addFiles added ∧ added.map Filing.ofRecord = filings

theorem Grows.refl (progress : Progress) : Grows [] progress progress := ⟨[], rfl, rfl⟩

theorem Grows.trans {first second : List Filing} {p q r : Progress} (hfirst : Grows first p q)
    (hsecond : Grows second q r) : Grows (first ++ second) p r := by
  obtain ⟨added, hq, rfl⟩ := hfirst
  obtain ⟨more, hr, rfl⟩ := hsecond
  refine ⟨added ++ more, ?_, List.map_append⟩
  rw [hr, hq, Folder.addFiles, Folder.addFiles, Folder.addFiles, List.foldl_append]

theorem grows_add {path : Path} {names : List String} {file : FileRecord} {language : Option String}
    (progress : Progress) (hplace : place? disk repository path = some names)
    (hfiled : isFiled disk repository language path = true)
    (hlanguage : file.language = language.getD "other")
    (hlines : file.lines = writtenLines disk language path) :
    Grows (filings disk repository language path) progress (progress.add names file) := by
  refine ⟨[(names.dropLast, { file with path := (Path.ofNames names).text })], rfl, ?_⟩
  simp [Filing.ofRecord, filings, hfiled, filing, namesOf, hplace, hlanguage, hlines]

section Steps

variable {situation : World × Except Fault Catalogue} {catalogue : Catalogue} {s t : Session}
  {p q : Progress}

/-- Steps that each file what they should in a situation file all of it together. -/
theorem grows_foldlM {α : Type} {items : List α} {step : Progress → α → Run Progress}
    (filings : α → List Filing) (hextracts : ∀ p a, Run.Extracts (step p a))
    (hstep : ∀ a ∈ items, ∀ p q s t, s.situation = situation → step p a s = (.ok q, t) →
      Grows (filings a) p q)
    (hs : s.situation = situation) (h : items.foldlM step p s = (.ok q, t)) :
    Grows (items.flatMap filings) p q := by
  induction items generalizing p s with
  | nil =>
    cases h
    exact .refl _
  | cons a rest ih =>
    rw [List.foldlM_cons] at h
    obtain ⟨p', s', ha, h⟩ := bind_eq_ok.1 h
    have hs' : s'.situation = situation := ((hextracts p a).keeps.of_eq ha).trans hs
    have hfirst := hstep a List.mem_cons_self p p' s s' hs ha
    exact hfirst.trans (ih (fun a ha => hstep a (List.mem_cons_of_mem _ ha)) hs' h)

theorem grows_surveyFile {path : Path} {language : String} {budget : Int}
    (hlenient : situation.1.console = .lenient) (hcatalogue : situation.2 = .ok catalogue)
    (hs : s.situation = situation)
    (h : surveyFile repository language (some budget) p path s = (.ok q, t)) :
    Grows (filings situation.1.disk repository (some language) path) p q := by
  subst hs
  cases hrefusal : refusal? s.situation.1.disk repository path with
  | none =>
    obtain ⟨names, hplace, hne⟩ := place?_of_not_refused hrefusal
    obtain ⟨file, t', heq, hlanguage, hlines⟩ := surveyFile_eq p hlenient hcatalogue hplace hne
    rw [heq] at h
    cases h
    exact grows_add p hplace (by simp [isFiled, hrefusal]) hlanguage hlines
  | some fault =>
    obtain ⟨t', heq, -⟩ := surveyFile_of_refusal p hlenient hcatalogue hrefusal
    rw [heq] at h
    cases h
    have hnone : filings s.situation.1.disk repository (some language) path = [] := by
      simp [filings, isFiled, hrefusal]
    rw [hnone]
    exact .refl _

theorem grows_surveyGroup {group : String × List Path} {budget : Int}
    (hlenient : situation.1.console = .lenient) (hcatalogue : situation.2 = .ok catalogue)
    (hs : s.situation = situation)
    (h : surveyGroup repository (some budget) p group s = (.ok q, t)) :
    Grows (group.2.flatMap (filings situation.1.disk repository (some group.1))) p q := by
  obtain ⟨_, r, hsay, h⟩ := bind_eq_ok.1 h
  have hr : r.situation = situation := ((Run.keeps_say _).of_eq hsay).trans hs
  refine grows_foldlM _ (extracts_surveyFile repository group.1 (some budget)) ?_ hr h
  intro path _ p q s t hs hstep
  exact grows_surveyFile hlenient hcatalogue hs hstep

theorem grows_surveyOther {path : Path} (hs : s.situation = situation)
    (h : surveyOther repository p path s = (.ok q, t)) :
    Grows (filings situation.1.disk repository none path) p q := by
  subst hs
  rw [surveyOther_apply] at h
  cases hplace : place? s.situation.1.disk repository path with
  | none =>
    rw [show place? s.world.disk repository path = none from hplace] at h
    cases h
  | some names =>
    rw [show place? s.world.disk repository path = some names from hplace] at h
    cases h
    exact grows_add p hplace (by simp [isFiled, hplace]) rfl rfl

end Steps

/-! ## The whole survey -/

/-- The records of a survey are those of the scanned files that get into folders, in some order. -/
theorem run_files_filed {f : LanguageFilter} {limit : Option Int} {budget : Int} {s t : Session}
    {summary : Summary} (hs : s.Lenient)
    (h : run repository f limit (some budget) s = (.ok summary, t)) :
    ∃ scan scanned, Discovery.scan repository f limit false s = (.ok scan, scanned) ∧
      summary.languages = scan.languageCounts.map (fun (language, n) => (language, (n : Int))) ∧
      summary.totalFiles = scan.totalFiles ∧ summary.totalLines = scan.totalLines ∧
      ∃ added, summary.folder = Folder.root.addFiles added ∧
        (added.map Filing.ofRecord).Perm (scan.files.flatMap fun path =>
          filings s.world.disk repository (s.groupOf? path) path) := by
  obtain ⟨scan, scanned, languages, offered, filed, progress, s₃, s₄, s₅, hscan, hscanned, hoffer,
    hs₃, hgroups, hothers, rfl⟩ := run_eq_ok h
  refine ⟨scan, scanned, hscan, rfl, rfl, rfl, ?_⟩
  have hscan := Discovery.scanned_of_scan hscan
  -- The dialogue may have changed the world, but not the disk and not the catalogue.
  have hkept : offered.surroundings = s.surroundings :=
    ((Support.installs_offer repository).keeps.of_eq hoffer).trans
      (Session.surroundings_eq_of_situation hscanned)
  have hdisk : offered.situation.1.disk = s.world.disk := (Session.surroundings_eq_iff.1 hkept).1
  have hlenient : offered.situation.1.console = .lenient :=
    (Session.surroundings_eq_iff.1 hkept).2.2.1.trans hs
  have hcatalogue : offered.situation.2 = s.currentCatalogue :=
    (Session.surroundings_eq_iff.1 hkept).2.2.2
  have hs₄ : s₄.situation = offered.situation :=
    (Run.Extracts.keeps (.foldlM (extracts_surveyGroup repository (some budget)) _)).of_eq hgroups
      |>.trans hs₃
  have hfirst := grows_foldlM
    (fun group => group.2.flatMap (filings s.world.disk repository (some group.1)))
    (extracts_surveyGroup repository (some budget)) ?_ hs₃ hgroups
  have hsecond := grows_foldlM (filings s.world.disk repository none)
    (fun p path => (looks_surveyOther repository p path).mono) ?_ hs₄ hothers
  · -- The groups and the rest are the scanned files in another order.
    obtain ⟨added, hroot, hadded⟩ := hfirst.trans hsecond
    refine ⟨added, hroot, ?_⟩
    have hperm := (Discovery.members_append_others_perm hscan.groups Prod.mk).flatMap_right
      fun file => filings s.world.disk repository file.1 file.2
    rw [hadded]
    simpa only [Discovery.members, List.flatMap_append, List.flatMap_map, List.map_flatMap,
      List.flatMap_assoc] using hperm
  · intro path _ p q r r' hr hstep
    rw [← hdisk]
    exact grows_surveyOther hr hstep
  · intro group hgroup p q r r' hr hstep
    obtain ⟨catalogue, hc⟩ := hscan.exists_catalogue hgroup
    rw [← hdisk]
    exact grows_surveyGroup hlenient (hcatalogue.trans hc) hr hstep

section Filed

variable {folder : Folder} {added : List (List String × FileRecord)} {files : List Path}
  {right : Path → Filing}

/-- A folder holds the records of the filings for it. -/
theorem held_perm {filings : List Filing} (hfolder : folder = Folder.root.addFiles added)
    (hadded : (added.map Filing.ofRecord).Perm filings) (names : List String) :
    ((folder.held names).map fun file => Filing.ofRecord (names, file)).Perm
      (filings.filter (·.folder == names)) := by
  have hroot : Folder.root.held names = [] := by cases names <;> rfl
  have hheld : (folder.held names).map (fun file => Filing.ofRecord (names, file)) =
      (added.map Filing.ofRecord).filter (·.folder == names) := by
    rw [hfolder, Folder.held_addFiles, hroot, List.nil_append, List.map_map, List.filter_map]
    refine List.map_congr_left fun placed hplaced => ?_
    have hnames : placed.1 = names := by simpa using (List.mem_filter.1 hplaced).2
    simp only [Function.comp_apply, ← hnames]
  rw [hheld]
  exact hadded.filter _

end Filed

namespace Sample

/-- A session in a repository with three files in two folders; git lists one of them twice. -/
def session : Session where
  world := {
    disk := {
      tree := .folder [("r", .folder [("a.py", .file ⟨#[112, 10]⟩),
        ("d", .folder [("b.py", .file ⟨#[113, 10, 114, 10]⟩), ("notes", .file ⟨#[10, 10]⟩)])])]
      here := .ofString "/r" }
    git := { files := .ok ⟨0, "a.py\nd/b.py\nd/b.py\nd/notes\n", "", []⟩ }
    packages := []
    answers := [false]
    modules := []
    console := .lenient
    parserProblem? := fun _ => some "no parser"
    parsed := []
    catalogue := .standard }
  catalogue := some ⟨[Catalogue.Standard.python], .list [], .list []⟩
  parsers := []
  registry := .initial
  notices := []
  commands := []

/-- The current folder. -/
def here : Path := .ofString "."

end Sample

end SourceOutline.Survey
