import SourceOutline.Proofs.Caches
import SourceOutline.Proofs.Conservation

/-!
# Files outside the repository

A scan can find files that do not lie in the repository: git may list them, with dots on the way.
Such a file never gets into a folder. When it has a language, the user is told and the survey goes
on; when it has none, the survey fails.

So a survey whose scan and whose offer of packages come to their ends, and whose notices are shown,
gives a summary exactly when all files without a language lie in the repository, and the summary is
complete exactly when no file was left out (`Survey.run_deals`). Going over the groups never fails,
and what was told on the way stays told (`Survey.foldlM_tells`); going over the rest changes no
session and stops at the first file outside (`Survey.foldlM_surveyOther`).
-/

namespace SourceOutline.Survey

variable {repository : Path}

/-! ## Going over the files -/

/-- What the user is told about a file of a language because it gets into no folder. -/
def refusalNotices (disk : Disk) (repository path : Path) : List Notice :=
  (refusal? disk repository path).toList.map (refusalNotice path)

section Steps

variable {situation : World × Except Fault Catalogue} {catalogue : Catalogue}

/-- Steps that each come to an end and tell what they should do so together. -/
theorem foldlM_tells {α : Type} {step : Progress → α → Run Progress} (items : List α)
    (tell : α → List Notice) (hextracts : ∀ p a, Run.Extracts (step p a))
    (hstep : ∀ a ∈ items, ∀ p s, s.situation = situation →
      ∃ q t, step p a s = (.ok q, t) ∧ tell a ⊆ t.notices)
    (p : Progress) {s : Session} (hs : s.situation = situation) :
    ∃ q t, items.foldlM step p s = (.ok q, t) ∧ items.flatMap tell ⊆ t.notices := by
  induction items generalizing p s with
  | nil => exact ⟨p, s, rfl, List.nil_subset _⟩
  | cons a rest ih =>
    obtain ⟨p', s', ha, htold⟩ := hstep a List.mem_cons_self p s hs
    have hs' : s'.situation = situation := ((hextracts p a).keeps.of_eq ha).trans hs
    obtain ⟨q, t, hrest, hmore⟩ := ih (fun b hb => hstep b (List.mem_cons_of_mem _ hb)) p' hs'
    refine ⟨q, t, ?_, ?_⟩
    · rw [List.foldlM_cons, bind_of_ok ha, hrest]
    · -- What was told before the rest is still there after it.
      have hextracts : Run.Extracts (rest.foldlM step p') := .foldlM hextracts p'
      have hprecedes := (hextracts.precedes s').notices
      rw [hrest] at hprecedes
      rw [List.flatMap_cons]
      exact List.append_subset.2 ⟨List.Subset.trans htold hprecedes.subset, hmore⟩

theorem surveyFile_tells {path : Path} {language : String} {budget : Int}
    (hlenient : situation.1.console = .lenient) (hcatalogue : situation.2 = .ok catalogue)
    (p : Progress) {s : Session}
    (hs : s.situation = situation) :
    ∃ q t, surveyFile repository language (some budget) p path s = (.ok q, t) ∧
      refusalNotices situation.1.disk repository path ⊆ t.notices := by
  subst hs
  rw [refusalNotices]
  cases hrefusal : refusal? s.situation.1.disk repository path with
  | none =>
    obtain ⟨names, hplace, hne⟩ := place?_of_not_refused hrefusal
    obtain ⟨file, t, heq, -, -⟩ := surveyFile_eq p hlenient hcatalogue hplace hne
    exact ⟨_, t, heq, List.nil_subset _⟩
  | some fault =>
    obtain ⟨t, heq, htold⟩ := surveyFile_of_refusal p hlenient hcatalogue hrefusal
    exact ⟨p, t, heq, by simpa using htold⟩

theorem surveyGroup_tells {group : String × List Path} {budget : Int}
    (hlenient : situation.1.console = .lenient) (hcatalogue : situation.2 = .ok catalogue)
    (p : Progress) {s : Session}
    (hs : s.situation = situation) :
    ∃ q t, surveyGroup repository (some budget) p group s = (.ok q, t) ∧
      group.2.flatMap (refusalNotices situation.1.disk repository) ⊆ t.notices := by
  have hstep : ∀ path ∈ group.2, ∀ p s, s.situation = situation →
      ∃ q t, surveyFile repository group.1 (some budget) p path s = (.ok q, t) ∧
        refusalNotices situation.1.disk repository path ⊆ t.notices :=
    fun path _ p s hs => surveyFile_tells hlenient hcatalogue p hs
  have hs' : s.Lenient := by
    rw [← hs] at hlenient
    exact hlenient
  -- The opening notice is not part of the situation.
  obtain ⟨s₁, hsay, h₁⟩ : ∃ s₁,
      Run.say ("Processing " ++ toString group.2.length ++ " " ++ group.1 ++ " files...") s =
        (.ok (), s₁) ∧ s₁.situation = situation := ⟨_, Run.say_apply _ hs', hs⟩
  obtain ⟨q, t, hfold, htold⟩ := foldlM_tells group.2 _
    (extracts_surveyFile repository group.1 (some budget)) hstep p h₁
  exact ⟨q, t, by rw [surveyGroup, bind_of_ok hsay, hfold], htold⟩

end Steps

/-- Going over the files without a language changes no session, and fails exactly when one of them
does not lie in the repository. -/
theorem foldlM_surveyOther (repository : Path) (others : List Path) (p : Progress) (s : Session) :
    (∃ q, others.foldlM (surveyOther repository) p s = (.ok q, s)) ∧
        (∀ path ∈ others, (place? s.world.disk repository path).isSome) ∨
      others.foldlM (surveyOther repository) p s = (.error .unplaced, s) ∧
        ∃ path ∈ others, place? s.world.disk repository path = none := by
  induction others generalizing p with
  | nil => exact .inl ⟨⟨p, rfl⟩, List.forall_mem_nil _⟩
  | cons path rest ih =>
    have hstep := surveyOther_apply repository path p s
    rw [List.foldlM_cons]
    cases hplace : place? s.world.disk repository path with
    | none =>
      rw [hplace] at hstep
      exact .inr ⟨bind_of_error hstep, path, List.mem_cons_self, hplace⟩
    | some names =>
      rw [hplace] at hstep
      rw [bind_of_ok hstep]
      rcases ih (p.add names (otherRecord "")) with ⟨hok, hplaced⟩ | ⟨herror, outside, hmem, hnone⟩
      · refine .inl ⟨hok, List.forall_mem_cons.2 ⟨?_, hplaced⟩⟩
        rw [hplace]
        rfl
      · exact .inr ⟨herror, outside, List.mem_cons_of_mem _ hmem, hnone⟩

/-! ## The whole survey -/

/-- A survey sums up what the scan and the offer give, which may as well be made before anything is
shown. -/
theorem run_of_offer {f : LanguageFilter} {limit : Option Int} {s scanned offered : Session}
    {scan : Scan} {languages : List (String × LanguageSupport)} (budget : Option Int)
    (hs : s.Lenient) (hscan : Discovery.scan repository f limit false s = (.ok scan, scanned))
    (hoffer : Support.offer repository scanned = (.ok languages, offered)) :
    ∃ s₃ : Session, s₃.situation = offered.situation ∧
      run repository f limit budget s = sumUp repository budget scan languages s₃ := by
  obtain ⟨s₁, hsay, h₁⟩ : ∃ s₁,
      Run.say "Processing repository with fancy_tree..." s = (.ok (), s₁) ∧
        s.situation = s₁.situation := ⟨_, Run.say_apply _ hs, rfl⟩
  have hlooks := Discovery.looks_scan repository f limit false
  obtain ⟨s₂, hscan₂, h₂⟩ := hlooks.determined.exists_eq h₁ hscan
  obtain ⟨s₃, hoffer₃, h₃⟩ :=
    (Support.installs_offer repository).determined.exists_eq h₂.symm hoffer
  refine ⟨s₃, h₃, ?_⟩
  rw [run, bind_of_ok hsay, bind_of_ok hscan₂, bind_of_ok hoffer₃]

/-- Summing up comes to an end exactly when all files without a language lie in the repository, and
tells in any case about the files of a language that get into no folder. -/
theorem sumUp_tells {scan : Scan} {s : Session} (repository : Path) (budget : Int)
    (languages : List (String × LanguageSupport)) (hs : s.Lenient)
    (hcatalogue : ∀ group ∈ scan.groups, ∃ c, s.situation.2 = .ok c) :
    ∃ outcome t, sumUp repository (some budget) scan languages s = (outcome, t) ∧
      (outcome.isOk ↔ ∀ path ∈ scan.others, (place? s.world.disk repository path).isSome) ∧
      (∀ fault, outcome = .error fault → fault = .unplaced) ∧
      (scan.groups.flatMap fun group =>
        group.2.flatMap (refusalNotices s.world.disk repository)) ⊆ t.notices := by
  have hextracts := extracts_surveyGroup repository (some budget)
  have hlenient : s.situation.1.console = .lenient := hs
  have hstep : ∀ group ∈ scan.groups, ∀ p r, r.situation = s.situation →
      ∃ q t, surveyGroup repository (some budget) p group r = (.ok q, t) ∧
        group.2.flatMap (refusalNotices s.world.disk repository) ⊆ t.notices := by
    intro group hgroup p r hr
    obtain ⟨c, hc⟩ := hcatalogue group hgroup
    exact surveyGroup_tells hlenient hc p hr
  obtain ⟨filed, s₄, hfiled, htold⟩ := foldlM_tells scan.groups _ hextracts hstep ⟨.root, 0⟩ rfl
  have hs₄ : s₄.situation = s.situation :=
    (Run.Extracts.keeps (.foldlM hextracts _)).of_eq hfiled
  have hothers := foldlM_surveyOther repository scan.others filed s₄
  rw [Session.world_eq_of_situation hs₄] at hothers
  rcases hothers with ⟨⟨progress, hok⟩, hplaced⟩ | ⟨herror, path, hpath, hnone⟩
  · obtain ⟨s₅, hsay, htold'⟩ : ∃ s₅,
        Run.say ("Processed " ++ toString progress.count ++ " files") s₄ = (.ok (), s₅) ∧
          s₄.notices ⊆ s₅.notices :=
      ⟨_, Run.say_apply _ (hs.of_situation hs₄), List.subset_append_left _ _⟩
    obtain ⟨summary, hsummary⟩ : ∃ summary,
        sumUp repository (some budget) scan languages s = (.ok summary, s₅) := by
      rw [sumUp, bind_of_ok hfiled, bind_of_ok hok, bind_of_ok hsay]
      exact ⟨_, rfl⟩
    refine ⟨.ok summary, s₅, hsummary, iff_of_true rfl hplaced, ?_, List.Subset.trans htold htold'⟩
    rintro fault ⟨⟩
  · refine ⟨.error .unplaced, s₄, ?_, iff_of_false Bool.false_ne_true ?_, ?_, htold⟩
    · rw [sumUp, bind_of_ok hfiled, bind_of_error herror]
    · intro hplaced
      have hsome := hplaced path hpath
      rw [hnone] at hsome
      cases hsome
    · rintro fault ⟨⟩
      rfl

/-- What becomes of the files of a scan in a survey that gives this outcome. -/
structure Deals (session : Session) (repository : Path) (scan : Scan)
    (outcome : Except Fault Summary) (after : Session) : Prop where
  /-- There is a summary exactly when all files without a language lie in the repository. -/
  returns : outcome.isOk ↔
    ∀ path ∈ scan.others, (place? session.world.disk repository path).isSome
  /-- Otherwise the reason is that one of them does not. -/
  fails : ∀ fault, outcome = .error fault → fault = .unplaced
  /-- The folders hold the files that get into folders, each as often as it was found, and nothing
  else. -/
  held : ∀ summary, outcome = .ok summary → ∀ names,
    ((summary.folder.held names).map fun file => Filing.ofRecord (names, file)).Perm
      (((scan.files.filter fun path =>
          isFiled session.world.disk repository (session.groupOf? path) path).map fun path =>
        filing session.world.disk repository (session.groupOf? path) path).filter
          (·.folder == names))
  /-- No file is left out of a summary exactly when all of them get into folders. -/
  complete : ∀ summary, outcome = .ok summary →
    (summary.folder.allFiles.length = scan.files.length ↔
      ∀ path ∈ scan.files, isFiled session.world.disk repository (session.groupOf? path) path)
  /-- The user is told about each file of a language that gets into no folder. -/
  told : ∀ path ∈ scan.files, ∀ language, session.groupOf? path = some language →
    ∀ fault, refusal? session.world.disk repository path = some fault →
      refusalNotice path fault ∈ after.notices

theorem flatMap_filings (disk : Disk) (label : Path → Option String) (files : List Path) :
    (files.flatMap fun path => filings disk repository (label path) path) =
      (files.filter fun path => isFiled disk repository (label path) path).map fun path =>
        filing disk repository (label path) path := by
  induction files with
  | nil => rfl
  | cons path rest ih =>
    rw [List.flatMap_cons, ih, filings, List.filter_cons]
    split
    · rfl
    · rfl

/-- The folders of a summary are made from the files that get into folders. -/
theorem exists_filed {f : LanguageFilter} {limit : Option Int} {budget : Int}
    {session scanned after : Session} {scan : Scan} {summary : Summary} (hs : session.Lenient)
    (hscan : Discovery.scan repository f limit false session = (.ok scan, scanned))
    (hrun : run repository f limit (some budget) session = (.ok summary, after)) :
    ∃ added, summary.folder = Folder.root.addFiles added ∧
      (added.map Filing.ofRecord).Perm ((scan.files.filter fun path =>
        isFiled session.world.disk repository (session.groupOf? path) path).map fun path =>
          filing session.world.disk repository (session.groupOf? path) path) := by
  obtain ⟨scan', scanned', hscan', -, -, -, added, hfolder, hadded⟩ := run_files_filed hs hrun
  rw [hscan] at hscan'
  cases hscan'
  rw [flatMap_filings] at hadded
  exact ⟨added, hfolder, hadded⟩

/-- What is told about a file of a language is told when the group of the language is gone over. -/
theorem refusalNotice_mem_groups {label : Path → Option String} {groups : FileGroups}
    {files : List Path} {disk : Disk} {path : Path} {language : String} {fault : Fault}
    (hgroups : groups = Discovery.grouped label [] files) (hpath : path ∈ files)
    (hlanguage : label path = some language) (hfault : refusal? disk repository path = some fault) :
    refusalNotice path fault ∈ groups.flatMap fun group =>
      group.2.flatMap (refusalNotices disk repository) := by
  have hmember : (language, path) ∈ Discovery.members groups := by
    rw [hgroups]
    exact Discovery.mem_members_grouped.2 ⟨hpath, hlanguage⟩
  obtain ⟨group, hgroup, hin⟩ := List.mem_flatMap.1 hmember
  obtain ⟨_, hpath', heq⟩ := List.mem_map.1 hin
  cases heq
  refine List.mem_flatMap.2 ⟨group, hgroup, List.mem_flatMap.2 ⟨path, hpath', ?_⟩⟩
  simp [refusalNotices, hfault]

/-- The survey deals with all files of the scan when nothing is refused. -/
theorem deals_of_lenient {f : LanguageFilter} {limit : Option Int}
    {session scanned offered : Session} {scan : Scan}
    {languages : List (String × LanguageSupport)} (hs : session.Lenient)
    (hscan : Discovery.scan repository f limit false session = (.ok scan, scanned))
    (hoffer : Support.offer repository scanned = (.ok languages, offered)) (budget : Int) :
    Deals session repository scan (run repository f limit (some budget) session).1
      (run repository f limit (some budget) session).2 := by
  have hscanned := Discovery.scanned_of_scan hscan
  obtain ⟨s₃, hs₃, hrun⟩ := run_of_offer (some budget) hs hscan hoffer
  -- The dialogue may have changed the world, but not the disk and not the catalogue.
  have hkept : s₃.surroundings = session.surroundings := by
    calc
      s₃.surroundings = offered.surroundings := Session.surroundings_eq_of_situation hs₃
      _ = scanned.surroundings := (Support.installs_offer repository).keeps.of_eq hoffer
      _ = session.surroundings := Session.surroundings_eq_of_situation
        ((Discovery.looks_scan repository f limit false).keeps.of_eq hscan)
  obtain ⟨hdisk, -, hconsole, hcatalogue⟩ := Session.surroundings_eq_iff.1 hkept
  have hreadable : ∀ group ∈ scan.groups, ∃ c, s₃.situation.2 = .ok c := by
    intro group hgroup
    obtain ⟨c, hc⟩ := hscanned.exists_catalogue hgroup
    exact ⟨c, hcatalogue.trans hc⟩
  obtain ⟨outcome, after, hsum, hreturns, hfails, htold⟩ :=
    sumUp_tells repository budget languages (hconsole.trans hs) hreadable
  rw [hdisk] at hreturns htold
  rw [hsum] at hrun
  have hfiled {summary : Summary} (hsummary : outcome = .ok summary) :=
    exists_filed hs hscan (hsummary ▸ hrun)
  rw [hrun]
  refine ⟨hreturns, hfails, ?_, ?_, ?_⟩
  · intro summary hsummary names
    obtain ⟨added, hfolder, hadded⟩ := hfiled hsummary
    exact held_perm hfolder hadded names
  · intro summary hsummary
    obtain ⟨added, hfolder, hadded⟩ := hfiled hsummary
    have hlength : summary.folder.allFiles.length = (scan.files.filter fun path =>
        isFiled session.world.disk repository (session.groupOf? path) path).length := by
      rw [hfolder, (Folder.allFiles_root_addFiles_perm added).length_eq]
      simpa using hadded.length_eq
    rw [hlength, List.length_filter_eq_length_iff]
  · intro path hpath language hlanguage fault hfault
    exact htold (refusalNotice_mem_groups hscanned.groups hpath hlanguage hfault)

/-- A survey whose scan and offer come to their ends, and whose notices are shown, deals with all
files of the scan. -/
theorem run_deals {f : LanguageFilter} {limit : Option Int} {session scanned offered : Session}
    {scan : Scan} {languages : List (String × LanguageSupport)}
    (hscan : Discovery.scan repository f limit false session = (.ok scan, scanned))
    (hoffer : Support.offer repository scanned = (.ok languages, offered)) (budget : Int)
    (hshown : (run repository f limit (some budget)).Unrefused session) :
    Deals session repository scan (run repository f limit (some budget) session).1
      (run repository f limit (some budget) session).2 := by
  have hlooks := Discovery.looks_scan repository f limit false
  obtain ⟨scanned', hscan', rfl⟩ := Run.Installs.openly_of_ok hlooks.mono hscan
  have hback : (scanned'.on session.world.console).openly = scanned' :=
    Session.openly_of_lenient (hlooks.keeps_console.of_eq hscan')
  obtain ⟨offered', hoffer', -⟩ := (Support.installs_offer repository).openly_of_ok hoffer
  rw [hback] at hoffer'
  obtain ⟨hreturns, hfails, hheld, hcomplete, htold⟩ :=
    deals_of_lenient session.lenient_openly hscan' hoffer' budget
  rw [session.groupOf?_openly] at hheld hcomplete htold
  rw [(works_run repository f limit (some budget)).apply_eq hshown]
  exact ⟨hreturns, hfails, hheld, hcomplete, htold⟩

namespace Sample

/-- The sample session with two files beside the repository, and with another listing of git. -/
def listing (output : String) : Session :=
  { session with
    world := { session.world with
      disk := {
        tree := .folder [("o.py", .file ⟨#[112, 10]⟩), ("x", .file ⟨#[]⟩),
          ("r", .folder [("a.py", .file ⟨#[112, 10]⟩), ("notes", .file ⟨#[10]⟩)])]
        here := .ofString "/r" }
      git := { files := .ok ⟨0, output, "", []⟩ } } }

/-- A listing with a file of a language outside the repository. -/
def mixed : Session := listing "a.py\nnotes\n../o.py\n"

/-- Whether the scan and the offer come to their ends. -/
def offers (session : Session) : Bool :=
  let scanned := Discovery.scan here (.names []) none false session
  scanned.1.isOk && (Support.offer here scanned.2).1.isOk

/-- What surveys of listings with files outside the repository come to. -/
theorem surveys :
    offers mixed = true ∧ offers (listing "../x\n") = true ∧
    (run here (.names []) none (some 25) (listing "../x\n")).1.isOk = false ∧
    (run here (.names []) none (some 25) (listing "../o.py\n")).1.toOption.map
      (fun summary => (summary.totalFiles, summary.folder.allFiles.length)) = some (1, 0) := by
  decide +kernel

end Sample

theorem run_deals_mixed :
    ∃ scan scanned languages offered,
      Discovery.scan Sample.here (.names []) none false Sample.mixed = (.ok scan, scanned) ∧
      Support.offer Sample.here scanned = (.ok languages, offered) ∧
      Deals Sample.mixed Sample.here scan
        (run Sample.here (.names []) none (some 25) Sample.mixed).1
        (run Sample.here (.names []) none (some 25) Sample.mixed).2 := by
  have hoffers := Sample.surveys.1
  simp only [Sample.offers, Bool.and_eq_true] at hoffers
  obtain ⟨hscanned, hoffered⟩ := hoffers
  rcases hscan : Discovery.scan Sample.here (.names []) none false Sample.mixed
    with ⟨fault | scan, scanned⟩
  · rw [hscan] at hscanned
    cases hscanned
  · rw [hscan] at hoffered
    rcases hoffer : Support.offer Sample.here scanned with ⟨fault | languages, offered⟩
    · rw [hoffer] at hoffered
      cases hoffered
    · have hlenient : Sample.mixed.Lenient := rfl
      exact ⟨scan, scanned, languages, offered, rfl, hoffer,
        run_deals hscan hoffer 25 (Run.unrefused_of_lenient _ hlenient)⟩

/-- A file outside the repository costs the survey when it has no language, though the scan and the
offer come to their ends, and it is left out when it has one. -/
theorem run_loses_outside :
    Sample.offers (Sample.listing "../x\n") = true ∧
    (run Sample.here (.names []) none (some 25) (Sample.listing "../x\n")).1.isOk = false ∧
    (run Sample.here (.names []) none (some 25) (Sample.listing "../o.py\n")).1.toOption.map
      (fun summary => (summary.totalFiles, summary.folder.allFiles.length)) = some (1, 0) :=
  Sample.surveys.2

end SourceOutline.Survey
