import Mathlib.Algebra.Order.Ring.Int
import SourceOutline.Discovery
import SourceOutline.Proofs.Console

/-!
# Scanning a repository

A scan looks at the situation and leaves it as it was, so that each of its steps gives what the
session at its start says (`Discovery.yields_scan`). Its groups are the scanned files sorted by
the language of each (`Discovery.Scanned`), so a file is in exactly one group or in none, once for
each time that it was found.
-/

namespace SourceOutline

/-- The language under which a session groups a file: the one that its catalogue gives, unless the
name of this language is empty. -/
def Session.groupOf? (session : Session) (path : Path) : Option String :=
  ((session.currentCatalogue >>= (·.languageOf path)).toOption.join).filter (!·.isEmpty)

/-- A console that shows more has no part in the groups: the catalogue that is there only when the
user is told that it cannot be read is empty. -/
theorem Session.groupOf?_openly (session : Session) :
    session.openly.groupOf? = session.groupOf? := by
  funext path
  rw [groupOf?, groupOf?]
  cases h : session.currentCatalogue with
  | ok c => rw [currentCatalogue_openly h]
  | error fault =>
    rw [currentCatalogue] at h ⊢
    have hloaded : session.openly.catalogue = session.catalogue := rfl
    have hsource : session.openly.world.catalogue = session.world.catalogue := rfl
    rw [hloaded, hsource]
    rcases hc : session.catalogue with _ | c
    · rcases hopened : Run.openCatalogue session.world.catalogue with fault' | reason | c
      · rfl
      · rfl
      · rw [hc, hopened] at h
        cases h
    · rw [hc] at h
      cases h

/-- The language that the catalogue of a session gives a file. -/
def Session.detected (session : Session) (path : Path) : Except Fault (Option String) :=
  session.currentCatalogue >>= (·.languageOf path)

/-- The language of a file, if one is found. -/
def Session.language? (session : Session) (path : Path) : Option String :=
  (session.detected path).toOption.join

theorem Run.languageOf_fst (path : Path) (s : Session) :
    (languageOf path s).1 = s.detected path := by
  rw [Session.detected, ← catalogue_fst]
  rcases h : catalogue s with ⟨fault | c, t⟩
  · rw [languageOf, bind_of_error h]
    rfl
  · rw [languageOf, bind_of_ok h]
    rfl

theorem Run.yields_languageOf (path : Path) :
    Run.Yields (Run.languageOf path) (·.detected path) :=
  Run.yields_catalogue.bind fun _ => .ofExcept _

/-! ## Entries below a folder -/

namespace Disk

theorem filesBelow_eq_ok_iff {disk : Disk} {path : Path} {files : List Path} :
    disk.filesBelow path = .ok files ↔
      ∃ entries, disk.entriesBelow path = .ok entries ∧ refuseLong entries = .ok () ∧
        filesMet entries = files := by
  rw [filesBelow, except_bind_eq_ok]
  refine exists_congr fun entries => and_congr_right fun _ => ?_
  rw [except_bind_eq_ok]
  constructor
  · rintro ⟨_, hshort, hmet⟩
    exact ⟨hshort, Except.ok.inj hmet⟩
  · rintro ⟨hshort, rfl⟩
    exact ⟨(), hshort, rfl⟩

/-- Entries are refused when one of their paths is too long. -/
theorem refuseLong_eq_ok_iff {entries : List (Path × Entry)} :
    refuseLong entries = .ok () ↔ ∀ found ∈ entries, found.1.fits = true := by
  rw [refuseLong]
  cases hlong : entries.find? (!·.1.fits) with
  | none => simpa using hlong
  | some found =>
    have hmem := List.mem_of_find?_eq_some hlong
    have hunfit := List.find?_some hlong
    refine ⟨fun h => (nomatch h), fun hall => ?_⟩
    simp [hall found hmem] at hunfit

/-- When all paths are short enough, all files are met. -/
theorem filesMet_of_fits {entries : List (Path × Entry)}
    (h : ∀ found ∈ entries, found.1.fits = true) :
    filesMet entries = (entries.filter (·.2.isFile)).map (·.1) := by
  have htake : entries.takeWhile (·.1.fits) = entries := by
    induction entries with
    | nil => rfl
    | cons found rest ih =>
      obtain ⟨hfound, hrest⟩ := List.forall_mem_cons.1 h
      simp only [List.takeWhile_cons, hfound, if_true, ih hrest]
  rw [filesMet, htake]

end Disk

namespace Discovery

/-! ## Groups -/

/-- Puts files with a label into the groups of their labels. -/
def grouped (label : Path → Option String) : FileGroups → List Path → FileGroups
  | groups, [] => groups
  | groups, path :: rest =>
    match label path with
    | some language => grouped label (addToGroup language path groups) rest
    | none => grouped label groups rest

/-- The files of some groups, each with the language of its group. -/
def members (groups : FileGroups) : List (String × Path) :=
  groups.flatMap fun group => group.2.map (group.1, ·)

section Groups

variable {label : Path → Option String}

theorem lookup_addToGroup (language other : String) (path : Path) (groups : FileGroups) :
    ((addToGroup language path groups).lookup other).getD [] =
      if other = language then (groups.lookup other).getD [] ++ [path]
      else (groups.lookup other).getD [] := by
  induction groups with
  | nil =>
    by_cases h : other = language
    · simp [addToGroup, h]
    · have hne : (other == language) = false := by simpa using h
      simp [addToGroup, List.lookup_cons, h, hne]
  | cons group rest ih =>
    obtain ⟨name, paths⟩ := group
    rw [addToGroup]
    by_cases hother : other = name
    · subst hother
      by_cases h : other = language <;> simp [h]
    · have hne : (other == name) = false := by simpa using hother
      by_cases h : name = language
      · subst h
        simp [List.lookup_cons, hother, hne]
      · simp [List.lookup_cons, h, hne, ih]

/-- The group of a language is made of the files with this label, in their order. -/
theorem lookup_grouped (language : String) (groups : FileGroups) (files : List Path) :
    ((grouped label groups files).lookup language).getD [] =
      (groups.lookup language).getD [] ++ files.filter (label · == some language) := by
  induction files generalizing groups with
  | nil => simp [grouped]
  | cons path rest ih =>
    rw [grouped]
    cases hlabel : label path with
    | none => simp [ih, hlabel]
    | some found =>
      dsimp only
      rw [ih, lookup_addToGroup, List.filter_cons, hlabel]
      by_cases h : language = found
      · subst h
        simp
      · have hne : (found == language) = false := by simpa using Ne.symm h
        simp [h, hne]

theorem members_addToGroup_perm (language : String) (path : Path) (groups : FileGroups) :
    (members (addToGroup language path groups)).Perm ((language, path) :: members groups) := by
  induction groups with
  | nil => simp [addToGroup, members]
  | cons group rest ih =>
    rw [addToGroup]
    split
    · next h =>
      have hgroup : group.1 = language := by simpa using h
      simp only [members, List.flatMap_cons, List.map_append, List.map_cons, List.map_nil,
        List.append_assoc, hgroup]
      exact List.perm_middle
    · simp only [members, List.flatMap_cons] at ih ⊢
      exact (ih.append_left _).trans List.perm_middle

theorem members_grouped_perm (groups : FileGroups) (files : List Path) :
    (members (grouped label groups files)).Perm
      (members groups ++ files.filterMap fun path => (label path).map (·, path)) := by
  induction files generalizing groups with
  | nil => simp [grouped]
  | cons path rest ih =>
    rw [grouped, List.filterMap_cons]
    cases label path with
    | none => exact ih groups
    | some language =>
      refine (ih _).trans ?_
      have hadd := (members_addToGroup_perm language path groups).append_right
        (rest.filterMap fun path => (label path).map (·, path))
      exact hadd.trans List.perm_middle.symm

theorem mem_members_grouped {files : List Path} {language : String} {path : Path} :
    (language, path) ∈ members (grouped label [] files) ↔
      path ∈ files ∧ label path = some language := by
  rw [(members_grouped_perm [] files).mem_iff]
  simp only [members, List.flatMap_nil, List.nil_append, List.mem_filterMap, Option.map_eq_some_iff,
    Prod.mk.injEq]
  constructor
  · rintro ⟨other, hmem, found, hfound, rfl, rfl⟩
    exact ⟨hmem, hfound⟩
  · rintro ⟨hmem, hfound⟩
    exact ⟨path, hmem, language, hfound, rfl, rfl⟩

/-- The files in no group are those without a label. -/
theorem others_of_grouped {scan : Scan} (h : scan.groups = grouped label [] scan.files) :
    scan.others = scan.files.filter fun path => (label path).isNone := by
  have hgrouped : scan.groups.flatMap (·.2) = (members scan.groups).map (·.2) := by
    simp [members, List.map_flatMap, Function.comp_def]
  rw [Scan.others, hgrouped]
  -- A path is compared with all members: equal paths have equal labels, so a repeated file does no
  -- harm.
  refine List.filter_congr fun path hpath => ?_
  cases hlabel : label path with
  | none =>
    simp only [Option.isNone_none, Bool.not_eq_true', List.contains_eq_mem,
      decide_eq_false_iff_not, List.mem_map, not_exists, not_and]
    rintro ⟨language, other⟩ hmem rfl
    rw [h, mem_members_grouped, hlabel] at hmem
    exact absurd hmem.2 (by simp)
  | some language =>
    have hmem : (language, path) ∈ members scan.groups := by
      rw [h, mem_members_grouped]
      exact ⟨hpath, hlabel⟩
    simp only [Option.isNone_some, Bool.not_eq_false', List.contains_eq_mem, decide_eq_true_eq]
    exact List.mem_map_of_mem hmem

/-- Each file is in the group of its label or with the files without one, as often as it was found.
The function `f` stands for what is then made of the file. -/
theorem members_append_others_perm {α : Type} {scan : Scan}
    (h : scan.groups = grouped label [] scan.files) (f : Option String → Path → α) :
    ((members scan.groups).map (fun member => f (some member.1) member.2) ++
        scan.others.map (f none)).Perm
      (scan.files.map fun path => f (label path) path) := by
  rw [others_of_grouped h, h]
  refine (((members_grouped_perm [] scan.files).map _).append_right _).trans ?_
  simp only [members, List.flatMap_nil, List.nil_append]
  induction scan.files with
  | nil => exact .nil
  | cons path rest ih =>
    cases hlabel : label path with
    | none =>
      simp only [List.filterMap_cons, List.filter_cons, List.map_cons, hlabel, Option.map_none,
        Option.isNone_none, if_true]
      exact List.perm_middle.trans (ih.cons _)
    | some language =>
      simp only [List.filterMap_cons, List.filter_cons, List.map_cons, hlabel, Option.map_some,
        Option.isNone_some, Bool.false_eq_true, if_false, List.cons_append]
      exact ih.cons _

end Groups

/-! ## What each step gives -/

/-- The files that git tracks, by its answer and by what is on the disk. -/
def tracked (git : GitOutcomes) (disk : Disk) (repository : Path) :
    Except Fault (Option (List Path)) :=
  match CommandOutcome.run git.files ["git", "ls-files"] 30 with
  | .ok answer =>
    if answer.code = 0 then
      ((presentFiles disk (listedPaths repository answer.output)).mapError .disk).map
        fun files => if files.isEmpty then none else some files
    else .ok none
  | .error (.denied reason) => .error (.command (.denied reason))
  | .error _ => .ok none

theorem yields_gitFiles (repository : Path) :
    Run.Yields (gitFiles repository) fun s => tracked s.world.git s.world.disk repository := by
  refine @Run.Yields.bindWorld _ _ (fun world s => tracked world.git s.world.disk repository)
    (fun world => ?_) fun _ => rfl
  simp only [tracked]
  rcases CommandOutcome.run world.git.files ["git", "ls-files"] 30 with fault | answer
  · cases fault with
    | denied reason => exact .ofExcept _
    | _ => exact (Run.yields_say _ (by exact .ofList rfl)).bind fun _ => .pure _
  · dsimp only
    split
    · refine ((Run.yields_onDisk fun disk => presentFiles disk (listedPaths repository
        answer.output)).bind fun files => .pure _).congr fun s => ?_
      rcases presentFiles s.world.disk (listedPaths repository answer.output) with fault | files
      · rfl
      · rfl
    · exact (Run.yields_say _ (by exact .ofList rfl)).bind fun _ => .pure _

theorem looks_gitFiles (repository : Path) : Run.Looks (gitFiles repository) :=
  (yields_gitFiles repository).looks

theorem yields_diskFiles (repository : Path) :
    Run.Yields (diskFiles repository) fun s => do
      let catalogue ← s.currentCatalogue
      let entries ← (s.world.disk.entriesBelow repository).mapError .disk
      let kept ← keepFiles catalogue.ignorePatterns (Disk.filesMet entries)
      (Disk.refuseLong entries).mapError .disk
      return kept :=
  Run.yields_catalogue.bind fun _ => (Run.yields_onDisk _).bind fun _ =>
    .bind (.ofExcept _) fun _ => .bind (.ofExcept _) fun _ => .pure _

theorem looks_diskFiles (repository : Path) : Run.Looks (diskFiles repository) :=
  (yields_diskFiles repository).looks

theorem yields_requireRepository (location : Path) :
    Run.Yields (requireRepository location) fun s =>
      (s.world.disk.hasEntry location).mapError .disk >>= fun found =>
        if found then .ok () else .error (.noRepository location.text) := by
  refine (Run.yields_onDisk _).bind fun found => ?_
  cases found with
  | true => exact .pure _
  | false => exact .ofExcept _

theorem looks_requireRepository (location : Path) : Run.Looks (requireRepository location) :=
  (yields_requireRepository location).looks

theorem yields_trackedFiles (repository : Path) (includeIgnored : Bool) :
    Run.Yields (trackedFiles repository includeIgnored) fun s =>
      if includeIgnored then .ok none else tracked s.world.git s.world.disk repository := by
  cases includeIgnored with
  | true => exact .pure _
  | false => exact yields_gitFiles repository

theorem looks_trackedFiles (repository : Path) (includeIgnored : Bool) :
    Run.Looks (trackedFiles repository includeIgnored) :=
  (yields_trackedFiles repository includeIgnored).looks

theorem yields_chooseFiles (location : Path) (tracked : Option (List Path)) :
    Run.Yields (chooseFiles location tracked) fun s =>
      tracked.elim (diskFiles location s).1 .ok := by
  cases tracked with
  | some files => exact (Run.yields_say _ (by exact .ofList rfl)).bind fun _ => .pure files
  | none =>
    refine ((Run.yields_say _ (by exact .ofList rfl)).bind fun _ =>
      (looks_diskFiles location).yields.bind fun files =>
        (Run.yields_say _ (by exact .ofList rfl)).bind fun _ => .pure files).congr fun s => ?_
    rcases (diskFiles location s).1 with fault | files
    · rfl
    · rfl

/-- What discovery does once there is a repository. -/
theorem looks_listing (location : Path) (includeIgnored : Bool) :
    Run.Looks (trackedFiles location includeIgnored >>= chooseFiles location) :=
  (looks_trackedFiles location includeIgnored).bind fun tracked =>
    (yields_chooseFiles location tracked).looks

/-- The files of a repository: those that git tracks, or those on the disk. -/
theorem yields_discover (repository : Path) (includeIgnored : Bool) :
    Run.Yields (discover repository includeIgnored) (fun s => do
      let location ← (s.world.disk.resolve repository).mapError .disk
      let _ ← (requireRepository location s).1
      let tracked ← (trackedFiles location includeIgnored s).1
      tracked.elim (diskFiles location s).1 .ok) :=
  (Run.yields_onDisk _).bind fun location =>
    (looks_requireRepository location).yields.bind fun _ =>
      (looks_trackedFiles location includeIgnored).yields.bind (yields_chooseFiles location)

theorem looks_discover (repository : Path) (includeIgnored : Bool) :
    Run.Looks (discover repository includeIgnored) :=
  (yields_discover repository includeIgnored).looks

section Ask

variable {α β : Type}

/-- Asks a question about one file after the other, up to the first that it fails at. -/
def askAll (question : Path → Except Fault α) : List Path → Except Fault Unit
  | [] => .ok ()
  | path :: rest => do
    let _ ← question path
    askAll question rest

theorem askAll_eq_ok_iff {question : Path → Except Fault α} {paths : List Path} :
    askAll question paths = .ok () ↔ ∀ path ∈ paths, ∃ answer, question path = .ok answer := by
  induction paths with
  | nil => exact ⟨fun _ => List.forall_mem_nil _, fun _ => rfl⟩
  | cons path rest ih =>
    rw [askAll, except_bind_eq_ok, List.forall_mem_cons, ← ih]
    exact exists_and_right

/-- Questions that fail in the same way stop at the same file. -/
theorem askAll_congr {question : Path → Except Fault α} {other : Path → Except Fault β}
    (h : ∀ path, (question path).map (fun _ => ()) = (other path).map fun _ => ())
    (paths : List Path) : askAll question paths = askAll other paths := by
  induction paths with
  | nil => rfl
  | cons path rest ih =>
    rw [askAll, askAll, ih]
    have hpath := h path
    rcases hquestion : question path with fault | answer <;>
      rcases hother : other path with fault' | answer' <;> rw [hquestion, hother] at hpath
    · rw [Except.error.inj hpath]
      rfl
    · cases hpath
    · cases hpath
    · rfl

end Ask

/-- Puts a file where it belongs when its language is asked for. -/
def put (path : Path) (found : Option String) (done : FileGroups × List Path) :
    FileGroups × List Path :=
  match found.filter (!·.isEmpty) with
  | some language => (addToGroup language path done.1, done.2)
  | none => (done.1, done.2 ++ [path])

theorem groupFiles_cons (path : Path) (rest : List Path) (done : FileGroups × List Path) :
    groupFiles done (path :: rest) =
      Run.languageOf path >>= fun found => groupFiles (put path found done) rest := by
  rw [groupFiles]
  refine congrArg (Run.languageOf path >>= ·) (funext fun found => ?_)
  cases found with
  | none => rfl
  | some language =>
    by_cases hempty : language.isEmpty = true
    · rw [put, Option.filter_some_neg (by simpa using hempty)]
      exact if_pos hempty
    · rw [put, Option.filter_some_pos (by simpa using hempty)]
      exact if_neg hempty

/-- Grouping asks for the language of each file. -/
theorem yields_groupFiles (files : List Path) (done : FileGroups × List Path) :
    Run.Yields (groupFiles done files) fun s => (askAll s.detected files).map fun _ =>
      (grouped s.groupOf? done.1 files,
        done.2 ++ files.filter fun path => (s.groupOf? path).isNone) := by
  induction files generalizing done with
  | nil =>
    simp only [List.filter_nil, List.append_nil]
    exact .pure done
  | cons path rest ih =>
    rw [groupFiles_cons]
    refine ((Run.yields_languageOf path).bind fun found => ih (put path found done)).congr
      fun s => ?_
    rw [askAll]
    rcases hfound : s.detected path with fault | found
    · rfl
    have hgroup : s.groupOf? path = found.filter (!·.isEmpty) := by
      change (s.detected path).toOption.join.filter _ = _
      rw [hfound]
      rfl
    change Except.map _ (askAll s.detected rest) = Except.map _ (askAll s.detected rest)
    rw [grouped, List.filter_cons, hgroup, put]
    cases found.filter (!·.isEmpty) with
    | none => simp
    | some language => simp

theorem yields_classify (paths : List Path) :
    Run.Yields (classify paths) fun s => (groupFiles ([], []) paths s).1 := by
  have hgroups (sorted : FileGroups × List Path) : Run.Yields (sorted.1.forM fun group =>
      Run.say ("  " ++ group.1 ++ ": " ++ toString group.2.length ++ " files"))
      fun _ => .ok ⟨⟩ :=
    .forM fun group => Run.yields_say _ (by exact .ofList rfl)
  refine ((yields_groupFiles paths ([], [])).looks.yields.bind fun sorted =>
    (Run.yields_say ("Classified " ++
      toString (sorted.1.foldl (fun count group => count + group.2.length) 0) ++ " files, " ++
      toString sorted.2.length ++ " unclassified") (by exact .ofList rfl)).bind fun _ =>
    (hgroups sorted).bind fun _ => .pure sorted).congr fun s => ?_
  rcases (groupFiles ([], []) paths s).1 with fault | sorted
  · rfl
  · rfl

theorem looks_classify (files : List Path) : Run.Looks (classify files) :=
  (yields_classify files).looks

theorem looks_filterFiles (f : LanguageFilter) (files : List Path) :
    Run.Looks (filterFiles f files) := by
  induction files with
  | nil => exact .pure _
  | cons path rest ih =>
    refine (Run.looks_languageOf path).bind fun found => ?_
    exact .bind (.ofExcept _) fun _ => ih.bind fun _ => .pure _

theorem looks_byLanguage (f : LanguageFilter) (files : List Path) :
    Run.Looks (byLanguage f files) := .ite (.pure _) (looks_filterFiles f files)

theorem looks_wantedFiles (f : LanguageFilter) (files : List Path) :
    Run.Looks (wantedFiles f files) := by
  rw [wantedFiles]
  split
  · exact .pure _
  · exact (looks_filterFiles f files).bind fun _ =>
      (Run.looks_say _ (by exact .ofList rfl)).bind fun _ => .pure _

theorem looks_limitFiles (limit : Option Int) (files : List Path) :
    Run.Looks (limitFiles limit files) := by
  cases limit with
  | none => exact .pure _
  | some limit =>
    rw [limitFiles]
    split
    · exact (Run.looks_say _ (by exact .ofList rfl)).bind fun _ => .pure _
    · exact .pure _

theorem yields_announce (info : RepositoryInfo) :
    Run.Yields (announce info) fun _ => .ok () := by
  have hname := Run.yields_say ("Repository: " ++ info.name) (by exact .ofList rfl)
  refine hname.bind fun _ => (?_ : Run.Yields _ fun _ => .ok ())
  split
  · exact .pure _
  · exact .pure _
  · exact Run.yields_say _ (by exact .ofList rfl)

theorem looks_announce (info : RepositoryInfo) : Run.Looks (announce info) :=
  (yields_announce info).looks

/-- What is said about some files of a repository. -/
def account (disk : Disk) (info : RepositoryInfo) (files : List Path) (groups : FileGroups) :
    Scan where
  info
  files
  groups
  totalFiles := files.length
  totalLines := files.foldl (fun lines path => lines + countLines disk path) 0
  languageCounts := groups.map fun (language, paths) => (language, paths.length)

theorem totalLines_account (disk : Disk) (info : RepositoryInfo) (files : List Path)
    (groups : FileGroups) :
    (account disk info files groups).totalLines = (files.map (countLines disk)).sum := by
  rw [account, List.sum_eq_foldl, List.foldl_map]

/-- A scan asks for the repository and its files, and then for the languages of the files. -/
theorem yields_scan (repository : Path) (f : LanguageFilter) (limit : Option Int)
    (includeIgnored : Bool) :
    Run.Yields (scan repository f limit includeIgnored) fun s => do
      let info ← (repositoryInfo s.world repository).mapError .disk
      let found ← (discover repository includeIgnored s).1
      let wanted ← (wantedFiles f found s).1
      let files ← (limitFiles limit wanted s).1
      let sorted ← (groupFiles ([], []) files s).1
      return account s.world.disk info files sorted.1 := by
  have hsorted (info : RepositoryInfo) (files : List Path) :=
    (yields_classify files).bind fun sorted => Run.yields_disk.bind fun disk =>
      Run.Yields.pure (account disk info files sorted.1)
  have hkept (info : RepositoryInfo) (found : List Path) :=
    (looks_wantedFiles f found).yields.bind fun wanted =>
      (looks_limitFiles limit wanted).yields.bind fun files => hsorted info files
  have hfound (info : RepositoryInfo) := (yields_announce info).bind fun _ =>
    (looks_discover repository includeIgnored).yields.bind fun found => hkept info found
  have hinfo (world : World) := (Run.Yields.ofExcept
    ((repositoryInfo world repository).mapError Fault.disk)).bind hfound
  exact (Run.yields_say ("Scanning repository: " ++ repository.text) (by exact .ofList rfl)).bind
    fun _ => .bindWorld hinfo fun _ => rfl

theorem looks_scan (repository : Path) (f : LanguageFilter) (limit : Option Int)
    (includeIgnored : Bool) :
    Run.Looks (scan repository f limit includeIgnored) :=
  (yields_scan repository f limit includeIgnored).looks

/-! ## Where the path leads -/

/-- What is found depends on where the path leads only. -/
theorem discover_congr {p q : Path} {s : Session} (includeIgnored : Bool)
    (h : s.world.disk.resolve p = s.world.disk.resolve q) :
    discover p includeIgnored s = discover q includeIgnored s := by
  refine bind_congr_at ?_ fun _ _ _ => rfl
  rw [Run.onDisk_apply, Run.onDisk_apply, h]

theorem repositoryInfo_congr {p q : Path} {world : World}
    (h : world.disk.resolve p = world.disk.resolve q) :
    repositoryInfo world p = repositoryInfo world q := by
  rw [repositoryInfo, repositoryInfo, h]

/-- A scan tells what it scans, and then it looks around. From there on nothing depends on how the
path is spelled. -/
theorem exists_scan_rest (f : LanguageFilter) (limit : Option Int) (includeIgnored : Bool) :
    ∃ rest : Path → Run Scan, (∀ repository, Run.Looks (rest repository)) ∧
      (∀ repository, scan repository f limit includeIgnored =
        Run.say ("Scanning repository: " ++ repository.text) >>= fun _ => rest repository) ∧
      ∀ p q (s : Session), s.world.disk.resolve p = s.world.disk.resolve q →
        rest p s = rest q s := by
  refine ⟨_, fun repository => ?_, fun repository => rfl, fun p q s hresolve => ?_⟩
  · refine .bindWorld (fun _ => ?_) fun _ => rfl
    refine .bind (.ofExcept _) fun info => (looks_announce info).bind fun _ => ?_
    refine (looks_discover repository includeIgnored).bind fun found => ?_
    refine (looks_wantedFiles f found).bind fun wanted => ?_
    refine (looks_limitFiles limit wanted).bind fun files => ?_
    exact (looks_classify files).bind fun _ => Run.looks_disk.bind fun _ => .pure _
  · rw [bind_of_ok (Run.world_apply s), bind_of_ok (Run.world_apply s),
      repositoryInfo_congr hresolve]
    refine bind_congr_at rfl fun info t hinfo => ?_
    obtain rfl : s = t := (Prod.mk.inj hinfo).2
    refine bind_congr_at rfl fun _ t hannounce => ?_
    have hworld : t.world = s.world :=
      Session.world_eq_of_situation ((looks_announce info).keeps.of_eq hannounce)
    refine bind_congr_at (discover_congr includeIgnored ?_) fun _ _ _ => rfl
    rw [hworld, hresolve]

/-! ## What a scan gives -/

variable {s t : Session}

theorem subset_of_filterFiles {f : LanguageFilter} {files wanted : List Path}
    (h : filterFiles f files s = (.ok wanted, t)) : wanted ⊆ files := by
  induction files generalizing s t wanted with
  | nil =>
    cases h
    exact List.Subset.refl _
  | cons path rest ih =>
    obtain ⟨found, r, -, h⟩ := bind_eq_ok.1 h
    obtain ⟨admitted, r', -, h⟩ := bind_eq_ok.1 h
    obtain ⟨more, r'', hmore, h⟩ := bind_eq_ok.1 h
    have hsub := ih hmore
    cases admitted with
    | true =>
      cases h
      exact List.cons_subset_cons path hsub
    | false =>
      cases h
      exact List.subset_cons_of_subset path hsub

theorem subset_of_wantedFiles {f : LanguageFilter} {files wanted : List Path}
    (h : wantedFiles f files s = (.ok wanted, t)) : wanted ⊆ files := by
  rw [wantedFiles] at h
  split at h
  · cases h
    exact List.Subset.refl _
  · obtain ⟨found, r, hfound, h⟩ := bind_eq_ok.1 h
    obtain ⟨_, r', -, h⟩ := bind_eq_ok.1 h
    cases h
    exact subset_of_filterFiles hfound

theorem limited_subset {α : Type} (limit : Int) (items : List α) : limited limit items ⊆ items := by
  rw [limited]
  split
  · exact List.take_subset _ _
  · exact List.take_subset _ _

theorem subset_of_limitFiles {limit : Option Int} {files kept : List Path}
    (h : limitFiles limit files s = (.ok kept, t)) : kept ⊆ files := by
  cases limit with
  | none =>
    cases h
    exact List.Subset.refl _
  | some limit =>
    rw [limitFiles] at h
    split at h
    · obtain ⟨_, r, -, h⟩ := bind_eq_ok.1 h
      cases h
      exact limited_subset limit files
    · cases h
      exact List.Subset.refl _

/-! ## Where files are found -/

theorem mem_presentFiles {disk : Disk} {paths files : List Path}
    (h : presentFiles disk paths = .ok files) {path : Path} :
    path ∈ files ↔ path ∈ paths ∧ disk.hasFile path = .ok true := by
  induction paths generalizing files with
  | nil =>
    cases h
    simp
  | cons first rest ih =>
    obtain ⟨present, hfirst, h⟩ := except_bind_eq_ok.1 h
    obtain ⟨more, hmore, h⟩ := except_bind_eq_ok.1 h
    have hcons : path = first → (disk.hasFile path = .ok true ↔ present = true) := by
      rintro rfl
      rw [hfirst, Except.ok.injEq]
    rw [← Except.ok.inj h, List.mem_cons, or_and_right, ← ih hmore]
    cases present with
    | true =>
      rw [if_pos rfl, List.mem_cons]
      exact or_congr_left ⟨fun heq => ⟨heq, (hcons heq).2 rfl⟩, And.left⟩
    | false =>
      rw [if_neg Bool.false_ne_true]
      refine ⟨.inr, ?_⟩
      rintro (⟨heq, hpresent⟩ | hmem)
      · exact absurd ((hcons heq).1 hpresent) Bool.false_ne_true
      · exact hmem

/-- Git either gives a listing, of which the files that are there count, or nothing. -/
theorem tracked_eq_ok {git : GitOutcomes} {disk : Disk} {repository : Path}
    {found : Option (List Path)} (h : tracked git disk repository = .ok found) :
    (∃ answer files, git.files = .ok answer ∧ answer.code = 0 ∧
        presentFiles disk (listedPaths repository answer.output) = .ok files ∧
        found = if files.isEmpty then none else some files) ∨
      (∀ answer, git.files = .ok answer → answer.code ≠ 0) ∧ found = none := by
  rw [tracked] at h
  cases hgit : git.files with
  | error stop =>
    refine .inr ⟨fun _ h => (nomatch h), ?_⟩
    rw [hgit] at h
    cases stop with
    | denied reason => cases h
    | _ => cases h; rfl
  | ok answer =>
    rw [hgit] at h
    change (if answer.code = 0 then _ else _) = _ at h
    split at h
    · next hcode =>
      obtain ⟨files, hfiles, hfound⟩ := except_map_eq_ok.1 h
      exact .inl ⟨answer, files, rfl, hcode, except_mapError_eq_ok.1 hfiles, hfound.symm⟩
    · next hcode =>
      cases h
      refine .inr ⟨?_, rfl⟩
      rintro other ⟨⟩
      exact hcode

theorem subset_of_keepFiles {patterns : Json} {paths kept : List Path}
    (h : keepFiles patterns paths = .ok kept) : kept ⊆ paths := by
  induction paths generalizing kept with
  | nil =>
    cases h
    exact List.Subset.refl _
  | cons path rest ih =>
    obtain ⟨elements, -, h⟩ := except_bind_eq_ok.1 h
    obtain ⟨ignored, -, h⟩ := except_bind_eq_ok.1 h
    obtain ⟨more, hmore, h⟩ := except_bind_eq_ok.1 h
    have hsub := ih hmore
    cases ignored with
    | true =>
      cases h
      exact List.subset_cons_of_subset path hsub
    | false =>
      cases h
      exact List.cons_subset_cons path hsub

/-- The files on the disk are found when all paths are short enough and there is a verdict on each
file. -/
theorem diskFiles_fst_eq_ok_iff {repository : Path} {found : List Path} :
    (diskFiles repository s).1 = .ok found ↔
      ∃ c files, s.currentCatalogue = .ok c ∧ s.world.disk.filesBelow repository = .ok files ∧
        keepFiles c.ignorePatterns files = .ok found := by
  constructor
  · intro h
    have h := (yields_diskFiles repository).sound s found h
    obtain ⟨c, hc, h⟩ := except_bind_eq_ok.1 h
    obtain ⟨entries, hentries, h⟩ := except_bind_eq_ok.1 h
    obtain ⟨kept, hkept, h⟩ := except_bind_eq_ok.1 h
    obtain ⟨_, hshort, h⟩ := except_bind_eq_ok.1 h
    obtain rfl := Except.ok.inj h
    refine ⟨c, _, hc, Disk.filesBelow_eq_ok_iff.2 ⟨entries, ?_, ?_, rfl⟩, hkept⟩
    · exact except_mapError_eq_ok.1 hentries
    · exact except_mapError_eq_ok.1 hshort
  · rintro ⟨c, files, hc, hfiles, hkept⟩
    obtain ⟨entries, hentries, hshort, rfl⟩ := Disk.filesBelow_eq_ok_iff.1 hfiles
    -- Once there is a catalogue nothing more is shown.
    obtain ⟨t, hcatalogue, hworld⟩ : ∃ t, Run.catalogue s = (.ok c, t) ∧ t.world = s.world :=
      ⟨_, Prod.ext ((Run.catalogue_fst s).trans hc) rfl,
        Session.world_eq_of_situation (Run.situation_catalogue s)⟩
    have hmet : Run.onDisk (·.entriesBelow repository) t = (.ok entries, t) := by
      rw [Run.onDisk_apply, hworld, hentries]
      rfl
    have hkeep : Run.ofExcept (keepFiles c.ignorePatterns (Disk.filesMet entries)) t =
        (.ok found, t) := by rw [hkept, Run.ofExcept_apply]
    have hfit : Run.ofExcept ((Disk.refuseLong entries).mapError .disk) t = (.ok (), t) := by
      rw [hshort, Run.ofExcept_apply]
      rfl
    rw [diskFiles, bind_of_ok hcatalogue, bind_of_ok hmet, bind_of_ok hkeep, bind_of_ok hfit]
    rfl

theorem exists_content_of_requireRepository {location : Path}
    (h : (requireRepository location s).1 = .ok ()) :
    ∃ content, s.world.disk.entryAt location = .ok (some content) := by
  have hrequired : requireRepository location s = (.ok (), _) := Prod.ext h rfl
  obtain ⟨there, r, hthere, hrest⟩ := bind_eq_ok.1 hrequired
  obtain ⟨entry, hentry, hsome⟩ := except_map_eq_ok.1 (Run.onDisk_eq_ok hthere).1
  cases entry with
  | none =>
    subst hsome
    cases hrest
  | some content => exact ⟨content, hentry⟩

/-- Files are found in a repository that is there. -/
theorem exists_location_of_discover {repository : Path} {includeIgnored : Bool}
    {found : List Path}
    (h : (discover repository includeIgnored s).1 = .ok found) :
    ∃ location content tracked, s.world.disk.resolve repository = .ok location ∧
      s.world.disk.entryAt location = .ok (some content) ∧
      (trackedFiles location includeIgnored s).1 = .ok tracked ∧
      tracked.elim (diskFiles location s).1 .ok = .ok found := by
  have h := (yields_discover repository includeIgnored).sound s found h
  obtain ⟨location, hresolve, h⟩ := except_bind_eq_ok.1 h
  obtain ⟨_, hrequired, h⟩ := except_bind_eq_ok.1 h
  obtain ⟨tracked, htracked, h⟩ := except_bind_eq_ok.1 h
  obtain ⟨content, hentry⟩ := exists_content_of_requireRepository hrequired
  exact ⟨location, content, tracked, except_mapError_eq_ok.1 hresolve, hentry, htracked, h⟩

/-- The files that git lists and that are there. -/
def Tracks (session : Session) (location : Path) (files : List Path) : Prop :=
  ∃ answer, session.world.git.files = .ok answer ∧ answer.code = 0 ∧ files ≠ [] ∧
    presentFiles session.world.disk (listedPaths location answer.output) = .ok files

theorem trackedFiles_cases {location : Path} {found : Option (List Path)}
    (h : (trackedFiles location false s).1 = .ok found) :
    (∃ files, Tracks s location files ∧ found = some files) ∨
      (∀ answer, s.world.git.files = .ok answer → answer.code = 0 →
        presentFiles s.world.disk (listedPaths location answer.output) = .ok []) ∧
      found = none := by
  have houtcome := (yields_trackedFiles location false).sound s found h
  rcases tracked_eq_ok houtcome with ⟨answer, files, hanswer, hcode, hfiles, rfl⟩ | ⟨hfails, rfl⟩
  · cases files with
    | nil =>
      refine .inr ⟨fun other hother _ => ?_, rfl⟩
      obtain rfl := Except.ok.inj (hanswer.symm.trans hother)
      exact hfiles
    | cons first rest =>
      exact .inl ⟨first :: rest, ⟨answer, hanswer, hcode, List.cons_ne_nil _ _, hfiles⟩, rfl⟩
  · exact .inr ⟨fun answer hanswer hcode => absurd hcode (hfails answer hanswer), rfl⟩

/-- The files that are found: those of the listing that are there, if there are any, or else files
on the disk, which the catalogue is needed for. -/
theorem discover_eq_ok {repository : Path} {found : List Path}
    (h : discover repository false s = (.ok found, t)) :
    (∃ answer, s.world.git.files = .ok answer ∧ answer.code = 0 ∧ found ≠ [] ∧
        presentFiles s.world.disk (listedPaths (Path.resolve s.world.disk.here repository)
          answer.output) = .ok found) ∨
      ((∀ answer, s.world.git.files = .ok answer → answer.code = 0 →
          presentFiles s.world.disk (listedPaths (Path.resolve s.world.disk.here repository)
            answer.output) = .ok []) ∧
        (∃ c, s.currentCatalogue = .ok c) ∧
        ∃ files, s.world.disk.filesBelow (Path.resolve s.world.disk.here repository) = .ok files ∧
          found ⊆ files) := by
  obtain ⟨location, content, tracked, hresolve, -, htracked, hfound⟩ :=
    exists_location_of_discover (congrArg Prod.fst h)
  obtain rfl : Path.resolve s.world.disk.here repository = location := by
    obtain ⟨_, -, hresolve⟩ := except_bind_eq_ok.1 hresolve
    exact Except.ok.inj hresolve
  rcases trackedFiles_cases htracked with
    ⟨files, ⟨answer, hgit, hcode, hne, hfiles⟩, rfl⟩ | ⟨hnone, rfl⟩
  · obtain rfl := Except.ok.inj hfound
    exact .inl ⟨answer, hgit, hcode, hne, hfiles⟩
  · -- The disk is searched when git fails, and also when it lists nothing that is there.
    obtain ⟨c, below, hc, hbelow, hkept⟩ := diskFiles_fst_eq_ok_iff.1 hfound
    exact .inr ⟨hnone, ⟨c, hc⟩, below, hbelow, subset_of_keepFiles hkept⟩

/-- What a scan says about the files of a repository. -/
structure Scanned (repository : Path) (includeIgnored : Bool) (session : Session) (scan : Scan) :
    Prop where
  /-- The files are among those that were found. -/
  found : ∃ found, (discover repository includeIgnored session).1 = .ok found ∧ scan.files ⊆ found
  /-- Files cannot be grouped without a catalogue. -/
  readable : scan.files ≠ [] → ∃ c, session.currentCatalogue = .ok c
  /-- The groups are the files by their languages. -/
  groups : scan.groups = grouped session.groupOf? [] scan.files
  /-- The files are counted. -/
  totalFiles : scan.totalFiles = scan.files.length
  /-- The lines of all files are counted. -/
  totalLines : scan.totalLines = (scan.files.map (countLines session.world.disk)).sum
  /-- The files of each group are counted. -/
  languageCounts : scan.languageCounts = scan.groups.map fun group => (group.1, group.2.length)

theorem Scanned.exists_catalogue {repository : Path} {includeIgnored : Bool} {result : Scan}
    (h : Scanned repository includeIgnored s result) {group : String × List Path}
    (hgroup : group ∈ result.groups) : ∃ c, s.currentCatalogue = .ok c := by
  refine h.readable fun hnil => ?_
  rw [h.groups, hnil] at hgroup
  exact absurd hgroup List.not_mem_nil

theorem groupFiles_fst_eq_ok {files : List Path} {sorted : FileGroups × List Path}
    (h : (groupFiles ([], []) files s).1 = .ok sorted) :
    (∀ path ∈ files, ∃ language, s.detected path = .ok language) ∧
      (grouped s.groupOf? [] files, files.filter fun path => (s.groupOf? path).isNone) =
        sorted := by
  obtain ⟨_, hall, hsorted⟩ :=
    except_map_eq_ok.1 ((yields_groupFiles files ([], [])).sound s sorted h)
  exact ⟨askAll_eq_ok_iff.1 hall, hsorted⟩

theorem groupFiles_of_detected (hs : s.Lenient) {files : List Path}
    (h : ∀ path ∈ files, ∃ language, s.detected path = .ok language) :
    (groupFiles ([], []) files s).1 =
      .ok (grouped s.groupOf? [] files, files.filter fun path => (s.groupOf? path).isNone) := by
  rw [(yields_groupFiles files ([], [])).of_lenient hs, askAll_eq_ok_iff.2 h]
  rfl

theorem scanned_of_scan {repository : Path} {f : LanguageFilter} {limit : Option Int}
    {includeIgnored : Bool} {result : Scan}
    (h : scan repository f limit includeIgnored s = (.ok result, t)) :
    Scanned repository includeIgnored s result := by
  have h := (yields_scan repository f limit includeIgnored).sound s result (congrArg Prod.fst h)
  obtain ⟨info, -, h⟩ := except_bind_eq_ok.1 h
  obtain ⟨found, hfound, h⟩ := except_bind_eq_ok.1 h
  obtain ⟨wanted, hwanted, h⟩ := except_bind_eq_ok.1 h
  obtain ⟨files, hfiles, h⟩ := except_bind_eq_ok.1 h
  obtain ⟨sorted, hsorted, h⟩ := except_bind_eq_ok.1 h
  obtain ⟨hdetected, rfl⟩ := groupFiles_fst_eq_ok hsorted
  obtain rfl := Except.ok.inj h
  have hwanted : wantedFiles f found s = (.ok wanted, _) := Prod.ext hwanted rfl
  have hfiles : limitFiles limit wanted s = (.ok files, _) := Prod.ext hfiles rfl
  refine ⟨⟨found, hfound, ?_⟩, ?_, rfl, rfl, totalLines_account .., rfl⟩
  · exact fun path hpath => subset_of_wantedFiles hwanted (subset_of_limitFiles hfiles hpath)
  · -- Without a catalogue no file could be asked about.
    intro hne
    obtain ⟨path, hpath⟩ := List.exists_mem_of_ne_nil _ hne
    obtain ⟨language, hlanguage⟩ := hdetected path hpath
    obtain ⟨c, hc, -⟩ := except_bind_eq_ok.1 hlanguage
    exact ⟨c, hc⟩

end Discovery

end SourceOutline
