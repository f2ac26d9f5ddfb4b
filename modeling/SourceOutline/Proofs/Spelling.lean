import SourceOutline.Proofs.DiskFaults
import SourceOutline.Proofs.LanguageStatus

/-!
# Spellings of a repository

A folder can be spelled in many ways: from the root or from the current folder, and with detours
that `..` leads back from. A survey resolves the path that it is given, with two exceptions: the
dialogue about language support looks below the path as it is spelled, and the summary tells this
spelling.

The spelling counts when git lists no files and the dialogue asks for every entry below the path. An
entry whose path is too long, spelled like this, cannot be asked for, and the survey fails although
a shorter spelling gives a summary. In all other respects the spelling has no part in what a survey
gives (`Survey.run_same_iff`): the dialogue only keeps the endings of the files that it sees, which
are the same below both spellings (`Support.map_endingsOf_filesBelow`), and everything else starts
from the resolved path.
-/

namespace SourceOutline

/-! ## Where a path leads -/

namespace Disk

variable {disk : Disk} {p q : Path}

/-- A walk along names leads where resolving them leads. -/
theorem walk_eq_ok {tree content : Entry} {path : Path} {done names way : List String}
    (h : walk tree path done names = .ok (way, content)) :
    way = names.foldl Path.resolveStep done ∧ tree.find? way = some content := by
  induction names generalizing done with
  | nil =>
    rw [walk] at h
    split at h
    · next found hfound =>
      cases h
      exact ⟨rfl, hfound⟩
    · cases h
  | cons name rest ih =>
    rw [walk] at h
    split at h
    · cases h
    · cases h
    · split at h
      · cases h
      · exact ih h

theorem locate_of_entryAt {content : Entry} (h : disk.entryAt p = .ok (some content)) :
    ∃ way, disk.locate p = .ok (way, content) := by
  rw [entryAt] at h
  split at h
  · next way found hlocate =>
    cases h
    exact ⟨way, hlocate⟩
  · cases h
  · cases h

/-- A path that leads to a folder can be resolved, and leads where it resolves to. -/
theorem of_hasFolder (h : disk.hasFolder p = .ok true) :
    disk.resolve p = .ok (Path.resolve disk.here p) ∧
    ∃ content, disk.entryAt p = .ok (some content) ∧
      disk.tree.find? (Path.resolve disk.here p).parts = some content := by
  obtain ⟨entry, hentry, hfolder⟩ := except_map_eq_ok.1 h
  obtain ⟨content, rfl⟩ : ∃ content, entry = some content := by
    cases entry with
    | none => cases hfolder
    | some content => exact ⟨content, rfl⟩
  refine ⟨?_, content, hentry, ?_⟩
  · obtain ⟨way, hlocate⟩ := locate_of_entryAt hentry
    obtain ⟨_, hrefuse, -⟩ := except_bind_eq_ok.1 hlocate
    obtain ⟨_, hnull, -⟩ := except_bind_eq_ok.1 hrefuse
    rw [resolve, hnull]
    rfl
  · obtain ⟨way, hlocate⟩ := locate_of_entryAt hentry
    obtain ⟨_, -, hwalk⟩ := except_bind_eq_ok.1 hlocate
    obtain ⟨rfl, hfound⟩ := walk_eq_ok hwalk
    exact hfound

/-- Two spellings of a folder. -/
structure SameFolder (disk : Disk) (p q : Path) : Prop where
  left : disk.hasFolder p = .ok true
  right : disk.hasFolder q = .ok true
  resolved : Path.resolve disk.here p = Path.resolve disk.here q

theorem SameFolder.symm (h : disk.SameFolder p q) : disk.SameFolder q p :=
  ⟨h.right, h.left, h.resolved.symm⟩

theorem SameFolder.resolve_eq (h : disk.SameFolder p q) : disk.resolve p = disk.resolve q := by
  rw [(of_hasFolder h.left).1, (of_hasFolder h.right).1, h.resolved]

/-- Both spellings lead to the same content. -/
theorem SameFolder.exists_content (h : disk.SameFolder p q) :
    ∃ content, disk.entryAt p = .ok (some content) ∧ disk.entryAt q = .ok (some content) := by
  obtain ⟨-, content, hp, hfound⟩ := of_hasFolder h.left
  obtain ⟨-, other, hq, hother⟩ := of_hasFolder h.right
  rw [h.resolved, hother] at hfound
  obtain rfl := Option.some.inj hfound
  exact ⟨_, hp, hq⟩

/-- Some entry below the path is too far from it for its path to be asked for, as it is spelled. -/
def Overlong (disk : Disk) (p : Path) : Prop :=
  ∃ content, disk.entryAt p = .ok (some content) ∧ ¬content.Within p

theorem overlong_iff {content : Entry} (h : disk.entryAt p = .ok (some content)) :
    disk.Overlong p ↔ ¬content.Within p := by
  constructor
  · rintro ⟨other, hother, hlong⟩
    obtain rfl := Option.some.inj (Except.ok.inj (h.symm.trans hother))
    exact hlong
  · intro hlong
    exact ⟨content, h, hlong⟩

theorem not_overlong_iff {content : Entry} (h : disk.entryAt p = .ok (some content)) :
    ¬disk.Overlong p ↔ content.Within p :=
  (not_congr (overlong_iff h)).trans Classical.not_not

/-- The search below such a path ends at an entry that cannot be asked for. -/
theorem Overlong.filesBelow (h : disk.Overlong p) :
    ∃ path, disk.filesBelow p = .error (.tooLong path) := by
  obtain ⟨content, hentry, hlong⟩ := h
  have hentries : ∃ entries, disk.entriesBelow p = .ok entries := by
    rw [entriesBelow, hentry]
    exact ⟨_, rfl⟩
  obtain ⟨entries, hentries⟩ := hentries
  rcases hshort : refuseLong entries with fault | _
  · obtain ⟨path, rfl⟩ : ∃ path, fault = .tooLong path := by
      rw [refuseLong] at hshort
      split at hshort
      · cases hshort
        exact ⟨_, rfl⟩
      · cases hshort
    refine ⟨path, ?_⟩
    rw [Disk.filesBelow, hentries]
    change (refuseLong entries >>= _) = _
    rw [hshort]
    rfl
  · have hfiles := filesBelow_eq_ok_iff.2 ⟨entries, hentries, hshort, rfl⟩
    exact absurd ((filesBelow_of_entryAt hentry).1 hfiles).1 hlong

end Disk

/-! ## Endings -/

/-- Git lists the tracked files. -/
def GitOutcomes.Lists (git : GitOutcomes) : Prop :=
  ∃ answer, git.files = .ok answer ∧ answer.code = 0

namespace Support

variable {git : GitOutcomes} {disk : Disk} {p q : Path}

theorem foldl_addEnding_congr {paths others : List Path} (endings : List String)
    (h : paths.map Catalogue.ending = others.map Catalogue.ending) :
    paths.foldl addEnding endings = others.foldl addEnding endings := by
  induction paths generalizing others endings with
  | nil =>
    cases others with
    | nil => rfl
    | cons other rest => cases h
  | cons path rest ih =>
    cases others with
    | nil => cases h
    | cons other others =>
      obtain ⟨hfirst, hrest⟩ := List.cons.inj h
      have hstep : addEnding endings path = addEnding endings other := by
        rw [addEnding, addEnding, hfirst]
      rw [List.foldl_cons, List.foldl_cons, hstep]
      exact ih _ hrest

/-- The endings below two spellings of a folder are the same. -/
theorem map_endingsOf_filesBelow (h : disk.SameFolder p q) (hp : ¬disk.Overlong p)
    (hq : ¬disk.Overlong q) :
    (disk.filesBelow p).map endingsOf = (disk.filesBelow q).map endingsOf := by
  obtain ⟨content, hpentry, hqentry⟩ := h.exists_content
  have hpfiles := (Disk.filesBelow_of_entryAt hpentry).2
    ⟨(Disk.not_overlong_iff hpentry).1 hp, rfl⟩
  have hqfiles := (Disk.filesBelow_of_entryAt hqentry).2
    ⟨(Disk.not_overlong_iff hqentry).1 hq, rfl⟩
  rw [hpfiles, hqfiles]
  refine congrArg Except.ok (foldl_addEnding_congr [] ?_)
  rw [List.map_map, List.map_map]
  refine List.map_congr_left fun names hnames => ?_
  have hne := Entry.ne_nil_of_mem_files hnames
  rw [Function.comp_apply, Function.comp_apply, Catalogue.ending_join hne,
    Catalogue.ending_join hne]

theorem seenFiles?_of_listed {answer : CommandAnswer} (hanswer : git.files = .ok answer)
    (hcode : answer.code = 0) (disk : Disk) (p : Path) :
    seenFiles? git disk p = .ok (listedPaths answer.output) := by
  rw [seenFiles?, hanswer]
  exact if_pos hcode

theorem seenFiles?_of_unlisted (h : ¬git.Lists) (disk : Disk) (p : Path) :
    seenFiles? git disk p = disk.filesBelow p := by
  rw [seenFiles?]
  split
  · next answer hanswer => exact if_neg fun hcode => h ⟨answer, hanswer, hcode⟩
  · rfl

/-- What is seen of a repository is the same for both spellings, unless it is searched and one of
them is too long. -/
theorem map_endingsOf_seenFiles? (h : disk.SameFolder p q)
    (hshort : git.Lists ∨ ¬disk.Overlong p ∧ ¬disk.Overlong q) :
    (seenFiles? git disk p).map endingsOf = (seenFiles? git disk q).map endingsOf := by
  by_cases hlists : git.Lists
  · obtain ⟨answer, hanswer, hcode⟩ := hlists
    rw [seenFiles?_of_listed hanswer hcode, seenFiles?_of_listed hanswer hcode]
  · obtain ⟨hp, hq⟩ := hshort.resolve_left hlists
    rw [seenFiles?_of_unlisted hlists, seenFiles?_of_unlisted hlists]
    exact map_endingsOf_filesBelow h hp hq

variable {s : Session}

/-- Where the endings are the same, so is the support. -/
theorem available_congr (h : (seenFiles? s.world.git s.world.disk p).map endingsOf =
    (seenFiles? s.world.git s.world.disk q).map endingsOf) :
    available p s = available q s := by
  refine bind_congr_at rfl fun catalogue t hcatalogue => bind_congr_at ?_ fun _ _ _ => rfl
  have hworld : t.world = s.world :=
    Session.world_eq_of_situation (Run.looks_catalogue.keeps.of_eq hcatalogue)
  have hfault (files : Except DiskFault (List Path)) :
      (files.mapError Fault.disk).map endingsOf = (files.map endingsOf).mapError Fault.disk := by
    cases files with
    | error fault => rfl
    | ok files => rfl
  rw [endings_apply, endings_apply, hworld, hfault, hfault, h]

/-- Where the endings are the same, so is the whole dialogue. -/
theorem offer_congr (h : (seenFiles? s.world.git s.world.disk p).map endingsOf =
    (seenFiles? s.world.git s.world.disk q).map endingsOf) :
    offer p s = offer q s := by
  refine bind_congr_at (available_congr h) fun languages t havailable => ?_
  refine bind_congr_at rfl fun missing t' hstatus => ?_
  have hplace : t'.surroundings = s.surroundings :=
    ((Run.Installs.keeps (looks_showStatus _).mono).of_eq hstatus).trans
      ((Run.Installs.keeps (looks_available q).mono).of_eq havailable)
  split
  · rfl
  · rfl
  · next missing _ =>
    -- Packages change neither the disk nor git, so the files that are seen again are the same.
    refine bind_congr_at rfl fun _ r hinstall => available_congr ?_
    have hr : r.surroundings = s.surroundings :=
      (Run.Installs.keeps ((installs_install missing).bind fun _ => .pure _)).of_eq hinstall
        |>.trans hplace
    obtain ⟨hdisk, hgit, -⟩ := Session.surroundings_eq_iff.1 hr
    rw [hdisk, hgit, h]

end Support

namespace Survey

section Places

variable {p q : Path} {disk : Disk} {budget : Option Int}

/-- Steps that do the same on a disk do the same one after the other. -/
theorem foldlM_congr_at {α β : Type} {step other : β → α → Run β}
    (hstep : ∀ b a (s : Session), s.world.disk = disk → step b a s = other b a s)
    (hextracts : ∀ b a, Run.Extracts (other b a)) (items : List α) (b : β) {s : Session}
    (hs : s.world.disk = disk) : items.foldlM step b s = items.foldlM other b s := by
  induction items generalizing b s with
  | nil => rfl
  | cons a rest ih =>
    rw [List.foldlM_cons, List.foldlM_cons]
    refine bind_congr_at (hstep b a s hs) fun b' t ht => ih b' ?_
    rw [Session.world_eq_of_situation ((hextracts b a).keeps.of_eq ht), hs]

variable (h : Path.resolve disk.here p = Path.resolve disk.here q)
include h

theorem place?_congr (path : Path) : place? disk p path = place? disk q path := by
  rw [place?, place?, h]

theorem surveyFile_congr (language : String) (progress : Progress) (path : Path) (s : Session)
    (hs : s.world.disk = disk) :
    surveyFile p language budget progress path s =
      surveyFile q language budget progress path s := by
  rw [surveyFile, surveyFile]
  refine bind_congr_at ?_ fun _ _ _ => rfl
  rw [Run.attempt_apply, Run.attempt_apply, bind_of_ok (Run.disk_apply s),
    bind_of_ok (Run.disk_apply s), hs, place?_congr h]

theorem surveyGroup_congr (progress : Progress) (group : String × List Path) (s : Session)
    (hs : s.world.disk = disk) :
    surveyGroup p budget progress group s = surveyGroup q budget progress group s := by
  rw [surveyGroup, surveyGroup]
  refine bind_congr_at rfl fun _ t hsay => ?_
  have ht : t.world.disk = disk :=
    (congrArg World.disk (Session.world_eq_of_situation ((Run.keeps_say _).of_eq hsay))).trans hs
  exact foldlM_congr_at (surveyFile_congr h group.1) (extracts_surveyFile q group.1 budget) group.2
    progress ht

theorem surveyOther_congr (progress : Progress) (path : Path) (s : Session)
    (hs : s.world.disk = disk) : surveyOther p progress path s = surveyOther q progress path s := by
  rw [surveyOther_apply, surveyOther_apply, hs, place?_congr h]

end Places

/-! ## What comes of a survey, apart from the spelling -/

/-- The fault without the path that it tells. -/
def pathlessFault : Fault → Fault
  | .disk (.missing _) => .disk (.missing "")
  | .disk (.notFolder _) => .disk (.notFolder "")
  | .disk (.isFolder _) => .disk (.isFolder "")
  | .disk (.tooLong _) => .disk (.tooLong "")
  | .noRepository _ => .noRepository ""
  | fault => fault

/-- What comes of a survey, without the paths of the repository and of a fault. -/
def pathless : Except Fault Summary → Except Fault Summary
  | .ok summary => .ok { summary with rootPath := "" }
  | .error fault => .error (pathlessFault fault)

theorem pathless_sumUp {p q : Path} {budget : Option Int} {s : Session} (scan : Scan)
    (languages : List (String × LanguageSupport))
    (h : Path.resolve s.world.disk.here p = Path.resolve s.world.disk.here q) :
    pathless (sumUp p budget scan languages s).1 =
      pathless (sumUp q budget scan languages s).1 := by
  rw [sumUp, sumUp]
  have hextracts := extracts_surveyGroup q budget
  have hgroups := foldlM_congr_at (surveyGroup_congr h) hextracts scan.groups ⟨.root, 0⟩ rfl
  rcases hfiled : scan.groups.foldlM (surveyGroup q budget) ⟨.root, 0⟩ s with ⟨fault | filed, t⟩
  · rw [bind_of_error (hgroups.trans hfiled), bind_of_error hfiled]
  · rw [bind_of_ok (hgroups.trans hfiled), bind_of_ok hfiled]
    have ht : t.world = s.world :=
      Session.world_eq_of_situation ((Run.Extracts.keeps (.foldlM hextracts _)).of_eq hfiled)
    have hothers := foldlM_congr_at (surveyOther_congr h) (fun _ _ => (looks_surveyOther ..).mono)
      scan.others filed (congrArg World.disk ht)
    rcases hprogress : scan.others.foldlM (surveyOther q) filed t with ⟨fault | progress, r⟩
    · rw [bind_of_error (hothers.trans hprogress), bind_of_error hprogress]
    · rw [bind_of_ok (hothers.trans hprogress), bind_of_ok hprogress]
      rcases hsay : Run.say ("Processed " ++ toString progress.count ++ " files") r with
        ⟨fault | _, r'⟩
      · rw [bind_of_error hsay, bind_of_error hsay]
      · rw [bind_of_ok hsay, bind_of_ok hsay]
        rfl

/-! ## After the scan -/

section Finish

variable {p q : Path} {f : LanguageFilter} {limit budget : Option Int} {s t : Session}

/-- The first notice has no part in what a survey gives. -/
theorem run_fst (repository : Path) (f : LanguageFilter) (limit budget : Option Int)
    (hs : s.Lenient) :
    (run repository f limit budget s).1 =
      ((Discovery.scan repository f limit false >>= finish repository budget) s).1 := by
  have hworks : Run.Works (Discovery.scan repository f limit false >>= finish repository budget) :=
    (Discovery.looks_scan repository f limit false).mono.bind (works_finish repository budget)
  have hreports := World.reports_of_lenient hs
  rw [run, bind_of_ok (Run.say_apply _ hs)]
  have hsame := hworks.respects_alike (s.shows [.line "Processing repository with fancy_tree..."]) s
    ⟨rfl, hreports, hreports⟩
  exact hsame.1

/-- A scan gives the same for both spellings, and leaves sessions behind that are alike. -/
theorem scan_congr (f : LanguageFilter) (limit : Option Int) (hs : s.Lenient)
    (h : s.world.disk.resolve p = s.world.disk.resolve q) :
    (Discovery.scan p f limit false s).1 = (Discovery.scan q f limit false s).1 ∧
      (Discovery.scan p f limit false s).2.Alike (Discovery.scan q f limit false s).2 := by
  obtain ⟨rest, hlooks, hscan, hrest⟩ := Discovery.exists_scan_rest f limit false
  have hsame := hrest p q (s.shows [.line ("Scanning repository: " ++ p.text)]) h
  have hreports := World.reports_of_lenient hs
  rw [hscan, hscan, bind_of_ok (Run.say_apply _ hs), bind_of_ok (Run.say_apply _ hs), hsame]
  exact (hlooks q).respects_alike _ _ ⟨rfl, hreports, hreports⟩

/-- What is left of a survey gives the same for both spellings, unless the dialogue has to search
and one of them is too long. -/
theorem pathless_finish (scan : Scan) (h : s.world.disk.SameFolder p q)
    (hshort : s.world.git.Lists ∨ ¬s.world.disk.Overlong p ∧ ¬s.world.disk.Overlong q) :
    pathless (finish p budget scan s).1 = pathless (finish q budget scan s).1 := by
  have hoffer := Support.offer_congr (Support.map_endingsOf_seenFiles? h hshort)
  rcases hlanguages : Support.offer q s with ⟨fault | languages, t⟩
  · rw [finish, finish, bind_of_error (hoffer.trans hlanguages), bind_of_error hlanguages]
  · have hdisk : t.world.disk = s.world.disk :=
      congrArg Prod.fst ((Support.installs_offer q).keeps.of_eq hlanguages)
    rw [finish, finish, bind_of_ok (hoffer.trans hlanguages), bind_of_ok hlanguages]
    exact pathless_sumUp scan languages (hdisk ▸ h.resolved)

/-- When git lists nothing, the dialogue searches below the path, and a survey comes to its end with
an entry that cannot be asked for. -/
theorem finish_of_overlong {catalogue : Catalogue} (budget : Option Int) (scan : Scan)
    (hcatalogue : s.currentCatalogue = .ok catalogue) (hlists : ¬s.world.git.Lists)
    (h : s.world.disk.Overlong p) :
    ∃ path, (finish p budget scan s).1 = .error (.disk (.tooLong path)) := by
  obtain ⟨path, hfiles⟩ := h.filesBelow
  have hcat : Run.catalogue s = (.ok catalogue, (Run.catalogue s).2) :=
    Prod.ext ((Run.catalogue_fst s).trans hcatalogue) rfl
  have hworld : (Run.catalogue s).2.world = s.world :=
    Session.world_eq_of_situation (Run.situation_catalogue s)
  have hendings : Support.endings p (Run.catalogue s).2 =
      (.error (.disk (.tooLong path)), (Run.catalogue s).2) := by
    rw [Support.endings_apply, hworld, Support.seenFiles?_of_unlisted hlists, hfiles]
    rfl
  have havailable : Support.available p s =
      (.error (.disk (.tooLong path)), (Run.catalogue s).2) := by
    rw [Support.available, bind_of_ok hcat, bind_of_error hendings]
  have hoffer : Support.offer p s = (.error (.disk (.tooLong path)), (Run.catalogue s).2) :=
    bind_of_error havailable
  exact ⟨path, congrArg Prod.fst (bind_of_error hoffer)⟩

end Finish

theorem spared_pathless {result : Except Fault Summary} (h : Spared result) :
    Spared (pathless result) := by
  cases result with
  | ok summary => exact spared_ok _
  | error fault =>
    cases fault with
    | disk reason => exact absurd rfl (h reason)
    | _ => exact nofun

/-! ## Both spellings -/

variable {p q : Path} {budget : Option Int} {s : Session} {catalogue : Catalogue}

/-- Only the spelling that is too long brings a survey to its end. -/
theorem pathless_finish_ne (scan : Scan) (h : s.world.disk.SameFolder p q)
    (hcatalogue : s.currentCatalogue = .ok catalogue) (hlists : ¬s.world.git.Lists)
    (hp : s.world.disk.Overlong p) (hq : ¬s.world.disk.Overlong q) :
    pathless (finish p budget scan s).1 ≠ pathless (finish q budget scan s).1 := by
  obtain ⟨path, hpath⟩ := finish_of_overlong budget scan hcatalogue hlists hp
  obtain ⟨content, -, hentry⟩ := h.exists_content
  have hseen : Support.seenFiles? s.world.git s.world.disk q = .ok _ :=
    (Support.seenFiles?_of_unlisted hlists _ _).trans
      ((Disk.filesBelow_of_entryAt hentry).2 ⟨(Disk.not_overlong_iff hentry).1 hq, rfl⟩)
  rw [hpath]
  exact (spared_pathless (spares_finish budget scan hcatalogue hseen s rfl) _).symm

theorem pathless_finish_iff (scan : Scan) (h : s.world.disk.SameFolder p q)
    (hcatalogue : ¬s.world.git.Lists → ∃ catalogue, s.currentCatalogue = .ok catalogue) :
    pathless (finish p budget scan s).1 = pathless (finish q budget scan s).1 ↔
      s.world.git.Lists ∨ (s.world.disk.Overlong p ↔ s.world.disk.Overlong q) := by
  by_cases hlists : s.world.git.Lists
  · exact iff_of_true (pathless_finish scan h (.inl hlists)) (.inl hlists)
  rw [or_iff_right hlists]
  obtain ⟨catalogue, hcatalogue⟩ := hcatalogue hlists
  by_cases hp : s.world.disk.Overlong p
  · by_cases hq : s.world.disk.Overlong q
    · obtain ⟨_, hpath⟩ := finish_of_overlong budget scan hcatalogue hlists hp
      obtain ⟨_, hother⟩ := finish_of_overlong budget scan hcatalogue hlists hq
      rw [hpath, hother]
      exact iff_of_true rfl (iff_of_true hp hq)
    · exact iff_of_false (pathless_finish_ne scan h hcatalogue hlists hp hq)
        fun hsame => hq (hsame.1 hp)
  · by_cases hq : s.world.disk.Overlong q
    · exact iff_of_false (pathless_finish_ne scan h.symm hcatalogue hlists hq hp).symm
        fun hsame => hp (hsame.2 hq)
    · exact iff_of_true (pathless_finish scan h (.inr ⟨hp, hq⟩)) (iff_of_false hp hq)

/-- Without a listing a scan needs the catalogue. -/
theorem exists_catalogue_of_scan {repository : Path} {f : LanguageFilter} {limit : Option Int}
    {scan : Scan} {t : Session} (h : Discovery.scan repository f limit false s = (.ok scan, t))
    (hlists : ¬s.world.git.Lists) : ∃ catalogue, s.currentCatalogue = .ok catalogue := by
  obtain ⟨found, hfound, -⟩ := (Discovery.scanned_of_scan h).found
  have hdiscover : Discovery.discover repository false s = (.ok found, _) := Prod.ext hfound rfl
  rcases Discovery.discover_eq_ok hdiscover with ⟨answer, hgit, hcode, -⟩ | ⟨-, hcatalogue, -⟩
  · exact absurd ⟨answer, hgit, hcode⟩ hlists
  · exact hcatalogue

theorem run_same_iff_of_lenient (f : LanguageFilter) (limit budget : Option Int) (hs : s.Lenient)
    (h : s.world.disk.SameFolder p q) :
    pathless (run p f limit budget s).1 = pathless (run q f limit budget s).1 ↔
      s.world.git.Lists ∨ (∀ scan, (Discovery.scan p f limit false s).1 ≠ .ok scan) ∨
        (s.world.disk.Overlong p ↔ s.world.disk.Overlong q) := by
  obtain ⟨hresult, halike⟩ := scan_congr f limit hs h.resolve_eq
  rw [run_fst _ _ _ _ hs, run_fst _ _ _ _ hs]
  rcases hp : Discovery.scan p f limit false s with ⟨fault | scan, t⟩
  · rw [hp] at hresult
    have hq : Discovery.scan q f limit false s =
        (.error fault, (Discovery.scan q f limit false s).2) := Prod.ext hresult.symm rfl
    rw [bind_of_error hp, bind_of_error hq]
    exact iff_of_true rfl (.inr (.inl nofun))
  · rw [hp] at hresult halike
    have hq : Discovery.scan q f limit false s =
        (.ok scan, (Discovery.scan q f limit false s).2) := Prod.ext hresult.symm rfl
    have ht : t.situation = s.situation := (Discovery.looks_scan p f limit false).keeps.of_eq hp
    have hworld : t.world = s.world := Session.world_eq_of_situation ht
    -- The two scans only differ in a notice, so what follows may start after the first of them.
    have hfinish := ((works_finish q budget scan).respects_alike _ _ halike).1
    have hreached : ¬∀ other, (.ok scan : Except Fault Scan) ≠ .ok other := fun h => h scan rfl
    rw [bind_of_ok hp, bind_of_ok hq, ← hfinish, or_iff_right hreached, ← hworld]
    refine pathless_finish_iff scan (hworld ▸ h) fun hlists => ?_
    rw [Session.currentCatalogue_eq_of_situation ht]
    exact exists_catalogue_of_scan hp (hworld ▸ hlists)

/-- Where a survey is unrefused, its scan gives what it gives when nothing is refused. -/
theorem scan_fst_openly {repository : Path} {f : LanguageFilter} {limit : Option Int}
    (hshown : (run repository f limit budget).Unrefused s) :
    (Discovery.scan repository f limit false s).1 =
      (Discovery.scan repository f limit false s.openly).1 := by
  have hlooks := Discovery.looks_scan repository f limit false
  have hopening := Run.looks_say "Processing repository with fancy_tree..." (by exact .ofList rfl)
  have hscan : Run.Works (Discovery.scan repository f limit false >>= finish repository budget) :=
    hlooks.mono.bind (works_finish repository budget)
  obtain ⟨hfirst, hrest⟩ :=
    Run.MadeOf.unrefused_of_bind hopening.mono (fun _ => hscan) hshown
  have hsaid := hopening.apply_eq hfirst
  rw [Run.say_apply _ s.lenient_openly] at hsaid
  obtain ⟨hshown', -⟩ := Run.MadeOf.unrefused_of_bind hlooks.mono (works_finish repository budget)
    (hrest () _ hsaid)
  have hsame := congrArg Prod.fst (hlooks.apply_eq hshown')
  -- The opening notice has no part in what the scan gives.
  let opening : List Notice := [.line "Processing repository with fancy_tree..."]
  have hbefore := (hlooks.determined s (s.shows opening) rfl).1
  have hafter := (hlooks.determined (s.openly.shows opening) s.openly rfl).1
  exact hbefore.trans (hsame.trans hafter)

/-- Where their notices are shown, surveys of two spellings of a folder give the same summaries or
the same faults, but for the paths that these tell, unless the survey gets past the scan, git lists
nothing, and there are entries that are too far away for one of the spellings and not for the
other. -/
theorem run_same_iff (f : LanguageFilter) (limit budget : Option Int)
    (hp : (run p f limit budget).Unrefused s) (hq : (run q f limit budget).Unrefused s)
    (h : s.world.disk.SameFolder p q) :
    pathless (run p f limit budget s).1 = pathless (run q f limit budget s).1 ↔
      s.world.git.Lists ∨ (∀ scan, (Discovery.scan p f limit false s).1 ≠ .ok scan) ∨
        (s.world.disk.Overlong p ↔ s.world.disk.Overlong q) := by
  rw [(works_run p f limit budget).apply_eq hp, (works_run q f limit budget).apply_eq hq,
    scan_fst_openly hp]
  exact run_same_iff_of_lenient f limit budget s.lenient_openly h

/-- Past the scan, and without a listing, a spelling that is too long is the end of a survey. -/
theorem run_of_overlong {f : LanguageFilter} {limit : Option Int} {scan : Scan}
    (budget : Option Int) (hs : s.Lenient)
    (hscan : (Discovery.scan p f limit false s).1 = .ok scan)
    (hlists : ¬s.world.git.Lists) (hp : s.world.disk.Overlong p) :
    ∃ path, (run p f limit budget s).1 = .error (.disk (.tooLong path)) := by
  have h : Discovery.scan p f limit false s = (.ok scan, _) := Prod.ext hscan rfl
  have ht := (Discovery.looks_scan p f limit false).keeps.of_eq h
  have hworld := Session.world_eq_of_situation ht
  obtain ⟨catalogue, hcatalogue⟩ := exists_catalogue_of_scan h hlists
  rw [← Session.currentCatalogue_eq_of_situation ht] at hcatalogue
  rw [run_fst _ _ _ _ hs, bind_of_ok h]
  exact finish_of_overlong budget scan hcatalogue (hworld ▸ hlists) (hworld ▸ hp)

namespace Detours

/-- What is in the repository. -/
def content : Entry := .folder [("a.py", .file ⟨#[]⟩)]

/-- A session in the folder of a repository with the name `r`, of which git knows nothing. -/
def session : Session := .start {
  disk := { tree := .folder [("w", .folder [("r", content)])], here := .ofString "/w" }
  git := {}
  packages := []
  answers := []
  modules := ["tree_sitter_python"]
  console := .lenient
  parserProblem? := fun language => if language = "python" then none else some "no parser"
  parsed := []
  catalogue := .standard }

theorem lenient_session : session.Lenient := rfl

/-- Into the repository and out of it some times, and on from there. -/
def names (onward : List String) : Nat → List String
  | 0 => onward
  | n + 1 => "r" :: ".." :: names onward n

/-- The repository, after some detours. -/
def spelling (n : Nat) : Path := ⟨.here, names ["r"] n⟩

theorem names_ne_nil {onward : List String} (h : onward ≠ []) (n : Nat) : names onward n ≠ [] := by
  cases n with
  | zero => exact h
  | succ n => exact List.cons_ne_nil _ _

theorem names_append (onward more : List String) (n : Nat) :
    names onward n ++ more = names (onward ++ more) n := by
  induction n with
  | zero => rfl
  | succ n ih => rw [names, names, List.cons_append, List.cons_append, ih]

theorem text_names {onward : List String} (h : onward ≠ []) (n : Nat) :
    (⟨.here, names onward n⟩ : Path).text = String.intercalate "/" (names onward n) :=
  if_neg (mt List.isEmpty_iff.1 (names_ne_nil h n))

/-- Every detour takes five bytes. -/
theorem size_text {onward : List String} (h : onward ≠ []) (n : Nat) :
    (⟨.here, names onward n⟩ : Path).text.utf8ByteSize =
      5 * n + (String.intercalate "/" onward).utf8ByteSize := by
  rw [text_names h]
  induction n with
  | zero => rw [names, Nat.mul_zero, Nat.zero_add]
  | succ n ih =>
    rw [names, String.intercalate_cons_cons, String.intercalate_cons_of_ne_nil (names_ne_nil h n)]
    simp only [String.utf8ByteSize_append, ih]
    have hdetour : "r".utf8ByteSize + "/".utf8ByteSize + "..".utf8ByteSize + "/".utf8ByteSize = 5 :=
      rfl
    omega

theorem null_not_mem_text (n : Nat) : '\x00' ∉ (spelling n).text.toList := by
  have hne : ["r"] ≠ [] := List.cons_ne_nil _ _
  rw [spelling, text_names hne]
  induction n with
  | zero => decide
  | succ n ih =>
    rw [names, String.intercalate_cons_cons, String.intercalate_cons_of_ne_nil (names_ne_nil hne n)]
    simpa using ih

theorem walk_names (path : Path) (n : Nat) :
    Disk.walk session.world.disk.tree path ["w"] (names ["r"] n) = .ok (["w", "r"], content) := by
  induction n with
  | zero => rfl
  | succ n ih => exact ih

/-- With up to 818 detours the repository can be asked for. -/
theorem entryAt_spelling {n : Nat} (h : n ≤ 818) :
    session.world.disk.entryAt (spelling n) = .ok (some content) := by
  have hsize : (spelling n).text.utf8ByteSize = 5 * n + 1 := size_text (List.cons_ne_nil _ _) n
  have hfits : ¬maxPathSize < (spelling n).text.utf8ByteSize := by
    rw [hsize, maxPathSize]
    omega
  have hnull : Path.refuseNull (spelling n).text = .ok () :=
    if_neg (mt List.contains_iff_mem.1 (null_not_mem_text n))
  have hrefuse : (spelling n).refuse = .ok () := by
    rw [Path.refuse, hnull, if_neg hfits]
    rfl
  have hlocate : session.world.disk.locate (spelling n) = .ok (["w", "r"], content) := by
    rw [Disk.locate, hrefuse]
    exact walk_names (spelling n) n
  rw [Disk.entryAt, hlocate]

theorem sameFolder {n : Nat} (h : n ≤ 818) :
    session.world.disk.SameFolder (spelling 0) (spelling n) := by
  have hfolder {n : Nat} (h : n ≤ 818) : session.world.disk.hasFolder (spelling n) = .ok true := by
    rw [Disk.hasFolder, entryAt_spelling h]
    rfl
  have hresolve (n : Nat) :
      Path.resolve session.world.disk.here (spelling n) = ⟨.root, ["w", "r"]⟩ :=
    congrArg (Path.mk .root) (Disk.walk_eq_ok (walk_names (spelling n) n)).1.symm
  exact ⟨hfolder (Nat.zero_le _), hfolder h, (hresolve 0).trans (hresolve n).symm⟩

/-- The path of the file takes five bytes more than the one of the repository. -/
theorem overlong_iff {n : Nat} (h : n ≤ 818) :
    session.world.disk.Overlong (spelling n) ↔ n = 818 := by
  have hjoin : (spelling n).join (.ofNames ["a.py"]) = ⟨.here, names ["r", "a.py"] n⟩ :=
    congrArg (Path.mk .here) (names_append ["r"] ["a.py"] n)
  have hsize : (⟨.here, names ["r", "a.py"] n⟩ : Path).text.utf8ByteSize = 5 * n + 6 :=
    size_text (List.cons_ne_nil _ _) n
  have hwithin : content.Within (spelling n) ↔ 5 * n + 6 ≤ maxPathSize := by
    have hfile : content.descendants [] = [(["a.py"], .file ⟨#[]⟩)] := rfl
    rw [Entry.Within, hfile, List.forall_mem_singleton, hjoin, Path.fits, hsize, decide_eq_true_iff]
  rw [Disk.overlong_iff (entryAt_spelling h), hwithin, maxPathSize]
  omega

theorem not_lists : ¬session.world.git.Lists := by
  rintro ⟨answer, hanswer, hcode⟩
  obtain rfl := Except.ok.inj hanswer
  exact absurd hcode (by decide)

theorem exists_run :
    ∃ summary t, run (spelling 0) (.names []) none (some 25) session = (.ok summary, t) := by
  have hsummary :
      (run (spelling 0) (.names []) none (some 25) session).1.toOption.isSome = true := by
    decide +kernel
  rcases h : run (spelling 0) (.names []) none (some 25) session with ⟨fault | summary, t⟩
  · rw [h] at hsummary
    cases hsummary
  · exact ⟨summary, t, rfl⟩

end Detours

theorem run_same_iff_detour :
    Detours.session.world.disk.SameFolder (Detours.spelling 0) (Detours.spelling 1) ∧
    ¬Detours.session.world.disk.Overlong (Detours.spelling 0) ∧
    ¬Detours.session.world.disk.Overlong (Detours.spelling 1) ∧
    pathless (run (Detours.spelling 0) (.names []) none (some 25) Detours.session).1 =
      pathless (run (Detours.spelling 1) (.names []) none (some 25) Detours.session).1 := by
  have hsame : Detours.session.world.disk.SameFolder (Detours.spelling 0) (Detours.spelling 1) :=
    Detours.sameFolder (by decide)
  have hshort : ¬Detours.session.world.disk.Overlong (Detours.spelling 0) := by
    simp [Detours.overlong_iff]
  have hshort' : ¬Detours.session.world.disk.Overlong (Detours.spelling 1) := by
    simp [Detours.overlong_iff]
  have hshown (p : Path) : (run p (.names []) none (some 25)).Unrefused Detours.session :=
    Run.unrefused_of_lenient _ Detours.lenient_session
  exact ⟨hsame, hshort, hshort', (run_same_iff _ _ _ (hshown _) (hshown _) hsame).2
    (.inr (.inr (iff_of_false hshort hshort')))⟩

/-- A repository with one file is surveyed, but not when it is spelled with so many detours that the
path of the file gets too long. -/
theorem run_fails_after_detours :
    Detours.session.world.disk.SameFolder (Detours.spelling 0) (Detours.spelling 818) ∧
    (∃ summary, (run (Detours.spelling 0) (.names []) none (some 25) Detours.session).1 =
      .ok summary) ∧
    ∃ path, (run (Detours.spelling 818) (.names []) none (some 25) Detours.session).1 =
      .error (.disk (.tooLong path)) := by
  have hsame : Detours.session.world.disk.SameFolder (Detours.spelling 0) (Detours.spelling 818) :=
    Detours.sameFolder (Nat.le_refl _)
  obtain ⟨summary, t, hrun⟩ := Detours.exists_run
  refine ⟨hsame, ⟨summary, congrArg Prod.fst hrun⟩, ?_⟩
  -- The scan is the same for both spellings, so the long one gets as far as the dialogue.
  obtain ⟨scan, _, _, _, _, _, _, _, _, hscan, -⟩ := run_eq_ok hrun
  have hresult := (scan_congr (.names []) none Detours.lenient_session hsame.resolve_eq).1
  rw [hscan] at hresult
  exact run_of_overlong (some 25) Detours.lenient_session hresult.symm Detours.not_lists
    ((Detours.overlong_iff (Nat.le_refl _)).2 rfl)

end Survey

end SourceOutline
