import SourceOutline.Proofs.InstallDialogue
import SourceOutline.Proofs.LanguageStatus
import SourceOutline.Proofs.Partition
import SourceOutline.Proofs.QuietScan

/-!
# Numbers of files

The user is told twice how many files there are of a language: when the files are put into groups,
and with the support of the languages. The second number is made from the endings that are seen,
each of which is kept once, so it is the number of different endings in the group
(`Support.countListed_endingsOf`). The two numbers are the same when no two files of the group have
the same ending.
-/

namespace SourceOutline

namespace Support

/-! ## Different endings -/

theorem eraseDups_sublist (words : List String) : words.eraseDups.Sublist words := by
  induction words using List.reverseRecOn with
  | nil => exact .slnil
  | append_singleton words word ih =>
    rw [Discovery.eraseDups_concat]
    split
    · exact ih.trans (List.sublist_append_left _ _)
    · exact ih.append (.refl _)

theorem length_eraseDups_eq_iff {words : List String} :
    words.eraseDups.length = words.length ↔ words.Nodup := by
  constructor
  · intro h
    have heq := (eraseDups_sublist words).eq_of_length h
    exact heq ▸ Outline.nodup_eraseDups words
  · intro h
    have hperm : words.eraseDups.Perm words :=
      (List.perm_ext_iff_of_nodup (Outline.nodup_eraseDups words) h).2 fun _ => List.mem_eraseDups
    exact hperm.length_eq

theorem filter_eraseDups (p : String → Bool) (words : List String) :
    words.eraseDups.filter p = (words.filter p).eraseDups := by
  induction words using List.reverseRecOn with
  | nil => rfl
  | append_singleton words word ih =>
    rw [Discovery.eraseDups_concat, List.filter_append]
    by_cases hword : p word = true
    · have hlast : [word].filter p = [word] := by simp [hword]
      have hmem : word ∈ words.filter p ↔ word ∈ words := by simp [hword]
      rw [hlast, Discovery.eraseDups_concat]
      simp only [hmem]
      split
      · exact ih
      · rw [List.filter_append, hlast, ih]
    · have hlast : [word].filter p = [] := by simp [hword]
      rw [hlast, List.append_nil]
      split
      · exact ih
      · rw [List.filter_append, hlast, List.append_nil, ih]

/-- The endings of some files are kept once each, in the order of the files. -/
theorem endingsOf_eq (paths : List Path) :
    endingsOf paths = ((paths.map Catalogue.ending).filter (!·.isEmpty)).eraseDups := by
  induction paths using List.reverseRecOn with
  | nil => rfl
  | append_singleton paths path ih =>
    have hlast : endingsOf (paths ++ [path]) = addEnding (endingsOf paths) path := by
      simp [endingsOf]
    rw [hlast, addEnding, List.map_append, List.filter_append, List.map_singleton]
    by_cases hempty : (Catalogue.ending path).isEmpty = true
    · simp [hempty, ih]
    · have hfilled : [Catalogue.ending path].filter (!·.isEmpty) = [Catalogue.ending path] := by
        simp [hempty]
      rw [hfilled, Discovery.eraseDups_concat, ih]
      simp [hempty, List.mem_eraseDups]

/-- The number that is told of a language counts the different endings of its files. -/
theorem countListed_endingsOf {entry : LanguageEntry} (h : entry ∈ Catalogue.standard.entries)
    (files : List Path) :
    countListed entry (endingsOf files) =
      .ok ((files.filter fun path => entry.endings.contains (Catalogue.ending path)).map
        Catalogue.ending).eraseDups.length := by
  have hfilled : ∀ ending ∈ files.map Catalogue.ending,
      (entry.endings.contains ending && !ending.isEmpty) = entry.endings.contains ending := by
    intro ending _
    by_cases hempty : ending = ""
    · simp [hempty, Catalogue.orderly_standard.filled entry h]
    · simp [hempty]
  rw [countListed_eq (Catalogue.orderly_standard.listed entry h), endingsOf_eq, filter_eraseDups,
    List.filter_filter, List.filter_congr hfilled, List.filter_map]
  rfl

/-! ## A listing of files -/

/-- Git lists the names of files in a repository, each on a line of its own. -/
structure Lists (world : World) (repository location : Path) (names : List String) : Prop where
  listing : ∃ answer, world.git.files = .ok answer ∧ answer.code = 0 ∧
    Text.lines (Text.trim answer.output) = names
  clean : ∀ name ∈ names, Text.trim name = name
  resolved : world.disk.resolve repository = .ok location
  folder : world.disk.hasFolder location = .ok true
  present : ∀ name ∈ names, world.disk.hasFile (location.join (.ofString name)) = .ok true

namespace Lists

variable {world : World} {repository location : Path} {names : List String}

theorem hasFile_location (h : Lists world repository location names) :
    world.disk.hasFile location = .ok false := by
  have hfolder := h.folder
  rw [Disk.hasFolder] at hfolder
  rw [Disk.hasFile]
  obtain ⟨found, hfound, htrue⟩ := except_map_eq_ok.1 hfolder
  rw [hfound]
  cases found with
  | none => rfl
  | some content =>
    cases content with
    | file _ => cases htrue
    | folder _ => rfl

theorem join_ne_location (h : Lists world repository location names) {name : String}
    (hname : name ∈ names) : location.join (.ofString name) ≠ location := by
  intro heq
  have hfile := h.present name hname
  rw [heq, h.hasFile_location] at hfile
  cases hfile

/-- Seen from the repository, a listed file has the same ending. -/
theorem ending_join (h : Lists world repository location names) {name : String}
    (hname : name ∈ names) :
    Catalogue.ending (location.join (.ofString name)) = Catalogue.ending (.ofString name) := by
  by_cases hparts : (Path.ofString name).parts = []
  · have hother := (Path.join_eq_of_parts hparts).resolve_left (h.join_ne_location hname)
    rw [hother]
  · exact Catalogue.ending_join hparts

theorem isEmpty_eq_false (h : Lists world repository location names) {name : String}
    (hname : name ∈ names) : name.isEmpty = false := by
  rw [String.isEmpty_eq_false_iff]
  rintro rfl
  refine h.join_ne_location hname ?_
  change Path.mk location.anchor (location.parts ++ []) = location
  rw [List.append_nil]

theorem ne_nil (h : Lists world repository location names) : names ≠ [] := by
  obtain ⟨answer, -, -, hlines⟩ := h.listing
  rintro rfl
  have hlength := Text.length_lines (Text.trim answer.output)
  rw [hlines] at hlength
  cases hlength

theorem seenFiles?_eq (h : Lists world repository location names) :
    seenFiles? world.git world.disk repository = .ok (names.map Path.ofString) := by
  obtain ⟨answer, hgit, hcode, hlines⟩ := h.listing
  have hkept : (names.filter fun name => !(Text.trim name).isEmpty) = names := by
    rw [List.filter_eq_self]
    intro name hname
    rw [h.clean name hname, h.isEmpty_eq_false hname]
    rfl
  rw [seenFiles?, hgit]
  dsimp only
  rw [if_pos hcode, listedPaths, hlines, hkept]

/-- The files as the scan finds them. -/
def files (location : Path) (names : List String) : List Path :=
  names.map fun name => location.join (.ofString name)

theorem listedPaths_eq (h : Lists world repository location names) {answer : CommandAnswer}
    (hlines : Text.lines (Text.trim answer.output) = names) :
    Discovery.listedPaths location answer.output = files location names := by
  have htrimmed : names.map Text.trim = names := by
    conv_rhs => rw [← List.map_id names]
    exact List.map_congr_left h.clean
  have hkept : (names.filter fun name => !name.isEmpty) = names := by
    rw [List.filter_eq_self]
    intro name hname
    rw [h.isEmpty_eq_false hname]
    rfl
  rw [Discovery.listedPaths, hlines, htrimmed, hkept, files]

theorem map_ending_files (h : Lists world repository location names) :
    (files location names).map Catalogue.ending =
      (names.map Path.ofString).map Catalogue.ending := by
  rw [files, List.map_map, List.map_map]
  exact List.map_congr_left fun name hname => h.ending_join hname

end Lists

end Support

namespace Discovery

theorem presentFiles_eq_self {disk : Disk} {paths : List Path}
    (h : ∀ path ∈ paths, disk.hasFile path = .ok true) : presentFiles disk paths = .ok paths := by
  induction paths with
  | nil => rfl
  | cons path rest ih =>
    obtain ⟨hpath, hrest⟩ := List.forall_mem_cons.1 h
    rw [presentFiles, hpath, ih hrest]
    rfl

variable {s : Session} {repository location : Path} {names : List String}

open Support (Lists)

/-- All files of the listing are found. -/
theorem discover_of_lists (hs : s.Lenient) (h : Lists s.world repository location names) :
    (discover repository false s).1 = .ok (Lists.files location names) := by
  obtain ⟨answer, hgit, hcode, hlines⟩ := h.listing
  have hpresent : presentFiles s.world.disk (listedPaths location answer.output) =
      .ok (Lists.files location names) := by
    rw [h.listedPaths_eq hlines]
    exact presentFiles_eq_self (List.forall_mem_map.2 h.present)
  have hfilled : (Lists.files location names).isEmpty = false := by
    rw [Lists.files, List.isEmpty_map, List.isEmpty_eq_false_iff]
    exact h.ne_nil
  have hrequire : (requireRepository location s).1 = .ok () := by
    rw [(yields_requireRepository location).of_lenient hs,
      CommandLine.hasEntry_of_hasFolder h.folder]
    rfl
  have htracked : (trackedFiles location false s).1 = .ok (some (Lists.files location names)) := by
    rw [(yields_trackedFiles location false).of_lenient hs, if_neg Bool.false_ne_true, tracked,
      hgit]
    change (if answer.code = 0 then _ else _) = _
    rw [if_pos hcode, hpresent]
    change Except.ok (if _ then none else some _) = _
    rw [hfilled, if_neg Bool.false_ne_true]
  rw [(yields_discover repository false).of_lenient hs, h.resolved]
  change (requireRepository location s).1 >>= _ = _
  rw [hrequire]
  change (trackedFiles location false s).1 >>= _ = _
  rw [htracked]
  rfl

/-- With the standard catalogue a file is in the group of the language that lists its ending. -/
theorem groupOf?_standard (hcatalogue : s.currentCatalogue = .ok .standard) {entry : LanguageEntry}
    (hentry : entry ∈ Catalogue.standard.entries) (path : Path) :
    (s.groupOf? path == some entry.name) = entry.endings.contains (Catalogue.ending path) := by
  have horderly := Catalogue.orderly_standard
  rw [Bool.eq_iff_iff, beq_iff_eq, Session.groupOf?_eq_some_iff hcatalogue,
    horderly.languageOf_eq_some_iff, and_iff_left (horderly.named entry hentry),
    List.contains_iff_mem]
  constructor
  · rintro ⟨other, hother, hname, hending⟩
    obtain rfl := List.inj_on_of_nodup_map horderly.distinct hother hentry hname
    exact hending
  · intro hending
    exact ⟨entry, hentry, rfl, hending⟩

section Group

variable {entry : LanguageEntry} (hcatalogue : s.currentCatalogue = .ok .standard)
  (h : Lists s.world repository location names) (hentry : entry ∈ Catalogue.standard.entries)

include hcatalogue h hentry

/-- The endings in a group are those of the listing that the entry lists. -/
theorem map_ending_group :
    ((Lists.files location names).filter (s.groupOf? · == some entry.name)).map
        Catalogue.ending =
      ((names.map Path.ofString).filter fun path =>
        entry.endings.contains (Catalogue.ending path)).map Catalogue.ending := by
  have hmap (paths : List Path) : (paths.filter fun path =>
      entry.endings.contains (Catalogue.ending path)).map Catalogue.ending =
      (paths.map Catalogue.ending).filter entry.endings.contains := by
    rw [List.filter_map]
    rfl
  simp only [groupOf?_standard hcatalogue hentry]
  rw [hmap, hmap, h.map_ending_files]

/-- A language of which an ending is seen has a group. -/
theorem group_mem_byLabel
    (hseen : entry.isSeen (Support.endingsOf (names.map Path.ofString)) = true) :
    (entry.name, (Lists.files location names).filter (s.groupOf? · == some entry.name)) ∈
      byLabel s.groupOf? (Lists.files location names) := by
  rw [Support.isSeen_endingsOf hentry, List.any_map, List.any_eq_true] at hseen
  obtain ⟨name, hname, hlisted⟩ := hseen
  have hlabel := groupOf?_standard hcatalogue hentry (location.join (.ofString name))
  rw [h.ending_join hname] at hlabel
  refine List.mem_map.2 ⟨entry.name, List.mem_eraseDups.2 (List.mem_filterMap.2
    ⟨location.join (.ofString name), List.mem_map_of_mem hname, ?_⟩), rfl⟩
  exact beq_iff_eq.1 (hlabel.trans hlisted)

end Group

/-- The line that tells about a group. -/
def groupNotice (group : String × List Path) : Notice :=
  .line ("  " ++ group.1 ++ ": " ++ toString group.2.length ++ " files")

/-- Each group is shown when files are grouped. -/
theorem groupNotice_mem (hs : s.Lenient) {found others : List Path} {groups : FileGroups}
    (h : (groupFiles ([], []) found s).1 = .ok (groups, others)) {group : String × List Path}
    (hgroup : group ∈ groups) : groupNotice group ∈ (classify found s).2.notices := by
  have hgroups : groupFiles ([], []) found s = (.ok (groups, others), _) := Prod.ext h rfl
  rw [classify, bind_of_ok hgroups]
  change _ ∈ ((Run.say _ >>= fun _ => (groups.forM fun group => Run.say
    ("  " ++ group.1 ++ ": " ++ toString group.2.length ++ " files")) >>= fun _ =>
    pure (groups, others)) _).2.notices
  have hlenient : Session.Lenient (groupFiles ([], []) found s).2 :=
    hs.of_situation ((yields_groupFiles _ _).looks.keeps s)
  rw [bind_of_ok (Run.say_apply _ hlenient),
    bind_of_ok (Support.forM_say (s := Session.shows _ _) _ _ hlenient)]
  exact List.mem_append_right _ (List.mem_map_of_mem hgroup)

/-- With the standard catalogue all files can be grouped. -/
theorem groupFiles_standard (hs : s.Lenient) (hcatalogue : s.currentCatalogue = .ok .standard)
    (found : List Path) :
    (groupFiles ([], []) found s).1 = .ok (byLabel s.groupOf? found,
      found.filter fun path => (s.groupOf? path).isNone) := by
  have hlisted : ∀ entry ∈ Catalogue.standard.entries,
      ∃ endings, entry.extensions = .list endings := by
    intro entry hentry
    exact ⟨_, Catalogue.orderly_standard.listed entry hentry⟩
  have hdetected : ∀ path ∈ found, ∃ language, s.detected path = .ok language := by
    intro path _
    rw [Session.detected_eq hcatalogue, Catalogue.languageOf]
    exact Catalogue.firstWith_total hlisted
  rw [groupFiles_of_detected hs hdetected, grouped_eq]

/-- The files of a listing are found, put into groups, and each group is shown. -/
theorem classify_of_lists (hs : s.Lenient) (hcatalogue : s.currentCatalogue = .ok .standard)
    (h : Lists s.world repository location names) :
    ((discover repository false >>= classify) s).1 =
      .ok (byLabel s.groupOf? (Lists.files location names),
        (Lists.files location names).filter fun path => (s.groupOf? path).isNone) ∧
    ∀ group ∈ byLabel s.groupOf? (Lists.files location names),
      groupNotice group ∈ (discover repository false >>= classify).shownBy s := by
  constructor
  · rw [((yields_discover repository false).looks.yields.bind yields_classify).of_lenient hs,
      discover_of_lists hs h]
    exact groupFiles_standard hs hcatalogue _
  · intro group hgroup
    -- The files are found in a session with the same catalogue, so they have the same groups.
    have hfound : discover repository false s.hushed = (.ok (Lists.files location names), _) :=
      Prod.ext (discover_of_lists (s := s.hushed) hs h) rfl
    have hkept := (looks_discover repository false).keeps.of_eq hfound
    have hcatalogue' := (Session.currentCatalogue_eq_of_situation hkept).trans hcatalogue
    have hlenient : Session.Lenient (discover repository false s.hushed).2 :=
      Session.Lenient.of_situation (s := s.hushed) hs hkept
    have hsorted := groupFiles_standard hlenient hcatalogue' (Lists.files location names)
    rw [Run.shownBy, bind_of_ok hfound]
    refine groupNotice_mem hlenient hsorted ?_
    have hsame : Session.groupOf? (discover repository false s.hushed).2 = s.groupOf? := by
      funext path
      rw [Session.groupOf?, Session.groupOf?, hcatalogue', hcatalogue]
    rw [hsame]
    exact hgroup

end Discovery

namespace Support

variable {s : Session} {repository location : Path} {names : List String}

/-- The number that is told of a language is the number of different endings of the files in its
group. It is never larger than the number of files, and it is this number exactly when no two files
of the group have the same ending. -/
theorem fileCount_eq_endings (hcatalogue : s.currentCatalogue = .ok .standard)
    (h : Lists s.world repository location names)
    (hshown : (Discovery.discover repository false >>= Discovery.classify).Unrefused s) :
    ∃ languages groups others,
      (available repository s).1 = .ok languages ∧
      ((Discovery.discover repository false >>= Discovery.classify) s).1 = .ok (groups, others) ∧
      ∀ language support, (language, support) ∈ languages → ∃ files,
        (language, files) ∈ groups ∧
        support.fileCount = (files.map Catalogue.ending).eraseDups.length ∧
        support.fileCount ≤ files.length ∧
        (support.fileCount = files.length ↔ (files.map Catalogue.ending).Nodup) ∧
        Discovery.groupNotice (language, files) ∈
          (Discovery.discover repository false >>= Discovery.classify).shownBy s ∧
        ((showStatus (languages.map fun (language, s) => (language, s.status))).Unrefused s →
          languageNotice language support ∈
            (showStatus (languages.map fun (language, s) => (language, s.status))).shownBy s) := by
  obtain ⟨languages, havailable, hlanguages⟩ := available_of_seen hcatalogue h.seenFiles?_eq
  have hopen : Lists s.openly.world repository location names :=
    ⟨h.listing, h.clean, h.resolved, h.folder, h.present⟩
  obtain ⟨hgroups, hnotices⟩ := Discovery.classify_of_lists s.lenient_openly
    (Session.currentCatalogue_openly hcatalogue) hopen
  have hlooks : Run.Looks (Discovery.discover repository false >>= Discovery.classify) :=
    (Discovery.looks_discover repository false).bind Discovery.looks_classify
  rw [s.groupOf?_openly] at hgroups hnotices
  rw [← congrArg Prod.fst (hlooks.apply_eq hshown)] at hgroups
  rw [← hlooks.shownBy_openly hshown] at hnotices
  refine ⟨languages, _, _, by rw [havailable], hgroups, fun language support hmem => ?_⟩
  obtain ⟨entry, hentry, count, hseen, hcount, heq⟩ := of_mem_ofEntries hlanguages hmem
  obtain ⟨rfl, rfl⟩ := Prod.mk.inj heq
  rw [countListed_endingsOf hentry, ← Discovery.map_ending_group hcatalogue h hentry] at hcount
  obtain rfl := Except.ok.inj hcount
  have hmember := Discovery.group_mem_byLabel hcatalogue h hentry hseen
  refine ⟨_, hmember, rfl, ?_, ?_, hnotices _ hmember, fun hstatus => ?_⟩
  · have hle := (eraseDups_sublist (((Lists.files location names).filter
      (s.groupOf? · == some entry.name)).map Catalogue.ending)).length_le
    rw [List.length_map] at hle
    exact Int.ofNat_le.2 hle
  · rw [← length_eraseDups_eq_iff, List.length_map]
    exact Int.ofNat_inj
  · have hfiles := hasFiles_ofEntries hlanguages
    have hne : languages.isEmpty = false := List.isEmpty_eq_false_iff.2 (List.ne_nil_of_mem hmem)
    rw [(looks_showStatus _).shownBy_openly hstatus, Run.shownBy,
      showStatus_apply (s := s.openly.hushed) hfiles rfl, statusNotices, hne,
      if_neg Bool.false_ne_true]
    exact List.mem_append_right _ (List.mem_cons_of_mem _ (List.mem_append_left _
      (List.mem_map.2 ⟨_, hmem, rfl⟩)))

/-! ### Two files with the same ending -/

namespace Twins

/-- A session beside a repository with two files of one language and one of another. -/
def session : Session := .start {
  disk := {
    tree := .folder [("w", .folder [("r", .folder
      [("a.py", .file ⟨#[]⟩), ("b.py", .file ⟨#[]⟩), ("c.js", .file ⟨#[]⟩)])])]
    here := .ofString "/w" }
  git := { files := .ok ⟨0, "a.py\nb.py\nc.js\n", "", []⟩ }
  packages := []
  answers := []
  modules := ["tree_sitter_python"]
  console := .lenient
  parserProblem? := fun _ => some "no parser"
  parsed := []
  catalogue := .standard }

theorem lenient_session : session.Lenient := rfl

theorem lists :
    Lists session.world (.ofString "r") (.ofString "/w/r") ["a.py", "b.py", "c.js"] where
  listing := ⟨_, rfl, rfl, by decide +kernel⟩
  clean := by decide +kernel
  resolved := by decide +kernel
  folder := by decide +kernel
  present := by decide +kernel

/-- The numbers that are told, and the numbers of the files. -/
theorem numbers :
    (available (.ofString "r") session).1.toOption.map (·.map fun p => (p.1, p.2.fileCount)) =
        some [("python", 1), ("javascript", 1)] ∧
      ((Discovery.discover (.ofString "r") false >>= Discovery.classify) session).1.toOption.map
          (fun sorted => sorted.1.map fun group => (group.1, group.2.length)) =
        some [("python", 2), ("javascript", 1)] := by
  decide +kernel

theorem exists_support :
    ∃ languages, (available (.ofString "r") session).1 = .ok languages ∧
      ∃ support, ("python", support) ∈ languages ∧ support.fileCount = 1 := by
  have hnumbers := numbers.1
  rcases hlanguages : (available (.ofString "r") session).1 with fault | languages
  · rw [hlanguages] at hnumbers
    cases hnumbers
  · rw [hlanguages] at hnumbers
    have hcounts : languages.map (fun p => (p.1, p.2.fileCount)) = _ := Option.some.inj hnumbers
    have hmem : ("python", (1 : Int)) ∈ languages.map fun p => (p.1, p.2.fileCount) := by
      rw [hcounts]
      decide
    obtain ⟨⟨language, support⟩, hsupport, heq⟩ := List.mem_map.1 hmem
    obtain ⟨rfl, hcount⟩ := Prod.mk.inj heq
    exact ⟨languages, rfl, support, hsupport, hcount⟩

end Twins

theorem fileCount_eq_endings_twins :
    Twins.session.currentCatalogue = .ok .standard ∧
    Lists Twins.session.world (.ofString "r") (.ofString "/w/r") ["a.py", "b.py", "c.js"] ∧
    ∃ languages groups others,
      (available (.ofString "r") Twins.session).1 = .ok languages ∧
      ((Discovery.discover (.ofString "r") false >>= Discovery.classify) Twins.session).1 =
        .ok (groups, others) ∧
      ∃ support files, ("python", support) ∈ languages ∧ ("python", files) ∈ groups ∧
        (files.map Catalogue.ending).eraseDups.length = 1 := by
  have hcatalogue : Twins.session.currentCatalogue = .ok .standard := rfl
  obtain ⟨languages, groups, others, hlanguages, hgroups, hall⟩ :=
    fileCount_eq_endings hcatalogue Twins.lists (Run.unrefused_of_lenient _ Twins.lenient_session)
  obtain ⟨languages', hlanguages', support, hsupport, hone⟩ := Twins.exists_support
  obtain rfl := Except.ok.inj (hlanguages.symm.trans hlanguages')
  obtain ⟨files, hfiles, hcount, -⟩ := hall "python" support hsupport
  refine ⟨hcatalogue, Twins.lists, languages, groups, others, hlanguages, hgroups, support, files,
    hsupport, hfiles, ?_⟩
  rw [hone] at hcount
  exact (Int.ofNat_inj.1 hcount).symm

/-- Of two files with the same ending only one is counted. -/
theorem fileCount_misses_file :
    Lists Twins.session.world (.ofString "r") (.ofString "/w/r") ["a.py", "b.py", "c.js"] ∧
    ∃ languages groups others support files,
      (available (.ofString "r") Twins.session).1 = .ok languages ∧
      ((Discovery.discover (.ofString "r") false >>= Discovery.classify) Twins.session).1 =
        .ok (groups, others) ∧
      ("python", support) ∈ languages ∧ ("python", files) ∈ groups ∧
      support.fileCount = 1 ∧ files.length = 2 := by
  obtain ⟨languages, hlanguages, support, hsupport, hone⟩ := Twins.exists_support
  have hnumbers := Twins.numbers.2
  refine ⟨Twins.lists, ?_⟩
  rcases hsorted : ((Discovery.discover (.ofString "r") false >>= Discovery.classify)
      Twins.session).1 with fault | ⟨groups, others⟩
  · rw [hsorted] at hnumbers
    cases hnumbers
  · rw [hsorted] at hnumbers
    have hlengths : groups.map (fun group => (group.1, group.2.length)) = _ :=
      Option.some.inj hnumbers
    have hmem : ("python", 2) ∈ groups.map fun group => (group.1, group.2.length) := by
      rw [hlengths]
      decide
    obtain ⟨⟨language, files⟩, hfiles, heq⟩ := List.mem_map.1 hmem
    obtain ⟨rfl, htwo⟩ := Prod.mk.inj heq
    exact ⟨languages, groups, others, support, files, hlanguages, rfl, hsupport, hfiles, hone, htwo⟩

end Support

end SourceOutline
