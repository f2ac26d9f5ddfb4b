import SourceOutline.Proofs.Location
import SourceOutline.Proofs.Spelling

/-!
# Files that git tracks and files on the disk

Whoever wants the files that git does not track gets the files on the disk, less those that a
pattern leaves out. Git has no part in the patterns: a file that a pattern leaves out may well be
tracked. Such a file is found among the tracked files only, so wanting more files loses it
(`Discovery.discover_more_iff`).

A tracked file is a file on the disk when it is named from the repository on without `..`: the names
lead to it from the root on, and so from the repository on, and all entries below the repository are
met (`Disk.mem_filesBelow`).
-/

namespace SourceOutline

/-! ## Names that lead to an entry -/

namespace Entry

theorem find?_append (names more : List String) (entry : Entry) :
    entry.find? (names ++ more) = (entry.find? names).bind (find? more) := by
  induction names generalizing entry with
  | nil => rfl
  | cons name rest ih =>
    cases entry with
    | file content => rfl
    | folder entries =>
      rw [List.cons_append, find?, find?, Option.bind_assoc]
      exact congrArg (Option.bind _) (funext ih)

theorem descendants_subset {above : List String} {name : String} {entry : Entry}
    {entries : List (String × Entry)} (h : (name, entry) ∈ entries) :
    entry.descendants (above ++ [name]) ⊆ descendantsEach above entries := by
  induction entries with
  | nil => cases h
  | cons first rest ih =>
    rw [descendantsEach]
    rcases List.mem_cons.1 h with rfl | hrest
    · exact List.subset_append_left _ _
    · exact List.Subset.trans (ih hrest) (List.subset_append_right _ _)

/-- An entry that names lead to is met on the way through all entries. -/
theorem mem_descendants {above names : List String} {entry found : Entry} (hne : names ≠ [])
    (h : entry.find? names = some found) : (above ++ names, found) ∈ entry.descendants above := by
  induction names generalizing above entry with
  | nil => exact absurd rfl hne
  | cons name rest ih =>
    cases entry with
    | file content => cases h
    | folder entries =>
      rw [find?] at h
      obtain ⟨next, hnext, hfound⟩ := Option.bind_eq_some_iff.1 h
      obtain ⟨before, after, hentries, -⟩ := List.lookup_eq_some_iff.1 hnext
      have hmem : (name, next) ∈ entries := by
        rw [hentries]
        exact List.mem_append_right _ List.mem_cons_self
      rw [descendants, List.mem_append]
      cases rest with
      | nil =>
        obtain rfl := Option.some.inj hfound
        exact .inl (List.mem_map.2 ⟨(name, next), hmem, rfl⟩)
      | cons second rest =>
        have hbelow : (above ++ [name] ++ second :: rest, found) ∈
            next.descendants (above ++ [name]) := ih (List.cons_ne_nil _ _) hfound
        rw [List.append_assoc, List.singleton_append] at hbelow
        exact .inr (descendants_subset hmem hbelow)

end Entry

namespace Path

theorem foldl_resolveStep {names : List String} (h : ".." ∉ names) (done : List String) :
    names.foldl resolveStep done = done ++ names := by
  induction names generalizing done with
  | nil => exact (List.append_nil done).symm
  | cons name rest ih =>
    rw [List.mem_cons, not_or] at h
    obtain ⟨hname, hrest⟩ := h
    have hstep : resolveStep done name = done ++ [name] := if_neg (by simpa using Ne.symm hname)
    rw [List.foldl_cons, hstep, ih hrest, List.append_assoc, List.singleton_append]

theorem not_mem_resolveStep {done : List String} (h : ".." ∉ done) (name : String) :
    ".." ∉ resolveStep done name := by
  rw [resolveStep]
  split
  · exact fun hmem => h (List.dropLast_subset done hmem)
  · next hname =>
    rw [List.mem_append, List.mem_singleton, not_or]
    exact ⟨h, fun heq => hname (by simp [heq])⟩

/-- A resolved path has no `..` in it. -/
theorem not_mem_resolve (here p : Path) : ".." ∉ (resolve here p).parts := by
  have hfold (names done : List String) (h : ".." ∉ done) :
      ".." ∉ names.foldl resolveStep done := by
    induction names generalizing done with
    | nil => exact h
    | cons name rest ih => exact ih _ (not_mem_resolveStep h name)
  exact hfold _ [] List.not_mem_nil

/-- The path is named from the place on, by names that lead further in. -/
def NamedFrom (location path : Path) : Prop :=
  ∃ names, names ≠ [] ∧ ".." ∉ names ∧ path = location.join (.ofNames names)

end Path

namespace Disk

variable {disk : Disk}

/-- Where a path from the root on leads that has no `..` in it. -/
theorem find?_of_entryAt {path : Path} {content : Entry} (hroot : path.anchor = .root)
    (hparts : ".." ∉ path.parts) (h : disk.entryAt path = .ok (some content)) :
    disk.tree.find? path.parts = some content := by
  obtain ⟨way, hlocate⟩ := locate_of_entryAt h
  obtain ⟨_, -, hwalk⟩ := except_bind_eq_ok.1 hlocate
  have hjoin : disk.here.join path = path := by
    rw [Path.join, hroot]
  rw [hjoin] at hwalk
  obtain ⟨rfl, hfound⟩ := walk_eq_ok hwalk
  rwa [Path.foldl_resolveStep hparts, List.nil_append] at hfound

/-- A file that is named from a place on is among the files below this place. -/
theorem mem_filesBelow {location path : Path} {content : Entry} {below : List Path}
    (hroot : location.anchor = .root) (hparts : ".." ∉ location.parts)
    (hentry : disk.entryAt location = .ok (some content))
    (hbelow : disk.filesBelow location = .ok below) (hnamed : location.NamedFrom path)
    (hfile : disk.hasFile path = .ok true) : path ∈ below := by
  obtain ⟨names, hne, hnames, rfl⟩ := hnamed
  obtain ⟨entry, hpath, hisFile⟩ := except_map_eq_ok.1 hfile
  obtain ⟨bytes, rfl⟩ : ∃ bytes, entry = some (.file bytes) := by
    rcases entry with _ | bytes | entries
    · cases hisFile
    · exact ⟨bytes, rfl⟩
    · cases hisFile
  have hwhole : ".." ∉ (location.join (.ofNames names)).parts := by
    rw [Path.parts_join_ofNames, List.mem_append, not_or]
    exact ⟨hparts, hnames⟩
  -- The names lead on from where the place is.
  have hfound : disk.tree.find? (location.join (.ofNames names)).parts = some (.file bytes) :=
    find?_of_entryAt hroot hwhole hpath
  rw [Path.parts_join_ofNames, Entry.find?_append, find?_of_entryAt hroot hparts hentry] at hfound
  have hmem : ([] ++ names, Entry.file bytes) ∈ content.descendants [] :=
    Entry.mem_descendants hne hfound
  obtain ⟨-, rfl⟩ := (filesBelow_of_entryAt hentry).1 hbelow
  refine List.mem_map.2 ⟨names, ?_, rfl⟩
  exact List.mem_map.2 ⟨(names, .file bytes), List.mem_filter.2 ⟨hmem, rfl⟩, rfl⟩

end Disk

namespace Discovery

/-! ## What is found -/

/-- The files that are found when those that git does not track are wanted too are the files below
the repository that no pattern leaves out. The tracked files are those that git lists, or the same
files again when it lists none. A tracked file that is named from the repository on is among all
files exactly when no pattern leaves it out, so nothing is lost exactly when no tracked file is left
out. -/
theorem discover_more_iff {repository : Path} {s : Session} {tracked all : List Path}
    (htracked : (discover repository false s).1 = .ok tracked)
    (hall : (discover repository true s).1 = .ok all) :
    ∃ location c below, s.world.disk.resolve repository = .ok location ∧
      s.currentCatalogue = .ok c ∧ s.world.disk.filesBelow location = .ok below ∧
      all = below.filter (stays c.ignorePatterns) ∧
      (Tracks s location tracked ∨ (∀ files, ¬Tracks s location files) ∧ tracked = all) ∧
      (∀ path ∈ tracked, location.NamedFrom path →
        (path ∈ all ↔ stays c.ignorePatterns path = true)) ∧
      ((∀ path ∈ tracked, location.NamedFrom path) →
        (tracked ⊆ all ↔ ∀ path ∈ tracked, stays c.ignorePatterns path = true)) := by
  obtain ⟨location, content, listed, hresolve, hentry, hlisted, hfound⟩ :=
    exists_location_of_discover htracked
  obtain ⟨location', _, _, hresolve', -, hnone, hdisk⟩ := exists_location_of_discover hall
  obtain rfl := Except.ok.inj (hresolve.symm.trans hresolve')
  obtain rfl := Except.ok.inj hnone
  obtain ⟨c, below, hc, hbelow, hkeep⟩ := diskFiles_fst_eq_ok_iff.1 hdisk
  obtain ⟨-, hfilter⟩ := keepFiles_eq_ok_iff.1 hkeep
  have hsource : Tracks s location tracked ∨
      (∀ files, ¬Tracks s location files) ∧ tracked = all := by
    rcases trackedFiles_cases hlisted with ⟨files, hfiles, rfl⟩ | ⟨hfails, rfl⟩
    · obtain rfl := Except.ok.inj hfound
      exact .inl hfiles
    · refine .inr ⟨?_, Except.ok.inj (hfound.symm.trans hdisk)⟩
      rintro files ⟨answer, hgit, hcode, hne, hfiles⟩
      exact hne (Except.ok.inj (hfiles.symm.trans (hfails answer hgit hcode)))
  have hmem : ∀ path ∈ tracked, location.NamedFrom path →
      (path ∈ all ↔ stays c.ignorePatterns path = true) := by
    intro path hpath hnamed
    rw [hfilter, List.mem_filter, and_iff_right_iff_imp]
    intro _
    rcases hsource with ⟨answer, -, -, -, hpresent⟩ | ⟨-, rfl⟩
    · have hlocation : location = Path.resolve s.world.disk.here repository := by
        obtain ⟨_, -, heq⟩ := except_bind_eq_ok.1 hresolve
        exact (Except.ok.inj heq).symm
      have hparts : ".." ∉ location.parts := hlocation ▸ Path.not_mem_resolve _ _
      have hroot : location.anchor = .root := by rw [hlocation, Path.resolve]
      exact Disk.mem_filesBelow hroot hparts hentry hbelow hnamed
        ((mem_presentFiles hpresent).1 hpath).2
    · rw [hfilter] at hpath
      exact (List.mem_filter.1 hpath).1
  refine ⟨location, c, below, hresolve, hc, hbelow, hfilter, hsource, hmem, fun hnamed => ?_⟩
  constructor
  · intro hsub path hpath
    exact (hmem path hpath (hnamed path hpath)).1 (hsub hpath)
  · intro hstay path hpath
    exact (hmem path hpath (hnamed path hpath)).2 (hstay path hpath)

/-! ### A tracked build folder -/

namespace Build

/-- A folder that the standard patterns leave out, with a file in it. -/
def folder : String × Entry := ("build", .folder [("a.py", .file ⟨#[]⟩)])

/-- A file that they do not leave out. -/
def file : String × Entry := ("b.py", .file ⟨#[]⟩)

/-- A session beside a repository with some content; git lists the tracked files as the text
says. -/
def session (content : List (String × Entry)) (output : String) : Session := .start {
  disk := {
    tree := .folder [("w", .folder [("r", .folder content)])]
    here := .ofString "/w" }
  git := { files := .ok ⟨0, output, "", []⟩ }
  packages := []
  answers := []
  modules := []
  console := .lenient
  parserProblem? := fun _ => some "no parser"
  parsed := []
  catalogue := .standard }

/-- The repository. -/
def location : Path := ⟨.root, ["w", "r"]⟩

/-- The path of the file in the folder. -/
def inside : Path := location.join (.ofNames ["build", "a.py"])

/-- The path of the other file. -/
def outside : Path := location.join (.ofNames ["b.py"])

theorem discover_tracked :
    (discover (.ofString "r") false (session [file, folder] "build/a.py\nb.py\n")).1.toOption =
      some [inside, outside] := by
  decide +kernel

theorem discover_all :
    (discover (.ofString "r") true (session [file, folder] "build/a.py\nb.py\n")).1.toOption =
      some [outside] := by
  decide +kernel

theorem stays_inside : stays Catalogue.standard.ignorePatterns inside = false := by
  decide +kernel

theorem namedFrom_location : ∀ path ∈ [inside, outside], location.NamedFrom path := by
  rw [List.forall_mem_cons, List.forall_mem_singleton]
  exact ⟨⟨["build", "a.py"], by decide, by decide, rfl⟩, ⟨["b.py"], by decide, by decide, rfl⟩⟩

end Build

/-- Of two tracked files one is lost, and the patterns tell which. -/
theorem discover_more_iff_build :
    ∃ tracked all,
      (discover (.ofString "r") false
        (Build.session [Build.file, Build.folder] "build/a.py\nb.py\n")).1 = .ok tracked ∧
      (discover (.ofString "r") true
        (Build.session [Build.file, Build.folder] "build/a.py\nb.py\n")).1 = .ok all ∧
      stays Catalogue.standard.ignorePatterns Build.outside = true ∧ ¬tracked ⊆ all := by
  have htracked := Build.discover_tracked
  have hall := Build.discover_all
  rcases hone : (discover (.ofString "r") false
      (Build.session [Build.file, Build.folder] "build/a.py\nb.py\n")).1 with fault | tracked
  · rw [hone] at htracked
    cases htracked
  rcases htwo : (discover (.ofString "r") true
      (Build.session [Build.file, Build.folder] "build/a.py\nb.py\n")).1 with fault | all
  · rw [htwo] at hall
    cases hall
  rw [hone] at htracked
  rw [htwo] at hall
  obtain rfl : tracked = [Build.inside, Build.outside] := Option.some.inj htracked
  obtain rfl : all = [Build.outside] := Option.some.inj hall
  obtain ⟨location, c, below, hresolve, hc, -, -, -, hmem, hlost⟩ := discover_more_iff hone htwo
  obtain rfl : Build.location = location := Except.ok.inj hresolve
  obtain rfl : Catalogue.standard = c := Except.ok.inj hc
  refine ⟨_, _, rfl, rfl, ?_, ?_⟩
  · refine (hmem Build.outside (List.mem_cons_of_mem _ List.mem_cons_self) ?_).1
      List.mem_cons_self
    exact Build.namedFrom_location _ (List.mem_cons_of_mem _ List.mem_cons_self)
  · rw [hlost Build.namedFrom_location]
    intro hstay
    have hinside := hstay Build.inside List.mem_cons_self
    rw [Build.stays_inside] at hinside
    cases hinside

/-- A tracked file in a folder that the patterns leave out is not among all files. -/
theorem discover_loses_tracked :
    (discover (.ofString "r") false
      (Build.session [Build.folder] "build/a.py\n")).1.toOption = some [Build.inside] ∧
    (discover (.ofString "r") true
      (Build.session [Build.folder] "build/a.py\n")).1.toOption = some [] := by
  decide +kernel

end Discovery

end SourceOutline
