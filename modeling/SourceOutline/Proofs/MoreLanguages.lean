import SourceOutline.Proofs.Partition

/-!
# More languages

A catalogue can be given more entries after its own (`Catalogue.extended`). A file that has a
language keeps it, since the first entry that lists an ending counts; a file without a language may
get a new one (`Catalogue.Gains`). So a filter that asks for no new language lets the same files
through, the same of them are within a limit, and the groups of the old languages stay what they
are, in their order (`Discovery.without_grouped`).
-/

namespace SourceOutline

namespace Catalogue

/-- The catalogue with more entries after its own. -/
def extended (catalogue : Catalogue) (more : List LanguageEntry) : Catalogue :=
  { catalogue with entries := catalogue.entries ++ more }

/-- The entries are those of languages that the catalogue does not have. Like its own entries, they
have lists of endings. -/
structure Additional (catalogue : Catalogue) (more : List LanguageEntry) : Prop where
  listed : ∀ entry ∈ catalogue.entries, ∃ endings, entry.extensions = .list endings
  listedMore : ∀ entry ∈ more, ∃ endings, entry.extensions = .list endings
  new : ∀ entry ∈ more, entry.name ∉ catalogue.entries.map (·.name)

/-- A language stays what it is; where there was none, there may be one of the entries. -/
inductive Gains (more : List LanguageEntry) : Option String → Option String → Prop
  /-- Nothing changes. -/
  | same (found : Option String) : Gains more found found
  /-- A new language is found. -/
  | found {entry : LanguageEntry} (h : entry ∈ more) : Gains more none (some entry.name)

namespace Gains

variable {more : List LanguageEntry} {before after : Option String} {p : String → Bool}

/-- What holds of no new language holds as before. -/
theorem any_eq (h : Gains more before after) (hnew : ∀ entry ∈ more, p entry.name = false) :
    after.any p = before.any p := by
  cases h with
  | same => rfl
  | found hentry => exact hnew _ hentry

/-- Where the language is not the same, it is a new one. -/
theorem filter_cases (h : Gains more before after) (p : String → Bool) :
    after.filter p = before.filter p ∨ before.filter p = none ∧
      ∀ language, after.filter p = some language → language ∈ more.map (·.name) := by
  cases h with
  | same => exact .inl rfl
  | found hentry =>
    refine .inr ⟨rfl, ?_⟩
    intro language hlanguage
    obtain ⟨hfound, -⟩ := Option.filter_eq_some_iff.1 hlanguage
    exact Option.some.inj hfound ▸ List.mem_map_of_mem hentry

end Gains

section Extended

variable {entries more : List LanguageEntry} {ending : String}

/-- The entries that come first win. -/
theorem firstWith_append {found : Option String} (h : firstWith ending entries = .ok found) :
    firstWith ending (entries ++ more) =
      found.elim (firstWith ending more) fun language => .ok (some language) := by
  induction entries with
  | nil =>
    obtain rfl := Except.ok.inj h
    rfl
  | cons entry rest ih =>
    rw [firstWith] at h
    obtain ⟨listed, hlisted, h⟩ := except_bind_eq_ok.1 h
    rw [List.cons_append, firstWith, hlisted]
    cases listed with
    | true =>
      obtain rfl := Except.ok.inj h
      rfl
    | false => exact ih h

end Extended

variable {catalogue : Catalogue} {more : List LanguageEntry}

/-- What becomes of the language of a file. -/
theorem Additional.languageOf (h : catalogue.Additional more) (path : Path) :
    ∃ before after, catalogue.languageOf path = .ok before ∧
      (catalogue.extended more).languageOf path = .ok after ∧ Gains more before after := by
  obtain ⟨before, hbefore⟩ := firstWith_total h.listed
  obtain ⟨new, hnew⟩ := firstWith_total h.listedMore
  have hafter : firstWith (ending path) (catalogue.entries ++ more) = _ :=
    firstWith_append hbefore
  cases before with
  | some language => exact ⟨_, _, hbefore, hafter, .same _⟩
  | none =>
    refine ⟨none, new, hbefore, hafter.trans hnew, ?_⟩
    cases new with
    | none => exact .same none
    | some language =>
      obtain ⟨entry, hentry, rfl⟩ := exists_entry_of_firstWith hnew
      exact .found hentry

/-- The fields of a document that come after the others add their entries. -/
theorem ofDocument_append {fields added : List (String × Json)}
    (h : ∀ field ∈ added, field.1 ∉ reservedNames) :
    ofDocument (.table (fields ++ added)) =
      (ofDocument (.table fields)).map (·.extended (added.filterMap entryOfField?)) := by
  have hlookup (key : String) (hkey : key ∈ reservedNames) :
      (fields ++ added).lookup key = fields.lookup key := by
    have hnone : added.lookup key = none := by
      rw [List.lookup_eq_none_iff]
      intro field hfield
      have hne : key ≠ field.1 := by
        rintro rfl
        exact h field hfield hkey
      simpa using hne
    rw [List.lookup_append, hnone, Option.or_none]
  simp only [ofDocument, Except.map, extended, List.filterMap_append]
  rw [hlookup "build_files" (by decide), hlookup "ignore_patterns" (by decide)]

end Catalogue

open Catalogue (Gains)

/-- Two sessions in the same place, the second with more entries in its catalogue. -/
structure Session.Extends (before after : Session) (more : List LanguageEntry) : Prop where
  disk : after.world.disk = before.world.disk
  git : after.world.git = before.world.git
  catalogue : ∃ c, before.currentCatalogue = .ok c ∧
    after.currentCatalogue = .ok (c.extended more) ∧ c.Additional more

section Extends

variable {s t : Session} {more : List LanguageEntry}

theorem Session.Extends.openly (h : Session.Extends s t more) :
    Session.Extends s.openly t.openly more := by
  obtain ⟨c, hs, ht, hc⟩ := h.catalogue
  exact ⟨h.disk, h.git, c, Session.currentCatalogue_openly hs, Session.currentCatalogue_openly ht,
    hc⟩

theorem Session.Extends.detected (h : Session.Extends s t more) (path : Path) :
    ∃ before after, s.detected path = .ok before ∧ t.detected path = .ok after ∧
      Gains more before after := by
  obtain ⟨c, hs, ht, hc⟩ := h.catalogue
  obtain ⟨before, after, hbefore, hafter, hgains⟩ := hc.languageOf path
  exact ⟨before, after, (Session.detected_eq hs path).trans hbefore,
    (Session.detected_eq ht path).trans hafter, hgains⟩

theorem Session.Extends.language? (h : Session.Extends s t more) (path : Path) :
    Gains more (s.language? path) (t.language? path) := by
  obtain ⟨before, after, hbefore, hafter, hgains⟩ := h.detected path
  rw [Session.language?, Session.language?, hbefore, hafter]
  exact hgains

/-- A language that was there before is not one of the new ones. -/
theorem Session.Extends.old (h : Session.Extends s t more) {path : Path} {language : String}
    (hlanguage : s.language? path = some language) : language ∉ more.map (·.name) := by
  obtain ⟨c, hs, -, hc⟩ := h.catalogue
  obtain ⟨c', hc', hfound⟩ := except_bind_eq_ok.1 (Session.language?_eq_some_iff.1 hlanguage)
  obtain rfl := Except.ok.inj (hs.symm.trans hc')
  obtain ⟨entry, hentry, rfl⟩ := Catalogue.exists_entry_of_firstWith hfound
  rw [List.mem_map]
  rintro ⟨other, hother, hname⟩
  exact hc.new other hother (hname ▸ List.mem_map_of_mem hentry)

namespace Discovery

/-! ## What is found -/

/-- The same files are found, as the patterns of files that are left out are the same. -/
theorem discover_extends (hs : s.Lenient) (ht : t.Lenient) (h : Session.Extends s t more)
    (repository : Path) (includeIgnored : Bool) :
    (discover repository includeIgnored t).1 = (discover repository includeIgnored s).1 := by
  obtain ⟨c, hbefore, hafter, -⟩ := h.catalogue
  have hdiskFiles (location : Path) : (diskFiles location t).1 = (diskFiles location s).1 := by
    rw [(yields_diskFiles location).of_lenient ht, (yields_diskFiles location).of_lenient hs,
      hbefore, hafter, h.disk]
    rfl
  rw [(yields_discover repository includeIgnored).of_lenient ht,
    (yields_discover repository includeIgnored).of_lenient hs]
  simp only [(yields_requireRepository _).of_lenient ht, (yields_requireRepository _).of_lenient hs,
    (yields_trackedFiles _ _).of_lenient ht, (yields_trackedFiles _ _).of_lenient hs, h.disk, h.git,
    hdiskFiles]

theorem repositoryInfo_extends (h : Session.Extends s t more) (repository : Path) :
    repositoryInfo t.world repository = repositoryInfo s.world repository := by
  rw [repositoryInfo, repositoryInfo, h.disk, h.git]

/-! ## What gets through -/

/-- The filter lets all files through, or it asks for none of the languages. -/
def Passes (f : LanguageFilter) (more : List LanguageEntry) : Prop :=
  f.isOff = true ∨ ∀ entry ∈ more, f.holds entry.name = false

theorem chosen_extends (h : Session.Extends s t more) {f : LanguageFilter} (hf : Passes f more)
    (files : List Path) : chosen t f files = chosen s f files := by
  rw [chosen, chosen]
  split
  · rfl
  · next hon =>
    have hnew := hf.resolve_left hon
    -- A file with a new language does not get through, like one without a language.
    exact List.filter_congr fun path _ => (h.language? path).any_eq hnew

/-- Files that can be filtered before can be filtered afterwards, with the same result. -/
theorem wantedFiles_extends (ht : t.Lenient) (h : Session.Extends s t more) {f : LanguageFilter}
    (hf : Passes f more) {files wanted : List Path}
    (hwanted : (wantedFiles f files s).1 = .ok wanted) :
    (wantedFiles f files t).1 = .ok wanted := by
  obtain ⟨hadmits, rfl⟩ := wantedFiles_fst_eq_ok hwanted
  rw [← chosen_extends h hf files]
  refine wantedFiles_of_admitted ht fun hon path hpath => ?_
  obtain ⟨admitted, hadmitted⟩ := hadmits hon path hpath
  obtain ⟨before, after, hbefore, hafter, hgains⟩ := h.detected path
  rw [hbefore] at hadmitted
  rw [hafter]
  cases hgains with
  | same => exact ⟨admitted, hadmitted⟩
  | found hentry =>
    cases f with
    | names languages => exact ⟨_, rfl⟩
    | within text => cases hadmitted

/-- With a list of languages, filtering never fails. -/
theorem wantedFiles_total (hs : s.Lenient) (h : Session.Extends s t more)
    (languages : List String) (files : List Path) :
    ∃ wanted, (wantedFiles (.names languages) files s).1 = .ok wanted := by
  refine ⟨_, wantedFiles_of_admitted hs fun _ path _ => ?_⟩
  obtain ⟨before, -, hbefore, -, -⟩ := h.detected path
  rw [hbefore]
  cases before with
  | none => exact ⟨_, rfl⟩
  | some language => exact ⟨_, rfl⟩

theorem limitFiles_total (limit : Option Int) (files : List Path) :
    ∃ kept, Run.Yields (limitFiles limit files) fun _ => .ok kept := by
  cases limit with
  | none => exact ⟨files, .pure files⟩
  | some limit =>
    rw [limitFiles]
    split
    · have hsay := Run.yields_say ("Limited to " ++ toString limit ++ " files")
        (by exact .ofList rfl)
      exact ⟨_, hsay.bind fun _ => .pure (limited limit files)⟩
    · exact ⟨files, .pure files⟩

/-! ## Groups -/

/-- The groups of languages other than these. -/
def without (languages : List String) (groups : FileGroups) : FileGroups :=
  groups.filter fun group => !languages.contains group.1

theorem without_addToGroup {languages : List String} {language : String} (path : Path)
    (groups : FileGroups) :
    without languages (addToGroup language path groups) =
      if language ∈ languages then without languages groups
      else addToGroup language path (without languages groups) := by
  induction groups with
  | nil =>
    by_cases h : language ∈ languages
    · simp [without, addToGroup, h]
    · simp [without, addToGroup, h]
  | cons group rest ih =>
    obtain ⟨other, paths⟩ := group
    simp only [without, List.contains_eq_mem] at ih
    rw [addToGroup]
    by_cases hother : other = language
    · subst hother
      by_cases h : other ∈ languages
      · simp [without, h]
      · simp [without, addToGroup, h]
    · by_cases hold : other ∈ languages
      · simp [without, hother, hold, ih]
      · by_cases h : language ∈ languages
        · simp [without, hother, hold, ih, h]
        · simp [without, hother, hold, ih, h, addToGroup]

/-- The groups of the old languages are made as before. -/
theorem without_grouped {label label' : Path → Option String} {languages : List String}
    (h : ∀ path, label' path = label path ∨ label path = none ∧ ∀ language,
      label' path = some language → language ∈ languages)
    (hold : ∀ path language, label path = some language → language ∉ languages)
    (groups : FileGroups) (files : List Path) :
    without languages (grouped label' groups files) =
      grouped label (without languages groups) files := by
  induction files generalizing groups with
  | nil => rfl
  | cons path rest ih =>
    rw [grouped, grouped]
    rcases h path with hsame | ⟨hnone, hnew⟩
    · rw [hsame]
      cases hlabel : label path with
      | none => exact ih groups
      | some language =>
        dsimp only
        rw [ih, without_addToGroup, if_neg (hold path language hlabel)]
    · rw [hnone]
      cases hlabel : label' path with
      | none => exact ih groups
      | some language =>
        dsimp only
        rw [ih, without_addToGroup, if_pos (hnew language hlabel)]

theorem groupOf?_eq (session : Session) (path : Path) :
    session.groupOf? path = (session.language? path).filter (!·.isEmpty) := rfl

theorem grouped_extends (h : Session.Extends s t more) (files : List Path) :
    without (more.map (·.name)) (grouped t.groupOf? [] files) = grouped s.groupOf? [] files := by
  refine without_grouped (fun path => ?_) (fun path language hlanguage => ?_) [] files
  · rw [groupOf?_eq, groupOf?_eq]
    exact (h.language? path).filter_cases _
  · rw [groupOf?_eq] at hlanguage
    exact h.old (Option.filter_eq_some_iff.1 hlanguage).1

end Discovery

/-- The scan with the groups of some languages left out. -/
def Scan.without (scan : Scan) (languages : List String) : Scan :=
  { scan with
    groups := Discovery.without languages scan.groups
    languageCounts := scan.languageCounts.filter fun count => !languages.contains count.1 }

namespace Discovery

theorem without_account (disk : Disk) (info : RepositoryInfo) (files : List Path)
    (groups : FileGroups) (languages : List String) :
    (account disk info files groups).without languages =
      account disk info files (without languages groups) := by
  simp only [Scan.without, account, without, List.filter_map, Function.comp_def]

/-! ## The scan -/

/-- Where the same files get through a filter, the scans differ in the groups of the new languages
only. -/
theorem scan_without {repository : Path} {f : LanguageFilter} {includeIgnored : Bool}
    (hs : s.Lenient) (ht : t.Lenient) (h : Session.Extends s t more) (limit : Option Int)
    (hwanted : ∀ found, (discover repository includeIgnored s).1 = .ok found →
      (wantedFiles f found t).1 = (wantedFiles f found s).1) :
    (scan repository f limit includeIgnored t).1.map (·.without (more.map (·.name))) =
      (scan repository f limit includeIgnored s).1 := by
  rw [(yields_scan repository f limit includeIgnored).of_lenient ht,
    (yields_scan repository f limit includeIgnored).of_lenient hs, repositoryInfo_extends h,
    discover_extends hs ht h]
  rcases (repositoryInfo s.world repository).mapError Fault.disk with fault | info
  · rfl
  rcases hfound : (discover repository includeIgnored s).1 with fault | found
  · rfl
  change Except.map _ ((wantedFiles f found t).1 >>= _) = (wantedFiles f found s).1 >>= _
  rw [hwanted found hfound]
  rcases (wantedFiles f found s).1 with fault | wanted
  · rfl
  obtain ⟨kept, hkept⟩ := limitFiles_total limit wanted
  change Except.map _ ((limitFiles limit wanted t).1 >>= _) = (limitFiles limit wanted s).1 >>= _
  rw [hkept.of_lenient ht, hkept.of_lenient hs]
  have hbefore := groupFiles_of_detected hs fun path (_ : path ∈ kept) =>
    (h.detected path).imp fun _ ⟨_, hbefore, _⟩ => hbefore
  have hafter := groupFiles_of_detected ht fun path (_ : path ∈ kept) =>
    (h.detected path).elim fun _ ⟨after, _, hafter, _⟩ => ⟨after, hafter⟩
  change Except.map _ ((groupFiles ([], []) kept t).1 >>= _) =
    (groupFiles ([], []) kept s).1 >>= _
  rw [hbefore, hafter, h.disk]
  change Except.ok ((account _ info kept _).without _) = Except.ok (account _ info kept _)
  rw [without_account, grouped_extends h]

/-- A scan with a result has filtered its files, and a filter that asks for no new language then
lets the same files through. -/
theorem scan_gains {repository : Path} {f : LanguageFilter} {includeIgnored : Bool}
    (hs : s.Lenient) (ht : t.Lenient) (h : Session.Extends s t more) (hf : Passes f more)
    {limit : Option Int} {result : Scan}
    (hresult : (scan repository f limit includeIgnored s).1 = .ok result) :
    ∃ result', (scan repository f limit includeIgnored t).1 = .ok result' ∧
      result'.without (more.map (·.name)) = result := by
  have hwanted : ∀ found, (discover repository includeIgnored s).1 = .ok found →
      (wantedFiles f found t).1 = (wantedFiles f found s).1 := by
    intro found hfound
    have hscan := (yields_scan repository f limit includeIgnored).sound s result hresult
    obtain ⟨_, -, hscan⟩ := except_bind_eq_ok.1 hscan
    obtain ⟨found', hfound', hscan⟩ := except_bind_eq_ok.1 hscan
    obtain rfl := Except.ok.inj (hfound.symm.trans hfound')
    obtain ⟨wanted, hwanted, -⟩ := except_bind_eq_ok.1 hscan
    rw [hwanted, wantedFiles_extends ht h hf hwanted]
  have hsame := scan_without hs ht h limit hwanted
  rw [hresult] at hsame
  exact except_map_eq_ok.1 hsame

/-- A scan with a result has the same result when all notices are shown. -/
theorem scan_openly {repository : Path} {f : LanguageFilter} {limit : Option Int}
    {includeIgnored : Bool} {result : Scan}
    (h : (scan repository f limit includeIgnored s).1 = .ok result) :
    (scan repository f limit includeIgnored s.openly).1 = .ok result := by
  obtain ⟨_, hopen, -⟩ := Run.Installs.openly_of_ok
    (looks_scan repository f limit includeIgnored).mono (Prod.ext h rfl)
  rw [hopen]

/-- More languages in a catalogue change nothing for the old ones. A file keeps the language that it
has. A scan that asks for no new language gives what it gave before, and beside it groups of new
languages. Where no notice is refused, there is such a scan when there was one before. With a list
of languages, or without a filter, it then also fails as it did before; a filter that looks for
languages in a text may refuse a file without a language, and then no longer does. -/
theorem scan_conserved (h : Session.Extends s t more) (repository : Path) (limit : Option Int)
    (includeIgnored : Bool) :
    (∀ path language, (Run.languageOf path s).1 = .ok (some language) →
      (Run.languageOf path t).1 = .ok (some language)) ∧
    (∀ languages : List String, (∀ entry ∈ more, entry.name ∉ languages) →
      (scan repository (.names languages) limit includeIgnored).Unrefused s →
      (scan repository (.names languages) limit includeIgnored).Unrefused t →
      (scan repository (.names languages) limit includeIgnored t).1.map
          (·.without (more.map (·.name))) =
        (scan repository (.names languages) limit includeIgnored s).1) ∧
    ∀ f, Passes f more → ∀ result, (scan repository f limit includeIgnored s).1 = .ok result →
      ((scan repository f limit includeIgnored).Unrefused t →
        ∃ result', (scan repository f limit includeIgnored t).1 = .ok result') ∧
      ∀ result', (scan repository f limit includeIgnored t).1 = .ok result' →
        result'.without (more.map (·.name)) = result := by
  refine ⟨?_, ?_, ?_⟩
  · intro path language hlanguage
    rw [Run.languageOf_fst] at hlanguage ⊢
    obtain ⟨before, after, hbefore, hafter, hgains⟩ := h.detected path
    obtain rfl := Except.ok.inj (hbefore.symm.trans hlanguage)
    cases hgains
    exact hafter
  · intro languages hnew hshown hshown'
    have hf : Passes (.names languages) more := .inr fun entry hentry => by
      simpa [LanguageFilter.holds] using hnew entry hentry
    rw [(looks_scan repository _ limit includeIgnored).apply_eq hshown,
      (looks_scan repository _ limit includeIgnored).apply_eq hshown']
    refine scan_without s.lenient_openly t.lenient_openly h.openly limit fun found _ => ?_
    obtain ⟨wanted, hwanted⟩ := wantedFiles_total s.lenient_openly h.openly languages found
    rw [hwanted, wantedFiles_extends t.lenient_openly h.openly hf hwanted]
  · intro f hf result hresult
    obtain ⟨gained, hgained, hwithout⟩ := scan_gains s.lenient_openly t.lenient_openly h.openly hf
      (scan_openly hresult)
    constructor
    · intro hshown
      rw [(looks_scan repository f limit includeIgnored).apply_eq hshown]
      exact ⟨gained, hgained⟩
    · intro result' hresult'
      obtain rfl := Except.ok.inj (hgained.symm.trans (scan_openly hresult'))
      exact hwithout

end Discovery

end Extends

/-! ### A language that shares an ending with an old one -/

namespace Discovery

namespace Header

/-- A language with its endings, as a field of a catalogue document. -/
def field (name : String) (endings : List String) : String × Json :=
  (name, .table [("extensions", .texts endings)])

/-- The languages before. -/
def old : List (String × Json) := [field "c" [".c", ".h"], field "python" [".py"]]

/-- One more language, which also asks for headers. -/
def added : List (String × Json) := [field "cpp" [".cpp", ".h"]]

/-- A session beside a repository with four files, with the catalogue of a document. -/
def session (fields : List (String × Json)) : Session := .start {
  disk := {
    tree := .folder [("w", .folder [("r", .folder
      [("a.cpp", .file ⟨#[]⟩), ("b.h", .file ⟨#[]⟩), ("c.py", .file ⟨#[]⟩),
        ("d.c", .file ⟨#[]⟩)])])]
    here := .ofString "/w" }
  git := { files := .ok ⟨0, "a.cpp\nb.h\nc.py\nd.c\n", "", []⟩ }
  packages := []
  answers := []
  modules := []
  console := .lenient
  parserProblem? := fun _ => some "no parser"
  parsed := []
  catalogue := .document (.table fields) }

theorem extends_session :
    Session.Extends (session old) (session (old ++ added)) (added.filterMap
      Catalogue.entryOfField?) where
  disk := rfl
  git := rfl
  catalogue := by
    have hlisted (endings : List String) (name : String) :
        ∃ items, (LanguageEntry.ofFields name [("extensions", .texts endings)]).extensions =
          .list items := ⟨_, rfl⟩
    refine ⟨_, rfl, Catalogue.ofDocument_append (by decide), ?_, ?_, by decide⟩
    · intro entry hentry
      obtain rfl | rfl := List.mem_pair.1 hentry
      · exact hlisted [".c", ".h"] "c"
      · exact hlisted [".py"] "python"
    · intro entry hentry
      obtain rfl := List.mem_singleton.1 hentry
      exact hlisted [".cpp", ".h"] "cpp"

/-- The first three files with the new language, one of which is of this language. -/
theorem scan_groups :
    (scan (.ofString "r") (.names []) (some 3) false (session (old ++ added))).1.toOption.map
        (·.groups) =
      some [("cpp", [.ofString "/w/r/a.cpp"]), ("c", [.ofString "/w/r/b.h"]),
        ("python", [.ofString "/w/r/c.py"])] := by
  decide +kernel

end Header

theorem scan_conserved_header :
    Session.Extends (Header.session Header.old) (Header.session (Header.old ++ Header.added))
      (Header.added.filterMap Catalogue.entryOfField?) ∧
    ∃ result, (scan (.ofString "r") (.names []) (some 3) false
        (Header.session Header.old)).1 = .ok result ∧
      result.groups = [("c", [.ofString "/w/r/b.h"]), ("python", [.ofString "/w/r/c.py"])] := by
  obtain ⟨-, hscan, -⟩ := scan_conserved Header.extends_session (.ofString "r") (some 3) false
  have hsame := hscan [] (by simp) (Run.unrefused_of_lenient _ rfl)
    (Run.unrefused_of_lenient _ rfl)
  have hgroups := Header.scan_groups
  refine ⟨Header.extends_session, ?_⟩
  rcases hafter : (scan (.ofString "r") (.names []) (some 3) false
      (Header.session (Header.old ++ Header.added))).1 with fault | result
  · rw [hafter] at hgroups
    cases hgroups
  · rw [hafter] at hgroups hsame
    have hresult : result.groups = _ := Option.some.inj hgroups
    refine ⟨_, hsame.symm, ?_⟩
    change without _ result.groups = _
    rw [hresult]
    decide +kernel

end Discovery

end SourceOutline
