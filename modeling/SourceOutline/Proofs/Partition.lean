import Mathlib.Algebra.Order.Ring.Int
import Mathlib.Data.List.Induction
import SourceOutline.Proofs.Console
import SourceOutline.Proofs.Scan
import SourceOutline.Proofs.Views

/-!
# Files by their languages

A scan takes the files that are found, keeps those of the languages that are asked for, limits their
number and groups them. Each of these steps asks for the language of files and may fail at a file,
but none changes what the next one is told about a file. So the outcome of a scan is put together
from what is known at its start: which files are found, and the language of each
(`Discovery.scan_fst_eq_ok`).

When every language has a name, the groups are the kept files by language, a group for each language
in the order in which the languages first occur (`Discovery.grouped_eq`).
-/

namespace SourceOutline

/-! ## The language of a file -/

/-- Every language that the session knows has a name. -/
def Session.Named (session : Session) : Prop :=
  ∀ c, session.currentCatalogue = .ok c → ∀ entry ∈ c.entries, entry.name ≠ ""

/-- Where the catalogue cannot be read there are no languages. -/
theorem Session.Named.openly {s : Session} (h : s.Named) : s.openly.Named := by
  intro c hc
  have hloaded : s.openly.catalogue = s.catalogue := rfl
  have hsource : s.openly.world.catalogue = s.world.catalogue := rfl
  rw [Named] at h
  simp only [currentCatalogue] at h
  rw [currentCatalogue, hloaded, hsource] at hc
  rcases hcatalogue : s.catalogue with _ | loaded
  · rcases hopened : Run.openCatalogue s.world.catalogue with fault | reason | opened
    · rw [hcatalogue, hopened] at hc
      cases hc
    · rw [hcatalogue, hopened] at hc
      obtain ⟨_, -, rfl⟩ := except_map_eq_ok.1 hc
      exact List.forall_mem_nil _
    · rw [hcatalogue, hopened] at h hc
      exact h c hc
  · rw [hcatalogue] at h hc
    exact h c hc

/-- A file has the language of an entry. -/
theorem Catalogue.exists_entry_of_firstWith {ending language : String}
    {entries : List LanguageEntry} (h : firstWith ending entries = .ok (some language)) :
    ∃ entry ∈ entries, entry.name = language := by
  induction entries with
  | nil => cases h
  | cons entry rest ih =>
    rw [firstWith, except_bind_eq_ok] at h
    obtain ⟨listed, -, h⟩ := h
    split at h
    · exact ⟨entry, List.mem_cons_self, Option.some.inj (Except.ok.inj h)⟩
    · obtain ⟨other, hother, hname⟩ := ih h
      exact ⟨other, List.mem_cons_of_mem _ hother, hname⟩

/-- Among lists of endings, looking for one never fails. -/
theorem Catalogue.firstWith_total {ending : String} {entries : List LanguageEntry}
    (h : ∀ entry ∈ entries, ∃ endings, entry.extensions = .list endings) :
    ∃ found, firstWith ending entries = .ok found := by
  induction entries with
  | nil => exact ⟨none, rfl⟩
  | cons entry rest ih =>
    obtain ⟨⟨endings, hentry⟩, hrest⟩ := List.forall_mem_cons.1 h
    obtain ⟨listed, hlisted⟩ : ∃ listed, entry.extensions.holds ending = .ok listed := by
      rw [hentry]
      exact ⟨_, rfl⟩
    rw [firstWith, hlisted]
    -- The search ends here, or it goes on in the rest.
    cases listed with
    | true => exact ⟨some entry.name, rfl⟩
    | false => exact ih hrest

theorem Session.detected_eq {s : Session} {c : Catalogue} (h : s.currentCatalogue = .ok c)
    (path : Path) : s.detected path = c.languageOf path := by
  rw [detected, h]
  rfl

theorem Session.language?_eq_some_iff {s : Session} {path : Path} {language : String} :
    s.language? path = some language ↔ s.detected path = .ok (some language) := by
  rw [language?]
  rcases s.detected path with fault | found
  · simp [Except.toOption]
  · simp [Except.toOption]

theorem Session.ne_empty_of_language? {s : Session} (hnamed : s.Named) {path : Path}
    {language : String} (h : s.language? path = some language) : language ≠ "" := by
  obtain ⟨c, hc, hlanguage⟩ := except_bind_eq_ok.1 (language?_eq_some_iff.1 h)
  obtain ⟨entry, hentry, rfl⟩ := Catalogue.exists_entry_of_firstWith hlanguage
  exact hnamed c hc entry hentry

/-- With named languages, files are grouped by their languages. -/
theorem Session.groupOf?_of_named {s : Session} (hnamed : s.Named) :
    s.groupOf? = s.language? := by
  funext path
  have hgroup : s.groupOf? path = (s.language? path).filter (!·.isEmpty) := rfl
  rw [hgroup]
  cases hlanguage : s.language? path with
  | none => rfl
  | some language =>
    have hne := ne_empty_of_language? hnamed hlanguage
    exact Option.filter_some_pos (by simpa using hne)

namespace LanguageFilter

/-- Whether a language is asked for. -/
def holds : LanguageFilter → String → Bool
  | .names languages, language => languages.contains language
  | .within text, language => Text.contains text language

theorem admits_eq_ok {f : LanguageFilter} {language : Option String} {admitted : Bool}
    (h : f.admits language = .ok admitted) : admitted = language.any f.holds := by
  cases f with
  | names languages =>
    cases language with
    | none => exact (Except.ok.inj h).symm
    | some language => exact (Except.ok.inj h).symm
  | within text =>
    cases language with
    | none => cases h
    | some language => exact (Except.ok.inj h).symm

end LanguageFilter

namespace Discovery

/-! ## Filtering -/

/-- The files of the languages that are asked for; all files when the filter is off. -/
def chosen (session : Session) (f : LanguageFilter) (files : List Path) : List Path :=
  if f.isOff then files else files.filter fun path => (session.language? path).any f.holds

/-- Filtering asks for the language of each file, and whether it is asked for. -/
theorem yields_filterFiles (f : LanguageFilter) (files : List Path) :
    Run.Yields (filterFiles f files) fun s =>
      (askAll (fun path => s.detected path >>= f.admits) files).map fun _ =>
        files.filter fun path => (s.language? path).any f.holds := by
  induction files with
  | nil => exact .pure _
  | cons path rest ih =>
    have hstep := (Run.yields_languageOf path).bind fun found =>
      (Run.Yields.ofExcept (f.admits found)).bind fun admitted => ih.bind fun more =>
        .pure (if admitted then path :: more else more)
    refine hstep.congr fun s => ?_
    rw [askAll]
    rcases hfound : s.detected path with fault | found
    · rfl
    have hlanguage : s.language? path = found := by
      rw [Session.language?, hfound]
      rfl
    rw [List.filter_cons, hlanguage]
    change f.admits found >>= _ = ((f.admits found >>= fun _ => _) : Except Fault Unit).map _
    rcases hadmits : f.admits found with fault | admitted
    · rfl
    rw [← LanguageFilter.admits_eq_ok hadmits]
    change (Except.map _ (askAll _ rest)) >>= _ = (askAll _ rest).map _
    rcases askAll (fun path => s.detected path >>= f.admits) rest with fault | _
    · rfl
    · rfl

theorem yields_wantedFiles (f : LanguageFilter) (files : List Path) :
    Run.Yields (wantedFiles f files) fun s =>
      if f.isOff then .ok files else (filterFiles f files s).1 := by
  rw [wantedFiles]
  split
  · exact .pure files
  · have hfilter := (looks_filterFiles f files).yields.bind fun wanted =>
      (Run.yields_say ("Filtered to " ++ toString wanted.length ++ " files for languages: " ++
        f.label) (by exact .ofList rfl)).bind fun _ => .pure wanted
    refine hfilter.congr fun s => ?_
    rcases (filterFiles f files s).1 with fault | wanted
    · rfl
    · rfl

section Wanted

variable {f : LanguageFilter} {files wanted : List Path} {s : Session}

theorem wantedFiles_fst_eq_ok (h : (wantedFiles f files s).1 = .ok wanted) :
    (f.isOff = false → ∀ path ∈ files,
      ∃ admitted, s.detected path >>= f.admits = .ok admitted) ∧ chosen s f files = wanted := by
  have h := (yields_wantedFiles f files).sound s wanted h
  rw [chosen]
  cases hoff : f.isOff with
  | true =>
    rw [hoff] at h
    exact ⟨nofun, Except.ok.inj h⟩
  | false =>
    rw [hoff] at h
    obtain ⟨_, hall, hwanted⟩ := except_map_eq_ok.1 ((yields_filterFiles f files).sound s wanted h)
    exact ⟨fun _ => askAll_eq_ok_iff.1 hall, hwanted⟩

theorem wantedFiles_of_admitted (hs : s.Lenient)
    (h : f.isOff = false → ∀ path ∈ files,
      ∃ admitted, s.detected path >>= f.admits = .ok admitted) :
    (wantedFiles f files s).1 = .ok (chosen s f files) := by
  rw [(yields_wantedFiles f files).of_lenient hs, chosen]
  cases hoff : f.isOff with
  | true => rfl
  | false =>
    rw [if_neg Bool.false_ne_true, if_neg Bool.false_ne_true,
      (yields_filterFiles f files).of_lenient hs, askAll_eq_ok_iff.2 (h hoff)]
    rfl

end Wanted

/-! ## Limiting -/

/-- The first items, as many as the limit says; all of them when it is zero or there is none. -/
def upTo {α : Type} (limit : Option Nat) (items : List α) : List α :=
  match limit with
  | none | some 0 => items
  | some limit => items.take limit

theorem yields_limitFiles (limit : Option Nat) (files : List Path) :
    Run.Yields (limitFiles (limit.map Int.ofNat) files) fun _ => .ok (upTo limit files) := by
  cases limit with
  | none => exact .pure files
  | some limit =>
    rw [Option.map_some, limitFiles]
    split
    · next h =>
      have hcut : limited (Int.ofNat limit) files = files.take limit :=
        if_neg (Int.not_lt.2 (Int.natCast_nonneg limit))
      have hsay := Run.yields_say ("Limited to " ++ toString (Int.ofNat limit) ++ " files")
        (by exact .ofList rfl)
      cases limit with
      | zero => exact absurd rfl h.1
      | succ limit =>
        rw [hcut]
        exact hsay.bind fun _ => .pure _
    · next h =>
      cases limit with
      | zero => exact .pure files
      | succ limit =>
        have hlength : files.length ≤ limit + 1 := by
          simp only [Int.ofNat_eq_natCast] at h
          omega
        have hall : upTo (some (limit + 1)) files = files := List.take_of_length_le hlength
        rw [hall]
        exact .pure files

/-! ## Grouping -/

/-- Puts every file into a group of its label, the groups in the order in which the labels first
occur. -/
def byLabel (label : Path → Option String) (files : List Path) : FileGroups :=
  (files.filterMap label).eraseDups.map fun language =>
    (language, files.filter (label · == some language))

section Label

variable {label : Path → Option String}

theorem grouped_append (groups : FileGroups) (files more : List Path) :
    grouped label groups (files ++ more) = grouped label (grouped label groups files) more := by
  induction files generalizing groups with
  | nil => rfl
  | cons path rest ih =>
    rw [List.cons_append, grouped, grouped]
    cases label path with
    | none => exact ih _
    | some language => exact ih _

/-- A file is added to the group of its label, or is the first one in a new group. -/
theorem addToGroup_map {language : String} {languages : List String} (hnodup : languages.Nodup)
    (path : Path) (members : String → List Path) :
    addToGroup language path (languages.map fun other => (other, members other)) =
      if language ∈ languages then languages.map fun other =>
        (other, if other = language then members other ++ [path] else members other)
      else languages.map (fun other => (other, members other)) ++ [(language, [path])] := by
  induction languages with
  | nil => rfl
  | cons first rest ih =>
    obtain ⟨hfirst, hrest⟩ := List.nodup_cons.1 hnodup
    rw [List.map_cons, addToGroup]
    by_cases heq : first = language
    · subst heq
      have hsame : rest.map (fun other =>
          (other, if other = first then members other ++ [path] else members other)) =
          rest.map fun other => (other, members other) := by
        refine List.map_congr_left fun other hother => ?_
        rw [if_neg fun h : other = first => hfirst (h ▸ hother)]
      rw [if_pos (beq_self_eq_true first), if_pos List.mem_cons_self, List.map_cons, if_pos rfl,
        hsame]
    · have hmem : language ∈ first :: rest ↔ language ∈ rest := by
        rw [List.mem_cons, or_iff_right (Ne.symm heq)]
      rw [if_neg (by simpa using heq), ih hrest, List.map_cons, if_neg heq]
      simp only [hmem]
      split
      · rfl
      · rfl

theorem eraseDups_concat (words : List String) (word : String) :
    (words ++ [word]).eraseDups =
      if word ∈ words then words.eraseDups else words.eraseDups ++ [word] := by
  rw [List.eraseDups_append]
  by_cases h : word ∈ words
  · simp [List.removeAll, h]
  · simp [List.removeAll, h, List.eraseDups_cons]

theorem filter_concat {path : Path} {language : String} (h : label path = some language)
    (files : List Path) (other : String) :
    (files ++ [path]).filter (label · == some other) =
      if other = language then files.filter (label · == some other) ++ [path]
      else files.filter (label · == some other) := by
  rw [List.filter_append, List.filter_singleton, h]
  by_cases heq : other = language
  · simp [heq]
  · have hne : (language == other) = false := by simpa using Ne.symm heq
    simp [heq, hne]

/-- The groups of files are made in the order in which their labels first occur. -/
theorem grouped_eq (files : List Path) : grouped label [] files = byLabel label files := by
  induction files using List.reverseRecOn with
  | nil => rfl
  | append_singleton files path ih =>
    rw [grouped_append, ih, grouped]
    cases hlabel : label path with
    | none => simp [grouped, byLabel, List.filter_append, hlabel]
    | some language =>
      have hlast : [path].filterMap label = [language] := by
        simp [hlabel]
      have hnodup := Outline.nodup_eraseDups (files.filterMap label)
      dsimp only [grouped]
      rw [byLabel, addToGroup_map hnodup, byLabel, List.filterMap_append, hlast, eraseDups_concat]
      simp only [filter_concat hlabel, List.mem_eraseDups]
      split
      · rfl
      · next hnew =>
        -- No file before has the label.
        have hnone : files.filter (label · == some language) = [] := by
          rw [List.filter_eq_nil_iff]
          intro other hother heq
          exact hnew (List.mem_filterMap.2 ⟨other, hother, by simpa using heq⟩)
        rw [List.map_append, List.map_singleton, if_pos rfl, hnone, List.nil_append]
        refine congrArg (· ++ _) (List.map_congr_left fun other hother => ?_)
        rw [if_neg]
        rintro rfl
        exact hnew (List.mem_eraseDups.1 hother)

theorem length_members (groups : FileGroups) :
    (members groups).length = (groups.map fun group => group.2.length).sum := by
  induction groups with
  | nil => rfl
  | cons group rest ih =>
    rw [List.map_cons, List.sum_cons, ← ih, members, List.flatMap_cons, List.length_append,
      List.length_map]
    rfl

/-- Every file is in a group or has no label. -/
theorem total_byLabel (files : List Path) :
    ((byLabel label files).map fun group => group.2.length).sum +
      (files.filter fun path => (label path).isNone).length = files.length := by
  rw [← grouped_eq, ← length_members, (members_grouped_perm [] files).length_eq]
  change (files.filterMap fun path => (label path).map (·, path)).length + _ = _
  induction files with
  | nil => rfl
  | cons path rest ih =>
    rw [List.filterMap_cons, List.filter_cons, List.length_cons, ← ih]
    cases label path with
    | none => exact (Nat.add_assoc _ _ 1).symm
    | some language => exact Nat.add_right_comm _ 1 _

end Label

/-! ## The outcome of a scan -/

section Scan

variable {repository : Path} {f : LanguageFilter} {limit : Option Nat} {includeIgnored : Bool}
  {s : Session}

/-- The repository is there and its files are found. Where a filter asks for the language of a file,
it can be told, and so can the languages of the files that are kept. -/
structure Scannable (repository : Path) (f : LanguageFilter) (limit : Option Nat)
    (includeIgnored : Bool) (s : Session) (info : RepositoryInfo) (found : List Path) : Prop where
  info_eq : repositoryInfo s.world repository = .ok info
  found_eq : (discover repository includeIgnored s).1 = .ok found
  admitted : f.isOff = false → ∀ path ∈ found,
    ∃ admitted, s.detected path >>= f.admits = .ok admitted
  detected : ∀ path ∈ upTo limit (chosen s f found), ∃ language, s.detected path = .ok language

theorem scan_fst_eq_ok {result : Scan}
    (h : (scan repository f (limit.map Int.ofNat) includeIgnored s).1 = .ok result) :
    ∃ info found, Scannable repository f limit includeIgnored s info found ∧
      result = account s.world.disk info (upTo limit (chosen s f found))
        (grouped s.groupOf? [] (upTo limit (chosen s f found))) := by
  have h := (yields_scan repository f _ includeIgnored).sound s result h
  obtain ⟨info, hinfo, h⟩ := except_bind_eq_ok.1 h
  obtain ⟨found, hfound, h⟩ := except_bind_eq_ok.1 h
  obtain ⟨wanted, hwanted, h⟩ := except_bind_eq_ok.1 h
  obtain ⟨hadmits, rfl⟩ := wantedFiles_fst_eq_ok hwanted
  obtain ⟨files, hfiles, h⟩ := except_bind_eq_ok.1 h
  obtain rfl := Except.ok.inj ((yields_limitFiles limit _).sound s files hfiles)
  obtain ⟨sorted, hsorted, h⟩ := except_bind_eq_ok.1 h
  obtain ⟨hdetected, rfl⟩ := groupFiles_fst_eq_ok hsorted
  exact ⟨info, found, ⟨except_mapError_eq_ok.1 hinfo, hfound, hadmits, hdetected⟩,
    (Except.ok.inj h).symm⟩

theorem Scannable.scan_fst {info : RepositoryInfo} {found : List Path}
    (h : Scannable repository f limit includeIgnored s info found) (hs : s.Lenient) :
    (scan repository f (limit.map Int.ofNat) includeIgnored s).1 =
      .ok (account s.world.disk info (upTo limit (chosen s f found))
        (grouped s.groupOf? [] (upTo limit (chosen s f found)))) := by
  rw [(yields_scan repository f _ includeIgnored).of_lenient hs, except_bind_eq_ok]
  refine ⟨info, except_mapError_eq_ok.2 h.info_eq, ?_⟩
  rw [h.found_eq]
  change (wantedFiles f found s).1 >>= _ = _
  rw [wantedFiles_of_admitted hs h.admitted]
  change (limitFiles _ (chosen s f found) s).1 >>= _ = _
  rw [(yields_limitFiles limit _).of_lenient hs]
  change (groupFiles ([], []) (upTo limit (chosen s f found)) s).1 >>= _ = _
  rw [groupFiles_of_detected hs h.detected]
  rfl

/-- Languages are told from the catalogue, unless there are no files. -/
theorem Scannable.eq_nil_or_exists_catalogue {info : RepositoryInfo} {found : List Path}
    (h : Scannable repository f limit includeIgnored s info found) :
    found = [] ∨ ∃ c, s.currentCatalogue = .ok c := by
  cases found with
  | nil => exact .inl rfl
  | cons path rest =>
    right
    cases hoff : f.isOff with
    | false =>
      obtain ⟨_, hadmitted⟩ := h.admitted hoff path List.mem_cons_self
      obtain ⟨_, hdetected, -⟩ := except_bind_eq_ok.1 hadmitted
      obtain ⟨c, hc, -⟩ := except_bind_eq_ok.1 hdetected
      exact ⟨c, hc⟩
    | true =>
      have hkept : path ∈ upTo limit (chosen s f (path :: rest)) := by
        rw [chosen, hoff, if_pos rfl]
        rcases limit with _ | _ | limit
        · exact List.mem_cons_self
        · exact List.mem_cons_self
        · exact List.mem_cons_self
      obtain ⟨_, hdetected⟩ := h.detected path hkept
      obtain ⟨c, hc, -⟩ := except_bind_eq_ok.1 hdetected
      exact ⟨c, hc⟩

/-- What can be scanned can be scanned when all notices are shown. -/
theorem Scannable.openly {info : RepositoryInfo} {found : List Path}
    (h : Scannable repository f limit includeIgnored s info found) :
    Scannable repository f limit includeIgnored s.openly info found := by
  have hfound : (discover repository includeIgnored s.openly).1 = .ok found := by
    obtain ⟨t, ht, -⟩ := Run.Installs.openly_of_ok (looks_discover repository includeIgnored).mono
      (Prod.ext h.found_eq rfl)
    rw [ht]
  rcases h.eq_nil_or_exists_catalogue with rfl | ⟨c, hc⟩
  · have hnil (r : Session) : upTo limit (chosen r f []) = [] := by
      rw [chosen, List.filter_nil, ite_self]
      rcases limit with _ | _ | limit <;> rfl
    refine ⟨h.info_eq, hfound, fun _ => List.forall_mem_nil _, ?_⟩
    rw [hnil]
    exact List.forall_mem_nil _
  · have hsame : s.openly.detected = s.detected := by
      funext path
      rw [Session.detected_eq hc, Session.detected_eq (Session.currentCatalogue_openly hc)]
    have hchosen : chosen s.openly f found = chosen s f found := by
      simp only [chosen, Session.language?, hsame]
    refine ⟨h.info_eq, hfound, ?_, ?_⟩
    · rw [hsame]
      exact h.admitted
    · rw [hsame, hchosen]
      exact h.detected

end Scan

/-! ## Nothing is lost -/

/-- How the files of a scan are made from those that are found. -/
structure Partitioned (session : Session) (f : LanguageFilter) (limit : Option Nat)
    (found : List Path) (result : Scan) : Prop where
  /-- The files are the first of those that are asked for. -/
  files : result.files = upTo limit (chosen session f found)
  /-- There is a group for each language, in the order in which the languages first occur, and the
  files of a language keep their order. -/
  groups : result.groups = byLabel session.language? result.files
  /-- The groups are counted. -/
  counts : result.languageCounts = result.groups.map fun group => (group.1, group.2.length)
  /-- A file is counted in one group, or it has no language. -/
  complete : (result.languageCounts.map (·.2)).sum +
    (result.files.filter fun path => (session.language? path).isNone).length = result.totalFiles
  /-- With a filter every file has a language, and all languages are asked for. -/
  filtered : f.isOff = false →
    (∀ path ∈ result.files, ∃ language, session.language? path = some language) ∧
      ∀ group ∈ result.groups, f.holds group.1 = true

theorem upTo_subset {α : Type} (limit : Option Nat) (items : List α) :
    upTo limit items ⊆ items := by
  rcases limit with _ | _ | limit
  · exact List.Subset.refl _
  · exact List.Subset.refl _
  · exact List.take_subset _ _

theorem mem_chosen {s : Session} {f : LanguageFilter} (h : f.isOff = false) {files : List Path}
    {path : Path} (hpath : path ∈ chosen s f files) :
    ∃ language, s.language? path = some language ∧ f.holds language = true := by
  rw [chosen, h, if_neg Bool.false_ne_true, List.mem_filter, Option.any_eq_true] at hpath
  exact hpath.2

theorem exists_of_mem_byLabel {label : Path → Option String} {files : List Path}
    {group : String × List Path} (h : group ∈ byLabel label files) :
    ∃ path ∈ files, label path = some group.1 := by
  obtain ⟨language, hlanguage, rfl⟩ := List.mem_map.1 h
  exact List.mem_filterMap.1 (List.mem_eraseDups.1 hlanguage)

theorem partitioned_account {s : Session} (hnamed : s.Named) (f : LanguageFilter)
    (limit : Option Nat) (found : List Path) (info : RepositoryInfo) :
    Partitioned s f limit found (account s.world.disk info (upTo limit (chosen s f found))
      (grouped s.groupOf? [] (upTo limit (chosen s f found)))) := by
  have hgroups : grouped s.groupOf? [] (upTo limit (chosen s f found)) =
      byLabel s.language? (upTo limit (chosen s f found)) := by
    rw [grouped_eq, Session.groupOf?_of_named hnamed]
  rw [hgroups]
  refine ⟨rfl, rfl, rfl, ?_, fun hon => ⟨fun path hpath => ?_, fun group hgroup => ?_⟩⟩
  · simp only [account, List.map_map, Function.comp_def]
    exact total_byLabel _
  · obtain ⟨language, hlanguage, -⟩ := mem_chosen hon (upTo_subset limit _ hpath)
    exact ⟨language, hlanguage⟩
  · obtain ⟨path, hpath, hlabel⟩ := exists_of_mem_byLabel hgroup
    obtain ⟨language, hlanguage, hholds⟩ := mem_chosen hon (upTo_subset limit _ hpath)
    rw [hlabel] at hlanguage
    rw [Option.some.inj hlanguage]
    exact hholds

/-- The files of one language that a filter lets through are the group of this language. -/
theorem byLanguage_eq_group {s : Session} (hs : s.Lenient) (hnamed : s.Named) (paths : List Path)
    (language : String) :
    (byLanguage (.names [language]) paths s).1 =
      (classify paths s).1.map fun sorted => (sorted.1.lookup language).getD [] := by
  have hon : (LanguageFilter.names [language]).isOff = false := rfl
  have hask : askAll (fun path => s.detected path >>= (LanguageFilter.names [language]).admits)
      paths = askAll s.detected paths := by
    refine askAll_congr (fun path => ?_) paths
    rcases s.detected path with fault | found | found <;> rfl
  have hfilter (path : Path) : (s.language? path).any (LanguageFilter.names [language]).holds =
      (s.language? path == some language) := by
    cases s.language? path with
    | none => rfl
    | some found => exact Bool.eq_iff_iff.2 (by simp [LanguageFilter.holds])
  rw [byLanguage, hon, if_neg Bool.false_ne_true, (yields_filterFiles _ paths).of_lenient hs, hask,
    (yields_classify paths).of_lenient hs, (yields_groupFiles paths ([], [])).of_lenient hs]
  cases askAll s.detected paths with
  | error fault => rfl
  | ok _ =>
    simp only [Except.map, hfilter, Session.groupOf?_of_named hnamed, lookup_grouped]
    rfl

/-- A scan filters, limits and groups files and loses none on the way. When every language has a
name: all of the files that are found and asked for are in the result, up to the limit, each in the
group of its language. Where no notice is refused, the scan succeeds exactly when the repository and
its files are found and the language of each file that is looked at, and a file is in the group of a
language exactly when the filter for the language lets it through. -/
theorem scan_partitions {s : Session} (hnamed : s.Named) (repository : Path) (f : LanguageFilter)
    (limit : Option Nat) (includeIgnored : Bool) :
    ((scan repository f (limit.map Int.ofNat) includeIgnored).Unrefused s →
      ((∃ result, (scan repository f (limit.map Int.ofNat) includeIgnored s).1 = .ok result) ↔
        (∃ info, repositoryInfo s.world repository = .ok info) ∧
        ∃ found, (discover repository includeIgnored s).1 = .ok found ∧
          (f.isOff = false → ∀ path ∈ found,
            ∃ admitted, s.detected path >>= f.admits = .ok admitted) ∧
          ∀ path ∈ upTo limit (chosen s f found), ∃ language, s.detected path = .ok language)) ∧
    (∀ result, (scan repository f (limit.map Int.ofNat) includeIgnored s).1 = .ok result →
      ∃ found, (discover repository includeIgnored s).1 = .ok found ∧
        Partitioned s f limit found result) ∧
    ∀ paths language, (byLanguage (.names [language]) paths).Unrefused s →
      (classify paths).Unrefused s →
      (byLanguage (.names [language]) paths s).1 =
        (classify paths s).1.map fun sorted => (sorted.1.lookup language).getD [] := by
  refine ⟨fun hshown => ⟨?_, ?_⟩, ?_, ?_⟩
  · rintro ⟨result, hresult⟩
    obtain ⟨info, found, h, -⟩ := scan_fst_eq_ok hresult
    exact ⟨⟨info, h.info_eq⟩, found, h.found_eq, h.admitted, h.detected⟩
  · rintro ⟨⟨info, hinfo⟩, found, hfound, hadmits, hdetected⟩
    have h : Scannable repository f limit includeIgnored s info found :=
      ⟨hinfo, hfound, hadmits, hdetected⟩
    rw [(looks_scan repository f _ includeIgnored).apply_eq hshown]
    exact ⟨_, h.openly.scan_fst s.lenient_openly⟩
  · intro result hresult
    obtain ⟨info, found, h, rfl⟩ := scan_fst_eq_ok hresult
    exact ⟨found, h.found_eq, partitioned_account hnamed f limit found info⟩
  · intro paths language hfilter hgroups
    rw [(looks_byLanguage _ paths).apply_eq hfilter, (looks_classify paths).apply_eq hgroups]
    exact byLanguage_eq_group s.lenient_openly hnamed.openly paths language

/-! ### A repository with two languages -/

namespace Mixed

/-- A session beside a repository with three files, one of which has no language; git lists one file
twice. -/
def session : Session := .start {
  disk := {
    tree := .folder [("w", .folder [("r", .folder
      [("a.py", .file ⟨#[]⟩), ("b.js", .file ⟨#[]⟩), ("c", .file ⟨#[]⟩)])])]
    here := .ofString "/w" }
  git := { files := .ok ⟨0, "a.py\nc\nb.js\na.py\n", "", []⟩ }
  packages := []
  answers := []
  modules := []
  console := .lenient
  parserProblem? := fun _ => some "no parser"
  parsed := []
  catalogue := .standard }

theorem named : session.Named := by
  intro c hc
  have hnames : ∀ entry ∈ Catalogue.standard.entries, entry.name ≠ "" := by decide +kernel
  obtain rfl : Catalogue.standard = c := Except.ok.inj hc
  exact hnames

/-- What is scanned when two languages are asked for and two files are enough. -/
theorem scan_files :
    (scan (.ofString "r") (.names ["javascript", "python"]) ((some 2).map Int.ofNat) false
      session).1.toOption.map (fun result => (result.files, result.languageCounts)) =
      some ([.ofString "/w/r/a.py", .ofString "/w/r/b.js"],
        [("python", 1), ("javascript", 1)]) := by
  decide +kernel

end Mixed

theorem scan_partitions_mixed :
    Mixed.session.Named ∧ ∃ result found,
      (scan (.ofString "r") (.names ["javascript", "python"]) ((some 2).map Int.ofNat) false
        Mixed.session).1 = .ok result ∧
      (discover (.ofString "r") false Mixed.session).1 = .ok found ∧
      Partitioned Mixed.session (.names ["javascript", "python"]) (some 2) found result ∧
      result.files = [.ofString "/w/r/a.py", .ofString "/w/r/b.js"] ∧
      result.languageCounts = [("python", 1), ("javascript", 1)] := by
  have hfiles := Mixed.scan_files
  obtain ⟨-, hpartitioned, -⟩ := scan_partitions Mixed.named (.ofString "r")
    (.names ["javascript", "python"]) (some 2) false
  refine ⟨Mixed.named, ?_⟩
  rcases hscan : (scan (.ofString "r") (.names ["javascript", "python"])
      ((some 2).map Int.ofNat) false Mixed.session).1 with fault | result
  · rw [hscan] at hfiles
    cases hfiles
  · rw [hscan] at hfiles
    obtain ⟨found, hfound, h⟩ := hpartitioned result hscan
    obtain ⟨hkept, hcounts⟩ := Prod.mk.inj (Option.some.inj hfiles)
    exact ⟨result, found, rfl, hfound, h, hkept, hcounts⟩

end Discovery

end SourceOutline
