import SourceOutline.Proofs.Survey

/-!
# Language support in a summary

A survey looks for the files of a repository twice. The scan finds the files that get into the
summary; the dialogue about packages looks at the endings of the files that it sees
(`Support.seenFiles`). A language of the summary has a key in the map of the dialogue exactly when
a file of it was also seen. The two agree when git lists files, one to a line and without blanks
around them, of which one is there, and when git gives no listing and the repository is spelled so
that it can be followed on the disk (`Survey.Agrees`). They part when git lists nothing that is
there: the scan then goes to the disk, and the dialogue does not.
-/

namespace SourceOutline

/-! ## The ending of a path -/

/-- The last name of a path does not depend on where the path is seen from. -/
theorem Path.name_join {p q : Path} (h : q.parts ≠ []) : (p.join q).name = q.name := by
  obtain ⟨anchor, parts⟩ := q
  cases anchor with
  | here =>
    change (p.parts ++ parts).getLast?.getD "" = parts.getLast?.getD ""
    rw [List.getLast?_append_of_ne_nil _ h]
  | root => rfl
  | doubleRoot => rfl

/-- A path without names leads back to where it is seen from, or starts at the root. -/
theorem Path.join_eq_of_parts {p q : Path} (h : q.parts = []) : p.join q = p ∨ p.join q = q := by
  obtain ⟨anchor, parts⟩ := q
  cases anchor with
  | here =>
    left
    change Path.mk p.anchor (p.parts ++ parts) = p
    rw [show parts = [] from h, List.append_nil]
  | root => exact .inr rfl
  | doubleRoot => exact .inr rfl

theorem Catalogue.ending_join {p q : Path} (h : q.parts ≠ []) : ending (p.join q) = ending q := by
  rw [ending, ending, Path.suffix, Path.suffix, Path.name_join h]

/-- Files with the same ending are in the same group. -/
theorem Session.groupOf?_eq_of_ending {session : Session} {p q : Path}
    (h : Catalogue.ending p = Catalogue.ending q) : session.groupOf? p = session.groupOf? q := by
  have hlanguage (c : Catalogue) : c.languageOf p = c.languageOf q := by
    rw [Catalogue.languageOf, Catalogue.languageOf, h]
  simp only [groupOf?, hlanguage]

theorem Session.groupOf?_eq_some_iff {session : Session} {catalogue : Catalogue} {path : Path}
    {language : String} (h : session.currentCatalogue = .ok catalogue) :
    session.groupOf? path = some language ↔
      catalogue.languageOf path = .ok (some language) ∧ language ≠ "" := by
  have hgroup : session.groupOf? path =
      ((catalogue.languageOf path).toOption.join).filter (!·.isEmpty) := by
    rw [groupOf?, h]
    rfl
  rw [hgroup, Option.filter_eq_some_iff]
  refine and_congr ?_ (by simp)
  rcases catalogue.languageOf path with fault | found
  · simp [Except.toOption]
  · simp [Except.toOption]

/-! ## Files below a folder -/

mutual

/-- What is below an entry is reached by at least one name. -/
theorem Entry.ne_nil_of_mem_descendants {names way : List String} {found : Entry} :
    (entry : Entry) → (way, found) ∈ entry.descendants names → way ≠ []
  | .file _, h => by cases h
  | .folder entries, h => by
    rw [Entry.descendants, List.mem_append, List.mem_map] at h
    rcases h with ⟨⟨name, e⟩, -, heq⟩ | h
    · rw [← (Prod.mk.inj heq).1]
      exact List.append_ne_nil_of_right_ne_nil _ (List.cons_ne_nil _ _)
    · exact Entry.ne_nil_of_mem_descendantsEach entries h

theorem Entry.ne_nil_of_mem_descendantsEach {names way : List String} {found : Entry} :
    (entries : List (String × Entry)) → (way, found) ∈ Entry.descendantsEach names entries →
      way ≠ []
  | [], h => by cases h
  | (name, e) :: rest, h => by
    rw [Entry.descendantsEach, List.mem_append] at h
    rcases h with h | h
    · exact Entry.ne_nil_of_mem_descendants e h
    · exact Entry.ne_nil_of_mem_descendantsEach rest h

end

/-- The files in an entry, by the names that lead to them, in the order in which they are met. -/
def Entry.files (content : Entry) : List (List String) :=
  ((content.descendants []).filter (·.2.isFile)).map (·.1)

theorem Entry.ne_nil_of_mem_files {content : Entry} {names : List String}
    (h : names ∈ content.files) : names ≠ [] := by
  obtain ⟨⟨names, found⟩, hfound, rfl⟩ := List.mem_map.1 h
  exact ne_nil_of_mem_descendants content (List.mem_filter.1 hfound).1

/-- The paths of all entries in a folder are short enough, as they are spelled from a path on. -/
def Entry.Within (content : Entry) (path : Path) : Prop :=
  ∀ found ∈ content.descendants [], (path.join (.ofNames found.1)).fits = true

/-- The files below a folder are told when all paths are short enough. -/
theorem Disk.filesBelow_of_entryAt {disk : Disk} {path : Path} {content : Entry} {files : List Path}
    (h : disk.entryAt path = .ok (some content)) :
    disk.filesBelow path = .ok files ↔ content.Within path ∧
      (content.files.map fun names => path.join (.ofNames names)) = files := by
  have hentries : disk.entriesBelow path =
      .ok ((content.descendants []).map fun found => (path.join (.ofNames found.1), found.2)) := by
    rw [entriesBelow, h]
    rfl
  have hfits : (∀ found ∈ (content.descendants []).map fun found =>
      (path.join (.ofNames found.1), found.2), found.1.fits = true) ↔ content.Within path :=
    List.forall_mem_map
  rw [filesBelow_eq_ok_iff, hentries]
  constructor
  · rintro ⟨entries, heq, hshort, rfl⟩
    obtain rfl := Except.ok.inj heq
    have hall := refuseLong_eq_ok_iff.1 hshort
    refine ⟨hfits.1 hall, ?_⟩
    rw [filesMet_of_fits hall, List.filter_map, List.map_map, Entry.files, List.map_map]
    rfl
  · rintro ⟨hwithin, rfl⟩
    have hall := hfits.2 hwithin
    refine ⟨_, rfl, refuseLong_eq_ok_iff.2 hall, ?_⟩
    rw [filesMet_of_fits hall, List.filter_map, List.map_map, Entry.files, List.map_map]
    rfl

/-- Below two spellings of a folder there are the same files, so their endings are the same. -/
theorem Disk.exists_ending_of_entryAt_eq {disk : Disk} {p q : Path} {files others : List Path}
    (hentry : disk.entryAt p = disk.entryAt q) (hfiles : disk.filesBelow q = .ok files)
    (hothers : disk.filesBelow p = .ok others) {path : Path} (hpath : path ∈ files) :
    ∃ other ∈ others, Catalogue.ending other = Catalogue.ending path := by
  rcases hq : disk.entryAt q with fault | _ | content
  · rw [filesBelow, entriesBelow, hq] at hfiles
    cases hfiles
  · rw [filesBelow, entriesBelow, hq] at hfiles
    cases hfiles
    cases hpath
  · obtain ⟨-, rfl⟩ := (filesBelow_of_entryAt hq).1 hfiles
    obtain ⟨-, rfl⟩ := (filesBelow_of_entryAt (hentry.trans hq)).1 hothers
    obtain ⟨names, hnames, rfl⟩ := List.mem_map.1 hpath
    have hne : names ≠ [] := Entry.ne_nil_of_mem_files hnames
    refine ⟨p.join (.ofNames names), List.mem_map.2 ⟨names, hnames, rfl⟩, ?_⟩
    rw [Catalogue.ending_join hne, Catalogue.ending_join hne]

namespace Survey

/-- What git answers and how the repository is spelled lead the scan and the dialogue to files with
the same endings. -/
inductive Agrees (world : World) (repository : Path) : Prop
  /-- Git lists files, and one of them is there. -/
  | listed {answer : CommandAnswer} {path : Path} (success : world.git.files = .ok answer)
    (code : answer.code = 0)
    (clean : ∀ line ∈ Text.lines (Text.trim answer.output), Text.trim line = line)
    (mem : path ∈ Discovery.listedPaths (Path.resolve world.disk.here repository) answer.output)
    (present : world.disk.hasFile path = .ok true)
    (folder : world.disk.hasFile (Path.resolve world.disk.here repository) = .ok false) :
    Agrees world repository
  /-- Git gives no listing, and the repository is where its spelling leads. -/
  | unlisted (failure : ∀ answer, world.git.files = .ok answer → answer.code ≠ 0)
    (spelled : world.disk.entryAt repository =
      world.disk.entryAt (Path.resolve world.disk.here repository)) :
    Agrees world repository

/-- A clean line of a listing is seen and found as the same file. -/
theorem exists_ending_of_listed {base path : Path} {output : String}
    (clean : ∀ line ∈ Text.lines (Text.trim output), Text.trim line = line)
    (hpath : path ∈ Discovery.listedPaths base output) (hne : path ≠ base) :
    ∃ seen ∈ Support.listedPaths output, Catalogue.ending seen = Catalogue.ending path := by
  obtain ⟨name, hname, rfl⟩ := List.mem_map.1 hpath
  obtain ⟨hmem, hfilled⟩ := List.mem_filter.1 hname
  obtain ⟨line, hline, rfl⟩ := List.mem_map.1 hmem
  refine ⟨.ofString line, List.mem_map_of_mem (List.mem_filter.2 ⟨hline, hfilled⟩), ?_⟩
  rw [clean line hline] at hne ⊢
  -- A line without names stands for the repository itself.
  by_cases hparts : (Path.ofString line).parts = []
  · rcases Path.join_eq_of_parts hparts with hbase | hline
    · exact absurd hbase hne
    · rw [hline]
  · rw [Catalogue.ending_join hparts]

theorem exists_ending_of_found {session : Session} {repository path : Path} {found : List Path}
    (hagrees : Agrees session.world repository)
    (hreached : (∀ answer, session.world.git.files = .ok answer → answer.code ≠ 0) →
      ∃ files, session.world.disk.filesBelow repository = .ok files)
    (hfound : (Discovery.discover repository false session).1 = .ok found) (hpath : path ∈ found) :
    ∃ seen ∈ Support.seenFiles session.world.git session.world.disk repository,
      Catalogue.ending seen = Catalogue.ending path := by
  have hdiscover : Discovery.discover repository false session = (.ok found, _) :=
    Prod.ext hfound rfl
  rw [Support.seenFiles]
  cases hagrees with
  | listed success code clean mem present folder =>
    rw [success]
    dsimp only
    rw [if_pos code]
    rcases Discovery.discover_eq_ok hdiscover with ⟨answer, hgit, -, -, hfiles⟩ | ⟨hnone, -⟩
    · obtain rfl := Except.ok.inj (success.symm.trans hgit)
      obtain ⟨hmem, hpresent⟩ := (Discovery.mem_presentFiles hfiles).1 hpath
      refine exists_ending_of_listed clean hmem ?_
      rintro rfl
      rw [folder] at hpresent
      cases hpresent
    · -- A listed file is there, so the scan does not go to the disk.
      have hlisted := (Discovery.mem_presentFiles (hnone _ success code)).2 ⟨mem, present⟩
      cases hlisted
  | unlisted failure spelled =>
    rcases Discovery.discover_eq_ok hdiscover with
      ⟨answer, hgit, hcode, -⟩ | ⟨-, -, files, hfiles, hsub⟩
    · exact absurd hcode (failure answer hgit)
    · obtain ⟨others, hothers⟩ := hreached failure
      have hseen := Disk.exists_ending_of_entryAt_eq spelled hfiles hothers (hsub hpath)
      rw [hothers]
      rcases hgit : session.world.git.files with stop | answer
      · exact hseen
      · dsimp only
        rw [if_neg (failure answer hgit)]
        exact hseen

/-! ## What the summary tells -/

theorem lookup_map_of_mem {groups : FileGroups} {language : String} {path : Path}
    (value : String → Bool) (h : (language, path) ∈ Discovery.members groups) :
    (groups.map fun (language, _) => (language, value language)).lookup language =
      some (value language) := by
  induction groups with
  | nil => cases h
  | cons group rest ih =>
    rw [List.map_cons, List.lookup_cons]
    by_cases hname : language = group.1
    · subst hname
      simp
    · have hne : (language == group.1) = false := by simpa using hname
      rw [hne]
      refine ih ?_
      rcases List.mem_append.1 h with hgroup | hrest
      · obtain ⟨other, -, heq⟩ := List.mem_map.1 hgroup
        exact absurd (Prod.mk.inj heq).1.symm hname
      · exact hrest

theorem supported_eq_true_iff {languages : List (String × LanguageSupport)} {language : String} :
    supported languages language = true ↔
      ∃ support, languages.lookup language = some support ∧ support.parserAvailable = true := by
  rw [supported]
  cases languages.lookup language with
  | none => simp
  | some support => simp

/-- A file of the language is among those that the dialogue sees. -/
def Seen (session : Session) (repository : Path) (language : String) : Prop :=
  ∃ path ∈ Support.seenFiles session.world.git session.world.disk repository,
    session.groupOf? path = some language

/-- With the standard catalogue, a language of the summary has a key in the map of the dialogue
exactly when a file of it was seen. It is told to be supported when its module can be imported at
the end of the dialogue and it has a key. -/
theorem run_supports_iff_seen {repository : Path} {f : LanguageFilter} {limit budget : Option Int}
    {session after : Session} {summary : Summary}
    (hcatalogue : session.currentCatalogue = .ok .standard)
    (h : run repository f limit budget session = (.ok summary, after)) :
    ∃ scan scanned languages offered,
      Discovery.scan repository f limit false session = (.ok scan, scanned) ∧
      Support.offer repository scanned = (.ok languages, offered) ∧
      ∀ path ∈ scan.files, ∀ language, session.groupOf? path = some language →
        ((languages.lookup language).isSome ↔ Seen session repository language) ∧
        (∃ told, summary.supportedLanguages.lookup language = some told ∧
          (told = true ↔ Seen session repository language ∧
            Support.Importable .standard offered.world.modules language)) ∧
        (Agrees session.world repository → Seen session repository language) := by
  obtain ⟨scan, scanned, languages, offered, filed, progress, s₃, s₄, s₅, hscan, hscanned, hoffer,
    -, -, -, rfl⟩ := run_eq_ok h
  refine ⟨scan, scanned, languages, offered, hscan, hoffer, fun path hpath language hgroup => ?_⟩
  have hscan := Discovery.scanned_of_scan hscan
  have horderly := Catalogue.orderly_standard
  obtain ⟨hlanguage, hne⟩ := (Session.groupOf?_eq_some_iff hcatalogue).1 hgroup
  obtain ⟨entry, hentry, rfl, -⟩ := horderly.languageOf_eq_some_iff.1 hlanguage
  have hcatalogue' : scanned.currentCatalogue = .ok .standard :=
    (Session.currentCatalogue_eq_of_situation hscanned).trans hcatalogue
  obtain ⟨hkey, hsupport⟩ := Support.offer_lookup horderly hcatalogue' hoffer hentry
  have hseen : (languages.lookup entry.name).isSome ↔ Seen session repository entry.name := by
    rw [hkey, Session.world_eq_of_situation hscanned]
    simp only [Seen, Session.groupOf?_eq_some_iff hcatalogue, hne, ne_eq, not_false_eq_true,
      and_true]
  refine ⟨hseen, ⟨supported languages entry.name, ?_, ?_⟩, ?_⟩
  · have hmember : (entry.name, path) ∈ Discovery.members scan.groups := by
      rw [hscan.groups, Discovery.mem_members_grouped]
      exact ⟨hpath, hgroup⟩
    exact lookup_map_of_mem (supported languages) hmember
  · rw [supported_eq_true_iff, ← hseen]
    constructor
    · rintro ⟨support, hfound, htrue⟩
      exact ⟨by rw [hfound]; rfl, (hsupport support hfound).1 htrue⟩
    · rintro ⟨hsome, himportable⟩
      obtain ⟨support, hfound⟩ := Option.isSome_iff_exists.1 hsome
      exact ⟨support, hfound, (hsupport support hfound).2 himportable⟩
  · intro hagrees
    obtain ⟨found, hfound, hsub⟩ := hscan.found
    have hreached := Support.filesBelow_of_offer hoffer
    rw [Session.world_eq_of_situation hscanned] at hreached
    obtain ⟨seen, hmem, hending⟩ := exists_ending_of_found hagrees hreached hfound (hsub hpath)
    exact ⟨seen, hmem, (Session.groupOf?_eq_of_ending hending).trans hgroup⟩

namespace Listing

/-- A session in the folder of a repository with one file, whose module is installed; git lists the
tracked files as the text says. -/
def session (output : String) : Session := .start {
  disk := {
    tree := .folder [("w", .folder [("r", .folder [("a.py", .file ⟨#[]⟩)])])]
    here := .ofString "/w" }
  git := { files := .ok ⟨0, output, "", []⟩ }
  packages := []
  answers := []
  modules := ["tree_sitter_python"]
  console := .lenient
  parserProblem? := fun language => if language = "python" then none else some "no parser"
  parsed := []
  catalogue := .standard }

/-- The repository. -/
def repository : Path := .ofString "r"

/-- The file of the repository. -/
def file : Path := .ofString "/w/r/a.py"

theorem run_tells :
    (run repository (.names []) none (some 25) (session "a.py\n")).1.toOption.any
      (·.supportedLanguages.lookup "python" == some true) = true := by
  decide +kernel

theorem scan_files :
    (Discovery.scan repository (.names []) none false (session "a.py\n")).1.toOption.map (·.files) =
      some [file] := by
  decide +kernel

theorem groupOf?_file : (session "a.py\n").groupOf? file = some "python" := by decide +kernel

end Listing

theorem run_supports_iff_seen_listing :
    ∃ summary scan languages,
      (run Listing.repository (.names []) none (some 25) (Listing.session "a.py\n")).1 =
        .ok summary ∧
      (Discovery.scan Listing.repository (.names []) none false (Listing.session "a.py\n")).1 =
        .ok scan ∧
      Listing.file ∈ scan.files ∧
      (∃ scanned offered, Support.offer Listing.repository scanned = (.ok languages, offered) ∧
        Support.Importable .standard offered.world.modules "python") ∧
      (languages.lookup "python").isSome ∧
      summary.supportedLanguages.lookup "python" = some true := by
  have htells := Listing.run_tells
  have hfiles := Listing.scan_files
  rcases h : run Listing.repository (.names []) none (some 25) (Listing.session "a.py\n")
    with ⟨fault | summary, after⟩
  · rw [h] at htells
    cases htells
  · have hcatalogue : (Listing.session "a.py\n").currentCatalogue = .ok .standard := rfl
    obtain ⟨scan, scanned, languages, offered, hscan, hoffer, hall⟩ :=
      run_supports_iff_seen hcatalogue h
    rw [hscan] at hfiles
    have hscanFiles : scan.files = [Listing.file] := Option.some.inj hfiles
    have hmem : Listing.file ∈ scan.files := hscanFiles ▸ List.mem_cons_self
    obtain ⟨hkey, ⟨told, hlookup, htold⟩, -⟩ := hall _ hmem "python" Listing.groupOf?_file
    have htrue : summary.supportedLanguages.lookup "python" = some true := by
      rw [h] at htells
      simpa [Except.toOption] using htells
    obtain rfl : told = true := Option.some.inj (hlookup.symm.trans htrue)
    obtain ⟨hseen, himportable⟩ := htold.1 rfl
    exact ⟨summary, scan, languages, rfl, congrArg Prod.fst hscan, hmem,
      ⟨scanned, offered, hoffer, himportable⟩, hkey.2 hseen, htrue⟩

/-- When git lists nothing, the scan finds the file on the disk, but the dialogue does not see it.
The map is empty, and the language is told not to be supported although its module is there. -/
theorem run_overlooks_unlisted_language :
    (Discovery.scan Listing.repository (.names []) none false (Listing.session "")).1.toOption.map
        (fun scan => (scan.files, scan.groups)) =
      some ([Listing.file], [("python", [Listing.file])]) ∧
    ((Discovery.scan Listing.repository (.names []) none false >>= fun _ =>
      Support.offer Listing.repository) (Listing.session "")).1.toOption = some [] ∧
    (run Listing.repository (.names []) none (some 25) (Listing.session "")).1.toOption.map
        (·.supportedLanguages) = some [("python", false)] ∧
    (run Listing.repository (.names []) none (some 25) (Listing.session "")).2.world.modules =
      ["tree_sitter_python"] ∧
    Catalogue.Standard.python.moduleName.toOption = some "tree_sitter_python" := by
  decide +kernel

end Survey

end SourceOutline
