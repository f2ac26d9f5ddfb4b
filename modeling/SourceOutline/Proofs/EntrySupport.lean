import SourceOutline.Proofs.Support

/-!
# The support of the entries of a catalogue

The map of supported languages has a key for each entry that lists one of the endings seen, and
tells whether the module of its package can be imported. With more modules the map stays the same
but for parsers that come with them (`refreshed_ofEntries`).

For the entries of the standard catalogue the map can always be made, once the files are told. The
packages that are missing are those of the languages with files whose module cannot be imported.
-/

namespace SourceOutline

namespace LanguageEntry

/-- Whether the entry lists one of these endings. -/
def isSeen (endings : List String) (entry : LanguageEntry) : Bool :=
  (entry.extensions.elements >>= Json.anyAmong endings).toOption.getD false

/-- Whether the module of the entry's package can be imported. -/
def isImportable (modules : List String) (entry : LanguageEntry) : Bool :=
  entry.moduleName.toOption.any modules.contains

/-- The package that the entry names. -/
def packageName (entry : LanguageEntry) : String :=
  (entry.package.asText "replace").toOption.getD ""

end LanguageEntry

namespace Support

/-- The package has the name of one for parsers. -/
def IsParserPackage (package : String) : Prop := "tree-sitter-".toList <+: package.toList

/-- The entry names a package for parsers. -/
structure Packaged (entry : LanguageEntry) : Prop where
  text : entry.package = .text entry.packageName
  parser : IsParserPackage entry.packageName

/-- The packages of the languages without a parser. -/
def lacking (languages : List (String × LanguageSupport)) : List String :=
  (languages.filter fun p => !p.2.parserAvailable).map (·.2.package)

theorem lacking_cons (p : String × LanguageSupport) (rest : List (String × LanguageSupport)) :
    lacking (p :: rest) =
      (if p.2.parserAvailable then [] else [p.2.package]) ++ lacking rest := by
  rw [lacking, List.filter_cons]
  cases p.2.parserAvailable with
  | true => rfl
  | false => rfl

section Entries

variable {modules endings : List String} {entry : LanguageEntry} {entries : List LanguageEntry}
  {languages : List (String × LanguageSupport)}

theorem ofEntry_cases {support : Option LanguageSupport}
    (h : ofEntry modules endings entry = .ok support) :
    (entry.isSeen endings = false ∧ support = none) ∨
      (entry.isSeen endings = true ∧ ∃ count, countListed entry endings = .ok count ∧
        support = some ⟨true, entry.isImportable modules, entry.packageName, count⟩) := by
  obtain ⟨elements, helements, h⟩ := except_bind_eq_ok.1 h
  obtain ⟨hasFiles, hany, h⟩ := except_bind_eq_ok.1 h
  have hseen : entry.isSeen endings = hasFiles := by
    rw [LanguageEntry.isSeen, except_bind_eq_ok.2 ⟨elements, helements, hany⟩]
    rfl
  cases hasFiles with
  | false =>
    cases h
    exact .inl ⟨hseen, rfl⟩
  | true =>
    obtain ⟨package, hpackage, h⟩ := except_bind_eq_ok.1 h
    obtain ⟨name, hname, h⟩ := except_bind_eq_ok.1 h
    obtain ⟨importable, himportable, h⟩ := except_bind_eq_ok.1 h
    obtain ⟨count, hcount, h⟩ := except_bind_eq_ok.1 h
    refine .inr ⟨hseen, count, hcount, ?_⟩
    rw [canImport] at himportable
    split at himportable
    · cases himportable
    · rw [LanguageEntry.isImportable, LanguageEntry.packageName, hname, hpackage,
        ← Except.ok.inj h, ← Except.ok.inj himportable]
      rfl

/-- The map of some entries is that of the first one and of the others. -/
theorem ofEntries_cons_eq_ok (h : ofEntries modules endings (entry :: entries) = .ok languages) :
    ∃ support more, ofEntry modules endings entry = .ok support ∧
      ofEntries modules endings entries = .ok more ∧
      languages = (support.map ((entry.name, ·))).toList ++ more := by
  obtain ⟨support, hsupport, h⟩ := except_bind_eq_ok.1 h
  obtain ⟨more, hmore, h⟩ := except_bind_eq_ok.1 h
  exact ⟨support, more, hsupport, hmore, (Except.ok.inj h).symm⟩

/-- The map tells what the entries tell. -/
theorem of_mem_ofEntries (h : ofEntries modules endings entries = .ok languages)
    {p : String × LanguageSupport} (hp : p ∈ languages) :
    ∃ entry ∈ entries, ∃ count, entry.isSeen endings = true ∧
      countListed entry endings = .ok count ∧
      p = (entry.name, ⟨true, entry.isImportable modules, entry.packageName, count⟩) := by
  induction entries generalizing languages with
  | nil =>
    cases h
    cases hp
  | cons entry rest ih =>
    obtain ⟨support, more, hsupport, hmore, rfl⟩ := ofEntries_cons_eq_ok h
    rcases List.mem_append.1 hp with hp | hp
    · rcases ofEntry_cases hsupport with ⟨-, rfl⟩ | ⟨hseen, count, hcount, rfl⟩
      · cases hp
      · exact ⟨entry, List.mem_cons_self, count, hseen, hcount, List.mem_singleton.1 hp⟩
    · obtain ⟨other, hother, hfound⟩ := ih hmore hp
      exact ⟨other, List.mem_cons_of_mem _ hother, hfound⟩

theorem hasFiles_ofEntries (h : ofEntries modules endings entries = .ok languages) :
    ∀ p ∈ languages, p.2.hasFiles = true := by
  intro p hp
  obtain ⟨_, _, _, _, _, rfl⟩ := of_mem_ofEntries h hp
  rfl

/-- Among the endings that are seen, those that the entry lists are counted. -/
theorem countListed_eq (hlisted : entry.extensions = .texts entry.endings)
    (endings : List String) :
    countListed entry endings = .ok (endings.filter entry.endings.contains).length := by
  induction endings with
  | nil => rfl
  | cons ending rest ih =>
    rw [countListed, hlisted, Json.holds_texts, ih, List.filter_cons]
    cases entry.endings.contains ending with
    | true => rfl
    | false => rfl

/-- A package for parsers has a module. -/
theorem canImport_moduleName (hpackaged : Packaged entry) (modules : List String) :
    ∃ name, entry.moduleName = .ok name ∧
      canImport modules name = .ok (modules.contains name) := by
  have hname : entry.moduleName =
      .ok (String.ofList (entry.packageName.toList.map fun c => if c = '-' then '_' else c)) := by
    rw [LanguageEntry.moduleName, hpackaged.text]
    rfl
  refine ⟨_, hname, ?_⟩
  obtain ⟨rest, hrest⟩ := hpackaged.parser
  rw [canImport, if_neg]
  simp [← hrest]

/-- Where an entry lists texts and names a package, the support can be told. -/
theorem ofEntry_total (hlisted : entry.extensions = .texts entry.endings)
    (hpackaged : Packaged entry) (modules endings : List String) :
    ∃ support, ofEntry modules endings entry = .ok support := by
  obtain ⟨name, hname, himportable⟩ := canImport_moduleName hpackaged modules
  obtain ⟨count, hcount⟩ : ∃ count, countListed entry endings = .ok count :=
    ⟨_, countListed_eq hlisted endings⟩
  rw [ofEntry, hlisted]
  change ∃ support, (Json.anyAmong endings (entry.endings.map .text) >>= _) = _
  rw [Json.anyAmong_texts]
  cases entry.endings.any endings.contains with
  | false => exact ⟨none, rfl⟩
  | true =>
    refine ⟨some ⟨true, modules.contains name, entry.packageName, count⟩, ?_⟩
    refine except_bind_eq_ok.2 ⟨true, rfl, except_bind_eq_ok.2 ⟨entry.packageName, ?_, ?_⟩⟩
    · rw [hpackaged.text]
      rfl
    · exact except_bind_eq_ok.2 ⟨name, hname, except_bind_eq_ok.2 ⟨_, himportable,
        except_bind_eq_ok.2 ⟨count, hcount, rfl⟩⟩⟩

theorem ofEntries_total (hlisted : ∀ entry ∈ entries, entry.extensions = .texts entry.endings)
    (hpackaged : ∀ entry ∈ entries, Packaged entry) (modules endings : List String) :
    ∃ languages, ofEntries modules endings entries = .ok languages := by
  induction entries with
  | nil => exact ⟨[], rfl⟩
  | cons entry rest ih =>
    obtain ⟨hentry, hlisted⟩ := List.forall_mem_cons.1 hlisted
    obtain ⟨hpackage, hpackaged⟩ := List.forall_mem_cons.1 hpackaged
    obtain ⟨support, hsupport⟩ := ofEntry_total hentry hpackage modules endings
    obtain ⟨more, hmore⟩ := ih hlisted hpackaged
    rw [ofEntries, hsupport, hmore]
    exact ⟨_, rfl⟩

end Entries

/-! ## The standard catalogue -/

theorem packaged_standard : ∀ entry ∈ Catalogue.standard.entries, Packaged entry := by
  have htext : ∀ entry ∈ Catalogue.standard.entries, entry.package = .text entry.packageName := by
    repeat refine List.forall_mem_cons.2 ⟨rfl, ?_⟩
    exact List.forall_mem_nil _
  have hparser : (Catalogue.standard.entries.all fun entry =>
      "tree-sitter-".toList.isPrefixOf entry.packageName.toList) = true := by decide +kernel
  intro entry hentry
  exact ⟨htext entry hentry,
    List.isPrefixOf_iff_prefix.1 (List.all_eq_true.1 hparser entry hentry)⟩

theorem isSeen_endingsOf {entry : LanguageEntry} (h : entry ∈ Catalogue.standard.entries)
    (files : List Path) :
    entry.isSeen (endingsOf files) =
      files.any fun path => entry.endings.contains (Catalogue.ending path) := by
  have hseen : entry.isSeen (endingsOf files) = entry.endings.any (endingsOf files).contains := by
    rw [LanguageEntry.isSeen, Catalogue.orderly_standard.listed entry h]
    change (Json.anyAmong (endingsOf files) (entry.endings.map .text)).toOption.getD false = _
    rw [Json.anyAmong_texts]
    rfl
  rw [hseen, Bool.eq_iff_iff]
  simp only [List.any_eq_true, List.contains_eq_mem, decide_eq_true_eq]
  constructor
  · rintro ⟨ending, hending, hmem⟩
    obtain ⟨-, path, hpath, rfl⟩ := mem_endingsOf.1 hmem
    exact ⟨path, hpath, hending⟩
  · rintro ⟨path, hpath, hending⟩
    have hne : Catalogue.ending path ≠ "" := fun hempty =>
      Catalogue.orderly_standard.filled entry h (hempty ▸ hending)
    exact ⟨_, hending, mem_endingsOf.2 ⟨hne, path, hpath, rfl⟩⟩

section Available

variable {repository : Path} {s : Session}

/-- The files whose endings are looked at, or why the disk does not give them. -/
def seenFiles? (git : GitOutcomes) (disk : Disk) (repository : Path) :
    Except DiskFault (List Path) :=
  match git.files with
  | .ok answer =>
    if answer.code = 0 then .ok (listedPaths answer.output) else disk.filesBelow repository
  | .error _ => disk.filesBelow repository

theorem endings_apply (repository : Path) (s : Session) :
    endings repository s =
      (((seenFiles? s.world.git s.world.disk repository).mapError .disk).map endingsOf, s) := by
  have hbelow : (Run.onDisk (·.filesBelow repository) >>= fun paths => pure (endingsOf paths)) s =
      (((s.world.disk.filesBelow repository).mapError .disk).map endingsOf, s) := by
    have happly := Run.onDisk_apply (·.filesBelow repository) s
    cases hfiles : s.world.disk.filesBelow repository with
    | error fault =>
      rw [hfiles] at happly
      exact bind_of_error happly
    | ok files =>
      rw [hfiles] at happly
      exact bind_of_ok happly
  rw [endings, bind_of_ok (Run.world_apply s), seenFiles?]
  rcases hgit : s.world.git.files with stop | answer
  · exact hbelow
  · by_cases hcode : answer.code = 0
    · simp only [if_pos hcode]
      rfl
    · simp only [if_neg hcode]
      exact hbelow

theorem catalogue_of_standard (h : s.currentCatalogue = .ok .standard) :
    Run.catalogue s = (.ok .standard, { s with catalogue := some .standard }) := by
  rw [Session.currentCatalogue] at h
  rw [Run.catalogue_apply]
  cases hloaded : s.catalogue with
  | some catalogue =>
    rw [hloaded] at h
    obtain rfl := Except.ok.inj h
    have hs : { s with catalogue := some Catalogue.standard } = s := by rw [← hloaded]
    rw [hs]
  | none =>
    rw [hloaded] at h
    dsimp only at h ⊢
    rcases hopen : Run.openCatalogue s.world.catalogue with fault | reason | catalogue
    · rw [hopen] at h
      cases h
    · rw [hopen] at h
      -- The empty catalogue is another one.
      obtain ⟨_, -, hempty⟩ := except_map_eq_ok.1 h
      exact absurd (congrArg Catalogue.entries hempty) (List.cons_ne_nil _ _).symm
    · rw [hopen] at h
      obtain rfl := Except.ok.inj h
      rfl

/-- When the files can be told, so can the support. Beside the catalogue that is loaded, the session
stays as it was. -/
theorem available_of_seen {files : List Path} (h : s.currentCatalogue = .ok .standard)
    (hfiles : seenFiles? s.world.git s.world.disk repository = .ok files) :
    ∃ languages,
      available repository s = (.ok languages, { s with catalogue := some .standard }) ∧
      ofEntries s.world.modules (endingsOf files) Catalogue.standard.entries = .ok languages := by
  obtain ⟨languages, hlanguages⟩ := ofEntries_total Catalogue.orderly_standard.listed
    packaged_standard s.world.modules (endingsOf files)
  refine ⟨languages, ?_, hlanguages⟩
  have hendings := endings_apply repository { s with catalogue := some .standard }
  rw [hfiles] at hendings
  rw [available, bind_of_ok (catalogue_of_standard h), bind_of_ok hendings,
    bind_of_ok (Run.world_apply _), Run.ofExcept_apply]
  exact congrArg (·, _) hlanguages

end Available

end Support

end SourceOutline
