import Mathlib.Data.List.Nodup
import SourceOutline.Support
import SourceOutline.Proofs.Session

/-!
# Offering language support

The dialogue about missing packages changes what can be imported and which answers are left, and
leaves the rest of the world alone. The map that it gives has a key for each language that one of
the endings of the files seen belongs to; these files are not always the ones that a scan finds.
-/

namespace SourceOutline

namespace Support

/-! ## The dialogue depends on the situation only -/

theorem looks_endings (repository : Path) :
    Run.Looks (endings repository) := by
  refine .bindWorld (fun world => ?_) fun _ => rfl
  rcases world.git.files with stop | answer
  · exact (Run.looks_onDisk _).bind fun _ => .pure _
  · dsimp only
    split
    · exact .pure _
    · exact (Run.looks_onDisk _).bind fun _ => .pure _

theorem looks_available (repository : Path) :
    Run.Looks (available repository) := by
  refine Run.looks_catalogue.bind fun _ => (looks_endings repository).bind fun _ => ?_
  exact .bindWorld (fun _ => .ofExcept _) fun _ => rfl

theorem looks_required {α : Type} (name : String) (field : Option α) :
    Run.Looks (required name field) := by
  cases field with
  | none => exact .throw _
  | some a => exact .pure a

theorem looks_showLanguage (language : String) (status : LanguageStatus) :
    Run.Looks (showLanguage language status) := by
  refine (looks_required _ _).bind fun hasFiles => (looks_required _ _).bind fun available => ?_
  cases hasFiles with
  | false => exact .pure _
  | true =>
    cases available with
    | true => exact (Run.looks_say _ (by exact .ofList rfl)).bind fun _ => .pure _
    | false =>
      exact (Run.looks_say _ (by exact .ofList rfl)).bind fun _ =>
        (looks_required _ _).bind fun _ => .pure _

theorem looks_showLanguages (languages : List (String × LanguageStatus)) :
    Run.Looks (showLanguages languages) := by
  induction languages with
  | nil => exact .pure _
  | cons entry rest ih =>
    exact (looks_showLanguage entry.1 entry.2).bind fun _ => ih.bind fun _ => .pure _

theorem looks_showStatus (languages : List (String × LanguageStatus)) :
    Run.Looks (showStatus languages) := by
  refine (Run.looks_say _ (by exact .ofList rfl)).bind fun _ => ?_
  split
  · exact (Run.looks_say _ (by exact .ofList rfl)).bind fun _ => .pure _
  · refine (looks_showLanguages languages).bind fun missing => ?_
    dsimp only
    split
    · exact (Run.looks_say _ (by exact .ofList rfl)).bind fun _ => .pure _
    · exact (Run.looks_say _ (by exact .ofList rfl)).bind fun _ => .pure _

theorem installs_ask (question : String) : Run.Installs (Run.ask question) := by
  refine (Run.looks_post rfl).mono.bind fun _ => .bindWorld (fun world => ?_) fun _ => rfl
  cases world.answers with
  | nil => exact .throw _
  | cons answer rest =>
    refine .bind ?_ fun _ => .pure _
    have hmild : Run.Mild fun world => { world with answers := rest } :=
      ⟨fun _ => rfl, fun _ _ _ => rfl⟩
    exact .step (by decide) (.install hmild (fun _ => rfl) fun _ => rfl)

theorem installs_runInstall (package : String) :
    Run.Installs (runInstall package) := by
  refine .bind (.step (by decide) (.record (installWords package))) fun _ => ?_
  refine .bindWorld (fun world => ?_) fun _ => rfl
  dsimp only
  split
  · exact .pure _
  · next answer _ =>
    refine .bind ?_ fun _ => .pure _
    have hmild : Run.Mild fun world => { world with modules := world.modules ++ answer.installs } :=
      ⟨fun _ => rfl, fun _ _ _ => rfl⟩
    exact .step (by decide) (.install hmild (fun _ => rfl) fun _ => rfl)

theorem installs_installPackage (package : String) :
    Run.Installs (installPackage package) := by
  refine (Run.looks_say _ (by exact .ofList rfl)).mono.bind fun _ => ?_
  refine (installs_runInstall package).bind fun outcome => ?_
  split
  · split
    · exact (Run.looks_say _ (by exact .ofList rfl)).mono.bind fun _ => .pure _
    · exact (Run.looks_say _ (by exact .ofList rfl)).mono.bind fun _ => .pure _
  · exact (Run.looks_say _ (by exact .ofList rfl)).mono.bind fun _ => .pure _
  · exact (Run.looks_say _ (by exact .ofList rfl)).mono.bind fun _ => .pure _
  · exact .throw _

theorem installs_installPackages (packages : List String) :
    Run.Installs (installPackages packages) := by
  induction packages with
  | nil => exact .pure _
  | cons package rest ih =>
    exact (installs_installPackage package).bind fun _ => ih.bind fun _ => .pure _

theorem installs_install (missing : List String) :
    Run.Installs (install missing) := by
  rw [install]
  split
  · exact .pure _
  · refine (Run.looks_say _ (by exact .ofList rfl)).mono.bind fun _ => ?_
    refine .bind (Run.MadeOf.forM fun _ => ?_) fun _ => ?_
    · exact (Run.looks_say _ (by exact .ofList rfl)).mono
    refine (installs_ask _).bind fun consent => ?_
    cases consent with
    | false => exact (Run.looks_say _ (by exact .ofList rfl)).mono.bind fun _ => .pure _
    | true =>
      refine (Run.looks_say _ (by exact .ofList rfl)).mono.bind fun _ => ?_
      refine (installs_installPackages missing).bind fun _ => ?_
      split
      · exact (Run.looks_say _ (by exact .ofList rfl)).mono.bind fun _ => .pure _
      · exact (Run.looks_say _ (by exact .ofList rfl)).mono.bind fun _ => .pure _

theorem installs_offer (repository : Path) :
    Run.Installs (offer repository) := by
  refine (looks_available repository).mono.bind fun languages => ?_
  refine (looks_showStatus _).mono.bind fun missing => ?_
  split
  · exact .pure _
  · exact .pure _
  · next missing _ =>
    refine .bind ?_ fun _ => (looks_available repository).mono
    exact (installs_install missing).bind fun _ => .pure _

/-! ## The endings that are seen -/

/-- The files whose endings are looked at: those of the listing when git gives one, or else those on
the disk below the repository as it is spelled. -/
def seenFiles (git : GitOutcomes) (disk : Disk) (repository : Path) : List Path :=
  let below := (disk.filesBelow repository).toOption.getD []
  match git.files with
  | .ok answer => if answer.code = 0 then listedPaths answer.output else below
  | .error _ => below

theorem mem_addEnding {ending : String} {done : List String} {path : Path} :
    ending ∈ addEnding done path ↔
      ending ∈ done ∨ ending ≠ "" ∧ Catalogue.ending path = ending := by
  rw [addEnding]
  split
  · next h =>
    refine ⟨.inl, ?_⟩
    rintro (hdone | ⟨hne, rfl⟩)
    · exact hdone
    · simpa [hne] using h
  · next h =>
    have hne : Catalogue.ending path ≠ "" := by
      intro hempty
      simp [hempty] at h
    rw [List.mem_append, List.mem_singleton]
    constructor
    · rintro (hdone | rfl)
      · exact .inl hdone
      · exact .inr ⟨hne, rfl⟩
    · rintro (hdone | ⟨-, rfl⟩)
      · exact .inl hdone
      · exact .inr rfl

theorem mem_foldl_addEnding {ending : String} (paths : List Path) (done : List String) :
    ending ∈ paths.foldl addEnding done ↔
      ending ∈ done ∨ ending ≠ "" ∧ ∃ path ∈ paths, Catalogue.ending path = ending := by
  induction paths generalizing done with
  | nil => simp
  | cons path rest ih =>
    rw [List.foldl_cons, ih, mem_addEnding]
    simp only [List.mem_cons, exists_eq_or_imp]
    constructor
    · rintro ((hdone | ⟨hne, hpath⟩) | ⟨hne, hrest⟩)
      · exact .inl hdone
      · exact .inr ⟨hne, .inl hpath⟩
      · exact .inr ⟨hne, .inr hrest⟩
    · rintro (hdone | ⟨hne, hpath | hrest⟩)
      · exact .inl (.inl hdone)
      · exact .inl (.inr ⟨hne, hpath⟩)
      · exact .inr ⟨hne, hrest⟩

theorem mem_endingsOf {ending : String} {paths : List Path} :
    ending ∈ endingsOf paths ↔ ending ≠ "" ∧ ∃ path ∈ paths, Catalogue.ending path = ending := by
  rw [endingsOf, mem_foldl_addEnding]
  simp

section Offer

variable {repository : Path} {s t : Session}

theorem endings_eq_ok {found : List String} (h : endings repository s = (.ok found, t)) :
    found = endingsOf (seenFiles s.world.git s.world.disk repository) := by
  have hbelow {found : List String} {t : Session}
      (h : (Run.onDisk (·.filesBelow repository) >>= fun paths => pure (endingsOf paths)) s =
        (.ok found, t)) :
      found = endingsOf ((s.world.disk.filesBelow repository).toOption.getD []) := by
    obtain ⟨paths, r, hpaths, h⟩ := bind_eq_ok.1 h
    rw [(Run.onDisk_eq_ok hpaths).1]
    exact (Except.ok.inj (Prod.mk.inj h).1).symm
  rw [endings, bind_of_ok (Run.world_apply s)] at h
  rw [seenFiles]
  rcases hgit : s.world.git.files with stop | answer
  · rw [hgit] at h
    exact hbelow h
  · rw [hgit] at h
    dsimp only at h ⊢
    split at h
    · next hcode =>
      rw [if_pos hcode]
      exact (Except.ok.inj (Prod.mk.inj h).1).symm
    · next hcode =>
      rw [if_neg hcode]
      exact hbelow h

/-- When git gives no listing, the endings are told only if the files on the disk are. -/
theorem filesBelow_of_endings {found : List String} (h : endings repository s = (.ok found, t))
    (hunlisted : ∀ answer, s.world.git.files = .ok answer → answer.code ≠ 0) :
    ∃ files, s.world.disk.filesBelow repository = .ok files := by
  rw [endings, bind_of_ok (Run.world_apply s)] at h
  rcases hgit : s.world.git.files with stop | answer
  · rw [hgit] at h
    obtain ⟨files, _, hfiles, -⟩ := bind_eq_ok.1 h
    exact ⟨files, (Run.onDisk_eq_ok hfiles).1⟩
  · rw [hgit] at h
    dsimp only at h
    rw [if_neg (hunlisted answer hgit)] at h
    obtain ⟨files, _, hfiles, -⟩ := bind_eq_ok.1 h
    exact ⟨files, (Run.onDisk_eq_ok hfiles).1⟩

theorem available_eq_ok {languages : List (String × LanguageSupport)}
    (h : available repository s = (.ok languages, t)) :
    ∃ c, s.currentCatalogue = .ok c ∧
      ofEntries t.world.modules (endingsOf (seenFiles s.world.git s.world.disk repository))
        c.entries = .ok languages := by
  have ht : t.situation = s.situation := (looks_available repository).keeps.of_eq h
  obtain ⟨c, r, hc, hr, h⟩ := Run.catalogue_bind_eq_ok h
  obtain ⟨found, r', hfound, h⟩ := bind_eq_ok.1 h
  obtain ⟨world, r'', hworld, h⟩ := bind_eq_ok.1 h
  refine ⟨c, hc, ?_⟩
  have hr' := (looks_endings repository).keeps.of_eq hfound
  rw [Run.world_apply] at hworld
  cases hworld
  rw [Session.world_eq_of_situation (hr'.trans hr), endings_eq_ok hfound,
    Session.world_eq_of_situation hr] at h
  rw [Session.world_eq_of_situation ht]
  exact (Prod.mk.inj h).1

/-- The map that the dialogue gives is made at its end, from the endings of the files seen. -/
theorem offer_eq_ok {languages : List (String × LanguageSupport)}
    (h : offer repository s = (.ok languages, t)) :
    ∃ c, s.currentCatalogue = .ok c ∧
      ofEntries t.world.modules (endingsOf (seenFiles s.world.git s.world.disk repository))
        c.entries = .ok languages := by
  obtain ⟨first, r, hfirst, h⟩ := bind_eq_ok.1 h
  obtain ⟨missing, r', hmissing, h⟩ := bind_eq_ok.1 h
  have hr : r.situation = s.situation := (looks_available repository).keeps.of_eq hfirst
  have hr' : r'.situation = r.situation := (looks_showStatus _).keeps.of_eq hmissing
  obtain ⟨hdisk, hgit, -, hcatalogue⟩ :=
    Session.surroundings_eq_iff.1 (Session.surroundings_eq_of_situation (hr'.trans hr))
  have hunchanged : (first, r') = (languages, t) → ∃ c, s.currentCatalogue = .ok c ∧
      ofEntries t.world.modules (endingsOf (seenFiles s.world.git s.world.disk repository))
        c.entries = .ok languages := by
    rintro ⟨⟩
    rw [Session.world_eq_of_situation hr']
    exact available_eq_ok hfirst
  split at h
  · cases h
    exact hunchanged rfl
  · cases h
    exact hunchanged rfl
  · next missing _ =>
    -- The packages are installed, and the map is made anew.
    obtain ⟨_, r'', hinstall, h⟩ := bind_eq_ok.1 h
    have hinstalls : Run.Installs (discard (install missing)) :=
      (installs_install missing).bind fun _ => .pure _
    obtain ⟨hdisk', hgit', -, hcatalogue'⟩ :=
      Session.surroundings_eq_iff.1 (hinstalls.keeps.of_eq hinstall)
    rw [← hcatalogue, ← hcatalogue', ← hdisk, ← hdisk', ← hgit, ← hgit']
    exact available_eq_ok h

theorem filesBelow_of_offer {languages : List (String × LanguageSupport)}
    (h : offer repository s = (.ok languages, t))
    (hunlisted : ∀ answer, s.world.git.files = .ok answer → answer.code ≠ 0) :
    ∃ files, s.world.disk.filesBelow repository = .ok files := by
  obtain ⟨first, r, hfirst, -⟩ := bind_eq_ok.1 h
  obtain ⟨c, r', -, hr', hfirst⟩ := Run.catalogue_bind_eq_ok hfirst
  obtain ⟨found, r'', hfound, -⟩ := bind_eq_ok.1 hfirst
  rw [← Session.world_eq_of_situation hr'] at hunlisted ⊢
  exact filesBelow_of_endings hfound hunlisted

end Offer

end Support

/-! ## Catalogues whose endings tell languages apart -/

/-- The endings that an entry lists, when it lists texts. -/
def LanguageEntry.endings (entry : LanguageEntry) : List String :=
  match entry.extensions with
  | .list items => items.filterMap fun
    | .text ending => some ending
    | _ => none
  | _ => []

/-- Each language has a name of its own and a list of endings that no other language has. -/
structure Catalogue.Orderly (catalogue : Catalogue) : Prop where
  listed : ∀ entry ∈ catalogue.entries, entry.extensions = .texts entry.endings
  named : ∀ entry ∈ catalogue.entries, entry.name ≠ ""
  filled : ∀ entry ∈ catalogue.entries, "" ∉ entry.endings
  distinct : (catalogue.entries.map (·.name)).Nodup
  apart : catalogue.entries.Pairwise fun entry other =>
    ∀ ending ∈ entry.endings, ending ∉ other.endings

theorem Catalogue.orderly_standard : Catalogue.standard.Orderly where
  listed := by
    repeat refine List.forall_mem_cons.2 ⟨rfl, ?_⟩
    exact List.forall_mem_nil _
  named := by decide
  filled := by decide
  distinct := by decide
  apart := by decide

namespace Catalogue

variable {entries : List LanguageEntry}

theorem firstWith_eq_some_iff {ending language : String}
    (hlisted : ∀ entry ∈ entries, entry.extensions = .texts entry.endings)
    (hapart : entries.Pairwise fun entry other =>
      ∀ ending ∈ entry.endings, ending ∉ other.endings) :
    firstWith ending entries = .ok (some language) ↔
      ∃ entry ∈ entries, entry.name = language ∧ ending ∈ entry.endings := by
  induction entries with
  | nil => simp [firstWith]
  | cons entry rest ih =>
    obtain ⟨hentry, hrest⟩ := List.forall_mem_cons.1 hlisted
    obtain ⟨hfirst, hothers⟩ := List.pairwise_cons.1 hapart
    rw [firstWith, hentry, Json.holds_texts]
    by_cases hmem : ending ∈ entry.endings
    · have hcontains : entry.endings.contains ending = true := by simpa using hmem
      simp only [hcontains]
      constructor
      · rintro ⟨⟩
        exact ⟨entry, List.mem_cons_self, rfl, hmem⟩
      · rintro ⟨other, hother, rfl, hending⟩
        rcases List.mem_cons.1 hother with rfl | hother
        · rfl
        · exact absurd hending (hfirst other hother ending hmem)
    · have hcontains : entry.endings.contains ending = false := by simpa using hmem
      simp only [hcontains]
      refine (ih hrest hothers).trans ?_
      simp only [List.mem_cons, exists_eq_or_imp, hmem, and_false, false_or]

/-- In an orderly catalogue a file has the language that lists its ending. -/
theorem Orderly.languageOf_eq_some_iff {catalogue : Catalogue} (h : catalogue.Orderly) {path : Path}
    {language : String} :
    catalogue.languageOf path = .ok (some language) ↔
      ∃ entry ∈ catalogue.entries, entry.name = language ∧ ending path ∈ entry.endings :=
  firstWith_eq_some_iff h.listed h.apart

end Catalogue

namespace Support

variable {modules endings : List String} {entries : List LanguageEntry}
  {languages : List (String × LanguageSupport)}

/-- The module of a language's package can be imported. -/
def Importable (catalogue : Catalogue) (modules : List String) (language : String) : Prop :=
  ∃ entry ∈ catalogue.entries, entry.name = language ∧
    ∃ name, entry.moduleName = .ok name ∧ name ∈ modules

theorem ofEntry_eq_ok {entry : LanguageEntry} {support : Option LanguageSupport}
    (hlisted : entry.extensions = .texts entry.endings)
    (h : ofEntry modules endings entry = .ok support) :
    (support.isSome ↔ ∃ ending ∈ entry.endings, ending ∈ endings) ∧
      ∀ found, support = some found →
        (found.parserAvailable = true ↔ ∃ name, entry.moduleName = .ok name ∧ name ∈ modules) := by
  rw [ofEntry, hlisted] at h
  change (Json.anyAmong endings (entry.endings.map .text) >>= _) = _ at h
  rw [Json.anyAmong_texts] at h
  obtain ⟨hasFiles, hany, h⟩ := except_bind_eq_ok.1 h
  have hiff : hasFiles = true ↔ ∃ ending ∈ entry.endings, ending ∈ endings := by
    rw [← Except.ok.inj hany, List.any_eq_true]
    simp only [List.contains_eq_mem, decide_eq_true_eq]
  cases hasFiles with
  | false =>
    cases h
    exact ⟨by simpa using hiff, fun _ h => nomatch h⟩
  | true =>
    obtain ⟨package, -, h⟩ := except_bind_eq_ok.1 h
    obtain ⟨name, hname, h⟩ := except_bind_eq_ok.1 h
    obtain ⟨importable, himportable, h⟩ := except_bind_eq_ok.1 h
    obtain ⟨count, -, h⟩ := except_bind_eq_ok.1 h
    cases h
    refine ⟨by simpa using hiff, ?_⟩
    rintro found ⟨⟩
    rw [canImport] at himportable
    split at himportable
    · cases himportable
    · cases himportable
      simp [hname]

theorem lookup_ofEntries_of_not_mem (h : ofEntries modules endings entries = .ok languages)
    {language : String} (hne : language ∉ entries.map (·.name)) :
    languages.lookup language = none := by
  induction entries generalizing languages with
  | nil =>
    cases h
    rfl
  | cons entry rest ih =>
    obtain ⟨support, -, h⟩ := except_bind_eq_ok.1 h
    obtain ⟨more, hmore, h⟩ := except_bind_eq_ok.1 h
    cases h
    rw [List.map_cons, List.mem_cons, not_or] at hne
    cases support with
    | none => exact ih hmore hne.2
    | some support =>
      have hfirst : (language == entry.name) = false := by simpa using hne.1
      simpa [List.lookup_cons, hfirst] using ih hmore hne.2

/-- The map has for each language what is found for its entry. -/
theorem lookup_ofEntries (hdistinct : (entries.map (·.name)).Nodup)
    (h : ofEntries modules endings entries = .ok languages) {entry : LanguageEntry}
    (hentry : entry ∈ entries) :
    ofEntry modules endings entry = .ok (languages.lookup entry.name) := by
  induction entries generalizing languages with
  | nil => cases hentry
  | cons first rest ih =>
    obtain ⟨support, hsupport, h⟩ := except_bind_eq_ok.1 h
    obtain ⟨more, hmore, h⟩ := except_bind_eq_ok.1 h
    cases h
    rw [List.map_cons, List.nodup_cons] at hdistinct
    rcases List.mem_cons.1 hentry with rfl | hrest
    · rw [hsupport]
      cases support with
      | none => exact congrArg Except.ok (lookup_ofEntries_of_not_mem hmore hdistinct.1).symm
      | some support => simp
    · rw [ih hdistinct.2 hmore hrest]
      cases support with
      | none => rfl
      | some support =>
        have hname : entry.name ≠ first.name := fun heq =>
          hdistinct.1 (heq ▸ List.mem_map_of_mem hrest)
        have hfirst : (entry.name == first.name) = false := by simpa using hname
        simp [List.lookup_cons, hfirst]

/-- The map of an orderly catalogue has a key for a language when a file of it is seen, and then
tells whether its module can be imported at the end of the dialogue. -/
theorem offer_lookup {repository : Path} {s t : Session} {catalogue : Catalogue}
    (horderly : catalogue.Orderly) (hcatalogue : s.currentCatalogue = .ok catalogue)
    (h : offer repository s = (.ok languages, t)) {entry : LanguageEntry}
    (hentry : entry ∈ catalogue.entries) :
    ((languages.lookup entry.name).isSome ↔
        ∃ path ∈ seenFiles s.world.git s.world.disk repository,
          catalogue.languageOf path = .ok (some entry.name)) ∧
      ∀ support, languages.lookup entry.name = some support →
        (support.parserAvailable = true ↔ Importable catalogue t.world.modules entry.name) := by
  obtain ⟨c, hc, hlanguages⟩ := offer_eq_ok h
  obtain rfl : c = catalogue := Except.ok.inj (hc.symm.trans hcatalogue)
  obtain ⟨hkey, hsupport⟩ := ofEntry_eq_ok (horderly.listed entry hentry)
    (lookup_ofEntries horderly.distinct hlanguages hentry)
  -- Names are distinct, so the entry that lists an ending is the one that the name stands for.
  have hunique {other : LanguageEntry} (hother : other ∈ c.entries)
      (hname : other.name = entry.name) : other = entry :=
    List.inj_on_of_nodup_map horderly.distinct hother hentry hname
  constructor
  · rw [hkey]
    constructor
    · rintro ⟨ending, hending, hseen⟩
      obtain ⟨-, path, hpath, rfl⟩ := mem_endingsOf.1 hseen
      exact ⟨path, hpath, horderly.languageOf_eq_some_iff.2 ⟨entry, hentry, rfl, hending⟩⟩
    · rintro ⟨path, hpath, hlanguage⟩
      obtain ⟨other, hother, hname, hending⟩ := horderly.languageOf_eq_some_iff.1 hlanguage
      obtain rfl := hunique hother hname
      have hne : Catalogue.ending path ≠ "" := fun hempty =>
        horderly.filled other hother (hempty ▸ hending)
      exact ⟨Catalogue.ending path, hending, mem_endingsOf.2 ⟨hne, path, hpath, rfl⟩⟩
  · intro support hfound
    rw [hsupport support hfound]
    constructor
    · exact fun hname => ⟨entry, hentry, rfl, hname⟩
    · rintro ⟨other, hother, hname, hmodule⟩
      obtain rfl := hunique hother hname
      exact hmodule

end Support

end SourceOutline
