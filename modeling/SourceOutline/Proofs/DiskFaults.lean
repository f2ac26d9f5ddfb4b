import SourceOutline.Proofs.EntrySupport
import SourceOutline.Proofs.Installer
import SourceOutline.Proofs.Operations

/-!
# Faults of the disk

A survey can fail for many reasons. After the scan the disk is one of them only when the files of
the repository cannot be seen: the catalogue, the packages and the user can stand in the way of the
dialogue, the console in the way of everything that is told, and a file that does not lie in the
repository in the way of the summary, but what goes wrong when a file is read is told and not passed
on (`Survey.spares_finish`).
-/

namespace SourceOutline

/-! ## Faults that are not the disk's -/

section Spared

variable {α β : Type}

/-- The disk is not to blame when there is no result. -/
def Spared (result : Except Fault α) : Prop := ∀ reason, result ≠ .error (.disk reason)

theorem spared_ok (a : α) : Spared (.ok a) := nofun

theorem Spared.bind {x : Except Fault α} {f : α → Except Fault β} (hx : Spared x)
    (hf : ∀ a, Spared (f a)) : Spared (x >>= f) := by
  cases x with
  | error fault => exact fun reason h => hx reason (congrArg Except.error (Except.error.inj h))
  | ok a => exact hf a

theorem spared_asText (setting : Json) (operation : String) :
    Spared (setting.asText operation) := by
  cases setting <;> exact nofun

theorem spared_anyAmong (texts : List String) (items : List Json) :
    Spared (Json.anyAmong texts items) := by
  induction items with
  | nil => exact nofun
  | cons element rest ih =>
    have helement : Spared (element.isAmong texts) := by
      cases element <;> exact nofun
    refine helement.bind fun found => ?_
    cases found with
    | true => exact nofun
    | false => exact ih

theorem spared_countListed (entry : LanguageEntry) (endings : List String) :
    Spared (Support.countListed entry endings) := by
  induction endings with
  | nil => exact nofun
  | cons ending rest ih =>
    have hlisted : Spared (entry.extensions.holds ending) := by
      cases entry.extensions <;> exact nofun
    exact hlisted.bind fun _ => ih.bind fun _ => spared_ok _

theorem spared_canImport (modules : List String) (name : String) :
    Spared (Support.canImport modules name) := by
  rw [Support.canImport]
  split
  · intro reason h
    cases h
  · exact spared_ok _

theorem spared_ofEntry (modules endings : List String) (entry : LanguageEntry) :
    Spared (Support.ofEntry modules endings entry) := by
  have helements : Spared entry.extensions.elements := by
    cases entry.extensions <;> exact nofun
  refine helements.bind fun elements => (spared_anyAmong endings elements).bind fun hasFiles => ?_
  cases hasFiles with
  | false => exact nofun
  | true =>
    refine (spared_asText entry.package "replace").bind fun package => ?_
    refine .bind ((spared_asText entry.package "replace").bind fun _ => spared_ok _) fun name => ?_
    refine (spared_canImport modules name).bind fun parserAvailable => ?_
    exact (spared_countListed entry endings).bind fun _ => spared_ok _

theorem spared_ofEntries (modules endings : List String) (entries : List LanguageEntry) :
    Spared (Support.ofEntries modules endings entries) := by
  induction entries with
  | nil => exact nofun
  | cons entry rest ih =>
    exact (spared_ofEntry modules endings entry).bind fun _ => ih.bind fun _ => spared_ok _

end Spared

namespace Run

variable {α β : Type} {place : Disk × GitOutcomes × Console × Except Fault Catalogue}

/-- In these surroundings the computation does not fail because of the disk. -/
def Spares (place : Disk × GitOutcomes × Console × Except Fault Catalogue) (c : Run α) : Prop :=
  ∀ s : Session, s.surroundings = place → Spared (c s).1

theorem spares_pure (a : α) : Spares place (pure a : Run α) := fun _ _ => spared_ok a

/-- A notice is refused by the console, never by the disk. -/
theorem spares_say (text : String) : Spares place (say text) := by
  intro s _
  have hfst : (say text s).1 = s.world.console.receive (.line text) := post_fst (.line text) s
  rw [hfst, Console.receive]
  split
  · exact spared_ok _
  · intro reason h
    cases h

theorem Spares.bind {x : Run α} {f : α → Run β} (hx : Spares place x)
    (hkeeps : Keeps Session.surroundings x) (hf : ∀ a, Spares place (f a)) :
    Spares place (x >>= f) := by
  intro s hs
  have hfirst := hx s hs
  rcases h : x s with ⟨fault | a, t⟩
  · rw [h] at hfirst
    rw [bind_of_error h]
    exact fun reason heq => hfirst reason (congrArg Except.error (Except.error.inj heq))
  · rw [bind_of_ok h]
    exact hf a t ((hkeeps.of_eq h).trans hs)

/-- What follows a notice. -/
theorem Spares.bindSay {f : Unit → Run α} (text : String) (hf : Spares place (f ())) :
    Spares place (say text >>= f) :=
  (spares_say text).bind (fun _ => rfl) fun _ => hf

/-- What follows an attempt, which never fails itself. -/
theorem Spares.bindAttempt {c : Run α} {f : Except Fault α → Run β}
    (hf : ∀ outcome s, Spared (f outcome s).1) : Spares place (attempt c >>= f) := by
  intro s _
  rw [bind_of_ok (attempt_apply c s)]
  exact hf _ _

theorem Spares.foldlM {ι : Type} {step : β → ι → Run β} (h : ∀ b i, Spares place (step b i))
    (hkeeps : ∀ b i, Keeps Session.surroundings (step b i)) (items : List ι) (b : β) :
    Spares place (items.foldlM step b) := by
  induction items generalizing b with
  | nil => exact spares_pure b
  | cons i rest ih =>
    rw [List.foldlM_cons]
    exact (h b i).bind (hkeeps b i) ih

end Run

namespace Support

variable {place : Disk × GitOutcomes × Console × Except Fault Catalogue}

open Run (Spares spares_say spares_pure)

/-- The map can be told, or not told for other reasons, when the files are seen. -/
theorem spares_available {repository : Path} {catalogue : Catalogue} {files : List Path}
    (hcatalogue : place.2.2.2 = .ok catalogue)
    (hseen : seenFiles? place.2.1 place.1 repository = .ok files) :
    Spares place (available repository) := by
  refine .bind (fun s hs => ?_) (Run.Installs.keeps Run.looks_catalogue.mono) fun catalogue => ?_
  · rw [Run.catalogue_fst]
    have hcurrent : s.currentCatalogue = place.2.2.2 := by rw [← hs]; rfl
    rw [hcurrent, hcatalogue]
    exact spared_ok _
  · refine .bind (fun s hs => ?_) (Run.Installs.keeps (looks_endings repository).mono) fun _ => ?_
    · have hplace : seenFiles? s.world.git s.world.disk repository = .ok files := by
        rw [← hseen, ← hs]
        rfl
      rw [endings_apply, hplace]
      exact spared_ok _
    · intro s _
      exact spared_ofEntries _ _ _

theorem spares_showLanguage (language : String) (support : LanguageSupport) :
    Spares place (showLanguage language support.status) := by
  refine .bind (spares_pure support.hasFiles) (fun _ => rfl) fun hasFiles => ?_
  refine .bind (spares_pure support.parserAvailable) (fun _ => rfl) fun parserAvailable => ?_
  cases hasFiles with
  | false => exact spares_pure _
  | true =>
    cases parserAvailable with
    | true => exact .bindSay _ (spares_pure _)
    | false =>
      exact .bindSay _ (.bind (spares_pure support.package) (fun _ => rfl) fun _ => spares_pure _)

theorem spares_showStatus (languages : List (String × LanguageSupport)) :
    Spares place
      (showStatus (languages.map fun (language, support) => (language, support.status))) := by
  have hlanguages : Spares place
      (showLanguages (languages.map fun (language, support) => (language, support.status))) := by
    induction languages with
    | nil => exact spares_pure _
    | cons first rest ih =>
      refine (spares_showLanguage first.1 first.2).bind (Run.Installs.keeps ?_) fun _ => ?_
      · exact (looks_showLanguage first.1 first.2.status).mono
      · exact ih.bind (Run.Installs.keeps (looks_showLanguages _).mono) fun _ => spares_pure _
  refine .bindSay _ ?_
  split
  · exact .bindSay _ (spares_pure _)
  · refine hlanguages.bind (Run.Installs.keeps (looks_showLanguages _).mono) fun missing => ?_
    dsimp only
    split
    · exact .bindSay _ (spares_pure _)
    · exact .bindSay _ (spares_pure _)

theorem spares_ask (question : String) : Spares place (Run.ask question) := by
  intro s _
  cases hanswers : s.world.answers with
  | nil =>
    rw [Run.ask_of_unanswered question hanswers]
    exact nofun
  | cons answer rest =>
    rw [Run.ask_of_answered question hanswers]
    exact nofun

theorem spares_installPackage (package : String) : Spares place (installPackage package) := by
  refine .bindSay _ (.bind (fun s _ => ?_) (installs_runInstall package).keeps fun outcome => ?_)
  · rcases houtcome : s.world.installing package with stop | answer
    · obtain ⟨_, -, hrun⟩ := runInstall_of_error houtcome
      rw [hrun]
      exact spared_ok _
    · rw [runInstall_of_ok houtcome]
      exact spared_ok _
  · split
    · split
      · exact .bindSay _ (spares_pure _)
      · exact .bindSay _ (spares_pure _)
    · exact .bindSay _ (spares_pure _)
    · exact .bindSay _ (spares_pure _)
    · intro s _ reason h
      cases h

theorem spares_installPackages (packages : List String) :
    Spares place (installPackages packages) := by
  induction packages with
  | nil => exact spares_pure _
  | cons package rest ih =>
    exact (spares_installPackage package).bind (installs_installPackage package).keeps fun _ =>
      ih.bind (installs_installPackages rest).keeps fun _ => spares_pure _

theorem spares_install (missing : List String) : Spares place (install missing) := by
  have hlist : Spares place (missing.forM fun package => Run.say ("  - " ++ package)) := by
    induction missing with
    | nil => exact spares_pure _
    | cons package rest ih => exact .bindSay _ ih
  rw [install]
  split
  · exact spares_pure _
  · refine .bindSay _ (hlist.bind (Run.Installs.keeps (.forM fun _ => ?_)) fun _ => ?_)
    · exact (Run.looks_say _ (by exact .ofList rfl)).mono
    refine (spares_ask _).bind (installs_ask _).keeps fun consent => ?_
    cases consent with
    | false => exact .bindSay _ (spares_pure _)
    | true =>
      refine .bindSay _ ?_
      refine (spares_installPackages missing).bind (installs_installPackages missing).keeps
        fun count => ?_
      split
      · exact .bindSay _ (spares_pure _)
      · exact .bindSay _ (spares_pure _)

theorem spares_offer {repository : Path} {catalogue : Catalogue} {files : List Path}
    (hcatalogue : place.2.2.2 = .ok catalogue)
    (hseen : seenFiles? place.2.1 place.1 repository = .ok files) :
    Spares place (offer repository) := by
  have havailable := spares_available hcatalogue hseen
  refine havailable.bind (Run.Installs.keeps (looks_available repository).mono) fun languages => ?_
  refine (spares_showStatus languages).bind
    (Run.Installs.keeps (looks_showStatus _).mono) fun missing => ?_
  split
  · exact spares_pure _
  · exact spares_pure _
  · next missing _ =>
    refine .bind ((spares_install missing).bind (installs_install missing).keeps fun _ =>
      spares_pure _) (Run.Installs.keeps ?_) fun _ => havailable
    exact (installs_install missing).bind fun _ => .pure _

end Support

namespace Survey

variable {place : Disk × GitOutcomes × Console × Except Fault Catalogue}

open Run (Spares spares_say spares_pure)

/-- What happens to a file of a language is told and not passed on. -/
theorem spares_surveyFile (repository : Path) (language : String) (budget : Option Int)
    (progress : Progress) (path : Path) :
    Spares place (surveyFile repository language budget progress path) := by
  refine .bindAttempt fun outcome s => ?_
  cases outcome with
  | ok progress => exact spared_ok _
  | error fault => exact Run.Spares.bindSay _ (spares_pure progress) s rfl

theorem spares_others (repository : Path) (progress : Progress) (others : List Path) :
    Spares place (others.foldlM (surveyOther repository) progress) := by
  refine .foldlM (fun progress path s _ => ?_)
    (fun _ _ => Run.Installs.keeps (looks_surveyOther ..).mono) _ _
  rw [surveyOther_apply]
  split
  · intro reason h
    cases h
  · exact spared_ok _

theorem spares_sumUp (repository : Path) (budget : Option Int) (scan : Scan)
    (languages : List (String × LanguageSupport)) :
    Spares place (sumUp repository budget scan languages) := by
  have hkeeps {c : Run Progress} (h : Run.Extracts c) : Run.Keeps Session.surroundings c :=
    fun s => Session.surroundings_eq_of_situation (h.keeps s)
  have hgroups : Spares place (scan.groups.foldlM (surveyGroup repository budget) ⟨.root, 0⟩) := by
    refine .foldlM (fun progress group => ?_)
      (fun progress group => hkeeps (extracts_surveyGroup repository budget progress group)) _ _
    exact .bindSay _ (.foldlM (spares_surveyFile repository group.1 budget)
      (fun progress path => hkeeps (extracts_surveyFile ..)) _ _)
  refine hgroups.bind (hkeeps (.foldlM (extracts_surveyGroup repository budget) _)) fun filed => ?_
  refine (spares_others repository filed scan.others).bind (Run.Installs.keeps ?_) fun _ => ?_
  · exact .foldlM (fun _ _ => (looks_surveyOther ..).mono) _
  · exact .bindSay _ (spares_pure _)

/-- After the scan the disk can only stand in the way of a survey when the files are not seen. -/
theorem spares_finish {repository : Path} {catalogue : Catalogue} {files : List Path}
    (budget : Option Int) (scan : Scan) (hcatalogue : place.2.2.2 = .ok catalogue)
    (hseen : Support.seenFiles? place.2.1 place.1 repository = .ok files) :
    Spares place (finish repository budget scan) :=
  (Support.spares_offer hcatalogue hseen).bind (Support.installs_offer repository).keeps fun _ =>
    spares_sumUp repository budget scan _

end Survey

end SourceOutline
