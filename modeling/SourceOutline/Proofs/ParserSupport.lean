import SourceOutline.Proofs.Caches
import SourceOutline.Proofs.EntrySupport
import SourceOutline.Proofs.LanguageStatus
import SourceOutline.Proofs.LineNumbers

/-!
# What is told about parsers, and which parsers are there

A summary tells for each language whether it is supported. This is decided by the module of the
language's package, which the dialogue looks for among the modules that can be imported. The files
are read with parsers that come from somewhere else. So the summary tells the truth about a language
exactly when both agree (`Survey.run_support_account`), and they need not (`Survey.run_misjudges`).

Whether there is a parser is asked for with the first file of a language that can be read, and
remembered from then on. Without a parser no file of the language gets symbols.
-/

namespace SourceOutline

/-! ## What is told -/

/-- The entry by which the dialogue tells about a language: the first one with its name that lists
an ending of the files seen. -/
def Catalogue.seenEntry? (catalogue : Catalogue) (endings : List String) (language : String) :
    Option LanguageEntry :=
  catalogue.entries.find? fun entry => entry.name == language && entry.isSeen endings

/-- A language is told to be supported when the module of its entry can be imported. -/
theorem Support.supported_ofEntries {modules endings : List String} {entries : List LanguageEntry}
    {languages : List (String × LanguageSupport)}
    (h : ofEntries modules endings entries = .ok languages) (language : String) :
    Survey.supported languages language =
      (entries.find? fun entry => entry.name == language && entry.isSeen endings).any
        (·.isImportable modules) := by
  induction entries generalizing languages with
  | nil =>
    cases h
    rfl
  | cons entry rest ih =>
    obtain ⟨support, more, hsupport, hmore, rfl⟩ := ofEntries_cons_eq_ok h
    have hrest := ih hmore
    rw [List.find?_cons]
    rcases ofEntry_cases hsupport with ⟨hseen, rfl⟩ | ⟨hseen, count, -, rfl⟩
    · rw [hseen, Bool.and_false]
      exact hrest
    · rw [hseen, Bool.and_true]
      by_cases hname : entry.name = language
      · have hfirst : (entry.name == language) = true := by simpa using hname
        rw [hfirst, Survey.supported]
        simp [hname]
      · have hfirst : (entry.name == language) = false := by simpa using hname
        have hother : (language == entry.name) = false := by
          simpa using fun heq => hname heq.symm
        rw [hfirst, ← hrest, Survey.supported, Survey.supported]
        simp [List.lookup_cons, hother]

/-! ## Parsers that are remembered -/

namespace Run

variable {α : Type} {c : Run α} {s : Session} {language : String} {found : Bool}

theorem keeps_parsing_say (text : String) : Keeps Session.parsing (say text) := fun _ => rfl

theorem keeps_parsers_say (text : String) : Keeps Session.parsers (say text) := fun _ => rfl

theorem MadeOf.parsing_of_eq {activities : List Activity} (hc : MadeOf activities c) {t : Session}
    (hreports : s.world.Reports) {result : Except Fault α} (h : c s = (result, t)) :
    t.parsing = s.parsing := by
  have hparsing := hc.parsing_eq hreports
  rwa [h] at hparsing

/-- Whoever is told about a parser can remember it. -/
theorem lookup_parsers_hasParser (h : (hasParser language s).1 = .ok found) :
    (hasParser language s).2.parsers.lookup language = some found := by
  have hanswer := parserAnswer language s
  generalize hasParser language s = answer at hanswer h
  have hlast (s : Session) (hlookup : s.parsers.lookup language = none) (outcome : Bool) :
      (s.remembering language outcome).parsers.lookup language = some outcome := by
    rw [Session.remembering_of_unknown hlookup, List.lookup_append, hlookup]
    simp
  cases hanswer with
  | known hlookup =>
    cases h
    exact hlookup
  | loaded hlookup _ =>
    cases h
    exact hlast s hlookup true
  | failed hlookup _ _ _ =>
    cases h
    exact hlast (s.shows _) hlookup false
  | refused _ _ _ _ => cases h

theorem Step.lookup_parsers {activity : Activity} (hc : Step activity c)
    (h : s.parsers.lookup language = some found) :
    (c s).2.parsers.lookup language = some found := by
  cases hc with
  | ofWorld question _ => exact h
  | post _ => exact h
  | catalogue =>
    obtain ⟨_, _, hcatalogue⟩ := catalogue_snd s
    rw [hcatalogue]
    exact h
  | hasParser other =>
    have hanswer := parserAnswer other s
    generalize Run.hasParser other s = answer at hanswer
    -- Only what is not known yet is looked for, and it is remembered after all the rest.
    have hmore (s : Session) (h : s.parsers.lookup language = some found)
        (hlookup : s.parsers.lookup other = none) (outcome : Bool) :
        (s.remembering other outcome).parsers.lookup language = some found := by
      rw [Session.remembering_of_unknown hlookup, List.lookup_append, h]
      rfl
    cases hanswer with
    | known _ => exact h
    | loaded hlookup _ => exact hmore s h hlookup true
    | failed hlookup _ _ _ => exact hmore (s.shows _) h hlookup false
    | refused hlookup _ _ hparsers =>
      rcases hparsers with rfl | ⟨-, rfl⟩
      · exact h
      · exact hmore s h hlookup true
  | ofRegistry question => exact h
  | record words => exact h
  | install _ _ _ => exact h
  | change _ => exact h

/-- What is remembered about a parser stays. -/
theorem MadeOf.lookup_parsers {activities : List Activity} (hc : MadeOf activities c)
    (h : s.parsers.lookup language = some found) :
    (c s).2.parsers.lookup language = some found := by
  let stays (s t : Session) : Prop :=
    s.parsers.lookup language = some found → t.parsers.lookup language = some found
  have hstays : stays s (c s).2 :=
    hc.relates_of_steps (fun _ => id) (fun hrs hst hr => hst (hrs hr))
      (fun _ _ _ _ hstep _ => hstep.lookup_parsers) s
  exact hstays h

/-- Where everything is shown, a parser is found or none. -/
theorem findsParser_total (language : String) (hs : s.Lenient) :
    ∃ found, s.findsParser language = .ok found := by
  obtain ⟨_, _, happly⟩ := hasParser_apply language s
  rw [← show (hasParser language s).1 = s.findsParser language by rw [happly]]
  have hanswer := parserAnswer language s
  generalize hasParser language s = answer at hanswer
  cases hanswer with
  | known _ => exact ⟨_, rfl⟩
  | loaded _ _ => exact ⟨_, rfl⟩
  | failed _ _ _ _ => exact ⟨_, rfl⟩
  | refused _ _ hrefusal _ =>
    rw [show s.world.console = .lenient from hs] at hrefusal
    rcases hrefusal with ⟨hrefusal, -⟩ | ⟨-, hrefusal, -⟩
    · cases hrefusal
    · cases hrefusal

/-- Whoever looks for the symbols of a text asks for the parser of its language. -/
theorem lookup_parsers_symbolsOfText {catalogue : Catalogue} (text : String)
    (h : s.currentCatalogue = .ok catalogue) (hfinds : s.findsParser language = .ok found) :
    (symbolsOfText text language s).2.parsers.lookup language = some found := by
  obtain ⟨s₁, hlisted⟩ := entryFor_total language h
  obtain ⟨_, _, hsnd⟩ := entryFor_snd language s
  rw [hlisted] at hsnd
  have hsame : s₁.findsParser language = .ok found := by
    rw [show s₁ = _ from hsnd]
    exact hfinds
  obtain ⟨parsers, notices, hparser⟩ := hasParser_apply language s₁
  rw [hsame] at hparser
  have hremembered := lookup_parsers_hasParser (congrArg Prod.fst hparser)
  rw [symbolsOfText, bind_of_ok hlisted, bind_of_ok hparser]
  rw [hparser] at hremembered
  -- What follows shows notices at most.
  rcases catalogue.entryFor? language with _ | entry
  · exact hremembered
  · cases found with
    | false => exact hremembered
    | true => exact hremembered

end Run

namespace Survey

section Run

variable {repository path : Path} {language : String} {budget : Option Int} {s t : Session}

/-! ## Files that are read -/

theorem keeps_parsers_warn {α : Type} (text : String) (a : α) :
    Run.Keeps Session.parsers (do Run.say text; return a) :=
  (Run.keeps_parsers_say text).bind fun _ _ => rfl

/-- Whoever reads a file of a language asks for its parser. -/
theorem lookup_parsers_fileSymbols {catalogue : Catalogue} {content : ByteArray} {found : Bool}
    (hcatalogue : s.currentCatalogue = .ok catalogue)
    (hread : s.world.disk.read path = .ok content)
    (hfinds : s.findsParser language = .ok found) :
    (fileSymbols path language s).2.parsers.lookup language = some found := by
  have hdisk : Run.onDisk (·.read path) s = (.ok content, s) := by
    rw [Run.onDisk_apply, hread]
    rfl
  have hcontent : fileContent path s = (.ok (Discovery.fileText content), s) := bind_of_ok hdisk
  have hremembered :=
    Run.lookup_parsers_symbolsOfText (Discovery.fileText content) hcatalogue hfinds
  rw [fileSymbols, bind_of_ok (Run.attempt_apply _ s), bind_of_ok hcontent]
  cases (Run.symbolsOfText (Discovery.fileText content) language s).1 with
  | ok symbols => exact hremembered
  | error fault => rwa [keeps_parsers_warn]

/-- After the symbols of a file are read no parser is asked for until the next file. -/
theorem parsers_fileRecord (path : Path) (language : String) (budget : Option Int) (s : Session) :
    (fileRecord path language budget s).2.parsers = (fileSymbols path language s).2.parsers := by
  have hentry : Run.Keeps Session.parsers (Run.entryFor language) := by
    intro s
    obtain ⟨_, _, hsnd⟩ := Run.entryFor_snd language s
    rw [hsnd]
  rcases hsymbols : fileSymbols path language s with ⟨fault | symbols, r⟩
  · rw [fileRecord, bind_of_error hsymbols]
  · rw [fileRecord, bind_of_ok hsymbols, bind_of_ok (Run.disk_apply r)]
    cases withinBudget budget symbols with
    | error fault => rw [bind_of_error (Run.ofExcept_apply _ r)]
    | ok kept =>
      rw [bind_of_ok (Run.ofExcept_apply _ r)]
      refine hentry.bind (fun entry => ?_) r
      exact fun _ => rfl

theorem parsers_surveyFile (repository path : Path) (language : String) (budget : Option Int)
    (progress : Progress) (s : Session) :
    (surveyFile repository language budget progress path s).2.parsers =
      (fileSymbols path language s).2.parsers := by
  rw [surveyFile, bind_of_ok (Run.attempt_apply _ s), bind_of_ok (Run.disk_apply s),
    ← parsers_fileRecord path language budget s]
  rcases hfile : fileRecord path language budget s with ⟨fault | file, r⟩
  · rw [bind_of_error hfile]
    exact keeps_parsers_warn _ _ r
  · rw [bind_of_ok hfile]
    rcases place? s.world.disk repository path with _ | _ | _
    · exact keeps_parsers_warn _ _ r
    · exact keeps_parsers_warn _ _ r
    · rfl

/-- A survey goes on with the record of the file, or without it. -/
theorem surveyFile_eq_ok {p q : Progress}
    (h : surveyFile repository language budget p path s = (.ok q, t)) :
    q = p ∨ ∃ names file r, fileRecord path language budget s = (.ok file, r) ∧
      q = p.add names file := by
  rw [surveyFile, bind_of_ok (Run.attempt_apply _ s), bind_of_ok (Run.disk_apply s)] at h
  have hwarned {text : String} {r : Session}
      (h : (do Run.say text; return p : Run Progress) r = (.ok q, t)) : q = p := by
    obtain ⟨_, _, -, h⟩ := bind_eq_ok.1 h
    cases h
    rfl
  rcases hfile : fileRecord path language budget s with ⟨fault | file, r⟩
  · rw [bind_of_error hfile] at h
    exact .inl (hwarned h)
  · rw [bind_of_ok hfile] at h
    rcases hplace : place? s.world.disk repository path with _ | _ | ⟨name, rest⟩
    · rw [hplace] at h
      exact .inl (hwarned h)
    · rw [hplace] at h
      exact .inl (hwarned h)
    · rw [hplace] at h
      cases h
      exact .inr ⟨_, file, r, rfl, rfl⟩

/-- Without a parser a file has no symbols. -/
theorem symbols_eq_nil_of_fileRecord {file : FileRecord}
    (hparser : s.findsParser language = .ok false)
    (h : fileRecord path language budget s = (.ok file, t)) : file.symbols = [] := by
  obtain ⟨forest, r, hforest, -, -, hkept⟩ := fileRecord_eq_ok h
  have hnil : forest = [] := by
    rcases fileSymbols_eq_ok hforest with hnil | ⟨content, r', -, hsymbols⟩
    · exact hnil
    · rcases Run.symbolsOfText_eq_ok hsymbols with hnil | ⟨entry, tree, hparses⟩
      · exact hnil
      · -- Only a parser gives a tree.
        cases hparser.symm.trans hparses.findsParser
  rw [hnil] at hkept
  rcases hkept with hall | htop
  · exact hall
  · exact htop

/-! ## Going over the files -/

/-- No file of the language has symbols. -/
def Silent (language : String) (progress : Progress) : Prop :=
  ∀ file ∈ progress.root.allFiles, file.language = language → file.symbols = []

theorem silent_root (language : String) : Silent language ⟨.root, 0⟩ := by
  intro file hfile
  cases hfile

theorem Silent.add {progress : Progress} (h : Silent language progress) (names : List String)
    {file : FileRecord} (hfile : file.language = language → file.symbols = []) :
    Silent language (progress.add names file) := by
  intro other hother hlanguage
  rcases List.mem_cons.1 ((Folder.allFiles_addFile_perm _ _ _).subset hother) with rfl | hmem
  · exact hfile hlanguage
  · exact h other hmem hlanguage

section Steps

variable {situation : World × Except Fault Catalogue}
  {parsing : (String → Option String) × Console × (String → Except Fault Bool)} {found : Bool}
  {p q : Progress}

/-- What each step keeps as long as the same parsers are found is kept by all of them. -/
theorem foldlM_keeps {α : Type} {items : List α} {step : Progress → α → Run Progress}
    {P : Progress → Prop} (hextracts : ∀ p a, Run.Extracts (step p a))
    (hstep : ∀ a ∈ items, ∀ p q s t, s.world.Reports → s.parsing = parsing → P p →
      step p a s = (.ok q, t) → P q)
    (hreports : s.world.Reports) (hs : s.parsing = parsing) (hp : P p)
    (h : items.foldlM step p s = (.ok q, t)) : P q := by
  induction items generalizing p s with
  | nil =>
    cases h
    exact hp
  | cons a rest ih =>
    rw [List.foldlM_cons] at h
    obtain ⟨p', s', ha, h⟩ := bind_eq_ok.1 h
    have hsame : s'.parsing = s.parsing := (hextracts p a).parsing_of_eq hreports ha
    have hp' := hstep a List.mem_cons_self p p' s s' hreports hs hp ha
    exact ih (fun a ha => hstep a (List.mem_cons_of_mem _ ha))
      (Session.reports_of_parsing hsame hreports) (hsame.trans hs) hp' h

/-- What one of the steps has found out about a parser is remembered at the end. -/
theorem foldlM_remembers {α : Type} {items : List α} {step : Progress → α → Run Progress}
    (hextracts : ∀ p a, Run.Extracts (step p a)) {a : α} (ha : a ∈ items)
    (hstep : ∀ p q s t, s.world.Reports → s.situation = situation → s.parsing = parsing →
      step p a s = (.ok q, t) → t.parsers.lookup language = some found)
    (hreports : s.world.Reports) (hs : s.situation = situation) (hs' : s.parsing = parsing)
    (h : items.foldlM step p s = (.ok q, t)) : t.parsers.lookup language = some found := by
  induction items generalizing p s with
  | nil => cases ha
  | cons b rest ih =>
    rw [List.foldlM_cons] at h
    obtain ⟨p', r, hb, hothers⟩ := bind_eq_ok.1 h
    rcases List.mem_cons.1 ha with rfl | hrest
    · have hextracts : Run.Extracts (rest.foldlM step p') := .foldlM hextracts p'
      have hlater := hextracts.lookup_parsers (hstep p p' s r hreports hs hs' hb)
      rwa [hothers] at hlater
    · have hsame : r.parsing = s.parsing := (hextracts p b).parsing_of_eq hreports hb
      exact ih hrest (Session.reports_of_parsing hsame hreports)
        (((hextracts p b).keeps.of_eq hb).trans hs) (hsame.trans hs') hothers

theorem surveyFile_silent {other : String} (hparser : parsing.2.2 language = .ok false)
    (hs : s.parsing = parsing) (hp : Silent language p)
    (h : surveyFile repository other budget p path s = (.ok q, t)) : Silent language q := by
  rcases surveyFile_eq_ok h with rfl | ⟨names, file, r, hfile, rfl⟩
  · exact hp
  · refine hp.add names fun hlanguage => ?_
    obtain ⟨-, -, -, hother, -⟩ := fileRecord_eq_ok hfile
    obtain rfl : other = language := hother.symm.trans hlanguage
    have hfinds : s.findsParser other = .ok false := by
      rw [← hs] at hparser
      exact hparser
    exact symbols_eq_nil_of_fileRecord hfinds hfile

theorem surveyGroup_silent {group : String × List Path}
    (hparser : parsing.2.2 language = .ok false) (hreports : s.world.Reports)
    (hs : s.parsing = parsing) (hp : Silent language p)
    (h : surveyGroup repository budget p group s = (.ok q, t)) : Silent language q := by
  obtain ⟨_, r, hsay, h⟩ := bind_eq_ok.1 h
  have hr : r.parsing = s.parsing := (Run.keeps_parsing_say _).of_eq hsay
  exact foldlM_keeps (extracts_surveyFile repository group.1 budget)
    (fun _ _ _ _ _ _ _ hs hp hstep => surveyFile_silent hparser hs hp hstep)
    (Session.reports_of_parsing hr hreports) (hr.trans hs) hp h

theorem surveyOther_silent (hp : Silent language p)
    (h : surveyOther repository p path s = (.ok q, t)) : Silent language q := by
  rw [surveyOther_apply] at h
  split at h
  · cases h
  · cases h
    exact hp.add _ fun _ => rfl

theorem surveyGroup_remembers {catalogue : Catalogue} {content : ByteArray}
    {group : String × List Path} (hcatalogue : situation.2 = .ok catalogue)
    (hpath : path ∈ group.2) (hread : situation.1.disk.read path = .ok content)
    (hfound : parsing.2.2 group.1 = .ok found) (hreports : s.world.Reports)
    (hs : s.situation = situation) (hs' : s.parsing = parsing)
    (h : surveyGroup repository budget p group s = (.ok q, t)) :
    t.parsers.lookup group.1 = some found := by
  obtain ⟨_, r, hsay, h⟩ := bind_eq_ok.1 h
  have hr : r.situation = situation := ((Run.keeps_say _).of_eq hsay).trans hs
  have hr' : r.parsing = s.parsing := (Run.keeps_parsing_say _).of_eq hsay
  refine foldlM_remembers (extracts_surveyFile repository group.1 budget) hpath ?_
    (Session.reports_of_parsing hr' hreports) hr (hr'.trans hs') h
  rintro p q s t - rfl rfl hstep
  have hremembered := lookup_parsers_fileSymbols hcatalogue hread hfound
  rw [← parsers_surveyFile repository path group.1 budget p s, hstep] at hremembered
  exact hremembered

end Steps

section SumUp

variable {scan : Scan} {languages : List (String × LanguageSupport)} {summary : Summary}

theorem sumUp_eq_ok (h : sumUp repository budget scan languages s = (.ok summary, t)) :
    ∃ filed progress r r',
      scan.groups.foldlM (surveyGroup repository budget) ⟨.root, 0⟩ s = (.ok filed, r) ∧
      scan.others.foldlM (surveyOther repository) filed r = (.ok progress, r') ∧
      summary.folder = progress.root ∧
      summary.supportedLanguages =
        scan.groups.map (fun (language, _) => (language, supported languages language)) ∧
      t.world = r'.world ∧ t.parsers = r'.parsers := by
  obtain ⟨filed, r, hfiled, h⟩ := bind_eq_ok.1 h
  obtain ⟨progress, r', hprogress, h⟩ := bind_eq_ok.1 h
  obtain ⟨_, r'', hsay, h⟩ := bind_eq_ok.1 h
  cases h
  exact ⟨filed, progress, r, r', hfiled, hprogress, rfl, rfl,
    Session.world_eq_of_situation ((Run.keeps_say _).of_eq hsay),
    (Run.keeps_parsers_say _).of_eq hsay⟩

/-- Summing up leaves the world as it was. -/
theorem world_of_sumUp (h : sumUp repository budget scan languages s = (.ok summary, t)) :
    t.world = s.world := by
  obtain ⟨filed, progress, r, r', hfiled, hprogress, -, -, hworld, -⟩ := sumUp_eq_ok h
  have hgroups : Run.Extracts (scan.groups.foldlM (surveyGroup repository budget) ⟨.root, 0⟩) :=
    .foldlM (extracts_surveyGroup repository budget) _
  have hothers : Run.Looks (scan.others.foldlM (surveyOther repository) filed) :=
    .foldlM (looks_surveyOther repository) _
  rw [hworld, Session.world_eq_of_situation (hothers.keeps.of_eq hprogress),
    Session.world_eq_of_situation (hgroups.keeps.of_eq hfiled)]

/-- The parser of a language is asked for when one of its files can be read. -/
theorem sumUp_remembers {catalogue : Catalogue} {content : ByteArray} {group : String × List Path}
    (h : sumUp repository budget scan languages s = (.ok summary, t))
    (hcatalogue : s.currentCatalogue = .ok catalogue) (hgroup : group ∈ scan.groups)
    (hpath : path ∈ group.2) (hread : s.world.disk.read path = .ok content)
    (hreports : s.world.Reports) {found : Bool} (hfound : s.findsParser group.1 = .ok found) :
    t.parsers.lookup group.1 = some found := by
  obtain ⟨filed, progress, r, r', hfiled, hprogress, -, -, -, hparsers⟩ := sumUp_eq_ok h
  have hothers : Run.Looks (scan.others.foldlM (surveyOther repository) filed) :=
    .foldlM (looks_surveyOther repository) _
  have hremembered : r.parsers.lookup group.1 = some found :=
    foldlM_remembers (extracts_surveyGroup repository budget) hgroup
      (fun _ _ s' _ hr (hs : s'.situation = s.situation) (hs' : s'.parsing = s.parsing) hstep =>
        surveyGroup_remembers hcatalogue hpath hread hfound hr hs hs' hstep)
      hreports rfl rfl hfiled
  have hlater := hothers.lookup_parsers hremembered
  rw [hprogress] at hlater
  rw [hparsers]
  exact hlater

/-- Without a parser the files of a language have no symbols. -/
theorem sumUp_silent (h : sumUp repository budget scan languages s = (.ok summary, t))
    (hreports : s.world.Reports) (hparser : s.findsParser language = .ok false) :
    ∀ file ∈ summary.folder.allFiles, file.language = language → file.symbols = [] := by
  obtain ⟨filed, progress, r, r', hfiled, hprogress, hfolder, -⟩ := sumUp_eq_ok h
  have hgroups : Run.Extracts (scan.groups.foldlM (surveyGroup repository budget) ⟨.root, 0⟩) :=
    .foldlM (extracts_surveyGroup repository budget) _
  have hsame : r.parsing = s.parsing := hgroups.parsing_of_eq hreports hfiled
  have hsilent : Silent language filed :=
    foldlM_keeps (extracts_surveyGroup repository budget)
      (fun _ _ _ _ _ _ hr hs hp hstep => surveyGroup_silent hparser hr hs hp hstep) hreports rfl
      (silent_root language) hfiled
  have hall : Silent language progress :=
    foldlM_keeps (fun p path => (looks_surveyOther repository p path).mono)
      (fun _ _ _ _ _ _ _ _ hp hstep => surveyOther_silent hp hstep)
      (Session.reports_of_parsing hsame hreports) rfl hsilent hprogress
  rw [hfolder]
  exact hall

end SumUp

end Run

/-! ## What a summary tells, and what the survey finds -/

/-- What a summary tells about a language, next to whether the survey finds a parser for it. -/
structure Account (catalogue : Catalogue) (repository : Path) (session after : Session)
    (summary : Summary) (language : String) (told found : Bool) : Prop where
  /-- The summary tells whether the language is supported. -/
  tells : summary.supportedLanguages.lookup language = some told
  /-- This is whether the module of the language can be imported, if the dialogue sees a file of the
  language. -/
  told_eq : told = (catalogue.seenEntry?
    (Support.endingsOf (Support.seenFiles session.world.git session.world.disk repository))
    language).any (·.isImportable after.world.modules)
  /-- The survey finds a parser or none, if the console shows what the user is told about it. -/
  finds : (Run.hasParser language).Unrefused session →
    (Run.hasParser language session).1 = .ok found
  /-- Without a parser no file of the language has symbols. -/
  silent : found = false →
    ∀ file ∈ summary.folder.allFiles, file.language = language → file.symbols = []

section Account

variable {repository : Path} {f : LanguageFilter} {limit budget : Option Int}
  {session after : Session} {summary : Summary}

/-- Until the files are gone over, a survey finds the same parsers. -/
theorem parsing_of_offer {text : String} {scan : Scan} {languages : List (String × LanguageSupport)}
    {s s₁ s₂ s₃ : Session} (hreports : s.world.Reports) (hsay : Run.say text s = (.ok (), s₁))
    (hscan : Discovery.scan repository f limit false s₁ = (.ok scan, s₂))
    (hoffer : Support.offer repository s₂ = (.ok languages, s₃)) : s₃.parsing = s.parsing := by
  have h₁ : s₁.parsing = s.parsing := (Run.keeps_parsing_say text).of_eq hsay
  have h₂ : s₂.parsing = s.parsing :=
    ((Discovery.looks_scan repository f limit false).parsing_of_eq
      (Session.reports_of_parsing h₁ hreports) hscan).trans h₁
  exact ((Support.installs_offer repository).parsing_of_eq
    (Session.reports_of_parsing h₂ hreports) hoffer).trans h₂

theorem support_account_of_lenient (hs : session.Lenient)
    (h : run repository f limit budget session = (.ok summary, after)) :
    ∃ catalogue scan scanned, session.currentCatalogue = .ok catalogue ∧
      Discovery.scan repository f limit false session = (.ok scan, scanned) ∧
      ∀ path ∈ scan.files, ∀ language, session.groupOf? path = some language →
        ∃ told found, Account catalogue repository session after summary language told found ∧
          ((∃ content, session.world.disk.read path = .ok content) →
            after.parsers.lookup language = some found) := by
  obtain ⟨_, s₁, hsay, h⟩ := bind_eq_ok.1 h
  obtain ⟨scan, s₂, hscan, h⟩ := bind_eq_ok.1 h
  obtain ⟨languages, s₃, hoffer, h⟩ := bind_eq_ok.1 h
  have hlooks := Discovery.looks_scan repository f limit false
  have hinstalls := Support.installs_offer repository
  have h₁ : s₁.situation = session.situation := (Run.keeps_say _).of_eq hsay
  have h₂ : s₂.situation = session.situation := (hlooks.keeps.of_eq hscan).trans h₁
  have hworld := Session.world_eq_of_situation h₂
  -- The parsers that are found stay the same, and no module is installed after the dialogue.
  have hreports : session.world.Reports := World.reports_of_lenient hs
  have hparsing := parsing_of_offer hreports hsay hscan hoffer
  have hreports₃ := Session.reports_of_parsing hparsing hreports
  have hfinds : s₃.findsParser = session.findsParser :=
    congrArg (fun parsing => parsing.2.2) hparsing
  obtain ⟨catalogue, hcatalogue, hlanguages⟩ := Support.offer_eq_ok hoffer
  obtain ⟨hdisk, -, -, hcurrent⟩ := Session.surroundings_eq_iff.1 (hinstalls.keeps.of_eq hoffer)
  obtain ⟨scanned, hscanned, -⟩ := hlooks.determined.exists_eq h₁ hscan
  rw [hworld, ← world_of_sumUp h] at hlanguages
  refine ⟨catalogue, scan, scanned, ?_, hscanned, fun path hpath language hgroup => ?_⟩
  · rw [← hcatalogue, Session.currentCatalogue_eq_of_situation h₂]
  have hmember : (language, path) ∈ Discovery.members scan.groups := by
    rw [(Discovery.scanned_of_scan hscanned).groups, Discovery.mem_members_grouped]
    exact ⟨hpath, hgroup⟩
  obtain ⟨found, hfound⟩ := Run.findsParser_total language hs
  refine ⟨supported languages language, found, ⟨?_, ?_, fun _ => ?_, ?_⟩, ?_⟩
  · obtain ⟨-, -, -, -, -, -, -, hsupported, -⟩ := sumUp_eq_ok h
    rw [hsupported]
    exact lookup_map_of_mem (supported languages) hmember
  · exact Support.supported_ofEntries hlanguages language
  · obtain ⟨parsers, notices, happly⟩ := Run.hasParser_apply language session
    rw [happly]
    exact hfound
  · rintro rfl
    exact sumUp_silent h hreports₃ (hfinds ▸ hfound)
  · rintro ⟨content, hread⟩
    obtain ⟨group, hmem, hfile⟩ := List.mem_flatMap.1 hmember
    obtain ⟨other, hother, heq⟩ := List.mem_map.1 hfile
    cases heq
    rw [← hworld, ← hdisk] at hread
    exact sumUp_remembers h (hcurrent.trans hcatalogue) hmem hother hread hreports₃
      (hfinds ▸ hfound)

/-- What a summary tells about the support of a language is decided by the modules, and which files
have symbols is decided by the parsers. So it tells the truth exactly when the module can be
imported where there is a parser, and only there. -/
theorem run_support_account (hshown : (run repository f limit budget).Unrefused session)
    (h : run repository f limit budget session = (.ok summary, after)) :
    ∃ catalogue scan, session.currentCatalogue = .ok catalogue ∧
      (Discovery.scan repository f limit false session).1 = .ok scan ∧
      ∀ path ∈ scan.files, ∀ language, session.groupOf? path = some language →
        ∃ told found, Account catalogue repository session after summary language told found ∧
          ((∃ content, session.world.disk.read path = .ok content) →
            after.parsers.lookup language = some found) := by
  obtain ⟨after', hopen, rfl⟩ := (works_run repository f limit budget).openly_of_unrefused hshown h
  obtain ⟨catalogue, scan, _, hcatalogue, hscan, haccounts⟩ :=
    support_account_of_lenient session.lenient_openly hopen
  obtain ⟨scanned, hscanned⟩ := scan_of_run_openly h hscan
  refine ⟨catalogue, scan, ?_, by rw [hscanned], fun path hpath language hgroup => ?_⟩
  · -- The dialogue needs a catalogue, so there is one.
    obtain ⟨_, found, _, _, _, _, _, _, _, -, hsituation, hoffer, -⟩ := run_eq_ok h
    obtain ⟨current, hcurrent, -⟩ := Support.offer_eq_ok hoffer
    rw [Session.currentCatalogue_eq_of_situation hsituation] at hcurrent
    rw [hcurrent, ← hcatalogue, Session.currentCatalogue_openly hcurrent]
  · rw [← session.groupOf?_openly] at hgroup
    obtain ⟨told, found, haccount, hremembered⟩ := haccounts path hpath language hgroup
    refine ⟨told, found, ⟨haccount.tells, haccount.told_eq, fun hparser => ?_, haccount.silent⟩,
      hremembered⟩
    have hstep : Run.MadeOf [.extract] (Run.hasParser language) :=
      .step List.mem_cons_self (.hasParser language)
    rw [hstep.apply_eq hparser]
    exact haccount.finds (Run.unrefused_of_lenient _ session.lenient_openly)

end Account

namespace Mismatch

/-- The text of the file. -/
def text : String := "class A: pass"

/-- Why there is no parser when none can be loaded. -/
def packMissing : String := "No module named 'tree_sitter_language_pack'"

/-- A session in the folder of a repository with one file that declares a class. The user does not
want anything to be installed. -/
def session (modules : List String) (problem? : Option String) : Session := .start {
  disk := {
    tree := .folder [("w", .folder [("r", .folder [("a.py", .file text.toUTF8)])])]
    here := .ofString "/w" }
  git := { files := .ok ⟨0, "a.py\n", "", []⟩ }
  packages := []
  answers := [false]
  console := .lenient
  modules
  parserProblem? := fun _ => problem?
  parsed := [⟨"python", text, .mk "module" 0 13 0
    [.mk "class_definition" 0 13 0 [.mk "identifier" 6 7 0 [] []] []] []⟩]
  catalogue := .standard }

theorem lenient_session (modules : List String) (problem? : Option String) :
    (session modules problem?).Lenient := rfl

/-- The repository. -/
def repository : Path := .ofString "r"

/-- The file of the repository. -/
def file : Path := .ofString "/w/r/a.py"

/-- What a survey tells about languages, how many symbols the files have, and the parsers that were
asked for. -/
def findings (session : Session) :
    Option (List (String × Bool) × List Nat × List (String × Bool)) :=
  let (result, after) := run repository (.names []) none (some 25) session
  result.toOption.map fun summary =>
    (summary.supportedLanguages, summary.folder.allFiles.map (·.symbols.length), after.parsers)

theorem findings_without_module :
    findings (session [] none) =
      some ([("python", false)], [1], [("python", true)]) := by
  decide +kernel

theorem scan_files :
    (Discovery.scan repository (.names []) none false (session [] none)).1.toOption.map (·.files) =
      some [file] := by
  decide +kernel

theorem groupOf?_file (modules : List String) (problem? : Option String) :
    (session modules problem?).groupOf? file = some "python" := rfl

theorem read_file (modules : List String) (problem? : Option String) :
    (session modules problem?).world.disk.read file = .ok text.toUTF8 := rfl

end Mismatch

theorem run_support_account_unaided :
    ∃ summary after,
      run Mismatch.repository (.names []) none (some 25) (Mismatch.session [] none) =
        (.ok summary, after) ∧
      Account .standard Mismatch.repository (Mismatch.session [] none) after summary
        "python" false true ∧
      after.parsers.lookup "python" = some true := by
  have hfindings := Mismatch.findings_without_module
  have hfiles := Mismatch.scan_files
  rw [Mismatch.findings] at hfindings
  rcases h : run Mismatch.repository (.names []) none (some 25)
    (Mismatch.session [] none) with ⟨fault | summary, after⟩
  · rw [h] at hfindings
    cases hfindings
  · have hlenient := Mismatch.lenient_session [] none
    obtain ⟨catalogue, scan, hcatalogue, hscan, hall⟩ :=
      run_support_account (Run.unrefused_of_lenient _ hlenient) h
    obtain rfl : catalogue = .standard := (Except.ok.inj hcatalogue).symm
    rw [hscan] at hfiles
    have hscanFiles : scan.files = [Mismatch.file] := Option.some.inj hfiles
    obtain ⟨told, found, haccount, hremembered⟩ := hall _ (hscanFiles ▸ List.mem_cons_self)
      "python" (Mismatch.groupOf?_file _ _)
    rw [h] at hfindings
    have htold : summary.supportedLanguages = [("python", false)] :=
      congrArg Prod.fst (Option.some.inj hfindings)
    obtain rfl : false = told := by
      have htells := haccount.tells
      rw [htold] at htells
      exact Option.some.inj htells
    obtain rfl : true = found :=
      Except.ok.inj (haccount.finds (Run.unrefused_of_lenient _ hlenient))
    exact ⟨summary, after, rfl, haccount, hremembered ⟨_, Mismatch.read_file _ _⟩⟩

/-- Without the module the language is told not to be supported, although its parser is there and
finds the class. With the module and without parsers it is the other way round. -/
theorem run_misjudges :
    Mismatch.findings (Mismatch.session [] none) =
        some ([("python", false)], [1], [("python", true)]) ∧
      Mismatch.findings (Mismatch.session ["tree_sitter_python"] (some Mismatch.packMissing)) =
        some ([("python", true)], [0], [("python", false)]) := by
  refine ⟨Mismatch.findings_without_module, ?_⟩
  decide +kernel

end Survey

end SourceOutline
