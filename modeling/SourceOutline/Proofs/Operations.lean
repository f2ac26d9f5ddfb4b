import SourceOutline.CommandLine.Program
import SourceOutline.Proofs.Caches
import SourceOutline.Proofs.Survey

/-!
# Operations on a session

What a session is asked to do, one operation after the other, while others may change the world
around it. The only things left out are registering an extractor, and changing where the catalogue
comes from or what notices are shown on.

However long a session has been going on, an operation gives what it would give if nothing had
happened before (`Session.transparent_after`): every operation is put together from steps
(`Operation.works`), and steps lead from one sound session to the next. Others may change the
parsers too. Then a session goes on with the outcomes that it remembers, as a new one would do in a
world with these outcomes.

All this holds where the user can be told about parsers (`World.Reports`). When the report on a
parser that was loaded is refused, the session still remembers the parser and asks for it no more.
-/

namespace SourceOutline

/-! ## Surveys and the command line -/

theorem Run.works_store (path : Path) (text : String) : Run.Works (Run.store path text) := by
  refine (Run.looks_onDisk _).mono.bind fun disk => ?_
  have hmild : Run.Mild fun world => { world with disk } := ⟨fun _ => rfl, fun _ _ _ => rfl⟩
  exact .step (by decide) (.change hmild)

/-- A written summary starts with a brace. -/
theorem Summary.unrelated_renderAscii (summary : Summary) : Unrelated summary.renderAscii := by
  simp [Unrelated, loadStarts, renderAscii, Json.render, document, Json.chars, clash]

/-- An outline starts with the name of the repository. -/
theorem Summary.unrelated_outline (summary : Summary) (byLanguage : Bool) :
    Unrelated (summary.outline byLanguage) := by
  simp [Unrelated, loadStarts, outline, Outline.headLines, String.toList_intercalate, clash]

namespace CommandLine

theorem works_deliver (request : ScanRequest) {content : String}
    (h : Unrelated content) : Run.Works (deliver request content) := by
  rw [deliver]
  cases request.output with
  | none => exact (Run.looks_say content h).mono
  | some path =>
    exact (Run.works_store path content).bind fun _ =>
      .ite (Run.looks_say _ (by exact .ofList rfl)).mono (.pure _)

theorem works_surveyAndDeliver (request : ScanRequest) (path : Path) :
    Run.Works (surveyAndDeliver request path) := by
  refine (Survey.works_run path _ _ _).bind fun summary => ?_
  refine .bind (works_deliver request ?_) fun _ => ?_
  · split
    · exact summary.unrelated_renderAscii
    · exact summary.unrelated_outline false
  · exact .ite (Run.looks_say _ (by exact .ofList rfl)).mono (.pure _)

theorem works_announce (request : ScanRequest) (path : Path) :
    Run.Works (announce request path) := by
  have hlimit : Run.Works (if request.maxFiles ≠ 0 then
      Run.say ("Max files: " ++ toString request.maxFiles) else pure ()) :=
    .ite (Run.looks_say _ (by exact .ofList rfl)).mono (.pure _)
  refine .ite ((Run.looks_say _ (by exact .ofList rfl)).mono.bind fun _ => ?_) (.pure _)
  exact .ite ((Run.looks_say _ (by exact .ofList rfl)).mono.bind fun _ => hlimit) hlimit

theorem works_scan (request : ScanRequest) : Run.Works (scan request) := by
  refine Run.looks_disk.mono.bind fun disk => (Run.looks_onDisk _).mono.bind fun hasEntry => ?_
  cases hasEntry with
  | false => exact (Run.looks_post rfl).mono.bind fun _ => .pure _
  | true =>
    refine (Run.looks_onDisk _).mono.bind fun hasFolder => ?_
    cases hasFolder with
    | false => exact (Run.looks_post rfl).mono.bind fun _ => .pure _
    | true =>
      refine (works_announce request _).bind fun _ => ?_
      refine .bind (.attempt (by decide) (works_surveyAndDeliver request _)) fun outcome => ?_
      cases outcome with
      | ok _ => exact .pure _
      | error fault =>
        refine (Run.looks_post rfl).mono.bind fun _ => ?_
        exact .ite ((Run.looks_post rfl).mono.bind fun _ => .pure _) (.pure _)

theorem works_version : Run.Works version :=
  (Run.looks_say _ (by exact .ofList rfl)).mono.bind fun _ => .pure _

theorem looks_tellLanguages (folder : Path) : Run.Looks (tellLanguages folder) := by
  refine (Support.looks_available folder).bind fun found => .ite ?_ (.pure _)
  refine (Run.looks_say _ (by exact .ofList rfl)).bind fun _ => ?_
  exact .forM fun _ => Run.looks_say _ (by exact .ofList rfl)

theorem works_languages : Run.Works languages := by
  refine (Run.looks_post rfl).mono.bind fun _ => ?_
  refine .bind (.step (by decide) (.ofRegistry (·.languages))) fun registered => ?_
  refine (Run.looks_say _ (by exact .ofList rfl)).mono.bind fun _ => ?_
  refine .bind (.forM fun _ => (Run.looks_say _ (by exact .ofList rfl)).mono) fun _ => ?_
  refine Run.looks_disk.mono.bind fun disk => ?_
  refine .bind (.attempt (by decide) (looks_tellLanguages disk.here).mono) fun outcome => ?_
  cases outcome with
  | ok _ => exact .pure _
  | error fault => exact (Run.looks_say _ (by exact .ofList rfl)).mono.bind fun _ => .pure _

theorem works_tellSurvey (path : Path) : Run.Works (tellSurvey path) := by
  refine (Survey.works_run _ _ _ _).bind fun summary => ?_
  refine (Run.looks_say _ (by exact .ofList rfl)).mono.bind fun _ => ?_
  refine (Run.looks_say _ (by exact .ofList rfl)).mono.bind fun _ => ?_
  refine (Run.looks_say _ (by exact .ofList rfl)).mono.bind fun _ => ?_
  exact (Run.looks_say _ (by exact .ofList rfl)).mono

theorem works_test (path : Option Path) : Run.Works (test path) := by
  refine Run.looks_disk.mono.bind fun disk => (Run.looks_post rfl).mono.bind fun _ => ?_
  refine .bind (.attempt (by decide) (works_tellSurvey _)) fun outcome => ?_
  cases outcome with
  | error fault => exact (Run.looks_post rfl).mono.bind fun _ => .pure _
  | ok _ => exact .pure _

theorem works_perform (command : Command) : Run.Works (perform command) := by
  cases command with
  | scan request => exact works_scan request
  | version => exact works_version
  | languages => exact works_languages
  | test path => exact works_test path
  | help => exact .pure _

theorem works_run (read : Reader) (arguments : List String) : Run.Works (run read arguments) :=
  .bind (.ofExcept _) works_perform

theorem works_runProcess (read : Reader) (arguments : List String) :
    Run.Works (runProcess read arguments) := by
  refine .bind (.attempt (by decide) (works_run read arguments)) fun outcome => ?_
  split
  · exact .pure _
  · exact .pure _
  · exact .pure _

end CommandLine

/-! ## What can be asked of a session -/

/-- An operation on a session that gives something of type `α`. -/
inductive Operation : Type → Type 1
  /-- The catalogue. -/
  | catalogue : Operation Catalogue
  /-- The entry of a language. -/
  | entryFor (language : String) : Operation (Option LanguageEntry)
  /-- The language of a file. -/
  | languageOf (path : Path) : Operation (Option String)
  /-- The file endings of a repository. -/
  | endings (repository : Path) : Operation (List String)
  /-- The support of the languages of a repository. -/
  | available (repository : Path) : Operation (List (String × LanguageSupport))
  /-- Telling about languages. -/
  | showStatus (languages : List (String × LanguageStatus)) : Operation (Option (List String))
  /-- Installing packages. -/
  | install (missing : List String) : Operation Bool
  /-- Offering to install what is missing for a repository. -/
  | offer (repository : Path) : Operation (List (String × LanguageSupport))
  /-- The files that git tracks. -/
  | gitFiles (repository : Path) : Operation (Option (List Path))
  /-- The files on disk. -/
  | diskFiles (repository : Path) : Operation (List Path)
  /-- The files of a repository. -/
  | discover (repository : Path) (includeIgnored : Bool) : Operation (List Path)
  /-- Grouping files by language. -/
  | classify (paths : List Path) : Operation (FileGroups × List Path)
  /-- Filtering files by language. -/
  | byLanguage (f : LanguageFilter) (paths : List Path) : Operation (List Path)
  /-- Scanning a repository. -/
  | scan (repository : Path) (f : LanguageFilter) (limit : Option Int) (includeIgnored : Bool) :
    Operation Scan
  /-- Asking for a parser. -/
  | hasParser (language : String) : Operation Bool
  /-- The symbols of a source text. -/
  | symbolsOfText (text language : String) : Operation (List Symbol)
  /-- The symbol of one declaration. -/
  | symbolAt (language text : String) (kind : SymbolKind) (site : Site) (insideClass : Bool) :
    Operation (Option Symbol)
  /-- The symbols of a file. -/
  | fileSymbols (path : Path) (language : String) : Operation (List Symbol)
  /-- The record of a file. -/
  | fileRecord (path : Path) (language : String) (budget : Option Int) : Operation FileRecord
  /-- Surveying a repository. -/
  | survey (repository : Path) (f : LanguageFilter) (limit budget : Option Int) : Operation Summary
  /-- Running a command line. -/
  | commandLine (read : CommandLine.Reader) (arguments : List String) : Operation (Option Int)
  /-- Running a command line to the end of the process. -/
  | process (read : CommandLine.Reader) (arguments : List String) : Operation Int
  /-- Writing a file. -/
  | store (path : Path) (text : String) : Operation Unit
  /-- A question that only needs the extractors and the world without its parsers and its
  console. -/
  | consult {α : Type} (question : World → Registry → Except Fault α)
    (h : ∀ w, question w.bare = question w) : Operation α

namespace Operation

variable {α : Type}

/-- The symbol of one declaration, which is taken for a type, an interface or a function. -/
def declaredSymbol (language text : String) (kind : SymbolKind) (site : Site) (insideClass : Bool) :
    Run (Option Symbol) := do
  let grammar : Grammar := ⟨language, ← Run.entryFor language, ← Run.extractor language, text⟩
  Run.noting (match kind with
    | .classType => grammar.classSymbol site
    | .interface => grammar.interfaceSymbol site
    | _ => grammar.functionSymbol site insideClass)

/-- All extractors. -/
def extractors : Run Registry := fun session => (.ok session.registry, session)

/-- What an operation does. -/
def run : Operation α → Run α
  | .catalogue => Run.catalogue
  | .entryFor language => Run.entryFor language
  | .languageOf path => Run.languageOf path
  | .endings repository => Support.endings repository
  | .available repository => Support.available repository
  | .showStatus languages => Support.showStatus languages
  | .install missing => Support.install missing
  | .offer repository => Support.offer repository
  | .gitFiles repository => Discovery.gitFiles repository
  | .diskFiles repository => Discovery.diskFiles repository
  | .discover repository includeIgnored => Discovery.discover repository includeIgnored
  | .classify paths => Discovery.classify paths
  | .byLanguage f paths => Discovery.byLanguage f paths
  | .scan repository f limit includeIgnored => Discovery.scan repository f limit includeIgnored
  | .hasParser language => Run.hasParser language
  | .symbolsOfText text language => Run.symbolsOfText text language
  | .symbolAt language text kind site insideClass =>
    declaredSymbol language text kind site insideClass
  | .fileSymbols path language => Survey.fileSymbols path language
  | .fileRecord path language budget => Survey.fileRecord path language budget
  | .survey repository f limit budget => Survey.run repository f limit budget
  | .commandLine read arguments => CommandLine.run read arguments
  | .process read arguments => CommandLine.runProcess read arguments
  | .store path text => Run.store path text
  | .consult question _ => do Run.ofExcept (question (← Run.world) (← extractors))

theorem extracts_declaredSymbol (language text : String) (kind : SymbolKind) (site : Site)
    (insideClass : Bool) : Run.Extracts (declaredSymbol language text kind site insideClass) := by
  refine (Run.looks_entryFor language).mono.bind fun entry => ?_
  refine (Run.extracts_extractor language).bind fun extractor =>
    (Run.looks_noting ?_).mono
  split
  · exact Grammar.plain_classSymbol _ site
  · exact Grammar.plain_interfaceSymbol _ site
  · exact Grammar.plain_functionSymbol _ site insideClass

/-- Every operation is put together from steps. -/
theorem works (operation : Operation α) : Run.Works operation.run := by
  cases operation with
  | catalogue => exact Run.looks_catalogue.mono
  | entryFor language => exact (Run.looks_entryFor language).mono
  | languageOf path => exact (Run.looks_languageOf path).mono
  | endings repository => exact (Support.looks_endings repository).mono
  | available repository => exact (Support.looks_available repository).mono
  | showStatus languages => exact (Support.looks_showStatus languages).mono
  | install missing => exact (Support.installs_install missing).mono
  | offer repository => exact (Support.installs_offer repository).mono
  | gitFiles repository => exact (Discovery.looks_gitFiles repository).mono
  | diskFiles repository => exact (Discovery.looks_diskFiles repository).mono
  | discover repository includeIgnored =>
    exact (Discovery.looks_discover repository includeIgnored).mono
  | classify paths => exact (Discovery.looks_classify paths).mono
  | byLanguage f paths => exact (Discovery.looks_byLanguage f paths).mono
  | scan repository f limit includeIgnored =>
    exact (Discovery.looks_scan repository f limit includeIgnored).mono
  | hasParser language => exact .step (by decide) (.hasParser language)
  | symbolsOfText text language => exact (Run.extracts_symbolsOfText text language).mono
  | symbolAt language text kind site insideClass =>
    exact (extracts_declaredSymbol language text kind site insideClass).mono
  | fileSymbols path language => exact (Survey.extracts_fileSymbols path language).mono
  | fileRecord path language budget => exact (Survey.extracts_fileRecord path language budget).mono
  | survey repository f limit budget => exact Survey.works_run repository f limit budget
  | commandLine read arguments => exact CommandLine.works_run read arguments
  | process read arguments => exact CommandLine.works_runProcess read arguments
  | store path text => exact Run.works_store path text
  | consult question h =>
    have hextractors : Run.Works extractors := .step (by decide) (.ofRegistry id)
    exact .bindWorld (fun world => hextractors.bind fun _ => .ofExcept _) fun world => by rw [h]

end Operation

/-! ## Whole sessions -/

/-- What happens in a session. -/
inductive Event : Type 1
  /-- It is asked for something. -/
  | ask {α : Type} (operation : Operation α)
  /-- Others change the world, but not where the catalogue comes from and not what notices are shown
  on. The user can still be told about parsers. -/
  | meanwhile (change : World → World) (h : ∀ w, (change w).catalogue = w.catalogue)
    (hconsole : ∀ w, (change w).console = w.console)
    (hreports : ∀ w : World, w.Reports → (change w).Reports)

namespace Event

/-- The session after an event, also when an operation fails. -/
def apply (session : Session) : Event → Session
  | .ask operation => (operation.run session).2
  | .meanwhile change _ _ _ => { session with world := change session.world }

/-- The event changes no parsers. -/
def KeepsParsers : Event → Prop
  | .ask _ => True
  | .meanwhile change _ _ _ => ∀ w, (change w).parserProblem? = w.parserProblem?

theorem leadsTo (event : Event) (session : Session) : session.LeadsTo (event.apply session) := by
  cases event with
  | ask operation => exact operation.works.leadsTo session
  | meanwhile change h hconsole hreports => exact session.leadsTo_world h hconsole hreports

theorem KeepsParsers.parsing {event : Event} (h : event.KeepsParsers) {session : Session}
    (hreports : session.world.Reports) : (event.apply session).parsing = session.parsing := by
  cases event with
  | ask operation => exact operation.works.parsing_eq hreports
  | meanwhile change _ hconsole _ =>
    exact Session.parsing_congr rfl (h session.world) (hconsole session.world)

end Event

namespace Session

/-- The session after some events. -/
def after (session : Session) (events : List Event) : Session := events.foldl Event.apply session

theorem leadsTo_after (session : Session) (events : List Event) :
    session.LeadsTo (session.after events) := by
  induction events generalizing session with
  | nil => exact .refl session
  | cons event rest ih => exact (event.leadsTo session).trans (ih _)

theorem parsing_after {session : Session} {events : List Event}
    (hreports : session.world.Reports) (h : ∀ event ∈ events, event.KeepsParsers) :
    (session.after events).parsing = session.parsing := by
  induction events generalizing session with
  | nil => rfl
  | cons event rest ih =>
    obtain ⟨hevent, hrest⟩ := List.forall_mem_cons.1 h
    have hfirst := hevent.parsing hreports
    exact (ih (reports_of_parsing hfirst hreports) hrest).trans hfirst

/-- What a session remembers after some events in a world makes no difference. -/
structure Transparent (world : World) (events : List Event) (session : Session) : Prop where
  /-- The catalogue still comes from where it came from. -/
  source : session.world.catalogue = world.catalogue
  /-- An operation gives what it gives in a session that remembers nothing, in any world that shows
  the same. -/
  answers : ∀ fresh, session.Shows fresh → ∀ {α : Type} (operation : Operation α),
    (operation.run session).1 = (operation.run (start fresh)).1
  /-- It also changes the world in the same way. -/
  effects : ∀ fresh, session.Shows fresh → ∀ {α : Type} (operation : Operation α),
    (operation.run session).2.world.withoutParsers =
      (operation.run (start fresh)).2.world.withoutParsers
  /-- There is such a world, and unless parsers were changed it is the one of the session. -/
  shown : (∃ fresh, session.Shows fresh) ∧
    ((∀ event ∈ events, event.KeepsParsers) → session.Shows session.world)
  /-- No catalogue is loaded, or all of the one that the source gives. -/
  complete : session.catalogue = none ∨
    ∃ c, session.catalogue = some c ∧ Run.openCatalogue world.catalogue = .ok (.ok c)
  /-- A catalogue that is loaded stays, whatever happens next. -/
  lasting : ∀ c, session.catalogue = some c → ∀ more, (session.after more).catalogue = some c
  /-- The languages whose parsers were asked for are different ones. -/
  distinct : (session.parsers.map (·.1)).Nodup
  /-- The loading of their parsers was reported once for each, and no other loading was. -/
  reported : List.Forall₂ Notice.ReportsOn (session.notices.filter (·.reportsLoad)) session.parsers

/-- Whatever happened in a session in which the user can be told about parsers, and whatever failed,
what the session remembers makes no difference. -/
theorem transparent_after (world : World) (hreports : world.Reports) (events : List Event) :
    Transparent world events ((start world).after events) := by
  have hleads := leadsTo_after (start world) events
  have hparsing : (∀ event ∈ events, event.KeepsParsers) →
      ((start world).after events).parsing = (start world).parsing := parsing_after hreports
  generalize (start world).after events = session at hleads hparsing
  have hsound : session.Sound := hleads.sound hreports (sound_start world)
  have hstill : session.world.Reports := hleads.reports hreports
  -- The session and a new one in a world that shows the same look the same to every operation.
  have halike (fresh : World) (hfresh : session.Shows fresh) : session.Alike (start fresh) :=
    ⟨hsound.outlook_eq hleads.registry hfresh, hstill, hfresh.reports⟩
  refine ⟨hleads.source, ?_, ?_, ⟨exists_shows hsound hstill, ?_⟩, ?_, ?_, hsound.distinct,
    hsound.reported⟩
  · intro fresh hfresh α operation
    exact (operation.works.respects_alike session _ (halike fresh hfresh)).1
  · intro fresh hfresh α operation
    have hoperation := (operation.works.respects_alike session _ (halike fresh hfresh)).2
    exact congrArg Prod.fst hoperation.outlook
  · intro hkeeps
    have hsame := hparsing hkeeps
    refine ⟨rfl, fun language => ?_, hstill⟩
    have hfinds : session.findsParser = (start world).findsParser :=
      congrArg (fun parsing => parsing.2.2) hsame
    have hproblem : session.world.parserProblem? = world.parserProblem? := congrArg Prod.fst hsame
    have hconsole : session.world.console = world.console :=
      congrArg (fun parsing => parsing.2.1) hsame
    rw [hfinds, findsParser_congr (s := start session.world) (t := start world) rfl hproblem
      hconsole]
  · cases hc : session.catalogue with
    | none => exact .inl rfl
    | some c =>
      have hopened := hsound.loaded c hc
      rw [hleads.source] at hopened
      exact .inr ⟨c, rfl, hopened⟩
  · intro c hc more
    exact (leadsTo_after session more).catalogue c hc

/-! ### A session on a console that refuses a text -/

namespace Picky

/-- A world with a parser for one language, on a console that shows all texts but one. -/
def world : World where
  disk := { tree := .folder [], here := .ofString "/" }
  git := {}
  packages := []
  answers := []
  console := ⟨fun notice => if notice = .line "Loaded parser for [/x]" then some "[/x]" else none⟩
  modules := []
  parserProblem? := fun language => if language = "rust" then none else some "no parser"
  parsed := []
  catalogue := .standard

theorem reports : world.Reports where
  loaded language h := by
    have hlanguage : language = "rust" := by
      by_contra hne
      exact Option.some_ne_none _ ((if_neg hne).symm.trans h)
    rw [hlanguage]
    decide
  advice := by decide

/-- A parser that is there is asked for, and one that is not. -/
def events : List Event := [.ask (.hasParser "rust"), .ask (.hasParser "[/x]")]

end Picky

theorem transparent_after_picky :
    Picky.world.Reports ∧
    ((start Picky.world).after Picky.events).parsers = [("rust", true), ("[/x]", false)] ∧
    Transparent Picky.world Picky.events ((start Picky.world).after Picky.events) :=
  ⟨Picky.reports, by decide, transparent_after Picky.world Picky.reports Picky.events⟩

end Session

end SourceOutline
