import Mathlib.Data.List.Forall2
import Mathlib.Data.List.Nodup
import SourceOutline.Proofs.Console

/-!
# What a session remembers

A session remembers the catalogue once it is loaded, and for each language whether a parser was
found. Two facts make this invisible to what is done later, in a world in which the user can be told
about the parsers (`World.Reports`).

The *outlook* of a session is all that an operation can learn from it: the world, the catalogue, for
each language what comes of asking for its parser, and the extractors. It does not tell what was
loaded and what was not. Every step does the same in sessions with the same outlook
(`Run.MadeOf.respects_alike`).

A session is *sound* when the catalogue that it remembers is what loading it again would give, and
the loading of parsers was reported as it is remembered. Every step leads from a sound session to a
sound one, and what is once loaded stays (`Run.MadeOf.leadsTo`).

The parsers of the world may come and go, and a session may remember that there was none. A sound
session has the outlook of one that remembers nothing, in a world with those parsers that the
session finds (`Session.Sound.outlook_eq`). This is its own world, unless the parsers have changed.
-/

namespace SourceOutline

/-- The notice reports that the parser of a language was loaded, or for some reason could not be. -/
def Notice.ReportsOn (notice : Notice) : String × Bool → Prop
  | (language, true) => notice = .line ("Loaded parser for " ++ language)
  | (language, false) =>
    ∃ reason, notice = .line ("ERROR: Parser failed for " ++ language ++ ": " ++ reason)

/-- The user can be told about the parsers of the world: the console shows the report on each one
that is there, and the advice for those that are not. -/
structure World.Reports (world : World) : Prop where
  loaded : ∀ language, world.parserProblem? language = none →
    world.console.refusal? (.line ("Loaded parser for " ++ language)) = none
  advice : world.console.refusal? (.line "    Try: pip install tree-sitter-language-pack") = none

theorem World.reports_of_lenient {world : World} (h : world.console = .lenient) :
    world.Reports := by
  constructor
  · intro language _
    rw [h]
    rfl
  · rw [h]
    rfl

theorem World.Reports.congr {w v : World} (h : w.Reports)
    (hparsers : v.parserProblem? = w.parserProblem?) (hconsole : v.console = w.console) :
    v.Reports := by
  constructor
  · rw [hparsers, hconsole]
    exact h.loaded
  · rw [hconsole]
    exact h.advice

namespace Session

/-- All that an operation can learn from a session. -/
def outlook (session : Session) :
    World × Except Fault Catalogue × (String → Except Fault Bool) × Registry :=
  (session.world.withoutParsers, session.currentCatalogue, session.findsParser, session.registry)

theorem outlook_eq_iff {s t : Session} :
    s.outlook = t.outlook ↔ s.world.withoutParsers = t.world.withoutParsers ∧
      s.currentCatalogue = t.currentCatalogue ∧ s.findsParser = t.findsParser ∧
      s.registry = t.registry := by
  simp only [outlook, Prod.mk.injEq]

/-- Two sessions have the same outlook, and in both the user can be told about parsers. -/
structure Alike (s t : Session) : Prop where
  outlook : s.outlook = t.outlook
  left : s.world.Reports
  right : t.world.Reports

/-- The world shows what the session shows: it differs from the world of the session in nothing but
the parsers, and asking for a parser gives what it gives in the session. -/
structure Shows (session : Session) (world : World) : Prop where
  rest : world.withoutParsers = session.world.withoutParsers
  parsers : ∀ language, (start world).findsParser language = session.findsParser language
  reports : world.Reports

/-- The catalogue that a session remembers is what loading it again would give, and the notices
report the loading of each parser that it knows, once and in the same order. The console shows what
was shown. -/
structure Sound (session : Session) : Prop where
  loaded : ∀ c, session.catalogue = some c →
    Run.openCatalogue session.world.catalogue = .ok (.ok c)
  distinct : (session.parsers.map (·.1)).Nodup
  reported : List.Forall₂ Notice.ReportsOn (session.notices.filter (·.reportsLoad)) session.parsers
  shown : ∀ notice ∈ session.notices, session.world.console.refusal? notice = none

/-- One session comes after another: what is loaded and shown stays, and so do the source of the
catalogue, the console and the extractors. -/
structure LeadsTo (s t : Session) : Prop where
  sound : s.world.Reports → s.Sound → t.Sound
  reports : s.world.Reports → t.world.Reports
  catalogue : ∀ c, s.catalogue = some c → t.catalogue = some c
  source : t.world.catalogue = s.world.catalogue
  console : t.world.console = s.world.console
  registry : t.registry = s.registry

namespace LeadsTo

variable {r s t : Session}

theorem refl (s : Session) : s.LeadsTo s := ⟨fun _ => id, id, fun _ => id, rfl, rfl, rfl⟩

theorem trans (h : r.LeadsTo s) (h' : s.LeadsTo t) : r.LeadsTo t where
  sound hreports hr := h'.sound (h.reports hreports) (h.sound hreports hr)
  reports hreports := h'.reports (h.reports hreports)
  catalogue c hc := h'.catalogue c (h.catalogue c hc)
  source := h'.source.trans h.source
  console := h'.console.trans h.console
  registry := h'.registry.trans h.registry

end LeadsTo

theorem sound_start (world : World) : (start world).Sound :=
  ⟨fun _ h => (nomatch h), List.nodup_nil, .nil, fun _ h => (nomatch h)⟩

/-- A sound session has the outlook of a session in which nothing has happened. -/
theorem Sound.outlook_eq {session : Session} {world : World} (h : session.Sound)
    (hregistry : session.registry = .initial) (hshows : session.Shows world) :
    session.outlook = (start world).outlook := by
  refine outlook_eq_iff.2 ⟨hshows.rest.symm, ?_, ?_, hregistry⟩
  · have hsource : (start world).world.catalogue = session.world.catalogue := by
      have hrest := congrArg World.catalogue hshows.rest
      exact hrest
    have hconsole : (start world).world.console = session.world.console := by
      have hrest := congrArg World.console hshows.rest
      exact hrest
    rw [currentCatalogue, currentCatalogue, hsource, hconsole]
    cases hc : session.catalogue with
    | none => rfl
    | some c =>
      rw [h.loaded c hc]
      rfl
  · funext language
    exact (hshows.parsers language).symm

/-- What is remembered about a parser was reported, and the console showed it. -/
theorem Sound.exists_report {session : Session} (h : session.Sound) {language : String}
    {found : Bool} (hlookup : session.parsers.lookup language = some found) :
    ∃ notice, notice.ReportsOn (language, found) ∧
      session.world.console.refusal? notice = none := by
  have hreport {notices : List Notice} {parsers : List (String × Bool)} {p : String × Bool}
      (hall : List.Forall₂ Notice.ReportsOn notices parsers) (hp : p ∈ parsers) :
      ∃ notice ∈ notices, notice.ReportsOn p := by
    induction hall with
    | nil => cases hp
    | cons hfirst _ ih =>
      rcases List.mem_cons.1 hp with rfl | hrest
      · exact ⟨_, List.mem_cons_self, hfirst⟩
      · obtain ⟨notice, hnotice, hon⟩ := ih hrest
        exact ⟨notice, List.mem_cons_of_mem _ hnotice, hon⟩
  obtain ⟨before, rest, hparsers, -⟩ := List.lookup_eq_some_iff.1 hlookup
  obtain ⟨notice, hnotice, hon⟩ := hreport h.reported (p := (language, found)) (by simp [hparsers])
  exact ⟨notice, hon, h.shown notice (List.mem_of_mem_filter hnotice)⟩

/-- What comes of loading a parser depends on the problem with it and on the console. -/
theorem loading_congr {w v : World} {language : String}
    (hproblem : w.parserProblem? language = v.parserProblem? language)
    (hconsole : w.console = v.console) : Run.loading w language = Run.loading v language := by
  rw [Run.loading, Run.loading, Run.loadProblem?, Run.loadProblem?, hproblem, hconsole]

/-- There is always a world that shows what the session shows. -/
theorem exists_shows {session : Session} (h : session.Sound) (hreports : session.world.Reports) :
    ∃ world, session.Shows world := by
  -- For each language there is a problem, or none, with which it is found again as remembered.
  have hproblem (language : String) : ∃ problem : Option String,
      Run.loading { session.world with parserProblem? := fun _ => problem } language =
        session.findsParser language ∧
      (problem = none →
        session.world.console.refusal? (.line ("Loaded parser for " ++ language)) = none) := by
    rw [findsParser]
    cases hlookup : session.parsers.lookup language with
    | none =>
      exact ⟨session.world.parserProblem? language, loading_congr rfl rfl,
        hreports.loaded language⟩
    | some found =>
      obtain ⟨notice, hon, hshown⟩ := h.exists_report hlookup
      cases found with
      | true =>
        obtain rfl : notice = Run.loadedNotice language := hon
        refine ⟨none, ?_, fun _ => hshown⟩
        rw [Run.loading, Run.loadProblem?, Option.none_or, hshown]
        rfl
      | false =>
        obtain ⟨reason, rfl⟩ := hon
        refine ⟨some reason, ?_, fun hnone => absurd hnone (Option.some_ne_none reason)⟩
        have hfailed : session.world.console.receive (Run.failedNotice language reason) = .ok () :=
          Console.receive_of_shown hshown
        have hadvice : session.world.console.receive Run.loadAdvice = .ok () :=
          Console.receive_of_shown hreports.advice
        rw [Run.loading, Run.loadProblem?, Option.some_or]
        dsimp only
        rw [hfailed, hadvice]
        rfl
  choose problem hfinds hloaded using hproblem
  refine ⟨{ session.world with parserProblem? := problem }, rfl, fun language => ?_, ?_⟩
  · rw [← hfinds language]
    exact loading_congr rfl rfl
  · exact ⟨hloaded, hreports.advice⟩

/-! ## Single steps -/

/-- Notices that report no loading can be added at any time. -/
theorem leadsTo_shows (s : Session) {added : List Notice}
    (h : ∀ notice ∈ added, notice.reportsLoad = false)
    (hshown : ∀ notice ∈ added, s.world.console.refusal? notice = none) :
    s.LeadsTo (s.shows added) := by
  have hnone : added.filter (·.reportsLoad) = [] :=
    List.filter_eq_nil_iff.2 fun notice hnotice => by simp [h notice hnotice]
  refine ⟨fun _ hs => ⟨hs.loaded, hs.distinct, ?_, ?_⟩, id, fun _ => id, rfl, rfl, rfl⟩
  · rw [shows, List.filter_append, hnone, List.append_nil]
    exact hs.reported
  · intro notice hnotice
    exact (List.mem_append.1 hnotice).elim (hs.shown notice) (hshown notice)

theorem leadsTo_post (s : Session) {notice : Notice} (h : notice.reportsLoad = false) :
    s.LeadsTo (Run.post notice s).2 := by
  cases hrefusal : s.world.console.refusal? notice with
  | none =>
    rw [Run.post_of_shown hrefusal]
    exact s.leadsTo_shows (List.forall_mem_singleton.2 h) (List.forall_mem_singleton.2 hrefusal)
  | some reason =>
    rw [Run.post_of_refused hrefusal]
    exact .refl s

theorem leadsTo_catalogue (s : Session) : s.LeadsTo (Run.catalogue s).2 := by
  rw [Run.catalogue_apply]
  cases hc : s.catalogue with
  | some c => exact .refl s
  | none =>
    rcases hopened : Run.openCatalogue s.world.catalogue with fault | reason | c
    · exact .refl s
    · have hplain : (Notice.unreadCatalogue reason).reportsLoad = false :=
        Unrelated.reportsLoad (Unrelated.of_opens (.ofList rfl))
      have hposted := s.leadsTo_post hplain
      dsimp only
      rcases hpost : Run.post (.unreadCatalogue reason) s with ⟨fault | _, t⟩
      · rw [hpost] at hposted
        rw [bind_of_error hpost]
        exact hposted
      · rw [hpost] at hposted
        rw [bind_of_ok hpost]
        exact hposted
    · refine ⟨fun _ hs => ⟨?_, hs.distinct, hs.reported, hs.shown⟩, id, ?_, rfl, rfl, rfl⟩
      · rintro _ ⟨⟩
        exact hopened
      · intro other hother
        rw [hc] at hother
        cases hother

/-- What comes of asking for a parser when the user can be told: nothing changes, or an outcome that
was not known before is reported and remembered. -/
inductive Learns (language : String) (s : Session) : Except Fault Bool × Session → Prop
  | nothing : Learns language s (s.findsParser language, s)
  | outcome {found : Bool} {report : Notice} {rest : List Notice}
    (hlookup : s.parsers.lookup language = none) (hfinds : s.findsParser language = .ok found)
    (hreport : report.ReportsOn (language, found))
    (hreports : (report :: rest).filter (·.reportsLoad) = [report])
    (hshown : ∀ notice ∈ report :: rest, s.world.console.refusal? notice = none) :
    Learns language s (.ok found,
      { s with
        parsers := s.parsers ++ [(language, found)], notices := s.notices ++ report :: rest })

/-- What was not known before is remembered after all the rest. -/
theorem remembering_of_unknown {s : Session} {language : String}
    (h : s.parsers.lookup language = none) (found : Bool) :
    s.remembering language found =
      { s with parsers := s.parsers ++ [(language, found)] } := by
  have hall : s.parsers.filter (·.1 != language) = s.parsers := by
    refine List.filter_eq_self.2 fun p hp => ?_
    have hne : language ≠ p.1 := by simpa using List.lookup_eq_none_iff.1 h p hp
    exact bne_iff_ne.2 hne.symm
  rw [remembering, hall]

theorem learns_hasParser (language : String) {s : Session} (h : s.world.Reports) :
    Learns language s (Run.hasParser language s) := by
  obtain ⟨parsers, notices, happly⟩ := Run.hasParser_apply language s
  have hanswer := Run.parserAnswer language s
  have hfinds : (Run.hasParser language s).1 = s.findsParser language := by rw [happly]
  generalize Run.hasParser language s = answer at hanswer hfinds
  clear happly
  cases hanswer with
  | @known found hlookup =>
    have hfound : .ok found = s.findsParser language := hfinds
    rw [hfound]
    exact .nothing
  | loaded hlookup hproblem =>
    obtain ⟨-, hshown⟩ := Option.or_eq_none_iff.1 hproblem
    rw [remembering_of_unknown hlookup]
    refine .outcome hlookup hfinds.symm rfl ?_ (List.forall_mem_singleton.2 hshown)
    simp [Run.loadedNotice, Notice.reportsLoad, loadStarts, List.isPrefixOf]
  | @failed reason hlookup hproblem hfailed hadvice =>
    rw [remembering_of_unknown (s := s.shows _) hlookup]
    refine .outcome hlookup hfinds.symm ⟨reason, rfl⟩ ?_ ?_
    · simp [Run.failedNotice, Run.loadAdvice, Notice.reportsLoad, loadStarts, List.isPrefixOf]
    · exact List.forall_mem_cons.2 ⟨hfailed, List.forall_mem_singleton.2 hadvice⟩
  | @refused _ refusal _ _ hlookup hproblem hrefusal hparsers =>
    have hfault : .error (.unshown refusal) = s.findsParser language := hfinds
    -- A parser that is there would have been reported, and the advice would have been shown.
    rcases hrefusal with ⟨-, rfl⟩ | ⟨-, hadvice, -⟩
    · rcases hparsers with rfl | ⟨hthere, -⟩
      · rw [hfault, shows_nil]
        exact .nothing
      · rw [Run.loadProblem?, hthere, Option.none_or, Run.loadedNotice,
          h.loaded language hthere] at hproblem
        cases hproblem
    · cases h.advice.symm.trans hadvice

theorem leadsTo_hasParser (language : String) (s : Session) :
    s.LeadsTo (Run.hasParser language s).2 := by
  obtain ⟨parsers, notices, happly⟩ := Run.hasParser_apply language s
  refine ⟨fun hreports hs => ?_, ?_, ?_, ?_, ?_, ?_⟩
  · have hlearns := learns_hasParser language hreports
    generalize Run.hasParser language s = answer at hlearns
    cases hlearns with
    | nothing => exact hs
    | outcome hlookup _ hreport hone hshown =>
      refine ⟨hs.loaded, ?_, ?_, ?_⟩
      · -- The language is loaded because it was not among those that are known.
        rw [List.map_append, List.map_singleton]
        refine List.nodup_append.2 ⟨hs.distinct, List.nodup_singleton _, ?_⟩
        rintro name hname _ hnew rfl
        obtain ⟨entry, hentry, rfl⟩ := List.mem_map.1 hname
        have hne := List.lookup_eq_none_iff.1 hlookup entry hentry
        simp [List.mem_singleton.1 hnew] at hne
      · rw [List.filter_append, hone]
        exact List.rel_append hs.reported (.cons hreport .nil)
      · intro notice hnotice
        exact (List.mem_append.1 hnotice).elim (hs.shown notice) (hshown notice)
  · rw [happly]
    exact id
  · rw [happly]
    exact fun _ => id
  · rw [happly]
  · rw [happly]
  · rw [happly]

/-- Whatever changes in the world, what was loaded stays, as long as the catalogue comes from where
it came from, the console stays and the user can still be told about parsers. -/
theorem leadsTo_world {change : World → World} (h : ∀ w, (change w).catalogue = w.catalogue)
    (hconsole : ∀ w, (change w).console = w.console)
    (hreports : ∀ w : World, w.Reports → (change w).Reports) (s : Session) :
    s.LeadsTo { s with world := change s.world } := by
  refine ⟨fun _ hs => ⟨?_, hs.distinct, hs.reported, ?_⟩, hreports _, fun _ => id, h _, hconsole _,
    rfl⟩
  · rw [h]
    exact hs.loaded
  · rw [hconsole]
    exact hs.shown

theorem leadsTo_mild {change : World → World} (h : Run.Mild change) (s : Session) :
    s.LeadsTo { s with world := change s.world } :=
  s.leadsTo_world h.catalogue h.console fun w hw => hw.congr (h.parserProblem? w) (h.console w)

/-- Which parsers are found depends on nothing but those that are remembered, those in the world and
the console. -/
theorem findsParser_congr {s t : Session} (hparsers : s.parsers = t.parsers)
    (hworld : s.world.parserProblem? = t.world.parserProblem?)
    (hconsole : s.world.console = t.world.console) : s.findsParser = t.findsParser := by
  funext language
  rw [findsParser, findsParser, hparsers, loading_congr (congrFun hworld language) hconsole]

/-- Asking for a parser changes the outlook in nothing. -/
theorem outlook_hasParser (language : String) {s : Session} (h : s.world.Reports) :
    (Run.hasParser language s).2.outlook = s.outlook := by
  have hlearns := learns_hasParser language h
  generalize Run.hasParser language s = answer at hlearns
  cases hlearns with
  | nothing => rfl
  | outcome hlookup hfinds _ _ _ =>
    refine outlook_eq_iff.2 ⟨rfl, rfl, ?_, rfl⟩
    funext other
    -- What is remembered now is what would have been found.
    by_cases heq : other = language
    · rw [heq, hfinds, findsParser, List.lookup_append, hlookup]
      simp
    · have hne : (other == language) = false := by simpa using heq
      rw [findsParser, findsParser, List.lookup_append, List.lookup_cons, hne]
      simp

theorem outlook_catalogue (s : Session) : (Run.catalogue s).2.outlook = s.outlook := by
  have hsituation := Run.situation_catalogue s
  obtain ⟨_, _, hcatalogue⟩ := Run.catalogue_snd s
  rw [hcatalogue] at hsituation ⊢
  exact outlook_eq_iff.2 ⟨rfl, currentCatalogue_eq_of_situation hsituation, rfl, rfl⟩

end Session

namespace Run

variable {α : Type} {c : Run α} {activity : Activity} {activities : List Activity}

theorem Step.leadsTo (h : Step activity c) (s : Session) : s.LeadsTo (c s).2 := by
  cases h with
  | ofWorld question _ => exact .refl s
  | post hpost => exact s.leadsTo_post hpost
  | catalogue => exact s.leadsTo_catalogue
  | hasParser language => exact s.leadsTo_hasParser language
  | ofRegistry question => exact .refl s
  | record words =>
    exact ⟨fun _ hs => ⟨hs.loaded, hs.distinct, hs.reported, hs.shown⟩, id, fun _ => id, rfl, rfl,
      rfl⟩
  | install hmild _ _ => exact s.leadsTo_mild hmild
  | change hmild => exact s.leadsTo_mild hmild

/-- A computation that is put together from steps leads on from where it starts, also when it
fails. -/
theorem MadeOf.leadsTo (h : MadeOf activities c) (s : Session) : s.LeadsTo (c s).2 :=
  h.relates_of_steps .refl .trans (fun _ _ => Step.leadsTo) s

theorem Step.respects_alike (h : Step activity c) : Respects Session.Alike c := by
  intro s t hst
  obtain ⟨hworld, hcatalogue, hparser, hregistry⟩ := Session.outlook_eq_iff.1 hst.outlook
  suffices hboth : (c s).1 = (c t).1 ∧ (c s).2.outlook = (c t).2.outlook from
    ⟨hboth.1, hboth.2, (h.leadsTo s).reports hst.left, (h.leadsTo t).reports hst.right⟩
  -- A change of the world has the same outcome in both sessions.
  have hmild {change : World → World} (h : Mild change) :
      ({ s with world := change s.world } : Session).outlook =
        ({ t with world := change t.world } : Session).outlook := by
    have hfinds (r : Session) :
        ({ r with world := change r.world } : Session).findsParser = r.findsParser :=
      Session.findsParser_congr rfl (h.parserProblem? r.world) (h.console r.world)
    refine Session.outlook_eq_iff.2 ⟨?_, ?_, ?_, hregistry⟩
    · rw [h.withoutParsers, h.withoutParsers, hworld]
    · rw [Step.currentCatalogue_of_mild h, Step.currentCatalogue_of_mild h, hcatalogue]
    · rw [hfinds, hfinds, hparser]
  cases h with
  | ofWorld question hbare =>
    have hsame : s.world.bare = t.world.bare :=
      congrArg (fun w => ({ w with console := .lenient } : World)) hworld
    refine ⟨congrArg Except.ok ?_, hst.outlook⟩
    rw [← hbare s.world, ← hbare t.world, hsame]
  | post _ =>
    have hconsole : s.world.withoutParsers.console = t.world.withoutParsers.console :=
      congrArg World.console hworld
    have hconsole : s.world.console = t.world.console := hconsole
    rw [post_fst, post_fst, hconsole]
    exact ⟨rfl, hst.outlook⟩
  | catalogue =>
    rw [catalogue_fst, catalogue_fst, Session.outlook_catalogue, Session.outlook_catalogue]
    exact ⟨hcatalogue, hst.outlook⟩
  | hasParser language =>
    rw [Session.outlook_hasParser language hst.left, Session.outlook_hasParser language hst.right]
    refine ⟨?_, hst.outlook⟩
    obtain ⟨_, _, hs⟩ := hasParser_apply language s
    obtain ⟨_, _, ht⟩ := hasParser_apply language t
    rw [hs, ht]
    exact congrFun hparser language
  | ofRegistry question =>
    refine ⟨?_, hst.outlook⟩
    change Except.ok (question s.registry) = Except.ok (question t.registry)
    rw [hregistry]
  | record words => exact ⟨rfl, hst.outlook⟩
  | install h _ _ => exact ⟨rfl, hmild h⟩
  | change h => exact ⟨rfl, hmild h⟩

/-- What a computation gives depends on the outlook only. -/
theorem MadeOf.respects_alike (h : MadeOf activities c) : Respects Session.Alike c :=
  h.respects_of_steps fun _ _ => Step.respects_alike

end Run

namespace Session

/-- The parsers of the world, the console, and for each language what comes of asking for its
parser. -/
def parsing (session : Session) :
    (String → Option String) × Console × (String → Except Fault Bool) :=
  (session.world.parserProblem?, session.world.console, session.findsParser)

theorem parsing_congr {s t : Session} (hparsers : s.parsers = t.parsers)
    (hworld : s.world.parserProblem? = t.world.parserProblem?)
    (hconsole : s.world.console = t.world.console) : s.parsing = t.parsing := by
  rw [parsing, parsing, findsParser_congr hparsers hworld hconsole, hworld, hconsole]

theorem reports_of_parsing {s t : Session} (h : t.parsing = s.parsing) (hs : s.world.Reports) :
    t.world.Reports :=
  hs.congr (congrArg Prod.fst h) (congrArg (fun parsing => parsing.2.1) h)

end Session

namespace Run

variable {α : Type} {c : Run α} {activity : Activity} {activities : List Activity}

theorem Step.parsing_eq (h : Step activity c) (s : Session) (hs : s.world.Reports) :
    (c s).2.parsing = s.parsing := by
  cases h with
  | ofWorld question _ => rfl
  | post _ => rfl
  | catalogue =>
    obtain ⟨_, _, hcatalogue⟩ := catalogue_snd s
    rw [hcatalogue]
    rfl
  | hasParser language =>
    have hfinds := (Session.outlook_eq_iff.1 (Session.outlook_hasParser language hs)).2.2.1
    obtain ⟨_, _, happly⟩ := hasParser_apply language s
    rw [Session.parsing, hfinds, happly]
    rfl
  | ofRegistry question => rfl
  | record words => rfl
  | install h _ _ => exact Session.parsing_congr rfl (h.parserProblem? s.world) (h.console s.world)
  | change h => exact Session.parsing_congr rfl (h.parserProblem? s.world) (h.console s.world)

/-- A computation leaves the parsers of the world as they are, and finds the same parsers later. -/
theorem MadeOf.parsing_eq (h : MadeOf activities c) {s : Session} (hs : s.world.Reports) :
    (c s).2.parsing = s.parsing := by
  let same (s t : Session) : Prop := s.world.Reports → t.parsing = s.parsing
  have hsame : same s (c s).2 := by
    refine h.relates_of_steps (fun _ _ => rfl) ?_ (fun _ _ _ _ hc => hc.parsing_eq) s
    intro r s t hrs hst hr
    have hs := hrs hr
    exact (hst (Session.reports_of_parsing hs hr)).trans hs
  exact hsame hs

end Run

end SourceOutline
