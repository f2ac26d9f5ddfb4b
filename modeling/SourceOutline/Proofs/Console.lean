import SourceOutline.Proofs.Session

/-!
# Computations on a console that refuses notices

A computation adds its notices to those that were shown before, and does not look at them
(`Run.Accumulates`). So what it shows can be told from any session (`Run.shownBy`), and what a
program shows is the row of what its parts show.

A computation is *unrefused* in a session when the console shows all that the computation would show
on a console that shows everything. Then it does the same as there (`Run.MadeOf.apply_eq`). A
computation that does not go on after faults otherwise breaks off at the first notice that is
refused (`Run.Installs.follows`). What a computation gives that only looks at the situation can be
told as a function of the session at its start (`Run.Yields`).
-/

namespace SourceOutline

namespace Session

/-- The session with other notices before its own. -/
def behind (s : Session) (before : List Notice) : Session :=
  { s with notices := before ++ s.notices }

/-- The session as if nothing had been shown. -/
def hushed (s : Session) : Session := { s with notices := [] }

theorem behind_hushed (s : Session) : s.hushed.behind s.notices = s := by
  rw [behind, hushed, List.append_nil]

/-- The session with another console. -/
def on (s : Session) (console : Console) : Session :=
  { s with world := { s.world with console } }

/-- The session with a console that shows everything. -/
abbrev openly (s : Session) : Session := s.on .lenient

theorem lenient_openly (s : Session) : s.openly.Lenient := rfl

theorem openly_of_lenient {s : Session} (h : s.Lenient) : s.openly = s := by
  rw [openly, ← h]
  rfl

theorem currentCatalogue_openly {s : Session} {c : Catalogue} (h : s.currentCatalogue = .ok c) :
    s.openly.currentCatalogue = .ok c := by
  rw [currentCatalogue] at h ⊢
  have hsource : s.openly.world.catalogue = s.world.catalogue := rfl
  have hloaded : s.openly.catalogue = s.catalogue := rfl
  rw [hloaded, hsource]
  rcases hc : s.catalogue with _ | loaded
  · rw [hc] at h
    rcases hopened : Run.openCatalogue s.world.catalogue with fault | reason | opened
    · rw [hopened] at h
      exact h
    · rw [hopened] at h
      obtain ⟨_, -, rfl⟩ := except_map_eq_ok.1 h
      rfl
    · rw [hopened] at h
      exact h
  · rw [hc] at h
    exact h

/-- What was shown and what was run is still there in another session. -/
structure Precedes (s t : Session) : Prop where
  notices : s.notices <+: t.notices
  commands : s.commands <+: t.commands

theorem Precedes.refl (s : Session) : s.Precedes s := ⟨List.prefix_refl _, List.prefix_refl _⟩

theorem Precedes.trans {r s t : Session} (h : r.Precedes s) (h' : s.Precedes t) : r.Precedes t :=
  ⟨h.notices.trans h'.notices, h.commands.trans h'.commands⟩

end Session

namespace Run

variable {α β : Type} {c : Run α} {activity : Activity} {activities : List Activity}

/-! ## Notices come after those before -/

/-- The computation adds notices to those before it, and what it does does not depend on them. -/
def Accumulates (c : Run α) : Prop :=
  ∀ before s, c (s.behind before) = ((c s).1, (c s).2.behind before)

theorem Accumulates.bind {x : Run α} {f : α → Run β} (hx : Accumulates x)
    (hf : ∀ a, Accumulates (f a)) : Accumulates (x >>= f) := by
  intro before s
  have hfirst := hx before s
  rcases h : x s with ⟨fault | a, t⟩
  · rw [h] at hfirst
    rw [bind_of_error h, bind_of_error hfirst]
  · rw [h] at hfirst
    rw [bind_of_ok h, bind_of_ok hfirst]
    exact hf a before t

theorem Accumulates.attempt (h : Accumulates c) : Accumulates (attempt c) := by
  intro before s
  rw [attempt_apply, attempt_apply, h before s]

/-- A computation may look at the session before it goes on, but not at the notices. -/
theorem Accumulates.bindGet {f : Session → Run α} (hf : ∀ s, Accumulates (f s))
    (hblind : ∀ before s, f (s.behind before) = f s) : Accumulates (get >>= f) := by
  intro before s
  rw [bind_of_ok (get_apply s), bind_of_ok (get_apply (s.behind before)), hblind]
  exact hf s before s

theorem accumulates_post (notice : Notice) : Accumulates (post notice) := by
  intro before s
  cases h : s.world.console.refusal? notice with
  | none =>
    have hbehind : (s.behind before).world.console.refusal? notice = none := h
    rw [post_of_shown h, post_of_shown hbehind, Session.behind, Session.behind, Session.shows,
      Session.shows, List.append_assoc]
  | some reason =>
    have hbehind : (s.behind before).world.console.refusal? notice = some reason := h
    rw [post_of_refused h, post_of_refused hbehind]

theorem accumulates_catalogue : Accumulates catalogue := by
  refine .bindGet (fun s => ?_) fun _ _ => rfl
  cases s.catalogue with
  | some c => exact fun _ _ => rfl
  | none =>
    have hworld : Accumulates world := fun _ _ => rfl
    refine hworld.bind fun w => .bind (fun _ _ => rfl) fun opened => ?_
    cases opened with
    | error reason => exact (accumulates_post _).bind fun _ _ _ => rfl
    | ok c => exact fun _ _ => rfl

theorem accumulates_hasParser (language : String) : Accumulates (hasParser language) := by
  have hload : Accumulates (loadParser language) := by
    have hworld : Accumulates world := fun _ _ => rfl
    refine hworld.bind fun w => ?_
    cases w.parserProblem? language with
    | some reason => exact fun _ _ => rfl
    | none =>
      have hremember : Accumulates (remember language true) := fun _ _ => rfl
      exact hremember.bind fun _ => accumulates_post _
  refine .bindGet (fun s => ?_) fun _ _ => rfl
  cases s.parsers.lookup language with
  | some found => exact fun _ _ => rfl
  | none =>
    refine hload.attempt.bind fun outcome => ?_
    cases outcome with
    | ok _ => exact fun _ _ => rfl
    | error fault =>
      exact (accumulates_post _).bind fun _ => (accumulates_post _).bind fun _ _ _ => rfl

theorem Step.accumulates (h : Step activity c) : Accumulates c := by
  cases h with
  | ofWorld question _ => exact fun _ _ => rfl
  | post _ => exact accumulates_post _
  | catalogue => exact accumulates_catalogue
  | hasParser language => exact accumulates_hasParser language
  | ofRegistry question => exact fun _ _ => rfl
  | record words => exact fun _ _ => rfl
  | install _ _ _ => exact fun _ _ => rfl
  | change _ => exact fun _ _ => rfl

theorem MadeOf.accumulates (h : MadeOf activities c) : Accumulates c := by
  induction h with
  | step _ hc => exact hc.accumulates
  | ofExcept result => exact fun _ _ => rfl
  | bind _ _ hx hf => exact hx.bind hf
  | attempt _ _ h => exact h.attempt

/-- What a computation shows when it starts in this session. -/
def shownBy (c : Run α) (s : Session) : List Notice := (c s.hushed).2.notices

theorem Accumulates.apply_hushed (h : Accumulates c) (s : Session) :
    c s = ((c s.hushed).1, (c s.hushed).2.behind s.notices) := by
  rw [← h, Session.behind_hushed]

/-- A session ends with what was shown before and what the computation shows. -/
theorem Accumulates.notices_eq (h : Accumulates c) (s : Session) :
    (c s).2.notices = s.notices ++ c.shownBy s := by
  rw [h.apply_hushed s]
  rfl

theorem Accumulates.shows (h : Accumulates c) (s : Session) (shown : List Notice) :
    (c (s.shows shown)).1 = (c s).1 ∧
      (c (s.shows shown)).2.notices = s.notices ++ shown ++ c.shownBy s := by
  refine ⟨?_, h.notices_eq (s.shows shown)⟩
  rw [h.apply_hushed (s.shows shown), h.apply_hushed s]
  rfl

section Bind

variable {x : Run α} {f : α → Run β} {s t : Session}

theorem shownBy_bind_of_error (hx : Accumulates x) {fault : Fault} (h : x s = (.error fault, t)) :
    (x >>= f).shownBy s = x.shownBy s := by
  have hhushed : x s.hushed = (.error fault, (x s.hushed).2) := by
    rw [hx.apply_hushed s] at h
    exact Prod.ext (Prod.mk.inj h).1 rfl
  rw [shownBy, bind_of_error hhushed]
  rfl

theorem shownBy_bind_of_ok (hx : Accumulates x) (hf : ∀ a, Accumulates (f a)) {a : α}
    (h : x s = (.ok a, t)) : (x >>= f).shownBy s = x.shownBy s ++ (f a).shownBy t := by
  rw [hx.apply_hushed s] at h
  obtain ⟨hfst, rfl⟩ := Prod.mk.inj h
  have hhushed : x s.hushed = (.ok a, (x s.hushed).2) := Prod.ext hfst rfl
  rw [shownBy, bind_of_ok hhushed, (hf a).notices_eq]
  rfl

end Bind

/-! ## What is shown and run stays -/

theorem precedes_post (notice : Notice) (s : Session) : s.Precedes (post notice s).2 := by
  cases h : s.world.console.refusal? notice with
  | none =>
    rw [post_of_shown h]
    exact ⟨List.prefix_append _ _, List.prefix_refl _⟩
  | some reason =>
    rw [post_of_refused h]
    exact .refl s

theorem Step.precedes (h : Step activity c) (s : Session) : s.Precedes (c s).2 := by
  refine ⟨by rw [h.accumulates.notices_eq s]; exact List.prefix_append _ _, ?_⟩
  cases h with
  | catalogue =>
    obtain ⟨_, _, hcatalogue⟩ := catalogue_snd s
    exact ⟨[], by rw [hcatalogue, List.append_nil]⟩
  | hasParser language =>
    obtain ⟨_, _, hparser⟩ := hasParser_apply language s
    exact ⟨[], by rw [hparser, List.append_nil]⟩
  | record words => exact List.prefix_append _ _
  | _ => exact List.prefix_refl _

theorem MadeOf.precedes (h : MadeOf activities c) (s : Session) : s.Precedes (c s).2 :=
  h.relates_of_steps .refl .trans (fun _ _ => Step.precedes) s

/-- What was shown and run stays, also when something follows. -/
theorem MadeOf.precedes_bind {x : Run α} {f : α → Run β} (hf : ∀ a, MadeOf activities (f a))
    (s : Session) : (x s).2.Precedes ((x >>= f) s).2 := by
  rcases h : x s with ⟨fault | a, t⟩
  · have hend : (x >>= f) s = (.error fault, t) := bind_of_error h
    rw [hend]
    exact .refl t
  · rw [bind_of_ok h]
    exact (hf a).precedes t

theorem Step.keeps_console (h : Step activity c) : Keeps (fun s => s.world.console) c := by
  intro s
  cases h with
  | ofWorld question _ => rfl
  | post _ => rfl
  | catalogue =>
    exact congrArg World.console (Session.world_eq_of_situation (situation_catalogue s))
  | hasParser language =>
    obtain ⟨_, _, hparser⟩ := hasParser_apply language s
    rw [hparser]
  | ofRegistry question => rfl
  | record words => rfl
  | install h _ _ => exact h.console s.world
  | change h => exact h.console s.world

theorem MadeOf.keeps_console (h : MadeOf activities c) : Keeps (fun s => s.world.console) c :=
  h.keeps_of_steps fun _ _ => Step.keeps_console

/-! ## Consoles that show enough -/

/-- The console of the session shows all that the computation shows when nothing is refused. -/
def Unrefused (c : Run α) (s : Session) : Prop :=
  ∀ notice ∈ c.shownBy s.openly, s.world.console.refusal? notice = none

theorem unrefused_of_lenient (c : Run α) {s : Session} (h : s.Lenient) : c.Unrefused s := by
  intro notice _
  rw [h]
  exact Console.refusal?_lenient notice

/-- The computation does what it does on a console that shows everything. -/
def Transfers (c : Run α) (s : Session) : Prop :=
  c s = ((c s.openly).1, (c s.openly).2.on s.world.console)

theorem transfers_post {notice : Notice} {s : Session}
    (h : s.world.console.refusal? notice = none) : Transfers (post notice) s := by
  rw [Transfers, post_of_shown h, post_apply notice s.lenient_openly]
  rfl

theorem transfers_catalogue {s : Session} (h : catalogue.Unrefused s) : Transfers catalogue s := by
  rw [Unrefused, shownBy, catalogue_apply] at h
  rw [Transfers, catalogue_apply, catalogue_apply]
  have hloaded : s.openly.catalogue = s.catalogue := rfl
  have hhushed : s.openly.hushed.catalogue = s.catalogue := rfl
  have hsource : s.openly.world.catalogue = s.world.catalogue := rfl
  have hworld : s.openly.hushed.world.catalogue = s.world.catalogue := rfl
  rw [hhushed, hworld] at h
  rw [hloaded, hsource]
  rcases hc : s.catalogue with _ | c
  · rcases hopened : openCatalogue s.world.catalogue with fault | reason | c
    · rfl
    · rw [hc, hopened] at h
      dsimp only at h ⊢
      rw [bind_of_ok (post_apply _ (s := s.openly.hushed) rfl)] at h
      have hshown := h (.unreadCatalogue reason) List.mem_cons_self
      rw [bind_of_ok (post_of_shown hshown), bind_of_ok (post_apply _ s.lenient_openly)]
      rfl
    · rfl
  · rfl

theorem transfers_hasParser {language : String} {s : Session}
    (h : (hasParser language).Unrefused s) : Transfers (hasParser language) s := by
  rw [Transfers]
  cases hlookup : s.parsers.lookup language with
  | some found =>
    rw [hasParser_of_known hlookup, hasParser_of_known (s := s.openly) hlookup]
    rfl
  | none =>
    have hadvice : s.openly.world.console.refusal? loadAdvice = none := rfl
    rw [Unrefused, shownBy] at h
    cases hproblem : s.world.parserProblem? language with
    | none =>
      have hopen : loadProblem? s.openly.world language = none := by
        rw [loadProblem?]
        exact Option.or_eq_none_iff.2 ⟨hproblem, rfl⟩
      rw [hasParser_of_loaded (s := s.openly.hushed) hlookup hopen] at h
      have hshown := h (loadedNotice language) List.mem_cons_self
      rw [hasParser_of_loaded (s := s.openly) hlookup hopen,
        hasParser_of_loaded hlookup (Option.or_eq_none_iff.2 ⟨hproblem, hshown⟩)]
      rfl
    | some reason =>
      have hload (w : World) (hw : w.parserProblem? language = some reason) :
          loadProblem? w language = some reason := by rw [loadProblem?, hw, Option.some_or]
      rw [hasParser_of_failed (s := s.openly.hushed) hlookup (hload _ hproblem) rfl rfl] at h
      have hfailed := h (failedNotice language reason) List.mem_cons_self
      have hlast := h loadAdvice (List.mem_cons_of_mem _ List.mem_cons_self)
      rw [hasParser_of_failed (s := s.openly) hlookup (hload _ hproblem) rfl rfl,
        hasParser_of_failed hlookup (hload _ hproblem) hfailed hlast]
      rfl

theorem Step.transfers (h : Step activity c) {s : Session} (hs : c.Unrefused s) :
    Transfers c s := by
  have hmild {change : World → World} (h : Mild change) :
      Transfers (modify fun session => { session with world := change session.world }) s := by
    rw [Transfers, modify_apply, modify_apply]
    have hopen := h.blind s.world s.world.parserProblem? .lenient
    have hback := h.same s.world
    refine congrArg (fun world => (Except.ok PUnit.unit, { s with world })) ?_
    rw [hback]
    change _ = { change { s.world with console := .lenient } with console := s.world.console }
    rw [hopen]
  cases h with
  | ofWorld question hbare =>
    have hsame : question s.world = question s.openly.world := by
      rw [← hbare s.world, ← hbare s.openly.world]
      rfl
    rw [Transfers, hsame]
    rfl
  | post _ =>
    refine transfers_post (hs _ ?_)
    rw [shownBy, post_apply _ (s := s.openly.hushed) rfl]
    exact List.mem_cons_self
  | catalogue => exact transfers_catalogue hs
  | hasParser language => exact transfers_hasParser hs
  | ofRegistry question => rfl
  | record words => rfl
  | install h _ _ => exact hmild h
  | change h => exact hmild h

/-- Where nothing is refused, a computation does what it does on a console that shows everything. -/
theorem MadeOf.apply_eq (h : MadeOf activities c) {s : Session} (hs : c.Unrefused s) :
    c s = ((c s.openly).1, (c s.openly).2.on s.world.console) := by
  induction h generalizing s with
  | step _ hc => exact hc.transfers hs
  | ofExcept result => rfl
  | @bind α β x f hx hf ihx ihf =>
    rcases hopen : x s.openly with ⟨fault | a, t⟩
    · rw [Unrefused, shownBy_bind_of_error hx.accumulates hopen] at hs
      have hfirst := ihx hs
      rw [hopen] at hfirst
      rw [bind_of_error hfirst, bind_of_error hopen]
    · rw [Unrefused, shownBy_bind_of_ok hx.accumulates (fun a => (hf a).accumulates) hopen] at hs
      have hfirst := ihx fun notice hnotice => hs notice (List.mem_append_left _ hnotice)
      rw [hopen] at hfirst
      -- The first part leaves the console alone, so the second part starts with it again.
      have ht : (t.on s.world.console).openly = t :=
        Session.openly_of_lenient (hx.keeps_console.of_eq hopen)
      have hrest := ihf a (s := t.on s.world.console) fun notice hnotice =>
        hs notice (List.mem_append_right _ (by rwa [ht] at hnotice))
      rw [bind_of_ok hfirst, bind_of_ok hopen, hrest, ht]
      rfl
  | attempt _ _ ih =>
    rw [attempt_apply, attempt_apply, ih hs]

theorem MadeOf.openly_of_unrefused (h : MadeOf activities c) {s t : Session} (hs : c.Unrefused s)
    {result : Except Fault α} (hc : c s = (result, t)) :
    ∃ t', c s.openly = (result, t') ∧ t = t'.on s.world.console := by
  rw [h.apply_eq hs] at hc
  obtain ⟨hfst, hsnd⟩ := Prod.mk.inj hc
  exact ⟨_, Prod.ext hfst rfl, hsnd.symm⟩

/-- Where nothing is refused, the same is shown as on a console that shows everything. -/
theorem MadeOf.shownBy_openly (h : MadeOf activities c) {s : Session} (hs : c.Unrefused s) :
    c.shownBy s = c.shownBy s.openly := by
  have hopen : (c s.openly).2.notices = s.notices ++ c.shownBy s.openly :=
    h.accumulates.notices_eq s.openly
  have hboth : s.notices ++ c.shownBy s = s.notices ++ c.shownBy s.openly := by
    rw [← h.accumulates.notices_eq s, ← hopen, h.apply_eq hs]
    rfl
  exact List.append_cancel_left hboth

/-- Where a row of computations is unrefused, each of them is when its turn comes. -/
theorem MadeOf.unrefused_of_bind {x : Run α} {f : α → Run β} {s : Session}
    (hx : MadeOf activities x) (hf : ∀ a, MadeOf activities (f a)) (hs : (x >>= f).Unrefused s) :
    x.Unrefused s ∧ ∀ a t, x s = (.ok a, t) → (f a).Unrefused t := by
  rcases hopen : x s.openly with ⟨fault | a, t⟩
  · rw [Unrefused, shownBy_bind_of_error hx.accumulates hopen] at hs
    refine ⟨hs, fun a t' hok => ?_⟩
    rw [hx.apply_eq hs, hopen] at hok
    cases hok
  · rw [Unrefused, shownBy_bind_of_ok hx.accumulates (fun a => (hf a).accumulates) hopen] at hs
    have hfirst : x.Unrefused s := fun notice hnotice =>
      hs notice (List.mem_append_left _ hnotice)
    refine ⟨hfirst, fun a' t' hok notice hnotice => ?_⟩
    rw [hx.apply_eq hfirst, hopen] at hok
    cases hok
    have ht : (t.on s.world.console).openly = t :=
      Session.openly_of_lenient (hx.keeps_console.of_eq hopen)
    rw [ht] at hnotice
    exact hs notice (List.mem_append_right _ hnotice)

/-- A parser that is found although notices may be refused is found when none is. -/
theorem findsParser_openly {s : Session} {language : String}
    (h : s.findsParser language = .ok true) : s.openly.findsParser language = .ok true := by
  have hparsers : s.openly.parsers = s.parsers := rfl
  rw [Session.findsParser] at h ⊢
  rw [hparsers]
  cases hlookup : s.parsers.lookup language with
  | some found =>
    rw [hlookup] at h
    exact h
  | none =>
    rw [hlookup, Option.elim_none, loading] at h
    cases hproblem : loadProblem? s.world language with
    | none =>
      obtain ⟨hthere, -⟩ := Option.or_eq_none_iff.1 hproblem
      have hopen : loadProblem? s.openly.world language = none :=
        Option.or_eq_none_iff.2 ⟨hthere, rfl⟩
      rw [Option.elim_none, loading, hopen]
    | some reason =>
      rw [hproblem] at h
      obtain ⟨_, -, h⟩ := except_bind_eq_ok.1 h
      obtain ⟨_, -, h⟩ := except_bind_eq_ok.1 h
      cases h

/-! ## Breaking off -/

/-- The computation does what it does on a console that shows everything, or it breaks off because a
notice is refused. -/
def Follows (c : Run α) (s : Session) : Prop :=
  Transfers c s ∨ ∃ reason, (c s).1 = .error (.unshown reason) ∧ (c s).2.Precedes (c s.openly).2

theorem follows_post (notice : Notice) (s : Session) : Follows (post notice) s := by
  cases h : s.world.console.refusal? notice with
  | none => exact .inl (transfers_post h)
  | some reason =>
    obtain ⟨hnotices, hcommands⟩ := precedes_post notice s.openly
    rw [Follows, post_of_refused h]
    exact .inr ⟨reason, rfl, hnotices, hcommands⟩

theorem follows_catalogue (s : Session) : Follows catalogue s := by
  have hloaded : s.openly.catalogue = s.catalogue := rfl
  have hsource : s.openly.world.catalogue = s.world.catalogue := rfl
  rw [Follows, Transfers, catalogue_apply, catalogue_apply, hloaded, hsource]
  rcases s.catalogue with _ | c
  · rcases openCatalogue s.world.catalogue with fault | reason | c
    · exact .inl rfl
    · dsimp only
      rw [bind_of_ok (post_apply (.unreadCatalogue reason) s.lenient_openly)]
      cases h : s.world.console.refusal? (.unreadCatalogue reason) with
      | none =>
        rw [bind_of_ok (post_of_shown h)]
        exact .inl rfl
      | some refusal =>
        rw [bind_of_error (post_of_refused h)]
        exact .inr ⟨refusal, rfl, List.prefix_append _ _, List.prefix_refl _⟩
    · exact .inl rfl
  · exact .inl rfl

theorem Step.follows (hactivity : activity ∈ [Activity.look, .install]) (h : Step activity c)
    (s : Session) : Follows c s := by
  cases h with
  | post _ => exact follows_post _ s
  | catalogue => exact follows_catalogue s
  | hasParser language => exact absurd hactivity (by decide)
  | ofRegistry question => exact absurd hactivity (by decide)
  | change _ => exact absurd hactivity (by decide)
  | ofWorld question hbare => exact .inl ((Step.ofWorld question hbare).transfers (nofun))
  | record words => exact .inl ((Step.record words).transfers (nofun))
  | install h hdisk hgit => exact .inl ((Step.install h hdisk hgit).transfers (nofun))

theorem MadeOf.follows (h : MadeOf activities c) (hactivities : activities ⊆ [.look, .install])
    (s : Session) : Follows c s := by
  induction h generalizing s with
  | step h hc => exact hc.follows (hactivities h) s
  | ofExcept result => exact .inl rfl
  | @bind α β x f hx hf ihx ihf =>
    rcases hopen : x s.openly with ⟨result, t⟩
    rcases ihx s with hfirst | ⟨reason, hfault, hends⟩
    · rw [Transfers, hopen] at hfirst
      cases result with
      | error fault =>
        left
        rw [Transfers, bind_of_error hfirst, bind_of_error hopen]
      | ok a =>
        have ht : (t.on s.world.console).openly = t :=
          Session.openly_of_lenient (hx.keeps_console.of_eq hopen)
        have hrest := ihf a (t.on s.world.console)
        rw [Follows, Transfers, ht] at hrest
        rw [Follows, Transfers, bind_of_ok hfirst, bind_of_ok hopen]
        exact hrest
    · right
      have hbroken : (x >>= f) s = (.error (.unshown reason), (x s).2) :=
        bind_of_error (Prod.ext hfault rfl)
      rw [hbroken]
      exact ⟨reason, rfl, hends.trans (MadeOf.precedes_bind hf s.openly)⟩
  | attempt h _ _ => exact absurd (hactivities h) (by decide)

/-- Without going on after faults, a computation breaks off at the first notice that is refused. -/
theorem Installs.follows (h : Installs c) (s : Session) : Follows c s :=
  MadeOf.follows h (List.Subset.refl _) s

section Results

variable {s t : Session}

/-- What a computation gives although notices may be refused, it gives when none is. -/
theorem Installs.openly_of_ok (h : Installs c) {a : α} (hc : c s = (.ok a, t)) :
    ∃ t', c s.openly = (.ok a, t') ∧ t = t'.on s.world.console := by
  rcases Installs.follows h s with hsame | ⟨reason, hfault, -⟩
  · rw [Transfers, hc] at hsame
    obtain ⟨hfst, hsnd⟩ := Prod.mk.inj hsame
    exact ⟨_, Prod.ext hfst.symm rfl, hsnd⟩
  · rw [hc] at hfault
    cases hfault

end Results

/-! ## What a computation gives -/

/-- The computation only looks at the situation, and this is what it gives. Where a notice is
refused it may fail instead. -/
structure Yields (c : Run α) (outcome : Session → Except Fault α) : Prop where
  looks : Looks c
  fst_eq : ∀ s, c.Unrefused s → (c s).1 = outcome s
  sound : ∀ s a, (c s).1 = .ok a → outcome s = .ok a
  situated : ∀ s t : Session, s.situation = t.situation → outcome s = outcome t

theorem Looks.yields (h : Looks c) : Yields c fun s => (c s).1 :=
  ⟨h, fun _ _ => rfl, fun _ _ hc => hc, fun s t hst => (Looks.determined h s t hst).1⟩

theorem yields_say (text : String) {piece : String} [Opens text piece] (h : Unrelated piece) :
    Yields (say text) fun _ => .ok () := by
  refine ⟨looks_say text h, fun s hs => ?_, fun _ _ _ => rfl, fun _ _ _ => rfl⟩
  have hshown : s.world.console.refusal? (.line text) = none := by
    refine hs _ ?_
    rw [shownBy, say_apply text (s := s.openly.hushed) rfl]
    exact List.mem_cons_self
  have hsay : say text s = (.ok (), s.shows [.line text]) := post_of_shown hshown
  rw [hsay]

theorem yields_disk : Yields disk fun s => .ok s.world.disk :=
  looks_disk.yields

theorem yields_onDisk (question : Disk → Except DiskFault α) :
    Yields (onDisk question) fun s => (question s.world.disk).mapError .disk :=
  (looks_onDisk question).yields

theorem yields_catalogue : Yields catalogue Session.currentCatalogue := by
  have h := looks_catalogue.yields
  simp only [catalogue_fst] at h
  exact h

namespace Yields

theorem of_lenient {outcome : Session → Except Fault α} (h : Yields c outcome) {s : Session}
    (hs : s.Lenient) : (c s).1 = outcome s := h.fst_eq s (unrefused_of_lenient c hs)

theorem congr {outcome other : Session → Except Fault α} (h : Yields c outcome)
    (heq : ∀ s, outcome s = other s) : Yields c other := by
  obtain rfl : outcome = other := funext heq
  exact h

theorem ofExcept (result : Except Fault α) : Yields (ofExcept result) fun _ => result :=
  Looks.yields (.ofExcept result)

protected theorem pure (a : α) : Yields (pure a : Run α) fun _ => .ok a := .ofExcept (.ok a)

/-- Every step is told about the situation at the start. -/
theorem bind {x : Run α} {f : α → Run β} {outcome : Session → Except Fault α}
    {rest : α → Session → Except Fault β} (hx : Yields x outcome)
    (hf : ∀ a, Yields (f a) (rest a)) :
    Yields (x >>= f) fun s => outcome s >>= fun a => rest a s := by
  refine ⟨hx.looks.bind fun a => (hf a).looks, fun s hs => ?_, fun s b hc => ?_, fun s t hst => ?_⟩
  · obtain ⟨hfirst, hthen⟩ := hx.looks.unrefused_of_bind (fun a => (hf a).looks) hs
    have hgiven := hx.fst_eq s hfirst
    rcases hok : x s with ⟨fault | a, t⟩
    · rw [hok] at hgiven
      rw [bind_of_error hok, ← hgiven]
      rfl
    · rw [hok] at hgiven
      have hsituation : t.situation = s.situation := (Looks.keeps hx.looks).of_eq hok
      rw [bind_of_ok hok, ← hgiven, (hf a).fst_eq t (hthen a t hok),
        (hf a).situated t s hsituation]
      rfl
  · have hrest (a : α) : Determined Session.situation (f a) := Looks.determined (hf a).looks
    rw [Determined.fst_bind (Looks.keeps hx.looks) hrest s] at hc
    obtain ⟨a, ha, hb⟩ := except_bind_eq_ok.1 hc
    exact except_bind_eq_ok.2 ⟨a, hx.sound s a ha, (hf a).sound s b hb⟩
  · simp only [hx.situated s t hst, (hf _).situated s t hst]

theorem bindWorld {f : World → Run α} {outcome : World → Session → Except Fault α}
    (hf : ∀ w, Yields (f w) (outcome w)) (hbare : ∀ w, f w.bare = f w) :
    Yields (world >>= f) fun s => outcome s.world s := by
  refine ⟨.bindWorld (fun w => (hf w).looks) hbare, fun s hs => ?_, fun s => (hf s.world).sound s,
    fun s t hst => ?_⟩
  · refine (hf s.world).fst_eq s fun notice hnotice => hs notice ?_
    have hsame : f s.openly.world = f s.world := by
      rw [← hbare s.openly.world, ← hbare s.world]
      rfl
    change notice ∈ (f s.openly.world).shownBy s.openly
    rwa [hsame]
  · rw [Session.world_eq_of_situation hst]
    exact (hf t.world).situated s t hst

theorem forM {items : List α} {step : α → Run PUnit} (h : ∀ a, Yields (step a) fun _ => .ok ⟨⟩) :
    Yields (items.forM step) fun _ => .ok ⟨⟩ := by
  induction items with
  | nil => exact .pure _
  | cons a rest ih => exact (h a).bind fun _ => ih

end Yields

end Run

end SourceOutline
