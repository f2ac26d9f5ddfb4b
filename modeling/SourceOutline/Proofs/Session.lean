import SourceOutline.Session
import SourceOutline.Proofs.Steps

/-!
# Computations on a session

What a computation leaves as it was is said by `Run.Keeps`, for a view of the session. The
*situation* of a session is its world and the catalogue that it works with, without what was loaded,
asked for and shown on the way. A computation is *determined* by a view when what it gives depends
on nothing else, so that it may be moved to another place in a program.

All computations of the library are put together from a few kinds of steps (`Run.MadeOf`). What is
known about each step is then known about the whole.
-/

namespace SourceOutline

/-- What comes of handing a notice to a console. -/
def Console.receive (console : Console) (notice : Notice) : Except Fault Unit :=
  match console.refusal? notice with
  | none => .ok ()
  | some reason => .error (.unshown reason)

theorem Console.receive_of_shown {console : Console} {notice : Notice}
    (h : console.refusal? notice = none) : console.receive notice = .ok () := by
  rw [receive, h]

theorem Console.refusal?_lenient (notice : Notice) : lenient.refusal? notice = none := by
  cases notice <;> rfl

/-- What the user is told when the catalogue cannot be read. -/
def Notice.unreadCatalogue (reason : String) : Notice :=
  .line ("Warning: Could not load language config: " ++ reason)

/-- The catalogue that a session works with: the one that is loaded, or the one that the next use
will load. Where none can be read it is the empty one, if the user can be told. -/
def Session.currentCatalogue (session : Session) : Except Fault Catalogue :=
  match session.catalogue with
  | some catalogue => .ok catalogue
  | none =>
    match Run.openCatalogue session.world.catalogue with
    | .error fault => .error fault
    | .ok (.ok catalogue) => .ok catalogue
    | .ok (.error reason) =>
      (session.world.console.receive (.unreadCatalogue reason)).map fun _ => .empty

/-- The world and the catalogue of a session, without what was remembered or shown on the way. -/
def Session.situation (session : Session) : World × Except Fault Catalogue :=
  (session.world, session.currentCatalogue)

/-- A world without its parsers. -/
def World.withoutParsers (world : World) : World := { world with parserProblem? := fun _ => none }

/-- A world without its parsers and its console. -/
def World.bare (world : World) : World := { world.withoutParsers with console := .lenient }

/-- The part of the situation that is there for good: the disk, the answers of git, the console and
the catalogue. -/
def Session.surroundings (session : Session) :
    Disk × GitOutcomes × Console × Except Fault Catalogue :=
  (session.world.disk, session.world.git, session.world.console, session.currentCatalogue)

theorem Session.world_eq_of_situation {s t : Session} (h : s.situation = t.situation) :
    s.world = t.world := congrArg Prod.fst h

theorem Session.currentCatalogue_eq_of_situation {s t : Session}
    (h : s.situation = t.situation) : s.currentCatalogue = t.currentCatalogue :=
  congrArg Prod.snd h

theorem Session.surroundings_eq_of_situation {s t : Session} (h : s.situation = t.situation) :
    s.surroundings = t.surroundings := by
  rw [surroundings, surroundings, world_eq_of_situation h, currentCatalogue_eq_of_situation h]

theorem Session.surroundings_eq_iff {s t : Session} :
    s.surroundings = t.surroundings ↔ s.world.disk = t.world.disk ∧ s.world.git = t.world.git ∧
      s.world.console = t.world.console ∧ s.currentCatalogue = t.currentCatalogue := by
  simp only [surroundings, Prod.mk.injEq]

/-- The console of the session shows everything. -/
def Session.Lenient (session : Session) : Prop := session.world.console = .lenient

theorem Session.Lenient.of_situation {s t : Session} (h : s.Lenient)
    (hst : t.situation = s.situation) : t.Lenient :=
  (congrArg World.console (world_eq_of_situation hst)).trans h

/-- The session after some more notices. -/
def Session.shows (session : Session) (shown : List Notice) : Session :=
  { session with notices := session.notices ++ shown }

@[simp] theorem Session.world_shows (session : Session) (shown : List Notice) :
    (session.shows shown).world = session.world := rfl

@[simp] theorem Session.shows_shows (session : Session) (shown more : List Notice) :
    (session.shows shown).shows more = session.shows (shown ++ more) := by
  rw [shows, shows, shows, List.append_assoc]

theorem Session.shows_nil (session : Session) : session.shows [] = session := by
  rw [shows, List.append_nil]

namespace Run

variable {α β γ : Type} {view : Session → γ}

/-! ## Steps -/

@[simp] theorem ofExcept_apply (result : Except Fault α) (s : Session) :
    ofExcept result s = (result, s) := rfl

@[simp] theorem get_apply (s : Session) : (get : Run Session) s = (.ok s, s) := rfl

@[simp] theorem modify_apply (change : Session → Session) (s : Session) :
    (modify change : Run PUnit) s = (.ok ⟨⟩, change s) := rfl

@[simp] theorem world_apply (s : Session) : world s = (.ok s.world, s) := rfl

/-- The world as it is seen without its parsers and its console. -/
def bareWorld : Run World := fun session => (.ok session.world.bare, session)

theorem bareWorld_apply (s : Session) : bareWorld s = (.ok s.world.bare, s) := rfl

@[simp] theorem disk_apply (s : Session) : disk s = (.ok s.world.disk, s) := rfl

@[simp] theorem onDisk_apply (question : Disk → Except DiskFault α) (s : Session) :
    onDisk question s = ((question s.world.disk).mapError .disk, s) := rfl

/-- A question to the disk leaves the session as it was. -/
theorem onDisk_eq_ok {question : Disk → Except DiskFault α} {s t : Session} {a : α}
    (h : onDisk question s = (.ok a, t)) : question s.world.disk = .ok a ∧ t = s := by
  rw [onDisk_apply] at h
  cases hquestion : question s.world.disk with
  | error fault =>
    rw [hquestion] at h
    cases h
  | ok answer =>
    rw [hquestion] at h
    cases h
    exact ⟨rfl, rfl⟩

@[simp] theorem attempt_apply (c : Run α) (s : Session) :
    attempt c s = (.ok (c s).1, (c s).2) := rfl

@[simp] theorem extractor_apply (language : String) (s : Session) :
    extractor language s = (.ok (s.registry.extractor language), s) := rfl

theorem noting_apply (c : Noting α) (s : Session) :
    noting c s = ((c s.world.console s.notices).1,
      { s with notices := (c s.world.console s.notices).2 }) := rfl

theorem post_of_shown {notice : Notice} {s : Session}
    (h : s.world.console.refusal? notice = none) : post notice s = (.ok (), s.shows [notice]) := by
  rw [post, noting_apply, Noting.post, h]
  rfl

theorem post_of_refused {notice : Notice} {s : Session} {reason : String}
    (h : s.world.console.refusal? notice = some reason) :
    post notice s = (.error (.unshown reason), s) := by
  rw [post, noting_apply, Noting.post, h]

theorem post_fst (notice : Notice) (s : Session) :
    (post notice s).1 = s.world.console.receive notice := by
  rw [Console.receive]
  cases h : s.world.console.refusal? notice with
  | none => rw [post_of_shown h]
  | some reason => rw [post_of_refused h]

theorem post_apply (notice : Notice) {s : Session} (h : s.Lenient) :
    post notice s = (.ok (), s.shows [notice]) := by
  refine post_of_shown ?_
  rw [h]
  exact Console.refusal?_lenient notice

/-- On a console that shows everything, a text is shown. -/
theorem say_apply (text : String) {s : Session} (h : s.Lenient) :
    say text s = (.ok (), s.shows [.line text]) := post_apply (.line text) h

/-- Shows some notices, one after the other, and then gives a result or fails. -/
def recite (result : Except Fault α) : List Notice → Run α
  | [] => ofExcept result
  | notice :: rest => post notice >>= fun _ => recite result rest

theorem noting_recite (result : Except Fault α) (notices : List Notice) :
    noting (Noting.recite result notices) = recite result notices := by
  induction notices with
  | nil => rfl
  | cons notice rest ih =>
    rw [recite, ← ih]
    funext s
    rw [noting_apply, Noting.recite, Noting.bind_apply]
    cases h : s.world.console.refusal? notice with
    | none =>
      have hpost (shown : List Notice) : Noting.post notice s.world.console shown =
          (.ok (), shown ++ [notice]) := by rw [Noting.post, h]
      rw [bind_of_ok (hpost _), bind_of_ok (post_of_shown h)]
      rfl
    | some reason =>
      have hpost (shown : List Notice) : Noting.post notice s.world.console shown =
          (.error (.unshown reason), shown) := by rw [Noting.post, h]
      rw [bind_of_error (hpost _), bind_of_error (post_of_refused h)]

/-! ## What is kept, and what the outcome depends on -/

/-- The computation leaves what the view shows of the session as it was, also when it fails. -/
def Keeps (view : Session → γ) (c : Run α) : Prop := ∀ s, view (c s).2 = view s

/-- In related sessions the computation gives the same, and it leaves related sessions behind. -/
def Respects (relation : Session → Session → Prop) (c : Run α) : Prop :=
  ∀ s t : Session, relation s t → (c s).1 = (c t).1 ∧ relation (c s).2 (c t).2

/-- What the computation gives, and what the view shows of the session that it leaves behind, depend
on nothing but what the view shows of the session that it starts in. -/
abbrev Determined (view : Session → γ) (c : Run α) : Prop := Respects (fun s t => view s = view t) c

theorem Keeps.of_eq {c : Run α} (h : Keeps view c) {s t : Session} {result : Except Fault α}
    (hc : c s = (result, t)) : view t = view s := by
  have hs := h s
  rwa [hc] at hs

theorem Respects.exists_eq {relation : Session → Session → Prop} {c : Run α}
    (h : Respects relation c) {s t s' : Session} {result : Except Fault α} (hst : relation s t)
    (hc : c s = (result, s')) : ∃ t', c t = (result, t') ∧ relation s' t' := by
  obtain ⟨hfst, hsnd⟩ := h s t hst
  rw [hc] at hfst hsnd
  exact ⟨(c t).2, Prod.ext hfst.symm rfl, hsnd⟩

/-- In another session that shows the same the computation gives the same. -/
theorem Determined.exists_eq {c : Run α} (h : Determined view c) {s t s' : Session}
    {result : Except Fault α} (hst : view s = view t) (hc : c s = (result, s')) :
    ∃ t', c t = (result, t') ∧ view t' = view s' := by
  obtain ⟨t', ht, hview⟩ := Respects.exists_eq h hst hc
  exact ⟨t', ht, hview.symm⟩

theorem Keeps.bind {x : Run α} {f : α → Run β} (hx : Keeps view x) (hf : ∀ a, Keeps view (f a)) :
    Keeps view (x >>= f) := by
  intro s
  rcases h : x s with ⟨a | a, t⟩
  · rw [bind_of_error h]
    exact hx.of_eq h
  · rw [bind_of_ok h, hf a t, hx.of_eq h]

theorem Respects.bind {relation : Session → Session → Prop} {x : Run α} {f : α → Run β}
    (hx : Respects relation x) (hf : ∀ a, Respects relation (f a)) :
    Respects relation (x >>= f) := by
  intro s t hst
  rcases hs : x s with ⟨a | a, s'⟩
  · obtain ⟨t', ht, hrelated⟩ := hx.exists_eq hst hs
    rw [bind_of_error hs, bind_of_error ht]
    exact ⟨rfl, hrelated⟩
  · obtain ⟨t', ht, hrelated⟩ := hx.exists_eq hst hs
    rw [bind_of_ok hs, bind_of_ok ht]
    exact hf a s' t' hrelated

/-- Steps that neither change what the view shows nor depend on more can all be taken in the session
at the start. -/
theorem Determined.fst_bind {x : Run α} {f : α → Run β} (hx : Keeps view x)
    (hf : ∀ a, Determined view (f a)) (s : Session) :
    ((x >>= f) s).1 = (x s).1 >>= fun a => (f a s).1 := by
  rcases h : x s with ⟨fault | a, t⟩
  · rw [bind_of_error h]
    rfl
  · rw [bind_of_ok h]
    exact (hf a t s (hx.of_eq h)).1

theorem Respects.attempt {relation : Session → Session → Prop} {c : Run α}
    (h : Respects relation c) : Respects relation (attempt c) := by
  intro s t hst
  obtain ⟨hfst, hsnd⟩ := h s t hst
  exact ⟨congrArg Except.ok hfst, hsnd⟩

/-! ## What a computation is put together from -/

/-- What a step of a computation does. -/
inductive Activity where
  /-- It looks at the world, though not at the parsers, and at the catalogue, and shows notices. -/
  | look
  /-- It asks for parsers and extractors, and walks syntax trees. -/
  | extract
  /-- It uses up answers, runs commands, and makes modules known. -/
  | install
  /-- It changes the world in another way. -/
  | change
  /-- It goes on after a fault. -/
  | recover
  deriving DecidableEq, Repr

/-- A change of the world that has no part in where the catalogue comes from, and that neither looks
at the parsers and the console nor touches them. -/
structure Mild (change : World → World) : Prop where
  catalogue : ∀ w, (change w).catalogue = w.catalogue
  blind : ∀ w parserProblem? console,
    change { w with parserProblem?, console } = { change w with parserProblem?, console }

namespace Mild

variable {change : World → World}

theorem same (h : Mild change) (w : World) : change w =
    { change w with parserProblem? := w.parserProblem?, console := w.console } :=
  h.blind w w.parserProblem? w.console

theorem parserProblem? (h : Mild change) (w : World) :
    (change w).parserProblem? = w.parserProblem? := by rw [h.same]

theorem console (h : Mild change) (w : World) : (change w).console = w.console := by rw [h.same]

theorem withoutParsers (h : Mild change) (w : World) :
    (change w).withoutParsers = change w.withoutParsers :=
  calc (change w).withoutParsers
      = { change w with parserProblem? := fun _ => none, console := w.console } := by
        rw [World.withoutParsers, h.console w]
    _ = change w.withoutParsers := (h.blind w (fun _ => none) w.console).symm

end Mild

/-- The steps of each activity. -/
inductive Step : Activity → {α : Type} → Run α → Prop
  | ofWorld {α : Type} (question : World → α) (h : ∀ w, question w.bare = question w) :
    Step .look fun session => (.ok (question session.world), session)
  | post {notice : Notice} (h : notice.reportsLoad = false) : Step .look (post notice)
  | catalogue : Step .look catalogue
  | hasParser (language : String) : Step .extract (hasParser language)
  | ofRegistry {α : Type} (question : Registry → α) :
    Step .extract fun session => (.ok (question session.registry), session)
  | record (words : List String) :
    Step .install (modify fun session => { session with commands := session.commands ++ [words] })
  | install {change : World → World} (h : Mild change) (hdisk : ∀ w, (change w).disk = w.disk)
    (hgit : ∀ w, (change w).git = w.git) :
    Step .install (modify fun session => { session with world := change session.world })
  | change {change : World → World} (h : Mild change) :
    Step .change (modify fun session => { session with world := change session.world })

/-- The computation is put together from steps of some activities: one after the other, and with
faults taken as values where it goes on after them. -/
inductive MadeOf (activities : List Activity) : {α : Type} → Run α → Prop
  | step {α : Type} {c : Run α} {activity : Activity} (h : activity ∈ activities)
    (hc : Step activity c) : MadeOf activities c
  | ofExcept {α : Type} (result : Except Fault α) : MadeOf activities (ofExcept result)
  | bind {α β : Type} {x : Run α} {f : α → Run β} (hx : MadeOf activities x)
    (hf : ∀ a, MadeOf activities (f a)) : MadeOf activities (x >>= f)
  | attempt {α : Type} {c : Run α} (h : .recover ∈ activities) (hc : MadeOf activities c) :
    MadeOf activities (attempt c)

/-- The computation looks at the situation and shows notices. -/
abbrev Looks (c : Run α) : Prop := MadeOf [.look] c

/-- The computation also looks for symbols. -/
abbrev Extracts (c : Run α) : Prop := MadeOf [.look, .extract, .recover] c

/-- The computation also talks to the user and installs what is missing. -/
abbrev Installs (c : Run α) : Prop := MadeOf [.look, .install] c

/-- The computation does anything that a program does. -/
abbrev Works (c : Run α) : Prop := MadeOf [.look, .extract, .install, .change, .recover] c

/-- All these activities are among the others. -/
class Among (activities more : List Activity) : Prop where
  subset : activities ⊆ more

section Among

variable {activities more : List Activity}

instance among_look : Among [.look] (.look :: more) :=
  ⟨List.cons_subset_cons .look (List.nil_subset more)⟩

instance among_all : Among activities [.look, .extract, .install, .change, .recover] :=
  ⟨fun activity _ => by cases activity <;> decide⟩

end Among

namespace MadeOf

variable {activities more : List Activity}

protected theorem pure (a : α) : MadeOf activities (pure a : Run α) := .ofExcept (.ok a)

protected theorem throw (fault : Fault) : MadeOf activities (throw fault : Run α) :=
  .ofExcept (.error fault)

/-- With more activities allowed there are more computations. -/
theorem mono {c : Run α} (h : MadeOf activities c) [hsub : Among activities more] :
    MadeOf more c := by
  induction h with
  | step h hc => exact .step (hsub.subset h) hc
  | ofExcept result => exact .ofExcept result
  | bind _ _ hx hf => exact .bind hx hf
  | attempt hrecover _ h => exact .attempt (hsub.subset hrecover) h

/-- A computation may look at the world before it goes on, but not at the parsers and the
console. -/
theorem bindWorld [hlook : Among [.look] activities] {f : World → Run α}
    (hf : ∀ w, MadeOf activities (f w)) (hbare : ∀ w, f w.bare = f w) :
    MadeOf activities (world >>= f) := by
  have hlooks : MadeOf activities bareWorld :=
    .step (hlook.subset List.mem_cons_self) (.ofWorld World.bare fun _ => rfl)
  have hworld : world >>= f = bareWorld >>= f := by
    funext s
    rw [bind_of_ok (world_apply s), bind_of_ok (bareWorld_apply s), hbare]
  rw [hworld]
  exact hlooks.bind hf

theorem ite {p : Prop} [Decidable p] {c d : Run α} (hc : MadeOf activities c)
    (hd : MadeOf activities d) : MadeOf activities (if p then c else d) := by
  split
  · exact hc
  · exact hd

theorem forM {items : List α} {step : α → Run PUnit} (h : ∀ a, MadeOf activities (step a)) :
    MadeOf activities (items.forM step) := by
  induction items with
  | nil => exact .pure _
  | cons a rest ih => exact .bind (h a) fun _ => ih

theorem foldlM {items : List α} {step : β → α → Run β} (h : ∀ b a, MadeOf activities (step b a))
    (b : β) : MadeOf activities (items.foldlM step b) := by
  induction items generalizing b with
  | nil => exact .pure _
  | cons a rest ih =>
    rw [List.foldlM_cons]
    exact .bind (h b a) ih

/-- What every step keeps is kept by the whole. -/
theorem keeps_of_steps {c : Run α} (h : MadeOf activities c)
    (hstep : ∀ activity ∈ activities, ∀ {α : Type} {c : Run α}, Step activity c → Keeps view c) :
    Keeps view c := by
  induction h with
  | step h hc => exact hstep _ h hc
  | ofExcept result => exact fun _ => rfl
  | bind _ _ hx hf => exact hx.bind hf
  | attempt _ _ h => exact h

/-- When every step respects a relation, the whole does. -/
theorem respects_of_steps {relation : Session → Session → Prop} {c : Run α}
    (h : MadeOf activities c)
    (hstep : ∀ activity ∈ activities, ∀ {α : Type} {c : Run α}, Step activity c →
      Respects relation c) : Respects relation c := by
  induction h with
  | step h hc => exact hstep _ h hc
  | ofExcept result => exact fun _ _ hst => ⟨rfl, hst⟩
  | bind _ _ hx hf => exact hx.bind hf
  | attempt _ _ h => exact h.attempt

/-- When every step leads to a session that comes after the one before, so does the whole, also when
it fails. -/
theorem relates_of_steps {relation : Session → Session → Prop} {c : Run α}
    (h : MadeOf activities c) (hrefl : ∀ s, relation s s)
    (htrans : ∀ {r s t}, relation r s → relation s t → relation r t)
    (hstep : ∀ activity ∈ activities, ∀ {α : Type} {c : Run α}, Step activity c →
      ∀ s, relation s (c s).2) (s : Session) : relation s (c s).2 := by
  induction h generalizing s with
  | step h hc => exact hstep _ h hc s
  | ofExcept result => exact hrefl s
  | @bind α β x f _ _ hx hf =>
    have hfirst := hx s
    rcases hxs : x s with ⟨fault | a, t⟩
    · rw [hxs] at hfirst
      rw [bind_of_error hxs]
      exact hfirst
    · rw [hxs] at hfirst
      rw [bind_of_ok hxs]
      exact htrans hfirst (hf a t)
  | attempt _ _ h => exact h s

end MadeOf

theorem looks_catalogue : Looks catalogue := .step List.mem_cons_self .catalogue

theorem looks_post {notice : Notice} (h : notice.reportsLoad = false) : Looks (post notice) :=
  .step List.mem_cons_self (.post h)

theorem looks_say (text : String) {piece : String} [Opens text piece] (h : Unrelated piece) :
    Looks (say text) := looks_post h.of_opens.reportsLoad

theorem looks_recite (result : Except Fault α) {notices : List Notice}
    (h : ∀ notice ∈ notices, notice.reportsLoad = false) : Looks (recite result notices) := by
  induction notices with
  | nil => exact .ofExcept result
  | cons notice rest ih =>
    obtain ⟨hnotice, hrest⟩ := List.forall_mem_cons.1 h
    exact (looks_post hnotice).bind fun _ => ih hrest

theorem looks_noting {c : Noting α} (h : c.Plain) : Looks (noting c) := by
  obtain ⟨notices, result, hnotices, rfl⟩ := h
  rw [noting_recite]
  exact looks_recite result hnotices

theorem keeps_say (text : String) : Keeps Session.situation (say text) := fun _ => rfl

theorem looks_disk : Looks disk := .bindWorld (fun _ => .pure _) fun _ => rfl

theorem looks_onDisk (question : Disk → Except DiskFault α) : Looks (onDisk question) :=
  looks_disk.bind fun _ => .ofExcept _

theorem looks_entryFor (language : String) : Looks (entryFor language) :=
  looks_catalogue.bind fun _ => .pure _

theorem looks_languageOf (path : Path) : Looks (languageOf path) :=
  looks_catalogue.bind fun _ => .ofExcept _

theorem extracts_extractor (language : String) : Extracts (extractor language) :=
  .step (by decide) (.ofRegistry (·.extractor language))

theorem extracts_symbolsOfText (text language : String) :
    Extracts (symbolsOfText text language) := by
  refine (looks_entryFor language).mono.bind fun listed => ?_
  refine MadeOf.bind (.step (by decide) (.hasParser language)) fun found => ?_
  rcases listed with _ | entry
  · exact .pure []
  · cases found with
    | false => exact .pure []
    | true =>
      refine (extracts_extractor language).bind fun extractor => ?_
      refine .bind (.bindWorld (fun _ => .pure _) fun _ => rfl) fun tree => ?_
      exact (looks_noting (Grammar.plain_walk _ entry none false tree)).mono

/-! ## The catalogue -/

/-- What asking for the catalogue gives, and how it changes the session. -/
theorem catalogue_apply (s : Session) :
    catalogue s =
      match s.catalogue with
      | some catalogue => (.ok catalogue, s)
      | none =>
        match openCatalogue s.world.catalogue with
        | .error fault => (.error fault, s)
        | .ok (.ok catalogue) => (.ok catalogue, { s with catalogue := some catalogue })
        | .ok (.error reason) => (post (.unreadCatalogue reason) >>= fun _ => pure .empty) s := by
  rw [catalogue, bind_of_ok (get_apply s)]
  rcases s.catalogue with _ | c
  · dsimp only
    rw [bind_of_ok (world_apply s)]
    rcases h : openCatalogue s.world.catalogue with fault | reason | c
    · rw [bind_of_error (ofExcept_apply _ _)]
    · rw [bind_of_ok (ofExcept_apply _ _)]
      rfl
    · rw [bind_of_ok (ofExcept_apply _ _)]
      rfl
  · rfl

/-- The catalogue that a session works with is the one that it gives. -/
theorem catalogue_fst (s : Session) : (catalogue s).1 = s.currentCatalogue := by
  rw [catalogue_apply, Session.currentCatalogue]
  rcases s.catalogue with _ | c
  · rcases openCatalogue s.world.catalogue with fault | reason | c
    · rfl
    · dsimp only
      rw [Console.receive]
      cases h : s.world.console.refusal? (.unreadCatalogue reason) with
      | none => rw [bind_of_ok (post_of_shown h)]; rfl
      | some refusal => rw [bind_of_error (post_of_refused h)]; rfl
    · rfl
  · rfl

/-- Beside the catalogue, loading it changes nothing but the notices. -/
theorem catalogue_snd (s : Session) :
    ∃ catalogue notices, (Run.catalogue s).2 = { s with catalogue, notices } := by
  rw [catalogue_apply]
  rcases hc : s.catalogue with _ | c
  · rcases openCatalogue s.world.catalogue with fault | reason | c
    · exact ⟨_, _, rfl⟩
    · dsimp only
      cases h : s.world.console.refusal? (.unreadCatalogue reason) with
      | none => exact ⟨_, _, by rw [bind_of_ok (post_of_shown h)]; rfl⟩
      | some refusal => exact ⟨_, _, by rw [bind_of_error (post_of_refused h)]⟩
    · exact ⟨_, _, rfl⟩
  · exact ⟨_, _, rfl⟩

theorem entryFor_snd (language : String) (s : Session) :
    ∃ catalogue notices, (entryFor language s).2 = { s with catalogue, notices } := by
  obtain ⟨catalogue, notices, hsnd⟩ := catalogue_snd s
  refine ⟨catalogue, notices, ?_⟩
  rcases h : Run.catalogue s with ⟨fault | c, t⟩
  · rw [entryFor, bind_of_error h, ← hsnd, h]
  · rw [entryFor, bind_of_ok h, ← hsnd, h]
    rfl

/-- Loading the catalogue leaves the situation as it was. -/
theorem situation_catalogue (s : Session) : (catalogue s).2.situation = s.situation := by
  rw [catalogue_apply]
  rcases hc : s.catalogue with _ | c
  · rcases h : openCatalogue s.world.catalogue with fault | reason | c
    · rfl
    · dsimp only
      cases hrefusal : s.world.console.refusal? (.unreadCatalogue reason) with
      | none => rw [bind_of_ok (post_of_shown hrefusal)]; rfl
      | some refusal => rw [bind_of_error (post_of_refused hrefusal)]
    · simp only [Session.situation, Session.currentCatalogue, hc, h]
  · rfl

/-- With a catalogue to work with, asking for an entry never fails. -/
theorem entryFor_total (language : String) {s : Session} {c : Catalogue}
    (h : s.currentCatalogue = .ok c) :
    ∃ t, entryFor language s = (.ok (c.entryFor? language), t) := by
  have hc : catalogue s = (.ok c, (catalogue s).2) := Prod.ext ((catalogue_fst s).trans h) rfl
  exact ⟨_, bind_of_ok hc⟩

/-- A result that needs the catalogue comes from the one that the session works with. -/
theorem catalogue_bind_eq_ok {f : Catalogue → Run α} {s t : Session} {a : α}
    (h : (catalogue >>= f) s = (.ok a, t)) :
    ∃ c r, s.currentCatalogue = .ok c ∧ r.situation = s.situation ∧ f c r = (.ok a, t) := by
  obtain ⟨c, r, hc, hf⟩ := bind_eq_ok.1 h
  refine ⟨c, r, ?_, ?_, hf⟩
  · rw [← catalogue_fst, hc]
  · rw [← situation_catalogue s, hc]

/-! ## Parsers -/

end Run

/-- The session in which it is remembered whether there is a parser for a language. -/
def Session.remembering (session : Session) (language : String) (found : Bool) : Session :=
  { session with parsers := session.parsers.filter (·.1 != language) ++ [(language, found)] }

namespace Run

/-- The report that the parser of a language was loaded. -/
def loadedNotice (language : String) : Notice := .line ("Loaded parser for " ++ language)

/-- The report that the parser of a language could not be loaded. -/
def failedNotice (language reason : String) : Notice :=
  .line ("ERROR: Parser failed for " ++ language ++ ": " ++ reason)

/-- What the user is advised to do when a parser cannot be loaded. -/
def loadAdvice : Notice := .line "    Try: pip install tree-sitter-language-pack"

/-- Why the parser of a language is not loaded: there is none, or the user cannot be told. -/
def loadProblem? (world : World) (language : String) : Option String :=
  (world.parserProblem? language).or (world.console.refusal? (loadedNotice language))

/-- What asking for a parser gives when it was not asked for before. -/
def loading (world : World) (language : String) : Except Fault Bool :=
  match loadProblem? world language with
  | none => .ok true
  | some reason => do
    world.console.receive (failedNotice language reason)
    world.console.receive loadAdvice
    return false

end Run

/-- What asking for the parser of a language gives: what was found before, or else what comes of
loading it. -/
def Session.findsParser (session : Session) (language : String) : Except Fault Bool :=
  (session.parsers.lookup language).elim (Run.loading session.world language) .ok

namespace Run

variable {α β γ : Type} {view : Session → γ}

/-- A parser that was asked for before is not loaded again. -/
theorem hasParser_of_known {language : String} {s : Session} {found : Bool}
    (h : s.parsers.lookup language = some found) : hasParser language s = (.ok found, s) := by
  rw [hasParser, bind_of_ok (get_apply s), h]
  rfl

theorem remember_apply (language : String) (found : Bool) (s : Session) :
    remember language found s = (.ok (), s.remembering language found) := rfl

/-- Everything that can come of asking for the parser of a language. -/
inductive ParserAnswer (language : String) (s : Session) : Except Fault Bool × Session → Prop
  | known {found : Bool} (h : s.parsers.lookup language = some found) :
    ParserAnswer language s (.ok found, s)
  | loaded (h : s.parsers.lookup language = none)
    (hproblem : loadProblem? s.world language = none) :
    ParserAnswer language s
      (.ok true, (s.remembering language true).shows [loadedNotice language])
  | failed {reason : String} (h : s.parsers.lookup language = none)
    (hproblem : loadProblem? s.world language = some reason)
    (hfailed : s.world.console.refusal? (failedNotice language reason) = none)
    (hadvice : s.world.console.refusal? loadAdvice = none) :
    ParserAnswer language s
      (.ok false, (s.shows [failedNotice language reason, loadAdvice]).remembering language false)
  /-- The user cannot be told about the failure. A parser that is there then stays remembered. -/
  | refused {reason refusal : String} {parsers : List (String × Bool)} {shown : List Notice}
    (h : s.parsers.lookup language = none)
    (hproblem : loadProblem? s.world language = some reason)
    (hrefusal : s.world.console.refusal? (failedNotice language reason) = some refusal ∧
        shown = [] ∨
      s.world.console.refusal? (failedNotice language reason) = none ∧
        s.world.console.refusal? loadAdvice = some refusal ∧
        shown = [failedNotice language reason])
    (hparsers : parsers = s.parsers ∨ s.world.parserProblem? language = none ∧
      parsers = (s.remembering language true).parsers) :
    ParserAnswer language s
      (.error (.unshown refusal), ({ s with parsers } : Session).shows shown)

/-- A failed attempt to load a parser says why, and at most remembers the parser. -/
theorem loadParser_of_problem {language reason : String} {s : Session}
    (h : loadProblem? s.world language = some reason) :
    ∃ fault parsers, loadParser language s = (.error fault, { s with parsers }) ∧
      fault.message = reason ∧ (parsers = s.parsers ∨ s.world.parserProblem? language = none ∧
        parsers = (s.remembering language true).parsers) := by
  rw [loadParser, bind_of_ok (world_apply s)]
  rw [loadProblem?] at h
  cases hproblem : s.world.parserProblem? language with
  | some problem =>
    rw [hproblem] at h
    cases h
    exact ⟨_, s.parsers, rfl, rfl, .inl rfl⟩
  | none =>
    rw [hproblem, Option.none_or] at h
    dsimp only
    rw [bind_of_ok (remember_apply language true s)]
    exact ⟨_, _, post_of_refused h, rfl, .inr ⟨rfl, rfl⟩⟩

theorem loadParser_of_none {language : String} {s : Session}
    (h : loadProblem? s.world language = none) :
    loadParser language s =
      (.ok (), (s.remembering language true).shows [loadedNotice language]) := by
  obtain ⟨hproblem, hshown⟩ := Option.or_eq_none_iff.1 h
  rw [loadParser, bind_of_ok (world_apply s), hproblem]
  dsimp only
  rw [bind_of_ok (remember_apply language true s)]
  exact post_of_shown hshown

/-- What was remembered about a parser on the way is forgotten when it is remembered anew. -/
theorem remembering_anew {language : String} {s : Session} {parsers : List (String × Bool)}
    (h : parsers = s.parsers ∨ s.world.parserProblem? language = none ∧
      parsers = (s.remembering language true).parsers) (shown : List Notice) (found : Bool) :
    (({ s with parsers } : Session).shows shown).remembering language found =
      (s.shows shown).remembering language found := by
  rcases h with rfl | ⟨-, rfl⟩
  · rfl
  · simp [Session.shows, Session.remembering]

/-- After a failed attempt the user is told, and only then it is remembered. -/
theorem hasParser_of_unloaded {language : String} {s t : Session} {fault : Fault}
    (h : s.parsers.lookup language = none) (hload : loadParser language s = (.error fault, t)) :
    hasParser language s = (do
      post (failedNotice language fault.message)
      post loadAdvice
      remember language false
      return false : Run Bool) t := by
  rw [hasParser, bind_of_ok (get_apply s), h]
  dsimp only
  rw [bind_of_ok (attempt_apply _ s), hload]
  rfl

theorem parserAnswer (language : String) (s : Session) :
    ParserAnswer language s (hasParser language s) := by
  cases h : s.parsers.lookup language with
  | some found =>
    rw [hasParser_of_known h]
    exact .known h
  | none =>
    cases hproblem : loadProblem? s.world language with
    | none =>
      rw [hasParser, bind_of_ok (get_apply s), h]
      dsimp only
      rw [bind_of_ok (attempt_apply _ s), loadParser_of_none hproblem]
      exact .loaded h hproblem
    | some reason =>
      obtain ⟨fault, parsers, hload, rfl, hparsers⟩ := loadParser_of_problem hproblem
      rw [hasParser_of_unloaded h hload]
      let t : Session := { s with parsers }
      cases hfailed : s.world.console.refusal? (failedNotice language fault.message) with
      | some refusal =>
        have hpost : post (failedNotice language fault.message) t =
            (.error (.unshown refusal), t.shows []) := by
          rw [Session.shows, List.append_nil]
          exact post_of_refused hfailed
        rw [bind_of_error hpost]
        exact .refused h hproblem (.inl ⟨hfailed, rfl⟩) hparsers
      | none =>
        rw [bind_of_ok (post_of_shown (s := t) hfailed)]
        cases hadvice : s.world.console.refusal? loadAdvice with
        | some refusal =>
          rw [bind_of_error (post_of_refused (s := t.shows _) hadvice)]
          exact .refused h hproblem (.inr ⟨hfailed, hadvice, rfl⟩) hparsers
        | none =>
          rw [bind_of_ok (post_of_shown (s := t.shows _) hadvice), Session.shows_shows,
            bind_of_ok (remember_apply language false _), remembering_anew hparsers]
          exact .failed h hproblem hfailed hadvice

theorem hasParser_of_loaded {language : String} {s : Session}
    (h : s.parsers.lookup language = none) (hproblem : loadProblem? s.world language = none) :
    hasParser language s =
      (.ok true, (s.remembering language true).shows [loadedNotice language]) := by
  have hanswer := parserAnswer language s
  generalize hasParser language s = answer at hanswer ⊢
  cases hanswer with
  | known hknown => exact nomatch h.symm.trans hknown
  | loaded _ _ => rfl
  | failed _ hsome _ _ => exact nomatch hproblem.symm.trans hsome
  | refused _ hsome _ _ => exact nomatch hproblem.symm.trans hsome

theorem hasParser_of_failed {language reason : String} {s : Session}
    (h : s.parsers.lookup language = none)
    (hproblem : loadProblem? s.world language = some reason)
    (hfailed : s.world.console.refusal? (failedNotice language reason) = none)
    (hadvice : s.world.console.refusal? loadAdvice = none) :
    hasParser language s =
      (.ok false, (s.shows [failedNotice language reason, loadAdvice]).remembering language
        false) := by
  have hanswer := parserAnswer language s
  generalize hasParser language s = answer at hanswer ⊢
  cases hanswer with
  | known hknown => exact nomatch h.symm.trans hknown
  | loaded _ hnone => exact nomatch hproblem.symm.trans hnone
  | failed _ hsome _ _ =>
    cases hproblem.symm.trans hsome
    rfl
  | refused _ hsome hrefusal _ =>
    cases hproblem.symm.trans hsome
    rcases hrefusal with ⟨hrefused, -⟩ | ⟨-, hrefused, -⟩
    · exact nomatch hfailed.symm.trans hrefused
    · exact nomatch hadvice.symm.trans hrefused

/-- Asking for a parser gives what was found before, or else what comes of loading it. Beside what
is remembered about parsers nothing changes but the notices. -/
theorem hasParser_apply (language : String) (s : Session) :
    ∃ parsers notices, hasParser language s =
      (s.findsParser language, { s with parsers, notices }) := by
  have hanswer := parserAnswer language s
  generalize hasParser language s = answer at hanswer
  cases hanswer with
  | @known found h =>
    have hfinds : s.findsParser language = .ok found := by rw [Session.findsParser, h]; rfl
    exact ⟨_, _, by rw [hfinds]⟩
  | loaded h hproblem =>
    have hfinds : s.findsParser language = .ok true := by
      rw [Session.findsParser, h, Option.elim_none, loading, hproblem]
    exact ⟨_, _, by rw [hfinds]; rfl⟩
  | failed h hproblem hfailed hadvice =>
    have hfinds : s.findsParser language = .ok false := by
      rw [Session.findsParser, h, Option.elim_none, loading, hproblem]
      dsimp only
      rw [Console.receive, Console.receive, hfailed, hadvice]
      rfl
    exact ⟨_, _, by rw [hfinds]; rfl⟩
  | @refused reason refusal parsers shown h hproblem hrefusal _ =>
    have hfinds : s.findsParser language = .error (.unshown refusal) := by
      rw [Session.findsParser, h, Option.elim_none, loading, hproblem]
      dsimp only
      rcases hrefusal with ⟨hfailed, -⟩ | ⟨hfailed, hadvice, -⟩
      · rw [Console.receive, hfailed]
        rfl
      · rw [Console.receive, Console.receive, hfailed, hadvice]
        rfl
    exact ⟨_, _, by rw [hfinds]; rfl⟩

/-! ## The situation -/

namespace Step

variable {c : Run α}

/-- A change of the world that leaves the source of the catalogue alone leaves the catalogue
alone. -/
theorem currentCatalogue_of_mild {change : World → World} (h : Mild change) (s : Session) :
    ({ s with world := change s.world } : Session).currentCatalogue = s.currentCatalogue := by
  simp only [Session.currentCatalogue, h.catalogue, h.console]

theorem keeps_situation {activity : Activity}
    (hactivity : activity ∈ [Activity.look, .extract, .recover]) (h : Step activity c) :
    Keeps Session.situation c := by
  cases h with
  | ofWorld question _ => exact fun _ => rfl
  | post _ => exact fun _ => rfl
  | catalogue => exact situation_catalogue
  | hasParser language =>
    intro s
    obtain ⟨parsers, notices, hparser⟩ := hasParser_apply language s
    rw [hparser]
    rfl
  | ofRegistry question => exact fun _ => rfl
  | record _ => exact absurd hactivity (by decide)
  | install _ _ _ => exact absurd hactivity (by decide)
  | change _ => exact absurd hactivity (by decide)

theorem keeps_surroundings {activity : Activity} (hactivity : activity ∈ [Activity.look, .install])
    (h : Step activity c) : Keeps Session.surroundings c := by
  cases h with
  | ofWorld question _ => exact fun _ => rfl
  | post _ => exact fun _ => rfl
  | catalogue => exact fun s => Session.surroundings_eq_of_situation (situation_catalogue s)
  | record words => exact fun _ => rfl
  | install hmild hdisk hgit =>
    intro s
    rw [modify_apply, Session.surroundings, Session.surroundings, currentCatalogue_of_mild hmild,
      hdisk, hgit, hmild.console]
  | hasParser language => exact absurd hactivity (by decide)
  | ofRegistry question => exact absurd hactivity (by decide)
  | change _ => exact absurd hactivity (by decide)

theorem determined_situation {activity : Activity}
    (hactivity : activity ∈ [Activity.look, .install]) (h : Step activity c) :
    Determined Session.situation c := by
  cases h with
  | ofWorld question _ =>
    intro s t hst
    exact ⟨congrArg (fun w => Except.ok (question w)) (Session.world_eq_of_situation hst), hst⟩
  | post _ =>
    intro s t hst
    rw [post_fst, post_fst, Session.world_eq_of_situation hst]
    exact ⟨rfl, hst⟩
  | catalogue =>
    intro s t hst
    rw [catalogue_fst, catalogue_fst]
    exact ⟨Session.currentCatalogue_eq_of_situation hst,
      (situation_catalogue s).trans (hst.trans (situation_catalogue t).symm)⟩
  | record words => exact fun _ _ hst => ⟨rfl, hst⟩
  | install hmild hdisk hgit =>
    intro s t hst
    refine ⟨rfl, ?_⟩
    dsimp only
    rw [modify_apply, modify_apply, Session.situation, Session.situation,
      currentCatalogue_of_mild hmild, currentCatalogue_of_mild hmild,
      Session.world_eq_of_situation hst, Session.currentCatalogue_eq_of_situation hst]
  | hasParser language => exact absurd hactivity (by decide)
  | ofRegistry question => exact absurd hactivity (by decide)
  | change _ => exact absurd hactivity (by decide)

end Step

/-- Looking for symbols leaves the situation as it was. -/
theorem Extracts.keeps {c : Run α} (h : Extracts c) : Keeps Session.situation c :=
  h.keeps_of_steps fun _ hactivity => Step.keeps_situation hactivity

theorem Looks.keeps {c : Run α} (h : Looks c) : Keeps Session.situation c := Extracts.keeps h.mono

/-- The dialogue about packages leaves the surroundings as they were. -/
theorem Installs.keeps {c : Run α} (h : Installs c) : Keeps Session.surroundings c :=
  h.keeps_of_steps fun _ hactivity => Step.keeps_surroundings hactivity

theorem Installs.determined {c : Run α} (h : Installs c) : Determined Session.situation c :=
  h.respects_of_steps fun _ hactivity => Step.determined_situation hactivity

theorem Looks.determined {c : Run α} (h : Looks c) : Determined Session.situation c :=
  Installs.determined h.mono

end Run

end SourceOutline
