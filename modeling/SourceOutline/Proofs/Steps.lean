import SourceOutline.Extraction

/-!
# Computations that can fail, step by step

A computation that gives a result is a row of computations that each give one: `bind_eq_ok` takes it
apart. A computation that shows notices is *plain* when it has some notices to show and then a
result to give, and all of this is settled beforehand; no notice is a report on the loading of a
parser. It fails early when the console refuses one of the notices. The walk of a syntax tree is
plain, whatever the extractor does.

The text of a notice is a row of pieces. Its first piece shows that it is not such a report
(`Unrelated`), and this piece is found by instances (`Opens`).
-/

namespace SourceOutline

/-! ## Steps -/

section Steps

variable {α β σ : Type} {x : ExceptT Fault (StateM σ) α} {f : α → ExceptT Fault (StateM σ) β}
  {s t : σ}

/-- A step that gives a result hands it to the rest. -/
theorem bind_of_ok {a : α} (h : x s = (.ok a, t)) : (x >>= f) s = f a t := by
  simp only [bind, ExceptT.bind, ExceptT.mk, StateT.bind, h, ExceptT.bindCont]

/-- A step that fails is the end of the whole. -/
theorem bind_of_error {fault : Fault} (h : x s = (.error fault, t)) :
    (x >>= f) s = (.error fault, t) := by
  simp only [bind, ExceptT.bind, ExceptT.mk, StateT.bind, h, ExceptT.bindCont]
  rfl

/-- A computation that gives a result does so step by step. -/
theorem bind_eq_ok {b : β} :
    (x >>= f) s = (.ok b, t) ↔ ∃ a r, x s = (.ok a, r) ∧ f a r = (.ok b, t) := by
  constructor
  · intro h
    rcases hx : x s with ⟨a | a, r⟩
    · rw [bind_of_error hx] at h
      cases h
    · rw [bind_of_ok hx] at h
      exact ⟨a, r, rfl, h⟩
  · rintro ⟨a, r, hx, hf⟩
    rw [bind_of_ok hx, hf]

/-- Two computations do the same when they do the same step by step. -/
theorem bind_congr_at {y : ExceptT Fault (StateM σ) α} {g : α → ExceptT Fault (StateM σ) β}
    (hx : x s = y s) (hf : ∀ a t, y s = (.ok a, t) → f a t = g a t) :
    (x >>= f) s = (y >>= g) s := by
  rcases hy : y s with ⟨fault | a, t⟩
  · rw [bind_of_error (hx.trans hy), bind_of_error hy]
  · rw [bind_of_ok (hx.trans hy), bind_of_ok hy, hf a t hy]

/-- A result that is made of another one needs the other one. -/
theorem except_bind_eq_ok {ε : Type} {y : Except ε α} {g : α → Except ε β} {b : β} :
    y >>= g = .ok b ↔ ∃ a, y = .ok a ∧ g a = .ok b := by
  cases y with
  | error fault => simp [bind, Except.bind]
  | ok a => simp [bind, Except.bind]

theorem except_map_eq_ok {ε : Type} {y : Except ε α} {g : α → β} {b : β} :
    y.map g = .ok b ↔ ∃ a, y = .ok a ∧ g a = b := by
  cases y with
  | error fault => simp [Except.map]
  | ok a => simp [Except.map]

/-- A result is the same however faults are told. -/
theorem except_mapError_eq_ok {ε ε' : Type} {y : Except ε α} {g : ε → ε'} {a : α} :
    y.mapError g = .ok a ↔ y = .ok a := by
  cases y with
  | error fault => exact ⟨fun h => (nomatch h), fun h => (nomatch h)⟩
  | ok b =>
    exact ⟨fun h => congrArg Except.ok (Except.ok.inj h),
      fun h => congrArg Except.ok (Except.ok.inj h)⟩

end Steps

/-! ## Reports on the loading of parsers -/

/-- How the reports on the loading of a parser start. -/
def loadStarts : List String := ["Loaded parser for ", "ERROR: Parser failed for "]

/-- Whether a notice reports that a parser was loaded, or that it could not be. -/
def Notice.reportsLoad : Notice → Bool
  | .line text => loadStarts.any fun start => start.toList.isPrefixOf text.toList
  | _ => false

/-- Whether two texts differ at a place that both have. -/
def clash : List Char → List Char → Bool
  | a :: s, b :: t => a != b || clash s t
  | _, _ => false

theorem clash_append {s t : List Char} (h : clash s t = true) (u v : List Char) :
    clash (s ++ u) (t ++ v) = true := by
  induction s generalizing t with
  | nil => simp [clash] at h
  | cons a s ih =>
    cases t with
    | nil => simp [clash] at h
    | cons b t =>
      simp only [clash, Bool.or_eq_true, List.cons_append] at h ⊢
      exact h.imp_right ih

theorem isPrefixOf_of_clash {s t : List Char} (h : clash s t = true) : s.isPrefixOf t = false := by
  induction s generalizing t with
  | nil => simp [clash] at h
  | cons a s ih =>
    cases t with
    | nil => rfl
    | cons b t =>
      simp only [clash, Bool.or_eq_true, bne_iff_ne] at h
      rcases h with h | h
      · simp [List.isPrefixOf, h]
      · simp [List.isPrefixOf, ih h]

/-- The text starts differently from every report on the loading of a parser. -/
def Unrelated (text : String) : Prop :=
  ∀ start ∈ loadStarts, clash start.toList text.toList = true

/-- A few characters tell a text from the reports. -/
theorem Unrelated.ofList {text : List Char}
    (h : (clash ['L', 'o', 'a'] text &&
      clash ['E', 'R', 'R', 'O', 'R', ':', ' ', 'P'] text) = true) :
    Unrelated (String.ofList text) := by
  rw [Bool.and_eq_true] at h
  have hloaded := clash_append h.1 "ded parser for ".toList []
  have hfailed := clash_append h.2 "arser failed for ".toList []
  rw [List.append_nil] at hloaded hfailed
  simpa [Unrelated, loadStarts] using ⟨hloaded, hfailed⟩

/-- The text is put together from the left, and this piece comes first in it. -/
class Opens (text : String) (piece : outParam String) : Prop where
  isPrefix : piece.toList <+: text.toList

instance (priority := low) opens_self (text : String) : Opens text text :=
  ⟨List.prefix_refl _⟩

instance opens_append {text piece : String} [h : Opens text piece] (more : String) :
    Opens (text ++ more) piece :=
  ⟨by rw [String.toList_append]; exact h.isPrefix.trans (List.prefix_append _ _)⟩

theorem Unrelated.of_opens {text piece : String} [h : Opens text piece] (hpiece : Unrelated piece) :
    Unrelated text := by
  obtain ⟨rest, hrest⟩ := h.isPrefix
  intro start hstart
  have happ := clash_append (hpiece start hstart) [] rest
  rwa [List.append_nil, hrest] at happ

theorem Unrelated.reportsLoad {text : String} (h : Unrelated text) :
    (Notice.line text).reportsLoad = false := by
  rw [Notice.reportsLoad, List.any_eq_false]
  intro start hstart
  simp [isPrefixOf_of_clash (h start hstart)]

/-! ## Plain computations -/

namespace Noting

variable {α β : Type}

/-- A step is taken on the same console as the rest. -/
theorem bind_apply (x : Noting α) (f : α → Noting β) (console : Console) :
    (x >>= f) console = x console >>= fun a => f a console := rfl

theorem bind_of_ok {x : Noting α} {f : α → Noting β} {console : Console}
    {shown told : List Notice} {a : α} (h : x console shown = (.ok a, told)) :
    (x >>= f) console shown = f a console told := by
  rw [bind_apply]
  exact SourceOutline.bind_of_ok h

/-- A computation that gives a result does so step by step. -/
theorem bind_eq_ok {x : Noting α} {f : α → Noting β} {console : Console}
    {shown shown' : List Notice} {b : β} : (x >>= f) console shown = (.ok b, shown') ↔
      ∃ a told, x console shown = (.ok a, told) ∧ f a console told = (.ok b, shown') := by
  rw [bind_apply]
  exact SourceOutline.bind_eq_ok

/-- Shows some notices, one after the other, and then gives a result or fails. -/
def recite (result : Except Fault α) : List Notice → Noting α
  | [] => ofExcept result
  | notice :: rest => post notice >>= fun _ => recite result rest

/-- A computation that goes on after others recites its notices after theirs. -/
theorem recite_bind {result : Except Fault α} {f : α → Noting β} {more : List Notice}
    {last : Except Fault β} (h : ofExcept result >>= f = recite last more) (notices : List Notice) :
    recite result notices >>= f = recite last (notices ++ more) := by
  induction notices with
  | nil => exact h
  | cons notice rest ih =>
    rw [recite, bind_assoc, List.cons_append, recite]
    simp only [ih]

/-- The computation shows the same notices whatever was shown before, none of which is about the
loading of a parser, and gives the same, unless the console refuses one of them. -/
def Plain (c : Noting α) : Prop :=
  ∃ notices result, (∀ notice ∈ notices, notice.reportsLoad = false) ∧ c = recite result notices

theorem plain_ofExcept (result : Except Fault α) : Plain (ofExcept result) :=
  ⟨[], result, List.forall_mem_nil _, rfl⟩

theorem plain_pure (a : α) : Plain (pure a : Noting α) := plain_ofExcept (.ok a)

theorem plain_say (text : String) {piece : String} [Opens text piece] (h : Unrelated piece) :
    Plain (say text) := by
  refine ⟨[.line text], .ok (), List.forall_mem_singleton.2 h.of_opens.reportsLoad, ?_⟩
  exact (bind_pure (say text)).symm

theorem Plain.bind {x : Noting α} {f : α → Noting β} (hx : Plain x) (hf : ∀ a, Plain (f a)) :
    Plain (x >>= f) := by
  obtain ⟨notices, fault | a, hnotices, rfl⟩ := hx
  · refine ⟨notices ++ [], .error fault, by rwa [List.append_nil], recite_bind rfl notices⟩
  · obtain ⟨more, result, hmore, hrest⟩ := hf a
    exact ⟨notices ++ more, result, List.forall_mem_append.2 ⟨hnotices, hmore⟩,
      recite_bind hrest notices⟩

/-- On a console that shows everything, the computation gives a result. -/
def Succeeds (c : Noting α) : Prop := ∀ shown, ∃ a told, c .lenient shown = (.ok a, told)

theorem succeeds_ofExcept {result : Except Fault α} (h : ∃ a, result = .ok a) :
    Succeeds (ofExcept result) := by
  obtain ⟨a, rfl⟩ := h
  exact fun shown => ⟨a, shown, rfl⟩

theorem succeeds_pure (a : α) : Succeeds (pure a : Noting α) := fun shown => ⟨a, shown, rfl⟩

theorem succeeds_say (text : String) : Succeeds (say text) := fun _ => ⟨(), _, rfl⟩

theorem Succeeds.bind {x : Noting α} {f : α → Noting β} (hx : Succeeds x)
    (hf : ∀ a, Succeeds (f a)) : Succeeds (x >>= f) := by
  intro shown
  obtain ⟨a, told, ha⟩ := hx shown
  obtain ⟨b, rest, hb⟩ := hf a told
  exact ⟨b, rest, bind_eq_ok.2 ⟨a, told, ha, hb⟩⟩

end Noting

namespace Grammar

variable (g : Grammar)

open Noting (Plain plain_ofExcept plain_pure plain_say)

theorem plain_typeSignature (site : Site) (declared warning name : String)
    (h : Unrelated warning) : Plain (g.typeSignature site declared warning name) := by
  rw [typeSignature]
  rcases g.template declared >>= g.extractor.typeHead (.text g.text) site with fault | signature
  · exact (plain_say _ h).bind fun _ => plain_pure _
  · exact plain_pure signature

theorem plain_classSymbol (site : Site) : Plain (g.classSymbol site) := by
  refine (plain_ofExcept _).bind fun name => ?_
  cases name with
  | none => exact plain_pure none
  | some name =>
    exact (g.plain_typeSignature site _ _ name (Unrelated.ofList rfl)).bind fun _ => plain_pure _

theorem plain_interfaceSymbol (site : Site) : Plain (g.interfaceSymbol site) := by
  refine (plain_ofExcept _).bind fun name => ?_
  cases name with
  | none => exact plain_pure none
  | some name =>
    exact (g.plain_typeSignature site _ _ name (Unrelated.ofList rfl)).bind fun _ => plain_pure _

theorem plain_functionSymbol (site : Site) (insideClass : Bool) :
    Plain (g.functionSymbol site insideClass) := by
  refine (plain_ofExcept _).bind fun name => ?_
  cases name with
  | none => exact plain_pure none
  | some name =>
    refine (plain_ofExcept _).bind fun template => ?_
    rcases g.extractor.callable (.text g.text) site template with fault | signature
    · exact (plain_say _ (by exact .ofList rfl)).bind fun _ => plain_pure _
    · exact plain_pure _

variable (entry : LanguageEntry)

mutual

theorem plain_walk (holder : Option Node) (insideClass : Bool) :
    (node : Node) → Plain (g.walk entry holder insideClass node)
  | ⟨kind, start, stop, row, children, roles⟩ => by
    rw [walk]
    refine (plain_ofExcept _).bind fun r => ?_
    cases r with
    | type =>
      refine (g.plain_classSymbol _).bind fun symbol => ?_
      cases symbol with
      | none => exact plain_pure []
      | some symbol => exact (plain_walkAll _ true children).bind fun _ => plain_pure _
    | function =>
      refine (g.plain_functionSymbol _ insideClass).bind fun symbol => ?_
      cases symbol with
      | none => exact plain_pure []
      | some symbol => exact (plain_walkAll _ insideClass children).bind fun _ => plain_pure _
    | other => exact plain_walkAll _ insideClass children

theorem plain_walkAll (holder : Node) (insideClass : Bool) :
    (nodes : List Node) → Plain (g.walkAll entry holder insideClass nodes)
  | [] => by
    rw [walkAll]
    exact plain_pure []
  | node :: rest => by
    rw [walkAll]
    exact (plain_walk (some holder) insideClass node).bind fun _ =>
      (plain_walkAll holder insideClass rest).bind fun _ => plain_pure _

end

end Grammar

end SourceOutline
