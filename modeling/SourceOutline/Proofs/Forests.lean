import Mathlib.Data.List.Flatten
import SourceOutline.Symbol

/-!
# Forests of symbols

All symbols of a forest in one list, every symbol before those in it, and the same list with the
depth of each symbol. The symbols at the top are among them, and are all of them exactly when no
symbol has others in it.
-/

namespace SourceOutline.Symbol

mutual

/-- The symbols in a symbol, itself first, each without its children. -/
def preorder (symbol : Symbol) : List Symbol :=
  match symbol with
  | ⟨name, kind, line, signature, language, children⟩ =>
    ⟨name, kind, line, signature, language, []⟩ :: preorderAll children

/-- The symbols in a forest, every symbol before those in it. -/
def preorderAll : List Symbol → List Symbol
  | [] => []
  | symbol :: rest => preorder symbol ++ preorderAll rest

end

mutual

theorem length_preorder : (symbol : Symbol) → symbol.preorder.length = symbol.size
  | ⟨name, kind, line, signature, language, children⟩ => by
    rw [preorder, size, List.length_cons, length_preorderAll children, Nat.add_comm]

theorem length_preorderAll : (forest : List Symbol) → (preorderAll forest).length = sizeAll forest
  | [] => rfl
  | symbol :: rest => by
    rw [preorderAll, sizeAll, List.length_append, length_preorder symbol, length_preorderAll rest]

end

mutual

/-- The symbols in a symbol, itself first, each with its depth; `depth` is its own. -/
def levelsAt (depth : Nat) (symbol : Symbol) : List (Nat × Symbol) :=
  match symbol with
  | ⟨name, kind, line, signature, language, children⟩ =>
    (depth, ⟨name, kind, line, signature, language, []⟩) :: levels (depth + 1) children

/-- The symbols in a forest with their depths; `depth` is that of the symbols at the top. -/
def levels (depth : Nat) : List Symbol → List (Nat × Symbol)
  | [] => []
  | symbol :: rest => levelsAt depth symbol ++ levels depth rest

end

mutual

theorem map_snd_levelsAt (depth : Nat) :
    (symbol : Symbol) → (levelsAt depth symbol).map (·.2) = symbol.preorder
  | ⟨name, kind, line, signature, language, children⟩ => by
    rw [levelsAt, preorder, List.map_cons, map_snd_levels (depth + 1) children]

theorem map_snd_levels (depth : Nat) :
    (forest : List Symbol) → (levels depth forest).map (·.2) = preorderAll forest
  | [] => rfl
  | symbol :: rest => by
    rw [levels, preorderAll, List.map_append, map_snd_levelsAt depth symbol,
      map_snd_levels depth rest]

end

theorem preorder_eq (symbol : Symbol) :
    symbol.preorder = symbol.alone :: preorderAll symbol.children := by
  cases symbol
  rw [preorder, alone]

/-- The symbols at the top are among all symbols, in the same order. -/
theorem topLevel_sublist_preorderAll (forest : List Symbol) :
    (topLevel forest).Sublist (preorderAll forest) := by
  induction forest with
  | nil => exact .slnil
  | cons symbol rest ih =>
    rw [topLevel, List.map_cons, preorderAll, preorder_eq, List.cons_append]
    exact (ih.trans (List.sublist_append_right _ _)).cons_cons _

/-- Symbols at the top without symbols in them are left as they are. -/
theorem preorderAll_topLevel (forest : List Symbol) :
    preorderAll (topLevel forest) = topLevel forest := by
  induction forest with
  | nil => rfl
  | cons symbol rest ih =>
    rw [topLevel, List.map_cons, preorderAll, preorder_eq, ← topLevel, ih]
    rfl

/-- The symbols at the top are all symbols exactly when none has others in it. -/
theorem sizeAll_eq_length_iff (forest : List Symbol) :
    sizeAll forest = forest.length ↔ ∀ symbol ∈ forest, symbol.children = [] := by
  induction forest with
  | nil => simp [sizeAll]
  | cons symbol rest ih =>
    have hrest := length_le_sizeAll rest
    have hchildren := length_le_sizeAll symbol.children
    have hnone : sizeAll symbol.children = 0 ↔ symbol.children = [] := by
      constructor
      · intro hzero
        exact List.eq_nil_of_length_eq_zero (by omega)
      · intro hnil
        rw [hnil, sizeAll]
    rw [List.forall_mem_cons, ← ih, ← hnone, sizeAll, size_eq, List.length_cons]
    omega

end SourceOutline.Symbol
