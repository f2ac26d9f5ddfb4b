import Mathlib.Data.List.Nodup
import SourceOutline.Report.Outline

/-!
# Sorting by a key

The views of a repository sort folders, files and languages by a text that is made of each of them.
Sorting is stable (`Outline.sortedBy_sortByKey`). When no two items have the same key, the order in
which they come has no part in the outcome (`Outline.sortByKey_eq_of_perm`).
-/

namespace SourceOutline.Outline

variable {α β : Type}

/-- The items in the order of their keys; items with the same key stand as they stood before. -/
structure SortedBy (key : α → String) (items sorted : List α) : Prop where
  perm : sorted.Perm items
  ascending : sorted.Pairwise fun a b => key a ≤ key b
  stable : ∀ k, sorted.filter (key · == k) = items.filter (key · == k)

theorem sortByKey_perm (key : α → String) (items : List α) :
    (sortByKey key items).Perm items := List.mergeSort_perm _ _

section Order

variable (key : α → String)

theorem not_lt_key_iff {a b : α} : (!decide (key b < key a)) = true ↔ key a ≤ key b := by
  simp only [Bool.not_eq_true', decide_eq_false_iff_not, String.not_lt]

theorem not_lt_key_trans (a b c : α) (hab : (!decide (key b < key a)) = true)
    (hbc : (!decide (key c < key b)) = true) : (!decide (key c < key a)) = true := by
  rw [not_lt_key_iff] at hab hbc ⊢
  exact String.le_trans hab hbc

theorem not_lt_key_total (a b : α) :
    ((!decide (key b < key a)) || !decide (key a < key b)) = true := by
  rw [Bool.or_eq_true, not_lt_key_iff, not_lt_key_iff]
  exact String.le_total _ _

end Order

theorem pairwise_sortByKey (key : α → String) (items : List α) :
    (sortByKey key items).Pairwise fun a b => key a ≤ key b := by
  have hsorted := List.pairwise_mergeSort (not_lt_key_trans key) (not_lt_key_total key) items
  exact hsorted.imp fun h => (not_lt_key_iff key).1 h

/-- Items with the same key keep their order. -/
theorem filter_sortByKey (key : α → String) (items : List α) (k : String) :
    (sortByKey key items).filter (key · == k) = items.filter (key · == k) := by
  -- The items of the key are in ascending order as they stand, so sorting does not move them.
  have hascending : (items.filter (key · == k)).Pairwise
      fun a b => (!decide (key b < key a)) = true := by
    refine List.pairwise_of_forall_mem_list fun a ha b hb => ?_
    have hka : key a = k := by simpa using (List.mem_filter.1 ha).2
    have hkb : key b = k := by simpa using (List.mem_filter.1 hb).2
    have hle : key a ≤ key b := hka ▸ hkb ▸ String.le_refl k
    exact (not_lt_key_iff key).2 hle
  have hsublist : (items.filter (key · == k)).Sublist (sortByKey key items) :=
    List.sublist_mergeSort (not_lt_key_trans key) (not_lt_key_total key) hascending
      List.filter_sublist
  have hfiltered := hsublist.filter (key · == k)
  rw [List.filter_filter] at hfiltered
  simp only [Bool.and_self] at hfiltered
  exact (hfiltered.eq_of_length ((sortByKey_perm key items).filter _).length_eq.symm).symm

theorem sortedBy_sortByKey (key : α → String) (items : List α) :
    SortedBy key items (sortByKey key items) :=
  ⟨sortByKey_perm key items, pairwise_sortByKey key items, filter_sortByKey key items⟩

/-- What is made of each item can be made before or after sorting, as long as the key can still be
told. -/
theorem map_sortByKey {f : α → β} {key : α → String} {key' : β → String}
    (h : ∀ a, key' (f a) = key a) (items : List α) :
    (sortByKey key items).map f = sortByKey key' (items.map f) := by
  refine List.map_mergeSort fun a _ b _ => ?_
  rw [h, h]

/-- Items with different keys are sorted in one way only. -/
theorem sortByKey_eq_of_perm {key : α → String} {items items' : List α}
    (hdistinct : (items.map key).Nodup) (hperm : items.Perm items') :
    sortByKey key items = sortByKey key items' := by
  have hsorted := sortByKey_perm key items
  have hsorted' := sortByKey_perm key items'
  refine List.Perm.eq_of_pairwise (fun a b ha hb hab hba => ?_) (pairwise_sortByKey key items)
    (pairwise_sortByKey key items') (hsorted.trans (hperm.trans hsorted'.symm))
  have hmem : a ∈ items := hsorted.mem_iff.1 ha
  have hmem' : b ∈ items := hperm.mem_iff.2 (hsorted'.mem_iff.1 hb)
  exact List.inj_on_of_nodup_map hdistinct hmem hmem' (String.le_antisymm hab hba)

end SourceOutline.Outline
