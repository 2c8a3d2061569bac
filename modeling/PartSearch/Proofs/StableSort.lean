import Mathlib.Data.List.Nodup

/-!
# Stable sorting

A sorted list is stable if items that the order does not tell apart stand in it as they stood before.
Positions make the sorted list unique, and a merge sort finds it.
-/

namespace PartSearch

variable {α : Type} {le : α → α → Bool} {xs ys zs : List α}

/-- Of two items with their positions in a list, the first one comes earlier: by the order, and by
its position if the order does not tell them apart. -/
def Earlier (le : α → α → Bool) (x y : α × Nat) : Prop :=
  le x.1 y.1 = true ∧ (le y.1 x.1 = true → x.2 < y.2)

instance instDecidableEarlier (le : α → α → Bool) (x y : α × Nat) : Decidable (Earlier le x y) :=
  inferInstanceAs (Decidable (_ ∧ _))

/-- `ys` holds the items of `xs` sorted, and those that the order does not tell apart as they stand
in `xs`. -/
def IsStableSort (le : α → α → Bool) (xs ys : List α) : Prop :=
  ∃ places : List (α × Nat), places.Perm xs.zipIdx ∧ places.Pairwise (Earlier le) ∧
    places.map Prod.fst = ys

theorem IsStableSort.perm (h : IsStableSort le xs ys) : ys.Perm xs := by
  obtain ⟨places, hperm, -, rfl⟩ := h
  have hmap := hperm.map Prod.fst
  rwa [List.zipIdx_map_fst] at hmap

theorem IsStableSort.pairwise (h : IsStableSort le xs ys) : ys.Pairwise (le · · = true) := by
  obtain ⟨places, -, hearlier, rfl⟩ := h
  rw [List.pairwise_map]
  exact hearlier.imp And.left

theorem IsStableSort.unique (hys : IsStableSort le xs ys) (hzs : IsStableSort le xs zs) :
    ys = zs := by
  obtain ⟨places, hperm, hearlier, rfl⟩ := hys
  obtain ⟨places', hperm', hearlier', rfl⟩ := hzs
  congr 1
  refine List.Perm.eq_of_pairwise ?_ hearlier hearlier' (hperm.trans hperm'.symm)
  intro x y _ _ hxy hyx
  exact absurd (hxy.2 hyx.1) (Nat.lt_asymm (hyx.2 hxy.1))

theorem pairwise_snd_ne {places : List (α × Nat)} (hperm : places.Perm xs.zipIdx) :
    places.Pairwise fun x y => x.2 ≠ y.2 := by
  have hnodup : (places.map Prod.snd).Nodup := by
    rw [(hperm.map Prod.snd).nodup_iff, List.zipIdx_map_snd]
    exact List.nodup_range'
  exact List.pairwise_map.mp hnodup

theorem isStableSort_mergeSort (htrans : ∀ a b c, le a b = true → le b c = true → le a c = true)
    (htotal : ∀ a b, (le a b || le b a) = true) (xs : List α) :
    IsStableSort le xs (xs.mergeSort le) := by
  have hperm := List.mergeSort_perm xs.zipIdx (List.zipIdxLE le)
  have hsorted := List.pairwise_mergeSort (List.zipIdxLE_trans htrans)
    (List.zipIdxLE_total htotal) xs.zipIdx
  refine ⟨xs.zipIdx.mergeSort (List.zipIdxLE le), hperm, ?_, List.mergeSort_zipIdx⟩
  refine List.Pairwise.imp₂ ?_ hsorted (pairwise_snd_ne hperm)
  intro x y hle hne
  unfold List.zipIdxLE at hle
  split at hle
  · rename_i hxy
    refine ⟨hxy, fun hyx => ?_⟩
    rw [if_pos hyx, decide_eq_true_eq] at hle
    exact Nat.lt_of_le_of_ne hle hne
  · cases hle

end PartSearch
