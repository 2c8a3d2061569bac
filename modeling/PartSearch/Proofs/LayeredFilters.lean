import PartSearch.Proofs.LetterCase
import PartSearch.Query.Parsed

/-!
# Filters in layers

Filters given by hand lie over the filters read from a query and hide those on the same attribute.
Hiding passes through a layer that is hidden itself, `hides_merge`, so layers may be put together in
any order: `merge_monoid`, which also says what a layer adds to the one over it.
-/

namespace PartSearch.SpecFilter

open Text (sameText sameText_iff sameText_refl)

/-- Some filter of the layer has the name of `f`, up to the case of its letters. -/
def hides (layer : List SpecFilter) (f : SpecFilter) : Bool :=
  layer.any fun m => sameText m.name f.name

/-- What a layer of filters adds to the one over it. -/
structure Adds (above layer added : List SpecFilter) : Prop where
  inOrder : added.Sublist layer
  visible : ∀ f ∈ added, hides above f = false
  count_eq : ∀ f, hides above f = false → added.count f = layer.count f

section Hiding

variable {layer : List SpecFilter} {f g : SpecFilter}

theorem hides_eq_of_sameText (h : sameText f.name g.name = true) :
    hides layer f = hides layer g := by
  have hname := sameText_iff.mp h
  simp only [hides, sameText, hname]

theorem hides_self (h : f ∈ layer) : hides layer f = true :=
  List.any_eq_true.mpr ⟨f, h, sameText_refl f.name⟩

/-- What hides a filter that is hidden itself makes no difference. -/
theorem hides_merge (above layer : List SpecFilter) (f : SpecFilter) :
    hides (merge above layer) f = (hides above f || hides layer f) := by
  have hmerge : merge above layer = above ++ layer.filter fun g => !hides above g := rfl
  rw [hmerge, hides, List.any_append]
  change (hides above f || hides (layer.filter fun g => !hides above g) f) = _
  cases habove : hides above f with
  | true => rfl
  | false =>
      rw [Bool.false_or, Bool.false_or, hides, List.any_filter, hides]
      congr 1
      funext g
      cases hname : sameText g.name f.name with
      | false => rw [Bool.and_false]
      | true => rw [hides_eq_of_sameText hname, habove, Bool.not_false, Bool.true_and]

end Hiding

section Layers

variable {above layer added : List SpecFilter}

theorem merge_assoc (a b c : List SpecFilter) : merge a (merge b c) = merge (merge a b) c := by
  have hvisible : (fun f => !hides (merge a b) f) = fun f => !hides a f && !hides b f := by
    funext f
    rw [hides_merge, Bool.not_or]
  calc merge a (merge b c)
    _ = a ++ (b ++ c.filter fun f => !hides b f).filter fun f => !hides a f := rfl
    _ = (a ++ b.filter fun f => !hides a f) ++ c.filter fun f => !hides a f && !hides b f := by
        rw [List.filter_append, List.filter_filter, List.append_assoc]
    _ = merge a b ++ c.filter fun f => !hides (merge a b) f := by
        rw [hvisible]
        rfl
    _ = merge (merge a b) c := rfl

theorem merge_nil_left (a : List SpecFilter) : merge [] a = a := List.filter_true a

theorem merge_nil_right (a : List SpecFilter) : merge a [] = a := List.append_nil a

theorem merge_self (a : List SpecFilter) : merge a a = a := by
  have hnone : (a.filter fun f => !hides a f) = [] := by
    rw [List.filter_eq_nil_iff]
    intro f hf
    rw [hides_self hf]
    decide
  change a ++ (a.filter fun f => !hides a f) = a
  rw [hnone, List.append_nil]

theorem adds_filter (above layer : List SpecFilter) :
    Adds above layer (layer.filter fun f => !hides above f) where
  inOrder := List.filter_sublist
  visible := fun f hf => by simpa using (List.mem_filter.mp hf).2
  count_eq := fun f hf => List.count_filter (by rw [hf, Bool.not_false])

/-- Order and multiplicity determine what a layer adds. -/
theorem Adds.eq_filter (h : Adds above layer added) :
    added = layer.filter fun f => !hides above f := by
  have hall : ∀ f ∈ added, (!hides above f) = true := by
    intro f hf
    rw [h.visible f hf, Bool.not_false]
  have hsublist : added.Sublist (layer.filter fun f => !hides above f) := by
    have hfilter := h.inOrder.filter fun f => !hides above f
    rwa [List.filter_eq_self.mpr hall] at hfilter
  have hperm : added.Perm (layer.filter fun f => !hides above f) := by
    rw [List.perm_iff_count]
    intro f
    cases hf : hides above f with
    | false => rw [h.count_eq f hf, (adds_filter above layer).count_eq f hf]
    | true =>
        have hnot {fs : List SpecFilter} (hfs : ∀ g ∈ fs, hides above g = false) : f ∉ fs :=
          fun hmem => by simp [hfs f hmem] at hf
        rw [List.count_eq_zero.mpr (hnot h.visible),
          List.count_eq_zero.mpr (hnot (adds_filter above layer).visible)]
  exact hsublist.eq_of_length hperm.length_eq

theorem eq_merge_iff {merged : List SpecFilter} :
    merged = merge above layer ↔ ∃ added, merged = above ++ added ∧ Adds above layer added := by
  constructor
  · rintro rfl
    exact ⟨_, rfl, adds_filter above layer⟩
  · rintro ⟨added, rfl, hadds⟩
    rw [hadds.eq_filter]
    rfl

/-- Layers of filters form an idempotent monoid. A layer leaves the one over it as it is, and behind
it stand its own filters that are not hidden, in their order and as often as they were there. -/
theorem merge_monoid :
    (∀ a b c, merge a (merge b c) = merge (merge a b) c) ∧
    (∀ a, merge [] a = a ∧ merge a [] = a ∧ merge a a = a) ∧
    ∀ manual read merged, merged = merge manual read ↔
      ∃ added, merged = manual ++ added ∧ Adds manual read added :=
  ⟨merge_assoc, fun a => ⟨merge_nil_left a, merge_nil_right a, merge_self a⟩,
    fun _ _ _ => eq_merge_iff⟩

end Layers

end PartSearch.SpecFilter
