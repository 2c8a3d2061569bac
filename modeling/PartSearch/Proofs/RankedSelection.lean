import Mathlib.Data.String.Basic
import PartSearch.Replacement.Score

/-!
# The best of some entries

`best` never holds more entries than it is asked for, so it never sorts all of them. What it keeps
is still the beginning of their whole `ranking`: an entry that is dropped at some step has enough
better ones before it, and no later entry changes that. With distinct keys the ranking is strict
and does not depend on the order in which the entries come.
-/

namespace PartSearch.Ranked

variable {α : Type}

/-- What entries are ranked by. -/
def key (entry : Ranked α) : Int × String := (entry.score, entry.id)

theorem before_iff {a b : Ranked α} :
    a.before b = true ↔ b.score < a.score ∨ a.score = b.score ∧ a.id < b.id := by
  simp [before]

theorem before_trans {a b c : Ranked α} (hab : a.before b = true) (hbc : b.before c = true) :
    a.before c = true := by
  rw [before_iff] at hab hbc ⊢
  rcases hab with hab | ⟨hab, hid⟩
  · exact Or.inl (by omega)
  · rcases hbc with hbc | ⟨hbc, hid'⟩
    · exact Or.inl (by omega)
    · exact Or.inr ⟨by omega, lt_trans hid hid'⟩

theorem not_before_of_before {a b : Ranked α} (hab : a.before b = true) : ¬ b.before a = true := by
  intro hba
  rcases before_iff.mp (before_trans hab hba) with hscore | ⟨-, hid⟩
  · exact absurd hscore (lt_irrefl _)
  · exact absurd hid (lt_irrefl _)

theorem before_of_not_before {a b : Ranked α} (hkey : a.key ≠ b.key) (h : ¬ b.before a = true) :
    a.before b = true := by
  rw [before_iff] at h ⊢
  rcases lt_trichotomy b.score a.score with hscore | hscore | hscore
  · exact Or.inl hscore
  · rcases lt_trichotomy a.id b.id with hid | hid | hid
    · exact Or.inr ⟨hscore.symm, hid⟩
    · exact absurd (Prod.ext hscore.symm hid) hkey
    · exact absurd (Or.inr ⟨hscore, hid⟩) h
  · exact absurd (Or.inl hscore) h

/-! ### Insertion -/

theorem insert_perm (entry : Ranked α) (kept : List (Ranked α)) :
    (insert entry kept).Perm (entry :: kept) := by
  induction kept with
  | nil => exact .refl _
  | cons e rest ih =>
      rw [insert]
      split
      · exact .refl _
      · exact (ih.cons e).trans (.swap entry e rest)

/-- No entry comes before one that stands further to the left. -/
def IsRanked (entries : List (Ranked α)) : Prop := entries.Pairwise fun a b => ¬ b.before a = true

theorem IsRanked.pairwise_before {entries : List (Ranked α)} (h : IsRanked entries)
    (hkeys : (entries.map key).Nodup) : entries.Pairwise fun a b => a.before b = true :=
  (List.pairwise_map.mp hkeys).imp₂ (fun _ _ hne hle => before_of_not_before hne hle) h

/-- With distinct keys there is one way to rank entries. -/
theorem IsRanked.eq_of_perm {entries others : List (Ranked α)} (h : IsRanked entries)
    (hothers : IsRanked others) (hperm : entries.Perm others) (hkeys : (entries.map key).Nodup) :
    entries = others := by
  refine List.Perm.eq_of_pairwise ?_ (h.pairwise_before hkeys)
    (hothers.pairwise_before ((hperm.map key).nodup_iff.mp hkeys)) hperm
  intro a b _ _ hab hba
  exact absurd hba (not_before_of_before hab)

theorem IsRanked.insert {kept : List (Ranked α)} (h : IsRanked kept) (entry : Ranked α) :
    IsRanked (insert entry kept) := by
  induction kept with
  | nil => exact List.pairwise_singleton _ _
  | cons e rest ih =>
      obtain ⟨he, hrest⟩ := List.pairwise_cons.mp h
      rw [Ranked.insert]
      by_cases hbefore : entry.before e = true
      · rw [if_pos hbefore]
        refine List.pairwise_cons.mpr ⟨fun other hother hlater => ?_, h⟩
        have hother' := before_trans hlater hbefore
        rcases List.mem_cons.mp hother with rfl | hmem
        · exact not_before_of_before hother' hother'
        · exact he other hmem hother'
      · rw [if_neg hbefore]
        refine List.pairwise_cons.mpr ⟨fun other hother => ?_, ih hrest⟩
        rcases List.mem_cons.mp ((insert_perm entry rest).mem_iff.mp hother) with rfl | hmem
        · exact hbefore
        · exact he other hmem

/-- What is cut off a list has no influence on the beginning of the list after an insertion. -/
theorem take_insert_take (count : Nat) (entry : Ranked α) (kept : List (Ranked α)) :
    (insert entry (kept.take count)).take count = (insert entry kept).take count := by
  induction kept generalizing count with
  | nil => rw [List.take_nil]
  | cons e rest ih =>
      cases count with
      | zero => rfl
      | succ count =>
          rw [List.take_succ_cons, insert, insert]
          split
          · cases count with
            | zero => rfl
            | succ count => simp [List.take_take]
          · rw [List.take_succ_cons, List.take_succ_cons, ih count]

/-! ### The whole ranking -/

/-- All entries, the best one first. -/
def ranking (entries : List (Ranked α)) : List (Ranked α) :=
  entries.foldl (fun kept entry => insert entry kept) []

theorem best_eq_take_ranking (count : Nat) (entries : List (Ranked α)) :
    best count entries = (ranking entries).take count := by
  have hsteps : ∀ kept : List (Ranked α),
      entries.foldl (fun kept entry => (insert entry kept).take count) (kept.take count) =
        (entries.foldl (fun kept entry => insert entry kept) kept).take count := by
    induction entries with
    | nil => exact fun kept => rfl
    | cons entry entries ih =>
        intro kept
        rw [List.foldl_cons, List.foldl_cons, take_insert_take, ih]
  have hstart := hsteps []
  rwa [List.take_nil] at hstart

theorem ranking_perm (entries : List (Ranked α)) : (ranking entries).Perm entries := by
  have hsteps : ∀ kept : List (Ranked α),
      (entries.foldl (fun kept entry => insert entry kept) kept).Perm (kept ++ entries) := by
    induction entries with
    | nil =>
        intro kept
        rw [List.append_nil]
        exact .refl _
    | cons entry entries ih =>
        intro kept
        refine (ih _).trans (((insert_perm entry kept).append_right entries).trans ?_)
        exact List.perm_middle.symm
  exact hsteps []

theorem isRanked_ranking (entries : List (Ranked α)) : IsRanked (ranking entries) := by
  have hsteps : ∀ kept : List (Ranked α), IsRanked kept →
      IsRanked (entries.foldl (fun kept entry => insert entry kept) kept) := by
    induction entries with
    | nil => exact fun kept h => h
    | cons entry entries ih => exact fun kept h => ih _ (h.insert entry)
  exact hsteps [] List.Pairwise.nil

section DistinctKeys

variable {entries others : List (Ranked α)}

theorem pairwise_ranking (hkeys : (entries.map key).Nodup) :
    (ranking entries).Pairwise fun a b => a.before b = true :=
  (isRanked_ranking entries).pairwise_before
    (((ranking_perm entries).map key).nodup_iff.mpr hkeys)

/-- The order in which entries come does not matter. -/
theorem ranking_eq_of_perm (hperm : entries.Perm others) (hkeys : (entries.map key).Nodup) :
    ranking entries = ranking others := by
  apply (isRanked_ranking entries).eq_of_perm (isRanked_ranking others)
  · exact (ranking_perm entries).trans (hperm.trans (ranking_perm others).symm)
  · exact ((ranking_perm entries).map key).nodup_iff.mpr hkeys

end DistinctKeys

end PartSearch.Ranked
