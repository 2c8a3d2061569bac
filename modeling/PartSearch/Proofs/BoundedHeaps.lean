import Mathlib.Data.List.Induction
import PartSearch.Proofs.RankedSelection

/-!
# Heaps of bounded size

The best entries can be kept on a heap: each entry is pushed, and if the heap holds too many its
worst entry is taken off. `Collects` says what the heap holds then, in whatever order it stores its
entries. After every step these are the best entries so far, `Collects.perm_best`, so the last heap
holds the beginning of the sorted list: `best_eq_take_bestFirst`.
-/

namespace PartSearch.Ranked

variable {α : Type}

/-! ### Sorted entries -/

/-- The higher score stands first, and of two equal scores the lower id. -/
def notBehind (a b : Ranked α) : Bool :=
  b.score < a.score || (a.score = b.score && a.id ≤ b.id)

theorem notBehind_iff {a b : Ranked α} :
    a.notBehind b = true ↔ b.score < a.score ∨ a.score = b.score ∧ a.id ≤ b.id := by
  simp [notBehind]

theorem notBehind_trans (a b c : Ranked α) (hab : a.notBehind b = true)
    (hbc : b.notBehind c = true) : a.notBehind c = true := by
  rw [notBehind_iff] at hab hbc ⊢
  rcases hab with hab | ⟨hab, hid⟩
  · exact Or.inl (by omega)
  · rcases hbc with hbc | ⟨hbc, hid'⟩
    · exact Or.inl (by omega)
    · exact Or.inr ⟨by omega, le_trans hid hid'⟩

theorem notBehind_of_before {a b : Ranked α} (h : a.before b = true) : a.notBehind b = true := by
  rw [before_iff] at h
  exact notBehind_iff.mpr (h.imp_right fun hid => ⟨hid.1, hid.2.le⟩)

theorem notBehind_iff_not_before {a b : Ranked α} :
    a.notBehind b = true ↔ ¬ b.before a = true := by
  rw [notBehind_iff, before_iff, not_or, not_and, not_lt, not_lt]
  constructor
  · rintro (hscore | ⟨hscore, hid⟩)
    · exact ⟨hscore.le, fun heq => absurd heq hscore.ne⟩
    · exact ⟨hscore.ge, fun _ => hid⟩
  · rintro ⟨hscore, hid⟩
    by_cases heq : b.score = a.score
    · exact Or.inr ⟨heq.symm, hid heq⟩
    · exact Or.inl (lt_of_le_of_ne hscore heq)

def bestFirst (entries : List (Ranked α)) : List (Ranked α) := entries.mergeSort notBehind

theorem bestFirst_perm (entries : List (Ranked α)) : (bestFirst entries).Perm entries :=
  List.mergeSort_perm entries notBehind

theorem isRanked_bestFirst (entries : List (Ranked α)) : IsRanked (bestFirst entries) := by
  have htotal (a b : Ranked α) : (a.notBehind b || b.notBehind a) = true := by
    by_cases h : b.before a = true
    · rw [notBehind_of_before h, Bool.or_true]
    · rw [notBehind_iff_not_before.mpr h, Bool.true_or]
  have hsorted : (bestFirst entries).Pairwise fun a b => a.notBehind b = true :=
    List.pairwise_mergeSort notBehind_trans htotal entries
  exact hsorted.imp notBehind_iff_not_before.mp

theorem bestFirst_eq_ranking {entries : List (Ranked α)} (hkeys : (entries.map key).Nodup) :
    bestFirst entries = ranking entries := by
  apply (isRanked_bestFirst entries).eq_of_perm (isRanked_ranking entries)
  · exact (bestFirst_perm entries).trans (ranking_perm entries).symm
  · exact ((bestFirst_perm entries).map key).nodup_iff.mpr hkeys

/-! ### Pushing and taking off -/

variable {count : Nat} {entry : Ranked α} {seen heap next : List (Ranked α)}

/-- The heap `next` is `heap` after `entry` was pushed and, if there are more than `count` entries
then, one was taken off that comes before no other. -/
inductive Pushed (count : Nat) (entry : Ranked α) (heap : List (Ranked α)) :
    List (Ranked α) → Prop
  | kept {next : List (Ranked α)} (hfits : heap.length + 1 ≤ count)
      (hperm : next.Perm (entry :: heap)) : Pushed count entry heap next
  | evicted {next : List (Ranked α)} {worst : Ranked α} (hfull : count < heap.length + 1)
      (hperm : (worst :: next).Perm (entry :: heap))
      (hworst : ∀ e ∈ next, ¬ worst.before e = true) : Pushed count entry heap next

/-- What a heap holds once some entries have been pushed onto it, one after another. -/
inductive Collects (count : Nat) : List (Ranked α) → List (Ranked α) → Prop
  | start : Collects count [] []
  | step {seen heap next : List (Ranked α)} {entry : Ranked α} (h : Collects count seen heap)
      (hpushed : Pushed count entry heap next) : Collects count (seen ++ [entry]) next

theorem best_concat (count : Nat) (seen : List (Ranked α)) (entry : Ranked α) :
    best count (seen ++ [entry]) = (insert entry (best count seen)).take count := by
  rw [best, List.foldl_concat, best]

theorem length_best (count : Nat) (entries : List (Ranked α)) :
    (best count entries).length = min count entries.length := by
  rw [best_eq_take_ranking, List.length_take, (ranking_perm entries).length_eq]

theorem isRanked_best (count : Nat) (entries : List (Ranked α)) : IsRanked (best count entries) := by
  rw [best_eq_take_ranking]
  exact (isRanked_ranking entries).sublist (List.take_sublist count _)

theorem nodup_insert_best (hkeys : ((seen ++ [entry]).map key).Nodup) :
    ((insert entry (best count seen)).map key).Nodup := by
  have hall : (entry :: ranking seen).Perm (seen ++ [entry]) :=
    ((ranking_perm seen).cons entry).trans (List.perm_append_singleton entry seen).symm
  have hsub : (entry :: best count seen).Sublist (entry :: ranking seen) := by
    rw [best_eq_take_ranking]
    exact (List.take_sublist count _).cons_cons entry
  rw [((insert_perm entry (best count seen)).map key).nodup_iff]
  exact ((hall.map key).nodup_iff.mpr hkeys).sublist (hsub.map key)

/-- Bounded insertion does what a heap does. -/
theorem pushed_best (count : Nat) (seen : List (Ranked α)) (entry : Ranked α) :
    Pushed count entry (best count seen) (best count (seen ++ [entry])) := by
  have hperm := insert_perm entry (best count seen)
  have hranked := (isRanked_best count seen).insert entry
  have hlength := hperm.length_eq
  rw [best_concat]
  by_cases hfits : (best count seen).length + 1 ≤ count
  · rw [List.take_of_length_le (by rw [hlength]; exact hfits)]
    exact .kept hfits hperm
  · have hle := length_best count seen
    obtain ⟨front, worst, hsplit⟩ := (List.eq_nil_or_concat' (insert entry (best count seen))).resolve_left
      (List.ne_nil_of_length_pos (by rw [hlength]; exact Nat.succ_pos _))
    rw [hsplit] at hperm hranked hlength ⊢
    rw [List.length_append, List.length_singleton, List.length_cons] at hlength
    rw [List.take_left' (by omega)]
    refine .evicted (by omega) ((List.perm_append_singleton worst front).symm.trans hperm) ?_
    intro e he
    exact (List.pairwise_append.mp hranked).2.2 e he worst (List.mem_singleton_self worst)

theorem collects_best (count : Nat) (entries : List (Ranked α)) :
    Collects count entries (best count entries) := by
  induction entries using List.reverseRecOn with
  | nil => exact .start
  | append_singleton seen entry ih => exact ih.step (pushed_best count seen entry)

/-- What is taken off a heap with the best entries so far is the last one of the ranking. -/
theorem Pushed.perm_best (h : Pushed count entry heap next) (hheap : heap.Perm (best count seen))
    (hkeys : ((seen ++ [entry]).map key).Nodup) : next.Perm (best count (seen ++ [entry])) := by
  have hinsert : (insert entry (best count seen)).Perm (entry :: heap) :=
    (insert_perm entry (best count seen)).trans (hheap.symm.cons entry)
  have hlength := hinsert.length_eq
  rw [List.length_cons] at hlength
  rw [best_concat]
  cases h with
  | kept hfits hperm =>
      rw [List.take_of_length_le (by omega)]
      exact hperm.trans hinsert.symm
  | @evicted worst hfull hperm hworst =>
      have hheapLength : heap.length ≤ count := by
        rw [hheap.length_eq, length_best]
        exact Nat.min_le_left count _
      have hne : insert entry (best count seen) ≠ [] :=
        List.ne_nil_of_length_pos (by omega)
      obtain ⟨front, last, hsplit⟩ := (List.eq_nil_or_concat' _).resolve_left hne
      have hstrict := ((isRanked_best count seen).insert entry).pairwise_before
        (nodup_insert_best hkeys)
      rw [hsplit] at hinsert hlength hstrict ⊢
      rw [List.length_append, List.length_singleton] at hlength
      rw [List.take_left' (by omega)]
      have hall : (worst :: next).Perm (last :: front) :=
        hperm.trans (hinsert.symm.trans (List.perm_append_singleton last front))
      have hlast : worst = last := by
        by_contra hother
        have hfront : worst ∈ front :=
          (List.mem_cons.mp (hall.mem_iff.mp List.mem_cons_self)).resolve_left hother
        have hnext : last ∈ next :=
          (List.mem_cons.mp (hall.mem_iff.mpr List.mem_cons_self)).resolve_left (Ne.symm hother)
        exact hworst last hnext
          ((List.pairwise_append.mp hstrict).2.2 worst hfront last (List.mem_singleton_self last))
      rw [hlast] at hall
      exact hall.cons_inv

theorem Collects.perm_best (h : Collects count seen heap) (hkeys : (seen.map key).Nodup) :
    heap.Perm (best count seen) := by
  induction h with
  | start => exact .refl _
  | @step seen heap next entry h hpushed ih =>
      have hseen : (seen.map key).Nodup :=
        hkeys.sublist ((List.sublist_append_left seen [entry]).map key)
      exact hpushed.perm_best (ih hseen) hkeys

theorem Collects.length_le (h : Collects count seen heap) : heap.length ≤ count := by
  induction h with
  | start => exact Nat.zero_le count
  | step h hpushed ih =>
      cases hpushed with
      | kept hfits hperm => rwa [hperm.length_eq, List.length_cons]
      | evicted hfull hperm hworst =>
          have hlength := hperm.length_eq
          rw [List.length_cons, List.length_cons] at hlength
          omega

theorem Collects.bestFirst_eq (h : Collects count seen heap) (hkeys : (seen.map key).Nodup) :
    bestFirst heap = best count seen := by
  have hheap := h.perm_best hkeys
  apply (isRanked_bestFirst heap).eq_of_perm (isRanked_best count seen)
  · exact (bestFirst_perm heap).trans hheap
  · rw [(((bestFirst_perm heap).trans hheap).map key).nodup_iff, best_eq_take_ranking]
    exact (((ranking_perm seen).map key).nodup_iff.mpr hkeys).sublist
      ((List.take_sublist count _).map key)

/-! ### The best entries -/

/-- The best entries are the beginning of the sorted list, whatever the order in which they come. A
heap of bounded size holds them after every step, and never more entries than that; sorted at the
end, it gives the same list. -/
theorem best_eq_take_bestFirst (count : Nat) {entries : List (Ranked α)}
    (hkeys : (entries.map key).Nodup) :
    best count entries = (bestFirst entries).take (min count entries.length) ∧
    (∀ seen, seen <+: entries → Collects count seen (best count seen) ∧
      ∀ heap, Collects count seen heap → heap.length ≤ count ∧
        heap.Perm ((bestFirst seen).take count)) ∧
    (∀ heap, Collects count entries heap → bestFirst heap = best count entries) ∧
    ∀ others : List (Ranked α), others.Perm entries → best count others = best count entries := by
  have hbest {es : List (Ranked α)} (hes : (es.map key).Nodup) :
      best count es = (bestFirst es).take count := by
    rw [best_eq_take_ranking, bestFirst_eq_ranking hes]
  refine ⟨?_, fun seen hseen => ⟨collects_best count seen, fun heap h => ⟨h.length_le, ?_⟩⟩,
    fun heap h => h.bestFirst_eq hkeys, fun others hperm => ?_⟩
  · rw [hbest hkeys, List.take_eq_take_iff, (bestFirst_perm entries).length_eq, Nat.min_assoc,
      Nat.min_self]
  · have hkeys' : (seen.map key).Nodup := hkeys.sublist (hseen.sublist.map key)
    rw [← hbest hkeys']
    exact h.perm_best hkeys'
  · rw [best_eq_take_ranking, best_eq_take_ranking,
      ranking_eq_of_perm hperm ((hperm.map key).nodup_iff.mpr hkeys)]

def fourLetters : List (Ranked Char) :=
  [⟨5, "b", 'b'⟩, ⟨9, "z", 'z'⟩, ⟨5, "a", 'a'⟩, ⟨1, "c", 'c'⟩]

theorem best_eq_take_bestFirst_fourLetters :
    (fourLetters.map key).Nodup ∧ (best 3 fourLetters).map item = ['z', 'a', 'b'] ∧
      best 3 fourLetters = (bestFirst fourLetters).take (min 3 4) ∧
      best 3 fourLetters.reverse = best 3 fourLetters := by
  have hkeys : (fourLetters.map key).Nodup := by decide
  obtain ⟨hsorted, -, -, hperm⟩ := best_eq_take_bestFirst 3 hkeys
  exact ⟨hkeys, by decide, hsorted, hperm _ (List.reverse_perm fourLetters)⟩

end PartSearch.Ranked
