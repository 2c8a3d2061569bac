import PartSearch.Proofs.StableSort
import PartSearch.Reading.Span

/-!
# Which candidates are kept

Candidates are taken in the order of their starts, those with one start in the order in which they
were reported, and each is kept unless it starts inside the last one kept. That one covers the start
of every candidate passed over since, because starts only move forward. So nothing is lost without
a reason: `select_spec`.
-/

namespace PartSearch.Candidate

variable {α : Type}

/-- The order of the starts. -/
def startsBy (a b : Candidate α) : Bool := a.span.start ≤ b.span.start

/-- What the greedy choice keeps of candidates in order, each with the position in which it was
reported, if candidates that start before `first` are passed over. -/
structure KeptFrom (first : Nat) (sorted kept : List (Candidate α × Nat)) : Prop where
  sublist : kept.Sublist sorted
  behind : ∀ k ∈ kept, first ≤ k.1.span.start
  apart : kept.Pairwise fun a b => a.1.span.stop ≤ b.1.span.start
  covered : ∀ c ∈ sorted, c ∉ kept → first ≤ c.1.span.start →
    ∃ k ∈ kept, k.1.span.start ≤ c.1.span.start ∧ c.1.span.start < k.1.span.stop
  reported : ∀ c ∈ sorted, c ∉ kept → ∀ k ∈ kept, k.1.span.start = c.1.span.start → k.2 < c.2

section KeptFrom

variable {first : Nat} {x : Candidate α × Nat} {sorted kept : List (Candidate α × Nat)}

theorem KeptFrom.nil (first : Nat) : KeptFrom first ([] : List (Candidate α × Nat)) [] where
  sublist := .slnil
  behind := by simp
  apart := .nil
  covered := by simp
  reported := by simp

/-- A candidate that starts too early is passed over. -/
theorem KeptFrom.skip (h : KeptFrom first sorted kept) (hx : x.1.span.start < first) :
    KeptFrom first (x :: sorted) kept where
  sublist := h.sublist.cons x
  behind := h.behind
  apart := h.apart
  covered := by
    intro c hc hnot hfirst
    rcases List.mem_cons.mp hc with rfl | hc
    · omega
    · exact h.covered c hc hnot hfirst
  reported := by
    intro c hc hnot k hk hstart
    rcases List.mem_cons.mp hc with rfl | hc
    · have hbehind := h.behind k hk
      omega
    · exact h.reported c hc hnot k hk hstart

/-- A candidate that is kept covers the starts of those passed over behind it. -/
theorem KeptFrom.keep (h : KeptFrom x.1.span.stop sorted kept) (hx : first ≤ x.1.span.start)
    (hlater : ∀ c ∈ sorted, Earlier startsBy x c) : KeptFrom first (x :: sorted) (x :: kept) where
  sublist := h.sublist.cons_cons x
  behind := by
    intro k hk
    rcases List.mem_cons.mp hk with rfl | hk
    · exact hx
    · have hstart := of_decide_eq_true (hlater k (h.sublist.subset hk)).1
      omega
  apart := List.pairwise_cons.mpr ⟨h.behind, h.apart⟩
  covered := by
    intro c hc hnot hfirst
    rw [List.mem_cons, not_or] at hnot
    obtain ⟨hne, hnot⟩ := hnot
    replace hc := (List.mem_cons.mp hc).resolve_left hne
    by_cases hinside : c.1.span.start < x.1.span.stop
    · exact ⟨x, List.mem_cons_self, of_decide_eq_true (hlater c hc).1, hinside⟩
    · obtain ⟨k, hk, hcovers⟩ := h.covered c hc hnot (by omega)
      exact ⟨k, List.mem_cons_of_mem x hk, hcovers⟩
  reported := by
    intro c hc hnot k hk hstart
    rw [List.mem_cons, not_or] at hnot
    obtain ⟨hne, hnot⟩ := hnot
    replace hc := (List.mem_cons.mp hc).resolve_left hne
    rcases List.mem_cons.mp hk with rfl | hk
    · exact (hlater c hc).2 (decide_eq_true (by omega))
    · exact h.reported c hc hnot k hk hstart

end KeptFrom

/-- The greedy pass over candidates in order, one candidate at a time. -/
theorem exists_keptFrom (first : Nat) {sorted : List (Candidate α × Nat)}
    (hsorted : sorted.Pairwise (Earlier startsBy)) :
    ∃ kept, KeptFrom first sorted kept ∧
      kept.map Prod.fst = keepFrom first (sorted.map Prod.fst) := by
  induction sorted generalizing first with
  | nil => exact ⟨[], .nil first, rfl⟩
  | cons x sorted ih =>
      obtain ⟨hlater, hrest⟩ := List.pairwise_cons.mp hsorted
      rw [List.map_cons, keepFrom]
      split
      · rename_i hstart
        obtain ⟨kept, hkept, hmap⟩ := ih x.1.span.stop hrest
        exact ⟨x :: kept, hkept.keep hstart hlater, by rw [List.map_cons, hmap]⟩
      · rename_i hstart
        obtain ⟨kept, hkept, hmap⟩ := ih first hrest
        exact ⟨kept, hkept.skip (by omega), hmap⟩

theorem isStableSort_startsBy (candidates : List (Candidate α)) :
    IsStableSort startsBy candidates (candidates.mergeSort startsBy) := by
  apply isStableSort_mergeSort
  · intro a b c hab hbc
    exact decide_eq_true (Nat.le_trans (of_decide_eq_true hab) (of_decide_eq_true hbc))
  · intro a b
    simpa [startsBy] using Nat.le_total a.span.start b.span.start

/-- What is kept of some candidates, with the position in which each one was reported: no two
overlap, and one that is missing starts inside one that is kept, which was reported first if both
start together. -/
theorem select_spec (candidates : List (Candidate α)) :
    ∃ sorted kept : List (Candidate α × Nat),
      sorted.Perm candidates.zipIdx ∧ sorted.Pairwise (Earlier startsBy) ∧
        kept.Sublist sorted ∧ kept.map Prod.fst = select candidates ∧
        kept.Pairwise (fun a b => a.1.span.stop ≤ b.1.span.start) ∧
        ∀ c ∈ sorted, c ∉ kept →
          (∃ k ∈ kept, k.1.span.start ≤ c.1.span.start ∧ c.1.span.start < k.1.span.stop) ∧
            ∀ k ∈ kept, k.1.span.start = c.1.span.start → k.2 < c.2 := by
  obtain ⟨sorted, hperm, hsorted, hmap⟩ := isStableSort_startsBy candidates
  obtain ⟨kept, hkept, hselect⟩ := exists_keptFrom 0 hsorted
  refine ⟨sorted, kept, hperm, hsorted, hkept.sublist, ?_, hkept.apart, ?_⟩
  · rw [hselect, hmap]
    rfl
  · intro c hc hnot
    exact ⟨hkept.covered c hc hnot (Nat.zero_le _), hkept.reported c hc hnot⟩

end PartSearch.Candidate
