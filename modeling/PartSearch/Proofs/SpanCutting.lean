import Mathlib.Data.List.Basic
import PartSearch.Proofs.VisibleText
import PartSearch.Reading.Span

/-!
# Cutting spans out of a text

Every character of a text has a position, and a span covers some of them. `inside` and `outside` are
what spans cover of a text and what they leave, and `blanked` is the text with a space in place of
each span. Cutting out spans that are `Apart` gives the collapsed `blanked` text, whose visible
characters are those `outside`. The greedy selection of candidates keeps spans that are apart.
-/

namespace PartSearch

namespace Span

/-- The spans stand between two positions, in order, and no two of them overlap. -/
structure Apart (first last : Nat) (spans : List Span) : Prop where
  within : ∀ s ∈ spans, first ≤ s.start ∧ s.start < s.stop ∧ s.stop ≤ last
  ordered : spans.Pairwise fun a b => a.stop ≤ b.start

theorem Apart.tail {first last : Nat} {s : Span} {rest : List Span}
    (h : Apart first last (s :: rest)) : Apart s.stop last rest where
  within := by
    intro t ht
    have hbounds := h.within t (List.mem_cons_of_mem s ht)
    exact ⟨List.rel_of_pairwise_cons h.ordered ht, hbounds.2⟩
  ordered := h.ordered.of_cons

theorem covers_eq_true_iff {s : Span} {i : Nat} :
    s.covers i = true ↔ s.start ≤ i ∧ i < s.stop := by
  simp [covers]

def covered (spans : List Span) (position : Nat) : Bool := spans.any (·.covers position)

/-- What the spans cover, for a text that begins at a position. -/
def inside (first : Nat) (cs : List Char) (spans : List Span) : List Char :=
  ((cs.zipIdx first).filter fun x => covered spans x.2).map Prod.fst

def outside (first : Nat) (cs : List Char) (spans : List Span) : List Char :=
  ((cs.zipIdx first).filter fun x => !covered spans x.2).map Prod.fst

/-- No position is covered twice. -/
theorem Apart.countP_covers_le_one {first last : Nat} {spans : List Span}
    (h : Apart first last spans) (i : Nat) : (spans.countP fun s => s.covers i) ≤ 1 := by
  induction spans generalizing first with
  | nil => simp
  | cons s rest ih =>
      by_cases hcovers : s.covers i = true
      · have hnone : (rest.countP fun t => t.covers i) = 0 := by
          rw [List.countP_eq_zero]
          intro t ht hagain
          have hbehind := (h.tail.within t ht).1
          rw [covers_eq_true_iff] at hcovers hagain
          omega
        simp [hcovers, hnone]
      · simpa [hcovers] using ih h.tail

def opens (spans : List Span) (position : Nat) : Bool := spans.any (·.start = position)

/-- A space for the first character of a span and nothing for the others. -/
def blank (spans : List Span) (x : Char × Nat) : Option Char :=
  if opens spans x.2 then some ' ' else if covered spans x.2 then none else some x.1

/-- The text with one space in place of each span. -/
def blanked (first : Nat) (cs : List Char) (spans : List Span) : List Char :=
  (cs.zipIdx first).filterMap (blank spans)

theorem covered_cons (s : Span) (rest : List Span) (i : Nat) :
    covered (s :: rest) i = (s.covers i || covered rest i) := rfl

section Cut

variable {first last : Nat} {s : Span} {rest : List Span}

/-- Before the first span nothing is covered, in it everything, and behind it what the other spans
cover. -/
theorem Apart.covered_before (h : Apart first last (s :: rest)) {i : Nat} (hi : i < s.start) :
    covered (s :: rest) i = false := by
  rw [covered, List.any_eq_false]
  intro t ht hcovers
  have hcovers := covers_eq_true_iff.mp hcovers
  rcases List.mem_cons.mp ht with rfl | ht
  · omega
  · have hbefore := h.tail.within t ht
    have hstop := h.within s List.mem_cons_self
    omega

theorem covered_in {i : Nat} (hstart : s.start ≤ i) (hstop : i < s.stop) :
    covered (s :: rest) i = true := by
  rw [covered_cons, covers_eq_true_iff.mpr ⟨hstart, hstop⟩, Bool.true_or]

theorem covered_behind {i : Nat} (hi : s.stop ≤ i) :
    covered (s :: rest) i = covered rest i := by
  have hcovers : s.covers i = false := by
    rw [Bool.eq_false_iff]
    intro h
    have h := covers_eq_true_iff.mp h
    omega
  rw [covered_cons, hcovers, Bool.false_or]

theorem zipIdx_take_append_drop (first count : Nat) (cs : List Char) :
    (cs.take count).zipIdx first ++ (cs.drop count).zipIdx (first + count) = cs.zipIdx first := by
  induction cs generalizing first count with
  | nil => simp
  | cons c cs ih =>
      cases count with
      | zero => simp
      | succ count =>
          have hnext := ih (first + 1) count
          rw [Nat.add_right_comm, Nat.add_assoc] at hnext
          rw [List.take_succ_cons, List.drop_succ_cons, List.zipIdx_cons, List.zipIdx_cons,
            List.cons_append, hnext]

/-- A text with positions falls into what stands before, in and behind a span. -/
theorem zipIdx_eq_append_append (cs : List Char) (hfirst : first ≤ s.start)
    (hspan : s.start < s.stop) :
    cs.zipIdx first = (cs.take (s.start - first)).zipIdx first ++
      (((cs.take (s.stop - first)).drop (s.start - first)).zipIdx s.start ++
        (cs.drop (s.stop - first)).zipIdx s.stop) := by
  have hstop := zipIdx_take_append_drop first (s.stop - first) cs
  have hstart := zipIdx_take_append_drop first (s.start - first) (cs.take (s.stop - first))
  rw [show first + (s.stop - first) = s.stop by omega] at hstop
  rw [show first + (s.start - first) = s.start by omega, List.take_take,
    show min (s.start - first) (s.stop - first) = s.start - first by omega] at hstart
  rw [← hstop, ← hstart, List.append_assoc]

theorem lt_of_mem_zipIdx_take {cs : List Char} {count : Nat} {x : Char × Nat}
    (h : x ∈ (cs.take count).zipIdx first) : x.2 < first + count := by
  have hbounds := List.mem_zipIdx h
  have hlength := List.length_take_le count cs
  omega

theorem mem_zipIdx_in {cs : List Char} {x : Char × Nat} (hfirst : first ≤ s.start)
    (h : x ∈ ((cs.take (s.stop - first)).drop (s.start - first)).zipIdx s.start) :
    s.start ≤ x.2 ∧ x.2 < s.stop := by
  have hbounds := List.mem_zipIdx h
  have hlength := List.length_take_le (s.stop - first) cs
  rw [List.length_drop] at hbounds
  omega

theorem inside_cons (cs : List Char) (h : Apart first last (s :: rest)) :
    inside first cs (s :: rest) =
      (cs.take (s.stop - first)).drop (s.start - first) ++
        inside s.stop (cs.drop (s.stop - first)) rest := by
  have hs := h.within s List.mem_cons_self
  rw [inside, zipIdx_eq_append_append cs hs.1 hs.2.1, List.filter_append, List.filter_append,
    List.filter_eq_nil_iff.mpr, List.filter_eq_self.mpr, List.nil_append, List.map_append,
    List.zipIdx_map_fst, inside]
  · congr 2
    apply List.filter_congr
    intro x hx
    exact covered_behind (List.mem_zipIdx hx).1
  · intro x hx
    have hbounds := mem_zipIdx_in hs.1 hx
    exact covered_in hbounds.1 hbounds.2
  · intro x hx
    have hbound := lt_of_mem_zipIdx_take hx
    rw [h.covered_before (by omega)]
    exact Bool.false_ne_true

theorem Apart.opens_iff (h : Apart first last (s :: rest)) {i : Nat} (hi : i < s.stop) :
    opens (s :: rest) i = decide (s.start = i) := by
  rw [opens, List.any_cons, Bool.or_eq_left_iff_imp, List.any_eq_true]
  rintro ⟨t, ht, hstart⟩
  have hbehind := (h.tail.within t ht).1
  have hstart := of_decide_eq_true hstart
  omega

theorem opens_behind {i : Nat} (hspan : s.start < s.stop) (hi : s.stop ≤ i) :
    opens (s :: rest) i = opens rest i := by
  rw [opens, List.any_cons, decide_eq_false (by omega), Bool.false_or, opens]

theorem Apart.blanked_before (h : Apart first last (s :: rest)) {cs : List Char}
    (hlength : first + cs.length ≤ s.start) : blanked first cs (s :: rest) = cs := by
  have hkept : ∀ x ∈ cs.zipIdx first, blank (s :: rest) x = some x.1 := by
    intro x hx
    have hbounds := List.mem_zipIdx hx
    have hspan := (h.within s List.mem_cons_self).2.1
    rw [blank, h.opens_iff (by omega), decide_eq_false (by omega), if_neg Bool.false_ne_true,
      h.covered_before (by omega), if_neg Bool.false_ne_true]
  rw [blanked, List.filterMap_eq_map_iff_forall_eq_some.mpr hkept, List.zipIdx_map_fst]

theorem Apart.blanked_in (h : Apart first last (s :: rest)) {cs : List Char} (hcs : cs ≠ [])
    (hlength : s.start + cs.length ≤ s.stop) : blanked s.start cs (s :: rest) = [' '] := by
  obtain ⟨c, cs, rfl⟩ := List.exists_cons_of_ne_nil hcs
  rw [List.length_cons] at hlength
  rw [blanked, List.zipIdx_cons, List.filterMap_cons_some, List.filterMap_eq_nil_iff.mpr]
  · intro x hx
    have hbounds := List.mem_zipIdx hx
    rw [blank, h.opens_iff (by omega), decide_eq_false (by omega), if_neg Bool.false_ne_true,
      if_pos (covered_in (by omega) (by omega))]
  · rw [blank, h.opens_iff (by omega), decide_eq_true rfl, if_pos rfl]

theorem blanked_behind {cs : List Char} (hspan : s.start < s.stop) :
    blanked s.stop cs (s :: rest) = blanked s.stop cs rest := by
  apply List.filterMap_congr
  intro x hx
  have hbound := (List.mem_zipIdx hx).1
  rw [blank, blank, opens_behind hspan hbound, covered_behind hbound]

theorem blanked_cons (cs : List Char) (h : Apart first last (s :: rest))
    (hlast : last ≤ first + cs.length) :
    blanked first cs (s :: rest) = cs.take (s.start - first) ++ ' ' ::
      blanked s.stop (cs.drop (s.stop - first)) rest := by
  have hs := h.within s List.mem_cons_self
  have hbefore := List.length_take_le (s.start - first) cs
  have hlength : ((cs.take (s.stop - first)).drop (s.start - first)).length =
      s.stop - s.start := by
    rw [List.length_drop, List.length_take]
    omega
  have hin : (cs.take (s.stop - first)).drop (s.start - first) ≠ [] := by
    apply List.ne_nil_of_length_pos
    omega
  calc
    blanked first cs (s :: rest) =
        blanked first (cs.take (s.start - first)) (s :: rest) ++
          (blanked s.start ((cs.take (s.stop - first)).drop (s.start - first)) (s :: rest) ++
            blanked s.stop (cs.drop (s.stop - first)) (s :: rest)) := by
      rw [blanked, zipIdx_eq_append_append cs hs.1 hs.2.1, List.filterMap_append,
        List.filterMap_append]
      rfl
    _ = cs.take (s.start - first) ++
        ([' '] ++ blanked s.stop (cs.drop (s.stop - first)) rest) := by
      rw [h.blanked_before (by omega), h.blanked_in hin (by omega), blanked_behind hs.2.1]

end Cut

/-! ### Pieces -/

/-- What a span covers, for a text that begins at a position. -/
def textFrom (first : Nat) (cs : List Char) (s : Span) : List Char :=
  (cs.take (s.stop - first)).drop (s.start - first)

theorem textFrom_drop {first : Nat} (cs : List Char) {s t : Span} (hfirst : first ≤ s.stop)
    (hbehind : s.stop ≤ t.start) (hspan : t.start < t.stop) :
    textFrom s.stop (cs.drop (s.stop - first)) t = textFrom first cs t := by
  rw [textFrom, textFrom, List.take_drop, List.drop_drop,
    show s.stop - first + (t.stop - s.stop) = t.stop - first by omega,
    show s.stop - first + (t.start - s.stop) = t.start - first by omega]

/-- The spans cover their texts and nothing else. -/
theorem flatMap_textFrom {first last : Nat} {spans : List Span} (cs : List Char)
    (h : Apart first last spans) :
    spans.flatMap (textFrom first cs) = inside first cs spans := by
  induction spans generalizing first cs with
  | nil => simp [inside, covered]
  | cons s rest ih =>
      have hs := h.within s List.mem_cons_self
      rw [List.flatMap_cons, inside_cons cs h, ← ih (cs.drop (s.stop - first)) h.tail]
      congr 1
      apply List.flatMap_congr
      intro t ht
      have hbehind := h.tail.within t ht
      exact (textFrom_drop cs (by omega) hbehind.1 hbehind.2.1).symm

theorem blanked_nil (first : Nat) (cs : List Char) : blanked first cs [] = cs := by
  have hkept : ∀ x ∈ cs.zipIdx first, blank [] x = some x.1 := fun _ _ => rfl
  rw [blanked, List.filterMap_eq_map_iff_forall_eq_some.mpr hkept, List.zipIdx_map_fst]

theorem joinWith_piecesFrom {first last : Nat} {spans : List Span} (cs : List Char)
    (h : Apart first last spans) (hlast : last ≤ first + cs.length) :
    Text.joinWith [' '] (piecesFrom first cs spans) = blanked first cs spans := by
  induction spans generalizing first cs with
  | nil => exact (blanked_nil first cs).symm
  | cons s rest ih =>
      have hs := h.within s List.mem_cons_self
      have hjoin (piece : List Char) {pieces : List (List Char)} (hne : pieces ≠ []) :
          Text.joinWith [' '] (piece :: pieces) = piece ++ ' ' :: Text.joinWith [' '] pieces := by
        cases pieces with
        | nil => exact absurd rfl hne
        | cons next later => simp [Text.joinWith]
      have hpieces : piecesFrom s.stop (cs.drop (s.stop - first)) rest ≠ [] := by
        cases rest <;> simp [piecesFrom]
      rw [piecesFrom, hjoin _ hpieces, blanked_cons cs h hlast, ih _ h.tail]
      rw [List.length_drop]
      omega

theorem visible_blanked (first : Nat) (cs : List Char) {spans : List Span}
    (h : ∀ s ∈ spans, s.start < s.stop) :
    Text.visible (blanked first cs spans) = Text.visible (outside first cs spans) := by
  unfold blanked outside
  induction cs.zipIdx first with
  | nil => rfl
  | cons x xs ih =>
      by_cases hcovered : covered spans x.2 = true
      -- The space at the start of a span is no more visible than the nothing behind it.
      · have hinvisible : Text.visible (blank spans x).toList = [] := by
          rw [blank, if_pos hcovered]
          split <;> rfl
        rw [List.filter_cons_of_neg (by simp [hcovered]), ← ih]
        cases hblank : blank spans x with
        | none => rw [List.filterMap_cons_none hblank]
        | some c =>
            rw [hblank] at hinvisible
            rw [List.filterMap_cons_some hblank, Text.visible_cons]
            exact congrArg (· ++ _) hinvisible
      · have hopens : opens spans x.2 = false := by
          rw [opens, List.any_eq_false]
          intro s hs hstart
          have hstart := of_decide_eq_true hstart
          have hspan := h s hs
          exact hcovered (List.any_eq_true.mpr
            ⟨s, hs, covers_eq_true_iff.mpr ⟨by omega, by omega⟩⟩)
        have hblank : blank spans x = some x.1 := by
          rw [blank, hopens, if_neg Bool.false_ne_true, if_neg hcovered]
        rw [List.filterMap_cons_some hblank, List.filter_cons_of_pos (by simp [hcovered]),
          List.map_cons, Text.visible_cons, ih, ← Text.visible_cons]

theorem outside_sublist (first : Nat) (cs : List Char) (spans : List Span) :
    (outside first cs spans).Sublist cs := by
  have hfilter : ((cs.zipIdx first).filter fun x => !covered spans x.2).Sublist (cs.zipIdx first) :=
    List.filter_sublist
  have hmap := hfilter.map Prod.fst
  rwa [List.zipIdx_map_fst] at hmap

/-! ### Cutting -/

theorem cut_eq {cs : List Char} {spans : List Span} (h : Apart 0 cs.length spans) :
    cut cs spans = if spans = [] then cs else Text.collapse (blanked 0 cs spans) := by
  rw [cut, joinWith_piecesFrom cs h (by omega)]
  simp only [List.isEmpty_iff]

theorem visible_cut {cs : List Char} {spans : List Span} (h : Apart 0 cs.length spans) :
    Text.visible (cut cs spans) = Text.visible (outside 0 cs spans) := by
  have hspans : ∀ s ∈ spans, s.start < s.stop := fun s hs => (h.within s hs).2.1
  rw [cut_eq h]
  split
  · rename_i hnil
    rw [← visible_blanked 0 cs hspans, hnil, blanked_nil]
  · rw [Text.visible_collapse, visible_blanked 0 cs hspans]

theorem visible_cut_sublist {cs : List Char} {spans : List Span} (h : Apart 0 cs.length spans) :
    (Text.visible (cut cs spans)).Sublist (Text.visible cs) := by
  rw [visible_cut h]
  exact Text.visible_sublist (outside_sublist 0 cs spans)

end Span

/-! ### Where spans come from -/

namespace Candidate

variable {α : Type}

theorem keepFrom_sublist (first : Nat) (candidates : List (Candidate α)) :
    (keepFrom first candidates).Sublist candidates := by
  induction candidates generalizing first with
  | nil => exact List.Sublist.refl _
  | cons c rest ih =>
      rw [keepFrom]
      split
      · exact (ih c.span.stop).cons_cons c
      · exact (ih first).cons c

/-- Selection passes over a candidate that starts before the last one kept has ended. -/
theorem apart_keepFrom {last : Nat} {candidates : List (Candidate α)} (first : Nat)
    (h : ∀ c ∈ candidates, c.span.start < c.span.stop ∧ c.span.stop ≤ last) :
    Span.Apart first last ((keepFrom first candidates).map (·.span)) := by
  induction candidates generalizing first with
  | nil => exact ⟨by simp [keepFrom], .nil⟩
  | cons c rest ih =>
      obtain ⟨hc, hrest⟩ := List.forall_mem_cons.mp h
      rw [keepFrom]
      split
      · rename_i hstart
        have hlater := ih c.span.stop hrest
        refine ⟨?_, List.pairwise_cons.mpr ⟨fun t ht => (hlater.within t ht).1, hlater.ordered⟩⟩
        intro s hs
        rcases List.mem_cons.mp hs with rfl | hs
        · exact ⟨hstart, hc⟩
        · have hbounds := hlater.within s hs
          exact ⟨by omega, hbounds.2⟩
      · exact ih first hrest

theorem select_subset (candidates : List (Candidate α)) : select candidates ⊆ candidates := by
  intro c hc
  exact (List.mergeSort_perm _ _).mem_iff.mp ((keepFrom_sublist 0 _).subset hc)

theorem apart_select {last : Nat} {candidates : List (Candidate α)}
    (h : ∀ c ∈ candidates, c.span.start < c.span.stop ∧ c.span.stop ≤ last) :
    Span.Apart 0 last ((select candidates).map (·.span)) := by
  apply apart_keepFrom
  intro c hc
  exact h c ((List.mergeSort_perm _ _).mem_iff.mp hc)

end Candidate

namespace Text

open Pattern

theorem Pattern.Finds.apart_span {p : Pattern} {cs : List Char} {m : Found} (h : p.Finds cs m)
    (htext : m.text ≠ []) : m.start < m.stop ∧ m.stop ≤ cs.length := by
  have hlength := List.length_pos_iff.mpr htext
  have hstop : m.stop = m.start + m.text.length := rfl
  exact ⟨by omega, h.stop_le⟩

theorem apart_findAll (p : Pattern) (cs : List Char) :
    Span.Apart 0 cs.length ((p.findAll cs).map fun m => ⟨m.start, m.stop⟩) where
  within := by
    intro s hs
    obtain ⟨m, hm, rfl⟩ := List.mem_map.mp hs
    obtain ⟨hfinds, htext⟩ := finds_of_mem_findAll hm
    exact ⟨Nat.zero_le _, hfinds.apart_span htext⟩
  ordered := List.pairwise_map.mpr (p.pairwise_findAll cs)

theorem apart_phraseSpans (cs phrase : List Char) :
    Span.Apart 0 cs.length (phraseSpans cs phrase) := by
  have hall := apart_findAll (.chars phrase) cs
  have hsub : (phraseSpans cs phrase).Sublist
      (((chars phrase).findAll cs).map fun m => (⟨m.start, m.stop⟩ : Span)) :=
    List.filter_sublist.map _
  exact ⟨fun s hs => hall.within s (hsub.subset hs), hall.ordered.sublist hsub⟩

end Text

end PartSearch
