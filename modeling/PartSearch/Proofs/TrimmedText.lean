import Mathlib.Data.List.TakeWhile
import PartSearch.Text.Blank

/-!
# Trimmed texts

A text is its trimmed form with white space around it, and that decides what trimming gives: every
text that is `part` with white space around it is trimmed to what `part` is trimmed to.
-/

namespace PartSearch.Text

theorem trim_eq_nil_iff {cs : List Char} : trim cs = [] ↔ cs.all isBlank = true := by
  rw [trim, trimEndOf, List.reverse_eq_nil_iff, List.dropWhile_eq_nil_iff, List.all_eq_true]
  simp only [List.mem_reverse]
  constructor
  · intro h
    by_contra hvisible
    have hne : trimStart cs ≠ [] := fun hnil =>
      hvisible (List.dropWhile_eq_nil_iff.mp hnil)
    exact absurd (h _ (List.head_mem hne))
      (Bool.eq_false_iff.mp (List.head_dropWhile_not isBlank hne))
  · exact fun h c hc => h c ((List.dropWhile_sublist _).subset hc)

/-- `text` is `part` with white space around it. -/
def IsPadded (part text : List Char) : Prop :=
  ∃ before after, before.all isBlank = true ∧ after.all isBlank = true ∧
    text = before ++ part ++ after

theorem isPadded_trimEndOf (cs : List Char) : IsPadded (trimEndOf isBlank cs) cs := by
  refine ⟨[], (cs.reverse.takeWhile isBlank).reverse, rfl, ?_, ?_⟩
  · rw [List.all_reverse]
    exact List.all_takeWhile
  · rw [List.nil_append, trimEndOf, ← List.reverse_append, List.takeWhile_append_dropWhile,
      List.reverse_reverse]

theorem isPadded_trim (cs : List Char) : IsPadded (trim cs) cs := by
  obtain ⟨before, after, hbefore, hafter, hstart⟩ := isPadded_trimEndOf (trimStart cs)
  refine ⟨cs.takeWhile isBlank ++ before, after, ?_, hafter, ?_⟩
  · rw [List.all_append, List.all_takeWhile, hbefore]
    rfl
  · rw [List.append_assoc, List.append_assoc, ← List.append_assoc before, trim, ← hstart, trimStart,
      List.takeWhile_append_dropWhile]

theorem IsPadded.isInfix {part text : List Char} (h : IsPadded part text) : part <:+: text := by
  obtain ⟨before, after, -, -, rfl⟩ := h
  exact ⟨before, after, rfl⟩

theorem trimEndOf_append {drop : Char → Bool} {after : List Char} (h : after.all drop = true)
    (cs : List Char) : trimEndOf drop (cs ++ after) = trimEndOf drop cs := by
  have hafter : ∀ c ∈ after.reverse, drop c = true := fun c hc =>
    List.all_eq_true.mp h c (List.mem_reverse.mp hc)
  rw [trimEndOf, List.reverse_append, List.dropWhile_append_of_pos hafter, trimEndOf]

theorem IsPadded.trim_eq {part text : List Char} (h : IsPadded part text) :
    trim text = trim part := by
  obtain ⟨before, after, hbefore, hafter, rfl⟩ := h
  have hstart : trimStart (before ++ part ++ after) = trimStart (part ++ after) := by
    rw [List.append_assoc]
    exact List.dropWhile_append_of_pos (List.all_eq_true.mp hbefore)
  rw [trim, hstart, trimStart, List.dropWhile_append]
  split
  · rename_i hpart
    have hblank : after.dropWhile isBlank = [] :=
      List.dropWhile_eq_nil_iff.mpr (List.all_eq_true.mp hafter)
    rw [hblank, trim, trimStart, List.isEmpty_iff.mp hpart]
  · exact trimEndOf_append hafter _

theorem IsPadded.all_isBlank {part text : List Char} (h : IsPadded part text)
    (htext : text.all isBlank = true) : part.all isBlank = true :=
  List.all_eq_true.mpr fun c hc => List.all_eq_true.mp htext c (h.isInfix.subset hc)

/-- Not empty, and without white space at its ends. -/
structure IsTidy (cs : List Char) : Prop where
  ne_nil : cs ≠ []
  trim_eq : trim cs = cs

theorem IsTidy.not_all_isBlank {cs : List Char} (h : IsTidy cs) : cs.all isBlank = false := by
  rw [Bool.eq_false_iff]
  intro hblank
  exact h.ne_nil (h.trim_eq.symm.trans (trim_eq_nil_iff.mpr hblank))

theorem isTidy_trim {cs : List Char} (h : cs.all isBlank = false) : IsTidy (trim cs) where
  ne_nil hnil := Bool.eq_false_iff.mp h (trim_eq_nil_iff.mp hnil)
  trim_eq := (isPadded_trim cs).trim_eq.symm

theorem IsPadded.visible {part text : List Char} (h : IsPadded part text) (hpart : IsTidy part) :
    text.all isBlank = false := by
  rw [Bool.eq_false_iff]
  intro hblank
  exact Bool.eq_false_iff.mp hpart.not_all_isBlank (h.all_isBlank hblank)

/-- A part without white space at its ends is all that trimming leaves. -/
theorem IsPadded.trim_of_isTidy {part text : List Char} (h : IsPadded part text)
    (hpart : IsTidy part) : trim text = part :=
  h.trim_eq.trans hpart.trim_eq

end PartSearch.Text
