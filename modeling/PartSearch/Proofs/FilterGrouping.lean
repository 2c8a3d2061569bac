import PartSearch.Filter.Group
import PartSearch.Proofs.LetterCase

/-!
# Filters that form one group

"=" filters on one attribute end up in one group. It goes by the name in the first filter, and it
has the value of every filter up to case: `ofFilters_collects`. Filters on other attributes leave it
alone and form groups of their own: `ofFilters_append`.
-/

namespace PartSearch.FilterGroup

open Text

variable {g : FilterGroup} {f : SpecFilter} {seen fs : List SpecFilter}

theorem operator_addValue (hoperator : g.operator = .eq) (value : String) :
    (g.addValue value).operator = .eq := by
  unfold addValue
  split
  · exact hoperator
  · rfl

theorem name_addValue (g : FilterGroup) (value : String) : (g.addValue value).name = g.name := by
  unfold addValue
  split <;> rfl

/-- A value is added unless the group has it in some case. -/
theorem values_addValue (g : FilterGroup) (value : String) :
    (g.addValue value).values = g.values ∧ (∃ v ∈ g.values, sameText v value = true) ∨
      (g.addValue value).values = g.values ++ [value] := by
  unfold addValue
  by_cases hany : (g.values.any fun v => sameText v value) = true
  · rw [if_pos hany]
    exact Or.inl ⟨rfl, List.any_eq_true.mp hany⟩
  · rw [if_neg hany]
    exact Or.inr rfl

/-- A group stands for some filters: it goes by the name of one of them, its values are theirs, and
no value is missing up to case. -/
structure Collects (fs : List SpecFilter) (g : FilterGroup) : Prop where
  operator : g.operator = .eq
  name : ∃ f ∈ fs, f.name = g.name
  kept : ∀ v ∈ g.values, ∃ f ∈ fs, f.value = v
  covered : ∀ f ∈ fs, ∃ v ∈ g.values, sameText v f.value = true

theorem Collects.values_ne_nil (h : Collects fs g) : g.values ≠ [] := by
  obtain ⟨f, hf, -⟩ := h.name
  obtain ⟨v, hv, -⟩ := h.covered f hf
  exact List.ne_nil_of_mem hv

theorem collects_single (hoperator : f.operator = .eq) : Collects [f] (.single f) where
  operator := hoperator
  name := ⟨f, List.mem_cons_self, rfl⟩
  kept v hv := ⟨f, List.mem_cons_self, (List.mem_singleton.mp hv).symm⟩
  covered f' hf' := by
    rw [List.mem_singleton.mp hf']
    exact ⟨f.value, List.mem_cons_self, sameText_refl _⟩

theorem Collects.addValue (h : Collects seen g) (f : SpecFilter) :
    Collects (seen ++ [f]) (g.addValue f.value) := by
  obtain ⟨first, hfirst, hname⟩ := h.name
  have hvalues := g.values_addValue f.value
  refine ⟨operator_addValue h.operator _, ⟨first, List.mem_append_left _ hfirst, ?_⟩, ?_, ?_⟩
  · rw [name_addValue, hname]
  · intro v hv
    have hmem : v ∈ g.values ∨ v = f.value := by
      rcases hvalues with ⟨hsame, -⟩ | hadded
      · exact Or.inl (hsame ▸ hv)
      · rw [hadded, List.mem_append, List.mem_singleton] at hv
        exact hv
    rcases hmem with hold | rfl
    · obtain ⟨f', hf', hvalue⟩ := h.kept v hold
      exact ⟨f', List.mem_append_left _ hf', hvalue⟩
    · exact ⟨f, List.mem_append_right _ List.mem_cons_self, rfl⟩
  · intro f' hf'
    have hsubset : ∀ v ∈ g.values, v ∈ (g.addValue f.value).values := by
      intro v hv
      rcases hvalues with ⟨hsame, -⟩ | hadded
      · rwa [hsame]
      · rw [hadded]
        exact List.mem_append_left _ hv
    rcases List.mem_append.mp hf' with hold | hnew
    · obtain ⟨v, hv, hsame⟩ := h.covered f' hold
      exact ⟨v, hsubset v hv, hsame⟩
    · rw [List.mem_singleton.mp hnew]
      rcases hvalues with ⟨-, v, hv, hsame⟩ | hadded
      · exact ⟨v, hsubset v hv, hsame⟩
      · refine ⟨f.value, ?_, sameText_refl _⟩
        rw [hadded]
        exact List.mem_append_right _ List.mem_cons_self

theorem add_of_accepts (hoperator : f.operator = .eq) (haccepts : g.accepts f.name = true) :
    add f [g] = [g.addValue f.value] := by
  rw [add, if_pos (by simp [hoperator, haccepts])]

theorem foldl_add_collects (h : Collects seen g) (hoperator : ∀ f ∈ fs, f.operator = .eq)
    (hname : ∀ f ∈ fs, sameText g.name f.name = true) :
    ∃ g', fs.foldl (fun groups f => add f groups) [g] = [g'] ∧ Collects (seen ++ fs) g' := by
  induction fs generalizing seen g with
  | nil => exact ⟨g, rfl, by rwa [List.append_nil]⟩
  | cons f fs ih =>
      obtain ⟨hf, hoperator⟩ := List.forall_mem_cons.mp hoperator
      obtain ⟨hfname, hname⟩ := List.forall_mem_cons.mp hname
      have haccepts : g.accepts f.name = true := by
        simp [FilterGroup.accepts, h.operator, hfname]
      obtain ⟨g', hfold, hcollects⟩ := ih (h.addValue f) hoperator fun f' hf' => by
        rw [name_addValue]
        exact hname f' hf'
      refine ⟨g', ?_, by rwa [List.append_cons]⟩
      rw [List.foldl_cons, add_of_accepts hf haccepts, hfold]

/-- "=" filters on one attribute form one group. -/
theorem ofFilters_collects (hne : fs ≠ []) (hoperator : ∀ f ∈ fs, f.operator = .eq)
    (hname : ∀ f ∈ fs, ∀ f' ∈ fs, sameText f.name f'.name = true) :
    ∃ g, ofFilters fs = [g] ∧ Collects fs g := by
  cases fs with
  | nil => exact absurd rfl hne
  | cons f fs =>
      have hfirst := collects_single (hoperator f List.mem_cons_self)
      exact foldl_add_collects hfirst (fun f' hf' => hoperator f' (List.mem_cons_of_mem f hf'))
        fun f' hf' => hname f List.mem_cons_self f' (List.mem_cons_of_mem f hf')

/-! ### Filters on other attributes -/

theorem name_of_mem_add {gs : List FilterGroup} (h : g ∈ add f gs) :
    g.name = f.name ∨ ∃ g' ∈ gs, g'.name = g.name := by
  induction gs with
  | nil => exact Or.inl (by rw [List.mem_singleton.mp h]; rfl)
  | cons g' gs ih =>
      rw [add] at h
      split at h <;> rcases List.mem_cons.mp h with rfl | hmem
      · exact Or.inr ⟨g', List.mem_cons_self, (name_addValue g' _).symm⟩
      · exact Or.inr ⟨g, List.mem_cons_of_mem _ hmem, rfl⟩
      · exact Or.inr ⟨g, List.mem_cons_self, rfl⟩
      · rcases ih hmem with hname | ⟨g'', hg'', hname⟩
        · exact Or.inl hname
        · exact Or.inr ⟨g'', List.mem_cons_of_mem _ hg'', hname⟩

theorem ofFilters_concat (fs : List SpecFilter) (f : SpecFilter) :
    ofFilters (fs ++ [f]) = add f (ofFilters fs) := by
  rw [ofFilters, List.foldl_append]
  rfl

theorem name_of_mem_ofFilters (h : g ∈ ofFilters fs) : ∃ f ∈ fs, f.name = g.name := by
  induction fs using List.reverseRecOn generalizing g with
  | nil => cases h
  | append_singleton fs f ih =>
      rw [ofFilters_concat] at h
      rcases name_of_mem_add h with hname | ⟨g', hg', hname⟩
      · exact ⟨f, List.mem_append_right _ List.mem_cons_self, hname.symm⟩
      · obtain ⟨f', hf', hfirst⟩ := ih hg'
        exact ⟨f', List.mem_append_left _ hf', hfirst.trans hname⟩

/-- A filter passes over the groups of other attributes. -/
theorem add_append {gs : List FilterGroup} (gs' : List FilterGroup)
    (h : ∀ g ∈ gs, sameText g.name f.name = false) : add f (gs ++ gs') = gs ++ add f gs' := by
  induction gs with
  | nil => rfl
  | cons g gs ih =>
      obtain ⟨hg, hgs⟩ := List.forall_mem_cons.mp h
      have hother : (f.operator = .eq && g.accepts f.name) = false := by
        rw [accepts, hg, Bool.and_false, Bool.and_false]
      rw [List.cons_append, add, hother, if_neg Bool.false_ne_true, ih hgs]
      rfl

/-- Filters with no attribute in common are grouped apart. -/
theorem ofFilters_append {fs' : List SpecFilter}
    (h : ∀ f ∈ fs, ∀ f' ∈ fs', sameText f.name f'.name = false) :
    ofFilters (fs ++ fs') = ofFilters fs ++ ofFilters fs' := by
  induction fs' using List.reverseRecOn with
  | nil =>
      rw [List.append_nil]
      exact (List.append_nil _).symm
  | append_singleton fs' f' ih =>
      have hbefore : ofFilters (fs ++ fs') = ofFilters fs ++ ofFilters fs' :=
        ih fun f hf f'' hf'' => h f hf f'' (List.mem_append_left _ hf'')
      have hother : ∀ g ∈ ofFilters fs, sameText g.name f'.name = false := by
        intro g hg
        obtain ⟨f, hf, hname⟩ := name_of_mem_ofFilters hg
        rw [← hname]
        exact h f hf f' (List.mem_append_right _ List.mem_cons_self)
      rw [← List.append_assoc, ofFilters_concat, ofFilters_concat, hbefore, add_append _ hother]

end PartSearch.FilterGroup
