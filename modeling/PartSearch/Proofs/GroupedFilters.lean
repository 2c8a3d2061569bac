import PartSearch.Proofs.FilterGrouping

/-!
# What grouping makes of a list of filters

The first "=" filter on an attribute opens a group, and the later ones join it wherever they stand
in the list. So the groups can be told from the front: the first group takes what belongs to it, and
the rest is grouped as if it stood alone, `ofFilters_cons`. Each opener then stands for the distinct
values of all the filters that share its group, `ofFilters_eq_map`, and from this follows what
becomes of order, names and values: `ofFilters_groups`.
-/

namespace PartSearch

/-! ### Erasing later duplicates -/

section EraseDups

variable {α : Type} {r : α → α → Bool} {p : α → Bool}

/-- A list whose duplicates are erased: the first element, and the rest without what the first one
stands for. -/
theorem eraseDupsBy_induction {motive : List α → Prop} (nil : motive [])
    (cons : ∀ a as, motive (as.filter fun b => r b a = false) → motive (a :: as)) :
    ∀ as, motive as
  | [] => nil
  | a :: as => cons a as (eraseDupsBy_induction nil cons _)
termination_by as => as.length
decreasing_by exact Nat.lt_succ_of_le (List.length_filter_le _ _)

theorem eraseDupsBy_sublist (as : List α) : (as.eraseDupsBy r).Sublist as := by
  induction as using eraseDupsBy_induction (r := r) with
  | nil => rw [List.eraseDupsBy_nil]
  | cons a as ih =>
      rw [List.eraseDupsBy_cons]
      exact (ih.trans List.filter_sublist).cons_cons a

theorem pairwise_eraseDupsBy (as : List α) :
    (as.eraseDupsBy r).Pairwise fun a b => r b a = false := by
  induction as using eraseDupsBy_induction (r := r) with
  | nil =>
      rw [List.eraseDupsBy_nil]
      exact List.Pairwise.nil
  | cons a as ih =>
      rw [List.eraseDupsBy_cons]
      refine List.Pairwise.cons (fun b hb => ?_) ih
      have hkept := List.of_mem_filter ((eraseDupsBy_sublist _).subset hb)
      exact of_decide_eq_true hkept

/-- Where there are no duplicates, nothing is erased. -/
theorem eraseDupsBy_eq_self {as : List α} (h : as.Pairwise fun a b => r b a = false) :
    as.eraseDupsBy r = as := by
  induction h with
  | nil => exact List.eraseDupsBy_nil
  | cons hfirst _ ih =>
      rw [List.eraseDupsBy_cons, List.filter_eq_self.mpr fun b hb => decide_eq_true (hfirst b hb), ih]

/-- Elements that duplicate nothing all stay. -/
theorem filter_eraseDupsBy (h : ∀ a b, p a = true → r a b = false) (as : List α) :
    (as.eraseDupsBy r).filter p = as.filter p := by
  induction as using eraseDupsBy_induction (r := r) with
  | nil => rw [List.eraseDupsBy_nil]
  | cons a as ih =>
      have hkept : (as.filter fun b => r b a = false).filter p = as.filter p := by
        rw [List.filter_filter]
        refine List.filter_congr fun b _ => ?_
        cases hb : p b with
        | false => rfl
        | true => rw [h b a hb]; rfl
      rw [List.eraseDupsBy_cons, List.filter_cons, List.filter_cons, ih, hkept]

end EraseDups

/-! ### Filters that share a group -/

open Text

/-- "=" filters on one attribute share a group; case does not matter. -/
def SpecFilter.sharesGroup (a b : SpecFilter) : Bool :=
  a.operator = .eq && b.operator = .eq && sameText a.name b.name

namespace SpecFilter

variable {a b c : SpecFilter}

theorem sharesGroup_iff : a.sharesGroup b = true ↔
    a.operator = .eq ∧ b.operator = .eq ∧ sameText a.name b.name = true := by
  simp [sharesGroup, and_assoc]

theorem sharesGroup_comm (a b : SpecFilter) : a.sharesGroup b = b.sharesGroup a := by
  rw [Bool.eq_iff_iff, sharesGroup_iff, sharesGroup_iff, sameText_comm]
  tauto

theorem sharesGroup_trans (hab : a.sharesGroup b = true) (hbc : b.sharesGroup c = true) :
    a.sharesGroup c = true := by
  rw [sharesGroup_iff] at hab hbc ⊢
  refine ⟨hab.1, hbc.2.1, ?_⟩
  rw [sameText_iff] at hab hbc ⊢
  exact hab.2.2.trans hbc.2.2

theorem not_sharesGroup_of_isOrdered (h : a.operator.isOrdered = true) (b : SpecFilter) :
    a.sharesGroup b = false := by
  rw [← Bool.not_eq_true, sharesGroup_iff]
  rintro ⟨heq, -⟩
  rw [heq] at h
  exact absurd h (by decide)

end SpecFilter

theorem Operator.eq_of_not_isOrdered {operator : Operator} (h : operator.isOrdered = false) :
    operator = .eq := by
  revert h
  cases operator <;> decide

namespace FilterGroup

variable {g : FilterGroup} {f : SpecFilter} {fs : List SpecFilter}

/-- Does a filter become a value of the group? -/
def takes (g : FilterGroup) (f : SpecFilter) : Bool := f.operator = .eq && g.accepts f.name

theorem takes_single (f e : SpecFilter) : (single f).takes e = f.sharesGroup e := by
  rw [takes, accepts, Bool.and_left_comm, ← Bool.and_assoc]
  rfl

theorem takes_addValue (h : g.takes f = true) (value : String) :
    (g.addValue value).takes = g.takes := by
  have hoperator : g.operator = .eq := by
    simp only [takes, accepts, Bool.and_eq_true, decide_eq_true_eq] at h
    exact h.2.1
  funext e
  rw [takes, takes, accepts, accepts, operator_addValue hoperator, name_addValue, hoperator]

/-- The first group takes the filters that belong to it and leaves the others to the groups behind
it. -/
theorem foldl_add_cons (g : FilterGroup) (gs : List FilterGroup) (fs : List SpecFilter) :
    fs.foldl (fun groups f => add f groups) (g :: gs) =
      ((fs.filter g.takes).map (·.value)).foldl addValue g ::
        (fs.filter fun f => !g.takes f).foldl (fun groups f => add f groups) gs := by
  induction fs generalizing g gs with
  | nil => rfl
  | cons f fs ih =>
      rw [List.foldl_cons, add]
      change List.foldl _ (if g.takes f = true then _ else _) fs = _
      by_cases htakes : g.takes f = true
      · rw [if_pos htakes, ih, takes_addValue htakes]
        simp [htakes]
      · rw [if_neg htakes, ih]
        simp [htakes]

/-- Values join a group in order, those that it has in some case left out. -/
theorem foldl_addValue (g : FilterGroup) (values : List String) :
    values.foldl addValue g =
      let added := (values.filter fun v => !g.values.any (sameText · v)).eraseDupsBy sameText
      if added = [] then g else anyOf g.name (g.values ++ added) := by
  induction values generalizing g with
  | nil => rfl
  | cons v values ih =>
      rw [List.foldl_cons, ih, List.filter_cons]
      by_cases hknown : g.values.any (sameText · v) = true
      · have hsame : g.addValue v = g := if_pos hknown
        rw [hsame, hknown]
        rfl
      · have hadded : g.addValue v = anyOf g.name (g.values ++ [v]) := if_neg hknown
        have hfresh : (values.filter fun w => !(g.values ++ [v]).any (sameText · w)) =
            (values.filter fun w => !g.values.any (sameText · w)).filter
              fun w => sameText w v = false := by
          rw [List.filter_filter]
          refine List.filter_congr fun w _ => ?_
          rw [List.any_append, List.any_cons, List.any_nil, Bool.or_false, sameText_comm w v,
            Bool.not_or, Bool.and_comm]
          cases sameText v w <;> rfl
        have hvalues : (anyOf g.name (g.values ++ [v])).values = g.values ++ [v] := rfl
        rw [hadded, hvalues, hfresh, Bool.eq_false_iff.mpr hknown, Bool.not_false, if_pos rfl,
          List.eraseDupsBy_cons]
        dsimp only
        rw [if_neg (List.cons_ne_nil _ _)]
        split
        · rename_i hnone
          rw [hnone]
        · rw [List.append_assoc]
          rfl

/-! ### The groups of a list -/

/-- A filter with the values of the group that it opened; alone it stays as it is. -/
def ofValues (f : SpecFilter) : List String → FilterGroup
  | [] | [_] => single f
  | values => anyOf f.name values

theorem name_ofValues (f : SpecFilter) (values : List String) : (ofValues f values).name = f.name := by
  unfold ofValues
  split <;> rfl

theorem foldl_addValue_single (f : SpecFilter) (values : List String) :
    values.foldl addValue (single f) = ofValues f ((f.value :: values).eraseDupsBy sameText) := by
  have hadded : (values.filter fun v => !(single f).values.any (sameText · v)) =
      values.filter fun v => sameText v f.value = false := by
    refine List.filter_congr fun v _ => ?_
    have hany : (single f).values.any (sameText · v) = sameText v f.value := by
      rw [sameText_comm]
      exact Bool.or_false _
    rw [hany]
    cases sameText v f.value <;> rfl
  rw [foldl_addValue, hadded, List.eraseDupsBy_cons]
  cases (values.filter fun v => sameText v f.value = false).eraseDupsBy sameText <;> rfl

/-- The filters that open a group: the ordered ones, and each "=" filter whose attribute no "=" filter
before it names. -/
def openers (fs : List SpecFilter) : List SpecFilter := fs.eraseDupsBy SpecFilter.sharesGroup

/-- The values that the filters which share a group with `f` give it, each one once. -/
def groupValues (fs : List SpecFilter) (f : SpecFilter) : List String :=
  ((fs.filter f.sharesGroup).map (·.value)).eraseDupsBy sameText

/-- The first filter opens a group for all that share it, and the others are grouped as if they
stood alone. -/
theorem ofFilters_cons (f : SpecFilter) (fs : List SpecFilter) :
    ofFilters (f :: fs) =
      ofValues f ((f.value :: (fs.filter f.sharesGroup).map (·.value)).eraseDupsBy sameText) ::
        ofFilters (fs.filter fun e => !f.sharesGroup e) := by
  have htakes : (single f).takes = f.sharesGroup := funext (takes_single f)
  rw [← foldl_addValue_single, ← htakes]
  exact foldl_add_cons (single f) [] fs

theorem filter_sharesGroup_eq_false (f : SpecFilter) (fs : List SpecFilter) :
    (fs.filter fun e => e.sharesGroup f = false) = fs.filter fun e => !f.sharesGroup e := by
  refine List.filter_congr fun e _ => ?_
  rw [SpecFilter.sharesGroup_comm]
  cases f.sharesGroup e <;> rfl

theorem openers_cons (f : SpecFilter) (fs : List SpecFilter) :
    openers (f :: fs) = f :: openers (fs.filter fun e => !f.sharesGroup e) := by
  rw [openers, List.eraseDupsBy_cons, filter_sharesGroup_eq_false]
  rfl

/-- What holds of the filters that the first group leaves goes over to all of them. -/
theorem groups_induction {motive : List SpecFilter → Prop} (nil : motive [])
    (cons : ∀ f fs, motive (fs.filter fun e => !f.sharesGroup e) → motive (f :: fs)) :
    ∀ fs, motive fs :=
  eraseDupsBy_induction (r := SpecFilter.sharesGroup) nil fun f fs ih =>
    cons f fs (by rwa [filter_sharesGroup_eq_false] at ih)

/-- A filter that the first group leaves shares its own group with the same filters as before. -/
theorem filter_sharesGroup_of_left {e : SpecFilter} (h : f.sharesGroup e = false) :
    (f :: fs).filter e.sharesGroup =
      (fs.filter fun e' => !f.sharesGroup e').filter e.sharesGroup := by
  have hfirst : e.sharesGroup f = false := by rwa [SpecFilter.sharesGroup_comm]
  rw [List.filter_cons_of_neg (Bool.eq_false_iff.mp hfirst), List.filter_filter]
  refine List.filter_congr fun e' _ => ?_
  cases hshares : e.sharesGroup e' with
  | false => rfl
  | true =>
      have hother : f.sharesGroup e' = false := by
        rw [← Bool.not_eq_true] at h ⊢
        refine fun hf => h (SpecFilter.sharesGroup_trans hf ?_)
        rwa [SpecFilter.sharesGroup_comm]
      rw [hother]
      rfl

theorem groupValues_cons_self (hoperator : f.operator = .eq) :
    groupValues (f :: fs) f =
      (f.value :: (fs.filter f.sharesGroup).map (·.value)).eraseDupsBy sameText := by
  have hself : f.sharesGroup f = true :=
    SpecFilter.sharesGroup_iff.mpr ⟨hoperator, hoperator, sameText_refl _⟩
  rw [groupValues, List.filter_cons_of_pos hself, List.map_cons]

theorem filter_sharesGroup_of_isOrdered (hordered : f.operator.isOrdered = true)
    (fs : List SpecFilter) : fs.filter f.sharesGroup = [] := by
  rw [List.filter_eq_nil_iff]
  intro e _
  rw [SpecFilter.not_sharesGroup_of_isOrdered hordered]
  exact Bool.false_ne_true

theorem groupValues_of_isOrdered (hordered : f.operator.isOrdered = true) (fs : List SpecFilter) :
    groupValues fs f = [] := by
  rw [groupValues, filter_sharesGroup_of_isOrdered hordered]
  rfl

theorem groupValues_of_left {e : SpecFilter} (h : f.sharesGroup e = false) :
    groupValues (f :: fs) e = groupValues (fs.filter fun e' => !f.sharesGroup e') e := by
  rw [groupValues, groupValues, filter_sharesGroup_of_left h]

theorem not_sharesGroup_of_mem_openers {e : SpecFilter}
    (he : e ∈ openers (fs.filter fun e => !f.sharesGroup e)) : f.sharesGroup e = false := by
  have hleft := List.of_mem_filter ((eraseDupsBy_sublist _).subset he)
  exact Bool.not_eq_true' _ ▸ hleft

/-- Every opener stands in the place of its group, with the values that the group has. -/
theorem ofFilters_eq_map (fs : List SpecFilter) :
    ofFilters fs = (openers fs).map fun f => ofValues f (groupValues fs f) := by
  induction fs using groups_induction with
  | nil => rfl
  | cons f fs ih =>
      have hfirst : ofValues f ((f.value :: (fs.filter f.sharesGroup).map (·.value)).eraseDupsBy
          sameText) = ofValues f (groupValues (f :: fs) f) := by
        cases hordered : f.operator.isOrdered with
        | false => rw [groupValues_cons_self (Operator.eq_of_not_isOrdered hordered)]
        | true =>
            rw [groupValues_of_isOrdered hordered, filter_sharesGroup_of_isOrdered hordered]
            rfl
      rw [ofFilters_cons, openers_cons, List.map_cons, hfirst, ih]
      refine congrArg _ (List.map_congr_left fun e he => ?_)
      rw [groupValues_of_left (not_sharesGroup_of_mem_openers he)]

/-- The group of an opener starts with the opener's own value. -/
theorem groupValues_of_mem_openers (hf : f ∈ openers fs) (hoperator : f.operator = .eq) :
    ∃ others, groupValues fs f = f.value :: others := by
  induction fs using groups_induction with
  | nil => cases hf
  | cons first fs ih =>
      rw [openers_cons] at hf
      rcases List.mem_cons.mp hf with rfl | hleft
      · rw [groupValues_cons_self hoperator, List.eraseDupsBy_cons]
        exact ⟨_, rfl⟩
      · rw [groupValues_of_left (not_sharesGroup_of_mem_openers hleft)]
        exact ih hleft

theorem operator_ofValues_groupValues (fs : List SpecFilter) (f : SpecFilter) :
    (ofValues f (groupValues fs f)).operator = f.operator := by
  cases hordered : f.operator.isOrdered with
  | true =>
      rw [groupValues_of_isOrdered hordered]
      rfl
  | false =>
      unfold ofValues
      split
      · rfl
      · rfl
      · exact (Operator.eq_of_not_isOrdered hordered).symm

theorem values_ofValues (f : SpecFilter) (others : List String) :
    (ofValues f (f.value :: others)).values = f.value :: others := by
  cases others <;> rfl

theorem exists_opener_of_mem_ofFilters (hg : g ∈ ofFilters fs) :
    ∃ f ∈ openers fs, g = ofValues f (groupValues fs f) ∧ g.operator = f.operator ∧
      g.name = f.name := by
  rw [ofFilters_eq_map] at hg
  obtain ⟨f, hf, rfl⟩ := List.mem_map.mp hg
  exact ⟨f, hf, rfl, operator_ofValues_groupValues fs f, name_ofValues f _⟩

theorem values_ne_nil_of_mem_ofFilters (hg : g ∈ ofFilters fs) : g.values ≠ [] := by
  obtain ⟨f, -, rfl, -⟩ := exists_opener_of_mem_ofFilters hg
  unfold ofValues
  split
  · exact List.cons_ne_nil _ _
  · exact List.cons_ne_nil _ _
  · assumption

theorem ofFilters_ne_nil (h : fs ≠ []) : ofFilters fs ≠ [] := by
  obtain ⟨f, rest, rfl⟩ := List.exists_cons_of_ne_nil h
  rw [ofFilters_cons]
  exact List.cons_ne_nil _ _

/-! ### Groups taken apart -/

/-- Does the group stand for several values? -/
def isMerged : FilterGroup → Bool
  | single _ => false
  | anyOf _ _ => true

theorem isMerged_ofValues_iff (f : SpecFilter) (values : List String) :
    (ofValues f values).isMerged = true ↔ 2 ≤ (ofValues f values).values.length := by
  unfold ofValues
  split
  · exact iff_of_false Bool.false_ne_true (by simp [FilterGroup.values])
  · exact iff_of_false Bool.false_ne_true (by simp [FilterGroup.values])
  · rename_i hnil hone
    refine iff_of_true rfl ?_
    match values, hnil, hone with
    | [], hnil, _ => exact absurd rfl hnil
    | [v], _, hone => exact absurd rfl (hone v)
    | _ :: _ :: _, _, _ => exact Nat.le_add_left 2 _

/-- One filter for each value of the group. -/
def toFilters : FilterGroup → List SpecFilter
  | single f => [f]
  | anyOf name values => values.map fun v => ⟨name, .eq, v⟩

theorem of_mem_toFilters (hf : f ∈ g.toFilters) : f.operator = g.operator ∧ f.name = g.name := by
  cases g with
  | single e =>
      rw [List.mem_singleton.mp hf]
      exact ⟨rfl, rfl⟩
  | anyOf name values =>
      obtain ⟨v, -, rfl⟩ := List.mem_map.mp hf
      exact ⟨rfl, rfl⟩

theorem toFilters_ofValues {others : List String} (h : f.operator = .eq ∨ others = []) :
    (ofValues f (f.value :: others)).toFilters =
      f :: others.map fun v => { f with value := v } := by
  cases others with
  | nil => rfl
  | cons v others =>
      have hoperator : f.operator = .eq := h.resolve_right (List.cons_ne_nil _ _)
      change (f.value :: v :: others).map (fun v => (⟨f.name, .eq, v⟩ : SpecFilter)) = _
      rw [← hoperator, List.map_cons]

/-- The filters of the groups that the first one leaves share no group with it. -/
theorem not_sharesGroup_of_mem_flatMap {e : SpecFilter}
    (he : e ∈ (ofFilters (fs.filter fun e => !f.sharesGroup e)).flatMap toFilters) :
    f.sharesGroup e = false := by
  obtain ⟨g, hg, he⟩ := List.mem_flatMap.mp he
  obtain ⟨opener, hopener, -, hoperator, hname⟩ := exists_opener_of_mem_ofFilters hg
  obtain ⟨hsame, hsameName⟩ := of_mem_toFilters he
  have hother := not_sharesGroup_of_mem_openers hopener
  rwa [SpecFilter.sharesGroup, ← hoperator, ← hname, ← hsame, ← hsameName] at hother

/-- Taken apart and put together again, the first group is what it was. -/
theorem ofFilters_toFilters_append {others : List String} {rest : List SpecFilter}
    (h : f.operator = .eq ∨ others = [])
    (hdistinct : (f.value :: others).eraseDupsBy sameText = f.value :: others)
    (hrest : ∀ e ∈ rest, f.sharesGroup e = false) :
    ofFilters ((ofValues f (f.value :: others)).toFilters ++ rest) =
      ofValues f (f.value :: others) :: ofFilters rest := by
  let siblings := others.map fun v => { f with value := v }
  have hsiblings : ∀ e ∈ siblings, f.sharesGroup e = true := by
    intro e he
    obtain ⟨v, hv, rfl⟩ := List.mem_map.mp he
    have hoperator := h.resolve_right (List.ne_nil_of_mem hv)
    exact SpecFilter.sharesGroup_iff.mpr ⟨hoperator, hoperator, sameText_refl _⟩
  have hshared : (siblings ++ rest).filter f.sharesGroup = siblings := by
    have hnone : rest.filter f.sharesGroup = [] :=
      List.filter_eq_nil_iff.mpr fun e he => Bool.eq_false_iff.mp (hrest e he)
    rw [List.filter_append, List.filter_eq_self.mpr hsiblings, hnone, List.append_nil]
  have hleft : (siblings ++ rest).filter (fun e => !f.sharesGroup e) = rest := by
    have hnone : siblings.filter (fun e => !f.sharesGroup e) = [] :=
      List.filter_eq_nil_iff.mpr fun e he => by simp [hsiblings e he]
    have hall : rest.filter (fun e => !f.sharesGroup e) = rest :=
      List.filter_eq_self.mpr fun e he => by simp [hrest e he]
    rw [List.filter_append, hnone, hall, List.nil_append]
  have hvalues : siblings.map (·.value) = others := by
    rw [List.map_map]
    exact List.map_id others
  rw [toFilters_ofValues h, List.cons_append, ofFilters_cons, hshared, hleft, hvalues, hdistinct]

theorem ofFilters_flatMap_toFilters (fs : List SpecFilter) :
    ofFilters ((ofFilters fs).flatMap toFilters) = ofFilters fs := by
  induction fs using groups_induction with
  | nil => rfl
  | cons f fs ih =>
      have hdistinct := pairwise_eraseDupsBy (r := sameText)
        (f.value :: (fs.filter f.sharesGroup).map (·.value))
      have hshape : f.operator = .eq ∨ (fs.filter f.sharesGroup).map (·.value) = [] := by
        cases hordered : f.operator.isOrdered with
        | false => exact Or.inl (Operator.eq_of_not_isOrdered hordered)
        | true =>
            rw [filter_sharesGroup_of_isOrdered hordered]
            exact Or.inr rfl
      rw [ofFilters_cons, List.flatMap_cons]
      rw [List.eraseDupsBy_cons] at hdistinct ⊢
      rw [ofFilters_toFilters_append ?_ (eraseDupsBy_eq_self hdistinct)
        fun e => not_sharesGroup_of_mem_flatMap, ih]
      refine hshape.imp_right fun hnone => ?_
      rw [hnone, List.filter_nil, List.eraseDupsBy_nil]

/-! ### What the groups are -/

theorem filter_isOrdered_ofFilters (fs : List SpecFilter) :
    (ofFilters fs).filter (·.operator.isOrdered) =
      (fs.filter (·.operator.isOrdered)).map single := by
  have hopeners : (openers fs).filter (·.operator.isOrdered) =
      fs.filter (·.operator.isOrdered) :=
    filter_eraseDupsBy (fun f e hf => SpecFilter.not_sharesGroup_of_isOrdered hf e) fs
  have hoperator : ((fun g : FilterGroup => g.operator.isOrdered) ∘
      fun f => ofValues f (groupValues fs f)) = fun f => f.operator.isOrdered := by
    funext f
    rw [Function.comp_apply, operator_ofValues_groupValues]
  rw [ofFilters_eq_map, List.filter_map, hoperator, hopeners]
  refine List.map_congr_left fun f hf => ?_
  rw [groupValues_of_isOrdered (List.mem_filter.mp hf).2]
  rfl

theorem pairwise_name_ofFilters (fs : List SpecFilter) :
    ((ofFilters fs).filter (·.operator = .eq)).Pairwise
      fun g h => sameText g.name h.name = false := by
  rw [ofFilters_eq_map, List.pairwise_filter, List.pairwise_map]
  refine (pairwise_eraseDupsBy fs).imp fun {f e} hother hf he => ?_
  rw [operator_ofValues_groupValues, decide_eq_true_eq] at hf he
  rw [name_ofValues, name_ofValues, ← Bool.not_eq_true, sameText_comm]
  intro hsame
  rw [SpecFilter.sharesGroup_iff.mpr ⟨he, hf, hsame⟩] at hother
  exact Bool.false_ne_true hother.symm

theorem map_head_ofFilters (fs : List SpecFilter) :
    (ofFilters fs).map (fun g => (g.operator, g.name)) =
      (openers fs).map fun f => (f.operator, f.name) := by
  rw [ofFilters_eq_map, List.map_map]
  refine List.map_congr_left fun f _ => ?_
  rw [Function.comp_apply, operator_ofValues_groupValues, name_ofValues]

theorem values_of_mem_ofFilters (hg : g ∈ ofFilters fs) (hoperator : g.operator = .eq) :
    g.values = ((fs.filter fun f => f.operator = .eq && sameText g.name f.name).map
      (·.value)).eraseDupsBy sameText := by
  obtain ⟨f, hf, rfl, hsame, hname⟩ := exists_opener_of_mem_ofFilters hg
  rw [hsame] at hoperator
  have hshares : f.sharesGroup = fun e => e.operator = .eq && sameText f.name e.name := by
    funext e
    rw [SpecFilter.sharesGroup, hoperator]
    rfl
  obtain ⟨others, hvalues⟩ := groupValues_of_mem_openers hf hoperator
  rw [hname, hvalues, values_ofValues, ← hvalues, groupValues, hshares]

/-- What the groups of a list have to do with its filters. -/
structure Groups (fs : List SpecFilter) (gs : List FilterGroup) : Prop where
  /-- Ordered filters stay what they are, one group each, in their order. -/
  ordered : gs.filter (·.operator.isOrdered) = (fs.filter (·.operator.isOrdered)).map single
  /-- No two groups of "=" filters are on one attribute. -/
  distinct : (gs.filter (·.operator = .eq)).Pairwise fun g h => sameText g.name h.name = false
  /-- Each group goes by the name of its opener and has the opener's place. -/
  placed : gs.map (fun g => (g.operator, g.name)) = (openers fs).map fun f => (f.operator, f.name)
  /-- The values of a group are those of all "=" filters on its attribute, in order, and only later
  repetitions are left out. -/
  values : ∀ g ∈ gs, g.operator = .eq → g.values =
    ((fs.filter fun f => f.operator = .eq && sameText g.name f.name).map (·.value)).eraseDupsBy
      sameText
  /-- A merged group is one of several values. -/
  merged : ∀ g ∈ gs, g.isMerged = true ↔ 2 ≤ g.values.length

/-- Grouping keeps the ordered filters as they are and gathers the values of the others by
attribute, and a second grouping changes nothing. -/
theorem ofFilters_groups (fs : List SpecFilter) :
    Groups fs (ofFilters fs) ∧ ofFilters ((ofFilters fs).flatMap toFilters) = ofFilters fs := by
  refine ⟨⟨filter_isOrdered_ofFilters fs, pairwise_name_ofFilters fs, map_head_ofFilters fs,
    fun g => values_of_mem_ofFilters, fun g hg => ?_⟩, ofFilters_flatMap_toFilters fs⟩
  obtain ⟨f, -, rfl, -⟩ := exists_opener_of_mem_ofFilters hg
  exact isMerged_ofValues_iff f _

example :
    ofFilters [⟨"Interface", .eq, "I2C"⟩, ⟨"Vds", .ge, "30V"⟩, ⟨"interface", .eq, "SPI"⟩,
        ⟨"Interface", .eq, "i2c"⟩, ⟨"Vds", .le, "60V"⟩] =
      [anyOf "Interface" ["I2C", "SPI"], single ⟨"Vds", .ge, "30V"⟩,
        single ⟨"Vds", .le, "60V"⟩] := by
  decide

end FilterGroup

end PartSearch
