import PartSearch.Proofs.VerdictRecord

/-!
# When a part is compatible

Only an attribute that both parts have can rule a part out: a primary or equal attribute by values
that differ, and a rating by a reading that is worse. So a part that loses attributes stays
compatible, and attributes that the rule does not name do not count.
-/

namespace PartSearch

/-! ### Parts with fewer attributes -/

namespace Attributes

variable {pairs : Attributes} {name other : String}

/-- The attributes without the entries of one name. -/
def without (pairs : Attributes) (name : String) : Attributes :=
  pairs.filter fun pair => pair.1 != name

theorem value?_without_self : (pairs.without name).value? name = none := by
  rw [value?, List.lookup_eq_none_iff]
  intro pair hpair
  have hkept := (List.mem_filter.mp hpair).2
  simpa [bne_comm] using hkept

theorem value?_without_of_ne (h : other ≠ name) :
    (pairs.without name).value? other = pairs.value? other := by
  unfold without value?
  induction pairs with
  | nil => rfl
  | cons pair pairs ih =>
      obtain ⟨n, v⟩ := pair
      by_cases hname : n = name
      · have hother : (other == n) = false := by simpa [hname] using h
        rw [List.filter_cons_of_neg (by simp [hname]), ih, List.lookup_cons, hother]
      · rw [List.filter_cons_of_pos (by simp [hname]), List.lookup_cons, List.lookup_cons, ih]

end Attributes

namespace Part

variable {ν : Type}

def without (part : Part ν) (name : String) : Part ν :=
  { part with attributes := part.attributes.without name }

/-- Every attribute of the first part is one of the second part, with the same value. -/
def Within (part whole : Part ν) : Prop :=
  ∀ name a, part.value? name = some a → whole.value? name = some a

/-- The parts do not differ in the attributes of these names. -/
def SameOn (names : List String) (part other : Part ν) : Prop :=
  ∀ name ∈ names, part.value? name = other.value? name

theorem within_refl (part : Part ν) : part.Within part := fun _ _ h => h

theorem without_within (part : Part ν) (name : String) : (part.without name).Within part := by
  intro other a ha
  change (part.attributes.without name).value? other = some a at ha
  by_cases hother : other = name
  · rw [hother, Attributes.value?_without_self] at ha
    cases ha
  · rwa [Attributes.value?_without_of_ne hother] at ha

end Part

variable {ν : Type} [Number ν]

/-! ### What speaks against a part -/

/-- Both parts have the attribute, and its values differ. -/
def Differs (t : Tolerance ν) (original candidate : Part ν) (name : String) : Prop :=
  ∃ a b, original.value? name = some a ∧ candidate.value? name = some b ∧
    ValueMatch.ofValues t name a b = .different

/-- Both parts have the rating, it can be read on both, and it is worse on the candidate. -/
def Worsens (t : Tolerance ν) (original candidate : Part ν) (name : String)
    (direction : Direction) : Prop :=
  ∃ a b, original.value? name = some a ∧ candidate.value? name = some b ∧
    ∃ format x y, AttributeFormat.ofAttribute? name = some format ∧
      format.readScalar? a = some x ∧ format.readScalar? b = some y ∧
        t.sameOrBetter direction x y = false

/-- No attribute of the rule speaks against the candidate. -/
structure ReplacementRule.Admits (rule : ReplacementRule) (t : Tolerance ν)
    (original candidate : Part ν) : Prop where
  primary : ¬ Differs t original candidate rule.primary
  equal : ∀ name ∈ rule.equal, ¬ Differs t original candidate name
  ratings : ∀ rating ∈ rule.ratings, ¬ Worsens t original candidate rating.1 rating.2

section Within

variable {t : Tolerance ν} {original candidate original' candidate' : Part ν}

theorem Differs.of_within {name : String} (ho : original'.Within original)
    (hc : candidate'.Within candidate) (h : Differs t original' candidate' name) :
    Differs t original candidate name := by
  obtain ⟨a, b, ha, hb, hdifferent⟩ := h
  exact ⟨a, b, ho name a ha, hc name b hb, hdifferent⟩

theorem Worsens.of_within {name : String} {direction : Direction}
    (ho : original'.Within original) (hc : candidate'.Within candidate)
    (h : Worsens t original' candidate' name direction) :
    Worsens t original candidate name direction := by
  obtain ⟨a, b, ha, hb, hworse⟩ := h
  exact ⟨a, b, ho name a ha, hc name b hb, hworse⟩

/-- What speaks against a part still does when attributes are added, never when they are lost. -/
theorem ReplacementRule.Admits.of_within {rule : ReplacementRule}
    (h : rule.Admits t original candidate) (ho : original'.Within original)
    (hc : candidate'.Within candidate) : rule.Admits t original' candidate' where
  primary hdiffers := h.primary (hdiffers.of_within ho hc)
  equal name hname hdiffers := h.equal name hname (hdiffers.of_within ho hc)
  ratings rating hrating hworsens := h.ratings rating hrating (hworsens.of_within ho hc)

end Within

/-! ### The checks that fail -/

namespace AttributeCheck

variable {t : Tolerance ν} {original candidate : Part ν} {name : String}

theorem ofMatch_eq_failed_iff {m : ValueMatch} : ofMatch m = failed ↔ m = .different := by
  cases m <;> simp [ofMatch]

theorem primary_eq_failed_iff :
    primary t original candidate name = failed ↔ Differs t original candidate name := by
  unfold primary Differs
  cases original.value? name <;> cases candidate.value? name <;> simp [ofMatch_eq_failed_iff]

theorem equal_eq_failed_iff :
    equal t original candidate name = failed ↔ Differs t original candidate name := by
  unfold equal Differs
  cases original.value? name <;> cases candidate.value? name <;> simp [ofMatch_eq_failed_iff]

theorem readBoth?_eq_some_iff {a b : String} {x y : ν} :
    readBoth? name a b = some (x, y) ↔
      ∃ format, AttributeFormat.ofAttribute? name = some format ∧
        format.readScalar? a = some x ∧ format.readScalar? b = some y := by
  simp [readBoth?, Option.bind_eq_some_iff]

theorem rating_eq_failed_iff {direction : Direction} :
    rating t original candidate name direction = failed ↔
      Worsens t original candidate name direction := by
  constructor
  · intro hfailed
    unfold rating at hfailed
    split at hfailed
    · rename_i a b ha hb
      split at hfailed
      · rename_i x y hread
        obtain ⟨format, hformat, hx, hy⟩ := readBoth?_eq_some_iff.mp hread
        split at hfailed
        · cases hfailed
        · rename_i hworse
          exact ⟨a, b, ha, hb, format, x, y, hformat, hx, hy, by simpa using hworse⟩
      · cases hfailed
    · cases hfailed
    · cases hfailed
  · rintro ⟨a, b, ha, hb, format, x, y, hformat, hx, hy, hworse⟩
    have hread : (readBoth? name a b : Option (ν × ν)) = some (x, y) :=
      readBoth?_eq_some_iff.mpr ⟨format, hformat, hx, hy⟩
    simp [rating, ha, hb, hread, hworse]

end AttributeCheck

/-! ### The verdict -/

namespace Verdict

variable (t : Tolerance ν) (rule : ReplacementRule) (original candidate : Part ν)

/-- The verdict is compatible if no attribute of the rule speaks against the candidate. -/
theorem isCompatible_of_iff_admits :
    (of t rule original candidate).isCompatible = true ↔ rule.Admits t original candidate := by
  rw [isCompatible_of_iff, checks, List.forall_mem_append, List.forall_mem_cons,
    List.forall_mem_map, List.forall_mem_map]
  constructor
  · rintro ⟨⟨hprimary, hequal⟩, hratings⟩
    exact
      { primary := fun h => hprimary (AttributeCheck.primary_eq_failed_iff.mpr h)
        equal := fun name hname h => hequal name hname (AttributeCheck.equal_eq_failed_iff.mpr h)
        ratings := fun rating hrating h =>
          hratings rating hrating (AttributeCheck.rating_eq_failed_iff.mpr h) }
  · intro h
    exact ⟨⟨fun hfailed => h.primary (AttributeCheck.primary_eq_failed_iff.mp hfailed),
      fun name hname hfailed => h.equal name hname (AttributeCheck.equal_eq_failed_iff.mp hfailed)⟩,
      fun rating hrating hfailed =>
        h.ratings rating hrating (AttributeCheck.rating_eq_failed_iff.mp hfailed)⟩

section SameOn

variable {t : Tolerance ν} {rule : ReplacementRule}
  {original candidate original' candidate' : Part ν}

/-- The verdict looks at the attributes of the rule only. -/
theorem of_congr (ho : original'.SameOn rule.attributes original)
    (hc : candidate'.SameOn rule.attributes candidate) :
    of t rule original' candidate' = of t rule original candidate := by
  have hprimary : AttributeCheck.primary t original' candidate' rule.primary =
      .primary t original candidate rule.primary := by
    have hmem : rule.primary ∈ rule.attributes := List.mem_cons_self
    rw [AttributeCheck.primary, ho _ hmem, hc _ hmem, AttributeCheck.primary]
  have hequal (v : Verdict) :
      rule.equal.foldl (fun v name => v.add name (.equal t original' candidate' name)) v =
        rule.equal.foldl (fun v name => v.add name (.equal t original candidate name)) v := by
    apply List.foldl_ext
    intro v name hname
    have hmem : name ∈ rule.attributes := List.mem_append_left _ (List.mem_cons_of_mem _ hname)
    rw [AttributeCheck.equal, ho _ hmem, hc _ hmem, AttributeCheck.equal]
  have hratings (v : Verdict) :
      rule.ratings.foldl (fun v rating => v.addRating rating.1
        (.rating t original' candidate' rating.1 rating.2)) v =
        rule.ratings.foldl (fun v rating => v.addRating rating.1
          (.rating t original candidate rating.1 rating.2)) v := by
    apply List.foldl_ext
    intro v rating hrating
    have hmem : rating.1 ∈ rule.attributes := List.mem_append_right _ (List.mem_map_of_mem hrating)
    rw [AttributeCheck.rating, ho _ hmem, hc _ hmem, AttributeCheck.rating]
  unfold of
  dsimp only
  rw [hprimary, hequal, hratings]

end SameOn

/-- A verdict is compatible just if no attribute that both parts have speaks against the candidate.
So attributes that are taken away do no harm, and attributes that the rule does not name do
nothing. -/
theorem of_decidedByShared :
    ((of t rule original candidate).isCompatible = true ↔ rule.Admits t original candidate) ∧
      (∀ name, (of t rule original candidate).isCompatible = true →
        (of t rule (original.without name) candidate).isCompatible = true ∧
          (of t rule original (candidate.without name)).isCompatible = true) ∧
      ∀ original' candidate' : Part ν, original'.SameOn rule.attributes original →
        candidate'.SameOn rule.attributes candidate →
          of t rule original' candidate' = of t rule original candidate := by
  refine ⟨isCompatible_of_iff_admits t rule original candidate, ?_, fun _ _ ho hc => of_congr ho hc⟩
  intro name hcompatible
  have hadmits := (isCompatible_of_iff_admits t rule original candidate).mp hcompatible
  constructor
  · rw [isCompatible_of_iff_admits]
    exact hadmits.of_within (original.without_within name) candidate.within_refl
  · rw [isCompatible_of_iff_admits]
    exact hadmits.of_within original.within_refl (candidate.without_within name)

end Verdict

end PartSearch
