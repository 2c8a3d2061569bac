import PartSearch.Proofs.ReplacementRanking

/-!
# What a verdict puts on record

A verdict is the outcome of a sequence of checks, one for each attribute of the rule. It is
compatible if none of them failed, and it then has every check on record that compared nothing. An
attribute that only one of the parts has is such a case for the equal attributes and the ratings,
but not for the primary attribute.
-/

namespace PartSearch

variable {ν : Type} [Number ν]

/-! ### The checks behind a verdict -/

namespace Verdict

/-- The verdict `w` is `v` after some more checks. -/
structure Extends (v w : Verdict) (checks : List (String × AttributeCheck)) : Prop where
  compatible : w.isCompatible = true ↔
    v.isCompatible = true ∧ ∀ check ∈ checks, check.2 ≠ .failed
  unverified : w.isCompatible = true →
    ∀ name, name ∈ w.unverified ↔ name ∈ v.unverified ∨ (name, .unverified) ∈ checks

theorem Extends.refl (v : Verdict) : Extends v v [] where
  compatible := by simp
  unverified := by simp

theorem Extends.trans {u v w : Verdict} {checks further : List (String × AttributeCheck)}
    (hv : Extends u v checks) (hw : Extends v w further) : Extends u w (checks ++ further) where
  compatible := by
    rw [hw.compatible, hv.compatible, and_assoc, List.forall_mem_append]
  unverified h name := by
    rw [hw.unverified h, hv.unverified (hw.compatible.mp h).1, List.mem_append, or_assoc]

theorem extends_add (v : Verdict) (name : String) (check : AttributeCheck) :
    Extends v (v.add name check) [(name, check)] := by
  cases hcompatible : v.isCompatible with
  | false => constructor <;> simp [add, hcompatible]
  | true => cases check <;> constructor <;> simp [add, hcompatible]

theorem extends_addRating (v : Verdict) (name : String) (check : AttributeCheck) :
    Extends v (v.addRating name check) [(name, check)] := by
  rw [addRating]
  split
  · rename_i hagain
    obtain ⟨rfl, -⟩ : check = .verified ∧ _ := by simpa using hagain
    constructor <;> simp
  · exact extends_add v name check

/-- A loop whose every step adds one check. -/
theorem extends_foldl {α : Type} {step : Verdict → α → Verdict}
    {check : α → String × AttributeCheck} (hstep : ∀ v a, Extends v (step v a) [check a])
    (as : List α) (v : Verdict) : Extends v (as.foldl step v) (as.map check) := by
  induction as generalizing v with
  | nil => exact .refl v
  | cons a as ih => exact (hstep v a).trans (ih (step v a))

variable (t : Tolerance ν) (rule : ReplacementRule) (original candidate : Part ν)

/-- The checks that a rule asks for, in order. -/
def checks : List (String × AttributeCheck) :=
  (rule.primary, .primary t original candidate rule.primary) ::
    rule.equal.map (fun name => (name, .equal t original candidate name)) ++
    rule.ratings.map fun rating => (rating.1, .rating t original candidate rating.1 rating.2)

theorem of_extends :
    Extends {} (of t rule original candidate) (checks t rule original candidate) := by
  have hprimary := extends_add {} rule.primary (.primary t original candidate rule.primary)
  have hequal := extends_foldl
    (fun v name => extends_add v name (.equal t original candidate name)) rule.equal
  have hratings := extends_foldl (fun v (rating : String × Direction) =>
    extends_addRating v rating.1 (.rating t original candidate rating.1 rating.2)) rule.ratings
  exact (hprimary.trans (hequal _)).trans (hratings _)

/-- A part is ruled out by the checks that fail and by nothing else. -/
theorem isCompatible_of_iff :
    (of t rule original candidate).isCompatible = true ↔
      ∀ check ∈ checks t rule original candidate, check.2 ≠ .failed := by
  rw [(of_extends t rule original candidate).compatible]
  exact and_iff_right rfl

theorem mem_unverified_of_iff (h : (of t rule original candidate).isCompatible = true)
    (name : String) :
    name ∈ (of t rule original candidate).unverified ↔
      (name, .unverified) ∈ checks t rule original candidate := by
  rw [(of_extends t rule original candidate).unverified h]
  exact or_iff_right List.not_mem_nil

end Verdict

/-! ### Attributes of one part only -/

/-- One of the parts has the attribute and the other one has not. -/
def OneSided (original candidate : Part ν) (name : String) : Prop :=
  (original.value? name).isSome ≠ (candidate.value? name).isSome

instance instDecidableOneSided (original candidate : Part ν) (name : String) :
    Decidable (OneSided original candidate name) :=
  inferInstanceAs (Decidable (_ ≠ _))

/-- The attributes that a rule compares besides the primary one. -/
def ReplacementRule.secondary (rule : ReplacementRule) : List String :=
  rule.equal ++ rule.ratings.map fun rating => rating.1

section OneSided

variable {original candidate : Part ν} {name : String}

omit [Number ν] in
theorem OneSided.cases (h : OneSided original candidate name) :
    (∃ a, original.value? name = some a) ∧ candidate.value? name = none ∨
      original.value? name = none ∧ ∃ b, candidate.value? name = some b := by
  unfold OneSided at h
  cases ha : original.value? name <;> cases hb : candidate.value? name <;> simp_all

variable (t : Tolerance ν)

theorem AttributeCheck.primary_of_oneSided (h : OneSided original candidate name) :
    primary t original candidate name = .absent := by
  rcases h.cases with ⟨⟨a, ha⟩, hb⟩ | ⟨ha, ⟨b, hb⟩⟩ <;> simp only [primary, ha, hb]

theorem AttributeCheck.equal_of_oneSided (h : OneSided original candidate name) :
    equal t original candidate name = .unverified := by
  rcases h.cases with ⟨⟨a, ha⟩, hb⟩ | ⟨ha, ⟨b, hb⟩⟩ <;> simp only [equal, ha, hb]

theorem AttributeCheck.rating_of_oneSided (direction : Direction)
    (h : OneSided original candidate name) :
    rating t original candidate name direction = .unverified := by
  rcases h.cases with ⟨⟨a, ha⟩, hb⟩ | ⟨ha, ⟨b, hb⟩⟩ <;> simp only [rating, ha, hb]

theorem Verdict.mem_checks_iff_of_oneSided (rule : ReplacementRule)
    (h : OneSided original candidate name) :
    (name, .unverified) ∈ checks t rule original candidate ↔ name ∈ rule.secondary := by
  have hprimary : (name, AttributeCheck.unverified) ≠
      (rule.primary, .primary t original candidate rule.primary) := by
    intro heq
    obtain ⟨rfl, hcheck⟩ := Prod.mk.inj heq
    rw [AttributeCheck.primary_of_oneSided t h] at hcheck
    cases hcheck
  have hequal : (name, .unverified) ∈
      rule.equal.map (fun name => (name, AttributeCheck.equal t original candidate name)) ↔
        name ∈ rule.equal := by
    rw [List.mem_map]
    constructor
    · rintro ⟨other, hmem, heq⟩
      exact (Prod.mk.inj heq).1 ▸ hmem
    · exact fun hmem => ⟨name, hmem, by rw [AttributeCheck.equal_of_oneSided t h]⟩
  have hratings : (name, .unverified) ∈ rule.ratings.map (fun rating =>
      (rating.1, AttributeCheck.rating t original candidate rating.1 rating.2)) ↔
        name ∈ rule.ratings.map fun rating => rating.1 := by
    rw [List.mem_map, List.mem_map]
    constructor
    · rintro ⟨rating, hmem, heq⟩
      exact ⟨rating, hmem, (Prod.mk.inj heq).1⟩
    · rintro ⟨rating, hmem, rfl⟩
      exact ⟨rating, hmem, by rw [AttributeCheck.rating_of_oneSided t rating.2 h]⟩
  rw [checks, List.cons_append, List.mem_cons, or_iff_right hprimary, List.mem_append, hequal,
    hratings, ReplacementRule.secondary, List.mem_append]

theorem Verdict.mem_unverified_of_iff_of_oneSided (rule : ReplacementRule)
    (hcompatible : (of t rule original candidate).isCompatible = true)
    (h : OneSided original candidate name) :
    name ∈ (of t rule original candidate).unverified ↔ name ∈ rule.secondary := by
  rw [mem_unverified_of_iff t rule original candidate hcompatible,
    mem_checks_iff_of_oneSided t rule h]

end OneSided

/-! ### The confidence of a report -/

namespace ReplacementReport

variable (book : RuleBook) (options : ReplacementOptions ν) (original : Part ν)
  (pool : List (Part ν))

theorem survives_of_mem_replacements {r : Replacement ν}
    (hr : r ∈ (of book options original pool).replacements) :
    r.part ∈ Replacement.survivors options (book.ruleFor? original) original pool ∧
      r.verdict = Replacement.verdict? options (book.ruleFor? original) original r.part := by
  rw [replacements_of, Replacement.bestOf_eq] at hr
  obtain ⟨entry, hentry, rfl⟩ := List.mem_map.mp (List.mem_of_mem_take hr)
  obtain ⟨survivor, hsurvivor, rfl⟩ := List.mem_map.mp ((Ranked.ranking_perm _).mem_iff.mp hentry)
  obtain ⟨part, hpart, rfl⟩ := List.mem_map.mp hsurvivor
  exact ⟨hpart, rfl⟩

theorem confidenceOf_verified_eq_high_iff (unverifiable : Nat) :
    confidenceOf .verified unverifiable = .high ↔ unverifiable = 0 := by
  cases unverifiable <;> simp [confidenceOf]

theorem confidence_eq :
    (of book options original pool).confidence =
      confidenceOf (if (book.ruleFor? original).isSome then .verified else .similar)
        ((of book options original pool).replacements.countP fun r => r.isUnverifiable) := rfl

theorem not_isUnverifiable_iff {rule : ReplacementRule}
    (hrule : book.ruleFor? original = some rule) {r : Replacement ν}
    (hr : r ∈ (of book options original pool).replacements) :
    ¬ r.isUnverifiable = true ↔
      (Verdict.of options.tolerance rule original r.part).unverified = [] := by
  have hverdict := (survives_of_mem_replacements book options original pool hr).2
  rw [hrule] at hverdict
  rw [Replacement.isUnverifiable, hverdict]
  simp [Replacement.verdict?, Verdict.isFullyVerified]

/-- What a high confidence says about the replacements. -/
theorem confidence_of_eq_high_iff :
    (of book options original pool).confidence = .high ↔
      ∃ rule, book.ruleFor? original = some rule ∧
        ∀ r ∈ (of book options original pool).replacements,
          (Verdict.of options.tolerance rule original r.part).unverified = [] := by
  rw [confidence_eq]
  cases hrule : book.ruleFor? original with
  | none => simp [confidenceOf]
  | some rule =>
      rw [Option.isSome_some, if_pos rfl, confidenceOf_verified_eq_high_iff, List.countP_eq_zero]
      constructor
      · exact fun h => ⟨rule, rfl, fun r hr =>
          (not_isUnverifiable_iff book options original pool hrule hr).mp (h r hr)⟩
      · rintro ⟨other, hother, h⟩ r hr
        obtain rfl := Option.some.inj hother
        exact (not_isUnverifiable_iff book options original pool hrule hr).mpr (h r hr)

/-- An attribute of one part only is on record just if the rule compares it besides the primary one,
and then a report with this replacement is not of high confidence. -/
theorem oneSided_on_record (rule : ReplacementRule) :
    (∀ (t : Tolerance ν) (candidate : Part ν) (name : String),
      (Verdict.of t rule original candidate).isCompatible = true →
        OneSided original candidate name →
          (name ∈ (Verdict.of t rule original candidate).unverified ↔ name ∈ rule.secondary)) ∧
      (book.ruleFor? original = some rule →
        (of book options original pool).confidence = .high →
          ∀ r ∈ (of book options original pool).replacements, ∀ name ∈ rule.secondary,
            ¬ OneSided original r.part name) := by
  constructor
  · intro t candidate name hcompatible h
    exact Verdict.mem_unverified_of_iff_of_oneSided t rule hcompatible h
  · intro hrule hhigh r hr name hname h
    obtain ⟨other, hother, hverified⟩ :=
      (confidence_of_eq_high_iff book options original pool).mp hhigh
    obtain rfl : rule = other := Option.some.inj (hrule.symm.trans hother)
    have hpasses : Replacement.Passes options (book.ruleFor? original) original r.part :=
      of_decide_eq_true (List.mem_filter.mp
        (survives_of_mem_replacements book options original pool hr).1).2
    have hrecord := (Verdict.mem_unverified_of_iff_of_oneSided options.tolerance rule
      (hpasses rule hrule) h).mpr hname
    rw [hverified r hr] at hrecord
    exact List.not_mem_nil hrecord

def withTolerance : Part Rat :=
  { chipResistor "R5" "10kΩ" 5000 1 with
    attributes := [("Resistance", "10kΩ"), ("Tolerance", "±1%")] }

theorem oneSided_on_record_withTolerance :
    (Verdict.of .standard resistorRule tenKilohm withTolerance).isCompatible = true ∧
      "Tolerance" ∈ (Verdict.of .standard resistorRule tenKilohm withTolerance).unverified ∧
      (of resistorRules bestOnly tenKilohm threeResistors).confidence = .high ∧
      ∀ r ∈ (of resistorRules bestOnly tenKilohm threeResistors).replacements,
        ¬ OneSided tenKilohm r.part "Tolerance" := by
  have hrecord := oneSided_on_record resistorRules bestOnly tenKilohm threeResistors resistorRule
  have hcompatible : (Verdict.of .standard resistorRule tenKilohm withTolerance).isCompatible =
      true := by decide +kernel
  have hhigh : (of resistorRules bestOnly tenKilohm threeResistors).confidence = .high := by
    decide +kernel
  refine ⟨hcompatible, ?_, hhigh, fun r hr => ?_⟩
  · exact (hrecord.1 .standard withTolerance "Tolerance" hcompatible (by decide)).mpr (by decide)
  · exact hrecord.2 (by decide +kernel) hhigh r hr "Tolerance" (by decide)

def unlabelled : Part Rat := { chipResistor "R6" "" 5000 1 with attributes := [] }

/-- A missing resistance leaves no trace, neither in the verdict nor in the confidence. -/
theorem oneSided_primary_not_on_record :
    OneSided tenKilohm unlabelled resistorRule.primary ∧
      (Verdict.of .standard resistorRule tenKilohm unlabelled).isCompatible = true ∧
      (Verdict.of .standard resistorRule tenKilohm unlabelled).unverified = [] ∧
      (of resistorRules bestOnly tenKilohm [unlabelled]).confidence = .high ∧
      (of resistorRules bestOnly tenKilohm [unlabelled]).replacements.map (fun r => r.part.id) =
        ["R6"] := by
  decide +kernel

end ReplacementReport

end PartSearch
