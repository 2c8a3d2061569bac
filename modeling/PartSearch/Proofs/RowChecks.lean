import Mathlib.Algebra.Order.Field.Basic
import Mathlib.Algebra.Order.Field.Rat
import Mathlib.Tactic.FieldSimp
import Mathlib.Tactic.Ring
import PartSearch.Proofs.ColumnComparison

/-!
# What a check accepts

A check picks the value it reads without regard to what it asks of it, so it accepts the union of
what it accepts for its targets and literals, and attributes of other names do not count:
`accepts_append`. Of a range an ordered check compares one bound, the one on the right of the
separator for an upper limit and the one on the left for a lower limit. That bound decides for the
whole range as long as the range is read in order: `accepts_interval_iff`.
-/

namespace PartSearch

/-! ### Values and rows -/

namespace RowCheck

variable {ν : Type} {check : RowCheck ν}

def withValues (check : RowCheck ν) (targets : List ν) (literals : List String) : RowCheck ν :=
  { check with targets, literals }

def looksAt (check : RowCheck ν) (pair : String × String) : Bool :=
  check.attributeNames.contains pair.1

theorem hitsLiteral_filter (pairs : Attributes) :
    check.hitsLiteral (pairs.filter check.looksAt) = check.hitsLiteral pairs := by
  unfold hitsLiteral
  rw [List.any_filter]
  congr 1
  funext pair
  rw [looksAt, ← Bool.and_assoc, Bool.and_self]

variable [Number ν]

theorem readable?_filter (pairs : Attributes) :
    check.readable? (pairs.filter check.looksAt) = check.readable? pairs := by
  unfold readable?
  rw [List.find?_filter]
  congr 2
  funext pair
  rw [looksAt, Bool.decide_and, Bool.decide_eq_true, Bool.decide_eq_true, ← Bool.and_assoc,
    Bool.and_self]

theorem accepts_filter (t : Tolerance ν) (pairs : Attributes) :
    check.accepts t (pairs.filter check.looksAt) = check.accepts t pairs := by
  rw [accepts, accepts, hitsLiteral_filter, readable?_filter]

theorem accepts_withValues_iff (t : Tolerance ν) (pairs : Attributes) (targets : List ν)
    (literals : List String) :
    (check.withValues targets literals).accepts t pairs = true ↔
      (∃ l ∈ literals, (check.onlyLiteral l).accepts t pairs = true) ∨
        ∃ x ∈ targets, (check.onlyTarget x).accepts t pairs = true :=
  accepts_iff_exists t pairs

/-- A check accepts what it accepts for some of its targets and literals or for the others, and it
does not notice attributes of other names. -/
theorem accepts_append (check : RowCheck ν) (t : Tolerance ν) (pairs : Attributes)
    (targets others : List ν) (literals rest : List String) :
    ((check.withValues (targets ++ others) (literals ++ rest)).accepts t pairs = true ↔
        (check.withValues targets literals).accepts t pairs = true ∨
          (check.withValues others rest).accepts t pairs = true) ∧
      ∀ pairs', pairs'.filter check.looksAt = pairs.filter check.looksAt →
        check.accepts t pairs' = check.accepts t pairs := by
  constructor
  · simp only [accepts_withValues_iff, List.mem_append, or_and_right, exists_or]
    exact or_or_or_comm
  · intro pairs' hsame
    rw [← accepts_filter, hsame, accepts_filter]

/-- A check for one megahertz, or for a frequency that is no number. -/
def oneMegahertzOrCustom : RowCheck Rat where
  name := "Frequency"
  attributeNames := ["Frequency"]
  operator := .eq
  targets := [1000000]
  literals := ["Custom"]
  format := .interval .frequency

theorem accepts_append_colours :
    ([("Color", "red"), ("Frequency", "custom")] : Attributes).filter oneMegahertzOrCustom.looksAt =
        ([("Frequency", "custom"), ("Voltage", "5V")] : Attributes).filter
          oneMegahertzOrCustom.looksAt ∧
      oneMegahertzOrCustom.accepts .standard [("Color", "red"), ("Frequency", "custom")] =
        oneMegahertzOrCustom.accepts .standard [("Frequency", "custom"), ("Voltage", "5V")] := by
  have hsame : ([("Color", "red"), ("Frequency", "custom")] : Attributes).filter
      oneMegahertzOrCustom.looksAt =
        ([("Frequency", "custom"), ("Voltage", "5V")] : Attributes).filter
          oneMegahertzOrCustom.looksAt := by decide
  exact ⟨hsame, (accepts_append oneMegahertzOrCustom .standard
    [("Frequency", "custom"), ("Voltage", "5V")] [] [] [] []).2 _ hsame⟩

end RowCheck

/-! ### The bound that decides -/

/-- The second number satisfies every target of the operator that the first one satisfies. -/
def Operator.Decides (operator : Operator) (x y : Rat) : Prop :=
  match operator with
  | .lt | .le => y ≤ x
  | .gt | .ge => x ≤ y
  | .eq => y = x

theorem exists_ne_zero_between {a b : Rat} (h : a < b) : ∃ z, z ≠ 0 ∧ a < z ∧ z < b := by
  obtain ⟨z, haz, hzb⟩ := exists_between h
  by_cases hzero : z = 0
  · rw [hzero] at haz hzb
    obtain ⟨w, haw, hw⟩ := exists_between haz
    exact ⟨w, hw.ne, haw, hw.trans hzb⟩
  · exact ⟨z, hzero, haz, hzb⟩

/-- Between two numbers of which the first does not decide for the second lies one that tells them
apart. -/
theorem Operator.exists_holds_between {operator : Operator} {x y : Rat}
    (hordered : operator.isOrdered = true) (h : ¬ operator.Decides x y) :
    ∃ z, z ≠ 0 ∧ operator.holds x z = true ∧ operator.holds y z = false := by
  cases operator with
  | eq => cases hordered
  | ge | gt =>
      obtain ⟨z, hz, hyz, hzx⟩ := exists_ne_zero_between (not_le.mp h)
      exact ⟨z, hz, by simp [holds, hzx, hzx.le], by simp [holds, hyz, hyz.le]⟩
  | le | lt =>
      obtain ⟨z, hz, hxz, hzy⟩ := exists_ne_zero_between (not_le.mp h)
      exact ⟨z, hz, by simp [holds, hxz, hxz.le], by simp [holds, hzy, hzy.le]⟩

/-- Every number but zero is some target, moved by less than itself. -/
theorem exists_add_abs_mul {ε z : Rat} (hε : |ε| < 1) (hz : z ≠ 0) :
    ∃ target, target ≠ 0 ∧ target + |target| * ε = z := by
  obtain ⟨hlow, hhigh⟩ := abs_lt.mp hε
  rcases lt_or_gt_of_ne hz with hneg | hpos
  · have hpositive : 0 < 1 - ε := by linarith
    have htarget : z / (1 - ε) < 0 := div_neg_of_neg_of_pos hneg hpositive
    refine ⟨z / (1 - ε), htarget.ne, ?_⟩
    rw [abs_of_neg htarget]
    field_simp
    ring
  · have hpositive : 0 < 1 + ε := by linarith
    have htarget : 0 < z / (1 + ε) := div_pos hpos hpositive
    refine ⟨z / (1 + ε), htarget.ne', ?_⟩
    rw [abs_of_pos htarget]
    field_simp

namespace Tolerance

variable {t : Tolerance Rat} {operator : Operator} {x y z : Rat}

theorem comparisonSlack_of_ne_zero {target : Rat} (h : target ≠ 0) :
    t.comparisonSlack target = |target| * t.comparisonEpsilon := by
  have hzero : isZero target = false := by
    have hwhole : (Number.whole 0 : Rat) = 0 := by decide +kernel
    rw [isZero, hwhole]
    exact beq_false_of_ne h
  rw [comparisonSlack, hzero, abs_rat]
  rfl

theorem exists_add_comparisonSlack (hepsilon : |t.comparisonEpsilon| < 1) (hz : z ≠ 0) :
    ∃ target, target + t.comparisonSlack target = z := by
  obtain ⟨target, hne, htarget⟩ := exists_add_abs_mul hepsilon hz
  exact ⟨target, by rw [comparisonSlack_of_ne_zero hne, htarget]⟩

theorem exists_sub_comparisonSlack (hepsilon : |t.comparisonEpsilon| < 1) (hz : z ≠ 0) :
    ∃ target, target - t.comparisonSlack target = z := by
  have hneg : |-t.comparisonEpsilon| < 1 := by rwa [abs_neg]
  obtain ⟨target, hne, htarget⟩ := exists_add_abs_mul hneg hz
  refine ⟨target, ?_⟩
  rw [comparisonSlack_of_ne_zero hne, ← htarget]
  ring

theorem satisfies_of_decides {target : Rat} (h : operator.Decides x y)
    (hx : t.satisfies x operator target = true) : t.satisfies y operator target = true := by
  cases operator with
  | eq => exact h ▸ hx
  | ge => exact decide_eq_true (le_trans (of_decide_eq_true hx) h)
  | le => exact decide_eq_true (le_trans h (of_decide_eq_true hx))
  | gt => exact decide_eq_true (lt_of_lt_of_le (of_decide_eq_true hx) h)
  | lt => exact decide_eq_true (lt_of_le_of_lt h (of_decide_eq_true hx))

/-- A comparison with any number but zero, without slack, is the comparison with some target. -/
theorem exists_satisfies_eq_holds (hordered : operator.isOrdered = true)
    (hepsilon : |t.comparisonEpsilon| < 1) (hz : z ≠ 0) :
    ∃ target, ∀ x, t.satisfies x operator target = operator.holds x z := by
  cases operator with
  | eq => cases hordered
  | ge | lt =>
      obtain ⟨target, rfl⟩ := exists_sub_comparisonSlack hepsilon hz
      exact ⟨target, fun _ => rfl⟩
  | le | gt =>
      obtain ⟨target, rfl⟩ := exists_add_comparisonSlack hepsilon hz
      exact ⟨target, fun _ => rfl⟩

theorem decides_of_satisfies (hordered : operator.isOrdered = true)
    (hepsilon : |t.comparisonEpsilon| < 1)
    (h : ∀ target, t.satisfies x operator target = true → t.satisfies y operator target = true) :
    operator.Decides x y := by
  by_contra hdecides
  obtain ⟨z, hz, hx, hy⟩ := Operator.exists_holds_between hordered hdecides
  obtain ⟨target, htarget⟩ := exists_satisfies_eq_holds hordered hepsilon hz
  have hsatisfies := h target
  rw [htarget, htarget, hy] at hsatisfies
  exact Bool.false_ne_true (hsatisfies hx)

end Tolerance

/-! ### Ranges -/

namespace Interval

variable {ν : Type}

/-- The bounds that were read. -/
def bounds (r : Interval ν) : List ν := r.min.toList ++ r.max.toList

/-- The left bound is not above the right one, where both were read. -/
def InOrder (r : Interval Rat) : Prop := ∀ low ∈ r.min, ∀ high ∈ r.max, low ≤ high

instance decidableInOrder (r : Interval Rat) : Decidable r.InOrder :=
  inferInstanceAs (Decidable (∀ low ∈ r.min, ∀ high ∈ r.max, low ≤ high))

/-- The bound that an ordered operator compares. -/
def compared (r : Interval ν) (operator : Operator) : Option ν :=
  match operator with
  | .lt | .le => r.max <|> r.min
  | .gt | .ge => r.min <|> r.max
  | .eq => none

theorem mem_bounds_of_compared {r : Interval ν} {operator : Operator} {x : ν}
    (h : r.compared operator = some x) : x ∈ r.bounds := by
  obtain ⟨low, high⟩ := r
  cases operator <;> cases low <;> cases high <;> simp_all [compared, bounds]

theorem exists_compared {r : Interval ν} {operator : Operator}
    (hordered : operator.isOrdered = true) (hr : r.isEmpty = false) :
    ∃ x, r.compared operator = some x := by
  obtain ⟨low, high⟩ := r
  cases operator <;> cases low <;> cases high <;>
    simp_all [compared, isEmpty, Operator.isOrdered]

/-- The compared bound decides for all bounds of a range in order, and of no other range. -/
theorem decides_compared_iff {r : Interval Rat} {operator : Operator} {x : Rat}
    (h : r.compared operator = some x) :
    (∀ y ∈ r.bounds, operator.Decides x y) ↔ r.InOrder := by
  obtain ⟨low, high⟩ := r
  cases operator <;> cases low <;> cases high <;>
    simp_all [compared, bounds, InOrder, Operator.Decides]

end Interval

namespace RowCheck

section

variable {ν : Type} [Number ν] {check : RowCheck ν} {t : Tolerance ν} {format : IntervalFormat}

theorem intervalSatisfies_eq_compared (hordered : check.operator.isOrdered = true)
    (r : Interval ν) (target : ν) :
    check.intervalSatisfies t r target =
      ((r.compared check.operator).map fun x => t.satisfies x check.operator target).getD false := by
  unfold intervalSatisfies Interval.compared
  cases hoperator : check.operator with
  | eq =>
      rw [hoperator] at hordered
      cases hordered
  | ge | le | gt | lt => rfl

theorem valueSatisfies_onlyTarget (hformat : check.format = .interval format) (text : String)
    (target : ν) :
    (check.onlyTarget target).valueSatisfies t text =
      check.intervalSatisfies t (format.read text) target := by
  have hread : check.format.readInterval text = (format.read text : Interval ν) := by
    rw [hformat]
    rfl
  have hinterval : check.format.isInterval = true := by
    rw [hformat]
    rfl
  unfold valueSatisfies onlyTarget
  rw [if_pos hinterval, List.any_cons, List.any_nil, Bool.or_false, hread]
  rfl

/-- An ordered check reads some bound and has the answer of the one that it compares. -/
theorem exists_compared_of_readable {pairs : Attributes} {text : String}
    (hformat : check.format = .interval format) (hordered : check.operator.isOrdered = true)
    (hread : check.readable? pairs = some text) :
    ∃ x, (format.read text).compared check.operator = some x ∧ ∀ target,
      (check.onlyTarget target).accepts t pairs = t.satisfies x check.operator target := by
  have hnonempty : (format.read text : Interval ν).isEmpty = false := by
    obtain ⟨pair, hfind, rfl⟩ := Option.map_eq_some_iff.mp hread
    have hfound := List.find?_some hfind
    simpa [hformat, AttributeFormat.readInterval] using (Bool.and_eq_true_iff.mp hfound).2
  obtain ⟨x, hx⟩ := Interval.exists_compared hordered hnonempty
  refine ⟨x, hx, ?_⟩
  intro target
  rw [accepts_onlyTarget, hread, Option.map_some, Option.getD_some,
    valueSatisfies_onlyTarget hformat, intervalSatisfies_eq_compared hordered, hx]
  rfl

end

/-- An ordered check accepts a range in order exactly if all its bounds satisfy the target. For a
range whose left bound is above its right one that fails at some target. -/
theorem accepts_interval_iff {t : Tolerance Rat} {check : RowCheck Rat} {format : IntervalFormat}
    {pairs : Attributes} {text : String} (hformat : check.format = .interval format)
    (hordered : check.operator.isOrdered = true) (hread : check.readable? pairs = some text) :
    ((format.read text).InOrder → ∀ target, (check.onlyTarget target).accepts t pairs = true ↔
        ∀ x ∈ (format.read text).bounds, t.satisfies x check.operator target = true) ∧
      (|t.comparisonEpsilon| < 1 →
        (∀ target, (check.onlyTarget target).accepts t pairs = true →
          ∀ x ∈ (format.read text).bounds, t.satisfies x check.operator target = true) →
        (format.read text).InOrder) := by
  obtain ⟨x, hx, haccepts⟩ := exists_compared_of_readable (t := t) hformat hordered hread
  constructor
  · intro horder target
    rw [haccepts]
    constructor
    · intro hsatisfies y hy
      have hdecides := (Interval.decides_compared_iff hx).mpr horder y hy
      exact Tolerance.satisfies_of_decides hdecides hsatisfies
    · intro hall
      exact hall x (Interval.mem_bounds_of_compared hx)
  · intro hepsilon hall
    rw [← Interval.decides_compared_iff hx]
    intro y hy
    apply Tolerance.decides_of_satisfies hordered hepsilon
    intro target hsatisfies
    exact hall target (by rwa [haccepts]) y hy

def atLeastTwoVolts : RowCheck Rat where
  name := "Vgs(th)"
  attributeNames := Attribute.catalogNames "Vgs(th)"
  operator := .ge
  targets := [2]
  format := .interval .gateThreshold

theorem accepts_interval_iff_twoToThreeVolts :
    atLeastTwoVolts.readable? [("Gate Threshold Voltage", "2V~3V")] = some "2V~3V" ∧
      (∀ x ∈ (IntervalFormat.gateThreshold.read "2V~3V").bounds,
        Tolerance.standard.satisfies (x : Rat) .ge 2 = true) ∧
      (atLeastTwoVolts.onlyTarget 2).accepts .standard [("Gate Threshold Voltage", "2V~3V")] =
        true := by
  have hread : atLeastTwoVolts.readable? [("Gate Threshold Voltage", "2V~3V")] =
      some "2V~3V" := by decide +kernel
  have hbounds : ∀ x ∈ (IntervalFormat.gateThreshold.read "2V~3V").bounds,
      Tolerance.standard.satisfies (x : Rat) .ge 2 = true := by decide +kernel
  have hiff := @accepts_interval_iff .standard atLeastTwoVolts .gateThreshold
    [("Gate Threshold Voltage", "2V~3V")] "2V~3V" rfl (by decide) hread
  exact ⟨hread, hbounds, (hiff.1 (by decide +kernel) 2).mpr hbounds⟩

/-- The signs of a threshold are not read, so the one of a P-channel transistor is out of order, and
it passes although its right bound is below two volts. -/
theorem accepts_minusTwoAndAHalfToMinusOneVolt :
    ((FilterGroup.single ⟨"Vgs(th)", .ge, "2V"⟩).compile .standard).checks = [atLeastTwoVolts] ∧
      atLeastTwoVolts.accepts .standard [("Gate Threshold Voltage", "-2.5V~-1V")] = true ∧
      atLeastTwoVolts.readable? [("Gate Threshold Voltage", "-2.5V~-1V")] = some "-2.5V~-1V" ∧
      (IntervalFormat.gateThreshold.read "-2.5V~-1V").bounds = [5 / 2, (1 : Rat)] ∧
      Tolerance.standard.satisfies (1 : Rat) .ge 2 = false := by
  refine ⟨rfl, ?_⟩
  decide +kernel

end RowCheck

end PartSearch
