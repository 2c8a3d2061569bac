import Mathlib.Algebra.Order.Ring.Rat
import Mathlib.Tactic.Linarith
import PartSearch.Proofs.GroupPaths

/-!
# Numbers in columns

A filter on an attribute that has a numeric column is decided by a clause on the column, while the
numbers of any other attribute are checked with the tolerance. An "=" clause is the band of the
tolerance, so it makes no difference. An ordered clause compares without the slack that the
tolerance has, and differs from it at the numbers in the slack: `column_agrees_iff`.
-/

namespace PartSearch

namespace Tolerance

variable {t : Tolerance Rat} {operator : Operator} {actual target : Rat}

theorem abs_rat (x : Rat) : Number.abs x = |x| := by
  change (if x < 0 then -x else x) = |x|
  split
  · rename_i hx
    rw [abs_of_neg hx]
  · rename_i hx
    rw [abs_of_nonneg (not_lt.mp hx)]

/-- The numbers beside a target that a comparison takes differently with the slack and without. -/
def InSlack (t : Tolerance Rat) (operator : Operator) (actual target : Rat) : Prop :=
  match operator with
  | .eq => False
  | .ge | .lt => target - t.comparisonSlack target ≤ actual ∧ actual < target
  | .le | .gt => target < actual ∧ actual ≤ target + t.comparisonSlack target

theorem comparisonSlack_nonneg (hepsilon : 0 ≤ t.comparisonEpsilon)
    (hzero : 0 ≤ t.zeroComparisonEpsilon) (target : Rat) : 0 ≤ t.comparisonSlack target := by
  unfold comparisonSlack
  split
  · exact hzero
  · rw [abs_rat]
    exact mul_nonneg (abs_nonneg target) hepsilon

theorem satisfies_eq_iff :
    t.satisfies actual .eq target = true ↔
      (t.equalityBounds target).1 ≤ actual ∧ actual ≤ (t.equalityBounds target).2 := by
  change decide (Number.abs (actual - target) ≤ t.equalityBand target) = true ↔
    target - t.equalityBand target ≤ actual ∧ actual ≤ target + t.equalityBand target
  rw [decide_eq_true_iff, abs_rat, abs_sub_le_iff]
  constructor
  · intro h
    constructor <;> linarith [h.1, h.2]
  · intro h
    constructor <;> linarith [h.1, h.2]

/-- Without slack an ordered comparison has the same answer everywhere but in the slack. -/
theorem holds_eq_satisfies_iff (hordered : operator ≠ .eq)
    (hslack : 0 ≤ t.comparisonSlack target) :
    operator.holds actual target = t.satisfies actual operator target ↔
      ¬ t.InSlack operator actual target := by
  cases operator with
  | eq => exact absurd rfl hordered
  | ge =>
      change decide (target ≤ actual) = decide (target - t.comparisonSlack target ≤ actual) ↔
        ¬ (target - t.comparisonSlack target ≤ actual ∧ actual < target)
      rw [decide_eq_decide, not_and, not_lt]
      constructor
      · exact fun h => h.mpr
      · intro h
        exact ⟨fun hle => by linarith, h⟩
  | lt =>
      change decide (actual < target) = decide (actual < target - t.comparisonSlack target) ↔
        ¬ (target - t.comparisonSlack target ≤ actual ∧ actual < target)
      rw [decide_eq_decide, and_comm, not_and, not_le]
      constructor
      · exact fun h => h.mp
      · intro h
        exact ⟨h, fun hlt => by linarith⟩
  | le =>
      change decide (actual ≤ target) = decide (actual ≤ target + t.comparisonSlack target) ↔
        ¬ (target < actual ∧ actual ≤ target + t.comparisonSlack target)
      rw [decide_eq_decide, and_comm, not_and, not_lt]
      constructor
      · exact fun h => h.mpr
      · intro h
        exact ⟨fun hle => by linarith, h⟩
  | gt =>
      change decide (target < actual) = decide (target + t.comparisonSlack target < actual) ↔
        ¬ (target < actual ∧ actual ≤ target + t.comparisonSlack target)
      rw [decide_eq_decide, not_and, not_le]
      constructor
      · exact fun h => h.mp
      · intro h
        exact ⟨h, fun hlt => by linarith⟩

end Tolerance

namespace FilterGroup

variable {ν : Type} [Number ν] {t : Tolerance ν} {f : SpecFilter} {column : Attribute.Column}
  {target : ν}

theorem compile_single_of_column (hcolumn : Attribute.column? f.name = some column)
    (hread : column.format.read? f.value = some target) :
    (single f).compile t = { clauses := [columnClause t column.name f.operator target] } := by
  have hclause : (single f).onColumn? t =
      some (columnClause t column.name f.operator target) := by
    simp [onColumn?, name, values, operator, hcolumn, hread, alternatives]
  rw [compile, hclause]

theorem satisfies_columnClause_ordered {row : IndexedRow ν} {operator : Operator} {name : String}
    {actual : ν} (hordered : operator ≠ .eq) (hactual : row.column? name = some actual) :
    row.satisfies (columnClause t name operator target) = operator.holds actual target := by
  cases operator with
  | eq => exact absurd rfl hordered
  | ge | le | gt | lt => simp [columnClause, IndexedRow.satisfies, hactual]

theorem satisfies_columnClause_eq {row : IndexedRow ν} {name : String} {actual : ν}
    (hactual : row.column? name = some actual) :
    row.satisfies (columnClause t name .eq target) = true ↔
      (t.equalityBounds target).1 ≤ actual ∧ actual ≤ (t.equalityBounds target).2 := by
  simp [columnClause, IndexedRow.satisfies, hactual]

end FilterGroup

open FilterGroup in
/-- A filter on a column is decided by its clause alone, and the clause has the answer of the
tolerance unless the operator is ordered and the number lies in the slack beside the target. -/
theorem column_agrees_iff {t : Tolerance Rat} {f : SpecFilter} {column : Attribute.Column}
    {target actual : Rat} {row : IndexedRow Rat} (hepsilon : 0 ≤ t.comparisonEpsilon)
    (hzero : 0 ≤ t.zeroComparisonEpsilon) (hcolumn : Attribute.column? f.name = some column)
    (hread : column.format.read? f.value = some target)
    (hactual : row.column? column.name = some actual) :
    ((single f).compile t).checks = [] ∧
      (row.satisfiesAll ((single f).compile t).clauses = t.satisfies actual f.operator target ↔
        ¬ t.InSlack f.operator actual target) := by
  rw [compile_single_of_column hcolumn hread, satisfiesAll_singleton]
  refine ⟨rfl, ?_⟩
  by_cases hordered : f.operator = .eq
  · rw [hordered]
    have hagree : row.satisfies (columnClause t column.name .eq target) =
        t.satisfies actual .eq target := by
      rw [Bool.eq_iff_iff, satisfies_columnClause_eq hactual, Tolerance.satisfies_eq_iff]
    exact iff_of_true hagree not_false
  · rw [satisfies_columnClause_ordered hordered hactual]
    exact Tolerance.holds_eq_satisfies_iff hordered
      (Tolerance.comparisonSlack_nonneg hepsilon hzero target)

def withResistance (ohms : Rat) : IndexedRow Rat :=
  .ofRow { id := "R1", subcategoryId := 1, columns := [("resistance_ohms", ohms)] }

def atLeastOneKiloohm : SpecFilter := ⟨"Resistance", .ge, "1k"⟩

theorem column_agrees_iff_justBelow :
    Attribute.column? atLeastOneKiloohm.name = some ⟨"resistance_ohms", .resistance⟩ ∧
      (withResistance 999).satisfiesAll
          ((FilterGroup.single atLeastOneKiloohm).compile .standard).clauses =
        Tolerance.standard.satisfies (999 : Rat) .ge 1000 := by
  have hcolumn : Attribute.column? atLeastOneKiloohm.name =
      some ⟨"resistance_ohms", .resistance⟩ := by decide +kernel
  have hagrees := @column_agrees_iff .standard atLeastOneKiloohm _ 1000 999 (withResistance 999)
    (by decide +kernel) (by decide +kernel) hcolumn (by decide +kernel) (by decide +kernel)
  refine ⟨hcolumn, hagrees.2.mpr ?_⟩
  rintro ⟨hslack, -⟩
  exact absurd hslack (by decide +kernel)

/-- Within the slack of one kiloohm the tolerance accepts a resistance that the clause drops. -/
theorem column_drops_nearlyOneKiloohm :
    (0 : Rat) ≤ Tolerance.standard.filterEquality ∧ (0 : Rat) ≤ Tolerance.standard.zeroEpsilon ∧
      (0 : Rat) ≤ Tolerance.standard.comparisonEpsilon ∧
      (0 : Rat) ≤ Tolerance.standard.zeroComparisonEpsilon ∧
      Attribute.column? atLeastOneKiloohm.name = some ⟨"resistance_ohms", .resistance⟩ ∧
      ScalarFormat.read? .resistance atLeastOneKiloohm.value = some (1000 : Rat) ∧
      Tolerance.standard.satisfies (9999999999 / 10000000 : Rat) .ge 1000 = true ∧
      (withResistance (9999999999 / 10000000)).column? "resistance_ohms" =
        some (9999999999 / 10000000) ∧
      (withResistance (9999999999 / 10000000)).satisfiesAll
        ((FilterGroup.single atLeastOneKiloohm).compile .standard).clauses = false := by
  decide +kernel

end PartSearch
