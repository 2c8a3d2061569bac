import PartSearch.Filter.Operator

/-!
How far two numbers may be apart and still count as equal, or as in order. Catalog values are
rounded and typed by hand, so no comparison is exact: bands are relative, and absolute at zero.
-/

namespace PartSearch

/-- Widths of the bands in which numbers agree. -/
structure Tolerance (ν : Type) where
  /-- Half width of the band around the target of an "=" filter, relative to the target. -/
  filterEquality : ν
  /-- How far a replacement part may be off, relative to the part that it replaces. -/
  alternativeMatch : ν
  /-- The band around a target of zero. -/
  zeroEpsilon : ν
  /-- Slack of ordered comparisons, relative to the target. -/
  comparisonEpsilon : ν
  zeroComparisonEpsilon : ν

/-- Which way a rating may move while the part stays a replacement. -/
inductive Direction where
  /-- At least the rating of the part that is replaced. -/
  | higher
  /-- At most the rating of the part that is replaced. -/
  | lower
deriving DecidableEq, Repr

namespace Tolerance

variable {ν : Type} [Number ν]

/-- One percent for filters and two for replacements; at zero, and for order, next to nothing. -/
def standard : Tolerance ν where
  filterEquality := Number.tenTo (-2)
  alternativeMatch := Number.ofDecimal { mantissa := 2, exponent := -2 }
  zeroEpsilon := Number.tenTo (-9)
  comparisonEpsilon := Number.tenTo (-9)
  zeroComparisonEpsilon := Number.tenTo (-15)

def isZero (x : ν) : Bool := x == Number.whole 0

def equalityBand (t : Tolerance ν) (target : ν) : ν :=
  if isZero target then t.zeroEpsilon else Number.abs target * t.filterEquality

/-- The ends of that band, which belong to it. -/
def equalityBounds (t : Tolerance ν) (target : ν) : ν × ν :=
  let band := t.equalityBand target
  (target - band, target + band)

def comparisonSlack (t : Tolerance ν) (target : ν) : ν :=
  if isZero target then t.zeroComparisonEpsilon else Number.abs target * t.comparisonEpsilon

def satisfies (t : Tolerance ν) (actual : ν) (operator : Operator) (target : ν) : Bool :=
  let slack := t.comparisonSlack target
  match operator with
  | .eq => Number.abs (actual - target) ≤ t.equalityBand target
  | .ge => target - slack ≤ actual
  | .le => actual ≤ target + slack
  | .gt => target + slack < actual
  | .lt => actual < target - slack

def alternativeMatches (t : Tolerance ν) (original candidate : ν) : Bool :=
  if isZero original then Number.abs candidate ≤ t.zeroEpsilon
  else Number.abs ((candidate - original) / original) < t.alternativeMatch

def sameOrBetter (t : Tolerance ν) (direction : Direction) (original candidate : ν) : Bool :=
  match direction with
  | .higher => original * (Number.whole 1 - t.alternativeMatch) ≤ candidate
  | .lower => candidate ≤ original * (Number.whole 1 + t.alternativeMatch)

end Tolerance

end PartSearch
