import PartSearch.Attribute.Format
import PartSearch.Catalog.Blob

/-!
Checks of rows after they are fetched. Patterns over text cannot decide "below 50mOhm", so the
store only narrows the candidates down, and a check reads the stored value and compares numbers.
-/

namespace PartSearch

structure RowCheck (ν : Type) where
  /-- The name that the filter used. -/
  name : String
  /-- The catalog names that are looked at. -/
  attributeNames : List String
  operator : Operator
  /-- A row passes if it satisfies one of these. -/
  targets : List ν
  /-- Values of the filter that are no numbers; a row that has one of them passes too. -/
  literals : List String := []
  format : AttributeFormat

namespace RowCheck

variable {ν : Type} [Number ν]

/-- Are two values the same text, up to case and surrounding blanks? -/
def sameValue (a b : String) : Bool := Text.sameText (trimmed a) (trimmed b)

def hitsLiteral (check : RowCheck ν) (attributes : Attributes) : Bool :=
  attributes.any fun (name, value) =>
    check.attributeNames.contains name && check.literals.any fun l => sameValue l value

/-- The first value of one of the attributes that can be read. -/
def readable? (check : RowCheck ν) (attributes : Attributes) : Option String :=
  (attributes.find? fun (name, value) =>
    check.attributeNames.contains name &&
      !(check.format.readInterval value : Interval ν).isEmpty).map (·.2)

/-- Does a stored range satisfy a target? An upper limit is put on the upper bound, a lower limit on
the lower bound, and an equal target lies within the range. -/
def intervalSatisfies (check : RowCheck ν) (t : Tolerance ν) (range : Interval ν) (target : ν) :
    Bool :=
  match check.operator with
  | .lt | .le =>
    ((range.max <|> range.min).map fun x => t.satisfies x check.operator target).getD false
  | .gt | .ge =>
    ((range.min <|> range.max).map fun x => t.satisfies x check.operator target).getD false
  | .eq =>
    let band := t.equalityBand target
    ((range.min.map fun low => decide (low - band ≤ target)).getD true) &&
      ((range.max.map fun high => decide (target ≤ high + band)).getD true)

def valueSatisfies (check : RowCheck ν) (t : Tolerance ν) (value : String) : Bool :=
  if check.format.isInterval then
    check.targets.any (check.intervalSatisfies t (check.format.readInterval value))
  else
    match check.format.readScalar? value with
    | some actual => check.targets.any fun target => t.satisfies actual check.operator target
    | none => false

/-- Does a row with these attributes pass? A row without a readable value does not, unless one of
its values is a literal of the filter. -/
def accepts (check : RowCheck ν) (t : Tolerance ν) (attributes : Attributes) : Bool :=
  check.hitsLiteral attributes ||
    ((check.readable? attributes).map (check.valueSatisfies t)).getD false

end RowCheck

end PartSearch
