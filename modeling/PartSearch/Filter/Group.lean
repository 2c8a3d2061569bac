import PartSearch.Filter.Basic

/-!
Filters grouped by attribute: several "=" filters on one attribute accept any of their values,
while an ordered filter always stands alone.
-/

namespace PartSearch

/-- One comparison, or several accepted values of one attribute. -/
inductive FilterGroup where
  | single (filter : SpecFilter)
  | anyOf (name : String) (values : List String)
deriving DecidableEq, Repr

namespace FilterGroup

def name : FilterGroup → String
  | single f => f.name
  | anyOf name _ => name

def operator : FilterGroup → Operator
  | single f => f.operator
  | anyOf _ _ => .eq

def values : FilterGroup → List String
  | single f => [f.value]
  | anyOf _ values => values

/-- Does an "=" filter on `name` belong to the group? Case does not matter. -/
def accepts (g : FilterGroup) (name : String) : Bool :=
  g.operator = .eq && Text.sameText g.name name

/-- The group with one more value, unless it has that value in some case already. -/
def addValue (g : FilterGroup) (value : String) : FilterGroup :=
  if g.values.any fun v => Text.sameText v value then g else anyOf g.name (g.values ++ [value])

/-- The groups after one more filter, which joins the first group that it belongs to. -/
def add (f : SpecFilter) : List FilterGroup → List FilterGroup
  | [] => [single f]
  | g :: gs =>
    if f.operator = .eq && g.accepts f.name then g.addValue f.value :: gs else g :: add f gs

/-- Groups in the order in which their attributes are first named. -/
def ofFilters (filters : List SpecFilter) : List FilterGroup :=
  filters.foldl (fun groups f => add f groups) []

end FilterGroup

end PartSearch
