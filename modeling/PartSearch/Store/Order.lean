import PartSearch.Catalog.Row

/-!
The order of result pages.
-/

namespace PartSearch

inductive SortKey where
  | stock
  /-- The cheapest first, and parts without a price last. -/
  | price
deriving DecidableEq, Repr

/-- A key, after the fee tier if parts without a fee are preferred. -/
structure SortOrder where
  key : SortKey := .stock
  preferNoFee : Bool := false
deriving DecidableEq, Repr

namespace SortOrder

variable {ν : Type} [Number ν]

/-- Prices in ascending order, with a missing price after every price. -/
def comparePrices : Option ν → Option ν → Ordering
  | some x, some y => Number.rank x y
  | some _, none => .lt
  | none, some _ => .gt
  | none, none => .eq

def compareKeys (key : SortKey) (a b : Row ν) : Ordering :=
  match key with
  | .stock => compare b.stock a.stock
  | .price => comparePrices a.price b.price

def compareRows (order : SortOrder) (a b : Row ν) : Ordering :=
  (if order.preferNoFee then compare a.tier.rank b.tier.rank else .eq).then
    (compareKeys order.key a b)

/-- May `a` stand before `b`? -/
def le (order : SortOrder) (a b : Row ν) : Bool := (order.compareRows a b).isLE

def sql (order : SortOrder) : String :=
  let key := match order.key with
    | .stock => "stock DESC"
    | .price => "price ASC NULLS LAST"
  if order.preferNoFee then
    "ORDER BY CASE library_type WHEN 'b' THEN 1 WHEN 'p' THEN 2 ELSE 3 END, " ++ key
  else "ORDER BY " ++ key

end SortOrder

end PartSearch
