import PartSearch.Catalog.Row

/-!
How replacements are ranked: parts without an assembly fee first, then those that are well stocked
and most like the part that they replace.
-/

namespace PartSearch

structure Score where
  tier : Int := 0
  availability : Int := 0
  package : Int := 0
  maker : Int := 0
  price : Int := 0
deriving DecidableEq, Repr

namespace Score

def total (s : Score) : Int := s.tier + s.availability + s.package + s.maker + s.price

def ofStock (stock : Nat) : Int :=
  if 10000 ≤ stock then 70 else if 1000 ≤ stock then 50 else if 100 ≤ stock then 30 else -10

def maxPricePoints : Int := 10

variable {ν : Type} [Number ν]

def isPositive (x : ν) : Bool := Number.whole 0 < x

/-- Points for a price: ten tenths of the cheapest one at most. -/
def ofPrice (price cheapest : Option ν) : Int :=
  match price, cheapest with
  | some p, some c =>
    if isPositive p && isPositive c then
      min (Number.toInt (Number.floor (Number.whole 10 * c / p))) maxPricePoints
    else 0
  | _, _ => 0

/-- The points of `candidate` as a replacement for `original`, where `cheapest` is the lowest price
that is compared with. -/
def of (candidate original : Part ν) (cheapest : Option ν) : Score where
  tier := if candidate.tier.isNoFee then 1000 else 0
  availability := ofStock candidate.stock
  package := if candidate.package == original.package then 20 else 0
  maker := if candidate.manufacturer == original.manufacturer then 10 else 0
  price := ofPrice candidate.price cheapest

def lower (a b : ν) : ν := if Number.rank b a = .lt then b else a

/-- The lowest positive price of some parts. -/
def cheapest? (parts : List (Part ν)) : Option ν :=
  ((parts.filterMap Part.price).filter isPositive).foldl (fun best p =>
    some ((best.map fun b => lower b p).getD p)) none

end Score

/-- Something with the score and the id that it is ranked by. -/
structure Ranked (α : Type) where
  score : Int
  id : String
  item : α

namespace Ranked

variable {α : Type}

/-- Does `a` come before `b`? The higher score does, and of two equal ones the lower id. -/
def before (a b : Ranked α) : Bool := b.score < a.score || (a.score = b.score && a.id < b.id)

def insert (entry : Ranked α) : List (Ranked α) → List (Ranked α)
  | [] => [entry]
  | e :: rest => if entry.before e then entry :: e :: rest else e :: insert entry rest

/-- The best `count` entries, the best one first; no more than that are kept at any time. -/
def best (count : Nat) (entries : List (Ranked α)) : List (Ranked α) :=
  entries.foldl (fun kept entry => (insert entry kept).take count) []

end Ranked

end PartSearch
