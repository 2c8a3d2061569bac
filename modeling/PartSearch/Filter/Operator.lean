import PartSearch.Number
import PartSearch.Text.Blank

/-!
The comparisons that a filter can make. There is no "not equal": over the attributes as they are
stored it could not be answered.
-/

namespace PartSearch

inductive Operator where
  | eq
  | ge
  | le
  | gt
  | lt
deriving DecidableEq, Repr

namespace Operator

def all : List Operator := [eq, ge, le, gt, lt]

def symbol : Operator → String
  | eq => "="
  | ge => ">="
  | le => "<="
  | gt => ">"
  | lt => "<"

/-- The operator with this symbol, which may have blanks around it. -/
def ofSymbol? (text : String) : Option Operator :=
  let bare := trimmed text
  all.find? (·.symbol == bare)

def isOrdered : Operator → Bool
  | eq => false
  | _ => true

/-- The comparison itself, without any tolerance. -/
def holds {ν : Type} [Number ν] (operator : Operator) (actual target : ν) : Bool :=
  match operator with
  | eq => actual == target
  | ge => target ≤ actual
  | le => actual ≤ target
  | gt => target < actual
  | lt => actual < target

end Operator

end PartSearch
