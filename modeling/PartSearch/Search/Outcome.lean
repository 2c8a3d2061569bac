import PartSearch.Search.Plan

/-!
Running a search: the store is asked once, the rows that it returns are checked, and the page is
filled with the first ones that pass.
-/

namespace PartSearch

structure SearchPage (ν : Type) where
  parts : List (Part ν)
  /-- Rows that satisfy the store's conditions; checks do not count here. -/
  total : Nat
  pageSize : Nat
  offset : Nat
  applied : AppliedFilters
  /-- Rows in each fee tier, whatever tier was asked for. -/
  tiers : TierCounts
  /-- Fetched rows that a check dropped. -/
  rejected : Nat
  parsed : Option ParsedQuery

inductive SearchOutcome (ν : Type) where
  | found (page : SearchPage ν)
  | notFound (name : NotFound)

inductive SearchError where
  | query (error : QueryError)
  | store (error : StoreError)
deriving DecidableEq, Repr

/-- A store answers a query with a page, or says why it cannot. -/
abbrev StoreAccess (ν : Type) := StoreQuery ν → Except StoreError (StorePage ν)

namespace Plan

variable {ν : Type} [Number ν]

def accepts (plan : Plan ν) (part : Part ν) : Bool :=
  plan.checks.all fun check => check.accepts plan.tolerance part.attributes

/-- The first `limit` items that satisfy `keep`, and how many were dropped up to the last of
them. -/
def takeFirst {α : Type} (keep : α → Bool) : Nat → List α → List α × Nat
  | 0, _ | _, [] => ([], 0)
  | limit + 1, x :: xs =>
    if keep x then
      let (kept, dropped) := takeFirst keep limit xs
      (x :: kept, dropped)
    else
      let (kept, dropped) := takeFirst keep (limit + 1) xs
      (kept, dropped + 1)

def finish (plan : Plan ν) (t : Taxonomy) (answer : StorePage ν) : SearchPage ν :=
  let (parts, rejected) := takeFirst plan.accepts plan.pageSize (answer.rows.map (Part.ofRow t))
  { parts
    total := answer.total
    pageSize := plan.pageSize
    offset := plan.query.offset
    applied := plan.applied
    tiers := answer.tiers
    rejected
    parsed := plan.parsed }

end Plan

def search {ν : Type} [Number ν] (store : StoreAccess ν) (t : Taxonomy)
    (settings : SearchSettings ν) (r : Request) : Except SearchError (SearchOutcome ν) :=
  match Plan.ofRequest t settings r with
  | .error (.query e) => .error (.query e)
  | .error (.notFound name) => .ok (.notFound name)
  | .ok plan =>
    match store plan.query with
    | .error e => .error (.store e)
    | .ok answer => .ok (.found (plan.finish t answer))

/-- Access to a store in memory, which never fails. -/
def MemoryStore.access {ν : Type} [Number ν] (store : MemoryStore ν) : StoreAccess ν :=
  fun q => .ok (store.execute q)

def StoreError.message : StoreError → String
  | backend message => "store backend error: " ++ message
  | decode => "failed to decode store data"

def SearchError.message : SearchError → String
  | query e => e.message
  | store e => e.message

end PartSearch
