import PartSearch.Filter.Compile
import PartSearch.Search.Request
import PartSearch.Store.Memory

/-!
What a search asks the store for. A request becomes a list of conditions and one query for the
store; it is refused if it asks for nothing, and it fails if it names a subcategory or category
that does not exist.
-/

namespace PartSearch

/-- A restriction to a subcategory or a category, and the names that it goes by. -/
structure Scope (ν : Type) where
  clause : Option (Predicate ν) := none
  subcategoryId : Option Nat := none
  subcategory : Option String := none
  category : Option String := none

namespace Scope

variable {ν : Type}

def ofId (t : Taxonomy) (id : Nat) : Scope ν where
  clause := some (.subcategory id)
  subcategoryId := some id
  subcategory := (t.subcategory? id).map (·.name)

def ofEntry (entry : Subcategory) : Scope ν where
  clause := some (.subcategory entry.id)
  subcategoryId := some entry.id
  subcategory := some entry.name

def ofCategory (found : String × List Nat) : Scope ν where
  clause := some (.subcategories found.2)
  category := some found.1

/-- The restriction that an id, the name of a subcategory or the name of a category means; the
first one that is given counts, and a blank name is none. -/
def resolve (t : Taxonomy) (id : Option Nat) (subcategory category : Option String) :
    Except NotFound (Scope ν) :=
  match id, subcategory.filter fun s => !isBlankText s, category.filter fun s => !isBlankText s with
  | some id, _, _ => .ok (ofId t id)
  | none, some name, _ => (t.resolveSubcategory name).map ofEntry
  | none, none, some name => (t.resolveCategory name).map ofCategory
  | none, none, none => .ok {}

end Scope

def TierFilter.clause {ν : Type} (filter : TierFilter) : Predicate ν :=
  FilterGroup.alternatives (filter.tiers.map .feeTier)

/-- What a search ran with, once names are resolved and the query is read. -/
structure AppliedFilters where
  query : Option String
  subcategoryId : Option Nat
  subcategory : Option String
  /-- The subcategory as the catalog spells it. -/
  subcategoryName : Option String
  category : Option String
  categoryName : Option String
  filters : List SpecFilter
  tier : Option TierFilter
  preferNoFee : Bool
  minStock : Nat
  packages : List String
  manufacturer : Option String
  mounting : Option Mounting
  matchAll : Bool
deriving DecidableEq, Repr

structure Plan (ν : Type) where
  query : StoreQuery ν
  checks : List (RowCheck ν)
  tolerance : Tolerance ν
  pageSize : Nat
  applied : AppliedFilters
  parsed : Option ParsedQuery

inductive Refusal where
  | query (error : QueryError)
  | notFound (name : NotFound)
deriving DecidableEq, Repr

namespace Plan

variable {ν : Type} [Number ν]

def textClause? (matchAll : Bool) (text : String) : Option (Predicate ν) :=
  (FullText.expression? text matchAll).map fun expression =>
    .fullText expression (FullText.terms text) matchAll

structure Conditions (ν : Type) where
  text : Option (Predicate ν)
  scope : Option (Predicate ν)
  tier : Option (Predicate ν)
  minStock : Nat
  packages : List String
  manufacturer : Option String
  mounting : Option Mounting
  filters : List (Predicate ν)

namespace Conditions

omit [Number ν]

def beforeTier (c : Conditions ν) : List (Predicate ν) := c.text.toList ++ c.scope.toList

def afterTier (c : Conditions ν) : List (Predicate ν) :=
  (if c.minStock = 0 then [] else [.minStock c.minStock]) ++
    (if c.packages.isEmpty then [] else [.packages c.packages]) ++
    (c.manufacturer.map .manufacturer).toList ++ (c.mounting.map .mounting).toList ++ c.filters

def clauses (c : Conditions ν) : List (Predicate ν) :=
  c.beforeTier ++ c.tier.toList ++ c.afterTier

/-- The conditions other than the restriction to fee tiers; the counts tell of all tiers. -/
def countClauses (c : Conditions ν) : List (Predicate ν) :=
  c.clauses.filter fun p => c.tier != some p

end Conditions

def build (settings : SearchSettings ν) (r : Request) (w : Wanted) (text : Option (Predicate ν))
    (scope : Scope ν) : Plan ν :=
  let compiled := Compiled.ofGroups settings.tolerance (FilterGroup.ofFilters w.filters)
  let minStock := r.minStock.getD settings.defaultMinStock
  let packages := r.acceptedPackages w.package
  let manufacturer := r.makerName?
  let pageSize := settings.pageSize r.limit
  let conditions : Conditions ν :=
    { text, scope := scope.clause, tier := r.tier.map TierFilter.clause, minStock, packages,
      manufacturer, mounting := w.mounting, filters := compiled.clauses }
  { query :=
      { clauses := conditions.clauses
        countClauses := conditions.countClauses
        order := { key := r.sort, preferNoFee := r.preferNoFee }
        limit := settings.fetchSize pageSize compiled.needsMore
        offset := r.offset }
    checks := compiled.checks
    tolerance := settings.tolerance
    pageSize
    applied :=
      { query := w.text
        subcategoryId := scope.subcategoryId
        subcategory := w.subcategory
        subcategoryName := scope.subcategory
        category := r.category
        categoryName := scope.category
        filters := w.filters
        tier := r.tier
        preferNoFee := r.preferNoFee
        minStock
        packages
        manufacturer
        mounting := w.mounting
        matchAll := r.matchAll }
    parsed := w.parsed }

def validQuery (settings : SearchSettings ν) (r : Request) : Except QueryError Unit :=
  match r.query.bind nonBlank? with
  | some query => Query.validate settings.maxQueryLength query
  | none => .ok ()

/-- The plan for a request. A text without a term is refused, and so is a request that asks for
nothing. -/
def ofRequest (t : Taxonomy) (settings : SearchSettings ν) (r : Request) :
    Except Refusal (Plan ν) := do
  (validQuery settings r).mapError .query
  let w := r.wanted ν
  let text : Option (Predicate ν) := w.text.bind (textClause? r.matchAll)
  if w.text.isSome && text.isNone || text.isNone && !r.isStructural w then
    throw (.query .noSearchableTerms)
  let scope ← (Scope.resolve t r.subcategoryId w.subcategory r.category).mapError .notFound
  return build settings r w text scope

end Plan

end PartSearch
