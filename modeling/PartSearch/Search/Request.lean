import PartSearch.Catalog.Footprint
import PartSearch.Catalog.Maker
import PartSearch.Query.Parsed
import PartSearch.Store.Order
import PartSearch.Tolerance

/-!
Requests for a search, and what is searched for once the words of a request are read. What the
caller gives always wins; a reading only fills in what is missing.
-/

namespace PartSearch

structure SearchSettings (ν : Type) where
  maxQueryLength : Nat
  /-- How many rows are fetched for each row of a page when checks will drop some. -/
  fetchMultiplier : Nat
  /-- How many rows are fetched at most for that reason. -/
  fetchCeiling : Nat
  maxPageSize : Nat
  defaultPageSize : Nat
  defaultMinStock : Nat
  tolerance : Tolerance ν

namespace SearchSettings

variable {ν : Type}

def standard [Number ν] : SearchSettings ν where
  maxQueryLength := Query.maxLength
  fetchMultiplier := 10
  fetchCeiling := 500
  maxPageSize := 100
  defaultPageSize := 20
  defaultMinStock := 10
  tolerance := Tolerance.standard

/-- How many rows a store is asked for to fill a page of `limit` rows. -/
def fetchSize (settings : SearchSettings ν) (limit : Nat) (needsMore : Bool) : Nat :=
  if needsMore then max (min (limit * settings.fetchMultiplier) settings.fetchCeiling) limit
  else limit

def pageSize (settings : SearchSettings ν) (asked : Option Nat) : Nat :=
  min (max 1 (asked.getD settings.defaultPageSize)) settings.maxPageSize

end SearchSettings

structure Request where
  query : Option String := none
  subcategoryId : Option Nat := none
  subcategory : Option String := none
  category : Option String := none
  filters : List SpecFilter := []
  tier : Option TierFilter := none
  preferNoFee : Bool := true
  minStock : Option Nat := none
  package : Option String := none
  /-- Any of these packages; they count before `package`. -/
  packages : List String := []
  manufacturer : Option String := none
  mounting : Option Mounting := none
  /-- Does every word of the query have to occur? -/
  matchAll : Bool := true
  sort : SortKey := .stock
  limit : Option Nat := none
  offset : Nat := 0
  /-- Is the query read for what it says about parts? -/
  readQuery : Bool := true
deriving DecidableEq, Repr

/-- A request together with what its query says. -/
structure Wanted where
  text : Option String
  subcategory : Option String
  package : Option String
  mounting : Option Mounting
  filters : List SpecFilter
  parsed : Option ParsedQuery := none
deriving DecidableEq, Repr

/-- The text without white space at its ends, if that leaves anything. -/
def nonBlank? (text : String) : Option String :=
  let text := trimmed text
  if text.isEmpty then none else some text

namespace Request

def asGiven (r : Request) (text : Option String) : Wanted where
  text := text
  subcategory := r.subcategory
  package := r.package
  mounting := r.mounting
  filters := r.filters

def minFreeText : Nat := 2

/-- The text to look for once a query is read: what the reading leaves over, nothing if the rest is
said by filters, or the query itself. -/
def freeTextOf (reading : ParsedQuery) (query : String) : Option String :=
  let free := trimmed reading.freeText
  if minFreeText ≤ free.length then some free
  else if !reading.filters.isEmpty || reading.subcategory.isSome then none
  else some query

def withReading (r : Request) (query : String) (reading : ParsedQuery) : Wanted where
  text := freeTextOf reading query
  subcategory :=
    if r.subcategoryId.isNone && r.subcategory.isNone && r.category.isNone then reading.subcategory
    else r.subcategory
  package := if r.package.isNone && r.packages.isEmpty then reading.package else r.package
  mounting := r.mounting <|> reading.mounting
  filters := SpecFilter.merge r.filters reading.filters
  parsed := some reading

/-- What is wanted. Names of connectors are spelled as catalogs spell them before the query is
read. -/
def wanted (ν : Type) [Number ν] (r : Request) : Wanted :=
  match (r.query.bind nonBlank?).map Connector.spellIpex with
  | some query =>
    if r.readQuery then r.withReading query (ParsedQuery.ofText ν query) else r.asGiven (some query)
  | none => r.asGiven none

def isStructural (r : Request) (w : Wanted) : Bool :=
  r.subcategoryId.isSome || w.subcategory.isSome || r.category.isSome || !w.filters.isEmpty ||
    w.package.isSome || !r.packages.isEmpty || r.manufacturer.isSome || w.mounting.isSome

def acceptedPackages (r : Request) (package : Option String) : List String :=
  if r.packages.isEmpty then (package.map Footprint.spellings).getD []
  else r.packages.flatMap Footprint.spellings

def makerName? (r : Request) : Option String :=
  (r.manufacturer.bind nonBlank?).map Maker.spelling

end Request

end PartSearch
