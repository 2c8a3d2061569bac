import PartSearch.Attribute.Name
import PartSearch.Store.FullText
import PartSearch.Store.Like
import PartSearch.Store.Predicate

/-!
A store of rows in memory. It answers a query as a database would: the rows that satisfy every
condition, sorted, with the requested page cut out of them.
-/

namespace PartSearch

structure StoreQuery (ν : Type) where
  clauses : List (Predicate ν)
  /-- Conditions on the rows that are counted by fee tier. -/
  countClauses : List (Predicate ν)
  order : SortOrder
  limit : Nat
  offset : Nat

namespace StoreQuery

variable {ν : Type}

def selectSql (q : StoreQuery ν) : Sql ν := Predicate.selectSql q.clauses q.order q.limit q.offset

def tierCountSql (q : StoreQuery ν) : Sql ν := Predicate.tierCountSql q.countClauses

end StoreQuery

/-- One page of rows, and the counts of the whole match. -/
structure StorePage (ν : Type) where
  rows : List (Row ν)
  total : Nat
  tiers : TierCounts

inductive StoreError where
  | backend (message : String)
  | decode
deriving DecidableEq, Repr

/-- A row with everything that conditions look at. -/
structure IndexedRow (ν : Type) where
  row : Row ν
  /-- The attribute blob in the form that patterns expect. -/
  blob : String
  columns : List (String × ν)
  words : List (List Char)

namespace IndexedRow

variable {ν : Type} [Number ν]

/-- The numeric columns that the attributes give. The first source of a column that has a number
counts. -/
def derivedColumns (attributes : Attributes) : List (String × ν) :=
  Attribute.columnSources.filterMap fun (name, column) =>
    ((attributes.value? name).bind column.format.read?).map fun x => (column.name, x)

/-- The text in which full-text terms are looked for. -/
def searchableText (row : Row ν) : List Char :=
  (row.id ++ " " ++ row.model ++ " " ++ row.manufacturer ++ " " ++ row.description).toList

/-- A row prepared for queries. A blob that cannot be decoded stays as it is, and gives no
attributes. Columns that the row carries itself come first. -/
def ofRow (row : Row ν) : IndexedRow ν :=
  let decoded := Attributes.decode? row.attributes
  { row
    blob := (decoded.map Attributes.render).getD row.attributes
    columns := row.columns ++ derivedColumns (decoded.getD [])
    words := FullText.wordsOf (searchableText row) }

def column? (r : IndexedRow ν) (name : String) : Option ν := r.columns.lookup name

def hasTerm (r : IndexedRow ν) (term : String) : Bool :=
  FullText.phraseOccurs (FullText.wordsOf term.toList) r.words

mutual

/-- Does the row satisfy a condition? A column that the row lacks satisfies none. -/
def satisfies (r : IndexedRow ν) : Predicate ν → Bool
  | .fullText _ terms matchAll => if matchAll then terms.all r.hasTerm else terms.any r.hasTerm
  | .subcategory id => r.row.subcategoryId == id
  | .subcategories ids => ids.contains r.row.subcategoryId
  | .feeTier tier => r.row.tier = tier
  | .minStock stock => stock ≤ r.row.stock
  | .packages names => names.contains r.row.package
  | .manufacturer name => lowercase r.row.manufacturer == lowercase name
  | .mounting m =>
    Like.isMatch ("%" ++ m.wording.1 ++ "%") r.row.description ||
      Like.isMatch ("%" ++ m.wording.2 ++ "%") r.row.description
  | .columnBetween column low high =>
    ((r.column? column).map fun x => decide (low ≤ x) && decide (x ≤ high)).getD false
  | .columnCompare column operator value =>
    ((r.column? column).map fun x => operator.holds x value).getD false
  | .attributeLike patterns => patterns.any fun p => Like.isMatch p r.blob
  | .anyOf predicates => satisfiesAny r predicates

def satisfiesAny (r : IndexedRow ν) : List (Predicate ν) → Bool
  | [] => false
  | p :: ps => r.satisfies p || satisfiesAny r ps

end

def satisfiesAll (r : IndexedRow ν) (predicates : List (Predicate ν)) : Bool :=
  predicates.all r.satisfies

end IndexedRow

structure MemoryStore (ν : Type) where
  rows : List (IndexedRow ν)

namespace MemoryStore

variable {ν : Type} [Number ν]

def ofRows (rows : List (Row ν)) : MemoryStore ν := ⟨rows.map IndexedRow.ofRow⟩

def size (store : MemoryStore ν) : Nat := store.rows.length

def get? (store : MemoryStore ν) (id : String) : Option (Row ν) :=
  (store.rows.map IndexedRow.row).find? (·.id == id)

def inSubcategory (store : MemoryStore ν) (id : Nat) : List (Row ν) :=
  (store.rows.map IndexedRow.row).filter (·.subcategoryId == id)

def matching (store : MemoryStore ν) (predicates : List (Predicate ν)) : List (Row ν) :=
  (store.rows.filter (·.satisfiesAll predicates)).map IndexedRow.row

def execute (store : MemoryStore ν) (q : StoreQuery ν) : StorePage ν :=
  let found := store.matching q.clauses
  { rows := ((found.mergeSort q.order.le).drop q.offset).take q.limit
    total := found.length
    tiers := TierCounts.ofTiers ((store.matching q.countClauses).map Row.tier) }

end MemoryStore

end PartSearch
