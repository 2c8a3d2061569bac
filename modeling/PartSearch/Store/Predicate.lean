import PartSearch.Filter.Operator
import PartSearch.Catalog.Mounting
import PartSearch.Catalog.Tier
import PartSearch.Store.Order

/-!
The conditions that a store puts on rows, and their text in SQL. Values from a query only ever
become parameters.
-/

namespace PartSearch

/-- One condition; all conditions of a query have to hold. -/
inductive Predicate (ν : Type) where
  /-- Terms as prefixes of words of id, model, manufacturer and description. -/
  | fullText (expression : String) (terms : List String) (matchAll : Bool)
  | subcategory (id : Nat)
  | subcategories (ids : List Nat)
  | feeTier (tier : FeeTier)
  | minStock (stock : Nat)
  | packages (names : List String)
  /-- Equality up to case. -/
  | manufacturer (name : String)
  | mounting (mounting : Mounting)
  /-- A numeric column between two bounds, which belong to the range. -/
  | columnBetween (column : String) (low high : ν)
  | columnCompare (column : String) (operator : Operator) (value : ν)
  /-- One of some LIKE patterns over the attribute blob. -/
  | attributeLike (patterns : List String)
  | anyOf (predicates : List (Predicate ν))

inductive SqlParam (ν : Type) where
  | text (value : String)
  | integer (value : Int)
  | real (value : ν)

namespace SqlParam

variable {ν : Type}

/-- A natural number in 64 bits, where the upper half of the range counts as negative. -/
def ofNat (n : Nat) : SqlParam ν := integer (Int.bmod n (Nat.pow 2 64))

end SqlParam

/-- A text in SQL with its parameters in the order of their placeholders. -/
structure Sql (ν : Type) where
  text : String
  params : List (SqlParam ν) := []

namespace Sql

variable {ν : Type}

def joinTexts (separator : String) : List String → String
  | [] => ""
  | [text] => text
  | text :: texts => text ++ separator ++ joinTexts separator texts

def join (separator : String) (parts : List (Sql ν)) : Sql ν where
  text := joinTexts separator (parts.map Sql.text)
  params := parts.flatMap Sql.params

def placeholders (count : Nat) : String := joinTexts ", " (List.replicate count "?")

def isOneOf (column : String) (params : List (SqlParam ν)) : Sql ν where
  text := column ++ " IN (" ++ placeholders params.length ++ ")"
  params := params

end Sql

namespace Predicate

variable {ν : Type}

mutual

/-- Are two conditions the same? -/
def same [BEq ν] : Predicate ν → Predicate ν → Bool
  | fullText expression terms matchAll, fullText expression' terms' matchAll' =>
    expression == expression' && terms == terms' && matchAll == matchAll'
  | subcategory id, subcategory id' => id == id'
  | subcategories ids, subcategories ids' => ids == ids'
  | feeTier tier, feeTier tier' => tier == tier'
  | minStock stock, minStock stock' => stock == stock'
  | packages names, packages names' => names == names'
  | manufacturer name, manufacturer name' => name == name'
  | mounting m, mounting m' => m == m'
  | columnBetween column low high, columnBetween column' low' high' =>
    column == column' && low == low' && high == high'
  | columnCompare column operator value, columnCompare column' operator' value' =>
    column == column' && operator == operator' && value == value'
  | attributeLike patterns, attributeLike patterns' => patterns == patterns'
  | anyOf predicates, anyOf predicates' => sameList predicates predicates'
  | _, _ => false

def sameList [BEq ν] : List (Predicate ν) → List (Predicate ν) → Bool
  | [], [] => true
  | p :: ps, q :: qs => p.same q && sameList ps qs
  | _, _ => false

end

instance instBEq [BEq ν] : BEq (Predicate ν) := ⟨same⟩

mutual

def sql : Predicate ν → Sql ν
  | fullText expression _ _ =>
    ⟨"lcsc IN (SELECT lcsc FROM components_fts WHERE components_fts MATCH ?)", [.text expression]⟩
  | subcategory id => ⟨"subcategory_id = ?", [.ofNat id]⟩
  | subcategories ids => Sql.isOneOf "subcategory_id" (ids.map .ofNat)
  | feeTier tier => ⟨"library_type = '" ++ tier.code ++ "'", []⟩
  | minStock stock => ⟨"stock >= ?", [.ofNat stock]⟩
  | packages names => Sql.isOneOf "package" (names.map .text)
  | manufacturer name => ⟨"LOWER(manufacturer) = LOWER(?)", [.text name]⟩
  | mounting m =>
    ⟨"(description LIKE ? OR description LIKE ?)",
      [.text ("%" ++ m.wording.1 ++ "%"), .text ("%" ++ m.wording.2 ++ "%")]⟩
  | columnBetween column low high => ⟨column ++ " BETWEEN ? AND ?", [.real low, .real high]⟩
  | columnCompare column operator value =>
    ⟨column ++ " " ++ operator.symbol ++ " ?", [.real value]⟩
  | attributeLike patterns =>
    ⟨"(" ++ Sql.joinTexts " OR " (patterns.map fun _ => "attributes LIKE ? ESCAPE '\\'") ++ ")",
      patterns.map .text⟩
  | anyOf predicates =>
    let joined := Sql.join " OR " (sqlList predicates)
    ⟨"(" ++ joined.text ++ ")", joined.params⟩

def sqlList : List (Predicate ν) → List (Sql ν)
  | [] => []
  | p :: ps => p.sql :: sqlList ps

end

/-- All conditions in SQL, `1` if there are none. -/
def whereSql (predicates : List (Predicate ν)) : Sql ν :=
  if predicates.isEmpty then ⟨"1", []⟩ else Sql.join " AND " (predicates.map sql)

def selectSql (predicates : List (Predicate ν)) (order : SortOrder) (limit offset : Nat) : Sql ν :=
  let body := whereSql predicates
  ⟨"SELECT * FROM components WHERE " ++ body.text ++ " " ++ order.sql ++ " LIMIT ? OFFSET ?",
    body.params ++ [.ofNat limit, .ofNat offset]⟩

def tierCountSql (predicates : List (Predicate ν)) : Sql ν :=
  let body := whereSql predicates
  ⟨"SELECT library_type, COUNT(*) FROM components WHERE " ++ body.text ++
    " GROUP BY library_type", body.params⟩

end Predicate

end PartSearch
