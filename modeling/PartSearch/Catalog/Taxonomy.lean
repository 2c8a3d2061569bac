import PartSearch.Catalog.Keyword
import PartSearch.Text.Blank

/-!
The subcategories and categories of a catalog, and how a name that a person gives is resolved to
one of them: by a word for the kind of part, by the exact name, or by the shortest name that
contains it.
-/

namespace PartSearch

structure Subcategory where
  id : Nat
  name : String
  category : Option String := none
deriving DecidableEq, Repr

inductive NameKind where
  | subcategory
  | category
deriving DecidableEq, Repr

def NameKind.name : NameKind → String
  | subcategory => "subcategory"
  | category => "category"

/-- A name that matched nothing, with names that may have been meant. -/
structure NotFound where
  kind : NameKind
  name : String
  suggestions : List String
deriving DecidableEq, Repr

/-- The subcategories of a catalog in their order. Of two with one id, or with one name up to case,
the later one counts. -/
structure Taxonomy where
  entries : List Subcategory := []
deriving DecidableEq, Repr

/-- Comes `a` before `b` by length in bytes, and by code points at equal length? -/
def shorterText (a b : String) : Bool :=
  a.utf8ByteSize < b.utf8ByteSize || (a.utf8ByteSize = b.utf8ByteSize && a < b)

/-- The shortest of the names that contain a query, which is not empty. -/
def shortestContaining? (query : String) (names : List String) : Option String :=
  if query.isEmpty then none else
    (names.filter fun name => containsText name query).foldl (fun best name =>
      match best with
      | none => some name
      | some b => some (if shorterText name b then name else b)) none

def maxSuggestions : Nat := 5

/-- How long a word is before a name that contains it is suggested. -/
def minSuggestionWord : Nat := 3

/-- The first names that contain one of the longer words of a query. -/
def suggestionsFor (query : String) (names : List String) : List String :=
  let words := (Text.words query.toList).filter fun w => minSuggestionWord ≤ w.length
  (names.filter fun name => words.any fun w => Text.contains w (lowercase name).toList).take
    maxSuggestions

namespace Taxonomy

def subcategory? (t : Taxonomy) (id : Nat) : Option Subcategory :=
  t.entries.reverse.find? (·.id == id)

def idOfName? (t : Taxonomy) (name : String) : Option Nat :=
  (t.entries.reverse.find? fun e => lowercase e.name == name).map (·.id)

def resolveId? (t : Taxonomy) (name : String) : Option Nat :=
  (subcategoryOfKeyword? name).bind t.idOfName? <|> t.idOfName? name <|>
    (shortestContaining? name (t.entries.map fun e => lowercase e.name)).bind t.idOfName?

def resolveSubcategory (t : Taxonomy) (name : String) : Except NotFound Subcategory :=
  let query := lowercase (trimmed name)
  match (t.resolveId? query).bind t.subcategory? with
  | some entry => .ok entry
  | none =>
    let suggestions := suggestionsFor query (t.entries.map (·.name))
    .error { kind := .subcategory, name, suggestions }

/-- The categories, in the order of their lowercase names: that name and the name as first
written. -/
def categories (t : Taxonomy) : List (String × String) :=
  let named := t.entries.filterMap fun e => e.category.map fun c => (lowercase c, c)
  let distinct := named.foldl (fun seen entry =>
    if seen.any (·.1 == entry.1) then seen else seen ++ [entry]) []
  distinct.mergeSort fun a b => a.1 ≤ b.1

def idsInCategory (t : Taxonomy) (name : String) : List Nat :=
  t.entries.filterMap fun e =>
    if e.category.map lowercase = some name then some e.id else none

/-- The category that a name means, as it is written, and its subcategories. -/
def resolveCategory (t : Taxonomy) (name : String) : Except NotFound (String × List Nat) :=
  let query := lowercase (trimmed name)
  let exact := if t.categories.any (·.1 == query) then some query else none
  let key := exact <|> shortestContaining? query (t.categories.map (·.1))
  let entry (k : String) : Option (String × List Nat) :=
    (t.categories.lookup k).map fun display => (display, t.idsInCategory k)
  match key.bind entry with
  | some found => .ok found
  | none =>
    let suggestions := suggestionsFor query (t.categories.map (·.2))
    .error { kind := .category, name, suggestions }

end Taxonomy

end PartSearch
