import PartSearch.Catalog.Blob
import PartSearch.Catalog.Mounting
import PartSearch.Catalog.Taxonomy
import PartSearch.Catalog.Tier
import PartSearch.Number

/-!
Catalog rows as they are stored, and parts as they are shown and compared.
-/

namespace PartSearch

/-- One row of a catalog. Its attributes are a blob, and it may carry numeric columns. -/
structure Row (ν : Type) where
  id : String
  model : String := ""
  manufacturer : String := ""
  package : String := ""
  description : String := ""
  stock : Nat := 0
  price : Option ν := none
  subcategoryId : Nat
  tier : FeeTier := .extended
  attributes : String := ""
  columns : List (String × ν) := []

/-- A row with its attributes decoded and its subcategory named. -/
structure Part (ν : Type) where
  id : String
  model : String
  manufacturer : String
  package : String
  description : String
  stock : Nat
  price : Option ν
  tier : FeeTier
  subcategoryId : Nat
  subcategory : Option String
  category : Option String
  mounting : Option Mounting
  attributes : Attributes

namespace Part

variable {ν : Type}

/-- The part of a row. A part whose blob cannot be decoded has no attributes. -/
def ofRow (taxonomy : Taxonomy) (row : Row ν) : Part ν :=
  let entry := taxonomy.subcategory? row.subcategoryId
  let subcategory := entry.map (·.name)
  let category := entry.bind (·.category)
  { id := row.id
    model := row.model
    manufacturer := row.manufacturer
    package := row.package
    description := row.description
    stock := row.stock
    price := row.price
    tier := row.tier
    subcategoryId := row.subcategoryId
    subcategory
    category
    mounting := Mounting.detect? row.package category subcategory
    attributes := (Attributes.decode? row.attributes).getD [] }

def value? (part : Part ν) (name : String) : Option String := part.attributes.value? name

end Part

end PartSearch
