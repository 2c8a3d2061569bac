import PartSearch.Catalog.Row
import PartSearch.Exchange.Filter

/-!
Catalogs, their rows and their parts as JSON.
-/

namespace PartSearch

open JsonReader (field record word)

def FeeTier.toJson (tier : FeeTier) : Json := .str tier.name

/-- A tier from its name or its letter. -/
def FeeTier.read : JsonReader FeeTier :=
  word (FeeTier.all.flatMap fun tier => [(tier.name, tier), (tier.code, tier)])

def TierCounts.toJson (c : TierCounts) : Json :=
  .obj [("basic", .ofNat c.basic), ("preferred", .ofNat c.preferred),
    ("extended", .ofNat c.extended)]

def Subcategory.toJson (s : Subcategory) : Json :=
  .obj [("id", .ofNat s.id), ("name", .str s.name), ("category", .ofOption .str s.category)]

def Subcategory.read : JsonReader Subcategory :=
  record [
    (field "id" (.nat 32) fun (s : Subcategory) x => { s with id := x }).require,
    (field "name" .string fun s x => { s with name := x }).require,
    (field "category" (.option .string) fun s x => { s with category := x }).orNamed
      "category_name"] { id := 0, name := "" }

def Taxonomy.read : JsonReader Taxonomy := fun value =>
  (JsonReader.list Subcategory.read value).map Taxonomy.mk

def NotFound.toJsonFields (e : NotFound) : List (String × Json) :=
  [("kind", .str e.kind.name), ("name", .str e.name), ("suggestions", .strings e.suggestions)]

def Attributes.toJson (pairs : Attributes) : Json :=
  .arr (pairs.map fun (name, value) => .strings [name, value])

def Row.toJson (row : Row Float) : Json :=
  .obj [
    ("id", .str row.id),
    ("model", .str row.model),
    ("manufacturer", .str row.manufacturer),
    ("package", .str row.package),
    ("description", .str row.description),
    ("stock", .ofNat row.stock),
    ("price", .ofOption .real row.price),
    ("subcategory_id", .ofNat row.subcategoryId),
    ("fee_tier", row.tier.toJson),
    ("attributes", .str row.attributes),
    ("columns", .obj (row.columns.map fun (name, x) => (name, .real x)))]

def Row.read : JsonReader (Row Float) :=
  record [
    ((field "id" .string fun (r : Row Float) x => { r with id := x }).orNamed "lcsc").require,
    (field "model" .string fun r x => { r with model := x }).orNamed "mpn",
    field "manufacturer" .string fun r x => { r with manufacturer := x },
    field "package" .string fun r x => { r with package := x },
    field "description" .string fun r x => { r with description := x },
    field "stock" (.nat 64) fun r x => { r with stock := x },
    field "price" (.option .float) fun r x => { r with price := x },
    (field "subcategory_id" (.nat 32) fun r x => { r with subcategoryId := x }).require,
    (field "fee_tier" FeeTier.read fun r x => { r with tier := x }).orNamed "library_type",
    field "attributes" .string fun r x => { r with attributes := x },
    field "columns" (.map .float) fun r x => { r with columns := x }]
    { id := "", subcategoryId := 0 }

def Part.toJson (part : Part Float) : Json :=
  .obj [
    ("id", .str part.id),
    ("model", .str part.model),
    ("manufacturer", .str part.manufacturer),
    ("package", .str part.package),
    ("description", .str part.description),
    ("stock", .ofNat part.stock),
    ("price", .ofOption .real part.price),
    ("fee_tier", part.tier.toJson),
    ("subcategory_id", .ofNat part.subcategoryId),
    ("subcategory", .ofOption .str part.subcategory),
    ("category", .ofOption .str part.category),
    ("mounting_type", .ofOption Mounting.toJson part.mounting),
    ("specs", part.attributes.toJson)]

structure Catalog where
  taxonomy : Taxonomy := {}
  rows : List (Row Float) := []

def Catalog.read : JsonReader Catalog :=
  record [
    field "subcategories" Taxonomy.read fun (c : Catalog) x => { c with taxonomy := x },
    field "components" (.list Row.read) fun c x => { c with rows := x }] {}

end PartSearch
