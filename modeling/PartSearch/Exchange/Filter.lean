import PartSearch.Exchange.Record
import PartSearch.Query.Parsed
import PartSearch.Search.Request

/-!
Filters, parsed queries and search requests as JSON.
-/

namespace PartSearch

open JsonReader (field record word)

/-! ### Filters -/

def Operator.toJson (operator : Operator) : Json := .str operator.symbol

def Operator.read : JsonReader Operator := fun value => do
  let text ← JsonReader.string value
  match Operator.ofSymbol? text with
  | some operator => return operator
  | none => throw (.filter (.invalidOperator (trimmed text)))

def SpecFilter.toJson (f : SpecFilter) : Json :=
  .obj [("name", .str f.name), ("op", f.operator.toJson), ("value", .str f.value)]

def SpecFilter.read : JsonReader SpecFilter :=
  record [
    (field "name" .string fun (f : SpecFilter) x => { f with name := x }).require,
    (field "op" Operator.read fun f x => { f with operator := x }).require,
    (field "value" .string fun f x => { f with value := x }).require]
    { name := "", operator := .eq, value := "" }

/-! ### Names of things -/

def Mounting.toJson (m : Mounting) : Json := .str m.name

def Mounting.read : JsonReader Mounting :=
  word ([Mounting.surface, .throughHole].map fun m => (m.name, m))

def TierFilter.toJson (filter : TierFilter) : Json := .str filter.name

def TierFilter.read : JsonReader TierFilter := word (TierFilter.all.map fun f => (f.name, f))

def SortKey.read : JsonReader SortKey := word [("stock", .stock), ("price", .price)]

/-! ### Parsed queries -/

def Connector.pitchJson (c : Connector) : Json := .ofOption (fun d => .real d.toFloat) c.pitch

def Connector.toJson (c : Connector) : Json :=
  .obj [("brand", .str c.brand), ("series", .str c.series), ("pitch_mm", c.pitchJson),
    ("subcategory", .str c.subcategory)]

def FoundValue.toJson (v : FoundValue) : Json :=
  .obj [("normalized", .str v.normalized), ("raw", .str v.raw), ("type", .str v.quantity.name)]

/-- The findings that there are, in the order of their names. -/
def Findings.toJson (f : Findings) : Json :=
  let named (name : String) (text : Option String) : List (String × Json) :=
    (text.map fun t => (name, Json.str t)).toList
  .obj <|
    named "component_type" f.keyword ++
    (f.connector.map fun c => ("connector", Json.obj
      [("brand", .str c.brand), ("pitch_mm", c.pitchJson), ("series", .str c.series)])).toList ++
    named "model_number" f.modelNumber ++
    named "mounting_type" (f.mounting.map Mounting.name) ++
    named "package" f.package ++
    named "package_from_dimensions" f.packageFromDimensions ++
    (if f.notes.isEmpty then [] else [("semantic", .strings f.notes)]) ++
    named "subcategory" f.subcategory ++
    named "subcategory_inferred" f.inferred ++
    if f.values.isEmpty then [] else [("values", .arr (f.values.map FoundValue.toJson))]

def ParsedQuery.toJson (q : ParsedQuery) : Json :=
  .obj [
    ("original", .str q.original),
    ("subcategory", .ofOption .str q.subcategory),
    ("package", .ofOption .str q.package),
    ("model_number", .ofOption .str q.modelNumber),
    ("mounting_type", .ofOption Mounting.toJson q.mounting),
    ("connector", .ofOption Connector.toJson q.connector),
    ("spec_filters", .arr (q.filters.map SpecFilter.toJson)),
    ("free_text", .str q.freeText),
    ("diagnostics", q.findings.toJson)]

/-! ### Requests -/

def Request.read : JsonReader Request :=
  record [
    field "query" (.option .string) fun (r : Request) x => { r with query := x },
    field "subcategory_id" (.option (.nat 32)) fun r x => { r with subcategoryId := x },
    field "subcategory" (.option .string) fun r x => { r with subcategory := x },
    field "category" (.option .string) fun r x => { r with category := x },
    field "spec_filters" (.list SpecFilter.read) fun r x => { r with filters := x },
    field "library" (.option TierFilter.read) fun r x => { r with tier := x },
    field "prefer_no_fee" .bool fun r x => { r with preferNoFee := x },
    field "min_stock" (.option (.nat 64)) fun r x => { r with minStock := x },
    field "package" (.option .string) fun r x => { r with package := x },
    field "packages" (.list .string) fun r x => { r with packages := x },
    field "manufacturer" (.option .string) fun r x => { r with manufacturer := x },
    field "mounting" (.option Mounting.read) fun r x => { r with mounting := x },
    field "match_all_terms" .bool fun r x => { r with matchAll := x },
    field "sort" SortKey.read fun r x => { r with sort := x },
    field "limit" (.option (.nat 64)) fun r x => { r with limit := x },
    field "offset" (.nat 64) fun r x => { r with offset := x },
    field "smart_parse" .bool fun r x => { r with readQuery := x }] {}

end PartSearch
