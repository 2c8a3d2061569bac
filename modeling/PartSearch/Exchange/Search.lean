import PartSearch.Exchange.Catalog
import PartSearch.Search.Outcome

/-!
Conditions and what comes of a search as JSON.
-/

namespace PartSearch

/-- A condition with its kind beside its fields. -/
def Predicate.toJson : Predicate Float → Json
  | fullText expression terms matchAll =>
    kindOf "full_text" [("expression", .str expression), ("terms", .strings terms),
      ("match_all", .bool matchAll)]
  | subcategory id => kindOf "subcategory" [("id", .ofNat id)]
  | subcategories ids => kindOf "subcategories" [("ids", .arr (ids.map .ofNat))]
  | feeTier tier => kindOf "fee_tier" [("tier", tier.toJson)]
  | minStock stock => kindOf "min_stock" [("stock", .ofNat stock)]
  | packages names => kindOf "packages" [("packages", .strings names)]
  | manufacturer name => kindOf "manufacturer" [("name", .str name)]
  | mounting m => kindOf "mounting" [("mounting", m.toJson)]
  | columnBetween column low high =>
    kindOf "column_between" [("column", .str column), ("low", .real low), ("high", .real high)]
  | columnCompare column operator value =>
    kindOf "column_compare" [("column", .str column), ("operator", operator.toJson),
      ("value", .real value)]
  | attributeLike patterns => kindOf "attribute_like" [("patterns", .strings patterns)]
  | anyOf predicates => kindOf "any_of" [("predicates", .arr (listToJson predicates))]
where
  kindOf (kind : String) (fields : List (String × Json)) : Json :=
    .obj (("kind", .str kind) :: fields)
  listToJson : List (Predicate Float) → List Json
    | [] => []
    | p :: ps => p.toJson :: listToJson ps

/-- A check; the literal values are left out if there are none. -/
def RowCheck.toJson (check : RowCheck Float) : Json :=
  .obj <| [
    ("name", .str check.name),
    ("attribute_names", .strings check.attributeNames),
    ("operator", check.operator.toJson),
    ("targets", .arr (check.targets.map .real))] ++
    if check.literals.isEmpty then [] else [("literals", .strings check.literals)]

def AppliedFilters.toJson (a : AppliedFilters) : Json :=
  .obj [
    ("query", .ofOption .str a.query),
    ("subcategory_id", .ofOption .ofNat a.subcategoryId),
    ("subcategory", .ofOption .str a.subcategory),
    ("subcategory_resolved", .ofOption .str a.subcategoryName),
    ("category", .ofOption .str a.category),
    ("category_resolved", .ofOption .str a.categoryName),
    ("spec_filters", .arr (a.filters.map SpecFilter.toJson)),
    ("library", .ofOption TierFilter.toJson a.tier),
    ("prefer_no_fee", .bool a.preferNoFee),
    ("min_stock", .ofNat a.minStock),
    ("packages", .strings a.packages),
    ("manufacturer", .ofOption .str a.manufacturer),
    ("mounting", .ofOption Mounting.toJson a.mounting),
    ("match_all_terms", .bool a.matchAll)]

def SearchOutcome.toJson : SearchOutcome Float → Json
  | found page =>
    .obj [
      ("outcome", .str "found"),
      ("results", .arr (page.parts.map Part.toJson)),
      ("total", .ofNat page.total),
      ("page_info", .obj [("limit", .ofNat page.pageSize), ("offset", .ofNat page.offset),
        ("returned", .ofNat page.parts.length)]),
      ("filters_applied", page.applied.toJson),
      ("fee_tiers", page.tiers.toJson),
      ("no_fee_available", .bool page.tiers.noFeeAvailable),
      ("post_filter_rejected", .ofNat page.rejected),
      ("parsed", .ofOption ParsedQuery.toJson page.parsed)]
  | notFound e => .obj (("outcome", .str "not_found") :: e.toJsonFields)

end PartSearch
