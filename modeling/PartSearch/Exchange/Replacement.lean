import PartSearch.Exchange.Catalog
import PartSearch.Replacement.Report

/-!
Rules for replacements, and reports about them, as JSON.
-/

namespace PartSearch

open JsonReader (field record word)

def Direction.name : Direction → String
  | higher => "higher"
  | lower => "lower"

def Direction.read : JsonReader Direction :=
  word ([Direction.higher, .lower].map fun d => (d.name, d))

def ReplacementRule.read : JsonReader ReplacementRule :=
  record [
    (field "primary" .string fun (r : ReplacementRule) x => { r with primary := x }).require,
    field "must_match" (.list .string) fun r x => { r with equal := x },
    field "same_or_better" (.list (.pair .string Direction.read)) fun r x =>
      { r with ratings := x }] { primary := "" }

def ReplacementRule.toJson (rule : ReplacementRule) : Json :=
  .obj [
    ("primary", .str rule.primary),
    ("must_match", .strings rule.equal),
    ("same_or_better", .arr (rule.ratings.map fun (name, d) => .strings [name, d.name]))]

def Verdict.toJson (v : Verdict) : Json :=
  .obj [
    ("is_compatible", .bool v.isCompatible),
    ("specs_verified", .strings v.verified),
    ("specs_unparseable", .strings v.unverified)]

def Score.toJson (s : Score) : Json :=
  .obj [
    ("fee_tier", .int s.tier),
    ("availability", .int s.availability),
    ("package", .int s.package),
    ("same_manufacturer", .int s.maker),
    ("price", .int s.price)]

def Replacement.toJson (r : Replacement Float) : Json :=
  .obj [
    ("component", r.part.toJson),
    ("score", .int r.score.total),
    ("breakdown", r.score.toJson),
    ("verdict", .ofOption Verdict.toJson r.verdict)]

def AttributePair.toJson (p : AttributePair) : Json :=
  .obj [("name", .str p.name), ("original", .ofOption .str p.original),
    ("recommended", .ofOption .str p.replacement)]

def Savings.toJson (s : Savings Float) : Json :=
  .obj [("assembly_fee", .real s.assemblyFee), ("unit_price_diff", .real s.priceDifference),
    ("total_per_unit", .real s.total)]

def Comparison.toJson (c : Comparison Float) : Json :=
  .obj [
    ("original_id", .str c.original.id),
    ("recommended_id", .str c.replacement.id),
    ("original_fee_tier", c.original.tier.toJson),
    ("recommended_fee_tier", c.replacement.tier.toJson),
    ("original_price", .ofOption .real c.original.price),
    ("recommended_price", .ofOption .real c.replacement.price),
    ("original_stock", .ofNat c.original.stock),
    ("recommended_stock", .ofNat c.replacement.stock),
    ("specs", .arr (c.attributes.map AttributePair.toJson)),
    ("savings", c.savings.toJson)]

def ReplacementReport.toJson (r : ReplacementReport Float) : Json :=
  .obj [
    ("original", r.original.toJson),
    ("match_kind", .str r.kind.name),
    ("confidence", .str r.confidence.name),
    ("summary", .str r.summary),
    ("primary_attribute", .ofOption .str r.primaryAttribute),
    ("primary_value", .ofOption .str r.primaryValue),
    ("alternatives", .arr (r.replacements.map Replacement.toJson)),
    ("rejected", .ofNat r.rejected),
    ("unverifiable", .ofNat r.unverifiable),
    ("comparison", .ofOption Comparison.toJson r.comparison)]

end PartSearch
