import PartSearch.Command.Timing
import PartSearch.Query.Parsed
import PartSearch.Replacement.Report
import PartSearch.Search.Outcome

/-!
Reports for people: how a query is read, what a search found, and which parts replace another.
-/

namespace PartSearch.Report

def heading (palette : Palette) (title : String) : List String :=
  ["", palette.paint .gray ("\u2501\u2501\u2501 " ++ title ++ " \u2501\u2501\u2501")]

/-- A labelled value, or a dash. -/
def field (palette : Palette) (label : String) (value : Option String) : String :=
  let shown := match value with
    | some text => palette.paint .green text
    | none => palette.dim "-"
  "  " ++ padAfter 14 (palette.dim (label ++ ":")) ++ " " ++ shown

def unlessEmpty (text : String) : Option String := if text.isEmpty then none else some text

def filterLine (palette : Palette) (f : SpecFilter) : String :=
  "  " ++ palette.paint .gray "\u2022" ++ " " ++ palette.paint .green f.display

def tierText (palette : Palette) (tier : FeeTier) : String :=
  palette.paint (if tier.isNoFee then .green else .yellow) tier.name

def priceText (price : Option Float) : String := (price.map (dollars 4)).getD "-"

def partLines (palette : Palette) (position : Nat) (part : Part Float) : List String :=
  let labelled (label value : String) : String := palette.dim (label ++ ":") ++ " " ++ value
  ["  " ++ Sql.joinTexts " " [
      palette.paint .gray ("[" ++ toString position ++ "]"),
      palette.bold (palette.paint .cyan part.id),
      palette.paint .blue part.model,
      palette.dim "\u2502",
      palette.dim part.manufacturer],
    "      " ++ Sql.joinTexts "  " [
      labelled "package" (palette.paint .yellow part.package),
      labelled "stock" (toString part.stock),
      labelled "price" (priceText part.price),
      labelled "tier" (tierText palette part.tier)]]

def titleLines (palette : Palette) (title : String) : List String :=
  ["", palette.bold (palette.paint .cyan ("\u2699  " ++ title))]

/-! ### Reading a query -/

def readingLines (palette : Palette) (q : ParsedQuery) : List String :=
  [field palette "subcategory" q.subcategory,
    field palette "package" q.package,
    field palette "model" q.modelNumber,
    field palette "mounting" (q.mounting.map Mounting.name),
    field palette "connector" (q.connector.map fun c => c.brand ++ " " ++ c.series),
    field palette "free text" (unlessEmpty q.freeText)] ++
  (if q.filters.isEmpty then ["  " ++ palette.dim "No spec filters"] else []) ++
  q.filters.map (filterLine palette)

def stageLine (palette : Palette) (timing : Timing) (trace : StageTrace) (position : Nat) :
    String :=
  "  " ++ timing.stageColumns palette position trace.stage ++ "  " ++
    palette.paint .yellow (toString trace.filterCount ++ " filters") ++ " " ++
    palette.dim ("\"" ++ trace.remaining ++ "\"")

/-- How a query is read, stage by stage. -/
def ofQuery (palette : Palette) (timing : Timing) (q : ParsedQuery) (stages : List StageTrace) :
    List String :=
  titleLines palette ("Parsing: \"" ++ q.original ++ "\"") ++
    heading palette "Reading" ++ readingLines palette q ++
    heading palette "Stages" ++
    stages.zipIdx.map (fun (trace, position) => stageLine palette timing trace position) ++
    heading palette "Timing" ++
    ["  Total: " ++ palette.paint .green timing.total, ""]

/-! ### Searches -/

def appliedLines (palette : Palette) (a : AppliedFilters) : List String :=
  [field palette "query" a.query,
    field palette "subcategory" a.subcategoryName,
    field palette "category" a.categoryName,
    field palette "packages" (unlessEmpty (Sql.joinTexts ", " a.packages)),
    field palette "manufacturer" a.manufacturer,
    field palette "mounting" (a.mounting.map Mounting.name)] ++
  a.filters.map (filterLine palette)

/-- How many parts matched, by fee tier, and how many are shown. -/
def totalsLine (palette : Palette) (page : SearchPage Float) : String :=
  "  Matched: " ++ palette.paint .green (toString page.total) ++
    "  \u2502  basic " ++ toString page.tiers.basic ++
    "  preferred " ++ toString page.tiers.preferred ++
    "  extended " ++ toString page.tiers.extended ++
    "  \u2502  Shown: " ++ toString page.parts.length

def ofPage (palette : Palette) (page : SearchPage Float) : List String :=
  heading palette "Search" ++ appliedLines palette page.applied ++
    heading palette "Results" ++
    (if page.parts.isEmpty then [palette.dim "  No parts matched"] else []) ++
    page.parts.zipIdx.flatMap (fun (part, position) => partLines palette position part) ++
    heading palette "Totals" ++ [totalsLine palette page] ++
    (if page.rejected = 0 then [] else
      ["  " ++ palette.dim (toString page.rejected ++ " fetched rows failed a numeric filter")]) ++
    (if page.tiers.noFeeAvailable then [] else
      ["  " ++ palette.paint .yellow "No basic/preferred part matches"]) ++
    [""]

def ofNotFound (palette : Palette) (e : NotFound) : List String :=
  ["", palette.paint .red "\u2717 Unknown" ++ " " ++ e.kind.name ++ " '" ++ e.name ++ "'"] ++
    (if e.suggestions.isEmpty then [] else
      "" :: palette.paint .yellow "Did you mean:" :: e.suggestions.map fun s => "  \u2022 " ++ s) ++
    [""]

def ofOutcome (palette : Palette) : SearchOutcome Float → List String
  | .found page => ofPage palette page
  | .notFound e => ofNotFound palette e

/-! ### Replacements -/

def kindText (palette : Palette) : MatchKind → String
  | .verified => palette.paint .green "verified"
  | .similar => palette.paint .yellow "similar"

def confidenceText : Confidence → String
  | .high => "High"
  | .medium => "Medium"
  | .low => "Low"

/-- The attribute that makes parts the same, if the original has it. -/
def primaryLines (palette : Palette) (r : ReplacementReport Float) : List String :=
  match r.primaryAttribute, r.primaryValue with
  | some name, some value => ["  " ++ palette.dim "primary:" ++ " " ++ name ++ " = " ++ value]
  | _, _ => []

def scoreText (s : Score) : String :=
  "(tier " ++ toString s.tier ++ " stock " ++ toString s.availability ++
    " package " ++ toString s.package ++ " maker " ++ toString s.maker ++
    " price " ++ toString s.price ++ ")"

def replacementLines (palette : Palette) (position : Nat) (r : Replacement Float) : List String :=
  partLines palette position r.part ++
    ["      " ++ palette.dim "score:" ++ " " ++
      palette.bold (palette.paint .green (toString r.score.total)) ++ "  " ++
      palette.dim (scoreText r.score)] ++
    match r.verdict with
    | some verdict =>
      if verdict.isFullyVerified then [] else
        ["      " ++ palette.paint .yellow "unverified:" ++ " " ++
          Sql.joinTexts ", " verdict.unverified]
    | none => []

def attributeLine (palette : Palette) (p : AttributePair) : String :=
  "  " ++ padAfter 32 p.name ++ " " ++ padBefore 16 (p.original.getD "-") ++ "  \u2192  " ++
    palette.paint .green (p.replacement.getD "-")

def savingsLine (palette : Palette) (s : Savings Float) : String :=
  "  Savings per unit: " ++ palette.bold (palette.paint .green (dollars 4 s.total)) ++ "  " ++
    palette.dim ("(assembly fee " ++ dollars 2 s.assemblyFee ++ ", price " ++
      dollars 4 s.priceDifference ++ ")")

def comparisonLines (palette : Palette) (c : Comparison Float) : List String :=
  heading palette "Comparison" ++ c.attributes.map (attributeLine palette) ++
    ["", savingsLine palette c.savings]

def ofReplacements (palette : Palette) (r : ReplacementReport Float) : List String :=
  titleLines palette ("Alternatives for " ++ r.original.id) ++ partLines palette 0 r.original ++
    ["", "  " ++ palette.dim "match:" ++ " " ++ kindText palette r.kind ++ "  " ++
      palette.dim "confidence:" ++ " " ++ confidenceText r.confidence] ++
    primaryLines palette r ++ ["  " ++ palette.bold r.summary] ++
    heading palette "Ranked" ++
    r.replacements.zipIdx.flatMap (fun (x, position) => replacementLines palette position x) ++
    ["  " ++ palette.dim (toString r.rejected ++ " rejected, " ++ toString r.unverifiable ++
      " with unverifiable specs")] ++
    ((r.comparison.map (comparisonLines palette)).getD []) ++ [""]

end PartSearch.Report
