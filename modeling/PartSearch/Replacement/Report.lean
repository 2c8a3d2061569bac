import PartSearch.Replacement.Score
import PartSearch.Replacement.Verdict

/-!
Replacements for a part out of a pool: the ones that its subcategory's rule lets through, ranked,
with a comparison of the best one.
-/

namespace PartSearch

structure ReplacementOptions (ν : Type) where
  limit : Nat
  maxCount : Nat
  samePackage : Bool
  tier : Option TierFilter
  tolerance : Tolerance ν

namespace ReplacementOptions

variable {ν : Type}

def standard [Number ν] : ReplacementOptions ν where
  limit := 10
  maxCount := 50
  samePackage := false
  tier := none
  tolerance := Tolerance.standard

def count (options : ReplacementOptions ν) : Nat := min options.limit options.maxCount

end ReplacementOptions

/-- Did replacements pass a rule, or do they only share a subcategory? -/
inductive MatchKind where
  | verified
  | similar
deriving DecidableEq, Repr

def MatchKind.name : MatchKind → String
  | verified => "verified"
  | similar => "similar"

/-- How far the comparison of attributes can be trusted. -/
inductive Confidence where
  | high
  | medium
  | low
deriving DecidableEq, Repr

def Confidence.name : Confidence → String
  | high => "high"
  | medium => "medium"
  | low => "low"

structure Replacement (ν : Type) where
  part : Part ν
  score : Score
  /-- Present if there was a rule to check. -/
  verdict : Option Verdict

/-- What the best replacement saves for each part that is placed. -/
structure Savings (ν : Type) where
  assemblyFee : ν
  priceDifference : ν
  total : ν

structure AttributePair where
  name : String
  original : Option String
  replacement : Option String
deriving DecidableEq, Repr

structure Comparison (ν : Type) where
  original : Part ν
  replacement : Part ν
  attributes : List AttributePair
  savings : Savings ν

structure ReplacementReport (ν : Type) where
  original : Part ν
  kind : MatchKind
  confidence : Confidence
  summary : String
  primaryAttribute : Option String
  primaryValue : Option String
  /-- The best one first. -/
  replacements : List (Replacement ν)
  rejected : Nat
  /-- Replacements with attributes that could not be compared. -/
  unverifiable : Nat
  comparison : Option (Comparison ν)

namespace Savings

variable {ν : Type} [Number ν]

/-- The fee for each kind of extended part that is assembled. -/
def extendedFee : ν := Number.whole 3

def rounded (x : ν) : ν := Number.round (x * Number.whole 10000) / Number.whole 10000

def between (original replacement : Part ν) : Savings ν :=
  let fee : ν := if original.tier = .extended && replacement.tier.isNoFee then extendedFee
    else Number.whole 0
  let difference := rounded
    (original.price.getD (Number.whole 0) - replacement.price.getD (Number.whole 0))
  { assemblyFee := fee, priceDifference := difference, total := rounded (fee + difference) }

end Savings

namespace Comparison

variable {ν : Type} [Number ν]

/-- Every text of a list once, where it stands first. -/
def distinct (texts : List String) : List String :=
  texts.foldl (fun seen text => if seen.contains text then seen else seen ++ [text]) []

def between (original replacement : Part ν) (attributes : List String) : Comparison ν where
  original := original
  replacement := replacement
  attributes := (distinct attributes).map fun name =>
    { name, original := original.value? name, replacement := replacement.value? name }
  savings := Savings.between original replacement

end Comparison

namespace Part

variable {ν : Type}

open Text.Pattern in
/-- The height of a tantalum capacitor, at the end of its package. -/
def heightSuffix : Text.Pattern := charOf "-" ++ decimal ++ exact "(mm)" ++ finish

/-- The package in capitals, without a height. -/
def packageKey (part : Part ν) : String :=
  let cs := Text.trim part.package.toList
  let base := ((heightSuffix.find? cs).map fun m => m.before.reverse).getD cs
  String.ofList (Text.upper base)

end Part

namespace Replacement

variable {ν : Type} [Number ν]

def isNoFee (r : Replacement ν) : Bool := r.part.tier.isNoFee

def isUnverifiable (r : Replacement ν) : Bool :=
  (r.verdict.map fun v => !v.isFullyVerified).getD false

/-- May a part of the pool stand in for `original` before any rule is looked at? -/
def isEligible (options : ReplacementOptions ν) (original candidate : Part ν) : Bool :=
  candidate.id != original.id && candidate.subcategoryId == original.subcategoryId &&
    (!options.samePackage || candidate.packageKey == original.packageKey) &&
    ((options.tier.map fun filter => filter.accepts candidate.tier).getD true)

/-- A part with its verdict, if it passes the rule or there is none. -/
def judge? (options : ReplacementOptions ν) (rule : Option ReplacementRule)
    (original candidate : Part ν) : Option (Part ν × Option Verdict) :=
  match rule with
  | none => some (candidate, none)
  | some rule =>
    let verdict := Verdict.of options.tolerance rule original candidate
    if verdict.isCompatible then some (candidate, some verdict) else none

/-- A part with its score, ready to be ranked. -/
def ranked (original : Part ν) (cheapest : Option ν) (survivor : Part ν × Option Verdict) :
    Ranked (Replacement ν) :=
  let (part, verdict) := survivor
  let score := Score.of part original cheapest
  { score := score.total, id := part.id, item := { part, score, verdict } }

def bestOf (options : ReplacementOptions ν) (original : Part ν)
    (survivors : List (Part ν × Option Verdict)) : List (Replacement ν) :=
  let cheapest := Score.cheapest? (survivors.map (·.1))
  (Ranked.best options.count (survivors.map (ranked original cheapest))).map (·.item)

end Replacement

namespace ReplacementReport

variable {ν : Type} [Number ν]

def noFeeCount (report : ReplacementReport ν) : Nat := report.replacements.countP (·.isNoFee)

def summaryOf (original : Part ν) (kind : MatchKind) (replacements : List (Replacement ν))
    (primaryValue : Option String) : String :=
  if kind = .similar then
    "No compatibility rules for this category. Showing similar parts for manual comparison."
  else if original.tier.isNoFee then
    "Original part is already basic/preferred - no assembly fee savings possible"
  else if replacements.isEmpty then
    match primaryValue with
    | some value => "No compatible alternatives found matching " ++ value
    | none => "No compatible alternatives found"
  else
    let free := replacements.countP (·.isNoFee)
    if 0 < free then
      "Found " ++ toString free ++ " basic/preferred alternative(s) that avoid the assembly fee"
    else
      "Found " ++ toString replacements.length ++ " alternative(s), but all are extended"

def confidenceOf (kind : MatchKind) (unverifiable : Nat) : Confidence :=
  match kind with
  | .similar => .low
  | .verified => if 0 < unverifiable then .medium else .high

def of (book : RuleBook) (options : ReplacementOptions ν) (original : Part ν)
    (pool : List (Part ν)) : ReplacementReport ν :=
  let rule := original.subcategory.bind book.get?
  let kind : MatchKind := if rule.isSome then .verified else .similar
  let eligible := pool.filter (Replacement.isEligible options original)
  let survivors := eligible.filterMap (Replacement.judge? options rule original)
  let replacements := Replacement.bestOf options original survivors
  let unverifiable := replacements.countP (·.isUnverifiable)
  let primaryValue := rule.bind fun r => original.value? r.primary
  { original
    kind
    confidence := confidenceOf kind unverifiable
    summary := summaryOf original kind replacements primaryValue
    primaryAttribute := rule.map (·.primary)
    primaryValue
    replacements
    rejected := eligible.length - survivors.length
    unverifiable
    comparison := replacements.head?.map fun best =>
      Comparison.between original best.part ((rule.map (·.attributes)).getD []) }

end ReplacementReport

end PartSearch
