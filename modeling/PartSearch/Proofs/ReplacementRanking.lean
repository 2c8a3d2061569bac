import Mathlib.Data.List.Nodup
import PartSearch.Proofs.NumberOrder
import PartSearch.Proofs.RankedSelection
import PartSearch.Replacement.Report

/-!
# Which replacements a report returns

A report looks at the parts of the pool that may stand in for the original, drops those that fail
the rule, and returns the best of the survivors. Prices count in relation to the lowest positive
price of all survivors, also of those that are not returned. `of_ranksBest` says which parts are
returned, in which order and with which scores. Since the parts have different ids, none of this
depends on the order of the pool, `of_eq_of_perm`.
-/

namespace PartSearch

open Number (rank whole)

variable {ν : Type} [Number ν]

/-! ### The lowest price -/

namespace Score

/-- One of the prices that no other price ranks before, if there are prices at all. -/
def IsLowest (prices : List ν) : Option ν → Prop
  | none => prices = []
  | some lowest => lowest ∈ prices ∧ ∀ price ∈ prices, (rank lowest price).isLE = true

/-- The lowest positive price of some parts, if one of them has a positive price. -/
def IsCheapest (parts : List (Part ν)) : Option ν → Prop
  | none => ∀ part ∈ parts, ∀ price ∈ part.price, ¬ whole 0 < price
  | some lowest => whole 0 < lowest ∧ (∃ part ∈ parts, part.price = some lowest) ∧
      ∀ part ∈ parts, ∀ price ∈ part.price, whole 0 < price → ¬ price < lowest

theorem IsCheapest.congr {parts others : List (Part ν)} (h : ∀ part, part ∈ parts ↔ part ∈ others)
    {best : Option ν} (hbest : IsCheapest parts best) : IsCheapest others best := by
  cases best <;> simpa only [IsCheapest, h] using hbest

theorem lower_mem (a b : ν) : lower a b = a ∨ lower a b = b := by
  unfold lower
  split
  · exact Or.inr rfl
  · exact Or.inl rfl

theorem mem_positivePrices_iff {parts : List (Part ν)} {price : ν} :
    price ∈ (parts.filterMap Part.price).filter isPositive ↔
      (∃ part ∈ parts, part.price = some price) ∧ whole 0 < price := by
  rw [List.mem_filter, List.mem_filterMap, isPositive, decide_eq_true_iff]

section Ordered

open OrderedNumber (rank_self isLE_rank_iff isLE_rank_iff_not_lt eq_of_isLE_rank)

variable [OrderedNumber ν]

theorem isLE_rank_lower (a b : ν) :
    (rank (lower a b) a).isLE = true ∧ (rank (lower a b) b).isLE = true := by
  unfold lower
  by_cases h : rank b a = .lt
  · rw [if_pos h, h, rank_self]
    exact ⟨rfl, rfl⟩
  · rw [if_neg h, rank_self, isLE_rank_iff]
    exact ⟨rfl, h⟩

theorem IsLowest.step {seen : List ν} {best : Option ν} (h : IsLowest seen best) (price : ν) :
    IsLowest (seen ++ [price]) (some ((best.map fun b => lower b price).getD price)) := by
  cases best with
  | none =>
      obtain rfl : seen = [] := h
      refine ⟨List.mem_singleton_self _, fun other hother => ?_⟩
      rw [List.mem_singleton.mp hother, Option.map_none, Option.getD_none, rank_self]
      rfl
  | some b =>
      obtain ⟨hmem, hleast⟩ := h
      obtain ⟨hseen, hprice⟩ := isLE_rank_lower b price
      rw [Option.map_some, Option.getD_some]
      constructor
      · rcases lower_mem b price with heq | heq <;> rw [heq] <;> simp [hmem]
      · intro other hother
        rcases List.mem_append.mp hother with hold | hnew
        · exact Std.TransCmp.isLE_trans hseen (hleast other hold)
        · rwa [List.mem_singleton.mp hnew]

theorem isLowest_foldl (prices : List ν) :
    IsLowest prices (prices.foldl (fun best p =>
      some ((best.map fun b => lower b p).getD p)) none) := by
  have hsteps : ∀ (seen : List ν) (best : Option ν), IsLowest seen best →
      IsLowest (seen ++ prices) (prices.foldl (fun best p =>
        some ((best.map fun b => lower b p).getD p)) best) := by
    induction prices with
    | nil =>
        intro seen best h
        rwa [List.append_nil]
    | cons price prices ih =>
        intro seen best h
        rw [List.append_cons]
        exact ih _ _ (h.step price)
  exact hsteps [] none rfl

theorem isCheapest_cheapest? (parts : List (Part ν)) : IsCheapest parts (cheapest? parts) := by
  have hlowest := isLowest_foldl ((parts.filterMap Part.price).filter isPositive)
  unfold cheapest?
  cases hbest : ((parts.filterMap Part.price).filter isPositive).foldl (fun best p =>
      some ((best.map fun b => lower b p).getD p)) none with
  | none =>
      rw [hbest] at hlowest
      intro part hpart price hprice hpos
      have hmem := mem_positivePrices_iff.mpr ⟨⟨part, hpart, hprice⟩, hpos⟩
      exact List.not_mem_nil (hlowest ▸ hmem)
  | some lowest =>
      rw [hbest] at hlowest
      obtain ⟨hfrom, hpositive⟩ := mem_positivePrices_iff.mp hlowest.1
      refine ⟨hpositive, hfrom, fun part hpart price hprice hpos => ?_⟩
      have hle := hlowest.2 price (mem_positivePrices_iff.mpr ⟨⟨part, hpart, hprice⟩, hpos⟩)
      exact (isLE_rank_iff_not_lt hpositive hpos).mp hle

theorem IsCheapest.unique {parts : List (Part ν)} {best other : Option ν}
    (hbest : IsCheapest parts best) (hother : IsCheapest parts other) : best = other := by
  cases best with
  | none =>
      cases other with
      | none => rfl
      | some b =>
          obtain ⟨hpos, ⟨part, hpart, hprice⟩, -⟩ := hother
          exact absurd hpos (hbest part hpart b hprice)
  | some a =>
      obtain ⟨hpos, ⟨part, hpart, hprice⟩, hleast⟩ := hbest
      cases other with
      | none => exact absurd hpos (hother part hpart a hprice)
      | some b =>
          obtain ⟨hpos', ⟨part', hpart', hprice'⟩, hleast'⟩ := hother
          have hab := (isLE_rank_iff_not_lt hpos hpos').mpr (hleast part' hpart' b hprice' hpos')
          have hba := (isLE_rank_iff_not_lt hpos' hpos).mpr (hleast' part hpart a hprice hpos)
          rw [eq_of_isLE_rank hab hba]

theorem cheapest?_eq_of_perm {parts others : List (Part ν)} (h : parts.Perm others) :
    cheapest? parts = cheapest? others :=
  ((isCheapest_cheapest? parts).congr fun _ => h.mem_iff).unique (isCheapest_cheapest? others)

end Ordered

end Score

/-! ### Candidates and survivors -/

/-- The rule for the replacements of a part. -/
def RuleBook.ruleFor? (book : RuleBook) (original : Part ν) : Option ReplacementRule :=
  original.subcategory.bind book.get?

namespace Replacement

variable (options : ReplacementOptions ν) (rule : Option ReplacementRule) (original : Part ν)

/-- Another part of the same subcategory, in the same package and of a tier that is asked for. -/
structure IsCandidate (part : Part ν) : Prop where
  id : part.id ≠ original.id
  subcategory : part.subcategoryId = original.subcategoryId
  package : options.samePackage = true → part.packageKey = original.packageKey
  tier : ∀ filter ∈ options.tier, filter.accepts part.tier = true

/-- A part that a rule does not rule out; without a rule every part passes. -/
def Passes (part : Part ν) : Prop :=
  ∀ r ∈ rule, (Verdict.of options.tolerance r original part).isCompatible = true

omit [Number ν] in
theorem isEligible_iff {part : Part ν} :
    isEligible options original part = true ↔ IsCandidate options original part := by
  have htier : (options.tier.map fun filter => filter.accepts part.tier).getD true = true ↔
      ∀ filter ∈ options.tier, filter.accepts part.tier = true := by
    cases options.tier <;> simp
  simp only [isEligible, Bool.and_eq_true, bne_iff_ne, beq_iff_eq, Bool.or_eq_true,
    Bool.not_eq_true', htier]
  constructor
  · rintro ⟨⟨⟨hid, hsubcategory⟩, hpackage⟩, htier⟩
    refine ⟨hid, hsubcategory, fun hsame => ?_, htier⟩
    simpa [hsame] using hpackage
  · rintro ⟨hid, hsubcategory, hpackage, htier⟩
    refine ⟨⟨⟨hid, hsubcategory⟩, ?_⟩, htier⟩
    cases hsame : options.samePackage with
    | false => exact Or.inl rfl
    | true => exact Or.inr (hpackage hsame)

instance instDecidableIsCandidate (part : Part ν) : Decidable (IsCandidate options original part) :=
  decidable_of_iff _ (isEligible_iff options original)

instance instDecidablePasses (part : Part ν) : Decidable (Passes options rule original part) :=
  inferInstanceAs (Decidable (∀ r ∈ rule, _))

def candidates (pool : List (Part ν)) : List (Part ν) :=
  pool.filter fun part => IsCandidate options original part

/-- The candidates that the report may return. -/
def survivors (pool : List (Part ν)) : List (Part ν) :=
  (candidates options original pool).filter fun part => Passes options rule original part

def verdict? (part : Part ν) : Option Verdict :=
  rule.map fun r => Verdict.of options.tolerance r original part

/-- Parts as they are ranked: each with its verdict. -/
def withVerdicts (parts : List (Part ν)) : List (Part ν × Option Verdict) :=
  parts.map fun part => (part, verdict? options rule original part)

theorem map_fst_withVerdicts (parts : List (Part ν)) :
    (withVerdicts options rule original parts).map (fun survivor => survivor.1) = parts := by
  rw [withVerdicts, List.map_map]
  exact List.map_id parts

theorem map_id_withVerdicts (parts : List (Part ν)) :
    (withVerdicts options rule original parts).map (fun survivor => survivor.1.id) =
      parts.map Part.id := by
  rw [withVerdicts, List.map_map]
  rfl

theorem judge?_eq (part : Part ν) :
    judge? options rule original part =
      if Passes options rule original part then some (part, verdict? options rule original part)
      else none := by
  cases rule with
  | none => simp [judge?, Passes, verdict?]
  | some r => simp [judge?, Passes, verdict?]

omit [Number ν] in
theorem filter_isEligible (pool : List (Part ν)) :
    pool.filter (isEligible options original) = candidates options original pool :=
  List.filter_congr fun part _ => by
    rw [Bool.eq_iff_iff, isEligible_iff, decide_eq_true_iff]

theorem filterMap_judge? (pool : List (Part ν)) :
    (pool.filter (isEligible options original)).filterMap (judge? options rule original) =
      withVerdicts options rule original (survivors options rule original pool) := by
  rw [filter_isEligible, survivors, withVerdicts]
  induction candidates options original pool with
  | nil => rfl
  | cons part parts ih =>
      rw [List.filterMap_cons, List.filter_cons, judge?_eq, ih]
      by_cases hpasses : Passes options rule original part
      · rw [if_pos hpasses, if_pos (decide_eq_true hpasses)]
        rfl
      · rw [if_neg hpasses, if_neg (fun h => hpasses (of_decide_eq_true h))]

theorem nodup_survivors {pool : List (Part ν)} (hids : (pool.map Part.id).Nodup) :
    ((survivors options rule original pool).map Part.id).Nodup :=
  hids.sublist ((List.filter_sublist.trans List.filter_sublist).map Part.id)

/-! ### The ranking of the survivors -/

section Ranking

variable (lowest : Option ν)

/-- A part as a replacement, where `lowest` is the price that its own is compared with. -/
def scored (part : Part ν) : Replacement ν where
  part := part
  score := Score.of part original lowest
  verdict := verdict? options rule original part

/-- The higher score comes first, and of two equal scores the lower id. -/
def Precedes (a b : Part ν) : Prop :=
  (Score.of b original lowest).total < (Score.of a original lowest).total ∨
    (Score.of a original lowest).total = (Score.of b original lowest).total ∧ a.id < b.id

theorem nodup_map_key {judged : List (Part ν × Option Verdict)}
    (hids : (judged.map fun survivor => survivor.1.id).Nodup) :
    ((judged.map (ranked original lowest)).map Ranked.key).Nodup := by
  refine List.Nodup.of_map Prod.snd ?_
  rwa [List.map_map, List.map_map]

/-- The ranking of some parts with their verdicts, read as a list of these parts. -/
theorem exists_ranking {parts : List (Part ν)} (hids : (parts.map Part.id).Nodup) :
    ∃ best : List (Part ν), best.Perm parts ∧ best.Pairwise (Precedes original lowest) ∧
      (Ranked.ranking ((withVerdicts options rule original parts).map
        (ranked original lowest))).map Ranked.item =
          best.map (scored options rule original lowest) := by
  have hkeys := nodup_map_key original lowest
    ((map_id_withVerdicts options rule original parts).symm ▸ hids)
  have hsorted := Ranked.pairwise_ranking hkeys
  have hperm := Ranked.ranking_perm
    ((withVerdicts options rule original parts).map (ranked original lowest))
  revert hsorted hperm
  generalize Ranked.ranking _ = entries
  intro hsorted hperm
  have hentry : ∀ e ∈ entries, e =
      ranked original lowest (e.item.part, verdict? options rule original e.item.part) := by
    intro e he
    obtain ⟨survivor, hsurvivor, rfl⟩ := List.mem_map.mp (hperm.mem_iff.mp he)
    obtain ⟨part, -, rfl⟩ := List.mem_map.mp hsurvivor
    rfl
  refine ⟨entries.map fun e => e.item.part, ?_, ?_, ?_⟩
  · have hparts := hperm.map fun e => e.item.part
    rw [List.map_map] at hparts
    exact hparts.trans (.of_eq (map_fst_withVerdicts options rule original parts))
  · rw [List.pairwise_map]
    refine hsorted.imp_of_mem fun {a b} ha hb hbefore => ?_
    rw [hentry a ha, hentry b hb, Ranked.before_iff] at hbefore
    exact hbefore
  · rw [List.map_map]
    exact List.map_congr_left fun e he => congrArg Ranked.item (hentry e he)

end Ranking

theorem bestOf_eq (judged : List (Part ν × Option Verdict)) :
    bestOf options original judged =
      ((Ranked.ranking (judged.map (ranked original
        (Score.cheapest? (judged.map fun survivor => survivor.1))))).map Ranked.item).take
          options.count := by
  rw [bestOf, Ranked.best_eq_take_ranking, List.map_take]

theorem bestOf_eq_of_perm [OrderedNumber ν] {judged others : List (Part ν × Option Verdict)}
    (hperm : judged.Perm others) (hids : (judged.map fun survivor => survivor.1.id).Nodup) :
    bestOf options original judged = bestOf options original others := by
  rw [bestOf_eq, bestOf_eq, Score.cheapest?_eq_of_perm (hperm.map fun survivor => survivor.1),
    Ranked.ranking_eq_of_perm (hperm.map _) (nodup_map_key original _ hids)]

end Replacement

/-! ### The report -/

open Replacement (survivors candidates scored Precedes)

/-- A report returns `chosen` of the survivors and leaves out `omitted`, where `lowest` is the price
that the others are compared with. -/
structure RanksBest (options : ReplacementOptions ν) (rule : Option ReplacementRule)
    (original : Part ν) (pool : List (Part ν)) (report : ReplacementReport ν)
    (chosen omitted : List (Part ν)) (lowest : Option ν) : Prop where
  perm : (chosen ++ omitted).Perm (survivors options rule original pool)
  cheapest : Score.IsCheapest (survivors options rule original pool) lowest
  replacements : report.replacements = chosen.map (scored options rule original lowest)
  length : chosen.length =
    min (min options.limit options.maxCount) (survivors options rule original pool).length
  ordered : chosen.Pairwise (Precedes original lowest)
  omitted : ∀ a ∈ chosen, ∀ b ∈ omitted, Precedes original lowest a b
  rejected : report.rejected + (survivors options rule original pool).length =
    (candidates options original pool).length

namespace ReplacementReport

variable (book : RuleBook) (options : ReplacementOptions ν) (original : Part ν)

theorem replacements_of (pool : List (Part ν)) :
    (of book options original pool).replacements =
      Replacement.bestOf options original
        (Replacement.withVerdicts options (book.ruleFor? original) original
          (survivors options (book.ruleFor? original) original pool)) :=
  congrArg (Replacement.bestOf options original) (Replacement.filterMap_judge? _ _ _ _)

theorem rejected_of (pool : List (Part ν)) :
    (of book options original pool).rejected =
      (candidates options original pool).length -
        (survivors options (book.ruleFor? original) original pool).length := by
  have hjudged := congrArg List.length
    (Replacement.filterMap_judge? options (book.ruleFor? original) original pool)
  rw [Replacement.withVerdicts, List.length_map] at hjudged
  rw [← hjudged, ← Replacement.filter_isEligible]
  rfl

variable [OrderedNumber ν]

/-- A report returns the best survivors of the rule, in order, as many as it may. -/
theorem of_ranksBest {pool : List (Part ν)} (hids : (pool.map Part.id).Nodup) :
    ∃ chosen omitted lowest,
      RanksBest options (book.ruleFor? original) original pool (of book options original pool)
        chosen omitted lowest := by
  have hreplacements := replacements_of book options original pool
  have hrejected := rejected_of book options original pool
  have hsurvivors :=
    Replacement.nodup_survivors options (book.ruleFor? original) original hids
  have hfewer : (survivors options (book.ruleFor? original) original pool).length ≤
      (candidates options original pool).length := List.length_filter_le _ _
  generalize hparts : survivors options (book.ruleFor? original) original pool = parts
    at hreplacements hrejected hsurvivors hfewer
  obtain ⟨best, hperm, hordered, hranking⟩ := Replacement.exists_ranking options
    (book.ruleFor? original) original (Score.cheapest? parts) hsurvivors
  have hsplit := List.take_append_drop options.count best
  rw [← hsplit] at hordered
  obtain ⟨hchosen, -, homitted⟩ := List.pairwise_append.mp hordered
  refine ⟨best.take options.count, best.drop options.count, Score.cheapest? parts, ?_⟩
  exact
    { perm := by rwa [hsplit, hparts]
      cheapest := by
        rw [hparts]
        exact Score.isCheapest_cheapest? parts
      replacements := by
        rw [hreplacements, Replacement.bestOf_eq, Replacement.map_fst_withVerdicts, hranking,
          List.map_take]
      length := by
        rw [List.length_take, hperm.length_eq, hparts]
        rfl
      ordered := hchosen
      omitted := homitted
      rejected := by
        rw [hrejected, hparts, Nat.sub_add_cancel hfewer] }

def chipResistor (id resistance : String) (stock : Nat) (price : Rat) : Part Rat where
  id := id
  model := ""
  manufacturer := ""
  package := "0603"
  description := ""
  stock := stock
  price := some price
  tier := .basic
  subcategoryId := 1
  subcategory := some "Chip Resistor - Surface Mount"
  category := none
  mounting := none
  attributes := [("Resistance", resistance)]

def tenKilohm : Part Rat := chipResistor "R1" "10kΩ" 100 1

def threeResistors : List (Part Rat) :=
  [chipResistor "R2" "10kΩ" 2000 3, chipResistor "R3" "10000Ω" 2000 2,
    chipResistor "R4" "20kΩ" 10 1]

def resistorRule : ReplacementRule :=
  ⟨"Resistance", [], [("Tolerance", .lower), ("Power(Watts)", .higher)]⟩

def resistorRules : RuleBook := .ofList [("Chip Resistor - Surface Mount", resistorRule)]

def bestOnly : ReplacementOptions Rat := { ReplacementOptions.standard with limit := 1 }

theorem of_ranksBest_threeResistors :
    (of resistorRules bestOnly tenKilohm threeResistors).replacements.map (fun r => r.part.id) =
        ["R3"] ∧
      ∃ chosen omitted lowest,
        RanksBest bestOnly (resistorRules.ruleFor? tenKilohm) tenKilohm threeResistors
          (of resistorRules bestOnly tenKilohm threeResistors) chosen omitted lowest :=
  ⟨by decide +kernel, of_ranksBest resistorRules bestOnly tenKilohm (by decide)⟩

/-- The order of the pool does not matter. -/
theorem of_eq_of_perm {pool others : List (Part ν)} (hperm : pool.Perm others)
    (hids : (pool.map Part.id).Nodup) :
    of book options original pool = of book options original others := by
  have heligible := hperm.filter (Replacement.isEligible options original)
  have hjudged := heligible.filterMap
    (Replacement.judge? options (book.ruleFor? original) original)
  have hjudgedIds : (((pool.filter (Replacement.isEligible options original)).filterMap
      (Replacement.judge? options (book.ruleFor? original) original)).map
        fun survivor => survivor.1.id).Nodup := by
    rw [Replacement.filterMap_judge?, Replacement.map_id_withVerdicts]
    exact Replacement.nodup_survivors options (book.ruleFor? original) original hids
  have hbest := Replacement.bestOf_eq_of_perm options original hjudged hjudgedIds
  unfold RuleBook.ruleFor? at hjudged hbest
  simp only [of, hbest, heligible.length_eq, hjudged.length_eq]

theorem of_eq_of_perm_threeResistors :
    of resistorRules bestOnly tenKilohm threeResistors =
      of resistorRules bestOnly tenKilohm threeResistors.reverse :=
  of_eq_of_perm resistorRules bestOnly tenKilohm (List.reverse_perm _).symm (by decide)

end ReplacementReport

end PartSearch
