import Mathlib.Algebra.BigOperators.Group.List.Basic
import Mathlib.Algebra.GroupWithZero.Nat
import PartSearch.Proofs.GroupPaths
import PartSearch.Proofs.PlanConditions

/-!
# Totals by fee tier

A search tells how many rows each fee tier has, whatever tiers it is restricted to. It counts with
the conditions that are left when every condition equal to the restriction is taken out; nothing
else that a request asks for is equal to one, so only the restriction is lost: `search_tiers`.
-/

namespace PartSearch

variable {ν : Type}

/-! ### Restrictions to fee tiers -/

namespace Predicate

def isTier : Predicate ν → Bool
  | feeTier _ => true
  | _ => false

/-- Is the condition one fee tier, or a choice that starts with one? -/
def restrictsTier : Predicate ν → Bool
  | anyOf (p :: _) => p.isTier
  | p => p.isTier

variable [BEq ν] {p q : Predicate ν}

theorem isTier_eq_of_same (h : p.same q = true) : p.isTier = q.isTier := by
  unfold same at h
  split at h
  all_goals first
    | rfl
    | cases h

theorem restrictsTier_eq_of_same (h : p.same q = true) : p.restrictsTier = q.restrictsTier := by
  have htier := isTier_eq_of_same h
  unfold same at h
  split at h
  case h_12 ps qs =>
    cases ps with
    | nil =>
        cases qs with
        | nil => rfl
        | cons q qs => cases h
    | cons p ps =>
        cases qs with
        | nil => cases h
        | cons q qs =>
            rw [sameList, Bool.and_eq_true] at h
            exact isTier_eq_of_same h.1
  case h_13 => cases h
  all_goals exact htier

end Predicate

theorem Predicate.restrictsTier_of_onField {p : Predicate ν} (h : p.onField = true) :
    p.restrictsTier = false := by
  cases p <;> first | rfl | cases h

theorem TierFilter.restrictsTier_clause (filter : TierFilter) :
    (filter.clause : Predicate ν).restrictsTier = true := by
  cases filter <;> rfl

theorem TierFilter.same_clause [BEq ν] (filter : TierFilter) :
    (filter.clause : Predicate ν).same filter.clause = true := by
  cases filter <;> rfl

theorem FilterGroup.restrictsTier_alternatives {ps : List (Predicate ν)}
    (hps : ∀ p ∈ ps, p.isTier = false ∧ p.restrictsTier = false) :
    (alternatives ps).restrictsTier = false := by
  unfold alternatives
  split
  · exact (hps _ (List.mem_singleton_self _)).2
  · cases ps with
    | nil => rfl
    | cons p ps => exact (hps p List.mem_cons_self).1

variable [Number ν]

theorem FilterGroup.restrictsTier_of_mem_compile {t : Tolerance ν} {g : FilterGroup}
    {p : Predicate ν} (hp : p ∈ (g.compile t).clauses) : p.restrictsTier = false := by
  rcases column_or_patterns_of_mem_compile hp with ⟨column, targets, rfl⟩ | ⟨patterns, rfl, -⟩
  · apply restrictsTier_alternatives
    intro q hq
    obtain ⟨x, -, rfl⟩ := List.mem_map.mp hq
    unfold columnClause
    split <;> exact ⟨rfl, rfl⟩
  · rfl

/-! ### The conditions of a plan -/

namespace Plan

namespace Conditions

/-- Only the restriction itself is taken out. -/
theorem countClauses_eq {c : Conditions ν} {filter : Option TierFilter}
    (htier : c.tier = filter.map TierFilter.clause)
    (hother : ∀ p ∈ c.beforeTier ++ c.afterTier, p.restrictsTier = false) :
    c.countClauses = c.beforeTier ++ c.afterTier := by
  have hkept (ps : List (Predicate ν)) (hps : ∀ p ∈ ps, p.restrictsTier = false) :
      (ps.filter fun p => c.tier != some p) = ps := by
    rw [List.filter_eq_self]
    intro p hp
    rw [htier]
    cases filter with
    | none => rfl
    | some filter =>
        change (!filter.clause.same p) = true
        by_contra hsame
        rw [Bool.not_eq_true', Bool.not_eq_false] at hsame
        have hrestricts := Predicate.restrictsTier_eq_of_same hsame
        rw [filter.restrictsTier_clause, hps p hp] at hrestricts
        cases hrestricts
  have hremoved : (c.tier.toList.filter fun p => c.tier != some p) = [] := by
    rw [htier]
    cases filter with
    | none => rfl
    | some filter =>
        rw [Option.map_some, Option.toList_some, List.filter_singleton]
        change cond (!(filter.clause : Predicate ν).same filter.clause) _ _ = _
        rw [filter.same_clause]
        rfl
  rw [countClauses, clauses, List.filter_append, List.filter_append, hremoved, List.append_nil,
    ← List.filter_append, hkept _ hother]

end Conditions

section

variable {t : Taxonomy} {settings : SearchSettings ν} {r : Request} {plan : Plan ν}

theorem Asks.countClauses_eq {c : Conditions ν} (h : Asks t settings r plan c) :
    plan.query.countClauses = c.beforeTier ++ c.afterTier := by
  rw [h.countClauses, Conditions.countClauses_eq h.tier]
  intro p hp
  rcases h.onField_or_filter p hp with hfield | ⟨g, hg⟩
  · exact Predicate.restrictsTier_of_onField hfield
  · exact FilterGroup.restrictsTier_of_mem_compile hg

/-- A request that the store is asked for stays one under any restriction to fee tiers. Only the
restriction itself differs in the conditions, and nothing in the counts. -/
theorem ofRequest_tier (h : ofRequest t settings r = .ok plan) :
    ∃ before after : List (Predicate ν), ∀ tier : Option TierFilter, ∃ plan',
      ofRequest t settings { r with tier } = .ok plan' ∧
      plan'.query.clauses = before ++ (tier.map TierFilter.clause).toList ++ after ∧
      plan'.query.countClauses = before ++ after := by
  obtain ⟨text, scope, hvalid, htext, hterms, hscope, -⟩ := ofRequest_eq_ok_iff.mp h
  let conditions (tier : Option TierFilter) : Conditions ν :=
    { text, scope := scope.clause, tier := tier.map TierFilter.clause
      minStock := r.minStock.getD settings.defaultMinStock
      packages := r.acceptedPackages (r.wanted ν).package
      manufacturer := r.makerName?
      mounting := (r.wanted ν).mounting
      filters := (Compiled.ofGroups settings.tolerance
        (FilterGroup.ofFilters (r.wanted ν).filters)).clauses }
  refine ⟨(conditions none).beforeTier, (conditions none).afterTier, fun tier => ?_⟩
  have hasks : Asks t settings { r with tier }
      (build settings { r with tier } (r.wanted ν) text scope) (conditions tier) :=
    ⟨rfl, rfl, htext.symm, ⟨scope, hscope, rfl⟩, rfl, rfl, rfl, rfl, rfl, rfl, rfl⟩
  refine ⟨_, ?_, hasks.clauses, hasks.countClauses_eq⟩
  exact ofRequest_eq_ok_iff.mpr ⟨text, scope, hvalid, htext, hterms, hscope, rfl⟩

end

end Plan

/-! ### Counting -/

theorem IndexedRow.satisfies_clause (row : IndexedRow ν) (filter : TierFilter) :
    row.satisfies filter.clause = filter.accepts row.row.tier := by
  cases filter <;> cases htier : row.row.tier <;>
    simp [TierFilter.clause, TierFilter.tiers, TierFilter.accepts, FilterGroup.alternatives,
      IndexedRow.satisfies, IndexedRow.satisfiesAny, htier]

theorem MemoryStore.matching_tier (store : MemoryStore ν) (before after : List (Predicate ν))
    (tier : Option TierFilter) :
    store.matching (before ++ (tier.map TierFilter.clause).toList ++ after) =
      (store.matching (before ++ after)).filter fun row => tier.all (·.accepts row.tier) := by
  rw [matching, matching, List.filter_map, List.filter_filter]
  congr 1
  apply List.filter_congr
  intro row _
  cases tier with
  | none => simp [IndexedRow.satisfiesAll]
  | some filter =>
      simp [IndexedRow.satisfiesAll, IndexedRow.satisfies_clause, Bool.and_comm, Bool.and_assoc]

theorem TierCounts.count_ofTiers (tiers : List FeeTier) (tier : FeeTier) :
    (ofTiers tiers).count tier = tiers.count tier := by
  cases tier <;> rfl

theorem FeeTier.sum_one (keep : FeeTier → Bool) (tier : FeeTier) :
    ((FeeTier.all.filter keep).map fun x => if (tier == x) = true then 1 else 0).sum =
      if keep tier = true then 1 else 0 := by
  cases hbasic : keep .basic <;> cases hpreferred : keep .preferred <;>
    cases hextended : keep .extended <;> cases tier <;>
    simp [FeeTier.all, hbasic, hpreferred, hextended]

theorem TierCounts.sum_count (tiers : List FeeTier) (keep : FeeTier → Bool) :
    ((FeeTier.all.filter keep).map (ofTiers tiers).count).sum = (tiers.filter keep).length := by
  rw [List.map_congr_left fun tier _ => count_ofTiers tiers tier]
  induction tiers with
  | nil => simp
  | cons tier tiers ih =>
      simp only [List.count_cons]
      rw [List.sum_map_add, ih, FeeTier.sum_one, List.filter_cons]
      split
      · rw [List.length_cons]
      · rw [Nat.add_zero]

/-- The counts by fee tier are the same under every restriction, and the total of a search is made
up of the counts of the tiers that its restriction accepts. -/
theorem search_tiers {store : MemoryStore ν} {t : Taxonomy} {settings : SearchSettings ν}
    {r : Request} {page : SearchPage ν}
    (h : search store.access t settings r = .ok (.found page)) :
    (∀ tier : Option TierFilter, ∃ page',
      search store.access t settings { r with tier } = .ok (.found page') ∧
      page'.tiers = page.tiers) ∧
    page.total =
      ((FeeTier.all.filter fun tier => r.tier.all (·.accepts tier)).map page.tiers.count).sum := by
  obtain ⟨plan, hplan, rfl⟩ := search_eq_found_iff.mp h
  obtain ⟨before, after, hall⟩ := Plan.ofRequest_tier hplan
  obtain ⟨plan', hplan', hclauses, hcounts⟩ := hall r.tier
  obtain rfl : plan' = plan := Except.ok.inj (hplan'.symm.trans hplan)
  have htiers : (plan'.finish t (store.execute plan'.query)).tiers =
      .ofTiers ((store.matching (before ++ after)).map Row.tier) := by
    rw [← hcounts]
    rfl
  constructor
  · intro tier
    obtain ⟨other, hother, -, hcounts'⟩ := hall tier
    refine ⟨_, search_eq_found_iff.mpr ⟨other, hother, rfl⟩, ?_⟩
    rw [htiers, ← hcounts']
    rfl
  · calc
      (plan'.finish t (store.execute plan'.query)).total =
          (store.matching plan'.query.clauses).length := rfl
      _ = (((store.matching (before ++ after)).map Row.tier).filter fun tier =>
          r.tier.all (·.accepts tier)).length := by
        rw [hclauses, store.matching_tier, List.filter_map, List.length_map]
        rfl
      _ = _ := by rw [htiers, TierCounts.sum_count]

def fourTieredParts : MemoryStore Rat := .ofRows [
  { id := "C1", subcategoryId := 1, stock := 30, tier := .basic },
  { id := "C2", subcategoryId := 1, stock := 20, tier := .extended },
  { id := "C3", subcategoryId := 1, stock := 50, tier := .preferred },
  { id := "C4", subcategoryId := 1, stock := 40, tier := .basic }]

def freeOfFee : Request where
  subcategoryId := some 1
  tier := some .noFee

theorem search_tiers_fourTieredParts :
    ∃ page, search fourTieredParts.access {} .standard freeOfFee = .ok (.found page) ∧
      page.tiers = { basic := 2, preferred := 1, extended := 1 } ∧
      (∀ tier : Option TierFilter, ∃ page',
        search fourTieredParts.access {} .standard { freeOfFee with tier } = .ok (.found page') ∧
        page'.tiers = page.tiers) ∧
      page.total = 3 := by
  refine ⟨_, rfl, by decide +kernel, ?_⟩
  obtain ⟨hsame, htotal⟩ := @search_tiers Rat _ fourTieredParts {} .standard freeOfFee _ rfl
  exact ⟨hsame, htotal.trans (by decide +kernel)⟩

end PartSearch
