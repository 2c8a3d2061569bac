import PartSearch.Proofs.PageFilling

/-!
# The conditions of a plan

A request that the store is asked for becomes one list of conditions. `ofRequest_asks` says where
each of them comes from; what a search may or may not ask for follows from it.
-/

namespace PartSearch

variable {ν : Type} [Number ν]

/-- Is the condition about a field that every row has, and not about its fee tier? -/
def Predicate.onField : Predicate ν → Bool
  | fullText _ _ _ | subcategory _ | subcategories _ | minStock _ | packages _ | manufacturer _
  | mounting _ => true
  | feeTier _ | columnBetween _ _ _ | columnCompare _ _ _ | attributeLike _ | anyOf _ => false

omit [Number ν] in
theorem Scope.onField_of_resolve {t : Taxonomy} {id : Option Nat}
    {subcategory category : Option String} {scope : Scope ν}
    (h : resolve t id subcategory category = .ok scope) :
    ∀ p ∈ scope.clause, p.onField = true := by
  unfold resolve at h
  split at h
  · cases h
    rintro p ⟨⟩
    rfl
  · rename_i name _
    cases hentry : t.resolveSubcategory name with
    | error e =>
        rw [hentry] at h
        cases h
    | ok entry =>
        rw [hentry] at h
        cases h
        rintro p ⟨⟩
        rfl
  · rename_i name _ _
    cases hfound : t.resolveCategory name with
    | error e =>
        rw [hfound] at h
        cases h
    | ok found =>
        rw [hfound] at h
        cases h
        rintro p ⟨⟩
        rfl
  · cases h
    rintro p ⟨⟩

namespace Plan

/-- What a plan asks the store for is what the request says, after its query is read. -/
structure Asks (t : Taxonomy) (settings : SearchSettings ν) (r : Request) (plan : Plan ν)
    (c : Conditions ν) : Prop where
  clauses : plan.query.clauses = c.clauses
  countClauses : plan.query.countClauses = c.countClauses
  text : c.text = (r.wanted ν).text.bind (textClause? r.matchAll)
  scope : ∃ scope, Scope.resolve t r.subcategoryId (r.wanted ν).subcategory r.category =
    .ok scope ∧ c.scope = scope.clause
  tier : c.tier = r.tier.map TierFilter.clause
  minStock : c.minStock = r.minStock.getD settings.defaultMinStock
  packages : c.packages = r.acceptedPackages (r.wanted ν).package
  manufacturer : c.manufacturer = r.makerName?
  mounting : c.mounting = (r.wanted ν).mounting
  filters : c.filters = (Compiled.ofGroups settings.tolerance
    (FilterGroup.ofFilters (r.wanted ν).filters)).clauses
  checks : plan.checks = (Compiled.ofGroups settings.tolerance
    (FilterGroup.ofFilters (r.wanted ν).filters)).checks

theorem ofRequest_asks {t : Taxonomy} {settings : SearchSettings ν} {r : Request} {plan : Plan ν}
    (h : ofRequest t settings r = .ok plan) : ∃ c, Asks t settings r plan c := by
  obtain ⟨text, scope, -, htext, -, hscope, rfl⟩ := ofRequest_eq_ok_iff.mp h
  exact ⟨_, rfl, rfl, htext.symm, ⟨scope, hscope, rfl⟩, rfl, rfl, rfl, rfl, rfl, rfl, rfl⟩

/-- Apart from the restriction to fee tiers, a plan asks for fields of a row and for what filters
are compiled to. -/
theorem Asks.onField_or_filter {t : Taxonomy} {settings : SearchSettings ν} {r : Request}
    {plan : Plan ν} {c : Conditions ν} (h : Asks t settings r plan c) :
    ∀ p ∈ c.beforeTier ++ c.afterTier, p.onField = true ∨
      ∃ g : FilterGroup, p ∈ (g.compile settings.tolerance).clauses := by
  intro p hp
  simp only [Conditions.beforeTier, Conditions.afterTier, List.mem_append, Option.mem_toList] at hp
  rcases hp with (hp | hp) | (((hp | hp) | hp) | hp) | hp
  · rw [h.text] at hp
    obtain ⟨query, -, hquery⟩ := Option.bind_eq_some_iff.mp hp
    obtain ⟨expression, -, rfl⟩ := Option.map_eq_some_iff.mp hquery
    exact Or.inl rfl
  · obtain ⟨scope, hresolve, hscope⟩ := h.scope
    rw [hscope] at hp
    exact Or.inl (Scope.onField_of_resolve hresolve p hp)
  · split at hp
    · cases hp
    · rw [List.mem_singleton.mp hp]
      exact Or.inl rfl
  · split at hp
    · cases hp
    · rw [List.mem_singleton.mp hp]
      exact Or.inl rfl
  · obtain ⟨name, -, rfl⟩ := Option.map_eq_some_iff.mp hp
    exact Or.inl rfl
  · obtain ⟨m, -, rfl⟩ := Option.map_eq_some_iff.mp hp
    exact Or.inl rfl
  · rw [h.filters] at hp
    obtain ⟨g, -, hg⟩ := List.mem_flatMap.mp hp
    exact Or.inr ⟨g, hg⟩

end Plan

/-- A search with a plan asks the store once and fills its page from the answer. -/
theorem search_of_plan {t : Taxonomy} {settings : SearchSettings ν} {r : Request} {plan : Plan ν}
    (h : Plan.ofRequest t settings r = .ok plan) (store : StoreAccess ν) :
    search store t settings r =
      ((store plan.query).mapError .store).map fun answer => .found (plan.finish t answer) := by
  unfold search
  rw [h]
  cases hanswer : store plan.query with
  | error e => simp only [hanswer]; rfl
  | ok answer => simp only [hanswer]; rfl

end PartSearch
