import PartSearch.Proofs.FilterGrouping
import PartSearch.Proofs.GroupPaths
import PartSearch.Proofs.PlanConditions
import PartSearch.Proofs.VisibleText

/-!
# What the caller gives

A query in words is read for what it says about parts, and the reading fills in what the request
leaves open. It never replaces a restriction that the request itself makes: each one stands in the
plan as it would without a reading, and the filters that are read come after all that is compiled
from the filters that are given, `search_keepsGiven`.
-/

namespace PartSearch

open Text

variable {ν : Type} [Number ν]

namespace SpecFilter

/-- The filters that are read and that no filter given by hand hides. -/
def unhidden (manual read : List SpecFilter) : List SpecFilter :=
  read.filter fun f => !manual.any fun m => sameText m.name f.name

theorem compile_merge (t : Tolerance ν) (manual read : List SpecFilter) :
    Compiled.ofGroups t (FilterGroup.ofFilters (merge manual read)) =
      Compiled.ofGroups t (FilterGroup.ofFilters manual) ++
        Compiled.ofGroups t (FilterGroup.ofFilters (unhidden manual read)) := by
  rw [← Compiled.ofGroups_append, ← FilterGroup.ofFilters_append]
  · rfl
  · intro m hm f hf
    have hhidden := (List.mem_filter.mp hf).2
    rw [Bool.not_eq_true', List.any_eq_false] at hhidden
    exact Bool.eq_false_iff.mpr (hhidden m hm)

end SpecFilter

/-! ### What is wanted -/

/-- What the request says itself is wanted, whatever its query says. -/
structure Wanted.KeepsGiven (r : Request) (w : Wanted) : Prop where
  subcategory : (r.subcategoryId.isSome || r.subcategory.isSome || r.category.isSome) = true →
    w.subcategory = r.subcategory
  package : (r.package.isSome || !r.packages.isEmpty) = true → w.package = r.package
  mounting : ∀ m, r.mounting = some m → w.mounting = some m
  filters : w.filters = SpecFilter.merge r.filters ((w.parsed.map ParsedQuery.filters).getD [])

namespace Request

variable (r : Request)

theorem asGiven_keepsGiven (text : Option String) : (r.asGiven text).KeepsGiven r where
  subcategory _ := rfl
  package _ := rfl
  mounting _ h := h
  filters := (List.append_nil r.filters).symm

theorem withReading_keepsGiven (query : String) (reading : ParsedQuery) :
    (r.withReading query reading).KeepsGiven r where
  subcategory hgiven := by
    have hopen : (r.subcategoryId.isNone && r.subcategory.isNone && r.category.isNone) = false := by
      rw [← Option.not_isSome, ← Option.not_isSome, ← Option.not_isSome, ← Bool.not_or,
        ← Bool.not_or, hgiven]
      rfl
    rw [withReading, hopen, if_neg Bool.false_ne_true]
  package hgiven := by
    have hopen : (r.package.isNone && r.packages.isEmpty) = false := by
      rw [← Option.not_isSome, ← Bool.not_not r.packages.isEmpty, ← Bool.not_or, hgiven]
      rfl
    rw [withReading, hopen, if_neg Bool.false_ne_true]
  mounting m hm := by
    rw [withReading, hm]
    rfl
  filters := rfl

theorem wanted_keepsGiven : (r.wanted ν).KeepsGiven r := by
  unfold wanted
  split
  · split
    · exact r.withReading_keepsGiven _ _
    · exact r.asGiven_keepsGiven _
  · exact r.asGiven_keepsGiven _

end Request

/-! ### What the store is asked for -/

namespace Plan

/-- Every restriction of the request stands in the plan, and the filters that are read follow the
ones that are given. -/
structure KeepsGiven (t : Taxonomy) (settings : SearchSettings ν) (r : Request) (plan : Plan ν)
    (c : Conditions ν) : Prop extends Asks t settings r plan c where
  givenScope : (r.subcategoryId.isSome || r.subcategory.isSome || r.category.isSome) = true →
    ∃ scope, Scope.resolve t r.subcategoryId r.subcategory r.category = .ok scope ∧
      c.scope = scope.clause
  givenPackages : (r.package.isSome || !r.packages.isEmpty) = true →
    c.packages = r.acceptedPackages r.package
  givenMounting : ∀ m, r.mounting = some m → c.mounting = some m
  givenFilters : { clauses := c.filters, checks := plan.checks } =
    Compiled.ofGroups settings.tolerance (FilterGroup.ofFilters r.filters) ++
      Compiled.ofGroups settings.tolerance (FilterGroup.ofFilters (SpecFilter.unhidden r.filters
        ((plan.parsed.map ParsedQuery.filters).getD [])))

variable {t : Taxonomy} {settings : SearchSettings ν} {r : Request} {plan : Plan ν}

theorem ofRequest_parsed (h : ofRequest t settings r = .ok plan) :
    plan.parsed = (r.wanted ν).parsed := by
  obtain ⟨text, scope, -, -, -, -, rfl⟩ := ofRequest_eq_ok_iff.mp h
  rfl

theorem ofRequest_keepsGiven (h : ofRequest t settings r = .ok plan) :
    ∃ c, KeepsGiven t settings r plan c := by
  obtain ⟨c, hasks⟩ := ofRequest_asks h
  have hwanted := r.wanted_keepsGiven (ν := ν)
  refine ⟨c, hasks, ?_, ?_, ?_, ?_⟩
  · intro hgiven
    rw [← hwanted.subcategory hgiven]
    exact hasks.scope
  · intro hgiven
    rw [← hwanted.package hgiven]
    exact hasks.packages
  · intro m hm
    rw [← hwanted.mounting m hm]
    exact hasks.mounting
  · rw [← SpecFilter.compile_merge, ofRequest_parsed h, ← hwanted.filters, hasks.filters,
      hasks.checks]

end Plan

/-! ### Requests that get a plan -/

namespace Request

variable {r : Request}

theorem visible_of_freeTextOf {reading : ParsedQuery} {query text : String}
    (hquery : visible query.toList ≠ []) (h : freeTextOf reading query = some text) :
    visible text.toList ≠ [] := by
  simp only [freeTextOf] at h
  split at h
  · rename_i hlong
    rw [← Option.some.inj h, trimmed, String.toList_ofList]
    refine visible_trim_ne_nil fun hnil => ?_
    rw [trimmed, hnil] at hlong
    exact absurd hlong (by decide)
  · split at h
    · cases h
    · rwa [← Option.some.inj h]

theorem visible_of_wanted {text : String}
    (hvisible : ∀ query, r.query.bind nonBlank? = some query →
      visible (Connector.spellIpex query).toList ≠ [])
    (h : (r.wanted ν).text = some text) : visible text.toList ≠ [] := by
  unfold wanted at h
  split at h
  · rename_i query hquery
    obtain ⟨given, hgiven, rfl⟩ := Option.map_eq_some_iff.mp hquery
    split at h
    · simp only [withReading] at h
      exact visible_of_freeTextOf (hvisible given hgiven) h
    · simp only [asGiven, Option.some_inj] at h
      rw [← h]
      exact hvisible given hgiven
  · cases h

end Request

namespace Plan

omit [Number ν] in
theorem isSome_textClause? {text : String} (matchAll : Bool) (h : visible text.toList ≠ []) :
    (textClause? matchAll text : Option (Predicate ν)).isSome = true := by
  rw [textClause?, Option.isSome_map, FullText.expression?, isEmpty_words h,
    if_neg Bool.false_ne_true]
  rfl

/-- A request with an id gets a plan if its query is valid and not blank, however the query is
read: what the reading takes out of the text is wanted in other ways. -/
theorem exists_ofRequest {t : Taxonomy} {settings : SearchSettings ν} {r : Request} {id : Nat}
    (hid : r.subcategoryId = some id)
    (hvalid : validQuery settings r = .ok ())
    (hvisible : ∀ query, r.query.bind nonBlank? = some query →
      visible (Connector.spellIpex query).toList ≠ []) :
    ∃ plan, ofRequest t settings r = .ok plan := by
  obtain ⟨scope, hscope⟩ : ∃ scope : Scope ν, Scope.resolve t r.subcategoryId
      (r.wanted ν).subcategory r.category = .ok scope := ⟨_, by rw [hid]; rfl⟩
  have hstructural : r.isStructural (r.wanted ν) = true := by
    rw [Request.isStructural, hid]
    rfl
  refine ⟨_, ofRequest_eq_ok_iff.mpr ⟨_, scope, hvalid, rfl, ?_, hscope, rfl⟩⟩
  cases htext : (r.wanted ν).text with
  | none => rw [hstructural]; rfl
  | some text =>
      have hterms := isSome_textClause? (ν := ν) r.matchAll (Request.visible_of_wanted hvisible htext)
      rw [Option.bind_some, hstructural, ← Option.not_isSome, hterms]
      rfl

end Plan

/-- Whatever the query of a request says, the store is asked with every restriction that the request
makes itself. -/
theorem search_keepsGiven {t : Taxonomy} {settings : SearchSettings ν} {r : Request} {plan : Plan ν}
    (h : Plan.ofRequest t settings r = .ok plan) :
    (∀ store : StoreAccess ν, search store t settings r =
      ((store plan.query).mapError .store).map fun answer => .found (plan.finish t answer)) ∧
    ∃ c, Plan.KeepsGiven t settings r plan c := by
  exact ⟨search_of_plan h, Plan.ofRequest_keepsGiven h⟩

def throughHoleResistor : Request where
  query := some "10k 1% resistor 0603"
  subcategoryId := some 7
  package := some "0805"
  filters := [⟨"resistance", .eq, "4.7k"⟩]
  mounting := some .throughHole

theorem search_keepsGiven_throughHoleResistor :
    ∃ plan, Plan.ofRequest (ν := Rat) {} .standard throughHoleResistor = .ok plan ∧
      ∃ c, Plan.KeepsGiven {} .standard throughHoleResistor plan c ∧
        c.scope = some (.subcategory 7) ∧ c.packages = Footprint.spellings "0805" ∧
        c.mounting = some .throughHole := by
  have hvalid : Plan.validQuery (ν := Rat) .standard throughHoleResistor = .ok () := by rfl
  have hvisible (query : String)
      (hquery : throughHoleResistor.query.bind nonBlank? = some query) :
      visible (Connector.spellIpex query).toList ≠ [] := by
    obtain rfl := Option.some.inj hquery
    decide +kernel
  obtain ⟨plan, hplan⟩ := Plan.exists_ofRequest (t := {}) rfl hvalid hvisible
  obtain ⟨-, c, hkeeps⟩ := search_keepsGiven hplan
  obtain ⟨scope, hscope, hclause⟩ := hkeeps.givenScope rfl
  obtain rfl := Except.ok.inj hscope
  exact ⟨plan, hplan, c, hkeeps, hclause, hkeeps.givenPackages rfl, hkeeps.givenMounting _ rfl⟩

end PartSearch
