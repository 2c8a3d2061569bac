import PartSearch.Proofs.CompiledGroups
import PartSearch.Proofs.GroupedFilters
import PartSearch.Proofs.StageFrame
import PartSearch.Proofs.TierTotals
import PartSearch.Proofs.TrimmedText

/-!
# Searches that are narrowed down

A request is refused if there is nothing to search on. The check counts a subcategory, category or
manufacturer that is given but blank, while the conditions are made without blank names. Every other
field that the check counts becomes a condition, `Plan.Asks.narrows_iff_isStructural`. So a search
narrows the catalog down exactly if the check would pass without the blank names, and always if the
request has none, `search_narrows_iff`.
-/

namespace PartSearch

/-! ### Blank names -/

/-- The first byte of the text is a visible ASCII character. Bytes of a literal are faster to read
than its characters. -/
def startsVisibly (s : String) : Bool :=
  (s.toByteArray.data.toList.head?.map fun b => 33 ≤ b.toNat && b.toNat ≤ 126).getD false

theorem Text.isBlank_eq_false_of_head? {c : Char} {b : UInt8}
    (h : (String.utf8EncodeChar c).head? = some b) (hlow : 33 ≤ b.toNat) (hhigh : b.toNat ≤ 126) :
    Text.isBlank c = false := by
  have hascii : c.toNat = b.toNat := by
    simp only [String.utf8EncodeChar] at h
    split_ifs at h with h1 h2 h3
    all_goals
      obtain rfl := Option.some.inj h
      simp only [UInt8.toNat_ofNat'] at hlow hhigh ⊢
      rw [Char.toNat]
      omega
  have hspace : c ≠ ' ' := by
    rintro rfl
    rw [← hascii] at hlow
    exact absurd hlow (by decide)
  rw [Text.isBlank, Text.isAscii, if_pos (by simpa using by omega)]
  simp [hspace]
  omega

theorem isBlankText_of_startsVisibly {s : String} (h : startsVisibly s = true) :
    isBlankText s = false := by
  unfold startsVisibly at h
  rw [← String.utf8Encode_toList, List.utf8Encode, List.toList_data_toByteArray] at h
  rw [isBlankText]
  cases hchars : s.toList with
  | nil =>
      rw [hchars] at h
      cases h
  | cons c cs =>
      rw [hchars, List.flatMap_cons, List.head?_append] at h
      cases hbytes : (String.utf8EncodeChar c).head? with
      | none =>
          simp only [String.utf8EncodeChar] at hbytes
          split_ifs at hbytes <;> cases hbytes
      | some b =>
          rw [hbytes] at h
          have hb : (33 ≤ b.toNat && b.toNat ≤ 126) = true := h
          rw [Bool.and_eq_true, decide_eq_true_iff, decide_eq_true_iff] at hb
          rw [List.all_cons, Text.isBlank_eq_false_of_head? hbytes hb.1 hb.2]
          rfl

theorem isSome_nonBlank? (text : String) : (nonBlank? text).isSome = !isBlankText text := by
  have hempty : (trimmed text).isEmpty = isBlankText text := by
    rw [Bool.eq_iff_iff, String.isEmpty_iff, trimmed, isBlankText, ← Text.trim_eq_nil_iff,
      ← String.toList_inj, String.toList_ofList]
    rfl
  simp only [nonBlank?, hempty]
  cases isBlankText text with
  | true => rfl
  | false => rfl

/-- A name that is given and not blank. -/
def givenName? (name : Option String) : Option String := name.filter fun s => !isBlankText s

theorem isSome_bind_nonBlank? (name : Option String) :
    (name.bind nonBlank?).isSome = (givenName? name).isSome := by
  cases name with
  | none => rfl
  | some s =>
      rw [Option.bind_some, isSome_nonBlank?, givenName?, Option.filter_some]
      cases isBlankText s with
      | true => rfl
      | false => rfl

namespace Request

/-- The request as if its blank names were not given. -/
def withoutBlankNames (r : Request) : Request :=
  { r with
    subcategory := givenName? r.subcategory
    category := givenName? r.category
    manufacturer := givenName? r.manufacturer }

end Request

def Wanted.withoutBlankNames (w : Wanted) : Wanted :=
  { w with subcategory := givenName? w.subcategory }

/-! ### Every field becomes a condition -/

namespace Footprint

theorem ne_nil_of_lookup {table : List (String × List String)}
    (htable : ∀ entry ∈ table, entry.2 ≠ []) {name : String} {found : List String}
    (h : table.lookup name = some found) : found ≠ [] := by
  obtain ⟨before, after, hsplit, -⟩ := List.lookup_eq_some_iff.mp h
  exact htable (name, found) (hsplit ▸ List.mem_append_right before List.mem_cons_self)

theorem spellings_ne_nil (package : String) : spellings package ≠ [] := by
  have hfamilies : ∀ entry ∈ families, entry.2 ≠ [] := by decide +kernel
  have hbodies : ∀ entry ∈ bodies, entry.2 ≠ [] := by decide +kernel
  simp only [spellings]
  generalize lowercase (trimmed package) = name
  cases hfamily : families.lookup name with
  | some found => exact ne_nil_of_lookup hfamilies hfamily
  | none =>
      cases hsize : ofBareSize? name with
      | some found =>
          unfold ofBareSize? at hsize
          split at hsize
          · exact ne_nil_of_lookup hbodies hsize
          · cases hsize
      | none =>
          cases hbody : ofBody? name with
          | some found =>
              obtain ⟨m, -, hlookup⟩ := Option.bind_eq_some_iff.mp hbody
              exact ne_nil_of_lookup hbodies hlookup
          | none => exact List.cons_ne_nil _ _

end Footprint

variable {ν : Type} [Number ν]

/-- No filter goes without a condition. -/
theorem Compiled.clauses_ofGroups_eq_nil_iff (t : Tolerance ν) (filters : List SpecFilter) :
    (ofGroups t (FilterGroup.ofFilters filters)).clauses = [] ↔ filters = [] := by
  constructor
  · intro hnone
    by_contra hfilters
    have hvalues : ∀ g ∈ FilterGroup.ofFilters filters, g.values ≠ [] :=
      fun _ => FilterGroup.values_ne_nil_of_mem_ofFilters
    have hlength := (forall₂_clauses t hvalues).length_eq
    rw [hnone] at hlength
    exact FilterGroup.ofFilters_ne_nil hfilters (List.eq_nil_of_length_eq_zero hlength)
  · rintro rfl
    rfl

/-! ### The conditions of a plan -/

namespace Predicate

/-- Neither a bound on the stock nor a restriction to fee tiers. -/
def IsSelective (p : Predicate ν) : Prop :=
  (∀ stock, p ≠ .minStock stock) ∧ ∀ filter : TierFilter, p ≠ filter.clause

def isStockBound : Predicate ν → Bool
  | minStock _ => true
  | _ => false

omit [Number ν] in
theorem isSelective_of_eq_false {p : Predicate ν} (hstock : p.isStockBound = false)
    (htier : p.restrictsTier = false) : IsSelective p := by
  constructor
  · rintro stock rfl
    cases hstock
  · rintro filter rfl
    rw [filter.restrictsTier_clause] at htier
    cases htier

theorem isSelective_of_mem_compile {t : Tolerance ν} {g : FilterGroup} {p : Predicate ν}
    (hp : p ∈ (g.compile t).clauses) : IsSelective p := by
  refine isSelective_of_eq_false ?_ (FilterGroup.restrictsTier_of_mem_compile hp)
  rcases FilterGroup.column_or_patterns_of_mem_compile hp with
    ⟨column, targets, rfl⟩ | ⟨patterns, rfl, -⟩
  · have hcolumn : ∀ q ∈ targets.map (FilterGroup.columnClause t column g.operator),
        q.isStockBound = false := by
      intro q hq
      obtain ⟨x, -, rfl⟩ := List.mem_map.mp hq
      unfold FilterGroup.columnClause
      split <;> rfl
    unfold FilterGroup.alternatives
    split
    · rename_i q heq
      rw [heq] at hcolumn
      exact hcolumn q List.mem_cons_self
    · rfl
  · rfl

end Predicate

omit [Number ν] in
/-- A scope restricts a search exactly if an id is given for it or a name that is not blank. -/
theorem Scope.clause_of_resolve {t : Taxonomy} {id : Option Nat}
    {subcategory category : Option String} {scope : Scope ν}
    (h : resolve t id subcategory category = .ok scope) :
    scope.clause.isSome = (id.isSome || (givenName? subcategory).isSome ||
      (givenName? category).isSome) ∧ ∀ p ∈ scope.clause, p.IsSelective := by
  unfold resolve at h
  unfold givenName?
  split at h
  · cases h
    refine ⟨rfl, fun p hp => ?_⟩
    cases hp
    exact Predicate.isSelective_of_eq_false rfl rfl
  · rename_i name hname
    rw [hname]
    cases hentry : t.resolveSubcategory name with
    | error e =>
        rw [hentry] at h
        cases h
    | ok entry =>
        rw [hentry] at h
        cases h
        refine ⟨rfl, fun p hp => ?_⟩
        cases hp
        exact Predicate.isSelective_of_eq_false rfl rfl
  · rename_i name hnone hname
    rw [hnone, hname]
    cases hfound : t.resolveCategory name with
    | error e =>
        rw [hfound] at h
        cases h
    | ok found =>
        rw [hfound] at h
        cases h
        refine ⟨rfl, fun p hp => ?_⟩
        cases hp
        exact Predicate.isSelective_of_eq_false rfl rfl
  · rename_i hnone hnone'
    rw [hnone, hnone']
    cases h
    exact ⟨rfl, nofun⟩

namespace Plan

/-- The store is asked for more than a bound on the stock and some fee tiers. -/
def Narrows (plan : Plan ν) : Prop := ∃ p ∈ plan.query.clauses, p.IsSelective

variable {t : Taxonomy} {settings : SearchSettings ν} {r : Request} {plan : Plan ν}
  {c : Conditions ν}

/-- The conditions other than a bound on the stock and a restriction to fee tiers. -/
def Conditions.selective (c : Conditions ν) : List (Predicate ν) :=
  c.beforeTier ++ (if c.packages.isEmpty then [] else [.packages c.packages]) ++
    (c.manufacturer.map .manufacturer).toList ++ (c.mounting.map .mounting).toList ++ c.filters

omit [Number ν] in
theorem Conditions.mem_clauses_iff {p : Predicate ν} :
    p ∈ c.clauses ↔ p ∈ c.selective ∨ c.tier = some p ∨
      p ∈ (if c.minStock = 0 then [] else [Predicate.minStock c.minStock]) := by
  simp only [clauses, selective, afterTier, List.mem_append, Option.mem_toList]
  tauto

omit [Number ν] in
theorem Conditions.selective_ne_nil_iff :
    c.selective ≠ [] ↔ c.text ≠ none ∨ c.scope ≠ none ∨ c.packages ≠ [] ∨
      c.manufacturer ≠ none ∨ c.mounting ≠ none ∨ c.filters ≠ [] := by
  have hpackages : (if c.packages.isEmpty then [] else [.packages c.packages]) =
      ([] : List (Predicate ν)) ↔ c.packages = [] := by
    split <;> simp_all
  simp only [selective, beforeTier, ne_eq, List.append_eq_nil_iff, Option.toList_eq_nil_iff,
    Option.map_eq_none_iff, hpackages]
  tauto

theorem Asks.isSelective_of_mem (h : Asks t settings r plan c) {p : Predicate ν}
    (hp : p ∈ c.selective) : p.IsSelective := by
  simp only [Conditions.selective, Conditions.beforeTier, List.mem_append, Option.mem_toList,
    Option.map_eq_some_iff] at hp
  rcases hp with ((((hp | hp) | hp) | ⟨name, -, rfl⟩) | ⟨mounting, -, rfl⟩) | hp
  · rw [h.text] at hp
    obtain ⟨text, -, hclause⟩ := Option.bind_eq_some_iff.mp hp
    obtain ⟨expression, -, rfl⟩ := Option.map_eq_some_iff.mp hclause
    exact Predicate.isSelective_of_eq_false rfl rfl
  · obtain ⟨scope, hresolve, hscope⟩ := h.scope
    exact (Scope.clause_of_resolve hresolve).2 p (hscope ▸ hp)
  · split at hp
    · cases hp
    · rw [List.mem_singleton.mp hp]
      exact Predicate.isSelective_of_eq_false rfl rfl
  · exact Predicate.isSelective_of_eq_false rfl rfl
  · exact Predicate.isSelective_of_eq_false rfl rfl
  · rw [h.filters] at hp
    obtain ⟨g, -, hg⟩ := List.mem_flatMap.mp hp
    exact Predicate.isSelective_of_mem_compile hg

theorem Asks.narrows_iff (h : Asks t settings r plan c) : plan.Narrows ↔ c.selective ≠ [] := by
  simp only [Narrows, h.clauses, Conditions.mem_clauses_iff]
  constructor
  · rintro ⟨p, hp | hp | hp, hstock, htier⟩
    · exact List.ne_nil_of_mem hp
    · rw [h.tier] at hp
      obtain ⟨filter, -, rfl⟩ := Option.map_eq_some_iff.mp hp
      exact absurd rfl (htier filter)
    · split at hp
      · cases hp
      · exact absurd (List.mem_singleton.mp hp) (hstock _)
  · intro hselective
    obtain ⟨p, hp⟩ := List.exists_mem_of_ne_nil _ hselective
    exact ⟨p, Or.inl hp, h.isSelective_of_mem hp⟩

theorem acceptedPackages_ne_nil_iff (r : Request) (package : Option String) :
    r.acceptedPackages package ≠ [] ↔ (package.isSome || !r.packages.isEmpty) = true := by
  unfold Request.acceptedPackages
  cases hpackages : r.packages with
  | nil =>
      cases package with
      | none => simp
      | some package => simpa using Footprint.spellings_ne_nil package
  | cons first others =>
      have hsome : (first :: others).flatMap Footprint.spellings ≠ [] := by
        rw [List.flatMap_cons]
        exact List.append_ne_nil_of_left_ne_nil (Footprint.spellings_ne_nil first) _
      simpa using hsome

/-- What the check for something to search on says of the request without its blank names. -/
theorem Asks.narrows_iff_isStructural (h : Asks t settings r plan c) :
    plan.Narrows ↔ c.text.isSome = true ∨
      r.withoutBlankNames.isStructural (r.wanted ν).withoutBlankNames = true := by
  obtain ⟨scope, hresolve, hscope⟩ := h.scope
  have hscoped : c.scope ≠ none ↔ (r.subcategoryId.isSome ||
      (givenName? (r.wanted ν).subcategory).isSome || (givenName? r.category).isSome) = true := by
    rw [hscope, ← (Scope.clause_of_resolve hresolve).1, Option.isSome_iff_ne_none]
  have hmaker : c.manufacturer ≠ none ↔ (givenName? r.manufacturer).isSome = true := by
    rw [h.manufacturer, Request.makerName?, ← Option.isSome_iff_ne_none, Option.isSome_map,
      isSome_bind_nonBlank?]
  have hfilters : c.filters ≠ [] ↔ (!(r.wanted ν).filters.isEmpty) = true := by
    rw [h.filters, Ne, Compiled.clauses_ofGroups_eq_nil_iff]
    simp
  have hpackages := acceptedPackages_ne_nil_iff r (r.wanted ν).package
  rw [← h.packages] at hpackages
  rw [h.narrows_iff, Conditions.selective_ne_nil_iff, hscoped, hpackages, hmaker, h.mounting,
    hfilters, ← Option.isSome_iff_ne_none, ← Option.isSome_iff_ne_none]
  simp only [Request.isStructural, Request.withoutBlankNames, Wanted.withoutBlankNames,
    Bool.or_eq_true, or_assoc, or_comm, or_left_comm]

end Plan

/-- A reading never names a blank subcategory. -/
theorem isBlankText_of_mem_subcategoryNames {s : String} (h : s ∈ ParsedQuery.subcategoryNames) :
    isBlankText s = false := by
  have hnames : ParsedQuery.subcategoryNames.all startsVisibly = true := by decide +kernel
  exact isBlankText_of_startsVisibly (List.all_eq_true.mp hnames s h)

theorem Request.withoutBlankNames_wanted {r : Request} (h : r.withoutBlankNames = r) :
    (r.wanted ν).withoutBlankNames = r.wanted ν := by
  have hgiven : givenName? r.subcategory = r.subcategory := congrArg Request.subcategory h
  have hwanted : givenName? (r.wanted ν).subcategory = (r.wanted ν).subcategory := by
    unfold wanted
    split
    · rename_i query _
      split
      · simp only [withReading]
        split
        · cases hs : (ParsedQuery.ofText ν query).subcategory with
          | none => rfl
          | some s =>
              rw [givenName?, Option.filter_some,
                isBlankText_of_mem_subcategoryNames (Stage.mem_subcategoryNames hs)]
              rfl
        · exact hgiven
      · exact hgiven
    · exact hgiven
  rw [Wanted.withoutBlankNames, hwanted]

/-- A search that reaches the store narrows the catalog down exactly if there is text to look for or
the check for something to search on would pass without the blank names. A request without blank
names is always narrowed down. -/
theorem search_narrows_iff {t : Taxonomy} {settings : SearchSettings ν} {r : Request}
    {plan : Plan ν} (h : Plan.ofRequest t settings r = .ok plan) :
    (∀ store : StoreAccess ν, search store t settings r =
      ((store plan.query).mapError .store).map fun answer => .found (plan.finish t answer)) ∧
    (plan.Narrows ↔ (r.wanted ν).text.isSome = true ∨
      r.withoutBlankNames.isStructural (r.wanted ν).withoutBlankNames = true) ∧
    (r.withoutBlankNames = r → plan.Narrows) := by
  obtain ⟨c, hasks⟩ := Plan.ofRequest_asks h
  obtain ⟨text, scope, -, htext, hcheck, -, -⟩ := Plan.ofRequest_eq_ok_iff.mp h
  rw [← htext, ← hasks.text, Bool.or_eq_false_iff] at hcheck
  obtain ⟨hterms, hstructural⟩ := hcheck
  have hsome : c.text.isSome = (r.wanted ν).text.isSome := by
    rw [hasks.text] at hterms ⊢
    cases hwanted : (r.wanted ν).text with
    | none => rfl
    | some text =>
        rw [hwanted, ← Option.not_isSome] at hterms
        simpa using hterms
  have hiff := hasks.narrows_iff_isStructural
  rw [hsome] at hiff
  refine ⟨fun store => search_of_plan h store, hiff, fun hnames => hiff.mpr ?_⟩
  rw [Request.withoutBlankNames_wanted hnames, hnames, ← hsome]
  rw [← Option.not_isSome] at hstructural
  cases htextIsSome : c.text.isSome with
  | true => exact Or.inl rfl
  | false =>
      rw [htextIsSome] at hstructural
      exact Or.inr (by simpa using hstructural)

def packageOnly : Request := { package := some "0805" }

theorem search_narrows_iff_packageOnly :
    ∃ plan, Plan.ofRequest (ν := Rat) {} .standard packageOnly = .ok plan ∧ plan.Narrows := by
  obtain ⟨plan, hplan⟩ :
      ∃ plan, Plan.ofRequest (ν := Rat) {} .standard packageOnly = .ok plan := ⟨_, rfl⟩
  exact ⟨plan, hplan, (search_narrows_iff hplan).2.2 rfl⟩

def blankSubcategory : Request := { subcategory := some "  " }

/-- A blank subcategory passes the check, and then every part in stock is a match. -/
theorem search_blankSubcategory :
    ∃ plan, Plan.ofRequest (ν := Rat) {} .standard blankSubcategory = .ok plan ∧
      plan.query.clauses = [.minStock 10] ∧ ¬ plan.Narrows := by
  obtain ⟨plan, hplan, hclauses⟩ :
      ∃ plan, Plan.ofRequest (ν := Rat) {} .standard blankSubcategory = .ok plan ∧
        plan.query.clauses = [.minStock 10] := ⟨_, rfl, rfl⟩
  refine ⟨plan, hplan, hclauses, ?_⟩
  rintro ⟨p, hp, hstock, -⟩
  rw [hclauses] at hp
  exact hstock 10 (List.mem_singleton.mp hp)

end PartSearch
