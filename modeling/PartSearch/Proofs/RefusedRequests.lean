import PartSearch.Proofs.GivenConditions
import PartSearch.Proofs.NarrowedSearches

/-!
# Requests without anything to search for

A search is refused for want of terms in two places: if the text to look for has no words, and if
there is no text and no condition either. A query that is not blank never gets there. Its text is
looked for, or the reading has taken a filter or a subcategory out of it; and where the request
hides what was read, it does so by a condition of its own. So a search is refused exactly if the
request asks for nothing at all, `search_eq_noSearchableTerms_iff`.
-/

namespace PartSearch

open Text

/-! ### Text that stays visible -/

/-- Where every occurrence is replaced by something visible, a text does not become blank. -/
theorem Text.Pattern.visible_replaceFrom_ne_nil (p : Pattern) {write : Found → List Char}
    (hwrite : ∀ m, visible (write m) ≠ []) {cs : List Char} (hcs : visible cs ≠ [])
    (before : List Char) : visible (p.replaceFrom write before 0 cs) ≠ [] := by
  induction cs generalizing before with
  | nil => exact absurd rfl hcs
  | cons c cs ih =>
      have hkeep : visible (c :: p.replaceFrom write (c :: before) 0 cs) ≠ [] := by
        rw [visible_cons] at hcs ⊢
        intro hnil
        obtain ⟨hc, hrest⟩ := List.append_eq_nil_iff.mp hnil
        rw [hc, List.nil_append] at hcs
        exact ih hcs (c :: before) hrest
      rw [Pattern.replaceFrom]
      split
      · rename_i m hat
        split
        · exact hkeep
        · rw [visible_append]
          exact fun hnil => hwrite m (List.append_eq_nil_iff.mp hnil).1
      · exact hkeep

theorem Connector.visible_spellIpex {text : String} (h : visible text.toList ≠ []) :
    visible (spellIpex text).toList ≠ [] := by
  rw [spellIpex, String.toList_ofList]
  exact Pattern.visible_replaceFrom_ne_nil _ (fun _ => by decide) h []

theorem visible_of_nonBlank? {text trimmedText : String} (h : nonBlank? text = some trimmedText) :
    visible trimmedText.toList ≠ [] := by
  unfold nonBlank? at h
  simp only at h
  split at h
  · cases h
  · rename_i hne
    obtain rfl := Option.some.inj h
    rw [trimmed, String.toList_ofList]
    refine visible_trim_ne_nil fun hnil => hne ?_
    rw [trimmed, hnil]
    rfl

/-! ### What is wanted of a query -/

theorem SpecFilter.merge_ne_nil (manual : List SpecFilter) {read : List SpecFilter}
    (h : read ≠ []) : merge manual read ≠ [] := by
  unfold merge
  cases manual with
  | nil => simpa using h
  | cons m manual => exact List.append_ne_nil_of_left_ne_nil (List.cons_ne_nil m manual) _

namespace Request

/-- Text is dropped only where the reading found something else. -/
theorem read_of_freeTextOf_eq_none {reading : ParsedQuery} {query : String}
    (h : freeTextOf reading query = none) :
    reading.filters ≠ [] ∨ reading.subcategory.isSome = true := by
  simp only [freeTextOf] at h
  split at h
  · cases h
  · split at h
    · rename_i hread
      rw [Bool.or_eq_true, Bool.not_eq_true', List.isEmpty_eq_false_iff] at hread
      exact hread
    · cases h

/-- What a reading finds is wanted, or something that the request says itself is wanted in its
place. -/
theorem isStructural_withReading (r : Request) (query : String) {reading : ParsedQuery}
    (h : reading.filters ≠ [] ∨ reading.subcategory.isSome = true) :
    r.isStructural (r.withReading query reading) = true := by
  rcases h with hfilters | hsubcategory
  · have hmerged : (SpecFilter.merge r.filters reading.filters).isEmpty = false :=
      List.isEmpty_eq_false_iff.mpr (SpecFilter.merge_ne_nil r.filters hfilters)
    simp [isStructural, withReading, hmerged]
  · cases hid : r.subcategoryId with
    | some id => simp [isStructural, hid]
    | none =>
        cases hname : r.subcategory with
        | some name => simp [isStructural, withReading, hid, hname]
        | none =>
            cases hcategory : r.category with
            | some category => simp [isStructural, hcategory]
            | none => simp [isStructural, withReading, hid, hname, hcategory, hsubcategory]

variable {ν : Type} [Number ν] {r : Request}

theorem wanted_of_query {query : String} (hquery : r.query.bind nonBlank? = some query) :
    r.wanted ν = r.asGiven (some (Connector.spellIpex query)) ∨
      ∃ reading, r.wanted ν = r.withReading (Connector.spellIpex query) reading := by
  unfold wanted
  rw [hquery, Option.map_some]
  cases r.readQuery with
  | true => exact Or.inr ⟨_, rfl⟩
  | false => exact Or.inl rfl

/-- If a query that is not blank leaves no text to look for, there is a condition. -/
theorem isStructural_of_text_eq_none {query : String}
    (hquery : r.query.bind nonBlank? = some query) (h : (r.wanted ν).text = none) :
    r.isStructural (r.wanted ν) = true := by
  rcases r.wanted_of_query (ν := ν) hquery with hgiven | ⟨reading, hread⟩
  · rw [hgiven] at h
    cases h
  · rw [hread] at h ⊢
    simp only [withReading] at h
    exact r.isStructural_withReading _ (read_of_freeTextOf_eq_none h)

theorem wanted_of_blank (h : r.query.bind nonBlank? = none) : r.wanted ν = r.asGiven none := by
  rw [wanted, h]
  rfl

end Request

/-! ### Refusals -/

theorem Query.validate_ne_noSearchableTerms (max : Nat) (text : String) :
    validate max text ≠ .error .noSearchableTerms := by
  simp only [validate]
  intro h
  split at h
  · cases h
  · split at h <;> cases h

namespace Plan

variable {ν : Type} [Number ν] {t : Taxonomy} {settings : SearchSettings ν} {r : Request}

omit [Number ν] in
theorem validQuery_ne_noSearchableTerms :
    validQuery settings r ≠ .error .noSearchableTerms := by
  unfold validQuery
  split
  · exact Query.validate_ne_noSearchableTerms _ _
  · nofun

/-- A request with a valid query is refused for want of terms exactly if it fails the check for
something to search for. -/
theorem ofRequest_eq_noSearchableTerms_iff :
    ofRequest t settings r = .error (.query .noSearchableTerms) ↔
      ∃ text : Option (Predicate ν), validQuery settings r = .ok () ∧
        (r.wanted ν).text.bind (textClause? r.matchAll) = text ∧
        ((r.wanted ν).text.isSome && text.isNone ||
          text.isNone && !r.isStructural (r.wanted ν)) = true := by
  simp only [ofRequest, bind, Except.bind, pure, Except.pure]
  generalize (r.wanted ν).text.bind (textClause? r.matchAll) = text
  cases hvalid : validQuery settings r with
  | error e =>
      simp only [Except.mapError, Except.error.injEq, Refusal.query.injEq, reduceCtorEq, false_and,
        exists_false, iff_false]
      rintro rfl
      exact validQuery_ne_noSearchableTerms hvalid
  | ok =>
      simp only [mapError_ok, true_and, exists_eq_left']
      split
      · rename_i hcheck
        exact ⟨fun _ => hcheck, fun _ => rfl⟩
      · rename_i hcheck
        refine iff_of_false (fun h => ?_) hcheck
        cases hscope : Scope.resolve (ν := ν) t r.subcategoryId (r.wanted ν).subcategory
            r.category with
        | error name =>
            rw [hscope] at h
            cases h
        | ok scope =>
            rw [hscope] at h
            cases h

/-- A query that is not blank is enough to search for. -/
theorem passes_check_of_query {query : String} (hquery : r.query.bind nonBlank? = some query)
    {text : Option (Predicate ν)}
    (htext : (r.wanted ν).text.bind (textClause? r.matchAll) = text) :
    ((r.wanted ν).text.isSome && text.isNone ||
      text.isNone && !r.isStructural (r.wanted ν)) = false := by
  have hvisible : ∀ query, r.query.bind nonBlank? = some query →
      visible (Connector.spellIpex query).toList ≠ [] := by
    intro query hquery
    obtain ⟨given, -, hgiven⟩ := Option.bind_eq_some_iff.mp hquery
    exact Connector.visible_spellIpex (visible_of_nonBlank? hgiven)
  cases hwanted : (r.wanted ν).text with
  | none =>
      rw [Request.isStructural_of_text_eq_none hquery hwanted]
      simp
  | some looked =>
      have hterms := isSome_textClause? (ν := ν) r.matchAll
        (Request.visible_of_wanted hvisible hwanted)
      rw [hwanted, Option.bind_some] at htext
      rw [← htext, ← Option.not_isSome, hterms]
      rfl

end Plan

/-- The request has no query, or a blank one, and says nothing else to search for either. -/
structure Request.AsksNothing (r : Request) : Prop where
  query : ∀ query ∈ r.query, isBlankText query = true
  subcategoryId : r.subcategoryId = none
  subcategory : r.subcategory = none
  category : r.category = none
  filters : r.filters = []
  package : r.package = none
  packages : r.packages = []
  manufacturer : r.manufacturer = none
  mounting : r.mounting = none

namespace Request

variable {r : Request}

theorem bind_nonBlank?_eq_none_iff :
    r.query.bind nonBlank? = none ↔ ∀ query ∈ r.query, isBlankText query = true := by
  cases r.query with
  | none => simp
  | some query =>
      rw [Option.bind_some, ← Option.not_isSome_iff_eq_none, isSome_nonBlank?]
      simp

theorem asksNothing_iff :
    r.AsksNothing ↔ r.query.bind nonBlank? = none ∧ r.isStructural (r.asGiven none) = false := by
  rw [bind_nonBlank?_eq_none_iff]
  constructor
  · rintro ⟨hquery, hid, hsubcategory, hcategory, hfilters, hpackage, hpackages, hmaker, hmounting⟩
    refine ⟨hquery, ?_⟩
    simp [isStructural, asGiven, hid, hsubcategory, hcategory, hfilters, hpackage, hpackages,
      hmaker, hmounting]
  · rintro ⟨hquery, hnothing⟩
    simp only [isStructural, asGiven, Bool.or_eq_false_iff, Option.isSome_eq_false_iff,
      Option.isNone_iff_eq_none, Bool.not_eq_false', List.isEmpty_iff] at hnothing
    obtain ⟨⟨⟨⟨⟨⟨⟨hid, hsubcategory⟩, hcategory⟩, hfilters⟩, hpackage⟩, hpackages⟩, hmaker⟩,
      hmounting⟩ := hnothing
    exact ⟨hquery, hid, hsubcategory, hcategory, hfilters, hpackage, hpackages, hmaker, hmounting⟩

end Request

variable {ν : Type} [Number ν]

/-- Whatever the store, the catalog and the settings, a search is refused for want of terms exactly
if the request asks for nothing. A query that is not blank is never refused for that, whatever is
read from it. -/
theorem search_eq_noSearchableTerms_iff (store : StoreAccess ν) (t : Taxonomy)
    (settings : SearchSettings ν) (r : Request) :
    search store t settings r = .error (.query .noSearchableTerms) ↔ r.AsksNothing := by
  have hplan : search store t settings r = .error (.query .noSearchableTerms) ↔
      Plan.ofRequest t settings r = .error (.query .noSearchableTerms) := by
    unfold search
    cases Plan.ofRequest t settings r with
    | error refusal => cases refusal <;> simp
    | ok plan => cases hanswer : store plan.query <;> simp [hanswer]
  rw [hplan, Plan.ofRequest_eq_noSearchableTerms_iff, Request.asksNothing_iff]
  constructor
  · rintro ⟨text, -, htext, hcheck⟩
    cases hquery : r.query.bind nonBlank? with
    | some query =>
        rw [Plan.passes_check_of_query hquery htext] at hcheck
        cases hcheck
    | none =>
        rw [Request.wanted_of_blank hquery] at htext hcheck
        obtain rfl : none = text := htext
        exact ⟨rfl, by simpa [Request.asGiven] using hcheck⟩
  · rintro ⟨hquery, hnothing⟩
    have hvalid : Plan.validQuery settings r = .ok () := by
      rw [Plan.validQuery, hquery]
    refine ⟨none, hvalid, ?_⟩
    rw [Request.wanted_of_blank hquery, hnothing]
    exact ⟨rfl, rfl⟩

end PartSearch
