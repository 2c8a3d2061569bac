import PartSearch.Proofs.AlikeRows
import PartSearch.Proofs.TierTotals

/-!
# Blobs that cannot be decoded

A row whose blob cannot be decoded has no attributes: it shows none, it feeds no column and it
passes no check for one. The store still matches patterns against the blob as it stands, though,
and every pattern fails on a row without attributes. So clearing the blob changes what a search
finds exactly if the row satisfies all the conditions of a search that has patterns,
`search_clear_iff`.
-/

namespace PartSearch

/-! ### Patterns over blobs -/

variable {ν : Type} [Number ν]

/-- If the condition looks at the text of a blob, then with patterns that want a quote. -/
def Predicate.WantsQuote (p : Predicate ν) : Prop :=
  p.readsBlob = true → ∃ patterns, p = .attributeLike patterns ∧
    ∀ pattern ∈ patterns, Like.WantsQuote pattern

omit [Number ν] in
theorem Predicate.readsBlob_of_onField {p : Predicate ν} (h : p.onField = true) :
    p.readsBlob = false := by
  cases p <;> first | rfl | cases h

omit [Number ν] in
theorem TierFilter.readsBlob_clause (filter : TierFilter) :
    (filter.clause : Predicate ν).readsBlob = false := by
  cases filter <;> rfl

namespace FilterGroup

omit [Number ν] in
theorem readsBlob_alternatives {ps : List (Predicate ν)} (hps : ∀ p ∈ ps, p.readsBlob = false) :
    (alternatives ps).readsBlob = false := by
  have hany : (Predicate.anyOf ps).readsBlob = false := by
    induction ps with
    | nil => rfl
    | cons p ps ih =>
        obtain ⟨hp, hrest⟩ := List.forall_mem_cons.mp hps
        rw [Predicate.readsBlob_anyOf_cons, hp, Bool.false_or]
        exact ih hrest
  unfold alternatives
  split
  · exact hps _ (List.mem_singleton_self _)
  · exact hany

theorem wantsQuote_of_mem_compile {t : Tolerance ν} {g : FilterGroup} {p : Predicate ν}
    (hp : p ∈ (g.compile t).clauses) : p.WantsQuote := by
  rcases column_or_patterns_of_mem_compile hp with ⟨column, targets, rfl⟩ | ⟨patterns, rfl, hwants⟩
  · intro hreads
    rw [readsBlob_alternatives] at hreads
    · cases hreads
    · intro q hq
      obtain ⟨x, -, rfl⟩ := List.mem_map.mp hq
      unfold columnClause
      split <;> rfl
  · exact fun _ => ⟨patterns, rfl, hwants⟩

end FilterGroup

/-! ### Clearing a blob -/

namespace Row

/-- The row with an empty blob. -/
def clear (row : Row ν) : Row ν := { row with attributes := "" }

section Corrupt

variable {row : Row ν} (h : Attributes.decode? row.attributes = none)

include h

omit [Number ν] in
theorem decode?_clear :
    (Attributes.decode? "").getD [] = (Attributes.decode? row.attributes).getD [] := by
  rw [h]
  rfl

theorem satisfies_clear {p : Predicate ν} (hp : p.readsBlob = false) :
    (IndexedRow.ofRow row.clear).satisfies p = (IndexedRow.ofRow row).satisfies p := by
  refine (IndexedRow.satisfies_spelling (decode?_clear h) fun hreads => ?_).symm
  rw [hp] at hreads
  cases hreads

/-- With its blob cleared the row satisfies what it satisfied before, but no pattern. -/
theorem satisfiesAll_clear {ps : List (Predicate ν)} (hps : ∀ p ∈ ps, p.WantsQuote) :
    (IndexedRow.ofRow row.clear).satisfiesAll ps =
      ((IndexedRow.ofRow row).satisfiesAll ps && !ps.any Predicate.readsBlob) := by
  cases hreads : ps.any Predicate.readsBlob with
  | false =>
      rw [List.any_eq_false] at hreads
      rw [Bool.not_false, Bool.and_true, Bool.eq_iff_iff, IndexedRow.satisfiesAll,
        IndexedRow.satisfiesAll, List.all_eq_true, List.all_eq_true]
      refine forall₂_congr fun p hp => ?_
      rw [satisfies_clear h (Bool.eq_false_iff.mpr (hreads p hp))]
  | true =>
      obtain ⟨p, hp, hblob⟩ := List.any_eq_true.mp hreads
      obtain ⟨patterns, rfl, hpatterns⟩ := hps p hp hblob
      rw [Bool.not_true, Bool.and_false, IndexedRow.satisfiesAll, List.all_eq_false]
      refine ⟨_, hp, ?_⟩
      have hblank : (IndexedRow.ofRow row.clear).blob = "[]" := rfl
      rw [IndexedRow.satisfies, Bool.not_eq_true, List.any_eq_false, hblank]
      intro pattern hpattern
      rw [(hpatterns pattern hpattern).not_isMatch (by decide)]
      exact Bool.false_ne_true

end Corrupt

end Row

/-! ### What a search makes of it -/

namespace Plan

variable {t : Taxonomy} {settings : SearchSettings ν} {r : Request} {plan : Plan ν}

/-- The patterns of a plan look for attributes, and the counts have the same patterns. -/
theorem ofRequest_wantsQuote (h : ofRequest t settings r = .ok plan) :
    (∀ p ∈ plan.query.clauses, p.WantsQuote) ∧ (∀ p ∈ plan.query.countClauses, p.WantsQuote) ∧
      plan.query.countClauses.any Predicate.readsBlob =
        plan.query.clauses.any Predicate.readsBlob := by
  obtain ⟨c, hasks⟩ := ofRequest_asks h
  have hother : ∀ p ∈ c.beforeTier ++ c.afterTier, p.WantsQuote := by
    intro p hp
    rcases hasks.onField_or_filter p hp with hfield | ⟨g, hg⟩
    · intro hreads
      rw [Predicate.readsBlob_of_onField hfield] at hreads
      cases hreads
    · exact FilterGroup.wantsQuote_of_mem_compile hg
  have htier : ∀ p ∈ c.tier.toList, p.readsBlob = false := by
    rw [hasks.tier]
    intro p hp
    obtain ⟨filter, -, rfl⟩ := Option.map_eq_some_iff.mp (Option.mem_toList.mp hp)
    exact filter.readsBlob_clause
  rw [hasks.countClauses_eq, hasks.clauses, Conditions.clauses]
  refine ⟨?_, hother, ?_⟩
  · intro p hp
    rw [List.append_assoc, List.mem_append, List.mem_append] at hp
    rcases hp with hp | hp | hp
    · exact hother p (List.mem_append_left _ hp)
    · intro hreads
      rw [htier p hp] at hreads
      cases hreads
    · exact hother p (List.mem_append_right _ hp)
  · have hnone : c.tier.toList.any Predicate.readsBlob = false :=
      List.any_eq_false.mpr fun p hp => Bool.eq_false_iff.mp (htier p hp)
    rw [List.any_append, List.any_append, List.any_append, hnone, Bool.or_false]

theorem ofRequest_satisfiesAll_countClauses (h : ofRequest t settings r = .ok plan)
    {row : IndexedRow ν} (hrow : row.satisfiesAll plan.query.clauses = true) :
    row.satisfiesAll plan.query.countClauses = true := by
  obtain ⟨c, hasks⟩ := ofRequest_asks h
  rw [hasks.clauses, IndexedRow.satisfiesAll, List.all_eq_true] at hrow
  rw [hasks.countClauses, IndexedRow.satisfiesAll, List.all_eq_true]
  exact fun p hp => hrow p (List.mem_filter.mp hp).1

end Plan

namespace MemoryStore

theorem sum_tiers (store : MemoryStore ν) (q : StoreQuery ν) :
    (FeeTier.all.map (store.execute q).tiers.count).sum =
      (store.matching q.countClauses).length := by
  have hsum := TierCounts.sum_count ((store.matching q.countClauses).map Row.tier) fun _ => true
  rw [List.filter_true, List.filter_true, List.length_map] at hsum
  exact hsum

/-- If a row takes the place of another one and the counts stay, then both are counted or none. -/
theorem satisfiesAll_eq_of_tiers_eq {before after : List (Row ν)} {row row' : Row ν}
    {q : StoreQuery ν} (h : ((ofRows (before ++ row :: after)).execute q).tiers =
      ((ofRows (before ++ row' :: after)).execute q).tiers) :
    (IndexedRow.ofRow row).satisfiesAll q.countClauses =
      (IndexedRow.ofRow row').satisfiesAll q.countClauses := by
  have hlength : ((ofRows (before ++ row :: after)).matching q.countClauses).length =
      ((ofRows (before ++ row' :: after)).matching q.countClauses).length := by
    rw [← sum_tiers, ← sum_tiers, h]
  rw [matching_ofRows, matching_ofRows, List.filter_append, List.filter_append,
    List.length_append, List.length_append, Nat.add_left_cancel_iff, List.filter_cons,
    List.filter_cons] at hlength
  cases hrow : (IndexedRow.ofRow row).satisfiesAll q.countClauses <;>
    cases hrow' : (IndexedRow.ofRow row').satisfiesAll q.countClauses <;>
      simp [hrow, hrow'] at hlength ⊢

theorem search_ne_storeError (store : MemoryStore ν) (t : Taxonomy) (settings : SearchSettings ν)
    (r : Request) (e : StoreError) : search store.access t settings r ≠ .error (.store e) := by
  unfold search
  split
  · rintro ⟨⟩
  · rintro ⟨⟩
  · simp only [access]
    rintro ⟨⟩

end MemoryStore

section

variable {row : Row ν} (hcorrupt : Attributes.decode? row.attributes = none)
  (before after : List (Row ν))

include hcorrupt

theorem Plan.alike_clear {t : Taxonomy} {settings : SearchSettings ν} {r : Request} {plan : Plan ν}
    (hplan : ofRequest t settings r = .ok plan)
    (hrow : plan.query.clauses.any Predicate.readsBlob = true →
      (IndexedRow.ofRow row).satisfiesAll plan.query.countClauses = false) :
    row.clear.Alike plan.query row := by
  obtain ⟨hclauses, hcounts, hreads⟩ := ofRequest_wantsQuote hplan
  have hsame {ps : List (Predicate ν)} (hps : ∀ p ∈ ps, p.WantsQuote)
      (hblob : ps.any Predicate.readsBlob = plan.query.clauses.any Predicate.readsBlob)
      (hcounted : (IndexedRow.ofRow row).satisfiesAll ps = true →
        (IndexedRow.ofRow row).satisfiesAll plan.query.countClauses = true) :
      (IndexedRow.ofRow row.clear).satisfiesAll ps = (IndexedRow.ofRow row).satisfiesAll ps := by
    rw [Row.satisfiesAll_clear hcorrupt hps, hblob]
    cases hany : plan.query.clauses.any Predicate.readsBlob with
    | false => rw [Bool.not_false, Bool.and_true]
    | true =>
        cases hall : (IndexedRow.ofRow row).satisfiesAll ps with
        | false => rfl
        | true =>
            have hcount := hcounted hall
            rw [hrow hany] at hcount
            cases hcount
  exact ⟨(Row.shown_spelling (Row.decode?_clear hcorrupt)).symm,
    hsame hclauses rfl (ofRequest_satisfiesAll_countClauses hplan), hsame hcounts hreads id⟩

/-- Clearing the blob of a row that cannot be decoded leaves a search as it is, except that a search
with patterns loses the row if the patterns matched it. Nothing else tells the row from one without
attributes, and it makes no search fail. -/
theorem search_clear_iff (t : Taxonomy) (settings : SearchSettings ν) (r : Request) :
    (search (MemoryStore.ofRows (before ++ row.clear :: after)).access t settings r =
        search (MemoryStore.ofRows (before ++ row :: after)).access t settings r ↔
      ∀ plan, Plan.ofRequest t settings r = .ok plan →
        plan.query.clauses.any Predicate.readsBlob = true →
          (IndexedRow.ofRow row).satisfiesAll plan.query.countClauses = false) ∧
    (Part.ofRow t row).attributes = [] ∧ Part.ofRow t row.clear = Part.ofRow t row ∧
    (IndexedRow.ofRow row.clear).columns = (IndexedRow.ofRow row).columns ∧
    (∀ p : Predicate ν, p.readsBlob = false →
      (IndexedRow.ofRow row.clear).satisfies p = (IndexedRow.ofRow row).satisfies p) ∧
    ∀ e, search (MemoryStore.ofRows (before ++ row :: after)).access t settings r ≠
      .error (.store e) := by
  refine ⟨⟨?_, ?_⟩, ?_, ?_, ?_, fun p => Row.satisfies_clear hcorrupt, ?_⟩
  · intro hsearch plan hplan hreads
    have hfound (rows : List (Row ν)) : search (MemoryStore.ofRows rows).access t settings r =
        .ok (.found (plan.finish t ((MemoryStore.ofRows rows).execute plan.query))) :=
      search_eq_found_iff.mpr ⟨plan, hplan, rfl⟩
    rw [hfound, hfound] at hsearch
    have htiers := congrArg SearchPage.tiers (SearchOutcome.found.inj (Except.ok.inj hsearch))
    obtain ⟨-, hcounts, hsame⟩ := Plan.ofRequest_wantsQuote hplan
    calc (IndexedRow.ofRow row).satisfiesAll plan.query.countClauses
        = (IndexedRow.ofRow row.clear).satisfiesAll plan.query.countClauses :=
          (MemoryStore.satisfiesAll_eq_of_tiers_eq htiers).symm
      _ = ((IndexedRow.ofRow row).satisfiesAll plan.query.countClauses && !true) := by
          rw [Row.satisfiesAll_clear hcorrupt hcounts, hsame, hreads]
      _ = false := Bool.and_false _
  · intro hrow
    refine search_congr fun plan hplan => ?_
    have hsame (rows : List (Row ν)) : List.Forall₂ (Row.Alike plan.query) rows rows :=
      List.forall₂_same.mpr fun _ _ => ⟨rfl, rfl, rfl⟩
    exact List.rel_append (hsame before)
      (.cons (Plan.alike_clear hcorrupt hplan (hrow plan hplan)) (hsame after))
  · change (Attributes.decode? row.attributes).getD [] = []
    rw [hcorrupt]
    rfl
  · simp only [Part.ofRow, Row.clear, hcorrupt]
    rfl
  · exact congrArg (row.columns ++ IndexedRow.derivedColumns ·) (Row.decode?_clear hcorrupt)
  · exact MemoryStore.search_ne_storeError _ t settings r

end

/-- The bracket at the end is missing. -/
def cutChannel : Row Rat :=
  { id := "C1", subcategoryId := 1, attributes := "[[\"Type\", \"N-Channel\"]" }

/-- The store finds the row by an attribute that it does not have. -/
theorem search_finds_cutChannel :
    Attributes.decode? cutChannel.attributes = none ∧
      ∃ page page', search (MemoryStore.ofRows [cutChannel]).access {} .standard wantsChannel =
          .ok (.found page) ∧
        search (MemoryStore.ofRows [cutChannel.clear]).access {} .standard wantsChannel =
          .ok (.found page') ∧
        page.parts.map Part.attributes = [[]] ∧ page.total = 1 ∧
        page'.parts = [] ∧ page'.total = 0 :=
  ⟨by decide +kernel, _, _, rfl, rfl, by decide +kernel, by decide +kernel, by decide +kernel,
    by decide +kernel⟩

def wantsDepletion : Request := { wantsChannel with filters := [⟨"Type", .eq, "Depletion"⟩] }

theorem search_clear_iff_depletion :
    Attributes.decode? cutChannel.attributes = none ∧
      search (MemoryStore.ofRows [cutChannel.clear]).access {} .standard wantsDepletion =
        search (MemoryStore.ofRows [cutChannel]).access {} .standard wantsDepletion := by
  have hcorrupt : Attributes.decode? cutChannel.attributes = none := by decide +kernel
  refine ⟨hcorrupt, (search_clear_iff hcorrupt [] [] {} .standard wantsDepletion).1.mpr ?_⟩
  rintro plan ⟨⟩ -
  decide +kernel

end PartSearch
