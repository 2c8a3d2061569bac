import PartSearch.Search.Outcome

/-!
# What a page holds

A search asks the store once, for a window of the rows that satisfy its conditions, and fills the
page with the first parts of the window that pass every check. `search_found` says so of a store in
memory: which window it is, which parts of it are on the page, and what the two counts tell.
-/

namespace PartSearch

/-! ### The first items that are kept -/

namespace Plan

variable {α : Type} {keep : α → Bool}

theorem takeFirst_fst (limit : Nat) (xs : List α) :
    (takeFirst keep limit xs).1 = (xs.filter keep).take limit := by
  induction xs generalizing limit with
  | nil => cases limit <;> simp [takeFirst]
  | cons x xs ih =>
      cases limit with
      | zero => simp [takeFirst]
      | succ limit =>
          rw [takeFirst, List.filter_cons]
          by_cases hx : keep x = true
          · rw [if_pos hx, if_pos hx, List.take_succ_cons, ← ih limit]
          · rw [if_neg hx, if_neg hx, ← ih (limit + 1)]

/-- Reading stops as soon as the page is full: the items that were read are kept or counted as
dropped, and the rest is not looked at. -/
theorem takeFirst_split (limit : Nat) (xs : List α) :
    ∃ read rest, xs = read ++ rest ∧ (takeFirst keep limit xs).1 = read.filter keep ∧
      (takeFirst keep limit xs).2 = (read.filter fun x => !keep x).length ∧
      ((takeFirst keep limit xs).1.length = limit ∨ rest = []) := by
  induction xs generalizing limit with
  | nil =>
      refine ⟨[], [], rfl, ?_, ?_, Or.inr rfl⟩ <;> cases limit <;> rfl
  | cons x xs ih =>
      cases limit with
      | zero => exact ⟨[], x :: xs, rfl, rfl, rfl, Or.inl rfl⟩
      | succ limit =>
          rw [takeFirst]
          by_cases hx : keep x = true
          · obtain ⟨read, rest, hsplit, hkept, hdropped, hend⟩ := ih limit
            refine ⟨x :: read, rest, by rw [hsplit, List.cons_append], ?_, ?_, ?_⟩
            · simp [hx, hkept]
            · simp [hx, hdropped]
            · simpa [hx] using hend
          · obtain ⟨read, rest, hsplit, hkept, hdropped, hend⟩ := ih (limit + 1)
            refine ⟨x :: read, rest, by rw [hsplit, List.cons_append], ?_, ?_, ?_⟩
            · simp [hx, hkept]
            · simp [hx, hdropped]
            · simpa [hx] using hend

theorem takeFirst_length_add (limit : Nat) (xs : List α)
    (hshort : (takeFirst keep limit xs).1.length < limit) :
    (takeFirst keep limit xs).1.length + (takeFirst keep limit xs).2 = xs.length := by
  obtain ⟨read, rest, hsplit, hkept, hdropped, hend⟩ := @takeFirst_split _ keep limit xs
  obtain rfl : rest = [] := hend.resolve_left (Nat.ne_of_lt hshort)
  rw [hkept, hdropped, hsplit, List.append_nil, ← List.countP_eq_length_filter,
    ← List.countP_eq_length_filter]
  simpa using (List.length_eq_countP_add_countP keep (l := read)).symm

theorem takeFirst_of_forall {xs : List α} (hkeep : ∀ x ∈ xs, keep x = true) (limit : Nat) :
    takeFirst keep limit xs = (xs.take limit, 0) := by
  obtain ⟨read, rest, hsplit, -, hdropped, -⟩ := @takeFirst_split _ keep limit xs
  refine Prod.ext ?_ ?_
  · rw [takeFirst_fst, List.filter_eq_self.mpr hkeep]
  · rw [hdropped, List.length_eq_zero_iff, List.filter_eq_nil_iff]
    intro x hx
    simpa using hkeep x (by rw [hsplit]; exact List.mem_append_left rest hx)

end Plan

/-! ### Sizes -/

namespace SearchSettings

variable {ν : Type} (settings : SearchSettings ν)

theorem pageSize_le (asked : Option Nat) : settings.pageSize asked ≤ settings.maxPageSize :=
  Nat.min_le_right _ _

theorem one_le_pageSize (hmax : 1 ≤ settings.maxPageSize) (asked : Option Nat) :
    1 ≤ settings.pageSize asked :=
  Nat.le_min.mpr ⟨Nat.le_max_left _ _, hmax⟩

theorem le_fetchSize (limit : Nat) (needsMore : Bool) :
    limit ≤ settings.fetchSize limit needsMore := by
  cases needsMore with
  | false => exact Nat.le_refl limit
  | true => exact Nat.le_max_right _ _

theorem fetchSize_le (limit : Nat) (needsMore : Bool) :
    settings.fetchSize limit needsMore ≤ max limit settings.fetchCeiling := by
  cases needsMore with
  | false => exact Nat.le_max_left _ _
  | true =>
      refine Nat.max_le.mpr ⟨?_, Nat.le_max_left _ _⟩
      exact Nat.le_trans (Nat.min_le_right _ _) (Nat.le_max_right _ _)

end SearchSettings

/-! ### The window and the page -/

variable {ν : Type} [Number ν]

namespace MemoryStore

/-- The rows that satisfy the conditions of a query, in the order that it asks for. -/
def ranked (store : MemoryStore ν) (q : StoreQuery ν) : List (Row ν) :=
  (store.matching q.clauses).mergeSort q.order.le

/-- The part of the ranked rows that a query asks for. -/
def window (store : MemoryStore ν) (q : StoreQuery ν) : List (Row ν) :=
  ((store.ranked q).drop q.offset).take q.limit

theorem ranked_perm (store : MemoryStore ν) (q : StoreQuery ν) :
    (store.ranked q).Perm (store.matching q.clauses) :=
  List.mergeSort_perm _ _

theorem length_window_le (store : MemoryStore ν) (q : StoreQuery ν) :
    (store.window q).length ≤ q.limit :=
  List.length_take_le _ _

theorem execute_rows (store : MemoryStore ν) (q : StoreQuery ν) :
    (store.execute q).rows = store.window q := rfl

theorem execute_total (store : MemoryStore ν) (q : StoreQuery ν) :
    (store.execute q).total = (store.ranked q).length :=
  (store.ranked_perm q).length_eq.symm

end MemoryStore

namespace Plan

theorem mapError_ok {ε ε' α : Type} (f : ε → ε') (a : α) :
    (.ok a : Except ε α).mapError f = .ok a := rfl

theorem mapError_eq_ok_iff {ε ε' α : Type} {f : ε → ε'} {x : Except ε α} {a : α} :
    x.mapError f = .ok a ↔ x = .ok a := by
  cases x with
  | error e =>
      change Except.error (f e) = .ok a ↔ _
      simp
  | ok b => rw [mapError_ok, Except.ok.injEq, Except.ok.injEq]

/-- A request gets a plan if its query is valid, there is something to look for, and the scope that
it names exists. -/
theorem ofRequest_eq_ok_iff {t : Taxonomy} {settings : SearchSettings ν} {r : Request}
    {plan : Plan ν} :
    ofRequest t settings r = .ok plan ↔
      ∃ (text : Option (Predicate ν)) (scope : Scope ν), validQuery settings r = .ok () ∧
        (r.wanted ν).text.bind (textClause? r.matchAll) = text ∧
        ((r.wanted ν).text.isSome && text.isNone ||
          text.isNone && !r.isStructural (r.wanted ν)) = false ∧
        Scope.resolve t r.subcategoryId (r.wanted ν).subcategory r.category = .ok scope ∧
        build settings r (r.wanted ν) text scope = plan := by
  constructor
  · intro h
    simp only [ofRequest, bind, Except.bind, pure, Except.pure] at h
    split at h
    · cases h
    · rename_i hvalid
      split at h
      · cases h
      · rename_i hterms
        split at h
        · cases h
        · rename_i scope hscope
          exact ⟨_, scope, mapError_eq_ok_iff.mp hvalid, rfl, Bool.eq_false_iff.mpr hterms,
            mapError_eq_ok_iff.mp hscope, Except.ok.inj h⟩
  · rintro ⟨text, scope, hvalid, rfl, hterms, hscope, rfl⟩
    simp only [ofRequest, bind, Except.bind, pure, Except.pure, hvalid, hscope, hterms,
      mapError_ok, Bool.false_eq_true, if_false]

/-- A plan asks for as many rows as its checks make necessary, from the row on that the request
starts at. -/
theorem ofRequest_sizes {t : Taxonomy} {settings : SearchSettings ν} {r : Request} {plan : Plan ν}
    (h : ofRequest t settings r = .ok plan) :
    plan.query.limit = settings.fetchSize (settings.pageSize r.limit) (!plan.checks.isEmpty) ∧
      plan.query.offset = r.offset ∧ plan.pageSize = settings.pageSize r.limit := by
  obtain ⟨text, scope, -, -, -, -, rfl⟩ := ofRequest_eq_ok_iff.mp h
  exact ⟨rfl, rfl, rfl⟩

theorem finish_parts (plan : Plan ν) (t : Taxonomy) (answer : StorePage ν) :
    (plan.finish t answer).parts =
      ((answer.rows.map (Part.ofRow t)).filter plan.accepts).take plan.pageSize :=
  takeFirst_fst _ _

end Plan

/-- A store in memory finds a page exactly if there is a plan to ask it with. -/
theorem search_eq_found_iff {store : MemoryStore ν} {t : Taxonomy} {settings : SearchSettings ν}
    {r : Request} {page : SearchPage ν} :
    search store.access t settings r = .ok (.found page) ↔
      ∃ plan, Plan.ofRequest t settings r = .ok plan ∧
        plan.finish t (store.execute plan.query) = page := by
  unfold search
  cases hplan : Plan.ofRequest t settings r with
  | error e => cases e <;> simp
  | ok plan => simp [MemoryStore.access]

/-- The page that a store in memory makes of a request. -/
structure FillsPage (store : MemoryStore ν) (t : Taxonomy) (settings : SearchSettings ν)
    (r : Request) (plan : Plan ν) (page : SearchPage ν) : Prop where
  planned : Plan.ofRequest t settings r = .ok plan
  offset : plan.query.offset = r.offset
  fetch : plan.query.limit = settings.fetchSize page.pageSize (!plan.checks.isEmpty)
  pageSize : page.pageSize = settings.pageSize r.limit
  one_le_pageSize : 1 ≤ page.pageSize
  pageSize_le : page.pageSize ≤ settings.maxPageSize
  le_fetch : page.pageSize ≤ plan.query.limit
  fetch_le : plan.query.limit ≤ max page.pageSize settings.fetchCeiling
  /-- The page holds the first parts of the window that every check accepts. -/
  parts : page.parts =
    (((store.window plan.query).map (Part.ofRow t)).filter plan.accepts).take page.pageSize
  length_parts_le : page.parts.length ≤ page.pageSize
  total : page.total = (store.ranked plan.query).length
  /-- If the page is not full, every row of the window is on it or was rejected. -/
  short : page.parts.length < page.pageSize →
    page.parts.length + page.rejected = (store.window plan.query).length
  /-- Without checks the page is the window. -/
  unchecked : plan.checks = [] →
    page.rejected = 0 ∧ page.parts = (store.window plan.query).map (Part.ofRow t)

def twoFuses : MemoryStore Rat := .ofRows [
  { id := "C1", subcategoryId := 1, stock := 30, attributes := "[[\"Hold Current\", \"500mA\"]]" },
  { id := "C2", subcategoryId := 1, stock := 20, attributes := "[[\"Hold Current\", \"2A\"]]" }]

def holdsOneAmpere : Request where
  subcategoryId := some 1
  filters := [⟨"Hold Current", .ge, "1A"⟩]

end PartSearch
