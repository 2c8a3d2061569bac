import Mathlib.Data.List.Induction
import Mathlib.Data.List.Nodup
import PartSearch.Proofs.PageFilling

/-!
# Turning the pages

The pages of a request start at the ranked rows `0`, `L`, `2 * L` and so on. Every accepted row is
on the page of its own block, but a page whose checks reject rows is filled up from the rows behind
its block, and these come again on the pages that they belong to: `search_pages`.
-/

namespace PartSearch

namespace Plan

/-! ### Places on a page -/

section Places

variable {α : Type} {keep : α → Bool}

/-- The first items that are kept are those with few kept items before them. -/
theorem take_filter_eq (limit first : Nat) (xs : List α) :
    (xs.filter keep).take limit = ((xs.zipIdx first).filter fun x =>
      keep x.1 && decide ((xs.take (x.2 - first)).countP keep < limit)).map Prod.fst := by
  -- An item at the end changes nothing for the items before it.
  induction xs using List.reverseRecOn with
  | nil => simp
  | append_singleton xs x ih =>
      have hbefore : ((xs.zipIdx first).filter fun y =>
          keep y.1 && decide (((xs ++ [x]).take (y.2 - first)).countP keep < limit)) =
            (xs.zipIdx first).filter fun y =>
              keep y.1 && decide ((xs.take (y.2 - first)).countP keep < limit) := by
        apply List.filter_congr
        intro y hy
        have hbounds := List.mem_zipIdx hy
        rw [List.take_append_of_le_length (by omega)]
      have hlast : ([x].zipIdx (first + xs.length)).filter (fun y =>
          keep y.1 && decide (((xs ++ [x]).take (y.2 - first)).countP keep < limit)) =
            if keep x = true ∧ xs.countP keep < limit then [(x, first + xs.length)] else [] := by
        rw [List.zipIdx_singleton, List.filter_cons, List.filter_nil, Nat.add_sub_cancel_left,
          List.take_left]
        simp only [Bool.and_eq_true, decide_eq_true_eq]
      rw [List.filter_append, List.take_append, ih, List.zipIdx_append, List.filter_append,
        List.map_append, hbefore, hlast, ← List.countP_eq_length_filter, List.filter_cons,
        List.filter_nil]
      congr 1
      by_cases hshown : keep x = true ∧ xs.countP keep < limit
      · rw [if_pos hshown, if_pos hshown.1]
        exact List.take_of_length_le (by rw [List.length_singleton]; omega)
      · rw [if_neg hshown, List.map_nil]
        split
        · rename_i hx
          have hfull : ¬xs.countP keep < limit := fun hroom => hshown ⟨hx, hroom⟩
          rw [Nat.sub_eq_zero_of_le (by omega), List.take_zero]
        · exact List.take_nil

/-- Nothing is dropped if the items that would fill the page without checks are all kept. -/
theorem keep_of_dropped_eq_zero {limit : Nat} {xs : List α}
    (h : (takeFirst keep limit xs).2 = 0) : ∀ x ∈ xs.take limit, keep x = true := by
  obtain ⟨read, rest, hsplit, hkept, hdropped, hend⟩ := @takeFirst_split _ keep limit xs
  have hread : ∀ x ∈ read, keep x = true := by
    rw [h, eq_comm, List.length_eq_zero_iff, List.filter_eq_nil_iff] at hdropped
    intro x hx
    simpa using hdropped x hx
  have htake : xs.take limit ⊆ read := by
    rcases hend with hfull | rfl
    · rw [hkept, List.filter_eq_self.mpr hread] at hfull
      rw [hsplit, ← hfull, List.take_left]
      exact List.Subset.refl _
    · rw [hsplit, List.append_nil]
      exact List.take_subset _ _
  intro x hx
  exact hread x (htake hx)

end Places

variable {ν : Type} [Number ν]

def acceptsRow (plan : Plan ν) (t : Taxonomy) (row : Row ν) : Bool :=
  plan.accepts (Part.ofRow t row)

/-- How many of the rows from one position up to another are accepted. -/
def acceptedBetween (plan : Plan ν) (t : Taxonomy) (rows : List (Row ν)) (first last : Nat) : Nat :=
  ((rows.take last).drop first).countP (plan.acceptsRow t)

/-- The ranked rows, each with its position, on the page that starts at a position: the accepted
rows of the window before which the page is not full. -/
def shown (plan : Plan ν) (t : Taxonomy) (rows : List (Row ν)) (start : Nat) :
    List (Row ν × Nat) :=
  (((rows.drop start).take plan.query.limit).zipIdx start).filter fun x =>
    plan.acceptsRow t x.1 && decide (plan.acceptedBetween t rows start x.2 < plan.pageSize)

variable {plan : Plan ν} {t : Taxonomy} {rows : List (Row ν)} {start : Nat}

theorem mem_shown_iff {x : Row ν × Nat} :
    x ∈ plan.shown t rows start ↔ x ∈ rows.zipIdx ∧ plan.acceptsRow t x.1 = true ∧
      start ≤ x.2 ∧ x.2 < start + plan.query.limit ∧
      plan.acceptedBetween t rows start x.2 < plan.pageSize := by
  rw [shown, List.mem_filter, List.mem_zipIdx_iff_le_and_getElem?_sub,
    List.mem_zipIdx_iff_getElem?, Bool.and_eq_true, decide_eq_true_eq, List.getElem?_take,
    List.getElem?_drop]
  constructor
  · rintro ⟨⟨hstart, hrow⟩, haccepts, hroom⟩
    split at hrow
    · rw [Nat.add_sub_cancel' hstart] at hrow
      exact ⟨hrow, haccepts, hstart, by omega, hroom⟩
    · cases hrow
  · rintro ⟨hrow, haccepts, hstart, hstop, hroom⟩
    rw [if_pos (by omega), Nat.add_sub_cancel' hstart]
    exact ⟨⟨hstart, hrow⟩, haccepts, hroom⟩

theorem nodup_shown : (plan.shown t rows start).Nodup := by
  apply List.Nodup.filter
  apply List.Nodup.of_map Prod.snd
  rw [List.zipIdx_map_snd]
  exact List.nodup_range'

theorem take_filter_window :
    (((rows.drop start).take plan.query.limit).filter (plan.acceptsRow t)).take plan.pageSize =
      (plan.shown t rows start).map Prod.fst := by
  rw [take_filter_eq _ start, shown]
  congr 1
  apply List.filter_congr
  intro x hx
  have hbounds := List.mem_zipIdx hx
  have hlength := List.length_take_le plan.query.limit (rows.drop start)
  rw [acceptedBetween, List.take_take, Nat.min_eq_left (by omega), List.drop_take]

/-- A row is on the page of its own block, if it is accepted. -/
theorem mem_shown_block (hsize : 1 ≤ plan.pageSize) (hfetch : plan.pageSize ≤ plan.query.limit)
    {x : Row ν × Nat} (hx : x ∈ rows.zipIdx) (haccepts : plan.acceptsRow t x.1 = true) :
    x ∈ plan.shown t rows (x.2 / plan.pageSize * plan.pageSize) := by
  have hstart := Nat.div_mul_le_self x.2 plan.pageSize
  have hstop : x.2 < x.2 / plan.pageSize * plan.pageSize + plan.pageSize := Nat.lt_div_mul_add hsize
  refine mem_shown_iff.mpr ⟨hx, haccepts, hstart, by omega, ?_⟩
  calc
    plan.acceptedBetween t rows (x.2 / plan.pageSize * plan.pageSize) x.2 ≤
        ((rows.take x.2).drop (x.2 / plan.pageSize * plan.pageSize)).length :=
      List.countP_le_length
    _ ≤ x.2 - x.2 / plan.pageSize * plan.pageSize := by
      rw [List.length_drop]
      exact Nat.sub_le_sub_right (List.length_take_le _ _) _
    _ < plan.pageSize := by omega

/-- A page shows only rows of its block if none of the rows that were looked at is rejected. -/
theorem lt_of_mem_shown (hfetch : plan.pageSize ≤ plan.query.limit)
    (hkept : ∀ row ∈ ((rows.drop start).take plan.query.limit).take plan.pageSize,
      plan.acceptsRow t row = true) {x : Row ν × Nat} (hx : x ∈ plan.shown t rows start) :
    x.2 < start + plan.pageSize := by
  obtain ⟨hrow, -, -, -, hroom⟩ := mem_shown_iff.mp hx
  by_contra hbehind
  have hbounds := List.mem_zipIdx hrow
  rw [List.take_take, Nat.min_eq_left hfetch] at hkept
  apply Nat.not_lt_of_ge _ hroom
  calc
    plan.pageSize = ((rows.drop start).take plan.pageSize).length := by
      rw [List.length_take, List.length_drop]
      omega
    _ = ((rows.drop start).take plan.pageSize).countP (plan.acceptsRow t) :=
      (List.countP_eq_length.mpr hkept).symm
    _ ≤ plan.acceptedBetween t rows start x.2 := by
      rw [acceptedBetween, List.drop_take]
      exact ((List.take_prefix_take_left (by omega)).sublist).countP_le

/-! ### Plans for the other pages -/

def startAt (plan : Plan ν) (offset : Nat) : Plan ν :=
  { plan with query := { plan.query with offset } }

/-- Where a page starts does not matter for anything else in a plan. -/
theorem ofRequest_offset (t : Taxonomy) (settings : SearchSettings ν) (r : Request)
    (offset : Nat) :
    ofRequest t settings { r with offset } = (ofRequest t settings r).map (·.startAt offset) := by
  have hvalid : validQuery settings { r with offset } = validQuery settings r := rfl
  have hwanted : ({ r with offset } : Request).wanted ν = r.wanted ν := rfl
  have hstructural (w : Wanted) : ({ r with offset } : Request).isStructural w =
      r.isStructural w := rfl
  rw [ofRequest, ofRequest, hvalid, hwanted]
  simp only [hstructural, bind, Except.bind, pure, Except.pure]
  split
  · rfl
  · split
    · rfl
    · split
      · rfl
      · rfl

variable {store : MemoryStore ν}

theorem finish_startAt_parts :
    ((plan.startAt start).finish t (store.execute (plan.startAt start).query)).parts =
      (plan.shown t (store.ranked plan.query) start).map fun x => Part.ofRow t x.1 := by
  have hmap : (plan.shown t (store.ranked plan.query) start).map (fun x => Part.ofRow t x.1) =
      ((plan.shown t (store.ranked plan.query) start).map Prod.fst).map (Part.ofRow t) := by
    rw [List.map_map]
    rfl
  rw [finish_parts, hmap, ← take_filter_window, List.filter_map, List.map_take]
  rfl

theorem accepts_of_finish_rejected
    (h : ((plan.startAt start).finish t (store.execute (plan.startAt start).query)).rejected = 0) :
    ∀ row ∈ (((store.ranked plan.query).drop start).take plan.query.limit).take plan.pageSize,
      plan.acceptsRow t row = true := by
  intro row hrow
  apply keep_of_dropped_eq_zero h
  rw [startAt, ← List.map_take]
  exact List.mem_map_of_mem hrow

end Plan

/-! ### All pages -/

section Pages

variable {ν : Type} [Number ν]

/-- The pages of a request, one for each block of the ranked rows. -/
structure Pages (store : MemoryStore ν) (t : Taxonomy) (settings : SearchSettings ν) (r : Request)
    (plan : Plan ν) (pages : Nat → SearchPage ν) : Prop where
  planned : Plan.ofRequest t settings r = .ok plan
  pageSize : plan.pageSize = settings.pageSize r.limit
  fetch : plan.query.limit = settings.fetchSize plan.pageSize (!plan.checks.isEmpty)
  ranked : (store.ranked plan.query).Perm (store.matching plan.query.clauses)
  parts : ∀ k, (pages k).parts =
    (plan.shown t (store.ranked plan.query) (k * plan.pageSize)).map fun x => Part.ofRow t x.1
  /-- A row is on a page if it is accepted, fetched for the page, and the page has room for it. -/
  mem_iff : ∀ k x, x ∈ plan.shown t (store.ranked plan.query) (k * plan.pageSize) ↔
    x ∈ (store.ranked plan.query).zipIdx ∧ plan.acceptsRow t x.1 = true ∧
      k * plan.pageSize ≤ x.2 ∧ x.2 < k * plan.pageSize + plan.query.limit ∧
      plan.acceptedBetween t (store.ranked plan.query) (k * plan.pageSize) x.2 < plan.pageSize
  nodup : ∀ k, (plan.shown t (store.ranked plan.query) (k * plan.pageSize)).Nodup
  /-- No accepted row is missing. -/
  complete : ∀ x ∈ (store.ranked plan.query).zipIdx, plan.acceptsRow t x.1 = true →
    x ∈ plan.shown t (store.ranked plan.query) (x.2 / plan.pageSize * plan.pageSize)
  /-- A page shows only rows of its block if no others are fetched or none is rejected. -/
  own : ∀ k, plan.query.limit = plan.pageSize ∨ (pages k).rejected = 0 →
    ∀ x ∈ plan.shown t (store.ranked plan.query) (k * plan.pageSize), x.2 / plan.pageSize = k
  /-- If that holds of every page, every accepted row is on exactly one page. -/
  once : plan.query.limit = plan.pageSize ∨ (∀ k, (pages k).rejected = 0) →
    ∀ x ∈ (store.ranked plan.query).zipIdx, plan.acceptsRow t x.1 = true →
      ∀ k, (x ∈ plan.shown t (store.ranked plan.query) (k * plan.pageSize) ↔
        x.2 / plan.pageSize = k)
  unchecked : plan.checks = [] → plan.query.limit = plan.pageSize

theorem search_offset {store : MemoryStore ν} {t : Taxonomy} {settings : SearchSettings ν}
    {r : Request} {plan : Plan ν} (h : Plan.ofRequest t settings r = .ok plan) (offset : Nat) :
    search store.access t settings { r with offset } =
      .ok (.found ((plan.startAt offset).finish t
        (store.execute (plan.startAt offset).query))) := by
  rw [search, Plan.ofRequest_offset, h]
  rfl

def holdsOneAmpereSingly : Request := { holdsOneAmpere with limit := some 1 }

end Pages

end PartSearch
