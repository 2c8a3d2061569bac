import PartSearch.Proofs.NumberOrder
import PartSearch.Proofs.PageFilling
import PartSearch.Proofs.StableSort

/-!
# The order of rows

A store in memory sorts the rows that satisfy its conditions once, leaves rows that the order does
not tell apart as they stand in the catalog, and cuts every page out of the list that results:
`execute_answersFrom`.
-/

namespace PartSearch

/-- The pages of `k` items from the first one on make up the start of the list. -/
theorem flatMap_pages {α : Type} (k n : Nat) (xs : List α) :
    ((List.range n).flatMap fun i => (xs.drop (i * k)).take k) = xs.take (n * k) := by
  induction n with
  | zero => simp
  | succ n ih =>
      rw [List.range_succ, List.flatMap_append, ih, List.flatMap_singleton, Nat.succ_mul,
        List.take_add]

variable {ν : Type} [Number ν]

/-! ### Which of two rows comes first -/

/-- The key puts the first row before the second one, or does not tell them apart. -/
inductive SortKey.Puts : SortKey → Row ν → Row ν → Prop where
  /-- The larger stock comes first. -/
  | stock {a b : Row ν} (h : b.stock ≤ a.stock) : Puts .stock a b
  /-- The lower price comes first. -/
  | price {a b : Row ν} {x y : ν} (ha : a.price = some x) (hb : b.price = some y)
      (h : (Number.rank x y).isLE = true) : Puts .price a b
  /-- A part without a price comes last. -/
  | unpriced {a b : Row ν} (hb : b.price = none) : Puts .price a b

namespace SortOrder

/-- The fee tier decides first, if it counts, and then the key. -/
def Puts (order : SortOrder) (a b : Row ν) : Prop :=
  order.preferNoFee = true ∧ a.tier.rank < b.tier.rank ∨
    (order.preferNoFee = true → a.tier.rank = b.tier.rank) ∧ order.key.Puts a b

theorem compareKeys_isLE_iff {key : SortKey} {a b : Row ν} :
    (compareKeys key a b).isLE = true ↔ key.Puts a b := by
  cases key with
  | stock =>
      change (compare b.stock a.stock).isLE = true ↔ _
      rw [Nat.isLE_compare]
      exact ⟨.stock, fun h => by cases h; assumption⟩
  | price =>
      constructor
      · intro hle
        unfold compareKeys at hle
        cases hb : b.price with
        | none => exact .unpriced hb
        | some y =>
            cases ha : a.price with
            | none => simp [ha, hb, comparePrices] at hle
            | some x =>
                rw [ha, hb] at hle
                exact .price ha hb hle
      · intro hputs
        unfold compareKeys
        cases hputs with
        | price ha hb h =>
            rw [ha, hb]
            exact h
        | unpriced hb =>
            rw [hb]
            cases a.price <;> rfl

theorem le_iff_puts {order : SortOrder} {a b : Row ν} : order.le a b = true ↔ order.Puts a b := by
  obtain ⟨key, preferNoFee⟩ := order
  rw [le, compareRows, Ordering.isLE_then_iff_or, compareKeys_isLE_iff]
  cases preferNoFee with
  | false => simp [Puts]
  | true => simp [Puts, Nat.compare_eq_lt]

variable [OrderedNumber ν]

instance instTransCmpComparePrices :
    Std.TransCmp (comparePrices : Option ν → Option ν → Ordering) where
  eq_swap := by
    intro x y
    cases x with
    | none => cases y <;> rfl
    | some x =>
        cases y with
        | none => rfl
        | some y => exact (Std.OrientedCmp.eq_swap : Number.rank x y = (Number.rank y x).swap)
  isLE_trans := by
    intro x y z hxy hyz
    cases z with
    | none => cases x <;> rfl
    | some z =>
        cases y with
        | none => cases hyz
        | some y =>
            cases x with
            | none => cases hxy
            | some x =>
                change (Number.rank x y).isLE = true at hxy
                change (Number.rank y z).isLE = true at hyz
                have hxz : (Number.rank x z).isLE = true := Std.TransCmp.isLE_trans hxy hyz
                exact hxz

instance instTransCmpCompareKeys (key : SortKey) :
    Std.TransCmp (compareKeys key : Row ν → Row ν → Ordering) := by
  cases key with
  | stock =>
      exact inferInstanceAs (Std.TransCmp fun a b : Row ν => compareOn Row.stock b a)
  | price =>
      -- The prices of rows are compared as prices are.
      let _ : Ord (Option ν) := ⟨comparePrices⟩
      have : Std.TransOrd (Option ν) := instTransCmpComparePrices
      exact inferInstanceAs (Std.TransCmp (compareOn (Row.price : Row ν → Option ν)))

instance instTransCmpCompareRows (order : SortOrder) :
    Std.TransCmp (order.compareRows : Row ν → Row ν → Ordering) := by
  obtain ⟨key, preferNoFee⟩ := order
  cases preferNoFee with
  | false => exact inferInstanceAs (Std.TransCmp (compareKeys key : Row ν → Row ν → Ordering))
  | true =>
      exact inferInstanceAs (Std.TransCmp
        (compareLex (compareOn fun a : Row ν => a.tier.rank) (compareKeys key)))

theorem le_refl (order : SortOrder) (a : Row ν) : order.le a a = true :=
  Std.ReflCmp.isLE_rfl

theorem le_trans {order : SortOrder} {a b c : Row ν} (hab : order.le a b = true)
    (hbc : order.le b c = true) : order.le a c = true :=
  Std.TransCmp.isLE_trans hab hbc

theorem le_total (order : SortOrder) (a b : Row ν) : order.le a b = true ∨ order.le b a = true := by
  have hswap : order.compareRows b a = (order.compareRows a b).swap := Std.OrientedCmp.eq_swap
  rw [le, le, hswap, Ordering.isLE_swap]
  cases order.compareRows a b <;> simp

end SortOrder

/-! ### The pages of a store -/

namespace MemoryStore

/-- The answers of a store to every query that has these conditions and this order are pages of one
list of rows. -/
structure AnswersFrom (store : MemoryStore ν) (clauses : List (Predicate ν)) (order : SortOrder)
    (rows : List (Row ν)) : Prop where
  le_iff : ∀ a b : Row ν, order.le a b = true ↔ order.Puts a b
  le_refl : ∀ a : Row ν, order.le a a = true
  le_trans : ∀ a b c : Row ν, order.le a b = true → order.le b c = true → order.le a c = true
  le_total : ∀ a b : Row ν, order.le a b = true ∨ order.le b a = true
  /-- The list is the matching rows sorted, in catalog order where the order does not decide. -/
  sorted_iff : ∀ rows', IsStableSort order.le (store.matching clauses) rows' ↔ rows' = rows
  pairwise : rows.Pairwise (order.le · · = true)
  perm : rows.Perm (store.matching clauses)
  page : ∀ countClauses limit offset,
    (store.execute { clauses, countClauses, order, limit, offset }).rows =
      (rows.drop offset).take limit
  total : ∀ countClauses limit offset,
    (store.execute { clauses, countClauses, order, limit, offset }).total = rows.length
  /-- The first `n` pages of `k` rows are the first `n * k` rows. -/
  pages : ∀ countClauses k n,
    ((List.range n).flatMap fun i =>
      (store.execute { clauses, countClauses, order, limit := k, offset := i * k }).rows) =
        rows.take (n * k)
  /-- So the pages that cover the list make it up, however many rows a page has. -/
  all_pages : ∀ countClauses k n, rows.length ≤ n * k →
    ((List.range n).flatMap fun i =>
      (store.execute { clauses, countClauses, order, limit := k, offset := i * k }).rows) = rows

theorem execute_answersFrom [OrderedNumber ν] (store : MemoryStore ν)
    (clauses : List (Predicate ν)) (order : SortOrder) :
    ∃ rows, store.AnswersFrom clauses order rows := by
  have hsorted : IsStableSort order.le (store.matching clauses)
      ((store.matching clauses).mergeSort order.le) := by
    apply isStableSort_mergeSort
    · exact fun _ _ _ => SortOrder.le_trans
    · exact fun a b => Bool.or_eq_true_iff.mpr (order.le_total a b)
  have hpages (countClauses k n) :
      ((List.range n).flatMap fun i =>
        (store.execute { clauses, countClauses, order, limit := k, offset := i * k }).rows) =
          ((store.matching clauses).mergeSort order.le).take (n * k) :=
    flatMap_pages k n ((store.matching clauses).mergeSort order.le)
  refine ⟨(store.matching clauses).mergeSort order.le, ?_⟩
  exact
    { le_iff := fun _ _ => SortOrder.le_iff_puts
      le_refl := order.le_refl
      le_trans := fun _ _ _ => SortOrder.le_trans
      le_total := order.le_total
      sorted_iff := fun rows' => by
        constructor
        · exact fun h => h.unique hsorted
        · rintro rfl
          exact hsorted
      pairwise := hsorted.pairwise
      perm := hsorted.perm
      page := fun _ _ _ => rfl
      total := fun _ _ _ => hsorted.perm.length_eq.symm
      pages := hpages
      all_pages := fun countClauses k n hlength => by
        rw [hpages, List.take_of_length_le hlength] }

/-- Two parts without a price and one that costs nothing. -/
def threePrices : List (Row Rat) := [
  { id := "C1", subcategoryId := 1, tier := .basic },
  { id := "C2", subcategoryId := 1, tier := .extended, price := some 0 },
  { id := "C3", subcategoryId := 1, tier := .preferred }]

theorem execute_answersFrom_threePrices :
    ∃ rows, (MemoryStore.ofRows threePrices).AnswersFrom [.subcategory 1] { key := .price } rows ∧
      rows.map (·.id) = ["C2", "C1", "C3"] := by
  obtain ⟨rows, hrows⟩ :=
    execute_answersFrom (.ofRows threePrices) [.subcategory 1] { key := .price }
  refine ⟨rows, hrows, ?_⟩
  have hsorted : [threePrices[1], threePrices[0], threePrices[2]] = rows := by
    rw [← hrows.sorted_iff]
    refine ⟨[(threePrices[1], 1), (threePrices[0], 0), (threePrices[2], 2)], ?_, ?_, rfl⟩
    · exact List.Perm.swap _ _ _
    · decide +kernel
  rw [← hsorted]
  rfl

end MemoryStore

end PartSearch
