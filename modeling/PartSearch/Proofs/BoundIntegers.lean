import PartSearch.Proofs.SqlParameters
import PartSearch.Store.Memory

/-!
# Numbers that are bound as integers

Ids, stocks and the bounds of a page are natural numbers, and a parameter is a signed number of 64
bits. Ids fit, but a stock, a limit or an offset from 2 ^ 63 on is bound as a negative number
(`SqlParam.signed_eq_iff`). For a database such a stock asks for nothing, and such an offset skips
nothing. So what it answers is the page of the `loosened` query, which is the page of the query
itself if none of its numbers is that large: `StoreQuery.integers_exact_iff`.
-/

namespace PartSearch

/-! ### Signed numbers -/

namespace SqlParam

variable {ν : Type} {n : Nat}

/-- The number that is bound for a natural number. -/
def signed (n : Nat) : Int := Int.bmod n (Nat.pow 2 64)

def integer? : SqlParam ν → Option Int
  | integer n => some n
  | _ => none

theorem integer?_ofNat (n : Nat) : (ofNat n : SqlParam ν).integer? = some (signed n) := rfl

theorem filterMap_ofNat (ns : List Nat) :
    (ns.map (ofNat : Nat → SqlParam ν)).filterMap integer? = ns.map signed := by
  have hread : integer? ∘ (ofNat : Nat → SqlParam ν) = some ∘ signed := funext integer?_ofNat
  rw [List.filterMap_map, hread, List.filterMap_eq_map]

theorem filterMap_text (texts : List String) :
    (texts.map (text : String → SqlParam ν)).filterMap integer? = [] := by
  rw [List.filterMap_map]
  exact List.filterMap_eq_nil_iff.mpr fun _ _ => rfl

theorem cast_wordSize : ((Nat.pow 2 64 : Nat) : Int) = 2 ^ 64 := Int.natCast_pow 2 64

theorem bmod_wordSize {x : Int} (hlow : -2 ^ 63 ≤ x) (hhigh : x < 2 ^ 63) :
    Int.bmod x (Nat.pow 2 64) = x := by
  apply Int.bmod_eq_of_le
  · rw [cast_wordSize]
    omega
  · rw [cast_wordSize]
    omega

theorem signed_of_lt (h : n < 2 ^ 63) : signed n = n := bmod_wordSize (by omega) (by omega)

theorem signed_of_le (h : 2 ^ 63 ≤ n) (hword : n < 2 ^ 64) : signed n = n - 2 ^ 64 := by
  calc
    signed n = Int.bmod (n - (Nat.pow 2 64 : Nat)) (Nat.pow 2 64) :=
      (Int.sub_bmod_right n (Nat.pow 2 64)).symm
    _ = Int.bmod (n - 2 ^ 64) (Nat.pow 2 64) := by rw [cast_wordSize]
    _ = n - 2 ^ 64 := bmod_wordSize (by omega) (by omega)

theorem signed_eq_iff (h : n < 2 ^ 64) : signed n = n ↔ n < 2 ^ 63 := by
  constructor
  · intro heq
    by_contra hlarge
    rw [signed_of_le (by omega) h] at heq
    omega
  · exact signed_of_lt

theorem map_signed_eq_iff {ns : List Nat} (h : ∀ n ∈ ns, n < 2 ^ 64) :
    ns.map signed = ns.map Int.ofNat ↔ ∀ n ∈ ns, n < 2 ^ 63 := by
  rw [List.map_inj_left]
  exact forall₂_congr fun n hn => signed_eq_iff (h n hn)

end SqlParam

def Sql.integers {ν : Type} (sql : Sql ν) : List Int := sql.params.filterMap SqlParam.integer?

/-! ### The numbers of a condition -/

namespace Predicate

variable {ν : Type}

/-- The ids in a condition that is no choice. -/
def ids : Predicate ν → List Nat
  | subcategory id => [id]
  | subcategories ids => ids
  | _ => []

def stocks : Predicate ν → List Nat
  | minStock stock => [stock]
  | _ => []

/-- The numbers in a condition that is no choice, in the order of their placeholders. -/
def numbers (leaf : Predicate ν) : List Nat := leaf.ids ++ leaf.stocks

def numbersOf (ps : List (Predicate ν)) : List Nat := (leavesOf ps).flatMap numbers

/-- Ids have 32 bits and stocks 64. -/
def Fits (leaf : Predicate ν) : Prop :=
  (∀ id ∈ leaf.ids, id < 2 ^ 32) ∧ ∀ stock ∈ leaf.stocks, stock < 2 ^ 64

def StaysSigned (leaf : Predicate ν) : Prop := ∀ stock ∈ leaf.stocks, stock < 2 ^ 63

theorem Fits.lt {leaf : Predicate ν} (h : leaf.Fits) {n : Nat} (hn : n ∈ leaf.numbers) :
    n < 2 ^ 64 := by
  rcases List.mem_append.mp hn with hid | hstock
  · have hid := h.1 n hid
    omega
  · exact h.2 n hstock

theorem Fits.forall_lt_iff {leaf : Predicate ν} (h : leaf.Fits) :
    (∀ n ∈ leaf.numbers, n < 2 ^ 63) ↔ leaf.StaysSigned := by
  constructor
  · intro hnumbers stock hstock
    exact hnumbers stock (List.mem_append_right _ hstock)
  · intro hstocks n hn
    rcases List.mem_append.mp hn with hid | hstock
    · have hid := h.1 n hid
      omega
    · exact hstocks n hstock

theorem integers_values (leaf : Predicate ν) :
    leaf.values.filterMap SqlParam.integer? = leaf.numbers.map SqlParam.signed := by
  cases leaf with
  | fullText | feeTier | manufacturer | mounting | columnBetween | columnCompare | anyOf => rfl
  | subcategory | minStock => rfl
  | subcategories ids =>
      have hnumbers : (subcategories ids : Predicate ν).numbers = ids := List.append_nil ids
      rw [hnumbers]
      exact SqlParam.filterMap_ofNat ids
  | packages texts | attributeLike texts => exact SqlParam.filterMap_text texts

theorem params_leaf {p : Predicate ν} (hleaf : p.leaves = [p]) (h : p.sql.params = p.values) :
    p.sql.params = p.leaves.flatMap values := by
  rwa [hleaf, List.flatMap_singleton]

mutual

theorem params_sql : (p : Predicate ν) → p.sql.params = p.leaves.flatMap values
  | fullText _ _ _ | subcategory _ | subcategories _ | feeTier _ | minStock _ | packages _
  | manufacturer _ | mounting _ | columnBetween _ _ _ | columnCompare _ _ _ | attributeLike _ =>
    params_leaf rfl rfl
  | anyOf ps => params_sqlList ps

theorem params_sqlList : (ps : List (Predicate ν)) →
    (sqlList ps).flatMap Sql.params = (leavesOf ps).flatMap values
  | [] => rfl
  | p :: ps => by
      rw [sqlList, leavesOf, List.flatMap_cons, List.flatMap_append, params_sql p,
        params_sqlList ps]

end

theorem integers_sql {p : Predicate ν} (hleaf : p.leaves = [p]) :
    p.sql.integers = p.numbers.map SqlParam.signed := by
  rw [Sql.integers, params_sql, hleaf, List.flatMap_singleton, integers_values]

theorem params_whereSql (ps : List (Predicate ν)) :
    (whereSql ps).params = (leavesOf ps).flatMap values := by
  cases ps with
  | nil => rfl
  | cons p ps =>
      rw [← params_sqlList, sqlList_eq_map]
      rfl

theorem integers_whereSql (ps : List (Predicate ν)) :
    (whereSql ps).integers = (numbersOf ps).map SqlParam.signed := by
  rw [Sql.integers, params_whereSql, List.filterMap_flatMap, numbersOf, List.map_flatMap]
  exact List.flatMap_congr fun leaf _ => integers_values leaf

theorem integers_selectSql (ps : List (Predicate ν)) (order : SortOrder) (limit offset : Nat) :
    (selectSql ps order limit offset).integers =
      (numbersOf ps ++ [limit, offset]).map SqlParam.signed := by
  rw [List.map_append, ← integers_whereSql, Sql.integers, selectSql_params, List.filterMap_append]
  rfl

/-! ### What a database answers -/

mutual

/-- The condition without the stocks that no signed number can be. -/
def loosened : Predicate ν → Predicate ν
  | minStock stock => minStock (if stock < 2 ^ 63 then stock else 0)
  | anyOf ps => anyOf (loosenedAll ps)
  | p => p

def loosenedAll : List (Predicate ν) → List (Predicate ν)
  | [] => []
  | p :: ps => p.loosened :: loosenedAll ps

end

theorem loosenedAll_eq_map (ps : List (Predicate ν)) : loosenedAll ps = ps.map loosened := by
  induction ps with
  | nil => rfl
  | cons p ps ih => rw [loosenedAll, ih, List.map_cons]

mutual

theorem loosened_eq_self : (p : Predicate ν) → (∀ leaf ∈ p.leaves, leaf.StaysSigned) →
    p.loosened = p
  | fullText _ _ _, _ | subcategory _, _ | subcategories _, _ | feeTier _, _ | packages _, _
  | manufacturer _, _ | mounting _, _ | columnBetween _ _ _, _ | columnCompare _ _ _, _
  | attributeLike _, _ => rfl
  | minStock stock, h => by
      have hsmall : stock < 2 ^ 63 :=
        h _ (List.mem_singleton_self _) stock (List.mem_singleton_self stock)
      rw [loosened, if_pos hsmall]
  | anyOf ps, h => congrArg anyOf (loosenedAll_eq_self ps h)

theorem loosenedAll_eq_self : (ps : List (Predicate ν)) →
    (∀ leaf ∈ leavesOf ps, leaf.StaysSigned) → loosenedAll ps = ps
  | [], _ => rfl
  | p :: ps, h => by
      rw [loosenedAll, loosened_eq_self p fun leaf hleaf => h leaf (List.mem_append_left _ hleaf),
        loosenedAll_eq_self ps fun leaf hleaf => h leaf (List.mem_append_right _ hleaf)]

end

end Predicate

namespace IndexedRow

variable {ν : Type} [Number ν]

/-- The answer to a condition that is no choice, where the numbers of the row are compared with
these integers. -/
def compares (r : IndexedRow ν) (integers : List Int) : Predicate ν → Bool
  | .subcategory _ | .subcategories _ => integers.contains (r.row.subcategoryId : Int)
  | .minStock _ => integers.all fun n => n ≤ r.row.stock
  | p => r.satisfies p

mutual

/-- The answer of a database to a condition, read from the integers that are bound for it. -/
def answers (r : IndexedRow ν) : Predicate ν → Bool
  | .anyOf ps => answersAny r ps
  | p => r.compares p.sql.integers p

def answersAny (r : IndexedRow ν) : List (Predicate ν) → Bool
  | [] => false
  | p :: ps => r.answers p || answersAny r ps

end

theorem contains_map_ofNat (ids : List Nat) (id : Nat) :
    (ids.map Int.ofNat).contains (id : Int) = ids.contains id := by
  rw [Bool.eq_iff_iff, List.contains_iff_mem, List.contains_iff_mem]
  exact List.mem_map_of_injective fun _ _ => Int.ofNat.inj

theorem contains_singleton (id actual : Nat) : [id].contains actual = (actual == id) := by
  rw [List.contains_cons, List.contains_nil, Bool.or_false]

theorem contains_map_signed {ids : List Nat} (h : ∀ id ∈ ids, id < 2 ^ 32) (id : Nat) :
    (ids.map SqlParam.signed).contains (id : Int) = ids.contains id := by
  have hexact : ids.map SqlParam.signed = ids.map Int.ofNat := by
    apply List.map_congr_left
    intro n hn
    exact SqlParam.signed_of_lt (Nat.lt_trans (h n hn) (by decide))
  rw [hexact, contains_map_ofNat]

theorem decide_signed_le {stock : Nat} (h : stock < 2 ^ 64) (actual : Nat) :
    decide (SqlParam.signed stock ≤ actual) =
      decide ((if stock < 2 ^ 63 then stock else 0) ≤ actual) := by
  by_cases hsmall : stock < 2 ^ 63
  · rw [if_pos hsmall, SqlParam.signed_of_lt hsmall]
    exact decide_eq_decide.mpr Int.ofNat_le
  · rw [if_neg hsmall, SqlParam.signed_of_le (by omega) h]
    apply decide_eq_decide.mpr
    omega

theorem answers_leaf (r : IndexedRow ν) {p : Predicate ν} (hleaf : p.leaves = [p])
    (h : r.answers p = r.compares p.sql.integers p) :
    r.answers p = r.compares (p.numbers.map SqlParam.signed) p := by
  rw [h, Predicate.integers_sql hleaf]

mutual

theorem answers_eq (r : IndexedRow ν) : (p : Predicate ν) → (∀ leaf ∈ p.leaves, leaf.Fits) →
    r.answers p = r.satisfies p.loosened
  | .fullText _ _ _, _ | .feeTier _, _ | .packages _, _ | .manufacturer _, _ | .mounting _, _
  | .columnBetween _ _ _, _ | .columnCompare _ _ _, _ | .attributeLike _, _ => rfl
  | .subcategory id, h => by
      have hid := (h _ (List.mem_singleton_self _)).1
      calc
        r.answers (.subcategory id) = r.compares ([id].map SqlParam.signed) (.subcategory id) :=
          answers_leaf r rfl rfl
        _ = [id].contains r.row.subcategoryId := contains_map_signed hid r.row.subcategoryId
        _ = r.satisfies (.subcategory id) := contains_singleton id r.row.subcategoryId
  | .subcategories ids, h => by
      have hids := (h _ (List.mem_singleton_self _)).1
      have hnumbers : (Predicate.subcategories ids : Predicate ν).numbers = ids :=
        List.append_nil ids
      rw [answers_leaf r rfl rfl, hnumbers]
      exact contains_map_signed hids r.row.subcategoryId
  | .minStock stock, h => by
      -- From 2 ^ 63 on the number is bound as a negative one, which every stock reaches.
      have hstock := (h _ (List.mem_singleton_self _)).2 stock (List.mem_singleton_self stock)
      calc
        r.answers (.minStock stock) = r.compares ([stock].map SqlParam.signed) (.minStock stock) :=
          answers_leaf r rfl rfl
        _ = decide (SqlParam.signed stock ≤ r.row.stock) := by
          rw [compares, List.map_singleton, List.all_cons, List.all_nil, Bool.and_true]
        _ = decide ((if stock < 2 ^ 63 then stock else 0) ≤ r.row.stock) :=
          decide_signed_le hstock r.row.stock
        _ = r.satisfies (Predicate.loosened (.minStock stock)) := by
          rw [Predicate.loosened, satisfies]
  | .anyOf ps, h => by
      rw [answers, Predicate.loosened, satisfies, answersAny_eq r ps h]

theorem answersAny_eq (r : IndexedRow ν) : (ps : List (Predicate ν)) →
    (∀ leaf ∈ Predicate.leavesOf ps, leaf.Fits) →
      r.answersAny ps = r.satisfiesAny (Predicate.loosenedAll ps)
  | [], _ => rfl
  | p :: ps, h => by
      rw [answersAny, Predicate.loosenedAll, satisfiesAny,
        answers_eq r p fun leaf hleaf => h leaf (List.mem_append_left _ hleaf),
        answersAny_eq r ps fun leaf hleaf => h leaf (List.mem_append_right _ hleaf)]

end

theorem all_answers_eq (r : IndexedRow ν) {ps : List (Predicate ν)}
    (h : ∀ leaf ∈ Predicate.leavesOf ps, leaf.Fits) :
    ps.all r.answers = r.satisfiesAll (Predicate.loosenedAll ps) := by
  induction ps with
  | nil => rw [Predicate.loosenedAll, satisfiesAll, List.all_nil, List.all_nil]
  | cons p ps ih =>
      rw [List.all_cons, answers_eq r p fun leaf hleaf => h leaf (List.mem_append_left _ hleaf),
        ih fun leaf hleaf => h leaf (List.mem_append_right _ hleaf), satisfiesAll, satisfiesAll,
        Predicate.loosenedAll, List.all_cons]

end IndexedRow

/-! ### The page -/

section Page

variable {α : Type} {rows : List α} {limit offset : Nat}

/-- The rows of a page. A negative limit is none, and a negative offset skips nothing. -/
def cutPage (limit offset : Int) (rows : List α) : List α :=
  if limit < 0 then rows.drop offset.toNat else (rows.drop offset.toNat).take limit.toNat

/-- No list is longer than a limit that is bound as a negative number. -/
theorem cutPage_signed (hlimit : limit < 2 ^ 64) (hoffset : offset < 2 ^ 64)
    (hrows : rows.length < 2 ^ 63) :
    cutPage (SqlParam.signed limit) (SqlParam.signed offset) rows =
      (rows.drop (if offset < 2 ^ 63 then offset else 0)).take limit := by
  have hskipped : (SqlParam.signed offset).toNat = if offset < 2 ^ 63 then offset else 0 := by
    by_cases hsmall : offset < 2 ^ 63
    · rw [if_pos hsmall, SqlParam.signed_of_lt hsmall, Int.toNat_natCast]
    · rw [if_neg hsmall, SqlParam.signed_of_le (by omega) hoffset]
      omega
  rw [cutPage, hskipped]
  by_cases hsmall : limit < 2 ^ 63
  · rw [SqlParam.signed_of_lt hsmall, if_neg (by omega), Int.toNat_natCast]
  · rw [SqlParam.signed_of_le (by omega) hlimit, if_pos (by omega), List.take_of_length_le]
    rw [List.length_drop]
    omega

end Page

/-- The limit and the offset that are bound for a page, behind the integers of the conditions. -/
def Sql.page? {ν : Type} (sql : Sql ν) : Option (Int × Int) :=
  match sql.integers.reverse with
  | offset :: limit :: _ => some (limit, offset)
  | _ => none

namespace StoreQuery

variable {ν : Type}

theorem page?_selectSql (q : StoreQuery ν) :
    q.selectSql.page? = some (SqlParam.signed q.limit, SqlParam.signed q.offset) := by
  rw [Sql.page?, selectSql, Predicate.integers_selectSql, List.map_append, List.reverse_append]
  rfl

/-- Ids of 32 bits, and stocks, limit and offset of 64. -/
structure Fits (q : StoreQuery ν) : Prop where
  clauses : ∀ leaf ∈ Predicate.leavesOf q.clauses, leaf.Fits
  limit_lt : q.limit < 2 ^ 64
  offset_lt : q.offset < 2 ^ 64

structure StaysSigned (q : StoreQuery ν) : Prop where
  clauses : ∀ leaf ∈ Predicate.leavesOf q.clauses, leaf.StaysSigned
  limit_lt : q.limit < 2 ^ 63
  offset_lt : q.offset < 2 ^ 63

/-- The query without the stocks and the offset that no signed number can be. -/
def loosened (q : StoreQuery ν) : StoreQuery ν :=
  { q with
    clauses := Predicate.loosenedAll q.clauses
    offset := if q.offset < 2 ^ 63 then q.offset else 0 }

theorem StaysSigned.loosened_eq {q : StoreQuery ν} (h : q.StaysSigned) : q.loosened = q := by
  rw [loosened, Predicate.loosenedAll_eq_self q.clauses h.clauses, if_pos h.offset_lt]

end StoreQuery

namespace MemoryStore

variable {ν : Type} [Number ν]

/-- The rows that a database with the same rows selects: those that it answers every condition for,
in order, and of these the page that is bound. -/
def select (store : MemoryStore ν) (q : StoreQuery ν) : List (Row ν) :=
  let found := (store.rows.filter fun r => q.clauses.all r.answers).map IndexedRow.row
  match q.selectSql.page? with
  | some (limit, offset) => cutPage limit offset (found.mergeSort q.order.le)
  | none => []

theorem select_eq (store : MemoryStore ν) {q : StoreQuery ν} (hq : q.Fits)
    (hstore : store.size < 2 ^ 63) : store.select q = (store.execute q.loosened).rows := by
  have hfound : (store.rows.filter fun r => q.clauses.all r.answers).map IndexedRow.row =
      store.matching (Predicate.loosenedAll q.clauses) := by
    rw [matching]
    exact congrArg _ (List.filter_congr fun r _ => r.all_answers_eq hq.clauses)
  have hlength : ((store.matching (Predicate.loosenedAll q.clauses)).mergeSort q.order.le).length <
      2 ^ 63 := by
    rw [List.length_mergeSort, matching, List.length_map]
    exact Nat.lt_of_le_of_lt (List.length_filter_le _ _) hstore
  rw [select, StoreQuery.page?_selectSql, hfound]
  exact cutPage_signed hq.limit_lt hq.offset_lt hlength

end MemoryStore

/-! ### Which integers are exact -/

namespace StoreQuery

variable {ν : Type} {q : StoreQuery ν}

theorem Fits.lt_of_mem_numbersOf (hq : q.Fits) :
    ∀ n ∈ Predicate.numbersOf q.clauses, n < 2 ^ 64 := by
  intro n hn
  obtain ⟨leaf, hleaf, hn⟩ := List.mem_flatMap.mp hn
  exact (hq.clauses leaf hleaf).lt hn

theorem Fits.forall_numbersOf_iff (hq : q.Fits) :
    (∀ n ∈ Predicate.numbersOf q.clauses, n < 2 ^ 63) ↔
      ∀ leaf ∈ Predicate.leavesOf q.clauses, leaf.StaysSigned := by
  rw [Predicate.numbersOf, List.forall_mem_flatMap]
  exact forall₂_congr fun leaf hleaf => (hq.clauses leaf hleaf).forall_lt_iff

theorem integers_whereSql_iff (hq : q.Fits) :
    (Predicate.whereSql q.clauses).integers = (Predicate.numbersOf q.clauses).map Int.ofNat ↔
      ∀ leaf ∈ Predicate.leavesOf q.clauses, leaf.StaysSigned := by
  rw [Predicate.integers_whereSql, SqlParam.map_signed_eq_iff hq.lt_of_mem_numbersOf,
    hq.forall_numbersOf_iff]

theorem integers_selectSql_iff (hq : q.Fits) :
    q.selectSql.integers = (Predicate.numbersOf q.clauses ++ [q.limit, q.offset]).map Int.ofNat ↔
      q.StaysSigned := by
  have hpage : ∀ n ∈ [q.limit, q.offset], n < 2 ^ 64 :=
    List.forall_mem_cons.mpr ⟨hq.limit_lt, List.forall_mem_singleton.mpr hq.offset_lt⟩
  rw [selectSql, Predicate.integers_selectSql, SqlParam.map_signed_eq_iff
    (List.forall_mem_append.mpr ⟨hq.lt_of_mem_numbersOf, hpage⟩), List.forall_mem_append,
    hq.forall_numbersOf_iff, List.forall_mem_cons, List.forall_mem_singleton]
  constructor
  · rintro ⟨hclauses, hlimit, hoffset⟩
    exact ⟨hclauses, hlimit, hoffset⟩
  · intro h
    exact ⟨h.clauses, h.limit_lt, h.offset_lt⟩

variable [Number ν]

/-- The integers of a rendered query have the values that they are bound for, unless a stock, the
limit or the offset is 2 ^ 63 or more. A database with the rows of a store selects for them the page
of the loosened query, and this is the query if all of them are smaller. -/
theorem integers_exact_iff (hq : q.Fits) :
    (Predicate.whereSql q.clauses).integers =
        (Predicate.numbersOf q.clauses).map SqlParam.signed ∧
      ((Predicate.whereSql q.clauses).integers = (Predicate.numbersOf q.clauses).map Int.ofNat ↔
        ∀ leaf ∈ Predicate.leavesOf q.clauses, leaf.StaysSigned) ∧
      (q.selectSql.integers =
          (Predicate.numbersOf q.clauses ++ [q.limit, q.offset]).map Int.ofNat ↔ q.StaysSigned) ∧
      (∀ store : MemoryStore ν, store.size < 2 ^ 63 →
        store.select q = (store.execute q.loosened).rows) ∧
      (q.StaysSigned → q.loosened = q) := by
  refine ⟨Predicate.integers_whereSql q.clauses, integers_whereSql_iff hq,
    integers_selectSql_iff hq, ?_, StaysSigned.loosened_eq⟩
  intro store hstore
  exact store.select_eq hq hstore

/-- Two subcategories, or a stock of 2 ^ 63. -/
def eitherHalf : StoreQuery Rat where
  clauses := [.anyOf [.subcategories [1, 2 ^ 32 - 1], .minStock (2 ^ 63)]]
  countClauses := []
  order := { key := .price }
  limit := 20
  offset := 0

theorem fits_eitherHalf : eitherHalf.Fits := by
  refine ⟨?_, by decide, by decide⟩
  intro leaf hleaf
  rcases List.mem_cons.mp hleaf with rfl | hleaf
  · exact ⟨by decide, nofun⟩
  · obtain rfl := List.mem_singleton.mp hleaf
    exact ⟨nofun, by decide⟩

theorem integers_exact_iff_eitherHalf :
    (Predicate.whereSql eitherHalf.clauses).integers = [1, 2 ^ 32 - 1, -2 ^ 63] ∧
      eitherHalf.selectSql.integers ≠ [1, 2 ^ 32 - 1, 2 ^ 63, 20, 0] := by
  obtain ⟨hbound, -, hexact, -⟩ := integers_exact_iff fits_eitherHalf
  refine ⟨hbound.trans (by decide), fun h => ?_⟩
  have hsigned := (hexact.mp h).clauses (.minStock (2 ^ 63))
    (List.mem_cons_of_mem _ (List.mem_singleton_self _))
  exact absurd (hsigned (2 ^ 63) (by decide)) (by decide)

/-- A minimum stock of 2 ^ 63 is bound as a negative number. A row without stock does not satisfy
it, and is an answer to it. -/
theorem minStock_wraps :
    let atLeast : Predicate Rat := .minStock (2 ^ 63)
    let row : IndexedRow Rat := .ofRow { id := "C1", subcategoryId := 1 }
    (Predicate.whereSql [atLeast]).integers = [-2 ^ 63] ∧ row.satisfies atLeast = false ∧
      row.answers atLeast = true := by
  decide

end StoreQuery

end PartSearch
