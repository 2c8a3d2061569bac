import Mathlib.Data.List.Forall2
import PartSearch.Proofs.PageFilling
import PartSearch.Proofs.SqlParameters

/-!
# Rows that a search does not tell apart

A search shows nothing of a blob but the attributes that it decodes to, so two rows are alike for a
query if they show the same and satisfy the conditions of the query alike. Catalogs whose rows are
alike in pairs give the same outcome, `search_congr`: sorting looks only at what is shown, and so
does every check.

The conditions look at a blob through the patterns alone, and those are matched against the text
that the attributes are written as. Blobs that spell the same attributes in different ways are
therefore the same to every search, `search_respelled`.
-/

namespace PartSearch

variable {ν : Type} [Number ν]

/-! ### Conditions -/

/-- Does the condition look at the text of a blob? -/
def Predicate.readsBlob (p : Predicate ν) : Bool :=
  p.leaves.any fun
    | .attributeLike _ => true
    | _ => false

omit [Number ν] in
theorem Predicate.readsBlob_anyOf_cons (p : Predicate ν) (ps : List (Predicate ν)) :
    (anyOf (p :: ps)).readsBlob = (p.readsBlob || (anyOf ps).readsBlob) :=
  List.any_append

namespace IndexedRow

def setBlob (r : IndexedRow ν) (attributes blob : String) : IndexedRow ν :=
  { r with row := { r.row with attributes }, blob }

section

variable (r : IndexedRow ν) (attributes : String) {blob : String}

mutual

theorem satisfies_setBlob : (p : Predicate ν) → (p.readsBlob = true → blob = r.blob) →
    (r.setBlob attributes blob).satisfies p = r.satisfies p
  | .fullText _ _ _, _ | .subcategory _, _ | .subcategories _, _ | .feeTier _, _
  | .minStock _, _ | .packages _, _ | .manufacturer _, _ | .mounting _, _
  | .columnBetween _ _ _, _ | .columnCompare _ _ _, _ => rfl
  | .attributeLike patterns, hblob => by
      obtain rfl := hblob rfl
      rfl
  | .anyOf ps, hblob => satisfiesAny_setBlob ps hblob

theorem satisfiesAny_setBlob : (ps : List (Predicate ν)) →
    ((Predicate.anyOf ps).readsBlob = true → blob = r.blob) →
      (r.setBlob attributes blob).satisfiesAny ps = r.satisfiesAny ps
  | [], _ => rfl
  | p :: ps, hblob => by
      rw [Predicate.readsBlob_anyOf_cons, Bool.or_eq_true] at hblob
      rw [satisfiesAny, satisfiesAny, satisfies_setBlob p fun h => hblob (Or.inl h),
        satisfiesAny_setBlob ps fun h => hblob (Or.inr h)]

end

end

end IndexedRow

/-! ### What a search shows of a row -/

namespace Row

/-- The row without its blob, and the attributes that the blob decodes to. -/
def shown (row : Row ν) : Row ν × Attributes :=
  ({ row with attributes := "" }, (Attributes.decode? row.attributes).getD [])

/-- A query does not tell the two rows apart. -/
structure Alike (q : StoreQuery ν) (row row' : Row ν) : Prop where
  shown : row.shown = row'.shown
  clauses : (IndexedRow.ofRow row).satisfiesAll q.clauses =
    (IndexedRow.ofRow row').satisfiesAll q.clauses
  countClauses : (IndexedRow.ofRow row).satisfiesAll q.countClauses =
    (IndexedRow.ofRow row').satisfiesAll q.countClauses

end Row

namespace MemoryStore

variable {rows rows' : List (Row ν)}

theorem matching_ofRows (rows : List (Row ν)) (predicates : List (Predicate ν)) :
    (ofRows rows).matching predicates =
      rows.filter fun row => (IndexedRow.ofRow row).satisfiesAll predicates := by
  have hrow : (IndexedRow.row ∘ IndexedRow.ofRow : Row ν → Row ν) = id := rfl
  rw [matching, ofRows, List.filter_map, List.map_map, hrow, List.map_id]
  rfl

theorem map_shown_mergeSort (order : SortOrder) (rows : List (Row ν)) :
    (rows.mergeSort order.le).map Row.shown =
      (rows.map Row.shown).mergeSort fun a b => order.le a.1 b.1 :=
  List.map_mergeSort fun _ _ _ _ => rfl

omit [Number ν] in
theorem map_shown_filter {keep keep' : Row ν → Bool}
    (h : List.Forall₂ (fun row row' => row.shown = row'.shown ∧ keep row = keep' row') rows rows') :
    (rows.filter keep).map Row.shown = (rows'.filter keep').map Row.shown := by
  induction h with
  | nil => rfl
  | cons hrow _ ih =>
      obtain ⟨hshown, hkeep⟩ := hrow
      rw [List.filter_cons, List.filter_cons, hkeep]
      split
      · rw [List.map_cons, List.map_cons, hshown, ih]
      · exact ih

end MemoryStore

/-- A plan makes the same page of two catalogs whose rows its query does not tell apart. -/
theorem Plan.finish_congr {plan : Plan ν} {rows rows' : List (Row ν)} (t : Taxonomy)
    (h : List.Forall₂ (Row.Alike plan.query) rows rows') :
    plan.finish t ((MemoryStore.ofRows rows).execute plan.query) =
      plan.finish t ((MemoryStore.ofRows rows').execute plan.query) := by
  have hfound : ((MemoryStore.ofRows rows).matching plan.query.clauses).map Row.shown =
      ((MemoryStore.ofRows rows').matching plan.query.clauses).map Row.shown := by
    rw [MemoryStore.matching_ofRows, MemoryStore.matching_ofRows]
    exact MemoryStore.map_shown_filter (h.imp fun _ _ hrow => ⟨hrow.shown, hrow.clauses⟩)
  have hcounted : ((MemoryStore.ofRows rows).matching plan.query.countClauses).map Row.shown =
      ((MemoryStore.ofRows rows').matching plan.query.countClauses).map Row.shown := by
    rw [MemoryStore.matching_ofRows, MemoryStore.matching_ofRows]
    exact MemoryStore.map_shown_filter (h.imp fun _ _ hrow => ⟨hrow.shown, hrow.countClauses⟩)
  have hparts (rows : List (Row ν)) :
      ((MemoryStore.ofRows rows).execute plan.query).rows.map (Part.ofRow t) =
        (((((MemoryStore.ofRows rows).matching plan.query.clauses).map Row.shown).mergeSort
          fun a b => plan.query.order.le a.1 b.1).drop plan.query.offset |>.take
            plan.query.limit).map fun shown =>
              { Part.ofRow t shown.1 with attributes := shown.2 } := by
    rw [← MemoryStore.map_shown_mergeSort, ← List.map_drop, ← List.map_take, List.map_map]
    rfl
  have htotal (rows : List (Row ν)) : ((MemoryStore.ofRows rows).execute plan.query).total =
      (((MemoryStore.ofRows rows).matching plan.query.clauses).map Row.shown).length :=
    (List.length_map _).symm
  have htiers (rows : List (Row ν)) : ((MemoryStore.ofRows rows).execute plan.query).tiers =
      .ofTiers ((((MemoryStore.ofRows rows).matching plan.query.countClauses).map Row.shown).map
        fun shown => shown.1.tier) := by
    rw [List.map_map]
    rfl
  simp only [finish, hparts, htotal, htiers, hfound, hcounted]

/-- Catalogs whose rows no planned query tells apart give the same outcome. -/
theorem search_congr {rows rows' : List (Row ν)} {t : Taxonomy} {settings : SearchSettings ν}
    {r : Request} (h : ∀ plan, Plan.ofRequest t settings r = .ok plan →
      List.Forall₂ (Row.Alike plan.query) rows rows') :
    search (MemoryStore.ofRows rows).access t settings r =
      search (MemoryStore.ofRows rows').access t settings r := by
  unfold search
  cases hplan : Plan.ofRequest t settings r with
  | error e => cases e <;> rfl
  | ok plan =>
      simp only [MemoryStore.access]
      rw [Plan.finish_congr t (h plan hplan)]

/-! ### Other spellings of the same attributes -/

/-- The two rows differ at most in how their blobs spell the same attributes. -/
structure Row.Respelled (row row' : Row ν) : Prop where
  fields : row' = { row with attributes := row'.attributes }
  attributes : ∃ pairs, Attributes.decode? row.attributes = some pairs ∧
    Attributes.decode? row'.attributes = some pairs

section Spelling

variable {row : Row ν} {spelling : String}
  (h : (Attributes.decode? spelling).getD [] = (Attributes.decode? row.attributes).getD [])

include h

omit [Number ν] in
theorem Row.shown_spelling : row.shown = Row.shown { row with attributes := spelling } := by
  simp only [shown, h]

/-- With another blob for the same attributes a row satisfies the same conditions, unless they look
at the text that patterns are matched against and it is another one. -/
theorem IndexedRow.satisfies_spelling {p : Predicate ν} (hblob : p.readsBlob = true →
    (ofRow { row with attributes := spelling }).blob = (ofRow row).blob) :
    (ofRow row).satisfies p = (ofRow { row with attributes := spelling }).satisfies p := by
  have hset : ofRow { row with attributes := spelling } =
      (ofRow row).setBlob spelling (ofRow { row with attributes := spelling }).blob := by
    simp only [ofRow, setBlob, h]
    rfl
  rw [hset]
  exact (satisfies_setBlob (ofRow row) spelling p hblob).symm

end Spelling

theorem Row.Respelled.alike {row row' : Row ν} (h : row.Respelled row') (q : StoreQuery ν) :
    row.Alike q row' := by
  obtain ⟨hfields, pairs, hdecode, hdecode'⟩ := h
  generalize row'.attributes = spelling at hfields hdecode'
  subst hfields
  have hsame : (Attributes.decode? spelling).getD [] =
      (Attributes.decode? row.attributes).getD [] := by
    rw [hdecode, hdecode']
  have hblob : (IndexedRow.ofRow { row with attributes := spelling }).blob =
      (IndexedRow.ofRow row).blob := by
    simp only [IndexedRow.ofRow, hdecode, hdecode', Option.map_some, Option.getD_some]
  have hsatisfies : (IndexedRow.ofRow row).satisfies =
      (IndexedRow.ofRow { row with attributes := spelling }).satisfies := by
    funext p
    exact IndexedRow.satisfies_spelling hsame fun _ => hblob
  have hall (ps : List (Predicate ν)) : (IndexedRow.ofRow row).satisfiesAll ps =
      (IndexedRow.ofRow { row with attributes := spelling }).satisfiesAll ps := by
    rw [IndexedRow.satisfiesAll, IndexedRow.satisfiesAll, hsatisfies]
  exact ⟨shown_spelling hsame, hall q.clauses, hall q.countClauses⟩

/-- Catalogs that differ only in how the blobs of their rows are spelled give the same outcome. -/
theorem search_respelled {rows rows' : List (Row ν)} (t : Taxonomy) (settings : SearchSettings ν)
    (r : Request) (h : List.Forall₂ Row.Respelled rows rows') :
    search (MemoryStore.ofRows rows).access t settings r =
      search (MemoryStore.ofRows rows').access t settings r :=
  search_congr fun plan _ => h.imp fun _ _ hrow => hrow.alike plan.query

def channelAsWritten : List (Row Rat) := [
  { id := "C1", subcategoryId := 1, attributes := "[[\"Type\", \"N-Channel\"]]" }]

/-- The same without the space that patterns look for, and with an escaped letter. -/
def channelRespelled : List (Row Rat) := [
  { id := "C1", subcategoryId := 1, attributes := " [[\"T\\u0079pe\",\"N-Channel\"]]" }]

def wantsChannel : Request where
  filters := [⟨"Type", .eq, "N-Channel"⟩]
  minStock := some 0

theorem search_respelled_channel :
    List.Forall₂ Row.Respelled channelAsWritten channelRespelled ∧
      ∃ page, search (MemoryStore.ofRows channelRespelled).access {} .standard wantsChannel =
          .ok (.found page) ∧ page.total = 1 ∧
        search (MemoryStore.ofRows channelAsWritten).access {} .standard wantsChannel =
          .ok (.found page) := by
  have hrows : List.Forall₂ Row.Respelled channelAsWritten channelRespelled :=
    .cons ⟨rfl, [("Type", "N-Channel")], by decide +kernel, by decide +kernel⟩ .nil
  exact ⟨hrows, _, rfl, by decide +kernel, search_respelled {} .standard wantsChannel hrows⟩

end PartSearch
