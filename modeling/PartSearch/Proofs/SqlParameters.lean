import Mathlib.Algebra.BigOperators.Group.List.Basic
import Mathlib.Algebra.GroupWithZero.Nat
import PartSearch.Store.Predicate

/-!
# Conditions in SQL

The text of a query depends on the shape of its conditions only, and has one placeholder for each
value that the conditions hold: `sql_parametric`.
-/

namespace PartSearch

variable {ν : Type}

/-! ### Placeholders -/

namespace Sql

def placeholderCount (text : String) : Nat := text.toList.count '?'

@[simp]
theorem placeholderCount_append (a b : String) :
    placeholderCount (a ++ b) = placeholderCount a + placeholderCount b := by
  simp [placeholderCount]

theorem placeholderCount_joinTexts {separator : String}
    (hseparator : placeholderCount separator = 0) (texts : List String) :
    placeholderCount (joinTexts separator texts) = (texts.map placeholderCount).sum := by
  fun_induction joinTexts separator texts with
  | case1 => rfl
  | case2 text => simp
  | case3 text texts hne ih => simp [ih, hseparator]

/-- A text with one placeholder for each of these values, which are its parameters in this order. -/
structure Binds (sql : Sql ν) (values : List (SqlParam ν)) : Prop where
  params_eq : sql.params = values
  placeholders_eq : placeholderCount sql.text = values.length

theorem binds_mk {text : String} {params : List (SqlParam ν)}
    (h : placeholderCount text = params.length) : (⟨text, params⟩ : Sql ν).Binds params :=
  ⟨rfl, h⟩

theorem binds_join_nil (separator : String) : (join separator ([] : List (Sql ν))).Binds [] :=
  ⟨rfl, rfl⟩

theorem Binds.join_cons {separator : String} (hseparator : placeholderCount separator = 0)
    {part : Sql ν} {parts : List (Sql ν)} {values rest : List (SqlParam ν)}
    (hpart : part.Binds values) (hparts : (join separator parts).Binds rest) :
    (join separator (part :: parts)).Binds (values ++ rest) where
  params_eq := by
    rw [← hpart.params_eq, ← hparts.params_eq]
    rfl
  placeholders_eq := by
    rw [List.length_append, ← hpart.placeholders_eq, ← hparts.placeholders_eq, join, join,
      placeholderCount_joinTexts hseparator, placeholderCount_joinTexts hseparator, List.map_cons,
      List.map_cons, List.sum_cons]

/-- The parameters stay while the text gets other text around it. -/
theorem Binds.around {sql : Sql ν} {values : List (SqlParam ν)} (h : sql.Binds values)
    {opening closing : String} (hopening : placeholderCount opening = 0)
    (hclosing : placeholderCount closing = 0) :
    (⟨opening ++ sql.text ++ closing, sql.params⟩ : Sql ν).Binds values where
  params_eq := h.params_eq
  placeholders_eq := by
    rw [placeholderCount_append, placeholderCount_append, hopening, hclosing, h.placeholders_eq,
      Nat.zero_add, Nat.add_zero]

theorem binds_isOneOf {column : String} (hcolumn : placeholderCount column = 0)
    (params : List (SqlParam ν)) : (isOneOf column params).Binds params where
  params_eq := rfl
  placeholders_eq := by
    have hone : placeholderCount "?" = 1 := rfl
    have hopening : placeholderCount " IN (" = 0 := rfl
    have hclosing : placeholderCount ")" = 0 := rfl
    simp [isOneOf, placeholders, placeholderCount_joinTexts (rfl : placeholderCount ", " = 0),
      hcolumn, hone, hopening, hclosing]

end Sql

/-! ### Shapes and leaves -/

namespace Predicate

mutual

/-- The conditions that are no choice, from left to right. -/
def leaves : Predicate ν → List (Predicate ν)
  | anyOf predicates => leavesOf predicates
  | p => [p]

def leavesOf : List (Predicate ν) → List (Predicate ν)
  | [] => []
  | p :: ps => p.leaves ++ leavesOf ps

end

/-- The values in a condition that is no choice. -/
def values : Predicate ν → List (SqlParam ν)
  | fullText expression _ _ => [.text expression]
  | subcategory id => [.ofNat id]
  | subcategories ids => ids.map .ofNat
  | feeTier _ => []
  | minStock stock => [.ofNat stock]
  | packages names => names.map .text
  | manufacturer name => [.text name]
  | mounting m => [.text ("%" ++ m.wording.1 ++ "%"), .text ("%" ++ m.wording.2 ++ "%")]
  | columnBetween _ low high => [.real low, .real high]
  | columnCompare _ _ value => [.real value]
  | attributeLike patterns => patterns.map .text
  | anyOf _ => []

def column? : Predicate ν → Option String
  | columnBetween column _ _ => some column
  | columnCompare column _ _ => some column
  | _ => none

mutual

/-- A condition without its strings and numbers: which condition it is, its column, operator, tier
or mounting, and how many values it has. -/
def shape : Predicate ν → Predicate Unit
  | fullText _ _ _ => fullText "" [] true
  | subcategory _ => subcategory 0
  | subcategories ids => subcategories (ids.map fun _ => 0)
  | feeTier tier => feeTier tier
  | minStock _ => minStock 0
  | packages names => packages (names.map fun _ => "")
  | manufacturer _ => manufacturer ""
  | mounting m => mounting m
  | columnBetween column _ _ => columnBetween column () ()
  | columnCompare column operator _ => columnCompare column operator ()
  | attributeLike patterns => attributeLike (patterns.map fun _ => "")
  | anyOf predicates => anyOf (shapes predicates)

def shapes : List (Predicate ν) → List (Predicate Unit)
  | [] => []
  | p :: ps => p.shape :: shapes ps

end

theorem sqlList_eq_map (ps : List (Predicate ν)) : sqlList ps = ps.map sql := by
  induction ps with
  | nil => rfl
  | cons p ps ih => rw [sqlList, ih, List.map_cons]

/-! ### The text depends on the shape only -/

theorem sql_subcategories (ids : List Nat) :
    (subcategories ids : Predicate ν).sql = Sql.isOneOf "subcategory_id" (ids.map .ofNat) := rfl

theorem sql_packages (names : List String) :
    (packages names : Predicate ν).sql = Sql.isOneOf "package" (names.map .text) := rfl

theorem sql_attributeLike (patterns : List String) :
    (attributeLike patterns : Predicate ν).sql = ⟨"(" ++ Sql.joinTexts " OR "
      (patterns.map fun _ => "attributes LIKE ? ESCAPE '\\'") ++ ")", patterns.map .text⟩ := rfl

theorem sql_anyOf (ps : List (Predicate ν)) :
    (anyOf ps).sql = ⟨"(" ++ (Sql.join " OR " (sqlList ps)).text ++ ")",
      (Sql.join " OR " (sqlList ps)).params⟩ := rfl

mutual

theorem text_shape : (p : Predicate ν) → p.shape.sql.text = p.sql.text
  | fullText _ _ _ | subcategory _ | feeTier _ | minStock _ | manufacturer _ | mounting _
  | columnBetween _ _ _ | columnCompare _ _ _ => rfl
  | subcategories ids => by simp [shape, sql_subcategories, Sql.isOneOf]
  | packages names => by simp [shape, sql_packages, Sql.isOneOf]
  | attributeLike patterns => by simp [shape, sql_attributeLike]
  | anyOf ps => by simp [shape, sql_anyOf, Sql.join, texts_shapes ps]

theorem texts_shapes : (ps : List (Predicate ν)) →
    (sqlList (shapes ps)).map Sql.text = (sqlList ps).map Sql.text
  | [] => rfl
  | p :: ps => by
      rw [shapes, sqlList, sqlList, List.map_cons, List.map_cons, text_shape p, texts_shapes ps]

end

theorem whereSql_text (ps : List (Predicate ν)) :
    (whereSql ps).text = (whereSql (shapes ps)).text := by
  cases ps with
  | nil => rfl
  | cons p ps =>
      change (Sql.join " AND " ((p :: ps).map sql)).text =
        (Sql.join " AND " ((shapes (p :: ps)).map sql)).text
      rw [Sql.join, Sql.join, ← sqlList_eq_map, ← sqlList_eq_map, texts_shapes]

/-! ### One placeholder for each value -/

/-- The columns that a condition names hold no question mark. -/
def HasPlainColumns (leaf : Predicate ν) : Prop := ∀ column ∈ leaf.column?, '?' ∉ column.toList

theorem HasPlainColumns.placeholderCount_eq {leaf : Predicate ν} {column : String}
    (h : leaf.HasPlainColumns) (hcolumn : leaf.column? = some column) :
    Sql.placeholderCount column = 0 :=
  List.count_eq_zero.mpr (h column hcolumn)

theorem binds_leaf {p : Predicate ν} (hleaf : p.leaves = [p]) (h : p.sql.Binds p.values) :
    p.sql.Binds (p.leaves.flatMap values) := by
  rwa [hleaf, List.flatMap_singleton]

theorem binds_feeTier (tier : FeeTier) : (feeTier tier : Predicate ν).sql.Binds [] where
  params_eq := rfl
  placeholders_eq := by
    change Sql.placeholderCount ("library_type = '" ++ tier.code ++ "'") = 0
    rw [Sql.placeholderCount_append, Sql.placeholderCount_append]
    cases tier <;> rfl

theorem binds_columnBetween {column : String} (hcolumn : Sql.placeholderCount column = 0)
    (low high : ν) : (columnBetween column low high).sql.Binds [.real low, .real high] where
  params_eq := rfl
  placeholders_eq := by
    change Sql.placeholderCount (column ++ " BETWEEN ? AND ?") = 2
    rw [Sql.placeholderCount_append, hcolumn]
    rfl

theorem binds_columnCompare {column : String} (hcolumn : Sql.placeholderCount column = 0)
    (operator : Operator) (value : ν) :
    (columnCompare column operator value).sql.Binds [.real value] where
  params_eq := rfl
  placeholders_eq := by
    change Sql.placeholderCount (column ++ " " ++ operator.symbol ++ " ?") = 1
    rw [Sql.placeholderCount_append, Sql.placeholderCount_append, Sql.placeholderCount_append,
      hcolumn]
    cases operator <;> rfl

theorem binds_attributeLike (patterns : List String) :
    (attributeLike patterns : Predicate ν).sql.Binds (patterns.map .text) where
  params_eq := rfl
  placeholders_eq := by
    have hone : Sql.placeholderCount "attributes LIKE ? ESCAPE '\\'" = 1 := rfl
    have hopening : Sql.placeholderCount "(" = 0 := rfl
    have hclosing : Sql.placeholderCount ")" = 0 := rfl
    simp [sql_attributeLike, Sql.placeholderCount_joinTexts (rfl : Sql.placeholderCount " OR " = 0),
      hone, hopening, hclosing]

mutual

theorem sql_binds : (p : Predicate ν) → (∀ leaf ∈ p.leaves, leaf.HasPlainColumns) →
    p.sql.Binds (p.leaves.flatMap values)
  | fullText _ _ _, _ => binds_leaf rfl (Sql.binds_mk rfl)
  | subcategory _, _ => binds_leaf rfl (Sql.binds_mk rfl)
  | subcategories _, _ => binds_leaf rfl (Sql.binds_isOneOf rfl _)
  | feeTier tier, _ => binds_leaf rfl (binds_feeTier tier)
  | minStock _, _ => binds_leaf rfl (Sql.binds_mk rfl)
  | packages _, _ => binds_leaf rfl (Sql.binds_isOneOf rfl _)
  | manufacturer _, _ => binds_leaf rfl (Sql.binds_mk rfl)
  | mounting _, _ => binds_leaf rfl (Sql.binds_mk rfl)
  | columnBetween _ low high, h =>
    binds_leaf rfl
      (binds_columnBetween ((h _ (List.mem_singleton_self _)).placeholderCount_eq rfl) low high)
  | columnCompare _ operator value, h =>
    binds_leaf rfl (binds_columnCompare
      ((h _ (List.mem_singleton_self _)).placeholderCount_eq rfl) operator value)
  | attributeLike patterns, _ => binds_leaf rfl (binds_attributeLike patterns)
  | anyOf ps, h => (join_binds " OR " rfl ps h).around rfl rfl

theorem join_binds (separator : String) (hseparator : Sql.placeholderCount separator = 0) :
    (ps : List (Predicate ν)) → (∀ leaf ∈ leavesOf ps, leaf.HasPlainColumns) →
      (Sql.join separator (sqlList ps)).Binds ((leavesOf ps).flatMap values)
  | [], _ => Sql.binds_join_nil separator
  | p :: ps, h => by
      rw [leavesOf, List.flatMap_append]
      apply Sql.Binds.join_cons hseparator
      · exact sql_binds p fun leaf hleaf => h leaf (List.mem_append_left _ hleaf)
      · exact join_binds separator hseparator ps fun leaf hleaf =>
          h leaf (List.mem_append_right _ hleaf)

end

theorem whereSql_binds {ps : List (Predicate ν)}
    (h : ∀ leaf ∈ leavesOf ps, leaf.HasPlainColumns) :
    (whereSql ps).Binds ((leavesOf ps).flatMap values) := by
  cases ps with
  | nil => exact ⟨rfl, by simp [whereSql, leavesOf, Sql.placeholderCount]⟩
  | cons p ps =>
      have hjoin := join_binds " AND " rfl (p :: ps) h
      rwa [sqlList_eq_map] at hjoin

theorem placeholderCount_orderSql (order : SortOrder) : Sql.placeholderCount order.sql = 0 := by
  obtain ⟨key, preferNoFee⟩ := order
  cases key <;> cases preferNoFee <;> rfl

theorem selectSql_text (ps : List (Predicate ν)) (order : SortOrder) (limit offset : Nat) :
    (selectSql ps order limit offset).text = "SELECT * FROM components WHERE " ++
      (whereSql ps).text ++ " " ++ order.sql ++ " LIMIT ? OFFSET ?" := rfl

theorem selectSql_params (ps : List (Predicate ν)) (order : SortOrder) (limit offset : Nat) :
    (selectSql ps order limit offset).params =
      (whereSql ps).params ++ [.ofNat limit, .ofNat offset] := rfl

theorem tierCountSql_text (ps : List (Predicate ν)) :
    (tierCountSql ps).text = "SELECT library_type, COUNT(*) FROM components WHERE " ++
      (whereSql ps).text ++ " GROUP BY library_type" := rfl

theorem selectSql_binds {ps : List (Predicate ν)}
    (h : ∀ leaf ∈ leavesOf ps, leaf.HasPlainColumns) (order : SortOrder) (limit offset : Nat) :
    (selectSql ps order limit offset).Binds
      ((leavesOf ps).flatMap values ++ [.ofNat limit, .ofNat offset]) where
  params_eq := by rw [selectSql_params, (whereSql_binds h).params_eq]
  placeholders_eq := by
    have hopening : Sql.placeholderCount "SELECT * FROM components WHERE " = 0 := rfl
    have hspace : Sql.placeholderCount " " = 0 := rfl
    have hpage : Sql.placeholderCount " LIMIT ? OFFSET ?" = 2 := rfl
    simp [selectSql_text, (whereSql_binds h).placeholders_eq, placeholderCount_orderSql, hopening,
      hspace, hpage]

theorem tierCountSql_binds {ps : List (Predicate ν)}
    (h : ∀ leaf ∈ leavesOf ps, leaf.HasPlainColumns) :
    (tierCountSql ps).Binds ((leavesOf ps).flatMap values) :=
  (whereSql_binds h).around rfl rfl

/-- Every query has one placeholder for each value of its conditions, from left to right, and its
text is the same for all conditions of one shape. -/
theorem sql_parametric (ps : List (Predicate ν)) (order : SortOrder) (limit offset : Nat) :
    ((∀ leaf ∈ leavesOf ps, leaf.HasPlainColumns) →
      (whereSql ps).Binds ((leavesOf ps).flatMap values) ∧
      (selectSql ps order limit offset).Binds
        ((leavesOf ps).flatMap values ++ [.ofNat limit, .ofNat offset]) ∧
      (tierCountSql ps).Binds ((leavesOf ps).flatMap values)) ∧
    ∀ (qs : List (Predicate ν)) (limit' offset' : Nat), shapes qs = shapes ps →
      (whereSql qs).text = (whereSql ps).text ∧
      (selectSql qs order limit' offset').text = (selectSql ps order limit offset).text ∧
      (tierCountSql qs).text = (tierCountSql ps).text := by
  constructor
  · intro h
    exact ⟨whereSql_binds h, selectSql_binds h order limit offset, tierCountSql_binds h⟩
  · intro qs limit' offset' hshapes
    have hwhere : (whereSql qs).text = (whereSql ps).text := by
      rw [whereSql_text qs, hshapes, ← whereSql_text ps]
    refine ⟨hwhere, ?_, ?_⟩
    · rw [selectSql_text, selectSql_text, hwhere]
    · rw [tierCountSql_text, tierCountSql_text, hwhere]

/-- A choice inside a choice, and a question mark in a value. -/
def nestedChoice (maker package : String) (ohms : Rat) : List (Predicate Rat) := [
  .manufacturer maker,
  .anyOf [.columnBetween "resistance_ohms" ohms (ohms + 1),
    .anyOf [.feeTier .basic, .packages [package, "0402"]]],
  .attributeLike ["%?%"]]

theorem sql_parametric_nestedChoice :
    (∀ leaf ∈ leavesOf (nestedChoice "?" "0603" 10), leaf.HasPlainColumns) ∧
      (selectSql (nestedChoice "?" "0603" 10) {} 20 40).Binds
        [.text "?", .real 10, .real (10 + 1), .text "0603", .text "0402", .text "%?%", .ofNat 20,
          .ofNat 40] ∧
      (whereSql (nestedChoice "' OR 1 = 1" "?" 47)).text =
        (whereSql (nestedChoice "?" "0603" 10)).text := by
  have hcolumns : ∀ leaf ∈ leavesOf (nestedChoice "?" "0603" 10), leaf.HasPlainColumns := by
    simp [nestedChoice, leavesOf, leaves, HasPlainColumns, column?]
  obtain ⟨hbinds, htexts⟩ := sql_parametric (nestedChoice "?" "0603" 10) {} 20 40
  exact ⟨hcolumns, (hbinds hcolumns).2.1, (htexts _ 20 40 rfl).1⟩

end Predicate

end PartSearch
