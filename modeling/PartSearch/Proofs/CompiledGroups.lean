import PartSearch.Proofs.GroupPaths

/-!
# What compiling makes of groups

No group is dropped. Each one has a single clause, since there is always a name to look for and a
value to look for under it, and each one that is compared as numbers over the blob has a single
check, in which every value of the group is found either as a target or as a literal:
`ofGroups_keepsGroups`.
-/

namespace PartSearch

variable {ν : Type} [Number ν] {g : FilterGroup}

namespace FilterGroup

/-! ### Paths by their conditions -/

theorem blobPath_ne_column (column : Attribute.Column) : g.blobPath ν ≠ .column column := by
  unfold blobPath
  split
  · split <;> exact Path.noConfusion
  · exact Path.noConfusion

/-- A group takes the column of its attribute if every value can be read for it. -/
theorem path_eq_column_iff {column : Attribute.Column} :
    g.path ν = .column column ↔ Attribute.column? g.name = some column ∧
      ∀ v ∈ g.values, (column.format.read? v : Option ν).isSome = true := by
  unfold path
  cases hcolumn : Attribute.column? g.name with
  | none =>
      refine iff_of_false (blobPath_ne_column column) ?_
      rintro ⟨hnone, -⟩
      cases hnone
  | some source =>
      dsimp only
      by_cases hall : (g.values.all fun v => (source.format.read? v : Option ν).isSome) = true
      · rw [if_pos hall, Path.column.injEq, Option.some.injEq]
        exact ⟨fun h => ⟨h, h ▸ List.all_eq_true.mp hall⟩, fun h => h.1⟩
      · rw [if_neg hall, Option.some.injEq]
        refine iff_of_false (blobPath_ne_column column) ?_
        rintro ⟨rfl, hread⟩
        exact hall (List.all_eq_true.mpr hread)

theorem path_eq_blobPath (h : ∀ column, g.path ν ≠ .column column) : g.path ν = g.blobPath ν := by
  unfold path at h ⊢
  split
  · rename_i column hcolumn
    rw [hcolumn] at h
    split
    · rename_i hall
      exact absurd (if_pos hall) (h column)
    · rfl
  · rfl

theorem blobPath_eq_number_iff {format : AttributeFormat} :
    g.blobPath ν = .number format ↔
      Attribute.formatOf? (Attribute.catalogNames g.name) = some format ∧
      ∃ v ∈ g.values, (format.readScalar? v : Option ν).isSome = true := by
  unfold blobPath
  cases hformat : Attribute.formatOf? (Attribute.catalogNames g.name) with
  | none => simp
  | some known =>
      dsimp only
      by_cases hnone : (g.readValues known : List (String × ν)).isEmpty = true
      · rw [if_pos hnone, Option.some.injEq]
        refine iff_of_false Path.noConfusion ?_
        rintro ⟨rfl, hread⟩
        exact readValues_ne_nil hread (List.isEmpty_iff.mp hnone)
      · rw [if_neg hnone, Path.number.injEq, Option.some.injEq]
        refine ⟨?_, fun h => h.1⟩
        rintro rfl
        obtain ⟨⟨v, x⟩, hvx⟩ := List.exists_mem_of_ne_nil _ (mt List.isEmpty_iff.mpr hnone)
        obtain ⟨hv, hread⟩ := mem_readValues_iff.mp hvx
        exact ⟨rfl, v, hv, by rw [hread]; rfl⟩

/-- A group that takes no column is compared as numbers if one of its values is a number. -/
theorem path_eq_number_iff {format : AttributeFormat} :
    g.path ν = .number format ↔ (∀ column, g.path ν ≠ .column column) ∧
      Attribute.formatOf? (Attribute.catalogNames g.name) = some format ∧
      ∃ v ∈ g.values, (format.readScalar? v : Option ν).isSome = true := by
  rw [← blobPath_eq_number_iff]
  constructor
  · intro hpath
    have hcolumn : ∀ column, g.path ν ≠ .column column := by
      rw [hpath]
      exact fun _ => Path.noConfusion
    exact ⟨hcolumn, (path_eq_blobPath hcolumn).symm.trans hpath⟩
  · rintro ⟨hcolumn, hblob⟩
    exact (path_eq_blobPath hcolumn).trans hblob

/-! ### The clause of a group -/

/-- The conditions on a column for some values, one for each of them in order. -/
def AsksEach (t : Tolerance ν) (column : Attribute.Column) (operator : Operator) :
    List String → List (Predicate ν) → Prop :=
  List.Forall₂ fun v p =>
    ∃ x, column.format.read? v = some x ∧ p = columnClause t column.name operator x

/-- A clause that stands for a group: on a column the alternatives for its values, and over the blob
at least one pattern. -/
def StandsFor (t : Tolerance ν) (g : FilterGroup) (clause : Predicate ν) : Prop :=
  match g.path ν with
  | .column column =>
      ∃ conditions, AsksEach t column g.operator g.values conditions ∧
        clause = alternatives conditions
  | _ => ∃ patterns, patterns ≠ [] ∧ clause = .attributeLike patterns

theorem asksEach_filterMap (t : Tolerance ν) (column : Attribute.Column) (operator : Operator)
    {values : List String}
    (hread : ∀ v ∈ values, (column.format.read? v : Option ν).isSome = true) :
    AsksEach t column operator values
      ((values.filterMap column.format.read?).map (columnClause t column.name operator)) := by
  induction values with
  | nil => exact List.Forall₂.nil
  | cons v values ih =>
      obtain ⟨hv, hvalues⟩ := List.forall_mem_cons.mp hread
      obtain ⟨x, hx⟩ := Option.isSome_iff_exists.mp hv
      rw [List.filterMap_cons, hx]
      exact List.Forall₂.cons ⟨x, hx, rfl⟩ (ih hvalues)

omit [Number ν] in
theorem exists_patterns_textual (hvalues : g.values ≠ []) :
    ∃ patterns, patterns ≠ [] ∧
      (g.textual (Attribute.catalogNames g.name) : Compiled ν).clauses =
        [.attributeLike patterns] := by
  have hnames := Attribute.catalogNames_ne_nil g.name
  simp only [textual]
  split
  · obtain ⟨n, hn⟩ := List.exists_mem_of_ne_nil _ hnames
    obtain ⟨v, hv⟩ := List.exists_mem_of_ne_nil _ hvalues
    have hpatterns : ((Attribute.catalogNames g.name).flatMap fun n =>
        g.values.map (g.textPattern n)) ≠ [] :=
      List.ne_nil_of_mem (List.mem_flatMap.mpr ⟨n, hn, List.mem_map_of_mem hv⟩)
    exact ⟨_, hpatterns, likeClause_of_ne_nil hpatterns⟩
  · have hpatterns : (Attribute.catalogNames g.name).map Like.attributeExists ≠ [] := by
      simpa using hnames
    exact ⟨_, hpatterns, likeClause_of_ne_nil hpatterns⟩

theorem exists_patterns_numeric (hvalues : g.values ≠ []) (format : AttributeFormat) :
    ∃ patterns, patterns ≠ [] ∧
      (g.numeric (Attribute.catalogNames g.name) format
        (g.readValues format : List (String × ν))).clauses = [.attributeLike patterns] := by
  have hnames := Attribute.catalogNames_ne_nil g.name
  by_cases heach : g.operator = .eq ∧ format.isInterval = false
  · obtain ⟨patterns, hclauses, hpatterns⟩ :=
      @numeric_clauses_of_values ν _ g format _ heach.1 heach.2 hnames hvalues
    refine ⟨patterns, ?_, hclauses⟩
    obtain ⟨n, hn⟩ := List.exists_mem_of_ne_nil _ hnames
    obtain ⟨v, hv⟩ := List.exists_mem_of_ne_nil _ hvalues
    obtain ⟨p, hp⟩ := @exists_mem_valuePatterns ν _ g format n v
    exact List.ne_nil_of_mem ((hpatterns p).mpr ⟨n, hn, v, hv, hp⟩)
  · have hany : g.operator ≠ .eq ∨ format.isInterval = true := by
      rwa [← Bool.not_eq_false, ← not_and_or]
    have hpatterns : (Attribute.catalogNames g.name).map Like.attributeExists ≠ [] := by
      simpa using hnames
    exact ⟨_, hpatterns, (numeric_clauses_of_exists hany).trans (likeClause_of_ne_nil hpatterns)⟩

/-- Whatever its name and its operator are, a group with a value has exactly one clause. -/
theorem exists_clause (t : Tolerance ν) (hvalues : g.values ≠ []) :
    ∃ clause, (g.compile t).clauses = [clause] ∧ StandsFor t g clause := by
  rw [compile_eq_compileOn]
  cases hpath : g.path ν with
  | column column =>
      have hread := (path_eq_column_iff.mp hpath).2
      refine ⟨_, rfl, ?_⟩
      rw [StandsFor, hpath]
      exact ⟨_, asksEach_filterMap t column g.operator hread, rfl⟩
  | number format =>
      obtain ⟨patterns, hne, hclauses⟩ := exists_patterns_numeric (ν := ν) hvalues format
      refine ⟨_, hclauses, ?_⟩
      rw [StandsFor, hpath]
      exact ⟨patterns, hne, rfl⟩
  | text =>
      obtain ⟨patterns, hne, hclauses⟩ := exists_patterns_textual (ν := ν) hvalues
      refine ⟨_, hclauses, ?_⟩
      rw [StandsFor, hpath]
      exact ⟨patterns, hne, rfl⟩

/-! ### The check of a group -/

/-- Values told apart: in their order, the numbers of those that can be read, and the others. -/
inductive Sorts (format : AttributeFormat) : List String → List ν → List String → Prop
  | nil : Sorts format [] [] []
  | target {v : String} {x : ν} {values : List String} {targets : List ν} {literals : List String}
      (hread : format.readScalar? v = some x) (hrest : Sorts format values targets literals) :
      Sorts format (v :: values) (x :: targets) literals
  | literal {v : String} {values : List String} {targets : List ν} {literals : List String}
      (hread : (format.readScalar? v : Option ν) = none)
      (hrest : Sorts format values targets literals) :
      Sorts format (v :: values) targets (v :: literals)

theorem sorts_readValues (g : FilterGroup) (format : AttributeFormat) :
    Sorts format g.values ((g.readValues format : List (String × ν)).map (·.2))
      (g.literalValues ν format) := by
  unfold readValues literalValues
  induction g.values with
  | nil => exact Sorts.nil
  | cons v values ih =>
      rw [List.filterMap_cons, List.filter_cons]
      cases hread : (format.readScalar? v : Option ν) with
      | none => exact Sorts.literal hread ih
      | some x => exact Sorts.target hread ih

/-- Is a group compared as numbers over the blob? It is if not all its values can be read for a
column, and one of them can be read in the format of the attribute. -/
def isChecked (ν : Type) [Number ν] (g : FilterGroup) : Bool :=
  ((Attribute.column? g.name).all fun column =>
      !g.values.all fun v => (column.format.read? v : Option ν).isSome) &&
    (Attribute.formatOf? (Attribute.catalogNames g.name)).any fun format =>
      g.values.any fun v => (format.readScalar? v : Option ν).isSome

theorem isChecked_iff : g.isChecked ν = true ↔ ∃ format, g.path ν = .number format := by
  simp only [path_eq_number_iff, exists_and_left, ne_eq, path_eq_column_iff, isChecked,
    Bool.and_eq_true, Option.all_eq_true, Option.any_eq_true, Bool.not_eq_true', not_and,
    ← Bool.not_eq_true, List.all_eq_true, List.any_eq_true]

/-- The check of a group that is compared as numbers over the blob. -/
structure IsCheckOf (g : FilterGroup) (check : RowCheck ν) : Prop where
  name : check.name = g.name
  attributeNames : check.attributeNames = Attribute.catalogNames g.name
  format : Attribute.formatOf? (Attribute.catalogNames g.name) = some check.format
  operator : check.operator = g.operator
  sorts : Sorts check.format g.values check.targets check.literals

theorem exists_check (t : Tolerance ν) (h : g.isChecked ν = true) :
    ∃ check, (g.compile t).checks = [check] ∧ IsCheckOf g check := by
  obtain ⟨format, hpath⟩ := isChecked_iff.mp h
  have hformat := (path_eq_number_iff.mp hpath).2.1
  rw [compile_eq_compileOn, hpath]
  exact ⟨_, rfl, rfl, rfl, hformat, rfl, sorts_readValues g format⟩

theorem checks_eq_nil (t : Tolerance ν) (h : g.isChecked ν = false) : (g.compile t).checks = [] := by
  rw [← Bool.not_eq_true, isChecked_iff] at h
  rw [compile_eq_compileOn]
  cases hpath : g.path ν with
  | number format => exact absurd ⟨format, hpath⟩ h
  | column column => rfl
  | text => rfl

end FilterGroup

/-! ### All groups -/

namespace Compiled

open FilterGroup

theorem forall₂_clauses (t : Tolerance ν) {gs : List FilterGroup}
    (hvalues : ∀ g ∈ gs, g.values ≠ []) :
    List.Forall₂ (StandsFor t) gs (ofGroups t gs).clauses := by
  induction gs with
  | nil => exact List.Forall₂.nil
  | cons g gs ih =>
      obtain ⟨hg, hgs⟩ := List.forall_mem_cons.mp hvalues
      obtain ⟨clause, hclause, hstands⟩ := exists_clause t hg
      change List.Forall₂ _ _ ((g.compile t).clauses ++ (ofGroups t gs).clauses)
      rw [hclause]
      exact List.Forall₂.cons hstands (ih hgs)

theorem forall₂_checks (t : Tolerance ν) (gs : List FilterGroup) :
    List.Forall₂ IsCheckOf (gs.filter (isChecked ν)) (ofGroups t gs).checks := by
  induction gs with
  | nil => exact List.Forall₂.nil
  | cons g gs ih =>
      change List.Forall₂ _ _ ((g.compile t).checks ++ (ofGroups t gs).checks)
      rw [List.filter_cons]
      cases hchecked : g.isChecked ν with
      | false =>
          rw [checks_eq_nil t hchecked]
          exact ih
      | true =>
          obtain ⟨check, hcheck, his⟩ := exists_check t hchecked
          rw [hcheck]
          exact List.Forall₂.cons his ih

/-- Compiling drops nothing: each group has one clause and each group of numbers over the blob one
check, in the order of the groups, and what comes from one list of groups does not depend on another
list. -/
theorem ofGroups_keepsGroups (t : Tolerance ν) {gs : List FilterGroup}
    (hvalues : ∀ g ∈ gs, g.values ≠ []) :
    List.Forall₂ (StandsFor t) gs (ofGroups t gs).clauses ∧
      List.Forall₂ IsCheckOf (gs.filter (isChecked ν)) (ofGroups t gs).checks ∧
      ∀ others, ofGroups t (gs ++ others) = ofGroups t gs ++ ofGroups t others :=
  ⟨forall₂_clauses t hvalues, forall₂_checks t gs, ofGroups_append t gs⟩

/-- Two resistances on a column, two frequencies of which one is no number, and a colour. -/
def threeGroups : List FilterGroup :=
  [.anyOf "Resistance" ["10k", "4k7"], .anyOf "Frequency" ["1MHz", "Custom"],
    .single ⟨"Color", .ge, "5"⟩]

theorem ofGroups_keepsGroups_threeGroups :
    (∀ g ∈ threeGroups, g.values ≠ []) ∧
      List.Forall₂ (StandsFor .standard) threeGroups
        (ofGroups (.standard : Tolerance Rat) threeGroups).clauses ∧
      List.Forall₂ IsCheckOf [.anyOf "Frequency" ["1MHz", "Custom"]]
        (ofGroups (.standard : Tolerance Rat) threeGroups).checks := by
  have hvalues : ∀ g ∈ threeGroups, g.values ≠ [] := by decide
  have hchecked : threeGroups.filter (isChecked Rat) =
      [.anyOf "Frequency" ["1MHz", "Custom"]] := by decide +kernel
  obtain ⟨hclauses, hchecks, -⟩ :=
    ofGroups_keepsGroups (.standard : Tolerance Rat) hvalues
  rw [hchecked] at hchecks
  exact ⟨hvalues, hclauses, hchecks⟩

end Compiled

end PartSearch
