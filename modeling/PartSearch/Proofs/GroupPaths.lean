import PartSearch.Proofs.ClauseAndCheck
import PartSearch.Store.Memory

/-!
# What a group accepts along its path

A group is compiled in one of three ways, its `Path`: onto a numeric column, as numbers over the
blob, or as text over the blob. Along one path a group of "=" filters is the union of its values,
for the clause and for the check separately: `satisfiesAll_compileOn` and `accepts_compileOn`.
-/

namespace PartSearch

variable {ν : Type} [Number ν]

/-- A row passes compiled filters if it satisfies their clauses in a store and the checks accept
its attributes. -/
def Compiled.passes (c : Compiled ν) (t : Tolerance ν) (row : Row ν) : Bool :=
  (IndexedRow.ofRow row).satisfiesAll c.clauses &&
    c.checks.all fun check => check.accepts t ((Attributes.decode? row.attributes).getD [])

def SpecFilter.passes (t : Tolerance ν) (filters : List SpecFilter) (row : Row ν) : Bool :=
  (Compiled.ofGroups t (FilterGroup.ofFilters filters)).passes t row

theorem Compiled.passes_eq_true_iff {c : Compiled ν} {t : Tolerance ν} {row : Row ν} :
    c.passes t row = true ↔ (IndexedRow.ofRow row).satisfiesAll c.clauses = true ∧
      (c.checks.all fun check =>
        check.accepts t ((Attributes.decode? row.attributes).getD [])) = true :=
  Bool.and_eq_true_iff

theorem Compiled.ofGroups_singleton (t : Tolerance ν) (g : FilterGroup) :
    Compiled.ofGroups t [g] = g.compile t := by
  rw [Compiled.ofGroups, List.flatMap_singleton, List.flatMap_singleton]

theorem Compiled.ofGroups_append (t : Tolerance ν) (groups others : List FilterGroup) :
    ofGroups t (groups ++ others) = ofGroups t groups ++ ofGroups t others := by
  rw [ofGroups, List.flatMap_append, List.flatMap_append]
  rfl

namespace FilterGroup

/-! ### Paths -/

inductive Path where
  | column (column : Attribute.Column)
  | number (format : AttributeFormat)
  | text
deriving DecidableEq, Repr

def blobPath (ν : Type) [Number ν] (g : FilterGroup) : Path :=
  match Attribute.formatOf? (Attribute.catalogNames g.name) with
  | some format =>
    if (g.readValues format : List (String × ν)).isEmpty then .text else .number format
  | none => .text

/-- The path of a group: the column if every value can be read for it, and otherwise the blob. -/
def path (ν : Type) [Number ν] (g : FilterGroup) : Path :=
  match Attribute.column? g.name with
  | some column =>
    if g.values.all fun v => (column.format.read? v : Option ν).isSome then .column column
    else g.blobPath ν
  | none => g.blobPath ν

def compileOn (t : Tolerance ν) : Path → FilterGroup → Compiled ν
  | .column column, g =>
    { clauses := [alternatives
        ((g.values.filterMap column.format.read?).map (columnClause t column.name g.operator))] }
  | .number format, g => g.numeric (Attribute.catalogNames g.name) format (g.readValues format)
  | .text, g => g.textual (Attribute.catalogNames g.name)

theorem mapM_option_eq {α β : Type} (f : α → Option β) (xs : List α) :
    xs.mapM f = if xs.all fun x => (f x).isSome then some (xs.filterMap f) else none := by
  induction xs with
  | nil => rfl
  | cons x xs ih =>
      rw [List.mapM_cons, ih, List.all_cons, List.filterMap_cons]
      cases f x with
      | none => rfl
      | some y => split <;> simp_all

theorem onBlob_eq_compileOn (t : Tolerance ν) (g : FilterGroup) :
    g.onBlob = g.compileOn t (g.blobPath ν) := by
  cases hformat : Attribute.formatOf? (Attribute.catalogNames g.name) with
  | none =>
      simp only [onBlob, blobPath, hformat]
      rfl
  | some format =>
      simp only [onBlob, blobPath, hformat]
      split <;> rfl

/-- A group is compiled along its path. -/
theorem compile_eq_compileOn (t : Tolerance ν) (g : FilterGroup) :
    g.compile t = g.compileOn t (g.path ν) := by
  have hblob : g.onBlob = g.compileOn t (g.blobPath ν) := onBlob_eq_compileOn t g
  cases hcolumn : Attribute.column? g.name with
  | none =>
      simp only [compile, onColumn?, path, hcolumn]
      exact hblob
  | some column =>
      have hmap := mapM_option_eq (fun v => (column.format.read? v : Option ν)) g.values
      by_cases hall : (g.values.all fun v => (column.format.read? v : Option ν).isSome) = true
      · rw [if_pos hall] at hmap
        simp only [compile, onColumn?, path, hcolumn, Option.bind_eq_bind, Option.bind_some, hmap,
          if_pos hall]
        rfl
      · rw [if_neg hall] at hmap
        simp only [compile, onColumn?, path, hcolumn, Option.bind_eq_bind, Option.bind_some, hmap,
          if_neg hall]
        exact hblob

/-- The names and the column that a path relies on belong to the attribute. -/
def Path.Serves (path : Path) (name : String) : Prop :=
  match path with
  | .column source => Attribute.column? name = some source
  | .number format => Attribute.formatOf? (Attribute.catalogNames name) = some format
  | .text => True

theorem path_serves (g : FilterGroup) : (g.path ν).Serves g.name := by
  have hblob : (g.blobPath ν).Serves g.name := by
    unfold blobPath
    split
    · split
      · trivial
      · assumption
    · trivial
  unfold path
  split
  · split
    · assumption
    · exact hblob
  · exact hblob

/-! ### The conditions of a group -/

theorem wantsQuote_textPattern (g : FilterGroup) (name value : String) :
    Like.WantsQuote (g.textPattern name value) := by
  unfold textPattern
  split
  · exact Like.wantsQuote_attributeContains name value
  · exact Like.wantsQuote_attributeEquals name value

theorem wantsQuote_valuePatterns {g : FilterGroup} {format : AttributeFormat}
    {name value pattern : String} (h : pattern ∈ g.valuePatterns ν format name value) :
    Like.WantsQuote pattern := by
  unfold valuePatterns at h
  split at h
  · obtain ⟨text, -, rfl⟩ := Like.mem_valuePatterns_iff.mp h
    exact Like.wantsQuote_attributeStarts name _
  · rw [List.mem_singleton.mp h]
    exact g.wantsQuote_textPattern name value

/-- Every condition of a group compares a column, or it looks for an attribute in blobs. -/
theorem column_or_patterns_of_mem_compile {t : Tolerance ν} {g : FilterGroup} {p : Predicate ν}
    (hp : p ∈ (g.compile t).clauses) :
    (∃ (column : String) (targets : List ν),
      p = alternatives (targets.map (columnClause t column g.operator))) ∨
      ∃ patterns, p = .attributeLike patterns ∧ ∀ pattern ∈ patterns, Like.WantsQuote pattern := by
  have hlike {patterns : List String} (hp : p ∈ likeClause patterns)
      (hwants : ∀ pattern ∈ patterns, Like.WantsQuote pattern) :
      ∃ patterns, p = .attributeLike patterns ∧ ∀ pattern ∈ patterns, Like.WantsQuote pattern := by
    unfold likeClause at hp
    split at hp
    · cases hp
    · exact ⟨patterns, List.mem_singleton.mp hp, hwants⟩
  have hexists (names : List String) :
      ∀ pattern ∈ names.map Like.attributeExists, Like.WantsQuote pattern := by
    intro pattern hpattern
    obtain ⟨name, -, rfl⟩ := List.mem_map.mp hpattern
    exact Like.wantsQuote_attributeExists name
  rw [compile_eq_compileOn] at hp
  cases hpath : g.path ν with
  | column column =>
      rw [hpath, compileOn, List.mem_singleton] at hp
      exact Or.inl ⟨_, _, hp⟩
  | number format =>
      rw [hpath] at hp
      refine Or.inr (hlike hp ?_)
      split
      · intro pattern hpattern
        obtain ⟨name, -, value, -, hmem⟩ := mem_numeric_patterns_iff.mp hpattern
        exact wantsQuote_valuePatterns hmem
      · exact hexists _
  | text =>
      rw [hpath] at hp
      refine Or.inr (hlike hp ?_)
      split
      · intro pattern hpattern
        obtain ⟨name, -, hmem⟩ := List.mem_flatMap.mp hpattern
        obtain ⟨value, -, rfl⟩ := List.mem_map.mp hmem
        exact g.wantsQuote_textPattern name value
      · exact hexists _

/-! ### The clause of a group -/

/-- A row satisfies the clause for one value of an attribute, along a path. -/
def ClauseHit (t : Tolerance ν) (path : Path) (r : IndexedRow ν) (name value : String) : Prop :=
  match path with
  | .column column => ∃ x, column.format.read? value = some x ∧
      r.satisfies (columnClause t column.name .eq x) = true
  | .number format =>
      ∃ n ∈ Attribute.catalogNames name, if format.isInterval = true then
        Like.isMatch (Like.attributeExists n) r.blob = true
      else ∃ p ∈ (single ⟨name, .eq, value⟩).valuePatterns ν format n value,
        Like.isMatch p r.blob = true
  | .text => ∃ n ∈ Attribute.catalogNames name,
      Like.isMatch ((single ⟨name, .eq, value⟩).textPattern n value) r.blob = true

theorem satisfiesAny_eq (r : IndexedRow ν) (ps : List (Predicate ν)) :
    r.satisfiesAny ps = ps.any r.satisfies := by
  induction ps with
  | nil => rfl
  | cons p ps ih => rw [IndexedRow.satisfiesAny, ih, List.any_cons]

theorem satisfies_alternatives (r : IndexedRow ν) (ps : List (Predicate ν)) :
    r.satisfies (alternatives ps) = ps.any r.satisfies := by
  unfold alternatives
  split
  · simp
  · rw [IndexedRow.satisfies, satisfiesAny_eq]

theorem satisfiesAll_singleton (r : IndexedRow ν) (p : Predicate ν) :
    r.satisfiesAll [p] = r.satisfies p := by
  rw [IndexedRow.satisfiesAll, List.all_cons, List.all_nil, Bool.and_true]

variable {g : FilterGroup}

/-- The clause of a group holds for the rows that satisfy it for one of its values. -/
theorem satisfiesAll_compileOn (t : Tolerance ν) (path : Path) (r : IndexedRow ν)
    (hoperator : g.operator = .eq) (hvalues : g.values ≠ []) :
    r.satisfiesAll (g.compileOn t path).clauses = true ↔
      ∃ v ∈ g.values, ClauseHit t path r g.name v := by
  obtain ⟨n₀, hn₀⟩ := List.exists_mem_of_ne_nil _ (Attribute.catalogNames_ne_nil g.name)
  obtain ⟨v₀, hv₀⟩ := List.exists_mem_of_ne_nil _ hvalues
  cases path with
  | column column =>
      simp only [compileOn, satisfiesAll_singleton, satisfies_alternatives, List.any_eq_true,
        List.mem_map, List.mem_filterMap, hoperator, ClauseHit]
      constructor
      · rintro ⟨p, ⟨x, ⟨v, hv, hread⟩, rfl⟩, hp⟩
        exact ⟨v, hv, x, hread, hp⟩
      · rintro ⟨v, hv, x, hread, hp⟩
        exact ⟨_, ⟨x, ⟨v, hv, hread⟩, rfl⟩, hp⟩
  | number format =>
      cases hinterval : format.isInterval with
      | true =>
          have hpatterns : (Attribute.catalogNames g.name).map Like.attributeExists ≠ [] := by
            simpa using Attribute.catalogNames_ne_nil g.name
          simp only [compileOn, numeric_clauses_of_exists (Or.inr hinterval),
            likeClause_of_ne_nil hpatterns, satisfiesAll_singleton, IndexedRow.satisfies,
            List.any_map, List.any_eq_true, Function.comp_apply, ClauseHit, hinterval, if_true]
          constructor
          · intro h
            exact ⟨v₀, hv₀, h⟩
          · rintro ⟨_, _, h⟩
            exact h
      | false =>
          obtain ⟨patterns, hclauses, hpatterns⟩ := @numeric_clauses_of_values ν _ g format _
            hoperator hinterval (Attribute.catalogNames_ne_nil g.name) hvalues
          simp only [compileOn, hclauses, satisfiesAll_singleton, IndexedRow.satisfies,
            List.any_eq_true, hpatterns, ClauseHit, hinterval, Bool.false_eq_true, if_false]
          constructor
          · rintro ⟨p, ⟨n, hn, v, hv, hp⟩, hmatch⟩
            exact ⟨v, hv, n, hn, p, hp, hmatch⟩
          · rintro ⟨v, hv, n, hn, p, hp, hmatch⟩
            exact ⟨p, ⟨n, hn, v, hv, hp⟩, hmatch⟩
  | text =>
      have hpatterns : ((Attribute.catalogNames g.name).flatMap fun n =>
          g.values.map (g.textPattern n)) ≠ [] :=
        List.ne_nil_of_mem (List.mem_flatMap.mpr ⟨n₀, hn₀, List.mem_map_of_mem hv₀⟩)
      simp only [compileOn, textual, hoperator, if_true, likeClause_of_ne_nil hpatterns,
        satisfiesAll_singleton, IndexedRow.satisfies, List.any_eq_true, List.mem_flatMap,
        List.mem_map, ClauseHit]
      constructor
      · rintro ⟨p, ⟨n, hn, v, hv, rfl⟩, hmatch⟩
        exact ⟨v, hv, n, hn, hmatch⟩
      · rintro ⟨v, hv, n, hn, hmatch⟩
        exact ⟨_, ⟨n, hn, v, hv, rfl⟩, hmatch⟩

end FilterGroup

/-! ### The check of a group -/

namespace RowCheck

variable {check : RowCheck ν}

def onlyLiteral (check : RowCheck ν) (literal : String) : RowCheck ν :=
  { check with targets := [], literals := [literal] }

def onlyTarget (check : RowCheck ν) (target : ν) : RowCheck ν :=
  { check with targets := [target], literals := [] }

omit [Number ν] in
theorem hitsLiteral_iff (pairs : Attributes) : check.hitsLiteral pairs = true ↔
    ∃ l ∈ check.literals, (check.onlyLiteral l).hitsLiteral pairs = true := by
  simp only [hitsLiteral, onlyLiteral, List.any_eq_true, Bool.and_eq_true, List.any_cons,
    List.any_nil, Bool.or_false]
  constructor
  · rintro ⟨pair, hpair, hname, l, hl, hsame⟩
    exact ⟨l, hl, pair, hpair, hname, hsame⟩
  · rintro ⟨l, hl, pair, hpair, hname, hsame⟩
    exact ⟨pair, hpair, hname, l, hl, hsame⟩

theorem valueSatisfies_iff (t : Tolerance ν) (value : String) :
    check.valueSatisfies t value = true ↔
      ∃ x ∈ check.targets, (check.onlyTarget x).valueSatisfies t value = true := by
  unfold valueSatisfies onlyTarget
  dsimp only
  split
  · simp [intervalSatisfies]
  · cases (check.format.readScalar? value : Option ν) <;> simp

theorem accepts_onlyLiteral (t : Tolerance ν) (literal : String) (pairs : Attributes) :
    (check.onlyLiteral literal).accepts t pairs =
      (check.onlyLiteral literal).hitsLiteral pairs := by
  have hvalue (value : String) : (check.onlyLiteral literal).valueSatisfies t value = false := by
    rw [← Bool.not_eq_true, valueSatisfies_iff]
    rintro ⟨x, hx, -⟩
    cases hx
  unfold accepts
  cases (check.onlyLiteral literal).readable? pairs <;> simp [hvalue]

theorem accepts_onlyTarget (t : Tolerance ν) (target : ν) (pairs : Attributes) :
    (check.onlyTarget target).accepts t pairs =
      ((check.readable? pairs).map ((check.onlyTarget target).valueSatisfies t)).getD false := by
  have hliteral : (check.onlyTarget target).hitsLiteral pairs = false := by
    rw [← Bool.not_eq_true, hitsLiteral_iff]
    rintro ⟨l, hl, -⟩
    cases hl
  rw [accepts, hliteral, Bool.false_or]
  rfl

/-- A check accepts what it accepts for one of its literals or for one of its targets. -/
theorem accepts_iff_exists (t : Tolerance ν) (pairs : Attributes) :
    check.accepts t pairs = true ↔
      (∃ l ∈ check.literals, (check.onlyLiteral l).accepts t pairs = true) ∨
        ∃ x ∈ check.targets, (check.onlyTarget x).accepts t pairs = true := by
  simp only [accepts_onlyLiteral, accepts_onlyTarget]
  rw [accepts, Bool.or_eq_true, hitsLiteral_iff]
  apply or_congr_right
  cases check.readable? pairs with
  | none => simp
  | some value => simpa using valueSatisfies_iff t value

end RowCheck

namespace FilterGroup

/-- The check for one value of an attribute. -/
def valueCheck (ν : Type) [Number ν] (format : AttributeFormat) (name value : String) :
    RowCheck ν where
  name := name
  attributeNames := Attribute.catalogNames name
  operator := .eq
  targets := (format.readScalar? value).toList
  literals := if (format.readScalar? value : Option ν).isNone then [value] else []
  format := format

def CheckHit (t : Tolerance ν) (path : Path) (pairs : Attributes) (name value : String) : Prop :=
  match path with
  | .number format => (valueCheck ν format name value).accepts t pairs = true
  | _ => True

/-- The check of a group accepts what it accepts for one of its values. -/
theorem accepts_compileOn {g : FilterGroup} (t : Tolerance ν) (path : Path) (pairs : Attributes)
    (hoperator : g.operator = .eq) (hvalues : g.values ≠ []) :
    ((g.compileOn t path).checks.all fun check => check.accepts t pairs) = true ↔
      ∃ v ∈ g.values, CheckHit t path pairs g.name v := by
  obtain ⟨v₀, hv₀⟩ := List.exists_mem_of_ne_nil _ hvalues
  cases path with
  | column column => exact iff_of_true rfl ⟨v₀, hv₀, trivial⟩
  | text => exact iff_of_true rfl ⟨v₀, hv₀, trivial⟩
  | number format =>
      let check : RowCheck ν :=
        { name := g.name, attributeNames := Attribute.catalogNames g.name, operator := .eq
          targets := (g.readValues format : List (String × ν)).map (·.2)
          literals := g.literalValues ν format, format }
      have hchecks : (g.compileOn t (.number format)).checks = [check] := by
        simp only [compileOn, numeric, hoperator, check]
      have hliteral (v : String) (hread : (format.readScalar? v : Option ν) = none) :
          valueCheck ν format g.name v = check.onlyLiteral v := by
        simp only [valueCheck, hread]
        rfl
      have htarget (v : String) (x : ν) (hread : format.readScalar? v = some x) :
          valueCheck ν format g.name v = check.onlyTarget x := by
        simp only [valueCheck, hread]
        rfl
      rw [hchecks, List.all_cons, List.all_nil, Bool.and_true, RowCheck.accepts_iff_exists]
      constructor
      · rintro (⟨l, hl, haccepts⟩ | ⟨x, hx, haccepts⟩)
        · obtain ⟨hv, hread⟩ := mem_literalValues_iff.mp hl
          exact ⟨l, hv, by rwa [CheckHit, hliteral l hread]⟩
        · obtain ⟨⟨v, y⟩, hvy, rfl⟩ := List.mem_map.mp hx
          obtain ⟨hv, hread⟩ := mem_readValues_iff.mp hvy
          exact ⟨v, hv, by rwa [CheckHit, htarget v y hread]⟩
      · rintro ⟨v, hv, haccepts⟩
        rw [CheckHit] at haccepts
        cases hread : (format.readScalar? v : Option ν) with
        | none =>
            rw [hliteral v hread] at haccepts
            exact Or.inl ⟨v, mem_literalValues_iff.mpr ⟨hv, hread⟩, haccepts⟩
        | some x =>
            rw [htarget v x hread] at haccepts
            exact Or.inr ⟨x, List.mem_map_of_mem (mem_readValues_iff.mpr ⟨hv, hread⟩), haccepts⟩

end FilterGroup

end PartSearch
