import PartSearch.Filter.Compile
import PartSearch.Proofs.AttributeNames
import PartSearch.Proofs.AttributePatterns

/-!
# The clause of a filter and its check

A filter on numbers that no column serves is compiled to two things: patterns over the attribute
blob, which the store matches, and a check of the rows that the store returns. The patterns are
meant to narrow the rows down and to leave the decision to the check.

They do so for comparisons by order and for ranges, where they only ask for the attribute:
`clause_matches_of_accepts`. For an equality with a single quantity they ask for a spelling of the
value, so a row passes only if it spells the value in one of these ways: `clause_matches_iff_shows`.
-/

namespace PartSearch

variable {ν : Type} [Number ν]

/-! ### Checks -/

namespace RowCheck

/-- A row without any of the attributes that a check looks at does not pass it. -/
theorem exists_attribute_of_accepts {check : RowCheck ν} {policy : Tolerance ν} {pairs : Attributes}
    (h : check.accepts policy pairs = true) : ∃ pair ∈ pairs, pair.1 ∈ check.attributeNames := by
  rcases Bool.or_eq_true_iff.mp h with hliteral | hreadable
  · obtain ⟨pair, hpair, hhit⟩ := List.any_eq_true.mp hliteral
    have hname := (Bool.and_eq_true_iff.mp hhit).1
    exact ⟨pair, hpair, List.contains_iff_mem.mp hname⟩
  · cases hvalue : check.readable? pairs with
    | none => simp [hvalue] at hreadable
    | some value =>
        obtain ⟨pair, hfind, -⟩ := Option.map_eq_some_iff.mp hvalue
        have hfound := List.find?_some hfind
        have hname := (Bool.and_eq_true_iff.mp hfound).1
        exact ⟨pair, List.mem_of_find?_eq_some hfind, List.contains_iff_mem.mp hname⟩

end RowCheck

/-! ### Groups over the blob -/

namespace FilterGroup

variable {g : FilterGroup} {t : Tolerance ν} {format : AttributeFormat}

theorem readValues_ne_nil
    (hread : ∃ v ∈ g.values, (format.readScalar? v : Option ν).isSome = true) :
    (g.readValues format : List (String × ν)) ≠ [] := by
  obtain ⟨v, hv, hsome⟩ := hread
  obtain ⟨x, hx⟩ := Option.isSome_iff_exists.mp hsome
  exact List.ne_nil_of_mem (List.mem_filterMap.mpr ⟨v, hv, by rw [hx]; rfl⟩)

theorem mem_readValues_iff {v : String} {x : ν} :
    (v, x) ∈ g.readValues format ↔ v ∈ g.values ∧ format.readScalar? v = some x := by
  simp only [readValues, List.mem_filterMap, Option.map_eq_some_iff, Prod.mk.injEq]
  constructor
  · rintro ⟨w, hw, y, hread, rfl, rfl⟩
    exact ⟨hw, hread⟩
  · rintro ⟨hv, hread⟩
    exact ⟨v, hv, x, hread, rfl, rfl⟩

theorem mem_literalValues_iff {v : String} :
    v ∈ g.literalValues ν format ↔ v ∈ g.values ∧ (format.readScalar? v : Option ν) = none := by
  rw [literalValues, List.mem_filter, Option.isNone_iff_eq_none]

theorem compile_of_read (hcolumn : (g.onColumn? t : Option (Predicate ν)) = none)
    (hformat : Attribute.formatOf? (Attribute.catalogNames g.name) = some format)
    (hread : ∃ v ∈ g.values, (format.readScalar? v : Option ν).isSome = true) :
    g.compile t =
      g.numeric (Attribute.catalogNames g.name) format
        (g.readValues format : List (String × ν)) := by
  have hvalues : (g.readValues format : List (String × ν)).isEmpty = false :=
    List.isEmpty_eq_false_iff.mpr (readValues_ne_nil hread)
  simp only [compile, hcolumn, onBlob, hformat, hvalues, Bool.false_eq_true, if_false]

omit [Number ν] in
theorem likeClause_of_ne_nil {patterns : List String} (h : patterns ≠ []) :
    (likeClause patterns : List (Predicate ν)) = [.attributeLike patterns] :=
  if_neg (by simpa using h)

/-- Where order or a range is asked for, the clause asks for the attribute only. -/
theorem numeric_clauses_of_exists {names : List String} {read : List (String × ν)}
    (h : g.operator ≠ .eq ∨ format.isInterval = true) :
    (g.numeric names format read).clauses = likeClause (names.map Like.attributeExists) := by
  have hcondition : ¬ (g.operator = .eq && !format.isInterval) = true := by
    rcases h with hoperator | hinterval
    · simp [hoperator]
    · simp [hinterval]
  exact congrArg likeClause (if_neg hcondition)

/-- The patterns for one value under one name, when the values are single quantities. -/
def valuePatterns (ν : Type) [Number ν] (g : FilterGroup) (format : AttributeFormat)
    (name value : String) : List String :=
  match (format.readScalar? value : Option ν) with
  | some x => Like.valuePatterns name value x
  | none => [g.textPattern name value]

theorem exists_mem_valuePatterns (g : FilterGroup) (format : AttributeFormat)
    (name value : String) :
    ∃ p, p ∈ g.valuePatterns ν format name value := by
  unfold valuePatterns
  split
  · exact ⟨_, Like.mem_valuePatterns_iff.mpr ⟨_, List.mem_cons_self, rfl⟩⟩
  · exact ⟨_, List.mem_singleton_self _⟩

theorem mem_numeric_patterns_iff {names : List String} {p : String} :
    p ∈ (names.flatMap fun n => (g.readValues format : List (String × ν)).flatMap
          fun (v, x) => Like.valuePatterns n v x) ++
        names.flatMap (fun n => (g.literalValues ν format).map (g.textPattern n)) ↔
      ∃ n ∈ names, ∃ v ∈ g.values, p ∈ g.valuePatterns ν format n v := by
  simp only [List.mem_append, List.mem_flatMap, List.mem_map, valuePatterns]
  constructor
  · rintro (⟨n, hn, ⟨v, x⟩, hread, hp⟩ | ⟨n, hn, v, hliteral, rfl⟩)
    · obtain ⟨hv, hx⟩ := mem_readValues_iff.mp hread
      exact ⟨n, hn, v, hv, by rw [hx]; exact hp⟩
    · obtain ⟨hv, hx⟩ := mem_literalValues_iff.mp hliteral
      exact ⟨n, hn, v, hv, by rw [hx]; exact List.mem_singleton_self _⟩
  · rintro ⟨n, hn, v, hv, hp⟩
    cases hx : (format.readScalar? v : Option ν) with
    | some x =>
        rw [hx] at hp
        exact Or.inl ⟨n, hn, (v, x), mem_readValues_iff.mpr ⟨hv, hx⟩, hp⟩
    | none =>
        rw [hx] at hp
        exact Or.inr ⟨n, hn, v, mem_literalValues_iff.mpr ⟨hv, hx⟩, (List.mem_singleton.mp hp).symm⟩

/-- Where a single quantity is asked for, the clause looks for each value under each name. -/
theorem numeric_clauses_of_values {names : List String}
    (hoperator : g.operator = .eq) (hinterval : format.isInterval = false)
    (hnames : names ≠ []) (hvalues : g.values ≠ []) :
    ∃ patterns, (g.numeric names format (g.readValues format : List (String × ν))).clauses =
        [.attributeLike patterns] ∧
      ∀ p, p ∈ patterns ↔ ∃ n ∈ names, ∃ v ∈ g.values, p ∈ g.valuePatterns ν format n v := by
  have hcondition : (g.operator = .eq && !format.isInterval) = true := by
    simp [hoperator, hinterval]
  refine ⟨_, (congrArg likeClause (if_pos hcondition)).trans (likeClause_of_ne_nil ?_),
    fun p => mem_numeric_patterns_iff⟩
  obtain ⟨n, hn⟩ := List.exists_mem_of_ne_nil names hnames
  obtain ⟨v, hv⟩ := List.exists_mem_of_ne_nil _ hvalues
  obtain ⟨p, hp⟩ := @exists_mem_valuePatterns ν _ g format n v
  exact List.ne_nil_of_mem (mem_numeric_patterns_iff.mpr ⟨n, hn, v, hv, hp⟩)

theorem textPattern_of_format
    (hformat : Attribute.formatOf? (Attribute.catalogNames g.name) = some format)
    (name value : String) : g.textPattern name value = Like.attributeEquals name value := by
  have hlists : g.listsValues = false := Attribute.not_interface_of_format hformat
  rw [textPattern, hlists]
  rfl

/-! ### Comparisons by order and ranges -/

/-- The store never hides a row that the check would accept, when the operator compares by order or
the values are ranges. -/
theorem clause_matches_of_accepts
    (hcolumn : (g.onColumn? t : Option (Predicate ν)) = none)
    (hformat : Attribute.formatOf? (Attribute.catalogNames g.name) = some format)
    (hread : ∃ v ∈ g.values, (format.readScalar? v : Option ν).isSome = true)
    (hop : g.operator.isOrdered = true ∨ format.isInterval = true) :
    ∃ check patterns, (g.compile t).checks = [check] ∧
      (g.compile t).clauses = [.attributeLike patterns] ∧
      ∀ (policy : Tolerance ν) (pairs : Attributes), check.accepts policy pairs = true →
        (patterns.any fun p => Like.isMatch p pairs.render) = true := by
  have hasks : g.operator ≠ .eq ∨ format.isInterval = true := by
    refine hop.imp_left fun hordered hoperator => ?_
    rw [hoperator] at hordered
    exact absurd hordered (by decide)
  have hpatterns : (Attribute.catalogNames g.name).map Like.attributeExists ≠ [] := by
    simpa using Attribute.catalogNames_ne_nil g.name
  rw [compile_of_read hcolumn hformat hread]
  refine ⟨_, (Attribute.catalogNames g.name).map Like.attributeExists, rfl, ?_, ?_⟩
  · rw [numeric_clauses_of_exists hasks, likeClause_of_ne_nil hpatterns]
  intro policy pairs haccepts
  obtain ⟨pair, hpair, hname⟩ := RowCheck.exists_attribute_of_accepts haccepts
  have hplain := (Attribute.isNameText_of_format hformat pair.1 hname).plain
  refine List.any_eq_true.mpr ⟨_, List.mem_map_of_mem hname, ?_⟩
  rw [Like.isMatch_attributeExists_iff]
  have hinfix := Attributes.name_infix_renderChars hpair
  rw [Json.escapeText_of_isPlain hplain] at hinfix
  exact hinfix.map Char.toLower

/-- A gate threshold of less than 2.5V. -/
def lowThreshold : FilterGroup := .single ⟨"Vgs(th)", .lt, "2.5V"⟩

theorem clause_matches_of_accepts_lowThreshold :
    ∃ check patterns, (lowThreshold.compile (.standard : Tolerance Rat)).checks = [check] ∧
      (lowThreshold.compile (.standard : Tolerance Rat)).clauses = [.attributeLike patterns] ∧
      check.accepts .standard [("Gate Threshold Voltage", "1V~2V")] = true ∧
      (patterns.any fun p =>
        Like.isMatch p (Attributes.render [("Gate Threshold Voltage", "1V~2V")])) = true := by
  obtain ⟨check, patterns, hchecks, hclauses, hmatch⟩ :=
    @clause_matches_of_accepts Rat _ lowThreshold .standard (.interval .gateThreshold)
      (by decide +kernel) (by decide +kernel) ⟨"2.5V", by decide +kernel⟩ (Or.inl rfl)
  have haccepts : ((lowThreshold.compile (.standard : Tolerance Rat)).checks.all fun check =>
      check.accepts .standard [("Gate Threshold Voltage", "1V~2V")]) = true := by
    decide +kernel
  rw [hchecks, List.all_cons, List.all_nil, Bool.and_true] at haccepts
  exact ⟨check, patterns, hchecks, hclauses, haccepts, hmatch _ _ haccepts⟩

/-! ### Equalities with a single quantity -/

/-- A row shows a value of the group behind one of its names: a value that is a number in one of its
spellings, and any other value as the whole value of an attribute. -/
def ShowsValue (ν : Type) [Number ν] (g : FilterGroup) (format : AttributeFormat)
    (pairs : Attributes) : Prop :=
  ∃ name ∈ Attribute.catalogNames g.name, ∃ v ∈ g.values,
    match (format.readScalar? v : Option ν) with
    | some x => ∃ text ∈ Like.spellings name v x, pairs.Shows name.toList text.toList
    | none => pairs.Shows name.toList (v ++ "\"").toList

/-- The store returns the rows that show one of the values, and the check is left to decide about
these rows only. -/
theorem clause_matches_iff_shows
    (hcolumn : (g.onColumn? t : Option (Predicate ν)) = none)
    (hformat : Attribute.formatOf? (Attribute.catalogNames g.name) = some format)
    (hread : ∃ v ∈ g.values, (format.readScalar? v : Option ν).isSome = true)
    (hop : g.operator = .eq) (hinterval : format.isInterval = false) :
    ∃ check patterns, (g.compile t).checks = [check] ∧
      (g.compile t).clauses = [.attributeLike patterns] ∧
      ∀ (policy : Tolerance ν) (pairs : Attributes), check.accepts policy pairs = true →
        ((patterns.any fun p => Like.isMatch p pairs.render) = true ↔
          g.ShowsValue ν format pairs) := by
  have hvalues : g.values ≠ [] := by
    obtain ⟨v, hv, -⟩ := hread
    exact List.ne_nil_of_mem hv
  rw [compile_of_read hcolumn hformat hread]
  obtain ⟨patterns, hclauses, hpatterns⟩ :=
    @numeric_clauses_of_values ν _ g format _ hop hinterval (Attribute.catalogNames_ne_nil g.name)
      hvalues
  refine ⟨_, patterns, rfl, hclauses, fun policy pairs _ => ?_⟩
  have hshows (n : String) (hn : n ∈ Attribute.catalogNames g.name) (v : String) :
      (∃ p ∈ g.valuePatterns ν format n v, Like.isMatch p pairs.render = true) ↔
        match (format.readScalar? v : Option ν) with
        | some x => ∃ text ∈ Like.spellings n v x, pairs.Shows n.toList text.toList
        | none => pairs.Shows n.toList (v ++ "\"").toList := by
    have hname := Attribute.isNameText_of_format hformat n hn
    unfold valuePatterns
    split
    · simp only [Like.mem_valuePatterns_iff]
      constructor
      · rintro ⟨p, ⟨text, htext, rfl⟩, hmatch⟩
        exact ⟨text, htext, (Like.isMatch_attributeStarts_iff hname text).mp hmatch⟩
      · rintro ⟨text, htext, hshows⟩
        exact ⟨_, ⟨text, htext, rfl⟩, (Like.isMatch_attributeStarts_iff hname text).mpr hshows⟩
    · rw [textPattern_of_format hformat, ← Like.isMatch_attributeEquals_iff hname v]
      simp
  rw [List.any_eq_true]
  constructor
  · rintro ⟨p, hp, hmatch⟩
    obtain ⟨n, hn, v, hv, hmem⟩ := (hpatterns p).mp hp
    exact ⟨n, hn, v, hv, (hshows n hn v).mp ⟨p, hmem, hmatch⟩⟩
  · rintro ⟨n, hn, v, hv, hshow⟩
    obtain ⟨p, hmem, hmatch⟩ := (hshows n hn v).mpr hshow
    exact ⟨p, (hpatterns p).mpr ⟨n, hn, v, hv, hmem⟩, hmatch⟩

def oneMegahertz : FilterGroup := .single ⟨"Frequency", .eq, "1MHz"⟩

theorem clause_matches_iff_shows_oneMegahertz :
    ∃ check patterns, (oneMegahertz.compile (.standard : Tolerance Rat)).checks = [check] ∧
      (oneMegahertz.compile (.standard : Tolerance Rat)).clauses = [.attributeLike patterns] ∧
      check.accepts .standard [("Frequency", "1MHz ±10ppm")] = true ∧
      oneMegahertz.ShowsValue Rat (.scalar .frequency) [("Frequency", "1MHz ±10ppm")] := by
  obtain ⟨check, patterns, hchecks, hclauses, hmatch⟩ :=
    @clause_matches_iff_shows Rat _ oneMegahertz .standard (.scalar .frequency)
      (by decide +kernel) (by decide +kernel) ⟨"1MHz", by decide +kernel⟩ rfl rfl
  have haccepts : ((oneMegahertz.compile (.standard : Tolerance Rat)).checks.all fun check =>
      check.accepts .standard [("Frequency", "1MHz ±10ppm")]) = true := by
    decide +kernel
  have hclause : (oneMegahertz.compile (.standard : Tolerance Rat)).clauses =
      [.attributeLike ["%\"Frequency\", \"1MHz%", "%\"Frequency\", \"1mhz%"]] := rfl
  obtain rfl := Predicate.attributeLike.inj (List.singleton_inj.mp (hclause.symm.trans hclauses))
  have hpatterns : (["%\"Frequency\", \"1MHz%", "%\"Frequency\", \"1mhz%"].any fun p =>
      Like.isMatch p (Attributes.render [("Frequency", "1MHz ±10ppm")])) = true := by
    decide +kernel
  rw [hchecks, List.all_cons, List.all_nil, Bool.and_true] at haccepts
  exact ⟨check, _, hchecks, hclauses, haccepts, (hmatch _ _ haccepts).mp hpatterns⟩

/-- A frequency in kilohertz passes the check for the same frequency in megahertz, but the store
does not return it. -/
theorem clause_drops_oneMegahertz :
    ∃ check patterns, (oneMegahertz.compile (.standard : Tolerance Rat)).checks = [check] ∧
      (oneMegahertz.compile (.standard : Tolerance Rat)).clauses = [.attributeLike patterns] ∧
      check.accepts .standard [("Frequency", "1000kHz")] = true ∧
      (patterns.any fun p =>
        Like.isMatch p (Attributes.render [("Frequency", "1000kHz")])) = false :=
  ⟨_, _, rfl, rfl, by decide +kernel, by decide +kernel⟩

end FilterGroup

end PartSearch
