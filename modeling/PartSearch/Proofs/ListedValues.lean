import PartSearch.Proofs.TextClauses

/-!
# Filters on a listed value

An attribute such as "Interface" lists several values in one text ("I2C、SPI"), so its pattern looks
for the name between quotes and for the value anywhere behind it. Where no text needs an escape, the
quotes cut a blob into the names, the values and the marks between them. `clause_finds_listed_iff`
says in which of these pieces the value may stand: in the value of the attribute itself, but also in
anything that the blob holds behind it.
-/

namespace PartSearch

open Json Text

/-! ### Texts cut at their quotes -/

namespace Text

/-- A text occurs in another, in any case of its ASCII letters. -/
def OccursIn (piece text : String) : Prop := asciiLower piece.toList <:+: asciiLower text.toList

instance (piece text : String) : Decidable (OccursIn piece text) :=
  inferInstanceAs (Decidable (_ <:+: _))

theorem infix_append_quote_iff {piece cs ds : List Char} (hpiece : '"' ∉ piece) :
    piece <:+: cs ++ '"' :: ds ↔ piece <:+: cs ∨ piece <:+: ds := by
  have hstart {start : List Char} (hstart : start <+: '"' :: ds) (hquote : '"' ∉ start) :
      start = [] := by
    rcases List.prefix_cons_iff.mp hstart with hnil | ⟨rest, rfl, -⟩
    · exact hnil
    · exact absurd List.mem_cons_self hquote
  rw [List.infix_append_iff, List.infix_cons_iff]
  constructor
  · rintro (hleft | (hfront | hright) | ⟨first, second, rfl, hfirst, hsecond⟩)
    · exact Or.inl hleft
    · rw [hstart hfront hpiece]
      exact Or.inl (List.nil_infix)
    · exact Or.inr hright
    · rw [hstart hsecond fun hmem => hpiece (List.mem_append_right _ hmem), List.append_nil]
      exact Or.inl hfirst.isInfix
  · rintro (hleft | hright)
    · exact Or.inl hleft
    · exact Or.inr (Or.inl (Or.inr hright))

/-- A text without quotes occurs in one of the pieces between the quotes or nowhere. -/
theorem infix_intercalate_iff {piece : List Char} (hpiece : '"' ∉ piece) {parts : List (List Char)}
    (hparts : parts ≠ []) :
    asciiLower piece <:+: asciiLower (['"'].intercalate parts) ↔
      ∃ part ∈ parts, asciiLower piece <:+: asciiLower part := by
  have hlower : '"' ∉ asciiLower piece := by rwa [mem_asciiLower_iff (by decide)]
  have hquote : '"'.toLower = '"' := by decide
  induction parts with
  | nil => exact absurd rfl hparts
  | cons first parts ih =>
      by_cases hrest : parts = []
      · simp [hrest]
      · rw [List.intercalate_cons_of_ne_nil hrest, List.append_assoc, List.singleton_append,
          asciiLower_append, asciiLower_cons, hquote, infix_append_quote_iff hlower,
          List.exists_mem_cons_iff]
        exact or_congr_right (ih hrest)

theorem quote_suffix_intercalate {parts last : List (List Char)} (hlast : last ≠ [])
    (h : last <:+ parts.tail) : '"' :: ['"'].intercalate last <:+ ['"'].intercalate parts := by
  induction parts with
  | nil => exact absurd (List.suffix_nil.mp h) hlast
  | cons first parts ih =>
      cases parts with
      | nil => exact absurd (List.suffix_nil.mp h) hlast
      | cons next parts =>
          rw [List.intercalate_cons_cons, List.append_assoc, List.singleton_append]
          rcases List.suffix_cons_iff.mp h with rfl | hlater
          · exact List.suffix_append _ _
          · exact (ih hlater).trans ((List.suffix_cons _ _).trans (List.suffix_append _ _))

end Text

namespace Like

/-- The pattern for a listed value matches if some piece between two quotes is the name and some
piece behind it contains the value. -/
theorem isMatch_attributeContains_iff_splitOn {name value text : String}
    (hname : '"' ∉ name.toList) (hvalue : '"' ∉ value.toList) :
    isMatch (attributeContains name value) text = true ↔
      ∃ named after, named :: after <:+ (text.toList.splitOn '"').tail ∧
        asciiLower named = asciiLower name.toList ∧
          ∃ part ∈ after, asciiLower value.toList <:+: asciiLower part := by
  rw [isMatch_attributeContains_iff]
  constructor
  · rintro ⟨before, named, after, htext, hnamed, hoccurs⟩
    have hfree : '"' ∉ named := by
      rwa [← mem_asciiLower_iff (by decide), hnamed, mem_asciiLower_iff (by decide)]
    have hcut : ['"'].intercalate (after.splitOn '"') = after := List.intercalate_splitOn '"'
    rw [← hcut, infix_intercalate_iff hvalue (List.splitOn_ne_nil _ _)] at hoccurs
    refine ⟨named, after.splitOn '"', ?_, hnamed, hoccurs⟩
    rw [htext, List.splitOn_append_cons_self, List.splitOn_append_cons_self_of_not_mem hfree,
      List.tail_append_of_ne_nil (List.splitOn_ne_nil _ _)]
    exact List.suffix_append _ _
  · rintro ⟨named, after, hsuffix, hnamed, part, hpart, hoccurs⟩
    obtain ⟨before, hblob⟩ := quote_suffix_intercalate (List.cons_ne_nil _ _) hsuffix
    have hafter : after ≠ [] := List.ne_nil_of_mem hpart
    rw [List.intercalate_splitOn, List.intercalate_cons_of_ne_nil hafter, List.append_assoc] at hblob
    refine ⟨before, named, ['"'].intercalate after, hblob.symm, hnamed, ?_⟩
    exact (infix_intercalate_iff hvalue hafter).mpr ⟨part, hpart, hoccurs⟩

end Like

/-! ### The pieces of a blob -/

namespace Attributes

/-- The texts that the quotes separate behind the closing quote of a value. -/
def textsAfter : Attributes → List String
  | [] => ["]]"]
  | pair :: pairs => "], [" :: pair.1 :: ", " :: pair.2 :: textsAfter pairs

/-- No name or value of the attributes needs an escape. -/
def ArePlain (pairs : Attributes) : Prop :=
  ∀ pair ∈ pairs, IsPlain pair.1.toList ∧ IsPlain pair.2.toList

instance (pairs : Attributes) : Decidable pairs.ArePlain :=
  inferInstanceAs (Decidable (∀ pair ∈ pairs, _))

theorem splitOn_following {pairs : Attributes} (hpairs : pairs.ArePlain) :
    (following pairs).splitOn '"' = (textsAfter pairs).map String.toList := by
  induction pairs with
  | nil => rfl
  | cons pair pairs ih =>
      obtain ⟨⟨hname, hvalue⟩, hrest⟩ := List.forall_mem_cons.mp hpairs
      rw [following, escapeText_of_isPlain hname, escapeText_of_isPlain hvalue,
        List.splitOn_append_cons_self_of_not_mem (by decide),
        List.splitOn_append_cons_self_of_not_mem hname.not_mem,
        List.splitOn_append_cons_self_of_not_mem (by decide),
        List.splitOn_append_cons_self_of_not_mem hvalue.not_mem, ih hrest]
      rfl

/-- Behind its first quote a blob holds the same texts as behind the quote of a value. -/
theorem tail_splitOn_renderChars {pairs : Attributes} (hpairs : pairs.ArePlain) :
    ((renderChars pairs).splitOn '"').tail = (textsAfter pairs).tail.map String.toList := by
  cases pairs with
  | nil => rfl
  | cons pair pairs =>
      have hfollowing := splitOn_following hpairs
      rw [following_cons, List.splitOn_append_cons_self_of_not_mem (by decide)] at hfollowing
      rw [renderChars_cons, List.splitOn_append_cons_self_of_not_mem (by decide), List.tail_cons,
        List.map_tail, ← hfollowing, List.tail_cons]

/-- A text that is none of the marks is the name or the value of an attribute. -/
theorem suffix_textsAfter_iff {named : String} (hnamed : named ∉ ["]]", "], [", ", "])
    {pairs : Attributes} {after : List String} :
    named :: after <:+ textsAfter pairs ↔
      ∃ before pair later, pairs = before ++ pair :: later ∧
        (named = pair.1 ∧ after = ", " :: pair.2 :: textsAfter later ∨
          named = pair.2 ∧ after = textsAfter later) := by
  simp only [List.mem_cons, List.not_mem_nil, or_false, not_or] at hnamed
  obtain ⟨hclose, hnext, hcomma⟩ := hnamed
  induction pairs with
  | nil => simp [textsAfter, List.suffix_cons_iff, hclose]
  | cons pair pairs ih =>
      simp only [textsAfter, List.suffix_cons_iff, List.cons.injEq, hnext, hcomma, false_and,
        false_or, ih]
      constructor
      · rintro (hname | hvalue | ⟨before, found, later, rfl, hfound⟩)
        · exact ⟨[], pair, pairs, rfl, Or.inl hname⟩
        · exact ⟨[], pair, pairs, rfl, Or.inr hvalue⟩
        · exact ⟨pair :: before, found, later, rfl, hfound⟩
      · rintro ⟨before, found, later, hsplit, hfound⟩
        cases before with
        | nil =>
            obtain ⟨rfl, rfl⟩ := List.cons.inj hsplit
            exact hfound.imp_right Or.inl
        | cons first before =>
            obtain ⟨rfl, rfl⟩ := List.cons.inj hsplit
            exact Or.inr (Or.inr ⟨before, found, later, rfl, hfound⟩)

theorem suffix_tail_textsAfter_iff {named : String} (hnamed : named ∉ ["]]", "], [", ", "])
    {pairs : Attributes} {after : List String} :
    named :: after <:+ (textsAfter pairs).tail ↔ named :: after <:+ textsAfter pairs := by
  simp only [List.mem_cons, List.not_mem_nil, or_false, not_or] at hnamed
  cases pairs with
  | nil => simp [textsAfter, List.suffix_cons_iff, hnamed]
  | cons pair pairs => simp [textsAfter, List.suffix_cons_iff, hnamed]

/-- An attribute of this name has the value in the text that it stores. -/
def Lists (pairs : Attributes) (name value : String) : Prop :=
  ∃ pair ∈ pairs, sameText pair.1 name = true ∧ OccursIn value pair.2

instance (pairs : Attributes) (name value : String) : Decidable (pairs.Lists name value) :=
  inferInstanceAs (Decidable (∃ pair ∈ pairs, _))

/-- The value stands behind the name in a text that the attribute does not store: in the comma after
the name, or in what the blob holds behind an attribute that has this name, or has it as its
value. -/
def Spills (pairs : Attributes) (name value : String) : Prop :=
  ∃ before pair later, pairs = before ++ pair :: later ∧
    (sameText pair.1 name = true ∧ OccursIn value ", " ∨
      (sameText pair.1 name = true ∨ sameText pair.2 name = true) ∧
        ∃ text ∈ textsAfter later, OccursIn value text)

theorem lists_or_spills_iff {pairs : Attributes} {name value : String} :
    pairs.Lists name value ∨ pairs.Spills name value ↔
      ∃ before pair later, pairs = before ++ pair :: later ∧
        (sameText pair.1 name = true ∧
            (∃ text ∈ ", " :: pair.2 :: textsAfter later, OccursIn value text) ∨
          sameText pair.2 name = true ∧ ∃ text ∈ textsAfter later, OccursIn value text) := by
  simp only [List.exists_mem_cons_iff]
  constructor
  · rintro (⟨pair, hpair, hname, hlisted⟩ | ⟨before, pair, later, hsplit, hspill⟩)
    · obtain ⟨before, later, hsplit⟩ := List.append_of_mem hpair
      exact ⟨before, pair, later, hsplit, Or.inl ⟨hname, Or.inr (Or.inl hlisted)⟩⟩
    · refine ⟨before, pair, later, hsplit, ?_⟩
      rcases hspill with ⟨hname, hcomma⟩ | ⟨hname | hvalue, hlater⟩
      · exact Or.inl ⟨hname, Or.inl hcomma⟩
      · exact Or.inl ⟨hname, Or.inr (Or.inr hlater)⟩
      · exact Or.inr ⟨hvalue, hlater⟩
  · rintro ⟨before, pair, later, rfl, ⟨hname, hcomma | hlisted | hlater⟩ | ⟨hvalue, hlater⟩⟩
    · exact Or.inr ⟨before, pair, later, rfl, Or.inl ⟨hname, hcomma⟩⟩
    · exact Or.inl ⟨pair, by simp, hname, hlisted⟩
    · exact Or.inr ⟨before, pair, later, rfl, Or.inr ⟨Or.inl hname, hlater⟩⟩
    · exact Or.inr ⟨before, pair, later, rfl, Or.inr ⟨Or.inr hvalue, hlater⟩⟩

end Attributes

/-! ### The clause -/

namespace Like

open Attributes

variable {name value : String} {pairs : Attributes}

theorem isMatch_attributeContains_render_iff (hname : IsPlain name.toList)
    (hvalue : IsPlain value.toList) (hpairs : pairs.ArePlain) :
    isMatch (attributeContains name value) pairs.render = true ↔
      ∃ named after, named :: after <:+ (textsAfter pairs).tail ∧ sameText named name = true ∧
        ∃ text ∈ after, OccursIn value text := by
  rw [isMatch_attributeContains_iff_splitOn hname.not_mem hvalue.not_mem, Attributes.render,
    String.toList_ofList, tail_splitOn_renderChars hpairs]
  constructor
  · rintro ⟨namedChars, afterChars, hsuffix, hnamed, part, hpart, hoccurs⟩
    obtain ⟨texts, htexts, hmap⟩ := List.suffix_map_iff.mp hsuffix
    obtain ⟨named, after, rfl, rfl, rfl⟩ := List.map_eq_cons_iff.mp hmap.symm
    obtain ⟨text, htext, rfl⟩ := List.mem_map.mp hpart
    exact ⟨named, after, htexts, sameText_iff.mpr hnamed, text, htext, hoccurs⟩
  · rintro ⟨named, after, hsuffix, hnamed, text, htext, hoccurs⟩
    exact ⟨named.toList, after.map String.toList, hsuffix.map String.toList,
      sameText_iff.mp hnamed, text.toList, List.mem_map_of_mem htext, hoccurs⟩

/-- Among plain texts the pattern for a listed value finds the value in the attribute of the name or
in what the blob holds behind it. -/
theorem isMatch_attributeContains_iff_lists (hname : sameText name "interface" = true)
    (hvalue : IsPlain value.toList) (hpairs : pairs.ArePlain) :
    isMatch (attributeContains name value) pairs.render = true ↔
      pairs.Lists name value ∨ pairs.Spills name value := by
  have hnamePlain : IsPlain name.toList := (isPlain_iff_of_sameText hname).mpr (by decide)
  have hmark {named : String} (hnamed : sameText named name = true) :
      named ∉ ["]]", "], [", ", "] := by
    have hmarks : ∀ mark ∈ ["]]", "], [", ", "], sameText mark "interface" = false := by decide
    intro hmem
    have hsame : sameText named "interface" = true :=
      sameText_iff.mpr ((sameText_iff.mp hnamed).trans (sameText_iff.mp hname))
    exact absurd hsame (Bool.eq_false_iff.mp (hmarks named hmem))
  rw [isMatch_attributeContains_render_iff hnamePlain hvalue hpairs, lists_or_spills_iff]
  constructor
  · rintro ⟨named, after, hsuffix, hnamed, hoccurs⟩
    rw [suffix_tail_textsAfter_iff (hmark hnamed), suffix_textsAfter_iff (hmark hnamed)] at hsuffix
    obtain ⟨before, pair, later, hsplit, ⟨rfl, rfl⟩ | ⟨rfl, rfl⟩⟩ := hsuffix
    · exact ⟨before, pair, later, hsplit, Or.inl ⟨hnamed, hoccurs⟩⟩
    · exact ⟨before, pair, later, hsplit, Or.inr ⟨hnamed, hoccurs⟩⟩
  · rintro ⟨before, pair, later, hsplit, ⟨hnamed, hoccurs⟩ | ⟨hnamed, hoccurs⟩⟩
    · refine ⟨pair.1, _, ?_, hnamed, hoccurs⟩
      rw [suffix_tail_textsAfter_iff (hmark hnamed), suffix_textsAfter_iff (hmark hnamed)]
      exact ⟨before, pair, later, hsplit, Or.inl ⟨rfl, rfl⟩⟩
    · refine ⟨pair.2, _, ?_, hnamed, hoccurs⟩
      rw [suffix_tail_textsAfter_iff (hmark hnamed), suffix_textsAfter_iff (hmark hnamed)]
      exact ⟨before, pair, later, hsplit, Or.inr ⟨rfl, rfl⟩⟩

end Like

namespace FilterGroup

variable {ν : Type} [Number ν] {g : FilterGroup}

/-- The clause for a listed attribute finds a row if one of the values stands in the attribute, or in
what the blob of the row holds behind the attribute. -/
theorem clause_finds_listed_iff (t : Tolerance ν) (hoperator : g.operator = .eq)
    (hlists : g.listsValues = true) (hvalues : g.values ≠ [])
    (hplain : ∀ v ∈ g.values, IsPlain v.toList) :
    ∃ patterns, g.compile t = { clauses := [.attributeLike patterns] } ∧
      ∀ pairs : Attributes, pairs.ArePlain →
        ((patterns.any fun p => Like.isMatch p pairs.render) = true ↔
          ∃ v ∈ g.values, pairs.Lists g.name v ∨ pairs.Spills g.name v) := by
  refine ⟨_, compile_of_text t (Attribute.column?_of_interface hlists)
    (Attribute.formatOf?_of_interface hlists) hoperator hvalues, fun pairs hpairs => ?_⟩
  have hpattern (v : String) : g.textPattern g.name v = Like.attributeContains g.name v :=
    if_pos hlists
  simp only [List.any_map, List.any_eq_true, Function.comp_apply, hpattern]
  refine exists_congr fun v => and_congr_right fun hv => ?_
  exact Like.isMatch_attributeContains_iff_lists hlists (hplain v hv) hpairs

def serialBus : FilterGroup := .anyOf "Interface" ["I2C", "SPI"]

theorem clause_finds_listed_iff_serialBus :
    (serialBus.operator = .eq ∧ serialBus.listsValues = true ∧ serialBus.values ≠ [] ∧
      ∀ v ∈ serialBus.values, IsPlain v.toList) ∧
      ∃ patterns, serialBus.compile (.standard : Tolerance Rat) =
          { clauses := [.attributeLike patterns] } ∧
        Attributes.ArePlain [("Type", "RTC"), ("Interface", "UART、SPI")] ∧
        (patterns.any fun p =>
          Like.isMatch p (Attributes.render [("Type", "RTC"), ("Interface", "UART、SPI")])) =
            true := by
  have hplain : ∀ v ∈ serialBus.values, IsPlain v.toList := by decide
  have hlists : serialBus.listsValues = true := by decide
  have hvalues : serialBus.values ≠ [] := by decide
  have hpairs : Attributes.ArePlain [("Type", "RTC"), ("Interface", "UART、SPI")] := by decide
  obtain ⟨patterns, hclause, hfinds⟩ :=
    clause_finds_listed_iff (.standard : Tolerance Rat) rfl hlists hvalues hplain
  refine ⟨⟨rfl, hlists, hvalues, hplain⟩, patterns, hclause, hpairs, ?_⟩
  exact (hfinds _ hpairs).mpr ⟨"SPI", by decide, Or.inl (by decide)⟩

/-- A row with another interface is found through its protocol. -/
theorem clause_finds_otherAttribute :
    ∃ patterns, serialBus.compile (.standard : Tolerance Rat) =
        { clauses := [.attributeLike patterns] } ∧
      Attributes.ArePlain [("Interface", "UART"), ("Protocol", "I2C")] ∧
      (patterns.any fun p =>
        Like.isMatch p (Attributes.render [("Interface", "UART"), ("Protocol", "I2C")])) = true ∧
      ∀ v ∈ serialBus.values,
        ¬ Attributes.Lists [("Interface", "UART"), ("Protocol", "I2C")] serialBus.name v :=
  ⟨_, rfl, by decide, by decide +kernel, by decide⟩

end FilterGroup

end PartSearch
