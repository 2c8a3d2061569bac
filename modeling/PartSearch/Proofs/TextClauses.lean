import PartSearch.Proofs.BlobReading
import PartSearch.Proofs.ClauseAndCheck
import PartSearch.Proofs.GroupPaths

/-!
# Filters on text

An equality on an attribute that is neither a number nor in a column becomes one pattern and nothing
checks the rows again, so the pattern alone decides which rows are found. It spells the name and the
value with the escapes of a pattern; a blob spells them with the escapes of a string. The two agree
where a text has nothing that a string escapes. Where it has, rows are missed:
`clause_finds_text_iff`. The quotes show this, because both spellings have the same number of them:
an occurrence of the pattern reaches from the first quote of the blob to the last one, and an escape
makes this stretch too long.
-/

namespace PartSearch

/-! ### The clause -/

namespace FilterGroup

variable {ν : Type} [Number ν] {g : FilterGroup}

/-- A group of texts has one pattern for each of them and no check. -/
theorem compile_of_text (t : Tolerance ν) (hcolumn : Attribute.column? g.name = none)
    (hformat : Attribute.formatOf? (Attribute.catalogNames g.name) = none)
    (hoperator : g.operator = .eq) (hvalues : g.values ≠ []) :
    g.compile t = { clauses := [.attributeLike (g.values.map (g.textPattern g.name))] } := by
  have honColumn : (g.onColumn? t : Option (Predicate ν)) = none := by
    rw [onColumn?, hcolumn]
    rfl
  have hpatterns : g.values.map (g.textPattern g.name) ≠ [] := by simpa using hvalues
  have htextual : g.compile t = g.textual (Attribute.catalogNames g.name) := by
    simp only [compile, honColumn, onBlob, hformat]
  rw [htextual, textual, if_pos hoperator, Attribute.catalogNames_of_formatOf?_eq_none hformat,
    List.flatMap_singleton, likeClause_of_ne_nil hpatterns]

end FilterGroup

/-! ### Quotes in written strings -/

namespace Text

theorem count_asciiLower {d : Char} (hd : d.isAlpha = false) (cs : List Char) :
    (asciiLower cs).count d = cs.count d := by
  induction cs with
  | nil => rfl
  | cons c cs ih =>
      have hletter : (c.toLower == d) = (c == d) := by
        rw [Bool.eq_iff_iff, beq_iff_eq, beq_iff_eq, toLower_eq_iff hd]
      rw [asciiLower_cons, List.count_cons, List.count_cons, ih, hletter]

theorem length_asciiLower (cs : List Char) : (asciiLower cs).length = cs.length :=
  List.length_map _

end Text

namespace Json

open Text

theorem not_mem_escapeChar {c : Char} (hquote : c ≠ '"') : '"' ∉ escapeChar c := by
  unfold escapeChar quoteMark
  rw [if_neg hquote]
  split_ifs with hslash hbackspace htab hline hpage hreturn hcontrol
  · decide
  · decide
  · decide
  · decide
  · decide
  · decide
  · simp only [List.mem_cons, not_or]
    exact ⟨by decide, by decide, fun hmem => (hexDigits_ne c.toNat hcontrol '"' hmem).1 rfl⟩
  · simpa using hquote.symm

/-- A written string has a quote for each quote of the text. -/
theorem count_quote_escapeText (cs : List Char) : (escapeText cs).count '"' = cs.count '"' := by
  induction cs with
  | nil => rfl
  | cons c cs ih =>
      rw [escapeText_cons, List.count_append, ih, List.count_cons, Nat.add_comm]
      by_cases hquote : c = '"'
      · rw [hquote]
        rfl
      · rw [List.count_eq_zero.mpr (not_mem_escapeChar hquote), if_neg (by simpa using hquote)]

/-- Case does not change which texts are plain. -/
theorem isPlain_iff_of_sameText {s t : String} (h : sameText s t = true) :
    IsPlain s.toList ↔ IsPlain t.toList := by
  have hlower (cs : List Char) : IsPlain (asciiLower cs) ↔ IsPlain cs := by
    have hcode (c : Char) : 32 ≤ c.toLower.toNat ↔ 32 ≤ c.toNat := by
      rw [toNat_toLower]
      split <;> omega
    have hsign {d : Char} (hd : d.isAlpha = false) (c : Char) : c.toLower ≠ d ↔ c ≠ d :=
      (toLower_eq_iff hd).not
    simp only [IsPlain, asciiLower, List.forall_mem_map, hcode, hsign (d := '"') (by decide),
      hsign (d := '\\') (by decide)]
  rw [← hlower s.toList, sameText_iff.mp h, hlower]

/-- Only a plain text is written as it is. -/
theorem isPlain_of_length_escapeText_le {cs : List Char}
    (h : (escapeText cs).length ≤ cs.length) : IsPlain cs := by
  induction cs with
  | nil => exact List.forall_mem_nil _
  | cons c cs ih =>
      have hrest := length_le_length_escapeText cs
      rw [escapeText_cons, List.length_append, List.length_cons] at h
      rcases escapeChar_eq c with ⟨hself, hquote, hslash, hcontrol⟩ | ⟨body, hescape, hread⟩
      · rw [hself, List.length_singleton] at h
        exact List.forall_mem_cons.mpr
          ⟨⟨hquote, hslash, Nat.not_lt.mp hcontrol⟩, ih (by omega)⟩
      · have hbody : body ≠ [] := by
          rintro rfl
          exact Option.some_ne_none _ (hread []).symm
        have hlength := List.length_pos_iff.mpr hbody
        rw [hescape, List.length_cons] at h
        omega

end Json

/-! ### One attribute in a blob -/

namespace Attributes

open Json Text

/-- A name and a value between their quotes. -/
def quotedPair (name value : List Char) : List Char :=
  '"' :: (name ++ ['"', ',', ' ', '"'] ++ value) ++ ['"']

/-- What follows the closing quote of the name of an attribute. -/
def behindName (value : String) (after : Attributes) : List Char :=
  [',', ' '] ++ '"' :: (escapeText value.toList ++ '"' :: following after)

theorem reading_eq (pair : String × String) (after : Attributes) :
    reading pair after = escapeText pair.1.toList ++ '"' :: behindName pair.2 after := rfl

theorem renderChars_singleton (name value : String) :
    renderChars [(name, value)] =
      ['[', '['] ++ quotedPair (escapeText name.toList) (escapeText value.toList) ++ [']', ']'] := by
  simp [renderChars_cons, reading, quotedPair, following]

theorem quotedPair_infix_renderChars {pairs : Attributes} {pair : String × String}
    (hpair : pair ∈ pairs) :
    quotedPair (escapeText pair.1.toList) (escapeText pair.2.toList) <:+: renderChars pairs := by
  obtain ⟨before, after, rfl⟩ := List.append_of_mem hpair
  refine List.IsInfix.trans ?_ (suffix_renderChars before pair after).isInfix
  exact List.IsPrefix.isInfix ⟨following after, by simp [quotedPair, reading]⟩

theorem asciiLower_quotedPair (name value : List Char) :
    asciiLower (quotedPair name value) = quotedPair (asciiLower name) (asciiLower value) := by
  simp [quotedPair]

theorem length_quotedPair (name value : List Char) :
    (quotedPair name value).length = name.length + value.length + 6 := by
  simp [quotedPair]
  omega

theorem count_quote_quotedPair (name value : List Char) :
    (quotedPair name value).count '"' = name.count '"' + value.count '"' + 4 := by
  simp [quotedPair]
  omega

/-- What has no quote and stands at the start or at the end of a text ends before the first quote or
starts after the last one. -/
theorem length_le_of_outside {opening body closing lead found rest : List Char}
    (h : lead ++ found ++ rest = opening ++ ('"' :: body ++ ['"']) ++ closing)
    (hlead : '"' ∉ lead) (hrest : '"' ∉ rest) :
    lead.length ≤ opening.length ∧ rest.length ≤ closing.length := by
  constructor
  · by_contra hlong
    have hfirst : opening ++ ['"'] <+: lead ++ found ++ rest := ⟨body ++ '"' :: closing, by simp [h]⟩
    have hstart : lead <+: lead ++ found ++ rest := ⟨found ++ rest, by simp⟩
    have hinside : opening ++ ['"'] <+: lead :=
      List.prefix_of_prefix_length_le hfirst hstart
        (List.length_append.trans_le (Nat.not_le.mp hlong))
    exact hlead (hinside.subset (by simp))
  · by_contra hlong
    have hlast : '"' :: closing <:+ lead ++ found ++ rest := ⟨opening ++ '"' :: body, by simp [h]⟩
    have hend : rest <:+ lead ++ found ++ rest := List.suffix_append _ _
    have hinside : '"' :: closing <:+ rest :=
      List.suffix_of_suffix_length_le hlast hend (Nat.not_le.mp hlong)
    exact hrest (hinside.subset List.mem_cons_self)

/-- The blob of an attribute shows the name and the value as they are only if they are plain. -/
theorem isPlain_of_quotedPair_infix {name value : String}
    (h : asciiLower (quotedPair name.toList value.toList) <:+:
      asciiLower (renderChars [(name, value)])) :
    IsPlain name.toList ∧ IsPlain value.toList := by
  obtain ⟨lead, rest, hblob⟩ := h
  have hbrackets : asciiLower ['[', '['] = ['[', '['] ∧ asciiLower [']', ']'] = [']', ']'] := by
    decide
  rw [renderChars_singleton, asciiLower_append, asciiLower_append, hbrackets.1, hbrackets.2,
    asciiLower_quotedPair, asciiLower_quotedPair] at hblob
  have hcount := congrArg (List.count '"') hblob
  have hlength := congrArg List.length hblob
  have hletter : '"'.isAlpha = false := by decide
  have hnone : ['[', '['].count '"' = 0 ∧ [']', ']'].count '"' = 0 := by decide
  simp only [List.count_append, count_quote_quotedPair, count_asciiLower hletter,
    count_quote_escapeText, hnone] at hcount
  simp only [List.length_append, length_quotedPair, length_asciiLower] at hlength
  have hlead : '"' ∉ lead := List.count_eq_zero.mp (by omega)
  have hrest : '"' ∉ rest := List.count_eq_zero.mp (by omega)
  have houtside := length_le_of_outside hblob hlead hrest
  have hname := length_le_length_escapeText name.toList
  have hvalue := length_le_length_escapeText value.toList
  exact ⟨isPlain_of_length_escapeText_le (by omega), isPlain_of_length_escapeText_le (by omega)⟩

end Attributes

/-! ### The rows that a pattern finds -/

namespace Like

open Attributes Json Text

variable {name value : String}

theorem isMatch_attributeEquals_iff_occurs {text : String} :
    isMatch (attributeEquals name value) text = true ↔
      asciiLower (quotedPair name.toList value.toList) <:+: asciiLower text.toList := by
  have hpiece : '"' :: name.toList ++ '"' :: ([',', ' '] ++ '"' :: (value ++ "\"").toList) =
      quotedPair name.toList value.toList := by
    simp [quotedPair]
  rw [attributeEquals_eq, attributeStarts_escape, isMatch_containing_iff, hpiece]

/-- The pattern for an exact value finds every row with this value if no escape is needed. -/
theorem forall_isMatch_attributeEquals_iff :
    (∀ pairs : Attributes, (name, value) ∈ pairs →
        isMatch (attributeEquals name value) pairs.render = true) ↔
      IsPlain name.toList ∧ IsPlain value.toList := by
  simp only [isMatch_attributeEquals_iff_occurs, Attributes.render, String.toList_ofList]
  constructor
  · intro hfinds
    exact isPlain_of_quotedPair_infix (hfinds [(name, value)] (List.mem_singleton_self _))
  · rintro ⟨hname, hvalue⟩ pairs hpair
    have hwritten := quotedPair_infix_renderChars hpair
    rw [escapeText_of_isPlain hname, escapeText_of_isPlain hvalue] at hwritten
    exact hwritten.map Char.toLower

/-- The pattern for a listed value finds every row with this value if the value as it was asked for
occurs in what is written behind the name. -/
theorem forall_isMatch_attributeContains_iff (hname : IsPlain name.toList) :
    (∀ pairs : Attributes, (name, value) ∈ pairs →
        isMatch (attributeContains name value) pairs.render = true) ↔
      ∀ after, asciiLower value.toList <:+: asciiLower (behindName value after) := by
  simp only [isMatch_attributeContains_iff, Attributes.render, String.toList_ofList]
  constructor
  · intro hfinds after
    obtain ⟨before, named, rest, htext, hnamed, hvalue⟩ :=
      hfinds ((name, value) :: after) List.mem_cons_self
    rw [renderChars_cons, reading_eq, escapeText_of_isPlain hname] at htext
    -- the first quote is the one before the name, so what is behind a quoted name is behind it here
    have hlead : 2 ≤ before.length := by
      rcases before with _ | ⟨first, _ | ⟨second, before⟩⟩
      · simp at htext
      · simp at htext
      · simp
    have hlength := congrArg List.length htext
    have hnamedLength : named.length = name.toList.length := by
      rw [← length_asciiLower named, hnamed, length_asciiLower]
    simp only [List.length_append, List.length_cons, List.length_nil] at hlength
    have hwritten : behindName value after <:+ before ++ '"' :: (named ++ '"' :: rest) :=
      ⟨['[', '['] ++ '"' :: (name.toList ++ ['"']), by rw [← htext]; simp⟩
    have hrest : rest <:+ before ++ '"' :: (named ++ '"' :: rest) :=
      ⟨before ++ '"' :: (named ++ ['"']), by simp⟩
    have hbehind := List.suffix_of_suffix_length_le hrest hwritten (by omega)
    exact hvalue.trans (hbehind.map Char.toLower).isInfix
  · intro hvalue pairs hpair
    obtain ⟨before, after, rfl⟩ := List.append_of_mem hpair
    obtain ⟨lead, hblob⟩ := suffix_renderChars before (name, value) after
    refine ⟨lead, name.toList, behindName value after, ?_, rfl, hvalue after⟩
    rw [← hblob, reading_eq, escapeText_of_isPlain hname]

end Like

namespace SpecFilter

open Attributes Json Text

variable {ν : Type} [Number ν] {name value : String}

/-- A blob shows the name and the value as a filter spells them, because neither needs an escape. For
an attribute that lists values it is enough that every blob shows the value somewhere behind the
name. -/
def FindsText (name value : String) : Prop :=
  if sameText name "interface" then
    ∀ after, asciiLower value.toList <:+: asciiLower (behindName value after)
  else IsPlain name.toList ∧ IsPlain value.toList

theorem findsText_of_isPlain (hname : IsPlain name.toList) (hvalue : IsPlain value.toList) :
    FindsText name value := by
  unfold FindsText
  split
  · intro after
    have hshown : value.toList <:+: behindName value after := by
      rw [behindName, escapeText_of_isPlain hvalue]
      exact ⟨[',', ' ', '"'], '"' :: following after, by simp⟩
    exact hshown.map Char.toLower
  · exact ⟨hname, hvalue⟩

/-- A filter on a text is one pattern, and this is when it finds every row that stores just this text
under this name. -/
theorem clause_finds_text_iff (t : Tolerance ν) (hcolumn : Attribute.column? name = none)
    (hformat : Attribute.formatOf? (Attribute.catalogNames name) = none) :
    ∃ pattern, Compiled.ofGroups t (FilterGroup.ofFilters [⟨name, .eq, value⟩]) =
        { clauses := [.attributeLike [pattern]] } ∧
      ((∀ pairs : Attributes, (name, value) ∈ pairs →
          Like.isMatch pattern pairs.render = true) ↔ FindsText name value) := by
  let g : FilterGroup := .single ⟨name, .eq, value⟩
  have hcompile := g.compile_of_text t hcolumn hformat rfl (List.cons_ne_nil _ _)
  have hpattern : g.textPattern name value = if sameText name "interface" then
      Like.attributeContains name value else Like.attributeEquals name value := rfl
  refine ⟨g.textPattern name value, ?_, ?_⟩
  · change Compiled.ofGroups t [g] = _
    rw [Compiled.ofGroups_singleton, hcompile]
    rfl
  rw [hpattern, FindsText]
  by_cases hlists : sameText name "interface" = true
  · have hname : IsPlain name.toList := (isPlain_iff_of_sameText hlists).mpr (by decide)
    rw [if_pos hlists, if_pos hlists]
    exact Like.forall_isMatch_attributeContains_iff hname
  · rw [if_neg hlists, if_neg hlists]
    exact Like.forall_isMatch_attributeEquals_iff

theorem clause_finds_text_iff_channel :
    (Attribute.column? "Type" = none ∧
      Attribute.formatOf? (Attribute.catalogNames "Type") = none) ∧
      ∃ pattern, Compiled.ofGroups (.standard : Tolerance Rat)
          (FilterGroup.ofFilters [⟨"Type", .eq, "N-Channel"⟩]) =
          { clauses := [.attributeLike [pattern]] } ∧
        ∀ pairs : Attributes, ("Type", "N-Channel") ∈ pairs →
          Like.isMatch pattern pairs.render = true := by
  have hcolumn : Attribute.column? "Type" = none := by decide +kernel
  have hformat : Attribute.formatOf? (Attribute.catalogNames "Type") = none := by decide +kernel
  obtain ⟨pattern, hclause, hfinds⟩ :=
    @clause_finds_text_iff Rat _ "Type" "N-Channel" .standard hcolumn hformat
  have hplain : IsPlain "Type".toList ∧ IsPlain "N-Channel".toList := by decide
  exact ⟨⟨hcolumn, hformat⟩, pattern, hclause,
    hfinds.mpr (findsText_of_isPlain hplain.1 hplain.2)⟩

/-- A size in inches is not found: the blob writes its quote with a backslash, and the pattern does
not. -/
theorem clause_misses_quarterInch :
    (Attribute.column? "Size" = none ∧
      Attribute.formatOf? (Attribute.catalogNames "Size") = none) ∧
      ∃ pattern, Compiled.ofGroups (.standard : Tolerance Rat)
          (FilterGroup.ofFilters [⟨"Size", .eq, "1/4\""⟩]) =
          { clauses := [.attributeLike [pattern]] } ∧
        Like.isMatch pattern (Attributes.render [("Size", "1/4\"")]) = false :=
  ⟨⟨by decide +kernel, by decide +kernel⟩, _, rfl, by decide +kernel⟩

end SpecFilter

end PartSearch
