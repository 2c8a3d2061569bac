import PartSearch.Proofs.BlobText
import PartSearch.Proofs.LikeMatching

/-!
# The patterns over attribute blobs

Each pattern looks for a fixed text, and with `Attributes.shows_iff` its matches can be read off the
attributes. Where no text has a quote, a backslash or a control character, the pattern for an exact
value finds just the attributes of that name and value, `isMatch_attributeEquals_iff_mem`.

The patterns for a number look for its spellings: the value as it was typed, the same in the other
case, and a usual one. They are computed from the escaped value, which makes no difference, because
the characters that are escaped have no case and no case mapping produces them.
-/

namespace PartSearch

/-! ### Case mappings and special characters -/

namespace Text

open Like (IsSpecial)

theorem code_of_isSpecial {c : Char} (h : IsSpecial c) : (c.toNat : Int) ∈ [92, 37, 95] := by
  rcases h with rfl | rfl | rfl <;> decide

theorem toNat_ofNat_of_ne {n : Nat} (h : (Char.ofNat n).toNat ≠ 0) : (Char.ofNat n).toNat = n := by
  by_cases hvalid : n.isValidChar
  · have hchar : Char.ofNat n = Char.ofNatAux n hvalid := dif_pos hvalid
    rw [hchar]
    rfl
  · have hchar : Char.ofNat n = '\x00' := dif_neg hvalid
    rw [hchar] at h
    exact absurd rfl h

/-- No run of the table leads to a special character. -/
def AvoidsSpecial (runs : List (Nat × Nat × Nat × Int)) : Prop :=
  ∀ run ∈ runs, ∀ code ∈ [(92 : Int), 37, 95],
    code - run.2.2.2 < run.1 ∨ run.2.1 < code - run.2.2.2

instance (runs : List (Nat × Nat × Nat × Int)) : Decidable (AvoidsSpecial runs) :=
  inferInstanceAs (Decidable (∀ run ∈ runs, _))

theorem not_isSpecial_of_mapByRuns {runs : List (Nat × Nat × Nat × Int)}
    (htable : AvoidsSpecial runs) {c d : Char} (h : mapByRuns runs c = some d) :
    ¬ IsSpecial d := by
  intro hspecial
  obtain ⟨⟨first, last, step, offset⟩, hrun, hd⟩ := Option.map_eq_some_iff.mp h
  change Char.ofNat (c.toNat + offset).toNat = d at hd
  have hrange := List.find?_some hrun
  simp only [Bool.and_eq_true, decide_eq_true_eq] at hrange
  have hcode := code_of_isSpecial hspecial
  have hlimits := htable _ (List.mem_of_find?_eq_some hrun) _ hcode
  simp only [List.mem_cons, List.not_mem_nil, or_false] at hcode hlimits
  have hmoved : d.toNat = (c.toNat + offset).toNat := by
    have hne : (Char.ofNat (c.toNat + offset).toNat).toNat ≠ 0 := by
      rw [hd]
      omega
    rw [← hd]
    exact toNat_ofNat_of_ne hne
  omega

theorem not_isSpecial_of_lookup {table : List (Nat × List Nat)} {n : Nat} {codes : List Nat}
    (htable : ∀ entry ∈ table, ∀ code ∈ entry.2, ¬ IsSpecial (Char.ofNat code))
    (h : table.lookup n = some codes) : ∀ d ∈ codes.map Char.ofNat, ¬ IsSpecial d := by
  obtain ⟨before, after, hsplit, -⟩ := List.lookup_eq_some_iff.mp h
  intro d hd
  obtain ⟨code, hcode, rfl⟩ := List.mem_map.mp hd
  exact htable (n, codes) (by simp [hsplit]) code hcode

/-- A case mapping of ASCII characters and two tables brings no special character. -/
theorem not_isSpecial_of_mem_mapped {ascii : Char → Char} {table : List (Nat × List Nat)}
    {runs : List (Nat × Nat × Nat × Int)} (hascii : ∀ {c d : Char}, d.isAlpha = false →
      (ascii c = d ↔ c = d))
    (htable : ∀ entry ∈ table, ∀ code ∈ entry.2, ¬ IsSpecial (Char.ofNat code))
    (hruns : AvoidsSpecial runs) {c d : Char} (hc : ¬ IsSpecial c)
    (hd : d ∈ if isAscii c then [ascii c] else
      match table.lookup c.toNat with
      | some codes => codes.map Char.ofNat
      | none => [(mapByRuns runs c).getD c]) : ¬ IsSpecial d := by
  split at hd
  · rw [List.mem_singleton.mp hd]
    intro hspecial
    have heq := (hascii hspecial.isAlpha_eq_false).mp rfl
    rw [← heq] at hspecial
    exact hc hspecial
  split at hd
  · rename_i codes hcodes
    exact not_isSpecial_of_lookup htable hcodes d hd
  · cases hrun : mapByRuns runs c with
    | none => rwa [List.mem_singleton.mp hd, hrun]
    | some e =>
        rw [List.mem_singleton.mp hd, hrun]
        exact not_isSpecial_of_mapByRuns hruns hrun

theorem not_isSpecial_of_mem_lowerChar {c : Char} (hc : ¬ IsSpecial c) :
    ∀ d ∈ lowerChar c, ¬ IsSpecial d :=
  fun _ hd =>
    not_isSpecial_of_mem_mapped toLower_eq_iff (by decide +kernel) (by decide +kernel) hc hd

theorem not_isSpecial_of_mem_upperChar {c : Char} (hc : ¬ IsSpecial c) :
    ∀ d ∈ upperChar c, ¬ IsSpecial d :=
  fun _ hd =>
    not_isSpecial_of_mem_mapped toUpper_eq_iff (by decide +kernel) (by decide +kernel) hc hd

theorem startsCased_cons (c : Char) (cs : List Char) :
    startsCased (c :: cs) = if isCaseIgnorable c then startsCased cs else isCased c := by
  unfold startsCased
  rw [List.dropWhile_cons]
  split <;> rfl

theorem startsCased_cons_of_isSpecial {c : Char} (h : IsSpecial c) (cs : List Char) :
    startsCased (c :: cs) = false := by
  rw [startsCased_cons]
  rcases h with rfl | rfl | rfl <;> rfl

end Text

/-! ### Escaping and case -/

namespace Like

open Text
open Json (IsPlain)

theorem startsCased_escapeChars (cs : List Char) :
    startsCased (escapeChars cs) = startsCased cs := by
  induction cs with
  | nil => rfl
  | cons c cs ih =>
      by_cases hspecial : IsSpecial c
      · rw [escapeChars_cons_of_isSpecial hspecial, startsCased_cons_of_isSpecial hspecial,
          startsCased_cons_of_isSpecial (Or.inl rfl)]
      · rw [escapeChars_cons_of_not_isSpecial hspecial, startsCased_cons, startsCased_cons, ih]

theorem upper_escapeChars (cs : List Char) : upper (escapeChars cs) = escapeChars (upper cs) := by
  induction cs with
  | nil => rfl
  | cons c cs ih =>
      have hcons (d : Char) (ds : List Char) : upper (d :: ds) = upperChar d ++ upper ds := rfl
      rw [hcons, escapeChars_append, ← ih]
      by_cases hspecial : IsSpecial c
      · rw [escapeChars_cons_of_isSpecial hspecial, hcons, hcons]
        rcases hspecial with rfl | rfl | rfl <;> rfl
      · rw [escapeChars_cons_of_not_isSpecial hspecial, hcons,
          escapeChars_of_forall (not_isSpecial_of_mem_upperChar hspecial)]

/-- Whether a capital sigma ends a word is the same in the escaped text. -/
theorem lowerAfter_escapeChars {before before' : List Char}
    (hbefore : startsCased before = startsCased before') (cs : List Char) :
    lowerAfter before (escapeChars cs) = escapeChars (lowerAfter before' cs) := by
  induction cs generalizing before before' with
  | nil => rfl
  | cons c cs ih =>
      by_cases hspecial : IsSpecial c
      · have hnext : startsCased (c :: '\\' :: before) = startsCased (c :: before') := by
          rw [startsCased_cons_of_isSpecial hspecial, startsCased_cons_of_isSpecial hspecial]
        rw [escapeChars_cons_of_isSpecial hspecial]
        rcases hspecial with rfl | rfl | rfl <;>
          exact congrArg (fun ds => '\\' :: _ :: ds) (ih hnext)
      · have hnext : startsCased (c :: before) = startsCased (c :: before') := by
          rw [startsCased_cons, startsCased_cons, hbefore]
        rw [escapeChars_cons_of_not_isSpecial hspecial, lowerAfter, lowerAfter, escapeChars_append,
          ih hnext, hbefore, startsCased_escapeChars]
        refine congrArg (· ++ _) (escapeChars_of_forall ?_).symm
        intro d hd
        split at hd
        · rw [List.mem_singleton.mp hd]
          split <;> decide
        · exact not_isSpecial_of_mem_lowerChar hspecial d hd

theorem escapeChars_injective : Function.Injective escapeChars := by
  intro cs ds h
  have htokens (es : List Char) : tokens (escapeChars es) = es.map .literal := by
    simpa [tokens] using tokens_escapeChars_append es []
  have hmap : cs.map Token.literal = ds.map Token.literal := by
    rw [← htokens, ← htokens, h]
  exact List.map_injective_iff.mpr (fun c d hcd => Token.literal.inj hcd) hmap

theorem escape_inj {s t : String} : escape s = escape t ↔ s = t := by
  constructor
  · intro h
    exact String.toList_inj.mp (escapeChars_injective (String.ofList_injective h))
  · rintro rfl
    rfl

theorem lowercase_escape (s : String) : lowercase (escape s) = escape (lowercase s) := by
  rw [lowercase, escape, escape, lowercase, String.toList_ofList, String.toList_ofList, lower,
    lowerAfter_escapeChars rfl]
  rfl

theorem uppercase_escape (s : String) : uppercase (escape s) = escape (uppercase s) := by
  rw [uppercase, escape, escape, uppercase, String.toList_ofList, String.toList_ofList,
    upper_escapeChars]

/-! ### Patterns as the texts that they look for -/

theorem escapeChars_quote_cons (cs : List Char) : escapeChars ('"' :: cs) = '"' :: escapeChars cs :=
  escapeChars_cons_of_not_isSpecial (by decide) cs

theorem attributeExists_eq (name : String) :
    attributeExists name = containing ('"' :: name.toList ++ ['"']) := by
  apply String.toList_inj.mp
  simp [attributeExists, containing, escape, escapeChars_append, escapeChars_quote_cons]

theorem attributeStarts_escape (name start : String) :
    attributeStarts name (escape start) =
      containing ('"' :: name.toList ++ '"' :: ([',', ' '] ++ '"' :: start.toList)) := by
  have hseparator (cs : List Char) :
      escapeChars (',' :: ' ' :: cs) = ',' :: ' ' :: escapeChars cs := by
    rw [escapeChars_cons_of_not_isSpecial (by decide),
      escapeChars_cons_of_not_isSpecial (by decide)]
  apply String.toList_inj.mp
  simp [attributeStarts, containing, escape, escapeChars_append, escapeChars_quote_cons, hseparator]

theorem attributeEquals_eq (name value : String) :
    attributeEquals name value = attributeStarts name (escape (value ++ "\"")) := by
  apply String.toList_inj.mp
  simp [attributeEquals, attributeStarts, escape, escapeChars_append, escapeChars_quote_cons]

section Matches

variable {name : String} {pairs : Attributes}

theorem isMatch_attributeExists_iff :
    isMatch (attributeExists name) (Attributes.render pairs) = true ↔
      asciiLower ('"' :: name.toList ++ ['"']) <:+: asciiLower (Attributes.renderChars pairs) := by
  rw [attributeExists_eq, isMatch_containing_iff, Attributes.render, String.toList_ofList]

/-- The pattern for the start of a value matches if the blob shows the start behind the name. -/
theorem isMatch_attributeStarts_iff (hname : Attributes.IsNameText name.toList) (start : String) :
    isMatch (attributeStarts name (escape start)) (Attributes.render pairs) = true ↔
      pairs.Shows name.toList start.toList := by
  rw [attributeStarts_escape, isMatch_containing_iff, Attributes.render, String.toList_ofList,
    Attributes.shows_iff hname]

theorem isMatch_attributeEquals_iff (hname : Attributes.IsNameText name.toList) (value : String) :
    isMatch (attributeEquals name value) (Attributes.render pairs) = true ↔
      pairs.Shows name.toList (value ++ "\"").toList := by
  rw [attributeEquals_eq, isMatch_attributeStarts_iff hname]

end Matches

/-- The pattern for a listed value matches if the name stands between quotes and the value somewhere
behind it. -/
theorem isMatch_attributeContains_iff {name value text : String} :
    isMatch (attributeContains name value) text = true ↔
      ∃ before named after, text.toList = before ++ '"' :: (named ++ '"' :: after) ∧
        asciiLower named = asciiLower name.toList ∧
          asciiLower value.toList <:+: asciiLower after := by
  have hpattern : (attributeContains name value).toList =
      '%' :: (escapeChars ('"' :: name.toList ++ ['"']) ++
        '%' :: (escapeChars value.toList ++ ['%'])) := by
    simp [attributeContains, escape, escapeChars_append, escapeChars_quote_cons]
  have htokens : tokens (attributeContains name value).toList =
      .anyRun :: (('"' :: name.toList ++ ['"']).map .literal ++
        .anyRun :: (value.toList.map .literal ++ [.anyRun])) := by
    rw [hpattern, tokens, tokens_escapeChars_append, tokens, tokens_escapeChars_append]
    rfl
  rw [isMatch, htokens, matchTokens_eq_true_iff, fits_search_iff]
  simp only [fits_search_last_iff]
  constructor
  · rintro ⟨before, found, after, htext, hfound, hvalue⟩
    have hquoted : asciiLower found = ['"'] ++ (asciiLower name.toList ++ ['"']) := by
      rw [hfound]
      simp
    obtain ⟨opening, body, rfl, hopening, hbody⟩ := List.map_eq_append_iff.mp hquoted
    obtain ⟨named, closing, rfl, hnamed, hclosing⟩ := List.map_eq_append_iff.mp hbody
    have hquote {cs : List Char} (hcs : asciiLower cs = ['"']) : cs = ['"'] :=
      (asciiLower_eq_iff (List.forall_mem_singleton.mpr (by decide))).mp hcs
    rw [hquote hopening, hquote hclosing] at htext
    refine ⟨before, named, after, ?_, hnamed, hvalue⟩
    rw [htext]
    simp
  · rintro ⟨before, named, after, htext, hnamed, hvalue⟩
    refine ⟨before, '"' :: named ++ ['"'], after, ?_, ?_, hvalue⟩
    · rw [htext]
      simp
    · simp [hnamed]

/-- Among plain texts the pattern for an exact value matches if some attribute has just this name
and just this value: no match reaches from one text into the next, and no character of the name or
the value acts as a wildcard. -/
theorem isMatch_attributeEquals_iff_mem {name value : String} {pairs : Attributes}
    (hname : IsPlain name.toList) (hvalue : IsPlain value.toList)
    (hpairs : ∀ pair ∈ pairs, IsPlain pair.1.toList ∧ IsPlain pair.2.toList)
    (hcomma : name ≠ ", ") (hbracket : name ≠ "], [") :
    isMatch (attributeEquals name value) (Attributes.render pairs) = true ↔
      ∃ pair ∈ pairs, sameText pair.1 name = true ∧ sameText pair.2 value = true := by
  have hsign (text : String) (htext : ∀ c ∈ text.toList, c.isAlpha = false) (hne : name ≠ text) :
      asciiLower name.toList ≠ text.toList := by
    rw [Ne, asciiLower_eq_iff htext, String.toList_inj]
    exact hne
  have hnameText : Attributes.IsNameText name.toList :=
    { plain := hname
      ne_comma := hsign ", " (by simp) hcomma
      ne_bracket := hsign "], [" (by simp) hbracket }
  rw [isMatch_attributeEquals_iff hnameText, String.toList_append]
  simp only [sameText_iff]
  exact Attributes.shows_closed_iff hpairs hvalue

/-- The wildcards of "Vgs_th%" stand for themselves, and a separator as a value changes nothing. -/
theorem isMatch_attributeEquals_iff_mem_thresholds :
    let pairs := [("Type", ", "), ("vgs_TH%", "1v")]
    (IsPlain "Vgs_th%".toList ∧ IsPlain "1V".toList ∧
      ∀ pair ∈ pairs, IsPlain pair.1.toList ∧ IsPlain pair.2.toList) ∧
      isMatch (attributeEquals "Vgs_th%" "1V") (Attributes.render pairs) = true ∧
      isMatch (attributeEquals "Vgs_th%" "_V") (Attributes.render pairs) = false := by
  have hpairs : ∀ pair ∈ [("Type", ", "), ("vgs_TH%", "1v")],
      IsPlain pair.1.toList ∧ IsPlain pair.2.toList := by decide
  refine ⟨⟨by decide, by decide, hpairs⟩, ?_, ?_⟩
  · exact (isMatch_attributeEquals_iff_mem (by decide) (by decide) hpairs (by decide)
      (by decide)).mpr (by decide)
  · rw [← Bool.not_eq_true, isMatch_attributeEquals_iff_mem (by decide) (by decide) hpairs
      (by decide) (by decide)]
    decide

/-! ### The spellings of a number -/

/-- A value in the other case, if it has one: a value in lower case is put in upper case, and any
other in lower case. -/
def otherCase? (value : String) : Option String :=
  if lowercase value = uppercase value then none
  else some (if value = lowercase value then uppercase value else lowercase value)

variable {ν : Type} [Number ν]

/-- The usual spelling of a value as a text: whole kiloohms, whole microfarads, whole percents. -/
def usualText? (name : String) (x : ν) : Option String :=
  let named (word : String) : Bool := containsText (lowercase name) word
  let kilo := x / Number.tenTo 3
  let micro := x * Number.tenTo 6
  if named "resistance" && decide (Number.tenTo 3 ≤ x) && isWhole kilo then
    some (wholeDigits kilo ++ "k")
  else if named "capacitance" && decide (Number.tenTo 0 ≤ micro) && isWhole micro then
    some (wholeDigits micro ++ "u")
  else if named "tolerance" && isWhole x then some ("\u00b1" ++ wholeDigits x ++ "%")
  else none

/-- The texts that are looked for at the start of a value when a filter asks for a number. -/
def spellings (name value : String) (x : ν) : List String :=
  withoutOhm value :: ((otherCase? (withoutOhm value)).toList ++ (usualText? name x).toList)

theorem not_isSpecial_of_mem_wholeDigits (x : ν) : ∀ c ∈ (wholeDigits x).toList, ¬ IsSpecial c := by
  intro c hc
  have hdigit (n : Nat) (hn : c ∈ natDigits n) : ¬ IsSpecial c := by
    have hdigit := Nat.isDigit_of_mem_toDigits (by decide) (by decide) hn
    rintro (rfl | rfl | rfl) <;> exact absurd hdigit (by decide)
  rw [wholeDigits, String.toList_ofList, withSign] at hc
  split at hc
  · rcases List.mem_cons.mp hc with rfl | hmem
    · decide
    · exact hdigit _ hmem
  · exact hdigit _ hc

theorem escape_append (s t : String) : escape (s ++ t) = escape s ++ escape t := by
  apply String.toList_inj.mp
  simp [escape, escapeChars_append]

theorem escape_wholeDigits (x : ν) : escape (wholeDigits x) = wholeDigits x := by
  rw [escape, escapeChars_of_forall (not_isSpecial_of_mem_wholeDigits x), String.ofList_toList]

theorem usualSpelling?_eq (name : String) (x : ν) :
    usualSpelling? name x = (usualText? name x).map escape := by
  unfold usualSpelling? usualText?
  dsimp only
  split
  · rw [Option.map_some, escape_append, escape_wholeDigits]
    rfl
  split
  · rw [Option.map_some, escape_append, escape_wholeDigits]
    rfl
  split
  · rw [Option.map_some, escape_append, escape_append, escape_wholeDigits]
    rfl
  · rfl

theorem other_escape (typed : String) :
    (if lowercase (escape typed) = uppercase (escape typed) then [] else
      [if escape typed = lowercase (escape typed) then uppercase (escape typed)
        else lowercase (escape typed)]) = (otherCase? typed).toList.map escape := by
  rw [lowercase_escape, uppercase_escape]
  unfold otherCase?
  by_cases hcase : lowercase typed = uppercase typed
  · rw [if_pos (escape_inj.mpr hcase), if_pos hcase]
    rfl
  · rw [if_neg (fun h => hcase (escape_inj.mp h)), if_neg hcase]
    simp only [escape_inj, Option.toList_some, List.map_cons, List.map_nil, apply_ite escape]

/-- The patterns for a number look for its spellings; none is lost to the limit on their number. -/
theorem mem_valuePatterns_iff {name value pattern : String} {x : ν} :
    pattern ∈ valuePatterns name value x ↔
      ∃ text ∈ spellings name value x, attributeStarts name (escape text) = pattern := by
  unfold valuePatterns spellings
  dsimp only
  rw [other_escape, usualSpelling?_eq]
  generalize withoutOhm value = typed
  have husual : (((usualText? name x).map escape).map (attributeStarts name)).toList =
      (usualText? name x).toList.map fun text => attributeStarts name (escape text) := by
    cases usualText? name x <;> rfl
  have hpatterns :
      (escape typed :: (otherCase? typed).toList.map escape).map (attributeStarts name) =
      (typed :: (otherCase? typed).toList).map fun text => attributeStarts name (escape text) := by
    rw [← List.map_cons, List.map_map]
    rfl
  rw [husual, hpatterns]
  rw [List.take_of_length_le, ← List.cons_append, ← List.mem_map, List.map_append, List.mem_append,
    List.mem_append, List.mem_filter]
  · by_cases hfirst : pattern ∈ (typed :: (otherCase? typed).toList).map fun text =>
        attributeStarts name (escape text)
    · rw [or_iff_left_of_imp (fun _ => hfirst), or_iff_left_of_imp (fun _ => hfirst)]
    · simp only [hfirst, false_or, and_iff_left_iff_imp, Bool.not_eq_true']
      intro _
      simpa using hfirst
  · have hother : (otherCase? typed).toList.length ≤ 1 := Option.length_toList_le
    have husual : (usualText? name x).toList.length ≤ 1 := Option.length_toList_le
    refine List.length_append.trans_le ?_
    have hfilter := List.length_filter_le (fun p => !((typed :: (otherCase? typed).toList).map
      fun text => attributeStarts name (escape text)).contains p)
      ((usualText? name x).toList.map fun text => attributeStarts name (escape text))
    simp only [List.length_map, List.length_cons, maxValuePatterns] at hfilter ⊢
    omega

/-! ### What every pattern looks for -/

/-- The pattern looks for a quote before anything else. -/
def WantsQuote (pattern : String) : Prop := ∃ rest, pattern.toList = '%' :: '"' :: rest

theorem wantsQuote_attributeExists (name : String) : WantsQuote (attributeExists name) :=
  ⟨_, by simp only [attributeExists, String.toList_append]; rfl⟩

theorem wantsQuote_attributeEquals (name value : String) :
    WantsQuote (attributeEquals name value) :=
  ⟨_, by simp only [attributeEquals, String.toList_append]; rfl⟩

theorem wantsQuote_attributeContains (name value : String) :
    WantsQuote (attributeContains name value) :=
  ⟨_, by simp only [attributeContains, String.toList_append]; rfl⟩

theorem wantsQuote_attributeStarts (name start : String) :
    WantsQuote (attributeStarts name start) :=
  ⟨_, by simp only [attributeStarts, String.toList_append]; rfl⟩

theorem WantsQuote.not_isMatch {pattern text : String} (h : WantsQuote pattern)
    (htext : '"' ∉ text.toList) : isMatch pattern text = false := by
  obtain ⟨rest, hpattern⟩ := h
  rw [← Bool.not_eq_true, isMatch, hpattern, tokens, tokens_cons_of_not_isSpecial (by decide),
    matchTokens_eq_true_iff, fits_anyRun_iff]
  rintro ⟨after, hafter, hfits⟩
  cases hfits with
  | @literal _ _ c cs hletter _ =>
      have hquote : c = '"' := by
        have hlower : '"'.toLower = c.toLower := of_decide_eq_true hletter
        exact (Text.toLower_eq_iff (by decide)).mp hlower.symm
      rw [hquote] at hafter
      exact htext (hafter.subset List.mem_cons_self)

end Like

end PartSearch
