import PartSearch.Proofs.LikeScan

/-!
# What a LIKE pattern matches

Most patterns over attribute blobs look for a fixed text. For them a match is an occurrence of that
text up to the case of ASCII letters, `isMatch_containing_iff`. Case counts in no pattern at all,
`isMatch_congr`.
-/

namespace PartSearch.Like

open Text

/-! ### Patterns for a fixed text -/

theorem IsSpecial.isAlpha_eq_false {c : Char} (h : IsSpecial c) : c.isAlpha = false := by
  rcases h with rfl | rfl | rfl <;> decide

theorem IsSpecial.toLower_eq {c : Char} (h : IsSpecial c) : c.toLower = c :=
  toLower_of_not_isAlpha h.isAlpha_eq_false

theorem isSpecial_toLower_iff {c : Char} : IsSpecial c.toLower ↔ IsSpecial c := by
  constructor
  · intro h
    rwa [← (toLower_eq_iff h.isAlpha_eq_false).mp rfl] at h
  · intro h
    rwa [h.toLower_eq]

@[simp]
theorem escapeChars_nil : escapeChars [] = [] := rfl

theorem escapeChars_cons_of_isSpecial {c : Char} (h : IsSpecial c) (cs : List Char) :
    escapeChars (c :: cs) = '\\' :: c :: escapeChars cs := by
  rw [escapeChars, List.flatMap_cons, if_pos (by simpa [IsSpecial, or_assoc] using h)]
  rfl

theorem escapeChars_cons_of_not_isSpecial {c : Char} (h : ¬ IsSpecial c) (cs : List Char) :
    escapeChars (c :: cs) = c :: escapeChars cs := by
  rw [escapeChars, List.flatMap_cons, if_neg (by simpa [IsSpecial, or_assoc] using h)]
  rfl

theorem escapeChars_append (cs ds : List Char) :
    escapeChars (cs ++ ds) = escapeChars cs ++ escapeChars ds := List.flatMap_append

theorem escapeChars_of_forall {cs : List Char} (h : ∀ c ∈ cs, ¬ IsSpecial c) :
    escapeChars cs = cs := by
  induction cs with
  | nil => rfl
  | cons c cs ih =>
      obtain ⟨hc, hrest⟩ := List.forall_mem_cons.mp h
      rw [escapeChars_cons_of_not_isSpecial hc, ih hrest]

/-- An escaped text is a literal for each of its characters, whatever pattern follows it. -/
theorem tokens_escapeChars_append (cs rest : List Char) :
    tokens (escapeChars cs ++ rest) = cs.map .literal ++ tokens rest := by
  induction cs with
  | nil => rfl
  | cons c cs ih =>
      by_cases hspecial : IsSpecial c
      · rw [escapeChars_cons_of_isSpecial hspecial, List.cons_append, List.cons_append, tokens, ih]
        rfl
      · rw [escapeChars_cons_of_not_isSpecial hspecial, List.cons_append,
          tokens_cons_of_not_isSpecial hspecial, ih]
        rfl

theorem fits_literals_append_iff {lits : List Char} {ts : List Token} {cs : List Char} :
    Fits (lits.map .literal ++ ts) cs ↔
      ∃ found rest, cs = found ++ rest ∧ asciiLower found = asciiLower lits ∧ Fits ts rest := by
  induction lits generalizing cs with
  | nil =>
      constructor
      · intro h
        exact ⟨[], cs, rfl, rfl, h⟩
      · rintro ⟨found, rest, rfl, hfound, h⟩
        rw [List.map_eq_nil_iff.mp hfound]
        exact h
  | cons a lits ih =>
      cases cs with
      | nil =>
          refine iff_of_false (not_fits_cons_nil (by simp)) ?_
          rintro ⟨found, rest, hsplit, hfound, -⟩
          rw [(List.append_eq_nil_iff.mp hsplit.symm).1] at hfound
          simp at hfound
      | cons c cs =>
          rw [List.map_cons, List.cons_append, fits_literal_iff, ih]
          constructor
          · rintro ⟨hletter, found, rest, rfl, hfound, h⟩
            refine ⟨c :: found, rest, rfl, ?_, h⟩
            rw [asciiLower_cons, asciiLower_cons, hfound, of_decide_eq_true hletter]
          · rintro ⟨found, rest, hsplit, hfound, h⟩
            cases found with
            | nil => simp at hfound
            | cons d found =>
                rw [List.cons_append, List.cons.injEq] at hsplit
                rw [asciiLower_cons, asciiLower_cons, List.cons.injEq] at hfound
                obtain ⟨rfl, rfl⟩ := hsplit
                exact ⟨decide_eq_true hfound.1.symm, found, rest, rfl, hfound.2, h⟩

/-- A `%` and a literal text find every occurrence of the text, in any case of its ASCII letters. -/
theorem fits_search_iff {piece : List Char} {ts : List Token} {cs : List Char} :
    Fits (.anyRun :: (piece.map .literal ++ ts)) cs ↔
      ∃ before found after, cs = before ++ (found ++ after) ∧ asciiLower found = asciiLower piece ∧
        Fits ts after := by
  rw [fits_anyRun_iff]
  constructor
  · rintro ⟨rest, ⟨before, rfl⟩, hfits⟩
    obtain ⟨found, after, rfl, hfound, hafter⟩ := fits_literals_append_iff.mp hfits
    exact ⟨before, found, after, rfl, hfound, hafter⟩
  · rintro ⟨before, found, after, rfl, hfound, hafter⟩
    exact ⟨found ++ after, List.suffix_append _ _,
      fits_literals_append_iff.mpr ⟨found, after, rfl, hfound, hafter⟩⟩

/-- A `%` at the end leaves the rest of the text alone. -/
theorem fits_search_last_iff {piece cs : List Char} :
    Fits (.anyRun :: (piece.map .literal ++ [.anyRun])) cs ↔ asciiLower piece <:+: asciiLower cs := by
  rw [fits_search_iff]
  constructor
  · rintro ⟨before, found, after, rfl, hfound, -⟩
    refine ⟨asciiLower before, asciiLower after, ?_⟩
    rw [← hfound, asciiLower_append, asciiLower_append, List.append_assoc]
  · intro hinfix
    obtain ⟨found, ⟨before, after, rfl⟩, hfound⟩ := List.infix_map_iff.mp hinfix
    exact ⟨before, found, after, List.append_assoc _ _ _, hfound.symm,
      fits_anyRun_iff.mpr ⟨[], List.nil_suffix, .nil⟩⟩

def containing (piece : List Char) : String := String.ofList ('%' :: escapeChars piece ++ ['%'])

/-- A text matches the pattern for a fixed text if that text occurs in it, in any case of its ASCII
letters. -/
theorem isMatch_containing_iff {piece : List Char} {text : String} :
    isMatch (containing piece) text = true ↔ asciiLower piece <:+: asciiLower text.toList := by
  have htokens : tokens (containing piece).toList =
      .anyRun :: (piece.map .literal ++ [.anyRun]) := by
    rw [containing, String.toList_ofList, List.cons_append, tokens, tokens_escapeChars_append]
    rfl
  rw [isMatch, htokens, matchTokens_eq_true_iff, fits_search_last_iff]

/-! ### Case of patterns -/

def Token.lower : Token → Token
  | .literal c => .literal c.toLower
  | t => t

theorem sameLetter_toLower_left (a c : Char) : sameLetter a.toLower c = sameLetter a c := by
  rw [sameLetter, sameLetter, toLower_toLower]

theorem fits_map_lower_iff {ts : List Token} {cs : List Char} :
    Fits (ts.map Token.lower) cs ↔ Fits ts cs := by
  induction ts generalizing cs with
  | nil => exact Iff.rfl
  | cons t ts ih =>
      cases t with
      | anyRun =>
          change Fits (.anyRun :: ts.map Token.lower) cs ↔ _
          rw [fits_anyRun_iff, fits_anyRun_iff]
          simp only [ih]
      | anyChar =>
          cases cs with
          | nil => exact iff_of_false (not_fits_cons_nil nofun) (not_fits_cons_nil nofun)
          | cons c cs =>
              change Fits (.anyChar :: ts.map Token.lower) (c :: cs) ↔ _
              rw [fits_anyChar_iff, fits_anyChar_iff, ih]
      | literal a =>
          cases cs with
          | nil => exact iff_of_false (not_fits_cons_nil nofun) (not_fits_cons_nil nofun)
          | cons c cs =>
              rw [List.map_cons, Token.lower, fits_literal_iff, fits_literal_iff, ih,
                sameLetter_toLower_left]

/-- Lowering a pattern lowers its literals and leaves its wildcards alone. -/
theorem tokens_asciiLower (cs : List Char) :
    tokens (asciiLower cs) = (tokens cs).map Token.lower := by
  induction cs using pattern_induction with
  | nil => rfl
  | anyRun cs ih => exact congrArg (Token.anyRun :: ·) ih
  | anyChar cs ih => exact congrArg (Token.anyChar :: ·) ih
  | lastSlash => rfl
  | escaped c cs ih => exact congrArg (Token.literal c.toLower :: ·) ih
  | plain c cs hplain ih =>
      have hlower : ¬ IsSpecial c.toLower := fun h => hplain (isSpecial_toLower_iff.mp h)
      rw [asciiLower_cons, tokens_cons_of_not_isSpecial hlower, tokens_cons_of_not_isSpecial hplain,
        ih]
      rfl

/-- Case counts neither in the pattern nor in the text. -/
theorem isMatch_congr {p q : String} (h : sameText p q = true) (text : String) :
    isMatch p text = isMatch q text := by
  have hlower (pattern : List Char) (cs : List Char) :
      matchTokens (tokens (asciiLower pattern)) cs = matchTokens (tokens pattern) cs := by
    rw [Bool.eq_iff_iff, matchTokens_eq_true_iff, matchTokens_eq_true_iff, tokens_asciiLower,
      fits_map_lower_iff]
  rw [isMatch, isMatch, ← hlower p.toList, ← hlower q.toList, sameText_iff.mp h]

theorem escapeChars_asciiLower (cs : List Char) :
    escapeChars (asciiLower cs) = asciiLower (escapeChars cs) := by
  induction cs with
  | nil => rfl
  | cons c cs ih =>
      rw [asciiLower_cons]
      by_cases hspecial : IsSpecial c
      · rw [hspecial.toLower_eq, escapeChars_cons_of_isSpecial hspecial,
          escapeChars_cons_of_isSpecial hspecial, ih, asciiLower_cons, asciiLower_cons,
          hspecial.toLower_eq]
        rfl
      · have hlower : ¬ IsSpecial c.toLower := fun h => hspecial (isSpecial_toLower_iff.mp h)
        rw [escapeChars_cons_of_not_isSpecial hspecial, escapeChars_cons_of_not_isSpecial hlower,
          ih, asciiLower_cons]

theorem sameText_escape {s t : String} (h : sameText s t = true) :
    sameText (escape s) (escape t) = true := by
  rw [sameText_iff] at h ⊢
  rw [escape, escape, String.toList_ofList, String.toList_ofList, ← escapeChars_asciiLower, h,
    escapeChars_asciiLower]

end PartSearch.Like
