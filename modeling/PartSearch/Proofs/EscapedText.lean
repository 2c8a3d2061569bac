import PartSearch.Proofs.LikeMatching

/-!
# Escaped texts in patterns

Escaping is one pass over a text, and it does what three replacements do one after another, one for
each special character. The backslash has to come first: the later replacements write backslashes
of their own, and these stay single (`escapeChars_eq_slashed`). Read as a pattern, an escaped text
is a literal for each of its characters, so nothing in it is a wildcard and no backslash of it
reaches what follows: `isMatch_escape`.
-/

namespace PartSearch.Like

open Text

/-! ### One special character after another -/

section Slashed

variable {special c : Char}

/-- The text with a backslash in front of one character, wherever it stands. -/
def slashed (special : Char) (cs : List Char) : List Char :=
  cs.flatMap fun c => if c = special then ['\\', c] else [c]

theorem slashed_cons_self (cs : List Char) :
    slashed special (special :: cs) = '\\' :: special :: slashed special cs := by
  simp [slashed]

theorem slashed_cons_of_ne (h : c ≠ special) (cs : List Char) :
    slashed special (c :: cs) = c :: slashed special cs := by
  simp [slashed, h]

theorem escapeChars_eq_slashed (cs : List Char) :
    escapeChars cs = slashed '_' (slashed '%' (slashed '\\' cs)) := by
  induction cs with
  | nil => rfl
  | cons c cs ih =>
      by_cases hslash : c = '\\'
      · subst hslash
        rw [escapeChars_cons_of_isSpecial (Or.inl rfl), slashed_cons_self,
          slashed_cons_of_ne (by decide), slashed_cons_of_ne (by decide),
          slashed_cons_of_ne (by decide), slashed_cons_of_ne (by decide), ih]
      · rw [slashed_cons_of_ne hslash]
        by_cases hrun : c = '%'
        · subst hrun
          rw [escapeChars_cons_of_isSpecial (Or.inr (Or.inl rfl)), slashed_cons_self,
            slashed_cons_of_ne (by decide), slashed_cons_of_ne (by decide), ih]
        · rw [slashed_cons_of_ne hrun]
          by_cases hone : c = '_'
          · subst hone
            rw [escapeChars_cons_of_isSpecial (Or.inr (Or.inr rfl)), slashed_cons_self, ih]
          · have hplain : ¬ IsSpecial c := by simp [IsSpecial, hslash, hrun, hone]
            rw [escapeChars_cons_of_not_isSpecial hplain, slashed_cons_of_ne hone, ih]

end Slashed

/-! ### What an escaped text matches -/

theorem fits_literals_iff {lits cs : List Char} :
    Fits (lits.map .literal) cs ↔ asciiLower cs = asciiLower lits := by
  have hsplit : Fits (lits.map .literal ++ []) cs ↔ _ := fits_literals_append_iff
  rw [← List.append_nil (lits.map Token.literal), hsplit]
  constructor
  · rintro ⟨found, rest, rfl, hfound, hrest⟩
    rw [fits_nil_iff.mp hrest, List.append_nil, hfound]
  · intro h
    exact ⟨cs, [], (List.append_nil cs).symm, h, .nil⟩

theorem tokens_escape (v : String) : tokens (escape v).toList = v.toList.map .literal := by
  have h := tokens_escapeChars_append v.toList []
  rw [List.append_nil] at h
  rw [escape, String.toList_ofList, h]
  exact List.append_nil _

/-- An escaped text matches the text itself in any case of its ASCII letters, and between two `%` it
matches every text in which the text occurs. It is a literal for each character of the text whatever
follows it in a pattern, and three replacements write it too. -/
theorem isMatch_escape (v text : String) :
    (isMatch (escape v) text = true ↔ sameText text v = true) ∧
    (isMatch ("%" ++ escape v ++ "%") text = true ↔
      ∃ before found after, text = before ++ found ++ after ∧ sameText found v = true) ∧
    (∀ rest, tokens ((escape v).toList ++ rest) = v.toList.map .literal ++ tokens rest) ∧
    (escape v).toList = slashed '_' (slashed '%' (slashed '\\' v.toList)) := by
  refine ⟨?_, ?_, fun rest => ?_, ?_⟩
  · rw [isMatch, tokens_escape, matchTokens_eq_true_iff, fits_literals_iff, sameText_iff]
  · have hpattern : "%" ++ escape v ++ "%" = containing v.toList := by
      rw [← String.toList_inj]
      simp [containing, escape]
    rw [hpattern, isMatch_containing_iff]
    constructor
    · intro hinfix
      obtain ⟨found, ⟨before, after, hwhole⟩, hfound⟩ := List.infix_map_iff.mp hinfix
      refine ⟨String.ofList before, String.ofList found, String.ofList after, ?_, ?_⟩
      · rw [← String.toList_inj]
        simp [← hwhole]
      · rw [sameText_iff, String.toList_ofList]
        exact hfound.symm
    · rintro ⟨before, found, after, rfl, hfound⟩
      refine ⟨asciiLower before.toList, asciiLower after.toList, ?_⟩
      rw [← sameText_iff.mp hfound, String.toList_append, String.toList_append, asciiLower_append,
        asciiLower_append]
  · rw [escape, String.toList_ofList, tokens_escapeChars_append]
  · rw [escape, String.toList_ofList, escapeChars_eq_slashed]

example : escape "50%_\\" = "50\\%\\_\\\\" := by decide

end PartSearch.Like
