import Mathlib.Data.List.Infix
import PartSearch.Text.Blank

/-!
# Texts up to the case of ASCII letters

Patterns and names are compared after `asciiLower`. It moves the ASCII capitals and leaves every
other character where it is, so punctuation survives it in both directions: a quote in the lowered
text was a quote before.
-/

namespace PartSearch.Text

/-- The ASCII capitals are the characters that `toLower` moves. -/
theorem toNat_toLower (c : Char) :
    c.toLower.toNat = if 65 ≤ c.toNat ∧ c.toNat ≤ 90 then c.toNat + 32 else c.toNat := by
  have hcapital : (c.val ≥ 'A'.val ∧ c.val ≤ 'Z'.val) ↔ 65 ≤ c.toNat ∧ c.toNat ≤ 90 := by
    simp only [ge_iff_le, UInt32.le_iff_toNat_le]
    rfl
  unfold Char.toLower
  by_cases h : 65 ≤ c.toNat ∧ c.toNat ≤ 90
  · rw [dif_pos (hcapital.mpr h), if_pos h]
    change (c.val + ('a'.val - 'A'.val)).toNat = _
    rw [UInt32.toNat_add]
    exact Nat.mod_eq_of_lt (by change c.toNat + 32 < _; omega)
  · rw [dif_neg (fun hc => h (hcapital.mp hc)), if_neg h]

theorem toLower_eq_self_or (c : Char) :
    c.toLower = c ∨ 65 ≤ c.toNat ∧ c.toNat ≤ 90 ∧ c.toLower.toNat = c.toNat + 32 := by
  by_cases hcapital : 65 ≤ c.toNat ∧ c.toNat ≤ 90
  · exact Or.inr ⟨hcapital.1, hcapital.2, by rw [toNat_toLower, if_pos hcapital]⟩
  · exact Or.inl (by rw [← Char.toNat_inj, toNat_toLower, if_neg hcapital])

theorem toNat_toUpper (c : Char) :
    c.toUpper.toNat = if 97 ≤ c.toNat ∧ c.toNat ≤ 122 then c.toNat - 32 else c.toNat := by
  have hsmall : (c.val ≥ 'a'.val ∧ c.val ≤ 'z'.val) ↔ 97 ≤ c.toNat ∧ c.toNat ≤ 122 := by
    simp only [ge_iff_le, UInt32.le_iff_toNat_le]
    rfl
  unfold Char.toUpper
  by_cases h : 97 ≤ c.toNat ∧ c.toNat ≤ 122
  · rw [dif_pos (hsmall.mpr h), if_pos h]
    change (c.val + ('A'.val - 'a'.val)).toNat = _
    rw [UInt32.toNat_add]
    change (c.toNat + 4294967264) % 4294967296 = _
    omega
  · rw [dif_neg (fun hc => h (hsmall.mp hc)), if_neg h]

theorem isAlpha_eq_false_iff {c : Char} :
    c.isAlpha = false ↔ ¬ (65 ≤ c.toNat ∧ c.toNat ≤ 90) ∧ ¬ (97 ≤ c.toNat ∧ c.toNat ≤ 122) := by
  have halpha : c.isAlpha = (decide (65 ≤ c.val ∧ c.val ≤ 90) ||
      decide (97 ≤ c.val) && decide (c.val ≤ 122)) := rfl
  simp only [halpha, Bool.or_eq_false_iff, Bool.and_eq_false_imp, decide_eq_true_eq,
    decide_eq_false_iff_not, UInt32.le_iff_toNat_le, not_and]
  rfl

/-- A character that is no letter has no other case. -/
theorem toLower_eq_iff {c d : Char} (hd : d.isAlpha = false) : c.toLower = d ↔ c = d := by
  rw [isAlpha_eq_false_iff] at hd
  rw [← Char.toNat_inj, ← Char.toNat_inj, toNat_toLower]
  split <;> omega

theorem toUpper_eq_iff {c d : Char} (hd : d.isAlpha = false) : c.toUpper = d ↔ c = d := by
  rw [isAlpha_eq_false_iff] at hd
  rw [← Char.toNat_inj, ← Char.toNat_inj, toNat_toUpper]
  split <;> omega

theorem toLower_of_not_isAlpha {c : Char} (hc : c.isAlpha = false) : c.toLower = c :=
  (toLower_eq_iff hc).mpr rfl

theorem toLower_toLower (c : Char) : c.toLower.toLower = c.toLower := by
  rw [← Char.toNat_inj, toNat_toLower, toNat_toLower]
  by_cases hcapital : 65 ≤ c.toNat ∧ c.toNat ≤ 90
  · rw [if_pos hcapital, if_neg (by omega)]
  · rw [if_neg hcapital, if_neg hcapital]

@[simp]
theorem asciiLower_nil : asciiLower [] = [] := rfl

@[simp]
theorem asciiLower_cons (c : Char) (cs : List Char) :
    asciiLower (c :: cs) = c.toLower :: asciiLower cs := rfl

@[simp]
theorem asciiLower_append (cs ds : List Char) :
    asciiLower (cs ++ ds) = asciiLower cs ++ asciiLower ds := List.map_append

theorem asciiLower_asciiLower (cs : List Char) : asciiLower (asciiLower cs) = asciiLower cs := by
  rw [asciiLower, asciiLower, List.map_map]
  exact List.map_congr_left fun c _ => toLower_toLower c

/-- A character that is no letter stands in the lowered text where it stood in the text. -/
theorem mem_asciiLower_iff {d : Char} (hd : d.isAlpha = false) {cs : List Char} :
    d ∈ asciiLower cs ↔ d ∈ cs := by
  simp [asciiLower, toLower_eq_iff hd]

/-- A text without letters is what it was before lowering. -/
theorem asciiLower_eq_iff {ds : List Char} (hds : ∀ d ∈ ds, d.isAlpha = false) {cs : List Char} :
    asciiLower cs = ds ↔ cs = ds := by
  induction ds generalizing cs with
  | nil => exact List.map_eq_nil_iff
  | cons d ds ih =>
      obtain ⟨hd, hrest⟩ := List.forall_mem_cons.mp hds
      cases cs with
      | nil => simp
      | cons c cs => rw [asciiLower_cons, List.cons.injEq, List.cons.injEq, toLower_eq_iff hd, ih hrest]

theorem isBlank_toLower (c : Char) : isBlank c.toLower = isBlank c := by
  rcases toLower_eq_self_or c with hsame | ⟨hfirst, hlast, hcode⟩
  · rw [hsame]
  · have hspace (d : Char) (hd : 65 ≤ d.toNat ∧ d.toNat ≤ 122) : isBlank d = false := by
      have hne : d ≠ ' ' := by
        rintro rfl
        exact absurd hd.1 (by decide)
      have hascii : isAscii d = true := decide_eq_true (by omega)
      simp only [isBlank, hascii, if_true, hne, decide_false, Bool.false_or, Bool.and_eq_false_imp,
        decide_eq_true_eq, decide_eq_false_iff_not]
      omega
    rw [hspace c (by omega), hspace c.toLower (by omega)]

theorem isAlphanumeric_toLower (c : Char) : isAlphanumeric c.toLower = isAlphanumeric c := by
  rcases toLower_eq_self_or c with hsame | ⟨hfirst, hlast, hcode⟩
  · rw [hsame]
  · have hletter (d : Char) (hd : 65 ≤ d.toNat ∧ d.toNat ≤ 90 ∨ 97 ≤ d.toNat ∧ d.toNat ≤ 122) :
        isAlphanumeric d = true := by
      have hascii : isAscii d = true := decide_eq_true (by omega)
      have halpha : d.isAlpha = true := by
        rw [← Bool.not_eq_false, isAlpha_eq_false_iff]
        omega
      rw [isAlphanumeric, if_pos hascii, Char.isAlphanum, halpha, Bool.true_or]
    rw [hletter c (by omega), hletter c.toLower (by omega)]

theorem trim_asciiLower (cs : List Char) : trim (asciiLower cs) = asciiLower (trim cs) := by
  have hdrop (ds : List Char) :
      (asciiLower ds).dropWhile isBlank = asciiLower (ds.dropWhile isBlank) := by
    have hblank : isBlank ∘ Char.toLower = isBlank := funext isBlank_toLower
    rw [asciiLower, asciiLower, List.dropWhile_map, hblank]
  have hreverse (ds : List Char) : (asciiLower ds).reverse = asciiLower ds.reverse :=
    List.map_reverse.symm
  rw [trim, trim, trimStart, trimStart, trimEndOf, trimEndOf, hdrop, hreverse, hdrop, hreverse]

theorem sameText_iff {a b : String} :
    sameText a b = true ↔ asciiLower a.toList = asciiLower b.toList := by
  simp [sameText]

theorem sameText_refl (a : String) : sameText a a = true := sameText_iff.mpr rfl

theorem sameText_comm (a b : String) : sameText a b = sameText b a := by
  simp only [sameText, eq_comm]

theorem sameText_append {a b c d : String} (hab : sameText a b = true) (hcd : sameText c d = true) :
    sameText (a ++ c) (b ++ d) = true := by
  rw [sameText_iff] at hab hcd ⊢
  rw [String.toList_append, String.toList_append, asciiLower_append, asciiLower_append, hab, hcd]

theorem sameText_trimmed {a b : String} (h : sameText a b = true) :
    sameText (trimmed a) (trimmed b) = true := by
  rw [sameText_iff] at h ⊢
  rw [trimmed, trimmed, String.toList_ofList, String.toList_ofList, ← trim_asciiLower, h,
    trim_asciiLower]

end PartSearch.Text
