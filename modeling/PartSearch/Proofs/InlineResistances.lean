import PartSearch.Proofs.TrimmedText
import PartSearch.Proofs.UnitReading

/-!
# Letters in place of the point

A resistance may be written with the letter of its multiplier where the point would stand ("4k7").
The reader takes this notation for the decimal number with the letter behind it, whatever white
space is around either: `read_inline_eq_decimal`. The two spellings are read by different patterns,
and neither pattern comes upon the other spelling.
-/

namespace PartSearch.ScalarFormat

open Text (Pattern IsPadded)
open Text.Pattern
open Number (ofText? finite?)

/-- Letters that stand for the point or behind the number. -/
def multipliers : List Char := "kKmMrR".toList

/-- Figures, points and letters of multipliers, and nothing of a unit. -/
structure IsBare (cs : List Char) : Prop where
  ne_nil : cs ≠ []
  subset : cs ⊆ multipliers ++ '.' :: figures

section

variable {ν : Type} [Number ν] {cs a b : List Char} {c : Char}

theorem IsBare.any_eq_false (h : IsBare cs) {p : Char → Bool}
    (hletters : multipliers.any p = false) (hfigures : ('.' :: figures).any p = false) :
    cs.any p = false := by
  have hall : (multipliers ++ '.' :: figures).any p = false := by
    rw [List.any_append, hletters, hfigures, Bool.false_or]
  exact List.any_eq_false.mpr fun d hd => List.any_eq_false.mp hall d (h.subset hd)

theorem isBare_inline (ha : IsDigits a) (hb : IsDigits b) (hc : c ∈ multipliers) :
    IsBare (a ++ c :: b) where
  ne_nil := List.append_ne_nil_of_left_ne_nil ha.ne_nil _
  subset := by
    have hfigure {ds : List Char} (hds : IsDigits ds) : ds ⊆ multipliers ++ '.' :: figures :=
      fun d hd => List.mem_append_right _ (List.mem_cons_of_mem _ (hds.subset hd))
    exact List.append_subset.mpr ⟨hfigure ha, List.cons_subset.mpr
      ⟨List.mem_append_left _ hc, hfigure hb⟩⟩

theorem isNumber_decimal (ha : IsDigits a) (hb : IsDigits b) : IsNumber (a ++ '.' :: b) where
  ne_nil := List.append_ne_nil_of_left_ne_nil ha.ne_nil _
  subset := List.append_subset.mpr ⟨List.subset_cons_of_subset _ ha.subset,
    List.cons_subset.mpr ⟨List.mem_cons_self, List.subset_cons_of_subset _ hb.subset⟩⟩

theorem isBare_append (hn : IsNumber cs) (hc : c ∈ multipliers) : IsBare (cs ++ [c]) where
  ne_nil := List.append_ne_nil_of_left_ne_nil hn.ne_nil _
  subset := List.append_subset.mpr ⟨fun _ hd => List.mem_append_right _ (hn.subset hd),
    List.cons_subset.mpr ⟨List.mem_append_left _ hc, List.nil_subset _⟩⟩

/-! ### The unit is absent -/

/-- The milliohm is spelled with an ohm sign or with the letter O. -/
theorem milliohm_needs : milliohm.Needs "\u03a9\u2126Oo".toList.contains := by
  intro read hread
  obtain ⟨front, unit, -, hunit, rfl⟩ := reads_append_iff.mp hread
  obtain ⟨d, hd, hmem⟩ : ∃ d ∈ unit, d ∈ "\u03a9\u2126Oo".toList := by
    rcases reads_either_iff.mp hunit with hsign | hword
    · obtain ⟨d, hd, hsign⟩ := needs_charOf _ _ hsign
      have htable : "\u03a9\u2126".toList ⊆ "\u03a9\u2126Oo".toList := by decide
      exact ⟨d, hd, htable (List.contains_iff_mem.mp hsign)⟩
    · obtain ⟨d, hd, hletter⟩ := (needs_charOf "Oo").left.left _ hword
      have htable : "Oo".toList ⊆ "\u03a9\u2126Oo".toList := by decide
      exact ⟨d, hd, htable (List.contains_iff_mem.mp hletter)⟩
  exact ⟨d, List.mem_append_right _ hd, List.contains_iff_mem.mpr hmem⟩

/-- Of a resistance without a unit nothing is removed. -/
theorem readResistance?_of_isBare (h : IsBare cs) :
    (readResistance? cs : Option ν) = readBareResistance? cs := by
  have htrim : Text.trim cs = cs := trim_eq_self (h.any_eq_false rfl rfl)
  have hohm : ohm.removeAll cs = cs := removeAll_eq_self (h.any_eq_false rfl rfl)
  have hmilli : milliohm.occurs cs = false := by
    rw [occurs, find?_eq_none milliohm_needs (h.any_eq_false rfl rfl)]
    rfl
  rw [readResistance?, htrim, if_neg (by simpa using h.ne_nil), hohm, htrim, hmilli,
    if_neg Bool.false_ne_true]

/-- White space around a resistance makes no difference. -/
theorem readResistance?_of_isPadded {text : List Char} (h : IsPadded cs text) :
    (readResistance? text : Option ν) = readResistance? cs := by
  rw [readResistance?, readResistance?, h.trim_eq]

/-! ### The two notations -/

/-- A decimal number at the scale of a multiplier. -/
def scaledDecimal? (a b : List Char) (c : Char) : Option ν :=
  (ofText? (a ++ '.' :: b)).bind fun x => finite? (resistanceScale (some c) x)

theorem readBareResistance?_inline (ha : IsDigits a) (hb : IsDigits b) (hc : c ∈ multipliers) :
    (readBareResistance? (a ++ c :: b) : Option ν) = scaledDecimal? a b c := by
  have hcaseless : multipliers.all (fun c =>
      "kmr".toList.any fun d => Text.caseClass c == Text.caseClass d) = true := rfl
  have hends : multipliers.all (fun c => endsNumber [c]) = true := rfl
  obtain ⟨m, hfind, hwhole, hletter, hfraction⟩ := inlineLetter_find? ha hb
    (List.all_eq_true.mp hcaseless c hc) (List.all_eq_true.mp hends c hc)
  rw [readBareResistance?, hfind]
  simp only [hwhole, hfraction, hletter]
  rfl

theorem isJumper_of_point (h : '.' ∈ cs) : isJumper cs = false := by
  have hlower : Text.asciiLower cs ≠ ['0', 'r'] := by
    intro heq
    have hpoint : '.' ∈ Text.asciiLower cs := List.mem_map.mpr ⟨'.', h, rfl⟩
    rw [heq] at hpoint
    exact absurd hpoint (by decide)
  have hzero : cs ≠ ['0'] := by
    rintro rfl
    exact absurd h (by decide)
  rw [isJumper, decide_eq_false hlower, decide_eq_false hzero, Bool.false_or]

theorem readBareResistance?_decimal (ha : IsDigits a) (hb : IsDigits b) (hc : c ∈ multipliers) :
    (readBareResistance? (a ++ '.' :: b ++ [c]) : Option ν) = scaledDecimal? a b c := by
  have hn := isNumber_decimal ha hb
  have hends : multipliers.all (fun c => endsNumber [c]) = true := rfl
  have hletter : endsNumber (some c).toList = true := List.all_eq_true.mp hends c hc
  have hcls : (some c).all "kKmMrR".toList.contains = true := List.contains_iff_mem.mpr hc
  obtain ⟨m, hfind, hnumber, hfound⟩ := withLetter_find? hn hletter hcls
  have hinline : inlineLetter.find? (a ++ '.' :: b ++ [c]) = none :=
    inlineLetter_find?_eq_none hn (some c)
  rw [Option.toList_some] at hfind
  rw [readBareResistance?, hinline, isJumper_of_point (by simp)]
  simp only [charOf, hfind, hnumber, hfound, Option.bind_some]
  rfl

variable {inline decimal : String}

/-- A letter between two runs of digits is read as the point, and as the multiplier of the decimal
number. -/
theorem read_inline_eq_decimal (ha : IsDigits a) (hb : IsDigits b) (hc : c ∈ multipliers)
    (hinline : IsPadded (a ++ c :: b) inline.toList)
    (hdecimal : IsPadded (a ++ '.' :: b ++ [c]) decimal.toList) :
    (resistance.read? inline : Option ν) = resistance.read? decimal ∧
      (resistance.read? decimal : Option ν) = scaledDecimal? a b c := by
  have hread : (resistance.read? decimal : Option ν) = scaledDecimal? a b c := by
    calc (resistance.read? decimal : Option ν)
      _ = readResistance? decimal.toList := rfl
      _ = readResistance? (a ++ '.' :: b ++ [c]) := readResistance?_of_isPadded hdecimal
      _ = readBareResistance? (a ++ '.' :: b ++ [c]) :=
        readResistance?_of_isBare (isBare_append (isNumber_decimal ha hb) hc)
      _ = scaledDecimal? a b c := readBareResistance?_decimal ha hb hc
  refine ⟨?_, hread⟩
  calc (resistance.read? inline : Option ν)
    _ = readResistance? inline.toList := rfl
    _ = readResistance? (a ++ c :: b) := readResistance?_of_isPadded hinline
    _ = readBareResistance? (a ++ c :: b) := readResistance?_of_isBare (isBare_inline ha hb hc)
    _ = scaledDecimal? a b c := readBareResistance?_inline ha hb hc
    _ = resistance.read? decimal := hread.symm

end

theorem read_inline_eq_decimal_fourKiloSeven :
    (IsDigits ['4'] ∧ IsDigits ['7'] ∧ 'k' ∈ multipliers ∧
      IsPadded "4k7".toList " 4k7".toList ∧ IsPadded "4.7k".toList "4.7k\n".toList) ∧
      ((resistance.read? " 4k7" : Option Rat) = resistance.read? "4.7k\n" ∧
        (resistance.read? "4.7k\n" : Option Rat) = scaledDecimal? ['4'] ['7'] 'k') ∧
      (scaledDecimal? ['4'] ['7'] 'k' : Option Rat) = some 4700 := by
  have hfour : IsDigits ['4'] := ⟨by decide, by decide⟩
  have hseven : IsDigits ['7'] := ⟨by decide, by decide⟩
  have hinline : IsPadded "4k7".toList " 4k7".toList := ⟨[' '], [], by decide, rfl, rfl⟩
  have hdecimal : IsPadded "4.7k".toList "4.7k\n".toList := ⟨[], ['\n'], rfl, by decide, rfl⟩
  exact ⟨⟨hfour, hseven, by decide, hinline, hdecimal⟩,
    read_inline_eq_decimal hfour hseven (by decide) hinline hdecimal, by decide +kernel⟩

end PartSearch.ScalarFormat
