import Mathlib.Algebra.Order.Field.Basic
import Mathlib.Algebra.Order.Ring.Rat
import Mathlib.Data.Option.Basic
import PartSearch.Attribute.Format
import PartSearch.Proofs.NumberText

/-!
# Readings without a sign

All readers but the one for temperatures look for figures and points only, so a sign in front of a
number is passed over and no reading is negative: `readScalar?_nonneg`.
-/

namespace PartSearch

open Text (Pattern)
open Text.Pattern
open Number (ofText? finite? tenTo whole)

/-! ### Numbers without a sign -/

theorem Decimal.toRat_nonneg {d : Decimal} (h : d.negative = false) : 0 ≤ d.toRat := by
  unfold toRat
  rw [h, if_neg Bool.false_ne_true]
  split
  · exact Nat.cast_nonneg _
  · exact div_nonneg (Nat.cast_nonneg _) (Nat.cast_nonneg _)

theorem Decimal.negative_of_ofText? {cs : List Char} {d : Decimal} (h : ofText? cs = some d)
    (hsign : '-' ∉ cs) : d.negative = false := by
  simp only [ofText?] at h
  split at h
  · exact absurd List.mem_cons_self hsign
  all_goals
    split at h
    · cases h
    · obtain ⟨mantissa, -, rfl⟩ := Option.map_eq_some_iff.mp h
      rfl

namespace Number

variable {cs : List Char} {x : Rat}

theorem ofText?_nonneg (hsign : '-' ∉ cs) (h : ofText? cs = some x) : 0 ≤ x := by
  obtain ⟨d, hd, hx⟩ := Option.bind_eq_some_iff.mp h
  obtain rfl : d.toRat = x := Option.some.inj hx
  exact Decimal.toRat_nonneg (Decimal.negative_of_ofText? hd hsign)

theorem tenTo_nonneg (k : Int) : (0 : Rat) ≤ tenTo k :=
  Decimal.toRat_nonneg (d := Decimal.tenTo k) rfl

theorem whole_nonneg (n : Nat) : (0 : Rat) ≤ whole n :=
  Decimal.toRat_nonneg (d := Decimal.ofNat n) rfl

/-- The scale that a number is put to makes nothing negative. -/
def Keeps (scale : Rat → Rat) : Prop := ∀ x, 0 ≤ x → 0 ≤ scale x

theorem keeps_id : Keeps id := fun _ hx => hx

theorem keeps_mul {factor : Rat} (h : 0 ≤ factor) : Keeps (· * factor) := fun _ hx =>
  mul_nonneg hx h

theorem keeps_div {divisor : Rat} (h : 0 ≤ divisor) : Keeps (· / divisor) := fun _ hx =>
  div_nonneg hx h

theorem Keeps.nonneg {scale : Rat → Rat} (hscale : Keeps scale) (hsign : '-' ∉ cs)
    (h : ((ofText? cs).bind fun y => finite? (scale y)) = some x) : 0 ≤ x := by
  obtain ⟨y, hy, hx⟩ := Option.bind_eq_some_iff.mp h
  obtain rfl : scale y = x := Option.some.inj hx
  exact hscale y (ofText?_nonneg hsign hy)

end Number

open Number (Keeps keeps_id keeps_mul keeps_div tenTo_nonneg whole_nonneg)

/-! ### Patterns that note no sign -/

namespace Text.Pattern

/-- Whatever the pattern notes under a number has no minus sign. -/
def Unsigned (p : Pattern) (number : Nat) : Prop :=
  ∀ cs m, p.find? cs = some m → '-' ∉ m.capture number

variable {p : Pattern} {number : Nat}

theorem unsigned_numeral {read : List Char} (h : numeral.Reads read) : '-' ∉ read := by
  intro hmem
  obtain ⟨a, b, ha, hb, rfl⟩ := reads_append_iff.mp h
  obtain ⟨c, hc, rfl⟩ := reads_one_iff.mp ha
  rcases List.mem_cons.mp hmem with rfl | hmem
  · exact absurd hc (by decide)
  · exact absurd (forall_of_reads_many_one hb '-' hmem) (by decide)

theorem unsigned_digits {read : List Char} (h : digits.Reads read) : '-' ∉ read := fun hmem =>
  absurd ((forall_of_reads_digits h).2 '-' hmem) (by decide)

theorem unsigned_of_numeral (halways : number ∈ p.always)
    (hone : p.captured.filter (·.1 == number) = [(number, numeral)]) : p.Unsigned number :=
  fun _ _ hm => unsigned_numeral ((finds_of_find? hm).reads_capture halways hone)

theorem unsigned_of_digits (halways : number ∈ p.always)
    (hone : p.captured.filter (·.1 == number) = [(number, digits)]) : p.Unsigned number :=
  fun _ _ hm => unsigned_digits ((finds_of_find? hm).reads_capture halways hone)

end Text.Pattern

/-! ### Single quantities -/

namespace ScalarFormat

variable {cs : List Char} {x : Rat}

theorem unsigned_before {unit : Pattern} (h : unit.captured = []) : (before unit).Unsigned 1 := by
  refine unsigned_of_numeral (List.mem_append_left _ (List.mem_append_left _ (by decide))) ?_
  change ([(1, numeral)] ++ [] ++ unit.captured).filter (fun c : Nat × Pattern => c.1 == 1) = _
  rw [h]
  rfl

theorem readFirst?_nonneg {entries : List (Pattern × (Rat → Rat))}
    (h : ∀ entry ∈ entries, entry.1.Unsigned 1 ∧ Keeps entry.2)
    (hread : readFirst? entries cs = some x) : 0 ≤ x := by
  induction entries with
  | nil => cases hread
  | cons entry entries ih =>
      obtain ⟨hentry, hentries⟩ := List.forall_mem_cons.mp h
      rw [readFirst?] at hread
      split at hread
      · rename_i m hm
        exact hentry.2.nonneg (hentry.1 cs m hm) hread
      · exact ih hentries hread

theorem readVoltage?_nonneg (h : readVoltage? cs = some x) : 0 ≤ x := by
  refine readFirst?_nonneg ?_ h
  simp only [List.forall_mem_cons]
  exact ⟨⟨unsigned_before rfl, keeps_mul (tenTo_nonneg 3)⟩,
    ⟨unsigned_before rfl, keeps_div (tenTo_nonneg 3)⟩, ⟨unsigned_before rfl, keeps_id⟩, by simp⟩

theorem readCurrent?_nonneg (h : readCurrent? cs = some x) : 0 ≤ x := by
  refine readFirst?_nonneg ?_ h
  simp only [List.forall_mem_cons]
  exact ⟨⟨unsigned_before rfl, keeps_div (tenTo_nonneg 6)⟩,
    ⟨unsigned_before rfl, keeps_div (tenTo_nonneg 9)⟩,
    ⟨unsigned_before rfl, keeps_div (tenTo_nonneg 3)⟩, ⟨unsigned_before rfl, keeps_id⟩, by simp⟩

theorem readPower?_nonneg (h : readPower? cs = some x) : 0 ≤ x := by
  unfold readPower? at h
  split at h
  · rename_i m hm
    obtain ⟨numerator, hnumerator, h⟩ := Option.bind_eq_some_iff.mp h
    obtain ⟨denominator, hdenominator, h⟩ := Option.bind_eq_some_iff.mp h
    split at h
    · cases h
    · obtain rfl : numerator / denominator = x := Option.some.inj h
      have hunsigned (number : Nat) (halways : number ∈ wattFraction.always)
          (hone : wattFraction.captured.filter (·.1 == number) = [(number, digits)]) :
          '-' ∉ m.capture number := unsigned_of_digits halways hone cs m hm
      exact div_nonneg (Number.ofText?_nonneg (hunsigned 1 (by decide) rfl) hnumerator)
        (Number.ofText?_nonneg (hunsigned 2 (by decide) rfl) hdenominator)
  · refine readFirst?_nonneg ?_ h
    simp only [List.forall_mem_cons]
    exact ⟨⟨unsigned_before rfl, keeps_div (tenTo_nonneg 3)⟩,
      ⟨unsigned_before rfl, keeps_mul (tenTo_nonneg 3)⟩, ⟨unsigned_before rfl, keeps_id⟩, by simp⟩

theorem keeps_resistanceScale (letter : Option Char) : Keeps (resistanceScale letter) := by
  intro y hy
  unfold resistanceScale
  split <;> exact mul_nonneg hy (tenTo_nonneg _)

theorem readBareResistance?_nonneg (h : readBareResistance? cs = some x) : 0 ≤ x := by
  unfold readBareResistance? at h
  split at h
  · rename_i m hm
    refine (keeps_resistanceScale _).nonneg ?_ h
    have hwhole : '-' ∉ m.capture 1 := unsigned_of_digits (by decide) rfl cs m hm
    have hfraction : '-' ∉ m.capture 3 := unsigned_of_digits (by decide) rfl cs m hm
    simp [hwhole, hfraction]
  · split at h
    · obtain rfl : whole 0 = x := Option.some.inj h
      exact whole_nonneg 0
    · obtain ⟨m, hm, h⟩ := Option.bind_eq_some_iff.mp h
      exact (keeps_resistanceScale _).nonneg (unsigned_of_numeral (by decide) rfl cs m hm) h

theorem readMilliohms?_nonneg (h : readMilliohms? cs = some x) : 0 ≤ x := by
  unfold readMilliohms? at h
  split at h
  · obtain rfl : whole 0 = x := Option.some.inj h
    exact whole_nonneg 0
  · refine readFirst?_nonneg ?_ h
    simp only [List.forall_mem_singleton]
    exact ⟨unsigned_of_numeral (by decide) rfl, keeps_div (tenTo_nonneg 3)⟩

theorem readResistance?_nonneg (h : readResistance? cs = some x) : 0 ≤ x := by
  unfold readResistance? at h
  dsimp only at h
  split at h
  · cases h
  split at h
  · exact readMilliohms?_nonneg h
  · exact readBareResistance?_nonneg h

theorem smallPrefix_nonneg {c : Char} (h : smallPrefix c = some x) : 0 ≤ x := by
  unfold smallPrefix at h
  split at h <;> first | exact Option.some.inj h ▸ tenTo_nonneg _ | cases h

theorem largePrefix_nonneg {c : Char} (h : largePrefix c = some x) : 0 ≤ x := by
  unfold largePrefix at h
  split at h <;> first | exact Option.some.inj h ▸ tenTo_nonneg _ | cases h

theorem readPrefixed?_nonneg {unit : Pattern} {scale : Char → Option Rat}
    (hscale : ∀ c y, scale c = some y → 0 ≤ y) (h : readPrefixed? unit scale cs = some x) :
    0 ≤ x := by
  obtain ⟨m, hm, h⟩ := Option.bind_eq_some_iff.mp h
  have hfactor : 0 ≤ ((letterOf m 2).bind scale).getD (whole 1) := by
    cases hletter : (letterOf m 2).bind scale with
    | none => exact whole_nonneg 1
    | some y =>
        obtain ⟨c, -, hy⟩ := Option.bind_eq_some_iff.mp hletter
        exact hscale c y hy
  exact (keeps_mul hfactor).nonneg (unsigned_of_numeral (by decide) rfl _ m hm) h

theorem readPicofarads?_nonneg (h : readPicofarads? cs = some x) : 0 ≤ x := by
  obtain ⟨m, hm, h⟩ := Option.bind_eq_some_iff.mp h
  refine Keeps.nonneg ?_ (unsigned_of_numeral (by decide) rfl _ m hm) h
  intro y hy
  split <;> exact mul_nonneg hy (tenTo_nonneg _)

theorem memoryScale_nonneg (letter : Option Char) : (0 : Rat) ≤ memoryScale letter := by
  unfold memoryScale
  split <;> exact whole_nonneg _

theorem readMemory?_nonneg (h : readMemory? cs = some x) : 0 ≤ x := by
  unfold readMemory? at h
  dsimp only at h
  split at h
  · rename_i m hm
    refine Keeps.nonneg (fun y hy => ?_) (unsigned_of_numeral (by decide) rfl _ m hm) h
    exact div_nonneg (mul_nonneg hy (memoryScale_nonneg _)) (whole_nonneg 8)
  · obtain ⟨m, hm, h⟩ := Option.bind_eq_some_iff.mp h
    exact (keeps_mul (memoryScale_nonneg _)).nonneg (unsigned_of_numeral (by decide) rfl _ m hm) h

/-- A number that is kept as it stands. -/
theorem readFirst?_id_nonneg {p : Pattern} (hp : p.Unsigned 1)
    (h : readFirst? [(p, id)] cs = some x) : 0 ≤ x :=
  readFirst?_nonneg (List.forall_mem_singleton.mpr ⟨hp, keeps_id⟩) h

theorem read?_nonneg {format : ScalarFormat} (hformat : format ≠ .temperature) {text : String}
    (h : format.read? text = some x) : 0 ≤ x := by
  cases format with
  | voltage => exact readVoltage?_nonneg h
  | forwardVoltage => exact readVoltage?_nonneg h
  | current => exact readCurrent?_nonneg h
  | power => exact readPower?_nonneg h
  | resistance => exact readResistance?_nonneg h
  | capacitance => exact readPrefixed?_nonneg (fun _ _ => smallPrefix_nonneg) h
  | picofarads => exact readPicofarads?_nonneg h
  | inductance => exact readPrefixed?_nonneg (fun _ _ => smallPrefix_nonneg) h
  | frequency => exact readPrefixed?_nonneg (fun _ _ => largePrefix_nonneg) h
  | percentage => exact readFirst?_id_nonneg (unsigned_before rfl) h
  | ppm => exact readFirst?_id_nonneg (unsigned_before rfl) h
  | decibels => exact readFirst?_id_nonneg (unsigned_before rfl) h
  | temperature => exact absurd rfl hformat
  | memory => exact readMemory?_nonneg h
  | wavelength => exact readFirst?_id_nonneg (unsigned_before rfl) h
  | luminosity => exact readFirst?_id_nonneg (unsigned_before rfl) h
  | millimetres => exact readFirst?_id_nonneg (unsigned_of_numeral (by decide) rfl) h
  | integer => exact readFirst?_id_nonneg (unsigned_of_digits (by decide) rfl) h

end ScalarFormat

/-! ### Ranges and ratings -/

namespace IntervalFormat

variable {format : IntervalFormat} {x : Rat}

theorem readSide?_nonneg (hformat : format ≠ .temperature) {cs : List Char}
    (h : format.readSide? cs = some x) : 0 ≤ x := by
  have hbare (h : (readBareOrVoltage? cs : Option Rat) = some x) : 0 ≤ x := by
    rcases (Option.orElse_eq_some _ _ _).mp h with hvoltage | ⟨-, hnumber⟩
    · exact ScalarFormat.readVoltage?_nonneg hvoltage
    · exact ScalarFormat.readFirst?_id_nonneg (unsigned_of_numeral (by decide) rfl) hnumber
  cases format with
  | temperature => exact absurd rfl hformat
  | gateThreshold => exact hbare h
  | inputVoltage => exact hbare h
  | frequency =>
      exact ScalarFormat.readPrefixed?_nonneg (fun _ _ => ScalarFormat.largePrefix_nonneg) h

theorem representative_nonneg (hformat : format ≠ .temperature) {text : String}
    (h : (format.read text).representative = some x) : 0 ≤ x := by
  unfold IntervalFormat.read at h
  dsimp only at h
  split at h
  · rcases (Option.orElse_eq_some _ _ _).mp h with hmax | ⟨-, hmin⟩
    · exact readSide?_nonneg hformat hmax
    · exact readSide?_nonneg hformat hmin
  · split at h
    · cases hside : (format.readSide? text.toList : Option Rat) with
      | none =>
          rw [hside] at h
          cases h
      | some y =>
          rw [hside] at h
          obtain rfl : y = x := Option.some.inj h
          exact readSide?_nonneg hformat hside
    · cases h

end IntervalFormat

theorem Impedance.ohms_nonneg {text : String} {rating : Impedance Rat}
    (h : Impedance.read? text = some rating) : 0 ≤ rating.ohms := by
  obtain ⟨m, hm, h⟩ := Option.bind_eq_some_iff.mp h
  obtain ⟨ohms, hohms, h⟩ := Option.bind_eq_some_iff.mp h
  obtain ⟨hertz, -, h⟩ := Option.bind_eq_some_iff.mp h
  obtain ⟨scaled, hscaled, h⟩ := Option.bind_eq_some_iff.mp h
  obtain ⟨scaledHertz, -, h⟩ := Option.bind_eq_some_iff.mp h
  obtain rfl := Option.some.inj h
  obtain rfl : ohms * Impedance.ohmScale (ScalarFormat.letterOf m 2) = scaled :=
    Option.some.inj hscaled
  have hscale : (0 : Rat) ≤ Impedance.ohmScale (ScalarFormat.letterOf m 2) := by
    unfold Impedance.ohmScale
    split <;> exact tenTo_nonneg _
  exact mul_nonneg
    (Number.ofText?_nonneg (unsigned_of_numeral (by decide) rfl _ m hm) hohms) hscale

namespace AttributeFormat

/-- Only temperatures are read with their sign. -/
def readsSign : AttributeFormat → Bool
  | scalar format => format = .temperature
  | interval format => format = .temperature
  | impedance => false

/-- A value that is read as one number is not negative, unless it is a temperature. -/
theorem readScalar?_nonneg {format : AttributeFormat} (hformat : format.readsSign = false)
    {text : String} {x : Rat} (h : format.readScalar? text = some x) : 0 ≤ x := by
  cases format with
  | scalar format => exact ScalarFormat.read?_nonneg (by simpa [readsSign] using hformat) h
  | interval format =>
      exact IntervalFormat.representative_nonneg (by simpa [readsSign] using hformat) h
  | impedance =>
      rcases (Option.orElse_eq_some _ _ _).mp h with hrating | ⟨-, hresistance⟩
      · obtain ⟨rating, hread, rfl⟩ := Option.map_eq_some_iff.mp hrating
        exact Impedance.ohms_nonneg hread
      · exact ScalarFormat.readResistance?_nonneg hresistance

end AttributeFormat

end PartSearch
