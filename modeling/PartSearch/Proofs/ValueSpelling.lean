import PartSearch.Proofs.UnitReading
import PartSearch.Proofs.ValueSpans

/-!
# Values read back

A value that is found in a query is written down in one spelling, and a filter reads that spelling
with the reader of its quantity. Over exact numbers the reader gets the value that was found:
`normalized_reads_back`.
-/

namespace PartSearch

/-- The format of the values of a quantity. -/
def Quantity.format? : Quantity → Option ScalarFormat
  | resistance => some .resistance
  | capacitance => some .capacitance
  | inductance => some .inductance
  | voltage => some .voltage
  | current => some .current
  | frequency => some .frequency
  | tolerance => some .percentage
  | power => some .power
  | pitch => some .millimetres
  | pinCount | positionCount => some .integer
  | pinStructure | dimensions | impedance => none

namespace SpecValue

open Text (Pattern Found)
open Text.Pattern
open Number (ofText? tenTo whole)
open ScalarFormat

/-- The reader of the quantity gets the value back. -/
def ReadsBack (v : SpecValue Rat) : Prop :=
  ∀ format ∈ v.quantity.format?, format.read? v.normalized = some v.value

variable {cs : List Char} {m : Found} {v : SpecValue Rat}

theorem readsBack_scaled {q : Quantity} {format : ScalarFormat} (hq : q.format? = some format)
    {p : Pattern} (hm : p.Finds cs m) (halways : 1 ∈ p.always)
    (hp : p.captured.filter (·.1 == 1) = [(1, decimal)]) {rule : Found → (Rat → Rat) × String}
    (hread : ∀ {n x}, IsNumber n → ofText? n = some x →
      format.read? (String.ofList (n ++ (rule m).2.toList)) = some ((rule m).1 x))
    (h : scaled q rule m = some v) : ReadsBack v := by
  obtain ⟨x, hx, rfl⟩ := scaled_eq_some h
  intro other hother
  obtain rfl := Option.some.inj (hq.symm.trans hother)
  exact hread (isNumber_of_reads (hm.reads_capture halways hp) hx) hx

theorem readsBack_tolerance (hm : (toleranceScanner : Scanner Rat).pattern.Finds cs m)
    (h : toleranceScanner.read m = some v) : ReadsBack v := by
  simp only [toleranceScanner] at h
  refine readsBack_scaled rfl hm (by decide) rfl (fun hn hx => ?_) h
  rw [ScalarFormat.read?, String.toList_ofList]
  exact readPercentage?_percent hn hx

theorem readsBack_voltage (hm : (voltageScanner : Scanner Rat).pattern.Finds cs m)
    (h : voltageScanner.read m = some v) : ReadsBack v := by
  simp only [voltageScanner] at h
  refine readsBack_scaled rfl hm (by decide) rfl (fun hn hx => ?_) h
  rw [ScalarFormat.read?, String.toList_ofList]
  split
  · exact readVoltage?_volt hn hx
  · exact readVoltage?_kilovolt hn hx

theorem readsBack_current (hm : (currentScanner : Scanner Rat).pattern.Finds cs m)
    (h : currentScanner.read m = some v) : ReadsBack v := by
  simp only [currentScanner] at h
  refine readsBack_scaled rfl hm (by decide) rfl (fun {n x} hn hx => ?_) h
  rw [ScalarFormat.read?, String.toList_ofList]
  split
  · exact readCurrent?_milliampere hn hx
  · exact readCurrent?_milliampere hn hx
  · exact readCurrent?_ampere hn hx
  · exact readCurrent?_microampere hn hx

theorem readsBack_power (hm : (powerScanner : Scanner Rat).pattern.Finds cs m)
    (h : powerScanner.read m = some v) : ReadsBack v := by
  simp only [powerScanner] at h
  refine readsBack_scaled rfl hm (by decide) rfl (fun hn hx => ?_) h
  rw [ScalarFormat.read?, String.toList_ofList]
  split
  · exact readPower?_watt hn hx
  · exact readPower?_milliwatt hn hx

theorem readsBack_capacitance (hm : (capacitanceScanner : Scanner Rat).pattern.Finds cs m)
    (h : capacitanceScanner.read m = some v) : ReadsBack v := by
  simp only [capacitanceScanner] at h
  refine readsBack_scaled rfl hm (by decide) rfl (fun hn hx => ?_) h
  rw [ScalarFormat.read?, String.toList_ofList]
  split
  · exact readPrefixed?_unit hn hx rfl rfl (some 'n') rfl (fun _ => rfl) _
  · exact readPrefixed?_unit hn hx rfl rfl (some 'p') rfl (fun _ => rfl) _
  · exact readPrefixed?_unit hn hx rfl rfl (some 'u') rfl (fun _ => rfl) _

theorem readsBack_inductance (hm : (inductanceScanner : Scanner Rat).pattern.Finds cs m)
    (h : inductanceScanner.read m = some v) : ReadsBack v := by
  simp only [inductanceScanner] at h
  refine readsBack_scaled rfl hm (by decide) rfl (fun hn hx => ?_) h
  rw [ScalarFormat.read?, String.toList_ofList]
  split
  · exact readPrefixed?_unit hn hx rfl rfl (some 'n') rfl (fun _ => rfl) _
  · exact readPrefixed?_unit hn hx rfl rfl (some 'm') rfl (fun _ => rfl) _
  · exact readPrefixed?_unit hn hx rfl rfl (some 'u') rfl (fun _ => rfl) _

theorem readsBack_frequency (hm : (frequencyScanner : Scanner Rat).pattern.Finds cs m)
    (h : frequencyScanner.read m = some v) : ReadsBack v := by
  simp only [frequencyScanner] at h
  refine readsBack_scaled rfl hm (by decide) rfl (fun {n x} hn hx => ?_) h
  rw [ScalarFormat.read?, String.toList_ofList]
  split
  · exact readPrefixed?_unit hn hx rfl rfl (some 'k') rfl (fun _ => rfl) _
  · exact readPrefixed?_unit hn hx rfl rfl (some 'M') rfl (fun _ => rfl) _
  · exact readPrefixed?_unit hn hx rfl rfl (some 'G') rfl (fun _ => rfl) _
  · have hhertz : readFrequency? (n ++ "Hz".toList) = some (x * whole 1) :=
      readPrefixed?_unit hn hx rfl rfl none rfl (fun _ => rfl) _
    exact hhertz.trans (congrArg some (mul_tenTo_zero x))

theorem readsBack_resistance (hm : (resistanceScanner : Scanner Rat).pattern.Finds cs m)
    (h : resistanceScanner.read m = some v) : ReadsBack v := by
  simp only [resistanceScanner] at h
  refine readsBack_scaled rfl hm (by decide) rfl (fun hn hx => ?_) h
  rw [ScalarFormat.read?, String.toList_ofList]
  split
  · exact readResistance?_kiloohm hn hx
  · exact readResistance?_kiloohm hn hx
  · exact readResistance?_milliohm hn hx
  · exact readResistance?_megaohm hn hx
  · exact readResistance?_megaohm hn hx
  · exact readResistance?_ohm hn hx

/-! ### Other spellings -/

theorem isDigits_capture {p : Pattern} (hm : p.Finds cs m) {number : Nat}
    (halways : number ∈ p.always)
    (hp : p.captured.filter (·.1 == number) = [(number, digits)]) {x : Rat}
    (hx : ofText? (m.capture number) = some x) : IsDigits (m.capture number) := by
  have hreads := hm.reads_capture halways hp
  obtain ⟨hne, hdigits⟩ := forall_of_reads_digits hreads
  have hnumber := isNumber_of_forall hne (fun c hc => Or.inl (hdigits c hc)) hx
  exact isDigits_of_reads hreads hnumber.subset

theorem readsBack_inlineResistance
    (hm : (inlineResistanceScanner : Scanner Rat).pattern.Finds cs m)
    (h : inlineResistanceScanner.read m = some v) : ReadsBack v := by
  obtain ⟨x, hx, scale, letter, hrule, rfl⟩ := inlineResistance_eq_some h
  have hwhole : digits.Reads (m.capture 1) := hm.reads_capture (by decide) rfl
  have hfraction : digits.Reads (m.capture 3) := hm.reads_capture (by decide) rfl
  have hsubset : m.capture 1 ++ '.' :: m.capture 3 ⊆ '.' :: figures := by
    refine (isNumber_of_forall (by simp) (fun c hc => ?_) hx).subset
    rcases List.mem_append.mp hc with hc | hc
    · exact Or.inl ((forall_of_reads_digits hwhole).2 c hc)
    · rcases List.mem_cons.mp hc with rfl | hc
      · exact Or.inr rfl
      · exact Or.inl ((forall_of_reads_digits hfraction).2 c hc)
  obtain ⟨hleft, hright⟩ := List.append_subset.mp hsubset
  have hn := isDigits_of_reads hwhole hleft
  have hf := isDigits_of_reads hfraction (List.subset_of_cons_subset hright)
  rintro _ ⟨⟩
  rw [make, ScalarFormat.read?, String.toList_ofList]
  split at hrule <;> obtain ⟨rfl, rfl⟩ := Prod.mk.inj hrule
  · exact readResistance?_inline hn hf hx rfl
  · exact readResistance?_inline hn hf hx rfl
  · have hplain := readResistance?_inline hn hf hx (show "kMR".toList.contains 'R' = true from rfl)
    exact hplain.trans (congrArg some (mul_tenTo_zero _))

theorem readsBack_powerFraction (hm : (powerFractionScanner : Scanner Rat).pattern.Finds cs m)
    (h : powerFractionScanner.read m = some v) : ReadsBack v := by
  obtain ⟨x, y, hx, hy, hzero, rfl⟩ := powerFraction_eq_some h
  rintro _ ⟨⟩
  rw [make, ScalarFormat.read?, String.toList_ofList]
  exact readPower?_fraction (isDigits_capture hm (by decide) rfl hx) hx
    (isDigits_capture hm (by decide) rfl hy) hy hzero

theorem readsBack_counted {q : Quantity} (hq : q.format? = some .integer) {p : Pattern}
    (hm : p.Finds cs m) (halways : 1 ∈ p.always)
    (hp : p.captured.filter (·.1 == 1) = [(1, digits)])
    (h : counted q m = some v) : ReadsBack v := by
  obtain ⟨x, hx, rfl⟩ := counted_eq_some h
  intro format hformat
  obtain rfl := Option.some.inj (hq.symm.trans hformat)
  have hdigits := isDigits_capture hm halways hp hx
  obtain rfl := Option.some.inj ((ofText?_of_isDigits hdigits).symm.trans hx)
  rw [make, ScalarFormat.read?, String.toList_ofList, plain_natCast]
  exact readInteger?_count (isDigits_natDigits _) (ofText?_natDigits _)

theorem readsBack_pitch (hm : (pitchScanner : Scanner Rat).pattern.Finds cs m)
    (h : pitchScanner.read m = some v) : ReadsBack v := by
  obtain ⟨x, hx, rfl⟩ := pitch_eq_some h
  rintro _ ⟨⟩
  rw [make, ScalarFormat.read?, String.toList_ofList]
  exact readMillimetres?_millimetre (isNumber_of_reads (hm.reads_capture (by decide) rfl) hx) hx

/-! ### All values of a text -/

theorem readsBack_of_read {scanner : Scanner Rat} (hscanner : scanner ∈ scanners)
    (hm : scanner.pattern.Finds cs m) (h : scanner.read m = some v) : ReadsBack v := by
  simp only [scanners, List.mem_cons, List.not_mem_nil, or_false] at hscanner
  rcases hscanner with rfl | rfl | rfl | rfl | rfl | rfl | rfl | rfl | rfl | rfl | rfl | rfl | rfl |
    rfl | rfl
  · exact readsBack_tolerance hm h
  · exact readsBack_frequency hm h
  · exact readsBack_inlineResistance hm h
  · exact readsBack_resistance hm h
  · exact readsBack_capacitance hm h
  · exact readsBack_inductance hm h
  · exact readsBack_voltage hm h
  · exact readsBack_current hm h
  · exact readsBack_powerFraction hm h
  · exact readsBack_power hm h
  · exact readsBack_counted rfl hm (by decide) rfl h
  · exact readsBack_counted rfl hm (by decide) rfl h
  · obtain ⟨rows, -, h⟩ := Option.bind_eq_some_iff.mp h
    obtain ⟨perRow, -, h⟩ := Option.bind_eq_some_iff.mp h
    obtain rfl := Option.some.inj h
    rintro _ ⟨⟩
  · exact readsBack_pitch hm h
  · obtain ⟨width, -, h⟩ := Option.bind_eq_some_iff.mp h
    obtain ⟨height, -, h⟩ := Option.bind_eq_some_iff.mp h
    obtain rfl := Option.some.inj h
    rintro _ ⟨⟩

/-- The reader of a quantity gets the value that was found from the spelling that filters use. -/
theorem normalized_reads_back {text : String} (hv : v ∈ (extract Rat text).1)
    {format : ScalarFormat} (hformat : v.quantity.format? = some format) :
    format.read? v.normalized = some v.value := by
  obtain ⟨c, hc, rfl⟩ := List.mem_map.mp hv
  obtain ⟨scanner, hscanner, m, hm, hread, -⟩ := isRead_of_mem_select hc
  exact readsBack_of_read hscanner (Pattern.finds_of_mem_findAll hm).1 hread format hformat

theorem normalized_reads_back_fourKiloSeven :
    ∃ v ∈ (extract Rat "4k7").1, v.quantity.format? = some .resistance ∧ v.value = 4700 ∧
      ScalarFormat.resistance.read? v.normalized = some v.value := by
  have hfound : (candidates Rat "4k7".toList).map (fun c => (c.value.quantity, c.value.value)) =
      [(.resistance, 4700)] := by decide +kernel
  obtain ⟨c, hcandidates, hc⟩ := List.map_eq_singleton_iff.mp hfound
  obtain ⟨hquantity, hvalue⟩ := Prod.mk.inj hc
  have hv : c.value ∈ (extract Rat "4k7").1 := by
    have hselect : Candidate.select [c] = [c] := by
      rw [Candidate.select, List.mergeSort_singleton, Candidate.keepFrom, if_pos (Nat.zero_le _),
        Candidate.keepFrom]
    rw [extract, hcandidates, hselect]
    exact List.mem_singleton_self _
  have hformat : c.value.quantity.format? = some .resistance := by rw [hquantity]; rfl
  exact ⟨c.value, hv, hformat, hvalue, normalized_reads_back hv hformat⟩

end SpecValue

end PartSearch
