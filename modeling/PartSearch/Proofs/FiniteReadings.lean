import PartSearch.Attribute.Format

/-!
# Readings are finite

A text may spell a number beyond the range of floats, a scale may carry one out of it, and a
fraction may have no denominator. Each reader looks at every number that it takes from a text and at
every number that it computes, so none of them gives an infinite one: `readings_finite`.
-/

namespace PartSearch

open Text (Pattern)
open Number (ofText? finite? whole)

variable {ν : Type} [Number ν]

/-- If a number is given, it is finite. -/
def Guarded (x? : Option ν) : Prop := x?.all Number.isFinite = true

/-- Numbers of which zero is a finite one. -/
class FiniteZero (ν : Type) [Number ν] : Prop where
  isFinite_zero : Number.isFinite (whole 0 : ν) = true

instance instFiniteZeroFloat : FiniteZero Float where
  isFinite_zero := by decide +kernel

namespace Guarded

theorem none : Guarded (none : Option ν) := rfl

theorem zero [FiniteZero ν] : Guarded (some (whole 0) : Option ν) := FiniteZero.isFinite_zero

theorem finite? (x : ν) : Guarded (finite? x) := by
  unfold Guarded Number.finite?
  split
  · assumption
  · rfl

theorem bind {α : Type} {f : α → Option ν} (h : ∀ a, Guarded (f a)) (a? : Option α) :
    Guarded (a?.bind f) := by
  cases a? with
  | none => exact Guarded.none
  | some a => exact h a

theorem orElse {x? y? : Option ν} (hx : Guarded x?) (hy : Guarded y?) : Guarded (x? <|> y?) := by
  cases x? with
  | none => exact hy
  | some x => exact hx

end Guarded

/-! ### Single quantities -/

namespace ScalarFormat

/-- A number put to scale, whatever the scale. -/
theorem guarded_scaled (scale : ν → ν) (cs : List Char) :
    Guarded ((ofText? cs).bind fun x => finite? (scale x)) :=
  .bind (fun x => .finite? (scale x)) _

theorem guarded_readFirst? (entries : List (Pattern × (ν → ν))) (cs : List Char) :
    Guarded (readFirst? entries cs) := by
  induction entries with
  | nil => exact .none
  | cons entry entries ih =>
      rw [readFirst?]
      split
      · exact guarded_scaled entry.2 _
      · exact ih

theorem guarded_readPower? (cs : List Char) : Guarded (readPower? cs : Option ν) := by
  unfold readPower?
  split
  · apply Guarded.bind
    intro numerator
    apply Guarded.bind
    intro denominator
    split
    · exact .none
    · exact .finite? (numerator / denominator)
  · exact guarded_readFirst? _ cs

theorem guarded_readPrefixed? (unit : Pattern) (scale : Char → Option ν) (cs : List Char) :
    Guarded (readPrefixed? unit scale cs) :=
  .bind (fun _ => guarded_scaled _ _) _

theorem guarded_readPicofarads? (cs : List Char) : Guarded (readPicofarads? cs : Option ν) := by
  apply Guarded.bind
  intro m
  apply Guarded.bind
  exact fun x => .finite? _

theorem guarded_readMemory? (cs : List Char) : Guarded (readMemory? cs : Option ν) := by
  unfold readMemory?
  dsimp only
  split
  · exact guarded_scaled _ _
  · exact .bind (fun _ => guarded_scaled _ _) _

section Resistance

variable [FiniteZero ν]

theorem guarded_readBareResistance? (cs : List Char) :
    Guarded (readBareResistance? cs : Option ν) := by
  unfold readBareResistance?
  split
  · exact guarded_scaled _ _
  · split
    · exact .zero
    · exact .bind (fun _ => guarded_scaled _ _) _

theorem guarded_readMilliohms? (cs : List Char) : Guarded (readMilliohms? cs : Option ν) := by
  unfold readMilliohms?
  split
  · exact .zero
  · exact guarded_readFirst? _ cs

theorem guarded_readResistance? (cs : List Char) : Guarded (readResistance? cs : Option ν) := by
  unfold readResistance?
  dsimp only
  split
  · exact .none
  · split
    · exact guarded_readMilliohms? _
    · exact guarded_readBareResistance? _

theorem guarded_read? (format : ScalarFormat) (text : String) :
    Guarded (format.read? text : Option ν) := by
  cases format with
  | power => exact guarded_readPower? _
  | resistance => exact guarded_readResistance? _
  | capacitance | inductance | frequency => exact guarded_readPrefixed? _ _ _
  | picofarads => exact guarded_readPicofarads? _
  | memory => exact guarded_readMemory? _
  | voltage | forwardVoltage | current | percentage | ppm | decibels | temperature | wavelength
  | luminosity | millimetres | integer => exact guarded_readFirst? _ _

end Resistance

end ScalarFormat

/-! ### Ranges and ratings -/

/-- Each bound that a range has is finite. -/
structure Interval.Guarded (r : Interval ν) : Prop where
  min : PartSearch.Guarded r.min
  max : PartSearch.Guarded r.max

theorem Interval.guarded_ofPoint? {x? : Option ν} (h : PartSearch.Guarded x?) :
    (Interval.ofPoint? x?).Guarded := by
  cases x? with
  | none => exact ⟨.none, .none⟩
  | some x => exact ⟨h, h⟩

namespace IntervalFormat

theorem guarded_readSide? (format : IntervalFormat) (cs : List Char) :
    Guarded (format.readSide? cs : Option ν) := by
  cases format with
  | temperature => exact ScalarFormat.guarded_readFirst? _ cs
  | gateThreshold | inputVoltage =>
      exact .orElse (ScalarFormat.guarded_readFirst? _ cs) (ScalarFormat.guarded_readFirst? _ cs)
  | frequency => exact ScalarFormat.guarded_readPrefixed? _ _ cs

theorem guarded_read (format : IntervalFormat) (text : String) :
    (format.read text : Interval ν).Guarded := by
  unfold IntervalFormat.read
  dsimp only
  split
  · exact ⟨guarded_readSide? format _, guarded_readSide? format _⟩
  · split
    · exact Interval.guarded_ofPoint? (guarded_readSide? format _)
    · exact ⟨.none, .none⟩

end IntervalFormat

/-- Both numbers of a rating are finite. -/
structure Impedance.Guarded (rating : Impedance ν) : Prop where
  ohms : Number.isFinite rating.ohms = true
  hertz : Number.isFinite rating.hertz = true

theorem Impedance.guarded_of_read? {text : String} {rating : Impedance ν}
    (h : Impedance.read? text = some rating) : rating.Guarded := by
  obtain ⟨m, -, h⟩ := Option.bind_eq_some_iff.mp h
  obtain ⟨ohms, -, h⟩ := Option.bind_eq_some_iff.mp h
  obtain ⟨hertz, -, h⟩ := Option.bind_eq_some_iff.mp h
  obtain ⟨scaled, hscaled, h⟩ := Option.bind_eq_some_iff.mp h
  obtain ⟨scaledHertz, hscaledHertz, h⟩ := Option.bind_eq_some_iff.mp h
  obtain rfl := Option.some.inj h
  exact ⟨Number.isFinite_of_finite? hscaled, Number.isFinite_of_finite? hscaledHertz⟩

/-- No text of any length makes a reader give an infinite float or one that is no number: neither as
a quantity, nor as a bound of a range, nor as one of the two numbers of an impedance rating. -/
theorem readings_finite (text : String) :
    (∀ format : ScalarFormat, (format.read? text).all Float.isFinite = true) ∧
    (∀ format : IntervalFormat, (format.read text).min.all Float.isFinite = true ∧
      (format.read text).max.all Float.isFinite = true) ∧
    (Impedance.read? text).all (fun rating : Impedance Float =>
      rating.ohms.isFinite && rating.hertz.isFinite) = true := by
  refine ⟨fun format => ScalarFormat.guarded_read? format text, fun format => ?_, ?_⟩
  · have hread : (format.read text : Interval Float).Guarded := format.guarded_read text
    exact ⟨hread.min, hread.max⟩
  · cases hread : (Impedance.read? text : Option (Impedance Float)) with
    | none => rfl
    | some rating =>
        have hrating := Impedance.guarded_of_read? hread
        rw [Option.all_some, Bool.and_eq_true]
        exact ⟨hrating.ohms, hrating.hertz⟩

end PartSearch
