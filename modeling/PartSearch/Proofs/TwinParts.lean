import Mathlib.Tactic.Linarith
import PartSearch.Proofs.AttributeNames
import PartSearch.Proofs.UnsignedReadings
import PartSearch.Proofs.VerdictConditions
import PartSearch.Replacement.CatalogRules

/-!
# Parts with the same attributes

A part with the same attributes as another one is a replacement for it under every rule of the
catalog, whatever the attributes say: `of_twin`. Equal attributes are compared with a tolerance or
as text, and either is reflexive. A rating is compared with a slack relative to the value, which
lets a value pass for itself only if it is not negative; the ratings of the catalog are all read
without a sign.
-/

namespace PartSearch

/-! ### Numbers compared with themselves -/

namespace Tolerance

/-- The tolerance leaves room around the number of the part that is replaced. -/
structure HasRoom (t : Tolerance Rat) : Prop where
  atZero : 0 ≤ t.zeroEpsilon
  relative : 0 < t.alternativeMatch

theorem hasRoom_standard : standard.HasRoom where
  atZero := by decide +kernel
  relative := by decide +kernel

variable {t : Tolerance Rat}

theorem alternativeMatches_self (h : t.HasRoom) (x : Rat) : t.alternativeMatches x x = true := by
  unfold alternativeMatches
  split
  · rename_i hzero
    obtain rfl : x = Number.whole 0 := eq_of_beq hzero
    have habs : Number.abs (Number.whole 0 : Rat) = 0 := by decide +kernel
    rw [decide_eq_true_iff, habs]
    exact h.atZero
  · have habs : Number.abs ((x - x) / x) = 0 := by
      rw [sub_self, zero_div]
      decide +kernel
    rw [decide_eq_true_iff, habs]
    exact h.relative

theorem sameOrBetter_self (h : t.HasRoom) {x : Rat} (hx : 0 ≤ x) (direction : Direction) :
    t.sameOrBetter direction x x = true := by
  have hone : (Number.whole 1 : Rat) = 1 := by decide +kernel
  have hslack : 0 ≤ x * t.alternativeMatch := mul_nonneg hx h.relative.le
  cases direction with
  | higher =>
      change decide (x * (Number.whole 1 - t.alternativeMatch) ≤ x) = true
      rw [decide_eq_true_iff, hone, mul_sub, mul_one]
      linarith
  | lower =>
      change decide (x ≤ x * (Number.whole 1 + t.alternativeMatch)) = true
      rw [decide_eq_true_iff, hone, mul_add, mul_one]
      linarith

end Tolerance

/-! ### Values compared with themselves -/

section Values

variable {t : Tolerance Rat}

theorem Impedance.isMatch_self (h : t.HasRoom) (text : String) : isMatch t text text = true := by
  unfold isMatch
  cases (read? text : Option (Impedance Rat)) with
  | none => exact beq_self_eq_true _
  | some rating =>
      change (t.alternativeMatches _ _ && t.alternativeMatches _ _) = true
      rw [t.alternativeMatches_self h, t.alternativeMatches_self h]
      rfl

namespace ValueMatch

theorem ofTexts_self (text : String) : ofTexts text text = same := if_pos (beq_self_eq_true _)

theorem ofReadings_self (h : t.HasRoom) (text : String) (reading : Option Rat) :
    ofReadings t text text reading reading = same := by
  cases reading with
  | none => exact ofTexts_self text
  | some x => exact if_pos (t.alternativeMatches_self h x)

theorem ofValues_self (h : t.HasRoom) (name text : String) : ofValues t name text text = same := by
  unfold ofValues
  split
  · exact if_pos (Impedance.isMatch_self h text)
  · split
    · exact ofTexts_self text
    · exact ofReadings_self h text _
  · exact ofTexts_self text

end ValueMatch

variable {original candidate : Part Rat} {name : String}

theorem not_differs_of_same (h : t.HasRoom) (hsame : candidate.value? name = original.value? name) :
    ¬ Differs t original candidate name := by
  rintro ⟨a, b, ha, hb, hdifferent⟩
  obtain rfl : a = b := Option.some.inj (ha.symm.trans (hsame.symm.trans hb))
  rw [ValueMatch.ofValues_self h] at hdifferent
  cases hdifferent

theorem not_worsens_of_same (h : t.HasRoom) (hsame : candidate.value? name = original.value? name)
    (hunsigned : ∀ format, AttributeFormat.ofAttribute? name = some format →
      format.readsSign = false) (direction : Direction) :
    ¬ Worsens t original candidate name direction := by
  rintro ⟨a, b, ha, hb, format, x, y, hformat, hx, hy, hworse⟩
  obtain rfl : a = b := Option.some.inj (ha.symm.trans (hsame.symm.trans hb))
  obtain rfl : x = y := Option.some.inj (hx.symm.trans hy)
  have hnonneg := AttributeFormat.readScalar?_nonneg (hunsigned format hformat) hx
  rw [t.sameOrBetter_self h hnonneg] at hworse
  cases hworse

/-- No rating of the rule is a temperature. -/
def ReplacementRule.RatesUnsigned (rule : ReplacementRule) : Prop :=
  ∀ rating ∈ rule.ratings, ∀ format, AttributeFormat.ofAttribute? rating.1 = some format →
    format.readsSign = false

theorem ReplacementRule.RatesUnsigned.admits {rule : ReplacementRule} (hrule : rule.RatesUnsigned)
    (h : t.HasRoom) (hsame : candidate.SameOn rule.attributes original) :
    rule.Admits t original candidate where
  primary := not_differs_of_same h (hsame _ List.mem_cons_self)
  equal name hname :=
    not_differs_of_same h (hsame name (List.mem_append_left _ (List.mem_cons_of_mem _ hname)))
  ratings rating hrating := not_worsens_of_same h
    (hsame rating.1 (List.mem_append_right _ (List.mem_map_of_mem hrating)))
    (hrule rating hrating) rating.2

end Values

/-! ### The rules of the catalog -/

namespace AttributeFormat

/-- The attributes whose values are read with their sign. -/
def signedNames : List String := ["Operating Temperature", "Operating Temperature Range"]

theorem mem_signedNames {name : String} {format : AttributeFormat}
    (h : ofAttribute? name = some format) (hsign : format.readsSign = true) :
    name ∈ signedNames := by
  have hintervals : ∀ entry ∈ intervals, (interval entry.2).readsSign = true →
      entry.1 ∈ signedNames := by decide +kernel
  have hscalars : ∀ entry ∈ scalars, (scalar entry.2).readsSign = false := by decide +kernel
  unfold ofAttribute? at h
  split at h
  · obtain rfl := Option.some.inj h
    cases hsign
  split at h
  · rename_i range hrange
    obtain rfl := Option.some.inj h
    exact hintervals _ (Attribute.mem_of_lookup hrange) hsign
  · obtain ⟨quantity, hquantity, rfl⟩ := Option.map_eq_some_iff.mp h
    rw [hscalars _ (Attribute.mem_of_lookup hquantity)] at hsign
    cases hsign

end AttributeFormat

namespace RuleBook

theorem exists_mem_of_mem_foldl {rules : List (String × ReplacementRule)} {book : RuleBook}
    {entry : String × ReplacementRule}
    (h : entry ∈ (rules.foldl (fun book given => book.insert given.1 given.2) book).entries) :
    entry ∈ book.entries ∨ ∃ given ∈ rules, given.2 = entry.2 := by
  induction rules generalizing book with
  | nil => exact Or.inl h
  | cons given rules ih =>
      rcases ih h with hinserted | ⟨other, hother, heq⟩
      · rcases List.mem_cons.mp hinserted with rfl | hold
        · exact Or.inr ⟨given, List.mem_cons_self, rfl⟩
        · exact Or.inl (List.mem_of_mem_filter hold)
      · exact Or.inr ⟨other, List.mem_cons_of_mem _ hother, heq⟩

theorem exists_mem_of_mem_ofList {rules : List (String × ReplacementRule)}
    {entry : String × ReplacementRule} (h : entry ∈ (ofList rules).entries) :
    ∃ given ∈ rules, given.2 = entry.2 :=
  (exists_mem_of_mem_foldl h).resolve_left List.not_mem_nil

theorem ratesUnsigned_of_mem_catalog {entry : String × ReplacementRule}
    (h : entry ∈ catalog.entries) : entry.2.RatesUnsigned := by
  have htable : ∀ given ∈ catalogRules, ∀ rating ∈ given.2.ratings,
      rating.1 ∉ AttributeFormat.signedNames := by decide +kernel
  obtain ⟨given, hgiven, heq⟩ := exists_mem_of_mem_ofList h
  rw [← heq]
  intro rating hrating format hformat
  rw [← Bool.not_eq_true]
  exact fun hsign => htable given hgiven rating hrating
    (AttributeFormat.mem_signedNames hformat hsign)

end RuleBook

/-- A part with the attributes of another one is compatible with it under every rule of the
catalog. -/
theorem Verdict.of_twin {entry : String × ReplacementRule}
    (hrule : entry ∈ RuleBook.catalog.entries) {original candidate : Part Rat}
    (hsame : candidate.attributes = original.attributes) :
    (of Tolerance.standard entry.2 original candidate).isCompatible = true := by
  rw [isCompatible_of_iff_admits]
  apply (RuleBook.ratesUnsigned_of_mem_catalog hrule).admits Tolerance.hasRoom_standard
  intro name _
  rw [Part.value?, hsame, Part.value?]

/-- A vibration motor whose voltage cannot be read and whose current is zero. -/
def oddMotor (id : String) : Part Rat where
  id := id
  model := ""
  manufacturer := ""
  package := ""
  description := ""
  stock := 0
  price := none
  tier := .extended
  subcategoryId := 0
  subcategory := some "Vibration Motors"
  category := none
  mounting := none
  attributes := [("Voltage Rating", "n/a"), ("Current Rating", "0A")]

theorem Verdict.of_twin_oddMotor :
    ∃ entry ∈ RuleBook.catalog.entries, entry.1 = "vibration motors" ∧
      (oddMotor "M2").attributes = (oddMotor "M1").attributes ∧
      (of Tolerance.standard entry.2 (oddMotor "M1") (oddMotor "M2")).isCompatible = true := by
  have hfound : (RuleBook.catalog.entries.find? (·.1 = "vibration motors")).isSome = true := by
    decide +kernel
  obtain ⟨entry, hentry⟩ := Option.isSome_iff_exists.mp hfound
  have hrule := List.mem_of_find?_eq_some hentry
  have hname : entry.1 = "vibration motors" := by simpa using List.find?_some hentry
  exact ⟨entry, hrule, hname, rfl, of_twin hrule rfl⟩

end PartSearch
