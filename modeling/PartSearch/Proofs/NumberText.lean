import Mathlib.Data.List.TakeWhile
import PartSearch.Number
import PartSearch.Proofs.PatternReading

/-!
# Texts that are numbers

The digit patterns accept digits of every script, but only a text of ASCII figures is a number.
A number that a pattern has read and `Number.ofText?` accepts consists of figures and points, and
the plain text of a whole number is a run of figures that reads as that number.
-/

namespace PartSearch

open Text (Pattern)
open Text.Pattern
open Number (ofText?)

def figures : List Char := "0123456789".toList

structure IsDigits (cs : List Char) : Prop where
  ne_nil : cs ≠ []
  subset : cs ⊆ figures

/-- A run of figures and points; not every one of them is a number. -/
structure IsNumber (cs : List Char) : Prop where
  ne_nil : cs ≠ []
  subset : cs ⊆ '.' :: figures

/-- What holds of ten figures, or fails for all of them, does so for a number. -/
theorem IsDigits.all {cs : List Char} (h : IsDigits cs) {p : Char → Bool}
    (hfigures : figures.all p = true) : cs.all p = true :=
  List.all_eq_true.mpr fun c hc => List.all_eq_true.mp hfigures c (h.subset hc)

theorem IsDigits.any_eq_false {cs : List Char} (h : IsDigits cs) {p : Char → Bool}
    (hfigures : figures.any p = false) : cs.any p = false :=
  List.any_eq_false.mpr fun c hc => List.any_eq_false.mp hfigures c (h.subset hc)

theorem IsNumber.all {cs : List Char} (h : IsNumber cs) {p : Char → Bool}
    (hfigures : ('.' :: figures).all p = true) : cs.all p = true :=
  List.all_eq_true.mpr fun c hc => List.all_eq_true.mp hfigures c (h.subset hc)

theorem IsNumber.any_eq_false {cs : List Char} (h : IsNumber cs) {p : Char → Bool}
    (hfigures : ('.' :: figures).any p = false) : cs.any p = false :=
  List.any_eq_false.mpr fun c hc => List.any_eq_false.mp hfigures c (h.subset hc)

theorem mem_figures_of_isDigit {c : Char} (h : c.isDigit = true) : c ∈ figures := by
  have hbounds : 48 ≤ c.toNat ∧ c.toNat < 58 := by
    simp only [Char.isDigit, Bool.and_eq_true, decide_eq_true_eq] at h
    have hlow := UInt32.le_iff_toNat_le.mp h.1
    have hhigh := UInt32.le_iff_toNat_le.mp h.2
    exact ⟨hlow, Nat.lt_succ_of_le hhigh⟩
  have htable : ∀ k < 10, Char.ofNat (48 + k) ∈ figures := by decide
  have hmem := htable (c.toNat - 48) (by omega)
  rwa [show 48 + (c.toNat - 48) = c.toNat by omega, Char.ofNat_toNat] at hmem

/-! ### Numbers that patterns have read -/

theorem isDigit_of_digitsValue? {cs : List Char} {value result : Nat}
    (h : Decimal.digitsValue? value cs = some result) : ∀ c ∈ cs, c.isDigit = true := by
  induction cs generalizing value with
  | nil => simp
  | cons c cs ih =>
      rw [Decimal.digitsValue?] at h
      split at h
      · rename_i hc
        exact List.forall_mem_cons.mpr ⟨hc, ih h⟩
      · cases h

theorem mem_of_unsigned {cs : List Char} {empty : Bool} {make : Nat → Decimal} {d : Decimal}
    (h : (if empty then none else (Decimal.digitsValue? 0 (cs.takeWhile (· != '.') ++
      (cs.dropWhile (· != '.')).drop 1)).map make) = some d) : ∀ c ∈ cs, c ∈ '.' :: figures := by
  split at h
  · cases h
  obtain ⟨value, hvalue, -⟩ := Option.map_eq_some_iff.mp h
  have hdigits := isDigit_of_digitsValue? hvalue
  have hfigure {c : Char} (hc : c.isDigit = true) : c ∈ '.' :: figures :=
    List.mem_cons_of_mem _ (mem_figures_of_isDigit hc)
  intro c hc
  rw [← @List.takeWhile_append_dropWhile _ (· != '.') cs, List.mem_append] at hc
  rcases hc with hwhole | hrest
  · exact hfigure (hdigits c (List.mem_append_left _ hwhole))
  · by_cases hpoint : c = '.'
    · exact hpoint ▸ List.mem_cons_self
    · have hne : cs.dropWhile (· != '.') ≠ [] := List.ne_nil_of_mem hrest
      have hhead := List.head_dropWhile_not (· != '.') hne
      rw [← List.cons_head_tail hne, List.mem_cons] at hrest
      rcases hrest with rfl | hfraction
      · simp [hpoint] at hhead
      · exact hfigure (hdigits c (List.mem_append_right _ (by rwa [List.drop_one])))

/-- Behind a sign there are only figures and points. -/
theorem mem_of_ofText? {ν : Type} [Number ν] {cs : List Char} {x : ν} (h : ofText? cs = some x) :
    ∀ c ∈ cs, c ∈ '-' :: '+' :: '.' :: figures := by
  obtain ⟨d, hd, -⟩ := Option.bind_eq_some_iff.mp h
  have hbehind {rest : List Char} (hrest : ∀ c ∈ rest, c ∈ '.' :: figures) :
      ∀ c ∈ rest, c ∈ '-' :: '+' :: '.' :: figures :=
    fun c hc => List.mem_cons_of_mem _ (List.mem_cons_of_mem _ (hrest c hc))
  simp only [Decimal.ofText?] at hd
  split at hd
  · exact List.forall_mem_cons.mpr ⟨by decide, hbehind (mem_of_unsigned hd)⟩
  · exact List.forall_mem_cons.mpr ⟨by decide, hbehind (mem_of_unsigned hd)⟩
  · exact hbehind (mem_of_unsigned hd)

theorem forall_of_reads_digits {cs : List Char} (h : digits.Reads cs) :
    cs ≠ [] ∧ ∀ c ∈ cs, Text.isDigit c = true := by
  obtain ⟨a, b, ha, hb, rfl⟩ := reads_append_iff.mp h
  obtain ⟨c, hc, rfl⟩ := reads_one_iff.mp ha
  exact ⟨by simp, List.forall_mem_cons.mpr ⟨hc, forall_of_reads_many_one hb⟩⟩

theorem forall_of_reads_decimal {cs : List Char} (h : decimal.Reads cs) :
    cs ≠ [] ∧ ∀ c ∈ cs, Text.isDigit c = true ∨ c = '.' := by
  obtain ⟨whole, rest, hwhole, hrest, rfl⟩ := reads_append_iff.mp h
  obtain ⟨hne, hwhole⟩ := forall_of_reads_digits hwhole
  refine ⟨List.append_ne_nil_of_left_ne_nil hne _, List.forall_mem_append.mpr ⟨?_, ?_⟩⟩
  · exact fun c hc => Or.inl (hwhole c hc)
  · rcases reads_either_iff.mp hrest with hfraction | hnothing
    · obtain ⟨point, ds, hpoint, hds, rfl⟩ := reads_append_iff.mp hfraction
      obtain ⟨c, hc, rfl⟩ := reads_one_iff.mp hpoint
      refine List.forall_mem_append.mpr ⟨?_, ?_⟩
      · simpa using Or.inr (by simpa using hc)
      · exact fun c hc => Or.inl ((forall_of_reads_digits hds).2 c hc)
    · cases hnothing
      simp

/-- The patterns for numbers accept no sign. -/
theorem isNumber_of_forall {ν : Type} [Number ν] {cs : List Char} {x : ν} (hne : cs ≠ [])
    (hreads : ∀ c ∈ cs, Text.isDigit c = true ∨ c = '.') (hx : ofText? cs = some x) :
    IsNumber cs where
  ne_nil := hne
  subset := by
    intro c hc
    have hread := hreads c hc
    have hmem := mem_of_ofText? hx c hc
    rw [List.mem_cons, List.mem_cons] at hmem
    rcases hmem with rfl | rfl | hmem
    · exact absurd hread (by decide)
    · exact absurd hread (by decide)
    · exact hmem

theorem isNumber_of_reads {ν : Type} [Number ν] {cs : List Char} {x : ν} (hreads : decimal.Reads cs)
    (hx : ofText? cs = some x) : IsNumber cs := by
  obtain ⟨hne, hforall⟩ := forall_of_reads_decimal hreads
  exact isNumber_of_forall hne hforall hx

theorem isDigits_of_reads {cs : List Char} (hreads : digits.Reads cs)
    (hfigures : cs ⊆ '.' :: figures) : IsDigits cs := by
  obtain ⟨hne, hforall⟩ := forall_of_reads_digits hreads
  refine ⟨hne, fun c hc => ?_⟩
  rcases List.mem_cons.mp (hfigures hc) with rfl | hmem
  · exact absurd (hforall _ hc) (by decide)
  · exact hmem

/-! ### Whole numbers -/

theorem digitsValue?_eq_foldl {cs : List Char} (h : ∀ c ∈ cs, c.isDigit = true) (value : Nat) :
    Decimal.digitsValue? value cs = some (Nat.ofDigitChars 10 cs value) := by
  induction cs generalizing value with
  | nil => rfl
  | cons c cs ih =>
      obtain ⟨hc, hcs⟩ := List.forall_mem_cons.mp h
      rw [Decimal.digitsValue?, if_pos hc, ih hcs]
      rfl

theorem ofText?_of_isDigits {cs : List Char} (h : IsDigits cs) :
    (ofText? cs : Option Rat) = some ((Nat.ofDigitChars 10 cs 0 : Nat) : Rat) := by
  have hdigits := List.all_eq_true.mp (h.all (show figures.all Char.isDigit = true by decide))
  have hpoint : ∀ c ∈ cs, (c != '.') = true :=
    List.all_eq_true.mp (h.all (show figures.all (· != '.') = true by decide))
  have htake : cs.takeWhile (· != '.') = cs := List.takeWhile_eq_self_iff.mpr hpoint
  have hdrop : cs.dropWhile (· != '.') = [] := List.dropWhile_eq_nil_iff.mpr hpoint
  have hvalue := digitsValue?_eq_foldl hdigits 0
  have hread : Decimal.ofText? cs = some { mantissa := Nat.ofDigitChars 10 cs 0 } := by
    simp only [Decimal.ofText?]
    split
    · exact absurd (hdigits '-' List.mem_cons_self) (by decide)
    · exact absurd (hdigits '+' List.mem_cons_self) (by decide)
    · rw [htake, hdrop, List.drop_nil, List.append_nil, hvalue, if_neg (by simp [h.ne_nil])]
      rfl
  rw [ofText?, hread]
  simp [Number.finite?, Number.ofDecimal, Number.isFinite, Decimal.toRat]

theorem isDigits_natDigits (n : Nat) : IsDigits (natDigits n) where
  ne_nil := Nat.toDigits_ne_nil
  subset := fun _ hc => mem_figures_of_isDigit
    (Nat.isDigit_of_mem_toDigits (by decide) (by decide) hc)

/-- The plain text of a whole number is the run of its digits. -/
theorem plain_natCast (n : Nat) : Number.plain (n : Rat) = natDigits n := by
  change plainRat n = natDigits n
  rw [plainRat, Rat.num_natCast, Rat.den_natCast, if_pos rfl, List.append_nil, Int.natAbs_natCast,
    withSign, decide_eq_false (by omega), if_neg Bool.false_ne_true]

theorem ofText?_natDigits (n : Nat) : (ofText? (natDigits n) : Option Rat) = some (n : Rat) := by
  rw [ofText?_of_isDigits (isDigits_natDigits n), natDigits, Nat.ofDigitChars_ten_toDigits]

end PartSearch
