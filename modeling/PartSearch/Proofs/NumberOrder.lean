import Mathlib
import PartSearch.Number

/-!
# The order of numbers

Lists are sorted, and the lowest price is found, by the rank of numbers; everything else compares
numbers by `<`. `OrderedNumber` says what the two have to do with each other: the rank is a total
order that keeps different numbers apart, and among positive numbers it is the order by size. The
rationals are ordered in this way, and so are the floats, whose rank is read off their bits.
-/

namespace PartSearch

open Number (rank whole)

class OrderedNumber (ν : Type) [Number ν] : Prop extends
    Std.TransCmp (rank : ν → ν → Ordering), Std.LawfulEqCmp (rank : ν → ν → Ordering) where
  rank_eq_lt_iff {x y : ν} (hx : whole 0 < x) (hy : whole 0 < y) : rank x y = .lt ↔ x < y

namespace OrderedNumber

variable {ν : Type} [Number ν] [OrderedNumber ν]

theorem rank_self (x : ν) : rank x x = .eq := Std.ReflCmp.compare_self

theorem isLE_rank_iff (x y : ν) : (rank x y).isLE = true ↔ ¬ rank y x = .lt := by
  have hswap : rank x y = (rank y x).swap := Std.OrientedCmp.eq_swap
  rw [hswap, Ordering.isLE_swap]
  exact Ordering.isGE_iff_ne_lt

theorem isLE_rank_iff_not_lt {x y : ν} (hx : whole 0 < x) (hy : whole 0 < y) :
    (rank x y).isLE = true ↔ ¬ y < x := by
  rw [isLE_rank_iff, rank_eq_lt_iff hy hx]

theorem eq_of_isLE_rank {x y : ν} (hxy : (rank x y).isLE = true) (hyx : (rank y x).isLE = true) :
    x = y :=
  Std.LawfulEqCmp.eq_of_compare (Std.OrientedCmp.isLE_antisymm hxy hyx)

end OrderedNumber

theorem rank_rat (x y : Rat) : rank x y = compare x y := rfl

instance instOrderedNumberRat : OrderedNumber Rat where
  toTransCmp := inferInstanceAs (Std.TransCmp (compare : Rat → Rat → Ordering))
  toLawfulEqCmp := inferInstanceAs (Std.LawfulEqCmp (compare : Rat → Rat → Ordering))
  rank_eq_lt_iff _ _ := by
    rw [rank_rat]
    exact compare_lt_iff_lt

/-! ### Floats -/

section Floats

open Float.Model (UnpackedFloat)
open Float.Model.UnpackedFloat
open Float.Model.Format (binary64)

theorem toNat_unpackExponent (b : BitVec binary64.numBits) :
    (unpackExponent b).toNat = b.toNat / 2 ^ 52 % 2 ^ 11 := by
  simp [unpackExponent, BitVec.extractLsb, BitVec.extractLsb', Nat.shiftRight_eq_div_pow]

theorem toNat_unpackMantissa (b : BitVec binary64.numBits) :
    (unpackMantissa b).toNat = b.toNat % 2 ^ 52 := by
  simp [unpackMantissa, BitVec.extractLsb, BitVec.extractLsb']

theorem toNat_unpackSign (b : BitVec binary64.numBits) :
    (unpackSign b).toNat = b.toNat / 2 ^ 63 := by
  have hsize : b.toNat / 2 ^ 63 < 2 := by
    have hlt : b.toNat < 2 ^ 64 := b.isLt
    omega
  simpa [unpackSign, BitVec.extractLsb, BitVec.extractLsb', Nat.shiftRight_eq_div_pow] using hsize

theorem toNat_one_append (m : BitVec 52) : (1#1 ++ m).toNat = 2 ^ 52 + m.toNat := by
  rw [BitVec.toNat_append, ← Nat.shiftLeft_add_eq_or_of_lt m.isLt, Nat.shiftLeft_eq]
  simp

/-- The bits of a positive float, read as a number: the exponent stands above the mantissa, which
has its full length unless the exponent is the least one. -/
inductive PositiveBits (n : Nat) : UnpackedFloat → Prop where
  | infinity (hn : n = 2047 * 2 ^ 52) : PositiveBits n (.infinity .positive)
  | finite {m : Nat} {e : Int} (hm : 0 < m) (hn : (n : Int) = (e + 1074) * 2 ^ 52 + m)
      (hlow : -1074 ≤ e) (hhigh : e ≤ 971) (hfull : e = -1074 ∨ 2 ^ 52 ≤ m) (hlt : m < 2 ^ 53) :
      PositiveBits n (.finite .positive m e hm)

theorem unpackSign_of_pos {b : BitVec binary64.numBits}
    (hpos : (zero .positive).lt (unpack binary64 b) = true) : unpackSign b = 0#1 := by
  by_contra hne
  have hnegative : Sign.ofBitVec (unpackSign b) = .negative := if_neg hne
  unfold unpack at hpos
  dsimp only at hpos
  rw [hnegative] at hpos
  split at hpos
  · split at hpos <;> cases hpos
  · split at hpos
    · split at hpos <;> cases hpos
    · cases hpos

theorem positiveBits_of_pos {b : BitVec binary64.numBits}
    (hpos : (zero .positive).lt (unpack binary64 b) = true) :
    PositiveBits b.toNat (unpack binary64 b) := by
  have hexponent := toNat_unpackExponent b
  have hmantissa := toNat_unpackMantissa b
  have hsign := toNat_unpackSign b
  have hbias : (binary64.exponentBias : Int) = 1023 := by decide
  have hlt : (unpackMantissa b).toNat < 2 ^ 52 := (unpackMantissa b).isLt
  have hpositive := unpackSign_of_pos hpos
  rw [hpositive, BitVec.toNat_ofNat] at hsign
  unfold unpack at hpos ⊢
  dsimp only at hpos ⊢
  rw [hpositive, show Sign.ofBitVec 0#1 = .positive from rfl] at hpos ⊢
  by_cases hall : unpackExponent b = -1#11
  · rw [if_pos hall] at hpos ⊢
    by_cases hzero : unpackMantissa b = 0#52
    · rw [if_pos hzero]
      have hfield : (unpackExponent b).toNat = 2047 := by
        rw [hall]
        rfl
      have hrest : (unpackMantissa b).toNat = 0 := by
        rw [hzero]
        rfl
      exact .infinity (by omega)
    · rw [if_neg hzero] at hpos
      cases hpos
  rw [if_neg hall] at hpos ⊢
  have hbelow : (unpackExponent b).toNat < 2047 := by
    have hne : (unpackExponent b).toNat ≠ 2047 := fun h => hall (BitVec.eq_of_toNat_eq h)
    have hsize : (unpackExponent b).toNat < 2 ^ 11 := (unpackExponent b).isLt
    omega
  by_cases hnone : unpackExponent b = 0#11
  · rw [if_pos hnone] at hpos ⊢
    by_cases hzero : unpackMantissa b = 0#52
    · rw [dif_pos hzero] at hpos
      cases hpos
    · rw [dif_neg hzero]
      have hfield : (unpackExponent b).toNat = 0 := by
        rw [hnone]
        rfl
      refine .finite _ ?_ ?_ ?_ (Or.inl ?_) ?_ <;> omega
  · rw [if_neg hnone]
    have hfield : (unpackExponent b).toNat ≠ 0 := fun h => hnone (BitVec.eq_of_toNat_eq h)
    have hfull := toNat_one_append (unpackMantissa b)
    refine .finite _ ?_ ?_ ?_ (Or.inr ?_) ?_ <;> omega

theorem PositiveBits.compare_eq {n k : Nat} {u v : UnpackedFloat} (hu : PositiveBits n u)
    (hv : PositiveBits k v) : u.compare v = some (compare n k) := by
  cases hu with
  | infinity hn =>
      cases hv with
      | infinity hk =>
          rw [hn, hk, Std.compare_self]
          rfl
      | finite hm hk hlow hhigh hfull hlt =>
          have hbits : k < n := by omega
          rw [Nat.compare_eq_gt.mpr hbits]
          rfl
  | @finite m e hm hn hlow hhigh hfull hlt =>
      cases hv with
      | infinity hk =>
          have hbits : n < k := by omega
          rw [Nat.compare_eq_lt.mpr hbits]
          rfl
      | @finite m' e' hm' hk hlow' hhigh' hfull' hlt' =>
          refine congrArg some ?_
          rcases Int.lt_trichotomy e e' with he | rfl | he
          · rw [Int.compare_eq_lt.mpr he, Nat.compare_eq_lt.mpr (by omega : n < k)]
            rfl
          · rw [Std.compare_self, Ordering.eq_then]
            rcases Nat.lt_trichotomy m m' with hm | rfl | hm
            · rw [Nat.compare_eq_lt.mpr hm, Nat.compare_eq_lt.mpr (by omega : n < k)]
            · rw [Std.compare_self, Nat.compare_eq_eq.mpr (by omega : n = k)]
            · rw [Nat.compare_eq_gt.mpr hm, Nat.compare_eq_gt.mpr (by omega : k < n)]
          · rw [Int.compare_eq_gt.mpr he, Nat.compare_eq_gt.mpr (by omega : k < n)]
            rfl

theorem PositiveBits.lt_half {n : Nat} {u : UnpackedFloat} (h : PositiveBits n u) :
    n < 2 ^ 63 := by
  cases h with
  | infinity hn => omega
  | finite hm hn hlow hhigh hfull hlt => omega

theorem float_lt_iff {x y : Float} : x < y ↔ x.toModel.unpack.lt y.toModel.unpack = true :=
  decide_eq_true_iff

theorem positiveBits_toBits {x : Float} (hx : whole 0 < x) :
    PositiveBits x.toBits.toNat x.toModel.unpack :=
  positiveBits_of_pos (float_lt_iff.mp hx)

theorem floatRank_of_pos {x : Float} (hx : whole 0 < x) : floatRank x = x.toBits.toNat :=
  if_pos (positiveBits_toBits hx).lt_half

theorem floatRank_injective : Function.Injective floatRank := by
  intro x y h
  have hx := x.toBits.toNat_lt
  have hy := y.toBits.toNat_lt
  have hhalf : Nat.pow 2 63 = 9223372036854775808 := rfl
  have hbits : x.toBits.toNat = y.toBits.toNat := by
    simp only [floatRank, hhalf] at h
    split at h <;> split at h <;> omega
  obtain ⟨⟨bits, hvalid⟩⟩ := x
  obtain ⟨⟨bits', hvalid'⟩⟩ := y
  obtain rfl : bits = bits' := UInt64.toNat_inj.mp hbits
  rfl

theorem rank_float (x y : Float) : rank x y = compare (floatRank x) (floatRank y) := rfl

instance instOrderedNumberFloat : OrderedNumber Float where
  toTransCmp := inferInstanceAs (Std.TransCmp (compareOn floatRank))
  compare_self := by
    intro x
    rw [rank_float, Std.compare_self]
  eq_of_compare := by
    intro x y h
    rw [rank_float, Int.compare_eq_eq] at h
    exact floatRank_injective h
  rank_eq_lt_iff := by
    intro x y hx hy
    rw [float_lt_iff, UnpackedFloat.lt, beq_iff_eq,
      (positiveBits_toBits hx).compare_eq (positiveBits_toBits hy), rank_float,
      floatRank_of_pos hx, floatRank_of_pos hy, Int.compare_eq_lt, Option.some_inj,
      Nat.compare_eq_lt, Int.ofNat_lt]

end Floats

end PartSearch
