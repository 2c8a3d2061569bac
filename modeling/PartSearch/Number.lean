import PartSearch.Decimal.Digits

/-!
The numbers that quantities are measured in. Everything numeric in this library works over any
`Number`: programs compute with floats, and the same definitions over the rationals say what the
computation means without rounding.
-/

namespace PartSearch

/-- Arithmetic and comparison, with the roundings that readers and scores need. -/
class Number (ν : Type) extends Add ν, Sub ν, Mul ν, Div ν, LE ν, LT ν, BEq ν where
  decLe : DecidableLE ν
  decLt : DecidableLT ν
  /-- The number nearest to a decimal. -/
  ofDecimal : Decimal → ν
  /-- Is this an actual number, and not the result of an overflow? -/
  isFinite : ν → Bool
  abs : ν → ν
  floor : ν → ν
  /-- The nearest whole number, a half going away from zero. -/
  round : ν → ν
  toInt : ν → Int
  /-- Position in the total order that lists are sorted by. -/
  rank : ν → ν → Ordering
  /-- Decimal text without an exponent; a whole number has no point. -/
  plain : ν → List Char

instance instDecidableLENumber {ν : Type} [Number ν] : DecidableLE ν := Number.decLe

instance instDecidableLTNumber {ν : Type} [Number ν] : DecidableLT ν := Number.decLt

namespace Number

variable {ν : Type} [Number ν]

def whole (n : Nat) : ν := ofDecimal (Decimal.ofNat n)

def tenTo (k : Int) : ν := ofDecimal (Decimal.tenTo k)

def finite? (x : ν) : Option ν := if isFinite x then some x else none

/-- The number that a text spells in plain decimal notation, if it is finite. -/
def ofText? (cs : List Char) : Option ν := (Decimal.ofText? cs).bind fun d => finite? (ofDecimal d)

theorem isFinite_of_finite? {x y : ν} (h : finite? x = some y) : isFinite y = true := by
  unfold finite? at h
  split at h
  · rename_i hx
    cases h
    exact hx
  · cases h

end Number

/-- Place of a float in the order of its bits: negative numbers, zeros by sign, positive numbers,
with the infinities at the ends. -/
def floatRank (x : Float) : Int :=
  let bits := x.toBits.toNat
  let half := Nat.pow 2 63
  if bits < half then bits else (half : Int) - 1 - bits

instance instNumberFloat : Number Float where
  decLe := inferInstance
  decLt := inferInstance
  ofDecimal := Decimal.toFloat
  isFinite := Float.isFinite
  abs := Float.abs
  floor := Float.floor
  round := Float.round
  toInt x := x.toInt64.toInt
  rank x y := compare (floatRank x) (floatRank y)
  plain := plainFloat

/-- Digits of a fraction: numerator, and the denominator after a stroke unless it is one. -/
def plainRat (x : Rat) : List Char :=
  withSign (x.num < 0) <| natDigits x.num.natAbs ++
    if x.den = 1 then [] else '/' :: natDigits x.den

instance instNumberRat : Number Rat where
  decLe := inferInstance
  decLt := inferInstance
  ofDecimal := Decimal.toRat
  isFinite _ := true
  abs x := if x < 0 then -x else x
  floor x := (x.floor : Rat)
  round x := if x < 0 then -((-x + 1 / 2).floor : Rat) else ((x + 1 / 2).floor : Rat)
  toInt x := x.num.tdiv x.den
  rank x y := if x < y then .lt else if x = y then .eq else .gt
  plain := plainRat

end PartSearch
