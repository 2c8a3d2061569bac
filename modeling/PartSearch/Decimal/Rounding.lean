import PartSearch.Decimal.Basic

/-!
Between decimals and binary floating-point numbers, by exact arithmetic on natural numbers. A
finite nonzero float is `mantissa * 2 ^ exponent`; a quotient is rounded to the nearest, a tie to
the even neighbour.
-/

namespace PartSearch

/-- `n / d` rounded to the nearest natural number, a tie to the even one. -/
def roundDiv (n d : Nat) : Nat :=
  let q := n / d
  let twice := 2 * (n % d)
  if d < twice || (twice = d && q % 2 = 1) then q + 1 else q

def roundShifted (n d : Nat) (k : Int) : Nat :=
  if 0 ≤ k then roundDiv (n * Nat.pow 2 k.toNat) d
  else roundDiv n (d * Nat.pow 2 (-k).toNat)

/-- The float nearest to `n / d`, infinite from half a unit above the largest one. -/
def nearestFloat (n d : Nat) : Float :=
  if n = 0 then 0.0 else
    let guess : Int := (n.log2 : Int) - d.log2 - 52
    let tooLarge : Bool :=
      if 0 ≤ guess then n < d * Nat.pow 2 (52 + guess.toNat)
      else n * Nat.pow 2 (-guess).toNat < d * Nat.pow 2 52
    let exponent := max (if tooLarge then guess - 1 else guess) (-1074)
    if 1100 < exponent then 1.0 / 0.0 else
      Float.scaleB (Float.ofNat (roundShifted n d (-exponent))) exponent

/-- The float nearest to a decimal. Exponents beyond the range of floats are settled without
computing the power. -/
def Decimal.toFloat (d : Decimal) : Float :=
  let size :=
    if d.mantissa = 0 then 0.0
    else if 400 < d.exponent then 1.0 / 0.0
    else if (d.mantissa.log2 : Int) + 1 + 3 * d.exponent < -1100 then 0.0
    else if 0 ≤ d.exponent then nearestFloat (d.mantissa * Nat.pow 10 d.exponent.toNat) 1
    else nearestFloat d.mantissa (Nat.pow 10 (-d.exponent).toNat)
  if d.negative then -size else size

/-- A finite float taken apart: sign, and `mantissa * 2 ^ exponent`. -/
structure FloatParts where
  negative : Bool
  mantissa : Nat
  exponent : Int

def FloatParts.ofFloat (x : Float) : FloatParts :=
  let bits := x.toBits.toNat
  let fraction := bits % Nat.pow 2 52
  let biased := bits / Nat.pow 2 52 % Nat.pow 2 11
  { negative := Nat.pow 2 63 ≤ bits
    mantissa := if biased = 0 then fraction else fraction + Nat.pow 2 52
    exponent := Int.ofNat (max biased 1) - 1075 }

def FloatParts.ratio (p : FloatParts) : Nat × Nat :=
  if 0 ≤ p.exponent then (p.mantissa * Nat.pow 2 p.exponent.toNat, 1)
  else (p.mantissa, Nat.pow 2 (-p.exponent).toNat)

def scaleByTen (n d : Nat) (k : Int) : Nat × Nat :=
  if 0 ≤ k then (n * Nat.pow 10 k.toNat, d) else (n, d * Nat.pow 10 (-k).toNat)

/-- The `k` with `10 ^ k ≤ n / d < 10 ^ (k + 1)`, for a positive quotient, found upwards from
`k`. -/
def decimalExponentFrom (n d : Nat) : Nat → Int → Int
  | 0, k => k
  | steps + 1, k =>
    let (a, b) := scaleByTen n d (-(k + 1))
    if a < b then k else decimalExponentFrom n d steps (k + 1)

def decimalExponent (n d : Nat) : Int :=
  let low := ((n.log2 : Int) - d.log2 - 1) * 30103 / 100000 - 1
  decimalExponentFrom n d 4 low

end PartSearch
