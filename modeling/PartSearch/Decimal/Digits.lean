import PartSearch.Decimal.Rounding

/-!
Floats as decimal digits: with a given number of places, in scientific form, and with the fewest
digits that still read back as the same float.
-/

namespace PartSearch

def natDigits (n : Nat) : List Char := Nat.toDigits 10 n

/-- `count` characters, filled with zeros on the left. -/
def padZeros (count : Nat) (cs : List Char) : List Char :=
  List.replicate (count - cs.length) '0' ++ cs

def withSign (negative : Bool) (cs : List Char) : List Char :=
  if negative then '-' :: cs else cs

/-- The digits of `n` with a point before the last `places` of them. -/
def placePoint (places n : Nat) : List Char :=
  let ds := padZeros (places + 1) (natDigits n)
  let whole := ds.take (ds.length - places)
  if places = 0 then whole else whole ++ '.' :: ds.drop (ds.length - places)

def specialFloat? (x : Float) : Option (List Char) :=
  if x.isNaN then some "NaN".toList
  else if x.isInf then some (if x < 0 then "-inf".toList else "inf".toList)
  else none

def fixedPlaces (places : Nat) (x : Float) : List Char :=
  (specialFloat? x).getD <|
    let parts := FloatParts.ofFloat x
    let (n, d) := parts.ratio
    withSign parts.negative (placePoint places (roundDiv (n * Nat.pow 10 places) d))

/-- A float as one digit, a point, `places` digits, and a power of ten. -/
def scientific (places : Nat) (x : Float) : List Char :=
  (specialFloat? x).getD <|
    let parts := FloatParts.ofFloat x
    let (n, d) := parts.ratio
    let (digits, exponent) : Nat × Int :=
      if n = 0 then (0, 0) else
        let k := decimalExponent n d
        let (a, b) := scaleByTen n d (places - k)
        let rounded := roundDiv a b
        if rounded = Nat.pow 10 (places + 1) then (Nat.pow 10 places, k + 1) else (rounded, k)
    withSign parts.negative (placePoint places digits) ++ 'e' ::
      withSign (exponent < 0) (natDigits exponent.natAbs)

/-- The decimals that read back as one float: those strictly between two quotients over `unit`,
and the two themselves if `closed`. -/
structure Neighbourhood where
  low : Nat
  value : Nat
  high : Nat
  unit : Nat
  closed : Bool

/-- The decimals nearer to a float than to any other. Below a power of two floats lie twice as
dense. -/
def FloatParts.neighbourhood (p : FloatParts) : Neighbourhood :=
  let dense : Bool := p.mantissa = Nat.pow 2 52 && -1074 < p.exponent
  let scale : Nat := if 0 ≤ p.exponent then Nat.pow 2 p.exponent.toNat else 1
  { low := (4 * p.mantissa - if dense then 1 else 2) * scale
    value := 4 * p.mantissa * scale
    high := (4 * p.mantissa + 2) * scale
    unit := 4 * if 0 ≤ p.exponent then 1 else Nat.pow 2 (-p.exponent).toNat
    closed := p.mantissa % 2 = 0 }

def Neighbourhood.holds (r : Neighbourhood) (digits : Nat) (k : Int) : Bool :=
  let (a, b) := scaleByTen digits 1 k
  let (low, mid, high) := (r.low * b, a * r.unit, r.high * b)
  (low < mid && mid < high) || (r.closed && (mid = low || mid = high))

/-- The decimal with a last digit worth `10 ^ k` that reads back, the nearest of two. -/
def Neighbourhood.onGrid? (r : Neighbourhood) (k : Int) : Option Nat :=
  let (a, b) := scaleByTen r.value r.unit (-k)
  let below := a / b
  let nearest := roundDiv a b
  if r.holds nearest k then some nearest
  else if r.holds below k then some below
  else if r.holds (below + 1) k then some (below + 1)
  else none

/-- The shortest decimal that reads back, tried with `count` digits from the leading one at
`10 ^ top` on. -/
def Neighbourhood.shortestFrom (r : Neighbourhood) (top : Int) : Nat → Nat → Nat × Int
  | 0, _ => (r.value / r.unit, 0)
  | more + 1, count =>
    let k := top - count + 1
    match r.onGrid? k with
    | some digits => (digits, k)
    | none => r.shortestFrom top more (count + 1)

/-- Digits and power of ten without trailing zeros in the digits. -/
def dropZeros : Nat → Nat × Int → Nat × Int
  | 0, r => r
  | steps + 1, (digits, k) =>
    if digits ≠ 0 && digits % 10 = 0 then dropZeros steps (digits / 10, k + 1) else (digits, k)

/-- The fewest digits that read back as a positive finite float, and the power of ten of the
last one. -/
def shortestDigits (p : FloatParts) : Nat × Int :=
  let (n, d) := p.ratio
  dropZeros 20 (p.neighbourhood.shortestFrom (decimalExponent n d) 18 1)

def positional (digits : Nat) (k : Int) : List Char :=
  if 0 ≤ k then natDigits (digits * Nat.pow 10 k.toNat) else placePoint (-k).toNat digits

/-- The shortest decimal of a float, never with an exponent; a whole number has no point. -/
def plainFloat (x : Float) : List Char :=
  (specialFloat? x).getD <|
    let parts := FloatParts.ofFloat x
    withSign parts.negative <|
      if parts.mantissa = 0 then ['0'] else
        let (digits, k) := shortestDigits parts
        positional digits k

/-- The shortest decimal of a float, as a JSON number: a point is always written below `1e16` and
from `1e-5` on, and beyond that an exponent with its sign. -/
def jsonFloat (x : Float) : List Char :=
  let parts := FloatParts.ofFloat x
  withSign parts.negative <|
    if parts.mantissa = 0 then "0.0".toList else
      let (digits, k) := shortestDigits parts
      let ds := natDigits digits
      let point : Int := ds.length + k
      if 0 ≤ k && point ≤ 16 then positional digits k ++ ['.', '0']
      else if -5 < point && point ≤ 16 then positional digits k
      else
        let lead := if ds.length = 1 then ds else ds.take 1 ++ '.' :: ds.drop 1
        lead ++ 'e' :: (if point - 1 < 0 then '-' else '+') :: natDigits (point - 1).natAbs

end PartSearch
