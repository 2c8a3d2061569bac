/-!
Decimal numbers as they are written: a sign, the digits as one natural number, and a power of ten.
Reading a text loses nothing; rounding to a floating-point number is a later step.
-/

namespace PartSearch

/-- A number `mantissa * 10 ^ exponent`, or minus that number. A zero keeps its sign. -/
structure Decimal where
  negative : Bool := false
  mantissa : Nat
  exponent : Int := 0
deriving DecidableEq, Repr

namespace Decimal

def ofNat (n : Nat) : Decimal := { mantissa := n }

def tenTo (k : Int) : Decimal := { mantissa := 1, exponent := k }

def toRat (d : Decimal) : Rat :=
  let size : Rat := if 0 ≤ d.exponent then (d.mantissa * Nat.pow 10 d.exponent.toNat : Nat)
    else (d.mantissa : Rat) / (Nat.pow 10 (-d.exponent).toNat : Nat)
  if d.negative then -size else size

/-- The number that a run of ASCII digits spells, read after `value`. -/
def digitsValue? (value : Nat) : List Char → Option Nat
  | [] => some value
  | c :: cs => if c.isDigit then digitsValue? (10 * value + (c.toNat - 48)) cs else none

/-- A sign, digits, and digits after a point; there is at least one digit. -/
def ofText? (cs : List Char) : Option Decimal :=
  let (negative, cs) := match cs with
    | '-' :: rest => (true, rest)
    | '+' :: rest => (false, rest)
    | rest => (false, rest)
  let whole := cs.takeWhile (· != '.')
  let fraction := (cs.dropWhile (· != '.')).drop 1
  if whole.isEmpty && fraction.isEmpty then none else
    (digitsValue? 0 (whole ++ fraction)).map fun mantissa =>
      { negative, mantissa, exponent := -(fraction.length : Int) }

end Decimal

end PartSearch
