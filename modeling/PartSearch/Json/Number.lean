import PartSearch.Decimal.Rounding
import PartSearch.Json.Basic

/-!
Reading a JSON number. A whole number that fits in 64 bits is exact. Any other number is what its
leading digits, as many as fit in 64 bits, give as a float when they are scaled by a power of ten.
That is the nearest float where the digits and the power are floats themselves, as they are up to 15
digits and `10 ^ 22`.
-/

namespace PartSearch.Json

/-- The number that digits after `value` lead to while it fits in 64 bits, and the digits that are
left. -/
def takeDigits (value : Nat) : List Char → Nat × List Char
  | [] => (value, [])
  | c :: cs =>
    let next := 10 * value + (c.toNat - 48)
    if next < Nat.pow 2 64 then takeDigits next cs else (value, c :: cs)

/-- `n * 10 ^ k` by one multiplication or division of floats, or by two divisions where `10 ^ -k` is
beyond the range of floats. -/
def scaledFloat (n : Nat) (k : Int) : Float :=
  let x := (Decimal.ofNat n).toFloat
  let power (j : Int) : Float := (Decimal.tenTo j).toFloat
  if n = 0 then 0.0
  else if 308 < k then 1.0 / 0.0
  else if 0 ≤ k then x * power k
  else if -308 ≤ k then x / power (-k)
  else if -616 ≤ k then x / power 308 / power (-k - 308)
  else 0.0

def floatOfDigits (negative : Bool) (run fraction : List Char) (exponent : Int) : Float :=
  let (n, unread) := takeDigits 0 run
  let (n, rest) := takeDigits n fraction
  let x := scaledFloat n (exponent + unread.length - (fraction.length - rest.length : Nat))
  if negative then -x else x

/-- The number with these digits and no point. Minus zero is a float. -/
def wholeOfDigits (negative : Bool) (run : List Char) : Json :=
  let (n, unread) := takeDigits 0 run
  let value : Int := if negative then -n else n
  if unread.isEmpty && !(negative && n = 0) && -Nat.pow 2 63 ≤ value then int value
  else real (floatOfDigits negative run [] 0)

/-- Splits off a run of ASCII digits, of which there is at least one. -/
def digitRun? (cs : List Char) : Option (List Char × List Char) :=
  let run := cs.takeWhile Char.isDigit
  if run.isEmpty then none else some (run, cs.dropWhile Char.isDigit)

/-- The digits before a point: a zero is not followed by more digits. -/
def wholePart? (cs : List Char) : Option (List Char × List Char) := do
  let (run, rest) ← digitRun? cs
  if run.length > 1 && run.head? = some '0' then none else some (run, rest)

def exponentPart? (cs : List Char) : Option (Int × List Char) := do
  let (negative, cs) := match cs with
    | '-' :: rest => (true, rest)
    | '+' :: rest => (false, rest)
    | rest => (false, rest)
  let (run, rest) ← digitRun? cs
  let size ← Decimal.digitsValue? 0 run
  return (if negative then -size else size, rest)

def number? (cs : List Char) : Option (Json × List Char) := do
  let (negative, cs) := match cs with
    | '-' :: rest => (true, rest)
    | rest => (false, rest)
  let (run, cs) ← wholePart? cs
  let (fraction, cs) ← match cs with
    | '.' :: rest => digitRun? rest
    | rest => some ([], rest)
  let (exponent, marked, cs) ← match cs with
    | 'e' :: rest | 'E' :: rest => (exponentPart? rest).map fun (k, rest) => (k, true, rest)
    | rest => some (0, false, rest)
  let value := if fraction.isEmpty && !marked then wholeOfDigits negative run
    else real (floatOfDigits negative run fraction exponent)
  return (value, cs)

end PartSearch.Json
