import PartSearch.Quantity.Scalar

/-!
Ranges such as "-40℃~+85℃" and "1.5V~2.5V". Catalogs leave out either side, so each bound is read
on its own.
-/

namespace PartSearch

/-- Two bounds, either of which may be unknown. -/
structure Interval (ν : Type) where
  min : Option ν := none
  max : Option ν := none

namespace Interval

variable {ν : Type}

def point (x : ν) : Interval ν := { min := some x, max := some x }

def isEmpty (r : Interval ν) : Bool := r.min.isNone && r.max.isNone

/-- One number for the whole range: the upper bound where it is known. -/
def representative (r : Interval ν) : Option ν := r.max <|> r.min

/-- Both bounds at a number that was read, and no bound otherwise. -/
def ofPoint? : Option ν → Interval ν
  | some x => point x
  | none => {}

end Interval

inductive IntervalFormat where
  | temperature
  | gateThreshold
  | inputVoltage
  | frequency
deriving DecidableEq, Repr

namespace IntervalFormat

open Text (Pattern)
open Text.Pattern

variable {ν : Type} [Number ν]

def wordTo : Pattern := many1 (one Text.isBlank) ++ caseless "to" ++ many1 (one Text.isBlank)

/-- The two sides of the first "~", or else of the first "to". -/
def sides? (cs : List Char) : Option (List Char × List Char) :=
  if cs.contains '~' then some (cs.takeWhile (· != '~'), (cs.dropWhile (· != '~')).drop 1)
  else (wordTo.find? cs).map fun m => (m.before.reverse, m.after)

/-- A number with nothing around it but blanks. -/
def bareNumber : Pattern := start ++ blanks ++ capture 1 numeral ++ blanks ++ finish

/-- A voltage, whose unit the low side of a range often drops. -/
def readBareOrVoltage? (cs : List Char) : Option ν :=
  ScalarFormat.readVoltage? cs <|> ScalarFormat.readFirst? [(bareNumber, id)] cs

def readSide? : IntervalFormat → List Char → Option ν
  | temperature => ScalarFormat.readTemperature?
  | gateThreshold | inputVoltage => readBareOrVoltage?
  | frequency => ScalarFormat.readFrequency?

/-- Is a text without two sides a range of one point? -/
def allowsPoint : IntervalFormat → Bool
  | temperature => false
  | _ => true

def read (format : IntervalFormat) (text : String) : Interval ν :=
  let cs := text.toList
  match sides? cs with
  | some (low, high) => { min := format.readSide? low, max := format.readSide? high }
  | none => if format.allowsPoint then Interval.ofPoint? (format.readSide? cs) else {}

end IntervalFormat

end PartSearch
