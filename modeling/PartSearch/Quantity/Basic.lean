/-!
The kinds of quantity that a part can be described by.
-/

namespace PartSearch

inductive Quantity where
  | resistance
  | capacitance
  | inductance
  | voltage
  | current
  | frequency
  | tolerance
  | power
  | pinCount
  | positionCount
  | pinStructure
  | pitch
  | dimensions
  | impedance
deriving DecidableEq, Repr

namespace Quantity

def all : List Quantity :=
  [resistance, capacitance, inductance, voltage, current, frequency, tolerance, power, pinCount,
    positionCount, pinStructure, pitch, dimensions, impedance]

def name : Quantity → String
  | resistance => "resistance"
  | capacitance => "capacitance"
  | inductance => "inductance"
  | voltage => "voltage"
  | current => "current"
  | frequency => "frequency"
  | tolerance => "tolerance"
  | power => "power"
  | pinCount => "pin_count"
  | positionCount => "position_count"
  | pinStructure => "pin_structure"
  | pitch => "pitch"
  | dimensions => "dimensions"
  | impedance => "impedance"

def ofName? (text : String) : Option Quantity := all.find? (·.name == text)

/-- Does the quantity identify a part ("a 10k resistor") rather than rate it ("a 100V mosfet")? -/
def isIdentity : Quantity → Bool
  | voltage | current | power => false
  | _ => true

def bit (q : Quantity) : Nat := Nat.pow 2 (all.idxOf q)

/-- A set of quantities as the sum of its bits. -/
def bits (qs : List Quantity) : Nat := (all.filter qs.contains).foldl (fun sum q => sum + q.bit) 0

end Quantity

end PartSearch
