import PartSearch.Quantity.Impedance
import PartSearch.Quantity.Interval

/-!
How the values of each catalog attribute are written, and which attributes are compared as text
because their spellings vary too much.
-/

namespace PartSearch

inductive AttributeFormat where
  | scalar (format : ScalarFormat)
  | interval (format : IntervalFormat)
  /-- An impedance at a test frequency; as a number it stands for the impedance. -/
  | impedance
deriving DecidableEq, Repr

namespace AttributeFormat

def scalars : List (String × ScalarFormat) := [
  ("Voltage Rating", .voltage),
  ("Voltage Rating (Max)", .voltage),
  ("Voltage - DC Reverse(Vr)", .voltage),
  ("Drain to Source Voltage", .voltage),
  ("Collector - Emitter Voltage VCEO", .voltage),
  ("Reverse Stand-Off Voltage (Vrwm)", .voltage),
  ("Clamping Voltage", .voltage),
  ("Clamping Voltage@Ipp", .voltage),
  ("Isolation Voltage(Vrms)", .voltage),
  ("Voltage - Max", .voltage),
  ("Output Voltage", .voltage),
  ("Voltage Dropout", .voltage),
  ("Zener Voltage(Nom)", .voltage),
  ("Charging Saturation Voltage", .voltage),
  ("Coil Voltage", .voltage),
  ("Slew Rate", .voltage),
  ("Input Offset Voltage", .voltage),
  ("Voltage - Forward(Vf@If)", .forwardVoltage),
  ("Tolerance", .percentage),
  ("Efficiency", .percentage),
  ("Frequency Stability", .ppm),
  ("Power(Watts)", .power),
  ("Pd - Power Dissipation", .power),
  ("Peak Pulse Power", .power),
  ("Peak Pulse Power(Ppk)", .power),
  ("Peak Pulse Power (Ppk)", .power),
  ("Peak Pulse Power Dissipation (Ppp)", .power),
  ("Current - Continuous Drain(Id)", .current),
  ("Current - Collector(Ic)", .current),
  ("Current - Rectified", .current),
  ("Current Rating", .current),
  ("Current - Saturation(Isat)", .current),
  ("Current - Saturation (Isat)", .current),
  ("Output Current", .current),
  ("Hold Current", .current),
  ("Trip Current", .current),
  ("Charging Current", .current),
  ("Fast Charge Current", .current),
  ("Charge Current", .current),
  ("Charge Current - Max", .current),
  ("Forward Current(If)", .current),
  ("Forward Current (If)", .current),
  ("If - Forward Current", .current),
  ("Peak Pulse Current-Ipp (10/1000us)", .current),
  ("Quiescent Current(Iq)", .current),
  ("Quiescent Current", .current),
  ("Ripple Current", .current),
  ("DC Resistance(DCR)", .resistance),
  ("RDS(on)", .resistance),
  ("Resistance", .resistance),
  ("Equivalent Series Resistance(ESR)", .resistance),
  ("Capacitance", .capacitance),
  ("Load Capacitance", .picofarads),
  ("Input Capacitance(Ciss)", .picofarads),
  ("Input Capacitance (Ciss)", .picofarads),
  ("Ciss", .picofarads),
  ("Inductance", .inductance),
  ("Frequency", .frequency),
  ("Gain Bandwidth Product", .frequency),
  ("Sampling Rate", .frequency),
  ("Speed", .frequency),
  ("Max Frequency", .frequency),
  ("Operating Frequency", .frequency),
  ("CPU Maximum Speed", .frequency),
  ("Resolution(Bits)", .integer),
  ("Number of Bits", .integer),
  ("Number of Pins", .integer),
  ("Number of Rows", .integer),
  ("Lifetime", .integer),
  ("Pitch", .millimetres),
  ("Noise Figure", .decibels),
  ("Gain", .decibels),
  ("Common Mode Rejection Ratio(CMRR)", .decibels),
  ("Flash", .memory),
  ("Program Memory Size", .memory),
  ("Program Storage Size", .memory),
  ("SRAM", .memory),
  ("RAM Size", .memory),
  ("Capacity", .memory),
  ("Memory Size", .memory),
  ("Dominant Wavelength", .wavelength),
  ("Wavelength - Dominant", .wavelength),
  ("Luminous Intensity", .luminosity),
  ("Luminous Intensity (mcd)", .luminosity)]

def intervals : List (String × IntervalFormat) := [
  ("Operating Temperature", .temperature),
  ("Operating Temperature Range", .temperature),
  ("Input Voltage", .inputVoltage),
  ("Gate Threshold Voltage (Vgs(th))", .gateThreshold),
  ("Gate Threshold Voltage", .gateThreshold),
  ("Frequency Range", .frequency)]

def ofAttribute? (name : String) : Option AttributeFormat :=
  if name = "Impedance @ Frequency" then some impedance else
    match intervals.lookup name with
    | some format => some (interval format)
    | none => (scalars.lookup name).map scalar

/-- Attributes that are compared as text. -/
def textual : List String := [
  "Temperature Coefficient",
  "Illumination Color",
  "type",
  "Type",
  "Output Type",
  "Peak Wavelength",
  "FET Type",
  "B Constant (25℃/100℃)",
  "Number of Positions",
  "Number of Pins",
  "Number of Positions or Pins",
  "Number of Rows",
  "Pitch",
  "Connector Type",
  "Gender",
  "Pins Structure",
  "Circuit",
  "Contact Form",
  "Mounting Type",
  "Self Lock / No Lock",
  "Positions",
  "Number of Poles Per Deck",
  "Rated Functioning Temperature",
  "Number of Resistors",
  "Number of Capacitors",
  "Number of Lines",
  "Number of Forward Channels",
  "Number of Reverse Channels",
  "Number of Poles",
  "Number of Turns",
  "Number of Coils",
  "Impedance",
  "Driver Circuitry",
  "Ratings",
  "Data Rate",
  "Data Rate(Max)",
  "Color",
  "Number of Segments",
  "Direction",
  "Encoder Type"]

/-- Is an attribute compared as text even though its values may hold numbers? -/
def isTextual (name : String) : Bool := textual.contains name

variable {ν : Type} [Number ν]

/-- One number for a stored value: the quantity itself, the upper bound of a range, or the impedance
of a rating. -/
def readScalar? : AttributeFormat → String → Option ν
  | scalar format, text => format.read? text
  | interval format, text => (format.read text).representative
  | impedance, text => Impedance.readOhms? text

/-- A stored value as a range; a single quantity is a range of one point. -/
def readInterval : AttributeFormat → String → Interval ν
  | interval format, text => format.read text
  | format, text => Interval.ofPoint? (format.readScalar? text)

def isInterval : AttributeFormat → Bool
  | interval _ => true
  | _ => false

end AttributeFormat

end PartSearch
