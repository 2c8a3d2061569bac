import PartSearch.Catalog.Keyword
import PartSearch.Filter.Operator
import PartSearch.Quantity.Basic
import PartSearch.Text.Blank

/-!
Which attribute a bare quantity means. "100V" is the drain-source voltage of a MOSFET, the reverse
voltage of a diode and the rated voltage of a capacitor, so the attribute depends on the word for
the part, then on its subcategory, and then on the quantity alone. The comparison depends on the
quantity alone: what identifies a part is equal, what rates it is at least as high.
-/

namespace PartSearch.Attribute

/-- Attributes of one kind of part, by quantity. -/
abbrev Assignment := List (Quantity × String)

def mosfet : Assignment := [(.voltage, "Vds"), (.current, "Id")]

def diode : Assignment := [(.voltage, "Vr"), (.current, "If")]

def zener : Assignment := [(.voltage, "Zener Voltage(Nom)"), (.current, "If")]

def tvs : Assignment := [
  (.voltage, "Reverse Stand-Off Voltage (Vrwm)"),
  (.current, "Peak Pulse Current-Ipp (10/1000us)")]

def inductor : Assignment := [(.current, "Current Rating")]

def ferrite : Assignment := [(.current, "Current Rating"), (.impedance, "Impedance @ Frequency")]

def capacitor : Assignment := [(.voltage, "Voltage Rating")]

def electrolytic : Assignment := [(.voltage, "Voltage Rating"), (.current, "Ripple Current")]

def crystal : Assignment := [(.frequency, "Frequency")]

def bjt : Assignment := [(.voltage, "Vceo"), (.current, "Ic")]

def charger : Assignment := [
  (.current, "Charge Current - Max"),
  (.voltage, "Charging Saturation Voltage")]

def regulator : Assignment := [(.voltage, "Output Voltage"), (.current, "Output Current")]

def led : Assignment := [(.current, "Forward Current(If)"), (.voltage, "Voltage - Forward(Vf@If)")]

def fuse : Assignment := [(.voltage, "Voltage Rating"), (.current, "Hold Current")]

def usbConnector : Assignment := [
  (.pinCount, "Number of Contacts"),
  (.pitch, "Pitch"),
  (.positionCount, "Number of Contacts")]

def connector : Assignment := [
  (.pinCount, "Number of Pins"),
  (.pitch, "Pitch"),
  (.positionCount, "Number of Pins")]

def flatConnector : Assignment := [(.pinCount, "Number of Pins"), (.pitch, "Pitch")]

def terminalBlock : Assignment := [
  (.pinCount, "Number of Pins"),
  (.pitch, "Pitch"),
  (.positionCount, "Number of Pins"),
  (.voltage, "Voltage Rating (Max)"),
  (.current, "Current Rating")]

def switch : Assignment := [(.dimensions, "Size")]

/-- Words and subcategory names, each with the attributes of the parts that it means. -/
def assignments : List (String × Assignment) := [
  ("mosfet", mosfet),
  ("mosfets", mosfet),
  ("n-channel mosfet", mosfet),
  ("p-channel mosfet", mosfet),
  ("power mosfet", mosfet),
  ("nmos", mosfet),
  ("pmos", mosfet),
  ("diode", diode),
  ("switching diodes", diode),
  ("schottky", diode),
  ("schottky diode", diode),
  ("schottky diodes", diode),
  ("rectifier", diode),
  ("rectifier diode", diode),
  ("diodes - general purpose", diode),
  ("zener", zener),
  ("zener diode", zener),
  ("zener diodes", zener),
  ("tvs", tvs),
  ("tvs diode", tvs),
  ("esd and surge protection (tvs/esd)", tvs),
  ("inductor", inductor),
  ("inductors", inductor),
  ("inductors (smd)", inductor),
  ("power inductor", inductor),
  ("power inductors", inductor),
  ("coil", inductor),
  ("ferrite bead", ferrite),
  ("ferrite", ferrite),
  ("ferrite beads", ferrite),
  ("capacitor", capacitor),
  ("capacitors", capacitor),
  ("mlcc", capacitor),
  ("multilayer ceramic capacitors mlcc - smd/smt", capacitor),
  ("tantalum", capacitor),
  ("tantalum capacitors", capacitor),
  ("electrolytic", electrolytic),
  ("aluminum electrolytic capacitors - smd", electrolytic),
  ("aluminum electrolytic capacitors - leaded", electrolytic),
  ("crystal", crystal),
  ("crystals", crystal),
  ("oscillator", crystal),
  ("crystal oscillators", crystal),
  ("bjt", bjt),
  ("transistor", bjt),
  ("npn", bjt),
  ("pnp", bjt),
  ("bipolar (bjt)", bjt),
  ("battery charger", charger),
  ("lipo charger", charger),
  ("lithium charger", charger),
  ("battery management", charger),
  ("charging ic", charger),
  ("ldo", regulator),
  ("regulator", regulator),
  ("linear regulator", regulator),
  ("voltage regulators - linear, low drop out (ldo) regulators", regulator),
  ("buck", regulator),
  ("boost", regulator),
  ("dc-dc", regulator),
  ("dc-dc converters", regulator),
  ("led", led),
  ("leds", led),
  ("led indication - discrete", led),
  ("fuse", fuse),
  ("ptc", fuse),
  ("resettable fuse", fuse),
  ("resettable fuses", fuse),
  ("disposable fuses", fuse),
  ("usb connector", usbConnector),
  ("usb connectors", usbConnector),
  ("usb-c", usbConnector),
  ("type-c", usbConnector),
  ("connector", connector),
  ("header", connector),
  ("pin header", connector),
  ("pin headers", connector),
  ("female header", connector),
  ("female headers", connector),
  ("jst", connector),
  ("wire to board connector", connector),
  ("idc connector", flatConnector),
  ("idc connectors", flatConnector),
  ("ffc", flatConnector),
  ("fpc", flatConnector),
  ("terminal block", terminalBlock),
  ("screw terminal", terminalBlock),
  ("screw terminal blocks", terminalBlock),
  ("pluggable system terminal block", terminalBlock),
  ("tactile switch", switch),
  ("tactile switches", switch),
  ("push button", switch)]

/-- The attribute that a quantity means when nothing else is known. -/
def default : Quantity → String
  | .voltage => "Voltage Rating"
  | .current => "Current Rating"
  | .resistance => "Resistance"
  | .capacitance => "Capacitance"
  | .inductance => "Inductance"
  | .frequency => "Frequency"
  | .tolerance => "Tolerance"
  | .power => "Power"
  | .pinCount | .positionCount => "Number of Pins"
  | .pinStructure => "Pin Structure"
  | .pitch => "Pitch"
  | .dimensions => "Dimensions"
  | .impedance => "Impedance @ Frequency"

def assigned? (word : String) (q : Quantity) : Option String :=
  (assignments.lookup (lowercase word)).bind fun table => table.lookup q

/-- The attribute that a quantity means, for a part named by a keyword and a subcategory. -/
def ofQuantity (q : Quantity) (subcategory keyword : Option String) : String :=
  (keyword.bind (assigned? · q) <|> subcategory.bind (assigned? · q)).getD (default q)

def operatorOf (q : Quantity) : Operator := if q.isIdentity then .eq else .ge

end PartSearch.Attribute

namespace PartSearch.PartKind

def chipResistors : String := "chip resistor - surface mount"

def ceramicCapacitors : String := "multilayer ceramic capacitors mlcc - smd/smt"

/-- The subcategory that the quantities of a query suggest. An inductance alone suggests none,
because inductors are spread over several. -/
def suggestedBy? (quantities : List Quantity) : Option String :=
  if quantities.contains .resistance && !quantities.contains .inductance &&
      !quantities.contains .capacitance then some chipResistors
  else if quantities.contains .capacitance then some ceramicCapacitors
  else none

def hasDimensionPackages (subcategory : String) : Bool :=
  ["inductors (smd)", "power inductors", "inductors, coils, chokes", "led",
    "light emitting diodes"].any (containsText subcategory)

def hasChannels (subcategory : String) : Bool := subcategory = "mosfets"

end PartSearch.PartKind
