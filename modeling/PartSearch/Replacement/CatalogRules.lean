import PartSearch.Replacement.Rule

/-!
The rules of the catalog, by subcategory.
-/

namespace PartSearch.RuleBook

/-- Subcategories and what a replacement in each of them has to share. -/
def catalogRules : List (String × ReplacementRule) := [
  ("Chip Resistor - Surface Mount", ⟨"Resistance", [],
    [("Tolerance", .lower), ("Power(Watts)", .higher)]⟩),
  ("Through Hole Resistors", ⟨"Resistance", [],
    [("Tolerance", .lower), ("Power(Watts)", .higher)]⟩),
  ("Current Sense Resistors / Shunt Resistors", ⟨"Resistance", [],
    [("Tolerance", .lower), ("Power(Watts)", .higher)]⟩),
  ("Resistor Networks, Arrays", ⟨"Resistance", ["Number of Resistors"],
    [("Tolerance", .lower), ("Power(Watts)", .higher)]⟩),
  ("Potentiometers, Variable Resistors", ⟨"Resistance", ["Number of Turns"],
    [("Power(Watts)", .higher), ("Tolerance", .lower)]⟩),
  ("Multilayer Ceramic Capacitors MLCC - SMD/SMT", ⟨"Capacitance", ["Temperature Coefficient"],
    [("Voltage Rating", .higher), ("Tolerance", .lower)]⟩),
  ("Multilayer Ceramic Capacitors MLCC - Leaded", ⟨"Capacitance", ["Temperature Coefficient"],
    [("Voltage Rating", .higher), ("Tolerance", .lower)]⟩),
  ("Through Hole Ceramic Capacitors", ⟨"Capacitance", ["Temperature Coefficient"],
    [("Voltage Rating", .higher), ("Tolerance", .lower)]⟩),
  ("Aluminum Electrolytic Capacitors - SMD", ⟨"Capacitance", [], [("Voltage Rating", .higher)]⟩),
  ("Aluminum Electrolytic Capacitors - Leaded", ⟨"Capacitance", [],
    [("Voltage Rating", .higher)]⟩),
  ("Aluminum Electrolytic Capacitors (Can - Screw Terminals)", ⟨"Capacitance", [],
    [("Voltage Rating", .higher)]⟩),
  ("Tantalum Capacitors", ⟨"Capacitance", [],
    [("Voltage Rating", .higher), ("Tolerance", .lower)]⟩),
  ("Film Capacitors", ⟨"Capacitance", [], [("Voltage Rating", .higher), ("Tolerance", .lower)]⟩),
  ("Polypropylene Film Capacitors (CBB)", ⟨"Capacitance", [],
    [("Voltage Rating", .higher), ("Tolerance", .lower)]⟩),
  ("Polymer Aluminum Capacitors", ⟨"Capacitance", [], [("Voltage Rating", .higher)]⟩),
  ("Hybrid Aluminum Electrolytic Capacitors", ⟨"Capacitance", [], [("Voltage Rating", .higher)]⟩),
  ("Horn-Type Electrolytic Capacitors", ⟨"Capacitance", [], [("Voltage Rating", .higher)]⟩),
  ("Niobium Oxide Capacitors", ⟨"Capacitance", [],
    [("Voltage Rating", .higher), ("Tolerance", .lower)]⟩),
  ("Mica and PTFE Capacitors", ⟨"Capacitance", [],
    [("Voltage Rating", .higher), ("Tolerance", .lower)]⟩),
  ("Safety Capacitors", ⟨"Capacitance", ["Ratings"],
    [("Voltage(AC)", .higher), ("Tolerance", .lower)]⟩),
  ("Capacitor Networks, Arrays", ⟨"Capacitance", ["Number of Capacitors"],
    [("Voltage Rating", .higher)]⟩),
  ("Inductors (SMD)", ⟨"Inductance", [],
    [("Current Rating", .higher), ("Current - Saturation (Isat)", .higher),
      ("DC Resistance(DCR)", .lower)]⟩),
  ("Power Inductors", ⟨"Inductance", [],
    [("Current Rating", .higher), ("Current - Saturation(Isat)", .higher),
      ("DC Resistance(DCR)", .lower)]⟩),
  ("Color Ring Inductors / Through Hole Inductors", ⟨"Inductance", [],
    [("Current Rating", .higher), ("DC Resistance(DCR)", .lower)]⟩),
  ("Wireless Charging Coils", ⟨"Inductance", ["Number of Coils"],
    [("DC Resistance(DCR)", .lower)]⟩),
  ("Ferrite Beads", ⟨"Impedance @ Frequency", [],
    [("Current Rating", .higher), ("DC Resistance(DCR)", .lower)]⟩),
  ("Common Mode Filters", ⟨"Impedance @ Frequency", ["Number of Lines"],
    [("Current Rating", .higher), ("Voltage Rating - DC", .higher)]⟩),
  ("MOSFETs", ⟨"Drain to Source Voltage", [],
    [("Drain to Source Voltage", .higher), ("Current - Continuous Drain(Id)", .higher),
      ("RDS(on)", .lower)]⟩),
  ("Silicon Carbide Field Effect Transistor (MOSFET)", ⟨"Drain to Source Voltage", [],
    [("Drain to Source Voltage", .higher), ("Current - Continuous Drain(Id)", .higher),
      ("RDS(on)", .lower)]⟩),
  ("JFETs", ⟨"FET Type", ["FET Type"], [("Drain Current (Idss)", .higher), ("RDS(on)", .lower)]⟩),
  ("Bipolar (BJT)", ⟨"type", ["type"],
    [("Collector - Emitter Voltage VCEO", .higher), ("Current - Collector(Ic)", .higher)]⟩),
  ("Darlington Transistors", ⟨"Type", ["Type"],
    [("Collector - Emitter Voltage VCEO", .higher), ("Current - Collector(Ic)", .higher)]⟩),
  ("Digital Transistors", ⟨"type", ["type"], [("Collector - Emitter Voltage VCEO", .higher)]⟩),
  ("Phototransistors", ⟨"Peak Wavelength", ["Peak Wavelength"],
    [("Collector - Emitter Voltage VCEO", .higher), ("Current - Collector(Ic)", .higher)]⟩),
  ("IGBT Transistors / Modules", ⟨"Collector-Emitter Breakdown Voltage (Vces)", [],
    [("Collector-Emitter Breakdown Voltage (Vces)", .higher),
      ("Current - Collector(Ic)", .higher), ("Vce Saturation(VCE(sat))", .lower)]⟩),
  ("Schottky Diodes", ⟨"Voltage - DC Reverse(Vr)", [],
    [("Voltage - DC Reverse(Vr)", .higher), ("Current - Rectified", .higher),
      ("Voltage - Forward(Vf@If)", .lower)]⟩),
  ("Switching Diodes", ⟨"Voltage - DC Reverse(Vr)", [],
    [("Voltage - DC Reverse(Vr)", .higher), ("Current - Rectified", .higher)]⟩),
  ("Zener Diodes", ⟨"Zener Voltage(Nom)", ["Zener Voltage(Nom)"],
    [("Pd - Power Dissipation", .higher)]⟩),
  ("Diodes - General Purpose", ⟨"Voltage - DC Reverse(Vr)", [],
    [("Voltage - DC Reverse(Vr)", .higher), ("Current - Rectified", .higher)]⟩),
  ("Diodes - Rectifiers - Fast Recovery", ⟨"Voltage - DC Reverse(Vr)", [],
    [("Voltage - DC Reverse(Vr)", .higher), ("Current - Average Rectified", .higher)]⟩),
  ("Fast Recovery / High Efficiency Diodes", ⟨"Voltage - DC Reverse(Vr)", [],
    [("Voltage - DC Reverse(Vr)", .higher), ("Current - Rectified", .higher)]⟩),
  ("Bridge Rectifiers", ⟨"Voltage - DC Reverse(Vr)", [],
    [("Voltage - DC Reverse(Vr)", .higher), ("Current - Rectified", .higher),
      ("Voltage - Forward(Vf@If)", .lower)]⟩),
  ("Super Barrier Rectifiers (SBR)", ⟨"Voltage - DC Reverse(Vr)", [],
    [("Voltage - DC Reverse(Vr)", .higher), ("Current - Rectified", .higher),
      ("Voltage - Forward(Vf@If)", .lower)]⟩),
  ("Avalanche Diodes", ⟨"Voltage - DC Reverse(Vr)", [],
    [("Voltage - DC Reverse(Vr)", .higher), ("Current - Rectified", .higher)]⟩),
  ("High Effic Rectifier", ⟨"Reverse Voltage", [],
    [("Reverse Voltage", .higher), ("Average Rectified Current", .higher)]⟩),
  ("SiC Diodes", ⟨"Voltage - DC Reverse(Vr)", [],
    [("Voltage - DC Reverse(Vr)", .higher), ("Current - Rectified", .higher)]⟩),
  ("ESD and Surge Protection (TVS/ESD)", ⟨"Reverse Stand-Off Voltage (Vrwm)", [],
    [("Clamping Voltage", .lower), ("Peak Pulse Power", .higher)]⟩),
  ("Varistors", ⟨"Varistor Voltage", ["Varistor Voltage"],
    [("Clamping Voltage", .lower), ("Energy", .higher)]⟩),
  ("Gas Discharge Tube Arresters (GDT)", ⟨"Voltage - DC Spark Over", ["Number of Poles"],
    [("Impulse Discharge Current", .higher)]⟩),
  ("Semiconductor Discharge Tubes (TSS)", ⟨"Peak off - state voltage(Vdrm)", [],
    [("Peak Pulse Current-Ipp (10/1000us)", .higher)]⟩),
  ("LED Protection", ⟨"Trigger Voltage", ["Trigger Voltage"], [("Hold Current", .higher)]⟩),
  ("Resettable Fuses", ⟨"Hold Current", ["Hold Current", "Trip Current"],
    [("Voltage - Max", .higher)]⟩),
  ("Automotive Fuses", ⟨"Current Rating", ["Current Rating", "Type"],
    [("Voltage Rating (DC)", .higher)]⟩),
  ("Thermal Fuses (TCO)", ⟨"Rated Functioning Temperature", ["Rated Functioning Temperature"],
    [("Current Rating", .higher), ("Voltage Rating", .higher)]⟩),
  ("Disposable fuses", ⟨"Current Rating", ["Current Rating", "Type"],
    [("Voltage Rating (AC)", .higher)]⟩),
  ("NTC Thermistors", ⟨"Resistance @ 25℃", ["Resistance @ 25℃", "B Constant (25℃/100℃)"], []⟩),
  ("PTC Thermistors", ⟨"Resistance @ 25℃", ["Resistance @ 25℃"], []⟩),
  ("LED Indication - Discrete", ⟨"Illumination Color", ["Illumination Color"], []⟩),
  ("LED - High Brightness", ⟨"Illumination Color", ["Illumination Color"], []⟩),
  ("Infrared (IR) LEDs", ⟨"Peak Wavelength", ["Peak Wavelength"], []⟩),
  ("Ultraviolet LEDs (UVLED)", ⟨"Peak Wavelength", ["Peak Wavelength"], []⟩),
  ("Light Bars, Arrays", ⟨"Color", ["Color", "Number of Segments"], []⟩),
  ("Transistor, Photovoltaic Output Optoisolators", ⟨"Isolation Voltage(Vrms)", [],
    [("Isolation Voltage(Vrms)", .higher)]⟩),
  ("Logic Output Optoisolators", ⟨"Isolation Voltage(Vrms)", [],
    [("Isolation Voltage(Vrms)", .higher), ("Data Rate", .higher)]⟩),
  ("Triac, SCR Output Optoisolators", ⟨"Load Voltage", [],
    [("Load Voltage", .higher), ("Load Current", .higher), ("Isolation Voltage(Vrms)", .higher)]⟩),
  ("Gate Drive Optocoupler", ⟨"Isolation Voltage(Vrms)", [],
    [("Isolation Voltage(Vrms)", .higher), ("Output Current(Max)", .higher)]⟩),
  ("Photointerrupters - Slot Type - Transistor Output", ⟨"Peak Wavelength", ["Peak Wavelength"],
    [("Load Voltage", .higher), ("Output Current", .higher)]⟩),
  ("Reflective Optical Interrupters", ⟨"Output Type", ["Output Type"],
    [("Current - Collector(Ic)", .higher)]⟩),
  ("Photoresistors", ⟨"Cell Resistance @ Illuminance", [], [("Voltage - Max", .higher)]⟩),
  ("Crystals", ⟨"Frequency", ["Frequency", "Load Capacitance"],
    [("Frequency Stability", .lower)]⟩),
  ("Crystal Oscillators", ⟨"Frequency", ["Frequency", "Output Type"],
    [("Frequency Stability", .lower)]⟩),
  ("Ceramic Resonators", ⟨"Frequency", ["Frequency"], []⟩),
  ("SAW Resonators", ⟨"Frequency", ["Frequency"], []⟩),
  ("Temperature Compensated Crystal Oscillators (TCXO)",
    ⟨"Frequency", ["Frequency", "Output Type"],
    [("Frequency Stability", .lower)]⟩),
  ("Voltage-Controlled Crystal Oscillators (VCXOs)", ⟨"Frequency", ["Frequency", "Output Type"],
    [("Frequency Stability", .lower)]⟩),
  ("Oven Controlled Crystal Oscillators (OCXOs)", ⟨"Frequency", ["Frequency", "Output Type"],
    [("Frequency Stability", .lower)]⟩),
  ("Voltage Regulators - Linear, Low Drop Out (LDO) Regulators",
    ⟨"Output Voltage", ["Output Voltage"],
    [("Output Current", .higher), ("Voltage Dropout", .lower)]⟩),
  ("Voltage Reference", ⟨"Output Voltage", ["Output Voltage"],
    [("Tolerance", .lower), ("Temperature Coefficient", .lower)]⟩),
  ("Digital Isolators",
    ⟨"Number of Forward Channels", ["Number of Forward Channels", "Number of Reverse Channels"],
    [("Isolation Voltage(Vrms)", .higher), ("Data Rate(Max)", .higher)]⟩),
  ("Tactile Switches", ⟨"Mounting Type", ["Mounting Type"],
    [("Voltage Rating", .higher), ("Contact Current", .higher)]⟩),
  ("DIP Switches", ⟨"Number of Positions", ["Number of Positions", "Type"],
    [("Voltage Rating", .higher), ("Current Rating", .higher)]⟩),
  ("Slide Switches", ⟨"Circuit", ["Circuit", "Mounting Type"],
    [("Voltage Rating", .higher), ("Current Rating", .higher)]⟩),
  ("Toggle Switches", ⟨"Circuit", ["Circuit"],
    [("Voltage Rating (DC)", .higher), ("Current Rating", .higher)]⟩),
  ("Rocker Switches", ⟨"Circuit", ["Circuit"],
    [("Voltage Rating (DC)", .higher), ("Current Rating", .higher)]⟩),
  ("Pushbutton Switches", ⟨"Self Lock / No Lock", ["Self Lock / No Lock"],
    [("Voltage Rating", .higher), ("Contact Current", .higher)]⟩),
  ("Rotary Switches", ⟨"Positions", ["Positions", "Number of Poles Per Deck"],
    [("Voltage Rating (DC)", .higher), ("Current Rating", .higher)]⟩),
  ("Power Relays", ⟨"Coil Voltage", ["Coil Voltage", "Contact Form"],
    [("Contact Rating", .higher), ("Switching Voltage(Max)", .higher)]⟩),
  ("Signal Relays", ⟨"Coil Voltage", ["Coil Voltage", "Contact Form"],
    [("Contact Rating", .higher), ("Switching Current(Max)", .higher)]⟩),
  ("Automotive Relays", ⟨"Coil Voltage", ["Coil Voltage", "Contact Form"],
    [("Contact Rating", .higher), ("Switching Voltage(Max)", .higher)]⟩),
  ("Reed Relays", ⟨"Coil Voltage", ["Coil Voltage", "Contact Form"],
    [("Switching Voltage(Max)", .higher), ("Switching Current(Max)", .higher)]⟩),
  ("Solid State Relays (MOS Output)", ⟨"Load Voltage", [],
    [("Load Voltage", .higher), ("Load Current", .higher), ("RDS(on)", .lower)]⟩),
  ("Solid State Relays (Triac Output)", ⟨"Load Voltage", ["Contact Form"],
    [("Load Voltage", .higher), ("Load Current", .higher)]⟩),
  ("Pin Headers", ⟨"Pitch", ["Pitch", "Number of Pins", "Number of Rows"],
    [("Current Rating", .higher)]⟩),
  ("Female Headers", ⟨"Pitch", ["Pitch", "Number of Positions", "Number of Rows"],
    [("Current Rating", .higher)]⟩),
  ("Screw Terminal Blocks", ⟨"Number of Positions or Pins", ["Number of Positions or Pins"],
    [("Voltage Rating (Max)", .higher), ("Current Rating", .higher)]⟩),
  ("Barrier Terminal Blocks",
    ⟨"Number of Positions or Pins", ["Pitch", "Number of Positions or Pins"],
    [("Voltage Rating (Max)", .higher), ("Current Rating", .higher)]⟩),
  ("Pluggable System Terminal Block",
    ⟨"Number of Positions or Pins", ["Pitch", "Number of Positions or Pins"],
    [("Voltage Rating (Max)", .higher), ("Current Rating", .higher)]⟩),
  ("USB Connectors", ⟨"Connector Type", ["Connector Type", "Gender"], []⟩),
  ("HDMI Connectors", ⟨"Connector Type", ["Connector Type", "Gender"], []⟩),
  ("DisplayPort (DP) Connector", ⟨"Connector Type", ["Connector Type"], []⟩),
  ("Audio Connectors", ⟨"Connector Type", ["Connector Type"],
    [("Voltage Rating", .higher), ("Current Rating", .higher)]⟩),
  ("Coaxial Connectors (RF)", ⟨"Connector Type", ["Connector Type", "Impedance"], []⟩),
  ("IDC Connectors", ⟨"Number of Positions or Pins", ["Number of Positions or Pins", "Pitch"],
    [("Current Rating", .higher)]⟩),
  ("Wire To Board Connector", ⟨"Pitch", ["Pitch", "Pins Structure"],
    [("Current Rating", .higher), ("Voltage Rating", .higher)]⟩),
  ("Circular Connectors & Cable Connectors", ⟨"Number of Pins", ["Number of Pins", "Gender"],
    [("Voltage Rating", .higher), ("Current Rating", .higher)]⟩),
  ("XLR (Cannon) Connectors", ⟨"Number of Pins", ["Number of Pins", "Gender"],
    [("Voltage Rating", .higher), ("Current Rating", .higher)]⟩),
  ("DIN41612 Connectors", ⟨"Number of Pins", ["Pitch", "Number of Pins", "Number of Rows"],
    [("Current Rating", .higher)]⟩),
  ("Shunts, Jumpers", ⟨"Pitch", ["Pitch", "Number of Positions"], [("Current Rating", .higher)]⟩),
  ("Speakers", ⟨"Impedance", ["Impedance"], [("Rated Power", .higher)]⟩),
  ("Buzzers", ⟨"Voltage - Supply", ["Driver Circuitry"], [("Sound Pressure Level", .higher)]⟩),
  ("Microphones", ⟨"Direction", ["Direction"], []⟩),
  ("MEMS Microphones", ⟨"Output Type", ["Output Type"], []⟩),
  ("Vibration Motors", ⟨"Voltage Rating", [],
    [("Voltage Rating", .higher), ("Current Rating", .higher)]⟩),
  ("Rotary Encoders", ⟨"Encoder Type", ["Encoder Type"],
    [("Rated Voltage (Max)", .higher), ("Current Rating (Max)", .higher)]⟩)]

def catalog : RuleBook := ofList catalogRules

end PartSearch.RuleBook
