import PartSearch.Attribute.Format

/-!
The names of attributes: short ones that filters use ("Vds"), the catalog names that they stand
for, and the numeric columns that are computed from the catalog attributes.
-/

namespace PartSearch.Attribute

/-- Short names and the catalog names that they stand for. -/
def aliases : List (String × List String) := [
  ("Vgs(th)", ["Gate Threshold Voltage (Vgs(th))", "Gate Threshold Voltage"]),
  ("Vds", ["Drain to Source Voltage"]),
  ("Id", ["Current - Continuous Drain(Id)"]),
  ("Rds(on)", ["RDS(on)"]),
  ("Vr", ["Voltage - DC Reverse(Vr)"]),
  ("If", ["Current - Rectified"]),
  ("Vf", ["Voltage - Forward(Vf@If)"]),
  ("Capacitance", ["Capacitance"]),
  ("Voltage", ["Voltage Rating"]),
  ("Tolerance", ["Tolerance"]),
  ("Power", ["Power(Watts)", "Pd - Power Dissipation"]),
  ("Resistance", ["Resistance"]),
  ("Inductance", ["Inductance"]),
  ("DCR", ["DC Resistance(DCR)"]),
  ("Isat", ["Current - Saturation(Isat)", "Current - Saturation (Isat)"]),
  ("Frequency", ["Frequency"]),
  ("Vceo", ["Collector - Emitter Voltage VCEO"]),
  ("Ic", ["Current - Collector(Ic)"]),
  ("Vout", ["Output Voltage"]),
  ("Iout", ["Output Current"])]

def aliasOf? (name : String) : Option (String × List String) :=
  aliases.find? fun (_, names) => names.contains name

/-- Every catalog name that the name in a filter may refer to: what an alias lists, a name whose
format is known itself, and otherwise the list that the name stands in. -/
def catalogNames (name : String) : List String :=
  match aliases.lookup name with
  | some names => names
  | none =>
    if (AttributeFormat.ofAttribute? name).isSome then [name] else
      match aliasOf? name with
      | some (_, names) => names
      | none => [name]

def formatOf? (names : List String) : Option AttributeFormat :=
  names.findSome? AttributeFormat.ofAttribute?

/-- A numeric column, and how the value of a filter on it is read. -/
structure Column where
  name : String
  format : ScalarFormat
deriving DecidableEq, Repr

def columns : List (String × Column) := [
  ("Resistance", ⟨"resistance_ohms", .resistance⟩),
  ("Capacitance", ⟨"capacitance_f", .capacitance⟩),
  ("Inductance", ⟨"inductance_h", .inductance⟩),
  ("DC Resistance(DCR)", ⟨"dcr_ohms", .resistance⟩),
  ("DCR", ⟨"dcr_ohms", .resistance⟩),
  ("Current - Saturation(Isat)", ⟨"isat_a", .current⟩),
  ("Current - Saturation (Isat)", ⟨"isat_a", .current⟩),
  ("Isat", ⟨"isat_a", .current⟩),
  ("Voltage Rating", ⟨"voltage_max_v", .voltage⟩),
  ("Voltage", ⟨"voltage_max_v", .voltage⟩),
  ("Current Rating", ⟨"current_max_a", .current⟩),
  ("Tolerance", ⟨"tolerance_pct", .percentage⟩),
  ("Power(Watts)", ⟨"power_w", .power⟩),
  ("Power", ⟨"power_w", .power⟩),
  ("Pd - Power Dissipation", ⟨"power_w", .power⟩),
  ("Drain to Source Voltage", ⟨"vds_max_v", .voltage⟩),
  ("Vds", ⟨"vds_max_v", .voltage⟩),
  ("Current - Continuous Drain(Id)", ⟨"id_max_a", .current⟩),
  ("Id", ⟨"id_max_a", .current⟩),
  ("RDS(on)", ⟨"rds_on_ohms", .resistance⟩),
  ("Rds(on)", ⟨"rds_on_ohms", .resistance⟩),
  ("Voltage - DC Reverse(Vr)", ⟨"vr_max_v", .voltage⟩),
  ("Vr", ⟨"vr_max_v", .voltage⟩),
  ("Current - Rectified", ⟨"if_max_a", .current⟩),
  ("If", ⟨"if_max_a", .current⟩),
  ("Voltage - Forward(Vf@If)", ⟨"vf_v", .voltage⟩),
  ("Vf", ⟨"vf_v", .voltage⟩),
  ("Output Voltage", ⟨"vout_v", .voltage⟩),
  ("Vout", ⟨"vout_v", .voltage⟩),
  ("Output Current", ⟨"iout_max_a", .current⟩),
  ("Iout", ⟨"iout_max_a", .current⟩),
  ("Voltage Dropout", ⟨"vdropout_v", .voltage⟩),
  ("Quiescent Current(Iq)", ⟨"iq_ua", .current⟩),
  ("Quiescent Current", ⟨"iq_ua", .current⟩),
  ("Sampling Rate", ⟨"sample_rate_hz", .frequency⟩),
  ("Load Capacitance", ⟨"load_capacitance_pf", .capacitance⟩),
  ("Frequency Stability", ⟨"freq_tolerance_ppm", .ppm⟩),
  ("Gain Bandwidth Product", ⟨"gbw_hz", .frequency⟩),
  ("Ripple Current", ⟨"ripple_current_a", .current⟩),
  ("Equivalent Series Resistance(ESR)", ⟨"esr_ohms", .resistance⟩),
  ("ESR", ⟨"esr_ohms", .resistance⟩),
  ("Flash", ⟨"flash_size_bytes", .memory⟩),
  ("Program Memory Size", ⟨"flash_size_bytes", .memory⟩),
  ("SRAM", ⟨"ram_size_bytes", .memory⟩),
  ("RAM Size", ⟨"ram_size_bytes", .memory⟩),
  ("Speed", ⟨"clock_speed_hz", .frequency⟩),
  ("CPU Maximum Speed", ⟨"clock_speed_hz", .frequency⟩),
  ("Capacity", ⟨"memory_capacity_bits", .memory⟩),
  ("Memory Size", ⟨"memory_capacity_bits", .memory⟩),
  ("Charging Current", ⟨"charge_current_a", .current⟩),
  ("Charge Current - Max", ⟨"charge_current_a", .current⟩),
  ("Clamping Voltage", ⟨"clamping_voltage_v", .voltage⟩),
  ("Reverse Stand-Off Voltage (Vrwm)", ⟨"standoff_voltage_v", .voltage⟩),
  ("Peak Pulse Power(Ppk)", ⟨"surge_power_w", .power⟩)]

/-- The column that serves a filter on `name`, under this name or under one that it stands for. -/
def column? (name : String) : Option Column :=
  (name :: catalogNames name).findSome? fun n => columns.lookup n

/-- The catalog attributes that feed the columns. -/
def columnSources : List (String × Column) :=
  columns.filter fun (name, _) =>
    match aliases.lookup name with
    | none => true
    | some names => names.contains name

end PartSearch.Attribute
