import PartSearch.Number
import PartSearch.Text.Pattern

/-!
Single quantities as they stand in catalogs and queries ("4k7", "100nF", "1/4W", "±20ppm"), read
into SI units. Reading never fails otherwise than by giving no number, and never gives an infinite
one.
-/

namespace PartSearch

inductive ScalarFormat where
  | voltage
  /-- A voltage before an "@" and its test current. -/
  | forwardVoltage
  | current
  | power
  | resistance
  | capacitance
  /-- A capacitance in picofarads, the unit of load capacitances. -/
  | picofarads
  | inductance
  | frequency
  | percentage
  | ppm
  | decibels
  | temperature
  /-- A size in bytes; bits are converted. -/
  | memory
  | wavelength
  | luminosity
  | millimetres
  | integer
deriving DecidableEq, Repr

namespace ScalarFormat

open Text (Pattern)
open Text.Pattern
open Number (ofText? finite? tenTo whole)

variable {ν : Type} [Number ν]

/-- The number of the first pattern that occurs, put to scale. A pattern that occurs decides, even
if its number cannot be read. -/
def readFirst? : List (Pattern × (ν → ν)) → List Char → Option ν
  | [], _ => none
  | (p, scale) :: rest, cs =>
    match p.find? cs with
    | some m => (ofText? (m.capture 1)).bind fun x => finite? (scale x)
    | none => readFirst? rest cs

/-- A number, captured under 1, before a unit. -/
def before (unit : Pattern) : Pattern := capture 1 numeral ++ blanks ++ unit

/-- A number, captured under 1, and an optional letter right before `rest`, captured under 2. -/
def withLetter (letter rest : Pattern) : Pattern :=
  capture 1 numeral ++ blanks ++ maybe (capture 2 letter) ++ rest

def letterOf (m : Text.Found) (number : Nat) : Option Char := (m.capture number).head?

/-! ### Electrical quantities -/

/-- "100V", "1.5kV", "550mV". -/
def readVoltage? (cs : List Char) : Option ν :=
  readFirst? [(before (caseless "kV"), (· * tenTo 3)), (before (exact "mV"), (· / tenTo 3)),
    (before (caseless "V"), id)] cs

def readForwardVoltage? (cs : List Char) : Option ν := readVoltage? (cs.takeWhile (· != '@'))

def readCurrent? (cs : List Char) : Option ν :=
  readFirst? [(before (caselessCharOf "u\u00b5" ++ caseless "A"), (· / tenTo 6)),
    (before (exact "nA"), (· / tenTo 9)), (before (caseless "mA"), (· / tenTo 3)),
    (before (caseless "A"), id)] cs

def wattFraction : Pattern :=
  capture 1 digits ++ blanks ++ charOf "/" ++ blanks ++ capture 2 digits ++ blanks ++ caseless "W"

/-- "1/4W", "250mW", "1W", "1.5kW". -/
def readPower? (cs : List Char) : Option ν :=
  match wattFraction.find? cs with
  | some m => do
    let numerator : ν ← ofText? (m.capture 1)
    let denominator ← ofText? (m.capture 2)
    if denominator == whole 0 then none else finite? (numerator / denominator)
  | none =>
    readFirst? [(before (exact "mW"), (· / tenTo 3)), (before (caseless "kW"), (· * tenTo 3)),
      (before (caseless "W"), id)] cs

/-- "Ohm", "ohms", "Ω" in any case. -/
def ohm : Pattern := either (caseless "ohm" ++ maybe (caseless "s")) (caselessCharOf "\u03a9")

/-- A small "m" before the unit; a capital one means mega. -/
def milliohm : Pattern :=
  charOf "m" ++ blanks ++
    either (charOf "\u03a9\u2126") (charOf "Oo" ++ charOf "Hh" ++ charOf "Mm")

/-- "4k7", "4R7", "1M5": the letter stands where the point would. -/
def inlineLetter : Pattern :=
  capture 1 digits ++ capture 2 (caselessCharOf "kmr") ++ capture 3 digits

def resistanceScale (letter : Option Char) (x : ν) : ν :=
  match letter with
  | some 'k' | some 'K' => x * tenTo 3
  | some 'm' | some 'M' => x * tenTo 6
  | _ => x * tenTo 0

/-- "0R" and "0", a link without resistance. -/
def isJumper (cs : List Char) : Bool := Text.asciiLower cs = ['0', 'r'] || cs = ['0']

/-- A resistance without its unit, when the unit had no "m" before it. -/
def readBareResistance? (cs : List Char) : Option ν :=
  match inlineLetter.find? cs with
  | some m =>
    (ofText? (m.capture 1 ++ '.' :: m.capture 3)).bind fun x =>
      finite? (resistanceScale (letterOf m 2) x)
  | none =>
    if isJumper cs then some (whole 0) else
      (withLetter (charOf "kKmMrR") nothing).find? cs |>.bind fun m =>
        (ofText? (m.capture 1)).bind fun x => finite? (resistanceScale (letterOf m 2) x)

def readMilliohms? (cs : List Char) : Option ν :=
  if isJumper cs then some (whole 0) else readFirst? [(capture 1 numeral, (· / tenTo 3))] cs

/-- "10k", "10kΩ", "2.2MOhm", "50mΩ", "4k7", "0R". -/
def readResistance? (cs : List Char) : Option ν :=
  let trimmed := Text.trim cs
  if trimmed.isEmpty then none else
    let bare := Text.trim (ohm.removeAll trimmed)
    if milliohm.occurs trimmed then readMilliohms? bare else readBareResistance? bare

/-- The first number and the letter behind it, once the unit is removed. -/
def readPrefixed? (unit : Pattern) (scale : Char → Option ν) (cs : List Char) : Option ν :=
  (withLetter (one fun c => !Text.isDigit c && !Text.isBlank c && c != '.') nothing).find?
    (unit.removeAll (Text.trim cs)) |>.bind fun m =>
      (ofText? (m.capture 1)).bind fun x =>
        finite? (x * ((letterOf m 2).bind scale).getD (whole 1))

def smallPrefix (c : Char) : Option ν :=
  match c with
  | 'p' | 'P' => some (tenTo (-12))
  | 'n' | 'N' => some (tenTo (-9))
  | 'u' | 'U' | '\u00b5' | '\u03bc' => some (tenTo (-6))
  | 'm' | 'M' => some (tenTo (-3))
  | _ => none

def largePrefix (c : Char) : Option ν :=
  match c with
  | 'k' | 'K' => some (tenTo 3)
  | 'm' | 'M' => some (tenTo 6)
  | 'g' | 'G' => some (tenTo 9)
  | _ => none

def readCapacitance? (cs : List Char) : Option ν := readPrefixed? (charOf "Ff") smallPrefix cs

/-- "12.5pF", "12", "1nF", in picofarads. -/
def readPicofarads? (cs : List Char) : Option ν :=
  (withLetter (charOf "pnu\u00b5\u03bc") nothing).find?
    ((charOf "Ff").removeAll (Text.trim cs)) |>.bind fun m =>
      (ofText? (m.capture 1)).bind fun x =>
        finite? <| match letterOf m 2 with
          | some 'n' => x * tenTo 3
          | some 'u' | some '\u00b5' | some '\u03bc' => x * tenTo 6
          | _ => x * tenTo 0

def readInductance? (cs : List Char) : Option ν := readPrefixed? (charOf "Hh") smallPrefix cs

def readFrequency? (cs : List Char) : Option ν := readPrefixed? (caseless "hz") largePrefix cs

/-! ### Ratios and the rest -/

/-- "±1%" is 1. -/
def readPercentage? (cs : List Char) : Option ν := readFirst? [(before (charOf "%"), id)] cs

def readPpm? (cs : List Char) : Option ν := readFirst? [(before (caseless "ppm"), id)] cs

def readDecibels? (cs : List Char) : Option ν := readFirst? [(before (caseless "dB"), id)] cs

/-- "-40℃", "+85°C", "125". -/
def readTemperature? (cs : List Char) : Option ν :=
  readFirst? [(capture 1 (maybe (charOf "+-") ++ numeral), id)] cs

def memoryScale (letter : Option Char) : ν :=
  match letter with
  | some 'K' => whole 1024
  | some 'M' => whole (1024 * 1024)
  | some 'G' => whole (1024 * 1024 * 1024)
  | _ => whole 1

/-- "64KB", "512Kbit" in bytes. -/
def readMemory? (cs : List Char) : Option ν :=
  let upper := Text.upper (Text.trim cs)
  match (withLetter (charOf "KMG") (exact "BIT")).find? upper with
  | some m =>
    (ofText? (m.capture 1)).bind fun x => finite? (x * memoryScale (letterOf m 2) / whole 8)
  | none =>
    (withLetter (charOf "KMG") (exact "B")).find? upper |>.bind fun m =>
      (ofText? (m.capture 1)).bind fun x => finite? (x * memoryScale (letterOf m 2))

def readWavelength? (cs : List Char) : Option ν := readFirst? [(before (caseless "nm"), id)] cs

def readLuminosity? (cs : List Char) : Option ν := readFirst? [(before (caseless "mcd"), id)] cs

/-- "2.54mm", "2.54". -/
def readMillimetres? (cs : List Char) : Option ν := readFirst? [(capture 1 numeral, id)] cs

/-- The first run of digits: "40 Pin" is 40. -/
def readInteger? (cs : List Char) : Option ν := readFirst? [(capture 1 digits, id)] cs

/-- The quantity that a text states in this format, in SI units. -/
def read? (format : ScalarFormat) (text : String) : Option ν :=
  let cs := text.toList
  match format with
  | voltage => readVoltage? cs
  | forwardVoltage => readForwardVoltage? cs
  | current => readCurrent? cs
  | power => readPower? cs
  | resistance => readResistance? cs
  | capacitance => readCapacitance? cs
  | picofarads => readPicofarads? cs
  | inductance => readInductance? cs
  | frequency => readFrequency? cs
  | percentage => readPercentage? cs
  | ppm => readPpm? cs
  | decibels => readDecibels? cs
  | temperature => readTemperature? cs
  | memory => readMemory? cs
  | wavelength => readWavelength? cs
  | luminosity => readLuminosity? cs
  | millimetres => readMillimetres? cs
  | integer => readInteger? cs

end ScalarFormat

end PartSearch
