import PartSearch.Number
import PartSearch.Quantity.Basic
import PartSearch.Quantity.Scalar
import PartSearch.Reading.Span

/-!
The numeric values in a query: "10k", "100nF", "1/4W", "4 pin", "2x5". Every kind of value is looked
for in the whole text, and overlaps are settled at the end. The order of the kinds decides between
values that start together, so tolerance and frequency come before resistance and voltage, and
"4k7" before "4k".
-/

namespace PartSearch

/-- A value found in a query, in SI units, with the spelling that filters use. -/
structure SpecValue (ν : Type) where
  raw : String
  value : ν
  quantity : Quantity
  normalized : String

namespace SpecValue

open Text (Pattern Found)
open Text.Pattern
open Number (ofText? tenTo whole)

variable {ν : Type} [Number ν]

/-- How one kind of value is found: a pattern, and what an occurrence says, if it says anything. -/
structure Scanner (ν : Type) where
  pattern : Pattern
  read : Found → Option (SpecValue ν)
  /-- Occurrences that start inside a value that was found before are passed over. -/
  yields : Bool := false

def make (m : Found) (q : Quantity) (value : ν) (normalized : List Char) : SpecValue ν :=
  { raw := String.ofList m.text, value, quantity := q, normalized := String.ofList normalized }

/-- A value from the number under capture 1: the scale, and the unit in its one spelling. -/
def scaled (q : Quantity) (rule : Found → (ν → ν) × String) (m : Found) : Option (SpecValue ν) :=
  (ofText? (m.capture 1)).map fun base =>
    let (scale, unit) := rule m
    make m q (scale base) (m.capture 1 ++ unit.toList)

def decimalThen (rest : Pattern) : Pattern := edge ++ capture 1 decimal ++ blanks ++ rest ++ edge

def letterOf (m : Found) : Option Char := (m.capture 2).head?.map Char.toUpper

def toleranceScanner : Scanner ν where
  pattern := edge ++ capture 1 decimal ++ blanks ++ charOf "%"
  read := scaled .tolerance fun _ => (id, "%")

def frequencyScanner : Scanner ν where
  pattern := decimalThen (maybe (capture 2 (charOf "kKmMgG")) ++ charOf "hH" ++ charOf "zZ")
  read := scaled .frequency fun m =>
    match letterOf m with
    | some 'K' => ((· * tenTo 3), "kHz")
    | some 'M' => ((· * tenTo 6), "MHz")
    | some 'G' => ((· * tenTo 9), "GHz")
    | _ => (id, "Hz")

/-- "4k7": the letter stands where the point would. -/
def inlineResistanceScanner : Scanner ν where
  pattern := edge ++ capture 1 digits ++ capture 2 (charOf "kKmMrR") ++ capture 3 digits ++ edge
  read m :=
    (ofText? (m.capture 1 ++ '.' :: m.capture 3)).map fun base =>
      let (value, letter) := match letterOf m with
        | some 'K' => (base * tenTo 3, 'k')
        | some 'M' => (base * tenTo 6, 'M')
        | _ => (base, 'R')
      make m .resistance value (m.capture 1 ++ letter :: m.capture 3)

/-- "10k", "10 kohm", "50mΩ". A small "m" before a unit is milli, any other is mega. -/
def resistanceScanner : Scanner ν where
  pattern := decimalThen <| capture 2 <| anyOf [
    caseless "kohm" ++ maybe (caseless "s"), caseless "mohm" ++ maybe (caseless "s"),
    caseless "ohm" ++ maybe (caseless "s"),
    maybe (caselessCharOf "km") ++ caselessCharOf "\u03a9", caselessCharOf "kmr"]
  read := scaled .resistance fun m =>
    match m.capture 2 with
    | 'k' :: _ | 'K' :: _ => ((· * tenTo 3), "kOhm")
    | 'm' :: _ :: _ => ((· / tenTo 3), "mOhm")
    | 'm' :: _ | 'M' :: _ => ((· * tenTo 6), "MOhm")
    | _ => (id, "Ohm")
  yields := true

def capacitanceScanner : Scanner ν where
  pattern := decimalThen (capture 2 (charOf "unp\u00b5\u03bc") ++ charOf "fF")
  read := scaled .capacitance fun m =>
    match m.capture 2 with
    | ['n'] => ((· * tenTo (-9)), "nF")
    | ['p'] => ((· * tenTo (-12)), "pF")
    | _ => ((· * tenTo (-6)), "uF")

def inductanceScanner : Scanner ν where
  pattern := decimalThen (capture 2 (charOf "unm\u00b5\u03bc") ++ charOf "hH")
  read := scaled .inductance fun m =>
    match m.capture 2 with
    | ['n'] => ((· * tenTo (-9)), "nH")
    | ['m'] => ((· * tenTo (-3)), "mH")
    | _ => ((· * tenTo (-6)), "uH")

def voltageScanner : Scanner ν where
  pattern := decimalThen (maybe (capture 2 (charOf "kK")) ++ charOf "vV")
  read := scaled .voltage fun m =>
    match m.capture 2 with
    | [] => (id, "V")
    | _ => ((· * tenTo 3), "kV")

def currentScanner : Scanner ν where
  pattern := decimalThen (maybe (capture 2 (charOf "u\u00b5\u03bcmM")) ++ charOf "aA")
  read := scaled .current fun m =>
    match m.capture 2 with
    | ['m'] | ['M'] => ((· * tenTo (-3)), "mA")
    | [] => (id, "A")
    | _ => ((· * tenTo (-6)), "uA")

def powerFractionScanner : Scanner ν where
  pattern := edge ++ capture 1 digits ++ charOf "/" ++ capture 2 digits ++ blanks ++ charOf "wW" ++
    edge
  read m := do
    let numerator : ν ← ofText? (m.capture 1)
    let denominator ← ofText? (m.capture 2)
    if denominator == whole 0 then none
    else
      some (make m .power (numerator / denominator)
        (m.capture 1 ++ '/' :: m.capture 2 ++ ['W']))

def powerScanner : Scanner ν where
  pattern := decimalThen (maybe (capture 2 (charOf "mM")) ++ charOf "wW")
  read := scaled .power fun m =>
    match m.capture 2 with
    | [] => (id, "W")
    | _ => ((· * tenTo (-3)), "mW")
  yields := true

def counted (q : Quantity) (m : Found) : Option (SpecValue ν) :=
  (ofText? (m.capture 1)).map fun (count : ν) => make m q count (Number.plain count ++ ['P'])

def pinCountScanner : Scanner ν where
  pattern := edge ++ capture 1 digits ++ blanks ++ maybe (charOf "-") ++ caseless "pin" ++
    maybe (caseless "s") ++ edge
  read := counted .pinCount

def positionCountScanner : Scanner ν where
  pattern := edge ++ capture 1 digits ++ blanks ++ maybe (charOf "-") ++ blanks ++
    anyOf [caseless "pos" ++ maybe (caseless "ition") ++ maybe (caseless "s"), caseless "way",
      caseless "p"] ++ edge
  read := counted .positionCount
  yields := true

/-- "2x5": rows and pins in each row. -/
def pinStructureScanner : Scanner ν where
  pattern := edge ++ capture 1 (charOf "12") ++ blanks ++ charOf "xX" ++ blanks ++
    capture 2 digits ++ edge
  read m := do
    let rows : ν ← ofText? (m.capture 1)
    let perRow ← ofText? (m.capture 2)
    some (make m .pinStructure (rows * perRow)
      (Number.plain rows ++ 'x' :: Number.plain perRow ++ ['P']))
  yields := true

/-- Pitches of connectors in hundredths of a millimetre; any other length is no pitch. -/
def commonPitches : List Nat := [50, 80, 100, 125, 127, 200, 254, 350, 381, 500, 508, 762]

def isCommonPitch (x : ν) : Bool :=
  commonPitches.any fun p =>
    Number.abs (Number.ofDecimal { mantissa := p, exponent := -2 } - x) < tenTo (-9)

def pitchScanner : Scanner ν where
  pattern := edge ++ capture 1 decimal ++ blanks ++ caseless "mm" ++
    maybe (many1 (one Text.isBlank) ++ caseless "pitch") ++ edge
  read m :=
    (ofText? (m.capture 1)).bind fun pitch =>
      if isCommonPitch pitch then some (make m .pitch pitch (m.capture 1 ++ "mm".toList)) else none
  yields := true

def dimensionsScanner : Scanner ν where
  pattern := edge ++ capture 1 decimal ++ blanks ++ charOf "xX" ++ blanks ++ capture 2 decimal ++
    blanks ++ maybe (exact "mm") ++ edge
  read m := do
    let width : ν ← ofText? (m.capture 1)
    let height ← ofText? (m.capture 2)
    some (make m .dimensions (width * height) (m.capture 1 ++ 'x' :: m.capture 2 ++ "mm".toList))

/-- The kinds of values in order of precedence. -/
def scanners : List (Scanner ν) :=
  [toleranceScanner, frequencyScanner, inlineResistanceScanner, resistanceScanner,
    capacitanceScanner, inductanceScanner, voltageScanner, currentScanner, powerFractionScanner,
    powerScanner, pinCountScanner, positionCountScanner, pinStructureScanner, pitchScanner,
    dimensionsScanner]

/-- What one scanner finds, given what was found before. -/
def scan (cs : List Char) (found : List (Candidate (SpecValue ν))) (scanner : Scanner ν) :
    List (Candidate (SpecValue ν)) :=
  (scanner.pattern.findAll cs).filterMap fun m =>
    if scanner.yields && found.any fun c => c.span.covers m.start then none
    else (scanner.read m).map fun value => ⟨⟨m.start, m.stop⟩, value⟩

def candidates (ν : Type) [Number ν] (cs : List Char) : List (Candidate (SpecValue ν)) :=
  scanners.foldl (fun found scanner => found ++ scan cs found scanner) []

/-- The values of a text in their order, and the text without them. -/
def extract (ν : Type) [Number ν] (text : String) : List (SpecValue ν) × String :=
  let kept := Candidate.select (candidates ν text.toList)
  (kept.map (·.value), String.ofList (Span.cut text.toList (kept.map (·.span))))

end SpecValue

end PartSearch
