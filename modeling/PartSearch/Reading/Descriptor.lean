import PartSearch.Filter.Basic
import PartSearch.Reading.Span

/-!
Phrases that imply a filter ("logic level", "x7r", "bidirectional"), and words that say nothing.
-/

namespace PartSearch

/-- A phrase found in a query, and the filter that it implies. -/
structure Descriptor where
  phrase : String
  filter : SpecFilter
deriving DecidableEq, Repr

namespace Descriptor

/-- Phrases, and name, operator and value of their filters. -/
def table : List (String × SpecFilter) := [
  ("low vgs", ⟨"Vgs(th)", .lt, "2.5V"⟩),
  ("low vgs(th)", ⟨"Vgs(th)", .lt, "2.5V"⟩),
  ("logic level", ⟨"Vgs(th)", .lt, "2.5V"⟩),
  ("logic-level", ⟨"Vgs(th)", .lt, "2.5V"⟩),
  ("low threshold", ⟨"Vgs(th)", .lt, "2.5V"⟩),
  ("low rds", ⟨"RDS(on)", .lt, "50mOhm"⟩),
  ("low rds(on)", ⟨"RDS(on)", .lt, "50mOhm"⟩),
  ("low on-resistance", ⟨"RDS(on)", .lt, "50mOhm"⟩),
  ("bidirectional", ⟨"Polarity", .eq, "Bidirectional"⟩),
  ("unidirectional", ⟨"Polarity", .eq, "Unidirectional"⟩),
  ("i2c", ⟨"Interface", .eq, "I2C"⟩),
  ("spi", ⟨"Interface", .eq, "SPI"⟩),
  ("uart", ⟨"Interface", .eq, "UART"⟩),
  ("i2s", ⟨"Interface", .eq, "I2S"⟩),
  ("can", ⟨"Interface", .eq, "CAN"⟩),
  ("rs485", ⟨"Interface", .eq, "RS485"⟩),
  ("rs232", ⟨"Interface", .eq, "RS232"⟩),
  ("1-wire", ⟨"Interface", .eq, "Single-bus"⟩),
  ("one-wire", ⟨"Interface", .eq, "Single-bus"⟩),
  ("single-bus", ⟨"Interface", .eq, "Single-bus"⟩),
  ("n-channel", ⟨"Type", .eq, "N-Channel"⟩),
  ("p-channel", ⟨"Type", .eq, "P-Channel"⟩),
  ("n channel", ⟨"Type", .eq, "N-Channel"⟩),
  ("p channel", ⟨"Type", .eq, "P-Channel"⟩),
  ("nmos", ⟨"Type", .eq, "N-Channel"⟩),
  ("pmos", ⟨"Type", .eq, "P-Channel"⟩),
  ("npn", ⟨"Type", .eq, "NPN"⟩),
  ("pnp", ⟨"Type", .eq, "PNP"⟩),
  ("red", ⟨"Illumination Color", .eq, "Red"⟩),
  ("green", ⟨"Illumination Color", .eq, "Green"⟩),
  ("blue", ⟨"Illumination Color", .eq, "Blue"⟩),
  ("yellow", ⟨"Illumination Color", .eq, "Yellow"⟩),
  ("white", ⟨"Illumination Color", .eq, "White"⟩),
  ("orange", ⟨"Illumination Color", .eq, "Orange"⟩),
  ("amber", ⟨"Illumination Color", .eq, "Amber"⟩),
  ("c0g", ⟨"Temperature Coefficient", .eq, "C0G"⟩),
  ("np0", ⟨"Temperature Coefficient", .eq, "NP0"⟩),
  ("x5r", ⟨"Temperature Coefficient", .eq, "X5R"⟩),
  ("x7r", ⟨"Temperature Coefficient", .eq, "X7R"⟩),
  ("x5s", ⟨"Temperature Coefficient", .eq, "X5S"⟩),
  ("x6s", ⟨"Temperature Coefficient", .eq, "X6S"⟩),
  ("x7s", ⟨"Temperature Coefficient", .eq, "X7S"⟩),
  ("y5v", ⟨"Temperature Coefficient", .eq, "Y5V"⟩),
  ("z5u", ⟨"Temperature Coefficient", .eq, "Z5U"⟩),
  ("fixed", ⟨"Output Type", .eq, "Fixed"⟩),
  ("adjustable", ⟨"Output Type", .eq, "Adjustable"⟩),
  ("variable", ⟨"Output Type", .eq, "Adjustable"⟩),
  ("precision", ⟨"Tolerance", .le, "0.1%"⟩),
  ("high precision", ⟨"Tolerance", .le, "0.05%"⟩)]

def phrases : List Descriptor := (Text.longestFirst table).map fun (p, f) => ⟨p, f⟩

def take (found : List Descriptor × List Char) (d : Descriptor) : List Descriptor × List Char :=
  let spans := Text.phraseSpans (Text.asciiLower found.2) d.phrase.toList
  if spans.isEmpty then found else (found.1 ++ [d], Span.cut found.2 spans)

/-- Every phrase in a text, the longest first, and the text without them. -/
def extract (text : String) : List Descriptor × String :=
  let (found, rest) := phrases.foldl take ([], text.toList)
  (found, String.ofList rest)

end Descriptor

def noiseWords : List String := [
  "for", "with", "and", "or", "the", "a", "an", "to", "in", "of", "type", "chip", "component",
  "part", "parts", "electronic", "electronics", "antenna", "receptacle", "jack", "plug"]

/-- The words of a text that are neither noise nor among some more words. -/
def removeNoise (extra : List String) (text : String) : String :=
  let isNoise (word : List Char) : Bool :=
    let lower := String.ofList (Text.lower word)
    noiseWords.contains lower || extra.contains lower
  String.ofList (Text.joinWith [' '] ((Text.words text.toList).filter fun w => !isNoise w))

end PartSearch
