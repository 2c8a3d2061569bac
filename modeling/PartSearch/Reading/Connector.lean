import PartSearch.Decimal.Basic
import PartSearch.Reading.Span

/-!
Families of connectors in a query, by brand and series: "JST PH", "Qwiic", "U.FL".
-/

namespace PartSearch

structure Connector where
  brand : String
  series : String
  /-- Distance of the contacts in millimetres, if the family has a single one. -/
  pitch : Option Decimal
  subcategory : String
deriving DecidableEq, Repr

namespace Connector

open Text (Pattern)
open Text.Pattern

/-- A family between wires and boards, with the pitch in hundredths of a millimetre. -/
def wireToBoard (brand series : String) (pitch : Nat) : Connector where
  brand := brand
  series := series
  pitch := some { mantissa := pitch, exponent := -2 }
  subcategory := "wire to board connector"

def ipex : Connector where
  brand := "I-PEX"
  series := "IPEX"
  pitch := none
  subcategory := "coaxial connectors (rf)"

def names : List (String × Connector) := [
  ("jst ph", wireToBoard "JST" "PH" 200),
  ("jst xh", wireToBoard "JST" "XH" 250),
  ("jst sh", wireToBoard "JST" "SH" 100),
  ("jst gh", wireToBoard "JST" "GH" 125),
  ("jst zh", wireToBoard "JST" "ZH" 150),
  ("jst eh", wireToBoard "JST" "EH" 250),
  ("jst vh", wireToBoard "JST" "VH" 396),
  ("molex picoblade", wireToBoard "Molex" "PicoBlade" 125),
  ("picoblade", wireToBoard "Molex" "PicoBlade" 125),
  ("molex micro-fit", wireToBoard "Molex" "Micro-Fit" 300),
  ("micro-fit", wireToBoard "Molex" "Micro-Fit" 300),
  ("molex mini-fit", wireToBoard "Molex" "Mini-Fit" 420),
  ("mini-fit", wireToBoard "Molex" "Mini-Fit" 420),
  ("dupont", wireToBoard "Dupont" "Dupont" 254),
  ("grove", wireToBoard "Seeed" "Grove" 200),
  ("qwiic", wireToBoard "JST" "SH" 100),
  ("stemma qt", wireToBoard "JST" "SH" 100),
  ("u.fl", ipex),
  ("ipex", ipex),
  ("i-pex", ipex),
  ("ipx", ipex),
  ("mhf", ipex)]

/-- The words of a name, with any blanks and hyphens between them. -/
def pattern (name : String) : Pattern :=
  let parts := Text.splitAt (fun c => c = ' ' || c = '-') name.toList
  let gap := many (one fun c => Text.isBlank c || c = '-')
  let body := parts.map fun part => caseless (String.ofList part)
  wordOf (body.tail.foldl (fun p part => p ++ gap ++ part) (body.headD nothing))

/-- Names and patterns of the families, the longest name first. -/
def patterns : List (Pattern × Connector) :=
  (Text.longestFirst names).map fun (name, connector) => (pattern name, connector)

def extract (text : String) : Option Connector × String :=
  match patterns.findSome? fun (p, connector) =>
      (p.find? text.toList).map fun m => (connector, m) with
  | some (connector, m) => (some connector, String.ofList m.remove)
  | none => (none, text)

/-- The text with the miniature coaxial connectors under their catalog name. -/
def spellIpex (text : String) : String :=
  String.ofList <| (wordOf (anyOf [caseless "u.fl", caseless "mhf", caseless "i-pex",
    caseless "ipx"])).replaceAll (fun _ => "IPEX".toList) text.toList

/-- Brand and series as descriptions in catalogs name them. -/
def searchTerm (c : Connector) : String :=
  if Text.sameText c.brand c.series || c.pitch.isNone then c.series
  else c.brand ++ " " ++ c.series

/-- Words that say what a connector carries. -/
def noiseWords : List String := ["power", "data", "signal", "charging", "cable", "port"]

/-- Does the name of a subcategory speak of connectors? Their listings have few attributes. -/
def isSubcategory (subcategory : String) : Bool :=
  ["connector", "header", "terminal", "socket", "jumper"].any (containsText subcategory)

end Connector

end PartSearch
