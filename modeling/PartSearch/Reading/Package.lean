import PartSearch.Text.Pattern

/-!
Packages in a query, brought to the spelling of the catalog: "sot23" is "SOT-23".
-/

namespace PartSearch

/-- A package found in a query. Some designators only suggest a subcategory. -/
structure PackageHit where
  package : Option String := none
  suggested : Option String := none
deriving DecidableEq, Repr

namespace PackageHit

open Text (Pattern Found)
open Text.Pattern

/-- What a designator of some family stands for. -/
inductive Meaning where
  | designator
  /-- A diode package, unless a connector is spoken of. -/
  | diodeOutline
  /-- A short code for a diode package. -/
  | diodeCode
  /-- A receptacle, which catalogs list under other packages. -/
  | receptacle
deriving DecidableEq, Repr

/-- Letters of a family and the hyphen that is often left out after them. -/
def family (letters : String) : Pattern := caseless letters ++ maybe (charOf "-")

/-- A pin count or variant after a hyphen. -/
def variant : Pattern := maybe (charOf "-" ++ digits)

def exposedPad : Pattern := maybe (caseless "-EP")

def bodySize : Pattern := maybe (charOf "(" ++ many1 (one (· != ')')) ++ charOf ")")

def oneOf (texts : List String) : Pattern := anyOf (texts.map caseless)

/-- Chip sizes in hundredths of an inch. -/
def imperialSizes : List String := [
  "01005", "0201", "0402", "0603", "0805", "1206", "1210", "1812", "2010", "2512"]

/-- Sizes of crystals, oscillators and LEDs in tenths of a millimetre. -/
def metricSizes : List String := [
  "1610", "1612", "2012", "2016", "2520", "2835", "3014", "3020", "3030", "3215", "3225", "3528",
  "3535", "5032", "5050", "5730", "6035", "7050", "7060", "8045", "8080", "9070"]

/-- A family whose letters may carry one of some more letters in front, and a pin count. -/
def pinned (leads : List String) (letters : String) : Pattern :=
  maybe (oneOf leads) ++ family letters ++ digits

/-- The families of designators, in the order in which they are tried. Longer family names come
before shorter ones that they contain. -/
def families : List (Pattern × Meaning) := [
  (anyOf (imperialSizes.map exact), .designator),
  (anyOf (metricSizes.map exact), .designator),
  (oneOf ["0402M", "0603M", "0805M", "1206M"], .designator),
  (anyOf [
    family "SOT" ++ exact "23" ++ variant ++ maybe (caseless "L"),
    family "SOT" ++ exact "89" ++ variant,
    family "SOT" ++ exact "223" ++ variant,
    family "SOT" ++ exact "323" ++ variant,
    family "SOT" ++ exact "363" ++ variant,
    family "SOT" ++ exact "523" ++ variant,
    family "SOT" ++ exact "723" ++ variant], .designator),
  (family "SOD" ++ oneOf ["123FL", "323FL", "123", "323", "523", "923", "128", "882", "80", "110"],
    .designator),
  (family "DO" ++ oneOf ["35", "41", "201", "204", "214", "215", "218", "219", "220"] ++
    maybe (oneOf ["AA", "AB", "AC", "AD", "AE", "AF", "AG"]), .designator),
  (anyOf [
    family "TO" ++ exact "92" ++ maybe (oneOf ["S", "L"]),
    family "TO" ++ exact "220" ++ maybe (oneOf ["F", "FP", "AB"]) ++ variant,
    family "TO" ++ exact "252" ++ variant,
    family "TO" ++ exact "263" ++ variant,
    family "TO" ++ exact "247" ++ variant,
    family "TO" ++ exact "251",
    family "TO" ++ caseless "3P" ++ maybe (caseless "F"),
    oneOf ["DPAK", "D2PAK", "D3PAK"]], .designator),
  (anyOf [
    maybe (caseless "V") ++ family "QFN" ++ digits ++ exposedPad ++ bodySize,
    family "DFN" ++ digits ++ exposedPad ++ bodySize,
    family "WQFN" ++ digits, family "TQFN" ++ digits, family "UQFN" ++ digits], .designator),
  (pinned ["L", "T", "H", "PQ"] "QFP" ++ bodySize, .designator),
  (pinned ["FC", "W", "T", "M", "U", "P", "F"] "BGA" ++ bodySize, .designator),
  (pinned ["WL", "LF", "U", "FC", "V"] "CSP" ++ exposedPad ++ bodySize, .designator),
  (anyOf [pinned ["P", "S", "SK", "C"] "DIP" ++ bodySize, family "SIP" ++ digits], .designator),
  (anyOf (["TSSOP", "SSOP", "MSOP", "QSOP", "HTSSOP", "VSSOP"].map fun letters =>
    family letters ++ digits), .designator),
  (anyOf [
    family "SOP" ++ digits ++ variant ++ bodySize,
    family "SOIC" ++ digits ++ variant ++ bodySize], .designator),
  (family "SO" ++ digits, .designator),
  (anyOf [family "SMD" ++ digits, family "LGA" ++ digits], .designator),
  (caseless "SM" ++ caselessCharOf "ABC", .diodeOutline),
  (caseless "M" ++ charOf "478", .diodeCode),
  (anyOf [
    family "USB" ++ caselessCharOf "ABC", family "TYPE" ++ caselessCharOf "ABC",
    family "MICRO" ++ caseless "USB", family "MINI" ++ caseless "USB"], .receptacle)]

/-- Capitals, and a hyphen after the letters of the families that catalogs always hyphenate. -/
def canonical (cs : List Char) : List Char :=
  let hyphenate (letters : Pattern) (cs : List Char) : List Char :=
    (capture 1 letters ++ capture 2 digit).replaceAll
      (fun m => m.capture 1 ++ '-' :: m.capture 2) cs
  hyphenate (edge ++ exact "TO") (hyphenate (exact "SOD") (hyphenate (exact "SOT") (Text.upper cs)))

/-- Is a connector spoken of right after an occurrence? -/
def namesConnector (m : Found) : Bool :=
  "connector".toList.isPrefixOf (Text.asciiLower (Text.trimStart m.after))

def occurrence? (pattern : Pattern) (meaning : Meaning) (cs : List Char) : Option Found :=
  match meaning with
  | .diodeOutline => ((wordOf pattern).findAll cs).find? fun m => !namesConnector m
  | _ => (wordOf pattern).find? cs

/-- What an occurrence says, and the text without it. A receptacle stays in the text. -/
def ofOccurrence (text : String) (meaning : Meaning) (m : Found) : PackageHit × String :=
  match meaning with
  | .receptacle => ({ suggested := some "usb connectors" }, text)
  | .diodeCode =>
    let package := if canonical m.text = "M8".toList then "SMB" else "SMA"
    ({ package := some package }, String.ofList m.remove)
  | _ => ({ package := some (String.ofList (canonical m.text)) }, String.ofList m.remove)

/-- The first family that occurs in a text, and the text without its designator. -/
def extract (text : String) : PackageHit × String :=
  let cs := text.toList
  let first := families.findSome? fun (p, meaning) =>
    (occurrence? p meaning cs).map fun m => (meaning, m)
  match first with
  | some (meaning, m) => ofOccurrence text meaning m
  | none => ({}, text)

end PackageHit

end PartSearch
