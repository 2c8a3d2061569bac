import PartSearch.Text.Pattern

/-!
Footprints under their several names. A chip size has an imperial and a metric name, and a package
is listed with or without its pin count and its body size.
-/

namespace PartSearch.Footprint

/-- Packages in lowercase, and the spellings under which catalogs list them. -/
def families : List (String × List String) := [
  ("0402", ["0402", "1005"]),
  ("0603", ["0603", "1608"]),
  ("0805", ["0805", "2012"]),
  ("1206", ["1206", "3216"]),
  ("sot-23", ["SOT-23", "SOT-23-3", "SOT-23-3L", "SOT-23(TO-236)"]),
  ("sot-23-5", ["SOT-23-5", "SOT-23-5L"]),
  ("sot-23-6", ["SOT-23-6", "SOT-23-6L"]),
  ("sot-223", ["SOT-223", "SOT-223-3", "SOT-223-3L", "SOT-223-4"]),
  ("sot-89", ["SOT-89", "SOT-89-3", "SOT-89-3L"]),
  ("to-252", ["TO-252", "TO-252-2", "TO-252-2L", "DPAK"]),
  ("to-263", ["TO-263", "TO-263-2", "D2PAK"]),
  ("to-220", ["TO-220", "TO-220-3", "TO-220F", "TO-220F-3"]),
  ("qfn-16", ["QFN-16", "QFN-16-EP(3x3)", "QFN-16-EP(4x4)", "QFN-16(3x3)", "VQFN-16"]),
  ("qfn-24", ["QFN-24", "QFN-24-EP(4x4)", "VQFN-24", "VQFN-24-EP(4x4)"]),
  ("qfn-32", ["QFN-32", "QFN-32-EP(5x5)", "VQFN-32", "VQFN-32-EP(5x5)"])]

def imperialSizes : List String := [
  "01005", "0201", "03015", "0402", "0603", "0612", "0805", "0806", "1008", "1206", "1210", "1212",
  "1218", "1806", "1808", "1812", "2010", "2220", "2410", "2512", "2920", "3920", "5930"]

/-- Bodies of crystals and LEDs by their size in tenths of a millimetre, and the spellings under
which catalogs list them. -/
def bodies : List (String × List String) := [
  ("1610", ["SMD1610", "SMD1610-2P"]),
  ("1612", ["SMD1612-4P"]),
  ("2012", ["SMD2012-2P", "SMD2012-4P", "SMD2012-8P"]),
  ("2016", ["SMD2016", "SMD2016-2P", "SMD2016-4P", "SMD2016-6P"]),
  ("2520", ["SMD2520", "SMD2520-2P", "SMD2520-4P", "SMD2520-6P"]),
  ("2835", ["SMD2835", "SMD2835-2P", "SMD2835-3P", "SMD2835-4P", "SMD2835-6P"]),
  ("3014", ["SMD3014-2P"]),
  ("3020", ["SMD3020", "SMD3020-3P"]),
  ("3030", ["SMD3030", "SMD3030-2P", "SMD3030-3P", "SMD3030-4P", "SMD3030-6P", "SMD3030-7P"]),
  ("3215", ["SMD3215", "SMD3215-2P", "SMD3215-4P", "SMD3215-8P"]),
  ("3225", [
    "SMD3225", "SMD3225-2P", "SMD3225-4P", "SMD3225-6P", "SMD3225-10P", "SMD3225-14P",
    "SMD-3225_4P"]),
  ("3528", ["SMD3528", "SMD3528-2P", "SMD3528-3P", "SMD3528-4P", "SMD3528-6P"]),
  ("3535", ["SMD3535", "SMD3535-2P", "SMD3535-3P", "SMD3535-4P", "SMD3535-5P", "SMD3535-6P"]),
  ("5032", ["SMD5032", "SMD5032-2P", "SMD5032-4P", "SMD5032-6P", "SMD-5032-4P"]),
  ("5050", ["SMD5050", "SMD5050-2P", "SMD5050-4P", "SMD5050-6P", "SMD5050-8P"]),
  ("5730", ["SMD5730", "SMD5730-3P"]),
  ("6035", ["SMD6035-2P", "SMD6035-4P"]),
  ("7050", ["SMD7050", "SMD7050-2P", "SMD7050-4P", "SMD7050-6P", "SMD7050-10P"]),
  ("7060", ["SMD7060", "SMD7060-2P", "SMD7060-3P"]),
  ("8045", ["SMD8045-2P"]),
  ("8080", ["SMD8080-2P", "SMD8080-3P", "SMD8080-4P", "SMD8080-5P", "SMD8080-6P"]),
  ("9070", ["SMD9070-8P"])]

open Text (Pattern)
open Text.Pattern

/-- A size that is a whole text. -/
def bareSize : Pattern := start ++ times 4 digit ++ finish

/-- A size after "smd", perhaps with a pin count. -/
def bodySize : Pattern :=
  start ++ exact "smd" ++ maybe (charOf "-") ++ capture 1 (timesUpTo 4 1 digit) ++
    maybe (charOf "-" ++ digits ++ charOf "p") ++ finish

/-- The spellings of a body that is given by its size alone. An imperial chip size is none. -/
def ofBareSize? (name : String) : Option (List String) :=
  if bareSize.occurs name.toList && !imperialSizes.contains name then bodies.lookup name else none

def ofBody? (name : String) : Option (List String) :=
  (bodySize.find? name.toList).bind fun m => bodies.lookup (String.ofList (m.capture 1))

/-- Every spelling of a package; one that is not known stays as it is. -/
def spellings (package : String) : List String :=
  let name := lowercase (trimmed package)
  (families.lookup name <|> ofBareSize? name <|> ofBody? name).getD [trimmed package]

end PartSearch.Footprint
