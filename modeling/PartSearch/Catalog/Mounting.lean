import PartSearch.Text.Blank

/-!
How a part attaches to the board, and what gives it away: the names of its subcategory and
category, or its package.
-/

namespace PartSearch

/-- How a part is attached to the board. -/
inductive Mounting where
  | surface
  | throughHole
deriving DecidableEq, Repr

namespace Mounting

def name : Mounting → String
  | surface => "SMD"
  | throughHole => "Through Hole"

/-- Two wordings of part descriptions; either one tells the mounting. -/
def wording : Mounting → String × String
  | throughHole => ("Through Hole", "Plugin")
  | surface => ("Surface Mount", "SMD")

/-- Fragments of the packages of through-hole parts. They are tried before those of surface-mount
parts, some of which are shorter. -/
def throughHolePackages : List String := [
  "DIP", "SIP", "TO-92", "TO-126", "TO-220", "TO-247", "TO-264", "TO-3", "DO-41", "DO-35",
  "DO-201", "DO-15", "DO-27", "R-1", "R-6", "PIN", "THT", "AXIAL", "RADIAL", "PLUGIN", "P=",
  "HC-49", "HC-50", "HC-51", "HC-52", "THROUGH HOLE", "THROUGH-HOLE", "PUSH-PULL", "KBP", "KBL",
  "KBU", "MBS", "GBU", "DBS", "GBJ", "BR-", "\u63d2\u4ef6", "\u5f2f\u63d2", "\u76f4\u63d2"]

def surfacePackages : List String := [
  "0201", "0402", "0603", "0805", "1206", "1210", "1812", "2010", "2512", "01005", "SOT", "SOD",
  "SOP", "SOIC", "SSOP", "TSSOP", "TSOP", "MSOP", "SO-", "QFP", "QFN", "DFN", "MLF", "SON", "BGA",
  "CSP", "LGA", "PLCC", "TO-252", "TO-263", "TO-277", "DPAK", "D2PAK", "DO-214", "DO-218", "SMA",
  "SMB", "SMC", "SC-70", "SC-88", "SC-89", "LL-34", "LL-41", "MELF", "MC-306", "MC-146", "DT-26",
  "DT-38"]

def ofGroupName? (name : String) : Option Mounting :=
  let text := uppercase name
  if ["THROUGH HOLE", "THROUGH-HOLE"].any (containsText text) then some throughHole
  else if ["SMD", "SMT", "SURFACE MOUNT"].any (containsText text) then some surface
  else none

/-- The mounting that a package gives away. A package that starts with a digit is a chip size. -/
def ofPackage? (package : String) : Option Mounting :=
  let text := uppercase package
  if ["SMD", "SMT"].any (containsText text) then some surface
  else if throughHolePackages.any (containsText text) then some throughHole
  else if surfacePackages.any (containsText text) then some surface
  else if (text.toList.head?.map Char.isDigit).getD false then some surface
  else none

/-- Best guess from the subcategory, then the category, then the package. -/
def detect? (package : String) (category subcategory : Option String) : Option Mounting :=
  subcategory.bind ofGroupName? <|> category.bind ofGroupName? <|> ofPackage? package

end Mounting

end PartSearch
