import PartSearch.Attribute.Context
import PartSearch.Catalog.Mounting
import PartSearch.Reading.Span

/-!
What kind of part a query asks for: words for the mounting, words for the polarity of a transistor,
keywords of subcategories, and wordings that lead to another subcategory.
-/

namespace PartSearch

open Text (Pattern)
open Text.Pattern

namespace Mounting

def throughHoleWords : Pattern :=
  wordOf (anyOf [caseless "PTH", caseless "THT",
    caseless "through" ++ maybe (charOf "- ") ++ caseless "hole", caseless "leaded"])

def surfaceWords : Pattern :=
  wordOf (anyOf [caseless "SMD", caseless "SMT",
    caseless "surface" ++ maybe (charOf "- ") ++ caseless "mount"])

/-- The first word for a mounting, through-hole before surface, and the text without it. -/
def extract (text : String) : Option Mounting × String :=
  let cs := text.toList
  match throughHoleWords.find? cs, surfaceWords.find? cs with
  | some m, _ => (some throughHole, String.ofList m.remove)
  | none, some m => (some surface, String.ofList m.remove)
  | none, none => (none, text)

/-- The mounting that a text names and does nothing else. -/
def ofName? (text : String) : Option Mounting :=
  let (mounting, rest) := extract text
  if rest.isEmpty then mounting else none

end Mounting

/-- A word for the polarity of a transistor. -/
structure Channel where
  /-- The value of the attribute "Type". -/
  type : String
  subcategory : String
deriving DecidableEq, Repr

namespace Channel

def patterns : List (Pattern × Channel) := [
  (wordOf (anyOf [caseless "n" ++ maybe (charOf "- ") ++ caseless "channel", caseless "nmos"]),
    ⟨"N-Channel", "mosfets"⟩),
  (wordOf (anyOf [caseless "p" ++ maybe (charOf "- ") ++ caseless "channel", caseless "pmos"]),
    ⟨"P-Channel", "mosfets"⟩),
  (wordOf (caseless "npn"), ⟨"NPN", "bipolar (bjt)"⟩),
  (wordOf (caseless "pnp"), ⟨"PNP", "bipolar (bjt)"⟩)]

def extract (text : String) : Option Channel × String :=
  match patterns.find? fun (p, _) => p.occurs text.toList with
  | some (p, channel) => (some channel, String.ofList (p.removeWords text.toList))
  | none => (none, text)

end Channel

structure Keyword where
  word : String
  subcategory : String
deriving DecidableEq, Repr

namespace Keyword

def all : List Keyword := (Text.longestFirst partKeywords).map fun (w, s) => ⟨w, s⟩

/-- The longest keyword in a text, and the text without it. -/
def extract (text : String) : Option Keyword × String :=
  let lower := Text.asciiLower text.toList
  match all.find? fun k => !(Text.phraseSpans lower k.word.toList).isEmpty with
  | some k =>
    (some k, String.ofList (Span.cut text.toList (Text.phraseSpans lower k.word.toList)))
  | none => (none, text)

end Keyword

namespace PartKind

def leadedWords : Pattern :=
  wordOf (anyOf [caseless "radial",
    caseless "through" ++ maybe (one (· != '\n')) ++ caseless "hole", caseless "pth",
    caseless "leaded"])

/-- The subcategory of leaded electrolytic capacitors, when one of those for surface mounting was
found but the wording or the mounting says otherwise; and the text without the wording. -/
def leadedElectrolytic? (subcategory text : String) (mounting : Option Mounting) :
    Option (String × String) :=
  let leaded := "aluminum electrolytic capacitors - leaded"
  if subcategory ≠ "aluminum electrolytic capacitors - smd" then none
  else if leadedWords.occurs text.toList then
    some (leaded, String.ofList (leadedWords.removeWords text.toList))
  else if mounting = some .throughHole then some (leaded, text)
  else none

def trimmerWords : Pattern :=
  wordOf (anyOf [caseless "trimmer", caseless "potentiometer", caseless "trimpot",
    caseless "variable" ++ blanks ++ caseless "resistor"])

/-- The subcategory of potentiometers, when nothing but a chip resistor was found and the wording
says so; and the text without the wording. -/
def potentiometer? (subcategory : Option String) (text : String) : Option (String × String) :=
  if subcategory.isSome && subcategory ≠ some chipResistors then none
  else if trimmerWords.occurs text.toList then
    some ("potentiometers, variable resistors",
      String.ofList (trimmerWords.removeWords text.toList))
  else none

end PartKind

end PartSearch
