import PartSearch.Decimal.Digits

/-!
Lines of text for a terminal, with colors where they are wanted.
-/

namespace PartSearch

inductive Color where
  | red
  | green
  | yellow
  | blue
  | cyan
  | gray
deriving DecidableEq, Repr

def Color.code : Color → String
  | red => "31"
  | green => "32"
  | yellow => "33"
  | blue => "34"
  | cyan => "36"
  | gray => "90"

structure Palette where
  enabled : Bool

namespace Palette

/-- The text with an attribute of the terminal, up to its end. -/
def withCode (p : Palette) (code text : String) : String :=
  if p.enabled then "\x1b[" ++ code ++ "m" ++ text ++ "\x1b[0m" else text

def paint (p : Palette) (color : Color) (text : String) : String := p.withCode color.code text

def bold (p : Palette) (text : String) : String := p.withCode "1" text

def dim (p : Palette) (text : String) : String := p.withCode "2" text

end Palette

/-- Lines, each ended by a line feed. -/
def textOfLines (lines : List String) : String := String.join (lines.map fun line => line ++ "\n")

def spaces (count : Nat) : String := String.ofList (List.replicate count ' ')

/-- The text with spaces after it, `width` characters wide at least. -/
def padAfter (width : Nat) (text : String) : String := text ++ spaces (width - text.length)

/-- The text with spaces before it, `width` characters wide at least. -/
def padBefore (width : Nat) (text : String) : String := spaces (width - text.length) ++ text

def dollars (places : Nat) (amount : Float) : String :=
  "$" ++ String.ofList (fixedPlaces places amount)

end PartSearch
