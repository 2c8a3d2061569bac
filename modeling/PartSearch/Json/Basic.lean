/-!
JSON values. A whole number that fits in 64 bits keeps its value; any other number is a float,
which is infinite where the text exceeds the range of floats. An object keeps its fields in the
order they were written, repeated names included. A string with half of a surrogate pair is well
formed, but it stands for no text.
-/

namespace PartSearch

inductive Json where
  | null
  | bool (value : Bool)
  | int (value : Int)
  | real (value : Float)
  | str (value : String)
  | arr (items : List Json)
  | obj (fields : List (String × Json))
  /-- A string that stands for no text, or an object with such a field name. -/
  | unpaired

namespace Json

def ofNat (n : Nat) : Json := int n

def ofOption {α : Type} (write : α → Json) : Option α → Json
  | none => null
  | some x => write x

def strings (texts : List String) : Json := arr (texts.map str)

end Json

end PartSearch
