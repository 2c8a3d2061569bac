import PartSearch.Json.Reader
import PartSearch.Text.Blank

/-!
Attribute blobs: the attributes of a part as a JSON list of name and value pairs. The written form
has ", " between the two strings of a pair, which is what the patterns over blobs look for.
-/

namespace PartSearch

/-- Attribute names and values in catalog order. -/
abbrev Attributes := List (String × String)

namespace Attributes

/-- One pair: `["Resistance", "10kΩ"]`. -/
def renderPair (pair : String × String) : List Char :=
  '[' :: Json.quote pair.1.toList ++ [',', ' '] ++ Json.quote pair.2.toList ++ [']']

def renderChars (pairs : Attributes) : List Char :=
  '[' :: Text.joinWith [',', ' '] (pairs.map renderPair) ++ [']']

def render (pairs : Attributes) : String := String.ofList (renderChars pairs)

/-- The attribute that a JSON value holds: a list of exactly two strings. -/
def pairOfJson? : Json → Option (String × String)
  | .arr [.str name, .str value] => some (name, value)
  | _ => none

/-- The attributes of a blob; a blank blob has none. -/
def decode? (blob : String) : Option Attributes :=
  if isBlankText blob then some [] else
    match Json.read? blob with
    | some (.arr items) => items.mapM pairOfJson?
    | _ => none

def value? (pairs : Attributes) (name : String) : Option String := pairs.lookup name

end Attributes

end PartSearch
