import PartSearch.Json.Basic
import PartSearch.Json.Quoted

/-!
JSON text over several lines: two spaces of indentation for each level, and one item or field a
line. A float that is not finite is written `null`, and so is what stands for no text.
-/

namespace PartSearch.Json

def newLine (depth : Nat) : List Char := '\n' :: List.replicate (2 * depth) ' '

/-- Written items between brackets, each on its own line. -/
def bracketed (opening closing : Char) (depth : Nat) : List (List Char) → List Char
  | [] => [opening, closing]
  | item :: items =>
    opening :: newLine (depth + 1) ++ item ++
      items.flatMap (fun next => ',' :: newLine (depth + 1) ++ next) ++
      newLine depth ++ [closing]

mutual

/-- The text of a value that stands `depth` levels deep. -/
def lines (depth : Nat) : Json → List Char
  | null | unpaired => "null".toList
  | bool value => (if value then "true" else "false").toList
  | int value => withSign (value < 0) (natDigits value.natAbs)
  | real value => if value.isFinite then jsonFloat value else "null".toList
  | str value => quote value.toList
  | arr items => bracketed '[' ']' depth (itemLines depth items)
  | obj fields => bracketed '\x7b' '\x7d' depth (fieldLines depth fields)

def itemLines (depth : Nat) : List Json → List (List Char)
  | [] => []
  | item :: items => lines (depth + 1) item :: itemLines depth items

def fieldLines (depth : Nat) : List (String × Json) → List (List Char)
  | [] => []
  | (name, value) :: fields =>
    (quote name.toList ++ ':' :: ' ' :: lines (depth + 1) value) :: fieldLines depth fields

end

def pretty (value : Json) : String := String.ofList (lines 0 value)

end PartSearch.Json
