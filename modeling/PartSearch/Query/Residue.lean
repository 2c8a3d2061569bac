import PartSearch.Text.Pattern
import PartSearch.Decimal.Basic

/-!
What is left of a query once its parts are recognized: bare numbers that still mean something,
wordings for the rows of a header, and scraps that mean nothing.
-/

namespace PartSearch.Residue

open Text (Pattern)
open Text.Pattern

def loneLetter : Pattern := wordOf (one Char.isAlpha)

def hyphen : Pattern := blanks ++ charOf "-" ++ blanks

/-- The text without lone letters and hyphens, which are left over from what was cut out. -/
def clean (text : String) : String :=
  String.ofList <| Text.collapse <|
    hyphen.replaceAll (fun _ => [' ']) (loneLetter.removeAll text.toList)

/-- The first run of digits in a text, if it is a number from 1 to `max`, and the text without
it. -/
def takeInteger? (max : Nat) (text : String) : Option (Nat × String) := do
  let m ← (wordOf digits).find? text.toList
  let n ← Decimal.digitsValue? 0 m.text
  if 1 ≤ n && n ≤ max then some (n, String.ofList m.remove) else none

def dualWord : Pattern := wordOf (caseless "dual")

def rowsWord (counts : List String) : Pattern :=
  edge ++ anyOf (counts.map caseless) ++ blanks ++ caseless "row" ++ edge

def rowWordings : List (Nat × Pattern) :=
  [(1, rowsWord ["single", "1"]), (2, rowsWord ["double", "dual", "2"])]

/-- The number of rows that a text speaks of, and the text without the wording. -/
def takeRows? (text : String) : Option (Nat × String) :=
  (rowWordings.find? fun (_, p) => p.occurs text.toList).map fun (rows, p) =>
    (rows, String.ofList (p.removeWords text.toList))

def maxPins : Nat := Nat.pow 2 32 - 1

/-- A count such as "16P" as pins in each of `rows` rows, "2x8P"; an odd count is not divided, and
any other word stays. -/
def inRows (rows : Nat) (word : String) : String :=
  let digits := word.toList.dropLast
  let count := if word.toList.getLast? = some 'P' && !digits.isEmpty
    then Decimal.digitsValue? 0 digits else none
  match count with
  | some total =>
    if total ≤ maxPins then
      let perRow := if rows = 2 && total % 2 = 0 then total / 2 else total
      toString rows ++ "x" ++ toString perRow ++ "P"
    else word
  | none => word

end PartSearch.Residue
