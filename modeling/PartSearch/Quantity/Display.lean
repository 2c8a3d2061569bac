import PartSearch.Number
import PartSearch.Quantity.Basic
import PartSearch.Text.Blank

/-!
Quantities in the notation that the readers accept: a prefixed number with at most six decimals,
and the unit.
-/

namespace PartSearch.Quantity

/-- A number with up to six decimals and no trailing zeros. -/
def trimNumber (x : Float) : List Char :=
  let text := Text.trimEndOf (· == '.') (Text.trimEndOf (· == '0') (fixedPlaces 6 x))
  if text = ['-', '0'] then ['0'] else text

/-- Prefixes from the largest down, each with the power of ten that it stands for. -/
abbrev Ladder := List (Int × String)

/-- The number over the first prefix that does not exceed it, else over the last one. -/
def withPrefix (ladder : Ladder) (symbol : String) (x : Float) : List Char :=
  if x == 0 then '0' :: symbol.toList else
    let size := x.abs
    let fits := ladder.find? fun (k, _) => Number.tenTo k * (1.0 - 1e-9) ≤ size
    let (k, letter) := (fits <|> ladder.getLast?).getD (0, "")
    trimNumber (x / Number.tenTo k) ++ letter.toList ++ symbol.toList

def display (q : Quantity) (x : Float) : String :=
  String.ofList <| match q with
    | resistance | impedance => withPrefix [(6, "M"), (3, "k"), (0, ""), (-3, "m")] "Ohm" x
    | capacitance =>
      withPrefix [(0, ""), (-3, "m"), (-6, "u"), (-9, "n"), (-12, "p")] "F" x
    | inductance => withPrefix [(0, ""), (-3, "m"), (-6, "u"), (-9, "n")] "H" x
    | voltage => withPrefix [(3, "k"), (0, ""), (-3, "m")] "V" x
    | current => withPrefix [(0, ""), (-3, "m"), (-6, "u")] "A" x
    | frequency => withPrefix [(9, "G"), (6, "M"), (3, "k"), (0, "")] "Hz" x
    | power => withPrefix [(3, "k"), (0, ""), (-3, "m")] "W" x
    | tolerance => trimNumber x ++ ['%']
    | pinCount | positionCount | pinStructure => trimNumber x ++ ['P']
    | pitch => trimNumber x ++ "mm".toList
    | dimensions => trimNumber x ++ "mm\u00b2".toList

end PartSearch.Quantity
