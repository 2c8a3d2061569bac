import PartSearch.Command.Palette

/-!
How long the stages of reading a query took. Times differ from run to run, so a report can also be
made without them.
-/

namespace PartSearch

structure Duration where
  nanoseconds : Nat
deriving DecidableEq, Repr

namespace Duration

/-- `amount / unit` in decimals without trailing zeros; `unit` is a power of ten with `places`
zeros. -/
def inUnit (amount places : Nat) (symbol : String) : String :=
  let text := placePoint places amount
  let short := if places = 0 then text else
    let kept := text.reverse.dropWhile (· == '0')
    (if kept.head? = some '.' then kept.drop 1 else kept).reverse
  String.ofList short ++ symbol

/-- The duration in the largest unit of which it has at least one. -/
def display (d : Duration) : String :=
  if Nat.pow 10 9 ≤ d.nanoseconds then inUnit d.nanoseconds 9 "s"
  else if Nat.pow 10 6 ≤ d.nanoseconds then inUnit d.nanoseconds 6 "ms"
  else if Nat.pow 10 3 ≤ d.nanoseconds then inUnit d.nanoseconds 3 "\u00b5s"
  else inUnit d.nanoseconds 0 "ns"

end Duration

inductive Timing where
  | measured (stages : List Duration) (total : Duration)
  /-- A placeholder instead of every time. -/
  | hidden
deriving DecidableEq, Repr

namespace Timing

def placeholder : String := "<t>"

def stage? : Timing → Nat → Option Duration
  | measured stages _, position => stages[position]?
  | hidden, _ => none

/-- The name of a stage and its time, in columns if the time is known. -/
def stageColumns (timing : Timing) (palette : Palette) (position : Nat) (name : String) : String :=
  let name := palette.paint .blue name
  match timing.stage? position with
  | some d => padAfter 24 name ++ " " ++ padBefore 10 (palette.dim d.display)
  | none => name ++ " " ++ palette.dim placeholder

def total : Timing → String
  | measured _ total => total.display
  | hidden => placeholder

end Timing

end PartSearch
