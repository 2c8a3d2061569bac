import PartSearch.Quantity.Scalar
import PartSearch.Tolerance

/-!
Impedance at a test frequency, as ferrite beads are rated: "600Ω @ 100MHz".
-/

namespace PartSearch

/-- An impedance in ohms and the frequency in hertz that it was measured at. -/
structure Impedance (ν : Type) where
  ohms : ν
  hertz : ν

namespace Impedance

open Text (Pattern)
open Text.Pattern
open Number (ofText? finite? tenTo whole)
open ScalarFormat (ohm letterOf)

variable {ν : Type} [Number ν]

/-- The unit in its one spelling "Ohm". -/
def spellOhm (cs : List Char) : List Char :=
  ohm.replaceAll (fun _ => "Ohm".toList) cs

def rating : Pattern :=
  capture 1 numeral ++ blanks ++ maybe (capture 2 (caselessCharOf "km")) ++ caseless "Ohm" ++
    blanks ++ charOf "@" ++ blanks ++ capture 3 numeral ++ blanks ++
    maybe (capture 4 (caselessCharOf "kmg")) ++ caseless "Hz"

def hertzScale (letter : Option Char) : ν :=
  match letter with
  | some 'k' | some 'K' => tenTo 3
  | some 'm' | some 'M' => tenTo 6
  | some 'g' | some 'G' => tenTo 9
  | _ => whole 1

def ohmScale (letter : Option Char) : ν :=
  match letter with
  | some 'k' | some 'K' => tenTo 3
  | some 'm' | some 'M' => tenTo 6
  | _ => whole 1

def readChars? (cs : List Char) : Option (Impedance ν) := do
  let m ← rating.find? (spellOhm cs)
  let ohms : ν ← ofText? (m.capture 1)
  let hertz : ν ← ofText? (m.capture 3)
  let ohms ← finite? (ohms * ohmScale (letterOf m 2))
  let hertz ← finite? (hertz * hertzScale (letterOf m 4))
  return { ohms, hertz }

def read? (text : String) : Option (Impedance ν) := readChars? text.toList

/-- The impedance of a rating, or a resistance for a target that names no frequency. -/
def readOhms? (text : String) : Option ν :=
  (read? text).map Impedance.ohms <|> ScalarFormat.resistance.read? text

/-- Do impedance and frequency of a replacement agree? Ratings that cannot be read are compared as
text. -/
def isMatch (t : Tolerance ν) (original candidate : String) : Bool :=
  match read? original, read? candidate with
  | some a, some b => t.alternativeMatches a.ohms b.ohms && t.alternativeMatches a.hertz b.hertz
  | _, _ =>
    Text.lower (spellOhm original.toList) == Text.lower (spellOhm candidate.toList)

end Impedance

end PartSearch
