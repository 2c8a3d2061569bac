import PartSearch.Text.CharClass
import PartSearch.Text.Table.Cased
import PartSearch.Text.Table.LetterCase

/-!
Upper and lower case of whole texts, where one character may become several and a capital sigma
at the end of a word becomes a final one; equality that ignores the case of ASCII letters; and
the sets of characters that a caseless pattern takes for one another.
-/

namespace PartSearch.Text

/-- The character that a case table assigns to `c`, if it assigns one. -/
def mapByRuns (runs : List (Nat × Nat × Nat × Int)) (c : Char) : Option Char :=
  (runs.find? fun (first, last, step, _) =>
    first ≤ c.toNat && c.toNat ≤ last && (c.toNat - first) % step = 0).map
    fun (_, _, _, offset) => Char.ofNat (c.toNat + offset).toNat

def lowerChar (c : Char) : List Char :=
  if isAscii c then [c.toLower] else
    match Table.lowerSequences.lookup c.toNat with
    | some codes => codes.map Char.ofNat
    | none => [(mapByRuns Table.lowerRuns c).getD c]

def upperChar (c : Char) : List Char :=
  if isAscii c then [c.toUpper] else
    match Table.upperSequences.lookup c.toNat with
    | some codes => codes.map Char.ofNat
    | none => [(mapByRuns Table.upperRuns c).getD c]

def isCased (c : Char) : Bool :=
  if isAscii c then c.isAlpha else inRanges Table.cased c

/-- Characters such as apostrophes and combining marks, which casing looks past. -/
def isCaseIgnorable (c : Char) : Bool :=
  if isAscii c then ['\x27', '.', ':', '^', '\x60'].contains c else inRanges Table.caseIgnorable c

/-- Is the first character that casing does not look past a cased letter? -/
def startsCased (cs : List Char) : Bool :=
  ((cs.dropWhile isCaseIgnorable).head?.map isCased).getD false

/-- Lowercase of a text whose earlier characters, nearest first, are `before`. -/
def lowerAfter (before : List Char) : List Char → List Char
  | [] => []
  | c :: after =>
    let lowered :=
      if c = '\u03a3' then [if startsCased before && !startsCased after then '\u03c2' else '\u03c3']
      else lowerChar c
    lowered ++ lowerAfter (c :: before) after

def lower (cs : List Char) : List Char := lowerAfter [] cs

def upper (cs : List Char) : List Char := cs.flatMap upperChar

def asciiLower (cs : List Char) : List Char := cs.map Char.toLower

def asciiUpper (cs : List Char) : List Char := cs.map Char.toUpper

def sameLetter (a b : Char) : Bool := a.toLower = b.toLower

/-- Equality of texts up to the case of ASCII letters. -/
def sameText (a b : String) : Bool := asciiLower a.toList = asciiLower b.toList

/-- Representative of the characters that count as the same letter when case is ignored, for every
letter that the patterns of this library contain: ASCII, omega with the ohm sign, and mu with the
micro sign. -/
def caseClass (c : Char) : Char :=
  match c with
  | '\u212a' => 'k'
  | '\u017f' => 's'
  | '\u2126' | '\u03a9' => '\u03c9'
  | '\u00b5' | '\u039c' => '\u03bc'
  | c => c.toLower

end PartSearch.Text
