import PartSearch.Quantity.Scalar

/-!
LIKE patterns, with a backslash as the escape character, and the patterns that look for an
attribute in a blob. In a blob the two strings of a pair are separated by ", ", so
`%"Resistance", "10k%` finds a resistance that starts with "10k".
-/

namespace PartSearch

namespace Like

inductive Token where
  /-- `%`, any run of characters. -/
  | anyRun
  /-- `_`, any one character. -/
  | anyChar
  /-- This character, up to the case of ASCII letters. -/
  | literal (c : Char)
deriving DecidableEq, Repr

/-- The tokens of a pattern. A backslash makes the next character literal; at the end it stands for
itself. -/
def tokens : List Char → List Token
  | [] => []
  | '%' :: cs => .anyRun :: tokens cs
  | '_' :: cs => .anyChar :: tokens cs
  | ['\\'] => [.literal '\\']
  | '\\' :: c :: cs => .literal c :: tokens cs
  | c :: cs => .literal c :: tokens cs

/-- Does the token read exactly this character? -/
def Token.reads : Token → Char → Bool
  | .anyRun, _ => false
  | .anyChar, _ => true
  | .literal a, c => Text.sameLetter a c

/-- How far the matching of a text has come. -/
structure Scan where
  /-- The tokens that the rest of the text has to fit. -/
  pending : List Token
  text : List Char
  /-- The tokens behind the last `%`, and the place in the text where they are tried. -/
  retry : Option (List Token × List Char) := none
deriving DecidableEq, Repr

namespace Scan

/-- What one round of matching leads to. -/
inductive Round where
  | answer (found : Bool)
  | next (scan : Scan)
deriving DecidableEq, Repr

/-- The last `%` takes one more character, and the tokens behind it are tried on the rest. Without a
`%` there is no way back, and the text does not match. -/
def goBack (s : Scan) : Round :=
  match s.retry with
  | some (ts, _ :: cs) => .next { pending := ts, text := cs, retry := some (ts, cs) }
  | _ => .answer false

def round (s : Scan) : Round :=
  match s.text, s.pending with
  | [], ts => .answer (ts.all (· = .anyRun))
  | c :: cs, .anyRun :: ts => .next { pending := ts, text := c :: cs, retry := some (ts, c :: cs) }
  | c :: cs, t :: ts =>
    if t.reads c then .next { s with pending := ts, text := cs } else s.goBack
  | _ :: _, [] => s.goBack

/-- No more rounds than this go on: the tokens behind the last `%` can be tried at every place
of the text, and each time they read a character in every round. -/
def roundsLeft (s : Scan) : Nat :=
  let (ts, cs) := s.retry.getD (s.pending, s.text)
  (max ts.length s.pending.length + 1) * max cs.length s.text.length + s.pending.length

theorem roundsLeft_goBack_lt {s s' : Scan} (h : s.goBack = .next s') :
    s'.roundsLeft < s.roundsLeft := by
  unfold goBack at h
  split at h
  · rename_i ts c cs hretry
    obtain rfl := Round.next.inj h
    have hmul : (ts.length + 1) * (cs.length + 1) ≤
        (max ts.length s.pending.length + 1) * max (cs.length + 1) s.text.length :=
      Nat.mul_le_mul (by omega) (by omega)
    simp only [roundsLeft, hretry, Option.getD_some, Nat.max_self, List.length_cons]
    rw [Nat.mul_succ] at hmul
    omega
  · cases h

/-- Every round leaves fewer rounds. -/
theorem roundsLeft_lt {s s' : Scan} (h : s.round = .next s') : s'.roundsLeft < s.roundsLeft := by
  obtain ⟨pending, text, retry⟩ := s
  unfold round at h
  split at h
  · cases h
  · rename_i c cs ts htext hpending
    obtain rfl := Round.next.inj h
    obtain rfl : text = c :: cs := htext
    obtain rfl : pending = .anyRun :: ts := hpending
    have hmul (other : List Token × List Char) :
        (ts.length + 1) * (cs.length + 1) ≤
          (max other.1.length (ts.length + 1) + 1) * max other.2.length (cs.length + 1) :=
      Nat.mul_le_mul (by omega) (by omega)
    have hretry := hmul (retry.getD (.anyRun :: ts, c :: cs))
    simp only [roundsLeft, Option.getD_some, Nat.max_self, List.length_cons]
    omega
  · rename_i c cs t ts _ htext hpending
    split at h
    · obtain rfl := Round.next.inj h
      obtain rfl : text = c :: cs := htext
      obtain rfl : pending = t :: ts := hpending
      cases retry with
      | none =>
        have hmul : (ts.length + 1) * cs.length ≤ (ts.length + 1 + 1) * (cs.length + 1) :=
          Nat.mul_le_mul (by omega) (by omega)
        simp only [roundsLeft, Option.getD_none, Nat.max_self, List.length_cons]
        omega
      | some other =>
        have hmul : (max other.1.length ts.length + 1) * max other.2.length cs.length ≤
            (max other.1.length (ts.length + 1) + 1) * max other.2.length (cs.length + 1) :=
          Nat.mul_le_mul (by omega) (by omega)
        simp only [roundsLeft, Option.getD_some, List.length_cons]
        omega
    · exact roundsLeft_goBack_lt h
  · exact roundsLeft_goBack_lt h

/-- The answer of the last round. -/
def run (s : Scan) : Bool :=
  match _h : s.round with
  | .answer found => found
  | .next s' => s'.run
termination_by s.roundsLeft
decreasing_by exact roundsLeft_lt ‹_›

end Scan

def matchTokens (ts : List Token) (cs : List Char) : Bool :=
  ({ pending := ts, text := cs } : Scan).run

def isMatch (pattern text : String) : Bool := matchTokens (tokens pattern.toList) text.toList

/-- The pattern that matches just this text: wildcards and backslashes are escaped. -/
def escapeChars (cs : List Char) : List Char :=
  cs.flatMap fun c => if c = '\\' || c = '%' || c = '_' then ['\\', c] else [c]

def escape (text : String) : String := String.ofList (escapeChars text.toList)

/-! ### Patterns over attribute blobs -/

def attributeExists (name : String) : String := "%\"" ++ escape name ++ "\"%"

/-- An attribute with exactly this value. -/
def attributeEquals (name value : String) : String :=
  "%\"" ++ escape name ++ "\", \"" ++ escape value ++ "\"%"

/-- An attribute with this value anywhere after its name, for attributes that list values. -/
def attributeContains (name value : String) : String :=
  "%\"" ++ escape name ++ "\"%" ++ escape value ++ "%"

/-- An attribute whose value starts like this; the start is a pattern itself. -/
def attributeStarts (name start : String) : String :=
  "%\"" ++ escape name ++ "\", \"" ++ start ++ "%"

open Text.Pattern in
def withoutOhm (value : String) : String :=
  let cs := Text.trim value.toList
  match (blanks ++ ScalarFormat.ohm ++ finish).find? cs with
  | some m => String.ofList (m.before.reverse ++ m.after)
  | none => String.ofList cs

variable {ν : Type} [Number ν]

/-- Is a number whole, up to rounding? -/
def isWhole (x : ν) : Bool := Number.abs (x - Number.round x) < Number.tenTo (-9)

def wholeDigits (x : ν) : String :=
  let n := Number.toInt (Number.round x)
  String.ofList (withSign (n < 0) (natDigits n.natAbs))

/-- The usual spelling of a value: whole kiloohms, whole microfarads, whole percents. -/
def usualSpelling? (name : String) (x : ν) : Option String :=
  let named (word : String) : Bool := containsText (lowercase name) word
  let kilo := x / Number.tenTo 3
  let micro := x * Number.tenTo 6
  if named "resistance" && decide (Number.tenTo 3 ≤ x) && isWhole kilo then
    some (wholeDigits kilo ++ "k")
  else if named "capacitance" && decide (Number.tenTo 0 ≤ micro) && isWhole micro then
    some (wholeDigits micro ++ "u")
  else if named "tolerance" && isWhole x then some ("\u00b1" ++ wholeDigits x ++ "\\%")
  else none

def maxValuePatterns : Nat := 3

/-- Patterns for a numeric value of an attribute: as it was typed, in the other case, and in its
usual spelling. -/
def valuePatterns (name value : String) (x : ν) : List String :=
  let typed := escape (withoutOhm value)
  let lower := lowercase typed
  let upper := uppercase typed
  let other := if lower = upper then [] else [if typed = lower then upper else lower]
  let patterns := (typed :: other).map (attributeStarts name)
  let usual := ((usualSpelling? name x).map (attributeStarts name)).toList.filter fun p =>
    !patterns.contains p
  (patterns ++ usual).take maxValuePatterns

end Like

end PartSearch
