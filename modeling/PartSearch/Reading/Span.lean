import PartSearch.Text.Pattern

/-!
Stretches of a text: which of several overlapping ones to keep, how to cut them out, and where a
phrase stands on its own in a text.
-/

namespace PartSearch

/-- A stretch of a text, from one character position up to another. -/
structure Span where
  start : Nat
  stop : Nat
deriving DecidableEq, Repr

namespace Span

def covers (s : Span) (position : Nat) : Bool := s.start ≤ position && position < s.stop

def textIn (s : Span) (cs : List Char) : List Char := (cs.take s.stop).drop s.start

/-- The pieces of a text between spans, for a text whose first character has the position
`position`. -/
def piecesFrom (position : Nat) (cs : List Char) : List Span → List (List Char)
  | [] => [cs]
  | s :: rest =>
    cs.take (s.start - position) :: piecesFrom s.stop (cs.drop (s.stop - position)) rest

/-- The text without some spans, which are in order and apart. If there are any, white space is
collapsed. -/
def cut (cs : List Char) (spans : List Span) : List Char :=
  if spans.isEmpty then cs else Text.collapse (Text.joinWith [' '] (piecesFrom 0 cs spans))

end Span

structure Candidate (α : Type) where
  span : Span
  value : α

namespace Candidate

variable {α : Type}

/-- Candidates that start no earlier than the one before them ends, taken greedily from a list in
order of their starts. -/
def keepFrom (position : Nat) : List (Candidate α) → List (Candidate α)
  | [] => []
  | c :: rest =>
    if position ≤ c.span.start then c :: keepFrom c.span.stop rest else keepFrom position rest

/-- Candidates that do not overlap: the earliest start first, and of two with one start the one
that was reported first. -/
def select (candidates : List (Candidate α)) : List (Candidate α) :=
  keepFrom 0 (candidates.mergeSort fun a b => a.span.start ≤ b.span.start)

end Candidate

namespace Text

def joinsPhrase (c : Option Char) : Bool := (c.map fun c => isAlphanumeric c || c = '_').getD false

/-- Where a phrase stands in a text with nothing beside it that would join it to a longer word.
Occurrences are found from left to right without overlap before their surroundings are looked
at. -/
def phraseSpans (cs phrase : List Char) : List Span :=
  (((Pattern.chars phrase).findAll cs).filter fun m =>
    !joinsPhrase m.before.head? && !joinsPhrase m.after.head?).map fun m => ⟨m.start, m.stop⟩

/-- Phrases of a table, the longest first and equally long ones in alphabetical order. -/
def longestFirst {α : Type} (table : List (String × α)) : List (String × α) :=
  table.mergeSort fun a b => b.1.length < a.1.length || (a.1.length = b.1.length && a.1 ≤ b.1)

end Text

end PartSearch
