import PartSearch.Text.Blank

/-!
Patterns of text. A pattern read from one place of a text may stop at several later places;
`Pattern.ends` lists them in order of preference, and a search takes the first one: leftmost start,
then the earlier alternative, then the longer repetition.
-/

namespace PartSearch.Text

inductive Pattern where
  | nothing
  | one (cls : Char → Bool)
  | seq (first second : Pattern)
  /-- Either of two patterns, the first one preferred. -/
  | either (first second : Pattern)
  /-- Any number of repetitions, as many as possible preferred; the repeated pattern is one that
  reads at least a character. -/
  | many (repeated : Pattern)
  /-- A boundary between a word character and anything else. -/
  | edge
  | start
  | finish
  /-- The pattern itself, noting what it read under a number. -/
  | capture (number : Nat) (captured : Pattern)

/-- What one capture read: the text from `opened` on, as far as `closed`. -/
structure Capture where
  number : Nat
  opened : List Char
  closed : List Char

def Capture.text (c : Capture) : List Char := c.opened.take (c.opened.length - c.closed.length)

/-- A place in a text, with the characters before it nearest first, and the captures made on the
way to it, latest first. -/
structure Place where
  before : List Char
  after : List Char
  captures : List Capture := []

def Place.isEdge (p : Place) : Bool :=
  (p.before.head?.map isWordChar).getD false != (p.after.head?.map isWordChar).getD false

/-- The places that up to `limit` repetitions of `step` lead to, the most repetitions first,
followed by `rest`. -/
def repeatInto (step : Place → List Place) : Nat → Place → List Place → List Place
  | 0, p, rest => p :: rest
  | limit + 1, p, rest => (step p).foldr (repeatInto step limit) (p :: rest)

namespace Pattern

/-- The places where the pattern can stop when it is read from a place, in order of preference. -/
def ends : Pattern → Place → List Place
  | nothing, p => [p]
  | one cls, p =>
    match p.after with
    | [] => []
    | c :: cs => if cls c then [{ p with before := c :: p.before, after := cs }] else []
  | seq first second, p => (first.ends p).flatMap second.ends
  | either first second, p => first.ends p ++ second.ends p
  | many repeated, p => repeatInto repeated.ends p.after.length p []
  | edge, p => if p.isEdge then [p] else []
  | start, p => if p.before.isEmpty then [p] else []
  | finish, p => if p.after.isEmpty then [p] else []
  | capture number captured, p =>
    (captured.ends p).map fun q =>
      { q with captures := ⟨number, p.after, q.after⟩ :: q.captures }

instance : Append Pattern := ⟨seq⟩

/-! ### Ways to write a pattern -/

def never : Pattern := one fun _ => false

def anyOf : List Pattern → Pattern
  | [] => never
  | [p] => p
  | p :: ps => either p (anyOf ps)

def maybe (p : Pattern) : Pattern := either p nothing

def many1 (p : Pattern) : Pattern := p ++ many p

def times (count : Nat) (p : Pattern) : Pattern :=
  match count with
  | 0 => nothing
  | count + 1 => p ++ times count p

/-- From `least` to `least + more` repetitions, as many as possible preferred. -/
def timesUpTo (least more : Nat) (p : Pattern) : Pattern :=
  times least p ++ upTo more
where
  upTo : Nat → Pattern
    | 0 => nothing
    | n + 1 => maybe (p ++ upTo n)

def chars (cs : List Char) : Pattern :=
  cs.foldr (fun c p => one (· == c) ++ p) nothing

def exact (text : String) : Pattern := chars text.toList

def caseless (text : String) : Pattern :=
  text.toList.foldr (fun c p => one (fun d => caseClass d == caseClass c) ++ p) nothing

def charOf (text : String) : Pattern := one text.toList.contains

def caselessCharOf (text : String) : Pattern :=
  one fun d => text.toList.any fun c => caseClass d == caseClass c

def digit : Pattern := one isDigit

def digits : Pattern := many1 digit

def blanks : Pattern := many (one isBlank)

def numeral : Pattern := many1 (one fun c => isDigit c || c == '.')

/-- Digits with at most one point, which has digits on both sides. -/
def decimal : Pattern := digits ++ maybe (charOf "." ++ digits)

def letter : Pattern := one fun c => (caseClass c).isAlpha

def letterOrDigit : Pattern := one fun c => (caseClass c).isAlphanum

def wordOf (p : Pattern) : Pattern := edge ++ p ++ edge

end Pattern

/-! ### Searching -/

/-- One occurrence of a pattern in a text; `before` holds the characters before it, nearest
first. -/
structure Found where
  before : List Char
  text : List Char
  after : List Char
  captures : List Capture := []

namespace Found

def start (m : Found) : Nat := m.before.length

def stop (m : Found) : Nat := m.before.length + m.text.length

/-- What the capture `number` read last, if it took part. -/
def capture? (m : Found) (number : Nat) : Option (List Char) :=
  (m.captures.find? (·.number == number)).map Capture.text

/-- What the capture `number` read, nothing if it took no part. -/
def capture (m : Found) (number : Nat) : List Char := (m.capture? number).getD []

/-- The text around the occurrence, with white space collapsed. -/
def remove (m : Found) : List Char := collapse (m.before.reverse ++ ' ' :: m.after)

end Found

namespace Pattern

/-- The occurrence that starts exactly between `before` and `after`. -/
def at? (p : Pattern) (before after : List Char) : Option Found :=
  (p.ends { before, after }).head?.map fun q =>
    { before, text := after.take (after.length - q.after.length), after := q.after,
      captures := q.captures }

def findFrom? (p : Pattern) (before : List Char) : List Char → Option Found
  | [] => p.at? before []
  | c :: cs =>
    match p.at? before (c :: cs) with
    | some m => some m
    | none => p.findFrom? (c :: before) cs

def find? (p : Pattern) (cs : List Char) : Option Found := p.findFrom? [] cs

def occurs (p : Pattern) (cs : List Char) : Bool := (p.find? cs).isSome

/-- Occurrences in the text after `before`, once `skip` further characters are passed over. -/
def findAllFrom (p : Pattern) (before : List Char) : Nat → List Char → List Found
  | _, [] => []
  | skip + 1, c :: cs => p.findAllFrom (c :: before) skip cs
  | 0, c :: cs =>
    match p.at? before (c :: cs) with
    | some m =>
      if m.text.isEmpty then p.findAllFrom (c :: before) 0 cs
      else m :: p.findAllFrom (c :: before) (m.text.length - 1) cs
    | none => p.findAllFrom (c :: before) 0 cs

/-- Every occurrence that reads something, from left to right, each starting no earlier than the
one before it ended. -/
def findAll (p : Pattern) (cs : List Char) : List Found := p.findAllFrom [] 0 cs

/-- Text in which occurrences are replaced, once `skip` characters are dropped. -/
def replaceFrom (p : Pattern) (write : Found → List Char) (before : List Char) :
    Nat → List Char → List Char
  | _, [] => []
  | skip + 1, c :: cs => p.replaceFrom write (c :: before) skip cs
  | 0, c :: cs =>
    match p.at? before (c :: cs) with
    | some m =>
      if m.text.isEmpty then c :: p.replaceFrom write (c :: before) 0 cs
      else write m ++ p.replaceFrom write (c :: before) (m.text.length - 1) cs
    | none => c :: p.replaceFrom write (c :: before) 0 cs

def replaceAll (p : Pattern) (write : Found → List Char) (cs : List Char) : List Char :=
  p.replaceFrom write [] 0 cs

def removeAll (p : Pattern) (cs : List Char) : List Char := p.replaceAll (fun _ => []) cs

def removeWords (p : Pattern) (cs : List Char) : List Char :=
  collapse (p.replaceAll (fun _ => [' ']) cs)

end Pattern

end PartSearch.Text
