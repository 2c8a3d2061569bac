import PartSearch.Decimal.Digits

/-!
Strings in JSON. Writing escapes the quote, the backslash and the control characters. Reading
accepts every escape; a character beyond the first plane is escaped as a pair of surrogates, and
the halves are joined after the whole string has been read.
-/

namespace PartSearch.Json

def quoteMark : Char := '"'

def escapeChar (c : Char) : List Char :=
  if c = quoteMark then ['\\', quoteMark]
  else if c = '\\' then ['\\', '\\']
  else if c = '\x08' then ['\\', 'b']
  else if c = '\t' then ['\\', 't']
  else if c = '\n' then ['\\', 'n']
  else if c = '\x0c' then ['\\', 'f']
  else if c = '\r' then ['\\', 'r']
  else if c.toNat < 32 then '\\' :: 'u' :: padZeros 4 (Nat.toDigits 16 c.toNat)
  else [c]

def quote (cs : List Char) : List Char := quoteMark :: cs.flatMap escapeChar ++ [quoteMark]

def hexDigit? (c : Char) : Option Nat :=
  if c.isDigit then some (c.toNat - 48)
  else if 'a' ≤ c && c ≤ 'f' then some (c.toNat - 87)
  else if 'A' ≤ c && c ≤ 'F' then some (c.toNat - 55)
  else none

def hexUnit? (a b c d : Char) : Option Nat := do
  return 4096 * (← hexDigit? a) + 256 * (← hexDigit? b) + 16 * (← hexDigit? c) + (← hexDigit? d)

/-- The character that a letter stands for after a backslash. -/
def namedEscape? (c : Char) : Option Char :=
  [(quoteMark, quoteMark), ('\\', '\\'), ('/', '/'), ('b', '\x08'), ('f', '\x0c'), ('n', '\n'),
    ('r', '\r'), ('t', '\t')].lookup c

/-- What one character or one escape between the quotes stands for. -/
inductive Piece where
  | char (c : Char)
  /-- Half of a surrogate pair. -/
  | half (unit : Nat)

def Piece.ofUnit (unit : Nat) : Piece :=
  if 0xD800 ≤ unit && unit ≤ 0xDFFF then half unit else char (Char.ofNat unit)

/-- The character that a leading and a trailing surrogate make together. -/
def combineSurrogates? (high low : Nat) : Option Char :=
  if high < 0xDC00 && 0xDC00 ≤ low then
    some (Char.ofNat (0x10000 + (high - 0xD800) * 0x400 + (low - 0xDC00)))
  else none

/-- The text that pieces stand for, where each half has its partner beside it. -/
def Piece.joined? : List Piece → Option (List Char)
  | [] => some []
  | char c :: pieces => (joined? pieces).map (c :: ·)
  | half high :: half low :: pieces => do
    return (← combineSurrogates? high low) :: (← joined? pieces)
  | half _ :: _ => none

/-- The piece that follows a backslash, and the rest. -/
def escaped? : List Char → Option (Piece × List Char)
  | 'u' :: a :: b :: c :: d :: rest => (hexUnit? a b c d).map fun unit => (.ofUnit unit, rest)
  | c :: rest => (namedEscape? c).map fun d => (.char d, rest)
  | [] => none

/-- Pieces up to the closing quote, at most `limit` of them, and the rest after it. -/
def unquoteUpTo? : Nat → List Char → Option (List Piece × List Char)
  | 0, _ => none
  | _ + 1, [] => none
  | limit + 1, c :: cs =>
    if c = quoteMark then some ([], cs)
    else if c = '\\' then
      match escaped? cs with
      | none => none
      | some (piece, rest) =>
        (unquoteUpTo? limit rest).map fun (pieces, rest) => (piece :: pieces, rest)
    else if c.toNat < 32 then none
    else (unquoteUpTo? limit cs).map fun (pieces, rest) => (.char c :: pieces, rest)

/-- The string that starts after an opening quote, if it stands for a text, and the rest after its
closing quote. -/
def unquote? (cs : List Char) : Option (Option String × List Char) :=
  (unquoteUpTo? (cs.length + 1) cs).map fun (pieces, rest) =>
    ((Piece.joined? pieces).map String.ofList, rest)

end PartSearch.Json
