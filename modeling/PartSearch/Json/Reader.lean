import PartSearch.Json.Number
import PartSearch.Json.Quoted

/-!
Reading a JSON text. Every well-formed text spells a value, however deep it nests.
-/

namespace PartSearch.Json

def isSpace (c : Char) : Bool := c = ' ' || c = '\n' || c = '\t' || c = '\r'

def skipSpaces (cs : List Char) : List Char := cs.dropWhile isSpace

def literal? (cs : List Char) : Option (Json × List Char) :=
  let read (word : List Char) (value : Json) : Option (Json × List Char) :=
    if word.isPrefixOf cs then some (value, cs.drop word.length) else none
  read "null".toList null <|> read "true".toList (bool true) <|> read "false".toList (bool false)

/-- Items after the first bracket or a comma, up to the closing bracket, at most `limit` of
them. -/
def itemsUpTo? {α : Type} (item : List Char → Option (α × List Char)) (close : Char) :
    Nat → List Char → Option (List α × List Char)
  | 0, _ => none
  | limit + 1, cs =>
    match item (skipSpaces cs) with
    | none => none
    | some (x, rest) =>
      match skipSpaces rest with
      | c :: rest =>
        if c = close then some ([x], rest)
        else if c = ',' then
          (itemsUpTo? item close limit rest).map fun (xs, rest) => (x :: xs, rest)
        else none
      | [] => none

/-- A bracketed list, read after its opening bracket. -/
def items? {α : Type} (item : List Char → Option (α × List Char)) (close : Char)
    (cs : List Char) : Option (List α × List Char) :=
  match skipSpaces cs with
  | c :: rest => if c = close then some ([], rest) else itemsUpTo? item close cs.length cs
  | [] => none

/-- A name, if it stands for a text, a colon and a value. -/
def field? (value : List Char → Option (Json × List Char)) :
    List Char → Option ((Option String × Json) × List Char)
  | c :: cs => do
    if c ≠ quoteMark then none
    let (name, rest) ← unquote? cs
    match skipSpaces rest with
    | ':' :: rest =>
      let (v, rest) ← value (skipSpaces rest)
      return ((name, v), rest)
    | _ => none
  | [] => none

def ofFields (fields : List (Option String × Json)) : Json :=
  match fields.mapM fun (name, v) => name.map fun text => (text, v) with
  | some fields => obj fields
  | none => unpaired

/-- A value that starts at the first character and nests at most `depth` deep, and the rest. -/
def value? : Nat → List Char → Option (Json × List Char)
  | _, [] => none
  | depth, c :: cs =>
    if c = quoteMark then
      (unquote? cs).map fun (text, rest) => ((text.map str).getD unpaired, rest)
    else if c = '[' then
      match depth with
      | 0 => none
      | depth + 1 => (items? (value? depth) ']' cs).map fun (xs, rest) => (arr xs, rest)
    else if c = '\x7b' then
      match depth with
      | 0 => none
      | depth + 1 =>
        (items? (field? (value? depth)) '\x7d' cs).map fun (fields, rest) => (ofFields fields, rest)
    else if c = '-' || c.isDigit then number? (c :: cs)
    else literal? (c :: cs)

/-- The value that a whole text spells. A text nests no deeper than it is long. -/
def read? (text : String) : Option Json :=
  let cs := text.toList
  match value? cs.length (skipSpaces cs) with
  | some (v, rest) => if (skipSpaces rest).isEmpty then some v else none
  | none => none

end PartSearch.Json
