import PartSearch.Filter.Basic
import PartSearch.Json.Basic

/-!
Reading values out of JSON. A record is an object, whose unknown fields are passed over, or a list
of its fields in order. The first thing that is wrong decides what is reported.
-/

namespace PartSearch

inductive ReadError where
  /-- It has another shape, a number that is out of range, or a string that stands for no text. -/
  | mismatch
  /-- It holds a filter that is refused. -/
  | filter (error : FilterError)
deriving DecidableEq, Repr

abbrev JsonReader (α : Type) := Json → Except ReadError α

namespace JsonReader

variable {α β σ : Type}

def string : JsonReader String
  | .str text => .ok text
  | _ => .error .mismatch

def bool : JsonReader Bool
  | .bool value => .ok value
  | _ => .error .mismatch

/-- A natural number below `2 ^ bits`. -/
def nat (bits : Nat) : JsonReader Nat
  | .int n => if 0 ≤ n && n < Nat.pow 2 bits then .ok n.toNat else .error .mismatch
  | _ => .error .mismatch

/-- A number as a float; one beyond the range of floats is refused. -/
def float : JsonReader Float
  | .int n => .ok (Decimal.toFloat { negative := n < 0, mantissa := n.natAbs })
  | .real x => if x.isFinite then .ok x else .error .mismatch
  | _ => .error .mismatch

def option (read : JsonReader α) : JsonReader (Option α)
  | .null => .ok none
  | value => (read value).map some

def list (read : JsonReader α) : JsonReader (List α)
  | .arr items => items.mapM read
  | _ => .error .mismatch

def pair (first : JsonReader α) (second : JsonReader β) : JsonReader (α × β)
  | .arr [a, b] => do return (← first a, ← second b)
  | _ => .error .mismatch

/-- One of some words, perhaps as the only field of an object without a value. -/
def word (words : List (String × α)) : JsonReader α
  | .str text | .obj [(text, .null)] =>
    match words.lookup text with
    | some value => .ok value
    | none => .error .mismatch
  | _ => .error .mismatch

/-- The fields of an object in the order of their names, the last of two with one name. -/
def sortedFields (fields : List (String × α)) : List (String × α) :=
  let last := fields.foldl (fun seen field => seen.filter (·.1 != field.1) ++ [field]) []
  last.mergeSort fun a b => a.1 ≤ b.1

/-- An object whose fields all have values of one kind. -/
def map (read : JsonReader α) : JsonReader (List (String × α))
  | .obj fields =>
    (fields.mapM fun field : String × Json => (read field.2).map fun x => (field.1, x)).map
      sortedFields
  | _ => .error .mismatch

/-- A field of a record: its names, and how its value is put into what is read so far. -/
structure Field (σ : Type) where
  name : String
  aliases : List String := []
  required : Bool := false
  put : σ → Json → Except ReadError σ

def field (name : String) (read : JsonReader α) (store : σ → α → σ) : Field σ where
  name := name
  put s value := (read value).map (store s)

def Field.require (f : Field σ) : Field σ := { f with required := true }

/-- The same field, which has another name as well. -/
def Field.orNamed (f : Field σ) (name : String) : Field σ := { f with aliases := name :: f.aliases }

/-- Fields of an object one after the other, where the fields in `seen` were there before. -/
def readFields (known : List (Field σ)) :
    List String → σ → List (String × Json) → Except ReadError (List String × σ)
  | seen, s, [] => .ok (seen, s)
  | seen, s, (name, value) :: rest =>
    match known.find? fun f => f.name == name || f.aliases.contains name with
    | none => readFields known seen s rest
    | some f =>
      if seen.contains f.name then .error .mismatch else
        match f.put s value with
        | .ok next => readFields known (f.name :: seen) next rest
        | .error e => .error e

/-- Items of a list as the fields in their order. Fields at the end may be left out. -/
def readItems : List (Field σ) → σ → List Json → Except ReadError σ
  | [], s, [] => .ok s
  | [], _, _ :: _ => .error .mismatch
  | f :: fs, s, [] => if f.required then .error .mismatch else readItems fs s []
  | f :: fs, s, value :: rest =>
    match f.put s value with
    | .ok next => readItems fs next rest
    | .error e => .error e

/-- A record, where what is left out stays as in `start`. -/
def record (known : List (Field σ)) (start : σ) : JsonReader σ
  | .obj fields =>
    match readFields known [] start fields with
    | .ok (seen, s) =>
      if known.all fun f => !f.required || seen.contains f.name then .ok s else .error .mismatch
    | .error e => .error e
  | .arr items => readItems known start items
  | _ => .error .mismatch

end JsonReader

end PartSearch
