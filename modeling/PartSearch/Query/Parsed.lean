import PartSearch.Query.Stage

/-!
Queries in words, read as a structured search. A query is refused if it is too long or holds
control characters; any other query has a reading.
-/

namespace PartSearch

inductive QueryError where
  | tooLong (length max : Nat)
  /-- A control character other than tab, carriage return and line feed. -/
  | controlCharacter (position : Nat)
  | noSearchableTerms
deriving DecidableEq, Repr

def QueryError.message : QueryError → String
  | tooLong length max =>
    "query too long (" ++ toString length ++ " characters, max " ++ toString max ++ ")"
  | controlCharacter position =>
    "query contains an invalid control character at position " ++ toString position
  | noSearchableTerms => "query contains no searchable terms"

namespace Query

def maxLength : Nat := 500

def isForbidden (c : Char) : Bool := Text.isControl c && c ≠ '\t' && c ≠ '\r' && c ≠ '\n'

/-- Refuses a query that is longer than `max` characters or holds a forbidden one. -/
def validate (max : Nat) (text : String) : Except QueryError Unit :=
  let cs := text.toList
  if max < cs.length then .error (.tooLong cs.length max)
  else match cs.findIdx? isForbidden with
    | some position => .error (.controlCharacter position)
    | none => .ok ()

/-- The query without white space at its ends, if it is neither blank nor refused. -/
def checked (max : Nat) (text : String) : Except QueryError String :=
  let text := trimmed text
  if text.isEmpty then .error .noSearchableTerms
  else (validate max text).map fun _ => text

end Query

structure ParsedQuery where
  original : String
  subcategory : Option String
  package : Option String
  modelNumber : Option String
  mounting : Option Mounting
  connector : Option Connector
  filters : List SpecFilter
  /-- Text for a full-text search, which may be empty. -/
  freeText : String
  findings : Findings
deriving DecidableEq, Repr

namespace ParsedQuery

variable {ν : Type} [Number ν]

def ofDraft (d : Draft ν) : ParsedQuery where
  original := d.original
  subcategory := d.subcategory
  package := d.package
  modelNumber := d.modelNumber
  mounting := d.mounting
  connector := d.connector
  filters := d.filters
  freeText := d.freeText
  findings := d.findings

def ofText (ν : Type) [Number ν] (query : String) : ParsedQuery :=
  ofDraft (Stage.all.foldl (fun d stage => stage.run d) (Draft.ofQuery query : Draft ν))

end ParsedQuery

/-- What one stage left behind. -/
structure StageTrace where
  stage : String
  remaining : String
  filterCount : Nat
deriving DecidableEq, Repr

namespace StageTrace

variable {ν : Type}

/-- What each of some stages leaves behind, one running on the result of the other. -/
def ofStages : List (Stage ν) → Draft ν → List StageTrace
  | [], _ => []
  | stage :: stages, d =>
    let next := stage.run d
    { stage := stage.name, remaining := next.remaining, filterCount := next.filters.length } ::
      ofStages stages next

def ofText (ν : Type) [Number ν] (query : String) : List StageTrace :=
  ofStages Stage.all (Draft.ofQuery query : Draft ν)

end StageTrace

namespace SpecFilter

/-- Filters given by hand and filters read from a query. One given by hand hides every read one on
the same attribute. -/
def merge (manual read : List SpecFilter) : List SpecFilter :=
  manual ++ read.filter fun f => !manual.any fun m => Text.sameText m.name f.name

end SpecFilter

end PartSearch
