import PartSearch.Command.Help
import PartSearch.Command.Report
import PartSearch.Exchange.Replacement
import PartSearch.Exchange.Search
import PartSearch.Json.Writer
import PartSearch.Replacement.CatalogRules

/-!
What a command line does: it reads a query, searches a catalog, or ranks the replacements for one
of its parts, and prints a report or JSON.
-/

namespace PartSearch

inductive FileError where
  | notFound
  | accessDenied
  /-- A name on the way to it is the name of a file. -/
  | notDirectory
  | isDirectory
  | nameTooLong
  | other (reason : String)
deriving DecidableEq, Repr

/-- The system's wording, with its number for the error. -/
def FileError.message : FileError → String
  | notFound => "No such file or directory (os error 2)"
  | accessDenied => "Permission denied (os error 13)"
  | notDirectory => "Not a directory (os error 20)"
  | isDirectory => "Is a directory (os error 21)"
  | nameTooLong => "File name too long (os error 36)"
  | other reason => reason

inductive CommandError where
  | unreadableCatalog (path : String) (error : FileError)
  | invalidCatalog (path : String)
  | unknownPart (id : String)
  | query (error : QueryError)
  | search (error : SearchError)
deriving DecidableEq, Repr

namespace CommandError

def message : CommandError → String
  | unreadableCatalog path e => "failed to read catalog '" ++ path ++ "': " ++ e.message
  | invalidCatalog path => "invalid catalog '" ++ path ++ "': it does not hold a catalog"
  | unknownPart id => "no part '" ++ id ++ "' in the catalog"
  | query e => e.message
  | search e => e.message

/-- A query that is refused is a mistake of the user; anything else is a failure. -/
def exitCode : CommandError → Nat
  | query _ | search (.query _) => 2
  | _ => 1

end CommandError

abbrev FileText := Except FileError String

def Catalog.ofFile (path : String) (text : FileText) : Except CommandError Catalog :=
  match text with
  | .error e => .error (.unreadableCatalog path e)
  | .ok text =>
    match (Json.read? text).map Catalog.read with
    | some (.ok catalog) => .ok catalog
    | _ => .error (.invalidCatalog path)

namespace CommandLine

/-- A value as JSON, or the lines of a report. -/
def print (c : CommandLine) (value : Json) (report : Palette → List String) : String :=
  if c.json then textOfLines [value.pretty] else textOfLines (report ⟨c.color⟩)

def runQuery (c : CommandLine) (timing : Timing) : Except CommandError String := do
  let text ← (Query.checked Query.maxLength (c.query.getD "")).mapError .query
  let parsed := ParsedQuery.ofText Float text
  let merged := { parsed with filters := SpecFilter.merge c.filters parsed.filters }
  return c.print merged.toJson fun palette =>
    Report.ofQuery palette timing merged (StageTrace.ofText Float text)

def runAlternatives (c : CommandLine) (catalog : Catalog) (id : String) :
    Except CommandError String :=
  let store := MemoryStore.ofRows catalog.rows
  match store.get? id with
  | none => .error (.unknownPart id)
  | some row =>
    let part := Part.ofRow catalog.taxonomy
    let report := ReplacementReport.of .catalog .standard (part row)
      ((store.inSubcategory row.subcategoryId).map part)
    .ok (c.print report.toJson fun palette => Report.ofReplacements palette report)

/-- Searches a catalog. A blank query is none. -/
def runSearch (c : CommandLine) (catalog : Catalog) : Except CommandError String := do
  let request : Request :=
    { query := c.query.filter fun q => !isBlankText q, filters := c.filters }
  let store := MemoryStore.ofRows catalog.rows
  let outcome ← (search store.access catalog.taxonomy .standard request).mapError .search
  return c.print outcome.toJson fun palette => Report.ofOutcome palette outcome

/-- What the command prints. `file` is the text of the catalog's file, and `timing` what is shown
of the times that reading a query took. -/
def run (c : CommandLine) (file : FileText) (timing : Timing) : Except CommandError String :=
  match c.catalog with
  | none => c.runQuery timing
  | some path =>
    match Catalog.ofFile path file with
    | .error e => .error e
    | .ok catalog =>
      match c.alternativesTo with
      | some id => c.runAlternatives catalog id
      | none => c.runSearch catalog

end CommandLine

structure ProgramResult where
  exitCode : Nat := 0
  output : String := ""
  errors : String := ""
deriving DecidableEq, Repr

namespace ProgramResult

def ofMessage (exitCode : Nat) (message : String) : ProgramResult :=
  { exitCode, errors := textOfLines ["error: " ++ message] }

def ofStop : ArgumentStop → ProgramResult
  | .help => { output := textOfLines [Help.text] }
  | .version => { output := textOfLines [Help.version] }
  | .wrong e => ofMessage 2 e.message

def ofRun : Except CommandError String → ProgramResult
  | .ok output => { output }
  | .error e => ofMessage e.exitCode e.message

end ProgramResult

end PartSearch
