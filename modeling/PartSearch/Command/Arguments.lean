import PartSearch.Filter.Basic

/-!
The arguments of the command line. Options come first; the first argument that is none starts the
query, which takes all the rest.
-/

namespace PartSearch

structure CommandLine where
  query : Option String := none
  catalog : Option String := none
  /-- The part whose replacements are asked for. -/
  alternativesTo : Option String := none
  filters : List SpecFilter := []
  json : Bool := false
  color : Bool := false
  debug : Bool := false
deriving DecidableEq, Repr

inductive UsageError where
  | valueMissing (option value : String)
  | invalidFilter (expression : String) (error : FilterError)
  | unknownOption (argument : String)
  | alternativesWithoutCatalog
  | alternativesWithQuery
  | noQuery
deriving DecidableEq, Repr

/-- Why no command line results from arguments. -/
inductive ArgumentStop where
  | help
  | version
  | wrong (error : UsageError)
deriving DecidableEq, Repr

namespace CommandLine

def joinArguments (arguments : List String) : String :=
  String.ofList (Text.joinWith [' '] (arguments.map String.toList))

/-- The text without all the copies of a word, which is not empty, at its start. -/
def dropCopies (word cs : List Char) : List Char :=
  if word ≠ [] ∧ word.isPrefixOf cs then dropCopies word (cs.drop word.length) else cs
termination_by cs.length
decreasing_by
  rename_i h
  have hw : 0 < word.length := List.length_pos_iff.mpr h.1
  have hc : word.length ≤ cs.length := (List.isPrefixOf_iff_prefix.mp h.2).length_le
  simp only [List.length_drop]
  omega

/-- The value of an argument such as "--catalog=parts.json". -/
def valueAfter? (option argument : String) : Option String :=
  if option.toList.isPrefixOf argument.toList then
    some (String.ofList (dropCopies option.toList argument.toList))
  else none

def addFilter (c : CommandLine) (expression : String) : Except ArgumentStop CommandLine :=
  match SpecFilter.parse expression with
  | .ok filter => .ok { c with filters := c.filters ++ [filter] }
  | .error e => .error (.wrong (.invalidFilter expression e))

/-- An option that has its value in the same argument, if it is one. -/
def joinedOption? (c : CommandLine) (argument : String) :
    Option (Except ArgumentStop CommandLine) :=
  ((valueAfter? "--catalog=" argument).map fun path => .ok { c with catalog := some path }) <|>
    ((valueAfter? "--alternatives=" argument).map fun id =>
      .ok { c with alternativesTo := some id }) <|>
    (valueAfter? "--filter=" argument).map c.addFilter

def readArguments (c : CommandLine) : List String → Except ArgumentStop CommandLine
  | [] => .ok c
  | "-h" :: _ | "--help" :: _ => .error .help
  | "-V" :: _ | "--version" :: _ => .error .version
  | "--color" :: rest => readArguments { c with color := true } rest
  | "--no-color" :: rest => readArguments { c with color := false } rest
  | "--json" :: rest => readArguments { c with json := true } rest
  | "--debug" :: rest => readArguments { c with debug := true } rest
  | ["--catalog"] => .error (.wrong (.valueMissing "--catalog" "a file"))
  | "--catalog" :: path :: rest => readArguments { c with catalog := some path } rest
  | ["--alternatives"] => .error (.wrong (.valueMissing "--alternatives" "a part id"))
  | "--alternatives" :: id :: rest => readArguments { c with alternativesTo := some id } rest
  | ["--filter"] => .error (.wrong (.valueMissing "--filter" "an expression"))
  | "--filter" :: expression :: rest =>
    match c.addFilter expression with
    | .ok next => readArguments next rest
    | .error e => .error e
  | "--" :: rest =>
    let query := joinArguments rest
    .ok (if isBlankText query then c else { c with query := some query })
  | argument :: rest =>
    match c.joinedOption? argument with
    | some (.ok next) => readArguments next rest
    | some (.error e) => .error e
    | none =>
      if argument.toList.head? = some '-' then .error (.wrong (.unknownOption argument))
      else .ok { c with query := some (joinArguments (argument :: rest)) }

def needsQuery (c : CommandLine) : Bool :=
  c.alternativesTo.isNone && (c.catalog.isNone || c.filters.isEmpty)

/-- Refuses options that do not go together. -/
def checkOptions (c : CommandLine) : Except ArgumentStop CommandLine :=
  if c.alternativesTo.isSome && c.catalog.isNone then
    .error (.wrong .alternativesWithoutCatalog)
  else if c.alternativesTo.isSome && c.query.isSome then .error (.wrong .alternativesWithQuery)
  else .ok c

/-- The command line that arguments spell. Colors are used on a terminal unless they say
otherwise. -/
def ofArguments (onTerminal : Bool) (arguments : List String) : Except ArgumentStop CommandLine :=
  (readArguments { color := onTerminal } arguments).bind checkOptions

def readsInput (c : CommandLine) : Bool := c.query.isNone && c.needsQuery

/-- The command line with its query, which is `input` where the arguments hold none. -/
def withInput (c : CommandLine) (input : String) : Except ArgumentStop CommandLine :=
  let query := c.query.getD (if c.needsQuery then input else "")
  if c.needsQuery && isBlankText query then .error (.wrong .noQuery)
  else .ok { c with query := some query }

end CommandLine

end PartSearch
