import PartSearch.Command.Run

/-!
The program: it takes its arguments, its input and the file of the catalog from outside, and prints
what comes of them.
-/

namespace PartSearch.Program

def fileError : IO.Error → FileError
  | .noFileOrDirectory _ _ _ => .notFound
  | .inappropriateType _ 20 _ => .notDirectory
  | .inappropriateType _ 21 _ => .isDirectory
  | .invalidArgument _ 36 _ => .nameTooLong
  | .permissionDenied _ 13 _ => .accessDenied
  | error => .other (toString error)

def readFile (path : String) : IO FileText := do
  try
    return .ok (← IO.FS.readFile path)
  catch error =>
    return .error (fileError error)

partial def readAll (input : IO.FS.Stream) (before : String) : IO String := do
  let line ← input.getLine
  if line.isEmpty then return before else readAll input (before ++ line)

def measure (query : String) : IO Timing := do
  let draft ← IO.mkRef (Draft.ofQuery (trimmed query) : Draft Float)
  let mut durations : Array Duration := #[]
  for stage in Stage.all do
    let start ← IO.monoNanosNow
    draft.modify stage.run
    let stop ← IO.monoNanosNow
    durations := durations.push ⟨stop - start⟩
  return .measured durations.toList ⟨durations.foldl (fun sum d => sum + d.nanoseconds) 0⟩

/-- Prints what a program leaves behind, and ends with its exit code. -/
def report (result : ProgramResult) : IO UInt32 := do
  IO.print result.output
  IO.eprint result.errors
  return result.exitCode.toUInt32

end PartSearch.Program

open PartSearch PartSearch.Program in
def main (arguments : List String) : IO UInt32 := do
  let stdout ← IO.getStdout
  match CommandLine.ofArguments (← stdout.isTty) arguments with
  | .error stop => report (.ofStop stop)
  | .ok c =>
    let input ← if c.readsInput then readAll (← IO.getStdin) "" else pure ""
    match c.withInput input with
    | .error stop => report (.ofStop stop)
    | .ok c =>
      let file ← match c.catalog with
        | some path => readFile path
        | none => pure (.ok "")
      let timing ← if c.catalog.isNone && !c.json then measure (c.query.getD "")
        else pure .hidden
      report (.ofRun (c.run file timing))
