/-
The command line itself: reads the files that the arguments name, works out what is to be done, and
writes it. Programs of the system cannot be started from here, so a run is refused.
-/

import FilterGraph.CommandLine.Log

namespace FilterGraph.CommandLine

/-- The error that the system gives a number. Some calls report the number with its sign changed. -/
def systemError (code : UInt32) (message : String) : SystemError :=
  let number := min code (0 - code)
  if number = 2 then .notFound
  else if number = 13 then .notPermitted
  else if number = 20 then .notDirectory
  else if number = 21 then .isDirectory
  else if number = 36 then .nameTooLong
  else .other message

/-- Reads a file of the system. -/
def readSystemFile (path : String) : IO (Except ReadFailure String) := do
  if path.contains '\x00' then return .error .nulInPath
  try
    let bytes ← IO.FS.readBinFile path
    match String.fromUTF8? bytes with
    | some text => return .ok text
    | none => return .error .notText
  catch error =>
    let message := toString error
    match error with
    | .noFileOrDirectory _ code _ => return .error (.system (systemError code message))
    | .permissionDenied _ code _ => return .error (.system (systemError code message))
    | .inappropriateType _ code _ => return .error (.system (systemError code message))
    | .invalidArgument _ code _ => return .error (.system (systemError code message))
    | _ => return .error (.system (.other message))

/-- The host of a use of the command line: it holds the files that are named there. -/
def systemHost (invocation : Invocation) : IO Host := do
  let paths := invocation.config.toList ++
    match Description.ofArgument invocation.description with
    | .inline _ => []
    | .file path => [path]
  let files ← paths.mapM fun path => return (path, ← readSystemFile path)
  return {
    read := fun path => (files.lookup path).getD (.error (.system .notFound))
    start := fun _ _ => .notStarted (.other "programs cannot be started from here") }

/-- An entry of the log on one line. -/
def entryLine (entry : Entry) : String :=
  " ".intercalate (entry.message :: entry.fields.map fun (name, text) => name ++ "=" ++ text)

end FilterGraph.CommandLine

open FilterGraph FilterGraph.CommandLine

/-- Reads the arguments, does what they ask for, and ends with the code of its outcome. -/
def main (arguments : List String) : IO UInt32 := do
  match Invocation.ofArguments arguments with
  | .error stop =>
    IO.print stop.output
    return stop.exitCode.toUInt32
  | .ok invocation =>
    let host ← systemHost invocation
    let outcome := invocation.outcome host
    for entry in invocation.log host do
      IO.eprintln (entryLine entry)
    IO.print outcome.output
    match outcome.error with
    | none => pure ()
    | some error => IO.eprint (Outcome.report error)
    return outcome.exitCode.toUInt32
