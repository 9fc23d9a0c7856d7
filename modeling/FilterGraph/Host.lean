/-
What the outside world provides: the text of files, and programs that can be started. Both are plain
functions here, so whatever depends on them can be reasoned about, and holds of every host. One that
is held in memory, for tests, is in `Rehearsal.Host`.
-/

import FilterGraph.Command

namespace FilterGraph

/-- What became of an attempt to start a program: there was a reason not to start it, or it wrote
its output and ended, with a status if it did not succeed. -/
inductive Ending where
  | notStarted (error : SystemError)
  | nulInArgument
  | finished (output : String) (status : Option ExitStatus)
  deriving DecidableEq, Repr

/-- The files that can be read and the programs that can be started. -/
structure Host where
  read : (path : String) → Except ReadFailure String
  start : (program : String) → (arguments : List String) → Ending

/-- What launching a command gave: the output it wrote, and whether it succeeded. -/
structure Launched where
  output : String
  result : Except LaunchFailure Unit

/-- Something that takes the arguments of a command and does what they say. -/
abbrev Launcher := List String → Launched

/-- Starts the program that comes first with the arguments behind it. -/
def Host.launch (host : Host) : Launcher
  | [] => ⟨"", .error .nothingToLaunch⟩
  | program :: arguments =>
    match host.start program arguments with
    | .notStarted error => ⟨"", .error (.notStarted program error)⟩
    | .nulInArgument => ⟨"", .error (.nulInArgument program)⟩
    | .finished output none => ⟨output, .ok ()⟩
    | .finished output (some status) => ⟨output, .error (.unsuccessful program status)⟩

/-- A run of a pipeline: the argument lists that were launched, what they wrote, and the result. -/
structure Run where
  launches : List (List String)
  output : String
  result : Except Error Unit

/-- Launches the command of the pipeline, if it has one. -/
def Pipeline.run (pipeline : Pipeline) (options : CommandOptions) (launcher : Launcher) : Run :=
  match pipeline.arguments options false with
  | .error error => ⟨[], "", .error error⟩
  | .ok arguments =>
    let launched := launcher arguments
    ⟨[arguments], launched.output, launched.result.mapError Error.launch⟩

end FilterGraph
