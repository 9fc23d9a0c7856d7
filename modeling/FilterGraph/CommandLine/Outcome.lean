/-
What the command line does: it reads the description, then the options, and then shows or launches
what they make together. Either all of it succeeds, or nothing but the first error is shown.
-/

import FilterGraph.CommandLine.Arguments
import FilterGraph.Description

namespace FilterGraph.CommandLine

/-! ### Options -/

namespace Invocation

/-- The options that are given on the command line, over those of the file. Lines are only broken
in a graph that is shown by itself, so a command is always compact. -/
def override (invocation : Invocation) (base : CommandOptions) : CommandOptions :=
  let checked := if invocation.strict then base.graph.strict else base.graph
  let graph :=
    if invocation.mode ≠ .showGraph then { checked with layout := .compact }
    else if invocation.pretty then checked.pretty
    else checked
  { base with graph, program := invocation.program.getD base.program }

/-- The options of the file, or the defaults, if there is no file. -/
def base (invocation : Invocation) (host : Host) : Except Error CommandOptions :=
  match invocation.config with
  | none => .ok {}
  | some path => CommandOptions.load path host

/-- Reads the description and then the options. -/
def load (invocation : Invocation) (host : Host) : Except Error (Pipeline × CommandOptions) :=
  match (Description.ofArgument invocation.description).load host with
  | .error error => .error error
  | .ok pipeline =>
    match invocation.base host with
    | .error error => .error error
    | .ok base => .ok (pipeline, invocation.override base)

end Invocation

/-! ### Outcomes -/

/-- What is written, what is launched, and the error that is reported. -/
structure Outcome where
  output : String
  launches : List (List String) := []
  error : Option Error := none

namespace Outcome

/-- A text on a line of its own, or an error. -/
def ofText : Except Error String → Outcome
  | .ok text => { output := text ++ "\n" }
  | .error error => { output := "", error := some error }

/-- The outcome of a run. -/
def ofRun (run : Run) : Outcome where
  output := run.output
  launches := run.launches
  error :=
    match run.result with
    | .ok () => none
    | .error error => some error

/-- Zero for success, one for an error. -/
def exitCode (outcome : Outcome) : Nat :=
  if outcome.error.isNone then 0 else 1

/-- The report of an error. Where only the strict check refuses the links, it says so. -/
def report (error : Error) : String :=
  "error: " ++ error.message ++ "\n" ++
    if error.isStrictOnly then
      "hint: unknown links pass through as labels without --strict\n"
    else ""

end Outcome

/-- The arguments as a list in JSON. -/
def argumentsText (arguments : List String) : String :=
  (Json.Value.list (arguments.map Json.Value.text)).pretty

/-- Shows or launches what the pipeline is made into. -/
def Mode.outcome (mode : Mode) (pipeline : Pipeline) (options : CommandOptions) (host : Host) :
    Outcome :=
  match mode with
  | .showCommand => .ofText (pipeline.commandLine options)
  | .showGraph => .ofText (pipeline.expression options.graph)
  | .showArguments => .ofText ((pipeline.arguments options false).map argumentsText)
  | .run => .ofRun (pipeline.run options host.launch)

/-- Does what was asked for. -/
def Invocation.outcome (invocation : Invocation) (host : Host) : Outcome :=
  match invocation.load host with
  | .error error => { output := "", error := some error }
  | .ok (pipeline, options) => invocation.mode.outcome pipeline options host

/-! ### Other requests -/

/-- What the program is called, and which version it is. -/
def versionLine : String :=
  "ffcms 0.1.0\n"

/-- The exit code of a reading that ended before its time. -/
def Stop.exitCode : Stop → Nat
  | misused => 2
  | help => 0
  | version => 0

/-- What is written when the reading ended before its time. The version is all that is told here: the
texts that explain how the command line is used are left out. -/
def Stop.output : Stop → String
  | misused => ""
  | help => ""
  | version => versionLine

end FilterGraph.CommandLine
