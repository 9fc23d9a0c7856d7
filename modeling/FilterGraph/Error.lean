/-
Everything that can go wrong, from the first reading of a description to the end of the command it
describes. An error is a cause with what belongs to it; the wording is a function of it.
-/

import FilterGraph.Json.Fault

namespace FilterGraph

/-! ### What the system answers -/

/-- The errors of the operating system that reading a file or starting a program runs into. -/
inductive SystemError where
  | notFound
  | notRunnable
  | notPermitted
  | notDirectory
  | isDirectory
  | nameTooLong
  | tooManyLevels
  | other (message : String)
  deriving DecidableEq, Repr

/-- The system's own words, with its number for the error. -/
def SystemError.message : SystemError → String
  | notFound => "No such file or directory (os error 2)"
  | notRunnable => "Exec format error (os error 8)"
  | notPermitted => "Permission denied (os error 13)"
  | notDirectory => "Not a directory (os error 20)"
  | isDirectory => "Is a directory (os error 21)"
  | nameTooLong => "File name too long (os error 36)"
  | tooManyLevels => "Too many levels of symbolic links (os error 40)"
  | other message => message

/-- Why the text of a file could not be read. -/
inductive ReadFailure where
  | system (error : SystemError)
  | notText
  | nulInPath
  deriving DecidableEq, Repr

/-- The wording of a failed reading. -/
def ReadFailure.message : ReadFailure → String
  | system error => error.message
  | notText => "stream did not contain valid UTF-8"
  | nulInPath => "file name contained an unexpected NUL byte"

/-- How a program ended that did not succeed. -/
inductive ExitStatus where
  | code (status : Nat)
  | signal (number : Nat) (name : String)
  deriving DecidableEq, Repr

/-- The wording of a status. -/
def ExitStatus.message : ExitStatus → String
  | code status => s!"exit status: {status}"
  | signal number name => s!"signal: {number} ({name})"

/-- Why a command did not run to a successful end. -/
inductive LaunchFailure where
  | nothingToLaunch
  | nulInArgument (program : String)
  | notStarted (program : String) (error : SystemError)
  | unsuccessful (program : String) (status : ExitStatus)
  | refused (message : String)
  deriving DecidableEq, Repr

/-- The wording of a failed launch: the program comes first, where there is one. -/
def LaunchFailure.message : LaunchFailure → String
  | nothingToLaunch => "empty command"
  | nulInArgument program => s!"{program}: nul byte found in provided data"
  | notStarted program error => program ++ ": " ++ error.message
  | unsuccessful program status => program ++ " exited with " ++ status.message
  | refused message => message

/-! ### Errors -/

/-- Why there is no result. -/
inductive Error where
  | noInputs
  | noStages
  | splitOutput (labels : List String)
  | malformed (problem : Json.Problem)
  | unreadable (path : String) (failure : ReadFailure)
  | duplicateInput (id : String)
  | duplicateLabel (label : String)
  | unknownLink (stage : Nat) (link : String)
  | earlyLink (stage : Nat) (link : String)
  | launch (failure : LaunchFailure)

namespace Error

/-- The wording of an error. -/
def message : Error → String
  | noInputs => "Pipeline declares no inputs"
  | noStages => "Pipeline declares no filter stages"
  | splitOutput labels =>
    "Final filter stage must have a single output label, found split into [" ++
      ", ".intercalate labels ++ "]"
  | malformed problem => "Malformed pipeline description: " ++ problem.message
  | unreadable path failure =>
    s!"Cannot read pipeline description '{path}': " ++ failure.message
  | duplicateInput id => s!"Duplicate input identifier: {id}"
  | duplicateLabel label => s!"Duplicate output label: {label}"
  | unknownLink stage link => s!"Stage {stage} consumes unknown link '{link}'"
  | earlyLink stage link => s!"Stage {stage} consumes '{link}' before it is produced"
  | launch failure => "Failed to run command: " ++ failure.message

/-- Whether only the strict check of links can raise the error. -/
def isStrictOnly : Error → Bool
  | duplicateInput _ => true
  | duplicateLabel _ => true
  | unknownLink _ _ => true
  | earlyLink _ _ => true
  | _ => false

end Error

end FilterGraph
