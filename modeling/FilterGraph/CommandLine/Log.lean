/-
What the command line logs: that it reads the description, how much it found there, and then what is
logged of the work that it was asked for. The work has events of its own, and only one more comes
from the command line itself.
-/

import FilterGraph.CommandLine.Outcome

namespace FilterGraph.CommandLine

/-- An event of the work that is done, or a description that was loaded, with the number of its
inputs and stages. -/
inductive Entry where
  | work (event : Event)
  | loaded (inputs stages : Nat)
  deriving DecidableEq, Repr

namespace Entry

/-- How much an entry matters. -/
def level : Entry → Level
  | work event => event.level
  | loaded _ _ => .debug

/-- What an entry says, without what belongs to it. -/
def message : Entry → String
  | work event => event.message
  | loaded _ _ => "loaded pipeline"

/-- The named texts of an entry. -/
def fields : Entry → List (String × String)
  | work event => event.fields
  | loaded inputs stages => [("inputs", toString inputs), ("stages", toString stages)]

/-- Whether the entry is kept when only entries of the level and those that matter more are. -/
def isShown (entry : Entry) (level : Level) : Bool :=
  entry.level.rank ≤ level.rank

end Entry

/-- What is logged for a mode. -/
def Mode.log (mode : Mode) (pipeline : Pipeline) (options : CommandOptions) : List Event :=
  match mode with
  | .showCommand => pipeline.commandLog options true
  | .showGraph => pipeline.expressionLog options.graph
  | .showArguments => pipeline.commandLog options false
  | .run => pipeline.runLog options

namespace Invocation

/-- Everything there is to log, in its order. The description is loaded before the options are
read, so its entry is there whether they can be read or not. -/
def entries (invocation : Invocation) (host : Host) : List Entry :=
  let description := Description.ofArgument invocation.description
  description.log.map Entry.work ++
    match description.load host with
    | .error _ => []
    | .ok pipeline =>
      .loaded pipeline.sources.length pipeline.stages.length ::
        match invocation.base host with
        | .error _ => []
        | .ok base => (invocation.mode.log pipeline (invocation.override base)).map Entry.work

/-- What is logged, as far as it is asked for. -/
def log (invocation : Invocation) (host : Host) : List Entry :=
  (invocation.entries host).filter (·.isShown (if invocation.verbose then .debug else .info))

end Invocation

end FilterGraph.CommandLine
