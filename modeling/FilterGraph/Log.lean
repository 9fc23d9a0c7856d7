/-
The log of what is done. Each event has a level, a message and named texts. Work that is logged
notes its events while it makes its text, so they come in the order of its steps. Refused work
leaves no events behind, apart from those of the steps before.
-/

import FilterGraph.Host

namespace FilterGraph

/-! ### Events -/

/-- How much an event matters, from the most to the least. -/
inductive Level where
  | error
  | warn
  | info
  | debug
  | trace
  deriving DecidableEq, Repr

/-- The place of a level; the smaller, the more it matters. -/
def Level.rank : Level → Nat
  | error => 0
  | warn => 1
  | info => 2
  | debug => 3
  | trace => 4

/-- Something that was done. -/
inductive Event where
  | reading (path : String)
  | resolved (link token : String)
  | ignoredParameters (filter ignored : String)
  | fragment (filter text : String)
  | compiled (stages inputs : Nat)
  | assembled (arguments : Nat) (quoted : Bool)
  | launching (program : String)
  deriving DecidableEq, Repr

namespace Event

/-- How much an event matters: only ignored parameters are a sign that something may be wrong. -/
def level : Event → Level
  | reading _ => .debug
  | resolved _ _ => .trace
  | ignoredParameters _ _ => .warn
  | fragment _ _ => .debug
  | compiled _ _ => .debug
  | assembled _ _ => .debug
  | launching _ => .info

/-- What an event says, without what belongs to it. -/
def message : Event → String
  | reading _ => "reading pipeline description"
  | resolved _ _ => "resolved input link"
  | ignoredParameters _ _ => "filter does not take parameters, ignoring them"
  | fragment _ _ => "synthesized fragment"
  | compiled _ _ => "compiled filter graph"
  | assembled _ _ => "assembled command"
  | launching _ => "launching"

/-- The named texts of an event. -/
def fields : Event → List (String × String)
  | reading path => [("path", path)]
  | resolved link token => [("link", link), ("token", token)]
  | ignoredParameters filter ignored => [("filter", filter), ("ignored", ignored)]
  | fragment filter text => [("filter", filter), ("fragment", text)]
  | compiled stages inputs => [("stages", toString stages), ("inputs", toString inputs)]
  | assembled arguments quoted => [("args", toString arguments), ("quote", toString quoted)]
  | launching program => [("program", program)]

/-- Whether the event is kept when only events of the level and those that matter more are. -/
def isShown (event : Event) (level : Level) : Bool :=
  event.level.rank ≤ level.rank

end Event

/-! ### Logged work -/

/-- Work that notes events behind those that were noted before. -/
abbrev Logged (α : Type) : Type :=
  StateM (List Event) α

namespace Logged

/-- Notes an event. -/
def note (event : Event) : Logged Unit :=
  modify (· ++ [event])

/-- The events that the work notes. -/
def events {α : Type} (work : Logged α) : List Event :=
  (work.run []).2

end Logged

/-! ### Links -/

namespace StreamTable

/-- Looks up what stands between the brackets of a link. That a link is an input is noted. -/
def lookUp (table : StreamTable) (id : String) : Logged String :=
  match table.position? id with
  | some position => do
    let token := videoStream position
    Logged.note (.resolved id token)
    return token
  | none => return id

/-- Looks up the links, one after the other, and puts each between brackets. -/
def lookUpAll (table : StreamTable) (ids : List String) : Logged String := do
  let links ← ids.mapM fun id => return bracketed (← table.lookUp id)
  return String.join links

end StreamTable

/-! ### Stages -/

/-- Writes the filter. Parameters that have no place in its text are noted with a warning. -/
def Filter.write (filter : Filter) (inputCount : Nat) : Logged String := do
  if filter.ignoresParameters && !filter.parameters.isEmpty then
    Logged.note (.ignoredParameters filter.name filter.parameters.display)
  return filter.segment inputCount

namespace Stage

/-- Writes where the output goes. The labels of a split are looked up, and a single one is not. -/
def writeOutput (stage : Stage) (table : StreamTable) : Logged String :=
  match stage.output with
  | .one label => return bracketed label
  | .many labels => return ",split" ++ (← table.lookUpAll labels)

/-- Writes the stage. The filter is written before the links are looked up. -/
def write (stage : Stage) (table : StreamTable) : Logged String := do
  let filter ← stage.filter.write stage.inputs.size
  let inputs ← table.lookUpAll stage.inputs.toList
  let output ← stage.writeOutput table
  let text := inputs ++ filter ++ output
  Logged.note (.fragment stage.filter.name text)
  return text

end Stage

/-! ### Pipelines -/

namespace Pipeline

/-- Writes the stages in their order and joins them. -/
def writeGraph (pipeline : Pipeline) (layout : Layout) : Logged String := do
  let fragments ← pipeline.stages.mapM fun stage => stage.write pipeline.table
  let text := layout.separator.intercalate fragments
  Logged.note (.compiled pipeline.stages.length pipeline.sources.length)
  return text

/-- Writes the expression. Under the strict check the links are looked at before anything is
written. -/
def writeExpression (pipeline : Pipeline) (options : GraphOptions) :
    Logged (Except Error String) :=
  match options.linkCheck with
  | .lenient => .ok <$> pipeline.writeGraph options.layout
  | .strict =>
    match pipeline.checkLinks with
    | .error error => return .error error
    | .ok () => .ok <$> pipeline.writeGraph options.layout

/-- The log of an expression. -/
def expressionLog (pipeline : Pipeline) (options : GraphOptions) : List Event :=
  (pipeline.writeExpression options).events

/-- The log of a command, shown or not. -/
def commandLog (pipeline : Pipeline) (options : CommandOptions) (quoted : Bool) : List Event :=
  match pipeline.arguments options quoted with
  | .error _ => []
  | .ok arguments =>
    pipeline.expressionLog options.graph ++ [.assembled arguments.length quoted]

/-- The log of a command that is launched as a program of the host. -/
def runLog (pipeline : Pipeline) (options : CommandOptions) : List Event :=
  pipeline.commandLog options false ++
    match pipeline.arguments options false with
    | .ok (program :: _) => [.launching program]
    | _ => []

end Pipeline

end FilterGraph
