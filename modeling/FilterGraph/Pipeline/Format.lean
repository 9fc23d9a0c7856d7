/-
Pipeline descriptions in JSON. Two shorthands are kept apart from what they stand for: a single
identifier from a list of one, and a bare filter name from one with an empty set of parameters.
Identifiers, filters and parameters are read as values first and then have to fit; pipelines,
inputs and stages are records.
-/

import FilterGraph.Json.Record
import FilterGraph.Pipeline

namespace FilterGraph

open Json

/-! ### Identifiers -/

namespace Labels

/-- A single identifier is written as a text, and others as a list, even if it has one item. -/
def toValue : Labels → Value
  | one label => .text label
  | many labels => .list (labels.map Value.text)

/-- The text a value is, if it is one. -/
def textOf? : Value → Option String
  | .scalar (.text text) => some text
  | _ => none

/-- A text is one identifier, and a list of texts are many. -/
def ofValue? : Value → Option Labels
  | .scalar (.text label) => some (one label)
  | .list items => (items.mapM textOf?).map many
  | _ => none

/-- Reads identifiers that may nest as deep as the budget says before they are found not to fit. -/
def reader (budget : Nat) : Reader (Except Cause Labels) :=
  (readValue budget).map fun value =>
    match ofValue? value with
    | some labels => .ok labels
    | none => .error (.noVariant "Links")

/-- Reads identifiers that are the whole text. -/
def parse (text : String) : Except Problem Labels :=
  (reader depthLimit).readAllFitting text

end Labels

/-! ### Parameters and filters -/

/-- Reads the value of a parameter, which may be anything. -/
def Parameter.parse (text : String) : Except Problem Parameter :=
  ((readValue depthLimit).map Parameter.ofValue).readAll text

namespace Parameters

/-- The parameters as the members of an object, in their order. -/
def toValue (parameters : Parameters) : Value :=
  .object (parameters.entries.map fun (key, parameter) => (key, parameter.value))

/-- The parameters an object holds. -/
def ofMembers (members : List (String × Value)) : Parameters :=
  ofList (members.map fun (key, value) => (key, .ofValue value))

end Parameters

namespace Filter

/-- An empty set of parameters is not written. -/
def toValue : Filter → Value
  | bare name => .text name
  | configured name parameters =>
    .object (("name", .text name) ::
      if parameters.isEmpty then [] else [("params", parameters.toValue)])

/-- The values of the members with that key. -/
def valuesOf (key : String) (members : List (String × Value)) : List Value :=
  members.filterMap fun (key', value) => if key' = key then some value else none

/-- A text is a bare name. An object has one text as its name and at most one object as its
parameters; its other members do not matter. -/
def ofValue? : Value → Option Filter
  | .scalar (.text name) => some (bare name)
  | .object members =>
    match valuesOf "name" members, valuesOf "params" members with
    | [.scalar (.text name)], [] => some (configured name .empty)
    | [.scalar (.text name)], [.object parameters] =>
      some (configured name (.ofMembers parameters))
    | _, _ => none
  | _ => none

/-- Reads a filter that may nest as deep as the budget says before it is found not to fit. -/
def reader (budget : Nat) : Reader (Except Cause Filter) :=
  (readValue budget).map fun value =>
    match ofValue? value with
    | some filter => .ok filter
    | none => .error (.noVariant "FilterSpec")

/-- Reads a filter that is the whole text. -/
def parse (text : String) : Except Problem Filter :=
  (reader depthLimit).readAllFitting text

end Filter

/-! ### Inputs -/

namespace Source

/-- The fields in their order. -/
def toValue (source : Source) : Value :=
  .object [("id", .text source.id), ("file", .text source.file)]

/-- The fields of an input that were read. -/
structure Draft where
  id : Option String := none
  file : Option String := none

/-- An input needs an identifier and a file. -/
def Draft.finish : Draft → Except String Source
  | ⟨none, _⟩ => .error "id"
  | ⟨_, none⟩ => .error "file"
  | ⟨some id, some file⟩ => .ok ⟨id, file⟩

/-- The shape of an input. -/
def shape : Shape Draft Source where
  name := "InputDecl"
  start := {}
  fields := [
    { name := "id"
      isGiven := fun draft => draft.id.isSome
      value := readText.map fun id => .ok fun draft => { draft with id := some id } },
    { name := "file"
      isGiven := fun draft => draft.file.isSome
      value := readText.map fun file => .ok fun draft => { draft with file := some file } }]
  finish := Draft.finish

/-- Reads an input that is the whole text. -/
def parse (text : String) : Except Problem Source :=
  shape.reader.readAll text

end Source

/-! ### Stages -/

namespace Stage

/-- The fields in their order. -/
def toValue (stage : Stage) : Value :=
  .object [("in", stage.inputs.toValue), ("filter", stage.filter.toValue),
    ("out", stage.output.toValue)]

/-- The fields of a stage that were read. -/
structure Draft where
  inputs : Option Labels := none
  filter : Option Filter := none
  output : Option Labels := none

/-- A stage needs all its fields. -/
def Draft.finish : Draft → Except String Stage
  | ⟨none, _, _⟩ => .error "in"
  | ⟨_, none, _⟩ => .error "filter"
  | ⟨_, _, none⟩ => .error "out"
  | ⟨some inputs, some filter, some output⟩ => .ok ⟨inputs, filter, output⟩

/-- The shape of a stage; the values of its fields may nest as deep as the budget says. -/
def shape (budget : Nat) : Shape Draft Stage where
  name := "FilterStage"
  start := {}
  fields := [
    { name := "in"
      isGiven := fun draft => draft.inputs.isSome
      value := (Labels.reader budget).map fun fitting =>
        fitting.map fun inputs draft => { draft with inputs := some inputs } },
    { name := "filter"
      isGiven := fun draft => draft.filter.isSome
      value := (Filter.reader budget).map fun fitting =>
        fitting.map fun filter draft => { draft with filter := some filter } },
    { name := "out"
      isGiven := fun draft => draft.output.isSome
      value := (Labels.reader budget).map fun fitting =>
        fitting.map fun output draft => { draft with output := some output } }]
  finish := Draft.finish

/-- Reads a stage that is the whole text; its own bracket is open around the values of its
fields. -/
def parse (text : String) : Except Problem Stage :=
  (shape (depthLimit - 1)).reader.readAll text

end Stage

/-! ### Pipelines -/

namespace Pipeline

/-- The fields in their order. -/
def toValue (pipeline : Pipeline) : Value :=
  .object [("in", .list (pipeline.sources.map Source.toValue)),
    ("filters", .list (pipeline.stages.map Stage.toValue)), ("out", .text pipeline.output)]

/-- The description on one line. -/
def toText (pipeline : Pipeline) : String :=
  pipeline.toValue.compact

/-- The fields of a pipeline that were read. -/
structure Draft where
  sources : Option (List Source) := none
  stages : Option (List Stage) := none
  output : Option String := none

/-- A pipeline needs all its fields. -/
def Draft.finish : Draft → Except String Pipeline
  | ⟨none, _, _⟩ => .error "in"
  | ⟨_, none, _⟩ => .error "filters"
  | ⟨_, _, none⟩ => .error "out"
  | ⟨some sources, some stages, some output⟩ => .ok ⟨sources, stages, output⟩

/-- The shape of a pipeline. Around the values of a stage's fields three brackets are open: those of
the pipeline, of the list of stages, and of the stage. -/
def shape : Shape Draft Pipeline where
  name := "Pipeline"
  start := {}
  fields := [
    { name := "in"
      isGiven := fun draft => draft.sources.isSome
      value := (readList Source.shape.reader).map fun sources =>
        .ok fun draft => { draft with sources := some sources } },
    { name := "filters"
      isGiven := fun draft => draft.stages.isSome
      value := (readList (Stage.shape (depthLimit - 3)).reader).map fun stages =>
        .ok fun draft => { draft with stages := some stages } },
    { name := "out"
      isGiven := fun draft => draft.output.isSome
      value := readText.map fun output => .ok fun draft => { draft with output := some output } }]
  finish := Draft.finish

/-- Reads a description. -/
def parse (text : String) : Except Error Pipeline :=
  (shape.reader.readAll text).mapError Error.malformed

end Pipeline

end FilterGraph
