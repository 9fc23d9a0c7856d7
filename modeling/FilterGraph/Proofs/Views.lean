/-
This file says how much of its stages each result of a pipeline depends on.

A stage is looked at in three ways. The check of links sees the names that it takes and provides,
the expression sees what can be read back from its text, and whether there is a label to map is
seen from where its output goes. Pipelines that look the same in one of these ways, stage by stage,
have the same result there, however their descriptions differ.
-/

import FilterGraph.Command
import FilterGraph.Proofs.LinkFaults
import FilterGraph.Proofs.Reading
import Mathlib.Data.List.Forall2

namespace FilterGraph

/-! ### The views of a stage -/

namespace Stage

/-- The names a stage takes, and those it provides. -/
def wires (stage : Stage) : List String × List String :=
  (stage.inputs.toList, stage.output.toList)

/-- The text with that reading: the links between brackets, the filter, and the output. -/
def Reading.text (reading : Reading) : String :=
  String.join (reading.inputs.map bracketed) ++ reading.filter ++
    match reading.output with
    | .one label => bracketed label
    | .many labels => ",split" ++ String.join (labels.map bracketed)

/-- The text of a stage is made of nothing but what it tells. -/
theorem fragment_eq_text (stage : Stage) (table : StreamTable) :
    stage.fragment table = (stage.reading table).text := by
  rw [fragment, Reading.text, reading, writtenOutput, outputSegment, StreamTable.links,
    List.map_map]
  cases stage.output with
  | one label => rfl
  | many labels =>
    show _ ++ (",split" ++ String.join _) = _ ++ (",split" ++ String.join _)
    rw [List.map_map]
    rfl

end Stage

/-- Stages that are alike one by one look alike where a view does not tell them apart. -/
theorem map_eq_of_forall₂ {View : Type} {alike : Stage → Stage → Prop}
    {first second : List Stage} {firstView secondView : Stage → View}
    (stages : List.Forall₂ alike first second)
    (blind : ∀ {stage other : Stage}, alike stage other → firstView stage = secondView other) :
    first.map firstView = second.map secondView := by
  induction stages with
  | nil => rfl
  | cons same _ inductionHypothesis =>
    rw [List.map_cons, List.map_cons, blind same, inductionHypothesis]

namespace Pipeline

/-- The names that the stages take and provide, stage by stage. -/
def wires (pipeline : Pipeline) : List (List String × List String) :=
  pipeline.stages.map Stage.wires

/-- Where the output of each stage goes. -/
def outputs (pipeline : Pipeline) : List Labels :=
  pipeline.stages.map Stage.output

theorem fragments_eq_map_readings (pipeline : Pipeline) :
    pipeline.fragments = pipeline.readings.map Stage.Reading.text := by
  rw [fragments, readings, List.map_map]
  exact List.map_congr_left fun stage _ => stage.fragment_eq_text pipeline.table

theorem labels_eq_flatMap_wires (pipeline : Pipeline) :
    pipeline.labels = pipeline.wires.flatMap Prod.snd := by
  rw [labels, wires, List.flatMap_map]
  rfl

theorem producer?_eq_findIdx?_wires (pipeline : Pipeline) (label : String) :
    pipeline.producer? label = pipeline.wires.findIdx? fun wires => label ∈ wires.2 := by
  rw [producer?, wires, List.findIdx?_map]
  rfl

/-- The three passes of the check, one after the other, with what each of them looks at. -/
theorem wiringFault?_eq_of_wires (pipeline : Pipeline) :
    pipeline.wiringFault? =
      (((firstRepeated [] pipeline.ids).map Error.duplicateInput).or
        ((firstRepeated pipeline.ids (pipeline.wires.flatMap Prod.snd)).map
          Error.duplicateLabel)).or
        (pipeline.wires.zipIdx.findSome? fun wired =>
          wired.1.1.findSome? (pipeline.linkFault? wired.2)) := by
  rw [wiringFault?, ← labels_eq_flatMap_wires, wires, List.zipIdx_map, List.findSome?_map]
  cases firstRepeated [] pipeline.ids with
  | some id => rfl
  | none =>
    cases firstRepeated pipeline.ids pipeline.labels with
    | some label => rfl
    | none => rfl

theorem finalLabel?_eq_getLast?_outputs (pipeline : Pipeline) :
    pipeline.finalLabel? = pipeline.outputs.getLast?.bind Labels.single? := by
  rw [finalLabel?, outputs, List.getLast?_map, Option.bind_map]
  rfl

theorem outcome_eq_of_outputs (pipeline : Pipeline) :
    pipeline.outcome =
      if pipeline.sources.isEmpty then .error .noInputs
      else
        match pipeline.outputs.getLast? with
        | none => .error .noStages
        | some (.one label) => .ok label
        | some (.many labels) => .error (.splitOutput labels) := by
  rw [outcome, checkComplete, finalLabel?, outputs, List.getLast?_map]
  cases pipeline.sources.isEmpty with
  | true => rfl
  | false =>
    cases pipeline.stages.getLast? with
    | none => rfl
    | some last => cases output : last.output <;> simp [output, Labels.single?]

/-! ### Pipelines that look the same -/

variable {first second : Pipeline}

theorem linkFault?_congr (ids : first.ids = second.ids) (wires : first.wires = second.wires) :
    first.linkFault? = second.linkFault? := by
  funext position link
  rw [linkFault?, linkFault?, producer?_eq_findIdx?_wires, producer?_eq_findIdx?_wires, ids, wires]

/-- The check of links sees the declared identifiers and the names of the stages. -/
theorem checkLinks_congr (ids : first.ids = second.ids) (wires : first.wires = second.wires) :
    first.checkLinks = second.checkLinks := by
  rw [checkLinks_eq_verdict, checkLinks_eq_verdict, wiringFault?_eq_of_wires,
    wiringFault?_eq_of_wires, linkFault?_congr ids wires, ids, wires]

/-- The label to map is seen from the outputs, once there is an input. -/
theorem outcome_congr (sources : first.sources.isEmpty = second.sources.isEmpty)
    (outputs : first.outputs = second.outputs) : first.outcome = second.outcome := by
  rw [outcome_eq_of_outputs, outcome_eq_of_outputs, sources, outputs]

theorem finalLabel?_congr (outputs : first.outputs = second.outputs) :
    first.finalLabel? = second.finalLabel? := by
  rw [finalLabel?_eq_getLast?_outputs, finalLabel?_eq_getLast?_outputs, outputs]

theorem graph_congr (readings : first.readings = second.readings) (layout : Layout) :
    first.graph layout = second.graph layout := by
  rw [graph, graph, fragments_eq_map_readings, fragments_eq_map_readings, readings]

/-- The expression is seen from the readings, once the links are checked alike. -/
theorem expression_congr (links : first.checkLinks = second.checkLinks)
    (readings : first.readings = second.readings) (options : GraphOptions) :
    first.expression options = second.expression options := by
  rw [expression, expression, links, graph_congr readings]

/-- Beyond the label and the expression, the command sees the files. -/
theorem command_congr {options : CommandOptions} (outcome : first.outcome = second.outcome)
    (expression : first.expression options.graph = second.expression options.graph)
    (files : first.sources.map Source.file = second.sources.map Source.file)
    (output : first.output = second.output) :
    first.command options = second.command options := by
  have codec : first.codec options = second.codec options := by
    rw [Pipeline.codec, Pipeline.codec, hasExtension, hasExtension, output]
  rw [command, command, outcome, expression, files, codec, output]

end Pipeline

end FilterGraph
