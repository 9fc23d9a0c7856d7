/-
Pipelines: the declared input files, the stages that turn links into labels, and the file that the
last label goes to. Nothing here asks whether the links lead anywhere.
-/

import FilterGraph.Error
import FilterGraph.Filter
import FilterGraph.Labels

namespace FilterGraph

/-- An input file, under the identifier that stages refer to it by. -/
structure Source where
  id : String
  file : String
  deriving DecidableEq, Repr

/-- A filter, the links it takes its inputs from, and the labels its output goes to. A list of
labels splits the output. -/
structure Stage where
  inputs : Labels
  filter : Filter
  output : Labels

/-- Declared inputs and stages in their order, and the path of the output file. -/
structure Pipeline where
  sources : List Source
  stages : List Stage
  output : String

namespace Pipeline

/-! ### Building -/

/-- A pipeline without inputs and stages. -/
def new (output : String) : Pipeline :=
  ⟨[], [], output⟩

/-- Declares one more input. -/
def declare (pipeline : Pipeline) (id file : String) : Pipeline :=
  { pipeline with sources := pipeline.sources ++ [⟨id, file⟩] }

/-- Adds a stage at the end. -/
def push (pipeline : Pipeline) (stage : Stage) : Pipeline :=
  { pipeline with stages := pipeline.stages ++ [stage] }

/-! ### Looking at the parts -/

/-- The identifiers of the declared inputs. -/
def ids (pipeline : Pipeline) : List String :=
  pipeline.sources.map Source.id

/-- The output labels of all stages, in order. -/
def labels (pipeline : Pipeline) : List String :=
  pipeline.stages.flatMap fun stage => stage.output.toList

/-- The label of the last stage, if it does not split its output. -/
def finalLabel? (pipeline : Pipeline) : Option String :=
  pipeline.stages.getLast?.bind fun stage => stage.output.single?

/-- Whether the output path ends in a point and the extension. The name before the point may be
empty. -/
def hasExtension (pipeline : Pipeline) (extension : String) : Bool :=
  ('.' :: extension.toList).isSuffixOf pipeline.output.toList

/-! ### Being complete -/

/-- Accepts a pipeline that has an input and a stage, and whose last stage does not split its
output. -/
def checkComplete (pipeline : Pipeline) : Except Error Unit :=
  if pipeline.sources.isEmpty then .error .noInputs
  else
    match pipeline.stages.getLast? with
    | none => .error .noStages
    | some last =>
      match last.output with
      | .one _ => .ok ()
      | .many labels => .error (.splitOutput labels)

/-- The label the output file is made from. A complete pipeline has one, so the error for a missing
label is never met. -/
def outcome (pipeline : Pipeline) : Except Error String :=
  match pipeline.checkComplete with
  | .error error => .error error
  | .ok () =>
    match pipeline.finalLabel? with
    | none => .error .noStages
    | some label => .ok label

theorem exists_finalLabel?_of_checkComplete {pipeline : Pipeline}
    (complete : pipeline.checkComplete = .ok ()) : ∃ label, pipeline.finalLabel? = some label := by
  unfold checkComplete at complete
  split at complete
  · cases complete
  · split at complete
    · cases complete
    · next last found =>
      split at complete
      · next label single =>
        exact ⟨label, by simp only [finalLabel?, found, Option.bind_some, single, Labels.single?]⟩
      · cases complete

/-- Nothing but what a pipeline lacks keeps it from having a label. -/
theorem outcome_eq_error_iff (pipeline : Pipeline) (error : Error) :
    pipeline.outcome = .error error ↔ pipeline.checkComplete = .error error := by
  rw [outcome]
  cases complete : pipeline.checkComplete with
  | error other => simp
  | ok _ =>
    obtain ⟨label, found⟩ := exists_finalLabel?_of_checkComplete complete
    simp [found]

end Pipeline

end FilterGraph
