/-
This file says what the graph of a pipeline does not depend on.

The check of links and the expression see the identifiers of the inputs, the links and labels of
the stages and the names of their filters. Files and the output path belong to the command and
do not get into either. Parameters get into the text of an overlay, as they are shown there, and
nowhere else; whether there are none or an empty set makes no difference. A stack counts the links
it takes, so that nothing else can say how many there are.
-/

import FilterGraph.Proofs.Tokens
import FilterGraph.Proofs.Views

namespace FilterGraph

/-! ### What is seen of a filter -/

/-- The text of a filter is seen from its name, and that of an overlay from what is shown of its
parameters. -/
theorem Filter.segment_congr {first second : Filter} (name : first.name = second.name)
    (shown : first.name = "overlay" → first.parameters.shown = second.parameters.shown)
    (inputCount : Nat) : first.segment inputCount = second.segment inputCount := by
  rw [segment_eq, segment_eq, ← name]
  by_cases overlay : first.name = "overlay"
  · rw [Parameters.display_eq_of_shown, Parameters.display_eq_of_shown, shown overlay]
  · simp only [overlay, if_false]

/-- A stack says how many links it takes, each one counted as often as it is taken. -/
theorem Stage.filterSegment_of_stack {stage : Stage} {direction : String}
    (known : direction ∈ ["h", "v"]) (name : stage.filter.name = direction ++ "stack") :
    stage.filterSegment =
      direction ++ "stack=inputs=" ++ toString stage.inputs.toList.length := by
  rw [filterSegment, Filter.segment_eq, name, Labels.size]
  rcases List.mem_pair.mp known with rfl | rfl <;> rfl

/-! ### What is seen of a pipeline -/

/-- Stages with the same links, the same output and the same filter name. Only overlays need the
same parameters, and these only as they are shown. -/
structure Stage.SeenAlike (first second : Stage) : Prop where
  inputs : first.inputs.toList = second.inputs.toList
  output : first.output = second.output
  name : first.filter.name = second.filter.name
  shown : first.filter.name = "overlay" →
    first.filter.parameters.shown = second.filter.parameters.shown

/-- Pipelines with the same identifiers of inputs, and with stages that are alike one by one. -/
structure Pipeline.SeenAlike (first second : Pipeline) : Prop where
  ids : first.ids = second.ids
  stages : List.Forall₂ Stage.SeenAlike first.stages second.stages

namespace Stage.SeenAlike

variable {first second : Stage} (alike : first.SeenAlike second)

include alike

theorem wires_eq : first.wires = second.wires := by
  rw [wires, wires, alike.inputs, alike.output]

theorem reading_eq {firstTable secondTable : StreamTable}
    (tokens : firstTable.token = secondTable.token) :
    first.reading firstTable = second.reading secondTable := by
  have filter : first.filterSegment = second.filterSegment := by
    rw [filterSegment, filterSegment, Labels.size, Labels.size, alike.inputs]
    exact Filter.segment_congr alike.name alike.shown _
  rw [reading, reading, writtenOutput, writtenOutput, tokens, alike.inputs, alike.output, filter]

end Stage.SeenAlike

namespace Pipeline

/-- What an identifier is written as is seen from the identifiers of the declarations. -/
theorem token_congr {first second : Pipeline} (ids : first.ids = second.ids) :
    first.table.token = second.table.token := by
  funext identifier
  rw [StreamTable.token, StreamTable.token, position?_eq_findIdx?, position?_eq_findIdx?, ids]

namespace SeenAlike

variable {first second : Pipeline} (alike : first.SeenAlike second)

include alike

theorem checkLinks_eq : first.checkLinks = second.checkLinks :=
  checkLinks_congr alike.ids (map_eq_of_forall₂ alike.stages Stage.SeenAlike.wires_eq)

theorem readings_eq : first.readings = second.readings :=
  map_eq_of_forall₂ alike.stages fun same => same.reading_eq (token_congr alike.ids)

end SeenAlike

/-- Parameters other than those of overlays, the files, the output path and the way in which a
filter without parameters is given change neither what the check of links says nor the
expression. The number that a stack shows is that of the links it takes, whatever its parameters
are. -/
theorem graph_ignores_the_rest {first second : Pipeline} (alike : first.SeenAlike second) :
    first.checkLinks = second.checkLinks ∧
    (∀ options, first.expression options = second.expression options) ∧
    ∀ direction ∈ ["h", "v"], ∀ (stage : Stage) (table : StreamTable),
      stage.filter.name = direction ++ "stack" →
        stage.fragment table = table.links stage.inputs.toList ++
          (direction ++ "stack=inputs=" ++ toString stage.inputs.toList.length) ++
          stage.outputSegment table := by
  refine ⟨alike.checkLinks_eq, expression_congr alike.checkLinks_eq alike.readings_eq, ?_⟩
  intro direction known stage table name
  rw [Stage.fragment, Stage.filterSegment_of_stack known name]

/-- A stack of one input with itself, and an overlay at a number. -/
def tidy : Pipeline where
  sources := [⟨"a", "a.mov"⟩, ⟨"b", "b.mov"⟩]
  stages := [
    ⟨.many ["a", "a"], .bare "hstack", .one "row"⟩,
    ⟨.many ["row", "b"], .configured "overlay" (.ofList [("x", .ofInt 10 (by decide))]),
      .one "out"⟩]
  output := "out.avi"

/-- The stack is told another number of inputs, the overlay gets a text that is shown as the
number, and the files are others. -/
def laden : Pipeline where
  sources := [⟨"a", "c.mov"⟩, ⟨"b", "d.mov"⟩]
  stages := [
    ⟨.many ["a", "a"], .configured "hstack" (.ofList [("inputs", .ofInt 7 (by decide))]),
      .one "row"⟩,
    ⟨.many ["row", "b"], .configured "overlay" (.ofList [("x", .ofText "10")]), .one "out"⟩]
  output := "out.gif"

theorem tidy_seenAlike_laden : tidy.SeenAlike laden where
  ids := rfl
  stages := .cons ⟨rfl, rfl, rfl, nofun⟩ (.cons ⟨rfl, rfl, rfl, fun _ => rfl⟩ .nil)

/-- Both have one graph, and the stack takes two links in it. -/
theorem tidy_same_graph_as_laden :
    tidy.SeenAlike laden ∧ tidy.checkLinks = laden.checkLinks ∧
      (∀ options, tidy.expression options = laden.expression options) ∧
      ∃ stack, laden.stages.head? = some stack ∧ ∀ table : StreamTable,
        stack.fragment table = table.links ["a", "a"] ++ "hstack=inputs=2" ++ "[row]" := by
  obtain ⟨links, expressions, counted⟩ := graph_ignores_the_rest tidy_seenAlike_laden
  refine ⟨tidy_seenAlike_laden, links, expressions, _, rfl, fun table => ?_⟩
  exact counted "h" (by decide) _ table rfl

end Pipeline

end FilterGraph
