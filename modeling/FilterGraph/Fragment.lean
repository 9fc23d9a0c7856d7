/-
The text of one stage: its input links, its filter, and where its output goes. A single output label
is written as it is, while input links and the labels of a split are looked up among the inputs.
-/

import FilterGraph.StreamTable

namespace FilterGraph.Stage

/-- Where the output goes: to one label, or through a split to any number of them. -/
def outputSegment (stage : Stage) (table : StreamTable) : String :=
  match stage.output with
  | .one label => bracketed label
  | .many labels => ",split" ++ table.links labels

/-- The filter in the graph's own language; a stack says how many inputs it has. -/
def filterSegment (stage : Stage) : String :=
  stage.filter.segment stage.inputs.size

/-- The whole text of the stage. -/
def fragment (stage : Stage) (table : StreamTable) : String :=
  table.links stage.inputs.toList ++ stage.filterSegment ++ stage.outputSegment table

end FilterGraph.Stage
