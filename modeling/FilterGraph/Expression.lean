/-
The filter graph of a pipeline as one expression: the fragments of its stages in their order, with
the separator of the layout between them.
-/

import FilterGraph.Fragment
import FilterGraph.Options
import FilterGraph.Wiring

namespace FilterGraph.Pipeline

/-- The streams of the declared inputs. -/
def table (pipeline : Pipeline) : StreamTable :=
  .ofSources pipeline.sources

/-- The texts of the stages. -/
def fragments (pipeline : Pipeline) : List String :=
  pipeline.stages.map fun stage => stage.fragment pipeline.table

/-- The expression in the given layout, whether its links lead anywhere or not. -/
def graph (pipeline : Pipeline) (layout : Layout) : String :=
  layout.separator.intercalate pipeline.fragments

/-- The expression; under the strict check only that of a pipeline whose links lead somewhere. -/
def expression (pipeline : Pipeline) (options : GraphOptions) : Except Error String :=
  match options.linkCheck with
  | .lenient => .ok (pipeline.graph options.layout)
  | .strict =>
    match pipeline.checkLinks with
    | .error error => .error error
    | .ok () => .ok (pipeline.graph options.layout)

end FilterGraph.Pipeline
