/-
How graphs and commands are written: whether links are checked, how fragments are separated, which
program is called and which codec it is told to use.
-/

namespace FilterGraph

/-- What happens to a link that leads nowhere: it stands as it is, or it is refused. -/
inductive LinkCheck where
  | lenient
  | strict
  deriving DecidableEq, Repr

/-- How the fragments of a graph are separated. -/
inductive Layout where
  | compact
  | pretty
  deriving DecidableEq, Repr

/-- A semicolon ends a fragment; the pretty layout begins a new line after it. -/
def Layout.separator : Layout → String
  | compact => ";"
  | pretty => ";\n"

/-- How a graph is written. -/
structure GraphOptions where
  linkCheck : LinkCheck := .lenient
  layout : Layout := .compact
  deriving DecidableEq, Repr

namespace GraphOptions

/-- The same options with links checked. -/
def strict (options : GraphOptions) : GraphOptions :=
  { options with linkCheck := .strict }

/-- The same options with the pretty layout. -/
def pretty (options : GraphOptions) : GraphOptions :=
  { options with layout := .pretty }

end GraphOptions

/-- How a command is written: the program, the codec of the output, the extension of the files that
cannot hold that codec, and how the graph is written. -/
structure CommandOptions where
  program : String := "ffmpeg"
  codec : String := "ffv1"
  bareExtension : String := "gif"
  graph : GraphOptions := {}
  deriving DecidableEq, Repr

end FilterGraph
