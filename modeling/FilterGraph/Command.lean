/-
The command that renders a pipeline: the program reads the input files, applies the expression, and
writes the last stage's label to the output file. A command is turned into a list of arguments, or
into a line to show, where everything that comes from the description stands between quote marks.
-/

import FilterGraph.Expression

namespace FilterGraph

/-- The parts of a command. There is no codec when the output file cannot hold it. -/
structure Command where
  program : String
  files : List String
  expression : String
  label : String
  codec : Option String
  output : String
  deriving DecidableEq, Repr

namespace Command

/-- A text between quote marks, just as it is. -/
def quote (text : String) : String :=
  "\"" ++ text ++ "\""

/-- The arguments, the program first. What comes from the description goes through `shown`. -/
def argumentsWith (shown : String → String) (command : Command) : List String :=
  [command.program, "-y"] ++
    command.files.flatMap (fun file => ["-i", shown file]) ++
    ["-filter_complex", shown command.expression, "-map", shown (bracketed command.label)] ++
    (match command.codec with
      | some codec => ["-c:v", codec]
      | none => []) ++
    [shown command.output]

/-- The arguments as the program gets them, or between quote marks to be shown. -/
def arguments (command : Command) (quoted : Bool) : List String :=
  command.argumentsWith (if quoted then quote else id)

/-- The command as one line. -/
def line (command : Command) : String :=
  " ".intercalate (command.arguments true)

end Command

namespace Pipeline

/-- The codec to name, unless the output file has the extension of those that cannot hold it. -/
def codec (pipeline : Pipeline) (options : CommandOptions) : Option String :=
  if pipeline.hasExtension options.bareExtension then none else some options.codec

/-- The command that renders the pipeline. What the pipeline lacks is found before any link that
leads nowhere. -/
def command (pipeline : Pipeline) (options : CommandOptions) : Except Error Command :=
  match pipeline.outcome with
  | .error error => .error error
  | .ok label =>
    match pipeline.expression options.graph with
    | .error error => .error error
    | .ok expression =>
      .ok {
        program := options.program
        files := pipeline.sources.map Source.file
        expression, label
        codec := pipeline.codec options
        output := pipeline.output }

/-- The arguments of the pipeline's command. -/
def arguments (pipeline : Pipeline) (options : CommandOptions) (quoted : Bool) :
    Except Error (List String) :=
  (pipeline.command options).map fun command => command.arguments quoted

/-- The line that shows the pipeline's command. -/
def commandLine (pipeline : Pipeline) (options : CommandOptions) : Except Error String :=
  (pipeline.command options).map Command.line

end Pipeline

end FilterGraph
