/-
This file says what it takes for a pipeline to have a command, and what its parts are.

A command is there when the pipeline has a last label and its expression is written. The label is
written twice, once by itself and once by the last stage, and both times in the same way: only the
labels of a split are looked up. So the expression ends with the label that is mapped.
-/

import FilterGraph.Command
import FilterGraph.Proofs.Separators

namespace FilterGraph

/-! ### The arguments of a command -/

namespace Command

/-- The flags of a command. -/
def flags : List String :=
  ["-y", "-i", "-filter_complex", "-map", "-c:v"]

/-- The flag of the codec, if one is named. -/
def codecFlag : Option String → List String
  | some codec => ["-c:v", codec]
  | none => []

/-- The arguments one behind the other, however those from the description are shown. -/
theorem argumentsWith_eq (shown : String → String) (command : Command) :
    command.argumentsWith shown =
      command.program :: "-y" :: (command.files.flatMap (fun file => ["-i", shown file]) ++
        "-filter_complex" :: shown command.expression :: "-map" ::
          shown (bracketed command.label) ::
            (codecFlag command.codec ++ [shown command.output])) := by
  rw [argumentsWith]
  cases command.codec <;> simp [codecFlag]

/-- An argument, which comes from the description or not: then it is the program, a flag or the
codec. -/
inductive Argument where
  | own (text : String)
  | described (text : String)
  deriving DecidableEq, Repr

namespace Argument

/-- The argument as the program gets it. -/
def text : Argument → String
  | own text => text
  | described text => text

/-- The argument as it is shown: only what comes from the description stands between quote
marks. -/
def shown : Argument → String
  | own text => text
  | described text => quote text

end Argument

/-- The arguments one behind the other, told apart by where they come from. -/
def parts (command : Command) : List Argument :=
  .own command.program :: .own "-y" ::
    (command.files.flatMap (fun file => [.own "-i", .described file]) ++
      .own "-filter_complex" :: .described command.expression :: .own "-map" ::
        .described (bracketed command.label) ::
          ((codecFlag command.codec).map .own ++ [.described command.output]))

theorem arguments_false_eq (command : Command) :
    command.arguments false = command.parts.map Argument.text := by
  simp [arguments, argumentsWith_eq, parts, Argument.text, List.map_flatMap, Function.comp_def]

theorem arguments_true_eq (command : Command) :
    command.arguments true = command.parts.map Argument.shown := by
  simp [arguments, argumentsWith_eq, parts, Argument.shown, List.map_flatMap, Function.comp_def]

/-- What comes from the description is a file, the expression, the label or the output path. -/
theorem described_mem_parts_iff (command : Command) (text : String) :
    .described text ∈ command.parts ↔ text ∈ command.files ∨ text = command.expression ∨
      text = bracketed command.label ∨ text = command.output := by
  simp [parts]

/-- What does not is the program, a flag or the codec. -/
theorem own_mem_parts {command : Command} {text : String} (member : .own text ∈ command.parts) :
    text = command.program ∨ text ∈ flags ∨ text ∈ command.codec := by
  cases codec : command.codec with
  | none =>
    simp [parts, codecFlag, codec] at member
    rcases member with program | flag | ⟨_, flag⟩ | flag | flag <;> simp [flags, *]
  | some name =>
    simp [parts, codecFlag, codec] at member
    rcases member with program | flag | ⟨_, flag⟩ | flag | flag | flag | named <;>
      simp [flags, *]

/-! ### The shown line -/

/-- The characters of arguments with a blank behind each of them. -/
def spaced (arguments : List String) : List Char :=
  arguments.flatMap fun argument => argument.toList ++ [' ']

theorem spaced_cons (argument : String) (others : List String) :
    spaced (argument :: others) = argument.toList ++ ' ' :: spaced others := by
  simp [spaced]

theorem spaced_quote_cons (text : String) (others : List String) :
    spaced (quote text :: others) = '"' :: (text.toList ++ '"' :: ' ' :: spaced others) := by
  simp [spaced_cons, quote]

/-- A line with one more blank has a blank behind every argument. -/
theorem toList_line_append_blank (command : Command) :
    command.line.toList ++ [' '] = spaced (command.arguments true) := by
  have nonempty : (command.arguments true).map String.toList ≠ [] := by
    rw [arguments, argumentsWith_eq]
    exact List.cons_ne_nil _ _
  rw [line, String.toList_intercalate]
  exact (intercalate_append_separator [' '] nonempty).trans (List.flatMap_map _ _ _)

end Command

namespace Pipeline

/-! ### The steps towards a command -/

/-- The strict check is all that stands between a pipeline and its expression. -/
theorem expression_eq_ok_iff (pipeline : Pipeline) (options : GraphOptions) (text : String) :
    pipeline.expression options = .ok text ↔
      (options.linkCheck = .strict → pipeline.checkLinks = .ok ()) ∧
        pipeline.graph options.layout = text := by
  cases check : options.linkCheck <;> cases links : pipeline.checkLinks <;>
    simp [expression, check, links]

theorem expression_eq_error_iff (pipeline : Pipeline) (options : GraphOptions) (error : Error) :
    pipeline.expression options = .error error ↔
      options.linkCheck = .strict ∧ pipeline.checkLinks = .error error := by
  cases check : options.linkCheck <;> cases links : pipeline.checkLinks <;>
    simp [expression, check, links]

theorem outcome_eq_ok_iff (pipeline : Pipeline) (label : String) :
    pipeline.outcome = .ok label ↔ pipeline.sources ≠ [] ∧
      ∃ last, pipeline.stages.getLast? = some last ∧ last.output = .one label := by
  rw [outcome, checkComplete, finalLabel?]
  by_cases source : pipeline.sources = []
  · simp [source]
  · cases pipeline.stages.getLast? with
    | none => simp [source]
    | some last => cases output : last.output <;> simp [source, output, Labels.single?]

/-- The command of a pipeline with that label and that expression. -/
def commandOf (pipeline : Pipeline) (options : CommandOptions) (label expression : String) :
    Command where
  program := options.program
  files := pipeline.sources.map Source.file
  expression
  label
  codec := pipeline.codec options
  output := pipeline.output

theorem command_eq_ok_iff (pipeline : Pipeline) (options : CommandOptions) (command : Command) :
    pipeline.command options = .ok command ↔
      ∃ label expression, pipeline.outcome = .ok label ∧
        pipeline.expression options.graph = .ok expression ∧
        pipeline.commandOf options label expression = command := by
  cases outcome : pipeline.outcome <;> cases expression : pipeline.expression options.graph <;>
    simp [Pipeline.command, outcome, expression, commandOf]

theorem arguments_eq_ok_iff (pipeline : Pipeline) (options : CommandOptions) (quoted : Bool)
    (arguments : List String) :
    pipeline.arguments options quoted = .ok arguments ↔
      ∃ command, pipeline.command options = .ok command ∧
        command.arguments quoted = arguments := by
  cases made : pipeline.command options <;> simp [Pipeline.arguments, made, Except.map]

theorem commandLine_eq_ok_iff (pipeline : Pipeline) (options : CommandOptions) (line : String) :
    pipeline.commandLine options = .ok line ↔
      ∃ command, pipeline.command options = .ok command ∧ command.line = line := by
  cases made : pipeline.command options <;> simp [Pipeline.commandLine, made, Except.map]

/-- The program and the codec come from the options. -/
theorem command_program {pipeline : Pipeline} {options : CommandOptions} {command : Command}
    (made : pipeline.command options = .ok command) : command.program = options.program := by
  obtain ⟨_, _, _, _, rfl⟩ := (command_eq_ok_iff _ _ _).mp made
  rfl

theorem command_codec {pipeline : Pipeline} {options : CommandOptions} {command : Command}
    (made : pipeline.command options = .ok command) :
    ∀ codec ∈ command.codec, codec = options.codec := by
  obtain ⟨_, _, _, _, rfl⟩ := (command_eq_ok_iff _ _ _).mp made
  intro codec named
  rw [commandOf, Pipeline.codec] at named
  split at named
  · cases named
  · exact (Option.some.inj named).symm

/-! ### Where the expression ends -/

/-- The expression ends with the output of the last stage. -/
theorem outputSegment_isSuffixOf_graph {pipeline : Pipeline} {last : Stage}
    (found : pipeline.stages.getLast? = some last) (layout : Layout) :
    (last.outputSegment pipeline.table).toList <:+ (pipeline.graph layout).toList := by
  obtain ⟨earlier, stages⟩ := List.getLast?_eq_some_iff.mp found
  have fragments : pipeline.fragments =
      (earlier.map fun stage => stage.fragment pipeline.table) ++
        [last.fragment pipeline.table] := by
    rw [Pipeline.fragments, stages, List.map_append, List.map_singleton]
  have ending : (last.fragment pipeline.table).toList <:+ (pipeline.graph layout).toList := by
    rw [graph, String.toList_intercalate, fragments, List.map_append, List.map_singleton,
      intercalate_append_singleton]
    exact List.suffix_append _ _
  refine List.IsSuffix.trans ?_ ending
  rw [Stage.fragment, String.toList_append]
  exact List.suffix_append _ _

/-- The label that is mapped is the one the expression ends with, between the same brackets. -/
theorem label_isSuffixOf_expression {pipeline : Pipeline} {options : CommandOptions}
    {command : Command} (made : pipeline.command options = .ok command) :
    (bracketed command.label).toList <:+ command.expression.toList := by
  obtain ⟨label, expression, outcome, written, rfl⟩ := (command_eq_ok_iff _ _ _).mp made
  obtain ⟨_, last, found, single⟩ := (outcome_eq_ok_iff _ _).mp outcome
  obtain ⟨_, rfl⟩ := (expression_eq_ok_iff _ _ _).mp written
  have ending := outputSegment_isSuffixOf_graph found options.graph.layout
  rw [Stage.outputSegment, single] at ending
  exact ending

end Pipeline

end FilterGraph
