/-
This file says what the arguments of a command are, one by one, with quote marks and without.

An argument either comes from the description or it does not, and only where it does are there
quote marks when the command is shown. So both forms of a command are one list of arguments seen
in two ways, and neither its order nor its length depends on the form. The label behind the flag
of the mapping is written by itself, but in the same way as the last stage writes it, and nothing
is written behind that stage: the expression ends with the label that is mapped.
-/

import FilterGraph.Proofs.Refusals
import FilterGraph.Proofs.Streams

namespace FilterGraph

/-! ### The extension of the output file -/

/-- The path ends in a point and the extension. There may be nothing before the point, and the
extension may be empty. -/
def EndsInExtension (path extension : String) : Prop :=
  ∃ stem, path = stem ++ "." ++ extension

theorem endsInExtension_iff_isSuffixOf (path extension : String) :
    EndsInExtension path extension ↔
      ('.' :: extension.toList).isSuffixOf path.toList = true := by
  rw [List.isSuffixOf_iff_suffix]
  constructor
  · rintro ⟨stem, rfl⟩
    exact ⟨stem.toList, by simp⟩
  · rintro ⟨stem, same⟩
    refine ⟨String.ofList stem, String.toList_inj.mp ?_⟩
    simp [← same]

instance (path extension : String) : Decidable (EndsInExtension path extension) :=
  decidable_of_iff _ (endsInExtension_iff_isSuffixOf path extension).symm

namespace Pipeline

theorem hasExtension_iff (pipeline : Pipeline) (extension : String) :
    pipeline.hasExtension extension = true ↔ EndsInExtension pipeline.output extension :=
  (endsInExtension_iff_isSuffixOf pipeline.output extension).symm

/-- The extension can be tested for by taking it off, where the path ends with it, and asking for
a point at the end of what is left. -/
theorem hasExtension_eq_any_dropSuffix? (pipeline : Pipeline) (extension : String) :
    pipeline.hasExtension extension =
      (pipeline.output.dropSuffix? extension).any fun stem => stem.endsWith '.' := by
  rw [Bool.eq_iff_iff, hasExtension_iff, String.dropSuffix?_eq_dropSuffix?_toSlice]
  cases dropped : pipeline.output.toSlice.dropSuffix? extension with
  | none =>
    rw [String.Slice.dropSuffix?_eq_none_iff, String.Slice.endsWith_string_eq_false_iff] at dropped
    refine iff_of_false ?_ (by simp)
    rintro ⟨stem, same⟩
    exact dropped ⟨(stem ++ ".").toList, by simp [same]⟩
  | some stem =>
    have path : pipeline.output = stem.copy ++ extension := by
      simpa using String.Slice.eq_append_of_dropSuffix?_string_eq_some dropped
    rw [Option.any_some, String.Slice.endsWith_char_iff_exists_append, EndsInExtension, path]
    simp only [String.append_left_inj]
    rfl

/-! ### The arguments one by one -/

/-- The arguments of the pipeline's command: the program, an input flag for every declaration, the
expression, the label between brackets, the codec unless the output file has the extension of
those that cannot hold it, and the output file. -/
def argumentList (pipeline : Pipeline) (options : CommandOptions) (label expression : String) :
    List Command.Argument :=
  [.own options.program, .own "-y"] ++
    pipeline.sources.flatMap (fun source => [.own "-i", .described source.file]) ++
    [.own "-filter_complex", .described expression] ++
    [.own "-map", .described ("[" ++ label ++ "]")] ++
    (if EndsInExtension pipeline.output options.bareExtension then []
      else [.own "-c:v", .own options.codec]) ++
    [.described pipeline.output]

theorem map_codecFlag_codec (pipeline : Pipeline) (options : CommandOptions) :
    (Command.codecFlag (pipeline.codec options)).map Command.Argument.own =
      if EndsInExtension pipeline.output options.bareExtension then []
      else [.own "-c:v", .own options.codec] := by
  have extension := pipeline.hasExtension_iff options.bareExtension
  by_cases ends : EndsInExtension pipeline.output options.bareExtension
  · rw [codec, if_pos (extension.mpr ends), if_pos ends]
    rfl
  · rw [codec, if_neg (mt extension.mp ends), if_neg ends]
    rfl

theorem parts_commandOf (pipeline : Pipeline) (options : CommandOptions)
    (label expression : String) :
    (pipeline.commandOf options label expression).parts =
      pipeline.argumentList options label expression := by
  rw [Command.parts, argumentList, ← map_codecFlag_codec]
  simp [commandOf, bracketed, List.flatMap_map]

theorem length_argumentList (pipeline : Pipeline) (options : CommandOptions)
    (label expression : String) :
    (pipeline.argumentList options label expression).length =
      if EndsInExtension pipeline.output options.bareExtension then 2 * pipeline.sources.length + 7
      else 2 * pipeline.sources.length + 9 := by
  have texts : (pipeline.sources.flatMap fun source =>
      [Command.Argument.own "-i", .described source.file]).map Command.Argument.text =
        inputFlags (pipeline.sources.map Source.file) := by
    simp [inputFlags, Command.Argument.text, List.map_flatMap, List.flatMap_map]
  have inputs := congrArg List.length texts
  rw [List.length_map, length_inputFlags, List.length_map] at inputs
  simp only [argumentList, List.length_append, inputs]
  split <;> simp only [List.length_cons, List.length_nil] <;> omega

theorem outcome_eq_ok_iff_finalLabel? (pipeline : Pipeline) (label : String) :
    pipeline.outcome = .ok label ↔
      pipeline.sources ≠ [] ∧ pipeline.finalLabel? = some label := by
  rw [outcome_eq_ok_iff, finalLabel?, Option.bind_eq_some_iff]
  refine and_congr_right fun _ => exists_congr fun last => and_congr_right fun _ => ?_
  cases last.output <;> simp [Labels.single?]

/-- There are arguments just if there are an input, a last label and an expression, and they are
those of the list, in its order and number. With quote marks it is the same list: what comes from
the description stands between them and nothing else does. In both forms the arguments are
missing for the same reason. Whether the codec is named is told by the end of the output path,
which can be tested for by taking the extension off. -/
theorem arguments_are_listed (pipeline : Pipeline) (options : CommandOptions) :
    (∀ (quoted : Bool) (arguments : List String),
      pipeline.arguments options quoted = .ok arguments ↔
        ∃ label expression, pipeline.sources ≠ [] ∧ pipeline.finalLabel? = some label ∧
          pipeline.expression options.graph = .ok expression ∧
          arguments = (pipeline.argumentList options label expression).map
            (if quoted then Command.Argument.shown else Command.Argument.text) ∧
          arguments.length =
            if EndsInExtension pipeline.output options.bareExtension then
              2 * pipeline.sources.length + 7
            else 2 * pipeline.sources.length + 9) ∧
    (∀ error, pipeline.arguments options true = .error error ↔
      pipeline.arguments options false = .error error) ∧
    ∀ extension, pipeline.hasExtension extension =
      (pipeline.output.dropSuffix? extension).any fun stem => stem.endsWith '.' := by
  refine ⟨fun quoted arguments => ?_, fun error => ?_, pipeline.hasExtension_eq_any_dropSuffix?⟩
  · have seen (command : Command) : command.arguments quoted =
        command.parts.map (if quoted then Command.Argument.shown else Command.Argument.text) := by
      cases quoted with
      | true => exact command.arguments_true_eq
      | false => exact command.arguments_false_eq
    simp only [arguments_eq_ok_iff, command_eq_ok_iff, outcome_eq_ok_iff_finalLabel?]
    constructor
    · rintro ⟨_, ⟨label, expression, ⟨source, final⟩, written, rfl⟩, rfl⟩
      rw [seen, parts_commandOf]
      refine ⟨label, expression, source, final, written, rfl, ?_⟩
      rw [List.length_map, length_argumentList]
    · rintro ⟨label, expression, source, final, written, listed, _⟩
      refine ⟨_, ⟨label, expression, ⟨source, final⟩, written, rfl⟩, ?_⟩
      rw [seen, parts_commandOf, listed]
  · rw [arguments_eq_error_iff, arguments_eq_error_iff]

/-! ### The label that is mapped -/

theorem getLast?_fragments {pipeline : Pipeline} {last : Stage}
    (found : pipeline.stages.getLast? = some last) :
    pipeline.fragments.getLast? = some (last.fragment pipeline.table) := by
  rw [fragments, List.getLast?_map, found, Option.map_some]

/-- The argument behind the flag of the mapping is what the last stage writes as its output, and
the expression ends with it. The label is not looked up: it is mapped as it is spelled, be it
declared or not. -/
theorem mapped_label_ends_expression {pipeline : Pipeline} {options : CommandOptions}
    {arguments : List String} (made : pipeline.arguments options false = .ok arguments) :
    ∃ last label before, pipeline.stages.getLast? = some last ∧ last.output = .one label ∧
      last.outputSegment pipeline.table = "[" ++ label ++ "]" ∧
      arguments[2 + 2 * pipeline.sources.length]? = some "-filter_complex" ∧
      arguments[3 + 2 * pipeline.sources.length]? =
        some (before ++ last.outputSegment pipeline.table) ∧
      arguments[4 + 2 * pipeline.sources.length]? = some "-map" ∧
      arguments[5 + 2 * pipeline.sources.length]? = some (last.outputSegment pipeline.table) ∧
      pipeline.fragments.getLast? = some (pipeline.table.links last.inputs.toList ++
        last.filterSegment ++ last.outputSegment pipeline.table) := by
  obtain ⟨command, assembled, rfl⟩ := (arguments_eq_ok_iff _ _ _ _).mp made
  obtain ⟨before, ending⟩ := label_isSuffixOf_expression assembled
  obtain ⟨label, expression, outcome, _, rfl⟩ := (command_eq_ok_iff _ _ _).mp assembled
  obtain ⟨_, last, found, single⟩ := (outcome_eq_ok_iff _ _).mp outcome
  have segment : last.outputSegment pipeline.table = bracketed label := by
    rw [Stage.outputSegment, single]
  have expression_eq : expression = String.ofList before ++ last.outputSegment pipeline.table := by
    rw [segment, ← String.toList_inj, String.toList_append, String.toList_ofList]
    exact ending.symm
  have count : (pipeline.commandOf options label expression).files.length =
      pipeline.sources.length := List.length_map _
  obtain ⟨graphFlag, graph⟩ := (pipeline.commandOf options label expression).getElem?_graph
  obtain ⟨mapFlag, mapped⟩ := (pipeline.commandOf options label expression).getElem?_mapping
  rw [count] at graphFlag graph mapFlag mapped
  refine ⟨last, label, String.ofList before, found, single, segment, graphFlag, ?_, mapFlag, ?_,
    getLast?_fragments found⟩
  · rw [graph, ← expression_eq]
    rfl
  · rw [mapped, segment]
    rfl

/-- The last label is that of the only input, which both stages take. -/
def returning : Pipeline where
  sources := [⟨"a", "a.mov"⟩]
  stages := [
    ⟨.one "a", .bare "negate", .many ["p;", "a"]⟩,
    ⟨.many ["a", "p;"], .bare "hstack", .one "a"⟩]
  output := "out.gif"

def returningArguments : List String :=
  ["ffmpeg", "-y", "-i", "a.mov", "-filter_complex",
    "[0:v]negate,split[p;][0:v];\n[0:v][p;]hstack=inputs=2[a]", "-map", "[a]", "out.gif"]

theorem returning_arguments_eq :
    returning.arguments { graph := { layout := .pretty } } false = .ok returningArguments := by
  have declared : returning.table.token "a" = "0:v" :=
    returning.token_of_declared (by decide) (rfl : _[0]? = _)
  have undeclared : returning.table.token "p;" = "p;" :=
    returning.token_of_undeclared (by decide)
  have graph : returning.graph .pretty =
      "[0:v]negate,split[p;][0:v];\n[0:v][p;]hstack=inputs=2[a]" := by
    show ";\n".intercalate [Stage.fragment _ _, Stage.fragment _ _] = _
    simp only [Stage.fragment, Stage.outputSegment, StreamTable.links, Labels.toList_one,
      Labels.toList_many, List.map_cons, List.map_nil, declared, undeclared]
    rfl
  show Except.ok [_, _, _, _, _, returning.graph .pretty, _, _, _] = _
  rw [graph]
  rfl

/-- The label is mapped as it is, although it is a declared identifier, and written as a stream
wherever it is taken. -/
theorem returning_maps_last_label :
    returning.arguments { graph := { layout := .pretty } } false = .ok returningArguments ∧
      returning.finalLabel? = some "a" ∧ "a" ∈ returning.ids ∧
      ∃ last label before, returning.stages.getLast? = some last ∧ last.output = .one label ∧
        last.outputSegment returning.table = "[" ++ label ++ "]" ∧
        returningArguments[4]? = some "-filter_complex" ∧
        returningArguments[5]? = some (before ++ last.outputSegment returning.table) ∧
        returningArguments[6]? = some "-map" ∧
        returningArguments[7]? = some (last.outputSegment returning.table) ∧
        returning.fragments.getLast? = some (returning.table.links last.inputs.toList ++
          last.filterSegment ++ last.outputSegment returning.table) :=
  ⟨returning_arguments_eq, rfl, by decide, mapped_label_ends_expression returning_arguments_eq⟩

end Pipeline

end FilterGraph
