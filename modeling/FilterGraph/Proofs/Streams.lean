/-
This file proves that the number of a stream, wherever a declared identifier is written as one,
is the number of the input flag that names the right file.

The two are counted apart. The table numbers the declarations by identifier, where the first of
several declarations with one identifier counts; the command has a flag for every declaration,
whatever its identifier. They agree because neither leaves a declaration out: the position of a
declaration is the number of the flags before its own.
-/

import FilterGraph.Proofs.Commands
import FilterGraph.Proofs.Lexemes
import FilterGraph.Proofs.Lookups
import FilterGraph.Proofs.Tokens

namespace FilterGraph

/-! ### The input flags of a command -/

/-- An input flag for every file. -/
def inputFlags (files : List String) : List String :=
  files.flatMap fun file => ["-i", file]

/-- The files behind the input flags at the front of a list of arguments. -/
def inputFiles : List String → List String
  | "-i" :: file :: others => file :: inputFiles others
  | _ => []

theorem inputFlags_cons (file : String) (files : List String) :
    inputFlags (file :: files) = "-i" :: file :: inputFlags files :=
  List.flatMap_cons

theorem length_inputFlags (files : List String) :
    (inputFlags files).length = 2 * files.length := by
  induction files with
  | nil => rfl
  | cons file rest inductionHypothesis =>
    rw [inputFlags_cons, List.length_cons, List.length_cons, List.length_cons,
      inductionHypothesis]
    omega

/-- Reading the flags gives the files back. -/
theorem inputFiles_inputFlags (files : List String) {others : List String}
    (behind : others.head? ≠ some "-i") : inputFiles (inputFlags files ++ others) = files := by
  induction files with
  | nil =>
    show inputFiles others = []
    unfold inputFiles
    split
    · exact absurd rfl behind
    · rfl
  | cons file rest inductionHypothesis =>
    rw [inputFlags_cons]
    show file :: inputFiles (inputFlags rest ++ others) = file :: rest
    rw [inductionHypothesis]

/-- Each flag takes two places. -/
theorem getElem?_inputFlags (files others : List String) {position : Nat} {file : String}
    (found : files[position]? = some file) :
    (inputFlags files ++ others)[2 * position]? = some "-i" ∧
      (inputFlags files ++ others)[2 * position + 1]? = some file := by
  induction files generalizing position with
  | nil => cases found
  | cons first rest inductionHypothesis =>
    rw [inputFlags_cons]
    cases position with
    | zero =>
      obtain rfl := Option.some.inj found
      exact ⟨rfl, rfl⟩
    | succ position => exact inductionHypothesis found

theorem getElem?_behind_inputFlags (files others : List String) (place : Nat) :
    (inputFlags files ++ others)[2 * files.length + place]? = others[place]? := by
  rw [List.getElem?_append_right (by rw [length_inputFlags]; omega), length_inputFlags,
    Nat.add_sub_cancel_left]

/-- The arguments of a command: the program and its flag, a flag for every file, the expression,
and what stands behind it. -/
theorem Command.exists_arguments_eq (command : Command) :
    ∃ others, command.arguments false =
      command.program :: "-y" ::
        (inputFlags command.files ++ "-filter_complex" :: command.expression :: others) :=
  ⟨_, argumentsWith_eq id command⟩

/-- What stands behind the files in the arguments of a command. -/
theorem Command.getElem?_behind_files (command : Command) (place : Nat) :
    (command.arguments false)[2 + (2 * command.files.length + place)]? =
      ("-filter_complex" :: command.expression :: "-map" :: bracketed command.label ::
        (codecFlag command.codec ++ [command.output]))[place]? := by
  have arguments : command.arguments false = command.program :: "-y" ::
      (inputFlags command.files ++ "-filter_complex" :: command.expression :: "-map" ::
        bracketed command.label :: (codecFlag command.codec ++ [command.output])) :=
    argumentsWith_eq id command
  rw [arguments, Nat.add_comm 2]
  exact getElem?_behind_inputFlags command.files _ place

/-- Behind the files stand the flag of the graph and the expression. -/
theorem Command.getElem?_graph (command : Command) :
    (command.arguments false)[2 + 2 * command.files.length]? = some "-filter_complex" ∧
      (command.arguments false)[3 + 2 * command.files.length]? = some command.expression := by
  rw [show 3 + 2 * command.files.length = 2 + (2 * command.files.length + 1) by omega]
  exact ⟨command.getElem?_behind_files 0, command.getElem?_behind_files 1⟩

/-- Behind these stand the flag of the mapping and the label. -/
theorem Command.getElem?_mapping (command : Command) :
    (command.arguments false)[4 + 2 * command.files.length]? = some "-map" ∧
      (command.arguments false)[5 + 2 * command.files.length]? =
        some (bracketed command.label) := by
  rw [show 4 + 2 * command.files.length = 2 + (2 * command.files.length + 2) by omega,
    show 5 + 2 * command.files.length = 2 + (2 * command.files.length + 3) by omega]
  exact ⟨command.getElem?_behind_files 2, command.getElem?_behind_files 3⟩

/-! ### Identifiers that are looked up -/

/-- The identifiers of a stage that are looked up among the declarations, in the order in which
they are written: the inputs, then the labels of a split. A single output label is not. -/
def Stage.lookedUp (stage : Stage) : List String :=
  stage.inputs.toList ++
    match stage.output with
    | .one _ => []
    | .many labels => labels

/-- The brackets of a stage begin with those of the identifiers that are looked up. -/
theorem Stage.getElem?_tokens_lexemes (stage : Stage) (table : StreamTable) {place : Nat}
    {identifier : String} (found : stage.lookedUp[place]? = some identifier) :
    (Lexeme.tokens (stage.lexemes table))[place]? = some (table.token identifier) := by
  have looked : ∀ others, (stage.lookedUp.map table.token ++ others)[place]? =
      some (table.token identifier) := by
    intro others
    obtain ⟨bound, _⟩ := List.getElem?_eq_some_iff.mp found
    rw [List.getElem?_append_left (by rwa [List.length_map]), List.getElem?_map, found,
      Option.map_some]
  rw [tokens_lexemes, writtenOutput]
  unfold lookedUp at looked
  cases output : stage.output with
  | one label => simpa [output] using looked [label]
  | many labels => simpa [output] using looked []

namespace Pipeline

/-- The first declaration that has the identifier is that of the source, at that position. -/
def DeclaresFirst (pipeline : Pipeline) (position : Nat) (source : Source)
    (identifier : String) : Prop :=
  pipeline.sources[position]? = some source ∧ source.id = identifier ∧
    ∀ earlier < position, ∀ other, pipeline.sources[earlier]? = some other →
      other.id ≠ identifier

/-- A declared identifier is written as the stream of the first declaration that has it. -/
theorem exists_declaresFirst_of_mem_ids {pipeline : Pipeline} {identifier : String}
    (declared : identifier ∈ pipeline.ids) :
    ∃ position source, pipeline.DeclaresFirst position source identifier ∧
      pipeline.table.token identifier = videoStream position := by
  rcases StreamTable.token_of_declared_or_undeclared pipeline.sources identifier with
    ⟨position, first, written⟩ | ⟨undeclared, _⟩
  · obtain ⟨source, found, same⟩ := first.1
    refine ⟨position, source, ⟨found, same, ?_⟩, written⟩
    intro earlier before other atEarlier equal
    exact Nat.not_le_of_lt before (first.2 ⟨other, atEarlier, equal⟩)
  · obtain ⟨source, member, same⟩ := List.mem_map.mp declared
    exact absurd same (undeclared source member)

/-! ### The command of a pipeline -/

/-- The command of a pipeline reads the files of the declarations, in their order, and applies the
expression, which does not depend on the check of links. -/
theorem exists_command_of_arguments {pipeline : Pipeline} {options : CommandOptions}
    {arguments : List String} (ok : pipeline.arguments options false = .ok arguments) :
    ∃ command : Command, command.arguments false = arguments ∧
      command.files = pipeline.sources.map Source.file ∧
      command.expression = pipeline.graph options.graph.layout := by
  obtain ⟨command, made, shown⟩ := (arguments_eq_ok_iff _ _ _ _).mp ok
  obtain ⟨_, _, _, written, rfl⟩ := (command_eq_ok_iff _ _ _).mp made
  exact ⟨_, shown, rfl, ((expression_eq_ok_iff _ _ _).mp written).2.symm⟩

/-- Wherever a declared identifier is looked up, it is written as the stream with the number of
the input flag that names the file of its first declaration, and that number is one of an input
flag of the command. The expression of the command is made of the texts of the stages. -/
theorem streams_point_at_files {pipeline : Pipeline} {options : CommandOptions}
    {arguments : List String} (ok : pipeline.arguments options false = .ok arguments)
    {position : Nat} {stage : Stage} (found : pipeline.stages[position]? = some stage)
    {place : Nat} {identifier : String} (looked : stage.lookedUp[place]? = some identifier)
    (declared : identifier ∈ pipeline.ids) :
    (∃ number source, pipeline.DeclaresFirst number source identifier ∧
      (Lexeme.tokens (stage.lexemes pipeline.table))[place]? = some (toString number ++ ":v") ∧
      arguments[2 + 2 * number]? = some "-i" ∧
      arguments[3 + 2 * number]? = some source.file ∧
      number < (inputFiles (arguments.drop 2)).length) ∧
    pipeline.fragments[position]? = some (Lexeme.spell (stage.lexemes pipeline.table)) ∧
    arguments[2 + 2 * (inputFiles (arguments.drop 2)).length]? = some "-filter_complex" ∧
    arguments[3 + 2 * (inputFiles (arguments.drop 2)).length]? =
      some (options.graph.layout.separator.intercalate pipeline.fragments) := by
  obtain ⟨command, rfl, files, expression⟩ := exists_command_of_arguments ok
  obtain ⟨others, arguments⟩ := command.exists_arguments_eq
  rw [files, expression] at arguments
  have behind : ∀ place, (command.arguments false)[2 + place]? =
      (inputFlags (pipeline.sources.map Source.file) ++ "-filter_complex" ::
        pipeline.graph options.graph.layout :: others)[place]? := by
    intro place
    rw [arguments, Nat.add_comm]
    rfl
  have read : inputFiles ((command.arguments false).drop 2) =
      pipeline.sources.map Source.file := by
    rw [arguments]
    exact inputFiles_inputFlags _ (by simp)
  rw [read]
  refine ⟨?_, ?_, ?_, ?_⟩
  · obtain ⟨number, source, first, written⟩ := exists_declaresFirst_of_mem_ids declared
    have file : (pipeline.sources.map Source.file)[number]? = some source.file := by
      rw [List.getElem?_map, first.1, Option.map_some]
    obtain ⟨flag, behindFlag⟩ := getElem?_inputFlags (pipeline.sources.map Source.file)
      ("-filter_complex" :: pipeline.graph options.graph.layout :: others) file
    refine ⟨number, source, first, ?_, ?_, ?_, (List.getElem?_eq_some_iff.mp file).1⟩
    · rw [stage.getElem?_tokens_lexemes _ looked, written, videoStream]
    · rw [behind, flag]
    · rw [show ∀ place, 3 + place = 2 + (place + 1) by omega, behind, behindFlag]
  · rw [fragments, List.getElem?_map, found, Option.map_some, Stage.spell_lexemes]
  · rw [behind]
    exact getElem?_behind_inputFlags _ _ 0
  · rw [show ∀ place, 3 + place = 2 + (place + 1) by omega, behind]
    exact getElem?_behind_inputFlags _ _ 1

/-- Two declarations share an identifier, and it is taken as an input before another one. -/
def sharing : Pipeline where
  sources := [⟨"left", "l.mov"⟩, ⟨"right", "r.mov"⟩, ⟨"right", "s.mov"⟩]
  stages := [⟨.many ["right", "left"], .bare "hstack", .one "out"⟩]
  output := "out.avi"

def sharingArguments : List String :=
  ["ffmpeg", "-y", "-i", "l.mov", "-i", "r.mov", "-i", "s.mov", "-filter_complex",
    "[1:v][0:v]hstack=inputs=2[out]", "-map", "[out]", "-c:v", "ffv1", "out.avi"]

theorem sharing_arguments_eq : sharing.arguments {} false = .ok sharingArguments := by
  have left : sharing.table.token "left" = "0:v" := by
    rw [StreamTable.token, table, StreamTable.position?_ofSources]
    rfl
  have right : sharing.table.token "right" = "1:v" := by
    rw [StreamTable.token, table, StreamTable.position?_ofSources]
    rfl
  have graph : sharing.graph .compact = "[1:v][0:v]hstack=inputs=2[out]" := by
    show ";".intercalate [Stage.fragment _ _] = _
    simp only [Stage.fragment, StreamTable.links, Labels.toList_many, List.map_cons, List.map_nil,
      left, right]
    rfl
  show Except.ok [_, _, _, _, _, _, _, _, _, sharing.graph .compact, _, _, _, _, _] = _
  rw [graph]
  rfl

/-- The stack takes the second input, the first declaration of its identifier, from the second
flag. -/
theorem sharing_streams_point_at_files :
    sharing.arguments {} false = .ok sharingArguments ∧
      ∃ stage, sharing.stages[0]? = some stage ∧ stage.lookedUp[0]? = some "right" ∧
        "right" ∈ sharing.ids ∧
        ∃ number source, sharing.DeclaresFirst number source "right" ∧
          (Lexeme.tokens (stage.lexemes sharing.table))[0]? = some (toString number ++ ":v") ∧
          sharingArguments[2 + 2 * number]? = some "-i" ∧
          sharingArguments[3 + 2 * number]? = some source.file ∧
          number < (inputFiles (sharingArguments.drop 2)).length := by
  have found : sharing.stages[0]? = some ⟨.many ["right", "left"], .bare "hstack", .one "out"⟩ :=
    rfl
  have looked : (Stage.mk (.many ["right", "left"]) (.bare "hstack") (.one "out")).lookedUp[0]? =
      some "right" := rfl
  have declared : "right" ∈ sharing.ids := by decide
  exact ⟨sharing_arguments_eq, _, found, looked, declared,
    (streams_point_at_files sharing_arguments_eq found looked declared).1⟩

end Pipeline

end FilterGraph
