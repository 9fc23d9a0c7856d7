/-
This file proves how far the line that shows a command tells its arguments.

A text from the description stands between quote marks just as it is, so a part of it may look like
its end and the beginning of what can follow it: behind a file comes another file or the graph,
behind the graph its label, and behind the label a codec or the output path. Where no text holds
such an end, the line is read from its front, and each text goes up to the first of them. The
output path is the last argument and may hold anything.
-/

import FilterGraph.Proofs.Commands
import FilterGraph.Proofs.Tokens

namespace FilterGraph

namespace Command

/-! ### Where a shown text ends -/

/-- The end of a shown file, with the flag behind it. -/
def fileEnds : List String :=
  ["\" -i ", "\" -filter_complex "]

/-- The end of the shown expression, which closes with a bracket. -/
def graphEnds : List String :=
  ["]\" -map "]

/-- The end of the shown label, with the flag of the codec or the output path behind it. -/
def labelEnds : List String :=
  ["]\" -c:v ", "]\" \""]

/-- The text holds one of the ends. -/
def HoldsAny (ends : List String) (text : String) : Prop :=
  ∃ mark ∈ ends, mark.toList <:+: text.toList
  deriving Decidable

theorem spaced_cons_inj {argument : String} {others others' : List String}
    (same : spaced (argument :: others) = spaced (argument :: others')) :
    spaced others = spaced others' := by
  rw [spaced_cons, spaced_cons] at same
  exact (List.cons.inj (List.append_cancel_left same)).2

/-- Two shown texts that close alike end at the first place that looks like it. -/
theorem spaced_quote_cons_inj {start : Char} {ends : List String}
    (opens : ∀ mark ∈ ends, OpensOnce start mark.toList) {close : List Char}
    {text text' : String} {others others' : List String}
    (closed : close <:+ text.toList) (closed' : close <:+ text'.toList)
    (plain : ¬HoldsAny ends text) (plain' : ¬HoldsAny ends text')
    (begins : ∃ mark ∈ ends, mark.toList <+: close ++ '"' :: ' ' :: spaced others)
    (begins' : ∃ mark ∈ ends, mark.toList <+: close ++ '"' :: ' ' :: spaced others')
    (same : spaced (quote text :: others) = spaced (quote text' :: others')) :
    text = text' ∧ spaced others = spaced others' := by
  -- What closes the texts counts among what ends them, as an end may begin there.
  obtain ⟨body, written⟩ := closed
  obtain ⟨body', written'⟩ := closed'
  have free {body : List Char} {text : String} (written : body ++ close = text.toList)
      (plain : ¬HoldsAny ends text) : ∀ mark ∈ ends.map String.toList, ¬mark <:+: body := by
    refine List.forall_mem_map.mpr fun mark member inside => plain ⟨mark, member, ?_⟩
    exact inside.trans (written ▸ (List.prefix_append body close).isInfix)
  have among {behind : List Char} (begins : ∃ mark ∈ ends, mark.toList <+: behind) :
      ∃ mark ∈ ends.map String.toList, mark <+: behind := by
    obtain ⟨mark, member, front⟩ := begins
    exact ⟨mark.toList, List.mem_map_of_mem member, front⟩
  rw [spaced_quote_cons, spaced_quote_cons, ← written, ← written', List.append_assoc,
    List.append_assoc] at same
  obtain ⟨bodies, behind⟩ := append_ends_inj (List.forall_mem_map.mpr opens) (free written plain)
    (free written' plain') (among begins) (among begins') (List.cons.inj same).2
  have rest := List.append_cancel_left behind
  refine ⟨String.toList_inj.mp ?_, (List.cons.inj (List.cons.inj rest).2).2⟩
  rw [← written, ← written', bodies]

/-- The last text goes up to the end, whatever it holds. -/
theorem spaced_quote_inj {text text' : String} (same : spaced [quote text] = spaced [quote text']) :
    text = text' := by
  rw [spaced_quote_cons, spaced_quote_cons] at same
  exact String.toList_inj.mp (List.append_cancel_right (List.cons.inj same).2)

/-! ### Reading arguments off a line -/

/-- The input flags end where the graph's begins, and each tells its file. -/
theorem files_eq_of_spaced_eq {files files' : List String} {others others' : List String}
    (plain : ∀ file ∈ files, ¬HoldsAny fileEnds file)
    (plain' : ∀ file ∈ files', ¬HoldsAny fileEnds file)
    (same : spaced (files.flatMap (fun file => ["-i", quote file]) ++
        "-filter_complex" :: others) =
      spaced (files'.flatMap (fun file => ["-i", quote file]) ++ "-filter_complex" :: others')) :
    files = files' ∧ spaced others = spaced others' := by
  -- The flags differ in their second letter, so neither list of files ends before the other.
  have apart : ∀ front behind : List String,
      spaced ("-filter_complex" :: front) ≠ spaced ("-i" :: behind) := by
    intro front behind equal
    rw [spaced_cons, spaced_cons] at equal
    exact absurd (List.cons.inj (List.cons.inj equal).2).1 (by decide)
  have opens : ∀ mark ∈ fileEnds, OpensOnce '"' mark.toList :=
    List.forall_mem_cons.mpr ⟨⟨_, rfl, by decide⟩, List.forall_mem_singleton.mpr ⟨_, rfl, by decide⟩⟩
  have begins (files others : List String) : ∃ mark ∈ fileEnds, mark.toList <+:
      '"' :: ' ' :: spaced (files.flatMap (fun file => ["-i", quote file]) ++
        "-filter_complex" :: others) := by
    cases files with
    | nil => exact ⟨_, .tail _ (.head _), spaced others, rfl⟩
    | cons file rest => exact ⟨_, .head _, spaced (quote file :: _), rfl⟩
  induction files generalizing files' with
  | nil =>
    cases files' with
    | nil => exact ⟨rfl, spaced_cons_inj same⟩
    | cons file' rest' => exact absurd same (apart _ _)
  | cons file rest inductionHypothesis =>
    cases files' with
    | nil => exact absurd same.symm (apart _ _)
    | cons file' rest' =>
      obtain ⟨rfl, behind⟩ := spaced_quote_cons_inj opens (List.nil_suffix) (List.nil_suffix)
        (plain file List.mem_cons_self) (plain' file' List.mem_cons_self) (begins rest others)
        (begins rest' others') (spaced_cons_inj same)
      obtain ⟨rfl, ending⟩ := inductionHypothesis
        (fun other member => plain other (List.mem_cons_of_mem _ member))
        (fun other member => plain' other (List.mem_cons_of_mem _ member)) behind
      exact ⟨rfl, ending⟩

/-- The graph ends where the flag of its label begins. -/
theorem expression_eq_of_spaced_eq {text text' : String} {others others' : List String}
    (closed : [']'] <:+ text.toList) (closed' : [']'] <:+ text'.toList)
    (plain : ¬HoldsAny graphEnds text) (plain' : ¬HoldsAny graphEnds text')
    (same : spaced (quote text :: "-map" :: others) = spaced (quote text' :: "-map" :: others')) :
    text = text' ∧ spaced others = spaced others' := by
  have opens : ∀ mark ∈ graphEnds, OpensOnce ']' mark.toList :=
    List.forall_mem_singleton.mpr ⟨_, rfl, by decide⟩
  have begins (others : List String) : ∃ mark ∈ graphEnds, mark.toList <+:
      [']'] ++ '"' :: ' ' :: spaced ("-map" :: others) :=
    ⟨_, .head _, spaced others, rfl⟩
  obtain ⟨texts, behind⟩ := spaced_quote_cons_inj opens closed closed' plain plain'
    (begins others) (begins others') same
  exact ⟨texts, spaced_cons_inj behind⟩

theorem suffix_bracketed (label : String) : [']'] <:+ (bracketed label).toList :=
  ⟨'[' :: label.toList, by simp [bracketed]⟩

/-- The label ends where the flag of the codec or the output path begins. -/
theorem label_eq_of_spaced_eq {label label' : String} {codec codec' : Option String}
    {output output' : String} (plain : ¬HoldsAny labelEnds (bracketed label))
    (plain' : ¬HoldsAny labelEnds (bracketed label'))
    (same : spaced (quote (bracketed label) :: (codecFlag codec ++ [quote output])) =
      spaced (quote (bracketed label') :: (codecFlag codec' ++ [quote output']))) :
    label = label' ∧ spaced (codecFlag codec ++ [quote output]) =
      spaced (codecFlag codec' ++ [quote output']) := by
  have opens : ∀ mark ∈ labelEnds, OpensOnce ']' mark.toList :=
    List.forall_mem_cons.mpr ⟨⟨_, rfl, by decide⟩, List.forall_mem_singleton.mpr ⟨_, rfl, by decide⟩⟩
  have begins (codec : Option String) (output : String) : ∃ mark ∈ labelEnds, mark.toList <+:
      [']'] ++ '"' :: ' ' :: spaced (codecFlag codec ++ [quote output]) := by
    cases codec with
    | none =>
      refine ⟨_, .tail _ (.head _), output.toList ++ ['"', ' '], ?_⟩
      rw [codecFlag, List.nil_append, spaced_quote_cons]
      rfl
    | some name => exact ⟨_, .head _, spaced [name, quote output], rfl⟩
  obtain ⟨labels, behind⟩ := spaced_quote_cons_inj opens (suffix_bracketed label)
    (suffix_bracketed label') plain plain' (begins codec output) (begins codec' output') same
  rw [bracketed, bracketed, String.append_left_inj, String.append_right_inj] at labels
  exact ⟨labels, behind⟩

/-- Whether there is a codec shows in what the output path follows on, a flag or nothing. -/
theorem output_eq_of_spaced_eq {codec codec' : Option String} {output output' : String}
    (agree : ∀ name ∈ codec, ∀ name' ∈ codec', name = name')
    (same : spaced (codecFlag codec ++ [quote output]) =
      spaced (codecFlag codec' ++ [quote output'])) : codec = codec' ∧ output = output' := by
  have apart : ∀ (output : String) (behind : List String),
      spaced [quote output] ≠ spaced ("-c:v" :: behind) := by
    intro output behind equal
    rw [spaced_quote_cons, spaced_cons] at equal
    exact absurd (List.cons.inj equal).1 (by decide)
  cases codec with
  | none =>
    cases codec' with
    | none => exact ⟨rfl, spaced_quote_inj same⟩
    | some name' => exact absurd same (apart _ _)
  | some name =>
    cases codec' with
    | none => exact absurd same.symm (apart _ _)
    | some name' =>
      obtain rfl := agree name rfl name' rfl
      exact ⟨rfl, spaced_quote_inj (spaced_cons_inj (spaced_cons_inj same))⟩

/-! ### Lines that tell their command -/

/-- No text before the output path holds its own end. -/
structure ShownPlainly (command : Command) : Prop where
  files : ∀ file ∈ command.files, ¬HoldsAny fileEnds file
  expression : ¬HoldsAny graphEnds command.expression
  closed : [']'] <:+ command.expression.toList
  label : ¬HoldsAny labelEnds (bracketed command.label)

/-- Two commands that are shown by the same line are the same, if they call one program and would
name one codec. -/
theorem eq_of_line_eq {first second : Command} (program : first.program = second.program)
    (codecs : ∀ codec ∈ first.codec, ∀ codec' ∈ second.codec, codec = codec')
    (firstPlain : first.ShownPlainly) (secondPlain : second.ShownPlainly)
    (same : first.line = second.line) : first = second := by
  have shown : spaced (first.argumentsWith quote) = spaced (second.argumentsWith quote) := by
    have ended := congrArg (·.toList ++ [' ']) same
    simp only [toList_line_append_blank] at ended
    exact ended
  rw [argumentsWith_eq, argumentsWith_eq, program] at shown
  obtain ⟨files, behindFiles⟩ := files_eq_of_spaced_eq firstPlain.files secondPlain.files
    (spaced_cons_inj (spaced_cons_inj shown))
  obtain ⟨expression, behindGraph⟩ := expression_eq_of_spaced_eq firstPlain.closed
    secondPlain.closed firstPlain.expression secondPlain.expression behindFiles
  obtain ⟨label, behindLabel⟩ :=
    label_eq_of_spaced_eq firstPlain.label secondPlain.label behindGraph
  obtain ⟨codec, output⟩ := output_eq_of_spaced_eq codecs behindLabel
  cases first
  cases second
  simp_all

end Command

namespace Pipeline

/-- No input file, not the expression and not the label that is mapped holds its own end. -/
structure ShownPlainly (pipeline : Pipeline) (options : CommandOptions) : Prop where
  files : ∀ source ∈ pipeline.sources, ¬Command.HoldsAny Command.fileEnds source.file
  expression : ¬Command.HoldsAny Command.graphEnds (pipeline.graph options.graph.layout)
  label : ∀ label, pipeline.outcome = .ok label →
    ¬Command.HoldsAny Command.labelEnds (bracketed label)

theorem ShownPlainly.command {pipeline : Pipeline} {options : CommandOptions} {command : Command}
    (plain : pipeline.ShownPlainly options) (made : pipeline.command options = .ok command) :
    command.ShownPlainly := by
  have ending := label_isSuffixOf_expression made
  obtain ⟨label, expression, outcome, written, rfl⟩ := (command_eq_ok_iff _ _ _).mp made
  obtain ⟨_, rfl⟩ := (expression_eq_ok_iff _ _ _).mp written
  exact {
    files := List.forall_mem_map.mpr plain.files
    expression := plain.expression
    closed := (Command.suffix_bracketed label).trans ending
    label := plain.label label outcome }

/-- Where no input file, not the expression and not the label that is mapped holds its own end, the
shown line tells the arguments: two pipelines that are shown by the same line have them all in
common. -/
theorem arguments_eq_of_commandLine_eq {first second : Pipeline} {options : CommandOptions}
    {line : String} (firstPlain : first.ShownPlainly options)
    (secondPlain : second.ShownPlainly options) (firstShown : first.commandLine options = .ok line)
    (secondShown : second.commandLine options = .ok line) :
    ∃ arguments, first.arguments options false = .ok arguments ∧
      second.arguments options false = .ok arguments := by
  obtain ⟨command, firstMade, shown⟩ := (commandLine_eq_ok_iff _ _ _).mp firstShown
  obtain ⟨command', secondMade, shown'⟩ := (commandLine_eq_ok_iff _ _ _).mp secondShown
  have same : command = command' := by
    refine Command.eq_of_line_eq ?_ ?_ (firstPlain.command firstMade)
      (secondPlain.command secondMade) (shown.trans shown'.symm)
    · rw [command_program firstMade, command_program secondMade]
    · intro codec named codec' named'
      rw [command_codec firstMade codec named, command_codec secondMade codec' named']
  obtain rfl := same
  exact ⟨command.arguments false, (arguments_eq_ok_iff _ _ _ _).mpr ⟨command, firstMade, rfl⟩,
    (arguments_eq_ok_iff _ _ _ _).mpr ⟨command, secondMade, rfl⟩⟩

/-- A pipeline that negates its first input. -/
def negating (id file : String) (others : List Source) (output : String) : Pipeline where
  sources := ⟨id, file⟩ :: others
  stages := [⟨.one id, .bare "negate", .one "x"⟩]
  output

theorem graph_negating (id file : String) (others : List Source) (output : String)
    (layout : Layout) : (negating id file others output).graph layout = "[0:v]negate[x]" := by
  have first : (negating id file others output).table.token id = "0:v" := by
    rw [StreamTable.token, table, StreamTable.position?_ofSources, negating, List.findIdx?_cons]
    simp
    rfl
  show layout.separator.intercalate [Stage.fragment _ _] = _
  rw [String.intercalate_singleton]
  show String.join [bracketed _] ++ _ ++ _ = _
  rw [first]
  rfl

theorem command_negating (id file : String) (others : List Source) (output : String) :
    (negating id file others output).command {} = .ok {
      program := "ffmpeg"
      files := file :: others.map Source.file
      expression := "[0:v]negate[x]"
      label := "x"
      codec := (new output).codec {}
      output } := by
  refine (command_eq_ok_iff _ _ _).mpr ⟨"x", _, rfl, rfl, ?_⟩
  rw [commandOf, graph_negating]
  rfl

/-- A clip of which the name holds quote marks, and an output path that looks like two. Which
identifier the clip is declared under does not show. -/
def clip (id : String) : Pipeline :=
  negating id "my \"clip\" 2.mov" [] "b\" \"c.avi"

def clipLine : String :=
  "ffmpeg -y -i \"my \"clip\" 2.mov\" -filter_complex \"[0:v]negate[x]\" " ++
    "-map \"[x]\" -c:v ffv1 \"b\" \"c.avi\""

theorem clip_shownPlainly (id : String) : (clip id).ShownPlainly {} where
  files := by
    have file : ¬Command.HoldsAny Command.fileEnds "my \"clip\" 2.mov" := by decide +kernel
    exact List.forall_mem_singleton.mpr file
  expression := by
    rw [clip, graph_negating]
    decide +kernel
  label := by
    intro label outcome
    obtain rfl : "x" = label := Except.ok.inj outcome
    decide +kernel

theorem clip_commandLine (id : String) : (clip id).commandLine {} = .ok clipLine := by
  rw [commandLine, clip, command_negating]
  rfl

theorem clip_arguments_eq :
    (clip "left").ShownPlainly {} ∧ (clip "right").ShownPlainly {} ∧
      (clip "left").commandLine {} = .ok clipLine ∧ (clip "right").commandLine {} = .ok clipLine ∧
      ∃ arguments, (clip "left").arguments {} false = .ok arguments ∧
        (clip "right").arguments {} false = .ok arguments :=
  ⟨clip_shownPlainly "left", clip_shownPlainly "right", clip_commandLine "left",
    clip_commandLine "right",
    arguments_eq_of_commandLine_eq (clip_shownPlainly "left") (clip_shownPlainly "right")
      (clip_commandLine "left") (clip_commandLine "right")⟩

/-- A pipeline whose only stage makes its video out of nothing. -/
def generating (filter label output : String) : Pipeline where
  sources := [⟨"0", "a"⟩]
  stages := [⟨.many [], .bare filter, .one label⟩]
  output

/-- Two pipelines that are shown by the same line, but do not have the same arguments. -/
def Lookalike (first second : Pipeline) : Prop :=
  ∃ line arguments arguments', first.commandLine {} = .ok line ∧
    second.commandLine {} = .ok line ∧ first.arguments {} false = .ok arguments ∧
    second.arguments {} false = .ok arguments' ∧ arguments ≠ arguments'

theorem lookalike_of_line_eq {first second : Pipeline} {command command' : Command}
    (made : first.command {} = .ok command) (made' : second.command {} = .ok command')
    (lines : command.line = command'.line)
    (different : command.arguments false ≠ command'.arguments false) : Lookalike first second :=
  ⟨command.line, _, _, (commandLine_eq_ok_iff _ _ _).mpr ⟨command, made, rfl⟩,
    (commandLine_eq_ok_iff _ _ _).mpr ⟨command', made', lines.symm⟩,
    (arguments_eq_ok_iff _ _ _ _).mpr ⟨command, made, rfl⟩,
    (arguments_eq_ok_iff _ _ _ _).mpr ⟨command', made', rfl⟩, different⟩

/-- Each end hides where the text ends that holds it: in a file the end with another file or with
the graph behind it, in the expression the end with the label behind it, and in the label the end
with the codec or the output path behind it. -/
theorem arguments_hidden_by_quote_marks :
    Lookalike (negating "0" "a\" -i \"b" [] "b.avi") (negating "0" "a" [⟨"1", "b"⟩] "b.avi") ∧
    Lookalike
      (negating "0" "a\" -filter_complex \"[0:v]negate[x]\" -map \"[x]\" -c:v ffv1 \"b" []
        "c.avi")
      (negating "0" "a" []
        "b\" -filter_complex \"[0:v]negate[x]\" -map \"[x]\" -c:v ffv1 \"c.avi") ∧
    Lookalike (generating "null[x]\" -map \"[x]\" -c:v ffv1 \"" "y" "b.avi")
      (generating "null" "x" "[y]\" -map \"[y]\" -c:v ffv1 \"b.avi") ∧
    Lookalike (generating "null" "x]\" -c:v ffv1 \"[x" "b.avi")
      (generating "null[x]\" -c:v ffv1 \"" "x" "[x]\" -c:v ffv1 \"b.avi") ∧
    Lookalike (generating "null" "x]\" \"[x" "b.gif")
      (generating "null[x]\" \"" "x" "[x]\" \"b.gif") := by
  refine ⟨?file, ?graph, ?label, ?codec, ?output⟩
  case file =>
    exact lookalike_of_line_eq (command_negating _ _ _ _) (command_negating _ _ _ _) rfl
      (by decide)
  case graph =>
    exact lookalike_of_line_eq (command_negating _ _ _ _) (command_negating _ _ _ _) rfl
      (by decide)
  case label => exact lookalike_of_line_eq rfl rfl rfl (by decide)
  case codec => exact lookalike_of_line_eq rfl rfl rfl (by decide)
  case output => exact lookalike_of_line_eq rfl rfl rfl (by decide)

end Pipeline

end FilterGraph
