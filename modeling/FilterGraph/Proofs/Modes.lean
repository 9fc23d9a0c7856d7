/-
This file proves that the modes of the command line agree.

The layout is the only option that depends on the mode, and it is the same in all modes that
assemble a command. So these have one command in common or fail alike, and what they do with it
tells its arguments: they launch them, write them as JSON or show them. A graph that is shown by
itself may be broken into lines; where it is not, it is the expression of that command.
-/

import FilterGraph.Proofs.Commands
import FilterGraph.Proofs.Invocations
import FilterGraph.Proofs.Reloading
import FilterGraph.Proofs.Streams

namespace FilterGraph.CommandLine

open Json

/-! ### Arguments as JSON -/

/-- The written arguments, with the line break behind them, are read as the same texts again. -/
theorem readAll_argumentsText (arguments : List String) :
    (readList readText).readAll (argumentsText arguments ++ "\n") = .ok arguments := by
  have understands : (readList readText).Understands (Value.asList Value.asText) :=
    readList_understands readText_understands
  have exact : (Value.list (arguments.map Value.text)).Exact :=
    (Labels.many arguments).exact_toValue
  obtain ⟨spacing, written⟩ := Spacing.exists_eq_of_mem
    (List.mem_cons_of_mem (Value.list (arguments.map Value.text)).compact List.mem_cons_self)
  have texts : (Value.list (arguments.map Value.text)).asList Value.asText = .ok arguments := by
    rw [Value.asList, List.mapM_map]
    show (arguments.mapM fun text => (pure (id text) : Except Cause String)) = _
    rw [List.mapM_pure, List.map_id]
    rfl
  -- The line break is a blank behind the list.
  have read := understands.readAll_append spacing exact
    (List.forall_mem_singleton.mpr (rfl : isBlank '\n' = true))
  rw [texts, mapError_eq_ok_iff] at read
  rw [argumentsText, written]
  exact (congrArg _ (by simp)).trans read

namespace Invocation

/-! ### One use in several modes -/

/-- The same use of the command line in another mode. -/
def inMode (invocation : Invocation) (mode : Mode) : Invocation :=
  { invocation with mode }

/-- The modes that assemble a command come to the same options. -/
theorem override_inMode_of_ne (invocation : Invocation) {mode : Mode}
    (assembles : mode ≠ .showGraph) (base : CommandOptions) :
    (invocation.inMode mode).override base = (invocation.inMode .showCommand).override base := by
  simp only [override, inMode, assembles, ne_eq, not_false_eq_true, if_true, reduceCtorEq]
  rfl

theorem load_inMode_of_ne (invocation : Invocation) (host : Host) {mode : Mode}
    (assembles : mode ≠ .showGraph) :
    (invocation.inMode mode).load host = (invocation.inMode .showCommand).load host := by
  simp only [load_eq_bind, invocation.override_inMode_of_ne assembles]
  rfl

/-- A graph that is shown by itself without line breaks has the options of a command. -/
theorem override_showGraph_of_compact (invocation : Invocation) {base : CommandOptions}
    (compact : ((invocation.inMode .showGraph).override base).graph.layout = .compact) :
    (invocation.inMode .showGraph).override base =
      (invocation.inMode .showCommand).override base := by
  obtain ⟨program, codec, extension, ⟨linkCheck, layout⟩⟩ := base
  cases strict : invocation.strict <;> cases pretty : invocation.pretty <;>
    simp_all [override, inMode, GraphOptions.strict, GraphOptions.pretty]

/-! ### What the modes do with a command -/

/-- What a use of the command line does, in each mode, with the command it assembles. -/
structure ActsOn (invocation : Invocation) (host : Host) (command : Command) : Prop where
  /-- It is the command of the pipeline that is described, with the options that are configured. -/
  assembled : ∃ pipeline options,
    (∀ mode, mode ≠ .showGraph → (invocation.inMode mode).load host = .ok (pipeline, options)) ∧
      pipeline.command options = .ok command
  /-- A run launches the arguments, once, and ends as that launch does. -/
  run : (invocation.inMode .run).outcome host =
    .ofRun ⟨[command.arguments false], (host.launch (command.arguments false)).output,
      (host.launch (command.arguments false)).result.mapError Error.launch⟩
  /-- What is written as JSON is read as the arguments. -/
  arguments : ∃ text, (invocation.inMode .showArguments).outcome host =
      { output := text, launches := [], error := none } ∧
    (readList readText).readAll text = .ok (command.arguments false)
  /-- The shown line has a blank between the arguments, and quote marks around those that come
  from the description. -/
  line : command.arguments false = command.parts.map Command.Argument.text ∧
    (invocation.inMode .showCommand).outcome host =
      { output := " ".intercalate (command.parts.map Command.Argument.shown) ++ "\n"
        launches := [], error := none }
  /-- A graph without line breaks is the argument behind the flag of the graph. -/
  graph : (command.arguments false)[2 + 2 * command.files.length]? = some "-filter_complex" ∧
    (command.arguments false)[3 + 2 * command.files.length]? = some command.expression ∧
    ∃ pipeline options, (invocation.inMode .showGraph).load host = .ok (pipeline, options) ∧
      (options.graph.layout = .compact → (invocation.inMode .showGraph).outcome host =
        { output := command.expression ++ "\n", launches := [], error := none })

/-- Where a command is assembled, every mode acts on it. -/
theorem actsOn_of_command {invocation : Invocation} {host : Host} {pipeline : Pipeline}
    {options : CommandOptions}
    (loaded : (invocation.inMode .showCommand).load host = .ok (pipeline, options))
    {command : Command} (made : pipeline.command options = .ok command) :
    invocation.ActsOn host command := by
  have assembled : ∀ mode, mode ≠ .showGraph →
      (invocation.inMode mode).load host = .ok (pipeline, options) :=
    fun mode assembles => (invocation.load_inMode_of_ne host assembles).trans loaded
  refine ⟨⟨pipeline, options, assembled, made⟩, ?run, ?arguments, ?line,
    command.getElem?_graph.1, command.getElem?_graph.2, ?graph⟩
  case run =>
    exact (outcome_of_load_eq_ok (assembled .run (by decide))).trans (Mode.outcome_run host made)
  case arguments =>
    exact ⟨argumentsText (command.arguments false) ++ "\n",
      (outcome_of_load_eq_ok (assembled .showArguments (by decide))).trans
        (Mode.outcome_showArguments host made), readAll_argumentsText _⟩
  case line =>
    refine ⟨command.arguments_false_eq, ?_⟩
    rw [← command.arguments_true_eq]
    exact (outcome_of_load_eq_ok loaded).trans (Mode.outcome_showCommand host made)
  case graph =>
    obtain ⟨described, base, configured, rfl⟩ := (load_eq_ok_iff _ _ _ _).mp loaded
    have shown : (invocation.inMode .showGraph).load host =
        .ok (pipeline, (invocation.inMode .showGraph).override base) :=
      (load_eq_ok_iff _ _ _ _).mpr ⟨described, base, configured, rfl⟩
    refine ⟨_, _, shown, fun compact => ?_⟩
    obtain ⟨label, expression, _, written, rfl⟩ := (Pipeline.command_eq_ok_iff _ _ _).mp made
    rw [outcome_of_load_eq_ok shown, invocation.override_showGraph_of_compact compact]
    exact Mode.outcome_showGraph host written

/-- Whatever is described and configured, the modes that assemble a command all fail with the same
error before anything is written or launched, or all act on one command. -/
theorem modes_agree (invocation : Invocation) (host : Host) :
    (∃ error, ∀ mode, mode ≠ .showGraph → (invocation.inMode mode).outcome host =
      { output := "", launches := [], error := some error }) ∨
    ∃ command, invocation.ActsOn host command := by
  cases loaded : (invocation.inMode .showCommand).load host with
  | error error =>
    exact Or.inl ⟨error, fun mode assembles => outcome_of_load_eq_error
      ((invocation.load_inMode_of_ne host assembles).trans loaded)⟩
  | ok read =>
    obtain ⟨pipeline, options⟩ := read
    cases made : pipeline.command options with
    | error error =>
      refine Or.inl ⟨error, fun mode assembles => ?_⟩
      rw [outcome_of_load_eq_ok ((invocation.load_inMode_of_ne host assembles).trans loaded)]
      exact Mode.outcome_of_command_eq_error host assembles made
    | ok command => exact Or.inr ⟨command, actsOn_of_command loaded made⟩

end Invocation

end FilterGraph.CommandLine
