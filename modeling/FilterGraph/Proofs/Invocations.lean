/-
This file says what a use of the command line reads, and which options it comes to.

The description is read first and the options after it. Each is a text, which is given or stands in
a file, and that text is then decoded; the first of these four steps that fails is all that is
reported. The options that are given go over those of the file: links are checked if either asks
for it, and the layout is left to them only where a graph is shown by itself.
-/

import FilterGraph.CommandLine.Log
import FilterGraph.Proofs.Json.Drafts

namespace FilterGraph

open Json

/-! ### Texts and what they are decoded as -/

/-- The text of a description, from its file if it has one. -/
def Description.fetch (description : Description) (host : Host) : Except Error String :=
  match description with
  | inline text => .ok text
  | file path => host.readFile path

/-- A description is fetched and then decoded. -/
theorem Description.load_eq_bind (description : Description) (host : Host) :
    description.load host = description.fetch host >>= Pipeline.parse := by
  cases description with
  | inline text => rfl
  | file path =>
    rw [load, fetch]
    cases host.readFile path <;> rfl

theorem Description.load_eq_error_iff (description : Description) (host : Host) (error : Error) :
    description.load host = .error error ↔ description.fetch host = .error error ∨
      ∃ text, description.fetch host = .ok text ∧ Pipeline.parse text = .error error := by
  rw [load_eq_bind, bind_eq_error_iff]

/-- So are options, which always stand in a file. -/
theorem CommandOptions.load_eq_bind (path : String) (host : Host) :
    CommandOptions.load path host = host.readFile path >>= CommandOptions.parse := by
  rw [load]
  cases host.readFile path <;> rfl

namespace CommandLine

namespace Invocation

/-! ### What an invocation reads -/

/-- Where the description comes from. -/
def source (invocation : Invocation) : Description :=
  .ofArgument invocation.description

/-- The description is that of the pipeline. -/
def Describes (invocation : Invocation) (host : Host) (pipeline : Pipeline) : Prop :=
  ∃ text, invocation.source.fetch host = .ok text ∧ Pipeline.parse text = .ok pipeline

/-- The options are those of the file, or the defaults, if there is none. -/
def Configures (invocation : Invocation) (host : Host) (base : CommandOptions) : Prop :=
  match invocation.config with
  | none => base = {}
  | some path => ∃ text, host.readFile path = .ok text ∧ CommandOptions.parse text = .ok base

theorem describes_iff (invocation : Invocation) (host : Host) (pipeline : Pipeline) :
    invocation.Describes host pipeline ↔ invocation.source.load host = .ok pipeline := by
  rw [Description.load_eq_bind, bind_eq_ok_iff, Describes]

theorem configures_iff (invocation : Invocation) (host : Host) (base : CommandOptions) :
    invocation.Configures host base ↔ invocation.base host = .ok base := by
  rw [Configures, Invocation.base]
  cases invocation.config with
  | none => simp [eq_comm]
  | some path => simp only [CommandOptions.load_eq_bind, bind_eq_ok_iff]

theorem load_eq_bind (invocation : Invocation) (host : Host) :
    invocation.load host = invocation.source.load host >>= fun pipeline =>
      (invocation.base host).map fun base => (pipeline, invocation.override base) := by
  rw [load, source]
  cases (Description.ofArgument invocation.description).load host with
  | error error => rfl
  | ok pipeline => cases invocation.base host <;> rfl

theorem load_eq_ok_iff (invocation : Invocation) (host : Host) (pipeline : Pipeline)
    (options : CommandOptions) :
    invocation.load host = .ok (pipeline, options) ↔ invocation.Describes host pipeline ∧
      ∃ base, invocation.Configures host base ∧ invocation.override base = options := by
  simp only [load_eq_bind, bind_eq_ok_iff, map_eq_ok_iff, describes_iff, configures_iff,
    Prod.mk.injEq]
  constructor
  · rintro ⟨content, described, base, configured, rfl, merged⟩
    exact ⟨described, base, configured, merged⟩
  · rintro ⟨described, base, configured, merged⟩
    exact ⟨pipeline, described, base, configured, rfl, merged⟩

/-- What is read fails with the description, or else with the options. -/
theorem load_eq_error_iff (invocation : Invocation) (host : Host) (error : Error) :
    invocation.load host = .error error ↔ invocation.source.load host = .error error ∨
      ∃ pipeline, invocation.Describes host pipeline ∧ invocation.base host = .error error := by
  rw [load_eq_bind, bind_eq_error_iff]
  simp only [describes_iff]
  cases invocation.base host <;> simp [Except.map]

theorem base_eq_error_iff (invocation : Invocation) (host : Host) (error : Error) :
    invocation.base host = .error error ↔ ∃ path, invocation.config = some path ∧
      (host.readFile path = .error error ∨
        ∃ text, host.readFile path = .ok text ∧ CommandOptions.parse text = .error error) := by
  rw [Invocation.base]
  cases invocation.config with
  | none => simp
  | some path => simp [CommandOptions.load_eq_bind, bind_eq_error_iff]

/-! ### Which options an invocation comes to -/

/-- The check is strict if the arguments or the file ask for it. So is the layout pretty, but only
where a graph is shown by itself. -/
theorem graph_override (invocation : Invocation) (base : CommandOptions) :
    (invocation.override base).graph = {
      linkCheck := if invocation.strict then .strict else base.graph.linkCheck
      layout :=
        if invocation.mode = .showGraph then
          if invocation.pretty then .pretty else base.graph.layout
        else .compact } := by
  cases strict : invocation.strict <;> cases pretty : invocation.pretty <;>
    by_cases shown : invocation.mode = .showGraph <;>
    simp [override, strict, pretty, shown, GraphOptions.strict, GraphOptions.pretty]

theorem linkCheck_override (invocation : Invocation) (base : CommandOptions) :
    (invocation.override base).graph.linkCheck = .strict ↔
      invocation.strict = true ∨ base.graph.linkCheck = .strict := by
  rw [graph_override]
  cases invocation.strict <;> simp

theorem layout_override (invocation : Invocation) (base : CommandOptions) :
    (invocation.override base).graph.layout = .pretty ↔ invocation.mode = .showGraph ∧
      (invocation.pretty = true ∨ base.graph.layout = .pretty) := by
  rw [graph_override]
  by_cases shown : invocation.mode = .showGraph <;> cases invocation.pretty <;> simp [shown]

/-! ### What becomes of what is read -/

theorem outcome_of_load_eq_ok {invocation : Invocation} {host : Host} {pipeline : Pipeline}
    {options : CommandOptions} (loaded : invocation.load host = .ok (pipeline, options)) :
    invocation.outcome host = invocation.mode.outcome pipeline options host := by
  rw [outcome, loaded]

theorem outcome_of_load_eq_error {invocation : Invocation} {host : Host} {error : Error}
    (failed : invocation.load host = .error error) :
    invocation.outcome host = { output := "", launches := [], error := some error } := by
  rw [outcome, failed]

/-! ### What is logged of it -/

/-- Behind the description stands what is logged of the work whose outcome is shown. -/
theorem entries_of_load_eq_ok {invocation : Invocation} {host : Host} {pipeline : Pipeline}
    {options : CommandOptions} (loaded : invocation.load host = .ok (pipeline, options)) :
    invocation.entries host = invocation.source.log.map Entry.work ++
      .loaded pipeline.sources.length pipeline.stages.length ::
        (invocation.mode.log pipeline options).map Entry.work := by
  obtain ⟨described, base, configured, rfl⟩ := (invocation.load_eq_ok_iff host _ _).mp loaded
  rw [describes_iff, source] at described
  rw [configures_iff] at configured
  rw [entries, described, configured, source]

/-- Where something cannot be read, no work is logged but the reading of the description. -/
theorem mem_log_of_load_eq_error {invocation : Invocation} {host : Host} {error : Error}
    (failed : invocation.load host = .error error) {event : Event}
    (logged : .work event ∈ invocation.entries host) : event ∈ invocation.source.log := by
  rw [entries, ← source] at logged
  rcases (invocation.load_eq_error_iff host error).mp failed with
    unloaded | ⟨pipeline, described, unread⟩
  · simpa [unloaded] using logged
  · rw [describes_iff] at described
    simpa [described, unread] using logged

/-- The size of a description is logged if it is loaded and more than usual is asked for. -/
theorem loaded_mem_log_iff (invocation : Invocation) (host : Host) (inputs stages : Nat) :
    .loaded inputs stages ∈ invocation.log host ↔ invocation.verbose = true ∧
      ∃ pipeline, invocation.Describes host pipeline ∧
        pipeline.sources.length = inputs ∧ pipeline.stages.length = stages := by
  have shown : (Entry.loaded inputs stages).isShown
      (if invocation.verbose then .debug else .info) = invocation.verbose := by
    cases invocation.verbose <;> rfl
  simp only [describes_iff]
  rw [log, List.mem_filter, shown, entries, ← source, and_comm]
  refine and_congr_right fun _ => ?_
  cases invocation.source.load host with
  | error error => simp
  | ok pipeline => cases invocation.base host <;> simp [eq_comm]

end Invocation

namespace Mode

section

variable {pipeline : Pipeline} {options : CommandOptions} (host : Host)

theorem outcome_showCommand {command : Command} (made : pipeline.command options = .ok command) :
    showCommand.outcome pipeline options host =
      { output := command.line ++ "\n", launches := [], error := none } := by
  rw [outcome, Pipeline.commandLine, made]
  rfl

theorem outcome_showArguments {command : Command} (made : pipeline.command options = .ok command) :
    showArguments.outcome pipeline options host =
      { output := argumentsText (command.arguments false) ++ "\n", launches := [],
        error := none } := by
  rw [outcome, Pipeline.arguments, made]
  rfl

theorem outcome_showGraph {text : String} (written : pipeline.expression options.graph = .ok text) :
    showGraph.outcome pipeline options host =
      { output := text ++ "\n", launches := [], error := none } := by
  rw [outcome, written]
  rfl

/-- A run launches the arguments once, and ends as that launch does. -/
theorem outcome_run {command : Command} (made : pipeline.command options = .ok command) :
    run.outcome pipeline options host =
      .ofRun ⟨[command.arguments false], (host.launch (command.arguments false)).output,
        (host.launch (command.arguments false)).result.mapError Error.launch⟩ := by
  rw [outcome, Pipeline.run, Pipeline.arguments, made]
  rfl

/-- Without a command, the modes that assemble one report the same and do nothing else. -/
theorem outcome_of_command_eq_error {mode : Mode} (assembles : mode ≠ .showGraph) {error : Error}
    (failed : pipeline.command options = .error error) :
    mode.outcome pipeline options host = { output := "", launches := [], error := some error } := by
  cases mode with
  | showCommand => rw [outcome, Pipeline.commandLine, failed]; rfl
  | showGraph => exact absurd rfl assembles
  | showArguments => rw [outcome, Pipeline.arguments, failed]; rfl
  | run => rw [outcome, Pipeline.run, Pipeline.arguments, failed]; rfl

end

end Mode

end CommandLine

end FilterGraph
