/-
This file proves that the command line shows all or nothing, and which failure it reports.

A use that is not a run reads a description, reads options, and writes one text. The failures that
it may meet on the way are listed without regard to what is done about them, each with all that
comes before it: so no two of them are met at once. Where one is met, it alone is reported; where
none is met, the text is there and all of it is shown. The hint is about the strict check, and the
failures of that check are met by no use that does not ask for it.
-/

import FilterGraph.Proofs.Commands
import FilterGraph.Proofs.Invocations
import FilterGraph.Proofs.Refusals
import FilterGraph.Proofs.Reloading

namespace FilterGraph

/-- What can be wrong with links. -/
inductive Error.OfLinks : Error → Prop where
  | input (id : String) : OfLinks (.duplicateInput id)
  | label (label : String) : OfLinks (.duplicateLabel label)
  | unknown (stage : Nat) (link : String) : OfLinks (.unknownLink stage link)
  | early (stage : Nat) (link : String) : OfLinks (.earlyLink stage link)

theorem Error.isStrictOnly_iff (error : Error) : error.isStrictOnly = true ↔ error.OfLinks := by
  constructor
  · intro strictOnly
    cases error with
    | duplicateInput id => exact .input id
    | duplicateLabel label => exact .label label
    | unknownLink stage link => exact .unknown stage link
    | earlyLink stage link => exact .early stage link
    | _ => cases strictOnly
  · rintro ⟨⟩ <;> rfl

theorem Pipeline.command_eq_error_iff (pipeline : Pipeline) (options : CommandOptions)
    (error : Error) :
    pipeline.command options = .error error ↔ pipeline.Lacks error ∨
      pipeline.Complete ∧ options.graph.linkCheck = .strict ∧
        pipeline.checkLinks = .error error := by
  rw [← pipeline.arguments_eq_error_iff options false, arguments]
  cases pipeline.command options <;> simp [Except.map]

namespace CommandLine

open Json

/-! ### What is shown -/

/-- The text that a mode shows: the line, the graph, or the arguments. -/
inductive Mode.Shows (pipeline : Pipeline) (options : CommandOptions) : Mode → String → Prop where
  | command {command : Command} (made : pipeline.command options = .ok command) :
      Shows pipeline options .showCommand command.line
  | graph {text : String} (written : pipeline.expression options.graph = .ok text) :
      Shows pipeline options .showGraph text
  | arguments {command : Command} (made : pipeline.command options = .ok command) :
      Shows pipeline options .showArguments (argumentsText (command.arguments false))

/-- What a mode reports: where it assembles a command, what the pipeline lacks comes first. -/
inductive Mode.Reports (pipeline : Pipeline) (options : CommandOptions) (mode : Mode) :
    Error → Prop where
  | lacking {error : Error} (assembles : mode ≠ .showGraph) (lacks : pipeline.Lacks error) :
      Reports pipeline options mode error
  | links {error : Error} (complete : mode ≠ .showGraph → pipeline.Complete)
      (strict : options.graph.linkCheck = .strict)
      (refused : pipeline.checkLinks = .error error) : Reports pipeline options mode error

theorem Mode.reports_of_command {pipeline : Pipeline} {options : CommandOptions} {mode : Mode}
    {error : Error} (assembles : mode ≠ .showGraph)
    (failed : pipeline.command options = .error error) : mode.Reports pipeline options error := by
  rcases (pipeline.command_eq_error_iff options error).mp failed with
    lacks | ⟨complete, strict, refused⟩
  · exact .lacking assembles lacks
  · exact .links (fun _ => complete) strict refused

/-- A mode that launches nothing shows its text or reports an error. -/
theorem Mode.shows_or_reports {mode : Mode} (notRun : mode ≠ .run) (pipeline : Pipeline)
    (options : CommandOptions) (host : Host) :
    (∃ text, mode.Shows pipeline options text ∧ mode.outcome pipeline options host =
      { output := text ++ "\n", launches := [], error := none }) ∨
    ∃ error, mode.Reports pipeline options error := by
  cases mode with
  | run => exact absurd rfl notRun
  | showGraph =>
    cases written : pipeline.expression options.graph with
    | ok text => exact .inl ⟨text, .graph written, outcome_showGraph host written⟩
    | error error =>
      obtain ⟨strict, refused⟩ := (pipeline.expression_eq_error_iff _ _).mp written
      exact .inr ⟨error, .links (absurd rfl) strict refused⟩
  | showCommand =>
    cases made : pipeline.command options with
    | ok command => exact .inl ⟨_, .command made, outcome_showCommand host made⟩
    | error error => exact .inr ⟨error, reports_of_command (by decide) made⟩
  | showArguments =>
    cases made : pipeline.command options with
    | ok command => exact .inl ⟨_, .arguments made, outcome_showArguments host made⟩
    | error error => exact .inr ⟨error, reports_of_command (by decide) made⟩

/-- What is reported is the whole outcome. -/
theorem Mode.outcome_of_reports {mode : Mode} {pipeline : Pipeline} {options : CommandOptions}
    {error : Error} (reports : mode.Reports pipeline options error) (host : Host) :
    mode.outcome pipeline options host =
      { output := "", launches := [], error := some error } := by
  cases reports with
  | lacking assembles lacks =>
    exact outcome_of_command_eq_error host assembles
      ((pipeline.command_eq_error_iff _ _).mpr (.inl lacks))
  | links complete strict refused =>
    by_cases shown : mode = .showGraph
    · subst shown
      rw [outcome, (pipeline.expression_eq_error_iff _ _).mpr ⟨strict, refused⟩]
      rfl
    · exact outcome_of_command_eq_error host shown
        ((pipeline.command_eq_error_iff _ _).mpr (.inr ⟨complete shown, strict, refused⟩))

namespace Invocation

/-! ### The first failure -/

/-- The strict check is asked for on the command line or in the file of options. -/
def AsksForCheck (invocation : Invocation) (base : CommandOptions) : Prop :=
  invocation.strict = true ∨ base.graph.linkCheck = .strict

/-- What fails first: the text of the description or its decoding, the text of the options or their
decoding, what the pipeline lacks, unless only its graph is shown, or its links, if the check is
asked for. -/
inductive FirstFailure (invocation : Invocation) (host : Host) : Error → Prop where
  | descriptionText {error : Error} (unread : invocation.source.fetch host = .error error) :
      FirstFailure invocation host error
  | description {text : String} {error : Error}
      (read : invocation.source.fetch host = .ok text)
      (malformed : Pipeline.parse text = .error error) : FirstFailure invocation host error
  | optionsText {pipeline : Pipeline} {path : String} {error : Error}
      (described : invocation.Describes host pipeline) (given : invocation.config = some path)
      (unread : host.readFile path = .error error) : FirstFailure invocation host error
  | options {pipeline : Pipeline} {path text : String} {error : Error}
      (described : invocation.Describes host pipeline) (given : invocation.config = some path)
      (read : host.readFile path = .ok text)
      (malformed : CommandOptions.parse text = .error error) : FirstFailure invocation host error
  | lacking {pipeline : Pipeline} {base : CommandOptions} {error : Error}
      (described : invocation.Describes host pipeline)
      (configured : invocation.Configures host base) (assembles : invocation.mode ≠ .showGraph)
      (lacks : pipeline.Lacks error) : FirstFailure invocation host error
  | links {pipeline : Pipeline} {base : CommandOptions} {error : Error}
      (described : invocation.Describes host pipeline)
      (configured : invocation.Configures host base)
      (complete : invocation.mode ≠ .showGraph → pipeline.Complete)
      (strict : invocation.AsksForCheck base)
      (refused : pipeline.checkLinks = .error error) : FirstFailure invocation host error

variable {invocation : Invocation} {host : Host}

/-- Whatever cannot be read fails first. -/
theorem firstFailure_of_load {error : Error} (failed : invocation.load host = .error error) :
    invocation.FirstFailure host error := by
  rcases (invocation.load_eq_error_iff host error).mp failed with
    source | ⟨pipeline, described, options⟩
  · rcases (invocation.source.load_eq_error_iff host error).mp source with
      unread | ⟨text, read, malformed⟩
    · exact .descriptionText unread
    · exact .description read malformed
  · obtain ⟨path, given, unread | ⟨text, read, malformed⟩⟩ :=
      (invocation.base_eq_error_iff host error).mp options
    · exact .optionsText described given unread
    · exact .options described given read malformed

/-- What a mode reports fails first, if everything was read. -/
theorem firstFailure_of_reports {pipeline : Pipeline} {base : CommandOptions} {error : Error}
    (described : invocation.Describes host pipeline)
    (configured : invocation.Configures host base)
    (reports : invocation.mode.Reports pipeline (invocation.override base) error) :
    invocation.FirstFailure host error := by
  cases reports with
  | lacking assembles lacks => exact .lacking described configured assembles lacks
  | links complete strict refused =>
    exact .links described configured complete
      ((invocation.linkCheck_override base).mp strict) refused

/-- The first failure is the whole outcome, also of a run. -/
theorem FirstFailure.outcome_eq {error : Error} (first : invocation.FirstFailure host error) :
    invocation.outcome host = { output := "", launches := [], error := some error } := by
  -- Four of the failures are met before both texts are read, the other two only after that.
  have unloaded : (invocation.source.load host = .error error ∨ ∃ pipeline,
      invocation.Describes host pipeline ∧ invocation.base host = .error error) →
      invocation.outcome host = { output := "", launches := [], error := some error } :=
    fun failed => outcome_of_load_eq_error ((invocation.load_eq_error_iff host error).mpr failed)
  have loaded {pipeline : Pipeline} {base : CommandOptions}
      (described : invocation.Describes host pipeline)
      (configured : invocation.Configures host base)
      (reports : invocation.mode.Reports pipeline (invocation.override base) error) :
      invocation.outcome host = { output := "", launches := [], error := some error } :=
    (outcome_of_load_eq_ok ((invocation.load_eq_ok_iff host _ _).mpr
      ⟨described, base, configured, rfl⟩)).trans (Mode.outcome_of_reports reports host)
  cases first with
  | descriptionText unread =>
    exact unloaded (.inl ((Description.load_eq_error_iff _ _ _).mpr (.inl unread)))
  | description read malformed =>
    exact unloaded (.inl ((Description.load_eq_error_iff _ _ _).mpr (.inr ⟨_, read, malformed⟩)))
  | optionsText described given unread =>
    exact unloaded (.inr ⟨_, described,
      (invocation.base_eq_error_iff host error).mpr ⟨_, given, .inl unread⟩⟩)
  | options described given read malformed =>
    exact unloaded (.inr ⟨_, described,
      (invocation.base_eq_error_iff host error).mpr ⟨_, given, .inr ⟨_, read, malformed⟩⟩⟩)
  | lacking described configured assembles lacks =>
    exact loaded described configured (.lacking assembles lacks)
  | links described configured complete strict refused =>
    exact loaded described configured
      (.links complete ((invocation.linkCheck_override _).mpr strict) refused)

/-- Only a use that asks for the strict check fails first with its links. -/
theorem FirstFailure.exists_asksForCheck {error : Error}
    (first : invocation.FirstFailure host error) (links : error.OfLinks) :
    ∃ base, invocation.Configures host base ∧ invocation.AsksForCheck base := by
  have readable {path : String} (unread : host.readFile path = .error error) : False := by
    obtain ⟨failure, _, rfl⟩ := mapError_eq_error_iff.mp unread
    cases links
  cases first with
  | descriptionText unread =>
    cases source : invocation.source with
    | inline text =>
      rw [source] at unread
      cases unread
    | file path =>
      rw [source] at unread
      exact (readable unread).elim
  | description read malformed =>
    obtain ⟨problem, _, rfl⟩ := mapError_eq_error_iff.mp malformed
    cases links
  | optionsText described given unread => exact (readable unread).elim
  | options described given read malformed =>
    obtain ⟨problem, _, rfl⟩ := mapError_eq_error_iff.mp malformed
    cases links
  | lacking described configured assembles lacks =>
    have notStrictOnly := lacks.not_isStrictOnly
    rw [error.isStrictOnly_iff.mpr links] at notStrictOnly
    cases notStrictOnly
  | links described configured complete strict refused => exact ⟨_, configured, strict⟩

/-- No two failures are the first. -/
theorem FirstFailure.unique {error other : Error} (first : invocation.FirstFailure host error)
    (second : invocation.FirstFailure host other) : other = error := by
  have same := second.outcome_eq.symm.trans first.outcome_eq
  exact Option.some.inj (Outcome.mk.inj same).2.2

/-! ### All or nothing -/

/-- The result is shown as a whole, and there is no failure. -/
structure Succeeds (invocation : Invocation) (host : Host) : Prop where
  shown : ∃ pipeline base text, invocation.Describes host pipeline ∧
    invocation.Configures host base ∧
    invocation.mode.Shows pipeline (invocation.override base) text ∧
    invocation.outcome host = { output := text ++ "\n", launches := [], error := none }
  exitCode : (invocation.outcome host).exitCode = 0
  noFailure : ∀ error, ¬invocation.FirstFailure host error

/-- Nothing is shown but the first failure, with the hint just if it comes from the strict check;
then that check was asked for. -/
structure FailsWith (invocation : Invocation) (host : Host) (error : Error) : Prop where
  first : ∀ other, invocation.FirstFailure host other ↔ other = error
  outcome : invocation.outcome host = { output := "", launches := [], error := some error }
  exitCode : (invocation.outcome host).exitCode = 1
  hint : error.OfLinks → Outcome.report error = "error: " ++ error.message ++ "\n" ++
      "hint: unknown links pass through as labels without --strict\n" ∧
    ∃ base, invocation.Configures host base ∧ invocation.AsksForCheck base
  noHint : ¬error.OfLinks → Outcome.report error = "error: " ++ error.message ++ "\n"

theorem FirstFailure.failsWith {error : Error} (first : invocation.FirstFailure host error) :
    invocation.FailsWith host error where
  first := fun other => ⟨first.unique, fun same => same ▸ first⟩
  outcome := first.outcome_eq
  exitCode := by
    rw [first.outcome_eq]
    rfl
  hint := fun links => by
    refine ⟨?_, first.exists_asksForCheck links⟩
    rw [Outcome.report, if_pos (error.isStrictOnly_iff.mpr links)]
  noHint := fun others => by
    rw [Outcome.report, if_neg (mt error.isStrictOnly_iff.mp others), String.append_empty]

/-- Whatever the arguments ask for, except a run, and whatever is in the files: either the result is
shown as a whole, or nothing is shown but the first failure. -/
theorem succeeds_or_fails (invocation : Invocation) (host : Host)
    (notRun : invocation.mode ≠ .run) :
    invocation.Succeeds host ∨ ∃ error, invocation.FailsWith host error := by
  cases loaded : invocation.load host with
  | error error => exact .inr ⟨error, (firstFailure_of_load loaded).failsWith⟩
  | ok read =>
    obtain ⟨pipeline, options⟩ := read
    obtain ⟨described, base, configured, rfl⟩ :=
      (invocation.load_eq_ok_iff host pipeline options).mp loaded
    rcases Mode.shows_or_reports notRun pipeline (invocation.override base) host with
      ⟨text, shows, outcome⟩ | ⟨error, reports⟩
    · have shown := (outcome_of_load_eq_ok loaded).trans outcome
      refine .inl ⟨⟨pipeline, base, text, described, configured, shows, shown⟩, ?_, ?_⟩
      · rw [shown]
        rfl
      · intro error first
        have same := first.outcome_eq.symm.trans shown
        cases (Outcome.mk.inj same).2.2
    · exact .inr ⟨error, (firstFailure_of_reports described configured reports).failsWith⟩

/-- A pipeline without inputs, and with a link that leads nowhere. -/
def orphan : Pipeline where
  sources := []
  stages := [⟨.one "ghost", .bare "negate", .one "x"⟩]
  output := "b.avi"

def orphanText : String :=
  "\x7b\"in\":[],\"filters\":[\x7b\"in\":\"ghost\",\"filter\":\"negate\",\"out\":\"x\"\x7d]," ++
    "\"out\":\"b.avi\"\x7d"

theorem parse_orphanText : Pipeline.parse orphanText = .ok orphan := by
  have written : orphanText = orphan.toText := by decide +kernel
  have exact : orphan.Exact := List.forall_mem_singleton.mpr (List.forall_mem_nil _)
  rw [written]
  exact Pipeline.parse_toText exact (by decide)

/-- A host with no files and no programs. -/
def bareHost : Host where
  read _ := .error (.system .notFound)
  start _ _ := .notStarted .notFound

/-- The orphan, with the links checked or not. -/
def ofOrphan (mode : Mode) (strict : Bool) (config : Option String) : Invocation :=
  { description := orphanText, mode, strict, config }

theorem ofOrphan_describes (mode : Mode) (strict : Bool) (config : Option String) :
    (ofOrphan mode strict config).Describes bareHost orphan := by
  have inline : Description.ofArgument orphanText = .inline orphanText := by decide +kernel
  refine ⟨orphanText, ?_, parse_orphanText⟩
  rw [source, ofOrphan, inline]
  rfl

/-- Where the options cannot be read, the pipeline has no inputs, and its link leads nowhere, these
are reported in this order, as far as they matter; without the check the graph is shown. -/
theorem orphan_fails_in_order :
    (Invocation.ofArguments [orphanText, "--strict", "-c", "absent.json"] =
        .ok (ofOrphan .showCommand true (some "absent.json")) ∧
      (ofOrphan .showCommand true (some "absent.json")).FailsWith bareHost
        (.unreadable "absent.json" (.system .notFound))) ∧
    (ofOrphan .showCommand true none).FailsWith bareHost .noInputs ∧
    (ofOrphan .showGraph true none).FailsWith bareHost (.unknownLink 0 "ghost") ∧
    (ofOrphan .showGraph false none).Succeeds bareHost := by
  have fails {invocation : Invocation} {error : Error} (notRun : invocation.mode ≠ .run)
      (first : invocation.FirstFailure bareHost error) : invocation.FailsWith bareHost error := by
    rcases succeeds_or_fails invocation bareHost notRun with succeeds | ⟨other, fails⟩
    · exact absurd first (succeeds.noFailure error)
    · exact (fails.first error).mp first ▸ fails
  have describes := ofOrphan_describes
  have unknown : orphan.checkLinks = .error (.unknownLink 0 "ghost") :=
    orphan.checkLinks_eq_verdict.trans rfl
  refine ⟨⟨by decide +kernel, fails (by decide) (.optionsText (describes _ _ _) rfl rfl)⟩,
    fails (by decide) (.lacking (describes _ _ _) rfl (by decide) (.input rfl)),
    fails (by decide) (.links (describes _ _ _) rfl (absurd rfl) (.inl rfl) unknown), ?_⟩
  rcases succeeds_or_fails (ofOrphan .showGraph false none) bareHost (by decide) with
    succeeds | ⟨error, fails⟩
  · exact succeeds
  · have loaded := ((ofOrphan .showGraph false none).load_eq_ok_iff bareHost orphan _).mpr
      ⟨describes _ _ _, {}, rfl, rfl⟩
    have shown := (outcome_of_load_eq_ok loaded).symm.trans fails.outcome
    cases (Outcome.mk.inj shown).2.2

end Invocation

end CommandLine

end FilterGraph
