/-
This file says where the options of a use of the command line come from, and that the layout goes
no further than a graph that is shown by itself.

There are three places: the arguments, a file of options, and the defaults, which the file falls
back to. A switch of the arguments turns the strict check on, and a name replaces the program of
the file; the codec and the extension of files without it are always those of the file. The layout
is pretty if the arguments or the file ask for it, but only where a graph is shown by itself. Where
a command is assembled it is compact, and nothing is left of what was asked for: two uses that
differ in this alone read the same pipeline and come to the same options, hence to one outcome.
Where a graph is shown the layout is in its text, but the check comes before any text, so that the
uses succeed or fail alike.
-/

import FilterGraph.Proofs.Commands
import FilterGraph.Proofs.Invocations
import FilterGraph.Proofs.Layouts
import FilterGraph.Proofs.Options
import FilterGraph.Proofs.Reloading
import FilterGraph.Proofs.Switches

namespace FilterGraph

open Json
open CommandOptions (Leaf)

/-! ### Options but for the layout -/

/-- The same options with the layout as said. -/
def CommandOptions.inLayout (options : CommandOptions) (layout : Layout) : CommandOptions :=
  { options with graph := { options.graph with layout } }

/-- The file gives just the chosen options, in any order and among other members, and however it
is spaced. -/
def CommandOptions.IsKept (options : CommandOptions) (chosen : Leaf → Bool) (host : Host)
    (path : String) : Prop :=
  ∃ (value : Value) (spacing : Spacing) (blanks : List Char), options.IsGivenBy chosen value ∧
    value.Exact ∧ (∀ char ∈ blanks, isBlank char = true) ∧
    host.read path = .ok (String.ofList (spacing.write 0 value ++ blanks))

theorem CommandOptions.IsKept.load_eq {options : CommandOptions} {chosen : Leaf → Bool}
    {host : Host} {path : String} (kept : options.IsKept chosen host path) :
    load path host = .ok (options.overriding chosen) := by
  obtain ⟨value, spacing, blanks, given, exact, blank, held⟩ := kept
  rw [load, Host.readFile, held]
  exact parse_of_ofValue exact (ofValue_of_isGivenBy given) spacing blank

/-- Other files do not matter to what is launched. -/
theorem Host.launch_eq_of_start {host other : Host} (same : other.start = host.start) :
    other.launch = host.launch := by
  funext arguments
  cases arguments with
  | nil => rfl
  | cons program rest => rw [launch, launch, same]

/-- Two or more fragments show how they are separated. -/
theorem Pipeline.graph_eq_pretty_iff {pipeline : Pipeline} (several : 2 ≤ pipeline.stages.length)
    (layout : Layout) : pipeline.graph layout = pipeline.graph .pretty ↔ layout = .pretty := by
  refine ⟨fun same => ?_, fun same => by rw [same]⟩
  cases layout with
  | pretty => rfl
  | compact =>
    have counts := pipeline.count_lineBreak_graph
    rw [same] at counts
    omega

namespace CommandLine

theorem Mode.outcome_eq_of_start (mode : Mode) (pipeline : Pipeline) (options : CommandOptions)
    {host other : Host} (same : other.start = host.start) :
    mode.outcome pipeline options other = mode.outcome pipeline options host := by
  cases mode with
  | run => rw [outcome, outcome, Host.launch_eq_of_start same]
  | _ => rfl

/-- Whether a graph is shown, and which error is reported otherwise, is left to the check. -/
theorem Mode.error_eq_of_showGraph {mode : Mode} (shown : mode = .showGraph) (pipeline : Pipeline)
    {first second : CommandOptions} (same : first.graph.linkCheck = second.graph.linkCheck)
    (host other : Host) :
    (mode.outcome pipeline first other).error = (mode.outcome pipeline second host).error := by
  subst shown
  rw [outcome, outcome]
  rcases pipeline.expression_in_layouts second.graph.linkCheck with ⟨error, refused⟩ | written
  · have refusals := refused first.graph.layout
    rw [← same] at refusals
    rw [refusals, refused second.graph.layout]
  · have texts := written first.graph.layout
    rw [← same] at texts
    rw [texts, written second.graph.layout]
    rfl

namespace Invocation

/-! ### The layout of a use -/

section

variable (invocation : Invocation) (base : CommandOptions) (pretty : Bool) (layout : Layout)

/-- The check of links does not depend on the layout that is asked for. -/
theorem linkCheck_override_inLayout :
    (Invocation.override { invocation with pretty } (base.inLayout layout)).graph.linkCheck =
      (invocation.override base).graph.linkCheck := by
  rw [graph_override, graph_override]
  rfl

/-- A command has the same options whatever layout is asked for. -/
theorem override_inLayout_of_ne {invocation : Invocation}
    (assembles : invocation.mode ≠ .showGraph) :
    Invocation.override { invocation with pretty } (base.inLayout layout) =
      invocation.override base := by
  have graphs : (Invocation.override { invocation with pretty } (base.inLayout layout)).graph =
      (invocation.override base).graph := by
    rw [graph_override, graph_override, if_neg assembles, if_neg assembles]
    rfl
  -- Besides the graph's options there are the program, the codec and the extension.
  exact congrArg (CommandOptions.mk (invocation.program.getD base.program) base.codec
    base.bareExtension) graphs

end

/-! ### Hosts that differ in the layout -/

/-- Hosts on which a use of the command line starts the same programs and reads the same
description, and the same file of options but for the layout: the files are the same, or both are
read, as options in one layout and in another. -/
structure SameButLayout (invocation : Invocation) (host other : Host) : Prop where
  programs : other.start = host.start
  description : invocation.source.load other = invocation.source.load host
  options : ∀ path, invocation.config = some path → other.read path = host.read path ∨
    ∃ options layout, CommandOptions.load path host = .ok options ∧
      CommandOptions.load path other = .ok (options.inLayout layout)

namespace SameButLayout

variable {invocation : Invocation} {host other : Host} (alike : invocation.SameButLayout host other)

include alike

/-- Either no options are read, for one reason, or options are that differ in the layout alone. -/
theorem base_or : (∃ error, invocation.base host = .error error ∧
      invocation.base other = .error error) ∨
    ∃ base layout, invocation.base host = .ok base ∧
      invocation.base other = .ok (base.inLayout layout) := by
  cases given : invocation.config with
  | none =>
    simp only [Invocation.base, given]
    exact Or.inr ⟨{}, .compact, rfl, rfl⟩
  | some path =>
    simp only [Invocation.base, given]
    rcases alike.options path given with same | differing
    · have loads : CommandOptions.load path other = CommandOptions.load path host := by
        rw [CommandOptions.load, CommandOptions.load, Host.readFile, Host.readFile, same]
      rw [loads]
      cases CommandOptions.load path host with
      | error error => exact Or.inl ⟨error, rfl, rfl⟩
      | ok base => exact Or.inr ⟨base, base.graph.layout, rfl, rfl⟩
    · exact Or.inr differing

/-- With another layout either nothing is read, for the same reason, or the same pipeline. -/
theorem load_or (pretty : Bool) : (∃ error, invocation.load host = .error error ∧
      Invocation.load { invocation with pretty } other = .error error) ∨
    ∃ pipeline base layout, invocation.load host = .ok (pipeline, invocation.override base) ∧
      Invocation.load { invocation with pretty } other =
        .ok (pipeline, Invocation.override { invocation with pretty } (base.inLayout layout)) := by
  have described : (Invocation.source { invocation with pretty }).load other =
      invocation.source.load host := alike.description
  rw [load_eq_bind, load_eq_bind, described]
  cases invocation.source.load host with
  | error error => exact Or.inl ⟨error, rfl, rfl⟩
  | ok pipeline =>
    rcases alike.base_or with ⟨error, failed, again⟩ | ⟨base, layout, read, again⟩
    · refine Or.inl ⟨error, congrArg (Except.map _) failed, ?_⟩
      exact congrArg (Except.map _) again
    · refine Or.inr ⟨pipeline, base, layout, congrArg (Except.map _) read, ?_⟩
      exact congrArg (Except.map _) again

/-- The uses that assemble a command have one outcome. -/
theorem outcome_eq (assembles : invocation.mode ≠ .showGraph) (pretty : Bool) :
    Invocation.outcome { invocation with pretty } other = invocation.outcome host := by
  rcases alike.load_or pretty with ⟨error, failed, again⟩ | ⟨pipeline, base, layout, loaded, again⟩
  · rw [outcome_of_load_eq_error failed, outcome_of_load_eq_error again]
  · rw [outcome_of_load_eq_ok loaded, outcome_of_load_eq_ok again,
      override_inLayout_of_ne base pretty layout assembles]
    exact invocation.mode.outcome_eq_of_start _ _ alike.programs

/-- All uses succeed or fail alike. -/
theorem error_eq (pretty : Bool) :
    (Invocation.outcome { invocation with pretty } other).error =
      (invocation.outcome host).error := by
  by_cases shown : invocation.mode = .showGraph
  · rcases alike.load_or pretty with
      ⟨error, failed, again⟩ | ⟨pipeline, base, layout, loaded, again⟩
    · rw [outcome_of_load_eq_error failed, outcome_of_load_eq_error again]
    · rw [outcome_of_load_eq_ok loaded, outcome_of_load_eq_ok again]
      exact Mode.error_eq_of_showGraph shown pipeline
        (invocation.linkCheck_override_inLayout base pretty layout) host other
  · rw [alike.outcome_eq shown]

end SameButLayout

/-- A use keeps its file of options apart from its description. If a file gives some options, and
the layout is another there while nothing else changes, the hosts differ in the layout alone. -/
theorem sameButLayout_of_isKept {invocation : Invocation} {path : String}
    (given : invocation.config = some path) (apart : invocation.source ≠ .file path)
    {host other : Host} (programs : other.start = host.start)
    (elsewhere : ∀ name, name ≠ path → other.read name = host.read name)
    {options : CommandOptions} {chosen : Leaf → Bool} {layout : Layout}
    (kept : options.IsKept chosen host path)
    (changed : (options.inLayout layout).IsKept chosen other path) :
    invocation.SameButLayout host other where
  programs := programs
  description := by
    cases source : invocation.source with
    | inline text => rfl
    | file name =>
      have same : name ≠ path := fun same => apart (by rw [source, same])
      rw [Description.load, Description.load, Host.readFile, Host.readFile, elsewhere name same]
  options := fun name named => by
    obtain rfl : path = name := Option.some.inj (given.symm.trans named)
    refine Or.inr ⟨options.overriding chosen, if chosen .layout then layout else .compact,
      kept.load_eq, ?_⟩
    exact changed.load_eq

/-! ### Where the options come from -/

/-- What a use of the command line makes of the pipeline it reads and of the options of its file. -/
structure ComesTo (invocation : Invocation) (arguments : List String) (host : Host)
    (pipeline : Pipeline) (base options : CommandOptions) : Prop where
  /-- The pipeline is shown or run with these options. -/
  outcome : invocation.outcome host = invocation.mode.outcome pipeline options host
  /-- The codec and the extension of files without it are those of the file. -/
  codec : options.codec = base.codec
  bareExtension : options.bareExtension = base.bareExtension
  /-- The program is the one that is named on the command line, or else that of the file. -/
  program : options.program = invocation.program.getD base.program
  /-- Links are checked just if the switch is given or the file has it so. -/
  linkCheck : options.graph.linkCheck = .strict ↔
    Gives arguments .strict ∨ base.graph.linkCheck = .strict
  /-- The layout is pretty just if a graph is shown by itself, and the switch is given or the file
  has it so. -/
  layout : options.graph.layout = .pretty ↔ Gives arguments .filterComplex ∧
    (Gives arguments .pretty ∨ base.graph.layout = .pretty)
  /-- A graph that is shown by itself is the expression in that layout, as is seen from two
  fragments on. -/
  graph : Gives arguments .filterComplex →
    invocation.outcome host = .ofText (pipeline.expression options.graph) ∧
      (2 ≤ pipeline.stages.length → (invocation.outcome host).error = none →
        ((invocation.outcome host).output = pipeline.graph .pretty ++ "\n" ↔
          Gives arguments .pretty ∨ base.graph.layout = .pretty))

/-- The options of the command line, over those of the file. -/
theorem comesTo_override {invocation : Invocation} {arguments : List String}
    (read : ofArguments arguments = .ok invocation) {host : Host} {pipeline : Pipeline}
    {base : CommandOptions} (described : invocation.Describes host pipeline)
    (configured : invocation.Configures host base) :
    invocation.ComesTo arguments host pipeline base (invocation.override base) := by
  have outcome := outcome_of_load_eq_ok ((invocation.load_eq_ok_iff host pipeline _).mpr
    ⟨described, base, configured, rfl⟩)
  have layout := invocation.layout_override base
  rw [mode_eq_showGraph_iff_gives read, pretty_iff_gives read] at layout
  have linkCheck := invocation.linkCheck_override base
  rw [strict_iff_gives read] at linkCheck
  refine ⟨outcome, rfl, rfl, rfl, linkCheck, layout, fun shown => ?_⟩
  have text : invocation.outcome host =
      .ofText (pipeline.expression (invocation.override base).graph) := by
    rw [outcome, (mode_eq_showGraph_iff_gives read).mpr shown]
    rfl
  refine ⟨text, fun several noError => ?_⟩
  cases written : pipeline.expression (invocation.override base).graph with
  | error error =>
    rw [text, written] at noError
    cases noError
  | ok expression =>
    obtain ⟨_, rfl⟩ := (pipeline.expression_eq_ok_iff _ _).mp written
    have asked := layout.trans (and_iff_right shown)
    rw [text, written, ← asked, ← Pipeline.graph_eq_pretty_iff several]
    exact String.append_left_inj "\n"

end Invocation

/-! ### The layout of a list of arguments -/

/-- What comes of a list of arguments: it is not read, or it is a use with an outcome. -/
def outcomeOf (arguments : List String) (host : Host) : Except Stop Outcome :=
  (Invocation.ofArguments arguments).map fun invocation => invocation.outcome host

/-- Arguments that are the same but for the switch of the pretty layout, which may be put in or
taken away. -/
def AlikeButPretty (arguments changed : List String) : Prop :=
  arguments = changed ∨ AddsSwitch .pretty arguments changed ∨
    AddsSwitch .pretty changed arguments

/-- Such arguments are refused for the same reason, or are read as uses that are the same but for
the switch. -/
theorem AlikeButPretty.read_or {arguments changed : List String}
    (alike : AlikeButPretty arguments changed) :
    (∃ stop, Invocation.ofArguments arguments = .error stop ∧
      Invocation.ofArguments changed = .error stop) ∨
    ∃ (invocation : Invocation) (pretty : Bool), Invocation.ofArguments arguments = .ok invocation ∧
      Invocation.ofArguments changed = .ok { invocation with pretty } := by
  rcases alike with rfl | added | taken
  · cases Invocation.ofArguments arguments with
    | error stop => exact Or.inl ⟨stop, rfl, rfl⟩
    | ok invocation => exact Or.inr ⟨invocation, invocation.pretty, rfl, rfl⟩
  · rw [Invocation.ofArguments_of_addsSwitch added]
    cases Invocation.ofArguments arguments with
    | error stop => exact Or.inl ⟨stop, rfl, rfl⟩
    | ok invocation => exact Or.inr ⟨invocation, true, rfl, rfl⟩
  · rw [Invocation.ofArguments_of_addsSwitch taken]
    cases Invocation.ofArguments changed with
    | error stop => exact Or.inl ⟨stop, rfl, rfl⟩
    | ok invocation => exact Or.inr ⟨_, invocation.pretty, rfl, rfl⟩

/-- The layout that the arguments or the file ask for is one of a graph that is shown by itself.
Where none is shown, putting in the switch or taking it away and changing the layout of the file
leave everything as it is: whether the arguments are read, what is written, which arguments a
program is started with, which error is reported, and so the exit code. Where one is shown, they
leave the error as it is. All other options are those of the file, unless the arguments name a
program or ask for the strict check. -/
theorem layout_is_for_graphs {arguments changed : List String} {host other : Host}
    (alike : AlikeButPretty arguments changed)
    (hosts : ∀ invocation, Invocation.ofArguments arguments = .ok invocation →
      invocation.SameButLayout host other) :
    (¬Gives arguments .filterComplex → outcomeOf changed other = outcomeOf arguments host) ∧
    (outcomeOf changed other).map Outcome.error = (outcomeOf arguments host).map Outcome.error ∧
    ∀ invocation pipeline base, Invocation.ofArguments arguments = .ok invocation →
      invocation.Describes host pipeline → invocation.Configures host base →
        ∃ options, invocation.ComesTo arguments host pipeline base options := by
  have settled : ∀ invocation pipeline base, Invocation.ofArguments arguments = .ok invocation →
      invocation.Describes host pipeline → invocation.Configures host base →
        ∃ options, invocation.ComesTo arguments host pipeline base options :=
    fun _ _ _ read described configured =>
      ⟨_, Invocation.comesTo_override read described configured⟩
  rcases alike.read_or with ⟨stop, refused, again⟩ | ⟨invocation, pretty, read, again⟩
  · have same : outcomeOf changed other = outcomeOf arguments host := by
      rw [outcomeOf, outcomeOf, refused, again]
      rfl
    exact ⟨fun _ => same, congrArg (Except.map Outcome.error) same, settled⟩
  · have sameButLayout := hosts invocation read
    refine ⟨fun absent => ?_, ?_, settled⟩
    · have assembles := mt (Invocation.mode_eq_showGraph_iff_gives read).mp absent
      rw [outcomeOf, outcomeOf, read, again]
      exact congrArg Except.ok (sameButLayout.outcome_eq assembles pretty)
    · rw [outcomeOf, outcomeOf, read, again]
      exact congrArg Except.ok (sameButLayout.error_eq pretty)

/-- A pipeline of two stages. -/
def turning : Pipeline where
  sources := [⟨"a", "a.mov"⟩]
  stages := [⟨.one "a", .bare "negate", .one "b"⟩, ⟨.one "b", .bare "hflip", .one "c"⟩]
  output := "c.avi"

def turningText : String :=
  "\x7b\"in\":[\x7b\"id\":\"a\",\"file\":\"a.mov\"\x7d]," ++
    "\"filters\":[\x7b\"in\":\"a\",\"filter\":\"negate\",\"out\":\"b\"\x7d," ++
    "\x7b\"in\":\"b\",\"filter\":\"hflip\",\"out\":\"c\"\x7d],\"out\":\"c.avi\"\x7d"

theorem parse_turningText : Pipeline.parse turningText = .ok turning := by
  have written : turningText = turning.toText := by decide +kernel
  have exact : turning.Exact := List.forall_mem_cons.mpr
    ⟨List.forall_mem_nil _, List.forall_mem_singleton.mpr (List.forall_mem_nil _)⟩
  rw [written]
  exact Pipeline.parse_toText exact (by decide)

/-- A file that gives a codec and a layout. -/
def codecIn (layout : Layout) : Value :=
  .object [("codec", .text "utvideo"), ("compile", .object [("layout", .text layout.word)])]

/-- A host with that file, on which everything that is started succeeds. -/
def codecHost (layout : Layout) : Host where
  read path := if path = "options.json" then .ok (codecIn layout).compact
    else .error (.system .notFound)
  start _ _ := .finished "" none

theorem codecIn_isKept (layout : Layout) :
    CommandOptions.IsKept ⟨"ffmpeg", "utvideo", "gif", ⟨.lenient, layout⟩⟩
      (fun leaf => leaf = .codec ∨ leaf = .layout) (codecHost layout) "options.json" := by
  obtain ⟨spacing, written⟩ := Spacing.exists_eq_of_mem
    (List.mem_cons_self (a := (codecIn layout).compact) (l := [(codecIn layout).pretty]))
  refine ⟨codecIn layout, spacing, [], ?given, ?exact, List.forall_mem_nil _, ?held⟩
  case given =>
    refine ⟨some (.object [("layout", .text layout.word)]), ?_, nofun, _, rfl, .refl _⟩
    intro inner same
    obtain rfl := Option.some.inj same
    exact ⟨_, rfl, .refl _⟩
  case exact =>
    simp [codecIn, Value.exact_object_iff, Value.exact_text]
  case held =>
    rw [List.append_nil, ← written]
    rfl

/-- A use of the pipeline with that file. -/
def turningUse (mode : Mode) : Invocation :=
  { description := turningText, mode, config := some "options.json" }

theorem source_turningUse (mode : Mode) : (turningUse mode).source = .inline turningText := by
  have inline : Description.ofArgument turningText = .inline turningText := by decide +kernel
  exact inline

theorem turningUse_describes (mode : Mode) (layout : Layout) :
    (turningUse mode).Describes (codecHost layout) turning := by
  refine ⟨turningText, ?_, parse_turningText⟩
  rw [source_turningUse]
  rfl

theorem turningUse_configures (mode : Mode) (layout : Layout) :
    (turningUse mode).Configures (codecHost layout)
      ⟨"ffmpeg", "utvideo", "gif", ⟨.lenient, layout⟩⟩ :=
  (Invocation.configures_iff _ _ _).mpr (codecIn_isKept layout).load_eq

theorem sameButLayout_of_read {arguments : List String} {mode : Mode}
    (read : Invocation.ofArguments arguments = .ok (turningUse mode)) (first second : Layout) :
    ∀ invocation, Invocation.ofArguments arguments = .ok invocation →
      invocation.SameButLayout (codecHost first) (codecHost second) := by
  intro invocation again
  obtain rfl : turningUse mode = invocation := Except.ok.inj (read.symm.trans again)
  refine Invocation.sameButLayout_of_isKept rfl ?_ rfl (fun name other => ?_)
    (codecIn_isKept first) (codecIn_isKept second)
  · rw [source_turningUse]
    exact nofun
  · rw [codecHost, codecHost]
    exact (if_neg other).trans (if_neg other).symm

theorem ofArguments_run :
    Invocation.ofArguments [turningText, "--run", "-c", "options.json"] =
      .ok (turningUse .run) := by
  decide +kernel

theorem ofArguments_showGraph :
    Invocation.ofArguments [turningText, "--filter-complex", "-c", "options.json"] =
      .ok (turningUse .showGraph) := by
  decide +kernel

/-- The switch is put in behind the one for a run. -/
theorem run_alikeButPretty : AlikeButPretty [turningText, "--run", "-c", "options.json"]
    [turningText, "--run", "--pretty", "-c", "options.json"] := by
  have taken : ({} : Given).takeAll [turningText, "--run"] =
      .ok { description := some turningText, switches := [.run] } := by decide +kernel
  refine Or.inr (Or.inl ⟨[turningText, "--run"], ["-c", "options.json"], rfl, rfl, ?_, ?_⟩)
  · intro given reached
    rw [taken] at reached
    rw [← Except.ok.inj reached]
    exact ⟨rfl, rfl⟩
  · exact mt (Invocation.pretty_iff_gives ofArguments_run).mpr Bool.false_ne_true

/-- A run does not see the layout at all; a graph that is shown by itself is in two lines if the
file has it so. -/
theorem turning_layouts :
    (AlikeButPretty [turningText, "--run", "-c", "options.json"]
        [turningText, "--run", "--pretty", "-c", "options.json"] ∧
      (∀ invocation, Invocation.ofArguments [turningText, "--run", "-c", "options.json"] =
        .ok invocation → invocation.SameButLayout (codecHost .compact) (codecHost .pretty)) ∧
      ¬Gives [turningText, "--run", "-c", "options.json"] .filterComplex ∧
      outcomeOf [turningText, "--run", "--pretty", "-c", "options.json"] (codecHost .pretty) =
        outcomeOf [turningText, "--run", "-c", "options.json"] (codecHost .compact)) ∧
    (turningUse .showGraph).Describes (codecHost .pretty) turning ∧
    (turningUse .showGraph).Configures (codecHost .pretty)
      ⟨"ffmpeg", "utvideo", "gif", ⟨.lenient, .pretty⟩⟩ ∧
    ((turningUse .showGraph).outcome (codecHost .pretty)).output =
      turning.graph .pretty ++ "\n" := by
  have noGraph : ¬Gives [turningText, "--run", "-c", "options.json"] .filterComplex :=
    mt (Invocation.mode_eq_showGraph_iff_gives ofArguments_run).mpr (by decide)
  have hosts := sameButLayout_of_read ofArguments_run .compact .pretty
  refine ⟨⟨run_alikeButPretty, hosts, noGraph,
    (layout_is_for_graphs run_alikeButPretty hosts).1 noGraph⟩,
    turningUse_describes _ _, turningUse_configures _ _, ?_⟩
  obtain ⟨options, comesTo⟩ := (layout_is_for_graphs (Or.inl rfl)
    (sameButLayout_of_read ofArguments_showGraph .pretty .pretty)).2.2 _ _ _
      ofArguments_showGraph (turningUse_describes _ _) (turningUse_configures _ _)
  obtain ⟨text, broken⟩ := comesTo.graph
    ((Invocation.mode_eq_showGraph_iff_gives ofArguments_showGraph).mp rfl)
  refine (broken (by decide) ?_).mpr (Or.inr rfl)
  have accepted : turning.checkLinks = .ok () := turning.checkLinks_eq_verdict.trans rfl
  have written : turning.expression options.graph = .ok (turning.graph options.graph.layout) :=
    (turning.expression_eq_ok_iff _ _).mpr ⟨fun _ => accepted, rfl⟩
  rw [text, written]
  rfl

end CommandLine

end FilterGraph
