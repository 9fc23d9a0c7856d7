/-
This file proves that the shorthands of a description are notation and nothing else: a link that
stands alone means the list of this link, and a bare filter name means the name without parameters.

A shorthand and what it stands for look the same to whatever looks at a stage, so replacing some
of them, here the link, there the filter, changes no result. Outputs are left as they are: a list
of one label is a split, and there the text is never that of a single label.
-/

import FilterGraph.Proofs.Views

namespace FilterGraph

/-! ### Shorthands and what they stand for -/

/-- The links of a stage, where one that stands alone may have become a list. -/
inductive Labels.Expansion : Labels → Labels → Prop where
  | kept (labels : Labels) : Expansion labels labels
  | listed (label : String) : Expansion (.one label) (.many [label])

/-- A filter, where a bare name may have got an empty set of parameters. -/
inductive Filter.Expansion : Filter → Filter → Prop where
  | kept (filter : Filter) : Expansion filter filter
  | configured (name : String) : Expansion (.bare name) (.configured name .empty)

/-- A stage with none, one or both of its shorthands replaced. -/
structure Stage.Expansion (stage longhand : Stage) : Prop where
  inputs : stage.inputs.Expansion longhand.inputs
  filter : stage.filter.Expansion longhand.filter
  output : longhand.output = stage.output

/-- A pipeline with the shorthands of some stages replaced. -/
structure Pipeline.Expansion (pipeline longhand : Pipeline) : Prop where
  sources : longhand.sources = pipeline.sources
  stages : List.Forall₂ Stage.Expansion pipeline.stages longhand.stages
  output : longhand.output = pipeline.output

theorem Labels.Expansion.toList_eq {labels longhand : Labels}
    (expansion : labels.Expansion longhand) : longhand.toList = labels.toList := by
  cases expansion with
  | kept => rfl
  | listed label => rfl

/-- Spelling the parameters of a filter out does not change its text. -/
theorem Filter.segment_expanded (filter : Filter) (inputCount : Nat) :
    filter.expanded.segment inputCount = filter.segment inputCount := by
  rw [segment_eq, segment_eq, name_expanded, parameters_expanded]

theorem Filter.Expansion.segment_eq {filter longhand : Filter}
    (expansion : filter.Expansion longhand) (inputCount : Nat) :
    longhand.segment inputCount = filter.segment inputCount := by
  cases expansion with
  | kept => rfl
  | configured name => exact (Filter.bare name).segment_expanded inputCount

/-! ### Stages look the same -/

namespace Stage

theorem fragment_expanded (stage : Stage) (table : StreamTable) :
    { stage with filter := stage.filter.expanded }.fragment table = stage.fragment table := by
  have segment : { stage with filter := stage.filter.expanded }.filterSegment =
      stage.filterSegment := stage.filter.segment_expanded stage.inputs.size
  rw [fragment, fragment, segment]
  rfl

/-- A split into one label is not written as the single label is. -/
theorem fragment_split_ne (inputs : Labels) (filter : Filter) (label : String)
    (table : StreamTable) :
    (Stage.mk inputs filter (.many [label])).fragment table ≠
      (Stage.mk inputs filter (.one label)).fragment table := by
  intro same
  have segments : ",split" ++ table.links [label] = bracketed label :=
    String.append_right_inj _ |>.mp same
  have characters := congrArg (fun text => text.toList.head?) segments
  simp [bracketed] at characters

namespace Expansion

variable {stage longhand : Stage} (expansion : stage.Expansion longhand)

include expansion

theorem wires_eq : longhand.wires = stage.wires := by
  rw [wires, wires, expansion.inputs.toList_eq, expansion.output]

theorem reading_eq (table : StreamTable) : longhand.reading table = stage.reading table := by
  have segment : longhand.filterSegment = stage.filterSegment := by
    rw [filterSegment, filterSegment, Labels.size, Labels.size, expansion.inputs.toList_eq,
      expansion.filter.segment_eq]
  rw [reading, reading, writtenOutput, writtenOutput, expansion.inputs.toList_eq,
    expansion.output, segment]

end Expansion

end Stage

/-! ### Pipelines have the same results -/

namespace Pipeline

namespace Expansion

variable {pipeline longhand : Pipeline} (expansion : pipeline.Expansion longhand)

include expansion

/-- A view of the stages that does not tell a shorthand from what it stands for. -/
theorem map_stages_eq {View : Type} {view : Stage → View}
    (blind : ∀ {stage longhand : Stage}, stage.Expansion longhand → view longhand = view stage) :
    longhand.stages.map view = pipeline.stages.map view :=
  (map_eq_of_forall₂ expansion.stages fun replaced => (blind replaced).symm).symm

theorem checkLinks_eq : longhand.checkLinks = pipeline.checkLinks := by
  refine checkLinks_congr ?_ (expansion.map_stages_eq Stage.Expansion.wires_eq)
  rw [ids, ids, expansion.sources]

theorem outputs_eq : longhand.outputs = pipeline.outputs :=
  expansion.map_stages_eq Stage.Expansion.output

theorem outcome_eq : longhand.outcome = pipeline.outcome :=
  outcome_congr (congrArg List.isEmpty expansion.sources) expansion.outputs_eq

theorem readings_eq : longhand.readings = pipeline.readings := by
  rw [readings, readings, table, table, expansion.sources]
  exact expansion.map_stages_eq fun replaced => replaced.reading_eq _

theorem expression_eq (options : GraphOptions) :
    longhand.expression options = pipeline.expression options :=
  expression_congr expansion.checkLinks_eq expansion.readings_eq options

theorem command_eq (options : CommandOptions) :
    longhand.command options = pipeline.command options :=
  command_congr expansion.outcome_eq (expansion.expression_eq options.graph)
    (congrArg (List.map Source.file) expansion.sources) expansion.output

end Expansion

/-- Replacing shorthands by what they stand for, in any stages, changes neither what the pipeline
lacks and which label is mapped, nor the error of the strict check, nor the expression, nor the
command, as arguments or as a line. Nor does the text of a single stage change, whatever the
streams are, when its filter is spelled out. Replacing a single output label by the list of it
is another matter: that always changes the text. -/
theorem shorthands_are_notation {pipeline longhand : Pipeline}
    (expansion : pipeline.Expansion longhand) :
    longhand.outcome = pipeline.outcome ∧
    longhand.finalLabel? = pipeline.finalLabel? ∧
    longhand.checkLinks = pipeline.checkLinks ∧
    (∀ options, longhand.expression options = pipeline.expression options) ∧
    (∀ options quoted, longhand.arguments options quoted = pipeline.arguments options quoted) ∧
    (∀ options, longhand.commandLine options = pipeline.commandLine options) ∧
    (∀ (stage : Stage) (table : StreamTable),
      { stage with filter := stage.filter.expanded }.fragment table = stage.fragment table) ∧
    ∀ (inputs : Labels) (filter : Filter) (label : String) (table : StreamTable),
      (Stage.mk inputs filter (.many [label])).fragment table ≠
        (Stage.mk inputs filter (.one label)).fragment table := by
  refine ⟨expansion.outcome_eq, finalLabel?_congr expansion.outputs_eq, expansion.checkLinks_eq,
    expansion.expression_eq, ?_, ?_, Stage.fragment_expanded, Stage.fragment_split_ne⟩
  · intro options quoted
    rw [arguments, arguments, expansion.command_eq]
  · intro options
    rw [commandLine, commandLine, expansion.command_eq]

/-- A pipeline with a stage that takes a label of its own, and with a split before the end. -/
def terse : Pipeline where
  sources := [⟨"left", "l.mov"⟩]
  stages := [
    ⟨.one "left", .bare "overlay", .one "a"⟩,
    ⟨.one "late", .bare "negate", .many ["p", "late"]⟩,
    ⟨.one "p", .bare "hstack", .one "b"⟩,
    ⟨.one "b", .bare "hflip", .one "out"⟩]
  output := "out.avi"

/-- The same pipeline with the link of the first stage, the filter of the second, and both of the
third replaced. -/
def verbose : Pipeline where
  sources := [⟨"left", "l.mov"⟩]
  stages := [
    ⟨.many ["left"], .bare "overlay", .one "a"⟩,
    ⟨.one "late", .configured "negate" .empty, .many ["p", "late"]⟩,
    ⟨.many ["p"], .configured "hstack" .empty, .one "b"⟩,
    ⟨.one "b", .bare "hflip", .one "out"⟩]
  output := "out.avi"

theorem terse_expansion : terse.Expansion verbose := by
  refine ⟨rfl, ?_, rfl⟩
  refine .cons ⟨.listed _, .kept _, rfl⟩ (.cons ⟨.kept _, .configured _, rfl⟩ ?_)
  exact .cons ⟨.listed _, .configured _, rfl⟩ (.cons ⟨.kept _, .kept _, rfl⟩ .nil)

/-- The error of the strict check names the same stage and link, and without the check there is
the same command. -/
theorem terse_same_as_verbose :
    terse.Expansion verbose ∧
      terse.checkLinks = .error (.earlyLink 1 "late") ∧
      verbose.checkLinks = .error (.earlyLink 1 "late") ∧
      terse.finalLabel? = some "out" ∧ verbose.finalLabel? = some "out" ∧
      ∀ options quoted, verbose.arguments options quoted = terse.arguments options quoted := by
  obtain ⟨_, label, links, _, arguments, _⟩ := shorthands_are_notation terse_expansion
  have early : terse.checkLinks = .error (.earlyLink 1 "late") :=
    terse.checkLinks_eq_verdict.trans rfl
  exact ⟨terse_expansion, early, links.trans early, rfl, label.trans rfl, arguments⟩

end Pipeline

end FilterGraph
