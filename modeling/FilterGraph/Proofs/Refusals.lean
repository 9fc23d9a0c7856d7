/-
This file says for which pipelines there is no command, and which error stands in its place.

A command is looked for in two steps. The first asks for an input, for a stage and for a last
stage that does not split its output, in this order; the second writes the expression, and only
there the strict check comes in. So what a pipeline lacks is reported the same whether links are
checked or not, and the strict check can do nothing but take away a command that would have been
the same without it.
-/

import FilterGraph.Command
import FilterGraph.Proofs.LinkFaults

namespace FilterGraph

/-- The same options with links checked as said. -/
def CommandOptions.checking (options : CommandOptions) (linkCheck : LinkCheck) : CommandOptions :=
  { options with graph := { options.graph with linkCheck } }

namespace Pipeline

/-! ### What a pipeline may lack -/

/-- There is an input and a stage, and the last stage does not split its output. -/
def Complete (pipeline : Pipeline) : Prop :=
  pipeline.sources ≠ [] ∧
    ∃ stage label, pipeline.stages.getLast? = some stage ∧ stage.output = .one label

/-- What a pipeline lacks first. -/
inductive Lacks (pipeline : Pipeline) : Error → Prop where
  | input (noSource : pipeline.sources = []) : Lacks pipeline .noInputs
  | stage (source : pipeline.sources ≠ []) (noStage : pipeline.stages = []) :
      Lacks pipeline .noStages
  | singleOutput {last : Stage} {labels : List String} (source : pipeline.sources ≠ [])
      (found : pipeline.stages.getLast? = some last) (split : last.output = .many labels) :
      Lacks pipeline (.splitOutput labels)

theorem outcome_eq_error_of_lacks {pipeline : Pipeline} {error : Error}
    (lacks : pipeline.Lacks error) : pipeline.outcome = .error error := by
  rw [outcome_eq_error_iff]
  cases lacks with
  | input noSource => simp [checkComplete, noSource]
  | stage source noStage => simp [checkComplete, source, noStage]
  | singleOutput source found split => simp [checkComplete, source, found, split]

theorem exists_outcome_of_complete {pipeline : Pipeline} (complete : pipeline.Complete) :
    ∃ label, pipeline.outcome = .ok label := by
  obtain ⟨source, last, label, found, single⟩ := complete
  exact ⟨label, by simp [outcome, checkComplete, finalLabel?, source, found, single,
    Labels.single?]⟩

/-- A pipeline lacks something or is complete. -/
theorem lacks_or_complete (pipeline : Pipeline) :
    (∃ error, pipeline.Lacks error) ∨ pipeline.Complete := by
  by_cases noSource : pipeline.sources = []
  · exact Or.inl ⟨_, .input noSource⟩
  · cases found : pipeline.stages.getLast? with
    | none => exact Or.inl ⟨_, .stage noSource (List.getLast?_eq_none_iff.mp found)⟩
    | some last =>
      cases output : last.output with
      | one label => exact Or.inr ⟨noSource, last, label, found, output⟩
      | many labels => exact Or.inl ⟨_, .singleOutput noSource found output⟩

theorem not_complete_of_lacks {pipeline : Pipeline} {error : Error}
    (lacks : pipeline.Lacks error) : ¬ pipeline.Complete := by
  intro complete
  obtain ⟨label, ok⟩ := exists_outcome_of_complete complete
  rw [outcome_eq_error_of_lacks lacks] at ok
  cases ok

theorem outcome_eq_error_iff_lacks (pipeline : Pipeline) (error : Error) :
    pipeline.outcome = .error error ↔ pipeline.Lacks error := by
  refine ⟨fun failed => ?_, outcome_eq_error_of_lacks⟩
  rcases pipeline.lacks_or_complete with ⟨other, lacks⟩ | complete
  · have same := (outcome_eq_error_of_lacks lacks).symm.trans failed
    exact Except.error.inj same ▸ lacks
  · obtain ⟨label, ok⟩ := exists_outcome_of_complete complete
    rw [ok] at failed
    cases failed

theorem lacks_noInputs_iff {pipeline : Pipeline} :
    pipeline.Lacks .noInputs ↔ pipeline.sources = [] := by
  refine ⟨fun lacks => ?_, .input⟩
  cases lacks with
  | input noSource => exact noSource

theorem lacks_noStages_iff {pipeline : Pipeline} :
    pipeline.Lacks .noStages ↔ pipeline.sources ≠ [] ∧ pipeline.stages = [] := by
  refine ⟨fun lacks => ?_, fun both => .stage both.1 both.2⟩
  cases lacks with
  | stage source noStage => exact ⟨source, noStage⟩

theorem lacks_splitOutput_iff {pipeline : Pipeline} {labels : List String} :
    pipeline.Lacks (.splitOutput labels) ↔ pipeline.sources ≠ [] ∧
      ∃ stage, pipeline.stages.getLast? = some stage ∧ stage.output = .many labels := by
  constructor
  · intro lacks
    cases lacks with
    | singleOutput source found split => exact ⟨source, _, found, split⟩
  · rintro ⟨source, stage, found, split⟩
    exact .singleOutput source found split

theorem Lacks.not_isStrictOnly {pipeline : Pipeline} {error : Error}
    (lacks : pipeline.Lacks error) : error.isStrictOnly = false := by
  cases lacks <;> rfl

/-! ### What the strict check reports -/

theorem isStrictOnly_of_linkFault? {pipeline : Pipeline} {position : Nat} {link : String}
    {error : Error} (found : pipeline.linkFault? position link = some error) :
    error.isStrictOnly = true := by
  rw [linkFault?] at found
  split at found
  · cases found
  · split at found
    · cases found
      rfl
    · split at found
      · cases found
      · cases found
        rfl

/-- Only errors of the strict check come from it. -/
theorem isStrictOnly_of_checkLinks {pipeline : Pipeline} {error : Error}
    (refused : pipeline.checkLinks = .error error) : error.isStrictOnly = true := by
  rw [checkLinks_eq_error_iff_wiringFault?, wiringFault?] at refused
  split at refused
  · cases refused
    rfl
  · split at refused
    · cases refused
      rfl
    · obtain ⟨⟨stage, position⟩, _, inStage⟩ := List.exists_of_findSome?_eq_some refused
      obtain ⟨link, _, inLink⟩ := List.exists_of_findSome?_eq_some inStage
      exact isStrictOnly_of_linkFault? inLink

/-! ### The command, its error, and its independence of the check -/

/-- An error in place of a command is something the pipeline lacks, or, where it lacks nothing,
what the strict check reports. -/
theorem arguments_eq_error_iff (pipeline : Pipeline) (options : CommandOptions) (quoted : Bool)
    (error : Error) :
    pipeline.arguments options quoted = .error error ↔
      pipeline.Lacks error ∨
        pipeline.Complete ∧ options.graph.linkCheck = .strict ∧
          pipeline.checkLinks = .error error := by
  rcases pipeline.lacks_or_complete with ⟨other, lacks⟩ | complete
  · have failed := outcome_eq_error_of_lacks lacks
    rw [← outcome_eq_error_iff_lacks, failed]
    simp [arguments, command, failed, Except.map, not_complete_of_lacks lacks]
  · have lacksNothing : ¬ pipeline.Lacks error := fun lacks =>
      not_complete_of_lacks lacks complete
    obtain ⟨label, ok⟩ := exists_outcome_of_complete complete
    cases check : options.graph.linkCheck <;> cases links : pipeline.checkLinks <;>
      simp [arguments, command, ok, expression, check, links, Except.map, lacksNothing, complete]

/-- The check never reports what a pipeline lacks. -/
theorem arguments_eq_error_iff_lacks (pipeline : Pipeline) (options : CommandOptions)
    (quoted : Bool) {error : Error} (notStrict : error.isStrictOnly = false) :
    pipeline.arguments options quoted = .error error ↔ pipeline.Lacks error := by
  rw [arguments_eq_error_iff]
  refine or_iff_left ?_
  rintro ⟨_, _, refused⟩
  rw [isStrictOnly_of_checkLinks refused] at notStrict
  cases notStrict

/-- Where nothing is lacking, only the check is left to report something. -/
theorem Complete.arguments_eq_error_iff {pipeline : Pipeline} (complete : pipeline.Complete)
    (options : CommandOptions) (quoted : Bool) (error : Error) :
    pipeline.arguments options quoted = .error error ↔
      options.graph.linkCheck = .strict ∧ pipeline.checkLinks = .error error := by
  have lacksNothing : ¬ pipeline.Lacks error := fun lacks =>
    not_complete_of_lacks lacks complete
  rw [Pipeline.arguments_eq_error_iff]
  simp only [lacksNothing, complete, true_and, false_or]

/-- Where the strict check accepts the links, it changes nothing. -/
theorem arguments_strict_eq_of_checkLinks {pipeline : Pipeline}
    (accepted : pipeline.checkLinks = .ok ()) (options : CommandOptions) (quoted : Bool) :
    pipeline.arguments (options.checking .strict) quoted =
      pipeline.arguments (options.checking .lenient) quoted := by
  have expressions : pipeline.expression (options.checking .strict).graph =
      pipeline.expression (options.checking .lenient).graph := by
    simp only [CommandOptions.checking, expression, accepted]
  rw [arguments, arguments, command, command, expressions]
  rfl

/-- The command a pipeline has under the strict check is the one it has without. -/
theorem arguments_strict_eq_ok_iff (pipeline : Pipeline) (options : CommandOptions)
    (quoted : Bool) (arguments : List String) :
    pipeline.arguments (options.checking .strict) quoted = .ok arguments ↔
      pipeline.checkLinks = .ok () ∧
        pipeline.arguments (options.checking .lenient) quoted = .ok arguments := by
  cases links : pipeline.checkLinks with
  | ok _ => simp only [arguments_strict_eq_of_checkLinks links, true_and]
  | error fault =>
    refine iff_of_false (fun ok => ?_) (by simp)
    rcases pipeline.lacks_or_complete with ⟨error, lacks⟩ | complete
    · rw [(arguments_eq_error_iff _ _ _ error).mpr (Or.inl lacks)] at ok
      cases ok
    · rw [(arguments_eq_error_iff _ _ _ fault).mpr (Or.inr ⟨complete, rfl, links⟩)] at ok
      cases ok

/-- There is a command just if the pipeline lacks nothing and the links are not checked or
accepted. -/
theorem exists_arguments_iff (pipeline : Pipeline) (options : CommandOptions) (quoted : Bool) :
    (∃ arguments, pipeline.arguments options quoted = .ok arguments) ↔
      pipeline.Complete ∧
        (options.graph.linkCheck = .lenient ∨ pipeline.checkLinks = .ok ()) := by
  have errors := pipeline.arguments_eq_error_iff options quoted
  constructor
  · rintro ⟨arguments, ok⟩
    have noError : ∀ error, ¬pipeline.arguments options quoted = .error error := by
      intro error failed
      rw [ok] at failed
      cases failed
    rcases pipeline.lacks_or_complete with ⟨error, lacks⟩ | complete
    · exact absurd ((errors error).mpr (Or.inl lacks)) (noError error)
    · refine ⟨complete, ?_⟩
      cases check : options.graph.linkCheck with
      | lenient => exact Or.inl rfl
      | strict =>
        cases links : pipeline.checkLinks with
        | ok _ => exact Or.inr rfl
        | error fault =>
          exact absurd ((errors fault).mpr (Or.inr ⟨complete, check, links⟩)) (noError fault)
  · rintro ⟨complete, unchecked⟩
    cases result : pipeline.arguments options quoted with
    | ok arguments => exact ⟨arguments, rfl⟩
    | error error =>
      rcases (errors error).mp result with lacks | ⟨_, strict, refused⟩
      · exact absurd complete (not_complete_of_lacks lacks)
      · simp [strict, refused] at unchecked

/-- The errors told apart as those of the strict check are those that would not be there
without it. -/
theorem isStrictOnly_iff_of_arguments {pipeline : Pipeline} {options : CommandOptions}
    {quoted : Bool} {error : Error}
    (failed : pipeline.arguments options quoted = .error error) :
    error.isStrictOnly = true ↔ options.graph.linkCheck = .strict ∧
      ∃ arguments, pipeline.arguments (options.checking .lenient) quoted = .ok arguments := by
  have unchecked : (∃ arguments,
      pipeline.arguments (options.checking .lenient) quoted = .ok arguments) ↔
      pipeline.Complete :=
    (pipeline.exists_arguments_iff _ quoted).trans (and_iff_left (Or.inl rfl))
  rw [unchecked]
  rcases (pipeline.arguments_eq_error_iff options quoted error).mp failed with
    lacks | ⟨complete, strict, refused⟩
  · simp only [lacks.not_isStrictOnly, not_complete_of_lacks lacks, and_false, reduceCtorEq]
  · simp only [isStrictOnly_of_checkLinks refused, strict, complete, and_true]

/-- Which error stands in the place of a command, and what the strict check changes. Missing
inputs come before missing stages, and these before a split at the end; where nothing is missing,
the only errors are those of the strict check. It takes commands away without changing them, and
the errors that are told apart as its own are those that would not be there without it. -/
theorem arguments_refused_in_order (pipeline : Pipeline) (options : CommandOptions)
    (quoted : Bool) :
    (pipeline.arguments options quoted = .error .noInputs ↔ pipeline.sources = []) ∧
    (pipeline.arguments options quoted = .error .noStages ↔
      pipeline.sources ≠ [] ∧ pipeline.stages = []) ∧
    (∀ labels, pipeline.arguments options quoted = .error (.splitOutput labels) ↔
      pipeline.sources ≠ [] ∧
        ∃ stage, pipeline.stages.getLast? = some stage ∧ stage.output = .many labels) ∧
    (pipeline.Complete → ∀ error, pipeline.arguments options quoted = .error error ↔
      options.graph.linkCheck = .strict ∧ pipeline.checkLinks = .error error) ∧
    ((∃ arguments, pipeline.arguments options quoted = .ok arguments) ↔ pipeline.Complete ∧
      (options.graph.linkCheck = .lenient ∨ pipeline.checkLinks = .ok ())) ∧
    (∀ arguments, pipeline.arguments (options.checking .strict) quoted = .ok arguments ↔
      pipeline.checkLinks = .ok () ∧
        pipeline.arguments (options.checking .lenient) quoted = .ok arguments) ∧
    (∀ error, pipeline.arguments options quoted = .error error →
      (error.isStrictOnly = true ↔ options.graph.linkCheck = .strict ∧
        ∃ arguments, pipeline.arguments (options.checking .lenient) quoted = .ok arguments)) ∧
    ∀ layout, pipeline.expression { linkCheck := .lenient, layout } =
      .ok (pipeline.graph layout) := by
  have structural {error : Error} (notStrict : error.isStrictOnly = false) :=
    pipeline.arguments_eq_error_iff_lacks options quoted notStrict
  refine ⟨?_, ?_, ?_, ?_, pipeline.exists_arguments_iff options quoted,
    pipeline.arguments_strict_eq_ok_iff options quoted, ?_, fun _ => rfl⟩
  · rw [structural rfl, lacks_noInputs_iff]
  · rw [structural rfl, lacks_noStages_iff]
  · intro labels
    rw [structural rfl, lacks_splitOutput_iff]
  · exact fun complete error => complete.arguments_eq_error_iff options quoted error
  · exact fun error failed => isStrictOnly_iff_of_arguments failed

end Pipeline

end FilterGraph
