/-
This file says what a description is read as, in terms of the value that it is the text of.

The fields of inputs, stages and pipelines are slots, and each kind of value has a meaning for its
slot. The values of a stage's fields are read whole before they are looked at, so only they can
nest too deep. Whether a description is written on one line or on several makes no difference.
-/

import FilterGraph.Pipeline.Format
import FilterGraph.Proofs.Json.Drafts

namespace FilterGraph

open Json

/-! ### Identifiers and filters -/

/-- The identifiers that a value is, if it is some. -/
def Labels.fitting (value : Value) : Except Cause Labels :=
  match ofValue? value with
  | some labels => .ok labels
  | none => .error (.noVariant "Links")

/-- The filter that a value is, if it is one. -/
def Filter.fitting (value : Value) : Except Cause Filter :=
  match ofValue? value with
  | some filter => .ok filter
  | none => .error (.noVariant "FilterSpec")

theorem Labels.textOf?_eq_some_iff {value : Value} {content : String} :
    textOf? value = some content ↔ value = .text content := by
  unfold textOf?
  split
  · simp [Value.text]
  · next noText =>
    exact ⟨fun found => (by cases found), fun same => absurd same (noText content)⟩

theorem Labels.mapM_textOf?_eq_some_iff {items : List Value} {labels : List String} :
    items.mapM textOf? = some labels ↔ items = labels.map Value.text := by
  induction items generalizing labels with
  | nil => cases labels <;> simp
  | cons item others inductionHypothesis =>
    cases labels with
    | nil => simp [List.mapM_cons, Option.bind_eq_some_iff]
    | cons label labels =>
      simp [List.mapM_cons, Option.bind_eq_some_iff, textOf?_eq_some_iff, inductionHypothesis]

theorem Labels.fitting_eq_ok_iff_ofValue? {value : Value} {labels : Labels} :
    fitting value = .ok labels ↔ ofValue? value = some labels := by
  unfold fitting
  cases ofValue? value <;> simp

theorem Filter.fitting_eq_ok_iff_ofValue? {value : Value} {filter : Filter} :
    fitting value = .ok filter ↔ ofValue? value = some filter := by
  unfold fitting
  cases ofValue? value <;> simp

theorem bind_map_eq {ε α β γ : Type} (read : Except ε α) (f : α → β) (next : β → Except ε γ) :
    (read.map f >>= next) = read >>= fun value => next (f value) := by
  cases read <;> rfl

/-- A filter that is the whole text is read as the filter that its value is. -/
theorem Filter.parse_eq_fitting {value : Value} (exact : value.Exact) {text : String}
    (written : text ∈ [value.compact, value.pretty]) :
    (parse text).mapError Problem.cause = value.within depthLimit >>= fitting := by
  obtain ⟨spacing, rfl⟩ := Spacing.exists_eq_of_mem written
  have understands : (reader depthLimit).Understands fun value =>
      (value.within depthLimit).map fitting := (readValue_understands depthLimit).map fitting
  rw [parse, understands.readAllFitting spacing exact, bind_map_eq]
  rfl

/-! ### Inputs -/

namespace Source

/-- The fields of an input. -/
def slots : shape.Slots where
  all := [
    .sure "id" readText_understands Draft.id (fun id draft => { draft with id := some id })
      Source.id fun _ _ => rfl,
    .sure "file" readText_understands Draft.file
      (fun file draft => { draft with file := some file }) Source.file fun _ _ => rfl]
  fields_eq := rfl
  named_apart := by decide
  empty := List.forall_mem_cons.mpr ⟨rfl, List.forall_mem_singleton.mpr rfl⟩
  get_set_of_ne := by
    intro slot here other there differs content draft
    simp only [List.mem_cons, List.not_mem_nil, or_false] at here there
    rcases here with rfl | rfl <;> rcases there with rfl | rfl <;>
      first | rfl | exact absurd rfl differs

theorem slots_required : slots.Required := by
  intro draft source
  have parts : (∀ slot ∈ slots.all, slot.get draft = some (slot.part source)) ↔
      draft.id = some source.id ∧ draft.file = some source.file :=
    List.forall_mem_cons.trans (and_congr_right fun _ => List.forall_mem_singleton)
  rw [parts]
  obtain ⟨id, file⟩ := draft
  obtain ⟨id', file'⟩ := source
  cases id <;> cases file <;> simp [shape, Draft.finish]

/-- The input that a value is. -/
def meaning : Value → Except Cause Source :=
  slots.ofValue

theorem reader_understands : shape.reader.Understands meaning :=
  slots.reader_understands

end Source

/-! ### Stages -/

namespace Stage

/-- The fields of a stage, whose values may nest as deep as the budget says. -/
def slots (budget : Nat) : (shape budget).Slots where
  all := [
    .fitting "in" (readValue_understands budget) Labels.fitting Draft.inputs
      (fun inputs draft => { draft with inputs := some inputs }) Stage.inputs fun _ _ => rfl,
    .fitting "filter" (readValue_understands budget) Filter.fitting Draft.filter
      (fun filter draft => { draft with filter := some filter }) Stage.filter fun _ _ => rfl,
    .fitting "out" (readValue_understands budget) Labels.fitting Draft.output
      (fun output draft => { draft with output := some output }) Stage.output fun _ _ => rfl]
  fields_eq := rfl
  named_apart := by
    show ["in", "filter", "out"].Nodup
    decide
  empty := List.forall_mem_cons.mpr
    ⟨rfl, List.forall_mem_cons.mpr ⟨rfl, List.forall_mem_singleton.mpr rfl⟩⟩
  get_set_of_ne := by
    intro slot here other there differs content draft
    simp only [List.mem_cons, List.not_mem_nil, or_false] at here there
    rcases here with rfl | rfl | rfl <;> rcases there with rfl | rfl | rfl <;>
      first | rfl | exact absurd rfl differs

theorem slots_required (budget : Nat) : (slots budget).Required := by
  intro draft stage
  have parts : (∀ slot ∈ (slots budget).all, slot.get draft = some (slot.part stage)) ↔
      draft.inputs = some stage.inputs ∧ draft.filter = some stage.filter ∧
        draft.output = some stage.output :=
    List.forall_mem_cons.trans (and_congr_right fun _ =>
      List.forall_mem_cons.trans (and_congr_right fun _ => List.forall_mem_singleton))
  rw [parts]
  obtain ⟨inputs, filter, output⟩ := draft
  obtain ⟨inputs', filter', output'⟩ := stage
  cases inputs <;> cases filter <;> cases output <;> simp [shape, Draft.finish]

/-- The stage that a value is, if the values of its fields do not nest deeper than the budget
says. -/
def meaning (budget : Nat) : Value → Except Cause Stage :=
  (slots budget).ofValue

theorem reader_understands (budget : Nat) :
    (shape budget).reader.Understands (meaning budget) :=
  (slots budget).reader_understands

/-- An object of all fields in their order means what its members mean. -/
theorem meaning_object (budget : Nat) (inputs filter output : Value) :
    meaning budget (.object [("in", inputs), ("filter", filter), ("out", output)]) = do
      let inputs ← inputs.within budget >>= Labels.fitting
      let filter ← filter.within budget >>= Filter.fitting
      let output ← output.within budget >>= Labels.fitting
      return ⟨inputs, filter, output⟩ := by
  have first : (slots budget).take (shape budget).start ("in", inputs) =
      (inputs.within budget >>= Labels.fitting).map fun inputs => { inputs := some inputs } := rfl
  have second (inputs : Labels) :
      (slots budget).take { inputs := some inputs } ("filter", filter) =
        (filter.within budget >>= Filter.fitting).map fun filter =>
          { inputs := some inputs, filter := some filter } := rfl
  have third (inputs : Labels) (filter : Filter) :
      (slots budget).take { inputs := some inputs, filter := some filter } ("out", output) =
        (output.within budget >>= Labels.fitting).map fun output =>
          { inputs := some inputs, filter := some filter, output := some output } := rfl
  simp only [meaning, Shape.Slots.ofValue, List.foldlM_cons, List.foldlM_nil, first, second, third,
    bind_map_eq, bind_assoc, pure_bind]
  rfl

end Stage

/-! ### Pipelines -/

namespace Pipeline

/-- The fields of a pipeline. -/
def slots : shape.Slots where
  all := [
    .sure "in" (readList_understands Source.reader_understands) Draft.sources
      (fun sources draft => { draft with sources := some sources }) Pipeline.sources
      fun _ _ => rfl,
    .sure "filters" (readList_understands (Stage.reader_understands (depthLimit - 3)))
      Draft.stages (fun stages draft => { draft with stages := some stages }) Pipeline.stages
      fun _ _ => rfl,
    .sure "out" readText_understands Draft.output
      (fun output draft => { draft with output := some output }) Pipeline.output fun _ _ => rfl]
  fields_eq := rfl
  named_apart := by decide
  empty := List.forall_mem_cons.mpr
    ⟨rfl, List.forall_mem_cons.mpr ⟨rfl, List.forall_mem_singleton.mpr rfl⟩⟩
  get_set_of_ne := by
    intro slot here other there differs content draft
    simp only [List.mem_cons, List.not_mem_nil, or_false] at here there
    rcases here with rfl | rfl | rfl <;> rcases there with rfl | rfl | rfl <;>
      first | rfl | exact absurd rfl differs

theorem slots_required : slots.Required := by
  intro draft pipeline
  have parts : (∀ slot ∈ slots.all, slot.get draft = some (slot.part pipeline)) ↔
      draft.sources = some pipeline.sources ∧ draft.stages = some pipeline.stages ∧
        draft.output = some pipeline.output :=
    List.forall_mem_cons.trans (and_congr_right fun _ =>
      List.forall_mem_cons.trans (and_congr_right fun _ => List.forall_mem_singleton))
  rw [parts]
  obtain ⟨sources, stages, output⟩ := draft
  obtain ⟨sources', stages', output'⟩ := pipeline
  cases sources <;> cases stages <;> cases output <;> simp [shape, Draft.finish]

/-- The pipeline that a value is. -/
def meaning : Value → Except Cause Pipeline :=
  slots.ofValue

theorem reader_understands : shape.reader.Understands meaning :=
  slots.reader_understands

/-- An object of all fields in their order means what its members mean. -/
theorem meaning_object (sources stages output : Value) :
    meaning (.object [("in", sources), ("filters", stages), ("out", output)]) = do
      let sources ← sources.asList Source.meaning
      let stages ← stages.asList (Stage.meaning (depthLimit - 3))
      let output ← output.asText
      return ⟨sources, stages, output⟩ := by
  have first : slots.take shape.start ("in", sources) =
      (sources.asList Source.meaning).map fun sources => { sources := some sources } := rfl
  have second (sources : List Source) :
      slots.take { sources := some sources } ("filters", stages) =
        (stages.asList (Stage.meaning (depthLimit - 3))).map fun stages =>
          { sources := some sources, stages := some stages } := rfl
  have third (sources : List Source) (stages : List Stage) :
      slots.take { sources := some sources, stages := some stages } ("out", output) =
        output.asText.map fun output =>
          { sources := some sources, stages := some stages, output := some output } := rfl
  simp only [meaning, Shape.Slots.ofValue, List.foldlM_cons, List.foldlM_nil, first, second, third,
    bind_map_eq, bind_assoc, pure_bind]
  rfl

/-! ### Whole descriptions -/

/-- The text of a value is read as the pipeline that the value is. -/
theorem parse_of_meaning {value : Value} (exact : value.Exact) {pipeline : Pipeline}
    (meant : meaning value = .ok pipeline) {text : String}
    (written : text ∈ [value.compact, value.pretty]) : parse text = .ok pipeline := by
  obtain ⟨spacing, rfl⟩ := Spacing.exists_eq_of_mem written
  have answer := reader_understands.readAll spacing exact
  rw [meant] at answer
  rw [parse]
  cases read : shape.reader.readAll (String.ofList (spacing.write 0 value)) with
  | error problem =>
    rw [read] at answer
    cases answer
  | ok other =>
    rw [read] at answer
    obtain rfl := Except.ok.inj answer
    rfl

/-- The text of a value that is no pipeline is refused as malformed. -/
theorem parse_of_refused {value : Value} (exact : value.Exact) {cause : Cause}
    (refused : meaning value = .error cause) {text : String}
    (written : text ∈ [value.compact, value.pretty]) :
    ∃ problem, parse text = .error (.malformed problem) ∧ problem.cause = cause := by
  obtain ⟨spacing, rfl⟩ := Spacing.exists_eq_of_mem written
  have answer := reader_understands.readAll spacing exact
  rw [refused] at answer
  rw [parse]
  cases read : shape.reader.readAll (String.ofList (spacing.write 0 value)) with
  | error problem =>
    rw [read] at answer
    exact ⟨problem, rfl, Except.error.inj answer⟩
  | ok other =>
    rw [read] at answer
    cases answer

end Pipeline

end FilterGraph
