/-
This file shows which descriptions are accepted, and what they say.

The schema says which values describe a pipeline, part by part, and knows nothing of texts and
readers. Pipelines, inputs and stages are records; identifiers and filters have two forms each. A
description is accepted just if its value fits the schema, and what is read is the pipeline that
it describes; every other description is refused as malformed.
-/

import FilterGraph.Proofs.Descriptions
import FilterGraph.Proofs.Parameters

namespace FilterGraph

open Json

/-! ### The schema -/

/-- A text is one identifier, and a list of texts are several. -/
inductive Labels.Fits : Value → Labels → Prop where
  | one (label : String) : Fits (.text label) (.one label)
  | many (labels : List String) : Fits (.list (labels.map Value.text)) (.many labels)

/-- A text is a bare name. An object has a text as its name and, if there are parameters, an object
that holds them in their order, each of them any value. -/
inductive Filter.Fits : Value → Filter → Prop where
  | bare (name : String) : Fits (.text name) (.bare name)
  | named {members : List (String × Value)} {name : String}
      (named : ("name", .text name) ∈ members) (plain : ∀ given, ("params", given) ∉ members) :
      Fits (.object members) (.configured name .empty)
  | configured {members given : List (String × Value)} {name : String} {parameters : Parameters}
      (named : ("name", .text name) ∈ members) (configured : ("params", .object given) ∈ members)
      (entries : parameters.entries =
        given.map fun member => (member.1, Parameter.ofValue member.2)) :
      Fits (.object members) (.configured name parameters)

/-- An input is a record of two texts. -/
def Source.Fits (value : Value) (source : Source) : Prop :=
  value.IsRecord [("id", (· = .text source.id)), ("file", (· = .text source.file))]

/-- A stage is a record of identifiers, a filter, and identifiers. -/
def Stage.Fits (value : Value) (stage : Stage) : Prop :=
  value.IsRecord [
    ("in", (Labels.Fits · stage.inputs)),
    ("filter", (Filter.Fits · stage.filter)),
    ("out", (Labels.Fits · stage.output))]

/-- A pipeline is a record of a list of inputs, a list of stages, and a text. -/
def Pipeline.Fits (value : Value) (pipeline : Pipeline) : Prop :=
  value.IsRecord [
    ("in", (·.IsListOf Source.Fits pipeline.sources)),
    ("filters", (·.IsListOf Stage.Fits pipeline.stages)),
    ("out", (· = .text pipeline.output))]

/-! ### Identifiers -/

/-- A value is read as the identifiers that it is. -/
theorem Labels.fitting_eq_ok_iff {value : Value} {labels : Labels} :
    fitting value = .ok labels ↔ Fits value labels := by
  rw [fitting_eq_ok_iff_ofValue?]
  constructor
  · intro found
    unfold ofValue? at found
    split at found
    · cases found
      exact .one _
    · obtain ⟨texts, all, rfl⟩ := Option.map_eq_some_iff.mp found
      obtain rfl := mapM_textOf?_eq_some_iff.mp all
      exact .many texts
    · cases found
  · rintro (label | labels)
    · rfl
    · rw [ofValue?, mapM_textOf?_eq_some_iff.mpr rfl]
      rfl

/-! ### Filters -/

namespace Filter

theorem valuesOf_cons (key : String) (member : String × Value)
    (others : List (String × Value)) :
    valuesOf key (member :: others) =
      if member.1 = key then member.2 :: valuesOf key others else valuesOf key others := by
  rw [valuesOf, List.filterMap_cons]
  split <;> simp_all [valuesOf]

theorem valuesOf_eq_nil_iff {key : String} {members : List (String × Value)} :
    valuesOf key members = [] ↔ ∀ given, (key, given) ∉ members := by
  induction members with
  | nil => simp [valuesOf]
  | cons member others inductionHypothesis =>
    obtain ⟨other, value⟩ := member
    rw [valuesOf_cons]
    by_cases same : other = key
    · subst same
      rw [if_pos rfl]
      exact ⟨fun none => (by cases none), fun absent => absurd List.mem_cons_self (absent value)⟩
    · have differs : key ≠ other := fun equal => same equal.symm
      rw [if_neg same, inductionHypothesis]
      simp [differs]

/-- Of members with distinct keys, one at most has the key. -/
theorem valuesOf_eq_singleton_iff {key : String} {members : List (String × Value)}
    (distinct : (members.map Prod.fst).Nodup) {given : Value} :
    valuesOf key members = [given] ↔ (key, given) ∈ members := by
  induction members with
  | nil => simp [valuesOf]
  | cons member others inductionHypothesis =>
    obtain ⟨other, value⟩ := member
    rw [valuesOf_cons]
    by_cases same : other = key
    · subst same
      have last := Value.notMem_of_distinct distinct
      rw [if_pos rfl, valuesOf_eq_nil_iff.mpr last, List.mem_cons]
      simp [last given, eq_comm]
    · have differs : key ≠ other := fun equal => same equal.symm
      rw [if_neg same, inductionHypothesis (List.nodup_cons.mp distinct).2]
      simp [differs]

/-- A value whose objects have distinct keys is read as the filter that it is. -/
theorem fitting_eq_ok_iff {value : Value} (distinct : value.Distinct) {filter : Filter} :
    fitting value = .ok filter ↔ Fits value filter := by
  rw [fitting_eq_ok_iff_ofValue?]
  constructor
  · intro found
    unfold ofValue? at found
    split at found
    · cases found
      exact .bare _
    · next members =>
      have keys := distinct members .here
      split at found
      · next named plain =>
        cases found
        exact .named ((valuesOf_eq_singleton_iff keys).mp named) (valuesOf_eq_nil_iff.mp plain)
      · next given named configured =>
        cases found
        have here := (valuesOf_eq_singleton_iff keys).mp configured
        exact .configured ((valuesOf_eq_singleton_iff keys).mp named) here
          (Parameters.entries_ofMembers (distinct given (.member here .here)))
      · cases found
    · cases found
  · intro fits
    cases fits with
    | bare name => rfl
    | named named plain =>
      have keys := distinct _ .here
      rw [ofValue?, (valuesOf_eq_singleton_iff keys).mpr named, valuesOf_eq_nil_iff.mpr plain]
      rfl
    | configured named configured entries =>
      have keys := distinct _ .here
      have same := Parameters.entries_ofMembers (distinct _ (.member configured .here))
      rw [ofValue?, (valuesOf_eq_singleton_iff keys).mpr named,
        (valuesOf_eq_singleton_iff keys).mpr configured]
      exact congrArg (fun given => some (Filter.configured _ given))
        (Parameters.ext (same.trans entries.symm))

end Filter

/-! ### Records -/

theorem Json.Value.asText_eq_ok_iff {value : Value} {content : String} :
    value.asText = .ok content ↔ value = .text content := by
  unfold asText
  split
  · simp [text]
  · next noText =>
    exact ⟨fun ok => (by cases ok), fun same => absurd same (noText content)⟩

/-- A list means the contents that its items mean one by one. -/
theorem Json.mapM_eq_ok_iff {α : Type} {meaning : Value → Except Cause α} {items : List Value}
    {contents : List α} :
    items.mapM meaning = .ok contents ↔
      List.Forall₂ (fun item content => meaning item = .ok content) items contents := by
  induction items generalizing contents with
  | nil => cases contents <;> simp [pure, Except.pure]
  | cons item others inductionHypothesis =>
    rw [List.mapM_cons]
    constructor
    · intro ok
      obtain ⟨content, meant, ok⟩ := bind_eq_ok_iff.mp ok
      obtain ⟨rest, all, ok⟩ := bind_eq_ok_iff.mp ok
      obtain rfl := Except.ok.inj ok
      exact .cons meant (inductionHypothesis.mp all)
    · intro each
      cases each with
      | cons first later =>
        rw [first, inductionHypothesis.mpr later]
        rfl

theorem Json.Value.asList_eq_ok_iff {α : Type} {meaning : Value → Except Cause α} {value : Value}
    {contents : List α} :
    value.asList meaning = .ok contents ↔
      value.IsListOf (fun item content => meaning item = .ok content) contents := by
  unfold asList
  split
  · next items =>
    rw [mapM_eq_ok_iff]
    refine ⟨fun each => ⟨items, rfl, each⟩, ?_⟩
    rintro ⟨_, same, each⟩
    exact Value.list.inj same ▸ each
  · next noList =>
    refine ⟨fun ok => (by cases ok), ?_⟩
    rintro ⟨items, same, _⟩
    exact absurd same (noList items)

/-- A value is read as the input that it is. -/
theorem Source.meaning_eq_ok_iff {budget : Nat} {value : Value} (regular : value.Regular budget)
    {source : Source} : meaning value = .ok source ↔ Fits value source := by
  rw [meaning, slots.ofValue_eq_ok_iff slots_required regular.keys]
  refine Value.isRecord_congr (fun _ hasPart => hasPart) ?_
  exact .cons ⟨rfl, fun _ _ => Value.asText_eq_ok_iff⟩
    (.cons ⟨rfl, fun _ _ => Value.asText_eq_ok_iff⟩ .nil)

theorem Json.Value.within_of_regular {budget : Nat} {value : Value}
    (regular : value.Regular budget) : value.within budget = .ok value :=
  if_pos regular.depth_le

/-- A value is read as the stage that it is. -/
theorem Stage.meaning_eq_ok_iff {budget : Nat} {value : Value}
    (regular : value.Regular (budget + 1)) {stage : Stage} :
    meaning budget value = .ok stage ↔ Fits value stage := by
  have labels (part : Value) (good : part.Regular budget) (labels : Labels) :
      (part.within budget >>= Labels.fitting) = .ok labels ↔ Labels.Fits part labels := by
    rw [Value.within_of_regular good]
    exact Labels.fitting_eq_ok_iff
  have filter (part : Value) (good : part.Regular budget) :
      (part.within budget >>= Filter.fitting) = .ok stage.filter ↔
        Filter.Fits part stage.filter := by
    rw [Value.within_of_regular good]
    exact Filter.fitting_eq_ok_iff good.distinct
  rw [meaning, (slots budget).ofValue_eq_ok_iff (slots_required budget) regular.keys]
  refine Value.isRecord_congr regular.part ?_
  exact .cons ⟨rfl, fun part good => labels part good stage.inputs⟩
    (.cons ⟨rfl, filter⟩ (.cons ⟨rfl, fun part good => labels part good stage.output⟩ .nil))

/-- A value that nests no deeper than the limit is read as the pipeline that it is. -/
theorem Pipeline.meaning_eq_ok_iff {value : Value} (regular : value.Regular depthLimit)
    {pipeline : Pipeline} : meaning value = .ok pipeline ↔ Fits value pipeline := by
  have sources (part : Value) (good : part.Regular (depthLimit - 1)) :
      part.asList Source.meaning = .ok pipeline.sources ↔
        part.IsListOf Source.Fits pipeline.sources := by
    rw [Value.asList_eq_ok_iff]
    exact Value.isListOf_congr good.part (fun _ good _ => Source.meaning_eq_ok_iff good) _
  have stages (part : Value) (good : part.Regular (depthLimit - 1)) :
      part.asList (Stage.meaning (depthLimit - 3)) = .ok pipeline.stages ↔
        part.IsListOf Stage.Fits pipeline.stages := by
    rw [Value.asList_eq_ok_iff]
    exact Value.isListOf_congr good.part (fun _ good _ => Stage.meaning_eq_ok_iff good) _
  rw [meaning, slots.ofValue_eq_ok_iff slots_required regular.keys]
  refine Value.isRecord_congr regular.part ?_
  exact .cons ⟨rfl, sources⟩
    (.cons ⟨rfl, stages⟩ (.cons ⟨rfl, fun _ _ => Value.asText_eq_ok_iff⟩ .nil))

/-! ### Accepted descriptions -/

namespace Pipeline

/-- Whether a value is written on one line or on several, its text is accepted just if the value
fits the schema; then the pipeline that it describes is read, and otherwise the text is refused as
malformed. -/
theorem parse_accepts_iff_fits {value : Value} (exact : value.Exact) (distinct : value.Distinct)
    (shallow : value.depth ≤ 127) {text : String} (written : text ∈ [value.compact, value.pretty]) :
    (∀ pipeline, parse text = .ok pipeline ↔ Fits value pipeline) ∧
      ((¬∃ pipeline, Fits value pipeline) →
        ∃ problem, parse text = .error (.malformed problem)) := by
  have fits (pipeline : Pipeline) : meaning value = .ok pipeline ↔ Fits value pipeline :=
    meaning_eq_ok_iff ⟨distinct, shallow⟩
  cases meant : meaning value with
  | error cause =>
    obtain ⟨problem, refused, _⟩ := parse_of_refused exact meant written
    refine ⟨fun pipeline => ?_, fun _ => ⟨problem, refused⟩⟩
    rw [← fits, meant, refused]
    exact ⟨fun ok => (by cases ok), fun ok => (by cases ok)⟩
  | ok described =>
    have accepted := parse_of_meaning exact meant written
    refine ⟨fun pipeline => ?_, fun none => absurd ⟨described, (fits described).mp meant⟩ none⟩
    rw [← fits, meant, accepted, Except.ok.injEq, Except.ok.injEq]

/-- The members of a description in another order and among others, with lists in the place of
some objects. The path of the output stands under the key. -/
def unusual (key : String) : Value :=
  .object [
    (key, .text "b.avi"),
    ("filters", .list [
      .list [
        .text "0",
        .object [
          ("params", .object [
            ("y", .scalar .null),
            ("x", .object [("b", .list []), ("a", .scalar (.bool true))])]),
          ("name", .text "overlay")],
        .list [.text "out"]]]),
    ("in", .list [
      .list [.text "0", .text "a.mov"],
      .object [("file", .text "b.mov"), ("note", .list [.scalar .null]), ("id", .text "1")]])]

/-- The pipeline that is described. -/
def overlaying : Pipeline where
  sources := [⟨"0", "a.mov"⟩, ⟨"1", "b.mov"⟩]
  stages := [⟨.one "0",
    .configured "overlay"
      ⟨[("y", .ofScalar .null),
        ("x", .ofValue (.object [("b", .list []), ("a", .scalar (.bool true))]))], by decide⟩,
    .many ["out"]⟩]
  output := "b.avi"

theorem exact_unusual (key : String) : (unusual key).Exact := by
  simp [unusual, Value.text, Value.exact_object_iff, Value.exact_list_iff, Value.exact_scalar_iff,
    Scalar.Exact]

theorem distinct_unusual {key : String} (other : key ∉ ["filters", "in"]) :
    (unusual key).Distinct := by
  simp only [List.mem_cons, List.not_mem_nil, or_false, not_or] at other
  simp [unusual, Value.text, Value.distinct_object_iff, Value.distinct_list_iff,
    Value.distinct_scalar, other]

theorem unusual_fits : Fits (unusual "out") overlaying := by
  refine .object (List.forall_mem_cons.mpr ⟨⟨_, .tail _ (.tail _ (.head _)), ?_⟩,
    List.forall_mem_cons.mpr ⟨⟨_, .tail _ (.head _), ?_⟩,
      List.forall_mem_singleton.mpr ⟨_, .head _, rfl⟩⟩⟩)
  · refine ⟨_, rfl, .cons (.list (.cons rfl (.cons rfl .nil))) (.cons (.object ?_) .nil)⟩
    exact List.forall_mem_cons.mpr ⟨⟨_, .tail _ (.tail _ (.head _)), rfl⟩,
      List.forall_mem_singleton.mpr ⟨_, .head _, rfl⟩⟩
  · refine ⟨_, rfl, .cons (.list (.cons (.one "0") (.cons ?_ (.cons (.many ["out"]) .nil)))) .nil⟩
    exact .configured (.tail _ (.head _)) (.head _) rfl

theorem not_fits_unusual (pipeline : Pipeline) : ¬Fits (unusual "path") pipeline := by
  intro fits
  obtain ⟨part, here, _⟩ := Value.isRecord_object_iff.mp fits ("out", (· = .text pipeline.output))
    (.tail _ (.tail _ (.head _)))
  simp at here

/-- What is described in an unusual way is read all the same, but nothing may be missing. -/
theorem parse_accepts_overlaying :
    ((unusual "out").Exact ∧ (unusual "out").Distinct ∧ (unusual "out").depth ≤ 127 ∧
        parse (unusual "out").pretty = .ok overlaying) ∧
      (unusual "path").Exact ∧ (unusual "path").Distinct ∧ (unusual "path").depth ≤ 127 ∧
        ∃ problem, parse (unusual "path").compact = .error (.malformed problem) := by
  have shallow (key : String) : (unusual key).depth ≤ 127 := by
    show 7 ≤ 127
    decide
  refine ⟨⟨exact_unusual "out", distinct_unusual (by decide), shallow "out", ?_⟩,
    exact_unusual "path", distinct_unusual (by decide), shallow "path", ?_⟩
  · exact ((parse_accepts_iff_fits (exact_unusual "out") (distinct_unusual (by decide))
      (shallow "out") (.tail _ (.head _))).1 overlaying).mpr unusual_fits
  · exact (parse_accepts_iff_fits (exact_unusual "path") (distinct_unusual (by decide))
      (shallow "path") (.head _)).2 (not_exists.mpr not_fits_unusual)

end Pipeline

end FilterGraph
