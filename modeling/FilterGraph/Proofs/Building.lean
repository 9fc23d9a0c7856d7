/-
This file says what one more step of building does to a pipeline: what was written before stays as
it was.

A stage that is added at the end gets its text behind the others, and the strict check has nothing
to look at again but the new stage: whatever the stages before it take was provided before them,
and the new stage stands behind them all. A declaration that is added gets the number behind those
of the others, so it changes the text only where its identifier was looked up before and not found.
-/

import FilterGraph.Proofs.Routes
import FilterGraph.Proofs.Streams
import FilterGraph.Proofs.Views

namespace FilterGraph

/-- What holds of the items of a list at their places holds with one more item at the end if it
holds of that one, too. -/
theorem forall_getElem?_concat_iff {Item : Type} {items : List Item} {last : Item}
    {holds : Nat → Item → Prop} :
    (∀ place item, (items ++ [last])[place]? = some item → holds place item) ↔
      (∀ place item, items[place]? = some item → holds place item) ∧
        holds items.length last := by
  constructor
  · intro all
    refine ⟨fun place item found => all place item ?_, all _ _ List.getElem?_concat_length⟩
    rwa [List.getElem?_append_left (List.getElem?_eq_some_iff.mp found).1]
  · rintro ⟨all, atEnd⟩ place item found
    rcases Nat.lt_trichotomy place items.length with before | rfl | behind
    · rw [List.getElem?_append_left before] at found
      exact all place item found
    · rw [List.getElem?_concat_length] at found
      exact Option.some.inj found ▸ atEnd
    · have bound := (List.getElem?_eq_some_iff.mp found).1
      rw [List.length_append, List.length_singleton] at bound
      omega

namespace Pipeline

variable {pipeline : Pipeline} {stage : Stage}

/-! ### One more stage -/

theorem fragments_push (pipeline : Pipeline) (stage : Stage) :
    (pipeline.push stage).fragments = pipeline.fragments ++ [stage.fragment pipeline.table] := by
  rw [fragments, fragments, push, List.map_append]
  rfl

theorem labels_push (pipeline : Pipeline) (stage : Stage) :
    (pipeline.push stage).labels = pipeline.labels ++ stage.output.toList := by
  rw [labels, labels, push, List.flatMap_append, List.flatMap_singleton]

/-- The text of the stage comes behind a separator, unless it is the only one. -/
theorem graph_push (pipeline : Pipeline) (stage : Stage) (layout : Layout) :
    (pipeline.push stage).graph layout =
      if pipeline.stages.isEmpty then stage.fragment pipeline.table
      else pipeline.graph layout ++ layout.separator ++ stage.fragment pipeline.table := by
  rw [graph, graph, fragments_push]
  split
  · next none =>
    rw [fragments, List.isEmpty_iff.mp none, List.map_nil, List.nil_append,
      String.intercalate_singleton]
  · next some =>
    have nonempty : pipeline.fragments ≠ [] := by
      rw [fragments, ne_eq, List.map_eq_nil_iff, ← List.isEmpty_iff]
      exact some
    rw [String.intercalate_append_of_ne_nil nonempty (List.cons_ne_nil _ _),
      String.intercalate_singleton]

theorem exists_graph_push_eq_append (pipeline : Pipeline) (stage : Stage) (layout : Layout) :
    ∃ added, (pipeline.push stage).graph layout = pipeline.graph layout ++ added := by
  rw [graph_push]
  split
  · next none =>
    refine ⟨stage.fragment pipeline.table, ?_⟩
    rw [graph, fragments, List.isEmpty_iff.mp none]
    exact String.empty_append.symm
  · exact ⟨layout.separator ++ stage.fragment pipeline.table, String.append_assoc⟩

/-- The pipeline has room for the stage at its end: the labels are distinct and stand for nothing
yet, and what the stage takes stands for something. -/
structure Admits (pipeline : Pipeline) (stage : Stage) : Prop where
  distinct : stage.output.toList.Nodup
  fresh : ∀ label ∈ stage.output.toList, label ∉ pipeline.ids ∧ label ∉ pipeline.labels
  known : ∀ link ∈ stage.inputs.toList, link ∈ pipeline.ids ∨ link ∈ pipeline.labels

/-- At the end, all labels are known. -/
theorem knownBefore_length_iff {link : String} :
    pipeline.KnownBefore pipeline.stages.length link ↔ pipeline.Knows link := by
  refine or_congr_right ?_
  rw [mem_labels_iff]
  refine exists_congr fun position => and_iff_right_of_imp ?_
  rintro ⟨_, found, _⟩
  exact (List.getElem?_eq_some_iff.mp found).1

/-- A stage at the end provides nothing to those before it, or to itself. -/
theorem knownBefore_push_iff {position : Nat} {link : String}
    (bound : position ≤ pipeline.stages.length) :
    (pipeline.push stage).KnownBefore position link ↔ pipeline.KnownBefore position link := by
  refine or_congr_right (exists_congr fun earlier => and_congr_right fun less => ?_)
  rw [Provides, push, List.getElem?_append_left (Nat.lt_of_lt_of_le less bound)]
  rfl

/-- The links of the stages before are known as they were, and those of the new stage are looked
for among everything that is there. -/
theorem links_push_iff :
    (∀ position other, (pipeline.push stage).stages[position]? = some other →
      ∀ link ∈ other.inputs.toList, (pipeline.push stage).KnownBefore position link) ↔
    (∀ position other, pipeline.stages[position]? = some other →
      ∀ link ∈ other.inputs.toList, pipeline.KnownBefore position link) ∧
    ∀ link ∈ stage.inputs.toList, pipeline.Knows link := by
  rw [push, forall_getElem?_concat_iff]
  refine and_congr ?_ ?_
  · refine forall₃_congr fun position other found => forall₂_congr fun link _ => ?_
    exact knownBefore_push_iff (Nat.le_of_lt (List.getElem?_eq_some_iff.mp found).1)
  · refine forall₂_congr fun link _ => ?_
    rw [← knownBefore_length_iff]
    exact knownBefore_push_iff (Nat.le_refl _)

theorem wired_push_iff : (pipeline.push stage).Wired ↔ pipeline.Wired ∧ pipeline.Admits stage := by
  have labels := pipeline.labels_push stage
  constructor
  · rintro ⟨distinctIds, distinctLabels, freshLabels, provided⟩
    rw [labels] at distinctLabels freshLabels
    obtain ⟨distinctBefore, distinct, apart⟩ := List.nodup_append.mp distinctLabels
    obtain ⟨providedBefore, known⟩ := links_push_iff.mp provided
    refine ⟨⟨distinctIds, distinctBefore, ?_, providedBefore⟩, distinct, ?_, known⟩
    · exact fun label member => freshLabels label (List.mem_append_left _ member)
    · exact fun label member => ⟨freshLabels label (List.mem_append_right _ member),
        fun before => apart label before label member rfl⟩
  · rintro ⟨wired, distinct, fresh, known⟩
    refine ⟨wired.distinctIds, ?_, ?_, links_push_iff.mpr ⟨wired.provided, known⟩⟩
    · rw [labels]
      refine List.nodup_append.mpr ⟨wired.distinctLabels, distinct, ?_⟩
      rintro label before _ member rfl
      exact (fresh label member).2 before
    · intro label member
      rw [labels, List.mem_append] at member
      rcases member with before | member
      · exact wired.freshLabels label before
      · exact (fresh label member).1

theorem checkLinks_push_iff :
    (pipeline.push stage).checkLinks = .ok () ↔
      pipeline.checkLinks = .ok () ∧ pipeline.Admits stage := by
  have check (pipeline : Pipeline) : pipeline.checkLinks = .ok () ↔ pipeline.Wired :=
    ⟨wired_of_checkLinks, checkLinks_of_wired⟩
  rw [check, check, wired_push_iff]

/-! ### One stage after the other -/

/-- The pipeline with the stages added in their order. -/
def pushAll (pipeline : Pipeline) (stages : List Stage) : Pipeline :=
  stages.foldl push pipeline

/-- Each stage finds room when those before it have been added. -/
def AdmitsAll (pipeline : Pipeline) : List Stage → Prop
  | [] => True
  | stage :: others => pipeline.Admits stage ∧ (pipeline.push stage).AdmitsAll others

theorem pushAll_eq (pipeline : Pipeline) (stages : List Stage) :
    pipeline.pushAll stages = { pipeline with stages := pipeline.stages ++ stages } := by
  induction stages generalizing pipeline with
  | nil => rw [List.append_nil]; rfl
  | cons stage others inductionHypothesis =>
    show (pipeline.push stage).pushAll others = _
    rw [inductionHypothesis, push, List.append_assoc]
    rfl

/-- The strict check of the whole is that of the stages one by one, each when it is added. -/
theorem checkLinks_pushAll_iff {stages : List Stage} :
    (pipeline.pushAll stages).checkLinks = .ok () ↔
      pipeline.checkLinks = .ok () ∧ pipeline.AdmitsAll stages := by
  induction stages generalizing pipeline with
  | nil => exact (and_iff_left trivial).symm
  | cons stage others inductionHypothesis =>
    show ((pipeline.push stage).pushAll others).checkLinks = .ok () ↔ _
    rw [inductionHypothesis, checkLinks_push_iff, and_assoc]
    rfl

/-- So a pipeline is accepted just if its declarations are distinct and each stage finds room
behind those before it. -/
theorem checkLinks_iff_admitsAll (pipeline : Pipeline) :
    pipeline.checkLinks = .ok () ↔
      pipeline.ids.Nodup ∧ { pipeline with stages := [] }.AdmitsAll pipeline.stages := by
  have built : { pipeline with stages := [] }.pushAll pipeline.stages = pipeline :=
    pushAll_eq _ _
  have declared : { pipeline with stages := [] }.checkLinks = .ok () ↔ pipeline.ids.Nodup := by
    refine ⟨fun accepted => (wired_of_checkLinks accepted).distinctIds, fun distinct => ?_⟩
    exact checkLinks_of_wired ⟨distinct, .nil, by simp [labels], by simp⟩
  rw [← declared, ← checkLinks_pushAll_iff, built]

/-- What is written first is never written anew. -/
theorem exists_graph_pushAll_eq_append (pipeline : Pipeline) (stages : List Stage)
    (layout : Layout) :
    ∃ behind, (pipeline.pushAll stages).graph layout = pipeline.graph layout ++ behind := by
  induction stages generalizing pipeline with
  | nil => exact ⟨"", String.append_empty.symm⟩
  | cons stage others inductionHypothesis =>
    obtain ⟨added, first⟩ := pipeline.exists_graph_push_eq_append stage layout
    obtain ⟨behind, rest⟩ := inductionHypothesis (pipeline.push stage)
    refine ⟨added ++ behind, ?_⟩
    show ((pipeline.push stage).pushAll others).graph layout = _
    rw [rest, first, String.append_assoc]

/-! ### One more declaration -/

theorem ids_declare (pipeline : Pipeline) (id file : String) :
    (pipeline.declare id file).ids = pipeline.ids ++ [id] := by
  rw [ids, ids, declare, List.map_append]
  rfl

/-- A declaration at the end changes what is found for its own identifier only, and that only if
nothing was found before. -/
theorem token_declare {id : String} (file : String) {identifier : String}
    (unaffected : identifier ∈ pipeline.ids ∨ identifier ≠ id) :
    (pipeline.declare id file).table.token identifier = pipeline.table.token identifier := by
  have position : (pipeline.declare id file).table.position? identifier =
      pipeline.table.position? identifier := by
    -- The new declaration is only looked at if the others do not have the identifier.
    rw [position?_eq_findIdx?, position?_eq_findIdx?, ids_declare, List.findIdx?_append]
    cases found : pipeline.ids.findIdx? (· = identifier) with
    | some position => rfl
    | none =>
      have undeclared : identifier ∉ pipeline.ids := fun declared =>
        of_decide_eq_false (List.findIdx?_eq_none_iff.mp found identifier declared) rfl
      have other := unaffected.resolve_left undeclared
      simp [other.symm]
  rw [StreamTable.token, StreamTable.token, position]

end Pipeline

/-- A stage is written alike where what it looks up is. -/
theorem Stage.reading_eq_of_lookedUp {stage : Stage} {first second : StreamTable}
    (alike : ∀ identifier ∈ stage.lookedUp, first.token identifier = second.token identifier) :
    stage.reading first = stage.reading second := by
  have inputs : stage.inputs.toList.map first.token = stage.inputs.toList.map second.token :=
    List.map_congr_left fun link taken => alike link (List.mem_append_left _ taken)
  have output : stage.writtenOutput first = stage.writtenOutput second := by
    unfold lookedUp at alike
    rw [writtenOutput, writtenOutput]
    cases output : stage.output with
    | one label => rfl
    | many labels =>
      rw [output] at alike
      exact congrArg Labels.many
        (List.map_congr_left fun label provided => alike label (List.mem_append_right _ provided))
  rw [reading, reading, inputs, output]

namespace Pipeline

variable {pipeline : Pipeline}

theorem readings_declare {id : String} (file : String)
    (unaffected : id ∈ pipeline.ids ∨ ∀ stage ∈ pipeline.stages, id ∉ stage.lookedUp) :
    (pipeline.declare id file).readings = pipeline.readings := by
  refine List.map_congr_left fun stage member => Stage.reading_eq_of_lookedUp ?_
  intro identifier looked
  refine token_declare file ?_
  by_cases same : identifier = id
  · subst same
    exact unaffected.imp_right fun nowhere => absurd looked (nowhere stage member)
  · exact Or.inr same

/-- Building goes on from what is there. One more stage puts its text behind the expression, after
a separator if there is something before it, and it is accepted just if what was there before is
and has room for the stage. One more declaration leaves the expression as it is, if its
identifier was declared before or has not been looked up. -/
theorem building_goes_on (pipeline : Pipeline) (stage : Stage) :
    (∀ layout, ∃ text,
      pipeline.expression { linkCheck := .lenient, layout } = .ok text ∧
        (pipeline.push stage).expression { linkCheck := .lenient, layout } =
          .ok (if pipeline.stages.isEmpty then stage.fragment pipeline.table
            else text ++ layout.separator ++ stage.fragment pipeline.table)) ∧
    ((pipeline.push stage).checkLinks = .ok () ↔
      pipeline.checkLinks = .ok () ∧ pipeline.Admits stage) ∧
    ∀ id file layout,
      (id ∈ pipeline.ids ∨ ∀ stage ∈ pipeline.stages, id ∉ stage.lookedUp) →
        (pipeline.declare id file).expression { linkCheck := .lenient, layout } =
          pipeline.expression { linkCheck := .lenient, layout } := by
  refine ⟨fun layout => ⟨pipeline.graph layout, rfl, ?_⟩, checkLinks_push_iff, ?_⟩
  · exact congrArg Except.ok (pipeline.graph_push stage layout)
  · intro id file layout unaffected
    exact congrArg Except.ok (graph_congr (readings_declare file unaffected) layout)

/-- A stage that splits what it takes from a split and from the last stage. -/
def splitting : Stage :=
  ⟨.many ["p", "out"], .bare "vstack", .many ["top", "bottom"]⟩

/-- It finds room at the end. The label that the text ended with before can be declared without
a trace, since it is nowhere looked up. -/
theorem branching_goes_on :
    branching.checkLinks = .ok () ∧ branching.Admits splitting ∧
      (branching.push splitting).checkLinks = .ok () ∧
      branching.finalLabel? = some "out" ∧ "out" ∉ branching.ids ∧
      (∀ stage ∈ branching.stages, "out" ∉ stage.lookedUp) ∧
      (branching.declare "out" "o.mov").expression { linkCheck := .lenient, layout := .pretty } =
        branching.expression { linkCheck := .lenient, layout := .pretty } := by
  obtain ⟨_, accepts, declaring⟩ := building_goes_on branching splitting
  have admits : branching.Admits splitting := ⟨by decide, by decide, by decide⟩
  have unseen : ∀ stage ∈ branching.stages, "out" ∉ stage.lookedUp := by
    simp [branching, Stage.lookedUp]
  exact ⟨branching_accepted, admits, accepts.mpr ⟨branching_accepted, admits⟩, rfl, by decide,
    unseen, declaring "out" "o.mov" .pretty (Or.inr unseen)⟩

end Pipeline

end FilterGraph
