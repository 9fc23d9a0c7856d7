/-
This file shows that what was saved is loaded again.

The value of a pipeline means that pipeline, unless the parameters of some stage nest too deep: the
parts of a pipeline are at known depths, so its value nests as deep as its parameters make it, and
the budget for them runs out just where the whole value passes the limit. Only a real in a
parameter could come back as another one.
-/

import FilterGraph.Proofs.Descriptions
import FilterGraph.Proofs.Parameters

namespace FilterGraph

open Json

/-! ### Without reals -/

theorem Labels.exact_toValue (labels : Labels) : labels.toValue.Exact := by
  cases labels with
  | one label => exact Value.exact_text label
  | many labels =>
    refine Value.exact_list_iff.mpr fun item member => ?_
    obtain ⟨label, _, rfl⟩ := List.mem_map.mp member
    exact Value.exact_text label

/-- No real occurs in the parameters of the filter, at any depth. -/
def Filter.Exact (filter : Filter) : Prop :=
  ∀ entry ∈ filter.parameters.entries, entry.2.value.Exact

theorem Parameters.exact_toValue {parameters : Parameters}
    (exact : ∀ entry ∈ parameters.entries, entry.2.value.Exact) : parameters.toValue.Exact := by
  refine Value.exact_object_iff.mpr fun member here => ?_
  obtain ⟨entry, among, rfl⟩ := List.mem_map.mp here
  exact exact entry among

theorem Filter.exact_toValue {filter : Filter} (exact : filter.Exact) : filter.toValue.Exact := by
  cases filter with
  | bare name => exact Value.exact_text name
  | configured name parameters =>
    refine Value.exact_object_iff.mpr (List.forall_mem_cons.mpr ⟨Value.exact_text name, ?_⟩)
    split
    · exact List.forall_mem_nil _
    · exact List.forall_mem_singleton.mpr (Parameters.exact_toValue exact)

/-- No real occurs in the parameters of any stage, at any depth. -/
def Pipeline.Exact (pipeline : Pipeline) : Prop :=
  ∀ stage ∈ pipeline.stages, stage.filter.Exact

theorem Pipeline.exact_toValue {pipeline : Pipeline} (exact : pipeline.Exact) :
    pipeline.toValue.Exact := by
  have sources : (Value.list (pipeline.sources.map Source.toValue)).Exact := by
    refine Value.exact_list_iff.mpr fun item member => ?_
    obtain ⟨source, _, rfl⟩ := List.mem_map.mp member
    exact Value.exact_object_iff.mpr (List.forall_mem_cons.mpr
      ⟨Value.exact_text _, List.forall_mem_singleton.mpr (Value.exact_text _)⟩)
  have stages : (Value.list (pipeline.stages.map Stage.toValue)).Exact := by
    refine Value.exact_list_iff.mpr fun item member => ?_
    obtain ⟨stage, among, rfl⟩ := List.mem_map.mp member
    exact Value.exact_object_iff.mpr (List.forall_mem_cons.mpr ⟨stage.inputs.exact_toValue,
      List.forall_mem_cons.mpr ⟨Filter.exact_toValue (exact stage among),
        List.forall_mem_singleton.mpr stage.output.exact_toValue⟩⟩)
  exact Value.exact_object_iff.mpr (List.forall_mem_cons.mpr ⟨sources,
    List.forall_mem_cons.mpr ⟨stages, List.forall_mem_singleton.mpr (Value.exact_text _)⟩⟩)

/-! ### How deep the values of the parts nest -/

theorem Labels.depth_toValue_le (labels : Labels) : labels.toValue.depth ≤ 1 := by
  cases labels with
  | one label => exact Nat.zero_le 1
  | many labels =>
    refine Nat.succ_le_succ (Value.depthItems_le_iff.mpr fun item member => ?_)
    obtain ⟨label, _, rfl⟩ := List.mem_map.mp member
    exact Nat.le_refl 0

/-- A stage nests one level deeper than its filter. -/
theorem Stage.depth_toValue_le_iff (stage : Stage) {budget : Nat} (enough : 1 ≤ budget) :
    stage.toValue.depth ≤ budget + 1 ↔ stage.filter.toValue.depth ≤ budget := by
  have inputs := Nat.le_trans stage.inputs.depth_toValue_le enough
  have output := Nat.le_trans stage.output.depth_toValue_le enough
  rw [toValue, Value.depth, Nat.add_le_add_iff_right, Value.depthMembers_le_iff]
  simp [inputs, output]

/-- A pipeline nests three levels deeper than the filters of its stages. -/
theorem Pipeline.depth_toValue_le_iff (pipeline : Pipeline) {budget : Nat} (enough : 1 ≤ budget) :
    pipeline.toValue.depth ≤ budget + 3 ↔
      ∀ stage ∈ pipeline.stages, stage.filter.toValue.depth ≤ budget := by
  have sources : (Value.list (pipeline.sources.map Source.toValue)).depth ≤ budget + 2 := by
    refine Nat.add_le_add_right (Value.depthItems_le_iff.mpr fun item member => ?_) 1
    obtain ⟨source, _, rfl⟩ := List.mem_map.mp member
    exact Nat.le_add_left 1 budget
  have stages : (Value.list (pipeline.stages.map Stage.toValue)).depth ≤ budget + 2 ↔
      ∀ stage ∈ pipeline.stages, stage.filter.toValue.depth ≤ budget := by
    rw [Value.depth, Nat.add_le_add_iff_right, Value.depthItems_le_iff, List.forall_mem_map]
    exact forall₂_congr fun stage _ => stage.depth_toValue_le_iff enough
  have output : (Value.text pipeline.output).depth ≤ budget + 2 := Nat.zero_le _
  rw [toValue, Value.depth, Nat.add_le_add_iff_right, Value.depthMembers_le_iff, ← stages]
  simp [sources, output]

/-! ### What the values of the parts mean -/

theorem Source.meaning_toValue (source : Source) : meaning source.toValue = .ok source :=
  rfl

theorem Labels.fitting_toValue (labels : Labels) : fitting labels.toValue = .ok labels := by
  cases labels with
  | one label => rfl
  | many labels =>
    rw [fitting_eq_ok_iff_ofValue?, toValue, ofValue?, mapM_textOf?_eq_some_iff.mpr rfl]
    rfl

theorem Filter.fitting_toValue (filter : Filter) : fitting filter.toValue = .ok filter := by
  cases filter with
  | bare name => rfl
  | configured name parameters =>
    rw [toValue]
    by_cases none : parameters.isEmpty = true
    · obtain rfl : parameters = .empty := Parameters.ext (List.isEmpty_iff.mp none)
      rfl
    · rw [if_neg none]
      show Except.ok (configured name (.ofMembers _)) = _
      rw [Parameters.ofMembers_entries]

/-- The value of a stage means that stage, if its filter does not nest too deep. -/
theorem Stage.meaning_toValue (stage : Stage) {budget : Nat} (enough : 1 ≤ budget) :
    meaning budget stage.toValue =
      if stage.filter.toValue.depth ≤ budget then .ok stage else .error .tooDeep := by
  have inputs : stage.inputs.toValue.within budget = .ok stage.inputs.toValue :=
    if_pos (Nat.le_trans stage.inputs.depth_toValue_le enough)
  have output : stage.output.toValue.within budget = .ok stage.output.toValue :=
    if_pos (Nat.le_trans stage.output.depth_toValue_le enough)
  rw [toValue, meaning_object, inputs, output, Value.within]
  split
  · show (do
        let inputs ← Labels.fitting stage.inputs.toValue
        let filter ← Filter.fitting stage.filter.toValue
        let output ← Labels.fitting stage.output.toValue
        return (⟨inputs, filter, output⟩ : Stage)) = _
    rw [Labels.fitting_toValue, Filter.fitting_toValue, Labels.fitting_toValue]
    rfl
  · show (Labels.fitting stage.inputs.toValue >>= _) = _
    rw [Labels.fitting_toValue]
    rfl

/-- The value of a pipeline means that pipeline, if it does not nest too deep. -/
theorem Pipeline.meaning_toValue (pipeline : Pipeline) :
    meaning pipeline.toValue =
      if pipeline.toValue.depth ≤ depthLimit then .ok pipeline else .error .tooDeep := by
  have sources : (Value.list (pipeline.sources.map Source.toValue)).asList Source.meaning =
      .ok pipeline.sources := by
    have means : Source.meaning ∘ Source.toValue = fun source => pure (id source) :=
      funext Source.meaning_toValue
    rw [Value.asList, List.mapM_map, means, List.mapM_pure, List.map_id]
    rfl
  have stages : (Value.list (pipeline.stages.map Stage.toValue)).asList
      (Stage.meaning (depthLimit - 3)) =
      if ∀ stage ∈ pipeline.stages, stage.filter.toValue.depth ≤ depthLimit - 3
        then .ok (pipeline.stages.map id) else .error .tooDeep := by
    rw [Value.asList, List.mapM_map]
    exact mapM_eq_ite (fun stage => stage.meaning_toValue (by decide)) pipeline.stages
  have limit : pipeline.toValue.depth ≤ depthLimit ↔
      ∀ stage ∈ pipeline.stages, stage.filter.toValue.depth ≤ depthLimit - 3 :=
    pipeline.depth_toValue_le_iff (by decide)
  rw [toValue] at limit ⊢
  rw [meaning_object, sources, stages, List.map_id]
  simp only [limit]
  split <;> rfl

/-! ### Saving and loading -/

namespace Pipeline

/-- What is written on one line is read back, if it is not too deep. -/
theorem parse_toText {pipeline : Pipeline} (exact : pipeline.Exact)
    (shallow : pipeline.toValue.depth ≤ depthLimit) : parse pipeline.toText = .ok pipeline := by
  have means := pipeline.meaning_toValue
  rw [if_pos shallow] at means
  exact parse_of_meaning (exact_toValue exact) means List.mem_cons_self

/-- A saved description is loaded as the pipeline that was saved if it nests at most 127 levels
deep, and refused as too deep if it nests deeper. -/
theorem parse_saved (pipeline : Pipeline) (exact : pipeline.Exact) {text : String}
    (saved : text ∈ [pipeline.toText, pipeline.toValue.pretty]) :
    (pipeline.toValue.depth ≤ 127 → parse text = .ok pipeline) ∧
      (128 ≤ pipeline.toValue.depth →
        ∃ problem, parse text = .error (.malformed problem) ∧ problem.cause = .tooDeep) := by
  have means : meaning pipeline.toValue =
      if pipeline.toValue.depth ≤ 127 then .ok pipeline else .error .tooDeep :=
    pipeline.meaning_toValue
  constructor
  · intro shallow
    rw [if_pos shallow] at means
    exact parse_of_meaning (exact_toValue exact) means saved
  · intro deep
    rw [if_neg (Nat.not_le.mpr deep)] at means
    exact parse_of_refused (exact_toValue exact) means saved

/-- So many lists inside of each other. -/
def nestedLists : Nat → Value
  | 0 => .scalar .null
  | levels + 1 => .list [nestedLists levels]

theorem canonical_nestedLists (levels : Nat) : (nestedLists levels).Canonical := by
  induction levels with
  | zero => exact trivial
  | succ levels inductionHypothesis => exact ⟨inductionHypothesis, trivial⟩

theorem exact_nestedLists (levels : Nat) : (nestedLists levels).Exact := by
  induction levels with
  | zero => exact Value.exact_scalar_iff.mpr trivial
  | succ levels inductionHypothesis =>
    exact Value.exact_list_iff.mpr (List.forall_mem_singleton.mpr inductionHypothesis)

theorem depth_nestedLists (levels : Nat) : (nestedLists levels).depth = levels := by
  induction levels with
  | zero => rfl
  | succ levels inductionHypothesis =>
    rw [nestedLists, Value.depth, Value.depthItems, inductionHypothesis]
    exact congrArg (· + 1) (Nat.max_zero levels)

/-- A pipeline with a split and with lists in its only parameter. -/
def nesting (levels : Nat) : Pipeline where
  sources := [⟨"0", "a.mov"⟩]
  stages := [
    ⟨.one "0", .bare "split", .many ["main", "copy"]⟩,
    ⟨.many ["main", "copy"],
      .configured "overlay"
        ⟨[("x", ⟨nestedLists levels, canonical_nestedLists levels⟩)], List.nodup_singleton _⟩,
      .one "out"⟩]
  output := "b.avi"

theorem exact_nesting (levels : Nat) : (nesting levels).Exact := by
  refine List.forall_mem_cons.mpr ⟨List.forall_mem_nil _, List.forall_mem_singleton.mpr ?_⟩
  exact List.forall_mem_singleton.mpr (exact_nestedLists levels)

theorem depth_nesting_le_iff (levels : Nat) :
    (nesting levels).toValue.depth ≤ 127 ↔ levels ≤ 122 := by
  have overlay : (Filter.toValue (.configured "overlay"
      ⟨[("x", ⟨nestedLists levels, canonical_nestedLists levels⟩)],
        List.nodup_singleton _⟩)).depth = levels + 2 := by
    show max 0 (max (max (nestedLists levels).depth 0 + 1) 0) + 1 = levels + 2
    rw [depth_nestedLists]
    omega
  refine ((nesting levels).depth_toValue_le_iff (by decide : 1 ≤ 124)).trans ?_
  rw [nesting, List.forall_mem_cons, List.forall_mem_singleton, overlay]
  exact ⟨fun each => Nat.le_of_add_le_add_right each.2,
    fun few => ⟨Nat.zero_le _, Nat.add_le_add_right few 2⟩⟩

/-- The limit lies between 122 and 123 lists. -/
theorem parse_saved_nesting :
    ((nesting 122).Exact ∧ parse (nesting 122).toText = .ok (nesting 122)) ∧
      ((nesting 122).Exact ∧ parse (nesting 122).toValue.pretty = .ok (nesting 122)) ∧
      ((nesting 123).Exact ∧ ∃ problem,
        parse (nesting 123).toText = .error (.malformed problem) ∧ problem.cause = .tooDeep) := by
  have compact : ∀ value : Value, value.compact ∈ [value.compact, value.pretty] :=
    fun _ => List.mem_cons_self
  have pretty : ∀ value : Value, value.pretty ∈ [value.compact, value.pretty] :=
    fun _ => List.mem_cons_of_mem _ List.mem_cons_self
  have shallow : (nesting 122).toValue.depth ≤ 127 := (depth_nesting_le_iff 122).mpr (by decide)
  have deep : 128 ≤ (nesting 123).toValue.depth :=
    Nat.not_le.mp fun shallow => absurd ((depth_nesting_le_iff 123).mp shallow) (by decide)
  exact ⟨⟨exact_nesting 122, (parse_saved (nesting 122) (exact_nesting 122) (compact _)).1 shallow⟩,
    ⟨exact_nesting 122, (parse_saved (nesting 122) (exact_nesting 122) (pretty _)).1 shallow⟩,
    ⟨exact_nesting 123, (parse_saved (nesting 123) (exact_nesting 123) (compact _)).2 deep⟩⟩

end Pipeline

end FilterGraph
