/-
This file says what the strict check of links finds, without the tables that it keeps on its way.

The check makes three passes. The first two look a name up among those entered before it, so what
carries them is the set of names that are known at each point, and a plain list of these names
serves as well as a table. The third looks a link up in the table of labels. It is reached only if
every label was entered once, so that the table holds for each label the one stage that provides
it, and this is the stage at which a search through the stages stops.
-/

import FilterGraph.Proofs.Lookups
import FilterGraph.Wiring

namespace FilterGraph

/-! ### Names seen before -/

/-- The first name that was known before, either from the start or from its own first occurrence. -/
def firstRepeated (known : List String) : List String → Option String
  | [] => none
  | name :: others => if name ∈ known then some name else firstRepeated (name :: known) others

/-- A list of names has no repetition exactly when its names are distinct and new. -/
theorem firstRepeated_eq_none_iff (known names : List String) :
    firstRepeated known names = none ↔ names.Nodup ∧ ∀ name ∈ names, name ∉ known := by
  induction names generalizing known with
  | nil => simp [firstRepeated]
  | cons name others inductionHypothesis =>
    rw [firstRepeated]
    split
    · next seen =>
      refine iff_of_false (by simp) fun ⟨_, new⟩ => ?_
      exact new name List.mem_cons_self seen
    · next unseen =>
      -- What holds of the others, with this name known, is what holds of the whole list.
      rw [inductionHypothesis, List.nodup_cons]
      constructor
      · rintro ⟨distinct, new⟩
        refine ⟨⟨fun again => new name again List.mem_cons_self, distinct⟩, ?_⟩
        rintro other member
        rcases List.mem_cons.mp member with rfl | later
        · exact unseen
        · exact fun seen => new other later (List.mem_cons_of_mem _ seen)
      · rintro ⟨⟨once, distinct⟩, new⟩
        refine ⟨distinct, fun other later seen => ?_⟩
        rcases List.mem_cons.mp seen with rfl | before
        · exact once later
        · exact new other (List.mem_cons_of_mem _ later) before

/-- Entering identifiers fails at the first one that is repeated. -/
theorem enterIds_eq {ids : Std.HashSet String} {known : List String}
    (same : ∀ name, name ∈ ids ↔ name ∈ known) (names : List String) :
    enterIds ids names =
      match firstRepeated known names with
      | some id => .error (.duplicateInput id)
      | none => .ok (ids.insertMany names) := by
  induction names generalizing ids known with
  | nil => simp [enterIds, firstRepeated]
  | cons name others inductionHypothesis =>
    have same' (other : String) : other ∈ ids.insert name ↔ other ∈ name :: known := by
      rw [Std.HashSet.mem_insert, beq_iff_eq, same, List.mem_cons, eq_comm]
    rw [enterIds, firstRepeated, Std.HashSet.insertMany_cons, inductionHypothesis same']
    by_cases seen : name ∈ known <;> simp [same, seen]

/-- Entering labels fails at the first one that is repeated or an identifier. -/
theorem enterLabels_eq {ids : Std.HashSet String} {producers : Std.HashMap String Nat}
    {known : List String} (same : ∀ name, name ∈ ids ∨ name ∈ producers ↔ name ∈ known)
    (placed : List (String × Nat)) :
    enterLabels ids producers placed =
      match firstRepeated known (placed.map Prod.fst) with
      | some label => .error (.duplicateLabel label)
      | none => .ok (producers.insertMany placed) := by
  induction placed generalizing producers known with
  | nil => simp [enterLabels, firstRepeated]
  | cons first others inductionHypothesis =>
    obtain ⟨label, position⟩ := first
    have same' (name : String) :
        name ∈ ids ∨ name ∈ producers.insert label position ↔ name ∈ label :: known := by
      rw [Std.HashMap.mem_insert, beq_iff_eq, or_left_comm, same, List.mem_cons, eq_comm]
    rw [enterLabels, List.map_cons, firstRepeated, Std.HashMap.insertMany_cons,
      inductionHypothesis same']
    by_cases seen : label ∈ known <;> simp [same, seen]

/-! ### Faults -/

/-- The verdict on something that has this fault, if it has any. -/
def verdict : Option Error → Except Error Unit
  | none => .ok ()
  | some error => .error error

theorem verdict_eq_ok_iff {fault : Option Error} : verdict fault = .ok () ↔ fault = none := by
  cases fault <;> simp [verdict]

theorem verdict_eq_error_iff {fault : Option Error} {error : Error} :
    verdict fault = .error error ↔ fault = some error := by
  cases fault <;> simp [verdict]

/-- Of many things in a row the verdict is on the first fault. -/
theorem forM_eq_verdict {Item : Type} {check : Item → Except Error Unit}
    {fault? : Item → Option Error} (items : List Item)
    (judged : ∀ item ∈ items, check item = verdict (fault? item)) :
    items.forM check = verdict (items.findSome? fault?) := by
  induction items with
  | nil => rfl
  | cons item others inductionHypothesis =>
    obtain ⟨first, rest⟩ := List.forall_mem_cons.mp judged
    show (check item >>= fun _ => others.forM check) = _
    rw [first, inductionHypothesis rest, List.findSome?_cons]
    cases fault? item with
    | none => rfl
    | some error => rfl

namespace Pipeline

/-! ### Stages and the labels they provide -/

/-- The stage at that position has the label among its outputs. -/
def Provides (pipeline : Pipeline) (position : Nat) (label : String) : Prop :=
  ∃ stage, pipeline.stages[position]? = some stage ∧ label ∈ stage.output.toList

theorem mem_labels_iff (pipeline : Pipeline) (label : String) :
    label ∈ pipeline.labels ↔ ∃ position, pipeline.Provides position label := by
  rw [labels, List.mem_flatMap]
  constructor
  · rintro ⟨stage, member, provides⟩
    obtain ⟨position, found⟩ := List.mem_iff_getElem?.mp member
    exact ⟨position, stage, found, provides⟩
  · rintro ⟨position, stage, found, provides⟩
    exact ⟨stage, List.mem_of_getElem? found, provides⟩

theorem Provides.mem_labels {pipeline : Pipeline} {position : Nat} {label : String}
    (provides : pipeline.Provides position label) : label ∈ pipeline.labels :=
  (pipeline.mem_labels_iff label).mpr ⟨position, provides⟩

/-- The position of the first stage that provides the label. -/
def producer? (pipeline : Pipeline) (label : String) : Option Nat :=
  pipeline.stages.findIdx? fun stage => label ∈ stage.output.toList

/-- The producer of a label is the first stage that provides it. -/
theorem producer?_eq_some_iff_isLeast {pipeline : Pipeline} {label : String} {producer : Nat} :
    pipeline.producer? label = some producer ↔
      IsLeast {position | pipeline.Provides position label} producer := by
  rw [producer?, findIdx?_eq_some_iff_isLeast]
  simp only [decide_eq_true_eq, Provides]

theorem producer?_eq_none_iff {pipeline : Pipeline} {label : String} :
    pipeline.producer? label = none ↔ ∀ position, ¬ pipeline.Provides position label := by
  rw [producer?, List.findIdx?_eq_none_iff]
  constructor
  · rintro nowhere position ⟨stage, found, provides⟩
    exact of_decide_eq_false (nowhere stage (List.mem_of_getElem? found)) provides
  · intro nowhere stage member
    obtain ⟨position, found⟩ := List.mem_iff_getElem?.mp member
    exact decide_eq_false fun provides => nowhere position ⟨stage, found, provides⟩

/-- The producer of a label is before a position exactly when some stage before that position
provides the label. -/
theorem producer?_lt_iff (pipeline : Pipeline) (label : String) (position : Nat) :
    (∃ producer, pipeline.producer? label = some producer ∧ producer < position) ↔
      ∃ earlier < position, pipeline.Provides earlier label := by
  constructor
  · rintro ⟨producer, found, before⟩
    exact ⟨producer, before, (producer?_eq_some_iff_isLeast.mp found).1⟩
  · rintro ⟨earlier, before, provides⟩
    cases produced : pipeline.producer? label with
    | none => exact absurd provides (producer?_eq_none_iff.mp produced earlier)
    | some producer =>
      have first := producer?_eq_some_iff_isLeast.mp produced
      exact ⟨producer, rfl, Nat.lt_of_le_of_lt (first.2 provides) before⟩

/-! ### The table of labels -/

theorem map_fst_placedLabels (pipeline : Pipeline) :
    pipeline.placedLabels.map Prod.fst = pipeline.labels := by
  have names : pipeline.placedLabels.map Prod.fst =
      (pipeline.stages.zipIdx.map Prod.fst).flatMap fun stage => stage.output.toList := by
    rw [placedLabels, List.map_flatMap, List.flatMap_map]
    simp only [List.map_map, Function.comp_def, List.map_id']
  rw [names, List.zipIdx_map_fst, labels]

theorem mem_placedLabels_iff {pipeline : Pipeline} {label : String} {position : Nat} :
    (label, position) ∈ pipeline.placedLabels ↔ pipeline.Provides position label := by
  simp only [placedLabels, List.mem_flatMap, Prod.exists, List.mem_zipIdx_iff_getElem?,
    List.mem_map, Prod.mk.injEq, Provides]
  constructor
  · rintro ⟨stage, place, found, name, provides, rfl, rfl⟩
    exact ⟨stage, found, provides⟩
  · rintro ⟨stage, found, provides⟩
    exact ⟨stage, position, found, label, provides, rfl, rfl⟩

/-- Where no label is repeated, the table holds the stage that a search finds. -/
theorem getElem?_placedLabels {pipeline : Pipeline} (distinct : pipeline.labels.Nodup)
    (label : String) :
    ((∅ : Std.HashMap String Nat).insertMany pipeline.placedLabels)[label]? =
      pipeline.producer? label := by
  cases produced : pipeline.producer? label with
  | none =>
    have nowhere : label ∉ pipeline.labels := fun member =>
      have ⟨position, provides⟩ := (pipeline.mem_labels_iff label).mp member
      producer?_eq_none_iff.mp produced position provides
    rw [← map_fst_placedLabels] at nowhere
    rw [Std.HashMap.getElem?_insertMany_list_of_contains_eq_false (by simpa using nowhere)]
    exact Std.HashMap.getElem?_empty
  | some producer =>
    have provides := (producer?_eq_some_iff_isLeast.mp produced).1
    rw [← map_fst_placedLabels] at distinct
    exact Std.HashMap.getElem?_insertMany_list_of_mem (beq_self_eq_true label)
      ((List.pairwise_map.mp distinct).imp beq_false_of_ne) (mem_placedLabels_iff.mpr provides)

/-! ### The first fault -/

/-- What is wrong with a link that the stage at that position takes. -/
def linkFault? (pipeline : Pipeline) (position : Nat) (link : String) : Option Error :=
  if link ∈ pipeline.ids then none
  else
    match pipeline.producer? link with
    | none => some (.unknownLink position link)
    | some producer => if producer < position then none else some (.earlyLink position link)

/-- The first fault among the links of a stage. -/
def stageFault? (pipeline : Pipeline) (position : Nat) (stage : Stage) : Option Error :=
  stage.inputs.toList.findSome? (pipeline.linkFault? position)

/-- The first fault in the wiring of the pipeline. -/
def wiringFault? (pipeline : Pipeline) : Option Error :=
  match firstRepeated [] pipeline.ids with
  | some id => some (.duplicateInput id)
  | none =>
    match firstRepeated pipeline.ids pipeline.labels with
    | some label => some (.duplicateLabel label)
    | none =>
      pipeline.stages.zipIdx.findSome? fun (stage, position) =>
        pipeline.stageFault? position stage

/-- A look-up in the tables gives the verdict that a search gives. -/
theorem checkLink_eq_verdict {pipeline : Pipeline} {ids : Std.HashSet String}
    {producers : Std.HashMap String Nat} (entered : ∀ name, name ∈ ids ↔ name ∈ pipeline.ids)
    (placed : ∀ label, producers[label]? = pipeline.producer? label) (position : Nat)
    (link : String) :
    checkLink ids producers position link = verdict (pipeline.linkFault? position link) := by
  rw [checkLink, linkFault?, placed]
  simp only [entered]
  split
  · rfl
  · cases pipeline.producer? link with
    | none => rfl
    | some producer =>
      by_cases before : producer < position
      · simp only [before, if_true, verdict]
      · simp only [before, if_false, verdict]

/-- The check with its tables reports the first fault that a search through the inputs, the labels
and the links finds. -/
theorem checkLinks_eq_verdict (pipeline : Pipeline) :
    pipeline.checkLinks = verdict pipeline.wiringFault? := by
  have noneEntered (name : String) : name ∈ (∅ : Std.HashSet String) ↔ name ∈ [] := by simp
  rw [checkLinks, wiringFault?, enterIds_eq noneEntered]
  cases firstRepeated [] pipeline.ids with
  | some id => rfl
  | none =>
    have entered (name : String) :
        name ∈ (∅ : Std.HashSet String).insertMany pipeline.ids ↔ name ∈ pipeline.ids := by
      simp [Std.HashSet.mem_insertMany_list]
    have onlyIds (name : String) :
        name ∈ (∅ : Std.HashSet String).insertMany pipeline.ids ∨
          name ∈ (∅ : Std.HashMap String Nat) ↔ name ∈ pipeline.ids := by
      rw [entered, or_iff_left Std.HashMap.not_mem_empty]
    show (enterLabels _ ∅ pipeline.placedLabels >>= _) = _
    rw [enterLabels_eq onlyIds, map_fst_placedLabels]
    cases repeated : firstRepeated pipeline.ids pipeline.labels with
    | some label => rfl
    | none =>
      -- Only now, with no label repeated, does the table answer as a search does.
      have distinct := ((firstRepeated_eq_none_iff _ _).mp repeated).1
      refine forM_eq_verdict _ fun (stage, position) _ => ?_
      exact forM_eq_verdict _ fun link _ =>
        checkLink_eq_verdict entered (getElem?_placedLabels distinct) position link

theorem checkLinks_eq_ok_iff_wiringFault? {pipeline : Pipeline} :
    pipeline.checkLinks = .ok () ↔ pipeline.wiringFault? = none := by
  rw [checkLinks_eq_verdict, verdict_eq_ok_iff]

theorem checkLinks_eq_error_iff_wiringFault? {pipeline : Pipeline} {error : Error} :
    pipeline.checkLinks = .error error ↔ pipeline.wiringFault? = some error := by
  rw [checkLinks_eq_verdict, verdict_eq_error_iff]

end Pipeline

end FilterGraph
