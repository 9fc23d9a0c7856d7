/-
This file proves that the identifiers of inputs are bound names: calling the inputs something
else, in the declarations and wherever a stage takes them, changes nothing of what is written.

A declared identifier is written as the number of its declaration, so its spelling does not get
into the text. What a renaming must not do is make one name out of two. If two declarations got
the same name, the first would count for both, and if a declaration got the name of a label, the
label would be written as a stream. Neither happens if the names that occur stay apart and the
labels stay as they are.
-/

import FilterGraph.Proofs.Commands
import FilterGraph.Proofs.Routes
import FilterGraph.Proofs.Views
import Mathlib.Data.List.Nodup

namespace FilterGraph

/-! ### Other names for the inputs -/

/-- The same labels under other names. -/
def Labels.map (rename : String → String) : Labels → Labels
  | one label => one (rename label)
  | many labels => many (labels.map rename)

@[simp] theorem Labels.toList_map (rename : String → String) (labels : Labels) :
    (labels.map rename).toList = labels.toList.map rename := by
  cases labels <;> rfl

/-- The stage with other names for what it takes. -/
def Stage.renamed (rename : String → String) (stage : Stage) : Stage :=
  { stage with inputs := stage.inputs.map rename }

@[simp] theorem Stage.inputs_renamed (rename : String → String) (stage : Stage) :
    (stage.renamed rename).inputs = stage.inputs.map rename := rfl

@[simp] theorem Stage.filterSegment_renamed (rename : String → String) (stage : Stage) :
    (stage.renamed rename).filterSegment = stage.filterSegment := by
  simp [filterSegment, renamed, Labels.size]

namespace Pipeline

/-- The pipeline with other names for the inputs, where they are declared and where stages take
them. -/
def renamed (pipeline : Pipeline) (rename : String → String) : Pipeline where
  sources := pipeline.sources.map fun source => { source with id := rename source.id }
  stages := pipeline.stages.map (Stage.renamed rename)
  output := pipeline.output

/-- All identifiers that occur: those of declarations, the links that stages take, and the
labels. -/
def identifiers (pipeline : Pipeline) : List String :=
  pipeline.ids ++ pipeline.stages.flatMap (fun stage => stage.inputs.toList) ++ pipeline.labels

/-- The renaming keeps the identifiers that occur apart, and the labels as they are. -/
structure InputRenaming (pipeline : Pipeline) (rename : String → String) : Prop where
  injective : ∀ first ∈ pipeline.identifiers, ∀ second ∈ pipeline.identifiers,
    rename first = rename second → first = second
  labels : ∀ label ∈ pipeline.labels, rename label = label

variable {pipeline : Pipeline} {rename : String → String}

theorem ids_renamed (pipeline : Pipeline) (rename : String → String) :
    (pipeline.renamed rename).ids = pipeline.ids.map rename := by
  rw [ids, ids, renamed, List.map_map, List.map_map]
  rfl

theorem outputs_renamed (pipeline : Pipeline) (rename : String → String) :
    (pipeline.renamed rename).outputs = pipeline.outputs := by
  rw [outputs, outputs, renamed, List.map_map]
  rfl

theorem labels_renamed (pipeline : Pipeline) (rename : String → String) :
    (pipeline.renamed rename).labels = pipeline.labels := by
  rw [labels, labels, renamed, List.flatMap_map]
  rfl

theorem getElem?_stages_renamed (position : Nat) :
    (pipeline.renamed rename).stages[position]? =
      pipeline.stages[position]?.map (Stage.renamed rename) :=
  List.getElem?_map

theorem provides_renamed_iff {position : Nat} {label : String} :
    (pipeline.renamed rename).Provides position label ↔ pipeline.Provides position label := by
  simp [Provides, renamed, Stage.renamed]

/-! ### Names stay apart -/

/-- What stands for something occurs. -/
theorem Knows.mem_identifiers {identifier : String} (knows : pipeline.Knows identifier) :
    identifier ∈ pipeline.identifiers := by
  rcases knows with declared | provided
  · exact List.mem_append_left _ (List.mem_append_left _ declared)
  · exact List.mem_append_right _ provided

namespace InputRenaming

variable (proper : pipeline.InputRenaming rename)

include proper

theorem nodup_ids (distinct : pipeline.ids.Nodup) : (pipeline.renamed rename).ids.Nodup := by
  rw [ids_renamed]
  refine List.Nodup.map_on (fun first declared second declared' same => ?_) distinct
  exact proper.injective first (Knows.mem_identifiers (Or.inl declared)) second
    (Knows.mem_identifiers (Or.inl declared')) same

/-- No declaration gets the name of a label. -/
theorem label_notMem_ids {label : String} (provided : label ∈ pipeline.labels)
    (undeclared : label ∉ pipeline.ids) : label ∉ (pipeline.renamed rename).ids := by
  rw [ids_renamed, List.mem_map]
  rintro ⟨id, declared, same⟩
  -- The label keeps its name, so a declaration that got it would have had it before.
  have equal : id = label := proper.injective id (Knows.mem_identifiers (Or.inl declared)) label
    (Knows.mem_identifiers (Or.inr provided)) (same.trans (proper.labels label provided).symm)
  exact undeclared (equal ▸ declared)

/-- A link leads on to the declaration with its new name, or to the label, which kept its name. -/
theorem knownBefore {position : Nat} {link : String} (known : pipeline.KnownBefore position link) :
    (pipeline.renamed rename).KnownBefore position (rename link) := by
  rcases known with declared | ⟨earlier, before, provides⟩
  · refine Or.inl ?_
    rw [ids_renamed]
    exact List.mem_map_of_mem declared
  · have kept := proper.labels link provides.mem_labels
    refine Or.inr ⟨earlier, before, provides_renamed_iff.mpr ?_⟩
    rwa [kept]

theorem wired (accepted : pipeline.Wired) : (pipeline.renamed rename).Wired := by
  refine ⟨proper.nodup_ids accepted.distinctIds, ?_, fun label provided => ?_, ?_⟩
  · rw [labels_renamed]
    exact accepted.distinctLabels
  · rw [labels_renamed] at provided
    exact proper.label_notMem_ids provided (accepted.freshLabels label provided)
  · intro position stage found link taken
    rw [getElem?_stages_renamed, Option.map_eq_some_iff] at found
    obtain ⟨original, found, rfl⟩ := found
    rw [Stage.inputs_renamed, Labels.toList_map, List.mem_map] at taken
    obtain ⟨link, taken, rfl⟩ := taken
    exact proper.knownBefore (accepted.provided position original found link taken)

/-! ### The text stays the same -/

variable (accepted : pipeline.Wired)

include accepted

/-- A declaration is written as its number and a label as it is, under either name. -/
theorem token_eq {identifier : String} (knows : pipeline.Knows identifier) :
    (pipeline.renamed rename).table.token (rename identifier) =
      pipeline.table.token identifier := by
  rcases knows with declared | provided
  · obtain ⟨position, found⟩ := List.mem_iff_getElem?.mp declared
    have moved : (pipeline.renamed rename).ids[position]? = some (rename identifier) := by
      rw [ids_renamed, List.getElem?_map, found, Option.map_some]
    rw [token_of_declared _ accepted.distinctIds found,
      token_of_declared _ (proper.wired accepted).distinctIds moved]
  · have provided' : identifier ∈ (pipeline.renamed rename).labels := by
      rwa [labels_renamed]
    rw [proper.labels identifier provided, accepted.token_of_label provided,
      (proper.wired accepted).token_of_label provided']

theorem reading_eq {stage : Stage} (member : stage ∈ pipeline.stages) :
    (stage.renamed rename).reading (pipeline.renamed rename).table =
      stage.reading pipeline.table := by
  have inputs : (stage.renamed rename).inputs.toList.map (pipeline.renamed rename).table.token =
      stage.inputs.toList.map pipeline.table.token := by
    rw [Stage.inputs_renamed, Labels.toList_map, List.map_map]
    exact List.map_congr_left fun link taken =>
      proper.token_eq accepted (accepted.knows_of_input member taken)
  have output : (stage.renamed rename).writtenOutput (pipeline.renamed rename).table =
      stage.writtenOutput pipeline.table := by
    have moved : stage.renamed rename ∈ (pipeline.renamed rename).stages :=
      List.mem_map_of_mem member
    rw [accepted.writtenOutput_eq member, (proper.wired accepted).writtenOutput_eq moved]
    rfl
  rw [Stage.reading, Stage.reading, inputs, output, Stage.filterSegment_renamed]

theorem readings_eq : (pipeline.renamed rename).readings = pipeline.readings := by
  rw [readings, readings, renamed, List.map_map]
  exact List.map_congr_left fun stage member => proper.reading_eq accepted member

end InputRenaming

/-- An accepted pipeline is accepted under other names for its inputs, and has the same expression
and the same command: its text is the same in each layout, with links checked or not, and so
are the arguments, or what the pipeline lacks of them. -/
theorem input_names_are_bound {pipeline : Pipeline} (accepted : pipeline.checkLinks = .ok ())
    {rename : String → String} (proper : pipeline.InputRenaming rename) :
    (pipeline.renamed rename).checkLinks = .ok () ∧
    (∀ options, ∃ text, pipeline.expression options = .ok text ∧
      (pipeline.renamed rename).expression options = .ok text) ∧
    ∀ options quoted,
      (pipeline.renamed rename).arguments options quoted = pipeline.arguments options quoted := by
  have wired := wired_of_checkLinks accepted
  have links := checkLinks_of_wired (proper.wired wired)
  have expressions := expression_congr (links.trans accepted.symm) (proper.readings_eq wired)
  refine ⟨links, fun options => ?_, fun options quoted => ?_⟩
  · have text := (pipeline.expression_eq_ok_iff options _).mpr ⟨fun _ => accepted, rfl⟩
    exact ⟨_, text, (expressions options).trans text⟩
  · have sources : (pipeline.renamed rename).sources.isEmpty = pipeline.sources.isEmpty :=
      List.isEmpty_map
    have files : (pipeline.renamed rename).sources.map Source.file =
        pipeline.sources.map Source.file := by
      rw [renamed, List.map_map]
      rfl
    have command : (pipeline.renamed rename).command options = pipeline.command options :=
      command_congr (outcome_congr sources (pipeline.outputs_renamed rename))
        (expressions options.graph) files rfl
    rw [arguments, arguments, command]

/-- Exchanges two identifiers. A third one gets the name of the first. -/
def exchanged (name : String) : String :=
  if name = "left" then "right"
  else if name = "right" ∨ name = "centre" then "left"
  else name

/-- The two inputs change names, and the third name does not occur. -/
theorem branching_exchanged :
    branching.checkLinks = .ok () ∧ branching.InputRenaming exchanged ∧
      (branching.renamed exchanged).ids = ["right", "left"] ∧
      (branching.renamed exchanged).checkLinks = .ok () ∧
      ∀ options quoted,
        (branching.renamed exchanged).arguments options quoted =
          branching.arguments options quoted := by
  have proper : branching.InputRenaming exchanged := ⟨by decide, by decide⟩
  obtain ⟨links, _, arguments⟩ := input_names_are_bound branching_accepted proper
  exact ⟨branching_accepted, proper, rfl, links, arguments⟩

end Pipeline

end FilterGraph
