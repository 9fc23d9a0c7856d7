/-
This file proves which token an identifier gets, and when two identifiers get the same one.

A declared identifier gets the stream of its position, anything else stands for itself. The
strict check compares identifiers as they are spelled, so it keeps a label apart from every
declared identifier, but not from the streams those are written as: nothing stops a label from
being spelled `0:v`. That spelling is the only way in which two identifiers of an accepted
pipeline can get the same token, and the last section says so.
-/

import FilterGraph.Expression
import FilterGraph.Proofs.Wiring
import Std.Data.String.ToNat

namespace FilterGraph

/-! ### Streams -/

/-- A stream tells the position it belongs to. -/
theorem videoStream_inj {first second : Nat} :
    videoStream first = videoStream second ↔ first = second := by
  rw [videoStream, videoStream, String.append_left_inj]
  exact Nat.repr_inj

namespace Pipeline

/-! ### The token of an identifier -/

theorem position?_eq_findIdx? (pipeline : Pipeline) (identifier : String) :
    pipeline.table.position? identifier = pipeline.ids.findIdx? (· = identifier) := by
  rw [table, StreamTable.position?_ofSources, ids, List.findIdx?_map]
  rfl

theorem token_of_undeclared (pipeline : Pipeline) {identifier : String}
    (undeclared : identifier ∉ pipeline.ids) :
    pipeline.table.token identifier = identifier := by
  have nowhere : pipeline.table.position? identifier = none := by
    rw [position?_eq_findIdx?, List.findIdx?_eq_none_iff]
    intro other member
    exact decide_eq_false fun same => undeclared (same ▸ member)
  rw [StreamTable.token, nowhere]

/-- Where the declared identifiers are distinct, the token is the stream of the one declaration
that has the identifier. -/
theorem token_of_declared (pipeline : Pipeline) (distinct : pipeline.ids.Nodup) {position : Nat}
    {identifier : String} (declared : pipeline.ids[position]? = some identifier) :
    pipeline.table.token identifier = videoStream position := by
  obtain ⟨bound, rfl⟩ := List.getElem?_eq_some_iff.mp declared
  have first : pipeline.table.position? pipeline.ids[position] = some position := by
    rw [position?_eq_findIdx?, List.findIdx?_eq_some_iff_getElem]
    refine ⟨bound, decide_eq_true rfl, fun earlier before => ?_⟩
    rw [decide_eq_true_iff, List.getElem_inj distinct]
    exact Nat.ne_of_lt before
  rw [StreamTable.token, first]

/-! ### Identifiers that get the same token -/

/-- An identifier that stands for something: a declared input, or the output of a stage. -/
def Knows (pipeline : Pipeline) (identifier : String) : Prop :=
  identifier ∈ pipeline.ids ∨ identifier ∈ pipeline.labels

/-- The label of a stage is spelled as the stream that a declared identifier is written as. -/
def Captures (pipeline : Pipeline) (label id : String) : Prop :=
  label ∈ pipeline.labels ∧
    ∃ position, pipeline.ids[position]? = some id ∧ label = videoStream position

theorem Captures.declared {pipeline : Pipeline} {label id : String}
    (captures : pipeline.Captures label id) : id ∈ pipeline.ids := by
  obtain ⟨_, position, found, _⟩ := captures
  exact List.mem_of_getElem? found

namespace Wired

variable {pipeline : Pipeline} (wired : pipeline.Wired)

include wired

theorem token_of_label {label : String} (provided : label ∈ pipeline.labels) :
    pipeline.table.token label = label :=
  pipeline.token_of_undeclared (wired.freshLabels label provided)

/-- Only one declaration has an identifier. -/
theorem declared_unique {first second : Nat} {id : String}
    (firstFound : pipeline.ids[first]? = some id)
    (secondFound : pipeline.ids[second]? = some id) : first = second := by
  obtain ⟨bound, _⟩ := List.getElem?_eq_some_iff.mp firstFound
  exact (List.getElem?_inj bound wired.distinctIds).mp (firstFound.trans secondFound.symm)

/-- Distinct declarations have distinct streams. -/
theorem token_inj_of_declared {first second : String} (firstDeclared : first ∈ pipeline.ids)
    (secondDeclared : second ∈ pipeline.ids) :
    pipeline.table.token first = pipeline.table.token second ↔ first = second := by
  obtain ⟨firstPosition, firstFound⟩ := List.mem_iff_getElem?.mp firstDeclared
  obtain ⟨secondPosition, secondFound⟩ := List.mem_iff_getElem?.mp secondDeclared
  rw [pipeline.token_of_declared wired.distinctIds firstFound,
    pipeline.token_of_declared wired.distinctIds secondFound, videoStream_inj]
  constructor
  · rintro rfl
    exact Option.some.inj (firstFound.symm.trans secondFound)
  · rintro rfl
    exact wired.declared_unique firstFound secondFound

/-- A label is written as the token of a declared identifier exactly when it captures it. -/
theorem token_of_declared_eq_iff_captures {label id : String} (declared : id ∈ pipeline.ids)
    (provided : label ∈ pipeline.labels) :
    pipeline.table.token id = pipeline.table.token label ↔ pipeline.Captures label id := by
  obtain ⟨position, found⟩ := List.mem_iff_getElem?.mp declared
  rw [wired.token_of_label provided, pipeline.token_of_declared wired.distinctIds found]
  constructor
  · intro same
    exact ⟨provided, position, found, same.symm⟩
  · rintro ⟨_, other, otherFound, rfl⟩
    rw [wired.declared_unique found otherFound]

/-- Two different identifiers get the same token only where one captures the other. -/
theorem token_eq_token_iff_captures {first second : String} (different : first ≠ second)
    (knowsFirst : pipeline.Knows first) (knowsSecond : pipeline.Knows second) :
    pipeline.table.token first = pipeline.table.token second ↔
      pipeline.Captures first second ∨ pipeline.Captures second first := by
  have apart : ∀ label id, pipeline.Captures label id → label ∉ pipeline.ids :=
    fun label _ captures => wired.freshLabels label captures.1
  rcases knowsFirst with firstDeclared | firstProvided <;>
    rcases knowsSecond with secondDeclared | secondProvided
  · rw [wired.token_inj_of_declared firstDeclared secondDeclared]
    refine iff_of_false different ?_
    rintro (captures | captures)
    · exact apart _ _ captures firstDeclared
    · exact apart _ _ captures secondDeclared
  · rw [wired.token_of_declared_eq_iff_captures firstDeclared secondProvided]
    exact (or_iff_right fun captures => apart _ _ captures firstDeclared).symm
  · rw [eq_comm, wired.token_of_declared_eq_iff_captures secondDeclared firstProvided]
    exact (or_iff_left fun captures => apart _ _ captures secondDeclared).symm
  · rw [wired.token_of_label firstProvided, wired.token_of_label secondProvided]
    refine iff_of_false different ?_
    rintro (captures | captures)
    · exact wired.freshLabels second secondProvided captures.declared
    · exact wired.freshLabels first firstProvided captures.declared

end Wired

end Pipeline

end FilterGraph
