/-
This file says what a record is read as if its fields may be left out.

An object holds some members under the names of the fields, and each of them fills its slot. Others
are passed over, so they may stand anywhere and even have one name. A slot that stays empty stands
for the default of its own field, whatever the other slots hold.
-/

import FilterGraph.Proofs.Json.Drafts

namespace FilterGraph.Json

/-- The members that the object has under these names are the given ones, in some order. Members
with other names may stand between them. -/
def Value.Holds (names : List String) (given : List (String × Value)) (value : Value) : Prop :=
  ∃ members, value = .object members ∧
    (members.filter fun member => member.1 ∈ names).Perm given

namespace Shape.Slots

variable {σ α : Type} {shape : Shape σ α} (slots : shape.Slots)

/-- Members that name no slot may as well be left out. -/
theorem foldlM_filter (members : List (String × Value)) (draft : σ) :
    (members.filter fun member => member.1 ∈ slots.all.map Slot.name).foldlM slots.take draft =
      members.foldlM slots.take draft := by
  induction members generalizing draft with
  | nil => rfl
  | cons member others inductionHypothesis =>
    by_cases named : member.1 ∈ slots.all.map Slot.name
    · rw [List.filter_cons, if_pos (decide_eq_true named), List.foldlM_cons, List.foldlM_cons]
      exact congrArg _ (funext inductionHypothesis)
    · have unnamed : ∀ slot ∈ slots.all, slot.name ≠ member.1 :=
        fun slot here same => named (List.mem_map.mpr ⟨slot, here, same⟩)
      rw [List.filter_cons, if_neg (mt of_decide_eq_true named), List.foldlM_cons,
        slots.take_of_unnamed unnamed]
      exact inductionHypothesis draft

/-- A draft is finished as a record if each slot holds the part of the record that it is for, or
is empty and the part is that of the default. -/
def Optional (default : α) : Prop :=
  ∀ draft record, (∀ slot ∈ slots.all, slot.get draft = some (slot.part record) ∨
    slot.get draft = none ∧ slot.part record = slot.part default) →
      shape.finish draft = .ok record

variable {slots}

/-- What an object holds under the names of the fields goes into the record, and the rest of the
record is that of the default. -/
theorem Optional.ofValue_of_holds {default : α} (optional : slots.Optional default)
    {given : List (String × Value)} {value : Value}
    (holds : value.Holds (slots.all.map Slot.name) given)
    (distinct : (given.map Prod.fst).Nodup) {record : α}
    (each : ∀ slot ∈ slots.all,
      (∃ content, (slot.name, content) ∈ given ∧ slot.means content = .ok (slot.part record)) ∨
        slot.name ∉ given.map Prod.fst ∧ slot.part record = slot.part default) :
    slots.ofValue value = .ok record := by
  obtain ⟨members, rfl, arranged⟩ := holds
  have distinctNamed := (arranged.map Prod.fst).nodup_iff.mpr distinct
  have fresh : slots.Fresh (members.filter fun member => member.1 ∈ slots.all.map Slot.name)
      shape.start := fun slot here _ _ => slots.empty slot here
  obtain ⟨final, ok⟩ := slots.exists_foldlM distinctNamed fresh <| by
    intro slot here content among
    have inGiven := arranged.mem_iff.mp among
    rcases each slot here with ⟨other, amongToo, meant⟩ | ⟨absent, _⟩
    · exact ⟨_, Value.eq_of_distinct distinct inGiven amongToo ▸ meant⟩
    · exact absurd (List.mem_map.mpr ⟨_, inGiven, rfl⟩) absent
  have filled := slots.filled_of_foldlM distinctNamed fresh ok
  rw [foldlM_filter] at ok
  rw [ofValue, ok]
  refine mapError_eq_ok_iff.mpr (optional final record fun slot here => ?_)
  obtain ⟨taken, untouched⟩ := filled slot here
  rcases each slot here with ⟨content, among, meant⟩ | ⟨absent, same⟩
  · obtain ⟨part, meantPart, got⟩ := taken content (arranged.mem_iff.mpr among)
    exact Or.inl (got.trans (congrArg some (Except.ok.inj (meantPart.symm.trans meant))))
  · refine Or.inr ⟨?_, same⟩
    rw [untouched fun content among =>
      absent (List.mem_map.mpr ⟨_, arranged.mem_iff.mp among, rfl⟩)]
    exact slots.empty slot here

end Shape.Slots

end FilterGraph.Json
