/-
This file says what it means for a value to be a record, and which limits a value's parts share
with it.

A record is an object that has a member for each of some fields, or a list of them in order. That
no object has a key twice and that a value nests no deeper than so many levels is true of the parts
of a value if it is true of the value, with one level less.
-/

import FilterGraph.Proofs.Json.Spacing
import Mathlib.Data.List.Forall2
import Mathlib.Data.List.Nodup

namespace FilterGraph.Json

namespace Value

/-! ### Parts -/

/-- The second value is an item or a member of the first. -/
inductive HasPart : Value → Value → Prop where
  | item {items : List Value} {item : Value} (member : item ∈ items) : HasPart (.list items) item
  | member {members : List (String × Value)} {key : String} {part : Value}
      (here : (key, part) ∈ members) : HasPart (.object members) part

theorem depthItems_le_iff {items : List Value} {budget : Nat} :
    depthItems items ≤ budget ↔ ∀ item ∈ items, item.depth ≤ budget := by
  induction items with
  | nil => simp [depthItems]
  | cons item others inductionHypothesis =>
    rw [depthItems, Nat.max_le, inductionHypothesis, List.forall_mem_cons]

theorem depthMembers_le_iff {members : List (String × Value)} {budget : Nat} :
    depthMembers members ≤ budget ↔ ∀ member ∈ members, member.2.depth ≤ budget := by
  induction members with
  | nil => simp [depthMembers]
  | cons member others inductionHypothesis =>
    obtain ⟨key, value⟩ := member
    rw [depthMembers, Nat.max_le, inductionHypothesis, List.forall_mem_cons]

/-- A member whose key is not repeated. -/
theorem notMem_of_distinct {key : String} {given : Value} {others : List (String × Value)}
    (distinct : (((key, given) :: others).map Prod.fst).Nodup) (other : Value) :
    (key, other) ∉ others :=
  fun later => (List.nodup_cons.mp distinct).1 (List.mem_map.mpr ⟨(key, other), later, rfl⟩)

/-- Of members with distinct keys only one has a given key. -/
theorem eq_of_distinct {members : List (String × Value)} (distinct : (members.map Prod.fst).Nodup)
    {key : String} {first second : Value} (here : (key, first) ∈ members)
    (there : (key, second) ∈ members) : first = second :=
  (Prod.mk.inj (List.inj_on_of_nodup_map distinct here there rfl)).2

/-- No object has a key twice, at any depth. -/
def Distinct (value : Value) : Prop :=
  ∀ members, Occurs (.object members) value → (members.map Prod.fst).Nodup

theorem distinct_scalar (scalar : Scalar) : (Value.scalar scalar).Distinct := by
  rintro members (_ | _)

theorem distinct_list_iff {items : List Value} :
    (Value.list items).Distinct ↔ ∀ item ∈ items, item.Distinct := by
  constructor
  · exact fun distinct item member members inside => distinct members (.item member inside)
  · rintro each members (_ | ⟨member, inside⟩)
    exact each _ member members inside

theorem distinct_object_iff {members : List (String × Value)} :
    (Value.object members).Distinct ↔
      (members.map Prod.fst).Nodup ∧ ∀ member ∈ members, member.2.Distinct := by
  constructor
  · exact fun distinct => ⟨distinct members .here,
      fun member here others inside => distinct others (.member here inside)⟩
  · rintro ⟨keys, each⟩ others (_ | _ | ⟨member, inside⟩)
    · exact keys
    · exact each _ member others inside

theorem exact_scalar_iff {scalar : Scalar} : (Value.scalar scalar).Exact ↔ scalar.Exact := by
  constructor
  · exact Exact.scalar
  · rintro exact other (_ | _)
    exact exact

theorem exact_text (content : String) : (text content).Exact :=
  exact_scalar_iff.mpr trivial

theorem exact_list_iff {items : List Value} :
    (Value.list items).Exact ↔ ∀ item ∈ items, item.Exact := by
  constructor
  · exact fun exact item member => exact.item member
  · rintro each scalar (_ | ⟨member, inside⟩)
    exact each _ member scalar inside

theorem exact_object_iff {members : List (String × Value)} :
    (Value.object members).Exact ↔ ∀ member ∈ members, member.2.Exact := by
  constructor
  · exact fun exact member here => exact.member here
  · rintro each scalar (_ | _ | ⟨member, inside⟩)
    exact each _ member scalar inside

/-- No object in the value has a key twice, and the value nests no deeper than the budget says. -/
structure Regular (budget : Nat) (value : Value) : Prop where
  distinct : value.Distinct
  depth_le : value.depth ≤ budget

theorem Regular.keys {budget : Nat} {value : Value} (regular : value.Regular budget)
    (members : List (String × Value)) (object : value = .object members) :
    (members.map Prod.fst).Nodup :=
  regular.distinct members (object ▸ .here)

theorem Regular.part {budget : Nat} {value : Value} (regular : value.Regular (budget + 1))
    (part : Value) (hasPart : value.HasPart part) : part.Regular budget := by
  cases hasPart with
  | item member =>
    refine ⟨fun members inside => regular.distinct members (.item member inside), ?_⟩
    exact depthItems_le_iff.mp (Nat.le_of_succ_le_succ regular.depth_le) part member
  | member here =>
    refine ⟨fun members inside => regular.distinct members (.member here inside), ?_⟩
    exact depthMembers_le_iff.mp (Nat.le_of_succ_le_succ regular.depth_le) _ here

/-! ### Records -/

/-- The value is a record with these fields, each of which is to have a value of its kind: it is an
object with a member for each of them, or a list of them in their order. What else is in the object
does not matter. -/
inductive IsRecord (fields : List (String × (Value → Prop))) : Value → Prop where
  | object {members : List (String × Value)}
      (each : ∀ field ∈ fields, ∃ part, (field.1, part) ∈ members ∧ field.2 part) :
      IsRecord fields (.object members)
  | list {items : List Value} (each : List.Forall₂ (fun field item => field.2 item) fields items) :
      IsRecord fields (.list items)

theorem isRecord_object_iff {fields : List (String × (Value → Prop))}
    {members : List (String × Value)} :
    (Value.object members).IsRecord fields ↔
      ∀ field ∈ fields, ∃ part, (field.1, part) ∈ members ∧ field.2 part := by
  refine ⟨fun record => ?_, .object⟩
  cases record with
  | object each => exact each

theorem isRecord_list_iff {fields : List (String × (Value → Prop))} {items : List Value} :
    (Value.list items).IsRecord fields ↔
      List.Forall₂ (fun field item => field.2 item) fields items := by
  refine ⟨fun record => ?_, .list⟩
  cases record with
  | list each => exact each

/-- It is enough to know of the parts what is asked of them. -/
theorem isRecord_congr {first second : List (String × (Value → Prop))} {value : Value}
    {Good : Value → Prop} (good : ∀ part, value.HasPart part → Good part)
    (same : List.Forall₂ (fun first second => first.1 = second.1 ∧
      ∀ part, Good part → (first.2 part ↔ second.2 part)) first second) :
    value.IsRecord first ↔ value.IsRecord second := by
  cases value with
  | scalar scalar => exact ⟨fun record => (by cases record), fun record => (by cases record)⟩
  | object members =>
    rw [isRecord_object_iff, isRecord_object_iff]
    induction same with
    | nil => rfl
    | cons head _ inductionHypothesis =>
      obtain ⟨name, agree⟩ := head
      rw [List.forall_mem_cons, List.forall_mem_cons, inductionHypothesis, name]
      exact and_congr_left fun _ => exists_congr fun part =>
        and_congr_right fun here => agree part (good part (.member here))
  | list items =>
    have goodItems : ∀ item ∈ items, Good item := fun item member => good item (.item member)
    clear good
    rw [isRecord_list_iff, isRecord_list_iff]
    induction same generalizing items with
    | nil => cases items <;> simp
    | cons head _ inductionHypothesis =>
      cases items with
      | nil => simp
      | cons item others =>
        obtain ⟨goodItem, goodOthers⟩ := List.forall_mem_cons.mp goodItems
        rw [List.forall₂_cons, List.forall₂_cons]
        exact and_congr (head.2 item goodItem) (inductionHypothesis others goodOthers)

/-! ### Lists -/

variable {α : Type}

/-- The value is a list whose items are of the kind, one for each of the contents. -/
def IsListOf (value : Value) (kind : Value → α → Prop) (contents : List α) : Prop :=
  ∃ items, value = .list items ∧ List.Forall₂ kind items contents

theorem isListOf_congr {first second : Value → α → Prop} {value : Value} {Good : Value → Prop}
    (good : ∀ part, value.HasPart part → Good part)
    (same : ∀ part, Good part → ∀ content, first part content ↔ second part content)
    (contents : List α) : value.IsListOf first contents ↔ value.IsListOf second contents := by
  refine exists_congr fun items => and_congr_right ?_
  rintro rfl
  have goodItems : ∀ item ∈ items, Good item := fun item member => good item (.item member)
  clear good
  induction items generalizing contents with
  | nil => cases contents <;> simp
  | cons item others inductionHypothesis =>
    obtain ⟨goodItem, goodOthers⟩ := List.forall_mem_cons.mp goodItems
    cases contents with
    | nil => simp
    | cons content contents =>
      rw [List.forall₂_cons, List.forall₂_cons]
      exact and_congr (same item goodItem content) (inductionHypothesis contents goodOthers)

end Value

end FilterGraph.Json
