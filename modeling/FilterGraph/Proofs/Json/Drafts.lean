/-
This file says which values a record is read from, and which record that is.

The members of an object fill the slots that they name, one after the other. If the keys are
distinct, no slot is filled twice, so neither the order of the members nor those that name no slot
matter. The items of a list fill the slots in their order. If all slots are needed, then what is
accepted is just what means a part for each of them, and what is read has these parts.
-/

import FilterGraph.Proofs.Json.Parts
import FilterGraph.Proofs.Json.Records
import Mathlib.Data.List.Nodup

namespace FilterGraph.Json

/-! ### Steps that may fail -/

section

variable {ε κ α β : Type} {first : Except ε α}

/-- Two steps succeed if the first does, and the second does with what the first gave. -/
theorem bind_eq_ok_iff {second : α → Except ε β} {value : β} :
    (first >>= second) = .ok value ↔
      ∃ content, first = .ok content ∧ second content = .ok value := by
  cases first with
  | error cause =>
    refine iff_of_false (fun ok => (by cases ok)) ?_
    rintro ⟨content, ok, _⟩
    cases ok
  | ok content =>
    show second content = .ok value ↔ _
    simp

/-- Two steps fail if the first does, or the second does with what the first gave. -/
theorem bind_eq_error_iff {second : α → Except ε β} {error : ε} :
    (first >>= second) = .error error ↔
      first = .error error ∨ ∃ content, first = .ok content ∧ second content = .error error := by
  cases first with
  | error cause =>
    show Except.error cause = Except.error error ↔ _
    simp
  | ok content =>
    show second content = .error error ↔ _
    simp

theorem map_eq_ok_iff {f : α → β} {value : β} :
    first.map f = .ok value ↔ ∃ content, first = .ok content ∧ f content = value := by
  cases first <;> simp [Except.map]

theorem mapError_eq_ok_iff {cause : ε → κ} {value : α} :
    first.mapError cause = .ok value ↔ first = .ok value := by
  cases first <;> simp [Except.mapError]

theorem mapError_eq_error_iff {cause : ε → κ} {error : κ} :
    first.mapError cause = .error error ↔ ∃ inner, first = .error inner ∧ cause inner = error := by
  cases first <;> simp [Except.mapError]

end

namespace Shape.Slots

variable {σ α : Type} {shape : Shape σ α}

/-! ### Filling slots by name -/

theorem eq_of_name_eq (slots : shape.Slots) {slot other : Slot σ α} (here : slot ∈ slots.all)
    (there : other ∈ slots.all) (same : slot.name = other.name) : slot = other :=
  List.inj_on_of_nodup_map slots.named_apart here there same

/-- A member that names a slot fills it, if it is empty. -/
theorem take_of_named (slots : shape.Slots) {slot : Slot σ α} (here : slot ∈ slots.all) {draft : σ}
    (empty : slot.get draft = none) (given : Value) :
    slots.take draft (slot.name, given) = (slot.means given).map (slot.set · draft) := by
  have found : slots.all.find? (·.name = slot.name) = some slot := by
    cases search : slots.all.find? (·.name = slot.name) with
    | none => simpa using List.find?_eq_none.mp search slot here
    | some other =>
      have same : other.name = slot.name := by simpa using List.find?_some search
      rw [slots.eq_of_name_eq (List.mem_of_find?_eq_some search) here same]
  simp [take, found, empty]

/-- A member that names no slot changes nothing. -/
theorem take_of_unnamed (slots : shape.Slots) {key : String}
    (unnamed : ∀ slot ∈ slots.all, slot.name ≠ key) (draft : σ) (given : Value) :
    slots.take draft (key, given) = .ok draft := by
  have search : slots.all.find? (·.name = key) = none :=
    List.find?_eq_none.mpr fun slot here => by simpa using unnamed slot here
  simp [take, search]

/-- Between the two drafts the slots were filled with what the members mean, and the slots that
are not named stayed as they were. -/
def Filled (slots : shape.Slots) (members : List (String × Value)) (draft final : σ) : Prop :=
  ∀ slot ∈ slots.all,
    (∀ given, (slot.name, given) ∈ members →
      ∃ content, slot.means given = .ok content ∧ slot.get final = some content) ∧
    ((∀ given, (slot.name, given) ∉ members) → slot.get final = slot.get draft)

/-- The slots that members name are empty. -/
def Fresh (slots : shape.Slots) (members : List (String × Value)) (draft : σ) : Prop :=
  ∀ slot ∈ slots.all, ∀ given, (slot.name, given) ∈ members → slot.get draft = none

theorem Fresh.cons {slots : shape.Slots} {member : String × Value}
    {others : List (String × Value)} {draft : σ} (fresh : slots.Fresh (member :: others) draft) :
    slots.Fresh others draft :=
  fun slot here given among => fresh slot here given (List.mem_cons_of_mem _ among)

/-- Filling a slot that is not named any more leaves those that are empty. -/
theorem Fresh.set {slots : shape.Slots} {others : List (String × Value)} {draft : σ}
    (fresh : slots.Fresh others draft) {named : Slot σ α} (here : named ∈ slots.all)
    (last : ∀ given, (named.name, given) ∉ others) (content : named.Content) :
    slots.Fresh others (named.set content draft) := by
  intro slot there given among
  have differs : slot.name ≠ named.name := fun same => last given (same ▸ among)
  rw [slots.get_set_of_ne slot there named here differs]
  exact fresh slot there given among

theorem Filled.cons_named {slots : shape.Slots} {named : Slot σ α} (here : named ∈ slots.all)
    {others : List (String × Value)} (last : ∀ given, (named.name, given) ∉ others) {given : Value}
    {content : named.Content} (meant : named.means given = .ok content) {draft final : σ}
    (filled : slots.Filled others (named.set content draft) final) :
    slots.Filled ((named.name, given) :: others) draft final := by
  intro slot there
  obtain ⟨givenLater, untouched⟩ := filled slot there
  by_cases same : slot.name = named.name
  · obtain rfl := slots.eq_of_name_eq there here same
    refine ⟨fun other among => ?_, fun absent => absurd List.mem_cons_self (absent given)⟩
    rcases List.mem_cons.mp among with first | later
    · obtain rfl := (Prod.mk.inj first).2
      exact ⟨content, meant, by rw [untouched last, slot.get_set]⟩
    · exact absurd later (last other)
  · refine ⟨fun other among => ?_, fun absent => ?_⟩
    · rcases List.mem_cons.mp among with first | later
      · exact absurd (Prod.mk.inj first).1 same
      · exact givenLater other later
    · rw [untouched fun other later => absent other (List.mem_cons_of_mem _ later)]
      exact slots.get_set_of_ne slot there named here same content draft

theorem Filled.cons_unnamed {slots : shape.Slots} {key : String}
    (unnamed : ∀ slot ∈ slots.all, slot.name ≠ key) (given : Value)
    {others : List (String × Value)} {draft final : σ} (filled : slots.Filled others draft final) :
    slots.Filled ((key, given) :: others) draft final := by
  intro slot there
  obtain ⟨givenLater, untouched⟩ := filled slot there
  refine ⟨fun other among => ?_, fun absent => ?_⟩
  · rcases List.mem_cons.mp among with first | later
    · exact absurd (Prod.mk.inj first).1 (unnamed slot there)
    · exact givenLater other later
  · exact untouched fun other later => absent other (List.mem_cons_of_mem _ later)

/-- Members with distinct keys fill the slots that they name. -/
theorem filled_of_foldlM (slots : shape.Slots) {members : List (String × Value)}
    (distinct : (members.map Prod.fst).Nodup) {draft final : σ} (fresh : slots.Fresh members draft)
    (ok : members.foldlM slots.take draft = .ok final) : slots.Filled members draft final := by
  induction members generalizing draft with
  | nil =>
    obtain rfl : draft = final := Except.ok.inj ok
    exact fun slot _ => ⟨fun _ none => absurd none List.not_mem_nil, fun _ => rfl⟩
  | cons member others inductionHypothesis =>
    obtain ⟨key, given⟩ := member
    have distinctOthers := (List.nodup_cons.mp distinct).2
    rw [List.foldlM_cons] at ok
    by_cases named : ∃ slot ∈ slots.all, slot.name = key
    · obtain ⟨slot, here, rfl⟩ := named
      obtain ⟨next, taken, ok⟩ := bind_eq_ok_iff.mp ok
      rw [slots.take_of_named here (fresh slot here given List.mem_cons_self)] at taken
      obtain ⟨content, meant, rfl⟩ := map_eq_ok_iff.mp taken
      have last := Value.notMem_of_distinct distinct
      exact (inductionHypothesis distinctOthers (fresh.cons.set here last content) ok).cons_named
        here last meant
    · have unnamed : ∀ slot ∈ slots.all, slot.name ≠ key :=
        fun slot here same => named ⟨slot, here, same⟩
      rw [slots.take_of_unnamed unnamed] at ok
      exact (inductionHypothesis distinctOthers fresh.cons ok).cons_unnamed unnamed given

/-- Members with distinct keys are accepted if each means something for the slot that it names. -/
theorem exists_foldlM (slots : shape.Slots) {members : List (String × Value)}
    (distinct : (members.map Prod.fst).Nodup) {draft : σ} (fresh : slots.Fresh members draft)
    (meant : ∀ slot ∈ slots.all, ∀ given, (slot.name, given) ∈ members →
      ∃ content, slot.means given = .ok content) :
    ∃ final, members.foldlM slots.take draft = .ok final := by
  induction members generalizing draft with
  | nil => exact ⟨draft, rfl⟩
  | cons member others inductionHypothesis =>
    obtain ⟨key, given⟩ := member
    have distinctOthers := (List.nodup_cons.mp distinct).2
    have meantOthers : ∀ slot ∈ slots.all, ∀ given, (slot.name, given) ∈ others →
        ∃ content, slot.means given = .ok content :=
      fun slot here given later => meant slot here given (List.mem_cons_of_mem _ later)
    rw [List.foldlM_cons]
    by_cases named : ∃ slot ∈ slots.all, slot.name = key
    · obtain ⟨slot, here, rfl⟩ := named
      obtain ⟨content, first⟩ := meant slot here given List.mem_cons_self
      rw [slots.take_of_named here (fresh slot here given List.mem_cons_self), first]
      exact inductionHypothesis distinctOthers
        (fresh.cons.set here (Value.notMem_of_distinct distinct) content) meantOthers
    · have unnamed : ∀ slot ∈ slots.all, slot.name ≠ key :=
        fun slot here same => named ⟨slot, here, same⟩
      rw [slots.take_of_unnamed unnamed]
      exact inductionHypothesis distinctOthers fresh.cons meantOthers

/-! ### Records that need all their fields -/

/-- A draft is finished as a record if each slot holds the part of the record that it is for. -/
def Required (slots : shape.Slots) : Prop :=
  ∀ draft value, shape.finish draft = .ok value ↔
    ∀ slot ∈ slots.all, slot.get draft = some (slot.part value)

/-- An object with distinct keys is accepted if it has a member for each field that means the part
of the record. Nothing else about it matters. -/
theorem ofValue_object_eq_ok_iff (slots : shape.Slots) (required : slots.Required)
    {members : List (String × Value)} (distinct : (members.map Prod.fst).Nodup) (value : α) :
    slots.ofValue (.object members) = .ok value ↔
      ∀ slot ∈ slots.all, ∃ given, (slot.name, given) ∈ members ∧
        slot.means given = .ok (slot.part value) := by
  have fresh : slots.Fresh members shape.start := fun slot here _ _ => slots.empty slot here
  simp only [ofValue, bind_eq_ok_iff, mapError_eq_ok_iff]
  constructor
  · rintro ⟨final, ok, finished⟩ slot here
    obtain ⟨filled, untouched⟩ := slots.filled_of_foldlM distinct fresh ok slot here
    have part : slot.get final = some (slot.part value) :=
      (required final value).mp finished slot here
    by_cases absent : ∀ given, (slot.name, given) ∉ members
    · rw [untouched absent, slots.empty slot here] at part
      cases part
    · obtain ⟨given, among⟩ := not_forall_not.mp absent
      obtain ⟨content, meant, got⟩ := filled given among
      obtain rfl := Option.some.inj (got.symm.trans part)
      exact ⟨given, among, meant⟩
  · intro meant
    have each : ∀ slot ∈ slots.all, ∀ given, (slot.name, given) ∈ members →
        slot.means given = .ok (slot.part value) := by
      intro slot here given among
      obtain ⟨other, amongToo, meantOther⟩ := meant slot here
      rwa [Value.eq_of_distinct distinct among amongToo]
    obtain ⟨final, ok⟩ := slots.exists_foldlM distinct fresh
      fun slot here given among => ⟨_, each slot here given among⟩
    refine ⟨final, ok, (required final value).mpr fun slot here => ?_⟩
    obtain ⟨given, among, meantPart⟩ := meant slot here
    obtain ⟨content, meantContent, got⟩ :=
      (slots.filled_of_foldlM distinct fresh ok slot here).1 given among
    rw [got, Except.ok.inj (meantContent.symm.trans meantPart)]

/-- Items leave the slots alone that they are not for. -/
theorem get_of_place (slots : shape.Slots) {slot : Slot σ α} (here : slot ∈ slots.all)
    {others : List (Slot σ α)} (among : ∀ other ∈ others, other ∈ slots.all)
    (apart : ∀ other ∈ others, slot.name ≠ other.name) {draft : σ} {items : List Value}
    {placed : σ × Nat} (ok : place others draft items = .ok placed) :
    slot.get placed.1 = slot.get draft := by
  induction others generalizing draft items with
  | nil =>
    cases items with
    | nil => cases ok; rfl
    | cons item behind => cases ok
  | cons other others inductionHypothesis =>
    cases items with
    | nil => cases ok; rfl
    | cons item behind =>
      rw [place] at ok
      obtain ⟨content, _, ok⟩ := bind_eq_ok_iff.mp ok
      rw [inductionHypothesis (fun other later => among other (List.mem_cons_of_mem _ later))
        (fun other later => apart other (List.mem_cons_of_mem _ later)) ok]
      exact slots.get_set_of_ne slot here other (among other List.mem_cons_self)
        (apart other List.mem_cons_self) content draft

/-- Items fill empty slots with the parts of a record if each of them means the part that its slot
is for, and there are as many items as slots. -/
theorem exists_place_iff (slots : shape.Slots) (value : α) {others : List (Slot σ α)}
    (among : ∀ other ∈ others, other ∈ slots.all) (apart : (others.map Slot.name).Nodup)
    {draft : σ} (empty : ∀ slot ∈ others, slot.get draft = none) (items : List Value) :
    (∃ placed, place others draft items = .ok placed ∧
      ∀ slot ∈ others, slot.get placed.1 = some (slot.part value)) ↔
      List.Forall₂ (fun slot item => slot.means item = .ok (slot.part value)) others items := by
  induction others generalizing draft items with
  | nil =>
    cases items with
    | nil => simp [place]
    | cons item behind => simp [place]
  | cons slot others inductionHypothesis =>
    have here := among slot List.mem_cons_self
    have amongOthers : ∀ other ∈ others, other ∈ slots.all :=
      fun other later => among other (List.mem_cons_of_mem _ later)
    have apartOthers := (List.nodup_cons.mp apart).2
    have differs : ∀ other ∈ others, slot.name ≠ other.name := by
      intro other later same
      exact (List.nodup_cons.mp apart).1 (List.mem_map.mpr ⟨other, later, same.symm⟩)
    cases items with
    | nil => simp [place, empty slot List.mem_cons_self]
    | cons item behind =>
      have emptyOthers (content : slot.Content) :
          ∀ other ∈ others, other.get (slot.set content draft) = none := by
        intro other later
        rw [slots.get_set_of_ne other (amongOthers other later) slot here
          (differs other later).symm]
        exact empty other (List.mem_cons_of_mem _ later)
      have untouched {content : slot.Content} {placed : σ × Nat}
          (ok : place others (slot.set content draft) behind = .ok placed) :
          slot.get placed.1 = some content := by
        rw [slots.get_of_place here amongOthers differs ok, slot.get_set]
      rw [place, List.forall₂_cons]
      constructor
      · rintro ⟨placed, ok, parts⟩
        obtain ⟨content, meant, ok⟩ := bind_eq_ok_iff.mp ok
        obtain rfl := Option.some.inj ((untouched ok).symm.trans (parts slot List.mem_cons_self))
        refine ⟨meant, ?_⟩
        exact (inductionHypothesis amongOthers apartOthers (emptyOthers _) behind).mp
          ⟨placed, ok, fun other later => parts other (List.mem_cons_of_mem _ later)⟩
      · rintro ⟨meant, meantOthers⟩
        obtain ⟨placed, ok, parts⟩ := (inductionHypothesis amongOthers apartOthers
          (emptyOthers (slot.part value)) behind).mpr meantOthers
        rw [meant]
        exact ⟨placed, ok, List.forall_mem_cons.mpr ⟨untouched ok, parts⟩⟩

/-- A list is accepted if it has as many items as there are fields, and each of them means the part
of the record that the field at its place is for. -/
theorem ofValue_list_eq_ok_iff (slots : shape.Slots) (required : slots.Required)
    (items : List Value) (value : α) :
    slots.ofValue (.list items) = .ok value ↔
      List.Forall₂ (fun slot item => slot.means item = .ok (slot.part value)) slots.all items := by
  rw [← slots.exists_place_iff value (fun _ here => here) slots.named_apart slots.empty items]
  simp only [ofValue, bind_eq_ok_iff, mapError_eq_ok_iff]
  exact exists_congr fun placed => and_congr_right fun _ => required placed.1 value

/-- A record is read from a value just if the value is one and its parts mean those of the record.
An object has to have distinct keys. -/
theorem ofValue_eq_ok_iff (slots : shape.Slots) (required : slots.Required) {given : Value}
    (distinct : ∀ members, given = .object members → (members.map Prod.fst).Nodup) (value : α) :
    slots.ofValue given = .ok value ↔ given.IsRecord (slots.all.map fun slot =>
      (slot.name, fun part => slot.means part = .ok (slot.part value))) := by
  cases given with
  | scalar scalar => exact ⟨fun ok => (by cases ok), fun record => (by cases record)⟩
  | list items =>
    rw [slots.ofValue_list_eq_ok_iff required, Value.isRecord_list_iff, List.forall₂_map_left_iff]
  | object members =>
    rw [slots.ofValue_object_eq_ok_iff required (distinct members rfl), Value.isRecord_object_iff,
      List.forall_mem_map]

end Shape.Slots

end FilterGraph.Json
