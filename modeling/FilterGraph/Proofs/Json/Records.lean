/-
This file says what the text of a record is read as, in terms of the value that was written.

A field of a record is a slot of the draft: it can be looked at and filled, filling one leaves the
others as they are, and a value means some content for it or is refused. An object fills the slots
that its keys name, and a list fills them from the front. Reading the text does the same step by
step, and stops with the same cause.
-/

import FilterGraph.Json.Record
import FilterGraph.Proofs.Json.Skipping

namespace FilterGraph.Json

variable {σ α β : Type}

/-! ### Slots -/

/-- A field of a record as a slot of its draft: what is in it, what a value means for it, and which
part of the finished record it becomes. -/
structure Slot (σ α : Type) where
  field : Field σ
  Content : Type
  get : σ → Option Content
  set : Content → σ → σ
  means : Value → Except Cause Content
  part : α → Content
  isGiven_eq : ∀ draft, field.isGiven draft = (get draft).isSome
  get_set : ∀ content draft, get (set content draft) = some content
  understands : ∀ bracket draft, (field.read bracket draft).Understands fun value =>
    (means value).map (set · draft)

/-- The name of the field. -/
def Slot.name (slot : Slot σ α) : String :=
  slot.field.name

/-- The slots of all fields of a shape. They are empty at the start, and filling one of them
leaves the others as they are. -/
structure Shape.Slots (shape : Shape σ α) where
  all : List (Slot σ α)
  fields_eq : shape.fields = all.map Slot.field
  named_apart : (all.map Slot.name).Nodup
  empty : ∀ slot ∈ all, slot.get shape.start = none
  get_set_of_ne : ∀ slot ∈ all, ∀ other ∈ all, slot.name ≠ other.name →
    ∀ content draft, slot.get (other.set content draft) = slot.get draft

namespace Shape.Slots

variable {shape : Shape σ α}

/-! ### What is made of a value -/

/-- A member fills the slot it names, if it names one, and no slot is filled twice. -/
def take (slots : shape.Slots) (draft : σ) (member : String × Value) : Except Cause σ :=
  match slots.all.find? (·.name = member.1) with
  | none => .ok draft
  | some slot =>
    if (slot.get draft).isSome then .error (.duplicateField slot.name)
    else (slot.means member.2).map (slot.set · draft)

/-- Items fill the slots from the front; gives the number of slots that are left over. -/
def place : List (Slot σ α) → σ → List Value → Except Cause (σ × Nat)
  | [], draft, [] => .ok (draft, 0)
  | [], _, _ :: _ => .error .trailingCharacters
  | _ :: others, draft, [] => .ok (draft, others.length + 1)
  | slot :: others, draft, value :: values =>
    slot.means value >>= fun content => place others (slot.set content draft) values

/-- The record that a value is read as. -/
def ofValue (slots : shape.Slots) : Value → Except Cause α
  | .object members =>
    members.foldlM slots.take shape.start >>= fun draft =>
      (shape.finish draft).mapError .missingField
  | .list items =>
    place slots.all shape.start items >>= fun placed =>
      (shape.finish placed.1).mapError fun _ =>
        .wrongLength (shape.fields.length - placed.2) shape.name shape.fields.length
  | value => .error (.wrongKind value.found ("struct " ++ shape.name))

/-! ### Members -/

theorem find?_fields (slots : shape.Slots) (key : String) :
    shape.fields.find? (·.name = key) = (slots.all.find? (·.name = key)).map Slot.field := by
  rw [slots.fields_eq, List.find?_map]
  rfl

theorem agrees_member (slots : shape.Slots) (spacing : Spacing) (level : Nat) (draft : σ)
    {member : String × Value} (exact : member.2.Exact) {rest : List Char}
    (ends : EndsNumber rest) :
    Agrees rest ((shape.member draft).run (spacing.memberText level member ++ rest))
      (slots.take draft member) := by
  obtain ⟨key, value⟩ := member
  rw [spacing.memberText_append]
  simp only [Shape.member, Quoted.body_encode, String.ofList_toList, slots.find?_fields, take,
    colon_cons]
  cases slots.all.find? (·.name = key) with
  | none =>
    simp only [Option.map_none]
    exact (skipValue_understands.map fun () => draft) spacing level value _ rest exact
      spacing.behindColon_blank ends
  | some slot =>
    simp only [Option.map_some, slot.isGiven_eq]
    by_cases given : (slot.get draft).isSome = true
    · rw [if_pos given, if_pos given]
      exact ⟨_, rfl, rfl⟩
    · rw [if_neg given, if_neg given]
      exact slot.understands .object draft spacing level value _ rest exact
        spacing.behindColon_blank ends

theorem byName_eq (text : List Char) :
    shape.byName text = Bracket.object.parts shape.member shape.start text >>=
      fun read => match shape.finish read.1 with
        | .error missing => .error (.here (.missingField missing) read.2)
        | .ok value => .ok (value, read.2) := by
  rw [byName]
  cases Bracket.object.parts shape.member shape.start text <;> rfl

/-- The members between the brackets of an object. -/
theorem agrees_byName (slots : shape.Slots) (spacing : Spacing) (level : Nat)
    {members : List (String × Value)} (exact : (Value.object members).Exact) (rest : List Char) :
    Agrees rest (shape.byName
      (spacing.inside .object level (members.map (spacing.memberText (level + 1))) ++ rest))
      (slots.ofValue (.object members)) := by
  have drafts : Agrees rest (Bracket.object.parts shape.member shape.start
      (spacing.inside .object level (members.map (spacing.memberText (level + 1))) ++ rest))
      (members.foldlM slots.take shape.start) :=
    Bracket.agrees_parts members shape.start
      (fun member _ => spacing.isPart_memberText (level + 1) member)
      (fun member here draft rest ends =>
        slots.agrees_member spacing (level + 1) draft (exact.member here) ends)
  rw [byName_eq, ofValue]
  refine drafts.bind fun draft => ?_
  dsimp only
  cases shape.finish draft with
  | error missing => exact ⟨_, rfl, rfl⟩
  | ok value => rfl

/-! ### Items -/

/-- The text goes on with these items: what follows is the first of them or, if there is none, the
end of the list. -/
def GoesOn (spacing : Spacing) (level : Nat) (rest : List Char)
    (follows : List Char → Except Fault Continuation) (text : List Char) : List Value → Prop
  | [] => follows text = .ok (.closed rest) ∧ closeList text = .ok rest
  | item :: others =>
    follows text = .ok (.another (spacing.write (level + 1) item ++
      (spacing.more .list level (others.map (spacing.write (level + 1))) ++ rest))) ∧
    ∃ fault, closeList text = .error fault ∧ fault.cause = .trailingCharacters

/-- A list does not end where a part begins. -/
theorem closeList_part {text behind : List Char} {char : Char}
    (begins : skipBlanks text = char :: behind) (notClosing : char ≠ ']') (notComma : char ≠ ',') :
    ∃ fault, closeList text = .error fault ∧ fault.cause = .trailingCharacters := by
  rw [closeList, begins]
  split
  · next ended => cases ended
  · next closed => exact absurd (List.cons.inj closed).1 notClosing
  · next comma => exact absurd (List.cons.inj comma).1 notComma
  · exact ⟨_, rfl, rfl⟩

/-- A list does not end where a comma is followed by a part. -/
theorem closeList_comma {text behind : List Char} {char : Char}
    (begins : skipBlanks text = char :: behind) (notClosing : char ≠ ']') :
    ∃ fault, closeList (',' :: text) = .error fault ∧ fault.cause = .trailingCharacters := by
  rw [closeList, skipBlanks_cons (by decide)]
  simp only [begins]
  split
  · next closed => exact absurd (List.cons.inj closed).1 notClosing
  · exact ⟨_, rfl, rfl⟩

theorem goesOn_inside (spacing : Spacing) (level : Nat) {items : List Value}
    (exact : ∀ item ∈ items, item.Exact) (rest : List Char) :
    GoesOn spacing level rest Bracket.list.first
      (spacing.inside .list level (items.map (spacing.write (level + 1))) ++ rest) items := by
  cases items with
  | nil => exact ⟨Bracket.first_inside_nil, rfl⟩
  | cons item others =>
    have isPart := spacing.isPart_write (level + 1) (exact item List.mem_cons_self)
    refine ⟨Bracket.first_inside_cons isPart _, ?_⟩
    obtain ⟨char, behind, text, _, notClosing, notComma, _⟩ := isPart.exists_eq_cons
      (spacing.more .list level (others.map (spacing.write (level + 1))) ++ rest)
    exact closeList_part ((isPart.skipBlanks_inside _).trans text) notClosing notComma

theorem goesOn_more (spacing : Spacing) (level : Nat) {items : List Value}
    (exact : ∀ item ∈ items, item.Exact) (rest : List Char) :
    GoesOn spacing level rest Bracket.list.after
      (spacing.more .list level (items.map (spacing.write (level + 1))) ++ rest) items := by
  cases items with
  | nil =>
    refine ⟨Bracket.after_more_nil, ?_⟩
    rw [List.map_nil, Spacing.more, List.append_assoc, closeList,
      skipBlanks_append (spacing.gap_blank _), List.singleton_append,
      skipBlanks_cons Bracket.list.isBlank_closing]
    rfl
  | cons item others =>
    have isPart := spacing.isPart_write (level + 1) (exact item List.mem_cons_self)
    refine ⟨Bracket.after_more_cons isPart _, ?_⟩
    obtain ⟨char, behind, text, _, notClosing, _, _⟩ := isPart.exists_eq_cons
      (spacing.more .list level (others.map (spacing.write (level + 1))) ++ rest)
    rw [List.map_cons, Spacing.more, List.cons_append, List.append_assoc, List.append_assoc]
    have begins := isPart.1.skipBlanks_eq (spacing.gap_blank (level + 1))
      (spacing.more .list level (others.map (spacing.write (level + 1))) ++ rest)
    exact closeList_comma (begins.trans text) notClosing

theorem agrees_items (spacing : Spacing) (level : Nat) (rest : List Char)
    {follows : List Char → Except Fault Continuation} {text : List Char} {values : List Value}
    (exact : ∀ value ∈ values, value.Exact)
    (goesOn : GoesOn spacing level rest follows text values) (all : List (Slot σ α)) (draft : σ) :
    Agrees rest ((Shape.items follows draft text (all.map Slot.field)).map
      fun (draft, left, rest) => ((draft, left), rest)) (place all draft values) := by
  induction all generalizing follows text values draft with
  | nil =>
    cases values with
    | nil => simp only [List.map_nil, Shape.items, goesOn.2, place]; rfl
    | cons value others =>
      obtain ⟨_, fault, refused, same⟩ := goesOn
      refine ⟨fault, ?_, same⟩
      simp only [List.map_nil, Shape.items, refused]
      rfl
  | cons slot others inductionHypothesis =>
    cases values with
    | nil =>
      simp only [List.map_cons, Shape.items, goesOn.1, place, List.length_map]
      rfl
    | cons value values =>
      have read := slot.understands .list draft spacing (level + 1) value []
        (spacing.more .list level (values.map (spacing.write (level + 1))) ++ rest)
        (exact value List.mem_cons_self) (List.forall_mem_nil _)
        (spacing.endsNumber_more .list level _ rest)
      rw [List.nil_append] at read
      simp only [List.map_cons, Shape.items, goesOn.1, place]
      cases meant : slot.means value with
      | error cause =>
        simp only [meant] at read
        obtain ⟨fault, refused, same⟩ := read
        refine ⟨fault, ?_, same⟩
        simp only [refused]
        rfl
      | ok content =>
        simp only [meant] at read
        have read : (slot.field.read .list draft).run _ = .ok (slot.set content draft, _) := read
        simp only [read]
        have exactOthers : ∀ value ∈ values, value.Exact :=
          fun other member => exact other (List.mem_cons_of_mem _ member)
        exact inductionHypothesis exactOthers (goesOn_more spacing level exactOthers rest) _

theorem byPosition_eq (text : List Char) :
    shape.byPosition text =
      (Shape.items Bracket.list.first shape.start text shape.fields).map
        (fun (draft, left, rest) => ((draft, left), rest)) >>=
      fun read => match shape.finish read.1.1 with
        | .error _ => .error (.here (.wrongLength (shape.fields.length - read.1.2) shape.name
            shape.fields.length) read.2)
        | .ok value => .ok (value, read.2) := by
  rw [byPosition]
  cases Shape.items Bracket.list.first shape.start text shape.fields <;> rfl

/-- The items between the brackets of a list. -/
theorem agrees_byPosition (slots : shape.Slots) (spacing : Spacing) (level : Nat)
    {values : List Value} (exact : (Value.list values).Exact) (rest : List Char) :
    Agrees rest (shape.byPosition
      (spacing.inside .list level (values.map (spacing.write (level + 1))) ++ rest))
      (slots.ofValue (.list values)) := by
  have exactItems : ∀ value ∈ values, value.Exact := fun value member => exact.item member
  have placed := agrees_items spacing level rest exactItems
    (goesOn_inside spacing level exactItems rest) slots.all shape.start
  rw [← slots.fields_eq] at placed
  rw [byPosition_eq, ofValue]
  refine placed.bind fun placed => ?_
  dsimp only
  cases shape.finish placed.1 with
  | error missing => exact ⟨_, rfl, rfl⟩
  | ok value => rfl

/-! ### Records -/

/-- A record is read as what its value means, in whichever of the two ways it is written. -/
theorem reader_understands (slots : shape.Slots) : shape.reader.Understands slots.ofValue := by
  intro spacing level value blanks rest exact blank ends
  simp only [Shape.reader]
  cases value with
  | object members =>
    rw [spacing.skipBlanks_write level exact blank, Spacing.write_object]
    exact slots.agrees_byName spacing level exact rest
  | list values =>
    rw [spacing.skipBlanks_write level exact blank, Spacing.write_list]
    exact slots.agrees_byPosition spacing level exact rest
  | scalar value =>
    obtain ⟨char, others, written, notList, notObject⟩ := Scalar.exists_write_eq_cons exact.scalar
    have unblanked := spacing.skipBlanks_write level exact blank rest
    rw [Spacing.write, written] at unblanked
    split
    · next opened =>
      rw [Spacing.write, written, unblanked] at opened
      exact absurd (List.cons.inj opened).1 notObject
    · next opened =>
      rw [Spacing.write, written, unblanked] at opened
      exact absurd (List.cons.inj opened).1 notList
    · exact agrees_unexpected spacing level exact blank ends _

end Shape.Slots

/-! ### Slots from readers -/

/-- A value that is well formed and fits the field changes the draft. -/
theorem Field.agrees_read (field : Field σ) (bracket : Bracket) (draft : σ)
    {text rest : List Char} {expected : Except Cause (Except Cause (σ → σ))}
    (agrees : Agrees rest (field.value.run text) expected) :
    Agrees rest ((field.read bracket draft).run text) ((expected >>= id).map (· draft)) := by
  rcases expected with cause | cause | change
  · obtain ⟨fault, refused, same⟩ := agrees
    exact ⟨fault, by simp only [Field.read, refused], same⟩
  · have read : field.value.run text = .ok (.error cause, rest) := agrees
    exact ⟨.here cause (bracket.leave rest), by simp only [Field.read, read], rfl⟩
  · have read : field.value.run text = .ok (.ok change, rest) := agrees
    simp only [Field.read, read]
    rfl

/-- A field that takes whatever is read for it. -/
theorem Field.read_sure {field : Field σ} {set : β → σ → σ} {meaning : Value → Except Cause β}
    (understands : field.value.Understands fun value =>
      (meaning value).map fun content => .ok (set content)) (bracket : Bracket) (draft : σ) :
    (field.read bracket draft).Understands fun value => (meaning value).map (set · draft) := by
  intro spacing level value blanks rest exact blank ends
  have read := field.agrees_read bracket draft
    (understands spacing level value blanks rest exact blank ends)
  cases meant : meaning value with
  | error cause =>
    simp only [meant] at read ⊢
    exact read
  | ok content =>
    simp only [meant] at read ⊢
    exact read

/-- A field for which what was read may turn out not to fit. -/
theorem Field.read_fitting {γ : Type} {field : Field σ} {set : β → σ → σ}
    {meaning : Value → Except Cause γ} {fitting : γ → Except Cause β}
    (understands : field.value.Understands fun value =>
      ((meaning value).map fitting).map fun content => content.map set)
    (bracket : Bracket) (draft : σ) :
    (field.read bracket draft).Understands fun value =>
      (meaning value >>= fitting).map (set · draft) := by
  intro spacing level value blanks rest exact blank ends
  have read := field.agrees_read bracket draft
    (understands spacing level value blanks rest exact blank ends)
  cases meant : meaning value with
  | error cause =>
    simp only [meant] at read ⊢
    exact read
  | ok whole =>
    simp only [meant] at read ⊢
    show Agrees rest _ ((fitting whole).map (set · draft))
    cases fits : fitting whole with
    | error cause =>
      simp only [Except.map, fits] at read ⊢
      exact read
    | ok content =>
      simp only [Except.map, fits] at read ⊢
      exact read

/-- The slot of a field that takes whatever is read for it. -/
def Slot.sure (name : String) {reader : Reader β} {meaning : Value → Except Cause β}
    (understands : reader.Understands meaning) (get : σ → Option β) (set : β → σ → σ)
    (part : α → β) (get_set : ∀ content draft, get (set content draft) = some content) :
    Slot σ α where
  field := {
    name
    isGiven := fun draft => (get draft).isSome
    value := reader.map fun content => .ok (set content) }
  Content := β
  get
  set
  means := meaning
  part
  isGiven_eq _ := rfl
  get_set
  understands := Field.read_sure (understands.map _)

/-- The slot of a field for which what was read may turn out not to fit. -/
def Slot.fitting {γ : Type} (name : String) {reader : Reader γ} {meaning : Value → Except Cause γ}
    (understands : reader.Understands meaning) (fitting : γ → Except Cause β) (get : σ → Option β)
    (set : β → σ → σ) (part : α → β)
    (get_set : ∀ content draft, get (set content draft) = some content) : Slot σ α where
  field := {
    name
    isGiven := fun draft => (get draft).isSome
    value := (reader.map fitting).map fun content => content.map set }
  Content := β
  get
  set
  means value := meaning value >>= fitting
  part
  isGiven_eq _ := rfl
  get_set
  understands := Field.read_fitting ((understands.map fitting).map _)

/-! ### Whole texts -/

/-- A whole text is read as what its value means, or refused with the cause that the value
gives. Blanks behind the value do not matter. -/
theorem Reader.Understands.readAll_append {reader : Reader α} {meaning : Value → Except Cause α}
    (understands : reader.Understands meaning) (spacing : Spacing) {value : Value}
    (exact : value.Exact) {blanks : List Char} (blank : ∀ char ∈ blanks, isBlank char = true) :
    (reader.readAll (String.ofList (spacing.write 0 value ++ blanks))).mapError Problem.cause =
      meaning value := by
  have ends : EndsNumber blanks := by
    cases blanks with
    | nil => exact endsNumber_nil
    | cons char others => exact endsNumber_of_isBlank others (blank char List.mem_cons_self)
  have behind : onlyBlanks blanks = .ok () := by
    rw [onlyBlanks, ← List.append_nil blanks, skipBlanks_append blank]
    rfl
  have read := understands spacing 0 value [] blanks exact (List.forall_mem_nil _) ends
  rw [List.nil_append] at read
  simp only [Reader.readAll, String.toList_ofList]
  cases meant : meaning value with
  | error cause =>
    rw [meant] at read
    obtain ⟨fault, refused, same⟩ := read
    rw [refused, ← same]
    rfl
  | ok content =>
    rw [meant] at read
    have read : reader.run (spacing.write 0 value ++ blanks) = .ok (content, blanks) := read
    simp only [read, behind]
    rfl

theorem Reader.Understands.readAll {reader : Reader α} {meaning : Value → Except Cause α}
    (understands : reader.Understands meaning) (spacing : Spacing) {value : Value}
    (exact : value.Exact) :
    (reader.readAll (String.ofList (spacing.write 0 value))).mapError Problem.cause =
      meaning value := by
  have read := understands.readAll_append spacing exact (List.forall_mem_nil _)
  rwa [List.append_nil] at read

/-- The same for a value that may turn out not to fit. -/
theorem Reader.Understands.readAllFitting {reader : Reader (Except Cause α)}
    {meaning : Value → Except Cause (Except Cause α)} (understands : reader.Understands meaning)
    (spacing : Spacing) {value : Value} (exact : value.Exact) :
    (reader.readAllFitting (String.ofList (spacing.write 0 value))).mapError Problem.cause =
      meaning value >>= id := by
  have read := understands spacing 0 value [] [] exact (List.forall_mem_nil _) endsNumber_nil
  rw [List.nil_append, List.append_nil] at read
  simp only [Reader.readAllFitting, String.toList_ofList]
  cases meant : meaning value with
  | error cause =>
    rw [meant] at read
    obtain ⟨fault, refused, same⟩ := read
    rw [refused, ← same]
    rfl
  | ok fitting =>
    rw [meant] at read
    have read : reader.run (spacing.write 0 value) = .ok (fitting, []) := read
    cases fitting with
    | error cause =>
      simp only [read]
      rfl
    | ok content =>
      simp only [read]
      rfl

end FilterGraph.Json
