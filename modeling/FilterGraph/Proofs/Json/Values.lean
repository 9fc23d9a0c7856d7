/-
This file says what the readers of whole values make of a value's text.

Any value is read back from its text, as far as the budget allows: a value that nests deeper is
refused as too deep, and for nothing else. A reader that wants a text or a list refuses every other
value as being of the wrong kind. A value nobody asks for is skipped whatever it is, since the
skipping keeps the open brackets on a list and has no budget.
-/

import FilterGraph.Json.Skip
import FilterGraph.Proofs.Json.Parts
import FilterGraph.Proofs.Json.Understanding

namespace FilterGraph.Json

variable {α : Type}

/-! ### Values of the wrong kind -/

/-- What a value is found to be where another kind is expected. -/
def Value.found : Value → Found
  | .scalar value => .scalar value
  | .list _ => .list
  | .object _ => .object

/-- A scalar's text does not begin with a bracket. -/
theorem Scalar.exists_write_eq_cons {scalar : Scalar} (exact : scalar.Exact) :
    ∃ char others, scalar.write = char :: others ∧ char ≠ '[' ∧ char ≠ '\x7b' := by
  obtain ⟨char, others, written, _, noMark⟩ := scalar.begins_write exact
  simp only [List.mem_cons, List.not_mem_nil, or_false, not_or] at noMark
  exact ⟨char, others, written, noMark.1, noMark.2.2.1⟩

/-- A value where another kind is expected is refused as what it is. -/
theorem cause_unexpected (spacing : Spacing) (level : Nat) {value : Value} (exact : value.Exact)
    {blanks rest : List Char} (blank : ∀ char ∈ blanks, isBlank char = true)
    (ends : EndsNumber rest) (expected : String) :
    (unexpected expected (blanks ++ (spacing.write level value ++ rest))).cause =
      .wrongKind value.found expected := by
  rw [unexpected, spacing.skipBlanks_write level exact blank]
  cases value with
  | scalar value =>
    obtain ⟨char, others, written, notList, notObject⟩ := Scalar.exists_write_eq_cons exact.scalar
    have read : readScalar.run ([] ++ (value.write ++ rest)) = .ok (value, rest) :=
      readScalar_write exact.scalar (List.forall_mem_nil _) ends
    rw [Spacing.write]
    split
    · next text same =>
      rw [written] at same
      exact absurd (List.cons.inj same).1 notList
    · next text same =>
      rw [written] at same
      exact absurd (List.cons.inj same).1 notObject
    · rw [List.nil_append] at read
      rw [read]
      rfl
  | list items =>
    rw [Spacing.write_list]
    rfl
  | object members =>
    rw [Spacing.write_object]
    rfl

theorem agrees_unexpected (spacing : Spacing) (level : Nat) {value : Value} (exact : value.Exact)
    {blanks rest : List Char} (blank : ∀ char ∈ blanks, isBlank char = true)
    (ends : EndsNumber rest) (expected : String) :
    Agrees (α := α) rest
      (.error (unexpected expected (blanks ++ (spacing.write level value ++ rest))))
      (.error (.wrongKind value.found expected)) :=
  ⟨_, rfl, cause_unexpected spacing level exact blank ends expected⟩

/-! ### Texts -/

/-- The text that a value is, if it is one. -/
def Value.asText : Value → Except Cause String
  | .scalar (.text content) => .ok content
  | value => .error (.wrongKind value.found "a string")

theorem Value.asText_text (content : String) : (text content).asText = .ok content :=
  rfl

/-- Only a text begins with a quote mark. -/
theorem Spacing.write_eq_quote (spacing : Spacing) (level : Nat) {value : Value}
    (exact : value.Exact) {others rest : List Char}
    (quoted : spacing.write level value ++ rest = '"' :: others) :
    ∃ content, value = .scalar (.text content) := by
  cases value with
  | list items =>
    rw [write_list] at quoted
    exact absurd (List.cons.inj quoted).1 (by decide)
  | object members =>
    rw [write_object] at quoted
    exact absurd (List.cons.inj quoted).1 (by decide)
  | scalar value =>
    rw [write] at quoted
    revert quoted
    refine exact.scalar.byKind ?null ?yes ?no ?integer ?text
    case null => exact fun quoted => absurd (List.cons.inj quoted).1 (by decide)
    case yes => exact fun quoted => absurd (List.cons.inj quoted).1 (by decide)
    case no => exact fun quoted => absurd (List.cons.inj quoted).1 (by decide)
    case text => exact fun content _ => ⟨content, rfl⟩
    case integer =>
      intro number _ quoted
      obtain ⟨char, digits, written, number⟩ := exists_integerText_eq_cons number
      rw [Scalar.write, Number.text, written] at quoted
      exact absurd (List.cons.inj quoted).1 (wordOf_eq_none number).2

theorem readText_understands : readText.Understands Value.asText := by
  intro spacing level value blanks rest exact blank ends
  simp only [readText]
  split
  · next others quoted =>
    rw [spacing.skipBlanks_write level exact blank] at quoted
    obtain ⟨content, rfl⟩ := spacing.write_eq_quote level exact quoted
    rw [Spacing.write, Scalar.write, Quoted.encode_append] at quoted
    obtain rfl := (List.cons.inj quoted).2
    simp [Quoted.body_encode, Agrees, Value.asText]
  · next notQuoted =>
    have noText : ∀ content, value ≠ .scalar (.text content) := by
      rintro content rfl
      refine notQuoted (Quoted.encode content.toList ++ rest).tail ?_
      rw [spacing.skipBlanks_write level exact blank, Spacing.write, Scalar.write,
        Quoted.encode_append]
      rfl
    have refused : value.asText = .error (.wrongKind value.found "a string") := by
      rw [Value.asText]
      exact noText
    rw [refused]
    exact agrees_unexpected spacing level exact blank ends "a string"

/-! ### Lists -/

/-- The parts of a list may be any values. -/
theorem Spacing.isPart_write (spacing : Spacing) (level : Nat) {value : Value}
    (exact : value.Exact) : Bracket.list.IsPart (spacing.write level value) :=
  ⟨spacing.beginsPart_write level exact, fun object => by cases object⟩

/-- What the items of a list mean, if the value is a list. -/
def Value.asList (meaning : Value → Except Cause α) : Value → Except Cause (List α)
  | .list items => items.mapM meaning
  | value => .error (.wrongKind value.found "a sequence")

/-- The items of a list are understood one by one. -/
theorem agrees_items {item : Reader α} {meaning : Value → Except Cause α}
    (understands : item.Understands meaning) (spacing : Spacing) (level : Nat) (items : List Value)
    (rest : List Char) (exact : ∀ value ∈ items, value.Exact) :
    Agrees rest (Bracket.list.collect item
      (spacing.inside .list level (items.map (spacing.write (level + 1))) ++ rest))
      (items.mapM meaning) :=
  Bracket.agrees_collect items
    (fun value member => spacing.isPart_write (level + 1) (exact value member))
    (fun value member rest ends =>
      understands spacing (level + 1) value [] rest (exact value member) (List.forall_mem_nil _)
        ends)

theorem readList_understands {item : Reader α} {meaning : Value → Except Cause α}
    (understands : item.Understands meaning) :
    (readList item).Understands (Value.asList meaning) := by
  intro spacing level value blanks rest exact blank ends
  simp only [readList]
  cases value with
  | list items =>
    rw [spacing.skipBlanks_write level exact blank, Spacing.write_list]
    exact agrees_items understands spacing level items rest fun _ member => exact.item member
  | scalar value =>
    split
    · next others opened =>
      obtain ⟨char, others, written, notList, _⟩ := Scalar.exists_write_eq_cons exact.scalar
      rw [spacing.skipBlanks_write level exact blank, Spacing.write, written] at opened
      exact absurd (List.cons.inj opened).1 notList
    · exact agrees_unexpected spacing level exact blank ends "a sequence"
  | object members =>
    split
    · next others opened =>
      rw [spacing.skipBlanks_write level exact blank, Spacing.write_object] at opened
      exact absurd (List.cons.inj opened).1 (by decide)
    · exact agrees_unexpected spacing level exact blank ends "a sequence"

/-! ### Nesting -/

namespace Value

/-- The value, if it does not nest deeper than the budget says. -/
def within (budget : Nat) (value : Value) : Except Cause Value :=
  if value.depth ≤ budget then .ok value else .error .tooDeep

end Value

/-- If each part is either taken or refused for one and the same cause, a list of parts is taken
if all of them are. -/
theorem mapM_eq_ite {Part : Type} {good : Part → Prop} [DecidablePred good] {f : Part → α}
    {cause : Cause} {meaning : Part → Except Cause α}
    (each : ∀ part, meaning part = if good part then .ok (f part) else .error cause)
    (parts : List Part) :
    parts.mapM meaning =
      if ∀ part ∈ parts, good part then .ok (parts.map f) else .error cause := by
  induction parts with
  | nil => exact (if_pos (List.forall_mem_nil good)).symm
  | cons part others inductionHypothesis =>
    rw [List.mapM_cons, inductionHypothesis, each]
    by_cases here : good part
    · by_cases there : ∀ part ∈ others, good part
      · rw [if_pos here, if_pos there, if_pos (List.forall_mem_cons.mpr ⟨here, there⟩)]
        rfl
      · rw [if_pos here, if_neg there, if_neg fun all => there (List.forall_mem_cons.mp all).2]
        rfl
    · rw [if_neg here, if_neg fun all => here (List.forall_mem_cons.mp all).1]
      rfl

/-! ### Members -/

/-- The parts of an object begin with their keys. -/
theorem Spacing.isPart_memberText (spacing : Spacing) (level : Nat) (member : String × Value) :
    Bracket.object.IsPart (spacing.memberText level member) :=
  ⟨spacing.beginsPart_memberText level member, fun _ => rfl⟩

theorem Spacing.memberText_append (spacing : Spacing) (level : Nat) (key : String) (value : Value)
    (rest : List Char) :
    spacing.memberText level (key, value) ++ rest =
      '"' :: (key.toList.flatMap Quoted.encodeChar ++
        '"' :: ':' :: (spacing.behindColon ++ (spacing.write level value ++ rest))) := by
  simp [memberText, Quoted.encode]

theorem colon_cons (rest : List Char) : colon (':' :: rest) = .ok rest :=
  rfl

theorem agrees_readMember {value : String → Reader α} {meaning : String → Value → Except Cause α}
    (understands : ∀ key, (value key).Understands (meaning key)) (spacing : Spacing) (level : Nat)
    {member : String × Value} (exact : member.2.Exact) {rest : List Char}
    (ends : EndsNumber rest) :
    Agrees rest ((readMember value).run (spacing.memberText level member ++ rest))
      (meaning member.1 member.2) := by
  obtain ⟨key, content⟩ := member
  rw [spacing.memberText_append]
  simp only [readMember, Quoted.body_encode, colon_cons, String.ofList_toList]
  exact understands key spacing level content _ rest exact spacing.behindColon_blank ends

/-! ### Any value -/

theorem agrees_readValueWith_scalar (inside : Option (Reader Value)) (spacing : Spacing)
    (level : Nat) {value : Scalar} (exact : value.Exact) {blanks rest : List Char}
    (blank : ∀ char ∈ blanks, isBlank char = true) (ends : EndsNumber rest) :
    Agrees rest ((readValueWith inside).run
      (blanks ++ (spacing.write level (.scalar value) ++ rest))) (.ok (.scalar value)) := by
  have read : readScalar.run ([] ++ (value.write ++ rest)) = .ok (value, rest) :=
    readScalar_write exact (List.forall_mem_nil _) ends
  obtain ⟨char, others, written, notList, notObject⟩ := Scalar.exists_write_eq_cons exact
  rw [List.nil_append] at read
  rw [Spacing.write]
  simp only [readValueWith]
  rw [skipBlanks_scalar exact blank]
  split
  · next same =>
    rw [written] at same
    exact absurd (List.cons.inj same).1 notList
  · next same =>
    rw [written] at same
    exact absurd (List.cons.inj same).1 notObject
  · simp only [Reader.map, read, Agrees]

theorem run_readValueWith_list (reader : Reader Value) {text rest : List Char}
    (opened : skipBlanks text = '[' :: rest) :
    (readValueWith (some reader)).run text =
      (Bracket.list.collect reader rest).map fun (items, rest) => (.list items, rest) := by
  simp only [readValueWith, opened, readInside]
  cases Bracket.list.collect reader rest <;> rfl

theorem run_readValueWith_object (reader : Reader Value) {text rest : List Char}
    (opened : skipBlanks text = '\x7b' :: rest) :
    (readValueWith (some reader)).run text =
      (Bracket.object.collect (readMember fun key => reader.map fun value => (key, value)) rest).map
        fun (members, rest) => (.object members, rest) := by
  simp only [readValueWith, opened, readInside, Option.map_some]
  cases Bracket.object.collect _ rest <;> rfl

theorem within_list (budget : Nat) (items : List Value) :
    (Value.list items).within (budget + 1) = (items.mapM (Value.within budget)).map .list := by
  have each (item : Value) : item.within budget =
      if item.depth ≤ budget then .ok (id item) else .error .tooDeep := rfl
  rw [mapM_eq_ite each, Value.within, Value.depth, List.map_id]
  simp only [Nat.add_le_add_iff_right, Value.depthItems_le_iff]
  split <;> rfl

theorem within_object (budget : Nat) (members : List (String × Value)) :
    (Value.object members).within (budget + 1) =
      (members.mapM fun member : String × Value =>
        (member.2.within budget).map fun value => (member.1, value)).map .object := by
  have each (member : String × Value) :
      ((member.2.within budget).map fun value => (member.1, value)) =
        if member.2.depth ≤ budget then .ok (id member) else .error .tooDeep := by
    rw [Value.within]
    split <;> rfl
  rw [mapM_eq_ite each, Value.within, Value.depth, List.map_id]
  simp only [Nat.add_le_add_iff_right, Value.depthMembers_le_iff]
  split <;> rfl

/-- Any value is read back, as far as the budget allows. -/
theorem readValue_understands (budget : Nat) :
    (readValue budget).Understands (Value.within budget) := by
  induction budget with
  | zero =>
    intro spacing level value blanks rest exact blank ends
    cases value with
    | scalar value => exact agrees_readValueWith_scalar none spacing level exact.scalar blank ends
    | list items =>
      simp only [readValue, readValueWith]
      rw [spacing.skipBlanks_write level exact blank, Spacing.write_list]
      exact ⟨_, rfl, rfl⟩
    | object members =>
      simp only [readValue, readValueWith]
      rw [spacing.skipBlanks_write level exact blank, Spacing.write_object]
      exact ⟨_, rfl, rfl⟩
  | succ budget inductionHypothesis =>
    intro spacing level value blanks rest exact blank ends
    have unblanked := spacing.skipBlanks_write level exact blank rest
    rw [readValue]
    cases value with
    | scalar value => exact agrees_readValueWith_scalar _ spacing level exact.scalar blank ends
    | list items =>
      rw [Spacing.write_list, List.cons_append] at unblanked ⊢
      rw [run_readValueWith_list _ unblanked, within_list]
      exact (agrees_items inductionHypothesis spacing level items rest
        fun _ member => exact.item member).map Value.list
    | object members =>
      rw [Spacing.write_object, List.cons_append] at unblanked ⊢
      rw [run_readValueWith_object _ unblanked, within_object]
      exact (Bracket.agrees_collect members
        (fun member _ => spacing.isPart_memberText (level + 1) member)
        (fun member here rest ends => agrees_readMember
          (fun key => inductionHypothesis.map fun value => (key, value)) spacing (level + 1)
          (exact.member here) ends)).map Value.object

end FilterGraph.Json
