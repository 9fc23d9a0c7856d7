/-
This file says what a choice between two words is read as, in terms of the value that was written.

A text is looked up among the two words, and so is the key of an object with one member, whose
value has to be `null`. Reading the object goes on as long as it is of that form: an unknown word
comes before a value that is not `null`, and this before a second member.
-/

import FilterGraph.Json.Choice
import FilterGraph.Proofs.Json.Values

namespace FilterGraph.Json

variable {α : Type}

/-! ### No value -/

/-- The value `null`, where nothing else is to stand. -/
def Value.asNull : Value → Except Cause Unit
  | .scalar .null => .ok ()
  | value => .error (.wrongKind value.found "unit")

/-- Only `null` begins with its first letter. -/
theorem Spacing.write_eq_letter (spacing : Spacing) (level : Nat) {value : Value}
    (exact : value.Exact) {others rest : List Char}
    (letter : spacing.write level value ++ rest = 'n' :: others) : value = .scalar .null := by
  cases value with
  | list items =>
    rw [write_list] at letter
    exact absurd (List.cons.inj letter).1 (by decide)
  | object members =>
    rw [write_object] at letter
    exact absurd (List.cons.inj letter).1 (by decide)
  | scalar value =>
    rw [write] at letter
    revert letter
    refine exact.scalar.byKind ?null ?yes ?no ?integer ?text
    case null => exact fun _ => rfl
    case yes => exact fun letter => absurd (List.cons.inj letter).1 (by decide)
    case no => exact fun letter => absurd (List.cons.inj letter).1 (by decide)
    case text => exact fun content letter => absurd (List.cons.inj letter).1 (by decide)
    case integer =>
      intro number _ letter
      obtain ⟨char, digits, written, number⟩ := exists_integerText_eq_cons number
      rw [Scalar.write, Number.text, written] at letter
      rw [(List.cons.inj letter).1] at number
      exact absurd number (by decide)

namespace Choice

theorem agrees_nothing (spacing : Spacing) (level : Nat) {value : Value} (exact : value.Exact)
    {blanks rest : List Char} (blank : ∀ char ∈ blanks, isBlank char = true)
    (ends : EndsNumber rest) :
    Agrees rest ((nothing (blanks ++ (spacing.write level value ++ rest))).map fun rest =>
      ((), rest)) value.asNull := by
  have unblanked := spacing.skipBlanks_write level exact blank rest
  rw [nothing]
  split
  · next others letter =>
    rw [unblanked] at letter
    obtain rfl := spacing.write_eq_letter level exact letter
    obtain rfl := (List.cons.inj letter).2
    rfl
  · next other =>
    have noNull : value ≠ .scalar .null := by
      rintro rfl
      exact other _ unblanked
    have refused : value.asNull = .error (.wrongKind value.found "unit") := by
      rw [Value.asNull]
      exact noNull
    rw [refused]
    exact agrees_unexpected spacing level exact blank ends "unit"

/-- Behind the key and the colon stands a value that is left out of account, and then the closing
bracket. -/
theorem behindKey_colon (text : List Char) :
    (behindKey (':' :: text)).map (fun rest => ((), rest)) =
      (nothing text).map (fun rest => ((), rest)) >>= fun read =>
        Except.map (fun rest => ((), rest)) <|
          match skipBlanks read.2 with
          | [] => .error (.here .endInObject [])
          | '\x7d' :: rest => .ok rest
          | rest => .error (.here .expectedValue rest) := by
  rw [behindKey]
  simp only [colon_cons]
  cases nothing text <;> rfl

theorem agrees_behindKey (spacing : Spacing) (level : Nat) {value : Value} (exact : value.Exact)
    (others : List (String × Value)) (rest : List Char) :
    Agrees rest ((behindKey (':' :: (spacing.behindColon ++ (spacing.write (level + 1) value ++
        (spacing.more .object level (others.map (spacing.memberText (level + 1))) ++ rest))))).map
      fun rest => ((), rest))
      (value.asNull >>= fun () => if others.isEmpty then .ok () else .error .expectedValue) := by
  have read := agrees_nothing spacing (level + 1) exact spacing.behindColon_blank
    (spacing.endsNumber_more .object level (others.map (spacing.memberText (level + 1))) rest)
  rw [behindKey_colon]
  refine read.bind fun _ => ?_
  cases others with
  | nil =>
    rw [List.map_nil, Spacing.more, List.append_assoc, skipBlanks_append (spacing.gap_blank _),
      List.singleton_append, skipBlanks_cons Bracket.object.isBlank_closing]
    rfl
  | cons other others =>
    rw [List.map_cons, Spacing.more, List.cons_append, skipBlanks_cons (by decide)]
    exact ⟨_, rfl, rfl⟩

variable (choice : Choice α)

theorem agrees_word (word : String) (rest : List Char) :
    Agrees rest (choice.word (word.toList.flatMap Quoted.encodeChar ++ '"' :: rest))
      (choice.pick word) := by
  simp only [Choice.word, Quoted.body_encode, String.ofList_toList]
  cases choice.pick word with
  | error cause => exact ⟨_, rfl, rfl⟩
  | ok value => rfl

/-! ### Both forms -/

/-- What is chosen by a value. -/
def meaning : Value → Except Cause α
  | .scalar (.text word) => choice.pick word
  | .object ((word, value) :: others) =>
    choice.pick word >>= fun chosen =>
      (value.asNull >>= fun () => if others.isEmpty then .ok () else .error .expectedValue).map
        fun () => chosen
  | _ => .error .expectedValue

theorem asKey_quote {text body : List Char} (opened : skipBlanks text = '"' :: body) :
    choice.asKey text = choice.word body >>= fun read =>
      ((behindKey read.2).map fun rest => ((), rest)).map fun behind => (read.1, behind.2) := by
  simp only [asKey, opened]
  cases choice.word body with
  | error fault => rfl
  | ok read =>
    simp only [bind, Except.bind]
    cases behindKey read.2 <;> rfl

theorem agrees_asKey (spacing : Spacing) (level : Nat) {members : List (String × Value)}
    (exact : (Value.object members).Exact) (rest : List Char) :
    Agrees rest (choice.asKey
      (spacing.inside .object level (members.map (spacing.memberText (level + 1))) ++ rest))
      (choice.meaning (.object members)) := by
  cases members with
  | nil => exact ⟨_, rfl, rfl⟩
  | cons member others =>
    obtain ⟨word, value⟩ := member
    have opened : skipBlanks (spacing.inside .object level
          (((word, value) :: others).map (spacing.memberText (level + 1))) ++ rest) =
        spacing.memberText (level + 1) (word, value) ++
          (spacing.more .object level (others.map (spacing.memberText (level + 1))) ++ rest) :=
      (spacing.isPart_memberText (level + 1) (word, value)).skipBlanks_inside _
    rw [spacing.memberText_append] at opened
    rw [asKey_quote choice opened, meaning]
    refine (choice.agrees_word word _).bind fun chosen => ?_
    exact (agrees_behindKey spacing level (exact.member List.mem_cons_self) others rest).map
      fun () => chosen

theorem reader_understands : choice.reader.Understands choice.meaning := by
  intro spacing level value blanks rest exact blank ends
  have unblanked := spacing.skipBlanks_write level exact blank rest
  simp only [reader]
  rw [unblanked]
  cases value with
  | list items =>
    rw [Spacing.write_list]
    exact ⟨_, rfl, rfl⟩
  | object members =>
    rw [Spacing.write_object]
    exact choice.agrees_asKey spacing level exact rest
  | scalar value =>
    by_cases text : ∃ word, value = .text word
    · obtain ⟨word, rfl⟩ := text
      rw [Spacing.write, Scalar.write, Quoted.encode_append]
      exact choice.agrees_word word rest
    · have refused : choice.meaning (.scalar value) = .error .expectedValue := by
        cases value with
        | text word => exact absurd ⟨word, rfl⟩ text
        | _ => rfl
      obtain ⟨char, others, written, _, notObject⟩ := Scalar.exists_write_eq_cons exact.scalar
      rw [refused]
      split
      · next ended =>
        rw [Spacing.write, written] at ended
        cases ended
      · next quoted =>
        obtain ⟨word, same⟩ := spacing.write_eq_quote level exact quoted
        exact absurd ⟨word, (Value.scalar.injEq _ _).mp same⟩ text
      · next opened =>
        rw [Spacing.write, written] at opened
        exact absurd (List.cons.inj opened).1 notObject
      · exact ⟨_, rfl, rfl⟩

end Choice

end FilterGraph.Json
