/-
This file says what readers make of the texts of values.

A reader understands values in some way if, behind any blanks, it reads the text of a value as what
the value means to it and leaves what stands behind, or refuses it with the cause that the value
gives. How the text is spaced does not matter. Readers are made of readers, and so is what they
understand: a list is understood as the list of what its items mean, and refused for the first of
them that means nothing.
-/

import FilterGraph.Proofs.Json.Spacing

namespace FilterGraph.Json

/-! ### Blanks -/

theorem skipBlanks_append {blanks : List Char} (blank : ∀ char ∈ blanks, isBlank char = true)
    (text : List Char) : skipBlanks (blanks ++ text) = skipBlanks text :=
  List.dropWhile_append_of_pos blank

theorem skipBlanks_cons {char : Char} (notBlank : isBlank char = false) (others : List Char) :
    skipBlanks (char :: others) = char :: others :=
  List.dropWhile_cons_of_neg (by simp [notBlank])

/-! ### How texts begin -/

/-- The text begins with a character that is neither blank nor a mark of lists and objects. -/
def Begins (text : List Char) : Prop :=
  ∃ char others, text = char :: others ∧ isBlank char = false ∧
    char ∉ ['[', ']', '\x7b', '\x7d', ',', ':']

/-- An integer begins with its sign or a digit. -/
theorem exists_integerText_eq_cons (value : Int) :
    ∃ char others, Number.integerText value = char :: others ∧
      (char = '-' ∨ char.isDigit = true) := by
  by_cases negative : value < 0
  · exact ⟨'-', _, by rw [Number.integerText, if_pos negative], Or.inl rfl⟩
  · cases digits : Nat.toDigits 10 value.natAbs with
    | nil => exact absurd digits Nat.toDigits_ne_nil
    | cons digit others =>
      refine ⟨digit, others, by rw [Number.integerText, if_neg negative, digits], Or.inr ?_⟩
      exact Nat.isDigit_of_mem_toDigits (by omega) (Nat.le_refl 10) (digits ▸ List.mem_cons_self)

/-- What is no digit differs from every character that is one. -/
theorem ne_of_isDigit {char other : Char} (digit : char.isDigit = true)
    (notDigit : other.isDigit = false) : char ≠ other := by
  rintro rfl
  rw [digit] at notDigit
  cases notDigit

theorem Scalar.begins_write {scalar : Scalar} (exact : scalar.Exact) : Begins scalar.write := by
  refine exact.byKind ?null ?yes ?no ?integer ?text
  case null => exact ⟨'n', _, rfl, by decide, by decide⟩
  case yes => exact ⟨'t', _, rfl, by decide, by decide⟩
  case no => exact ⟨'f', _, rfl, by decide, by decide⟩
  case text => exact fun _ => ⟨'"', _, rfl, by decide, by decide⟩
  case integer =>
    intro value _
    obtain ⟨char, others, written, rfl | digit⟩ := exists_integerText_eq_cons value
    · exact ⟨'-', others, written, by decide, by decide⟩
    · have differs : ∀ other, other.isDigit = false → char ≠ other :=
        fun other => ne_of_isDigit digit
      refine ⟨char, others, written, ?_, ?_⟩
      · simp [isBlank, differs ' ' (by decide), differs '\n' (by decide),
          differs '\t' (by decide), differs '\r' (by decide)]
      · simp [differs '[' (by decide), differs ']' (by decide), differs '\x7b' (by decide),
          differs '\x7d' (by decide), differs ',' (by decide), differs ':' (by decide)]

/-! ### What was to be expected of a reading -/

variable {α β : Type}

/-- The reading gives the value that was expected and leaves the rest, or fails with the cause
that was expected. -/
def Agrees (rest : List Char) (result : Except Fault (α × List Char)) : Except Cause α → Prop
  | .ok value => result = .ok (value, rest)
  | .error cause => ∃ fault, result = .error fault ∧ fault.cause = cause

/-- What a reader reads a value as, or the cause for which it refuses it. -/
def Reader.Understands (reader : Reader α) (meaning : Value → Except Cause α) : Prop :=
  ∀ (spacing : Spacing) (level : Nat) (value : Value) (blanks rest : List Char), value.Exact →
    (∀ char ∈ blanks, isBlank char = true) → EndsNumber rest →
    Agrees rest (reader.run (blanks ++ (spacing.write level value ++ rest))) (meaning value)

/-- What is expected of a function of the value that was read. -/
theorem Agrees.map {rest : List Char} {result : Except Fault (α × List Char)}
    {expected : Except Cause α} (agrees : Agrees rest result expected) (f : α → β) :
    Agrees rest (result.map fun (value, rest) => (f value, rest)) (expected.map f) := by
  cases expected with
  | ok value =>
    obtain rfl : result = .ok (value, rest) := agrees
    rfl
  | error cause =>
    obtain ⟨fault, rfl, same⟩ := agrees
    exact ⟨fault, rfl, same⟩

/-- What is expected of a step that is taken behind another one. -/
theorem Agrees.bind {behind rest : List Char} {result : Except Fault (α × List Char)}
    {first : Except Cause α} (agrees : Agrees behind result first)
    {next : α × List Char → Except Fault (β × List Char)} {second : α → Except Cause β}
    (agreesNext : ∀ value, Agrees rest (next (value, behind)) (second value)) :
    Agrees rest (result >>= next) (first >>= second) := by
  cases first with
  | ok value =>
    obtain rfl : result = .ok (value, behind) := agrees
    exact agreesNext value
  | error cause =>
    obtain ⟨fault, rfl, same⟩ := agrees
    exact ⟨fault, rfl, same⟩

theorem Reader.run_map (reader : Reader α) (f : α → β) (text : List Char) :
    (reader.map f).run text = (reader.run text).map fun (value, rest) => (f value, rest) := by
  simp only [Reader.map]
  cases reader.run text <;> rfl

theorem Reader.Understands.map {reader : Reader α} {meaning : Value → Except Cause α}
    (understands : reader.Understands meaning) (f : α → β) :
    (reader.map f).Understands fun value => (meaning value).map f :=
  fun spacing level value blanks rest exact blank ends => by
    rw [reader.run_map]
    exact (understands spacing level value blanks rest exact blank ends).map f

/-! ### Scalars -/

/-- What a number begins with begins no word and no text. -/
theorem wordOf_eq_none {char : Char} (number : char = '-' ∨ char.isDigit = true) :
    wordOf char = none ∧ char ≠ '"' := by
  rcases number with rfl | digit
  · exact ⟨rfl, by decide⟩
  · refine ⟨?_, ne_of_isDigit digit (by decide)⟩
    unfold wordOf
    split
    · cases digit
    · cases digit
    · cases digit
    · rfl

theorem skipBlanks_scalar {scalar : Scalar} (exact : scalar.Exact) {blanks : List Char}
    (blank : ∀ char ∈ blanks, isBlank char = true) (rest : List Char) :
    skipBlanks (blanks ++ (scalar.write ++ rest)) = scalar.write ++ rest := by
  obtain ⟨char, others, written, notBlank, _⟩ := scalar.begins_write exact
  rw [skipBlanks_append blank, written]
  exact skipBlanks_cons notBlank _

/-- A scalar is read back from its text. -/
theorem readScalar_write {scalar : Scalar} (exact : scalar.Exact) {blanks rest : List Char}
    (blank : ∀ char ∈ blanks, isBlank char = true) (ends : EndsNumber rest) :
    readScalar.run (blanks ++ (scalar.write ++ rest)) = .ok (scalar, rest) := by
  simp only [readScalar, skipBlanks_scalar exact blank]
  refine exact.byKind ?null ?yes ?no ?integer ?text
  case null => rfl
  case yes => rfl
  case no => rfl
  case text =>
    intro content
    have body := Quoted.body_encode content.toList rest
    simp [Scalar.write, Quoted.encode_append, wordOf, body]
  case integer =>
    intro value fits
    have read := readNumber_integerText fits ends
    obtain ⟨char, others, written, number⟩ := exists_integerText_eq_cons value
    obtain ⟨noWord, noText⟩ := wordOf_eq_none number
    rw [written] at read
    simp only [Scalar.write, Number.text, written, List.cons_append, noWord, noText, number,
      if_false, if_true, Reader.map] at read ⊢
    rw [read]

/-! ### How parts of lists and objects begin -/

/-- The text begins with a character that is neither blank nor may stand between parts or behind
them. -/
def BeginsPart (text : List Char) : Prop :=
  ∃ char others, text = char :: others ∧ isBlank char = false ∧
    char ∉ [']', '\x7d', ',', ':']

theorem BeginsPart.skipBlanks_eq {text : List Char} (begins : BeginsPart text)
    {blanks : List Char} (blank : ∀ char ∈ blanks, isBlank char = true) (rest : List Char) :
    skipBlanks (blanks ++ (text ++ rest)) = text ++ rest := by
  obtain ⟨char, others, rfl, notBlank, _⟩ := begins
  rw [skipBlanks_append blank]
  exact skipBlanks_cons notBlank _

namespace Spacing

theorem beginsPart_write (spacing : Spacing) (level : Nat) {value : Value}
    (exact : value.Exact) : BeginsPart (spacing.write level value) := by
  cases value with
  | scalar scalar =>
    obtain ⟨char, others, written, notBlank, noMark⟩ := scalar.begins_write exact.scalar
    refine ⟨char, others, by rw [write, written], notBlank, ?_⟩
    simp only [List.mem_cons, List.not_mem_nil, or_false, not_or] at noMark ⊢
    exact ⟨noMark.2.1, noMark.2.2.2.1, noMark.2.2.2.2.1, noMark.2.2.2.2.2⟩
  | list items => exact ⟨'[', _, write_list _ _ _, by decide, by decide⟩
  | object members => exact ⟨'\x7b', _, write_object _ _ _, by decide, by decide⟩

theorem beginsPart_memberText (spacing : Spacing) (level : Nat) (member : String × Value) :
    BeginsPart (spacing.memberText level member) :=
  ⟨'"', _, rfl, by decide, by decide⟩

theorem skipBlanks_write (spacing : Spacing) (level : Nat) {value : Value} (exact : value.Exact)
    {blanks : List Char} (blank : ∀ char ∈ blanks, isBlank char = true) (rest : List Char) :
    skipBlanks (blanks ++ (spacing.write level value ++ rest)) =
      spacing.write level value ++ rest :=
  (spacing.beginsPart_write level exact).skipBlanks_eq blank rest

/-- What stands behind a part ends a number. -/
theorem endsNumber_more (spacing : Spacing) (bracket : Bracket) (level : Nat)
    (parts : List (List Char)) (rest : List Char) :
    EndsNumber (spacing.more bracket level parts ++ rest) := by
  cases parts with
  | cons part others => exact endsNumber_cons _ (by decide)
  | nil =>
    rw [more]
    cases gap : spacing.gap level with
    | nil => cases bracket <;> exact endsNumber_cons _ (by decide)
    | cons char others =>
      exact endsNumber_of_isBlank _ (spacing.gap_blank level char (gap ▸ List.mem_cons_self))

end Spacing

namespace Bracket

theorem isBlank_closing (bracket : Bracket) : isBlank bracket.closing = false := by
  cases bracket <;> decide

/-- A part of a list may be anything that begins as one; that of an object begins with a key. -/
def IsPart (bracket : Bracket) (text : List Char) : Prop :=
  BeginsPart text ∧ (bracket = .object → text.head? = some '"')

theorem IsPart.exists_eq_cons {bracket : Bracket} {text : List Char} (isPart : bracket.IsPart text)
    (rest : List Char) :
    ∃ char others, text ++ rest = char :: others ∧ isBlank char = false ∧
      char ≠ bracket.closing ∧ char ≠ ',' ∧
      bracket.part (char :: others) = .ok (.another (char :: others)) := by
  obtain ⟨⟨char, others, rfl, notBlank, noMark⟩, key⟩ := isPart
  simp only [List.mem_cons, List.not_mem_nil, or_false, not_or] at noMark
  refine ⟨char, others ++ rest, rfl, notBlank, ?_, noMark.2.2.1, ?_⟩
  · cases bracket with
    | list => exact noMark.1
    | object => exact noMark.2.1
  · cases bracket with
    | list => rfl
    | object =>
      obtain rfl := Option.some.inj (key rfl)
      rfl

variable {spacing : Spacing} {level : Nat} {bracket : Bracket} {rest : List Char}

theorem first_inside_nil :
    bracket.first (spacing.inside bracket level [] ++ rest) = .ok (.closed rest) := by
  rw [Spacing.inside, List.singleton_append, first, skipBlanks_cons bracket.isBlank_closing]
  exact if_pos rfl

/-- The first part is what stands behind the opening bracket and its blanks. -/
theorem IsPart.skipBlanks_inside {part : List Char} (isPart : bracket.IsPart part)
    (others : List (List Char)) :
    skipBlanks (spacing.inside bracket level (part :: others) ++ rest) =
      part ++ (spacing.more bracket level others ++ rest) := by
  rw [Spacing.inside, List.append_assoc, List.append_assoc]
  exact isPart.1.skipBlanks_eq (spacing.gap_blank _) _

theorem first_inside_cons {part : List Char} (isPart : bracket.IsPart part)
    (others : List (List Char)) :
    bracket.first (spacing.inside bracket level (part :: others) ++ rest) =
      .ok (.another (part ++ (spacing.more bracket level others ++ rest))) := by
  obtain ⟨char, behind, text, _, notClosing, _, begins⟩ :=
    isPart.exists_eq_cons (spacing.more bracket level others ++ rest)
  rw [first, isPart.skipBlanks_inside, text]
  simp only [notClosing, if_false, begins]

theorem after_more_nil :
    bracket.after (spacing.more bracket level [] ++ rest) = .ok (.closed rest) := by
  rw [Spacing.more, List.append_assoc, after, skipBlanks_append (spacing.gap_blank _),
    List.singleton_append, skipBlanks_cons bracket.isBlank_closing]
  exact if_pos rfl

theorem after_more_cons {part : List Char} (isPart : bracket.IsPart part)
    (others : List (List Char)) :
    bracket.after (spacing.more bracket level (part :: others) ++ rest) =
      .ok (.another (part ++ (spacing.more bracket level others ++ rest))) := by
  obtain ⟨char, behind, text, _, notClosing, _, begins⟩ :=
    isPart.exists_eq_cons (spacing.more bracket level others ++ rest)
  have comma : ',' ≠ bracket.closing := by cases bracket <;> decide
  rw [Spacing.more, List.cons_append, after, skipBlanks_cons (by decide)]
  simp only [comma, if_false, if_true]
  rw [List.append_assoc, List.append_assoc, afterComma,
    isPart.1.skipBlanks_eq (spacing.gap_blank _), text]
  simp only [notClosing, if_false, begins]

theorem fold_closed {σ : Type} (read : σ → Reader σ) (state : σ) :
    bracket.fold read state (.closed rest) = .ok (state, rest) := by
  rw [fold]

/-- A part is read, and the inside goes on behind it. -/
theorem fold_another {σ : Type} {read : σ → Reader σ} {state next : σ} {text behind : List Char}
    {continuation : Continuation} (ok : (read state).run text = .ok (next, behind))
    (follows : bracket.after behind = .ok continuation) :
    bracket.fold read state (.another text) = bracket.fold read next continuation := by
  conv =>
    lhs
    rw [fold]
  split
  · next failed => rw [ok] at failed; cases failed
  · next found =>
    obtain ⟨rfl, rfl⟩ := Prod.mk.inj (Except.ok.inj (ok.symm.trans found))
    split
    · next failed => rw [follows] at failed; cases failed
    · next found => rw [Except.ok.inj (follows.symm.trans found)]

/-- What is expected of a part and of what stands behind it. -/
theorem agrees_fold_another {σ : Type} {read : σ → Reader σ} {state : σ} {text behind : List Char}
    {first : Except Cause σ} {others : σ → Except Cause σ} {continuation : Continuation}
    (agrees : Agrees behind ((read state).run text) first)
    (follows : bracket.after behind = .ok continuation)
    (agreesOthers : ∀ next, Agrees rest (bracket.fold read next continuation) (others next)) :
    Agrees rest (bracket.fold read state (.another text)) (first >>= others) := by
  cases first with
  | error cause =>
    obtain ⟨fault, refused, same⟩ := agrees
    refine ⟨fault, ?_, same⟩
    rw [fold]
    split
    · next failed => rw [← failed, refused]
    · next ok => rw [refused] at ok; cases ok
  | ok next =>
    rw [fold_another agrees follows]
    exact agreesOthers next

/-- What is made of the parts inside a bracket, one after the other, if each of them is read as
one step. -/
theorem agrees_fold {σ Part : Type} {read : σ → Reader σ} {step : σ → Part → Except Cause σ}
    {text : Part → List Char} (parts : List Part) (part : Part) (state : σ)
    (arePart : ∀ other ∈ part :: parts, bracket.IsPart (text other))
    (each : ∀ other ∈ part :: parts, ∀ state rest, EndsNumber rest →
      Agrees rest ((read state).run (text other ++ rest)) (step state other)) :
    Agrees rest (bracket.fold read state
      (.another (text part ++ (spacing.more bracket level (parts.map text) ++ rest))))
      ((part :: parts).foldlM step state) := by
  induction parts generalizing part state with
  | nil =>
    refine agrees_fold_another (each part List.mem_cons_self state _
      (spacing.endsNumber_more bracket level _ rest)) after_more_nil fun next => ?_
    exact fold_closed read next
  | cons second others inductionHypothesis =>
    have isPart := arePart second (List.mem_cons_of_mem _ List.mem_cons_self)
    refine agrees_fold_another (each part List.mem_cons_self state _
      (spacing.endsNumber_more bracket level _ rest)) (after_more_cons isPart _) fun next => ?_
    exact inductionHypothesis second next
      (fun other member => arePart other (List.mem_cons_of_mem _ member))
      (fun other member => each other (List.mem_cons_of_mem _ member))

/-- What is made of all parts inside a bracket. -/
theorem agrees_parts {σ Part : Type} {read : σ → Reader σ} {step : σ → Part → Except Cause σ}
    {text : Part → List Char} (parts : List Part) (state : σ)
    (arePart : ∀ part ∈ parts, bracket.IsPart (text part))
    (each : ∀ part ∈ parts, ∀ state rest, EndsNumber rest →
      Agrees rest ((read state).run (text part ++ rest)) (step state part)) :
    Agrees rest
      (bracket.parts read state (spacing.inside bracket level (parts.map text) ++ rest))
      (parts.foldlM step state) := by
  rw [Bracket.parts]
  cases parts with
  | nil =>
    rw [List.map_nil, first_inside_nil]
    exact fold_closed read state
  | cons part others =>
    rw [List.map_cons, first_inside_cons (arePart part List.mem_cons_self)]
    exact agrees_fold others part state arePart each

/-- Taking the steps one by one from the front collects what they give in reverse. -/
theorem foldlM_cons_eq_mapM {Part : Type} (meaning : Part → Except Cause α) (parts : List Part)
    (read : List α) :
    parts.foldlM (fun read part => (meaning part).map (· :: read)) read =
      (parts.mapM meaning).map (·.reverse ++ read) := by
  induction parts generalizing read with
  | nil => rfl
  | cons part others inductionHypothesis =>
    rw [List.foldlM_cons, List.mapM_cons]
    cases meaning part with
    | error cause => rfl
    | ok value =>
      show others.foldlM _ (value :: read) = _
      rw [inductionHypothesis]
      show _ = Except.map _ (Except.bind (others.mapM meaning) _)
      cases others.mapM meaning with
      | error cause => rfl
      | ok values => simp [Except.map, Except.bind, pure, Except.pure]

/-- What is collected from the parts inside a bracket. -/
theorem agrees_collect {Part : Type} {reader : Reader α} {meaning : Part → Except Cause α}
    {text : Part → List Char} (parts : List Part)
    (arePart : ∀ part ∈ parts, bracket.IsPart (text part))
    (each : ∀ part ∈ parts, ∀ rest, EndsNumber rest →
      Agrees rest (reader.run (text part ++ rest)) (meaning part)) :
    Agrees rest (bracket.collect reader (spacing.inside bracket level (parts.map text) ++ rest))
      (parts.mapM meaning) := by
  have collected : Agrees rest (bracket.parts (fun read => reader.map (· :: read)) []
      (spacing.inside bracket level (parts.map text) ++ rest))
      (parts.foldlM (fun read part => (meaning part).map (· :: read)) []) :=
    agrees_parts parts [] arePart
      fun part member read rest ends => by
        rw [reader.run_map]
        exact (each part member rest ends).map (· :: read)
  rw [foldlM_cons_eq_mapM] at collected
  rw [collect]
  cases all : parts.mapM meaning with
  | ok values =>
    rw [all] at collected
    have read : bracket.parts _ [] _ = .ok (values.reverse ++ [], rest) := collected
    simp [Agrees, read]
  | error cause =>
    rw [all] at collected
    obtain ⟨fault, refused, same⟩ := collected
    exact ⟨fault, by simp only [refused], same⟩

end Bracket

end FilterGraph.Json
