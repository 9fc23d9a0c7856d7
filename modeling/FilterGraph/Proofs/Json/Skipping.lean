/-
This file shows that the text of every value is skipped.

The skipping remembers which brackets are open and nothing else. Behind a value it stands before
the next part or the closing bracket of the innermost one, whatever the value was. So a value is
passed in one go, first each of its parts and then what closes it, and a value at any depth is
passed like one on its own.
-/

import FilterGraph.Proofs.Json.Values

namespace FilterGraph.Json

namespace Skip

variable {bracket : Bracket} {brackets : List Bracket} {text rest : List Char} {char : Char}

/-! ### Single steps -/

theorem skip_value_list (opened : skipBlanks text = '[' :: rest) :
    skip .value brackets text = skip .opened (.list :: brackets) rest := by
  rw [skip]
  split
  · next found =>
    obtain rfl := (List.cons.inj (opened.symm.trans found)).2
    rfl
  · next found => exact absurd (List.cons.inj (opened.symm.trans found)).1 (by decide)
  · next noList _ => exact absurd opened (noList rest)

theorem skip_value_object (opened : skipBlanks text = '\x7b' :: rest) :
    skip .value brackets text = skip .opened (.object :: brackets) rest := by
  rw [skip]
  split
  · next found => exact absurd (List.cons.inj (opened.symm.trans found)).1 (by decide)
  · next found =>
    obtain rfl := (List.cons.inj (opened.symm.trans found)).2
    rfl
  · next noObject => exact absurd opened (noObject rest)

theorem skip_value_scalar {others : List Char} (begins : skipBlanks text = char :: others)
    (notList : char ≠ '[') (notObject : char ≠ '\x7b')
    (passed : scalar (char :: others) = .ok rest) :
    skip .value brackets text = skip .after brackets rest := by
  rw [skip]
  split
  · next found => exact absurd (List.cons.inj (begins.symm.trans found)).1 notList
  · next found => exact absurd (List.cons.inj (begins.symm.trans found)).1 notObject
  · rw [begins]
    split
    · next failed => rw [passed] at failed; cases failed
    · next found => rw [Except.ok.inj (passed.symm.trans found)]

theorem skip_opened_closing (closed : skipBlanks text = bracket.closing :: rest) :
    skip .opened (bracket :: brackets) text = skip .after brackets rest := by
  rw [skip]
  split
  · next ended => rw [closed] at ended; cases ended
  · next found =>
    obtain ⟨rfl, rfl⟩ := List.cons.inj (closed.symm.trans found)
    exact if_pos rfl

theorem skip_opened_part {others : List Char} (begins : skipBlanks text = char :: others)
    (notClosing : char ≠ bracket.closing) (passed : part bracket (char :: others) = .ok rest) :
    skip .opened (bracket :: brackets) text = skip .value (bracket :: brackets) rest := by
  conv =>
    lhs
    rw [skip]
  split
  · next ended => rw [begins] at ended; cases ended
  · next found =>
    obtain ⟨rfl, rfl⟩ := List.cons.inj (begins.symm.trans found)
    rw [if_neg notClosing]
    split
    · next failed => rw [passed] at failed; cases failed
    · next found => rw [Except.ok.inj (passed.symm.trans found)]

theorem skip_after_closing (closed : skipBlanks text = bracket.closing :: rest) :
    skip .after (bracket :: brackets) text = skip .after brackets rest := by
  rw [skip]
  split
  · next ended => rw [closed] at ended; cases ended
  · next found =>
    obtain ⟨rfl, rfl⟩ := List.cons.inj (closed.symm.trans found)
    exact if_pos rfl

theorem skip_after_comma {others : List Char} (comma : skipBlanks text = ',' :: others)
    (passed : part bracket others = .ok rest) :
    skip .after (bracket :: brackets) text = skip .value (bracket :: brackets) rest := by
  have notClosing : ',' ≠ bracket.closing := by cases bracket <;> decide
  conv =>
    lhs
    rw [skip]
  split
  · next ended => rw [comma] at ended; cases ended
  · next found =>
    obtain ⟨rfl, rfl⟩ := List.cons.inj (comma.symm.trans found)
    rw [if_neg notClosing, if_pos rfl]
    split
    · next failed => rw [passed] at failed; cases failed
    · next found => rw [Except.ok.inj (passed.symm.trans found)]

/-! ### Scalars and keys -/

theorem scalar_write {value : Scalar} (exact : value.Exact) (ends : EndsNumber rest) :
    scalar (value.write ++ rest) = .ok rest := by
  refine exact.byKind ?null ?yes ?no ?integer ?text
  case null => rfl
  case yes => rfl
  case no => rfl
  case text =>
    intro content
    rw [Scalar.write, Quoted.encode_append]
    exact Quoted.skipBody_encode content.toList rest
  case integer =>
    intro number fits
    have scanned := Literal.scan_integerText .invalidNumber number ends
    obtain ⟨first, others, written, begins⟩ := exists_integerText_eq_cons number
    obtain ⟨noWord, noText⟩ := wordOf_eq_none begins
    rw [written] at scanned
    simp only [Scalar.write, Number.text, written, List.cons_append, scalar, noWord, noText, begins,
      if_false, if_true] at scanned ⊢
    rw [scanned]

theorem key_memberText (spacing : Spacing) (level : Nat) (member : String × Value)
    {blanks : List Char} (blank : ∀ char ∈ blanks, isBlank char = true) (rest : List Char) :
    key (blanks ++ (spacing.memberText level member ++ rest)) =
      .ok (spacing.behindColon ++ (spacing.write level member.2 ++ rest)) := by
  obtain ⟨name, value⟩ := member
  rw [key, (spacing.beginsPart_memberText level _).skipBlanks_eq blank, spacing.memberText_append]
  simp only [if_true, Quoted.skipBody_encode, colon_cons]

/-! ### Parts -/

/-- Behind an opening bracket or a comma the part is passed, and what stands behind it is left. -/
def Passes (bracket : Bracket) (brackets : List Bracket) (text : List Char) : Prop :=
  ∀ blanks rest, (∀ char ∈ blanks, isBlank char = true) → EndsNumber rest →
    ∃ behind, part bracket (blanks ++ (text ++ rest)) = .ok behind ∧
      skip .value (bracket :: brackets) behind = skip .after (bracket :: brackets) rest

variable {spacing : Spacing} {level : Nat}

theorem skip_more {parts : List (List Char)}
    (pass : ∀ part ∈ parts, Passes bracket brackets part) (rest : List Char) :
    skip .after (bracket :: brackets) (spacing.more bracket level parts ++ rest) =
      skip .after brackets rest := by
  induction parts with
  | nil =>
    refine skip_after_closing ?_
    rw [Spacing.more, List.append_assoc, skipBlanks_append (spacing.gap_blank _)]
    exact skipBlanks_cons bracket.isBlank_closing rest
  | cons part others inductionHypothesis =>
    obtain ⟨behind, passed, skipped⟩ := pass part List.mem_cons_self _
      (spacing.more bracket level others ++ rest) (spacing.gap_blank (level + 1))
      (spacing.endsNumber_more bracket level others rest)
    have comma : skipBlanks (spacing.more bracket level (part :: others) ++ rest) =
        ',' :: (spacing.gap (level + 1) ++
          (part ++ (spacing.more bracket level others ++ rest))) := by
      rw [Spacing.more, List.cons_append, skipBlanks_cons (by decide), List.append_assoc,
        List.append_assoc]
    rw [skip_after_comma comma passed, skipped]
    exact inductionHypothesis fun part member => pass part (List.mem_cons_of_mem _ member)

theorem skip_inside {parts : List (List Char)} (areParts : ∀ part ∈ parts, bracket.IsPart part)
    (pass : ∀ part ∈ parts, Passes bracket brackets part) (rest : List Char) :
    skip .opened (bracket :: brackets) (spacing.inside bracket level parts ++ rest) =
      skip .after brackets rest := by
  cases parts with
  | nil => exact skip_opened_closing (skipBlanks_cons bracket.isBlank_closing rest)
  | cons part others =>
    obtain ⟨behind, passed, skipped⟩ := pass part List.mem_cons_self []
      (spacing.more bracket level others ++ rest) (List.forall_mem_nil _)
      (spacing.endsNumber_more bracket level others rest)
    have isPart := areParts part List.mem_cons_self
    obtain ⟨char, behindFirst, text, _, notClosing, _, _⟩ :=
      isPart.exists_eq_cons (spacing.more bracket level others ++ rest)
    have begins := (isPart.skipBlanks_inside others).trans text
    rw [List.nil_append, text] at passed
    rw [skip_opened_part begins notClosing passed, skipped]
    exact skip_more (fun part member => pass part (List.mem_cons_of_mem _ member)) rest

/-! ### Values -/

/-- A value is passed, whatever it is and whatever brackets are open around it. -/
theorem skip_write (spacing : Spacing) (value : Value) (exact : value.Exact) :
    ∀ (level : Nat) (brackets : List Bracket) (blanks rest : List Char),
      (∀ char ∈ blanks, isBlank char = true) → EndsNumber rest →
      skip .value brackets (blanks ++ (spacing.write level value ++ rest)) =
        skip .after brackets rest := by
  induction value using Value.byParts with
  | scalar value =>
    intro level brackets blanks rest blank ends
    obtain ⟨char, others, written, notList, notObject⟩ := Scalar.exists_write_eq_cons exact.scalar
    have begins := spacing.skipBlanks_write level exact blank rest
    have passed := scalar_write exact.scalar ends
    rw [Spacing.write, written, List.cons_append] at begins
    rw [written, List.cons_append] at passed
    rw [Spacing.write, written]
    exact skip_value_scalar begins notList notObject passed
  | list items inductionHypothesis =>
    intro level brackets blanks rest blank ends
    have opened := spacing.skipBlanks_write level exact blank rest
    rw [Spacing.write_list, List.cons_append] at opened ⊢
    rw [skip_value_list opened]
    refine skip_inside ?_ ?_ rest
    · intro text written
      obtain ⟨item, member, rfl⟩ := List.mem_map.mp written
      exact spacing.isPart_write (level + 1) (exact.item member)
    · intro text written blanks rest blank ends
      obtain ⟨item, member, rfl⟩ := List.mem_map.mp written
      exact ⟨_, rfl, inductionHypothesis item member (exact.item member) (level + 1)
        (.list :: brackets) blanks rest blank ends⟩
  | object members inductionHypothesis =>
    intro level brackets blanks rest blank ends
    have opened := spacing.skipBlanks_write level exact blank rest
    rw [Spacing.write_object, List.cons_append] at opened ⊢
    rw [skip_value_object opened]
    refine skip_inside ?_ ?_ rest
    · intro text written
      obtain ⟨member, _, rfl⟩ := List.mem_map.mp written
      exact spacing.isPart_memberText (level + 1) member
    · intro text written blanks rest blank ends
      obtain ⟨member, here, rfl⟩ := List.mem_map.mp written
      refine ⟨_, key_memberText spacing (level + 1) member blank rest, ?_⟩
      exact inductionHypothesis member here (exact.member here) (level + 1) (.object :: brackets)
        spacing.behindColon rest spacing.behindColon_blank ends

end Skip

theorem skipValue_understands : skipValue.Understands fun _ => .ok () := by
  intro spacing level value blanks rest exact blank ends
  have skipped := Skip.skip_write spacing value exact level [] blanks rest blank ends
  simp only [skipValue, skipped, Agrees]
  rw [Skip.skip]

end FilterGraph.Json
