/-
This file proves that lists, objects and records end at their closing brackets, and that values
which end in a number are the only ones that what stands behind them can go on with.

Inside of brackets a part is followed by a comma or a bracket. So something was left of the text
when the part had been read, and what is put behind the text cannot go on with a number at the end
of the part. A value that is skipped is read in the same way, with the open brackets on a list.
-/

import FilterGraph.Json.Record
import FilterGraph.Proofs.Json.Extensions
import FilterGraph.Proofs.Json.Skipping

namespace FilterGraph.Json

variable {α σ : Type}

/-! ### The inside of brackets -/

/-- The same continuation where more text is left. -/
def Continuation.append (continuation : Continuation) (more : List Char) : Continuation :=
  match continuation with
  | another text => .another (text ++ more)
  | closed rest => .closed (rest ++ more)

namespace Bracket

variable {bracket : Bracket} {text rest : List Char} {continuation : Continuation}

theorem part_append (ok : bracket.part text = .ok continuation) (more : List Char) :
    bracket.part (text ++ more) = .ok (continuation.append more) := by
  unfold part at ok
  split at ok
  · cases ok
    rfl
  · split at ok
    · next key =>
      cases ok
      cases text with
      | nil => cases key
      | cons char others => exact if_pos key
    · cases ok

theorem first_append (ok : bracket.first text = .ok continuation) (more : List Char) :
    bracket.first (text ++ more) = .ok (continuation.append more) := by
  unfold first at ok
  split at ok
  · cases ok
  · next char others found =>
    rw [first, skipBlanks_append_of_cons found]
    dsimp only
    split at ok
    · next closing =>
      cases ok
      exact if_pos closing
    · next notClosing =>
      rw [if_neg notClosing]
      exact part_append ok more

theorem afterComma_append (ok : bracket.afterComma text = .ok continuation) (more : List Char) :
    bracket.afterComma (text ++ more) = .ok (continuation.append more) := by
  unfold afterComma at ok
  split at ok
  · cases ok
  · next char others found =>
    rw [afterComma, skipBlanks_append_of_cons found]
    dsimp only
    split at ok
    · cases ok
    · next notClosing =>
      rw [if_neg notClosing]
      exact part_append ok more

theorem after_append (ok : bracket.after text = .ok continuation) (more : List Char) :
    bracket.after (text ++ more) = .ok (continuation.append more) := by
  unfold after at ok
  split at ok
  · cases ok
  · next char others found =>
    rw [after, skipBlanks_append_of_cons found]
    dsimp only
    split at ok
    · next closing =>
      cases ok
      exact if_pos closing
    · next notClosing =>
      rw [if_neg notClosing]
      split at ok
      · next comma =>
        rw [if_pos comma]
        exact afterComma_append ok more
      · cases ok

/-- Something stands behind a part. -/
theorem ne_nil_of_after (ok : bracket.after text = .ok continuation) : text ≠ [] := by
  rintro rfl
  cases ok

theorem fold_append {part : σ → Reader σ} (settles : ∀ state, (part state).Settles)
    {state final : σ} (ok : bracket.fold part state continuation = .ok (final, rest))
    (more : List Char) :
    bracket.fold part state (continuation.append more) = .ok (final, rest ++ more) := by
  fun_induction bracket.fold part state continuation with
  | case1 =>
    cases ok
    exact fold_closed part final
  | case2 => cases ok
  | case3 => cases ok
  | case4 state text next behind read continuation follows inductionHypothesis =>
    have extended : (part state).run (text ++ more) = .ok (next, behind ++ more) :=
      settles state read fun none => absurd none (ne_nil_of_after follows)
    exact (fold_another extended (after_append follows more)).trans (inductionHypothesis ok)

theorem parts_append {part : σ → Reader σ} (settles : ∀ state, (part state).Settles)
    {state final : σ} (ok : bracket.parts part state text = .ok (final, rest)) (more : List Char) :
    bracket.parts part state (text ++ more) = .ok (final, rest ++ more) := by
  unfold parts at ok ⊢
  split at ok
  · cases ok
  · next found =>
    rw [first_append found]
    exact fold_append settles ok more

theorem collect_append {part : Reader α} (settles : part.Settles) {all : List α}
    (ok : bracket.collect part text = .ok (all, rest)) (more : List Char) :
    bracket.collect part (text ++ more) = .ok (all, rest ++ more) := by
  unfold collect at ok ⊢
  split at ok
  · cases ok
  · next read =>
    cases ok
    rw [parts_append (fun _ => settles.map _) read]

end Bracket

/-! ### Values -/

theorem readMember_settles {value : String → Reader α} (settles : ∀ key, (value key).Settles) :
    (readMember value).Settles := by
  intro text content rest more ok ends
  simp only [readMember] at ok
  split at ok
  · next others =>
    split at ok
    · cases ok
    · next body =>
      split at ok
      · cases ok
      · next behind =>
        simp only [readMember, List.cons_append, Quoted.body_append body, colon_append behind]
        exact settles _ ok ends
  · cases ok

theorem readList_closes {item : Reader α} (settles : item.Settles) : (readList item).Closes := by
  intro text all rest ok more
  simp only [readList] at ok ⊢
  split at ok
  · next found =>
    rw [skipBlanks_append_of_cons found]
    exact Bracket.collect_append settles ok more
  · cases ok

theorem readInside_append {bracket : Bracket} {inside : Option (Reader α)}
    (settles : ∀ reader ∈ inside, reader.Settles) {text text' rest rest' : List Char}
    {all : List α} (ok : readInside bracket inside text rest = .ok (all, rest'))
    (more : List Char) :
    readInside bracket inside text' (rest ++ more) = .ok (all, rest' ++ more) := by
  unfold readInside at ok
  split at ok
  · cases ok
  · next reader => exact Bracket.collect_append (settles reader rfl) ok more

theorem readValueWith_settles {inside : Option (Reader Value)}
    (settles : ∀ reader ∈ inside, reader.Settles) : (readValueWith inside).Settles := by
  intro text value rest more ok ends
  simp only [readValueWith] at ok ⊢
  split at ok
  · next found =>
    split at ok
    · cases ok
    · next read =>
      cases ok
      simp only [skipBlanks_append_of_cons found, readInside_append settles read]
  · next found =>
    have settlesMembers : ∀ reader ∈ inside.map (fun reader =>
        readMember fun key => reader.map fun value => (key, value)), reader.Settles := by
      intro members within
      obtain ⟨reader, member, rfl⟩ := Option.map_eq_some_iff.mp within
      exact readMember_settles fun key => (settles reader member).map _
    split at ok
    · cases ok
    · next read =>
      cases ok
      simp only [skipBlanks_append_of_cons found, readInside_append settlesMembers read]
  · next notList notObject =>
    cases begins : skipBlanks text with
    | nil =>
      rw [begins] at ok
      cases ok
    | cons char others =>
      have found := skipBlanks_append_of_cons begins more
      rw [begins] at ok
      have read := readScalar_settles.map Value.scalar ok ends
      rw [found]
      split
      · next opened => exact absurd ((List.cons.inj opened).1 ▸ begins) (notList others)
      · next opened => exact absurd ((List.cons.inj opened).1 ▸ begins) (notObject others)
      · exact read

theorem readValue_settles (budget : Nat) : (readValue budget).Settles := by
  induction budget with
  | zero => exact readValueWith_settles fun _ none => (by cases none)
  | succ budget inductionHypothesis =>
    refine readValueWith_settles fun reader same => ?_
    obtain rfl := Option.some.inj same
    exact inductionHypothesis

/-! ### Skipped values -/

namespace Skip

variable {more : List Char}

theorem scalar_append {text rest : List Char} (ok : scalar text = .ok rest)
    (ends : rest = [] → EndsNumber more) : scalar (text ++ more) = .ok (rest ++ more) := by
  unfold scalar at ok
  split at ok
  · cases ok
  · next char others =>
    rw [List.cons_append, scalar]
    split at ok
    · next isWord => exact restOfWord_append ok more
    · next noWord =>
      split at ok
      · next isMark =>
        rw [if_pos isMark]
        exact Quoted.skipBody_append ok more
      · next noMark =>
        rw [if_neg noMark]
        split at ok
        · next isNumber =>
          rw [if_pos isNumber]
          split at ok
          · cases ok
          · next scanned =>
            cases ok
            rw [← List.cons_append, Literal.scan_append scanned ends]
        · cases ok

theorem key_append {text rest : List Char} (ok : key text = .ok rest) (more : List Char) :
    key (text ++ more) = .ok (rest ++ more) := by
  unfold key at ok
  split at ok
  · cases ok
  · next char others found =>
    rw [key, skipBlanks_append_of_cons found]
    dsimp only
    split at ok
    · next isMark =>
      rw [if_pos isMark]
      split at ok
      · cases ok
      · next body =>
        rw [Quoted.skipBody_append body]
        exact colon_append ok more
    · cases ok

theorem part_append {bracket : Bracket} {text rest : List Char} (ok : part bracket text = .ok rest)
    (more : List Char) : part bracket (text ++ more) = .ok (rest ++ more) := by
  unfold part at ok
  split at ok
  · cases ok
    rfl
  · exact key_append ok more

theorem skip_append {place : Place} {brackets : List Bracket} {text rest : List Char}
    (ok : skip place brackets text = .ok rest) (ends : rest = [] → EndsNumber more) :
    skip place brackets (text ++ more) = .ok (rest ++ more) := by
  fun_induction skip place brackets text with
  | case1 text brackets others found inductionHypothesis =>
    rw [skip_value_list (skipBlanks_append_of_cons found more)]
    exact inductionHypothesis ok
  | case2 text brackets others found inductionHypothesis =>
    rw [skip_value_object (skipBlanks_append_of_cons found more)]
    exact inductionHypothesis ok
  | case3 => cases ok
  | case4 text brackets behind notList notObject passed inductionHypothesis =>
    cases begins : skipBlanks text with
    | nil =>
      rw [begins] at passed
      cases passed
    | cons char others =>
      have passedMore : scalar (skipBlanks text ++ more) = .ok (behind ++ more) :=
        scalar_append passed fun none => ends (eq_nil_of_length_le (length_skip ok) none)
      rw [begins] at passedMore
      rw [skip_value_scalar (skipBlanks_append_of_cons begins more)
        (fun opened => notList others (opened ▸ begins))
        (fun opened => notObject others (opened ▸ begins)) passedMore]
      exact inductionHypothesis ok
  | case5 => cases ok; rw [skip]
  | case6 => cases ok; rw [skip]
  | case7 => cases ok
  | case8 text bracket brackets others found inductionHypothesis =>
    rw [skip_opened_closing (skipBlanks_append_of_cons found more)]
    exact inductionHypothesis ok
  | case9 => cases ok
  | case10 text bracket brackets char others found notClosing behind passed inductionHypothesis =>
    have opened := skipBlanks_append_of_cons found more
    rw [skip_opened_part opened notClosing (part_append passed more)]
    exact inductionHypothesis ok
  | case11 => cases ok
  | case12 text bracket brackets others found inductionHypothesis =>
    rw [skip_after_closing (skipBlanks_append_of_cons found more)]
    exact inductionHypothesis ok
  | case13 => cases ok
  | case14 text bracket brackets others behind passed found notClosing inductionHypothesis =>
    rw [skip_after_comma (skipBlanks_append_of_cons found more) (part_append passed more)]
    exact inductionHypothesis ok
  | case15 => cases ok

end Skip

theorem skipValue_settles : skipValue.Settles := by
  intro text nothing rest more ok ends
  simp only [skipValue] at ok ⊢
  split at ok
  · cases ok
  · next skipped =>
    cases ok
    rw [Skip.skip_append skipped ends]

/-! ### Records -/

theorem Field.read_settles {field : Field σ} (settles : field.value.Settles) (bracket : Bracket)
    (draft : σ) : (field.read bracket draft).Settles := by
  intro text final rest more ok ends
  simp only [Field.read] at ok ⊢
  split at ok
  · cases ok
  · cases ok
  · next read =>
    cases ok
    rw [settles read ends]

namespace Shape

variable {shape : Shape σ α} {text rest : List Char}

theorem member_settles (settles : ∀ field ∈ shape.fields, field.value.Settles) (draft : σ) :
    (shape.member draft).Settles := by
  intro text final rest more ok ends
  simp only [member] at ok
  split at ok
  · next others =>
    split at ok
    · cases ok
    · next body =>
      simp only [member, List.cons_append, Quoted.body_append body]
      split at ok
      · split at ok
        · cases ok
        · next behind =>
          simp only [colon_append behind]
          exact skipValue_settles.map _ ok ends
      · next field known =>
        split at ok
        · cases ok
        · next notGiven =>
          split at ok
          · cases ok
          · next behind =>
            simp only [notGiven, colon_append behind]
            have among := List.mem_of_find?_eq_some known
            exact Field.read_settles (settles field among) .object draft ok ends
  · cases ok

theorem byName_append (settles : ∀ field ∈ shape.fields, field.value.Settles) {value : α}
    (ok : shape.byName text = .ok (value, rest)) (more : List Char) :
    shape.byName (text ++ more) = .ok (value, rest ++ more) := by
  unfold byName at ok ⊢
  split at ok
  · cases ok
  · next read =>
    rw [Bracket.parts_append (member_settles settles) read]
    dsimp only
    split at ok
    · cases ok
    · cases ok
      rfl

theorem closeList_append (ok : closeList text = .ok rest) (more : List Char) :
    closeList (text ++ more) = .ok (rest ++ more) := by
  unfold closeList at ok ⊢
  split at ok
  · cases ok
  · next found =>
    cases ok
    simp only [skipBlanks_append_of_cons found]
  · split at ok <;> cases ok
  · cases ok

/-- Behind the opening bracket and behind an item something has to stand. -/
theorem ne_nil_of_items {fields : List (Field σ)} {draft : σ} {read : σ × Nat × List Char}
    (ok : items Bracket.list.after draft text fields = .ok read) : text ≠ [] := by
  rintro rfl
  cases fields <;> cases ok

theorem items_append {follows : List Char → Except Fault Continuation}
    (followsMore : ∀ {text continuation}, follows text = .ok continuation → ∀ more,
      follows (text ++ more) = .ok (continuation.append more))
    {fields : List (Field σ)} (settles : ∀ field ∈ fields, field.value.Settles)
    {draft final : σ} {left : Nat}
    (ok : items follows draft text fields = .ok (final, left, rest)) (more : List Char) :
    items follows draft (text ++ more) fields = .ok (final, left, rest ++ more) := by
  induction fields generalizing follows draft text with
  | nil =>
    unfold items at ok ⊢
    split at ok
    · cases ok
    · next closed =>
      cases ok
      rw [closeList_append closed]
  | cons field others inductionHypothesis =>
    obtain ⟨settlesFirst, settlesOthers⟩ := List.forall_mem_cons.mp settles
    unfold items at ok ⊢
    split at ok
    · cases ok
    · next closed =>
      cases ok
      rw [followsMore closed]
      rfl
    · next item found =>
      rw [followsMore found]
      split at ok
      · cases ok
      · next draft' behind read =>
        have readMore : (field.read .list draft).run (item ++ more) =
            .ok (draft', behind ++ more) :=
          Field.read_settles settlesFirst .list draft read
            fun none => absurd none (ne_nil_of_items ok)
        simp only [Continuation.append, readMore]
        exact inductionHypothesis Bracket.after_append settlesOthers ok

theorem byPosition_append (settles : ∀ field ∈ shape.fields, field.value.Settles) {value : α}
    (ok : shape.byPosition text = .ok (value, rest)) (more : List Char) :
    shape.byPosition (text ++ more) = .ok (value, rest ++ more) := by
  unfold byPosition at ok ⊢
  split at ok
  · cases ok
  · next read =>
    rw [items_append Bracket.first_append settles read]
    dsimp only
    split at ok
    · cases ok
    · cases ok
      rfl

/-- A record ends at its closing bracket, in whichever of the two ways it is written. -/
theorem reader_closes (settles : ∀ field ∈ shape.fields, field.value.Settles) :
    shape.reader.Closes := by
  intro text value rest ok more
  simp only [reader] at ok ⊢
  split at ok
  · next found =>
    rw [skipBlanks_append_of_cons found]
    exact byName_append settles ok more
  · next found =>
    rw [skipBlanks_append_of_cons found]
    exact byPosition_append settles ok more
  · cases ok

end Shape

end FilterGraph.Json
