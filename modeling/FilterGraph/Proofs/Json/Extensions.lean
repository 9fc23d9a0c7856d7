/-
This file proves that what stands behind a text does not change what is read from it.

A text ends at its closing mark and a word with its last letter, so nothing behind them is looked
at: whatever is put behind the text is left, along with what was left before. A number has no mark
at its end. If it was read up to the end of the text, what is put behind must not go on with it.
-/

import FilterGraph.Proofs.Json.Scalars

namespace FilterGraph.Json

variable {more : List Char}

/-! ### Blanks -/

theorem skipBlanks_append_of_cons {text rest : List Char} {char : Char}
    (found : skipBlanks text = char :: rest) (more : List Char) :
    skipBlanks (text ++ more) = char :: (rest ++ more) := by
  unfold skipBlanks at found ⊢
  rw [List.dropWhile_append, found]
  rfl

theorem colon_append {text rest : List Char} (ok : colon text = .ok rest) (more : List Char) :
    colon (text ++ more) = .ok (rest ++ more) := by
  unfold colon at ok
  split at ok
  · cases ok
  · next char others found =>
    split at ok
    · next isColon =>
      cases ok
      rw [colon, skipBlanks_append_of_cons found]
      exact if_pos isColon
    · cases ok

/-! ### Numbers -/

/-- Where nothing is left, nothing is left of it later. -/
theorem eq_nil_of_length_le {left earlier : List Char} (shorter : left.length ≤ earlier.length)
    (none : earlier = []) : left = [] := by
  rw [none] at shorter
  exact List.length_eq_zero_iff.mp (Nat.le_zero.mp shorter)

namespace Literal

theorem scanDigits_append_more {text : List Char}
    (ends : (scanDigits text).2 = [] → EndsNumber more) :
    scanDigits (text ++ more) = ((scanDigits text).1, (scanDigits text).2 ++ more) := by
  induction text with
  | nil => exact scanDigits_append (List.forall_mem_nil _) (ends rfl)
  | cons char others inductionHypothesis =>
    unfold scanDigits at ends inductionHypothesis ⊢
    by_cases digit : char.isDigit = true
    · simp only [List.cons_append, List.takeWhile_cons_of_pos digit,
        List.dropWhile_cons_of_pos digit] at ends ⊢
      have := inductionHypothesis ends
      simp only [Prod.mk.injEq] at this ⊢
      exact ⟨congrArg _ this.1, this.2⟩
    · simp only [List.cons_append, List.takeWhile_cons_of_neg digit,
        List.dropWhile_cons_of_neg digit]

theorem scanWhole_append {atEnd : Cause} {text digits rest : List Char}
    (ok : scanWhole atEnd text = .ok (digits, rest)) (ends : rest = [] → EndsNumber more) :
    scanWhole atEnd (text ++ more) = .ok (digits, rest ++ more) := by
  unfold scanWhole at ok
  split at ok
  · cases ok
  · next char others =>
    rw [List.cons_append, scanWhole]
    split at ok
    · next zero =>
      split at ok
      · cases ok
      · next alone =>
        cases ok
        -- No digit follows the zero, in the text or behind it.
        have noDigit : (rest ++ more).head?.any Char.isDigit = false := by
          cases rest with
          | cons next others => simpa using alone
          | nil =>
            cases more with
            | nil => rfl
            | cons next others => exact (ends rfl next others rfl).1
        rw [if_pos zero, noDigit]
        rfl
    · next notZero =>
      split at ok
      · next digit =>
        obtain ⟨rfl, rfl⟩ := Prod.mk.inj (Except.ok.inj ok)
        rw [if_neg notZero, if_pos digit, scanDigits_append_more ends]
      · cases ok

theorem scanSome_append {atEnd : Cause} {text digits rest : List Char}
    (ok : scanSome atEnd text = .ok (digits, rest)) (ends : rest = [] → EndsNumber more) :
    scanSome atEnd (text ++ more) = .ok (digits, rest ++ more) := by
  unfold scanSome at ok
  simp only at ok
  split at ok
  · cases ok
  · next notEmpty =>
    cases ok
    simp only [scanSome, scanDigits_append_more ends, notEmpty, Bool.false_eq_true, if_false]

theorem scanFraction_append {atEnd : Cause} {text digits rest : List Char}
    (ok : scanFraction atEnd text = .ok (digits, rest)) (ends : rest = [] → EndsNumber more) :
    scanFraction atEnd (text ++ more) = .ok (digits, rest ++ more) := by
  unfold scanFraction at ok
  split at ok
  · exact scanSome_append ok ends
  · next noPoint =>
    cases ok
    cases text with
    | nil => exact scanFraction_of_endsNumber atEnd (ends rfl)
    | cons char others =>
      rw [List.cons_append, scanFraction]
      rintro others' same
      exact noPoint others (congrArg (· :: others) (List.cons.inj same).1)

/-- A sign is looked for in what is there, if anything is. -/
theorem scanSign_append {text : List Char} (left : (scanSign text).2 ≠ []) :
    scanSign (text ++ more) = ((scanSign text).1, (scanSign text).2 ++ more) := by
  cases text with
  | nil => exact absurd rfl left
  | cons char others =>
    by_cases minus : char = '-'
    · subst minus
      rfl
    · by_cases plus : char = '+'
      · subst plus
        rfl
      · simp [scanSign, minus, plus]

theorem scanExponent_append {atEnd : Cause} {text rest : List Char} {exponent : Option Exponent}
    (ok : scanExponent atEnd text = .ok (exponent, rest)) (ends : rest = [] → EndsNumber more) :
    scanExponent atEnd (text ++ more) = .ok (exponent, rest ++ more) := by
  unfold scanExponent at ok
  split at ok
  · cases ok
    exact scanExponent_of_endsNumber atEnd (ends rfl)
  · next char others =>
    rw [List.cons_append, scanExponent]
    split at ok
    · next isMark =>
      simp only at ok
      split at ok
      · cases ok
      · next digits rest found =>
        cases ok
        have left : (scanSign others).2 ≠ [] := by
          intro none
          rw [none] at found
          cases found
        simp only [if_pos isMark, scanSign_append left, scanSome_append found ends]
    · next noMark =>
      cases ok
      rw [if_neg noMark]
      rfl

theorem scan_append {atEnd : Cause} {text rest : List Char} {literal : Literal}
    (ok : scan atEnd text = .ok (literal, rest)) (ends : rest = [] → EndsNumber more) :
    scan atEnd (text ++ more) = .ok (literal, rest ++ more) := by
  cases text with
  | nil => cases ok
  | cons char others =>
    have unsigned : (if ((char :: others) ++ more).head? = some '-' then
        ((char :: others) ++ more).drop 1 else (char :: others) ++ more) =
        (if (char :: others).head? = some '-' then (char :: others).drop 1
          else char :: others) ++ more := by
      rw [List.cons_append, List.head?_cons, List.head?_cons]
      split <;> rfl
    unfold scan at ok ⊢
    simp only [unsigned] at ok ⊢
    split at ok
    · cases ok
    · next whole =>
      split at ok
      · cases ok
      · next fraction =>
        split at ok
        · cases ok
        · next exponent =>
          cases ok
          -- What the first parts leave is empty only if nothing is left at the end.
          have endsExponent := eq_nil_of_length_le (length_scanExponent_le exponent)
          have endsFraction := eq_nil_of_length_le (length_scanFraction_le fraction)
          rw [scanWhole_append whole fun none => ends (endsExponent (endsFraction none))]
          simp only [scanFraction_append fraction fun none => ends (endsExponent none),
            scanExponent_append exponent ends]
          rfl

end Literal

/-! ### Words and texts -/

theorem restOfWord_append {word text rest : List Char} (ok : restOfWord word text = .ok rest)
    (more : List Char) : restOfWord word (text ++ more) = .ok (rest ++ more) := by
  fun_induction restOfWord word text with
  | case1 => cases ok; rw [restOfWord]
  | case2 => cases ok
  | case3 letter word text inductionHypothesis =>
    rw [List.cons_append, restOfWord, if_pos rfl]
    exact inductionHypothesis ok
  | case4 => cases ok

namespace Quoted

theorem hexUnit_append {text rest : List Char} {value : Nat}
    (ok : hexUnit text = .ok (value, rest)) (more : List Char) :
    hexUnit (text ++ more) = .ok (value, rest ++ more) := by
  unfold hexUnit at ok
  simp only at ok
  split at ok
  · next number =>
    split at ok
    · next four =>
      cases ok
      have enough : 4 ≤ text.length := by
        rw [List.length_take] at four
        omega
      simp only [hexUnit, List.take_append_of_le_length enough,
        List.drop_append_of_le_length enough, number, four, if_true]
    · cases ok
  · split at ok <;> cases ok

theorem escape_append {text rest : List Char} {found : Escape}
    (ok : escape text = .ok (found, rest)) (more : List Char) :
    escape (text ++ more) = .ok (found, rest ++ more) := by
  unfold escape at ok
  split at ok
  · cases ok
  · next letter others =>
    rw [List.cons_append, escape]
    split at ok
    · next isUnit =>
      split at ok
      · cases ok
      · next unit =>
        cases ok
        simp only [if_pos isUnit, hexUnit_append unit]
    · next noUnit =>
      split at ok
      · next stands =>
        cases ok
        simp only [if_neg noUnit]
      · cases ok

theorem character_append {unit : Nat} {text rest : List Char} {char : Char}
    (ok : character unit text = .ok (char, rest)) (more : List Char) :
    character unit (text ++ more) = .ok (char, rest ++ more) := by
  unfold character at ok ⊢
  split at ok
  · cases ok
  · next notTrailing =>
    rw [if_neg notTrailing]
    split at ok
    · next leading =>
      rw [if_pos leading]
      split at ok
      · cases ok
      · cases ok
      · next others =>
        split at ok
        · cases ok
        · next second =>
          split at ok
          · next trailing =>
            obtain ⟨rfl, rfl⟩ := Prod.mk.inj (Except.ok.inj ok)
            simp only [List.cons_append, hexUnit_append second, trailing, if_true]
          · cases ok
      · cases ok
      · cases ok
    · next notLeading =>
      cases ok
      rw [if_neg notLeading]

theorem piece_append {text rest : List Char} {char : Option Char}
    (ok : piece text = .ok (char, rest)) (more : List Char) :
    piece (text ++ more) = .ok (char, rest ++ more) := by
  unfold piece at ok
  split at ok
  · cases ok
  · next first others =>
    rw [List.cons_append, piece]
    split at ok
    · next isMark =>
      cases ok
      rw [if_pos isMark]
    · next noMark =>
      rw [if_neg noMark]
      split at ok
      · next isBackslash =>
        rw [if_pos isBackslash]
        split at ok
        · cases ok
        · next escaped =>
          cases ok
          simp only [escape_append escaped]
        · next escaped =>
          split at ok
          · cases ok
          · next found =>
            cases ok
            simp only [escape_append escaped, character_append found]
      · next noBackslash =>
        split at ok
        · cases ok
        · next noControl =>
          cases ok
          rw [if_neg noBackslash, if_neg noControl]

theorem skipPiece_append {text rest : List Char} {closed : Bool}
    (ok : skipPiece text = .ok (closed, rest)) (more : List Char) :
    skipPiece (text ++ more) = .ok (closed, rest ++ more) := by
  unfold skipPiece at ok
  split at ok
  · cases ok
  · next first others =>
    rw [List.cons_append, skipPiece]
    split at ok
    · next isMark =>
      cases ok
      rw [if_pos isMark]
    · next noMark =>
      rw [if_neg noMark]
      split at ok
      · next isBackslash =>
        rw [if_pos isBackslash]
        split at ok
        · cases ok
        · next escaped =>
          cases ok
          simp only [escape_append escaped]
      · next noBackslash =>
        split at ok
        · cases ok
        · next noControl =>
          cases ok
          rw [if_neg noBackslash, if_neg noControl]

theorem body_append {text chars rest : List Char} (ok : body text = .ok (chars, rest))
    (more : List Char) : body (text ++ more) = .ok (chars, rest ++ more) := by
  fun_induction body text generalizing chars rest with
  | case1 => cases ok
  | case2 text others found =>
    cases ok
    exact body_of_mark (piece_append found more)
  | case3 => cases ok
  | case4 text char others found chars' others' read inductionHypothesis =>
    cases ok
    rw [body_of_char (piece_append found more), inductionHypothesis read]
    rfl

theorem skipBody_append {text rest : List Char} (ok : skipBody text = .ok rest)
    (more : List Char) : skipBody (text ++ more) = .ok (rest ++ more) := by
  fun_induction skipBody text with
  | case1 => cases ok
  | case2 text others found =>
    cases ok
    exact skipBody_of_mark (skipPiece_append found more)
  | case3 text others found inductionHypothesis =>
    rw [skipBody_of_piece (skipPiece_append found more)]
    exact inductionHypothesis ok

end Quoted

/-! ### Readers -/

namespace Reader

variable {α β : Type}

/-- What is put behind a text is left as well, if it does not go on with a number at the end. -/
def Settles (reader : Reader α) : Prop :=
  ∀ ⦃text value rest more⦄, reader.run text = .ok (value, rest) → (rest = [] → EndsNumber more) →
    reader.run (text ++ more) = .ok (value, rest ++ more)

/-- What is put behind a text is left as well, whatever it is. -/
def Closes (reader : Reader α) : Prop :=
  ∀ ⦃text value rest⦄, reader.run text = .ok (value, rest) → ∀ more,
    reader.run (text ++ more) = .ok (value, rest ++ more)

theorem Closes.settles {reader : Reader α} (closes : reader.Closes) : reader.Settles :=
  fun _ _ _ _ ok _ => closes ok _

theorem Settles.map {reader : Reader α} (settles : reader.Settles) (f : α → β) :
    (reader.map f).Settles := by
  intro text value rest more ok ends
  simp only [Reader.map] at ok ⊢
  split at ok
  · cases ok
  · next read =>
    cases ok
    rw [settles read ends]

end Reader

theorem readNumber_settles : readNumber.Settles := by
  intro text number rest more ok ends
  simp only [readNumber] at ok ⊢
  split at ok
  · cases ok
  · next scanned =>
    split at ok
    · cases ok
    · next stands =>
      cases ok
      simp only [Literal.scan_append scanned ends, stands]

theorem readScalar_settles : readScalar.Settles := by
  intro text scalar rest more ok ends
  simp only [readScalar] at ok ⊢
  split at ok
  · cases ok
  · next char others found =>
    rw [skipBlanks_append_of_cons found]
    dsimp only
    split at ok
    · next isWord =>
      split at ok
      · cases ok
      · next word =>
        cases ok
        rw [restOfWord_append word]
    · next noWord =>
      split at ok
      · next isMark =>
        rw [if_pos isMark]
        split at ok
        · cases ok
        · next body =>
          cases ok
          rw [Quoted.body_append body]
      · next noMark =>
        rw [if_neg noMark]
        split at ok
        · next isNumber =>
          rw [if_pos isNumber]
          exact readNumber_settles.map Scalar.number ok ends
        · cases ok

theorem readText_closes : readText.Closes := by
  intro text content rest ok more
  simp only [readText] at ok ⊢
  split at ok
  · next found =>
    rw [skipBlanks_append_of_cons found]
    split at ok
    · cases ok
    · next body =>
      cases ok
      simp only [Quoted.body_append body]
  · cases ok

end FilterGraph.Json
