/-
This file proves that a scalar is read back from the text it is written as, whatever stands behind
it.

A text ends at its closing mark and a word with its last letter, so nothing behind them matters.
An integer has no mark at its end: it is read as far as its spelling could go on, so what stands
behind it must not begin with something a number may go on with. Reals are left out. They are
read with a rounding or two, so their texts need not give them back.
-/

import FilterGraph.Json.Skip

namespace FilterGraph.Json

/-! ### The end of a number -/

/-- The text does not begin with anything that a number in front of it would go on with. -/
def EndsNumber (rest : List Char) : Prop :=
  ∀ char others, rest = char :: others →
    char.isDigit = false ∧ char ≠ '.' ∧ char ≠ 'e' ∧ char ≠ 'E'

theorem endsNumber_nil : EndsNumber [] := by
  intro char others cons
  cases cons

theorem endsNumber_cons {char : Char} (others : List Char)
    (apart : char.isDigit = false ∧ char ≠ '.' ∧ char ≠ 'e' ∧ char ≠ 'E') :
    EndsNumber (char :: others) := by
  intro char' others' cons
  obtain ⟨rfl, rfl⟩ := List.cons.inj cons
  exact apart

/-- A blank ends a number. -/
theorem endsNumber_of_isBlank {char : Char} (others : List Char) (blank : isBlank char = true) :
    EndsNumber (char :: others) := by
  refine endsNumber_cons others ?_
  simp only [isBlank, Bool.or_eq_true, decide_eq_true_eq] at blank
  rcases blank with ((rfl | rfl) | rfl) | rfl <;> decide

/-! ### Integers -/

/-- The digits of a number other than zero do not begin with a zero. -/
theorem exists_toDigits_eq_cons {number : Nat} (positive : 0 < number) :
    ∃ digit others, Nat.toDigits 10 number = digit :: others ∧ digit ≠ '0' := by
  induction number using Nat.strongRecOn with
  | ind number inductionHypothesis =>
    by_cases small : number < 10
    · have digits : ∀ digit < 10, 0 < digit → Nat.digitChar digit ≠ '0' := by decide
      exact ⟨number.digitChar, [], Nat.toDigits_of_lt_base small, digits number small positive⟩
    · obtain ⟨digit, others, front, notZero⟩ :=
        inductionHypothesis (number / 10) (by omega) (by omega)
      refine ⟨digit, others ++ Nat.toDigits 10 (number % 10), ?_, notZero⟩
      have split := Nat.toDigits_append_toDigits (b := 10) (n := number / 10)
        (d := number % 10) (by omega) (by omega) (by omega)
      rw [front, Nat.div_add_mod] at split
      exact split.symm

namespace Literal

theorem scanDigits_append {digits rest : List Char}
    (all : ∀ digit ∈ digits, digit.isDigit = true) (ends : EndsNumber rest) :
    scanDigits (digits ++ rest) = (digits, rest) := by
  have stops : rest.takeWhile Char.isDigit = [] ∧ rest.dropWhile Char.isDigit = rest := by
    cases rest with
    | nil => exact ⟨rfl, rfl⟩
    | cons char others =>
      have notDigit := (ends char others rfl).1
      simp [notDigit]
  rw [scanDigits, List.takeWhile_append_of_pos all, List.dropWhile_append_of_pos all, stops.1,
    stops.2, List.append_nil]

theorem scanWhole_toDigits (atEnd : Cause) (number : Nat) {rest : List Char}
    (ends : EndsNumber rest) :
    scanWhole atEnd (Nat.toDigits 10 number ++ rest) = .ok (Nat.toDigits 10 number, rest) := by
  rcases Nat.eq_zero_or_pos number with rfl | positive
  · -- A zero stands alone, and no digit follows it.
    have noDigit : rest.head?.any Char.isDigit = false := by
      cases rest with
      | nil => rfl
      | cons char others => exact (ends char others rfl).1
    show scanWhole atEnd ('0' :: rest) = .ok (['0'], rest)
    simp [scanWhole, noDigit]
  · obtain ⟨digit, others, digits, notZero⟩ := exists_toDigits_eq_cons positive
    have all : ∀ char ∈ digit :: others, char.isDigit = true := by
      intro char member
      exact Nat.isDigit_of_mem_toDigits (by omega) (Nat.le_refl 10) (digits ▸ member)
    have scanned : scanDigits (others ++ rest) = (others, rest) :=
      scanDigits_append (fun char member => all char (List.mem_cons_of_mem _ member)) ends
    rw [digits, List.cons_append, scanWhole, if_neg notZero, if_pos (all digit List.mem_cons_self),
      scanned]

/-- The literal an integer is written as. -/
def ofInteger (value : Int) : Literal where
  negative := decide (value < 0)
  whole := Nat.toDigits 10 value.natAbs
  fraction := []
  exponent := none

theorem scanFraction_of_endsNumber (atEnd : Cause) {rest : List Char} (ends : EndsNumber rest) :
    scanFraction atEnd rest = .ok ([], rest) := by
  unfold scanFraction
  split
  · next others => exact absurd rfl (ends '.' others rfl).2.1
  · rfl

theorem scanExponent_of_endsNumber (atEnd : Cause) {rest : List Char} (ends : EndsNumber rest) :
    scanExponent atEnd rest = .ok (none, rest) := by
  unfold scanExponent
  split
  · rfl
  · next char others =>
    obtain ⟨_, _, notSmall, notLarge⟩ := ends char others rfl
    rw [if_neg (by simp [notSmall, notLarge])]

theorem scan_integerText (atEnd : Cause) (value : Int) {rest : List Char}
    (ends : EndsNumber rest) :
    scan atEnd (Number.integerText value ++ rest) = .ok (ofInteger value, rest) := by
  have digits := scanWhole_toDigits atEnd value.natAbs ends
  by_cases negative : value < 0
  · rw [scan, Number.integerText, if_pos negative]
    simp only [List.cons_append, List.head?_cons, if_true, List.drop_one, List.tail_cons, digits,
      scanFraction_of_endsNumber atEnd ends, scanExponent_of_endsNumber atEnd ends, ofInteger,
      negative, decide_true]
  · -- The first character is a digit, so it is not taken for a sign.
    have noSign : (Nat.toDigits 10 value.natAbs ++ rest).head? ≠ some '-' := by
      intro sign
      cases written : Nat.toDigits 10 value.natAbs with
      | nil => exact Nat.toDigits_ne_nil written
      | cons digit others =>
        rw [written] at sign
        have isDigit : digit.isDigit = true :=
          Nat.isDigit_of_mem_toDigits (by omega) (Nat.le_refl 10) (written ▸ List.mem_cons_self)
        rw [Option.some.inj sign] at isDigit
        cases isDigit
    rw [scan, Number.integerText, if_neg negative]
    simp only [noSign, if_false, digits, scanFraction_of_endsNumber atEnd ends,
      scanExponent_of_endsNumber atEnd ends, ofInteger, negative, decide_false]

theorem integer_ofInteger (value : Int) : (ofInteger value).integer = value := by
  have magnitude : Nat.ofDigitChars 10 (Nat.toDigits 10 value.natAbs) 0 = value.natAbs :=
    Nat.ofDigitChars_toDigits (by omega) (Nat.le_refl 10)
  simp only [integer, ofInteger, magnitude, decide_eq_true_eq]
  split <;> omega

theorem number_ofInteger {value : Int} (fits : FitsWord value) :
    (ofInteger value).number = .ok (.integer value fits) := by
  have isInteger : (ofInteger value).isInteger = true := by
    rw [Literal.isInteger, integer_ofInteger]
    simp only [ofInteger, List.isEmpty_nil, Option.isNone_none, Bool.true_and, Bool.not_eq_true',
      Bool.and_eq_false_iff, decide_eq_false_iff_not, beq_eq_false_iff_ne]
    omega
  rw [number]
  simp only [integer_ofInteger, isInteger, fits, and_self, dite_true]

end Literal

/-- An integer is read back from its digits. -/
theorem readNumber_integerText {value : Int} (fits : FitsWord value) {rest : List Char}
    (ends : EndsNumber rest) :
    readNumber.run (Number.integerText value ++ rest) = .ok (.integer value fits, rest) := by
  simp only [readNumber, Literal.scan_integerText _ value ends, Literal.number_ofInteger fits]

/-! ### Texts -/

namespace Quoted

/-- A control character is read back from the four digits it is written as. -/
theorem escape_control {char : Char} (control : char.toNat < 0x20) (rest : List Char) :
    escape ('u' :: '0' :: '0' :: Nat.digitChar (char.toNat / 16) ::
      Nat.digitChar (char.toNat % 16) :: rest) = .ok (.unit char.toNat, rest) := by
  have table : ∀ value < 0x20, hexNumber ['0', '0', Nat.digitChar (value / 16),
      Nat.digitChar (value % 16)] = some value := by decide
  have number := table char.toNat control
  simp only [escape, hexUnit, List.take_succ_cons, List.take_zero, number, List.length_cons,
    List.length_nil, List.drop_succ_cons, List.drop_zero, if_true]

/-- A character is written as it is, or as an escape that stands for it. -/
theorem encodeChar_cases (char : Char) :
    (encodeChar char = [char] ∧ char ≠ '"' ∧ char ≠ '\\' ∧ ¬ char.toNat < 0x20) ∨
      ∃ letters, encodeChar char = '\\' :: letters ∧
        ((∀ rest, escape (letters ++ rest) = .ok (.char char, rest)) ∨
          char.toNat < 0x20 ∧ ∀ rest, escape (letters ++ rest) = .ok (.unit char.toNat, rest)) := by
  unfold encodeChar
  split
  · exact Or.inr ⟨_, rfl, Or.inl fun _ => rfl⟩
  · exact Or.inr ⟨_, rfl, Or.inl fun _ => rfl⟩
  · exact Or.inr ⟨_, rfl, Or.inl fun _ => rfl⟩
  · exact Or.inr ⟨_, rfl, Or.inl fun _ => rfl⟩
  · exact Or.inr ⟨_, rfl, Or.inl fun _ => rfl⟩
  · exact Or.inr ⟨_, rfl, Or.inl fun _ => rfl⟩
  · exact Or.inr ⟨_, rfl, Or.inl fun _ => rfl⟩
  · next notMark notBackslash _ _ _ _ _ =>
    split
    · next control => exact Or.inr ⟨_, rfl, Or.inr ⟨control, escape_control control⟩⟩
    · next notControl => exact Or.inl ⟨rfl, notMark, notBackslash, notControl⟩

theorem piece_encodeChar (char : Char) (rest : List Char) :
    piece (encodeChar char ++ rest) = .ok (some char, rest) := by
  rcases encodeChar_cases char with
    ⟨plain, notMark, notBackslash, notControl⟩ |
      ⟨letters, escaped, stands | ⟨control, stands⟩⟩
  · rw [plain]
    simp [piece, notMark, notBackslash, notControl]
  · rw [escaped]
    simp [piece, stands]
  · -- A control character is no half of a pair, so its unit is the character.
    have alone : isTrailing char.toNat = false ∧ isLeading char.toNat = false := by
      simp only [isTrailing, isLeading, Bool.and_eq_false_iff, decide_eq_false_iff_not]
      omega
    rw [escaped]
    simp [piece, stands, character, alone, Char.ofNat_toNat]

theorem skipPiece_encodeChar (char : Char) (rest : List Char) :
    skipPiece (encodeChar char ++ rest) = .ok (false, rest) := by
  rcases encodeChar_cases char with
    ⟨plain, notMark, notBackslash, notControl⟩ | ⟨letters, escaped, stands | ⟨_, stands⟩⟩
  · rw [plain]
    simp [skipPiece, notMark, notBackslash, notControl]
  · rw [escaped]
    simp [skipPiece, stands]
  · rw [escaped]
    simp [skipPiece, stands]

/-- The closing mark ends the text. -/
theorem body_of_mark {text rest : List Char} (closed : piece text = .ok (none, rest)) :
    body text = .ok ([], rest) := by
  rw [body.eq_def]
  split
  · next failed => rw [closed] at failed; cases failed
  · next found => rw [(Prod.mk.inj (Except.ok.inj (closed.symm.trans found))).2]
  · next found => rw [closed] at found; cases found

/-- A character is followed by those behind it. -/
theorem body_of_char {text behind : List Char} {char : Char}
    (first : piece text = .ok (some char, behind)) :
    body text = (body behind).map fun (chars, rest) => (char :: chars, rest) := by
  rw [body.eq_def]
  split
  · next failed => rw [first] at failed; cases failed
  · next closed => rw [first] at closed; cases closed
  · next found =>
    obtain ⟨same, rfl⟩ := Prod.mk.inj (Except.ok.inj (first.symm.trans found))
    obtain rfl := Option.some.inj same
    cases body behind <;> rfl

theorem skipBody_of_mark {text rest : List Char} (closed : skipPiece text = .ok (true, rest)) :
    skipBody text = .ok rest := by
  rw [skipBody.eq_def]
  split
  · next failed => rw [closed] at failed; cases failed
  · next found => rw [(Prod.mk.inj (Except.ok.inj (closed.symm.trans found))).2]
  · next found => rw [closed] at found; cases found

theorem skipBody_of_piece {text behind : List Char}
    (first : skipPiece text = .ok (false, behind)) : skipBody text = skipBody behind := by
  conv =>
    lhs
    rw [skipBody.eq_def]
  split
  · next failed => rw [first] at failed; cases failed
  · next closed => rw [first] at closed; cases closed
  · next found => rw [(Prod.mk.inj (Except.ok.inj (first.symm.trans found))).2]

/-- A text is read back from what stands between its marks. -/
theorem body_encode (text rest : List Char) :
    body (text.flatMap encodeChar ++ '"' :: rest) = .ok (text, rest) := by
  induction text with
  | nil => exact body_of_mark rfl
  | cons char others inductionHypothesis =>
    rw [List.flatMap_cons, List.append_assoc, body_of_char (piece_encodeChar char _),
      inductionHypothesis]
    rfl

theorem skipBody_encode (text rest : List Char) :
    skipBody (text.flatMap encodeChar ++ '"' :: rest) = .ok rest := by
  induction text with
  | nil => exact skipBody_of_mark rfl
  | cons char others inductionHypothesis =>
    rw [List.flatMap_cons, List.append_assoc, skipBody_of_piece (skipPiece_encodeChar char _)]
    exact inductionHypothesis

/-- A text with its marks, in front of something else. -/
theorem encode_append (text rest : List Char) :
    encode text ++ rest = '"' :: (text.flatMap encodeChar ++ '"' :: rest) := by
  simp [encode]

end Quoted

end FilterGraph.Json
