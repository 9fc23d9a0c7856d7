/-
This file proves that integers are shown as they are written.

A numeral is an integer as a text has it: a sign or none, and digits without a needless zero in
front. Reading takes the number that the digits stand for, and writing spells the digits of a
number, so that a numeral is shown unchanged if its digits are those of its number. They are: the
digits behind the first one are appended one by one to those of a positive number. Minus zero is no
numeral, as it is read as a real, and neither is an integer beyond the words of 64 bits.
-/

import FilterGraph.Proofs.Json.Records
import FilterGraph.Proofs.Json.Values
import FilterGraph.Proofs.Overlays
import FilterGraph.Proofs.Parameters

namespace FilterGraph

open Json

/-! ### Digits -/

/-- The number of a digit is below ten, and the digit is the one of that number. -/
theorem digitChar_of_isDigit {digit : Char} (decimal : digit.isDigit = true) :
    digit.toNat - 48 < 10 ∧ (digit.toNat - 48).digitChar = digit := by
  have range : 48 ≤ digit.toNat ∧ digit.toNat ≤ 57 := Char.isDigit_iff_toNat.mp decimal
  have small : digit.toNat - 48 < 10 := by omega
  refine ⟨small, ?_⟩
  rw [← Char.toNat_inj, Nat.toNat_digitChar_of_lt_ten small]
  omega

/-- Digits behind those of a positive number are appended to them. -/
theorem toDigits_ofDigitChars_of_pos {digits : List Char}
    (decimal : ∀ digit ∈ digits, digit.isDigit = true) {number : Nat} (positive : 0 < number) :
    Nat.toDigits 10 (Nat.ofDigitChars 10 digits number) = Nat.toDigits 10 number ++ digits := by
  induction digits generalizing number with
  | nil => exact (List.append_nil _).symm
  | cons digit others inductionHypothesis =>
    obtain ⟨first, rest⟩ := List.forall_mem_cons.mp decimal
    obtain ⟨small, same⟩ := digitChar_of_isDigit first
    have appended := Nat.toDigits_append_toDigits (by decide) positive small
    rw [Nat.toDigits_of_lt_base small, same] at appended
    rw [Nat.ofDigitChars_cons]
    show Nat.toDigits 10 (Nat.ofDigitChars 10 others (10 * number + (digit.toNat - 48))) = _
    rw [inductionHypothesis rest (by omega), ← appended, List.append_assoc]
    rfl

/-- Digits without a needless zero are those of their number. -/
theorem toDigits_ofDigitChars {digits : List Char} (nonempty : digits ≠ [])
    (decimal : ∀ digit ∈ digits, digit.isDigit = true)
    (zeroAlone : digits.head? = some '0' → digits = ['0']) :
    Nat.toDigits 10 (Nat.ofDigitChars 10 digits 0) = digits := by
  cases digits with
  | nil => exact absurd rfl nonempty
  | cons digit others =>
    obtain ⟨first, rest⟩ := List.forall_mem_cons.mp decimal
    by_cases zero : digit = '0'
    · rw [zeroAlone (congrArg some zero)]
      rfl
    · obtain ⟨small, same⟩ := digitChar_of_isDigit first
      have positive : 0 < digit.toNat - 48 := by
        refine Nat.pos_of_ne_zero fun none => zero ?_
        rw [← same, none]
        rfl
      rw [Nat.ofDigitChars_cons]
      show Nat.toDigits 10 (Nat.ofDigitChars 10 others (0 + (digit.toNat - 48))) = _
      rw [Nat.zero_add, toDigits_ofDigitChars_of_pos rest positive, Nat.toDigits_of_lt_base small,
        same]
      rfl

/-! ### Numerals -/

/-- An integer as it is written, other than minus zero. -/
structure Numeral where
  negative : Bool
  digits : List Char
  nonempty : digits ≠ []
  decimal : ∀ digit ∈ digits, digit.isDigit = true
  zeroAlone : digits.head? = some '0' → digits = ['0']
  notMinusZero : negative = true → digits ≠ ['0']

namespace Numeral

/-- The text of a numeral. -/
def text (numeral : Numeral) : String :=
  String.ofList (if numeral.negative then '-' :: numeral.digits else numeral.digits)

/-- The integer of a numeral. -/
def value (numeral : Numeral) : Int :=
  let magnitude : Int := Nat.ofDigitChars 10 numeral.digits 0
  if numeral.negative then -magnitude else magnitude

variable (numeral : Numeral)

theorem toDigits_natAbs_value : Nat.toDigits 10 numeral.value.natAbs = numeral.digits := by
  have magnitude : numeral.value.natAbs = Nat.ofDigitChars 10 numeral.digits 0 := by
    unfold value
    split <;> simp
  rw [magnitude, toDigits_ofDigitChars numeral.nonempty numeral.decimal numeral.zeroAlone]

theorem value_neg_iff : numeral.value < 0 ↔ numeral.negative = true := by
  cases negative : numeral.negative with
  | false => simp [value, negative]
  | true =>
    -- A magnitude of zero has a zero as its only digit.
    have positive : numeral.value ≠ 0 := by
      intro zero
      have digits := numeral.toDigits_natAbs_value
      rw [zero] at digits
      exact numeral.notMinusZero negative digits.symm
    simp only [value, negative, if_true, iff_true] at positive ⊢
    omega

/-- A numeral is written as the integer that it stands for. -/
theorem toList_text : numeral.text.toList = Number.integerText numeral.value := by
  rw [text, String.toList_ofList, Number.integerText, numeral.toDigits_natAbs_value]
  simp only [numeral.value_neg_iff]

/-- The numeral of an integer. -/
def ofInt (integer : Int) : Numeral where
  negative := decide (integer < 0)
  digits := Nat.toDigits 10 integer.natAbs
  nonempty := Nat.toDigits_ne_nil
  decimal _ member := Nat.isDigit_of_mem_toDigits (by decide) (Nat.le_refl 10) member
  zeroAlone zero := by
    rcases Nat.eq_zero_or_pos integer.natAbs with none | positive
    · rw [none]
      rfl
    · obtain ⟨digit, others, digits, notZero⟩ := exists_toDigits_eq_cons positive
      rw [digits] at zero
      exact absurd (Option.some.inj zero) notZero
  notMinusZero negative zero := by
    have positive : 0 < integer.natAbs := by simp at negative; omega
    obtain ⟨digit, others, digits, notZero⟩ := exists_toDigits_eq_cons positive
    rw [digits] at zero
    exact notZero (List.cons.inj zero).1

theorem value_ofInt (integer : Int) : (ofInt integer).value = integer :=
  Literal.integer_ofInteger integer

/-- An integer is written in one way only. -/
theorem value_inj {first second : Numeral} (same : first.value = second.value) :
    first = second := by
  have digits : first.digits = second.digits := by
    rw [← toDigits_natAbs_value, same, toDigits_natAbs_value]
  have negative : first.negative = second.negative := by
    rw [Bool.eq_iff_iff, ← value_neg_iff, same, value_neg_iff]
  cases first
  cases second
  cases digits
  cases negative
  rfl

end Numeral

/-! ### Integers as parameters -/

namespace Parameter

/-- The numeral stands for a word, so it is read as one wherever a value is read. -/
theorem run_readValue (numeral : Numeral) (fits : FitsWord numeral.value) (budget : Nat)
    {blanks rest : List Char} (blank : ∀ char ∈ blanks, isBlank char = true)
    (ends : EndsNumber rest) :
    ((readValue budget).map ofValue).run (blanks ++ (numeral.text.toList ++ rest)) =
      .ok (ofInt numeral.value fits, rest) := by
  have exact : (Value.scalar (.number (.integer numeral.value fits))).Exact := by
    intro scalar occurs
    cases occurs
    trivial
  have read := (readValue_understands budget).map ofValue .tight 0 _ blanks rest exact blank ends
  rw [numeral.toList_text]
  exact read

theorem parse_text (numeral : Numeral) (fits : FitsWord numeral.value) :
    parse numeral.text = .ok (ofInt numeral.value fits) := by
  have read := run_readValue numeral fits depthLimit (List.forall_mem_nil _) endsNumber_nil
  rw [List.nil_append, List.append_nil] at read
  simp only [parse, Reader.readAll, read]
  rfl

theorem display_ofInt (numeral : Numeral) (fits : FitsWord numeral.value) :
    (ofInt numeral.value fits).display = numeral.text := by
  show String.ofList (Number.integerText numeral.value) = numeral.text
  rw [← numeral.toList_text, String.ofList_toList]

/-- The option of an entry stands among those of an overlay at the place of the entry. -/
theorem exists_segment_of_overlay {filter : Filter} (overlay : filter.name = "overlay")
    {place : Nat} {key : String} {parameter : Parameter}
    (entry : filter.parameters.entries[place]? = some (key, parameter)) (inputCount : Nat) :
    ∃ options, filter.segment inputCount = "overlay=" ++ ":".intercalate options ∧
      options[place]? = some (key ++ "=" ++ parameter.display) := by
  refine ⟨filter.parameters.shown.map assignment, ?_, ?_⟩
  · rw [Filter.segment_of_overlay overlay, Parameters.display_eq_intercalate]
  · rw [List.getElem?_map, Parameters.shown, List.getElem?_map, entry]
    rfl

end Parameter

namespace Numeral

/-- Every integer has one numeral. Where it is a signed or unsigned word of 64 bits, the numeral is
read as a number, as a whole text and wherever a value is read, and this is shown as the numeral,
alone and as an option of an overlay. A parameter made of a word is shown in the same way. -/
theorem integers_are_shown_as_written :
    (∀ integer : Int, ∃! numeral : Numeral, numeral.value = integer) ∧
    ∀ numeral : Numeral, FitsWord numeral.value → ∃ parameter : Parameter,
      Parameter.parse numeral.text = .ok parameter ∧
      (∀ budget blanks rest, (∀ char ∈ blanks, isBlank char = true) → EndsNumber rest →
        ((readValue budget).map Parameter.ofValue).run
          (blanks ++ (numeral.text.toList ++ rest)) = .ok (parameter, rest)) ∧
      parameter.kind = .number ∧
      parameter.display = numeral.text ∧
      (∀ filter : Filter, filter.name = "overlay" → ∀ (place : Nat) key,
        filter.parameters.entries[place]? = some (key, parameter) → ∀ inputCount, ∃ options,
          filter.segment inputCount = "overlay=" ++ ":".intercalate options ∧
            options[place]? = some (key ++ "=" ++ numeral.text)) ∧
      (∀ word : Int64, word.toInt = numeral.value →
        (Parameter.ofInt64 word).display = parameter.display) ∧
      (∀ word : Int32, word.toInt = numeral.value →
        (Parameter.ofInt32 word).display = parameter.display) ∧
      (∀ word : UInt64, (word.toNat : Int) = numeral.value →
        (Parameter.ofUInt64 word).display = parameter.display) := by
  have sameText : ∀ (numeral : Numeral) (fits : FitsWord numeral.value) (integer : Int)
      (fits' : FitsWord integer), integer = numeral.value →
        (Parameter.ofInt integer fits').display = (Parameter.ofInt numeral.value fits).display := by
    rintro numeral fits _ _ rfl
    rfl
  refine ⟨fun integer => ⟨ofInt integer, value_ofInt integer, fun numeral same => ?_⟩,
    fun numeral fits => ⟨.ofInt numeral.value fits, Parameter.parse_text numeral fits, ?_, rfl,
      ?_, ?_, fun word => sameText numeral fits _ _, fun word => sameText numeral fits _ _,
      fun word => sameText numeral fits _ _⟩⟩
  · exact value_inj (same.trans (value_ofInt integer).symm)
  · exact fun budget blanks rest => Parameter.run_readValue numeral fits budget
  · exact Parameter.display_ofInt numeral fits
  · intro filter overlay place key entry inputCount
    rw [← Parameter.display_ofInt numeral fits]
    exact Parameter.exists_segment_of_overlay overlay entry inputCount

/-- The least integer that is kept exactly. -/
def least : Numeral where
  negative := true
  digits := "9223372036854775808".toList
  nonempty := by decide
  decimal := List.all_eq_true.mp (by decide)
  zeroAlone := by decide
  notMinusZero := by decide

/-- The greatest integer that is kept exactly. -/
def greatest : Numeral where
  negative := false
  digits := "18446744073709551615".toList
  nonempty := by decide
  decimal := List.all_eq_true.mp (by decide)
  zeroAlone := by decide
  notMinusZero := by decide

/-- Both of them are shown as they are written, and so are parameters made of the words. -/
theorem least_and_greatest_are_shown_as_written :
    FitsWord least.value ∧ FitsWord greatest.value ∧
      least.text = "-9223372036854775808" ∧ greatest.text = "18446744073709551615" ∧
      (∃ parameter, Parameter.parse least.text = .ok parameter ∧ parameter.kind = .number ∧
        parameter.display = least.text ∧
        (Parameter.ofInt64 Int64.minValue).display = parameter.display) ∧
      ∃ parameter, Parameter.parse greatest.text = .ok parameter ∧ parameter.kind = .number ∧
        parameter.display = greatest.text ∧
        (Parameter.ofUInt64 18446744073709551615).display = parameter.display := by
  have fitsLeast : FitsWord least.value := by decide +kernel
  have fitsGreatest : FitsWord greatest.value := by decide +kernel
  obtain ⟨_, shown⟩ := integers_are_shown_as_written
  obtain ⟨first, readFirst, _, kindFirst, textFirst, _, wordFirst, _⟩ := shown least fitsLeast
  obtain ⟨second, readSecond, _, kindSecond, textSecond, _, _, _, wordSecond⟩ :=
    shown greatest fitsGreatest
  exact ⟨fitsLeast, fitsGreatest, rfl, rfl,
    ⟨first, readFirst, kindFirst, textFirst, wordFirst _ (by decide +kernel)⟩,
    ⟨second, readSecond, kindSecond, textSecond, wordSecond _ (by decide +kernel)⟩⟩

end Numeral

end FilterGraph
