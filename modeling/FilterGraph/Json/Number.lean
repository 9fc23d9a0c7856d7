/-
JSON numbers as this library keeps them: integers of 64 bits, signed or unsigned, are exact, and
every other number is a finite double. The two kinds never mix, so `1` and `1.0` stay apart.
-/

import FilterGraph.Decimal.Shortest

namespace FilterGraph.Json

/-- The integers that are kept exactly: those of a signed or of an unsigned 64-bit word, from
`-2 ^ 63` on and below `2 ^ 64`. -/
def FitsWord (value : Int) : Prop :=
  -9223372036854775808 ≤ value ∧ value < 18446744073709551616

instance (value : Int) : Decidable (FitsWord value) :=
  inferInstanceAs (Decidable (_ ∧ _))

/-- Every signed word of 64 bits fits. -/
theorem FitsWord.of_int64 (word : Int64) : FitsWord word.toInt := by
  have := word.le_toInt
  have := word.toInt_lt
  exact ⟨by omega, by omega⟩

/-- Every signed word of 32 bits fits. -/
theorem FitsWord.of_int32 (word : Int32) : FitsWord word.toInt := by
  have := word.le_toInt
  have := word.toInt_lt
  exact ⟨by omega, by omega⟩

/-- Every unsigned word of 64 bits fits. -/
theorem FitsWord.of_uint64 (word : UInt64) : FitsWord word.toNat := by
  have := word.toNat_lt
  exact ⟨by omega, by omega⟩

/-- A number: an exact integer of 64 bits, or a double that is neither infinite nor NaN. -/
inductive Number where
  | integer (value : Int) (fits : FitsWord value)
  | real (value : Float) (finite : value.isFinite = true)

namespace Number

/-- Reals are positional from `0.00001` up to sixteen digits before the point. -/
def realStyle : Decimal.Style where
  least := -5
  greatest := 15

/-- The decimal digits of an integer behind its sign. -/
def integerText (value : Int) : List Char :=
  if value < 0 then '-' :: Nat.toDigits 10 value.natAbs else Nat.toDigits 10 value.natAbs

/-- The text of a number: a real always shows a point or an exponent, an integer neither. -/
def text : Number → List Char
  | integer value _ => integerText value
  | real value _ => realStyle.writeFloat value

/-- Whether two numbers compare equal: reals by value, so the two zeros are equal, and a real never
equals an integer. -/
def same : Number → Number → Bool
  | integer first _, integer second _ => first == second
  | real first _, real second _ => first == second
  | _, _ => false

/-- The number a double stands for, if it is finite. -/
def ofFloat? (value : Float) : Option Number :=
  if finite : value.isFinite = true then some (real value finite) else none

end Number

end FilterGraph.Json
