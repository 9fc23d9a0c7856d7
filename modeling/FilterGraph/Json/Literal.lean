/-
Numbers as they are spelled: an optional sign, digits without a needless zero in front, an optional
fraction and an optional exponent. An integer that fits a 64-bit word is exact. Every other number
becomes a double in a fixed way: the leading digits that fit an unsigned word make a significand,
which is then scaled by a power of ten, so the result may be off by a rounding or two.
-/

import FilterGraph.Json.Reader

namespace FilterGraph.Json

/-! ### Spelling -/

/-- The exponent of a number: its sign and its digits. -/
structure Exponent where
  negative : Bool
  digits : List Char
  deriving DecidableEq, Repr

/-- The parts of a number's spelling. The fraction is empty if there is no point. -/
structure Literal where
  negative : Bool
  whole : List Char
  fraction : List Char
  exponent : Option Exponent
  deriving DecidableEq, Repr

namespace Literal

/-- The digits at the front of a text, and the text behind them. -/
def scanDigits (text : List Char) : List Char × List Char :=
  (text.takeWhile Char.isDigit, text.dropWhile Char.isDigit)

/-- The digits before the point: a zero stands alone. `atEnd` is the cause of a text that ends
where a digit is needed. -/
def scanWhole (atEnd : Cause) : List Char → Except Fault (List Char × List Char)
  | [] => .error (.next atEnd [])
  | char :: rest =>
    if char = '0' then
      if rest.head?.any Char.isDigit then .error (.next .invalidNumber rest)
      else .ok (['0'], rest)
    else if char.isDigit then
      .ok (char :: (scanDigits rest).1, (scanDigits rest).2)
    else .error (.next .invalidNumber (char :: rest))

/-- At least one digit. -/
def scanSome (atEnd : Cause) (text : List Char) : Except Fault (List Char × List Char) :=
  let (digits, rest) := scanDigits text
  if digits.isEmpty then
    .error (.next (if rest.isEmpty then atEnd else .invalidNumber) rest)
  else .ok (digits, rest)

/-- The point and the digits behind it, if there is a point. -/
def scanFraction (atEnd : Cause) : List Char → Except Fault (List Char × List Char)
  | '.' :: rest => scanSome atEnd rest
  | text => .ok ([], text)

/-- The sign of an exponent; none means plus. -/
def scanSign : List Char → Bool × List Char
  | '-' :: rest => (true, rest)
  | '+' :: rest => (false, rest)
  | text => (false, text)

/-- The exponent, if there is one. -/
def scanExponent (atEnd : Cause) (text : List Char) :
    Except Fault (Option Exponent × List Char) :=
  match text with
  | [] => .ok (none, [])
  | char :: rest =>
    if char = 'e' ∨ char = 'E' then
      let (negative, rest) := scanSign rest
      match scanSome atEnd rest with
      | .error fault => .error fault
      | .ok (digits, rest) => .ok (some ⟨negative, digits⟩, rest)
    else .ok (none, char :: rest)

/-- The longest number at the front of a text. -/
def scan (atEnd : Cause) (text : List Char) : Except Fault (Literal × List Char) :=
  let negative := text.head? = some '-'
  match scanWhole atEnd (if negative then text.drop 1 else text) with
  | .error fault => .error fault
  | .ok (whole, rest) =>
    match scanFraction atEnd rest with
    | .error fault => .error fault
    | .ok (fraction, rest) =>
      match scanExponent atEnd rest with
      | .error fault => .error fault
      | .ok (exponent, rest) => .ok (⟨negative, whole, fraction, exponent⟩, rest)

/-! ### A number takes up text -/

theorem length_scanDigits (text : List Char) :
    (scanDigits text).1.length + (scanDigits text).2.length = text.length := by
  rw [← List.length_append]
  exact congrArg List.length List.takeWhile_append_dropWhile

theorem length_scanWhole_lt {atEnd : Cause} {text digits rest : List Char}
    (ok : scanWhole atEnd text = .ok (digits, rest)) : rest.length < text.length := by
  unfold scanWhole at ok
  split at ok
  · cases ok
  · next char others =>
    have counted := length_scanDigits others
    split at ok
    · split at ok <;> cases ok
      exact Nat.lt_succ_self _
    · split at ok <;> cases ok
      rw [List.length_cons]
      omega

theorem length_scanSome_lt {atEnd : Cause} {text digits rest : List Char}
    (ok : scanSome atEnd text = .ok (digits, rest)) : rest.length < text.length := by
  have counted := length_scanDigits text
  unfold scanSome at ok
  simp only at ok
  split at ok
  · cases ok
  · next notEmpty =>
    cases ok
    have : (scanDigits text).1.length ≠ 0 := by simpa using notEmpty
    omega

theorem length_scanFraction_le {atEnd : Cause} {text digits rest : List Char}
    (ok : scanFraction atEnd text = .ok (digits, rest)) : rest.length ≤ text.length := by
  unfold scanFraction at ok
  split at ok
  · exact Nat.le_of_lt (Nat.lt_trans (length_scanSome_lt ok) (Nat.lt_succ_self _))
  · cases ok; exact Nat.le_refl _

theorem length_scanSign_le (text : List Char) : (scanSign text).2.length ≤ text.length := by
  unfold scanSign
  split <;> simp

theorem length_scanExponent_le {atEnd : Cause} {text rest : List Char}
    {exponent : Option Exponent} (ok : scanExponent atEnd text = .ok (exponent, rest)) :
    rest.length ≤ text.length := by
  unfold scanExponent at ok
  split at ok
  · cases ok; exact Nat.le_refl _
  · next char others =>
    have signed := length_scanSign_le others
    split at ok
    · simp only at ok
      split at ok
      · cases ok
      · next found =>
        cases ok
        have := length_scanSome_lt found
        rw [List.length_cons]
        omega
    · cases ok; exact Nat.le_refl _

theorem length_scan_lt {atEnd : Cause} {text rest : List Char} {literal : Literal}
    (ok : scan atEnd text = .ok (literal, rest)) : rest.length < text.length := by
  unfold scan at ok
  simp only at ok
  split at ok
  · cases ok
  · next whole =>
    split at ok
    · cases ok
    · next fraction =>
      split at ok
      · cases ok
      · next exponent =>
        cases ok
        have shorter := length_scanWhole_lt whole
        have := length_scanFraction_le fraction
        have := length_scanExponent_le exponent
        split at shorter
        · rw [List.length_drop] at shorter; omega
        · omega

/-! ### The number a spelling stands for -/

/-- Adds digits to a significand as long as it stays below `2 ^ 64`, and gives the digits that
found no place. -/
def absorb (significand : Nat) : List Char → Nat × List Char
  | [] => (significand, [])
  | digit :: rest =>
    let next := 10 * significand + (digit.toNat - '0'.toNat)
    if next < Nat.pow 2 64 then absorb next rest else (significand, digit :: rest)

/-- The significand of the digits and the power of ten it is to be scaled by, apart from the
explicit exponent. A digit before the point that found no place still counts a power of ten. -/
def significand (literal : Literal) : Nat × Int :=
  let (whole, dropped) := absorb 0 literal.whole
  let (all, unused) := absorb whole literal.fraction
  (all, (dropped.length : Int) - ((literal.fraction.length : Int) - unused.length))

/-- The digits behind the one at which the number they spell passes the limit. -/
def beyond (limit : Nat) (number : Nat) : List Char → Option (List Char)
  | [] => none
  | digit :: rest =>
    let next := 10 * number + (digit.toNat - '0'.toNat)
    if limit < next then some rest else beyond limit next rest

/-- The power of ten of an explicit exponent. -/
def Exponent.power (exponent : Exponent) : Int :=
  let magnitude : Int := Nat.ofDigitChars 10 exponent.digits 0
  if exponent.negative then -magnitude else magnitude

/-- A double times a power of ten, unless it gets too large. The powers up to `10 ^ 308` are
correctly rounded constants; a smaller number is divided in steps. -/
def scaled (value : Float) (power : Int) : Option Float :=
  if power.natAbs ≤ 308 then
    if 0 ≤ power then
      let product := value * Float.ofScientific 1 false power.natAbs
      if product.isInf then none else some product
    else some (value / Float.ofScientific 1 false power.natAbs)
  else if value == 0 then some value
  else if 0 ≤ power then none
  else scaled (value / Float.ofScientific 1 false 308) (power + 308)
termination_by power.natAbs

/-- The double a spelling stands for, if it is not too large. -/
def approximate (literal : Literal) : Option Float :=
  let (significand, shift) := literal.significand
  let power := shift + (literal.exponent.map Exponent.power).getD 0
  (scaled significand.toUInt64.toFloat power).map fun magnitude =>
    if literal.negative then -magnitude else magnitude

/-- The integer of the digits before the point. -/
def integer (literal : Literal) : Int :=
  let magnitude : Int := Nat.ofDigitChars 10 literal.whole 0
  if literal.negative then -magnitude else magnitude

/-- Whether the spelling is that of an integer: no point and no exponent. Minus zero is not, since
it differs from zero. -/
def isInteger (literal : Literal) : Bool :=
  literal.fraction.isEmpty && literal.exponent.isNone &&
    !(literal.negative && literal.integer == 0)

/-- The number a spelling stands for. One that is too large gives the digits at its end that are
not looked at any more: there are some only behind an exponent that does not fit a signed 32-bit
word. With a zero significand such an exponent gives zero, and so does a negative one. -/
def number (literal : Literal) : Except (List Char) Number :=
  let unread := literal.exponent.bind fun exponent => beyond (Nat.pow 2 31 - 1) 0 exponent.digits
  if fits : literal.isInteger = true ∧ FitsWord literal.integer then
    .ok (.integer literal.integer fits.2)
  else
    match literal.approximate.bind Number.ofFloat? with
    | some number => .ok number
    | none => .error (unread.getD [])

end Literal

/-! ### Reading numbers -/

/-- Reads a number. -/
def readNumber : Reader Number where
  run text :=
    match Literal.scan .endInValue text with
    | .error fault => .error fault
    | .ok (literal, rest) =>
      match literal.number with
      | .error unread => .error (.here .numberOutOfRange (unread ++ rest))
      | .ok number => .ok (number, rest)
  shortens ok := by
    split at ok
    · cases ok
    · next scanned =>
      split at ok
      · cases ok
      · cases ok; exact Literal.length_scan_lt scanned

end FilterGraph.Json
