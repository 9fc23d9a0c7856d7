/-
The shortest decimal of a binary floating-point number. A double stands for every real that
rounds to it, so it may be written by any decimal of that interval. Going from coarse decimal
grids to fine ones, the first grid with a point in the interval gives the fewest digits; of its
points the one next to the double itself is taken, and of two equally near the even one.

All of it is exact arithmetic on natural numbers, starting from the bits of the double.
-/

namespace FilterGraph.Decimal

/-! ### The interval of a double -/

/-- The positive number `significand · 2 ^ exponent`. The next smaller double is half as far away
as the next larger one exactly when `narrowBelow`. -/
structure Binary where
  significand : Nat
  exponent : Int
  narrowBelow : Bool
  deriving DecidableEq, Repr

namespace Binary

/-- The magnitude of a finite double, read off its bits. -/
def ofBits (bits : UInt64) : Binary :=
  let fraction := bits.toNat % Nat.pow 2 52
  let biased : Nat := bits.toNat / Nat.pow 2 52 % Nat.pow 2 11
  if biased = 0 then
    { significand := fraction, exponent := -1074, narrowBelow := false }
  else
    { significand := Nat.pow 2 52 + fraction, exponent := (biased : Int) - 1075
      narrowBelow := fraction = 0 && biased != 1 }

/-- The three numbers that decide what rounds to a double, over one common denominator. -/
structure Interval where
  lower : Nat
  centre : Nat
  upper : Nat
  denominator : Nat
  closed : Bool
  deriving DecidableEq, Repr

/-- Half of the distance to each neighbour is still within the interval; the ends themselves
are, when ties go to this significand, because it is even. -/
def interval (number : Binary) : Interval :=
  let scale := Nat.pow 2 (number.exponent - 2).toNat
  { lower := (4 * number.significand - if number.narrowBelow then 1 else 2) * scale
    centre := 4 * number.significand * scale
    upper := (4 * number.significand + 2) * scale
    denominator := Nat.pow 2 (2 - number.exponent).toNat
    closed := number.significand % 2 = 0 }

end Binary

namespace Binary.Interval

/-- Whether the fraction lies in the interval. -/
def contains (interval : Interval) (numerator denominator : Nat) : Bool :=
  if interval.closed then
    interval.lower * denominator ≤ numerator * interval.denominator &&
      numerator * interval.denominator ≤ interval.upper * denominator
  else
    interval.lower * denominator < numerator * interval.denominator &&
      numerator * interval.denominator < interval.upper * denominator

end Binary.Interval

/-! ### Decimals -/

/-- The number `coefficient · 10 ^ exponent`. -/
structure Scientific where
  coefficient : Nat
  exponent : Int
  deriving DecidableEq, Repr

namespace Scientific

/-- The decimal as a fraction in natural numbers: what stands above the line. -/
def numerator (decimal : Scientific) : Nat :=
  decimal.coefficient * Nat.pow 10 decimal.exponent.toNat

/-- What stands below the line. -/
def denominator (decimal : Scientific) : Nat :=
  Nat.pow 10 (-decimal.exponent).toNat

/-- The digits of the coefficient, most significant first. -/
def digits (decimal : Scientific) : List Char :=
  Nat.toDigits 10 decimal.coefficient

/-- The power of ten of the leading digit. -/
def leading (decimal : Scientific) : Int :=
  decimal.exponent + decimal.digits.length - 1

end Scientific

/-! ### Searching the grids -/

/-- The multiples of `10 ^ exponent` on both sides of the interval's centre. -/
def neighbours (interval : Binary.Interval) (exponent : Int) : Scientific × Scientific :=
  let below := interval.centre * Nat.pow 10 (-exponent).toNat /
    (interval.denominator * Nat.pow 10 exponent.toNat)
  (⟨below, exponent⟩, ⟨below + 1, exponent⟩)

/-- The point of the grid next to the centre; a tie goes to the even one. -/
def nearest (interval : Binary.Interval) (exponent : Int) : Scientific :=
  let (below, above) := neighbours interval exponent
  let unit := interval.denominator * Nat.pow 10 exponent.toNat
  let excess := interval.centre * Nat.pow 10 (-exponent).toNat % unit
  if 2 * excess < unit then below
  else if unit < 2 * excess then above
  else if below.coefficient % 2 = 0 then below else above

/-- The point of the coarsest grid that has one in the interval, starting at `exponent` and
giving up after `finer` refinements, where the nearest point stands for the number. -/
def coarsest (interval : Binary.Interval) : (finer : Nat) → (exponent : Int) → Scientific
  | 0, exponent => nearest interval exponent
  | finer + 1, exponent =>
    let (below, above) := neighbours interval exponent
    let within (decimal : Scientific) : Bool :=
      interval.contains decimal.numerator decimal.denominator
    match within below, within above with
    | true, true => nearest interval exponent
    | true, false => below
    | false, true => above
    | false, false => coarsest interval finer (exponent - 1)

/-- A power of ten above the fraction, at most ten times too large. -/
def magnitude (numerator denominator : Nat) : Int :=
  if denominator ≤ numerator then
    (Nat.toDigits 10 (numerator / denominator)).length
  else
    1 - ((Nat.toDigits 10 ((denominator - 1) / numerator)).length : Int)

/-- The shortest decimal in the interval. Seventeen digits always tell a double from its
neighbours, so the search never has to give up. -/
def shortestIn (interval : Binary.Interval) : Scientific :=
  coarsest interval 18 (magnitude interval.centre interval.denominator)

/-- The shortest decimal that reads back as the magnitude of a finite double. -/
def shortest (value : Float) : Scientific :=
  let number := Binary.ofBits value.toBits
  if number.significand = 0 then ⟨0, 0⟩ else shortestIn number.interval

/-! ### Writing -/

/-- How a decimal is laid out: leading powers of ten from `least` to `greatest` are written with
all their places, others with an exponent. -/
structure Style where
  least : Int
  greatest : Int
  deriving DecidableEq, Repr

/-- Digits before the point, and what stands behind it; `0` stands for an empty side. -/
def point (whole fraction : List Char) : List Char :=
  (if whole.isEmpty then ['0'] else whole) ++ '.' ::
    (if fraction.isEmpty then ['0'] else fraction)

/-- All places of a decimal written out, at least one on each side of the point. -/
def positional (digits : List Char) (leading : Int) : List Char :=
  let places := (leading + 1).toNat
  let zerosBefore := (-leading - 1).toNat
  point (digits.take places ++ List.replicate (places - digits.length) '0')
    (List.replicate zerosBefore '0' ++ digits.drop places)

/-- One digit before the point and a signed exponent; no point when there are no further digits. -/
def withExponent (digits : List Char) (leading : Int) : List Char :=
  let fraction := digits.drop 1
  digits.take 1 ++ (if fraction.isEmpty then [] else '.' :: fraction) ++
    'e' :: (if leading < 0 then '-' else '+') :: Nat.toDigits 10 leading.natAbs

/-- A decimal in the given style. -/
def Style.write (style : Style) (decimal : Scientific) : List Char :=
  if style.least ≤ decimal.leading ∧ decimal.leading ≤ style.greatest then
    positional decimal.digits decimal.leading
  else
    withExponent decimal.digits decimal.leading

/-- The shortest text of a finite double, with its sign; zero keeps its sign too. -/
def Style.writeFloat (style : Style) (value : Float) : List Char :=
  let text := style.write (shortest value)
  if Nat.pow 2 63 ≤ value.toBits.toNat then '-' :: text else text

end FilterGraph.Decimal
