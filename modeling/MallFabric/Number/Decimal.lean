import MallFabric.Number.Rounding

/-!
# Decimal numbers and their shortest digits

A decimal is a coefficient times a power of ten.  `BinaryFormat.shortest`
picks, among the decimals that round to a given finite magnitude, one with
the fewest digits, and of those the nearest to it.
-/

namespace MallFabric

/-- A nonnegative decimal `coefficient * 10 ^ exponent`. -/
structure Decimal where
  coefficient : Nat
  exponent : Int
deriving DecidableEq, Repr, Inhabited

namespace Decimal

/-- The value as a ratio of natural numbers. -/
def ratio (decimal : Decimal) : Nat × Nat :=
  if 0 ≤ decimal.exponent then (decimal.coefficient * Nat.pow 10 decimal.exponent.toNat, 1)
  else (decimal.coefficient, Nat.pow 10 (-decimal.exponent).toNat)

/-- The number of decimal digits of a natural number; zero has none. -/
def digitCount (number : Nat) : Nat :=
  if number = 0 then 0 else digitCount (number / 10) + 1

/-- Remove zeros at the end of the coefficient, at most `fuel` of them. -/
def trim (decimal : Decimal) : (fuel : Nat) -> Decimal
  | 0 => decimal
  | fuel + 1 =>
      if decimal.coefficient ≠ 0 ∧ decimal.coefficient % 10 = 0 then
        trim ⟨decimal.coefficient / 10, decimal.exponent + 1⟩ fuel
      else decimal

end Decimal

/-- The greatest power of ten that is not above `numerator / denominator`. -/
def decimalLogarithm (numerator denominator : Nat) : Int :=
  if denominator ≤ numerator then (Decimal.digitCount (numerator / denominator) : Int) - 1
  else -(Decimal.digitCount ((denominator - 1) / numerator) : Int)

namespace BinaryFormat

/-- The decimals with the exponent `exponent` on either side of a ratio. -/
def neighbours (numerator denominator : Nat) (exponent : Int) : Decimal × Decimal :=
  let below :=
    if 0 ≤ exponent then numerator / (denominator * Nat.pow 10 exponent.toNat)
    else numerator * Nat.pow 10 (-exponent).toNat / denominator
  (⟨below, exponent⟩, ⟨below + 1, exponent⟩)

/-- The nearer of the two neighbours of a ratio; of two equally near ones the
even one. -/
def nearest (numerator denominator : Nat) (exponent : Int) : Decimal :=
  if 0 ≤ exponent then ⟨roundHalfEven numerator (denominator * Nat.pow 10 exponent.toNat), exponent⟩
  else ⟨roundHalfEven (numerator * Nat.pow 10 (-exponent).toNat) denominator, exponent⟩

/-- The first of the given digit counts at which a neighbour of the value
rounds to the magnitude. -/
def shortestAmong (format : BinaryFormat) (magnitude numerator denominator : Nat) :
    List Nat -> Decimal
  | [] => ⟨0, 0⟩
  | digits :: more =>
      let exponent := decimalLogarithm numerator denominator + 1 - digits
      let readsBack := fun decimal : Decimal =>
        format.encodeRatio decimal.ratio.1 decimal.ratio.2 == magnitude
      let sides := neighbours numerator denominator exponent
      match readsBack sides.1, readsBack sides.2 with
      | true, true => nearest numerator denominator exponent
      | true, false => sides.1
      | false, true => sides.2
      | false, false => shortestAmong format magnitude numerator denominator more

/-- The decimal with the fewest digits that rounds to a finite magnitude. -/
def shortest (format : BinaryFormat) (magnitude : Nat) : Decimal :=
  if magnitude = 0 then ⟨0, 0⟩ else
    let ratio := (format.value magnitude).ratio
    let decimal := format.shortestAmong magnitude ratio.1 ratio.2 ((List.range 17).map (· + 1))
    decimal.trim (Decimal.digitCount decimal.coefficient)

end BinaryFormat

end MallFabric
