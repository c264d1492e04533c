/-!
# Binary rounding of exact ratios

A floating-point format is given by its number of fraction and exponent
bits.  Magnitudes are encoded so that their order is the order of their bit
patterns; the value of a pattern is a whole number of quanta, and a quantum
is a power of two.
-/

namespace MallFabric

/-- The whole number nearest to `numerator / denominator`; a half goes to the
even neighbour. -/
def roundHalfEven (numerator denominator : Nat) : Nat :=
  let quotient := numerator / denominator
  let twice := 2 * (numerator % denominator)
  if twice < denominator then quotient
  else if denominator < twice then quotient + 1
  else quotient + quotient % 2

/-- An exact nonnegative value `coefficient * 2 ^ exponent`. -/
structure Dyadic where
  coefficient : Nat
  exponent : Int
deriving DecidableEq, Repr, Inhabited

namespace Dyadic

/-- The value as a ratio of natural numbers. -/
def ratio (value : Dyadic) : Nat × Nat :=
  if 0 ≤ value.exponent then (value.coefficient <<< value.exponent.toNat, 1)
  else (value.coefficient, 1 <<< (-value.exponent).toNat)

end Dyadic

/-- A binary floating-point format. -/
structure BinaryFormat where
  fractionBits : Nat
  exponentBits : Nat
deriving DecidableEq, Repr

namespace BinaryFormat

def single : BinaryFormat := ⟨23, 8⟩

def double : BinaryFormat := ⟨52, 11⟩

/-- Patterns of one exponent. -/
def binade (format : BinaryFormat) : Nat := 1 <<< format.fractionBits

/-- The exponent of the smallest quantum. -/
def leastExponent (format : BinaryFormat) : Int :=
  2 - (1 <<< (format.exponentBits - 1) : Nat) - format.fractionBits

/-- The pattern of infinity; greater patterns are not numbers. -/
def infinity (format : BinaryFormat) : Nat :=
  (1 <<< format.exponentBits - 1) * format.binade

/-- The value of a finite magnitude. -/
def value (format : BinaryFormat) (magnitude : Nat) : Dyadic :=
  let biased := magnitude / format.binade
  let fraction := magnitude % format.binade
  if biased = 0 then ⟨fraction, format.leastExponent⟩
  else ⟨fraction + format.binade, format.leastExponent + (biased - 1 : Nat)⟩

/-- The greatest power of two that is not above `numerator / denominator`. -/
def binaryLogarithm (numerator denominator : Nat) : Int :=
  let guess : Int := (Nat.log2 numerator : Int) - Nat.log2 denominator
  let scaled := if 0 ≤ guess then (numerator, denominator <<< guess.toNat)
    else (numerator <<< (-guess).toNat, denominator)
  if scaled.1 < scaled.2 then guess - 1 else guess

/-- The magnitude nearest to `numerator / denominator`, ties to even, and
infinity beyond the finite range. -/
def encodeRatio (format : BinaryFormat) (numerator denominator : Nat) : Nat :=
  if numerator = 0 then 0 else
    let exponent := max (binaryLogarithm numerator denominator - format.fractionBits)
      format.leastExponent
    let quanta :=
      if 0 ≤ exponent then roundHalfEven numerator (denominator <<< exponent.toNat)
      else roundHalfEven (numerator <<< (-exponent).toNat) denominator
    min format.infinity (quanta + (exponent - format.leastExponent).toNat * format.binade)

/-- The magnitude nearest to a dyadic value. -/
def encode (format : BinaryFormat) (value : Dyadic) : Nat :=
  format.encodeRatio value.ratio.1 value.ratio.2

end BinaryFormat

end MallFabric
