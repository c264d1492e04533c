import MallFabric.Number.Decimal

/-!
# Single-precision numbers

A single is kept as its bit pattern, so that signed zeros, infinities and
the patterns that are not numbers are all told apart.  Arithmetic is exact
arithmetic followed by one rounding.
-/

namespace MallFabric

/-- A single-precision number, as its 32 bits. -/
structure Single where
  bits : UInt32
deriving DecidableEq, Repr, Inhabited

namespace Single

/-- Sign bit and magnitude put together. -/
def ofParts (negative : Bool) (magnitude : Nat) : Single :=
  ⟨UInt32.ofNat ((if negative then 1 <<< 31 else 0) + magnitude)⟩

def zero : Single := ⟨0⟩

/-- The pattern that operations without a result give. -/
def invalid : Single := ofParts true (BinaryFormat.single.infinity + 1 <<< 22)

def isNegative (number : Single) : Bool := 1 <<< 31 ≤ number.bits.toNat

def magnitude (number : Single) : Nat := number.bits.toNat % 1 <<< 31

def isNaN (number : Single) : Bool := BinaryFormat.single.infinity < number.magnitude

def isInfinite (number : Single) : Bool := number.magnitude = BinaryFormat.single.infinity

def isFinite (number : Single) : Bool := number.magnitude < BinaryFormat.single.infinity

/-- Both zeros are zero. -/
def isZero (number : Single) : Bool := number.magnitude = 0

/-- A negative zero becomes a positive one. -/
def unsignZero (number : Single) : Single :=
  if number.isZero then zero else number

/-- The exact magnitude of a finite number. -/
def value (number : Single) : Dyadic := BinaryFormat.single.value number.magnitude

def ofRatio (negative : Bool) (numerator denominator : Nat) : Single :=
  ofParts negative (BinaryFormat.single.encodeRatio numerator denominator)

def ofDyadic (negative : Bool) (value : Dyadic) : Single :=
  ofParts negative (BinaryFormat.single.encode value)

/-- The single nearest to an integer. -/
def ofInt (number : Int) : Single :=
  ofRatio (decide (number < 0)) number.natAbs 1

/-- The single nearest to a double magnitude. -/
def ofDouble (negative : Bool) (magnitude : Nat) : Single :=
  if magnitude < BinaryFormat.double.infinity then
    ofDyadic negative (BinaryFormat.double.value magnitude)
  else ofParts negative BinaryFormat.single.infinity

/-- An operand that is not a number is the result, with its quiet bit set. -/
def quiet (number : Single) : Single := ⟨number.bits ||| 0x400000⟩

/-- The product, rounded once. -/
def mul (left right : Single) : Single :=
  let negative := left.isNegative != right.isNegative
  if left.isNaN then left.quiet
  else if right.isNaN then right.quiet
  else if left.isInfinite || right.isInfinite then
    if left.isZero || right.isZero then invalid
    else ofParts negative BinaryFormat.single.infinity
  else ofDyadic negative
    ⟨left.value.coefficient * right.value.coefficient,
      left.value.exponent + right.value.exponent⟩

/-- A finite number as a whole multiple of `2 ^ exponent`. -/
def scaled (number : Single) (exponent : Int) : Int :=
  let coefficient : Int :=
    (number.value.coefficient <<< (number.value.exponent - exponent).toNat : Nat)
  if number.isNegative then -coefficient else coefficient

/-- The sum, rounded once.  A sum that is exactly zero is positive, unless
both operands are negative. -/
def add (left right : Single) : Single :=
  if left.isNaN then left.quiet
  else if right.isNaN then right.quiet
  else if left.isInfinite then
    if right.isInfinite && left.isNegative != right.isNegative then invalid else left
  else if right.isInfinite then right
  else
    let exponent := min left.value.exponent right.value.exponent
    let sum := left.scaled exponent + right.scaled exponent
    if sum = 0 then ofParts (left.isNegative && right.isNegative) 0
    else ofDyadic (decide (sum < 0)) ⟨sum.natAbs, exponent⟩

/-- The sum of a list from left to right. -/
def sum (numbers : List Single) : Single :=
  numbers.foldl add (ofParts true 0)

/-- The decimal with the fewest digits that reads back as a finite number. -/
def shortest (number : Single) : Decimal :=
  BinaryFormat.single.shortest number.magnitude

end Single

end MallFabric
