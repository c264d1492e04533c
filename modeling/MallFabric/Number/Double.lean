import MallFabric.Number.Numeral

/-!
# Double-precision numbers

A double is kept as its bit pattern, and is only read and shown.
-/

namespace MallFabric

/-- A double-precision number, as its 64 bits. -/
structure Double where
  bits : UInt64
deriving DecidableEq, Repr, Inhabited

namespace Double

/-- Sign bit and magnitude put together. -/
def ofParts (negative : Bool) (magnitude : Nat) : Double :=
  ⟨UInt64.ofNat ((if negative then 1 <<< 63 else 0) + magnitude)⟩

def infinite (negative : Bool) : Double := ofParts negative BinaryFormat.double.infinity

/-- A pattern that is not a number. -/
def invalid : Double := ofParts false (BinaryFormat.double.infinity + 1 <<< 51)

def isNegative (number : Double) : Bool := 1 <<< 63 ≤ number.bits.toNat

def magnitude (number : Double) : Nat := number.bits.toNat % 1 <<< 63

/-- The double nearest to a numeral, infinity beyond the finite range. -/
def nearest (numeral : Numeral) : Double :=
  ofParts numeral.negative (numeral.nearest BinaryFormat.double)

/-- A decimal without an exponent, with as many zeros as that takes. -/
def positional (decimal : Decimal) : String :=
  let digits := Nat.toDigits 10 decimal.coefficient
  if 0 ≤ decimal.exponent then
    String.ofList (digits ++ if decimal.coefficient = 0 then []
      else List.replicate decimal.exponent.toNat '0')
  else
    let places := (-decimal.exponent).toNat
    let padded := List.replicate (places + 1 - digits.length) '0' ++ digits
    String.ofList (padded.take (padded.length - places) ++ '.' :: padded.drop (padded.length - places))

/-- A double with its shortest digits, never with an exponent. -/
def shown (number : Double) : String :=
  if BinaryFormat.double.infinity < number.magnitude then "NaN"
  else
    let unsigned :=
      if number.magnitude = BinaryFormat.double.infinity then "inf"
      else positional (BinaryFormat.double.shortest number.magnitude)
    if number.isNegative then "-" ++ unsigned else unsigned

end Double

end MallFabric
