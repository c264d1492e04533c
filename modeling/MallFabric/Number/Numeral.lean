import MallFabric.Number.Single

/-!
# Numerals

A numeral is a number as it is written: sign, digits before and after the
point, and exponent.  `toSingle?` reads it as a single by way of a 64-bit
significand and a double, `nearestSingle` reads it with one rounding.
-/

namespace MallFabric

/-- A decimal digit. -/
abbrev Digit := Fin 10

namespace Digit

/-- The digit that a character shows. -/
def ofChar? (char : Char) : Option Digit :=
  if '0' ≤ char ∧ char ≤ '9' then some (Fin.ofNat 10 (char.toNat - 48)) else none

def toChar (digit : Digit) : Char := Char.ofNat (48 + digit.val)

/-- The number that digits write, after the digits that write `high`. -/
def numberAfter (high : Nat) (digits : List Digit) : Nat :=
  digits.foldl (fun number digit => number * 10 + digit.val) high

/-- The number that digits write. -/
def number (digits : List Digit) : Nat := numberAfter 0 digits

/-- The decimal digits of a number, without leading zeros. -/
def ofNat (number : Nat) : List Digit :=
  (Nat.toDigits 10 number).filterMap ofChar?

end Digit

/-- The exponent part of a numeral. -/
structure Exponent where
  negative : Bool
  digits : List Digit
deriving DecidableEq, Repr, Inhabited

namespace Exponent

def value (exponent : Exponent) : Int :=
  let magnitude : Int := Digit.number exponent.digits
  if exponent.negative then -magnitude else magnitude

end Exponent

/-- A number as it is written. -/
structure Numeral where
  negative : Bool
  whole : List Digit
  /-- The digits after the point; there is a point only if there are some. -/
  fraction : List Digit
  exponent : Option Exponent
deriving DecidableEq, Repr, Inhabited

namespace Numeral

/-- A whole number. -/
def ofInt (number : Int) : Numeral :=
  ⟨decide (number < 0), Digit.ofNat number.natAbs, [], none⟩

/-- The integer that a numeral without point and exponent writes.  A negative
zero is no integer. -/
def toInt? (numeral : Numeral) : Option Int :=
  if numeral.fraction ≠ [] ∨ numeral.exponent.isSome then none
  else
    let magnitude := Digit.number numeral.whole
    if numeral.negative then if magnitude = 0 then none else some (-(magnitude : Int))
    else some magnitude

/-- The decimal magnitude of a numeral. -/
def magnitude (numeral : Numeral) : Decimal :=
  ⟨Digit.numberAfter (Digit.number numeral.whole) numeral.fraction,
    (numeral.exponent.map Exponent.value).getD 0 - numeral.fraction.length⟩

/-- A decimal with a 64-bit coefficient that holds the leading digits of a numeral. -/
structure Leading where
  significand : Nat
  exponent : Int

/-- The greatest 64-bit word. -/
def greatestWord : Nat := UInt64.size - 1

/-- Take in whole digits while the significand fits in a word; each of the
rest multiplies by ten. -/
def leadingWhole (significand : Nat) : List Digit -> Leading × Bool
  | [] => (⟨significand, 0⟩, false)
  | digit :: rest =>
      let next := significand * 10 + digit.val
      if next ≤ greatestWord then leadingWhole next rest
      else (⟨significand, rest.length + 1⟩, true)

/-- Take in digits after the point while the significand fits in a word, and
drop the rest. -/
def leadingFraction (leading : Leading) : List Digit -> Leading
  | [] => leading
  | digit :: rest =>
      let next := leading.significand * 10 + digit.val
      if next ≤ greatestWord then leadingFraction ⟨next, leading.exponent - 1⟩ rest
      else leading

def leading (numeral : Numeral) : Leading :=
  leadingFraction (leadingWhole 0 numeral.whole).1 numeral.fraction

/-- The greatest power of ten that a double holds. -/
def greatestPower : Nat := 308

/-- A double magnitude divided by `10 ^ power`, in steps that a double holds. -/
def scaleDown (magnitude power : Nat) : Nat :=
  let ratio := (BinaryFormat.double.value magnitude).ratio
  let divisor := (BinaryFormat.double.value (BinaryFormat.double.encodeRatio
    (Nat.pow 10 (min power greatestPower)) 1)).ratio
  let quotient := BinaryFormat.double.encodeRatio (ratio.1 * divisor.2) (ratio.2 * divisor.1)
  if greatestPower < power ∧ magnitude ≠ 0 then
    if quotient = 0 then 0 else scaleDown quotient (power - greatestPower)
  else quotient
termination_by power
decreasing_by simp [greatestPower] at *; omega

/-- The double magnitude of leading digits: the significand rounded, then
scaled by a rounded power of ten.  None if the result is not finite. -/
def scale (leading : Leading) : Option Nat :=
  let significand := BinaryFormat.double.encodeRatio leading.significand 1
  if leading.exponent < 0 then some (scaleDown significand leading.exponent.natAbs)
  else if leading.exponent.toNat ≤ greatestPower then
    let ratio := (BinaryFormat.double.value significand).ratio
    let power := (BinaryFormat.double.value (BinaryFormat.double.encodeRatio
      (Nat.pow 10 leading.exponent.toNat) 1)).ratio
    let product := BinaryFormat.double.encodeRatio (ratio.1 * power.1) (ratio.2 * power.2)
    if product < BinaryFormat.double.infinity then some product else none
  else if leading.significand = 0 then some 0
  else none

/-- The range of exponents that are told apart. -/
def greatestExponent : Nat := 1 <<< 31 - 1

/-- The double magnitude of a numeral, none if it is out of range. -/
def toDouble? (numeral : Numeral) : Option Nat :=
  let leading := numeral.leading
  match numeral.exponent with
  | none => scale leading
  | some exponent =>
      let power := Digit.number exponent.digits
      if greatestExponent < power then
        if leading.significand = 0 ∨ exponent.negative then some 0 else none
      else
        let total := leading.exponent + exponent.value
        scale ⟨leading.significand,
          max Int32.minValue.toInt (min greatestExponent total)⟩

/-- The single that a numeral stands for, by way of a double unless it is a
64-bit integer.  None if the double is out of range. -/
def toSingle? (numeral : Numeral) : Option Single :=
  match numeral.toInt? with
  | some number =>
      if Int64.minValue.toInt ≤ number ∧ number < UInt64.size then some (Single.ofInt number)
      else numeral.toDouble?.map (Single.ofDouble numeral.negative)
  | none => numeral.toDouble?.map (Single.ofDouble numeral.negative)

/-- Exponents beyond this bound leave no choice but zero or infinity, however
many digits stand before them. -/
def exponentBound (numeral : Numeral) : Int :=
  1000 + (numeral.whole.length + numeral.fraction.length : Nat)

/-- The magnitude nearest to a numeral, infinity beyond the finite range. -/
def nearest (format : BinaryFormat) (numeral : Numeral) : Nat :=
  let magnitude := numeral.magnitude
  let bounded : Decimal := ⟨magnitude.coefficient,
    max (-numeral.exponentBound) (min numeral.exponentBound magnitude.exponent)⟩
  format.encodeRatio bounded.ratio.1 bounded.ratio.2

/-- The single nearest to a numeral. -/
def nearestSingle (numeral : Numeral) : Single :=
  Single.ofParts numeral.negative (numeral.nearest BinaryFormat.single)

/-- The digits of a numeral without its sign. -/
def unsignedChars (numeral : Numeral) : List Char :=
  numeral.whole.map Digit.toChar
    ++ (if numeral.fraction = [] then [] else '.' :: numeral.fraction.map Digit.toChar)
    ++ (match numeral.exponent with
      | none => []
      | some exponent =>
          'e' :: (if exponent.negative then ['-'] else []) ++ exponent.digits.map Digit.toChar)

/-- A numeral as text. -/
def chars (numeral : Numeral) : List Char :=
  if numeral.negative then '-' :: numeral.unsignedChars else numeral.unsignedChars

/-- Digits with a point after the first `count` of them, zeros filled in on
either side, and at least one digit after the point. -/
def withPoint (negative : Bool) (digits : List Digit) (count : Int) : Numeral :=
  let shown := List.replicate (1 - count).toNat 0 ++ digits
  let whole := max 1 count.toNat
  let padded := shown ++ List.replicate (whole + 1 - shown.length) 0
  ⟨negative, padded.take whole, padded.drop whole, none⟩

/-- A finite single with its shortest digits: positional while the point falls
at most thirteen digits after the first or six places before it, otherwise
one digit before the point and an exponent. -/
def ofSingle (number : Single) : Numeral :=
  let decimal := number.shortest
  let digits := Digit.ofNat decimal.coefficient
  let count : Int := digits.length + decimal.exponent
  if -6 < count ∧ count ≤ 13 then withPoint number.isNegative digits count
  else
    let power := count - 1
    ⟨number.isNegative, digits.take 1, digits.drop 1,
      some ⟨decide (power < 0), Digit.ofNat power.natAbs⟩⟩

end Numeral

end MallFabric
