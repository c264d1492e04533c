/-!
# Hexadecimal text

Bytes are written as pairs of lower-case hexadecimal digits.
-/

namespace MallFabric

/-- A sequence of octets. -/
abbrev Bytes := List UInt8

namespace Hex

/-- The lower-case digit of a value below sixteen. -/
def digit (value : Nat) : Char :=
  if value < 10 then Char.ofNat (48 + value) else Char.ofNat (87 + value)

/-- The value of a hexadecimal digit of either case. -/
def digitValue? (char : Char) : Option Nat :=
  if '0' ≤ char ∧ char ≤ '9' then some (char.toNat - 48)
  else if 'a' ≤ char ∧ char ≤ 'f' then some (char.toNat - 87)
  else if 'A' ≤ char ∧ char ≤ 'F' then some (char.toNat - 55)
  else none

def encodeChars : Bytes -> List Char
  | [] => []
  | byte :: rest => digit (byte.toNat / 16) :: digit (byte.toNat % 16) :: encodeChars rest

/-- Two digits for each byte. -/
def encode (bytes : Bytes) : String :=
  String.ofList (encodeChars bytes)

def decodeChars : List Char -> Option Bytes
  | [] => some []
  | [_] => none
  | high :: low :: rest =>
      match digitValue? high, digitValue? low, decodeChars rest with
      | some highValue, some lowValue, some bytes =>
          some (UInt8.ofNat (16 * highValue + lowValue) :: bytes)
      | _, _, _ => none

/-- Read pairs of digits of either case. -/
def decode (text : String) : Option Bytes :=
  decodeChars text.toList

/-- A digit below sixteen is read as itself. -/
theorem digitValue?_digit : (value : Nat) -> value < 16 -> digitValue? (digit value) = some value := by
  decide

/-- Digits that were written are read back. -/
theorem decodeChars_encodeChars (bytes : Bytes) : decodeChars (encodeChars bytes) = some bytes := by
  induction bytes with
  | nil => rfl
  | cons byte rest inductionHypothesis =>
      have bound : byte.toNat < 256 := byte.toNat_lt
      have high := digitValue?_digit (byte.toNat / 16) (by omega)
      have low := digitValue?_digit (byte.toNat % 16) (by omega)
      simp only [encodeChars, decodeChars, high, low, inductionHypothesis]
      rw [Nat.div_add_mod]
      simp

theorem decode_encode (bytes : Bytes) : decode (encode bytes) = some bytes := by
  simp [decode, encode, decodeChars_encodeChars]

/-- A number in hexadecimal digits, without leading zeros. -/
def ofNat (number : Nat) : String :=
  String.ofList (Nat.toDigits 16 number)

end Hex

end MallFabric
