import MallFabric.Message.Decode
import MallFabric.Proofs.Text.Utf8
import Mathlib.Tactic.Ring

/-!
# Reading the wire format back

What was written is read back, whatever follows it, and reading leaves what follows.
Varints hold 64 bits, so a length must be below `2 ^ 64`, as that of everything in a
memory is.
-/

namespace MallFabric.Message

/-! ## Cursors -/

namespace Cursor

/-- A cursor is known by its bytes. -/
theorem eq_ofBytes (cursor : Cursor) : cursor = ofBytes cursor.bytes := by
  obtain ⟨bytes, left, rfl⟩ := cursor
  rfl

@[simp] theorem left_ofBytes (bytes : Bytes) : (ofBytes bytes).left = bytes.length := rfl

@[simp] theorem next?_ofBytes_cons (byte : UInt8) (rest : Bytes) :
    (ofBytes (byte :: rest)).next? = some (byte, ofBytes rest) := rfl

theorem take_ofBytes_append (front rest : Bytes) :
    (ofBytes (front ++ rest)).take front.length = (front, ofBytes rest) := by
  rw [take, Prod.mk.injEq]
  refine ⟨List.take_left, (eq_ofBytes _).trans ?_⟩
  exact congrArg ofBytes List.drop_left

end Cursor

open Cursor (ofBytes)

/-! ## Varints -/

theorem varint_of_lt {number : Nat} (small : number < 128) :
    varint number = [UInt8.ofNat number] := by
  rw [varint, if_pos small]

theorem varint_of_not_lt {number : Nat} (large : ¬ number < 128) :
    varint number = UInt8.ofNat (number % 128 + 128) :: varint (number / 128) := by
  rw [varint, if_neg large]

theorem varint_ne_nil (number : Nat) : varint number ≠ [] := by
  by_cases small : number < 128
  · simp [varint_of_lt small]
  · simp [varint_of_not_lt small]

/-- The lowest group of a number and the groups above it make up the number. -/
theorem add_groups (sum number shift : Nat) :
    sum + (number % 128) <<< shift + (number / 128) <<< (shift + 7) = sum + number <<< shift := by
  have joined : number * 2 ^ shift = (number % 128 + 128 * (number / 128)) * 2 ^ shift := by
    rw [Nat.mod_add_div]
  rw [Nat.shiftLeft_eq, Nat.shiftLeft_eq, Nat.shiftLeft_eq, joined]
  ring

/-- A number is read back if as many groups of seven bits are left as it takes, of which
the last has one bit. -/
theorem readVarintAfter_varint
    {more number : Nat}
    (fits : number < 2 ^ (7 * more + 1))
    (shift sum : Nat)
    (rest : Bytes) :
    readVarintAfter shift sum (more + 1) (ofBytes (varint number ++ rest)) =
      .ok (sum + number <<< shift, ofBytes rest) := by
  induction more generalizing number shift sum with
  | zero =>
      have small : number < 128 := by omega
      have byte : (UInt8.ofNat number).toNat = number := by simp; omega
      rw [varint_of_lt small, List.singleton_append, readVarintAfter, Cursor.next?_ofBytes_cons]
      simp only [byte, small, if_true]
      rw [if_neg (by omega)]
  | succ more inductionHypothesis =>
      by_cases small : number < 128
      · have byte : (UInt8.ofNat number).toNat = number := by simp; omega
        rw [varint_of_lt small, List.singleton_append, readVarintAfter, Cursor.next?_ofBytes_cons]
        simp only [byte, small, if_true]
        rw [if_neg (by omega)]
      · have byte : (UInt8.ofNat (number % 128 + 128)).toNat = number % 128 + 128 := by
          simp
          omega
        have later : number / 128 < 2 ^ (7 * more + 1) := by
          rw [Nat.div_lt_iff_lt_mul (by decide)]
          refine Nat.lt_of_lt_of_eq fits ?_
          rw [show 7 * (more + 1) + 1 = 7 * more + 1 + 7 by omega, Nat.pow_add]
        rw [varint_of_not_lt small, List.cons_append, readVarintAfter, Cursor.next?_ofBytes_cons]
        simp only [byte]
        rw [if_neg (by omega), Nat.add_sub_cancel, inductionHypothesis later, add_groups]

theorem readVarint_varint
    {number : Nat}
    (fits : number < 2 ^ 64)
    (rest : Bytes) :
    readVarint (ofBytes (varint number ++ rest)) = .ok (number, ofBytes rest) := by
  have read := readVarintAfter_varint (show number < 2 ^ (7 * 9 + 1) from fits) 0 0 rest
  simpa [readVarint] using read

/-! ## Keys, lengths and texts -/

theorem readKey_key
    {tag : Nat}
    (positive : 0 < tag)
    (bounded : tag < 2 ^ 29)
    (wireType : WireType)
    (rest : Bytes) :
    readKey (ofBytes (key tag wireType ++ rest)) = .ok ((tag, wireType), ofBytes rest) := by
  have number : wireType.number < 8 := by
    cases wireType with
    | _ => decide
  have low : (8 * tag + wireType.number) % 8 = wireType.number := by omega
  have high : (8 * tag + wireType.number) / 8 = tag := by omega
  have small : ¬ UInt32.size ≤ 8 * tag + wireType.number := by
    rw [UInt32.size]
    omega
  have fits : 8 * tag + wireType.number < 2 ^ 64 := by omega
  have read := readVarint_varint fits rest
  simp only [readKey, key, read, bind, Except.bind, small, if_false, low, high,
    WireType.ofNumber?_number, Nat.ne_of_gt positive]
  rfl

theorem readLength_varint
    {length : Nat}
    (fits : length < 2 ^ 64)
    {rest : Bytes}
    (there : length ≤ rest.length) :
    readLength (ofBytes (varint length ++ rest)) = .ok (length, ofBytes rest) := by
  simp only [readLength, readVarint_varint fits rest, bind, Except.bind, Cursor.left_ofBytes,
    Nat.not_lt.mpr there, if_false]
  rfl

theorem readText_delimited
    {text : String}
    (fits : (Utf8.encode text).length < 2 ^ 64)
    (rest : Bytes) :
    readText (ofBytes (delimited (Utf8.encode text) ++ rest)) = .ok (text, ofBytes rest) := by
  have there : (Utf8.encode text).length ≤ (Utf8.encode text ++ rest).length := by simp
  have length := readLength_varint fits there
  rw [delimited, List.append_assoc]
  simp only [readText, length, bind, Except.bind, Cursor.take_ofBytes_append,
    Utf8.decode_encode]
  rfl

end MallFabric.Message
