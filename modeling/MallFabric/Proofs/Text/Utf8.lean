import MallFabric.Text.Utf8
import Mathlib.Tactic.Common

/-!
# Reading texts back

The bytes of a text are read back as the text.  A text has as many bytes as characters if each
of its characters is a single byte.
-/

namespace MallFabric.Utf8

/-- The list of a byte array collects the bytes from a place on behind those it has. -/
theorem toList_loop
    (bytes : ByteArray)
    (place : Nat)
    (seen : List UInt8) :
    ByteArray.toList.loop bytes place seen = seen.reverse ++ bytes.data.toList.drop place := by
  induction place, seen using ByteArray.toList.loop.induct bytes with
  | case1 place seen inside inductionHypothesis =>
      have within : place < bytes.data.toList.length := by simpa using inside
      have here : bytes.get! place = bytes.data.toList[place] := by
        simp [ByteArray.get!, getElem!_pos, inside]
      rw [ByteArray.toList.loop, if_pos inside, inductionHypothesis, List.drop_eq_getElem_cons within,
        here, List.reverse_cons, List.append_assoc, List.singleton_append]
  | case2 place seen outside =>
      have beyond : bytes.data.toList.length ≤ place := by simpa using outside
      rw [ByteArray.toList.loop, if_neg outside, List.drop_eq_nil_of_le beyond, List.append_nil]

theorem encode_eq (text : String) : encode text = text.toUTF8.data.toList := by
  rw [encode, ByteArray.toList, toList_loop]
  rfl

theorem decode_encode (text : String) : decode (encode text) = some text := by
  have valid : text.toUTF8.IsValidUTF8 := text.isValidUTF8
  rw [encode_eq, decode, Array.toArray_toList, String.fromUTF8?, dif_pos valid]
  rfl

/-- A text that was read has the bytes that it was read from. -/
theorem encode_of_decode
    {bytes : List UInt8}
    {text : String}
    (decoded : decode bytes = some text) :
    encode text = bytes := by
  unfold decode String.fromUTF8? at decoded
  split at decoded
  · obtain rfl := Option.some.inj decoded
    rw [encode_eq]
    exact List.toList_toArray
  · cases decoded

theorem size_ofList
    {chars : List Char}
    (single : ∀ char ∈ chars, char.utf8Size = 1) :
    (String.ofList chars).utf8ByteSize = chars.length := by
  induction chars with
  | nil => rfl
  | cons char rest inductionHypothesis =>
      obtain ⟨first, others⟩ := List.forall_mem_cons.mp single
      rw [← List.singleton_append, String.ofList_append, String.utf8ByteSize_append,
        inductionHypothesis others, ← String.singleton_eq_ofList, String.utf8ByteSize_singleton,
        first, List.length_append, List.length_singleton]

/-- A text of single bytes has as many of them as characters. -/
theorem size_eq_length
    {text : String}
    (single : ∀ char ∈ text.toList, char.utf8Size = 1) :
    text.utf8ByteSize = text.toList.length := by
  rw [← size_ofList single, String.ofList_toList]

end MallFabric.Utf8
