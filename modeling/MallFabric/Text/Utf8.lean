import MallFabric.Text.Hex

/-!
# UTF-8

Strict reading accepts exactly the well-formed sequences.  Lossy reading puts
U+FFFD in the place of each longest start of a character that does not go on
to be one, and of each byte that starts none.
-/

namespace MallFabric.Utf8

/-- The bytes of a text. -/
def encode (text : String) : Bytes :=
  text.toUTF8.toList

/-- The text of a well-formed sequence. -/
def decode (bytes : Bytes) : Option String :=
  String.fromUTF8? ⟨bytes.toArray⟩

/-- What a first byte demands of the bytes after it: the bits it gives, the
least and greatest second byte, and how many bytes follow. -/
structure Lead where
  bits : Nat
  least : Nat
  greatest : Nat
  following : Nat

/-- The demands of a first byte above the ASCII range, if it starts a character. -/
def lead? (byte : Nat) : Option Lead :=
  if byte < 0xC2 then none
  else if byte < 0xE0 then some ⟨byte - 0xC0, 0x80, 0xBF, 1⟩
  else if byte = 0xE0 then some ⟨0, 0xA0, 0xBF, 2⟩
  else if byte = 0xED then some ⟨0xD, 0x80, 0x9F, 2⟩
  else if byte < 0xF0 then some ⟨byte - 0xE0, 0x80, 0xBF, 2⟩
  else if byte = 0xF0 then some ⟨0, 0x90, 0xBF, 3⟩
  else if byte < 0xF4 then some ⟨byte - 0xF0, 0x80, 0xBF, 3⟩
  else if byte = 0xF4 then some ⟨4, 0x80, 0x8F, 3⟩
  else none

/-- A character under way: the bits so far and what the next byte must be. -/
structure Pending where
  bits : Nat
  least : Nat
  greatest : Nat
  following : Nat

/-- U+FFFD, which stands for what is not well formed. -/
def replacement : Char := Char.ofNat 0xFFFD

/-- Begin a character with a byte. -/
def start (byte : Nat) : Option Char × Option Pending :=
  if byte < 0x80 then (some (Char.ofNat byte), none)
  else match lead? byte with
    | some demand => (none, some ⟨demand.bits, demand.least, demand.greatest, demand.following⟩)
    | none => (some replacement, none)

def decodeLossyFrom (pending : Option Pending) : Bytes -> List Char
  | [] => match pending with
    | some _ => [replacement]
    | none => []
  | byte :: rest =>
      match pending with
      | some demand =>
          if demand.least ≤ byte.toNat ∧ byte.toNat ≤ demand.greatest then
            let bits := demand.bits * 64 + (byte.toNat - 0x80)
            if demand.following = 1 then Char.ofNat bits :: decodeLossyFrom none rest
            else decodeLossyFrom (some ⟨bits, 0x80, 0xBF, demand.following - 1⟩) rest
          else
            let begun := start byte.toNat
            replacement :: (begun.1.toList ++ decodeLossyFrom begun.2 rest)
      | none =>
          let begun := start byte.toNat
          begun.1.toList ++ decodeLossyFrom begun.2 rest

/-- The text of any sequence, with U+FFFD for what is not well formed. -/
def decodeLossy (bytes : Bytes) : String :=
  String.ofList (decodeLossyFrom none bytes)

end MallFabric.Utf8
