import MallFabric.Message.Schema
import MallFabric.Text.Utf8

/-!
# The binary wire format

A message is a sequence of fields.  Each starts with a key, which holds the
tag of the field and the wire type of its value.  Numbers are written as
varints: groups of seven bits, least significant first, each but the last
with its top bit set.
-/

namespace MallFabric.Message

/-- How the value of a field is laid out. -/
inductive WireType where
  | varint
  | sixtyFourBit
  | lengthDelimited
  | startGroup
  | endGroup
  | thirtyTwoBit
deriving DecidableEq, Repr

namespace WireType

def number : WireType -> Nat
  | varint => 0
  | sixtyFourBit => 1
  | lengthDelimited => 2
  | startGroup => 3
  | endGroup => 4
  | thirtyTwoBit => 5

def ofNumber? : Nat -> Option WireType
  | 0 => some varint
  | 1 => some sixtyFourBit
  | 2 => some lengthDelimited
  | 3 => some startGroup
  | 4 => some endGroup
  | 5 => some thirtyTwoBit
  | _ => none

@[simp] theorem ofNumber?_number (wireType : WireType) :
    ofNumber? wireType.number = some wireType := by
  cases wireType <;> rfl

def name : WireType -> String
  | varint => "Varint"
  | sixtyFourBit => "SixtyFourBit"
  | lengthDelimited => "LengthDelimited"
  | startGroup => "StartGroup"
  | endGroup => "EndGroup"
  | thirtyTwoBit => "ThirtyTwoBit"

end WireType

/-- What is wrong with a byte sequence. -/
inductive WireFault where
  /-- A varint that is cut off or does not fit in 64 bits. -/
  | varint
  /-- A key above 32 bits. -/
  | key (value : Nat)
  | wireType (value : Nat)
  /-- A key with the tag zero. -/
  | tag
  | mismatch (found expected : WireType)
  /-- A value that runs past the end. -/
  | underflow
  /-- A nested message whose fields run past its length. -/
  | lengthExceeded
  | notUtf8
  /-- The end of a group that is not the one open. -/
  | endGroup
  /-- Groups nested too deep. -/
  | recursion
deriving DecidableEq, Repr

namespace WireFault

def message : WireFault -> String
  | varint => "invalid varint"
  | key value => s!"invalid key value: {value}"
  | wireType value => s!"invalid wire type value: {value}"
  | tag => "invalid tag value: 0"
  | mismatch found expected => s!"invalid wire type: {found.name} (expected {expected.name})"
  | underflow => "buffer underflow"
  | lengthExceeded => "delimited length exceeded"
  | notUtf8 => "invalid string value: data is not UTF-8 encoded"
  | endGroup => "unexpected end group tag"
  | recursion => "recursion limit reached"

end WireFault

/-- A fault and the fields that were being read, innermost first. -/
structure WireError where
  fault : WireFault
  /-- Pairs of a message's name and a field's name. -/
  path : List (String × String)
deriving DecidableEq, Repr

namespace WireError

def ofFault (fault : WireFault) : WireError := ⟨fault, []⟩

/-- The error as seen from a field around it. -/
def within (error : WireError) (message field : String) : WireError :=
  { error with path := error.path ++ [(message, field)] }

def message (error : WireError) : String :=
  let steps := error.path.map fun step => s!"{step.1}.{step.2}: "
  "failed to decode Protobuf message: " ++ String.join steps ++ error.fault.message

end WireError

/-- The bytes that are still to be read, and their number. -/
structure Cursor where
  bytes : Bytes
  left : Nat
  left_eq : left = bytes.length

namespace Cursor

def ofBytes (bytes : Bytes) : Cursor := ⟨bytes, bytes.length, rfl⟩

/-- The first byte, and what follows it. -/
def next? (cursor : Cursor) : Option (UInt8 × Cursor) :=
  match cursor with
  | ⟨[], _, _⟩ => none
  | ⟨byte :: rest, left, left_eq⟩ =>
      some (byte, ⟨rest, left - 1, by simp [left_eq]⟩)

/-- The first `count` bytes, and what follows them. -/
def take (cursor : Cursor) (count : Nat) : Bytes × Cursor :=
  (cursor.bytes.take count,
    ⟨cursor.bytes.drop count, cursor.left - count, by simp [cursor.left_eq]⟩)

end Cursor

/-- The varint of a number. -/
def varint (number : Nat) : Bytes :=
  if number < 128 then [UInt8.ofNat number]
  else UInt8.ofNat (number % 128 + 128) :: varint (number / 128)

/-- Read the rest of a varint, of which at most `more` bytes remain: `shift`
bits with the value `sum` have been read. -/
def readVarintAfter (shift sum : Nat) :
    (more : Nat) -> Cursor -> Except WireFault (Nat × Cursor)
  | 0, _ => .error .varint
  | more + 1, cursor =>
      match cursor.next? with
      | none => .error .varint
      | some (byte, rest) =>
          if byte.toNat < 128 then
            if more = 0 ∧ 1 < byte.toNat then .error .varint
            else .ok (sum + byte.toNat <<< shift, rest)
          else readVarintAfter (shift + 7) (sum + (byte.toNat - 128) <<< shift) more rest

/-- Read a varint of at most 64 bits. -/
def readVarint (cursor : Cursor) : Except WireFault (Nat × Cursor) :=
  readVarintAfter 0 0 10 cursor

/-- The key of a field. -/
def key (tag : Nat) (wireType : WireType) : Bytes :=
  varint (8 * tag + wireType.number)

/-- Read the key of a field. -/
def readKey (cursor : Cursor) : Except WireFault ((Nat × WireType) × Cursor) := do
  let (value, rest) ← readVarint cursor
  if UInt32.size ≤ value then throw (.key value)
  match WireType.ofNumber? (value % 8) with
  | none => throw (.wireType (value % 8))
  | some wireType =>
      if value / 8 = 0 then throw .tag
      return ((value / 8, wireType), rest)

/-- Read the length that stands in front of a value, and check that as much is there. -/
def readLength (cursor : Cursor) : Except WireFault (Nat × Cursor) := do
  let (length, rest) ← readVarint cursor
  if rest.left < length then throw .underflow
  return (length, rest)

/-- Pass over `count` bytes. -/
def skipBytes (count : Nat) (cursor : Cursor) : Except WireFault Cursor :=
  if cursor.left < count then .error .underflow else .ok (cursor.take count).2

/-- Pass over the fields of a group up to its end, `skip` passing over each.
The fuel bounds their number. -/
def skipGroup (skip : WireType -> Nat -> Cursor -> Except WireFault Cursor) (tag : Nat) :
    (fuel : Nat) -> Cursor -> Except WireFault Cursor
  | 0, _ => .error .varint
  | fuel + 1, cursor => do
      let ((innerTag, wireType), rest) ← readKey cursor
      if wireType = .endGroup then
        if innerTag = tag then return rest else throw .endGroup
      else
        skipGroup skip tag fuel (← skip wireType innerTag rest)

/-- Pass over the value of a field that nobody knows, with groups nested at
most `depth` deep. -/
def skipField : (depth : Nat) -> WireType -> Nat -> Cursor -> Except WireFault Cursor
  | 0, _, _, _ => .error .recursion
  | depth + 1, wireType, tag, cursor =>
      match wireType with
      | .varint => (readVarint cursor).map Prod.snd
      | .thirtyTwoBit => skipBytes 4 cursor
      | .sixtyFourBit => skipBytes 8 cursor
      | .lengthDelimited => do
          let (length, rest) ← readVarint cursor
          skipBytes length rest
      | .startGroup => skipGroup (skipField depth) tag (cursor.left + 1) cursor
      | .endGroup => .error .endGroup

/-- How deep groups may nest. -/
def greatestDepth : Nat := 100

end MallFabric.Message
