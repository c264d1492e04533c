import MallFabric.Message.Wire

/-!
# Writing messages as bytes

Fields are written in the order of their tags.  A field with the value of one
that is not given is left out; repeated fields have one entry for each item.
-/

namespace MallFabric.Message

/-- The four bytes of a word, least significant first. -/
def littleEndian (word : UInt32) : Bytes :=
  [word.toUInt8, (word >>> 8).toUInt8, (word >>> 16).toUInt8, (word >>> 24).toUInt8]

/-- Bytes with their length in front. -/
def delimited (bytes : Bytes) : Bytes :=
  varint bytes.length ++ bytes

namespace Scalar

def wireType : Scalar -> WireType
  | uint32 | int32 | int64 | bool => .varint
  | float => .thirtyTwoBit
  | text => .lengthDelimited

/-- The bytes of a value, without its key.  Negative integers are extended to
64 bits. -/
def encode : (scalar : Scalar) -> scalar.Value -> Bytes
  | uint32, value => varint (UInt32.toNat value)
  | int32, value => varint (Int32.toInt64 value).toUInt64.toNat
  | int64, value => varint (Int64.toUInt64 value).toNat
  | bool, value => varint (Bool.toNat value)
  | float, value => littleEndian (Single.bits value)
  | text, value => delimited (Utf8.encode value)

end Scalar

mutual

/-- The entries of a field. -/
def Kind.encode : (kind : Kind) -> (tag : Nat) -> kind.Value -> Bytes
  | .scalar leaf, tag, value =>
      if leaf.isEmpty value then [] else key tag leaf.wireType ++ leaf.encode value
  | .message _ shape, tag, value =>
      match (value : Option shape.Value) with
      | none => []
      | some content => key tag .lengthDelimited ++ delimited (Shape.encode shape content)
  | .texts, tag, value =>
      List.flatMap (fun text => key tag .lengthDelimited ++ delimited (Utf8.encode text)) value
  | .messages _ shape, tag, value =>
      List.flatMap
        (fun content => key tag .lengthDelimited ++ delimited (Shape.encode shape content)) value

/-- The bytes of a message. -/
def Shape.encode : (shape : Shape) -> shape.Value -> Bytes
  | .done, _ => []
  | .field _ tag kind rest, value =>
      Kind.encode kind tag value.1 ++ Shape.encode rest value.2

end

end MallFabric.Message
