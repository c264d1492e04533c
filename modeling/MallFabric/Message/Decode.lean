import MallFabric.Message.Encode

/-!
# Reading messages from bytes

Fields may come in any order and any number.  Of a scalar the last value
counts, messages of one field are merged, and repeated fields grow.  Unknown
fields are passed over.
-/

namespace MallFabric.Message

/-- Check the wire type of a value before it is read. -/
def expectWireType (found expected : WireType) : Except WireFault Unit :=
  if found = expected then .ok () else .error (.mismatch found expected)

/-- Read a text with its length in front. -/
def readText (cursor : Cursor) : Except WireFault (String × Cursor) := do
  let (length, rest) ← readLength cursor
  let (bytes, after) := rest.take length
  match Utf8.decode bytes with
  | some text => return (text, after)
  | none => throw .notUtf8

/-- The word of four bytes, least significant first. -/
def wordOfBytes (bytes : Bytes) : UInt32 :=
  bytes.foldr (fun byte word => word * 256 + byte.toUInt32) 0

/-- Read the value of a scalar.  Varints are cut to the width of the field. -/
def Scalar.read : (scalar : Scalar) -> Cursor -> Except WireFault (scalar.Value × Cursor)
  | uint32, cursor => do
      let (number, rest) ← readVarint cursor
      return (UInt32.ofNat number, rest)
  | int32, cursor => do
      let (number, rest) ← readVarint cursor
      return ((UInt32.ofNat number).toInt32, rest)
  | int64, cursor => do
      let (number, rest) ← readVarint cursor
      return ((UInt64.ofNat number).toInt64, rest)
  | bool, cursor => do
      let (number, rest) ← readVarint cursor
      return (number != 0, rest)
  | float, cursor =>
      if cursor.left < 4 then .error .underflow
      else
        let (bytes, rest) := cursor.take 4
        .ok (⟨wordOfBytes bytes⟩, rest)
  | text, cursor => readText cursor

/-- Take in fields with `step` until no more than `limit` bytes remain.  Every
field has at least one byte, so the fuel bounds their number. -/
def mergeWhile {Content : Type}
    (step : Content -> Cursor -> Except WireError (Content × Cursor)) (limit : Nat) :
    (fuel : Nat) -> Content -> Cursor -> Except WireError (Content × Cursor)
  | 0, content, cursor => .ok (content, cursor)
  | fuel + 1, content, cursor =>
      if cursor.left ≤ limit then .ok (content, cursor)
      else do
        let (next, rest) ← step content cursor
        mergeWhile step limit fuel next rest

/-- Take in the fields of a nested message, whose length stands in front. -/
def mergeDelimited {Content : Type}
    (step : Content -> Cursor -> Except WireError (Content × Cursor))
    (content : Content) (cursor : Cursor) : Except WireError (Content × Cursor) := do
  let (length, rest) ← (readLength cursor).mapError WireError.ofFault
  let limit := rest.left - length
  let (result, after) ← mergeWhile step limit length content rest
  if after.left ≠ limit then throw (.ofFault .lengthExceeded)
  return (result, after)

/-- Read a key and take in its field. -/
def mergeEntry {Content : Type}
    (field : Nat -> WireType -> Content -> Cursor -> Except WireError (Content × Cursor))
    (content : Content) (cursor : Cursor) : Except WireError (Content × Cursor) := do
  let ((tag, wireType), rest) ← (readKey cursor).mapError WireError.ofFault
  field tag wireType content rest

mutual

/-- Take in one entry of a field. -/
def Kind.merge : (kind : Kind) -> (depth : Nat) -> WireType -> kind.Value -> Cursor ->
    Except WireError (kind.Value × Cursor)
  | .scalar leaf, _, wireType, _, cursor =>
      (do expectWireType wireType leaf.wireType
          leaf.read cursor).mapError WireError.ofFault
  | .message name shape, depth, wireType, value, cursor => do
      (expectWireType wireType .lengthDelimited).mapError WireError.ofFault
      let (content, rest) ← mergeDelimited
        (mergeEntry fun tag wireType content cursor =>
          Shape.mergeField shape name (depth - 1) tag wireType content cursor)
        (Option.getD value shape.empty) cursor
      return (some content, rest)
  | .texts, _, wireType, value, cursor =>
      (do expectWireType wireType .lengthDelimited
          let (text, rest) ← readText cursor
          return (List.append value [text], rest)).mapError WireError.ofFault
  | .messages name shape, depth, wireType, value, cursor => do
      (expectWireType wireType .lengthDelimited).mapError WireError.ofFault
      let (content, rest) ← mergeDelimited
        (mergeEntry fun tag wireType content cursor =>
          Shape.mergeField shape name (depth - 1) tag wireType content cursor)
        shape.empty cursor
      return (List.append value [content], rest)

/-- Take in one field of the message `owner`. -/
def Shape.mergeField : (shape : Shape) -> (owner : String) -> (depth : Nat) -> (tag : Nat) ->
    WireType -> shape.Value -> Cursor -> Except WireError (shape.Value × Cursor)
  | .done, _, depth, tag, wireType, value, cursor =>
      ((skipField depth wireType tag cursor).map fun rest => (value, rest)).mapError
        WireError.ofFault
  | .field name expected kind rest, owner, depth, tag, wireType, value, cursor =>
      if tag = expected then
        match Kind.merge kind depth wireType value.1 cursor with
        | .ok (content, after) => .ok ((content, value.2), after)
        | .error error => .error (error.within owner name)
      else
        match Shape.mergeField rest owner depth tag wireType value.2 cursor with
        | .ok (others, after) => .ok ((value.1, others), after)
        | .error error => .error error

end

/-- Read a message named `name` from all of a byte sequence. -/
def Shape.decode (shape : Shape) (name : String) (bytes : Bytes) : Except WireError shape.Value :=
  (mergeWhile (mergeEntry fun tag wireType content cursor =>
      shape.mergeField name greatestDepth tag wireType content cursor)
    0 bytes.length shape.empty (Cursor.ofBytes bytes)).map Prod.fst

end MallFabric.Message
