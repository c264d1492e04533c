import MallFabric.Number.Single

/-!
# Message schemas

A shape lists the fields of a message in the order of their tags, and a kind
says what a field holds.  Kinds and shapes index the types of their values,
so that one codec, written by recursion on the schema, serves every message.
-/

namespace MallFabric.Message

/-- What a field without parts holds. -/
inductive Scalar where
  | uint32
  | int32
  | int64
  | bool
  | float
  | text
deriving DecidableEq, Repr

mutual

/-- What a field holds. -/
inductive Kind where
  | scalar (leaf : Scalar)
  /-- At most one message of the given name and shape. -/
  | message (name : String) (shape : Shape)
  /-- Any number of texts. -/
  | texts
  /-- Any number of messages of the given name and shape. -/
  | messages (name : String) (shape : Shape)

/-- The fields of a message. -/
inductive Shape where
  | done
  | field (name : String) (tag : Nat) (kind : Kind) (rest : Shape)

end

/-- The values of a scalar field. -/
@[reducible] def Scalar.Value : Scalar -> Type
  | uint32 => UInt32
  | int32 => Int32
  | int64 => Int64
  | bool => Bool
  | float => Single
  | text => String

mutual

/-- The values of a field. -/
@[reducible] def Kind.Value : Kind -> Type
  | .scalar leaf => leaf.Value
  | .message _ shape => Option shape.Value
  | .texts => List String
  | .messages _ shape => List shape.Value

/-- The values of a message: one value for each field. -/
@[reducible] def Shape.Value : Shape -> Type
  | .done => Unit
  | .field _ _ kind rest => kind.Value × rest.Value

end

/-- The value of a scalar field that is not given. -/
def Scalar.empty : (scalar : Scalar) -> scalar.Value
  | uint32 => (0 : UInt32)
  | int32 => (0 : Int32)
  | int64 => (0 : Int64)
  | bool => false
  | float => Single.zero
  | text => ""

/-- The value of a field that is not given. -/
def Kind.empty : (kind : Kind) -> kind.Value
  | .scalar leaf => leaf.empty
  | .message _ _ => none
  | .texts => []
  | .messages _ _ => []

/-- The message of which no field is given. -/
def Shape.empty : (shape : Shape) -> shape.Value
  | .done => ()
  | .field _ _ kind rest => (kind.empty, rest.empty)

/-- Whether a scalar has the value of a field that is not given.  Both zeros
of a float do. -/
def Scalar.isEmpty : (scalar : Scalar) -> scalar.Value -> Bool
  | uint32, value => value == (0 : UInt32)
  | int32, value => value == (0 : Int32)
  | int64, value => value == (0 : Int64)
  | bool, value => !value
  | float, value => Single.isZero value
  | text, value => value == ""

/-- Whether a field has the value of one that is not given. -/
def Kind.isEmpty : (kind : Kind) -> kind.Value -> Bool
  | .scalar leaf, value => leaf.isEmpty value
  | .message _ _, value => Option.isNone value
  | .texts, value => List.isEmpty value
  | .messages _ _, value => List.isEmpty value

/-- Whether no field of a message is given. -/
def Shape.isEmpty : (shape : Shape) -> shape.Value -> Bool
  | .done, _ => true
  | .field _ _ kind rest, value => kind.isEmpty value.1 && rest.isEmpty value.2

/-- A scalar with a positive zero in the place of a negative one. -/
def Scalar.unsignZero : (scalar : Scalar) -> scalar.Value -> scalar.Value
  | float, value => Single.unsignZero value
  | uint32, value => value
  | int32, value => value
  | int64, value => value
  | bool, value => value
  | text, value => value

mutual

/-- A field with positive zeros in the place of negative ones. -/
def Kind.unsignZero : (kind : Kind) -> kind.Value -> kind.Value
  | .scalar leaf, value => leaf.unsignZero value
  | .message _ shape, value => Option.map (Shape.unsignZero shape) value
  | .texts, value => value
  | .messages _ shape, value => List.map (Shape.unsignZero shape) value

/-- A message with positive zeros in the place of negative ones. -/
def Shape.unsignZero : (shape : Shape) -> shape.Value -> shape.Value
  | .done, value => value
  | .field _ _ kind rest, value => (kind.unsignZero value.1, rest.unsignZero value.2)

end

/-- The names of the fields, in order. -/
def Shape.names : Shape -> List String
  | .done => []
  | .field name _ _ rest => name :: rest.names

/-- The tags of the fields, in order. -/
def Shape.tags : Shape -> List Nat
  | .done => []
  | .field _ tag _ rest => tag :: rest.tags

mutual

/-- Whether every message within a field has a sound shape. -/
def Kind.sound : Kind -> Bool
  | .scalar _ => true
  | .message _ shape => shape.sound
  | .texts => true
  | .messages _ shape => shape.sound

/-- Whether names and tags of a message tell its fields apart, tags are within
the range of the wire format, and the messages within it are sound. -/
def Shape.sound : Shape -> Bool
  | .done => true
  | .field name tag kind rest =>
      !rest.names.contains name && !rest.tags.contains tag
        && decide (0 < tag) && decide (tag < 1 <<< 29) && kind.sound && rest.sound

end

end MallFabric.Message
