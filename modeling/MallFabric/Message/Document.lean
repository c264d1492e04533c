import MallFabric.Json.Value
import MallFabric.Message.Schema

/-!
# Messages as JSON documents

A message is written as an object with every field present.  It is read from
an object whose unknown members are ignored and whose missing members take
their defaults, or from an array of its fields in order.
-/

namespace MallFabric.Message

/-- The integer that a JSON value writes, if it lies within bounds. -/
def boundedInt? (least greatest : Int) (value : Json) : Option Int :=
  match value with
  | .number numeral =>
      match numeral.toInt? with
      | some number => if least ≤ number ∧ number ≤ greatest then some number else none
      | none => none
  | _ => none

namespace Scalar

def toJson : (scalar : Scalar) -> scalar.Value -> Json
  | uint32, value => Json.nat (UInt32.toNat value)
  | int32, value => Json.int (Int32.toInt value)
  | int64, value => Json.int (Int64.toInt value)
  | bool, value => Json.bool value
  | float, value => Json.single value
  | text, value => Json.text value

def ofJson? : (scalar : Scalar) -> Json -> Option scalar.Value
  | uint32, value =>
      (boundedInt? 0 (UInt32.size - 1) value).map fun number => UInt32.ofNat number.toNat
  | int32, value => (boundedInt? Int32.minValue.toInt Int32.maxValue.toInt value).map Int32.ofInt
  | int64, value => (boundedInt? Int64.minValue.toInt Int64.maxValue.toInt value).map Int64.ofInt
  | bool, .bool value => some value
  | float, .number numeral => numeral.toSingle?
  | text, .string content => content
  | _, _ => none

end Scalar

mutual

/-- The value of a field as JSON. -/
def Kind.toJson : (kind : Kind) -> kind.Value -> Json
  | .scalar leaf, value => leaf.toJson value
  | .message _ shape, value =>
      match (value : Option shape.Value) with
      | none => .null
      | some content => .object (Shape.members shape content)
  | .texts, value => .array (List.map Json.text value)
  | .messages _ shape, value =>
      .array (List.map (fun content => .object (Shape.members shape content)) value)

/-- The fields of a message as members of an object. -/
def Shape.members : (shape : Shape) -> shape.Value -> List (Option String × Json)
  | .done, _ => []
  | .field name _ kind rest, value =>
      (some name, Kind.toJson kind value.1) :: Shape.members rest value.2

end

/-- A message as JSON. -/
def Shape.toJson (shape : Shape) (value : shape.Value) : Json :=
  .object (shape.members value)

/-- The text of a JSON string. -/
def textOfJson? : Json -> Option String
  | .string content => content
  | _ => none

mutual

/-- The value of a field from JSON.  Only a field for at most one message may
be null. -/
def Kind.ofJson? : (kind : Kind) -> Json -> Option kind.Value
  | .scalar leaf, value => leaf.ofJson? value
  | .message _ shape, value =>
      match value with
      | .null => some none
      | .object members =>
          if members.all fun member => member.1.isSome then
            (Shape.ofMembers? shape members).map some
          else none
      | .array items => (Shape.ofItems? shape items).map some
      | _ => none
  | .texts, value =>
      match value with
      | .array items => items.mapM textOfJson?
      | _ => none
  | .messages _ shape, value =>
      match value with
      | .array items =>
          items.mapM fun item =>
            match item with
            | .object members =>
                if members.all fun member => member.1.isSome then Shape.ofMembers? shape members
                else none
            | .array items => Shape.ofItems? shape items
            | _ => none
      | _ => none

/-- A message from the members of an object.  A field has at most one member. -/
def Shape.ofMembers? : (shape : Shape) -> List (Option String × Json) -> Option shape.Value
  | .done, _ => some ()
  | .field name _ kind rest, members =>
      match Json.membersNamed members name with
      | [] =>
          match Shape.ofMembers? rest members with
          | some others => some (kind.empty, others)
          | none => none
      | [value] =>
          match Kind.ofJson? kind value, Shape.ofMembers? rest members with
          | some content, some others => some (content, others)
          | _, _ => none
      | _ :: _ :: _ => none

/-- A message from its fields in order, the last of which may be missing. -/
def Shape.ofItems? : (shape : Shape) -> List Json -> Option shape.Value
  | .done, [] => some ()
  | .done, _ :: _ => none
  | .field _ _ kind rest, [] => some (kind.empty, rest.empty)
  | .field _ _ kind rest, value :: items =>
      match Kind.ofJson? kind value, Shape.ofItems? rest items with
      | some content, some others => some (content, others)
      | _, _ => none

end

/-- A message from JSON. -/
def Shape.ofJson? (shape : Shape) (value : Json) : Option shape.Value :=
  match value with
  | .object members =>
      if members.all fun member => member.1.isSome then shape.ofMembers? members else none
  | .array items => shape.ofItems? items
  | _ => none

end MallFabric.Message
