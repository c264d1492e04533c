import MallFabric.Message.Schema
import MallFabric.Number.Reading
import MallFabric.Text.Quoted
import MallFabric.Text.Utf8

/-!
# Messages from query strings

A query string is a list of names and texts.  Known names are bound in order,
each at most once; unknown names are ignored, and fields without a text take
their defaults.
-/

namespace MallFabric.Message

/-- Why a query string does not bind. -/
inductive QueryFault where
  | emptyInteger
  | invalidDigit
  | tooLarge
  | tooSmall
  | emptyFloat
  | invalidFloat
  | invalidBool
  | duplicate (field : String)
  /-- A text where a message is expected. -/
  | message (text name : String)
  /-- A text where a list is expected. -/
  | sequence (text : String)
deriving DecidableEq, Repr

namespace QueryFault

def reason : QueryFault -> String
  | emptyInteger => "cannot parse integer from empty string"
  | invalidDigit => "invalid digit found in string"
  | tooLarge => "number too large to fit in target type"
  | tooSmall => "number too small to fit in target type"
  | emptyFloat => "cannot parse float from empty string"
  | invalidFloat => "invalid float literal"
  | invalidBool => "provided string was not \x60true\x60 or \x60false\x60"
  | duplicate field => s!"duplicate field \x60{field}\x60"
  | message text name => s!"invalid type: string {Text.quoted text}, expected struct {name}"
  | sequence text => s!"invalid type: string {Text.quoted text}, expected a sequence"

end QueryFault

/-- Take in the digits of an integer one by one; of a character that is no
digit and a number that leaves the bounds, the one further left is reported. -/
def readDigits (bound : Nat) (overflow : QueryFault) :
    (sum : Nat) -> List Char -> Except QueryFault Nat
  | sum, [] => .ok sum
  | sum, char :: rest =>
      match Digit.ofChar? char with
      | none => .error .invalidDigit
      | some digit =>
          let next := sum * 10 + digit.val
          if bound < next then .error overflow else readDigits bound overflow next rest

/-- Read an integer between `-negativeBound` and `bound`.  A minus sign is
known only where there are negative numbers. -/
def readInteger (negativeBound bound : Nat) (text : String) : Except QueryFault Int :=
  match text.toList with
  | [] => .error .emptyInteger
  | ['+'] => .error .invalidDigit
  | ['-'] => .error .invalidDigit
  | '+' :: rest => (readDigits bound .tooLarge 0 rest).map Int.ofNat
  | '-' :: rest =>
      if negativeBound = 0 then .error .invalidDigit
      else (readDigits negativeBound .tooSmall 0 rest).map fun number => -(Int.ofNat number)
  | chars => (readDigits bound .tooLarge 0 chars).map Int.ofNat

/-- Read a float: digits with at most one point among them and an exponent, or
a name of infinity or of what is not a number. -/
def readFloat (text : String) : Except QueryFault Single :=
  if text = "" then .error .emptyFloat
  else
    let signed := Numeral.spanSign text.toList
    let name := String.ofList (signed.2.map Char.toLower)
    if name = "inf" ∨ name = "infinity" then
      .ok (Single.ofParts signed.1 BinaryFormat.single.infinity)
    else if name = "nan" then
      .ok (Single.ofParts signed.1 (BinaryFormat.single.infinity + 1 <<< 22))
    else match Numeral.ofChars? text.toList with
      | none => .error .invalidFloat
      | some numeral => .ok numeral.nearestSingle

/-- Read the text of a scalar. -/
def Scalar.ofText : (scalar : Scalar) -> String -> Except QueryFault scalar.Value
  | uint32, content =>
      (readInteger 0 (UInt32.size - 1) content).map fun number => UInt32.ofNat number.toNat
  | int32, content => (readInteger (1 <<< 31) (1 <<< 31 - 1) content).map Int32.ofInt
  | int64, content => (readInteger (1 <<< 63) (1 <<< 63 - 1) content).map Int64.ofInt
  | bool, content =>
      if content = "true" then .ok true
      else if content = "false" then .ok false
      else .error .invalidBool
  | float, content => readFloat content
  | text, content => .ok content

/-- Read the text of a field.  Only scalars have texts. -/
def Kind.ofText : (kind : Kind) -> String -> Except QueryFault kind.Value
  | .scalar leaf, content => leaf.ofText content
  | .message name _, content => .error (.message content name)
  | .texts, content => .error (.sequence content)
  | .messages _ _, content => .error (.sequence content)

/-- Bind the text of a field of the given name. -/
def Shape.bindText : (shape : Shape) -> (name text : String) -> shape.Value ->
    Except QueryFault shape.Value
  | .done, _, _, value => .ok value
  | .field expected _ kind rest, name, content, value =>
      if name = expected then
        match kind.ofText content with
        | .ok bound => .ok (bound, value.2)
        | .error fault => .error fault
      else
        match Shape.bindText rest name content value.2 with
        | .ok others => .ok (value.1, others)
        | .error fault => .error fault

/-- Bind pairs in order, `bound` being the names that already have a text. -/
def Shape.bindPairs (shape : Shape) :
    (bound : List String) -> shape.Value -> List (String × String) ->
    Except QueryFault shape.Value
  | _, value, [] => .ok value
  | bound, value, (name, content) :: rest =>
      if bound.contains name then .error (.duplicate name)
      else match shape.bindText name content value with
        | .error fault => .error fault
        | .ok next =>
            if shape.names.contains name then bindPairs shape (name :: bound) next rest
            else bindPairs shape bound next rest

/-- The byte that two hexadecimal digits write. -/
def hexByte? (high low : UInt8) : Option UInt8 :=
  match Hex.digitValue? (Char.ofNat high.toNat), Hex.digitValue? (Char.ofNat low.toNat) with
  | some first, some second => some (UInt8.ofNat (16 * first + second))
  | _, _ => none

/-- The byte that a text starts with, its escape undone, and what follows it. -/
def formByte (byte : UInt8) (rest : Bytes) : UInt8 × Bytes :=
  if byte = 0x2B then (0x20, rest)
  else if byte = 0x25 then
    match rest with
    | high :: low :: after =>
        match hexByte? high low with
        | some decoded => (decoded, after)
        | none => (byte, rest)
    | _ => (byte, rest)
  else (byte, rest)

theorem length_formByte_le (byte : UInt8) (rest : Bytes) :
    (formByte byte rest).2.length ≤ rest.length := by
  unfold formByte
  repeat' split
  all_goals simp
  all_goals omega

/-- The bytes of a form-encoded text: a plus sign is a blank, and a percent
sign with two hexadecimal digits is a byte. -/
def formBytes (reversed bytes : Bytes) : Bytes :=
  match bytes with
  | [] => reversed.reverse
  | byte :: rest => formBytes ((formByte byte rest).1 :: reversed) (formByte byte rest).2
termination_by bytes.length
decreasing_by exact Nat.lt_succ_of_le (length_formByte_le byte rest)

/-- A form-encoded text.  What is not well formed becomes U+FFFD. -/
def formText (chars : List Char) : String :=
  Utf8.decodeLossy (formBytes [] (Utf8.encode (String.ofList chars)))

/-- The pairs of a query string.  Empty pairs are passed over, and a pair
without an equals sign has an empty text. -/
def formPairs (query : String) : List (String × String) :=
  (query.toList.splitOnP (· == '&')).filterMap fun part =>
    if part = [] then none
    else
      some (formText (part.takeWhile (· != '=')), formText ((part.dropWhile (· != '=')).drop 1))

/-- A message from a query string. -/
def Shape.ofQuery (shape : Shape) (query : String) : Except QueryFault shape.Value :=
  shape.bindPairs [] shape.empty (formPairs query)

end MallFabric.Message
