import MallFabric.Context
import MallFabric.Number.Numeral

/-!
# Metadata of calls

A call carries its request id and the time its caller leaves it as headers.
A header value is a sequence of bytes; it is text if all of them are visible
ASCII characters, blanks or tabs.
-/

namespace MallFabric

/-- Header fields in order.  Each character of a value is one byte. -/
abbrev Headers := List (String × String)

namespace Headers

/-- The first value under a name; names have no case. -/
def first? (headers : Headers) (name : String) : Option String :=
  (headers.find? fun header => header.1.map Char.toLower = name).map Prod.snd

/-- Whether a character stands for itself in a header that is read as text. -/
def isVisible (char : Char) : Bool :=
  char = '\t' || (0x20 ≤ char.toNat && char.toNat < 0x7f)

/-- The first value under a name, if it is text. -/
def text? (headers : Headers) (name : String) : Option String :=
  (headers.first? name).bind fun value =>
    if value.toList.all isVisible then some value else none

/-- Whether a byte may stand in a header value at all. -/
def isPermitted (byte : UInt8) : Bool :=
  byte = 9 || (0x20 ≤ byte.toNat && byte ≠ 0x7f)

end Headers

namespace Grpc

/-- The header of the request id. -/
def requestIdHeader : String := "x-request-id"

/-- The header of the time left. -/
def timeoutHeader : String := "grpc-timeout"

/-- The length of a unit of time. -/
def unitLength? : Char -> Option Duration
  | 'H' => some (Duration.ofSeconds 3600)
  | 'M' => some (Duration.ofSeconds 60)
  | 'S' => some (Duration.ofSeconds 1)
  | 'm' => some (Duration.ofMillis 1)
  | 'u' => some (Duration.ofMicros 1)
  | 'n' => some 1
  | _ => none

/-- The number that digits write, with at most a plus sign before them. -/
def readCount? (chars : List Char) : Option Nat :=
  let digits := match chars with
    | '+' :: rest => rest
    | _ => chars
  if digits = [] then none
  else (digits.mapM Digit.ofChar?).map Digit.number

/-- What comes of reading a text as a time. -/
inductive TimeReading where
  /-- The last byte is cut off within a character, which aborts. -/
  | aborted
  /-- The text is a time or none. -/
  | ended (span : Option Duration)
  deriving DecidableEq, Repr

/-- Read a time: one to eight bytes that write a number, then one byte for the unit. -/
def readTimeout (text : String) : TimeReading :=
  let chars := text.toList
  if text.utf8ByteSize < 2 ∨ 9 < text.utf8ByteSize then .ended none
  else if chars.getLast?.any fun char => 1 < char.utf8Size then .aborted
  else
    match readCount? chars.dropLast, chars.getLast?.bind unitLength? with
    | some count, some unit => .ended (some (count * unit))
    | _, _ => .ended none

/-- The time that a text is read as. -/
def parseTimeout? (text : String) : Option Duration :=
  match readTimeout text with
  | .ended span => span
  | .aborted => none

/-- The greatest number that is written for a time. -/
def greatestCount : Nat := 99999999

/-- A time in the first of the given units in which its number is not too great. -/
def formatIn (span : Duration) : List (Char × Duration) -> String
  | [] => ""
  | (letter, unit) :: rest =>
      if span / unit ≤ greatestCount then toString (span / unit) ++ String.singleton letter
      else formatIn span rest

/-- Write a time in the finest unit in which it has at most eight digits. -/
def formatTimeout (span : Duration) : String :=
  formatIn span [('n', 1), ('u', Duration.ofMicros 1), ('m', Duration.ofMillis 1),
    ('S', Duration.ofSeconds 1), ('M', Duration.ofSeconds 60), ('H', Duration.ofSeconds 3600)]

/-- The context of a call that arrives with the given headers.  A header that is text is
read as a time without aborting. -/
def contextOfHeaders (now : Instant) (headers : Headers) : CallContext :=
  let named := match headers.text? requestIdHeader with
    | some id => { CallContext.fresh with requestId := .given id }
    | none => CallContext.fresh
  match (headers.text? timeoutHeader).bind parseTimeout? with
  | some span => named.withTimeout now span
  | none => named

end Grpc

end MallFabric
