import MallFabric.Fault

/-!
# Status codes

A service answers a call with a message or with a status.  Statuses and
faults are turned into each other at both ends of a hop, so that a caller
sees what went wrong as the service meant it.
-/

namespace MallFabric

/-- How a call to a service ended. -/
inductive StatusCode where
  | ok
  | cancelled
  | unknown
  | invalidArgument
  | deadlineExceeded
  | notFound
  | alreadyExists
  | permissionDenied
  | resourceExhausted
  | failedPrecondition
  | aborted
  | outOfRange
  | unimplemented
  | internal
  | unavailable
  | dataLoss
  | unauthenticated
deriving DecidableEq, Repr, Inhabited

namespace StatusCode

/-- The codes in the order of their numbers. -/
def all : List StatusCode := [
  ok, cancelled, unknown, invalidArgument, deadlineExceeded, notFound, alreadyExists,
  permissionDenied, resourceExhausted, failedPrecondition, aborted, outOfRange, unimplemented,
  internal, unavailable, dataLoss, unauthenticated]

def number : StatusCode -> Nat
  | ok => 0
  | cancelled => 1
  | unknown => 2
  | invalidArgument => 3
  | deadlineExceeded => 4
  | notFound => 5
  | alreadyExists => 6
  | permissionDenied => 7
  | resourceExhausted => 8
  | failedPrecondition => 9
  | aborted => 10
  | outOfRange => 11
  | unimplemented => 12
  | internal => 13
  | unavailable => 14
  | dataLoss => 15
  | unauthenticated => 16

/-- The code of a number; numbers that are not assigned are unknown. -/
def ofInt (number : Int) : StatusCode :=
  if 0 ≤ number then (all[number.toNat]?).getD unknown else unknown

def name : StatusCode -> String
  | ok => "Ok"
  | cancelled => "Cancelled"
  | unknown => "Unknown"
  | invalidArgument => "InvalidArgument"
  | deadlineExceeded => "DeadlineExceeded"
  | notFound => "NotFound"
  | alreadyExists => "AlreadyExists"
  | permissionDenied => "PermissionDenied"
  | resourceExhausted => "ResourceExhausted"
  | failedPrecondition => "FailedPrecondition"
  | aborted => "Aborted"
  | outOfRange => "OutOfRange"
  | unimplemented => "Unimplemented"
  | internal => "Internal"
  | unavailable => "Unavailable"
  | dataLoss => "DataLoss"
  | unauthenticated => "Unauthenticated"

/-- Codes that blame the request rather than the service. -/
def blamesCaller : StatusCode -> Bool
  | invalidArgument | notFound | alreadyExists | permissionDenied | failedPrecondition
  | outOfRange | unauthenticated => true
  | _ => false

end StatusCode

/-- A code and its explanation. -/
structure Status where
  code : StatusCode
  message : String
deriving DecidableEq, Repr, Inhabited

namespace Status

/-- What a status from the service at `path` means to its caller.  Only the
caller's own token cancels a call, so a cancellation by the service is an
ordinary failure. -/
def toFault (path : String) (status : Status) : Fault :=
  match status.code with
  | .unavailable => .connection path status.message
  | .deadlineExceeded => .timeout
  | code => .downstream code.number status.message

end Status

namespace Fault

/-- Faults that blame the request.  They reach the caller unchanged and never
count against a circuit. -/
def isCaller : Fault -> Bool
  | downstream code _ => (StatusCode.ofInt code).blamesCaller
  | _ => false

/-- The status with which a service reports a fault to its caller. -/
def toStatus (fault : Fault) : Status :=
  match fault with
  | invalidArgument _ => ⟨.invalidArgument, fault.message⟩
  | notFound _ => ⟨.notFound, fault.message⟩
  | downstream code text => ⟨StatusCode.ofInt code, text⟩
  | timeout => ⟨.deadlineExceeded, fault.message⟩
  | cancelled => ⟨.cancelled, fault.message⟩
  | serviceUnavailable _ _ _ | circuitOpen _ | saturated _ | connection _ _ =>
      ⟨.unavailable, fault.message⟩
  | unknownService _ | methodNotFound _ | invalidContract _ _ | registration _ | cache _ =>
      ⟨.internal, fault.message⟩

/-- The HTTP status of a service's code. -/
def httpStatusOfCode : StatusCode -> Nat
  | .invalidArgument | .failedPrecondition | .outOfRange => 400
  | .unauthenticated => 401
  | .permissionDenied => 403
  | .notFound => 404
  | .alreadyExists | .aborted => 409
  | .resourceExhausted => 429
  | .unavailable => 503
  | .deadlineExceeded => 504
  | _ => 500

/-- The HTTP status with which a fault is answered. -/
def httpStatus : Fault -> Nat
  | invalidArgument _ => 400
  | notFound _ => 404
  | downstream code _ => httpStatusOfCode (StatusCode.ofInt code)
  | serviceUnavailable _ _ _ | circuitOpen _ | saturated _ | connection _ _ => 503
  | timeout => 504
  | cancelled => 499
  | unknownService _ | methodNotFound _ | invalidContract _ _ | registration _ | cache _ => 500

end Fault

end MallFabric
