import MallFabric.Method

/-!
# Faults

The reasons for which a call, a registration or a cache access gives no
answer.  `Fault.message` is the one place where their wording stands.
-/

namespace MallFabric

/-- Why a request to the fabric was not answered. -/
inductive Fault where
  /-- No address is known for the service. -/
  | unknownService (service : String)
  /-- The service could not be reached, or the link to it broke. -/
  | connection (service reason : String)
  /-- The dispatch table has no entry for the method. -/
  | methodNotFound (method : Method)
  /-- The messages of a call are not those that the method takes. -/
  | invalidContract (method : Method) (reason : String)
  /-- The circuit of the method rejects calls for now. -/
  | circuitOpen (method : Method)
  /-- Every concurrency slot of the method is taken. -/
  | saturated (method : Method)
  /-- A degraded call that has no replacement answer. -/
  | serviceUnavailable (service method reason : String)
  | registration (reason : String)
  | notFound (what : String)
  /-- The service answered with an error status. -/
  | downstream (code : Int) (text : String)
  | invalidArgument (reason : String)
  | timeout
  | cancelled
  | cache (reason : String)
deriving DecidableEq, Repr, Inhabited

namespace Fault

/-- The text shown for a fault. -/
def message : Fault -> String
  | unknownService service => s!"unknown service: {service}"
  | connection service reason => s!"connection to {service} failed: {reason}"
  | methodNotFound method => s!"method not found: {method.display}"
  | invalidContract method reason => s!"invalid contract for {method.display}: {reason}"
  | circuitOpen method => s!"circuit open for {method.display}"
  | saturated method => s!"too many concurrent calls to {method.display}"
  | serviceUnavailable service method reason =>
      s!"{service} service unavailable ({method}): {reason}"
  | registration reason => s!"registration failed: {reason}"
  | notFound what => s!"not found: {what}"
  | downstream _ text => text
  | invalidArgument reason => s!"invalid argument: {reason}"
  | timeout => "operation timed out"
  | cancelled => "call cancelled"
  | cache reason => s!"cache error: {reason}"

/-- Faults that point at a broken dispatch table or at a missing address, and
not at a misbehaving service. -/
def isContract : Fault -> Bool
  | unknownService _ | methodNotFound _ | invalidContract _ _ => true
  | _ => false

end Fault

end MallFabric
