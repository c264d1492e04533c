import MallFabric.Clock
import MallFabric.Grpc.Status
import MallFabric.Json.Printer

/-!
# Answers of the HTTP edge

An answer is a status, the headers that the edge sets, and a body.
-/

namespace MallFabric

/-- An answer of the HTTP edge. -/
structure HttpAnswer where
  status : Nat
  contentType : Option String
  cacheControl : Option String
  /-- How long after the answer it expires, if it says so. -/
  expiresIn : Option Duration
  /-- The methods that the path takes, if another one was used. -/
  allow : Option String
  body : String
deriving Repr, Inhabited

namespace HttpAnswer

/-- An answer without a body. -/
def bare (status : Nat) : HttpAnswer := ⟨status, none, none, none, none, ""⟩

def json (status : Nat) (value : Json) : HttpAnswer :=
  { bare status with contentType := some "application/json", body := value.print }

/-- The body of an error: the status once more, and what went wrong. -/
def errorBody (status : Nat) (message : String) : Json :=
  Json.record [("code", Json.nat status), ("error", Json.text message)]

def error (status : Nat) (message : String) : HttpAnswer :=
  json status (errorBody status message)

/-- The answer to a request whose call failed. -/
def ofFault (fault : Fault) : HttpAnswer :=
  error fault.httpStatus fault.message

end HttpAnswer

end MallFabric
