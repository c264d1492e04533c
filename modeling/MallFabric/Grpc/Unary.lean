import MallFabric.Dispatch.Table
import MallFabric.Grpc.Metadata
import MallFabric.Grpc.Status

/-!
# Unary calls to services

A unary call sends one request to the service at a path and takes one answer.
It carries the id of the request and the time its caller has left, and gives
up by itself when that time is over.
-/

namespace MallFabric.Grpc

open Message (MessageType)

/-- A request as it is sent to a service. -/
structure Sent where
  path : String
  request : Bytes
  /-- The id, if it can stand in a header. -/
  requestId : Option RequestId
  /-- The time left, if there is a deadline. -/
  timeout : Option String
deriving Repr, Inhabited

/-- What services answer to what is sent to them, and when. -/
abbrev Service (Peers : Type) : Type :=
  Instant -> Sent -> Peers -> Timed (Except Status Bytes) × Peers

/-- The id as it is forwarded. -/
def forwardedId (id : RequestId) : Option RequestId :=
  match id with
  | .generated => some id
  | .given text => if (Utf8.encode text).all Headers.isPermitted then some id else none

/-- The status of an answer that carries no message. -/
def missingMessage : Status := ⟨.internal, "Missing response message."⟩

/-- What the caller of a service makes of its answer. -/
def readAnswer (path : String) (response : MessageType) :
    Except Status Bytes -> Reply response.Value
  | .ok answer =>
      match response.shape.decode response.name answer with
      | .ok content => .answer content
      | .error error => .fault (Status.toFault path ⟨.internal, error.message⟩)
  | .error status =>
      if status.code = .ok then .fault (missingMessage.toFault path)
      else .fault (status.toFault path)

/-- The status of a call that gave up because its time was over. -/
def expired : Status := ⟨.cancelled, "Timeout expired"⟩

/-- The handler of a method that the service at `path` carries out. -/
def unary {Conn Peers : Type} (service : Service Peers) (path : String)
    (request response : MessageType) : Handler Conn Peers request response :=
  fun _ context now message peers =>
    let sent : Sent :=
      ⟨path, request.shape.encode message, forwardedId context.requestId,
        (context.remaining now).map formatTimeout⟩
    let (timed, after) := service now sent peers
    let answered : Timed (Reply response.Value) := timed.map (readAnswer path response)
    match sent.timeout.bind parseTimeout? with
    | none => (answered, after)
    | some span =>
        let expiry := Instant.timer (now + span)
        if timed.due ≤ expiry then (answered, after)
        else (⟨expiry, .fault (expired.toFault path)⟩, after)

end MallFabric.Grpc
