import MallFabric.Proxy.Step

/-!
# Typed and detached calls

A typed call checks the types of its messages before it begins, and reads the
answer when it has ended.  A detached call runs under a token of its own;
whoever waits for it may be cancelled, the call itself goes on.
-/

namespace MallFabric

open Message (MessageType)

/-- A request as its caller makes it. -/
structure TypedRequest where
  method : Method
  request : MessageType
  response : MessageType
  message : request.Value

namespace TypedRequest

def payload (typed : TypedRequest) : Bytes := typed.request.shape.encode typed.message

/-- The response that the bytes of an answer write. -/
def read (typed : TypedRequest) (result : Except Fault Bytes) :
    Except Fault typed.response.Value :=
  match result with
  | .ok answer => DispatchTable.decodeResponse typed.method typed.response answer
  | .error fault => .error fault

end TypedRequest

namespace Proxy

variable {Conn Peers : Type}

/-- Begin a typed call, which is over at once if the table does not have its
types. -/
def beginTyped (proxy : Proxy Conn Peers) (id : CallId) (typed : TypedRequest)
    (context : CallContext) (cached : Bool) (fabric : Fabric Conn Peers) : Fabric Conn Peers :=
  match proxy.table.contract typed.method typed.request typed.response with
  | .ok () => proxy.begin id typed.method context typed.payload cached fabric
  | .error fault =>
      fabric.setCall id ⟨typed.method, context, [], false, .finished (.error fault)⟩

/-- The context of a detached call: the id and the deadline of its caller's,
and a token that nobody fires. -/
def detachedContext (context : CallContext) : CallContext :=
  { context with token := .own false }

/-- Begin a detached call. -/
def beginDetached (proxy : Proxy Conn Peers) (id : CallId) (typed : TypedRequest)
    (context : CallContext) (fabric : Fabric Conn Peers) : Fabric Conn Peers :=
  proxy.beginTyped id typed (detachedContext context) true fabric

end Proxy

/-- Who waits for a detached call. -/
structure Waiter where
  call : CallId
  /-- The token of the caller's context. -/
  token : Token
  /-- What the wait came to. -/
  outcome : Option (Except Fault Bytes)

namespace Waiter

/-- Look again what a wait comes to.  A call that broke down cannot tell, and
counts as cancelled. -/
def advance {Conn Peers : Type} (waiter : Waiter) (fabric : Fabric Conn Peers) : Waiter :=
  match waiter.outcome with
  | some _ => waiter
  | none =>
      if waiter.token.isFired fabric.fired then { waiter with outcome := some (.error .cancelled) }
      else match fabric.result? waiter.call with
        | some (some result) => { waiter with outcome := some result }
        | some none => { waiter with outcome := some (.error .cancelled) }
        | none => waiter

end Waiter

end MallFabric
