import MallFabric.Assoc
import MallFabric.Context
import MallFabric.Message.Catalogue
import MallFabric.Message.Decode
import MallFabric.Timed

/-!
# The dispatch table

The table maps each method to a handler with a request and a response type.
Messages travel through it as bytes, so that one call path serves every
method, and their types are checked on the way in.
-/

namespace MallFabric

open Message (MessageType)

/-- How a method is carried out over a connection: when the answer to a
request is there and what it is.  The peers may change by it. -/
abbrev Handler (Conn Peers : Type) (request response : MessageType) : Type :=
  Conn -> CallContext -> Instant -> request.Value -> Peers ->
    Timed (Reply response.Value) × Peers

/-- A method's types and handler. -/
structure DispatchEntry (Conn Peers : Type) where
  request : MessageType
  response : MessageType
  /-- Whether answers may be served from the response cache. -/
  cacheable : Bool
  /-- Whether the handler asks a service, whose answer is never there at once. -/
  remote : Bool
  handler : Handler Conn Peers request response

/-- The methods that can be called. -/
structure DispatchTable (Conn Peers : Type) where
  entries : Assoc Method (DispatchEntry Conn Peers)

namespace DispatchTable

variable {Conn Peers : Type}

def empty : DispatchTable Conn Peers := ⟨[]⟩

/-- Register a method, in the place of an earlier registration.  It is not
cacheable until it is marked so. -/
def register (table : DispatchTable Conn Peers) (method : Method)
    (request response : MessageType) (handler : Handler Conn Peers request response) :
    DispatchTable Conn Peers :=
  ⟨table.entries.insert method ⟨request, response, false, false, handler⟩⟩

/-- Register a method whose handler asks a service. -/
def registerRemote (table : DispatchTable Conn Peers) (method : Method)
    (request response : MessageType) (handler : Handler Conn Peers request response) :
    DispatchTable Conn Peers :=
  ⟨table.entries.insert method ⟨request, response, false, true, handler⟩⟩

/-- Mark a registered method cacheable. -/
def markCacheable (table : DispatchTable Conn Peers) (method : Method) :
    DispatchTable Conn Peers :=
  match table.entries.find? method with
  | some entry => ⟨table.entries.insert method { entry with cacheable := true }⟩
  | none => table

def isCacheable (table : DispatchTable Conn Peers) (method : Method) : Bool :=
  match table.entries.find? method with
  | some entry => entry.cacheable
  | none => false

def contains (table : DispatchTable Conn Peers) (method : Method) : Bool :=
  table.entries.contains method

def size (table : DispatchTable Conn Peers) : Nat := table.entries.length

/-- The registered methods. -/
def methods (table : DispatchTable Conn Peers) : List Method := table.entries.keys

/-- Check that a method is registered with the given types. -/
def contract (table : DispatchTable Conn Peers) (method : Method)
    (request response : MessageType) : Except Fault Unit :=
  match table.entries.find? method with
  | none => .error (.methodNotFound method)
  | some entry =>
      if entry.request ≠ request then
        .error (.invalidContract method
          s!"expects request {entry.request.qualifiedName}, got {request.qualifiedName}")
      else if entry.response ≠ response then
        .error (.invalidContract method
          s!"returns {entry.response.qualifiedName}, caller expects {response.qualifiedName}")
      else .ok ()

/-- A request of the given type from its bytes. -/
def decodeRequest (method : Method) (type : MessageType) (payload : Bytes) :
    Except Fault type.Value :=
  match type.shape.decode type.name payload with
  | .ok request => .ok request
  | .error error =>
      .error (.invalidContract method
        s!"request is not a {type.qualifiedName}: {error.message}")

/-- A response of the given type from its bytes. -/
def decodeResponse (method : Method) (type : MessageType) (answer : Bytes) :
    Except Fault type.Value :=
  match type.shape.decode type.name answer with
  | .ok response => .ok response
  | .error error =>
      .error (.invalidContract method
        s!"response is not a {type.qualifiedName}: {error.message}")

/-- Whether a request reaches a handler: its method is registered, and its bytes
can be read. -/
def accepts (table : DispatchTable Conn Peers) (method : Method) (payload : Bytes) : Bool :=
  match table.entries.find? method with
  | none => false
  | some entry =>
      match decodeRequest method entry.request payload with
      | .ok _ => true
      | .error _ => false

/-- Whether the handler of a method asks a service. -/
def isRemote (table : DispatchTable Conn Peers) (method : Method) : Bool :=
  match table.entries.find? method with
  | none => false
  | some entry => entry.remote

/-- Whether a request leaves the process: a service carries its method out, and
its bytes can be read. -/
def departs (table : DispatchTable Conn Peers) (method : Method) (payload : Bytes) : Bool :=
  table.isRemote method && table.accepts method payload

/-- Carry out a method on an encoded request. -/
def invokeRaw (table : DispatchTable Conn Peers) (conn : Conn) (method : Method)
    (context : CallContext) (now : Instant) (payload : Bytes) (peers : Peers) :
    Timed (Reply Bytes) × Peers :=
  match table.entries.find? method with
  | none => (⟨now, .fault (.methodNotFound method)⟩, peers)
  | some entry =>
      match decodeRequest method entry.request payload with
      | .error fault => (⟨now, .fault fault⟩, peers)
      | .ok request =>
          let (reply, after) := entry.handler conn context now request peers
          (reply.map fun answer => answer.bind fun response =>
            .ok (entry.response.shape.encode response), after)

/-- Carry out a method on a request: check the types, encode, call and decode. -/
def invoke (table : DispatchTable Conn Peers) (conn : Conn) (method : Method)
    (context : CallContext) (now : Instant) (request response : MessageType)
    (message : request.Value) (peers : Peers) : Timed (Reply response.Value) × Peers :=
  match table.contract method request response with
  | .error fault => (⟨now, .fault fault⟩, peers)
  | .ok () =>
      let (reply, after) :=
        table.invokeRaw conn method context now (request.shape.encode message) peers
      (reply.map fun answer => answer.bind (decodeResponse method response), after)

end DispatchTable

end MallFabric
