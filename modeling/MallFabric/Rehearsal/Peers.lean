import MallFabric.Dispatch.Table
import MallFabric.Grpc.Unary
import MallFabric.Json.Value
import MallFabric.Message.Document
import MallFabric.Proxy.Basic
import MallFabric.Rehearsal.Network

/-!
# Rehearsed handlers

The handlers of a rehearsed dispatch table count their calls and play from
cues.
-/

namespace MallFabric.Rehearsal

open Message (MessageType)

/-- What a handler does after its delay. -/
inductive HandlerAction where
  | crash
  /-- Give the request back as a response. -/
  | echo
  /-- Tell what reached the handler beside the request. -/
  | echoContext
  | fail (cause : Fault)
  /-- Answer the message that the JSON value writes. -/
  | answer (document : Json)
deriving Repr, Inhabited

structure HandlerCue where
  delay : Duration
  action : HandlerAction
deriving Repr, Inhabited

/-- What a service does after its delay. -/
inductive ServiceAction where
  | status (status : Status)
  /-- Answer these bytes. -/
  | bytes (answer : Bytes)
deriving Repr, Inhabited

structure ServiceCue where
  delay : Duration
  action : ServiceAction
deriving Repr, Inhabited

/-- Everything that a proxy meets in a rehearsal. -/
structure Peers where
  network : Network
  handlers : Cues HandlerCue
  /-- How often each handler was called. -/
  hits : Assoc String Nat
  services : Cues ServiceCue
  /-- What the services received, latest first. -/
  received : List Grpc.Sent

namespace Peers

def new (network : Network) (handlers : Cues HandlerCue) (services : Cues ServiceCue) : Peers :=
  ⟨network, handlers, [], services, []⟩

/-- Let the network of the peers do something. -/
def onNetwork {Result : Type} (peers : Peers) (act : Network -> Result × Network) :
    Result × Peers :=
  let (result, network) := act peers.network
  (result, { peers with network })

/-- The dialler over the network of the peers. -/
def dialler (discovers : Bool) : Dialler Line Peers where
  discover :=
    if discovers then
      some fun now name peers => peers.onNetwork fun network => network.discover now name
    else none
  connect := fun now endpoint peers => peers.onNetwork fun network => network.connect now endpoint

end Peers

/-- The time left as a handler tells it. -/
def remainingText (remaining : Option Duration) : String :=
  match remaining with
  | none => "None"
  | some span => s!"Some({span.wholeMillis})"

/-- Services that play from cues and keep what they receive. -/
def rehearsedService : Grpc.Service Peers :=
  fun now sent peers =>
    let (cue, services) := peers.services.take sent.path
    let after := { peers with services, received := sent :: peers.received }
    match cue with
    | none => (⟨now, .error ⟨.unimplemented, s!"no script for {sent.path}"⟩⟩, after)
    | some cue =>
        let due := dueAfter now cue.delay
        match cue.action with
        | .status status => (⟨due, .error status⟩, after)
        | .bytes answer => (⟨due, .ok answer⟩, after)

/-- What the action of a handler comes to. -/
def HandlerAction.reply (action : HandlerAction) (label : String) (context : CallContext)
    (due : Instant) (request response : MessageType) (message : request.Value) :
    Reply response.Value :=
  match action with
  | crash => .crash
  | echo =>
      match response.shape.decode response.name (request.shape.encode message) with
      | .ok content => .answer content
      | .error error => .fault (.invalidArgument error.message)
  | echoContext =>
      let remaining := remainingText (context.remaining due)
      .fault (.invalidArgument s!"{label} {context.requestId.shown} {remaining}")
  | fail cause => .fault cause
  | answer document =>
      match response.shape.ofJson? document with
      | some content => .answer content
      | none => .fault (.invalidArgument "unreadable cue")

/-- The handler of a method that plays from cues. -/
def rehearsedHandler {Conn : Type} (label : Conn -> String) (method : Method)
    (request response : MessageType) : Handler Conn Peers request response :=
  fun conn context now message peers =>
    let name := method.display
    let (cue, handlers) := peers.handlers.take name
    let hits := peers.hits.insert name ((peers.hits.find? name).getD 0 + 1)
    let due := dueAfter now ((cue.map HandlerCue.delay).getD 0)
    let action := (cue.map HandlerCue.action).getD (.answer (.object []))
    (⟨due, action.reply (label conn) context due request response message⟩,
      { peers with handlers, hits })

end MallFabric.Rehearsal
