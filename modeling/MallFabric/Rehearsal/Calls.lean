import MallFabric.Flow
import MallFabric.Rehearsal.Peers
import MallFabric.Schedule

/-!
# Rehearsing a proxy

Calls of a proxy run as tasks of a schedule over rehearsed peers.
-/

namespace MallFabric.Rehearsal

/-- A task of the rehearsal. -/
inductive CallTask where
  | call (id : CallId)
  /-- The wait for a detached call, under the id of the call. -/
  | waiter (id : CallId)
deriving DecidableEq, Repr

/-- A proxy and its calls. -/
structure CallState where
  proxy : Proxy Line Peers
  fabric : Fabric Line Peers
  waiters : Assoc CallId Waiter
  /-- The call that everything else waits for, if there is one. -/
  foreground : Option CallId
  nextCall : CallId

namespace CallState

def withPeers (state : CallState) (change : Peers -> Peers) : CallState :=
  { state with fabric := { state.fabric with peers := change state.fabric.peers } }

/-- Let a call go on. -/
def wakeCall (now : Instant) (id : CallId) (state : CallState) :
    CallState × List (Wakeup CallTask) :=
  let result := state.proxy.advance now id Proxy.stepBound state.fabric
  let timers := (result.waits.getD []).map fun due =>
    (⟨due, .call id, decide (state.foreground = some id)⟩ : Wakeup CallTask)
  let others := result.woken.map fun other => (⟨now, .call other, false⟩ : Wakeup CallTask)
  let told : List (Wakeup CallTask) :=
    if state.waiters.contains id && (result.fabric.result? id).isSome then
      [⟨now, .waiter id, false⟩]
    else []
  ({ state with fabric := result.fabric }, timers ++ others ++ told)

/-- Let a wait go on. -/
def wakeWaiter (id : CallId) (state : CallState) : CallState × List (Wakeup CallTask) :=
  match state.waiters.find? id with
  | none => (state, [])
  | some waiter =>
      ({ state with waiters := state.waiters.insert id (waiter.advance state.fabric) }, [])

def wake : Wake CallState CallTask
  | now, .call id, state => state.wakeCall now id
  | _, .waiter id, state => state.wakeWaiter id

/-- Whether a call, or the wait for it if it is detached, is over. -/
def isOver (state : CallState) (id : CallId) : Bool :=
  match state.waiters.find? id with
  | some waiter => waiter.outcome.isSome
  | none => (state.fabric.result? id).isSome

/-- What a call came to: nothing inside if its task broke down. -/
def outcome? (state : CallState) (id : CallId) : Option (Option (Except Fault Bytes)) :=
  match state.waiters.find? id with
  | some waiter => waiter.outcome.map some
  | none => state.fabric.result? id

/-- Forget a call whose outcome is told. -/
def forget (state : CallState) (id : CallId) : CallState :=
  { state with
    fabric :=
      if (state.fabric.result? id).isSome then
        { state.fabric with calls := state.fabric.calls.erase id }
      else state.fabric
    waiters := state.waiters.erase id
    foreground := none }

end CallState

/-- A rehearsal of a proxy. -/
abbrev CallRehearsal := Schedule CallState CallTask

namespace CallRehearsal

def start (proxy : Proxy Line Peers) (cache : CacheLink) (endpoints : List Endpoint)
    (peers : Peers) : CallRehearsal :=
  Schedule.start
    ⟨proxy, Fabric.new cache (Pool.new endpoints proxy.dialler.discover.isSome) peers, [], none, 0⟩

def settle (rehearsal : CallRehearsal) : CallRehearsal :=
  Schedule.settle CallState.wake rehearsal

def sleep (span : Duration) (rehearsal : CallRehearsal) : CallRehearsal :=
  Schedule.sleep CallState.wake span rehearsal

/-- How a call begins. -/
abbrev Opening := CallId -> Proxy Line Peers -> Fabric Line Peers -> Fabric Line Peers

/-- Begin a call under a new id. -/
def openCall (opening : Opening) (rehearsal : CallRehearsal) : CallId × CallRehearsal :=
  let id := rehearsal.state.nextCall
  (id, rehearsal.change fun state =>
    { state with fabric := opening id state.proxy state.fabric, nextCall := id + 1 })

/-- Wait until a call is over and tell what it came to: nothing inside if its
task broke down. -/
def collect (id : CallId) (rehearsal : CallRehearsal) :
    Option (Except Fault Bytes) × CallRehearsal :=
  let waited := Schedule.waitFor CallState.wake (fun state => state.isOver id) rehearsal
  ((waited.state.outcome? id).getD none, waited.change fun state => state.forget id)

/-- Make a call and wait for it. -/
def perform (opening : Opening) (rehearsal : CallRehearsal) :
    Option (Except Fault Bytes) × CallRehearsal :=
  let (id, begun) := openCall opening rehearsal
  let foreground := begun.change fun state => { state with foreground := some id }
  collect id (foreground.advance fun now state => state.wakeCall now id)

/-- Make a call in the background. -/
def spawn (opening : Opening) (rehearsal : CallRehearsal) : CallId × CallRehearsal :=
  let (id, begun) := openCall opening rehearsal
  (id, begun.advance fun now state => (state, [⟨now, .call id, false⟩]))

/-- Make a detached call and begin to wait for it. -/
def detach (typed : TypedRequest) (context : CallContext) (rehearsal : CallRehearsal) :
    CallId × CallRehearsal :=
  let (id, begun) :=
    spawn (fun id proxy fabric => proxy.beginDetached id typed context fabric) rehearsal
  (id, begun.advance fun now state =>
    ({ state with waiters := state.waiters.insert id ⟨id, context.token, none⟩ },
      [⟨now, .waiter id, false⟩]))

/-- Make one call of a flow. -/
def performTyped (context : CallContext) (typed : TypedRequest) (cached : Bool) :
    StateM CallRehearsal (Except Fault typed.response.Value) := fun rehearsal =>
  let (result, after) :=
    perform (fun id proxy fabric => proxy.beginTyped id typed context cached fabric) rehearsal
  (typed.read (result.getD (.error .cancelled)), after)

/-- Carry out a flow, all of whose calls are made under one context. -/
def runFlow {Result : Type} (context : CallContext) (flow : Flow Result)
    (rehearsal : CallRehearsal) : Result × CallRehearsal :=
  (flow.run (performTyped context)).run rehearsal

/-- Fire a shared token: everyone who may go on because of it does. -/
def fire (token : String) (rehearsal : CallRehearsal) : CallRehearsal :=
  rehearsal.advance fun now state =>
    let calls := (state.fabric.calls.filter fun entry =>
      entry.2.context.token = .shared token).map fun entry =>
        (⟨now, .call entry.1, false⟩ : Wakeup CallTask)
    let waiters := (state.waiters.filter fun entry => entry.2.token = .shared token).map fun entry =>
      (⟨now, .waiter entry.1, false⟩ : Wakeup CallTask)
    ({ state with fabric := { state.fabric with fired := token :: state.fabric.fired } },
      calls ++ waiters)

/-- Close the connection pool. -/
def close (rehearsal : CallRehearsal) : CallRehearsal :=
  Schedule.change rehearsal fun state =>
    { state with fabric := { state.fabric with pool := state.fabric.pool.close } }

end CallRehearsal

end MallFabric.Rehearsal
