import MallFabric.Proofs.Cache.Entries
import MallFabric.Proofs.Proxy.Passage
import MallFabric.Proxy.Call

/-!
# Runs of a proxy

Calls of every kind begin, go on step by step, are aborted and cancelled, while
time passes and services change, in any order.  What is seen of them on the way
is noted, newest first.
-/

namespace MallFabric

/-- What may happen next around a proxy. -/
inductive ProxyEvent (Peers : Type) where
  /-- A call begins; it may use the cache, or not. -/
  | call (typed : TypedRequest) (context : CallContext) (cached : Bool)
  | detach (typed : TypedRequest) (context : CallContext)
  | raw (method : Method) (context : CallContext) (payload : Bytes)
  /-- A call makes a step. -/
  | step (id : CallId)
  | abort (id : CallId)
  /-- A shared token fires. -/
  | fire (token : String)
  /-- Time passes. -/
  | pass (span : Duration)
  /-- The services change. -/
  | change (peers : Peers)
  | closePool

namespace ProxyEvent

/-- The request of a call that begins. -/
def payload? {Peers : Type} : ProxyEvent Peers -> Option Bytes
  | call typed _ _ => some typed.payload
  | detach typed _ => some typed.payload
  | raw _ _ payload => some payload
  | _ => none

end ProxyEvent

/-- What was seen of a call, and when. -/
structure CallNote where
  instant : Instant
  id : CallId
  method : Method
  payload : Bytes
  /-- Whether the call used the cache. -/
  cached : Bool
  sight : Sight
deriving Repr

/-- What is noted of a call. -/
def Call.note (call : Call) (now : Instant) (id : CallId) (sight : Sight) : CallNote :=
  ⟨now, id, call.method, call.payload, call.useCache, sight⟩

/-- A proxy at work: the clock, what its calls share, and what was seen of them. -/
structure ProxyRun (Conn Peers : Type) where
  clock : Instant
  fabric : Fabric Conn Peers
  /-- The number of the next call. -/
  next : CallId
  notes : List CallNote

namespace ProxyRun

variable {Conn Peers : Type}

/-- A proxy that nobody has called yet, over an empty cache. -/
def start (capacity : Nat) (pool : Pool Conn) (peers : Peers) : ProxyRun Conn Peers :=
  ⟨0, Fabric.new (.ofStore (MemoryCache.new capacity)) pool peers, 0, []⟩

/-- What is seen of a call when the fabric has changed. -/
def observe (run : ProxyRun Conn Peers) (id : CallId) (after : Fabric Conn Peers) :
    List CallNote :=
  match run.fabric.calls.find? id, after.calls.find? id with
  | some call, some later =>
      (call.stage.sight? later.stage).toList.map (call.note run.clock id)
  | _, _ => []

/-- A call has begun. -/
def begun (run : ProxyRun Conn Peers) (fabric : Fabric Conn Peers) : ProxyRun Conn Peers :=
  { run with fabric, next := run.next + 1 }

/-- Carry out an event. -/
def step (proxy : Proxy Conn Peers) (run : ProxyRun Conn Peers) :
    ProxyEvent Peers -> ProxyRun Conn Peers
  | .call typed context cached =>
      run.begun (proxy.beginTyped run.next typed context cached run.fabric)
  | .detach typed context => run.begun (proxy.beginDetached run.next typed context run.fabric)
  | .raw method context payload =>
      run.begun (proxy.begin run.next method context payload true run.fabric)
  | .step id =>
      let fabric := (proxy.step run.clock id run.fabric).fabric
      { run with fabric, notes := run.observe id fabric ++ run.notes }
  | .abort id => { run with fabric := (proxy.abort id run.fabric).1 }
  | .fire token => { run with fabric := { run.fabric with fired := token :: run.fabric.fired } }
  | .pass span => { run with clock := run.clock + span }
  | .change peers => { run with fabric := { run.fabric with peers } }
  | .closePool => { run with fabric := { run.fabric with pool := run.fabric.pool.close } }

/-- A run goes on. -/
def resume (proxy : Proxy Conn Peers) (run : ProxyRun Conn Peers)
    (events : List (ProxyEvent Peers)) : ProxyRun Conn Peers :=
  events.foldl (step proxy) run

/-- What the cache holds. -/
def held (run : ProxyRun Conn Peers) : Assoc String CachedAnswer := run.fabric.cache.entries

variable {proxy : Proxy Conn Peers} {run : ProxyRun Conn Peers}

/-- What is seen of a call that makes a step. -/
theorem observe_eq
    {id : CallId}
    {call : Call}
    {stage : CallStage}
    {after : Fabric Conn Peers}
    (found : run.fabric.calls.find? id = some call)
    (later : after.calls.find? id = some { call with stage }) :
    run.observe id after = (call.stage.sight? stage).toList.map (call.note run.clock id) := by
  rw [observe, found, later]

/-- A call that does not exist makes no step. -/
theorem step_of_absent
    {id : CallId}
    (absent : run.fabric.calls.find? id = none) :
    run.step proxy (.step id) = run := by
  have waits : (proxy.step run.clock id run.fabric).fabric = run.fabric := by
    simp [Proxy.step, absent, Proxy.blocked]
  simp only [step, waits]
  simp [observe, absent]

/-- An abort takes its call away and leaves the cache and the other calls. -/
theorem abort_eq
    (proxy : Proxy Conn Peers)
    (id : CallId)
    (fabric : Fabric Conn Peers) :
    (proxy.abort id fabric).1.cache = fabric.cache ∧
      (proxy.abort id fabric).1.calls = fabric.calls.erase id := by
  unfold Proxy.abort
  cases found : fabric.calls.find? id with
  | none => exact ⟨rfl, (Assoc.erase_of_find?_eq_none found).symm⟩
  | some call =>
      cases stage : call.stage with
      | connecting key permit limit expiry => simp [stage, Fabric.setCircuit]
      | handling key permit limit expiry reply => simp [stage, Fabric.setCircuit]
      | _ => simp [stage]

end ProxyRun
end MallFabric
