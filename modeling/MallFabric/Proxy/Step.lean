import MallFabric.Grpc.Status
import MallFabric.Proxy.Basic

/-!
# How calls go on

A call goes on in small steps, between which other calls may come.  When it
is woken it makes steps until it has to wait or has ended.  At one instant a
cancellation comes before the work, and the work before the timeout; but a
request for which no time is left does not set out to a service.
-/

namespace MallFabric

/-- What a failed attempt says of the service, and what its caller is told. -/
inductive Verdict where
  /-- Nothing is recorded and the fault reaches the caller. -/
  | surfaces (fault : Fault)
  /-- The outcome is recorded and the call is degraded. -/
  | degrades (outcome : Outcome) (cause : Fault)
deriving DecidableEq, Repr

/-- Judge a fault of an attempt.  `callerBound` tells whether the caller's
deadline is what bounded the attempt. -/
def judge (callerBound : Bool) (fault : Fault) : Verdict :=
  if fault = .cancelled then .surfaces fault
  else if fault.isContract then .surfaces fault
  else if fault.isCaller then .surfaces fault
  else if fault = .timeout then
    if callerBound then .surfaces fault else .degrades .timeout fault
  else .degrades .failure fault

/-- What a call does that can be told from outside. -/
inductive CallAct where
  /-- It took its answer from the cache. -/
  | hit
  /-- The circuit of its method turned it away. -/
  | rejected (rejection : Rejection)
  /-- It set out to dial. -/
  | dialled
  /-- The handler of its method ran. -/
  | invoked
  /-- The circuit of its method recorded how it ended. -/
  | recorded (outcome : Outcome)
deriving DecidableEq, Repr

/-- What an attempt comes to: the outcome that the circuit records, if any, and
how the call goes on. -/
structure Settlement where
  outcome : Option Outcome
  stage : CallStage

namespace Proxy

variable {Conn Peers : Type}

/-- What a step of a call came to. -/
structure StepResult (Conn Peers : Type) where
  fabric : Fabric Conn Peers
  /-- Instants at which a call that has to wait may go on; none if it can go on now. -/
  waits : Option (List Instant)
  /-- Other calls that can go on because of the step. -/
  woken : List CallId
  acts : List CallAct

/-- The call has come to another stage. -/
def moved (fabric : Fabric Conn Peers) (id : CallId) (call : Call) (acts : List CallAct)
    (stage : CallStage) : StepResult Conn Peers :=
  ⟨fabric.setCall id { call with stage }, none, [], acts⟩

/-- The call has to wait. -/
def blocked (fabric : Fabric Conn Peers) (instants : List Instant) : StepResult Conn Peers :=
  ⟨fabric, some instants, [], []⟩

/-- What the end of an attempt comes to. -/
def settle (proxy : Proxy Conn Peers) (method : Method) (key : Option String) (limit : Duration) :
    Reply Bytes -> Settlement
  | .answer answer =>
      match key with
      | some key => ⟨some .success, .storing key answer⟩
      | none => ⟨some .success, .finished (.ok answer)⟩
  | .crash => ⟨none, .crashed⟩
  | .fault fault =>
      match judge (limit < proxy.config.circuit.timeout) fault with
      | .surfaces fault => ⟨none, .finished (.error fault)⟩
      | .degrades outcome cause => ⟨some outcome, .finished (proxy.degrade method cause)⟩

/-- End the attempt of a call: account for its permit and settle its result. -/
def conclude (proxy : Proxy Conn Peers) (now : Instant) (fabric : Fabric Conn Peers) (id : CallId)
    (call : Call) (key : Option String) (permit : Permit) (limit : Duration)
    (reply : Reply Bytes) : StepResult Conn Peers :=
  let circuit := fabric.circuit proxy.config.circuit call.method
  let settlement := proxy.settle call.method key limit reply
  moved (fabric.setCircuit call.method (circuit.endPermit now permit settlement.outcome)) id call
    (settlement.outcome.toList.map .recorded) settlement.stage

/-- End the attempt of a call that has not got its connection. -/
def giveUp (proxy : Proxy Conn Peers) (now : Instant) (fabric : Fabric Conn Peers) (id : CallId)
    (call : Call) (key : Option String) (permit : Permit) (limit : Duration) (fault : Fault) :
    StepResult Conn Peers :=
  let left := fabric.pool.abort id
  let without := { fabric with pool := left.1, dials := fabric.dials.erase id }
  let concluded := proxy.conclude now without id call key permit limit (.fault fault)
  { concluded with woken := left.2 }

/-- Go on towards the connection, when neither cancellation nor timeout is in the way. -/
def connect (proxy : Proxy Conn Peers) (now : Instant) (fabric : Fabric Conn Peers) (id : CallId)
    (call : Call) (key : Option String) (permit : Permit) (limit : Duration) (expiry : Instant) :
    StepResult Conn Peers :=
  match fabric.dials.find? id with
  | some dial =>
      if dial.due ≤ now then
        let finished := fabric.pool.finishDial id dial.result
        ⟨{ fabric with pool := finished.1, dials := fabric.dials.erase id }, none, finished.2,
          []⟩
      else if expiry ≤ now then proxy.giveUp now fabric id call key permit limit .timeout
      else blocked fabric [dial.due, expiry]
  | none =>
      match fabric.pool.result? id with
      | some (.ok conn) =>
          if expiry ≤ now ∧ proxy.table.departs call.method call.payload then
            proxy.giveUp now fabric id call key permit limit .timeout
          else
            let (reply, peers) := proxy.table.invokeRaw conn call.method call.context now
              call.payload fabric.peers
            let pool := (fabric.pool.abort id).1
            let acts := if proxy.table.accepts call.method call.payload then [.invoked] else []
            moved { fabric with pool, peers } id call acts
              (.handling key permit limit expiry reply)
      | some (.error fault) => proxy.giveUp now fabric id call key permit limit fault
      | none =>
          match fabric.pool.step id with
          | (pool, .moved) => ⟨{ fabric with pool }, none, [], []⟩
          | (pool, .dial name) =>
              let (dial, peers) := proxy.dialler.dial pool now name fabric.peers
              ⟨{ fabric with pool, peers, dials := fabric.dials.insert id dial }, none, [],
                [.dialled]⟩
          | (pool, .blocked) =>
              if expiry ≤ now then
                proxy.giveUp now { fabric with pool } id call key permit limit .timeout
              else blocked { fabric with pool } [expiry]

/-- The next step of a call. -/
def step (proxy : Proxy Conn Peers) (now : Instant) (id : CallId) (fabric : Fabric Conn Peers) :
    StepResult Conn Peers :=
  match fabric.calls.find? id with
  | none => blocked fabric []
  | some call =>
      match call.stage with
      | .arriving =>
          if !proxy.table.contains call.method then
            moved fabric id call [] (.finished (.error (.methodNotFound call.method)))
          else if call.context.isCancelled fabric.fired then
            moved fabric id call [] (.finished (.error .cancelled))
          else if call.useCache then
            moved fabric id call [] (.lookingUp (call.method.cacheKey call.payload))
          else moved fabric id call [] (.admitting none)
      | .lookingUp key =>
          let (found, cache) := fabric.cache.get now key
          match found with
          | some answer => moved { fabric with cache } id call [.hit] (.finished (.ok answer))
          | none => moved { fabric with cache } id call [] (.admitting (some key))
      | .admitting key =>
          let (decision, circuit) :=
            (fabric.circuit proxy.config.circuit call.method).decide now
          let decided := fabric.setCircuit call.method circuit
          match decision with
          | .ok trial => moved decided id call [] (.claiming key now trial)
          | .error rejection =>
              moved decided id call [.rejected rejection]
                (.finished (proxy.degrade call.method (rejection.toFault call.method)))
      | .claiming key since trial =>
          let circuit := fabric.circuit proxy.config.circuit call.method
          match circuit.takeSlot with
          | some holding =>
              let limit := call.context.boundedTimeout now proxy.config.circuit.timeout
              let admitted := fabric.setCircuit call.method holding
              moved { admitted with pool := admitted.pool.arrive id call.method.service } id call []
                (.connecting key ⟨trial⟩ limit (Instant.timer (now + limit)))
          | none =>
              moved (fabric.setCircuit call.method (circuit.rollback since trial)) id call
                [.rejected .saturated]
                (.finished (proxy.degrade call.method (.saturated call.method)))
      | .connecting key permit limit expiry =>
          if call.context.isCancelled fabric.fired then
            proxy.giveUp now fabric id call key permit limit .cancelled
          else proxy.connect now fabric id call key permit limit expiry
      | .handling key permit limit expiry reply =>
          if call.context.isCancelled fabric.fired then
            proxy.conclude now fabric id call key permit limit (.fault .cancelled)
          else if reply.due ≤ now then
            proxy.conclude now fabric id call key permit limit reply.result
          else if expiry ≤ now then
            proxy.conclude now fabric id call key permit limit (.fault .timeout)
          else blocked fabric [reply.due, expiry]
      | .storing key answer =>
          moved { fabric with cache := fabric.cache.set now key answer proxy.config.cacheSpan } id
            call [] (.finished (.ok answer))
      | .finished _ => blocked fabric []
      | .crashed => blocked fabric []

/-- A bound on the steps that a call makes before it waits or ends. -/
def stepBound : Nat := 32

/-- Let a call go on until it waits or has ended: the fabric, the instants it
waits for, the calls that can go on because of it, and what it did. -/
def advance (proxy : Proxy Conn Peers) (now : Instant) (id : CallId) :
    (fuel : Nat) -> Fabric Conn Peers -> StepResult Conn Peers
  | 0, fabric => blocked fabric []
  | fuel + 1, fabric =>
      let result := proxy.step now id fabric
      match result.waits with
      | some _ => result
      | none =>
          let rest := advance proxy now id fuel result.fabric
          { rest with woken := result.woken ++ rest.woken, acts := result.acts ++ rest.acts }

/-- A new call. -/
def begin (proxy : Proxy Conn Peers) (id : CallId) (method : Method) (context : CallContext)
    (payload : Bytes) (cached : Bool) (fabric : Fabric Conn Peers) : Fabric Conn Peers :=
  fabric.setCall id
    ⟨method, context, payload, cached && proxy.caches fabric.cache method, .arriving⟩

/-- Abort a call whose task is given up while it waits. -/
def abort (proxy : Proxy Conn Peers) (id : CallId) (fabric : Fabric Conn Peers) :
    Fabric Conn Peers × List CallId :=
  let forgotten := { fabric with calls := fabric.calls.erase id }
  match fabric.calls.find? id with
  | none => (fabric, [])
  | some call =>
      let drop := fun permit : Permit =>
        (fabric.circuit proxy.config.circuit call.method).drop permit
      match call.stage with
      | .connecting _ permit _ _ =>
          let left := forgotten.pool.abort id
          ({ forgotten with pool := left.1, dials := forgotten.dials.erase id }.setCircuit
            call.method (drop permit), left.2)
      | .handling _ permit _ _ _ => (forgotten.setCircuit call.method (drop permit), [])
      | _ => (forgotten, [])

end Proxy

end MallFabric
