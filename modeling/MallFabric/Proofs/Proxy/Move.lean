import MallFabric.Proxy.Step

/-!
# The moves of a call

Each step of a call is one of a few moves, which say under which conditions the
call goes where, what becomes of the fabric, and what the call does on the way.
-/

namespace MallFabric
namespace Proxy

variable {Conn Peers : Type}

theorem settle_surfaces
    {proxy : Proxy Conn Peers}
    {limit : Duration}
    {fault surfaced : Fault}
    (judged : judge (limit < proxy.config.circuit.timeout) fault = .surfaces surfaced)
    (method : Method)
    (key : Option String) :
    proxy.settle method key limit (.fault fault) = ⟨none, .finished (.error surfaced)⟩ := by
  simp only [settle, judged]

theorem settle_degrades
    {proxy : Proxy Conn Peers}
    {limit : Duration}
    {fault cause : Fault}
    {outcome : Outcome}
    (judged : judge (limit < proxy.config.circuit.timeout) fault = .degrades outcome cause)
    (method : Method)
    (key : Option String) :
    proxy.settle method key limit (.fault fault) =
      ⟨some outcome, .finished (proxy.degrade method cause)⟩ := by
  simp only [settle, judged]

/-- Why an attempt ends before it has a connection, and the pool that it leaves. -/
inductive Unconnected (proxy : Proxy Conn Peers) (now : Instant) (id : CallId)
    (fabric : Fabric Conn Peers) (call : Call) (expiry : Instant) :
    Pool Conn -> Fault -> Prop where
  | cancelled
      (given : call.context.isCancelled fabric.fired = true) :
      Unconnected proxy now id fabric call expiry fabric.pool .cancelled
  | refused {fault}
      (live : call.context.isCancelled fabric.fired = false)
      (noDial : fabric.dials.find? id = none)
      (result : fabric.pool.result? id = some (.error fault)) :
      Unconnected proxy now id fabric call expiry fabric.pool fault
  /-- The time is up while the call dials. -/
  | dialling {dial}
      (live : call.context.isCancelled fabric.fired = false)
      (dials : fabric.dials.find? id = some dial)
      (early : now < dial.due)
      (expired : expiry ≤ now) :
      Unconnected proxy now id fabric call expiry fabric.pool .timeout
  /-- The time is up when the request would leave. -/
  | departing {conn}
      (live : call.context.isCancelled fabric.fired = false)
      (noDial : fabric.dials.find? id = none)
      (result : fabric.pool.result? id = some (.ok conn))
      (expired : expiry ≤ now)
      (departs : proxy.table.departs call.method call.payload = true) :
      Unconnected proxy now id fabric call expiry fabric.pool .timeout
  /-- The time is up while another caller dials. -/
  | waiting
      (live : call.context.isCancelled fabric.fired = false)
      (noDial : fabric.dials.find? id = none)
      (noResult : fabric.pool.result? id = none)
      (waits : (fabric.pool.step id).2 = .blocked)
      (expired : expiry ≤ now) :
      Unconnected proxy now id fabric call expiry (fabric.pool.step id).1 .timeout

/-- How the work on a call ends for the call. -/
inductive Ended (now : Instant) (fabric : Fabric Conn Peers) (call : Call) (expiry : Instant)
    (reply : Timed (Reply Bytes)) : Reply Bytes -> Prop where
  | cancelled
      (given : call.context.isCancelled fabric.fired = true) :
      Ended now fabric call expiry reply (.fault .cancelled)
  | replied
      (live : call.context.isCancelled fabric.fired = false)
      (due : reply.due ≤ now) :
      Ended now fabric call expiry reply reply.result
  | timedOut
      (live : call.context.isCancelled fabric.fired = false)
      (early : now < reply.due)
      (expired : expiry ≤ now) :
      Ended now fabric call expiry reply (.fault .timeout)

/-- Everything that a step of a call can do. -/
inductive Move (proxy : Proxy Conn Peers) (now : Instant) (id : CallId)
    (fabric : Fabric Conn Peers) (call : Call) : StepResult Conn Peers -> Prop where
  | unregistered
      (stage : call.stage = .arriving)
      (missing : proxy.table.contains call.method = false) :
      Move proxy now id fabric call
        (moved fabric id call [] (.finished (.error (.methodNotFound call.method))))
  | givenUp
      (stage : call.stage = .arriving)
      (registered : proxy.table.contains call.method = true)
      (given : call.context.isCancelled fabric.fired = true) :
      Move proxy now id fabric call (moved fabric id call [] (.finished (.error .cancelled)))
  | lookUp
      (stage : call.stage = .arriving)
      (registered : proxy.table.contains call.method = true)
      (live : call.context.isCancelled fabric.fired = false)
      (cached : call.useCache = true) :
      Move proxy now id fabric call
        (moved fabric id call [] (.lookingUp (call.method.cacheKey call.payload)))
  | pass
      (stage : call.stage = .arriving)
      (registered : proxy.table.contains call.method = true)
      (live : call.context.isCancelled fabric.fired = false)
      (uncached : call.useCache = false) :
      Move proxy now id fabric call (moved fabric id call [] (.admitting none))
  | hit {key answer}
      (stage : call.stage = .lookingUp key)
      (found : (fabric.cache.get now key).1 = some answer) :
      Move proxy now id fabric call
        (moved { fabric with cache := (fabric.cache.get now key).2 } id call [.hit]
          (.finished (.ok answer)))
  | miss {key}
      (stage : call.stage = .lookingUp key)
      (missing : (fabric.cache.get now key).1 = none) :
      Move proxy now id fabric call
        (moved { fabric with cache := (fabric.cache.get now key).2 } id call []
          (.admitting (some key)))
  | decided {key trial circuit}
      (stage : call.stage = .admitting key)
      (decision : (fabric.circuit proxy.config.circuit call.method).decide now =
        (.ok trial, circuit)) :
      Move proxy now id fabric call
        (moved (fabric.setCircuit call.method circuit) id call [] (.claiming key now trial))
  | refused {key rejection circuit}
      (stage : call.stage = .admitting key)
      (decision : (fabric.circuit proxy.config.circuit call.method).decide now =
        (.error rejection, circuit)) :
      Move proxy now id fabric call
        (moved (fabric.setCircuit call.method circuit) id call [.rejected rejection]
          (.finished (proxy.degrade call.method (rejection.toFault call.method))))
  | admitted {key since trial holding}
      (stage : call.stage = .claiming key since trial)
      (taken : (fabric.circuit proxy.config.circuit call.method).takeSlot = some holding) :
      Move proxy now id fabric call
        (moved
          { fabric.setCircuit call.method holding with
            pool := fabric.pool.arrive id call.method.service }
          id call []
          (.connecting key ⟨trial⟩ (call.context.boundedTimeout now proxy.config.circuit.timeout)
            (Instant.timer (now + call.context.boundedTimeout now proxy.config.circuit.timeout))))
  | saturated {key since trial}
      (stage : call.stage = .claiming key since trial)
      (full : (fabric.circuit proxy.config.circuit call.method).takeSlot = none) :
      Move proxy now id fabric call
        (moved
          (fabric.setCircuit call.method
            ((fabric.circuit proxy.config.circuit call.method).rollback since trial))
          id call [.rejected .saturated]
          (.finished (proxy.degrade call.method (.saturated call.method))))
  | unconnected {key permit limit expiry pool fault}
      (stage : call.stage = .connecting key permit limit expiry)
      (cause : Unconnected proxy now id fabric call expiry pool fault) :
      Move proxy now id fabric call
        (proxy.giveUp now { fabric with pool } id call key permit limit fault)
  | dialEnded {key permit limit expiry dial}
      (stage : call.stage = .connecting key permit limit expiry)
      (live : call.context.isCancelled fabric.fired = false)
      (dials : fabric.dials.find? id = some dial)
      (due : dial.due ≤ now) :
      Move proxy now id fabric call
        ⟨{ fabric with
            pool := (fabric.pool.finishDial id dial.result).1, dials := fabric.dials.erase id },
          none, (fabric.pool.finishDial id dial.result).2, []⟩
  | joined {key permit limit expiry}
      (stage : call.stage = .connecting key permit limit expiry)
      (live : call.context.isCancelled fabric.fired = false)
      (noDial : fabric.dials.find? id = none)
      (noResult : fabric.pool.result? id = none)
      (progress : (fabric.pool.step id).2 = .moved) :
      Move proxy now id fabric call
        ⟨{ fabric with pool := (fabric.pool.step id).1 }, none, [], []⟩
  | dialled {key permit limit expiry name dial peers}
      (stage : call.stage = .connecting key permit limit expiry)
      (live : call.context.isCancelled fabric.fired = false)
      (noDial : fabric.dials.find? id = none)
      (noResult : fabric.pool.result? id = none)
      (progress : (fabric.pool.step id).2 = .dial name)
      (dials : proxy.dialler.dial (fabric.pool.step id).1 now name fabric.peers = (dial, peers)) :
      Move proxy now id fabric call
        ⟨{ fabric with
            pool := (fabric.pool.step id).1, peers, dials := fabric.dials.insert id dial },
          none, [], [.dialled]⟩
  | dialAwaited {key permit limit expiry dial}
      (stage : call.stage = .connecting key permit limit expiry)
      (live : call.context.isCancelled fabric.fired = false)
      (dials : fabric.dials.find? id = some dial)
      (early : now < dial.due ∧ now < expiry) :
      Move proxy now id fabric call (blocked fabric [dial.due, expiry])
  | turnAwaited {key permit limit expiry}
      (stage : call.stage = .connecting key permit limit expiry)
      (live : call.context.isCancelled fabric.fired = false)
      (noDial : fabric.dials.find? id = none)
      (noResult : fabric.pool.result? id = none)
      (waits : (fabric.pool.step id).2 = .blocked)
      (early : now < expiry) :
      Move proxy now id fabric call
        (blocked { fabric with pool := (fabric.pool.step id).1 } [expiry])
  | carriedOut {key permit limit expiry conn reply peers}
      (stage : call.stage = .connecting key permit limit expiry)
      (live : call.context.isCancelled fabric.fired = false)
      (noDial : fabric.dials.find? id = none)
      (result : fabric.pool.result? id = some (.ok conn))
      (inTime : now < expiry ∨ proxy.table.departs call.method call.payload = false)
      (invocation : proxy.table.invokeRaw conn call.method call.context now call.payload
        fabric.peers = (reply, peers)) :
      Move proxy now id fabric call
        (moved { fabric with pool := (fabric.pool.abort id).1, peers } id call
          (if proxy.table.accepts call.method call.payload then [.invoked] else [])
          (.handling key permit limit expiry reply))
  | concluded {key permit limit expiry reply ending}
      (stage : call.stage = .handling key permit limit expiry reply)
      (ended : Ended now fabric call expiry reply ending) :
      Move proxy now id fabric call (proxy.conclude now fabric id call key permit limit ending)
  | replyAwaited {key permit limit expiry reply}
      (stage : call.stage = .handling key permit limit expiry reply)
      (live : call.context.isCancelled fabric.fired = false)
      (early : now < reply.due ∧ now < expiry) :
      Move proxy now id fabric call (blocked fabric [reply.due, expiry])
  | stored {key answer}
      (stage : call.stage = .storing key answer) :
      Move proxy now id fabric call
        (moved
          { fabric with cache := fabric.cache.set now key answer proxy.config.cacheSpan }
          id call [] (.finished (.ok answer)))
  | ended
      (stage : (∃ result, call.stage = .finished result) ∨ call.stage = .crashed) :
      Move proxy now id fabric call (blocked fabric [])

variable {proxy : Proxy Conn Peers} {now : Instant} {id : CallId} {fabric : Fabric Conn Peers}
variable {call : Call}

section Connecting

variable {key : Option String} {permit : Permit} {limit : Duration} {expiry : Instant}

/-- A call whose dial is under way. -/
theorem move_dialling
    (stage : call.stage = .connecting key permit limit expiry)
    (live : call.context.isCancelled fabric.fired = false)
    {dial : Timed (Except Fault Conn)}
    (dials : fabric.dials.find? id = some dial) :
    Move proxy now id fabric call
      (proxy.connect now fabric id call key permit limit expiry) := by
  unfold connect
  rw [dials]
  by_cases due : dial.due ≤ now
  · simpa only [due, if_true] using Move.dialEnded stage live dials due
  · have early : now < dial.due := Nat.lt_of_not_le due
    by_cases expired : expiry ≤ now
    · simpa only [due, expired, if_true, if_false] using
        Move.unconnected stage (.dialling live dials early expired)
    · simpa only [due, expired, if_false] using
        Move.dialAwaited stage live dials ⟨early, Nat.lt_of_not_le expired⟩

/-- A call that has got its connection. -/
theorem move_connected
    (stage : call.stage = .connecting key permit limit expiry)
    (live : call.context.isCancelled fabric.fired = false)
    (noDial : fabric.dials.find? id = none)
    {conn : Conn}
    (result : fabric.pool.result? id = some (.ok conn)) :
    Move proxy now id fabric call
      (proxy.connect now fabric id call key permit limit expiry) := by
  unfold connect
  rw [noDial]
  simp only [result]
  by_cases hindered : expiry ≤ now ∧ proxy.table.departs call.method call.payload = true
  · simpa only [hindered, and_self, if_true] using
      Move.unconnected stage (.departing live noDial result hindered.1 hindered.2)
  · have inTime : now < expiry ∨ proxy.table.departs call.method call.payload = false := by
      by_cases expired : expiry ≤ now
      · have stays : ¬ proxy.table.departs call.method call.payload = true :=
          fun departs => hindered ⟨expired, departs⟩
        exact Or.inr (Bool.not_eq_true _ ▸ stays)
      · exact Or.inl (Nat.lt_of_not_le expired)
    obtain ⟨⟨reply, peers⟩, invocation⟩ :
        ∃ invoked, proxy.table.invokeRaw conn call.method call.context now call.payload
          fabric.peers = invoked := ⟨_, rfl⟩
    simpa only [hindered, if_false, invocation] using
      Move.carriedOut stage live noDial result inTime invocation

/-- A call that has yet to get its connection, and does not dial for it. -/
theorem move_joining
    (stage : call.stage = .connecting key permit limit expiry)
    (live : call.context.isCancelled fabric.fired = false)
    (noDial : fabric.dials.find? id = none)
    (noResult : fabric.pool.result? id = none) :
    Move proxy now id fabric call
      (proxy.connect now fabric id call key permit limit expiry) := by
  unfold connect
  rw [noDial]
  simp only [noResult]
  obtain ⟨⟨pool, progress⟩, stepped⟩ : ∃ stepped, fabric.pool.step id = stepped := ⟨_, rfl⟩
  cases progress with
  | moved =>
      have joined : Move proxy now id fabric call _ :=
        .joined stage live noDial noResult (by rw [stepped])
      simpa only [stepped] using joined
  | dial name =>
      obtain ⟨⟨dial, peers⟩, dialling⟩ :
          ∃ dialling, proxy.dialler.dial pool now name fabric.peers = dialling := ⟨_, rfl⟩
      have dialled : Move proxy now id fabric call _ :=
        .dialled stage live noDial noResult (by rw [stepped]) (by rw [stepped, dialling])
      simpa only [stepped, dialling] using dialled
  | blocked =>
      by_cases expired : expiry ≤ now
      · have unconnected : Move proxy now id fabric call _ :=
          .unconnected stage (.waiting live noDial noResult (by rw [stepped]) expired)
        simpa only [stepped, expired, if_true] using unconnected
      · have awaited : Move proxy now id fabric call _ :=
          .turnAwaited stage live noDial noResult (by rw [stepped]) (Nat.lt_of_not_le expired)
        simpa only [stepped, expired, if_false] using awaited

/-- The way to the connection is one of the moves. -/
theorem move_connect
    (stage : call.stage = .connecting key permit limit expiry)
    (live : call.context.isCancelled fabric.fired = false) :
    Move proxy now id fabric call
      (proxy.connect now fabric id call key permit limit expiry) := by
  cases dials : fabric.dials.find? id with
  | some dial => exact move_dialling stage live dials
  | none =>
      cases result : fabric.pool.result? id with
      | none => exact move_joining stage live dials result
      | some known =>
          cases known with
          | ok conn => exact move_connected stage live dials result
          | error fault =>
              have refused : Move proxy now id fabric call _ :=
                .unconnected stage (.refused live dials result)
              simpa only [connect, dials, result] using refused

end Connecting

/-- Every step of a call is one of its moves. -/
theorem move_step
    (found : fabric.calls.find? id = some call) :
    Move proxy now id fabric call (proxy.step now id fabric) := by
  unfold step
  simp only [found]
  cases stage : call.stage with
  | arriving =>
      cases registered : proxy.table.contains call.method with
      | false => simpa [registered] using Move.unregistered stage registered
      | true =>
          cases given : call.context.isCancelled fabric.fired with
          | true => simpa [registered, given] using Move.givenUp stage registered given
          | false =>
              cases cached : call.useCache with
              | true =>
                  simpa [registered, given, cached] using
                    Move.lookUp stage registered given cached
              | false =>
                  simpa [registered, given, cached] using Move.pass stage registered given cached
  | lookingUp key =>
      cases found : (fabric.cache.get now key).1 with
      | some answer => simpa only [found] using Move.hit stage found
      | none => simpa only [found] using Move.miss stage found
  | admitting key =>
      obtain ⟨⟨verdict, circuit⟩, decision⟩ :
          ∃ decided, (fabric.circuit proxy.config.circuit call.method).decide now = decided :=
        ⟨_, rfl⟩
      cases verdict with
      | ok trial => simpa only [decision] using Move.decided stage decision
      | error rejection => simpa only [decision] using Move.refused stage decision
  | claiming key since trial =>
      cases taken : (fabric.circuit proxy.config.circuit call.method).takeSlot with
      | some holding =>
          simp only
          exact .admitted stage taken
      | none => simpa only [taken] using Move.saturated stage taken
  | connecting key permit limit expiry =>
      cases given : call.context.isCancelled fabric.fired with
      | true =>
          simpa only [given, if_true] using Move.unconnected stage (.cancelled given)
      | false =>
          simpa [given] using move_connect stage given
  | handling key permit limit expiry reply =>
      cases given : call.context.isCancelled fabric.fired with
      | true => simpa only [given, if_true] using Move.concluded stage (.cancelled given)
      | false =>
          by_cases due : reply.due ≤ now
          · simpa [given, due] using Move.concluded stage (.replied given due)
          · have early : now < reply.due := Nat.lt_of_not_le due
            by_cases expired : expiry ≤ now
            · simpa [given, due, expired] using
                Move.concluded stage (.timedOut given early expired)
            · simpa [given, due, expired] using
                Move.replyAwaited stage given ⟨early, Nat.lt_of_not_le expired⟩
  | storing key answer => exact .stored stage
  | finished result => exact .ended (Or.inl ⟨result, stage⟩)
  | crashed => exact .ended (Or.inr stage)

end Proxy

/-! ## The circuits of a fabric that has changed -/

namespace Fabric

variable {Conn Peers : Type} {fabric after : Fabric Conn Peers} {config : CircuitConfig}

theorem circuit_congr
    (circuits : after.circuits = fabric.circuits)
    (config : CircuitConfig)
    (method : Method) :
    after.circuit config method = fabric.circuit config method := by
  rw [circuit, circuits, circuit]

theorem circuit_of_insert
    {method : Method}
    {written : Circuit}
    (circuits : after.circuits = fabric.circuits.insert method written) :
    after.circuit config method = written := by
  rw [circuit, circuits, Assoc.find?_insert_self, Option.getD_some]

theorem circuit_of_insert_of_ne
    {method other : Method}
    {written : Circuit}
    (circuits : after.circuits = fabric.circuits.insert method written)
    (different : other ≠ method) :
    after.circuit config other = fabric.circuit config other := by
  rw [circuit, circuits, Assoc.find?_insert_of_ne _ _ different, circuit]

@[simp] theorem circuit_setCircuit
    (fabric : Fabric Conn Peers)
    (config : CircuitConfig)
    (method : Method)
    (written : Circuit) :
    (fabric.setCircuit method written).circuit config method = written :=
  circuit_of_insert rfl

theorem circuit_setCircuit_of_ne
    (fabric : Fabric Conn Peers)
    (config : CircuitConfig)
    {method other : Method}
    (written : Circuit)
    (different : other ≠ method) :
    (fabric.setCircuit method written).circuit config other = fabric.circuit config other :=
  circuit_of_insert_of_ne rfl different

end Fabric
end MallFabric
