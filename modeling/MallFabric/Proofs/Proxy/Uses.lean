import MallFabric.Proofs.Circuit.Traffic
import MallFabric.Proofs.Proxy.Failing
import MallFabric.Proofs.Proxy.Run

/-!
# What calls do with the circuit of their method

The calls to one method are the callers of one circuit.  What they do with it in the course
of a run is traffic of that circuit: admissions that make a decision and try for a slot, and
permits that end.  The main statement is about every run: the circuit of a method is the one
that this traffic leaves, and who is admitted or has a permit there is at that stage as a
call.  So whatever is known of the traffic of a circuit is known of the calls of a proxy.
-/

namespace MallFabric

variable {Conn Peers : Type}

namespace CallStage

/-- The circuit let the call pass, and it has not yet tried to take a slot. -/
def isClaiming : CallStage -> Bool
  | claiming _ _ _ => true
  | _ => false

def holdsSlot : CallStage -> Bool
  | connecting _ _ _ _ => true
  | handling _ _ _ _ _ => true
  | _ => false

/-- The call is being admitted or has a permit. -/
def isEngaged (stage : CallStage) : Bool := stage.isClaiming || stage.holdsSlot

/-- The admission of a call that is under way. -/
def attempt? : CallStage -> Option Attempt
  | claiming _ since trial => some ⟨since, trial, .claiming⟩
  | _ => none

/-- The permit that a call has. -/
def permit? : CallStage -> Option Permit
  | connecting _ permit _ _ => some permit
  | handling _ permit _ _ _ => some permit
  | _ => none

theorem holdsSlot_of_isClaiming
    {stage : CallStage}
    (claiming : stage.isClaiming = true) :
    stage.holdsSlot = false := by
  cases stage with
  | claiming key since trial => rfl
  | _ => cases claiming

theorem attempt?_eq_none
    {stage : CallStage}
    (idle : stage.isEngaged = false) :
    stage.attempt? = none := by
  cases stage with
  | claiming key since trial => cases idle
  | _ => rfl

theorem permit?_eq_none
    {stage : CallStage}
    (idle : stage.isEngaged = false) :
    stage.permit? = none := by
  cases stage with
  | connecting key permit limit expiry => cases idle
  | handling key permit limit expiry reply => cases idle
  | _ => rfl

end CallStage

/-- No fault reaches the caller of a call as it is. -/
def CallStage.SurfacesNothing : CallStage -> Prop
  | .storing _ _ => True
  | .finished (.ok _) => True
  | .finished (.error fault) => ¬ fault.Unrecorded
  | .crashed => True
  | _ => False

/-- The rejections that a call meets. -/
def CallAct.rejections (acts : List CallAct) : List Rejection :=
  acts.filterMap fun
    | .rejected rejection => some rejection
    | _ => none

/-- How a permit ends. -/
def TrafficEvent.ending (id : AttemptId) (now : Instant) : Option Outcome -> TrafficEvent
  | some outcome => .resolve id now outcome
  | none => .drop id

/-- What a call does with the circuit of its method when it goes from one stage to another, by
the acts of that step. -/
def CallStage.uses (stage : CallStage) (id : CallId) (now : Instant) (acts : List CallAct)
    (later : CallStage) : List TrafficEvent :=
  match stage with
  | .admitting _ => [.decide id now]
  | .claiming _ _ _ => if later.holdsSlot then [.claim id] else [.claim id, .rollback id]
  | .connecting _ _ _ _ =>
      if later.holdsSlot then [] else [.ending id now (CallAct.outcomes acts).head?]
  | .handling _ _ _ _ _ =>
      if later.holdsSlot then [] else [.ending id now (CallAct.outcomes acts).head?]
  | _ => []

theorem CallStage.uses_of_permit
    {stage later : CallStage}
    {permit : Permit}
    (held : stage.permit? = some permit)
    (idle : later.isEngaged = false)
    (id : CallId)
    (now : Instant)
    (acts : List CallAct) :
    stage.uses id now acts later = [.ending id now (CallAct.outcomes acts).head?] := by
  have free : later.holdsSlot = false := (Bool.or_eq_false_iff.mp idle).2
  cases stage with
  | connecting key permit limit expiry => simp only [uses, free, Bool.false_eq_true, if_false]
  | handling key permit limit expiry reply =>
      simp only [uses, free, Bool.false_eq_true, if_false]
  | _ => cases held

/-! ## Steps of a call -/

namespace Proxy

variable {proxy : Proxy Conn Peers} {now : Instant} {id : CallId} {fabric : Fabric Conn Peers}
variable {call : Call} {result : StepResult Conn Peers}

/-- An attempt that is settled holds nothing any more. -/
theorem isEngaged_settle
    (proxy : Proxy Conn Peers)
    (method : Method)
    (key : Option String)
    (limit : Duration)
    (reply : Reply Bytes) :
    (proxy.settle method key limit reply).stage.isEngaged = false := by
  cases reply with
  | answer answer =>
      cases key with
      | none => rfl
      | some key => rfl
  | crash => rfl
  | fault fault =>
      cases judged : judge (limit < proxy.config.circuit.timeout) fault with
      | surfaces surfaced =>
          rw [settle_surfaces judged]
          rfl
      | degrades outcome cause =>
          rw [settle_degrades judged]
          rfl

/-- A degraded call does not end with a fault of its own. -/
theorem surfacesNothing_degrade
    (proxy : Proxy Conn Peers)
    (method : Method)
    (cause : Fault) :
    (CallStage.finished (proxy.degrade method cause)).SurfacesNothing := by
  cases degraded : proxy.degrade method cause with
  | ok answer => trivial
  | error fault =>
      intro unrecorded
      rw [eq_unavailable_of_degrade degraded] at unrecorded
      exact unrecorded.not_isUnavailable ⟨_, _, _, rfl⟩

/-- An attempt for which an outcome is recorded ends with no fault that reaches its caller. -/
theorem surfacesNothing_settle
    (proxy : Proxy Conn Peers)
    (method : Method)
    (key : Option String)
    (limit : Duration)
    (reply : Reply Bytes) :
    (proxy.settle method key limit reply).outcome = none ∨
      (proxy.settle method key limit reply).stage.SurfacesNothing := by
  cases reply with
  | answer answer =>
      cases key with
      | none => exact .inr trivial
      | some key => exact .inr trivial
  | crash => exact .inl rfl
  | fault fault =>
      cases judged : judge (limit < proxy.config.circuit.timeout) fault with
      | surfaces surfaced =>
          rw [settle_surfaces judged]
          exact .inl rfl
      | degrades outcome cause =>
          rw [settle_degrades judged]
          exact .inr (proxy.surfacesNothing_degrade method cause)

/-- Everything that a step of a call can do with the circuit of its method, and the rejections
that the call meets. -/
inductive Deal (id : CallId) (now : Instant) (circuit : Circuit) :
    CallStage -> CallStage -> List TrafficEvent -> List Rejection -> Circuit -> Prop where
  | aside {stage later}
      (attempt : later.attempt? = stage.attempt?)
      (permit : later.permit? = stage.permit?) :
      Deal id now circuit stage later [] [] circuit
  | decided {key trial decided}
      (decision : circuit.decide now = (.ok trial, decided)) :
      Deal id now circuit (.admitting key) (.claiming key now trial) [.decide id now] [] decided
  | refused {key rejection decided later}
      (decision : circuit.decide now = (.error rejection, decided))
      (idle : later.isEngaged = false) :
      Deal id now circuit (.admitting key) later [.decide id now] [rejection] decided
  | admitted {key since trial limit expiry holding}
      (taken : circuit.takeSlot = some holding) :
      Deal id now circuit (.claiming key since trial) (.connecting key ⟨trial⟩ limit expiry)
        [.claim id] [] holding
  | saturated {key since trial later}
      (full : circuit.takeSlot = none)
      (idle : later.isEngaged = false)
      (degraded : later.SurfacesNothing) :
      Deal id now circuit (.claiming key since trial) later [.claim id, .rollback id]
        [.saturated] (circuit.rollback since trial)
  | ended {stage permit outcome later}
      (held : stage.permit? = some permit)
      (idle : later.isEngaged = false)
      (recorded : outcome = none ∨ later.SurfacesNothing) :
      Deal id now circuit stage later [.ending id now outcome] []
        (circuit.endPermit now permit outcome)

/-- How a call has gone on in a step, and what it has done with the circuit of its method. -/
structure GoesOn (proxy : Proxy Conn Peers) (now : Instant) (id : CallId)
    (fabric : Fabric Conn Peers) (call : Call) (result : StepResult Conn Peers)
    (later : CallStage) : Prop where
  found : result.fabric.calls.find? id = some { call with stage := later }
  deal : Deal id now (fabric.circuit proxy.config.circuit call.method) call.stage later
    (call.stage.uses id now result.acts later) (CallAct.rejections result.acts)
    (result.fabric.circuit proxy.config.circuit call.method)
  /-- Other circuits are left alone. -/
  others : ∀ method, method ≠ call.method ->
    result.fabric.circuit proxy.config.circuit method =
      fabric.circuit proxy.config.circuit method

/-- The call is at another stage, and the circuit of its method is used in one of the ways. -/
theorem goesOn_of_insert
    {later : CallStage}
    {circuit : Circuit}
    (written : result.fabric.circuits = fabric.circuits.insert call.method circuit)
    (calls : result.fabric.calls = fabric.calls.insert id { call with stage := later })
    (deal : Deal id now (fabric.circuit proxy.config.circuit call.method) call.stage later
      (call.stage.uses id now result.acts later) (CallAct.rejections result.acts) circuit) :
    GoesOn proxy now id fabric call result later where
  found := calls ▸ Assoc.find?_insert_self _ _ _
  deal := by
    rw [Fabric.circuit_of_insert written]
    exact deal
  others := fun _ => Fabric.circuit_of_insert_of_ne written

/-- The call has nothing to do with a circuit. -/
theorem goesOn_of_congr
    {later : CallStage}
    (circuits : result.fabric.circuits = fabric.circuits)
    (found : result.fabric.calls.find? id = some { call with stage := later })
    (admitted : CallAct.rejections result.acts = [])
    (aside : call.stage.uses id now result.acts later = [] ∧
      later.attempt? = call.stage.attempt? ∧ later.permit? = call.stage.permit?) :
    GoesOn proxy now id fabric call result later where
  found := found
  deal := by
    rw [aside.1, admitted, Fabric.circuit_congr circuits]
    exact .aside aside.2.1 aside.2.2
  others := fun _ _ => Fabric.circuit_congr circuits _ _

/-- An attempt that is over has ended its permit. -/
theorem goesOn_settle
    {key : Option String}
    {permit : Permit}
    {limit : Duration}
    (held : call.stage.permit? = some permit)
    (reply : Reply Bytes)
    (written : result.fabric.circuits = fabric.circuits.insert call.method
      ((fabric.circuit proxy.config.circuit call.method).endPermit now permit
        (proxy.settle call.method key limit reply).outcome))
    (calls : result.fabric.calls = fabric.calls.insert id
      { call with stage := (proxy.settle call.method key limit reply).stage })
    (acts : result.acts =
      (proxy.settle call.method key limit reply).outcome.toList.map .recorded) :
    GoesOn proxy now id fabric call result (proxy.settle call.method key limit reply).stage := by
  refine goesOn_of_insert written calls ?_
  have idle := isEngaged_settle proxy call.method key limit reply
  have recorded : (CallAct.outcomes result.acts).head? =
      (proxy.settle call.method key limit reply).outcome := by
    rw [acts]
    cases (proxy.settle call.method key limit reply).outcome <;> rfl
  have admitted : CallAct.rejections result.acts = [] := by
    rw [acts]
    cases (proxy.settle call.method key limit reply).outcome <;> rfl
  rw [CallStage.uses_of_permit held idle, recorded, admitted]
  exact .ended held idle (proxy.surfacesNothing_settle call.method key limit reply)

/-- A step of a call uses the circuit of its method in one of these ways and no other circuit. -/
theorem Move.goesOn
    (move : Move proxy now id fabric call result)
    (found : fabric.calls.find? id = some call) :
    ∃ later, GoesOn proxy now id fabric call result later := by
  have passes : ∀ (between : Fabric Conn Peers) (acts : List CallAct) (later : CallStage),
      between.circuits = fabric.circuits -> CallAct.rejections acts = [] ->
        (call.stage.uses id now acts later = [] ∧
          later.attempt? = call.stage.attempt? ∧ later.permit? = call.stage.permit?) ->
          ∃ last, GoesOn proxy now id fabric call (moved between id call acts later) last :=
    fun between acts later circuits admitted aside =>
      ⟨later, goesOn_of_congr circuits (Assoc.find?_insert_self _ _ _) admitted aside⟩
  have stays : result.fabric.circuits = fabric.circuits -> result.fabric.calls = fabric.calls ->
      CallAct.rejections result.acts = [] ->
        call.stage.uses id now result.acts call.stage = [] ->
          ∃ later, GoesOn proxy now id fabric call result later :=
    fun circuits calls admitted unused =>
      ⟨call.stage, goesOn_of_congr circuits (calls ▸ found) admitted ⟨unused, rfl, rfl⟩⟩
  cases move with
  | unregistered stage missing =>
      exact passes _ _ _ rfl rfl (by rw [stage]; exact ⟨rfl, rfl, rfl⟩)
  | givenUp stage registered given =>
      exact passes _ _ _ rfl rfl (by rw [stage]; exact ⟨rfl, rfl, rfl⟩)
  | lookUp stage registered live cached =>
      exact passes _ _ _ rfl rfl (by rw [stage]; exact ⟨rfl, rfl, rfl⟩)
  | pass stage registered live uncached =>
      exact passes _ _ _ rfl rfl (by rw [stage]; exact ⟨rfl, rfl, rfl⟩)
  | hit stage answered => exact passes _ _ _ rfl rfl (by rw [stage]; exact ⟨rfl, rfl, rfl⟩)
  | miss stage missing => exact passes _ _ _ rfl rfl (by rw [stage]; exact ⟨rfl, rfl, rfl⟩)
  | carriedOut stage live noDial result inTime invocation =>
      refine passes _ _ _ rfl ?_ (by rw [stage]; exact ⟨rfl, rfl, rfl⟩)
      split <;> rfl
  | stored stage => exact passes _ _ _ rfl rfl (by rw [stage]; exact ⟨rfl, rfl, rfl⟩)
  | decided stage decision =>
      refine ⟨_, goesOn_of_insert rfl rfl ?_⟩
      rw [stage]
      exact .decided decision
  | refused stage decision =>
      refine ⟨_, goesOn_of_insert rfl rfl ?_⟩
      rw [stage]
      exact .refused decision rfl
  | admitted stage taken =>
      refine ⟨_, goesOn_of_insert rfl rfl ?_⟩
      rw [stage]
      exact .admitted taken
  | saturated stage full =>
      refine ⟨_, goesOn_of_insert rfl rfl ?_⟩
      rw [stage]
      exact .saturated full rfl (proxy.surfacesNothing_degrade _ _)
  | unconnected stage cause =>
      exact ⟨_, goesOn_settle (by rw [stage]; rfl) (.fault _) rfl rfl rfl⟩
  | @concluded key permit limit expiry reply ending stage ended =>
      exact ⟨_, goesOn_settle (by rw [stage]; rfl) ending rfl rfl rfl⟩
  | ended stage =>
      rcases stage with ⟨result, stage⟩ | stage
      · exact stays rfl rfl rfl (by rw [stage]; rfl)
      · exact stays rfl rfl rfl (by rw [stage]; rfl)
  | dialEnded stage live dials due => exact stays rfl rfl rfl (by rw [stage]; rfl)
  | joined stage live noDial noResult progress => exact stays rfl rfl rfl (by rw [stage]; rfl)
  | dialled stage live noDial noResult progress dials =>
      exact stays rfl rfl rfl (by rw [stage]; rfl)
  | dialAwaited stage live dials early => exact stays rfl rfl rfl (by rw [stage]; rfl)
  | turnAwaited stage live noDial noResult waits early =>
      exact stays rfl rfl rfl (by rw [stage]; rfl)
  | replyAwaited stage live early => exact stays rfl rfl rfl (by rw [stage]; rfl)

end Proxy

/-! ## Traffic beside the calls -/

namespace Traffic

/-- What others do in the course of some events does not concern what a caller has. -/
theorem find?_resume_of_ne
    {id : AttemptId}
    {events : List TrafficEvent}
    (others : ∀ event ∈ events, event.caller? ≠ some id)
    (traffic : Traffic) :
    (traffic.resume events).attempts.find? id = traffic.attempts.find? id ∧
      (traffic.resume events).permits.find? id = traffic.permits.find? id := by
  induction events generalizing traffic with
  | nil => exact ⟨rfl, rfl⟩
  | cons event rest inductionHypothesis =>
      obtain ⟨other, later⟩ := List.forall_mem_cons.mp others
      obtain ⟨attempts, permits⟩ := find?_step_of_ne other traffic
      rw [← attempts, ← permits]
      exact inductionHypothesis later (traffic.step event)

end Traffic

/-- A call does nothing in the name of another one. -/
theorem Proxy.Deal.caller?_eq
    {id : CallId}
    {now : Instant}
    {circuit after : Circuit}
    {stage later : CallStage}
    {uses : List TrafficEvent}
    {told : List Rejection}
    (deal : Deal id now circuit stage later uses told after)
    {event : TrafficEvent}
    (used : event ∈ uses) :
    event.caller? = some id := by
  cases deal with
  | aside attempt permit => cases used
  | decided decision => exact List.mem_singleton.mp used ▸ rfl
  | refused decision idle => exact List.mem_singleton.mp used ▸ rfl
  | admitted taken => exact List.mem_singleton.mp used ▸ rfl
  | saturated full idle degraded =>
      rcases List.mem_pair.mp used with rfl | rfl
      · rfl
      · rfl
  | @ended _ permit outcome _ held idle recorded =>
      cases outcome with
      | none => exact List.mem_singleton.mp used ▸ rfl
      | some outcome => exact List.mem_singleton.mp used ▸ rfl

/-- A caller is at the stage of a call. -/
structure Traffic.At (traffic : Traffic) (id : AttemptId) (stage : CallStage) : Prop where
  attempt : traffic.attempts.find? id = stage.attempt?
  permit : traffic.permits.find? id = stage.permit?

namespace Traffic

variable {traffic : Traffic} {id : AttemptId} {since : Instant} {trial : Bool}

/-- An admission that may go on tries for a slot next. -/
theorem resume_decide
    {decided : Circuit}
    (newAttempt : traffic.attempts.find? id = none)
    (newPermit : traffic.permits.find? id = none)
    (decision : traffic.circuit.decide traffic.clock = (.ok trial, decided)) :
    traffic.resume [.decide id traffic.clock] =
        { traffic with
          circuit := decided
          attempts := traffic.attempts.insert id ⟨traffic.clock, trial, .claiming⟩ } ∧
      traffic.refusals [.decide id traffic.clock] = [] := by
  simp [resume, refusals, step, answer?, Assoc.contains, newAttempt, newPermit, decision]

/-- An admission that may not go on leaves nothing. -/
theorem resume_decide_of_refused
    {rejection : Rejection}
    {decided : Circuit}
    (newAttempt : traffic.attempts.find? id = none)
    (newPermit : traffic.permits.find? id = none)
    (decision : traffic.circuit.decide traffic.clock = (.error rejection, decided)) :
    traffic.resume [.decide id traffic.clock] = { traffic with circuit := decided } ∧
      traffic.refusals [.decide id traffic.clock] = [rejection] := by
  simp [resume, refusals, step, answer?, Assoc.contains, newAttempt, newPermit, decision]

/-- An admission that takes a slot has a permit. -/
theorem resume_claim
    {holding : Circuit}
    (tries : traffic.attempts.find? id = some ⟨since, trial, .claiming⟩)
    (taken : traffic.circuit.takeSlot = some holding) :
    traffic.resume [.claim id] =
        { traffic with
          circuit := holding
          attempts := traffic.attempts.erase id
          permits := traffic.permits.insert id ⟨trial⟩ } ∧
      traffic.refusals [.claim id] = [] := by
  simp [resume, refusals, step, answer?, tries, taken]

/-- An admission that finds no slot is undone. -/
theorem resume_claim_rollback
    (tries : traffic.attempts.find? id = some ⟨since, trial, .claiming⟩)
    (full : traffic.circuit.takeSlot = none) :
    traffic.resume [.claim id, .rollback id] =
        { traffic with
          circuit := traffic.circuit.rollback since trial, attempts := traffic.attempts.erase id } ∧
      traffic.refusals [.claim id, .rollback id] = [.saturated] := by
  simp [resume, refusals, step, answer?, tries, full, Assoc.find?_insert_self,
    Assoc.erase_insert_self]

/-- A permit that ends is given back. -/
theorem resume_ending
    {permit : Permit}
    (held : traffic.permits.find? id = some permit)
    (outcome : Option Outcome) :
    traffic.resume [.ending id traffic.clock outcome] =
        { traffic with
          circuit := traffic.circuit.endPermit traffic.clock permit outcome
          permits := traffic.permits.erase id } ∧
      traffic.refusals [.ending id traffic.clock outcome] = [] := by
  cases outcome with
  | none => simp [resume, refusals, step, answer?, TrafficEvent.ending, Circuit.endPermit, held]
  | some outcome =>
      simp [resume, refusals, step, answer?, TrafficEvent.ending, Circuit.endPermit, held]

end Traffic

theorem CallStage.attempt?_eq_none_of_permit
    {stage : CallStage}
    {permit : Permit}
    (held : stage.permit? = some permit) :
    stage.attempt? = none := by
  cases stage with
  | connecting key permit limit expiry => rfl
  | handling key permit limit expiry reply => rfl
  | _ => cases held

/-- The traffic of a circuit goes on as a call does that uses it, and answers what the call is
told. -/
theorem Proxy.Deal.resume
    {id : CallId}
    {traffic : Traffic}
    {stage later : CallStage}
    {uses : List TrafficEvent}
    {told : List Rejection}
    {after : Circuit}
    (deal : Deal id traffic.clock traffic.circuit stage later uses told after)
    (place : traffic.At id stage) :
    (traffic.resume uses).clock = traffic.clock ∧ (traffic.resume uses).circuit = after ∧
      (traffic.resume uses).At id later ∧ traffic.refusals uses = told := by
  obtain ⟨attempt, permit⟩ := place
  cases deal with
  | aside sameAttempt samePermit =>
      exact ⟨rfl, rfl, ⟨attempt.trans sameAttempt.symm, permit.trans samePermit.symm⟩, rfl⟩
  | decided decision =>
      obtain ⟨gone, answered⟩ := Traffic.resume_decide attempt permit decision
      rw [gone, answered]
      exact ⟨rfl, rfl, ⟨Assoc.find?_insert_self _ _ _, permit⟩, rfl⟩
  | refused decision idle =>
      obtain ⟨gone, answered⟩ := Traffic.resume_decide_of_refused attempt permit decision
      rw [gone, answered]
      exact ⟨rfl, rfl, ⟨attempt.trans (CallStage.attempt?_eq_none idle).symm,
        permit.trans (CallStage.permit?_eq_none idle).symm⟩, rfl⟩
  | admitted taken =>
      obtain ⟨gone, answered⟩ := Traffic.resume_claim attempt taken
      rw [gone, answered]
      exact ⟨rfl, rfl, ⟨Assoc.find?_erase_self _ _, Assoc.find?_insert_self _ _ _⟩, rfl⟩
  | saturated full idle degraded =>
      obtain ⟨gone, answered⟩ := Traffic.resume_claim_rollback attempt full
      rw [gone, answered]
      exact ⟨rfl, rfl, ⟨(Assoc.find?_erase_self _ _).trans (CallStage.attempt?_eq_none idle).symm,
        permit.trans (CallStage.permit?_eq_none idle).symm⟩, rfl⟩
  | @ended _ ending outcome _ held idle recorded =>
      obtain ⟨gone, answered⟩ := Traffic.resume_ending (permit.trans held) outcome
      have nothing := attempt.trans (CallStage.attempt?_eq_none_of_permit held)
      rw [gone, answered]
      exact ⟨rfl, rfl, ⟨nothing.trans (CallStage.attempt?_eq_none idle).symm,
        (Assoc.find?_erase_self _ _).trans (CallStage.permit?_eq_none idle).symm⟩, rfl⟩

namespace Fabric

variable {config : CircuitConfig} {fabric after : Fabric Conn Peers} {method : Method}
variable {traffic : Traffic} {id : CallId}

/-- The stage of a call as far as a method is concerned.  What is no call to the method has not
come anywhere. -/
def placeAt (fabric : Fabric Conn Peers) (method : Method) (id : CallId) : CallStage :=
  match fabric.calls.find? id with
  | some call => if call.method = method then call.stage else .arriving
  | none => .arriving

theorem placeAt_of_find?
    {call : Call}
    (found : fabric.calls.find? id = some call) :
    fabric.placeAt call.method id = call.stage := by
  simp only [placeAt, found, if_true]

theorem placeAt_of_ne
    {call : Call}
    (found : fabric.calls.find? id = some call)
    (different : call.method ≠ method) :
    fabric.placeAt method id = .arriving := by
  simp only [placeAt, found, different, if_false]

theorem placeAt_of_absent
    (absent : fabric.calls.find? id = none)
    (method : Method) :
    fabric.placeAt method id = .arriving := by
  simp only [placeAt, absent]

theorem placeAt_congr
    (same : after.calls.find? id = fabric.calls.find? id)
    (method : Method) :
    after.placeAt method id = fabric.placeAt method id := by
  simp only [placeAt, same]

/-- The traffic of a circuit is that of the calls to its method. -/
structure Mirrors (config : CircuitConfig) (method : Method) (fabric : Fabric Conn Peers)
    (traffic : Traffic) : Prop where
  circuit : traffic.circuit = fabric.circuit config method
  places : ∀ id, traffic.At id (fabric.placeAt method id)

/-- What concerns neither circuits nor calls is none of the traffic. -/
theorem Mirrors.congr
    (mirrors : Mirrors config method fabric traffic)
    (circuits : after.circuits = fabric.circuits)
    (calls : after.calls = fabric.calls) :
    Mirrors config method after traffic where
  circuit := mirrors.circuit.trans (circuit_congr circuits config method).symm
  places := by
    intro id
    have same : after.calls.find? id = fabric.calls.find? id := by rw [calls]
    rw [placeAt_congr same]
    exact mirrors.places id

/-- The traffic follows a call in what it does with the circuit. -/
theorem Mirrors.follow
    (mirrors : Mirrors config method fabric traffic)
    {uses : List TrafficEvent}
    {told : List Rejection}
    (deal : Proxy.Deal id traffic.clock (fabric.circuit config method) (fabric.placeAt method id)
      (after.placeAt method id) uses told (after.circuit config method))
    (elsewhere : ∀ other, other ≠ id -> after.placeAt method other = fabric.placeAt method other) :
    (traffic.resume uses).clock = traffic.clock ∧
      Mirrors config method after (traffic.resume uses) := by
  have others : ∀ other, other ≠ id -> ∀ event ∈ uses, event.caller? ≠ some other := by
    intro other different event used
    rw [deal.caller?_eq used]
    exact fun equal => different (Option.some.inj equal).symm
  rw [← mirrors.circuit] at deal
  obtain ⟨clock, circuit, own, -⟩ := deal.resume (mirrors.places id)
  refine ⟨clock, circuit, fun other => ?_⟩
  by_cases same : other = id
  · exact same ▸ own
  · obtain ⟨attempts, permits⟩ := Traffic.find?_resume_of_ne (others other same) traffic
    have before := mirrors.places other
    rw [elsewhere other same]
    exact ⟨attempts.trans before.attempt, permits.trans before.permit⟩

/-- A call that comes takes no part in the traffic. -/
theorem Mirrors.come
    (mirrors : Mirrors config method fabric traffic)
    (fresh : fabric.calls.find? id = none)
    {call : Call}
    (idle : call.stage.isEngaged = false) :
    Mirrors config method (fabric.setCall id call) traffic := by
  refine ⟨mirrors.circuit, fun other => ?_⟩
  by_cases same : other = id
  · subst same
    obtain ⟨attempt, permit⟩ := mirrors.places other
    rw [placeAt_of_absent fresh] at attempt permit
    have unengaged : ((fabric.setCall other call).placeAt method other).isEngaged = false := by
      simp only [placeAt, setCall, Assoc.find?_insert_self]
      split
      · exact idle
      · rfl
    exact ⟨attempt.trans (CallStage.attempt?_eq_none unengaged).symm,
      permit.trans (CallStage.permit?_eq_none unengaged).symm⟩
  · rw [placeAt_congr (Assoc.find?_insert_of_ne fabric.calls call same)]
    exact mirrors.places other

end Fabric

namespace ProxyRun

variable {proxy : Proxy Conn Peers} {run : ProxyRun Conn Peers} {method : Method}
variable {traffic : Traffic}

/-- A proxy that nobody has called yet. -/
def new (cache : CacheLink) (pool : Pool Conn) (peers : Peers) : ProxyRun Conn Peers :=
  ⟨0, Fabric.new cache pool peers, 0, []⟩

/-- Whether a call is between the two steps of its admission. -/
def claims (run : ProxyRun Conn Peers) (id : CallId) : Bool :=
  (run.fabric.calls.find? id).any fun call => call.stage.isClaiming

/-- Carry out an event.  A task can be given up where it waits, and a call does not wait
between the two steps of its admission. -/
def occur (proxy : Proxy Conn Peers) (run : ProxyRun Conn Peers) :
    ProxyEvent Peers -> ProxyRun Conn Peers
  | .abort id => if run.claims id then run else run.step proxy (.abort id)
  | event => run.step proxy event

/-- The proxy after some events. -/
def after (proxy : Proxy Conn Peers) (run : ProxyRun Conn Peers)
    (events : List (ProxyEvent Peers)) : ProxyRun Conn Peers :=
  events.foldl (occur proxy) run

/-- What an event is for the circuit of a method. -/
def uses (proxy : Proxy Conn Peers) (method : Method) (run : ProxyRun Conn Peers) :
    ProxyEvent Peers -> List TrafficEvent
  | .step id =>
      let result := proxy.step run.clock id run.fabric
      (run.fabric.placeAt method id).uses id run.clock result.acts
        (result.fabric.placeAt method id)
  | .abort id => if (run.fabric.placeAt method id).holdsSlot then [.drop id] else []
  | .pass span => [.pass span]
  | _ => []

/-- The rejections that a call to a method meets with an event. -/
def told (proxy : Proxy Conn Peers) (method : Method) (run : ProxyRun Conn Peers) :
    ProxyEvent Peers -> List Rejection
  | .step id =>
      if (run.fabric.calls.find? id).any fun call => call.method = method then
        CallAct.rejections (proxy.step run.clock id run.fabric).acts
      else []
  | _ => []

/-- The traffic of the circuit of a method in the course of some events. -/
def trafficOf (proxy : Proxy Conn Peers) (method : Method) (run : ProxyRun Conn Peers) :
    List (ProxyEvent Peers) -> List TrafficEvent
  | [] => []
  | event :: rest =>
      run.uses proxy method event ++ trafficOf proxy method (run.occur proxy event) rest

/-- The rejections that the calls to a method meet in the course of some events. -/
def toldOf (proxy : Proxy Conn Peers) (method : Method) (run : ProxyRun Conn Peers) :
    List (ProxyEvent Peers) -> List Rejection
  | [] => []
  | event :: rest => run.told proxy method event ++ toldOf proxy method (run.occur proxy event) rest

/-- The circuit of a method has the traffic of the calls to it, and the number of the next call
is free. -/
structure Mirrors (proxy : Proxy Conn Peers) (method : Method) (run : ProxyRun Conn Peers)
    (traffic : Traffic) : Prop where
  fresh : ∀ id, run.next ≤ id -> run.fabric.calls.find? id = none
  clock : traffic.clock = run.clock
  fabric : run.fabric.Mirrors proxy.config.circuit method traffic

theorem mirrors_new
    (proxy : Proxy Conn Peers)
    (method : Method)
    (cache : CacheLink)
    (pool : Pool Conn)
    (peers : Peers) :
    (new cache pool peers).Mirrors proxy method (Traffic.start proxy.config.circuit) where
  fresh := fun _ _ => rfl
  clock := rfl
  fabric := ⟨rfl, fun _ => ⟨rfl, rfl⟩⟩

/-- A call that begins takes no part in the traffic. -/
theorem Mirrors.begun
    (mirrors : run.Mirrors proxy method traffic)
    {call : Call}
    (idle : call.stage.isEngaged = false) :
    (run.begun (run.fabric.setCall run.next call)).Mirrors proxy method traffic where
  fresh := by
    intro id later
    have other : id ≠ run.next := Nat.ne_of_gt later
    exact (Assoc.find?_insert_of_ne _ _ other).trans (mirrors.fresh id (Nat.le_of_lt later))
  clock := mirrors.clock
  fabric := mirrors.fabric.come (mirrors.fresh _ (Nat.le_refl _)) idle

theorem Mirrors.beginTyped
    (mirrors : run.Mirrors proxy method traffic)
    (typed : TypedRequest)
    (context : CallContext)
    (cached : Bool) :
    (run.begun (proxy.beginTyped run.next typed context cached run.fabric)).Mirrors proxy method
      traffic := by
  unfold Proxy.beginTyped
  split
  · exact mirrors.begun rfl
  · exact mirrors.begun rfl

/-- A step of a call leaves the number of the next call free. -/
theorem Mirrors.fresh_step
    (mirrors : run.Mirrors proxy method traffic)
    (id : CallId) :
    ∀ other, run.next ≤ other ->
      (proxy.step run.clock id run.fabric).fabric.calls.find? other = none := by
  intro other free
  have absent := mirrors.fresh other free
  by_cases same : other = id
  · subst same
    simp [Proxy.step, absent, Proxy.blocked]
  · exact (proxy.undisturbed_step run.clock run.fabric same).call.trans absent

/-- What a step of a call does with the circuit of a method. -/
theorem deal_step
    (proxy : Proxy Conn Peers)
    (method : Method)
    (run : ProxyRun Conn Peers)
    (id : CallId) :
    Proxy.Deal id run.clock (run.fabric.circuit proxy.config.circuit method)
      (run.fabric.placeAt method id) ((run.step proxy (.step id)).fabric.placeAt method id)
      (run.uses proxy method (.step id)) (run.told proxy method (.step id))
      ((run.step proxy (.step id)).fabric.circuit proxy.config.circuit method) := by
  cases found : run.fabric.calls.find? id with
  | none =>
      have unused : run.uses proxy method (.step id) = [] := by
        simp only [uses, Fabric.placeAt_of_absent found, CallStage.uses]
      have nothing : run.told proxy method (.step id) = [] := by
        simp [told, found]
      rw [step_of_absent found, unused, nothing]
      exact .aside rfl rfl
  | some call =>
      have move : Proxy.Move proxy run.clock id run.fabric call
        (proxy.step run.clock id run.fabric) := Proxy.move_step found
      obtain ⟨later, goesOn⟩ := move.goesOn found
      by_cases same : call.method = method
      · subst same
        have comes : (proxy.step run.clock id run.fabric).fabric.placeAt call.method id = later :=
          Fabric.placeAt_of_find? goesOn.found
        simp only [uses, told, ProxyRun.step, comes, found, Fabric.placeAt_of_find? found,
          Option.any_some, decide_true, if_true]
        exact goesOn.deal
      · have unused : run.uses proxy method (.step id) = [] := by
          simp only [uses, Fabric.placeAt_of_ne found same, CallStage.uses]
        have nothing : run.told proxy method (.step id) = [] := by
          simp [told, found, same]
        simp only [unused, nothing, ProxyRun.step, goesOn.others method (Ne.symm same),
          Fabric.placeAt_of_ne found same, Fabric.placeAt_of_ne goesOn.found same]
        exact .aside rfl rfl

/-- What the end of the task of a call that waits does with the circuit of a method. -/
theorem deal_abort
    (proxy : Proxy Conn Peers)
    (method : Method)
    {run : ProxyRun Conn Peers}
    {id : CallId}
    (waits : run.claims id = false) :
    Proxy.Deal id run.clock (run.fabric.circuit proxy.config.circuit method)
      (run.fabric.placeAt method id) ((run.step proxy (.abort id)).fabric.placeAt method id)
      (run.uses proxy method (.abort id)) []
      ((run.step proxy (.abort id)).fabric.circuit proxy.config.circuit method) := by
  have gone : (run.step proxy (.abort id)).fabric.placeAt method id = .arriving := by
    refine Fabric.placeAt_of_absent ?_ method
    simp only [ProxyRun.step, (abort_eq proxy id run.fabric).2]
    exact Assoc.find?_erase_self _ _
  rw [gone]
  cases found : run.fabric.calls.find? id with
  | none =>
      have unused : run.uses proxy method (.abort id) = [] := by
        simp [uses, Fabric.placeAt_of_absent found, CallStage.holdsSlot]
      simp only [unused, ProxyRun.step, Proxy.abort, found, Fabric.placeAt_of_absent found]
      exact .aside rfl rfl
  | some call =>
      by_cases same : call.method = method
      · subst same
        simp only [claims, found, Option.any_some] at waits
        simp only [uses, ProxyRun.step, Proxy.abort, found, Fabric.placeAt_of_find? found]
        have drops : ∀ (circuit : Circuit) (stage : CallStage) (permit : Permit),
            stage.permit? = some permit ->
              Proxy.Deal id run.clock circuit stage .arriving [.ending id run.clock none] []
                (circuit.endPermit run.clock permit none) :=
          fun _ _ _ held => .ended held rfl (.inl rfl)
        cases stage : call.stage with
        | claiming key since trial => simp [stage, CallStage.isClaiming] at waits
        | connecting key permit limit expiry =>
            simp only [Fabric.circuit_setCircuit]
            exact drops _ _ permit rfl
        | handling key permit limit expiry reply =>
            simp only [Fabric.circuit_setCircuit]
            exact drops _ _ permit rfl
        | _ => exact .aside rfl rfl
      · have unused : run.uses proxy method (.abort id) = [] := by
          simp [uses, Fabric.placeAt_of_ne found same, CallStage.holdsSlot]
        have other := Ne.symm same
        simp only [unused, ProxyRun.step, Proxy.abort, found, Fabric.placeAt_of_ne found same]
        cases call.stage with
        | connecting key permit limit expiry =>
            simp only [Fabric.circuit_setCircuit_of_ne _ _ _ other]
            exact .aside rfl rfl
        | handling key permit limit expiry reply =>
            simp only [Fabric.circuit_setCircuit_of_ne _ _ _ other]
            exact .aside rfl rfl
        | _ => exact .aside rfl rfl

/-- The traffic goes on as a call does. -/
theorem Mirrors.step
    (mirrors : run.Mirrors proxy method traffic)
    (id : CallId) :
    (run.step proxy (.step id)).Mirrors proxy method
      (traffic.resume (run.uses proxy method (.step id))) := by
  obtain ⟨clock, fabric⟩ := mirrors.fabric.follow (mirrors.clock ▸ deal_step proxy method run id)
    fun other different =>
      Fabric.placeAt_congr (proxy.undisturbed_step run.clock run.fabric different).call method
  exact ⟨mirrors.fresh_step id, clock.trans mirrors.clock, fabric⟩

/-- Where a task is given up that waits, the traffic loses its permit if it has one. -/
theorem Mirrors.abort
    (mirrors : run.Mirrors proxy method traffic)
    {id : CallId}
    (waits : run.claims id = false) :
    (run.step proxy (.abort id)).Mirrors proxy method
      (traffic.resume (run.uses proxy method (.abort id))) := by
  have calls : (run.step proxy (.abort id)).fabric.calls = run.fabric.calls.erase id :=
    (abort_eq proxy id run.fabric).2
  obtain ⟨clock, fabric⟩ := mirrors.fabric.follow (mirrors.clock ▸ deal_abort proxy method waits)
    fun other different =>
      Fabric.placeAt_congr (calls ▸ Assoc.find?_erase_of_ne _ different) method
  refine ⟨fun other free => ?_, clock.trans mirrors.clock, fabric⟩
  rw [calls]
  by_cases same : other = id
  · exact same ▸ Assoc.find?_erase_self _ _
  · exact (Assoc.find?_erase_of_ne _ same).trans (mirrors.fresh other free)

/-- So does every event. -/
theorem Mirrors.occur
    (mirrors : run.Mirrors proxy method traffic)
    (event : ProxyEvent Peers) :
    (run.occur proxy event).Mirrors proxy method
      (traffic.resume (run.uses proxy method event)) := by
  cases event with
  | call typed context cached => exact mirrors.beginTyped typed context cached
  | detach typed context => exact mirrors.beginTyped typed _ true
  | raw method context payload => exact mirrors.begun rfl
  | step id => exact mirrors.step id
  | abort id =>
      cases claiming : run.claims id with
      | true =>
          have unused : run.uses proxy method (.abort id) = [] := by
            cases found : run.fabric.calls.find? id with
            | none => simp [claims, found] at claiming
            | some call =>
                simp only [claims, found, Option.any_some] at claiming
                have free := CallStage.holdsSlot_of_isClaiming claiming
                simp only [uses, Fabric.placeAt, found]
                split <;> simp_all [CallStage.holdsSlot]
          simp only [ProxyRun.occur, claiming, if_true, unused]
          exact mirrors
      | false =>
          simp only [ProxyRun.occur, claiming, Bool.false_eq_true, if_false]
          exact mirrors.abort claiming
  | fire token => exact ⟨mirrors.fresh, mirrors.clock, mirrors.fabric.congr rfl rfl⟩
  | pass span =>
      exact ⟨mirrors.fresh, congrArg (· + span) mirrors.clock,
        ⟨mirrors.fabric.circuit, fun id => ⟨(mirrors.fabric.places id).attempt,
          (mirrors.fabric.places id).permit⟩⟩⟩
  | change peers => exact ⟨mirrors.fresh, mirrors.clock, mirrors.fabric.congr rfl rfl⟩
  | closePool => exact ⟨mirrors.fresh, mirrors.clock, mirrors.fabric.congr rfl rfl⟩

theorem Mirrors.after
    (mirrors : run.Mirrors proxy method traffic)
    (events : List (ProxyEvent Peers)) :
    (run.after proxy events).Mirrors proxy method
      (traffic.resume (run.trafficOf proxy method events)) := by
  induction events generalizing run traffic with
  | nil => exact mirrors
  | cons event rest inductionHypothesis =>
      have later := inductionHypothesis (mirrors.occur event)
      rw [trafficOf, Traffic.resume, List.foldl_append]
      exact later

/-- The traffic answers what the calls are told. -/
theorem Mirrors.refusals
    (mirrors : run.Mirrors proxy method traffic)
    (event : ProxyEvent Peers) :
    traffic.refusals (run.uses proxy method event) = run.told proxy method event := by
  cases event with
  | step id =>
      have deal := deal_step proxy method run id
      rw [← mirrors.clock, ← mirrors.fabric.circuit] at deal
      exact (deal.resume (mirrors.fabric.places id)).2.2.2
  | abort id =>
      simp only [uses]
      split <;> rfl
  | _ => rfl

theorem Mirrors.refusals_trafficOf
    (mirrors : run.Mirrors proxy method traffic)
    (events : List (ProxyEvent Peers)) :
    traffic.refusals (run.trafficOf proxy method events) = run.toldOf proxy method events := by
  induction events generalizing run traffic with
  | nil => rfl
  | cons event rest inductionHypothesis =>
      rw [trafficOf, toldOf, Traffic.refusals_append, mirrors.refusals event,
        inductionHypothesis (mirrors.occur event)]

/-- In every run the circuit of a method is the one that the traffic of the calls leaves, and
each call is where the traffic has it. -/
theorem mirrors_after
    (proxy : Proxy Conn Peers)
    (method : Method)
    (cache : CacheLink)
    (pool : Pool Conn)
    (peers : Peers)
    (events : List (ProxyEvent Peers)) :
    ((new cache pool peers).after proxy events).Mirrors proxy method
      (Traffic.run proxy.config.circuit
        ((new cache pool peers).trafficOf proxy method events)) :=
  (mirrors_new proxy method cache pool peers).after events

end ProxyRun
end MallFabric
