import MallFabric.Proofs.Circuit.Sleep
import MallFabric.Proofs.Proxy.Uses
import MallFabric.Services

/-!
# Calls give back what they take

A call takes a slot of the circuit of its method, and perhaps its trial, and
gives both back however it ends: answered, failed, degraded, cancelled, out of
time, broken down, or with its task given up.  So in every run a circuit with
which no call is engaged has all its slots and no trial, and admits whom its
state lets pass.
-/

namespace MallFabric

variable {Conn Peers : Type}

namespace Fabric

variable {config : CircuitConfig} {fabric : Fabric Conn Peers} {method : Method}
variable {traffic : Traffic}

/-- The number of calls to a method whose stage has a property. -/
def countAt (fabric : Fabric Conn Peers) (method : Method) (property : CallStage -> Bool) : Nat :=
  fabric.calls.countP fun entry => decide (entry.2.method = method) && property entry.2.stage

/-- No call to a method is engaged with its circuit. -/
def IsQuiet (fabric : Fabric Conn Peers) (method : Method) : Prop :=
  ∀ entry ∈ fabric.calls, entry.2.method = method -> entry.2.stage.isEngaged = false

instance (fabric : Fabric Conn Peers) (method : Method) : Decidable (fabric.IsQuiet method) :=
  inferInstanceAs (Decidable (∀ entry ∈ fabric.calls, _))

theorem IsQuiet.isEngaged_placeAt
    (quiet : fabric.IsQuiet method)
    (id : CallId) :
    (fabric.placeAt method id).isEngaged = false := by
  cases found : fabric.calls.find? id with
  | none => rw [placeAt_of_absent found]; rfl
  | some call =>
      by_cases same : call.method = method
      · subst same
        rw [placeAt_of_find? found]
        exact quiet _ (Assoc.mem_of_find? found) rfl
      · rw [placeAt_of_ne found same]
        rfl

/-- Where no call is engaged, the circuit has no callers. -/
theorem Mirrors.balanced_of_isQuiet
    (mirrors : Mirrors config method fabric traffic)
    (sound : traffic.Sound config)
    (quiet : fabric.IsQuiet method) :
    (fabric.circuit config method).Balanced config 0 0 := by
  have attempts : traffic.attempts = [] := Assoc.eq_nil_of_find? fun id =>
    (mirrors.places id).attempt.trans (CallStage.attempt?_eq_none (quiet.isEngaged_placeAt id))
  have permits : traffic.permits = [] := Assoc.eq_nil_of_find? fun id =>
    (mirrors.places id).permit.trans (CallStage.permit?_eq_none (quiet.isEngaged_placeAt id))
  have balanced := sound.balanced
  simp only [Traffic.trials, attempts, permits] at balanced
  exact mirrors.circuit ▸ balanced

end Fabric

namespace ProxyRun

variable {proxy : Proxy Conn Peers} {run : ProxyRun Conn Peers}

/-! ## Admission where nobody is engaged -/

/-- The circuit of a method does not turn everybody away: if it is open, its sleep window
has passed. -/
def IsAwake (proxy : Proxy Conn Peers) (run : ProxyRun Conn Peers) (method : Method) : Prop :=
  (run.fabric.circuit proxy.config.circuit method).state = .opened ->
    ∃ since, (run.fabric.circuit proxy.config.circuit method).openedAt = some since ∧
      since + proxy.config.circuit.sleepWindow ≤ run.clock

/-- What can be relied on of a method where no call is engaged with its circuit. -/
structure Unwedged (proxy : Proxy Conn Peers) (run : ProxyRun Conn Peers) (method : Method) :
    Prop where
  /-- All slots are free. -/
  slots : (run.fabric.circuit proxy.config.circuit method).freeSlots =
    max 1 proxy.config.circuit.maxConcurrent
  /-- No trial is in flight. -/
  noTrial : (run.fabric.circuit proxy.config.circuit method).trialInFlight = false
  /-- A call that asks for admission gets it, unless the circuit is open and its sleep
  window has not passed. -/
  admits : run.IsAwake proxy method -> ∀ id call key,
    run.fabric.calls.find? id = some call -> call.method = method ->
      call.stage = .admitting key ->
        ∃ permit limit expiry,
          ((run.occur proxy (.step id)).occur proxy (.step id)).fabric.calls.find? id =
            some { call with stage := .connecting key permit limit expiry }

/-- Where no call is engaged, the state of the circuit lets everybody pass. -/
theorem exists_decide
    {method : Method}
    (balanced : (run.fabric.circuit proxy.config.circuit method).Balanced
      proxy.config.circuit 0 0)
    (awake : run.IsAwake proxy method) :
    ∃ trial decided,
      (run.fabric.circuit proxy.config.circuit method).decide run.clock = (.ok trial, decided) := by
  have idle := Bool.toNat_eq_zero.mp balanced.trials_eq.symm
  cases state : (run.fabric.circuit proxy.config.circuit method).state with
  | closed =>
      refine ⟨false, run.fabric.circuit proxy.config.circuit method, ?_⟩
      simp only [Circuit.decide, state]
  | opened =>
      obtain ⟨since, openedAt, passed⟩ := awake state
      rw [← balanced.config_eq] at passed
      exact ⟨_, _, Circuit.decide_awake state openedAt passed⟩
  | halfOpen => exact ⟨_, _, Circuit.decide_halfOpen state idle⟩

/-- Where no call is engaged, two steps admit a call that asks for admission. -/
theorem admitted_of_balanced
    {id : CallId}
    {call : Call}
    {key : Option String}
    (balanced : (run.fabric.circuit proxy.config.circuit call.method).Balanced
      proxy.config.circuit 0 0)
    (awake : run.IsAwake proxy call.method)
    (found : run.fabric.calls.find? id = some call)
    (stage : call.stage = .admitting key) :
    ∃ permit limit expiry,
      ((run.occur proxy (.step id)).occur proxy (.step id)).fabric.calls.find? id =
        some { call with stage := .connecting key permit limit expiry } := by
  obtain ⟨trial, decided, decision⟩ := exists_decide balanced awake
  have slots := (balanced.decide decision).slots
  have some_free : 0 < decided.freeSlots := by
    have positive : 1 ≤ proxy.config.circuit.slots := Nat.le_max_left _ _
    omega
  obtain ⟨left, free⟩ := Nat.exists_eq_add_one_of_ne_zero (Nat.ne_of_gt some_free)
  have taken := (Circuit.takeSlot_eq_some_iff decided _).mpr ⟨left, free, rfl⟩
  -- The first step lets the call pass, the second one takes a slot.
  have claims : (run.occur proxy (.step id)).fabric =
      (run.fabric.setCircuit call.method decided).setCall id
        { call with stage := .claiming key run.clock trial } := by
    simp only [occur, ProxyRun.step, Proxy.step, found, stage, decision]
    rfl
  have current : (run.occur proxy (.step id)).fabric.circuit proxy.config.circuit call.method =
      decided := by
    rw [claims]
    exact Fabric.circuit_setCircuit _ _ _ _
  have waiting : (run.occur proxy (.step id)).fabric.calls.find? id =
      some { call with stage := .claiming key run.clock trial } := by
    rw [claims]
    exact Assoc.find?_insert_self _ _ _
  generalize run.occur proxy (.step id) = claiming at current waiting
  simp only [occur, ProxyRun.step, Proxy.step, waiting, current, taken]
  exact ⟨_, _, _, Assoc.find?_insert_self _ _ _⟩

/-- In every run, where no call to a method is engaged with its circuit, the circuit has
all its slots and no trial, and admits who asks. -/
theorem unwedged_of_isQuiet
    (proxy : Proxy Conn Peers)
    (cache : CacheLink)
    (pool : Pool Conn)
    (peers : Peers)
    (events : List (ProxyEvent Peers))
    (method : Method)
    (quiet : ((new cache pool peers).after proxy events).fabric.IsQuiet method) :
    ((new cache pool peers).after proxy events).Unwedged proxy method := by
  have mirrors := mirrors_after proxy method cache pool peers events
  have balanced := mirrors.fabric.balanced_of_isQuiet (.run _ _) quiet
  refine ⟨balanced.slots, Bool.toNat_eq_zero.mp balanced.trials_eq.symm, ?_⟩
  rintro awake id call key found rfl stage
  exact admitted_of_balanced balanced awake found stage

/-! ## A trial that is given up -/

/-- One call at a time to services that take no connection, and a circuit that opens at
the first failure. -/
def unreachable : Proxy Unit Unit where
  config := ⟨{ CircuitConfig.standard with maxConcurrent := 1, requestVolumeThreshold := 1 },
    Duration.ofSeconds 1, .all⟩
  table := ServiceMethod.table fun now _ peers => (⟨now, .ok []⟩, peers)
  dialler := ⟨none, fun now endpoint peers =>
    (⟨now + Duration.ofMillis 10, .error (.connection endpoint.name "refused")⟩, peers)⟩
  fallback := .failFast

def getCart : Method := ⟨"cart", "GetCart"⟩

/-- A call fails and opens the circuit, the trial after the sleep window is given up while
it dials, and a third call comes to ask for admission. -/
def trialGivenUp : List (ProxyEvent Unit) :=
  .raw getCart .fresh [] :: List.replicate 8 (.step 0) ++
    .pass (Duration.ofMillis 10) :: List.replicate 2 (.step 0) ++
    .pass (Duration.ofSeconds 5) :: .raw getCart .fresh [] :: List.replicate 6 (.step 1) ++
    [.abort 1, .raw getCart .fresh [], .step 2]

def cartUnreached : ProxyRun Unit Unit := new .off (Pool.new [⟨"cart", "c"⟩] false) ()

/-- The circuit is left half open, and the third call finds its slot and its trial. -/
theorem unwedged_of_isQuiet_trialGivenUp :
    (cartUnreached.after unreachable trialGivenUp).fabric.IsQuiet getCart ∧
      (cartUnreached.after unreachable trialGivenUp).Unwedged unreachable getCart ∧
      ((cartUnreached.after unreachable trialGivenUp).fabric.circuit
        unreachable.config.circuit getCart).state = .halfOpen ∧
      (cartUnreached.after unreachable trialGivenUp).fabric.countAt getCart
        (fun stage => stage matches .admitting _) = 1 := by
  have quiet : (cartUnreached.after unreachable trialGivenUp).fabric.IsQuiet getCart := by
    decide +kernel
  refine ⟨quiet, ?_, by decide +kernel, by decide +kernel⟩
  exact unwedged_of_isQuiet unreachable .off _ () trialGivenUp getCart quiet

end ProxyRun
end MallFabric
