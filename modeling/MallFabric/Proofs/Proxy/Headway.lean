import MallFabric.Proofs.Proxy.Begun

/-!
# The headway of a call

A call makes only few steps before it has to wait, and each of them brings it nearer
to its end.  It waits only in its attempt: for a dial or a reply, and never beyond the
expiry of the attempt.
-/

namespace MallFabric

variable {Conn Peers : Type}

namespace CallStage

/-- The stages before the attempt of a call. -/
def IsEarly : CallStage -> Prop
  | .arriving => True
  | .lookingUp _ => True
  | .admitting _ => True
  | .claiming _ _ _ => True
  | _ => False

/-- The stages after the attempt of a call. -/
def IsPast : CallStage -> Prop
  | .storing _ _ => True
  | .finished _ => True
  | .crashed => True
  | _ => False

theorem isPast_of_isOver
    {stage : CallStage}
    (ended : stage.IsOver) :
    stage.IsPast := by
  cases stage with
  | finished result => trivial
  | crashed => trivial
  | _ => exact ended.elim

theorem not_isOver_of_bounds?
    {stage : CallStage}
    {bounds : Duration × Instant}
    (attempting : stage.bounds? = some bounds) :
    ¬ stage.IsOver := by
  cases stage with
  | finished result => cases attempting
  | crashed => cases attempting
  | _ => exact id

end CallStage

/-! ## Own steps -/

/-- How many steps a caller in a phase makes at most before it has its result. -/
def CallerPhase.stepsLeft : CallerPhase Conn -> Nat
  | .arriving => 5
  | .admitted => 4
  | .unlisted => 3
  | .joining _ => 2
  | .waiting _ => 2
  | .dialling _ => 1
  | .finished _ => 0

namespace Pool

variable {pool later : Pool Conn} {id : CallerId}

/-- How many steps a caller of a pool makes at most before it has its result. -/
def stepsLeft (pool : Pool Conn) (id : CallerId) : Nat :=
  ((pool.callers.find? id).map fun caller => caller.phase.stepsLeft).getD 0

theorem stepsLeft_of_find?
    {caller : Caller Conn}
    (found : pool.callers.find? id = some caller) :
    pool.stepsLeft id = caller.phase.stepsLeft := by
  rw [stepsLeft, found]
  rfl

@[simp] theorem stepsLeft_setPhase
    (pool : Pool Conn)
    (id : CallerId)
    (name : String)
    (phase : CallerPhase Conn) :
    (pool.setPhase id name phase).stepsLeft id = phase.stepsLeft :=
  stepsLeft_of_find? (pool.find?_setPhase_self id name phase)

/-- A caller that does not wait comes nearer to its result. -/
theorem Move.stepsLeft_lt
    {progress : Progress}
    (move : Move pool id later progress)
    (goesOn : progress ≠ .blocked) :
    later.stepsLeft id < pool.stepsLeft id := by
  cases move with
  | stay => exact absurd rfl goesOn
  | queue found vacant held => exact absurd rfl goesOn
  | @find name phase cellId found looking listed =>
      rw [stepsLeft_setPhase, stepsLeft_of_find? found]
      rcases looking with rfl | rfl
      · simp [CallerPhase.stepsLeft]
      · simp [CallerPhase.stepsLeft]
  | @take name phase cellId conn found present full =>
      rw [stepsLeft_setPhase, stepsLeft_of_find? found]
      rcases present with rfl | rfl
      · simp [CallerPhase.stepsLeft]
      · simp [CallerPhase.stepsLeft]
  | reject found isClosed => simp [stepsLeft_of_find? found, CallerPhase.stepsLeft]
  | enter found isOpen => simp [stepsLeft_of_find? found, CallerPhase.stepsLeft]
  | unknown found missing unreachable => simp [stepsLeft_of_find? found, CallerPhase.stepsLeft]
  | miss found missing reachable => simp [stepsLeft_of_find? found, CallerPhase.stepsLeft]
  | list found missing => simp [stepsLeft_of_find? found, CallerPhase.stepsLeft]
  | begin found vacant free => simp [stepsLeft_of_find? found, CallerPhase.stepsLeft]
  | resume found vacant own => simp [stepsLeft_of_find? found, CallerPhase.stepsLeft]

/-- The end of a dial takes no caller farther from its result. -/
theorem stepsLeft_finishDial_le
    (pool : Pool Conn)
    (id : CallerId)
    (result : Except Fault Conn) :
    (pool.finishDial id result).1.stepsLeft id ≤ pool.stepsLeft id := by
  have ends := pool.dialEnd_finishDial id result
  generalize pool.finishDial id result = after at ends ⊢
  obtain ⟨after, woken⟩ := after
  cases ends with
  | stay idle => exact Nat.le_refl _
  | succeed found => exact Nat.le_trans (Nat.le_of_eq (stepsLeft_setPhase _ _ _ _)) (Nat.zero_le _)
  | fail found => exact Nat.le_trans (Nat.le_of_eq (stepsLeft_setPhase _ _ _ _)) (Nat.zero_le _)

end Pool

namespace Fabric

/-- A call that is there has no result as long as it is not over. -/
theorem result?_eq_none_iff
    {fabric : Fabric Conn Peers}
    {id : CallId}
    {call : Call}
    (found : fabric.calls.find? id = some call) :
    fabric.result? id = none ↔ ¬ call.stage.IsOver := by
  rw [result?_eq, found, Option.bind_some]
  cases call.stage with
  | finished result => simp [CallStage.end?, CallStage.IsOver]
  | crashed => simp [CallStage.end?, CallStage.IsOver]
  | _ => simp [CallStage.end?, CallStage.IsOver]

/-- How many steps a call makes at most before it is over; a step that only waits does
not count.  A caller that begins to dial has a step more to make, the end of the dial. -/
def stepsLeft (fabric : Fabric Conn Peers) (id : CallId) : CallStage -> Nat
  | .arriving => 18
  | .lookingUp _ => 17
  | .admitting _ => 16
  | .claiming _ _ _ => 15
  | .connecting _ _ _ _ =>
      2 * fabric.pool.stepsLeft id + (if (fabric.dials.find? id).isSome then 1 else 0) + 3
  | .handling _ _ _ _ _ => 2
  | .storing _ _ => 1
  | .finished _ => 0
  | .crashed => 0

theorem stepsLeft_le_of_isPast
    {stage : CallStage}
    (past : stage.IsPast)
    (fabric : Fabric Conn Peers)
    (id : CallId) :
    fabric.stepsLeft id stage ≤ 1 := by
  cases stage with
  | storing key answer => exact Nat.le_refl 1
  | finished result => exact Nat.zero_le 1
  | crashed => exact Nat.zero_le 1
  | _ => exact past.elim

/-- The instants that a call waits for, when it has to wait. -/
def alarms (fabric : Fabric Conn Peers) (id : CallId) : CallStage -> List Instant
  | .connecting _ _ _ expiry => ((fabric.dials.find? id).map Timed.due).toList ++ [expiry]
  | .handling _ _ _ expiry reply => [reply.due, expiry]
  | _ => []

/-- The expiry of an attempt is among the instants that the call waits for. -/
theorem mem_alarms
    {stage : CallStage}
    {limit : Duration}
    {expiry : Instant}
    (bounds : stage.bounds? = some (limit, expiry))
    (fabric : Fabric Conn Peers)
    (id : CallId) :
    expiry ∈ fabric.alarms id stage := by
  cases stage with
  | connecting key permit span due =>
      cases bounds
      simp [alarms]
  | handling key permit span due reply =>
      cases bounds
      simp [alarms]
  | _ => cases bounds

end Fabric

namespace Proxy

variable {proxy : Proxy Conn Peers} {now : Instant} {id : CallId} {fabric : Fabric Conn Peers}
variable {call later : Call} {result : StepResult Conn Peers}

/-- An attempt that has ended is past. -/
theorem isPast_settle
    (proxy : Proxy Conn Peers)
    (method : Method)
    (key : Option String)
    (limit : Duration)
    (ending : Reply Bytes) :
    (proxy.settle method key limit ending).stage.IsPast := by
  cases ending with
  | answer answer => cases key with | _ => trivial
  | crash => trivial
  | fault fault =>
      obtain ⟨outcome, finished⟩ := isOver_settle_fault proxy method key limit fault
      rw [finished]
      trivial

/-- Only an attempt waits: for its dial or its reply, and for its expiry. -/
theorem Move.waits
    (move : Move proxy now id fabric call result)
    (underWay : ¬ call.stage.IsOver)
    {instants : List Instant}
    (waits : result.waits = some instants) :
    instants = fabric.alarms id call.stage ∧ (∃ bounds, call.stage.bounds? = some bounds) ∧
      ∀ instant ∈ instants, now < instant := by
  cases move with
  | dialAwaited stage live dials early =>
      obtain rfl := Option.some.inj waits
      rw [stage]
      refine ⟨?_, ⟨_, rfl⟩, ?_⟩
      · simp [Fabric.alarms, dials]
      · simpa using early
  | turnAwaited stage live noDial noResult blocked early =>
      obtain rfl := Option.some.inj waits
      rw [stage]
      refine ⟨?_, ⟨_, rfl⟩, ?_⟩
      · simp [Fabric.alarms, noDial]
      · simpa using early
  | replyAwaited stage live early =>
      obtain rfl := Option.some.inj waits
      rw [stage]
      exact ⟨rfl, ⟨_, rfl⟩, by simpa using early⟩
  | ended stage =>
      rcases stage with ⟨result, stage⟩ | stage
      · exact absurd (stage ▸ trivial) underWay
      · exact absurd (stage ▸ trivial) underWay
  | _ => cases waits

/-- A step of a call that need not wait brings the call nearer to its end. -/
theorem Move.stepsLeft_lt
    (move : Move proxy now id fabric call result)
    (found : fabric.calls.find? id = some call)
    (after : result.fabric.calls.find? id = some later)
    (goesOn : result.waits = none) :
    result.fabric.stepsLeft id later.stage < fabric.stepsLeft id call.stage := by
  have stays : fabric.calls.find? id = some later -> later.stage = call.stage :=
    fun same => congrArg Call.stage (Option.some.inj (same.symm.trans found))
  have goesTo : ∀ {between : Fabric Conn Peers} {stage : CallStage} {count : Nat},
      (between.setCall id { call with stage }).calls.find? id = some later ->
        between.stepsLeft id stage < count ->
          (between.setCall id { call with stage }).stepsLeft id later.stage < count := by
    intro between stage count goes fewer
    rw [← Fabric.stage_of_setCall goes]
    exact fewer
  have settles : ∀ (between : Fabric Conn Peers) {count : Nat} (key limit ending),
      1 < count -> between.stepsLeft id (proxy.settle call.method key limit ending).stage < count :=
    fun between count key limit ending =>
      have past := proxy.isPast_settle call.method key limit ending
      Nat.lt_of_le_of_lt (Fabric.stepsLeft_le_of_isPast past between id)
  cases move with
  | dialAwaited stage live dials early => cases goesOn
  | turnAwaited stage live noDial noResult blocked early => cases goesOn
  | replyAwaited stage live early => cases goesOn
  | ended stage => cases goesOn
  | @dialEnded key permit limit expiry dial stage live dials due =>
      rw [stays after, stage]
      have nearer := fabric.pool.stepsLeft_finishDial_le id dial.result
      have gone := fabric.dials.find?_erase_self id
      simp only [Fabric.stepsLeft, dials, gone, Option.isSome_some, Option.isSome_none, if_true]
      lia
  | joined stage live noDial noResult progress =>
      have nearer := (fabric.pool.move_step id).stepsLeft_lt (by simp [progress])
      rw [stays after, stage]
      simp only [Fabric.stepsLeft]
      lia
  | @dialled key permit limit expiry name dial peers stage live noDial noResult progress dials =>
      have nearer := (fabric.pool.move_step id).stepsLeft_lt (by simp [progress])
      rw [stays after, stage]
      have there := fabric.dials.find?_insert_self id dial
      simp only [Fabric.stepsLeft, noDial, there, Option.isSome_some, Option.isSome_none, if_true]
      lia
  | unconnected stage cause =>
      rw [stage]
      exact goesTo after (settles _ _ _ _ (Nat.lt_add_left _ (by decide)))
  | carriedOut stage live noDial result inTime invocation =>
      rw [stage]
      exact goesTo after (Nat.lt_add_left _ (Nat.lt_succ_self 2))
  | concluded stage ended =>
      rw [stage]
      exact goesTo after (settles _ _ _ _ (Nat.lt_succ_self 1))
  | admitted stage taken =>
      rw [stage]
      refine goesTo after ?_
      simp [Fabric.stepsLeft, Pool.arrive, CallerPhase.stepsLeft]
      split <;> decide
  | _ =>
      rw [‹call.stage = _›]
      exact goesTo after (by simp [Fabric.stepsLeft])

end Proxy

end MallFabric
