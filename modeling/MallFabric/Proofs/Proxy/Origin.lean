import MallFabric.Proofs.Proxy.Awaiting

/-!
# Where results come from

The main statement is about one call in any run of a proxy: what it comes to was
held by the cache when it looked there, was given by the handler of its method
when it was carried out, was told by the pool when it asked for the connection,
or stands in the place of such an answer.
-/

namespace MallFabric

variable {Conn Peers : Type}

/-- A call that has a result has finished with it. -/
theorem Fabric.finished_of_result?
    {fabric : Fabric Conn Peers}
    {id : CallId}
    {result : Except Fault Bytes}
    (ended : fabric.result? id = some (some result)) :
    ∃ call, fabric.calls.find? id = some call ∧ call.stage = .finished result := by
  unfold result? at ended
  split at ended
  · next call found =>
      split at ended
      · next final stage =>
          cases ended
          exact ⟨call, found, stage⟩
      · cases ended
      · cases ended
  · cases ended

namespace Proxy

variable {proxy : Proxy Conn Peers} {id : CallId}

/-! ## How a call comes to its result -/

/-- What the handler of a call's method made of its request, over the connection that the
call had got, when the call was carried out. -/
inductive Handled (proxy : Proxy Conn Peers)
    (happens : ProxyRun Conn Peers -> ProxyEvent Peers -> Prop) (id : CallId) (call : Call) :
    Timed (Reply Bytes) -> Prop where
  | invoked {moment conn}
      (happened : happens moment (.step id))
      (connected : moment.fabric.pool.result? id = some (.ok conn)) :
      Handled proxy happens id call
        (proxy.table.invokeRaw conn call.method call.context moment.clock call.payload
          moment.fabric.peers).1

/-- Where the result of a call comes from. -/
inductive Origin (proxy : Proxy Conn Peers)
    (happens : ProxyRun Conn Peers -> ProxyEvent Peers -> Prop) (id : CallId) (call : Call) :
    Except Fault Bytes -> Prop where
  | unregistered
      (missing : proxy.table.contains call.method = false) :
      Origin proxy happens id call (.error (.methodNotFound call.method))
  | cancelled : Origin proxy happens id call (.error .cancelled)
  | timedOut : Origin proxy happens id call (.error .timeout)
  | served {moment answer}
      (happened : happens moment (.step id))
      (cached : call.useCache = true)
      (found : (moment.fabric.cache.get moment.clock
        (call.method.cacheKey call.payload)).1 = some answer) :
      Origin proxy happens id call (.ok answer)
  | answered {reply answer}
      (handled : Handled proxy happens id call reply)
      (result : reply.result = .answer answer) :
      Origin proxy happens id call (.ok answer)
  | failed {reply fault}
      (handled : Handled proxy happens id call reply)
      (result : reply.result = .fault fault) :
      Origin proxy happens id call (.error fault)
  | unreached {moment fault}
      (happened : happens moment (.step id))
      (told : moment.fabric.pool.result? id = some (.error fault))
      (reason : Unreached proxy happens id call.method.service fault) :
      Origin proxy happens id call (.error fault)
  | degraded {result} (cause : Fault)
      (replaced : proxy.degrade call.method cause = result) :
      Origin proxy happens id call result

/-- The stages that a call can come to. -/
inductive Comes (proxy : Proxy Conn Peers)
    (happens : ProxyRun Conn Peers -> ProxyEvent Peers -> Prop) (id : CallId) (call : Call) :
    CallStage -> Prop where
  | arriving : Comes proxy happens id call .arriving
  | lookingUp
      (cached : call.useCache = true) :
      Comes proxy happens id call (.lookingUp (call.method.cacheKey call.payload))
  | underWay {stage}
      (before : stage.IsUnderWay) :
      Comes proxy happens id call stage
  | handling {key permit limit expiry reply}
      (handled : Handled proxy happens id call reply) :
      Comes proxy happens id call (.handling key permit limit expiry reply)
  | storing {key answer}
      (origin : Origin proxy happens id call (.ok answer)) :
      Comes proxy happens id call (.storing key answer)
  | finished {result}
      (origin : Origin proxy happens id call result) :
      Comes proxy happens id call (.finished result)
  | crashed : Comes proxy happens id call .crashed

variable {happens : ProxyRun Conn Peers -> ProxyEvent Peers -> Prop}
variable {run : ProxyRun Conn Peers} {call : Call} {stage : CallStage}

theorem Comes.origin
    {result : Except Fault Bytes}
    (comes : Comes proxy happens id call (.finished result)) :
    Origin proxy happens id call result := by
  cases comes with
  | underWay before => exact before.elim
  | finished origin => exact origin

/-- A fault that surfaces is the one that was judged. -/
theorem eq_of_judge
    {callerBound : Bool}
    {fault surfaced : Fault}
    (judged : judge callerBound fault = .surfaces surfaced) :
    surfaced = fault := by
  grind [judge]

/-- The result of an attempt that fails comes from its fault. -/
theorem comes_settle_fault
    {fault : Fault}
    (origin : Origin proxy happens id call (.error fault))
    (key : Option String)
    (limit : Duration) :
    Comes proxy happens id call (proxy.settle call.method key limit (.fault fault)).stage := by
  cases judged : judge (limit < proxy.config.circuit.timeout) fault with
  | surfaces surfaced =>
      rw [settle_surfaces judged, eq_of_judge judged]
      exact .finished origin
  | degrades outcome cause =>
      rw [settle_degrades judged]
      exact .finished (.degraded cause rfl)

/-- The result of an attempt comes from what the handler gave, or from a cancellation or
the end of its time. -/
theorem comes_settle
    {now : Instant}
    {fabric : Fabric Conn Peers}
    {expiry : Instant}
    {reply : Timed (Reply Bytes)}
    {ending : Reply Bytes}
    (handled : Handled proxy happens id call reply)
    (ended : Ended now fabric { call with stage } expiry reply ending)
    (key : Option String)
    (limit : Duration) :
    Comes proxy happens id call (proxy.settle call.method key limit ending).stage := by
  cases ended with
  | cancelled given => exact comes_settle_fault .cancelled key limit
  | timedOut live early expired => exact comes_settle_fault .timedOut key limit
  | replied live due =>
      cases result : reply.result with
      | crash => exact .crashed
      | fault fault => exact comes_settle_fault (.failed handled result) key limit
      | answer answer =>
          cases key with
          | none => exact .finished (.answered handled result)
          | some key => exact .storing (.answered handled result)

/-- An attempt without a connection fails by a cancellation, by the end of its time or by
what the pool told. -/
theorem origin_of_unconnected
    (happened : happens run (.step id))
    (awaited : Awaited proxy happens id call.method.service run.fabric)
    {expiry : Instant}
    {pool : Pool Conn}
    {fault : Fault}
    (cause : Unconnected proxy run.clock id run.fabric { call with stage } expiry pool fault) :
    Origin proxy happens id call (.error fault) := by
  cases cause with
  | cancelled given => exact .cancelled
  | refused live noDial told => exact .unreached happened told (awaited.told fault told)
  | dialling live dials early expired => exact .timedOut
  | departing live noDial result expired departs => exact .timedOut
  | waiting live noDial noResult waits expired => exact .timedOut

/-- A step of a call takes it to a stage that it can come to. -/
theorem Move.comes
    {result : StepResult Conn Peers}
    (move : Move proxy run.clock id run.fabric { call with stage } result)
    (happened : happens run (.step id))
    (awaited : Awaited proxy happens id call.method.service run.fabric)
    (found : run.fabric.calls.find? id = some { call with stage })
    (comes : Comes proxy happens id call stage) :
    ∃ later, result.fabric.calls.find? id = some { call with stage := later } ∧
      Comes proxy happens id call later := by
  have goesTo : ∀ (between : Fabric Conn Peers) (later : CallStage),
      (between.setCall id { call with stage := later }).calls.find? id =
        some { call with stage := later } :=
    fun between later => Assoc.find?_insert_self _ _ _
  cases move with
  | unregistered before missing => exact ⟨_, goesTo _ _, .finished (.unregistered missing)⟩
  | givenUp before registered given => exact ⟨_, goesTo _ _, .finished .cancelled⟩
  | lookUp before registered live cached => exact ⟨_, goesTo _ _, .lookingUp cached⟩
  | pass before registered live uncached => exact ⟨_, goesTo _ _, .underWay trivial⟩
  | @hit key answer before answers =>
      obtain rfl : stage = .lookingUp key := before
      cases comes with
      | underWay before => exact before.elim
      | lookingUp cached => exact ⟨_, goesTo _ _, .finished (.served happened cached answers)⟩
  | miss before missing => exact ⟨_, goesTo _ _, .underWay trivial⟩
  | decided before decision => exact ⟨_, goesTo _ _, .underWay trivial⟩
  | refused before decision => exact ⟨_, goesTo _ _, .finished (.degraded _ rfl)⟩
  | admitted before taken => exact ⟨_, goesTo _ _, .underWay trivial⟩
  | saturated before full => exact ⟨_, goesTo _ _, .finished (.degraded _ rfl)⟩
  | unconnected before cause =>
      exact ⟨_, goesTo _ _, comes_settle_fault (origin_of_unconnected happened awaited cause) _ _⟩
  | carriedOut before live noDial connected inTime invocation =>
      refine ⟨_, goesTo _ _, .handling ?_⟩
      have handled : Handled proxy happens id call _ := .invoked happened connected
      rw [invocation] at handled
      exact handled
  | @concluded key permit limit expiry reply ending before ended =>
      obtain rfl : stage = .handling key permit limit expiry reply := before
      cases comes with
      | underWay before => exact before.elim
      | handling handled => exact ⟨_, goesTo _ _, comes_settle handled ended key limit⟩
  | @stored key answer before =>
      obtain rfl : stage = .storing key answer := before
      cases comes with
      | underWay before => exact before.elim
      | storing origin => exact ⟨_, goesTo _ _, .finished origin⟩
  | dialEnded before live dials due => exact ⟨stage, found, comes⟩
  | joined before live noDial noResult progress => exact ⟨stage, found, comes⟩
  | dialled before live noDial noResult progress dials => exact ⟨stage, found, comes⟩
  | dialAwaited before live dials early => exact ⟨stage, found, comes⟩
  | turnAwaited before live noDial noResult waits early => exact ⟨stage, found, comes⟩
  | replyAwaited before live early => exact ⟨stage, found, comes⟩
  | ended before => exact ⟨stage, found, comes⟩

end Proxy

namespace ProxyRun

variable {proxy : Proxy Conn Peers} {run : ProxyRun Conn Peers}
variable {happens : ProxyRun Conn Peers -> ProxyEvent Peers -> Prop} {id : CallId}

/-! ## Numbers that have not been given out -/

/-- Nothing goes on under a number. -/
structure Unused (id : CallId) (fabric : Fabric Conn Peers) : Prop where
  call : fabric.calls.find? id = none
  dial : fabric.dials.find? id = none
  caller : fabric.pool.callers.find? id = none

/-- What happens to others leaves a number unused. -/
theorem Unused.aside
    {before after : Fabric Conn Peers}
    (unused : Unused id before)
    (aside : Aside id before after)
    (call : after.calls.find? id = before.calls.find? id) :
    Unused id after :=
  ⟨call.trans unused.call, aside.dial.trans unused.dial, aside.caller.trans unused.caller⟩

/-- The numbers from the next one on are unused. -/
def Fresh (run : ProxyRun Conn Peers) : Prop := ∀ id, run.next ≤ id -> Unused id run.fabric

/-- A call begins under the next number only. -/
theorem find?_step_of_apart
    {event : ProxyEvent Peers}
    (apart : id ≠ run.next ∨ (run.step proxy event).next = run.next)
    (steps : event ≠ .step id)
    (aborts : event ≠ .abort id) :
    (run.step proxy event).fabric.calls.find? id = run.fabric.calls.find? id := by
  have inserted : ∀ call, id ≠ run.next ∨ run.next + 1 = run.next ->
      (run.fabric.setCall run.next call).calls.find? id = run.fabric.calls.find? id :=
    fun call other => Assoc.find?_insert_of_ne _ _ (other.resolve_right (Nat.succ_ne_self _))
  have typed : ∀ request context cached, id ≠ run.next ∨ run.next + 1 = run.next ->
      (proxy.beginTyped run.next request context cached run.fabric).calls.find? id =
        run.fabric.calls.find? id := by
    intro request context cached other
    obtain ⟨call, begins, -⟩ := proxy.exists_beginTyped run.next request context cached run.fabric
    rw [begins]
    exact inserted call other
  cases event with
  | call request context cached => exact typed request context cached apart
  | detach request context => exact typed request _ true apart
  | raw method context payload => exact inserted _ apart
  | step other =>
      have different : id ≠ other := fun same => steps (same ▸ rfl)
      exact (proxy.undisturbed_step run.clock run.fabric different).call
  | abort other =>
      have different : id ≠ other := fun same => aborts (same ▸ rfl)
      rw [step, (abort_eq proxy other run.fabric).2]
      exact Assoc.find?_erase_of_ne _ different
  | _ => rfl

/-- Every event leaves the numbers from the next one on unused. -/
theorem Fresh.event
    (fresh : run.Fresh)
    (proxy : Proxy Conn Peers)
    (event : ProxyEvent Peers) :
    (run.step proxy event).Fresh := by
  intro id later
  have unused := fresh id (Nat.le_trans (next_le_step proxy run event) later)
  by_cases steps : event = .step id
  · rw [steps, step_of_absent unused.call]
    exact unused
  · by_cases aborts : event = .abort id
    · subst aborts
      have same : (proxy.abort id run.fabric).1 = run.fabric := by
        simp only [Proxy.abort, unused.call]
      rw [step, same]
      exact unused
    · have grows := next_le_step proxy run event
      have apart : id ≠ run.next ∨ (run.step proxy event).next = run.next := by
        by_cases same : id = run.next
        · exact .inr (Nat.le_antisymm (same ▸ later) grows)
        · exact .inl same
      exact unused.aside (aside_step proxy run steps aborts)
        (find?_step_of_apart apart steps aborts)

theorem Fresh.resume
    (fresh : run.Fresh)
    (proxy : Proxy Conn Peers)
    (events : List (ProxyEvent Peers)) :
    (run.resume proxy events).Fresh := by
  induction events generalizing run with
  | nil => exact fresh
  | cons event rest inductionHypothesis => exact inductionHypothesis (fresh.event proxy event)

/-! ## A call in a run -/

/-- What is known of a call that has begun. -/
structure Traced (proxy : Proxy Conn Peers)
    (happens : ProxyRun Conn Peers -> ProxyEvent Peers -> Prop) (id : CallId) (begun : Call)
    (run : ProxyRun Conn Peers) : Prop where
  counted : id < run.next
  comes : ∀ call, run.fabric.calls.find? id = some call ->
    ∃ stage, call = { begun with stage } ∧ proxy.Comes happens id begun stage
  awaited : ∀ call, run.fabric.calls.find? id = some call ->
    proxy.Awaited happens id begun.method.service run.fabric

namespace Traced

variable {begun : Call}

/-- A step of the call keeps what is known. -/
theorem ownStep
    (traced : Traced proxy happens id begun run)
    (happened : happens run (.step id)) :
    Traced proxy happens id begun (run.step proxy (.step id)) := by
  cases present : run.fabric.calls.find? id with
  | none =>
      rw [step_of_absent present]
      exact traced
  | some former =>
      obtain ⟨stage, rfl, comes⟩ := traced.comes former present
      have awaited : proxy.Awaited happens id ({ begun with stage } : Call).method.service
          run.fabric :=
        traced.awaited _ present
      have move : proxy.Move run.clock id run.fabric _ _ := Proxy.move_step present
      obtain ⟨later, goesTo, after⟩ := move.comes happened awaited present comes
      refine ⟨traced.counted, fun call found => ?_, fun call found => awaited.move happened move⟩
      exact ⟨later, Option.some.inj (found.symm.trans goesTo), after⟩

/-- So does every event. -/
theorem event
    (traced : Traced proxy happens id begun run)
    {event : ProxyEvent Peers}
    (happened : happens run event) :
    Traced proxy happens id begun (run.step proxy event) := by
  by_cases steps : event = .step id
  · subst steps
    exact traced.ownStep happened
  · have counted := Nat.lt_of_lt_of_le traced.counted (next_le_step proxy run event)
    by_cases aborts : event = .abort id
    · subst aborts
      have gone : (run.step proxy (.abort id)).fabric.calls.find? id = none := by
        rw [step, (abort_eq proxy id run.fabric).2]
        exact Assoc.find?_erase_self _ _
      refine ⟨counted, fun call found => ?_, fun call found => ?_⟩
      · cases gone.symm.trans found
      · cases gone.symm.trans found
    · have there : ∀ call, (run.step proxy event).fabric.calls.find? id = some call ->
          run.fabric.calls.find? id = some call :=
        fun call found => find?_of_find?_step traced.counted steps found
      refine ⟨counted, fun call found => traced.comes call (there call found), ?_⟩
      intro call found
      exact (traced.awaited call (there call found)).aside (aside_step proxy run steps aborts)

/-- So does a run. -/
theorem resume
    (traced : Traced proxy happens id begun run)
    (events : List (ProxyEvent Peers))
    (through : ∀ moment event, Happens proxy run events moment event -> happens moment event) :
    Traced proxy happens id begun (run.resume proxy events) := by
  induction events generalizing run with
  | nil => exact traced
  | cons event rest inductionHypothesis =>
      have happened := through run event (happens_cons proxy run event rest)
      exact inductionHypothesis (traced.event happened) fun moment other later =>
        through moment other later.of_step

end Traced

/-- A call as it begins with a typed request. -/
def beginning (proxy : Proxy Conn Peers) (run : ProxyRun Conn Peers) (typed : TypedRequest)
    (context : CallContext) (cached : Bool) : Call :=
  ⟨typed.method, context, typed.payload, cached && proxy.caches run.fabric.cache typed.method,
    .arriving⟩

/-- A typed call begins if the table has its types. -/
theorem step_call_of_checked
    {typed : TypedRequest}
    (checked : proxy.table.contract typed.method typed.request typed.response = .ok ())
    (run : ProxyRun Conn Peers)
    (context : CallContext)
    (cached : Bool) :
    run.step proxy (.call typed context cached) =
      run.begun (run.fabric.setCall run.next (run.beginning proxy typed context cached)) := by
  simp only [step, Proxy.beginTyped, checked]
  rfl

theorem find?_beginning
    {typed : TypedRequest}
    (checked : proxy.table.contract typed.method typed.request typed.response = .ok ())
    (run : ProxyRun Conn Peers)
    (context : CallContext)
    (cached : Bool) :
    (run.step proxy (.call typed context cached)).fabric.calls.find? run.next =
      some (run.beginning proxy typed context cached) := by
  rw [step_call_of_checked checked]
  exact Assoc.find?_insert_self _ _ _

theorem traced_begun
    (fresh : run.Fresh)
    {typed : TypedRequest}
    (checked : proxy.table.contract typed.method typed.request typed.response = .ok ())
    (context : CallContext)
    (cached : Bool) :
    Traced proxy happens run.next (run.beginning proxy typed context cached)
      (run.step proxy (.call typed context cached)) := by
  have unused := fresh run.next (Nat.le_refl _)
  have there := find?_beginning checked run context cached
  rw [step_call_of_checked checked] at there ⊢
  refine ⟨Nat.lt_succ_self _, ?_, fun _ _ => .of_absent unused.dial unused.caller⟩
  intro call found
  obtain rfl := Option.some.inj (there.symm.trans found)
  exact ⟨.arriving, rfl, .arriving⟩

/-- In every run of a proxy, what a typed call comes to has an origin. -/
theorem origin_of_result?
    {start : ProxyRun Conn Peers}
    (fresh : start.Fresh)
    {typed : TypedRequest}
    (checked : proxy.table.contract typed.method typed.request typed.response = .ok ())
    (context : CallContext)
    (cached : Bool)
    (earlier later : List (ProxyEvent Peers))
    {result : Except Fault Bytes}
    (reached : start.resume proxy earlier = run)
    (ended : ((run.step proxy (.call typed context cached)).resume proxy later).fabric.result?
      run.next = some (some result)) :
    proxy.Origin (Happens proxy start (earlier ++ .call typed context cached :: later)) run.next
      (run.beginning proxy typed context cached) result := by
  subst reached
  have begun : Traced proxy
      (Happens proxy start (earlier ++ .call typed context cached :: later)) _ _ _ :=
    traced_begun (fresh.resume proxy earlier) checked context cached
  have traced := begun.resume later fun moment event happened => happened.of_step.of_last
  obtain ⟨call, found, finished⟩ := Fabric.finished_of_result? ended
  obtain ⟨stage, rfl, comes⟩ := traced.comes call found
  obtain rfl : stage = .finished result := finished
  exact comes.origin

end ProxyRun
end MallFabric
