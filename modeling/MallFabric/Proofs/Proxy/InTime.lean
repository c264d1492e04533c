import MallFabric.Proofs.Proxy.Headway

/-!
# Calls that are answered in time

Time passes around a call only while the call has to wait, and no longer than it
has to.  The main statements are about every call under a deadline in every such run:
the timer of its attempt is set when it begins and never moved, so that it is over
when the timer fires; and if nothing else happens the call goes on until it is over.
-/

namespace MallFabric

variable {Conn Peers : Type}

/-! ## The timer of an attempt -/

/-- The instant by which a call is answered that begins at an instant, under a deadline. -/
def Proxy.answerBy (proxy : Proxy Conn Peers) (begun deadline : Instant) : Instant :=
  Instant.timer (min (max begun deadline) (begun + proxy.config.circuit.timeout))

/-- A call is not answered before it begins. -/
theorem Proxy.le_answerBy
    (proxy : Proxy Conn Peers)
    (begun deadline : Instant) :
    begun ≤ proxy.answerBy begun deadline := by
  refine Nat.le_trans ?_ (Instant.le_timer _)
  exact Nat.le_min.mpr ⟨Nat.le_max_left begun deadline, Nat.le_add_right begun _⟩

/-- What a caller has left, bounded by a span, ends by the deadline and within the span. -/
theorem CallContext.add_boundedTimeout
    {context : CallContext}
    {deadline : Instant}
    (set : context.deadline = some deadline)
    (now : Instant)
    (span : Duration) :
    now + context.boundedTimeout now span = min (max now deadline) (now + span) := by
  simp only [boundedTimeout, remaining, set, Option.map_some, Instant.timeLeft]
  lia

/-- A stage that a call may have come to at an instant: before its attempt no time has
passed, and it is over when its attempt expires. -/
inductive CallStage.InTime (begun due now : Instant) : CallStage -> Prop where
  | early {stage}
      (early : stage.IsEarly)
      (atOnce : now = begun) :
      InTime begun due now stage
  | attempting {stage limit}
      (bounds : stage.bounds? = some (limit, due))
      (inTime : now ≤ due) :
      InTime begun due now stage
  | past {stage}
      (past : stage.IsPast)
      (inTime : ¬ stage.IsOver -> now ≤ due) :
      InTime begun due now stage

namespace CallStage.InTime

variable {begun due now : Instant} {stage : CallStage}

/-- Before its attempt no time has passed. -/
theorem eq_begun
    (inTime : stage.InTime begun due now)
    (early : stage.IsEarly) :
    now = begun := by
  cases inTime with
  | early _ atOnce => exact atOnce
  | attempting bounds => cases stage with | _ => first | exact early.elim | cases bounds
  | past past => cases stage with | _ => first | exact early.elim | exact past.elim

/-- A call that is not over has not come to its end. -/
theorem le
    (inTime : stage.InTime begun due now)
    (later : begun ≤ due)
    (underWay : ¬ stage.IsOver) :
    now ≤ due := by
  cases inTime with
  | early _ atOnce => exact atOnce ▸ later
  | attempting _ inTime => exact inTime
  | past _ inTime => exact inTime underWay

/-- An attempt expires at the end. -/
theorem expiry_eq
    (inTime : stage.InTime begun due now)
    {limit : Duration}
    {expiry : Instant}
    (bounds : stage.bounds? = some (limit, expiry)) :
    expiry = due := by
  cases inTime with
  | early early => cases stage with | _ => first | exact early.elim | cases bounds
  | attempting same => cases same.symm.trans bounds; rfl
  | past past => cases stage with | _ => first | exact past.elim | cases bounds

end CallStage.InTime

namespace Proxy

variable {proxy : Proxy Conn Peers} {now : Instant} {id : CallId} {fabric : Fabric Conn Peers}
variable {call later : Call} {result : StepResult Conn Peers}

/-- A step of a call keeps it in time. -/
theorem Move.inTime
    (move : Move proxy now id fabric call result)
    (found : fabric.calls.find? id = some call)
    (after : result.fabric.calls.find? id = some later)
    {begun deadline : Instant}
    (set : call.context.deadline = some deadline)
    (inTime : call.stage.InTime begun (proxy.answerBy begun deadline) now) :
    later.stage.InTime begun (proxy.answerBy begun deadline) now := by
  have order := proxy.le_answerBy begun deadline
  have stays : fabric.calls.find? id = some later ->
      later.stage.InTime begun (proxy.answerBy begun deadline) now := by
    intro same
    obtain rfl := Option.some.inj (same.symm.trans found)
    exact inTime
  have goesTo : ∀ {between : Fabric Conn Peers} {stage : CallStage},
      (between.setCall id { call with stage }).calls.find? id = some later ->
        stage.InTime begun (proxy.answerBy begun deadline) now ->
          later.stage.InTime begun (proxy.answerBy begun deadline) now := by
    intro between stage goes reached
    rw [← Fabric.stage_of_setCall goes]
    exact reached
  have expires : ∀ {limit expiry}, call.stage.bounds? = some (limit, expiry) ->
      expiry = proxy.answerBy begun deadline ∧ now ≤ proxy.answerBy begun deadline :=
    fun bounds =>
      ⟨inTime.expiry_eq bounds, inTime.le order (CallStage.not_isOver_of_bounds? bounds)⟩
  cases move with
  | lookUp stage registered live cached =>
      exact goesTo after (.early trivial (inTime.eq_begun (stage ▸ trivial)))
  | pass stage registered live uncached =>
      exact goesTo after (.early trivial (inTime.eq_begun (stage ▸ trivial)))
  | miss stage missing =>
      exact goesTo after (.early trivial (inTime.eq_begun (stage ▸ trivial)))
  | decided stage decision =>
      exact goesTo after (.early trivial (inTime.eq_begun (stage ▸ trivial)))
  | admitted stage taken =>
      have atOnce := inTime.eq_begun (stage ▸ trivial)
      subst atOnce
      rw [CallContext.add_boundedTimeout set] at after
      exact goesTo after (.attempting rfl order)
  | carriedOut stage live noDial result early invocation =>
      obtain ⟨rfl, inTime⟩ := expires (congrArg CallStage.bounds? stage)
      exact goesTo after (.attempting rfl inTime)
  | concluded stage ended =>
      obtain ⟨-, inTime⟩ := expires (congrArg CallStage.bounds? stage)
      exact goesTo after (.past (proxy.isPast_settle _ _ _ _) fun _ => inTime)
  | unconnected stage cause =>
      obtain ⟨-, inTime⟩ := expires (congrArg CallStage.bounds? stage)
      exact goesTo after (.past (proxy.isPast_settle _ _ _ _) fun _ => inTime)
  | dialEnded => exact stays after
  | joined => exact stays after
  | dialled => exact stays after
  | dialAwaited => exact stays after
  | turnAwaited => exact stays after
  | replyAwaited => exact stays after
  | ended => exact stays after
  | _ => exact goesTo after (.past trivial fun underWay => absurd trivial underWay)

end Proxy

/-! ## Runs that are prompt -/

namespace ProxyEvent

/-- The context of a call that begins. -/
def context? : ProxyEvent Peers -> Option CallContext
  | call _ context _ => some context
  | detach _ context => some context
  | raw _ context _ => some context
  | _ => none

end ProxyEvent

/-- Whoever waits for a call and is told nothing waits for one that is not over. -/
theorem Waiter.result?_of_advance
    {waiter : Waiter}
    {fabric : Fabric Conn Peers}
    (untold : (waiter.advance fabric).outcome = none) :
    fabric.result? waiter.call = none := by
  cases waits : waiter.outcome with
  | some outcome =>
      rw [advance_of_outcome waits, waits] at untold
      cases untold
  | none =>
      cases fired : waiter.token.isFired fabric.fired with
      | true =>
          rw [advance_of_fired waits fired] at untold
          cases untold
      | false =>
          rw [advance_of_live waits fired] at untold
          exact Option.map_eq_none_iff.mp untold

namespace ProxyRun

/-- Whether a call can only wait for a span. -/
def rests (proxy : Proxy Conn Peers) (id : CallId) (run : ProxyRun Conn Peers)
    (span : Duration) : Bool :=
  match (proxy.step run.clock id run.fabric).waits with
  | some instants => instants.all fun instant => run.clock + span ≤ instant
  | none => false

/-- Whether an event may come now: time passes only while a call has to wait. -/
def permits (proxy : Proxy Conn Peers) (id : CallId) (run : ProxyRun Conn Peers) :
    ProxyEvent Peers -> Bool
  | .pass span => run.rests proxy id span
  | _ => true

/-- A run is prompt for a call if the call never waits longer than it has to. -/
def isPrompt (proxy : Proxy Conn Peers) (id : CallId) (run : ProxyRun Conn Peers) :
    List (ProxyEvent Peers) -> Bool
  | [] => true
  | event :: rest => run.permits proxy id event && isPrompt proxy id (run.step proxy event) rest

/-- A run goes on in which nothing happens but that a call makes its steps, and that time
passes while the call has to wait. -/
inductive LeadsTo (proxy : Proxy Conn Peers) (id : CallId) :
    ProxyRun Conn Peers -> ProxyRun Conn Peers -> Prop where
  | here {run} : LeadsTo proxy id run run
  | goesOn {run after}
      (rest : LeadsTo proxy id (run.step proxy (.step id)) after) :
      LeadsTo proxy id run after
  | waits {run after span}
      (underWay : run.fabric.result? id = none)
      (rests : run.rests proxy id span = true)
      (rest : LeadsTo proxy id (run.step proxy (.pass span)) after) :
      LeadsTo proxy id run after

/-- What is known of a call that began at an instant, under a deadline. -/
structure OnTime (proxy : Proxy Conn Peers) (id : CallId) (begun deadline : Instant)
    (run : ProxyRun Conn Peers) : Prop where
  counted : id < run.next
  context : ∀ call, run.fabric.calls.find? id = some call -> call.context.deadline = some deadline
  inTime : ∀ call, run.fabric.calls.find? id = some call ->
    call.stage.InTime begun (proxy.answerBy begun deadline) run.clock

variable {proxy : Proxy Conn Peers} {run : ProxyRun Conn Peers} {id : CallId}
variable {begun deadline : Instant}

/-- Only where time passes does the clock change. -/
theorem clock_step_of_ne_pass
    {event : ProxyEvent Peers}
    (timeless : ∀ span, event ≠ .pass span) :
    (run.step proxy event).clock = run.clock := by
  cases event with
  | pass span => exact absurd rfl (timeless span)
  | _ => rfl

theorem rests_iff
    {span : Duration} :
    run.rests proxy id span = true ↔
      ∃ instants, (proxy.step run.clock id run.fabric).waits = some instants ∧
        ∀ instant ∈ instants, run.clock + span ≤ instant := by
  unfold rests
  cases (proxy.step run.clock id run.fabric).waits with
  | none => simp
  | some instants => simp

/-- A call that begins under a deadline has it, and is arriving or over at once. -/
theorem exists_begun
    (proxy : Proxy Conn Peers)
    (run : ProxyRun Conn Peers)
    {opening : ProxyEvent Peers}
    {context : CallContext}
    (opens : opening.context? = some context) :
    ∃ new : Call, run.step proxy opening = run.begun (run.fabric.setCall run.next new) ∧
      new.context.deadline = context.deadline ∧ (new.stage = .arriving ∨ new.stage.IsOver) := by
  have typed : ∀ request own cached, ∃ new : Call,
      proxy.beginTyped run.next request own cached run.fabric = run.fabric.setCall run.next new ∧
        new.context.deadline = own.deadline ∧ (new.stage = .arriving ∨ new.stage.IsOver) := by
    intro request own cached
    unfold Proxy.beginTyped
    cases proxy.table.contract request.method request.request request.response with
    | ok checked => exact ⟨_, rfl, rfl, .inl rfl⟩
    | error fault => exact ⟨_, rfl, rfl, .inr trivial⟩
  cases opening with
  | call request own cached =>
      obtain rfl := Option.some.inj opens
      obtain ⟨new, begins, rest⟩ := typed request own cached
      exact ⟨new, congrArg run.begun begins, rest⟩
  | detach request own =>
      obtain rfl := Option.some.inj opens
      obtain ⟨new, begins, rest⟩ := typed request (Proxy.detachedContext own) true
      exact ⟨new, congrArg run.begun begins, rest⟩
  | raw method own payload =>
      obtain rfl := Option.some.inj opens
      exact ⟨_, rfl, rfl, .inl rfl⟩
  | _ => cases opens

/-- A call that has just begun is there. -/
theorem exists_find?_begun
    (proxy : Proxy Conn Peers)
    (run : ProxyRun Conn Peers)
    {opening : ProxyEvent Peers}
    {context : CallContext}
    (opens : opening.context? = some context) :
    ∃ new, (run.step proxy opening).fabric.calls.find? run.next = some new := by
  obtain ⟨new, begins, -⟩ := exists_begun proxy run opens
  exact ⟨new, begins ▸ Assoc.find?_insert_self _ _ _⟩

/-- It is on time. -/
theorem onTime_begun
    (proxy : Proxy Conn Peers)
    (run : ProxyRun Conn Peers)
    {opening : ProxyEvent Peers}
    {context : CallContext}
    (opens : opening.context? = some context)
    (set : context.deadline = some deadline) :
    OnTime proxy run.next run.clock deadline (run.step proxy opening) := by
  obtain ⟨new, begins, under, stage⟩ := exists_begun proxy run opens
  have only : ∀ call, (run.step proxy opening).fabric.calls.find? run.next = some call ->
      call = new := by
    intro call found
    rw [begins] at found
    exact Option.some.inj (found.symm.trans (Assoc.find?_insert_self _ _ _))
  refine ⟨?_, fun call found => ?_, fun call found => ?_⟩
  · rw [begins]
    exact Nat.lt_succ_self _
  · rw [only call found, under, set]
  · rw [only call found, begins]
    rcases stage with arriving | ended
    · rw [arriving]
      exact .early trivial rfl
    · exact .past (CallStage.isPast_of_isOver ended) fun underWay => absurd ended underWay

namespace OnTime

/-- A call that is not over and can only wait for a span does not come to its end before the
span has passed. -/
theorem add_le_of_rests
    (onTime : OnTime proxy id begun deadline run)
    {call : Call}
    (found : run.fabric.calls.find? id = some call)
    (underWay : ¬ call.stage.IsOver)
    {span : Duration}
    (rests : run.rests proxy id span = true) :
    (∃ limit, call.stage.bounds? = some (limit, proxy.answerBy begun deadline)) ∧
      run.clock + span ≤ proxy.answerBy begun deadline := by
  obtain ⟨instants, waits, later⟩ := rests_iff.mp rests
  obtain ⟨rfl, ⟨⟨limit, expiry⟩, bounds⟩, -⟩ := (Proxy.move_step found).waits underWay waits
  obtain rfl := (onTime.inTime call found).expiry_eq bounds
  exact ⟨⟨limit, bounds⟩, later _ (Fabric.mem_alarms bounds run.fabric id)⟩

theorem ownStep
    (onTime : OnTime proxy id begun deadline run) :
    OnTime proxy id begun deadline (run.step proxy (.step id)) := by
  cases present : run.fabric.calls.find? id with
  | none =>
      rw [step_of_absent present]
      exact onTime
  | some before =>
      have move : proxy.Move run.clock id run.fabric before _ := Proxy.move_step present
      obtain ⟨stage, goesTo, -⟩ := move.passage present
      have set := onTime.context before present
      refine ⟨onTime.counted, fun call found => ?_, fun call found => ?_⟩
      · obtain rfl := Option.some.inj (goesTo.symm.trans found)
        exact set
      · exact move.inTime present found set (onTime.inTime before present)

theorem pass
    (onTime : OnTime proxy id begun deadline run)
    {span : Duration}
    (rests : run.rests proxy id span = true) :
    OnTime proxy id begun deadline (run.step proxy (.pass span)) := by
  refine ⟨onTime.counted, onTime.context, fun call found => ?_⟩
  by_cases ended : call.stage.IsOver
  · exact .past (CallStage.isPast_of_isOver ended) fun underWay => absurd ended underWay
  · obtain ⟨⟨limit, bounds⟩, inTime⟩ := onTime.add_le_of_rests found ended rests
    exact .attempting bounds inTime

/-- Whatever may come, the call stays on time. -/
theorem event
    (onTime : OnTime proxy id begun deadline run)
    {event : ProxyEvent Peers}
    (permitted : run.permits proxy id event = true) :
    OnTime proxy id begun deadline (run.step proxy event) := by
  by_cases steps : event = .step id
  · subst steps
    exact onTime.ownStep
  by_cases passes : ∃ span, event = .pass span
  · obtain ⟨span, rfl⟩ := passes
    exact onTime.pass permitted
  -- Nothing else changes the clock, or the call as long as it is there.
  have counted := Nat.lt_of_lt_of_le onTime.counted (next_le_step proxy run event)
  have clock : (run.step proxy event).clock = run.clock :=
    clock_step_of_ne_pass fun span same => passes ⟨span, same⟩
  have there : ∀ call, (run.step proxy event).fabric.calls.find? id = some call ->
      run.fabric.calls.find? id = some call :=
    fun call found => find?_of_find?_step onTime.counted steps found
  refine ⟨counted, fun call found => onTime.context call (there call found), ?_⟩
  intro call found
  rw [clock]
  exact onTime.inTime call (there call found)

theorem resume
    (onTime : OnTime proxy id begun deadline run)
    {events : List (ProxyEvent Peers)}
    (prompt : run.isPrompt proxy id events = true) :
    OnTime proxy id begun deadline (run.resume proxy events) := by
  induction events generalizing run with
  | nil => exact onTime
  | cons event rest inductionHypothesis =>
      obtain ⟨permitted, later⟩ := Bool.and_eq_true_iff.mp prompt
      exact inductionHypothesis (onTime.event permitted) later

/-- The end of a call that is not over has not passed. -/
theorem le
    (onTime : OnTime proxy id begun deadline run)
    (underWay : run.fabric.result? id = none)
    (there : run.fabric.calls.find? id ≠ none) :
    run.clock ≤ proxy.answerBy begun deadline := by
  obtain ⟨call, found⟩ := Option.ne_none_iff_exists'.mp there
  refine (onTime.inTime call found).le (proxy.le_answerBy begun deadline) ?_
  rw [← Fabric.result?_eq_none_iff found]
  exact underWay

/-- A call that is not over wakes when the first of the instants has come that it waits for,
and then it need not wait. -/
theorem exists_awake
    (onTime : OnTime proxy id begun deadline run)
    {call : Call}
    (found : run.fabric.calls.find? id = some call)
    (underWay : ¬ call.stage.IsOver)
    (inTime : run.clock ≤ proxy.answerBy begun deadline) :
    ∃ moment : ProxyRun Conn Peers, moment.fabric = run.fabric ∧
      (proxy.step moment.clock id moment.fabric).waits = none ∧
        OnTime proxy id begun deadline moment ∧ moment.clock ≤ proxy.answerBy begun deadline ∧
          ∀ after, moment.LeadsTo proxy id after -> run.LeadsTo proxy id after := by
  cases waits : (proxy.step run.clock id run.fabric).waits with
  | none => exact ⟨run, rfl, waits, onTime, inTime, fun after leads => leads⟩
  | some instants =>
      obtain ⟨same, ⟨⟨limit, expiry⟩, bounds⟩, early⟩ :=
        (Proxy.move_step found).waits underWay waits
      have expires : expiry ∈ instants := same ▸ Fabric.mem_alarms bounds run.fabric id
      obtain ⟨first, least⟩ := Option.isSome_iff_exists.mp
        (List.isSome_min?_of_mem expires)
      obtain ⟨alarm, before⟩ := List.min?_eq_some_iff.mp least
      have clock : run.clock + (first - run.clock) = first :=
        Nat.add_sub_cancel' (Nat.le_of_lt (early first alarm))
      have rests : run.rests proxy id (first - run.clock) = true := by
        refine rests_iff.mpr ⟨instants, waits, ?_⟩
        rw [clock]
        exact before
      refine ⟨run.step proxy (.pass (first - run.clock)), rfl, ?_, onTime.pass rests,
        (onTime.add_le_of_rests found underWay rests).2,
        fun after leads => .waits ((Fabric.result?_eq_none_iff found).mpr underWay) rests leads⟩
      rw [Option.eq_none_iff_forall_ne_some]
      intro others again
      obtain ⟨rfl, -, later⟩ := (Proxy.move_step found).waits underWay again
      have passed : run.clock + (first - run.clock) < first := later first (same ▸ alarm)
      exact absurd clock (Nat.ne_of_lt passed)

/-- If nothing else happens a call goes on until it is over, and that is not after its end. -/
theorem exists_leadsTo
    (onTime : OnTime proxy id begun deadline run)
    {call : Call}
    (found : run.fabric.calls.find? id = some call)
    (inTime : run.clock ≤ proxy.answerBy begun deadline) :
    ∃ after, run.LeadsTo proxy id after ∧ after.fabric.result? id ≠ none ∧
      after.clock ≤ proxy.answerBy begun deadline := by
  induction left : run.fabric.stepsLeft id call.stage using Nat.strongRecOn
    generalizing run call with
  | ind count inductionHypothesis =>
      by_cases ended : call.stage.IsOver
      · exact ⟨run, .here, fun same => (Fabric.result?_eq_none_iff found).mp same ended, inTime⟩
      · obtain ⟨moment, same, awake, still, early, reached⟩ :=
          onTime.exists_awake found ended inTime
        have present : moment.fabric.calls.find? id = some call := same ▸ found
        have move : proxy.Move moment.clock id moment.fabric call _ := Proxy.move_step present
        obtain ⟨stage, goesTo, -⟩ := move.passage present
        have fewer := move.stepsLeft_lt present goesTo awake
        have here : moment.fabric.stepsLeft id call.stage = count := by rw [same, left]
        rw [here] at fewer
        obtain ⟨after, leads, ended, answered⟩ :=
          inductionHypothesis _ fewer still.ownStep goesTo early rfl
        exact ⟨after, reached after (.goesOn leads), ended, answered⟩

end OnTime

/-- A call is answered by an instant: it has not passed as long as the caller, or whoever
waits for the call, has no answer, and the call can always go on to one by then. -/
structure AnswersBy (proxy : Proxy Conn Peers) (id : CallId) (due : Instant)
    (run : ProxyRun Conn Peers) : Prop where
  caller : run.fabric.result? id = none -> run.clock ≤ due
  waiter : ∀ waiter : Waiter, waiter.call = id -> (waiter.advance run.fabric).outcome = none ->
    run.clock ≤ due
  goesOn : run.fabric.result? id = none -> ∃ after, run.LeadsTo proxy id after ∧
    after.fabric.result? id ≠ none ∧ after.clock ≤ due

/-- In every prompt run a call that is begun under a deadline is answered in time. -/
theorem answersBy_of_prompt
    {opening : ProxyEvent Peers}
    {context : CallContext}
    (opens : opening.context? = some context)
    (set : context.deadline = some deadline)
    {events : List (ProxyEvent Peers)}
    (prompt : (run.step proxy opening).isPrompt proxy run.next events = true)
    (there : ((run.step proxy opening).resume proxy events).fabric.calls.find? run.next ≠ none) :
    AnswersBy proxy run.next (proxy.answerBy run.clock deadline)
      ((run.step proxy opening).resume proxy events) := by
  have onTime := (onTime_begun proxy run opens set).resume prompt
  obtain ⟨call, found⟩ := Option.ne_none_iff_exists'.mp there
  refine ⟨fun underWay => onTime.le underWay there, ?_, ?_⟩
  · intro waiter waits untold
    refine onTime.le ?_ there
    rw [← waits]
    exact Waiter.result?_of_advance untold
  · intro underWay
    exact onTime.exists_leadsTo found (onTime.le underWay there)

end ProxyRun
end MallFabric
