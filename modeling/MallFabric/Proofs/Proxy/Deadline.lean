import MallFabric.Proofs.Proxy.Begun

/-!
# Whose time was up

An attempt is bounded by the caller's deadline and by the time that the proxy gives a
service, whichever is tighter.  The main statement is about every call in every run that
ends for lack of time: its caller's deadline was the tighter bound, nothing is recorded
of the call, and the deadline has been reached, unless the service itself told that the
time was up.  A service may tell so at any time, and the caller is blamed for it.
-/

namespace MallFabric

variable {Conn Peers : Type}

/-- A bound that is tighter than a span comes from the caller's deadline, and a timer that
is set for it does not fire before the deadline. -/
theorem CallContext.exists_deadline_of_tight
    {context : CallContext}
    {now : Instant}
    {span : Duration}
    (tight : context.boundedTimeout now span < span) :
    ∃ deadline, context.deadline = some deadline ∧ deadline < now + span ∧
      deadline ≤ Instant.timer (now + context.boundedTimeout now span) := by
  cases set : context.deadline with
  | none =>
      simp only [boundedTimeout, remaining, set, Option.map_none] at tight
      exact absurd tight (Nat.lt_irrefl _)
  | some deadline =>
      have bounded : context.boundedTimeout now span = min (deadline - now) span := by
        simp only [boundedTimeout, remaining, set, Option.map_some, Instant.timeLeft]
      have fires := Instant.le_timer (now + context.boundedTimeout now span)
      rw [bounded] at tight fires ⊢
      refine ⟨deadline, rfl, ?_, ?_⟩
      · lia
      · lia

namespace Proxy

/-- The bounds of an attempt are set when it is admitted, and stay. -/
theorem Move.bounds
    {proxy : Proxy Conn Peers}
    {now : Instant}
    {id : CallId}
    {fabric : Fabric Conn Peers}
    {call later : Call}
    {result : StepResult Conn Peers}
    (move : Move proxy now id fabric call result)
    (found : fabric.calls.find? id = some call)
    (after : result.fabric.calls.find? id = some later)
    {limit : Duration}
    {expiry : Instant}
    (bounds : later.stage.bounds? = some (limit, expiry)) :
    call.stage.bounds? = some (limit, expiry) ∨
      (limit = call.context.boundedTimeout now proxy.config.circuit.timeout ∧
        expiry = Instant.timer (now + limit)) := by
  have goesTo : ∀ {between : Fabric Conn Peers} {stage : CallStage},
      (between.setCall id { call with stage }).calls.find? id = some later ->
        stage.bounds? = some (limit, expiry) := by
    intro between stage goes
    rw [Fabric.stage_of_setCall goes]
    exact bounds
  have stays : fabric.calls.find? id = some later -> call.stage.bounds? = some (limit, expiry) := by
    intro same
    obtain rfl := Option.some.inj (found.symm.trans same)
    exact bounds
  have settles : ∀ {key : Option String} {bound : Duration} {ending : Reply Bytes},
      (proxy.settle call.method key bound ending).stage.bounds? ≠ some (limit, expiry) := by
    intro key bound ending
    cases ending with
    | answer answer => cases key with | _ => exact nofun
    | crash => exact nofun
    | fault fault =>
        obtain ⟨outcome, finished⟩ := isOver_settle_fault proxy call.method key bound fault
        rw [finished]
        exact nofun
  cases move with
  | admitted stage taken =>
      cases goesTo after
      exact .inr ⟨rfl, rfl⟩
  | carriedOut stage live noDial result inTime invocation =>
      have same := goesTo after
      rw [stage]
      exact .inl same
  | unconnected stage cause => exact absurd (goesTo after) settles
  | concluded stage ended => exact absurd (goesTo after) settles
  | dialEnded => exact .inl (stays after)
  | joined => exact .inl (stays after)
  | dialled => exact .inl (stays after)
  | dialAwaited => exact .inl (stays after)
  | turnAwaited => exact .inl (stays after)
  | replyAwaited => exact .inl (stays after)
  | ended => exact .inl (stays after)
  | _ => cases goesTo after

end Proxy

namespace BegunCall

variable {call : BegunCall Conn Peers} {proxy : Proxy Conn Peers}
variable {events : List (ProxyEvent Peers)}

/-- The bounds of an attempt were set by a step of the call. -/
theorem exists_admission
    (checked : proxy.table.contract call.typed.method call.typed.request call.typed.response =
      .ok ())
    {attempt : Call}
    (found : (call.after proxy events).fabric.calls.find? call.id = some attempt)
    {limit : Duration}
    {expiry : Instant}
    (bounds : attempt.stage.bounds? = some (limit, expiry)) :
    ∃ moment, call.Steps proxy events moment ∧
      limit = call.context.boundedTimeout moment.clock proxy.config.circuit.timeout ∧
        expiry = Instant.timer (moment.clock + limit) := by
  have every : ∀ attempt, (call.after proxy events).fabric.calls.find? call.id = some attempt ->
      ∀ limit expiry, attempt.stage.bounds? = some (limit, expiry) ->
        ∃ moment, call.Steps proxy events moment ∧
          limit = call.context.boundedTimeout moment.clock proxy.config.circuit.timeout ∧
            expiry = Instant.timer (moment.clock + limit) := by
    refine ProxyRun.holds_resume (call.id_lt_next proxy) ?_ events ?_
    · intro attempt found limit expiry bounds
      obtain rfl := Option.some.inj ((find?_after_nil checked).symm.trans found)
      cases bounds
    · intro moment before later happened present known after limit expiry bounds
      obtain ⟨earlier, first, rfl⟩ := happened
      obtain ⟨stage, rfl, -⟩ := (traced checked earlier).comes before present
      rcases (Proxy.move_step present).bounds present after bounds with old | ⟨limited, expires⟩
      · exact known limit expiry old
      · exact ⟨_, ⟨earlier, first, rfl⟩, limited, expires⟩
  exact every attempt found limit expiry bounds

/-- What a call that ends for lack of time says of its caller and its service. -/
structure OutOfTime (call : BegunCall Conn Peers) (proxy : Proxy Conn Peers)
    (events : List (ProxyEvent Peers)) : Prop where
  /-- The caller has set a deadline, which was a tighter bound than the time of the service
  when the call was admitted.  It has been reached, or the service told that the time was
  up. -/
  deadline : ∃ deadline, call.context.deadline = some deadline ∧
    (∃ moment, call.Steps proxy events moment ∧
      deadline < moment.clock + proxy.config.circuit.timeout) ∧
    (deadline ≤ (call.after proxy events).clock ∨ call.Tells proxy events (.fault .timeout))
  /-- The circuit records nothing of the call. -/
  unrecorded : CallAct.outcomes (call.acts proxy events) = []
  /-- No prepared answer has taken the place of another fault. -/
  genuine : ∀ cause, proxy.degrade call.typed.method cause ≠ .error .timeout

/-- Every call that ends for lack of time has had a deadline that was the tighter bound, and
leaves no record; the deadline has been reached, or the service told a timeout. -/
theorem outOfTime_of_failsWith
    (call : BegunCall Conn Peers)
    (proxy : Proxy Conn Peers)
    (events : List (ProxyEvent Peers))
    (failed : call.FailsWith proxy events .timeout) :
    call.OutOfTime proxy events := by
  obtain ⟨result, ends, read⟩ := failed
  obtain rfl := eq_error_of_read read rfl
  have genuine : ∀ cause, proxy.degrade call.typed.method cause ≠ .error .timeout :=
    fun cause degraded => by cases Proxy.eq_unavailable_of_degrade degraded
  have unrecorded : CallAct.outcomes (call.acts proxy events) = [] :=
    (ends.life.ending ends.ends).outcomes_eq_nil rfl genuine
  -- The attempt has its bounds from a step of the call.
  have bounded : ∀ {attempt : Call} {limit expiry},
      (call.after proxy events).fabric.calls.find? call.id = some attempt ->
        attempt.stage.bounds? = some (limit, expiry) -> limit < proxy.config.circuit.timeout ->
          ∃ deadline, call.context.deadline = some deadline ∧
            (∃ moment, call.Steps proxy events moment ∧
              deadline < moment.clock + proxy.config.circuit.timeout) ∧ deadline ≤ expiry := by
    intro attempt limit expiry found bounds tight
    obtain ⟨moment, steps, rfl, rfl⟩ := exists_admission ends.checked found bounds
    obtain ⟨deadline, set, tighter, fires⟩ := CallContext.exists_deadline_of_tight tight
    exact ⟨deadline, set, ⟨moment, steps, tighter⟩, fires⟩
  refine ⟨?_, unrecorded, genuine⟩
  cases ends.cause (.inr rfl) with
  | expired found bounds tight expired =>
      obtain ⟨deadline, set, tighter, fires⟩ := bounded found bounds tight
      exact ⟨deadline, set, tighter, .inl (Nat.le_trans fires expired)⟩
  | told found bounds judged tells =>
      obtain ⟨deadline, set, tighter, -⟩ := bounded found bounds (Proxy.tight_of_judge_timeout judged)
      exact ⟨deadline, set, tighter, .inr tells⟩

/-! ## A caller in a hurry -/

/-- A caller that waits half a second. -/
def hurried : BegunCall Unit Unit := .cart ⟨.generated, some (Duration.ofMillis 500), .own false⟩

/-- The handler takes two seconds, and the caller's deadline comes first. -/
theorem outOfTime_of_failsWith_hurried :
    hurried.FailsWith (.replyingAfter (Duration.ofSeconds 2) (.answer (none, ())))
        (askedFor (Duration.ofMillis 500)) .timeout ∧
      hurried.OutOfTime (.replyingAfter (Duration.ofSeconds 2) (.answer (none, ())))
        (askedFor (Duration.ofMillis 500)) := by
  have failed : hurried.FailsWith (.replyingAfter (Duration.ofSeconds 2) (.answer (none, ())))
      (askedFor (Duration.ofMillis 500)) .timeout :=
    ⟨.error .timeout, ⟨by decide +kernel, by decide +kernel⟩, rfl⟩
  exact ⟨failed, outOfTime_of_failsWith _ _ _ failed⟩

/-- A service that tells a timeout after ten milliseconds makes a call fail for lack of time
long before its deadline, and nothing is recorded of it. -/
theorem not_deadline_reached_of_told :
    ¬ ∀ (call : BegunCall Unit Unit) (proxy : Proxy Unit Unit) (events : List (ProxyEvent Unit)),
      call.FailsWith proxy events .timeout -> proxy.fallback = .failFast ->
        CallAct.outcomes (call.acts proxy events) = [] ->
          ∃ deadline, call.context.deadline = some deadline ∧
            deadline ≤ (call.after proxy events).clock := by
  intro complete
  obtain ⟨deadline, set, reached⟩ :=
    complete hurried (.replyingAfter (Duration.ofMillis 10) (.fault .timeout))
      (askedFor (Duration.ofMillis 10))
      ⟨.error .timeout, ⟨by decide +kernel, by decide +kernel⟩, rfl⟩ rfl (by decide +kernel)
  obtain rfl := Option.some.inj set
  exact absurd reached (by decide +kernel)

end BegunCall
end MallFabric
