import MallFabric.Proofs.Proxy.Begun

/-!
# Who gave a call up

A call is cancelled by the token of its caller.  The main statement is about every call
in every run: where it ends with a cancellation, or the wait for it does, the token has
fired, or the service itself told a cancellation, or the task that carried the call out
broke down.  Every other fault that a service tells is recorded, or it reaches the caller
as it is.
-/

namespace MallFabric

variable {Conn Peers : Type}

/-- A check of the types that fails points at the table. -/
theorem DispatchTable.isContract_of_contract
    {table : DispatchTable Conn Peers}
    {method : Method}
    {request response : Message.MessageType}
    {fault : Fault}
    (refused : table.contract method request response = .error fault) :
    fault.isContract = true := by
  unfold contract at refused
  split at refused
  · cases refused
    rfl
  · split at refused
    · cases refused
      rfl
    · split at refused
      · cases refused
        rfl
      · cases refused

/-- A token that has fired among some has fired among more. -/
theorem Token.isFired_mono
    {token : Token}
    {fired more : List String}
    (before : token.isFired fired = true)
    (further : fired ⊆ more) :
    token.isFired more = true := by
  cases token with
  | own given => exact before
  | shared name =>
      simp only [isFired, List.contains_iff_mem] at before ⊢
      exact further before

/-- A call breaks down only with the task of its handler. -/
theorem Proxy.Move.crashing
    {proxy : Proxy Conn Peers}
    {now : Instant}
    {id : CallId}
    {fabric : Fabric Conn Peers}
    {call : Call}
    {result : StepResult Conn Peers}
    (move : Move proxy now id fabric call result)
    (found : fabric.calls.find? id = some call)
    (goesOn : call.stage.end? = none)
    (crashed : result.fabric.calls.find? id = some { call with stage := .crashed }) :
    ∃ key permit limit expiry reply, call.stage = .handling key permit limit expiry reply ∧
      reply.result = .crash := by
  have stays : fabric.calls.find? id = some { call with stage := .crashed } -> False := by
    intro same
    rw [congrArg Call.stage (Option.some.inj (found.symm.trans same))] at goesOn
    cases goesOn
  have fails : ∀ {key : Option String} {limit : Duration} {fault : Fault},
      (proxy.settle call.method key limit (.fault fault)).stage ≠ .crashed := by
    intro key limit fault
    obtain ⟨outcome, finished⟩ := isOver_settle_fault proxy call.method key limit fault
    rw [finished]
    exact nofun
  cases move with
  | unconnected stage cause => exact absurd (Fabric.stage_of_setCall crashed) fails
  | @concluded key permit limit expiry reply ending stage ended =>
      have settled := Fabric.stage_of_setCall crashed
      cases ended with
      | cancelled given => exact absurd settled fails
      | timedOut live early expired => exact absurd settled fails
      | replied live due =>
          refine ⟨_, _, _, _, _, stage, ?_⟩
          cases replies : reply.result with
          | crash => rfl
          | fault fault =>
              rw [replies] at settled
              exact absurd settled fails
          | answer answer =>
              rw [replies] at settled
              cases key with
              | _ => cases settled
  | dialEnded => exact (stays crashed).elim
  | joined => exact (stays crashed).elim
  | dialled => exact (stays crashed).elim
  | dialAwaited => exact (stays crashed).elim
  | turnAwaited => exact (stays crashed).elim
  | replyAwaited => exact (stays crashed).elim
  | ended => exact (stays crashed).elim
  | _ => cases Fabric.stage_of_setCall crashed

/-- What a wait comes to was there to be seen at some time: the token had fired, or the call
was over. -/
theorem ProxyRun.exists_of_watch
    {proxy : Proxy Conn Peers}
    {run : ProxyRun Conn Peers}
    {id : CallId}
    {token : Token}
    {events : List (ProxyEvent Peers)}
    {outcome : Except Fault Bytes}
    (comes : (watch proxy ⟨id, token, none⟩ run events).outcome = some outcome) :
    ∃ earlier, earlier <+: events ∧
      (token.isFired (run.resume proxy earlier).fabric.fired = true ∨
        ∃ ended, (run.resume proxy earlier).fabric.result? id = some ended ∧
          outcome = ended.getD (.error .cancelled)) := by
  induction events generalizing run with
  | nil =>
      refine ⟨[], List.prefix_rfl, ?_⟩
      cases fired : token.isFired run.fabric.fired with
      | true => exact .inl fired
      | false =>
          rw [watch, Waiter.advance_of_live rfl fired] at comes
          obtain ⟨ended, comesTo, same⟩ := Option.map_eq_some_iff.mp comes
          exact .inr ⟨ended, comesTo, same.symm⟩
  | cons event rest inductionHypothesis =>
      cases fired : token.isFired run.fabric.fired with
      | true => exact ⟨[], List.nil_prefix, .inl fired⟩
      | false =>
          rw [watch, Waiter.advance_of_live rfl fired] at comes
          cases comesTo : run.fabric.result? id with
          | some ended =>
              simp only [comesTo, Option.map_some] at comes
              rw [watch_of_outcome rfl] at comes
              exact ⟨[], List.nil_prefix, .inr ⟨ended, comesTo, (Option.some.inj comes).symm⟩⟩
          | none =>
              simp only [comesTo, Option.map_none] at comes
              obtain ⟨earlier, first, seen⟩ := inductionHypothesis comes
              exact ⟨event :: earlier, List.cons_prefix_cons.mpr ⟨rfl, first⟩, seen⟩

namespace BegunCall

variable {call : BegunCall Conn Peers} {proxy : Proxy Conn Peers}
variable {events : List (ProxyEvent Peers)} {fault : Fault}

/-- A call that breaks down does so because its handler does. -/
theorem Ends.tells_crash
    (ends : call.Ends proxy events none) :
    call.Tells proxy events .crash := by
  obtain ⟨attempt, found, goesOn⟩ := ends.exists_attempt
  obtain ⟨stage, rfl, comes⟩ := (traced ends.checked events).comes attempt found
  have move : Proxy.Move proxy (call.after proxy events).clock call.id
      (call.after proxy events).fabric _ _ := Proxy.move_step found
  obtain ⟨next, later, -⟩ := move.passage found
  have comesTo := ends.ends
  rw [result?, after_concat, Fabric.result?_eq, ProxyRun.step, later, Option.bind_some] at comesTo
  obtain rfl : next = .crashed := by
    cases next with
    | crashed => rfl
    | _ => cases comesTo
  obtain ⟨key, permit, limit, expiry, reply, before, crash⟩ := move.crashing found goesOn later
  obtain rfl : stage = .handling key permit limit expiry reply := before
  cases comes with
  | underWay before => exact before.elim
  | handling handled =>
      cases handled with
      | invoked happened connected => exact .handler happened connected crash

/-- The call as it is carried out when its caller does not wait for it. -/
def detached (call : BegunCall Conn Peers) : BegunCall Conn Peers :=
  { call with context := Proxy.detachedContext call.context, cached := true }

/-- What the caller has got who has waited for the detached call while some events
happened. -/
def waited (call : BegunCall Conn Peers) (proxy : Proxy Conn Peers)
    (events : List (ProxyEvent Peers)) : Option (Except Fault Bytes) :=
  (ProxyRun.watch proxy ⟨call.id, call.context.token, none⟩
    (call.run.step proxy (.detach call.typed call.context)) events).outcome

/-- The service fails the call, which is to be told of it by its next step. -/
inductive Faces (call : BegunCall Conn Peers) (proxy : Proxy Conn Peers)
    (events : List (ProxyEvent Peers)) (fault : Fault) : Prop where
  | unconnected {attempt key permit limit expiry}
      (found : (call.after proxy events).fabric.calls.find? call.id = some attempt)
      (stage : attempt.stage = .connecting key permit limit expiry)
      (noDial : (call.after proxy events).fabric.dials.find? call.id = none)
      (told : (call.after proxy events).fabric.pool.result? call.id = some (.error fault)) :
      Faces call proxy events fault
  | replied {attempt key permit limit expiry reply}
      (found : (call.after proxy events).fabric.calls.find? call.id = some attempt)
      (stage : attempt.stage = .handling key permit limit expiry reply)
      (due : reply.due ≤ (call.after proxy events).clock)
      (replies : reply.result = .fault fault) :
      Faces call proxy events fault

/-- What a cancellation of a call says of its caller and its service, and what becomes of the
other faults of the service. -/
structure CancelledTruly (call : BegunCall Conn Peers) (proxy : Proxy Conn Peers) : Prop where
  /-- The token of the caller has fired when a call ends with a cancellation, or the service
  told one. -/
  attached : ∀ events, call.FailsWith proxy events .cancelled ->
    call.context.token.isFired (call.after proxy events).fabric.fired = true ∨
      call.Tells proxy events (.fault .cancelled)
  /-- The token of the caller has fired when the wait for a detached call ends with a
  cancellation, or the service told one, or the handler broke down. -/
  waiting : ∀ events outcome, call.waited proxy events = some outcome ->
    call.typed.read outcome = .error .cancelled ->
      call.context.token.isFired (call.detached.after proxy events).fabric.fired = true ∨
        call.detached.Tells proxy events (.fault .cancelled) ∨
          call.detached.Tells proxy events .crash
  /-- Every other fault of a service is recorded, or the call ends with it, unless the caller
  gives the call up first. -/
  accounted : ∀ events fault, fault ≠ .cancelled -> call.Faces proxy events fault ->
    call.context.token.isFired (call.after proxy events).fabric.fired = false ->
      (∃ outcome, outcome ≠ .success ∧ .recorded outcome ∈ call.acts proxy events) ∨
        call.FailsWith proxy events fault

/-- A call that ends with a cancellation was given up by its caller, or its service told one. -/
theorem fired_or_tells_of_ends
    (ends : call.Ends proxy events (some (.error .cancelled))) :
    call.context.token.isFired (call.after proxy events).fabric.fired = true ∨
      call.Tells proxy events (.fault .cancelled) := by
  cases ends.cause (.inl rfl) with
  | cancelled fired => exact .inl fired
  | told found bounds judged tells => exact .inr tells

/-- A detached call that is over has not been given up: it ends with a cancellation only if
its service told one. -/
theorem tells_of_detached
    {ended : Option (Except Fault Bytes)}
    (comesTo : call.detached.result? proxy events = some ended)
    (cancelled : ended.getD (.error .cancelled) = .error .cancelled) :
    call.detached.Tells proxy events (.fault .cancelled) ∨
      call.detached.Tells proxy events .crash := by
  cases checked : proxy.table.contract call.detached.typed.method call.detached.typed.request
      call.detached.typed.response with
  | error fault =>
      have refused := DispatchTable.isContract_of_contract checked
      rw [result?_of_refused checked comesTo] at cancelled
      obtain rfl := Except.error.inj cancelled
      cases refused
  | ok done =>
      obtain ⟨earlier, first, ends⟩ := exists_ends checked comesTo
      have within : earlier <+: events := (List.prefix_append earlier _).trans first
      cases ended with
      | none => exact .inr (ends.tells_crash.mono within)
      | some result =>
          obtain rfl : result = .error .cancelled := cancelled
          rcases fired_or_tells_of_ends ends with fired | tells
          · cases fired
          · exact .inl (tells.mono within)

/-- A call under way has the token of its caller. -/
theorem isCancelled_eq_false
    {attempt : Call}
    (found : (call.after proxy events).fabric.calls.find? call.id = some attempt)
    (goesOn : attempt.stage.end? = none)
    (live : call.context.token.isFired (call.after proxy events).fabric.fired = false) :
    attempt.context.isCancelled (call.after proxy events).fabric.fired = false := by
  obtain ⟨stage, rfl, -⟩ := (traced (checked_of_goesOn found goesOn) events).comes attempt found
  exact live

/-- A fault that the service tells a call is recorded, or the call ends with it. -/
theorem recorded_or_surfaced_of_settle
    {attempt : Call}
    (found : (call.after proxy events).fabric.calls.find? call.id = some attempt)
    (goesOn : attempt.stage.end? = none)
    (key : Option String)
    (limit : Duration)
    (acts : (proxy.step (call.after proxy events).clock call.id
      (call.after proxy events).fabric).acts =
        (proxy.settle attempt.method key limit (.fault fault)).outcome.toList.map .recorded)
    (later : (proxy.step (call.after proxy events).clock call.id
      (call.after proxy events).fabric).fabric.calls.find? call.id =
        some { attempt with stage := (proxy.settle attempt.method key limit (.fault fault)).stage }) :
    (∃ outcome, outcome ≠ .success ∧ .recorded outcome ∈ call.acts proxy events) ∨
      call.FailsWith proxy events fault := by
  cases judged : judge (limit < proxy.config.circuit.timeout) fault with
  | degrades outcome cause =>
      rw [Proxy.settle_degrades judged] at acts
      refine .inl ⟨outcome, ne_success_of_judge judged, ?_⟩
      rw [acts_eq, acts]
      exact List.mem_append_right _ List.mem_cons_self
  | surfaces surfaced =>
      obtain rfl := Proxy.eq_of_judge judged
      rw [Proxy.settle_surfaces judged] at later
      refine .inr ⟨.error surfaced, ⟨?_, ?_⟩, rfl⟩
      · rw [result?, Fabric.result?_eq, found]
        exact goesOn
      · rw [result?, after_concat, Fabric.result?_eq, ProxyRun.step, later]
        rfl

/-- In every run, a cancellation of a call comes from its caller or from its service, and
every other fault of a service is recorded or reaches the caller. -/
theorem cancelledTruly
    (call : BegunCall Conn Peers)
    (proxy : Proxy Conn Peers) :
    call.CancelledTruly proxy where
  attached := by
    rintro events ⟨result, ends, read⟩
    obtain rfl := eq_error_of_read read rfl
    exact fired_or_tells_of_ends ends
  waiting := by
    intro events outcome comes read
    obtain rfl := eq_error_of_read read rfl
    obtain ⟨earlier, ⟨rest, rfl⟩, seen⟩ := ProxyRun.exists_of_watch comes
    rcases seen with fired | ⟨ended, comesTo, same⟩
    · refine .inl (Token.isFired_mono fired ?_)
      have further := ProxyRun.fired_subset_resume proxy (call.detached.after proxy earlier) rest
      rw [after, ProxyRun.resume, ProxyRun.resume, ← List.foldl_append] at further
      exact further
    · have within := List.prefix_append earlier rest
      rcases tells_of_detached comesTo same.symm with told | crashed
      · exact .inr (.inl (told.mono within))
      · exact .inr (.inr (crashed.mono within))
  accounted := by
    intro events fault other faces live
    cases faces with
    | @unconnected attempt key permit limit expiry found stage noDial told =>
        have goesOn : attempt.stage.end? = none := by rw [stage]; rfl
        have alive := isCancelled_eq_false found goesOn live
        refine recorded_or_surfaced_of_settle found goesOn key limit ?_ ?_
        · simp only [Proxy.step, found, stage, alive, Proxy.connect, noDial, told]
          rfl
        · simp only [Proxy.step, found, stage, alive, Proxy.connect, noDial, told]
          exact Assoc.find?_insert_self _ _ _
    | @replied attempt key permit limit expiry reply found stage due replies =>
        have goesOn : attempt.stage.end? = none := by rw [stage]; rfl
        have alive := isCancelled_eq_false found goesOn live
        refine recorded_or_surfaced_of_settle found goesOn key limit ?_ ?_
        · simp only [Proxy.step, found, stage, alive, due, if_true, replies]
          rfl
        · simp only [Proxy.step, found, stage, alive, due, if_true, replies]
          exact Assoc.find?_insert_self _ _ _

/-! ## A caller that does not give up -/

/-- A caller that never fires its token. -/
def patient : BegunCall Unit Unit := .cart .fresh

/-- A service that tells a cancellation makes a call end with one, and a handler that breaks
down makes the wait for a detached call end with one, though no token has fired. -/
theorem not_fired_of_cancelled :
    (¬ ∀ (call : BegunCall Unit Unit) (proxy : Proxy Unit Unit) (events : List (ProxyEvent Unit)),
      proxy.fallback = .failFast -> call.FailsWith proxy events .cancelled ->
        call.context.token.isFired (call.after proxy events).fabric.fired = true) ∧
    ¬ ∀ (call : BegunCall Unit Unit) (proxy : Proxy Unit Unit) (events : List (ProxyEvent Unit)),
      proxy.fallback = .failFast -> call.waited proxy events = some (.error .cancelled) ->
        call.context.token.isFired (call.detached.after proxy events).fabric.fired = true := by
  refine ⟨fun attached => ?_, fun waiting => ?_⟩
  · have fired := attached patient (.replyingAfter (Duration.ofMillis 10) (.fault .cancelled))
      (askedFor (Duration.ofMillis 10)) rfl
      ⟨.error .cancelled, ⟨by decide +kernel, by decide +kernel⟩, rfl⟩
    cases fired
  · have fired := waiting patient (.replyingAfter (Duration.ofMillis 10) .crash)
      (askedFor (Duration.ofMillis 10) ++ [.step 0]) rfl (by decide +kernel)
    cases fired

end BegunCall
end MallFabric
