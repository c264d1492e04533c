import MallFabric.Proofs.Proxy.Retoken

/-!
# Waiting for calls

Whoever waits for a call of a run sees what it ends with, unless the token of the wait
fires before.  The calls of a run keep the tokens under which they have begun, and a
token that has fired stays fired.
-/

namespace MallFabric

variable {Conn Peers : Type}

namespace ProxyRun

/-! ## What is learnt of a call -/

/-- What a call of the run is seen to end with, by one who looks after every event. -/
def learnt (proxy : Proxy Conn Peers) (id : CallId) (run : ProxyRun Conn Peers) :
    List (ProxyEvent Peers) -> Option (Option (Except Fault Bytes))
  | [] => run.fabric.result? id
  | event :: rest => (run.fabric.result? id).or (learnt proxy id (run.step proxy event) rest)

/-- A waiter looks after every event. -/
def watch (proxy : Proxy Conn Peers) (waiter : Waiter) (run : ProxyRun Conn Peers) :
    List (ProxyEvent Peers) -> Waiter
  | [] => waiter.advance run.fabric
  | event :: rest => watch proxy (waiter.advance run.fabric) (run.step proxy event) rest

end ProxyRun

namespace Waiter

variable {waiter : Waiter} {fabric : Fabric Conn Peers}

/-- What a wait has come to is final. -/
theorem advance_of_outcome
    {outcome : Except Fault Bytes}
    (ended : waiter.outcome = some outcome)
    (fabric : Fabric Conn Peers) :
    waiter.advance fabric = waiter := by
  simp [advance, ended]

theorem advance_of_fired
    (waits : waiter.outcome = none)
    (fired : waiter.token.isFired fabric.fired = true) :
    waiter.advance fabric = { waiter with outcome := some (.error .cancelled) } := by
  simp [advance, waits, fired]

/-- While the token has not fired, a wait comes to what the call has come to. -/
theorem advance_of_live
    (waits : waiter.outcome = none)
    (live : waiter.token.isFired fabric.fired = false) :
    waiter.advance fabric =
      { waiter with
        outcome := (fabric.result? waiter.call).map (·.getD (.error .cancelled)) } := by
  obtain ⟨call, token, outcome⟩ := waiter
  obtain rfl : outcome = none := waits
  simp only at live
  simp only [advance, live, Bool.false_eq_true, if_false]
  cases fabric.result? call with
  | none => rfl
  | some ended =>
      cases ended with
      | none => rfl
      | some result => rfl

theorem token_advance
    (waiter : Waiter)
    (fabric : Fabric Conn Peers) :
    (waiter.advance fabric).token = waiter.token := by
  cases ended : waiter.outcome with
  | some outcome => rw [advance_of_outcome ended]
  | none =>
      cases fired : waiter.token.isFired fabric.fired with
      | true => rw [advance_of_fired ended fired]
      | false => rw [advance_of_live ended fired]

end Waiter

namespace ProxyRun

variable {proxy : Proxy Conn Peers} {run : ProxyRun Conn Peers}

theorem watch_of_outcome
    {waiter : Waiter}
    {outcome : Except Fault Bytes}
    (ended : waiter.outcome = some outcome)
    (run : ProxyRun Conn Peers)
    (events : List (ProxyEvent Peers)) :
    watch proxy waiter run events = waiter := by
  induction events generalizing run with
  | nil => exact waiter.advance_of_outcome ended run.fabric
  | cons event rest inductionHypothesis =>
      rw [watch, waiter.advance_of_outcome ended]
      exact inductionHypothesis _

/-- To look twice is to look once. -/
theorem watch_advance
    (waiter : Waiter)
    (run : ProxyRun Conn Peers)
    (events : List (ProxyEvent Peers)) :
    watch proxy (waiter.advance run.fabric) run events = watch proxy waiter run events := by
  have twice : (waiter.advance run.fabric).advance run.fabric = waiter.advance run.fabric := by
    cases ended : (waiter.advance run.fabric).outcome with
    | some outcome => exact Waiter.advance_of_outcome ended run.fabric
    | none =>
        have idle : waiter.advance run.fabric = waiter := by
          cases before : waiter.outcome with
          | some outcome => exact Waiter.advance_of_outcome before run.fabric
          | none =>
              cases fired : waiter.token.isFired run.fabric.fired with
              | true =>
                  rw [Waiter.advance_of_fired before fired] at ended
                  cases ended
              | false =>
                  rw [Waiter.advance_of_live before fired] at ended ⊢
                  exact congrArg (Waiter.mk waiter.call waiter.token) (ended.trans before.symm)
        rw [idle, idle]
  cases events with
  | nil => exact twice
  | cons event rest => rw [watch, watch, twice]

/-! ## The calls of a run and their tokens -/

/-- Where a call of a run comes from when something has happened. -/
inductive Descends (run : ProxyRun Conn Peers) (event : ProxyEvent Peers) (id : CallId)
    (call : Call) : Prop where
  /-- It was there, and only a step of its own takes it to another stage. -/
  | older {before : Call} {stage : CallStage}
      (found : run.fabric.calls.find? id = some before)
      (goesOn : call = { before with stage })
      (rests : event ≠ .step id -> stage = before.stage)
  /-- It has just begun, attached to its caller or under a token of its own. -/
  | begun
      (number : id = run.next)
      (token : call.context.token ∈ event.token? ∨ call.context.token = .own false)

theorem descends_of_find?_step
    {event : ProxyEvent Peers}
    {id : CallId}
    {call : Call}
    (found : (run.step proxy event).fabric.calls.find? id = some call) :
    Descends run event id call := by
  have inserted : ∀ new : Call,
      new.context.token ∈ event.token? ∨ new.context.token = .own false ->
        (run.fabric.setCall run.next new).calls.find? id = some call ->
          Descends run event id call := by
    intro new token present
    by_cases same : id = run.next
    · subst same
      rw [Fabric.setCall, Assoc.find?_insert_self, Option.some.injEq] at present
      subst present
      exact .begun rfl token
    · rw [Fabric.setCall, Assoc.find?_insert_of_ne _ _ same] at present
      exact .older present rfl fun _ => rfl
  have typed : ∀ (request : TypedRequest) context cached,
      context.token ∈ event.token? ∨ context.token = .own false ->
        (proxy.beginTyped run.next request context cached run.fabric).calls.find? id = some call ->
          Descends run event id call := by
    intro request context cached token present
    obtain ⟨new, begun, -, rfl⟩ := proxy.exists_beginTyped run.next request context cached run.fabric
    rw [begun] at present
    exact inserted new token present
  cases event with
  | call request context cached => exact typed request context cached (.inl rfl) found
  | detach request context => exact typed request _ true (.inr rfl) found
  | raw method context payload => exact inserted _ (.inl rfl) found
  | step other =>
      by_cases same : id = other
      · subst same
        cases before : run.fabric.calls.find? id with
        | none =>
            rw [step_of_absent before, before] at found
            cases found
        | some former =>
            obtain ⟨stage, later, -⟩ := (Proxy.move_step before).passage before
            obtain rfl : call = { former with stage } :=
              Option.some.inj (found.symm.trans later)
            exact .older before rfl fun other => absurd rfl other
      · have kept := (proxy.undisturbed_step run.clock run.fabric same).call
        exact .older (kept.symm.trans found) rfl fun _ => rfl
  | abort other =>
      by_cases same : id = other
      · subst same
        rw [step, (abort_eq proxy id run.fabric).2, Assoc.find?_erase_self] at found
        cases found
      · rw [step, (abort_eq proxy other run.fabric).2, Assoc.find?_erase_of_ne _ same] at found
        exact .older found rfl fun _ => rfl
  | _ => exact .older found rfl fun _ => rfl

/-- A call whose number has been given out is what it was, if it is still there, when anything
but a step of its own has happened. -/
theorem find?_of_find?_step
    {event : ProxyEvent Peers}
    {id : CallId}
    (counted : id < run.next)
    (steps : event ≠ .step id)
    {call : Call}
    (found : (run.step proxy event).fabric.calls.find? id = some call) :
    run.fabric.calls.find? id = some call := by
  cases descends_of_find?_step found with
  | begun number token => exact absurd number (Nat.ne_of_lt counted)
  | older present goesOn rests =>
      rw [goesOn, rests steps]
      exact present

/-- The number of the next call only grows. -/
theorem next_le_step
    (proxy : Proxy Conn Peers)
    (run : ProxyRun Conn Peers)
    (event : ProxyEvent Peers) :
    run.next ≤ (run.step proxy event).next := by
  cases event with
  | call typed context cached => exact Nat.le_succ _
  | detach typed context => exact Nat.le_succ _
  | raw method context payload => exact Nat.le_succ _
  | _ => exact Nat.le_refl _

/-- The calls of a number that has been given out keep their token. -/
theorem token_resume
    {number : CallId}
    {token : Token}
    (counted : number < run.next)
    (under : ∀ call, run.fabric.calls.find? number = some call -> call.context.token = token)
    (events : List (ProxyEvent Peers)) :
    ∀ call, (run.resume proxy events).fabric.calls.find? number = some call ->
      call.context.token = token := by
  induction events generalizing run with
  | nil => exact under
  | cons event rest inductionHypothesis =>
      have later : number < (run.step proxy event).next :=
        Nat.lt_of_lt_of_le counted (next_le_step proxy run event)
      refine inductionHypothesis later fun call found => ?_
      cases descends_of_find?_step found with
      | @older before stage present goesOn rests =>
          rw [goesOn]
          exact under before present
      | begun same token => exact absurd same (Nat.ne_of_lt counted)

/-! ## Tokens that fire -/

/-- A token that an event does not fire stays live. -/
theorem isFired_step
    {token : Token}
    (live : token.isFired run.fabric.fired = false)
    {event : ProxyEvent Peers}
    (spared : ∀ name, token = .shared name -> event ≠ .fire name) :
    token.isFired (run.step proxy event).fabric.fired = false := by
  rw [fired_step]
  cases event with
  | fire other =>
      cases token with
      | own fired => exact live
      | shared name =>
          have apart : name ≠ other := fun same => spared name rfl (same ▸ rfl)
          simpa [Token.isFired, ProxyEvent.firing, apart] using live
  | _ => exact live

/-- A token that has fired stays fired. -/
theorem fired_subset_resume
    (proxy : Proxy Conn Peers)
    (run : ProxyRun Conn Peers)
    (events : List (ProxyEvent Peers)) :
    run.fabric.fired ⊆ (run.resume proxy events).fabric.fired := by
  induction events generalizing run with
  | nil => exact List.Subset.refl _
  | cons event rest inductionHypothesis =>
      refine List.Subset.trans ?_ (inductionHypothesis (run.step proxy event))
      rw [fired_step]
      cases event with
      | fire token => exact List.subset_cons_self token _
      | _ => exact List.Subset.refl _

end ProxyRun
end MallFabric
