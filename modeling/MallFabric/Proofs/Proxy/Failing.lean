import MallFabric.Proofs.Proxy.Accounting
import MallFabric.Proofs.Proxy.Origin

/-!
# How calls fail

A step that ends a call with a fault has one of a few reasons: the call was turned
away or degraded, it was cancelled, its time was up, or its service told the fault.
-/

namespace MallFabric

variable {Conn Peers : Type}

/-- The limit and the expiry of an attempt that is under way. -/
def CallStage.bounds? : CallStage -> Option (Duration × Instant)
  | .connecting _ _ limit expiry => some (limit, expiry)
  | .handling _ _ limit expiry _ => some (limit, expiry)
  | _ => none

/-- A call that was put into a stage is in it. -/
theorem Fabric.stage_of_setCall
    {fabric : Fabric Conn Peers}
    {id : CallId}
    {call later : Call}
    {stage : CallStage}
    (after : (fabric.setCall id { call with stage }).calls.find? id = some later) :
    stage = later.stage :=
  congrArg Call.stage (Option.some.inj ((Assoc.find?_insert_self _ _ _).symm.trans after))

namespace Proxy

variable {proxy : Proxy Conn Peers} {now : Instant} {id : CallId} {fabric : Fabric Conn Peers}
variable {call : Call} {result : StepResult Conn Peers} {fault : Fault}

/-- A degraded call that fails tells that its service is not there. -/
theorem eq_unavailable_of_degrade
    {method : Method}
    {cause : Fault}
    (degraded : proxy.degrade method cause = .error fault) :
    fault = Fallback.unavailable method cause := by
  unfold degrade Fallback.degrade at degraded
  split at degraded
  · cases degraded
  · cases degraded
    rfl

/-- Why a step of a call ends it with a fault. -/
inductive Failing (proxy : Proxy Conn Peers) (now : Instant) (id : CallId)
    (fabric : Fabric Conn Peers) (call : Call) : Fault -> Prop where
  | unregistered
      (missing : proxy.table.contains call.method = false) :
      Failing proxy now id fabric call (.methodNotFound call.method)
  | cancelled
      (given : call.context.isCancelled fabric.fired = true) :
      Failing proxy now id fabric call .cancelled
  /-- The call is degraded, or was turned away. -/
  | unavailable (cause : Fault) :
      Failing proxy now id fabric call (Fallback.unavailable call.method cause)
  /-- The time of the attempt is up, and the caller has set it. -/
  | expired {limit expiry}
      (bounds : call.stage.bounds? = some (limit, expiry))
      (tight : limit < proxy.config.circuit.timeout)
      (expired : expiry ≤ now) :
      Failing proxy now id fabric call .timeout
  /-- The pool tells the fault instead of a connection. -/
  | unconnected {key permit limit expiry fault}
      (stage : call.stage = .connecting key permit limit expiry)
      (told : fabric.pool.result? id = some (.error fault))
      (judged : judge (limit < proxy.config.circuit.timeout) fault = .surfaces fault) :
      Failing proxy now id fabric call fault
  /-- The handler replies with the fault. -/
  | replied {key permit limit expiry reply fault}
      (stage : call.stage = .handling key permit limit expiry reply)
      (due : reply.due ≤ now)
      (replies : reply.result = .fault fault)
      (judged : judge (limit < proxy.config.circuit.timeout) fault = .surfaces fault) :
      Failing proxy now id fabric call fault

/-- A timeout surfaces only if the caller's deadline bounded the attempt. -/
theorem tight_of_judge_timeout
    {callerBound : Prop}
    [Decidable callerBound]
    (judged : judge callerBound .timeout = .surfaces .timeout) :
    callerBound := by
  by_contra loose
  simp [judge, Fault.isContract, Fault.isCaller, loose] at judged

/-- An attempt whose fault ends the call with a fault has surfaced or degraded it. -/
theorem surfaced_or_unavailable_of_settle
    {method : Method}
    {key : Option String}
    {limit : Duration}
    {failed : Fault}
    (settled : (proxy.settle method key limit (.fault fault)).stage = .finished (.error failed)) :
    (failed = fault ∧ judge (limit < proxy.config.circuit.timeout) fault = .surfaces fault) ∨
      ∃ cause, failed = Fallback.unavailable method cause := by
  cases judged : judge (limit < proxy.config.circuit.timeout) fault with
  | surfaces surfaced =>
      obtain rfl := eq_of_judge judged
      rw [settle_surfaces judged] at settled
      cases settled
      exact .inl ⟨rfl, rfl⟩
  | degrades outcome cause =>
      rw [settle_degrades judged] at settled
      exact .inr ⟨cause, eq_unavailable_of_degrade (CallStage.finished.inj settled)⟩

/-- An attempt without a connection fails for one of the reasons. -/
theorem Unconnected.failing
    {key : Option String}
    {permit : Permit}
    {limit : Duration}
    {expiry : Instant}
    {pool : Pool Conn}
    {failed : Fault}
    (cause : Unconnected proxy now id fabric call expiry pool fault)
    (stage : call.stage = .connecting key permit limit expiry)
    (settled : (proxy.settle call.method key limit (.fault fault)).stage =
      .finished (.error failed)) :
    Failing proxy now id fabric call failed := by
  have bounds : call.stage.bounds? = some (limit, expiry) := by rw [stage]; rfl
  rcases surfaced_or_unavailable_of_settle settled with ⟨rfl, judged⟩ | ⟨cause, rfl⟩
  · cases cause with
    | cancelled given => exact .cancelled given
    | refused live noDial told => exact .unconnected stage told judged
    | dialling live dials early expired =>
        exact .expired bounds (tight_of_judge_timeout judged) expired
    | departing live noDial result expired departs =>
        exact .expired bounds (tight_of_judge_timeout judged) expired
    | waiting live noDial noResult waits expired =>
        exact .expired bounds (tight_of_judge_timeout judged) expired
  · exact .unavailable cause

/-- So does an attempt with a connection. -/
theorem Ended.failing
    {key : Option String}
    {permit : Permit}
    {limit : Duration}
    {expiry : Instant}
    {reply : Timed (Reply Bytes)}
    {ending : Reply Bytes}
    (ended : Ended now fabric call expiry reply ending)
    (stage : call.stage = .handling key permit limit expiry reply)
    (settled : (proxy.settle call.method key limit ending).stage = .finished (.error fault)) :
    Failing proxy now id fabric call fault := by
  have bounds : call.stage.bounds? = some (limit, expiry) := by rw [stage]; rfl
  cases ended with
  | cancelled given =>
      rcases surfaced_or_unavailable_of_settle settled with ⟨rfl, judged⟩ | ⟨cause, rfl⟩
      · exact .cancelled given
      · exact .unavailable cause
  | timedOut live early expired =>
      rcases surfaced_or_unavailable_of_settle settled with ⟨rfl, judged⟩ | ⟨cause, rfl⟩
      · exact .expired bounds (tight_of_judge_timeout judged) expired
      · exact .unavailable cause
  | replied live due =>
      cases replies : reply.result with
      | answer answer =>
          rw [replies] at settled
          cases key with
          | none => cases settled
          | some key => cases settled
      | crash =>
          rw [replies] at settled
          cases settled
      | fault told =>
          rw [replies] at settled
          rcases surfaced_or_unavailable_of_settle settled with ⟨rfl, judged⟩ | ⟨cause, rfl⟩
          · exact .replied stage due replies judged
          · exact .unavailable cause

/-- Every move that ends a call with a fault has one of the reasons. -/
theorem Move.failing
    (move : Move proxy now id fabric call result)
    (found : fabric.calls.find? id = some call)
    (unended : ∀ outcome, call.stage ≠ .finished outcome)
    (ended : result.fabric.calls.find? id = some { call with stage := .finished (.error fault) }) :
    Failing proxy now id fabric call fault := by
  have stays : fabric.calls.find? id = some { call with stage := .finished (.error fault) } ->
      Failing proxy now id fabric call fault := by
    intro same
    exact absurd (congrArg Call.stage (Option.some.inj (found.symm.trans same))) (unended _)
  have degrades : ∀ {cause : Fault},
      CallStage.finished (proxy.degrade call.method cause) = .finished (.error fault) ->
        Failing proxy now id fabric call fault := by
    intro cause finished
    rw [eq_unavailable_of_degrade (CallStage.finished.inj finished)]
    exact .unavailable cause
  cases move with
  | unregistered stage missing =>
      cases Fabric.stage_of_setCall ended
      exact .unregistered missing
  | givenUp stage registered given =>
      cases Fabric.stage_of_setCall ended
      exact .cancelled given
  | refused stage decision => exact degrades (Fabric.stage_of_setCall ended)
  | saturated stage full => exact degrades (Fabric.stage_of_setCall ended)
  | unconnected stage cause => exact cause.failing stage (Fabric.stage_of_setCall ended)
  | concluded stage ending => exact ending.failing stage (Fabric.stage_of_setCall ended)
  | dialEnded => exact stays ended
  | joined => exact stays ended
  | dialled => exact stays ended
  | dialAwaited => exact stays ended
  | turnAwaited => exact stays ended
  | replyAwaited => exact stays ended
  | ended stage => exact stays ended
  | lookUp => cases Fabric.stage_of_setCall ended
  | pass => cases Fabric.stage_of_setCall ended
  | hit => cases Fabric.stage_of_setCall ended
  | miss => cases Fabric.stage_of_setCall ended
  | decided => cases Fabric.stage_of_setCall ended
  | admitted => cases Fabric.stage_of_setCall ended
  | carriedOut => cases Fabric.stage_of_setCall ended
  | stored => cases Fabric.stage_of_setCall ended

end Proxy
end MallFabric
