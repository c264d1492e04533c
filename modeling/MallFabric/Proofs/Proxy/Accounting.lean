import MallFabric.Proofs.Proxy.Life

/-!
# Results and what the circuit records

The result of a call and what the circuit of its method records of it tell the
same story.  An answer means a hit or one recorded success; a fault that blames
the service means a rejection or one recorded failure or timeout; every other
fault leaves no record.
-/

namespace MallFabric

variable {Conn Peers : Type}

/-- Faults that reach the caller as they are and leave no record. -/
def Fault.Unrecorded (fault : Fault) : Prop :=
  fault = .cancelled ∨ fault = .timeout ∨ fault.isContract = true ∨ fault.isCaller = true

/-- Faults that tell the caller that a service is not there for it. -/
def Fault.IsUnavailable (fault : Fault) : Prop :=
  ∃ service method reason, fault = .serviceUnavailable service method reason

theorem Fault.Unrecorded.not_isUnavailable
    {fault : Fault}
    (unrecorded : fault.Unrecorded) :
    ¬ fault.IsUnavailable := by
  rintro ⟨service, method, reason, rfl⟩
  rcases unrecorded with equal | equal | contract | caller
  · cases equal
  · cases equal
  · cases contract
  · cases caller

/-- A fault that is judged to surface leaves no record. -/
theorem unrecorded_of_judge
    {callerBound : Bool}
    {fault surfaced : Fault}
    (judged : judge callerBound fault = .surfaces surfaced) :
    surfaced.Unrecorded := by
  unfold judge at judged
  split at judged
  · next cancelled =>
      cases judged
      exact Or.inl cancelled
  · split at judged
    · next contract =>
        cases judged
        exact Or.inr (Or.inr (Or.inl contract))
    · split at judged
      · next caller =>
          cases judged
          exact Or.inr (Or.inr (Or.inr caller))
      · split at judged
        · next timeout =>
            cases callerBound with
            | true =>
                cases judged
                exact Or.inr (Or.inl timeout)
            | false => cases judged
        · cases judged

/-- A fault that is judged to degrade the call is no success. -/
theorem ne_success_of_judge
    {callerBound : Bool}
    {fault cause : Fault}
    {outcome : Outcome}
    (judged : judge callerBound fault = .degrades outcome cause) :
    outcome ≠ .success := by
  unfold judge at judged
  split at judged
  · cases judged
  · split at judged
    · cases judged
    · split at judged
      · cases judged
      · split at judged
        · cases callerBound with
          | true => cases judged
          | false =>
              cases judged
              exact Outcome.noConfusion
        · cases judged
          exact Outcome.noConfusion

/-- An answer comes only from a handler that ran. -/
theorem DispatchTable.accepts_of_answer
    {table : DispatchTable Conn Peers}
    {conn : Conn}
    {method : Method}
    {context : CallContext}
    {now : Instant}
    {payload : Bytes}
    {peers after : Peers}
    {reply : Timed (Reply Bytes)}
    {answer : Bytes}
    (invocation : table.invokeRaw conn method context now payload peers = (reply, after))
    (answers : reply.result = .answer answer) :
    table.accepts method payload = true := by
  unfold invokeRaw at invocation
  unfold accepts
  cases found : table.entries.find? method with
  | none =>
      simp only [found, Prod.mk.injEq] at invocation
      rw [← invocation.1] at answers
      cases answers
  | some entry =>
      cases decoded : decodeRequest method entry.request payload with
      | error fault =>
          simp only [found, decoded, Prod.mk.injEq] at invocation
          rw [← invocation.1] at answers
          cases answers
      | ok request => simp only [decoded]

namespace CallAct

/-- The outcome that an act records. -/
def outcome? : CallAct -> Option Outcome
  | recorded outcome => some outcome
  | _ => none

/-- The outcomes that are recorded. -/
def outcomes (acts : List CallAct) : List Outcome := acts.filterMap outcome?

/-- An attempt is under way: nothing was recorded yet, and the handler ran at
most once. -/
structure Working (acts : List CallAct) : Prop where
  busy : ∀ act ∈ acts, act = .dialled ∨ act = .invoked
  once : acts.count .invoked ≤ 1

@[simp] theorem outcomes_hit : outcomes [.hit] = [] := rfl

@[simp] theorem outcomes_rejected (rejection : Rejection) :
    outcomes [.rejected rejection] = [] := rfl

theorem Working.outcomes_eq_nil
    {acts : List CallAct}
    (working : Working acts) :
    outcomes acts = [] := by
  refine List.filterMap_eq_nil_iff.mpr fun act present => ?_
  rcases working.busy act present with rfl | rfl
  · rfl
  · rfl

theorem Working.outcomes_append
    {acts : List CallAct}
    (working : Working acts)
    (outcome : Outcome) :
    outcomes (acts ++ [.recorded outcome]) = [outcome] := by
  have before := working.outcomes_eq_nil
  rw [outcomes, List.filterMap_append] at *
  rw [before]
  rfl

theorem Working.count_append
    {acts : List CallAct}
    (working : Working acts)
    (outcome : Outcome) :
    (acts ++ [recorded outcome]).count invoked ≤ 1 := by
  have once := working.once
  simpa [List.count_append] using once

/-- An attempt is neither a hit nor a rejection. -/
theorem Working.ne_singleton
    {acts : List CallAct}
    (working : Working acts)
    {act : CallAct}
    (other : act ≠ .dialled ∧ act ≠ .invoked) :
    acts ≠ [act] := by
  rintro rfl
  rcases working.busy act (List.mem_singleton_self act) with same | same
  · exact other.1 same
  · exact other.2 same

end CallAct

open CallAct

/-! ## What a step does to the circuit -/

/-- What becomes of a circuit by one step of a call, and the outcomes that it
records. -/
inductive CircuitUse (now : Instant) (circuit : Circuit) : Circuit -> List Outcome -> Prop where
  | untouched : CircuitUse now circuit circuit []
  | decided {verdict decided}
      (decision : circuit.decide now = (verdict, decided)) :
      CircuitUse now circuit decided []
  | taken {holding}
      (taken : circuit.takeSlot = some holding) :
      CircuitUse now circuit holding []
  | rolledBack {since trial}
      (full : circuit.takeSlot = none) :
      CircuitUse now circuit (circuit.rollback since trial) []
  | dropped (permit : Permit) : CircuitUse now circuit (circuit.drop permit) []
  | resolved (permit : Permit) (outcome : Outcome) :
      CircuitUse now circuit (circuit.resolve now permit outcome) [outcome]

theorem circuitUse_endPermit
    (now : Instant)
    (circuit : Circuit)
    (permit : Permit)
    (outcome : Option Outcome) :
    CircuitUse now circuit (circuit.endPermit now permit outcome)
      (outcomes (outcome.toList.map .recorded)) := by
  cases outcome with
  | none => exact .dropped permit
  | some outcome => exact .resolved permit outcome

/-- The acts of a step tell exactly which outcomes the circuit of the method
records. -/
theorem Proxy.Move.circuitUse
    {proxy : Proxy Conn Peers}
    {now : Instant}
    {id : CallId}
    {fabric : Fabric Conn Peers}
    {call : Call}
    {result : Proxy.StepResult Conn Peers}
    (move : Proxy.Move proxy now id fabric call result) :
    CircuitUse now (fabric.circuit proxy.config.circuit call.method)
      (result.fabric.circuit proxy.config.circuit call.method) (outcomes result.acts) := by
  have kept : ∀ {later : Fabric Conn Peers}, later.circuits = fabric.circuits ->
      CircuitUse now (fabric.circuit proxy.config.circuit call.method)
        (later.circuit proxy.config.circuit call.method) [] := by
    intro later same
    rw [Fabric.circuit_congr same]
    exact .untouched
  have written : ∀ {later : Fabric Conn Peers} {circuit : Circuit} {recorded : List Outcome},
      later.circuits = fabric.circuits.insert call.method circuit ->
        CircuitUse now (fabric.circuit proxy.config.circuit call.method) circuit recorded ->
          CircuitUse now (fabric.circuit proxy.config.circuit call.method)
            (later.circuit proxy.config.circuit call.method) recorded := by
    intro later circuit recorded insertion used
    rw [Fabric.circuit_of_insert insertion]
    exact used
  cases move with
  | decided stage decision => exact written rfl (.decided decision)
  | refused stage decision => exact written rfl (.decided decision)
  | admitted stage taken => exact written rfl (.taken taken)
  | saturated stage full => exact written rfl (.rolledBack full)
  | unconnected stage cause => exact written rfl (circuitUse_endPermit _ _ _ _)
  | concluded stage ended => exact written rfl (circuitUse_endPermit _ _ _ _)
  | carriedOut stage live noDial result inTime invocation =>
      have nothing : outcomes
          (if proxy.table.accepts call.method call.payload then [.invoked] else []) = [] := by
        split
        · rfl
        · rfl
      exact nothing.symm ▸ kept rfl
  | _ => exact kept rfl

/-! ## How calls end -/

/-- How a call to a method may end, and what it did until then. -/
inductive CallEnding (proxy : Proxy Conn Peers) (method : Method) :
    Except Fault Bytes -> List CallAct -> Prop where
  | served {answer} : CallEnding proxy method (.ok answer) [.hit]
  | rejected {rejection cause} :
      CallEnding proxy method (proxy.degrade method cause) [.rejected rejection]
  | succeeded {answer acts}
      (working : Working acts)
      (ran : .invoked ∈ acts) :
      CallEnding proxy method (.ok answer) (acts ++ [.recorded .success])
  | degraded {outcome cause acts}
      (working : Working acts)
      (failed : outcome ≠ .success) :
      CallEnding proxy method (proxy.degrade method cause) (acts ++ [.recorded outcome])
  | surfaced {fault acts}
      (working : Working acts)
      (unrecorded : fault.Unrecorded) :
      CallEnding proxy method (.error fault) acts

/-- A call that fails, and has not been degraded or turned away, leaves no record. -/
theorem CallEnding.outcomes_eq_nil
    {proxy : Proxy Conn Peers}
    {method : Method}
    {result : Except Fault Bytes}
    {acts : List CallAct}
    (ending : CallEnding proxy method result acts)
    {fault : Fault}
    (failed : result = .error fault)
    (genuine : ∀ cause, proxy.degrade method cause ≠ .error fault) :
    outcomes acts = [] := by
  cases ending with
  | served => rfl
  | rejected => rfl
  | succeeded working ran => cases failed
  | degraded working recorded => exact absurd failed (genuine _)
  | surfaced working unrecorded => exact working.outcomes_eq_nil

/-- What a call can have done, by the stage that it has come to. -/
def Accounted (proxy : Proxy Conn Peers) (call : Call) (acts : List CallAct) : Prop :=
  match call.stage with
  | .arriving => acts = []
  | .lookingUp _ => acts = []
  | .admitting _ => acts = []
  | .claiming _ _ _ => acts = []
  | .connecting _ _ _ _ => ∀ act ∈ acts, act = .dialled
  | .handling _ _ _ _ reply =>
      Working acts ∧ ∀ answer, reply.result = .answer answer -> .invoked ∈ acts
  | .storing _ answer => CallEnding proxy call.method (.ok answer) acts
  | .finished result => CallEnding proxy call.method result acts
  | .crashed => Working acts

theorem count_invoked_of_dialled
    {acts : List CallAct}
    (dialled : ∀ act ∈ acts, act = .dialled) :
    acts.count .invoked = 0 := by
  rw [List.count_eq_zero]
  intro present
  cases dialled _ present

theorem working_of_dialled
    {acts : List CallAct}
    (dialled : ∀ act ∈ acts, act = .dialled) :
    Working acts := by
  refine ⟨fun act present => Or.inl (dialled act present), ?_⟩
  rw [count_invoked_of_dialled dialled]
  exact Nat.zero_le 1

theorem working_append
    {acts : List CallAct}
    (dialled : ∀ act ∈ acts, act = .dialled)
    (runs : Bool) :
    Working (acts ++ if runs then [.invoked] else []) := by
  have working := working_of_dialled dialled
  cases runs with
  | false => simpa using working
  | true =>
      refine ⟨?_, ?_⟩
      · intro act present
        rcases List.mem_append.mp present with before | last
        · exact working.busy act before
        · exact Or.inr (List.mem_singleton.mp last)
      · simp [List.count_append, count_invoked_of_dialled dialled]

/-- The end of an attempt accounts for what the call did. -/
theorem accounted_settle
    {proxy : Proxy Conn Peers}
    {call : Call}
    {acts : List CallAct}
    (working : Working acts)
    {ending : Reply Bytes}
    (answered : ∀ answer, ending = .answer answer -> .invoked ∈ acts)
    (key : Option String)
    (limit : Duration) :
    Accounted proxy { call with stage := (proxy.settle call.method key limit ending).stage }
      (acts ++ (proxy.settle call.method key limit ending).outcome.toList.map .recorded) := by
  cases ending with
  | answer answer =>
      have ran := answered answer rfl
      cases key with
      | none => exact .succeeded working ran
      | some key => exact .succeeded working ran
  | crash =>
      have nothing : acts ++ [] = acts := List.append_nil acts
      exact nothing.symm ▸ working
  | fault fault =>
      cases judged : judge (limit < proxy.config.circuit.timeout) fault with
      | surfaces surfaced =>
          rw [Proxy.settle_surfaces judged, Option.toList_none, List.map_nil, List.append_nil]
          exact CallEnding.surfaced working (unrecorded_of_judge judged)
      | degrades outcome cause =>
          rw [Proxy.settle_degrades judged, Option.toList_some, List.map_singleton]
          exact CallEnding.degraded working (ne_success_of_judge judged)

namespace Proxy

variable {proxy : Proxy Conn Peers} {now : Instant} {id : CallId} {fabric : Fabric Conn Peers}
variable {call : Call} {result : StepResult Conn Peers} {acts : List CallAct}

/-- Each move accounts for what the call did. -/
theorem Move.accounted
    (move : Move proxy now id fabric call result)
    (found : fabric.calls.find? id = some call)
    (accounted : Accounted proxy call acts) :
    ∃ later, result.fabric.calls.find? id = some later ∧ later.method = call.method ∧
      Accounted proxy later (acts ++ result.acts) := by
  have goesTo : ∀ (between : Fabric Conn Peers) (stage : CallStage) (more : List CallAct),
      Accounted proxy { call with stage } (acts ++ more) ->
        ∃ later, (between.setCall id { call with stage }).calls.find? id = some later ∧
          later.method = call.method ∧ Accounted proxy later (acts ++ more) :=
    fun between stage more after => ⟨_, Assoc.find?_insert_self _ _ _, rfl, after⟩
  have stays : ∃ later, fabric.calls.find? id = some later ∧ later.method = call.method ∧
      Accounted proxy later (acts ++ []) :=
    ⟨call, found, rfl, (List.append_nil acts).symm ▸ accounted⟩
  have idle : Working [] := working_of_dialled fun _ present => by cases present
  cases move with
  | unregistered stage missing =>
      obtain rfl : acts = [] := by simpa only [Accounted, stage] using accounted
      exact goesTo _ _ _ (CallEnding.surfaced idle (Or.inr (Or.inr (Or.inl rfl))))
  | givenUp stage registered given =>
      obtain rfl : acts = [] := by simpa only [Accounted, stage] using accounted
      exact goesTo _ _ _ (CallEnding.surfaced idle (Or.inl rfl))
  | lookUp stage registered live cached =>
      obtain rfl : acts = [] := by simpa only [Accounted, stage] using accounted
      exact goesTo _ _ _ rfl
  | pass stage registered live uncached =>
      obtain rfl : acts = [] := by simpa only [Accounted, stage] using accounted
      exact goesTo _ _ _ rfl
  | hit stage found =>
      obtain rfl : acts = [] := by simpa only [Accounted, stage] using accounted
      exact goesTo _ _ _ CallEnding.served
  | miss stage missing =>
      obtain rfl : acts = [] := by simpa only [Accounted, stage] using accounted
      exact goesTo _ _ _ rfl
  | decided stage decision =>
      obtain rfl : acts = [] := by simpa only [Accounted, stage] using accounted
      exact goesTo _ _ _ rfl
  | refused stage decision =>
      obtain rfl : acts = [] := by simpa only [Accounted, stage] using accounted
      exact goesTo _ _ _ CallEnding.rejected
  | admitted stage taken =>
      obtain rfl : acts = [] := by simpa only [Accounted, stage] using accounted
      exact goesTo _ _ _ fun _ present => absurd present List.not_mem_nil
  | saturated stage full =>
      obtain rfl : acts = [] := by simpa only [Accounted, stage] using accounted
      exact goesTo _ _ _ CallEnding.rejected
  | unconnected stage cause =>
      have dialled : ∀ act ∈ acts, act = .dialled := by
        simpa only [Accounted, stage] using accounted
      refine goesTo _ _ _ (accounted_settle (working_of_dialled dialled) ?_ _ _)
      exact fun _ answered => by cases answered
  | dialEnded stage live dials due => exact stays
  | joined stage live noDial noResult progress => exact stays
  | dialled stage live noDial noResult progress dials =>
      have dialled : ∀ act ∈ acts, act = .dialled := by
        simpa only [Accounted, stage] using accounted
      refine ⟨call, found, rfl, ?_⟩
      simp only [Accounted, stage]
      intro act present
      rcases List.mem_append.mp present with before | last
      · exact dialled act before
      · exact List.mem_singleton.mp last
  | dialAwaited stage live dials early => exact stays
  | turnAwaited stage live noDial noResult waits early => exact stays
  | carriedOut stage live noDial result inTime invocation =>
      have dialled : ∀ act ∈ acts, act = .dialled := by
        simpa only [Accounted, stage] using accounted
      refine goesTo _ _ _ ⟨working_append dialled _, fun answer answers => ?_⟩
      rw [DispatchTable.accepts_of_answer invocation answers, if_pos rfl]
      exact List.mem_append_right _ (List.mem_singleton_self _)
  | @concluded key permit limit expiry reply ending stage ended =>
      have handled : Working acts ∧
          ∀ answer, reply.result = .answer answer -> .invoked ∈ acts := by
        simpa only [Accounted, stage] using accounted
      refine goesTo _ _ _ (accounted_settle handled.1 (fun answer answers => ?_) _ _)
      cases ended with
      | cancelled given => cases answers
      | replied live due => exact handled.2 answer answers
      | timedOut live early expired => cases answers
  | replyAwaited stage live early => exact stays
  | @stored key answer stage =>
      have ending : CallEnding proxy call.method (.ok answer) acts := by
        simpa only [Accounted, stage] using accounted
      exact goesTo _ _ [] ((List.append_nil acts).symm ▸ ending)
  | ended stage => exact stays

end Proxy

namespace Life

variable {proxy : Proxy Conn Peers} {id : CallId} {fabric after : Fabric Conn Peers}
variable {method : Method} {context : CallContext} {payload : Bytes} {cached : Bool}
variable {acts : List CallAct} {result : Except Fault Bytes}

/-- A call is accounted for all its life. -/
theorem accounted
    (life : Life proxy id (proxy.begin id method context payload cached fabric) acts after) :
    ∃ call, after.calls.find? id = some call ∧ call.method = method ∧
      Accounted proxy call acts := by
  induction life with
  | begun => exact ⟨_, Assoc.find?_insert_self _ _ _, rfl, rfl⟩
  | meanwhile life undisturbed inductionHypothesis =>
      rw [undisturbed.call]
      exact inductionHypothesis
  | stepped life now inductionHypothesis =>
      obtain ⟨call, found, sameMethod, accounted⟩ := inductionHypothesis
      rw [← sameMethod]
      exact (Proxy.move_step found).accounted found accounted

/-- What a call that has a result did. -/
theorem ending
    (life : Life proxy id (proxy.begin id method context payload cached fabric) acts after)
    (ended : after.result? id = some (some result)) :
    CallEnding proxy method result acts := by
  obtain ⟨call, found, rfl, accounted⟩ := life.accounted
  simp only [Fabric.result?, found] at ended
  cases stage : call.stage with
  | finished known =>
      simp only [stage, Option.some.injEq] at ended
      simp only [Accounted, stage] at accounted
      exact ended ▸ accounted
  | _ => simp [stage] at ended

/-- Whenever a call takes a step, the circuit of its method records exactly the
outcomes among the acts of the step. -/
theorem circuitUse
    (life : Life proxy id (proxy.begin id method context payload cached fabric) acts after)
    (now : Instant) :
    CircuitUse now (after.circuit proxy.config.circuit method)
      ((proxy.step now id after).fabric.circuit proxy.config.circuit method)
      (outcomes (proxy.step now id after).acts) := by
  obtain ⟨call, found, rfl, -⟩ := life.accounted
  exact (Proxy.move_step found).circuitUse

end Life

/-- The result of a call and what it did tell the same story. -/
structure Agreement (result : Except Fault Bytes) (acts : List CallAct) : Prop where
  oneOutcome : (outcomes acts).length ≤ 1
  oneInvocation : acts.count .invoked ≤ 1
  /-- An answer is a hit and nothing else, or it is recorded as the one success. -/
  answered : (∃ answer, result = .ok answer) ↔ acts = [.hit] ∨ outcomes acts = [.success]
  /-- A service is not there if the circuit turned the call away and nothing else
  was done, or if one failure or timeout is recorded. -/
  unavailable : (∃ fault, result = .error fault ∧ fault.IsUnavailable) ↔
    (∃ rejection, acts = [.rejected rejection]) ∨
      outcomes acts = [.failure] ∨ outcomes acts = [.timeout]
  /-- Every other fault leaves no record. -/
  unrecorded : ∀ fault, result = .error fault -> ¬ fault.IsUnavailable ->
    outcomes acts = [] ∧ fault.Unrecorded

namespace Agreement

theorem hit (answer : Bytes) : Agreement (.ok answer) [.hit] where
  oneOutcome := Nat.zero_le 1
  oneInvocation := Nat.zero_le 1
  answered := ⟨fun _ => Or.inl rfl, fun _ => ⟨answer, rfl⟩⟩
  unavailable := by simp
  unrecorded := fun _ equal => by cases equal

theorem rejected
    {fault : Fault}
    (unavailable : fault.IsUnavailable)
    (rejection : Rejection) :
    Agreement (.error fault) [.rejected rejection] where
  oneOutcome := Nat.zero_le 1
  oneInvocation := Nat.zero_le 1
  answered := by simp
  unavailable := ⟨fun _ => Or.inl ⟨rejection, rfl⟩, fun _ => ⟨fault, rfl, unavailable⟩⟩
  unrecorded := by
    intro other equal available
    cases equal
    exact absurd unavailable available

variable {acts : List CallAct}

theorem succeeded
    (working : Working acts)
    (answer : Bytes) :
    Agreement (.ok answer) (acts ++ [.recorded .success]) := by
  have record := working.outcomes_append .success
  refine ⟨?_, working.count_append _, ?_, ?_, ?_⟩
  · rw [record]
    exact Nat.le_refl 1
  · exact ⟨fun _ => Or.inr record, fun _ => ⟨answer, rfl⟩⟩
  · constructor
    · rintro ⟨fault, equal, -⟩
      cases equal
    · rintro (⟨rejection, equal⟩ | equal | equal)
      · rw [equal] at record
        cases record
      · cases record.symm.trans equal
      · cases record.symm.trans equal
  · exact fun _ equal => by cases equal

theorem degraded
    (working : Working acts)
    {fault : Fault}
    (unavailable : fault.IsUnavailable)
    {outcome : Outcome}
    (failed : outcome ≠ .success) :
    Agreement (.error fault) (acts ++ [.recorded outcome]) := by
  have record := working.outcomes_append outcome
  refine ⟨?_, working.count_append _, ?_, ?_, ?_⟩
  · rw [record]
    exact Nat.le_refl 1
  · constructor
    · rintro ⟨answer, equal⟩
      cases equal
    · rintro (equal | equal)
      · rw [equal] at record
        cases record
      · rw [record] at equal
        exact absurd (List.singleton_inj.mp equal) failed
  · refine ⟨fun _ => Or.inr ?_, fun _ => ⟨fault, rfl, unavailable⟩⟩
    rw [record]
    cases outcome with
    | success => exact absurd rfl failed
    | failure => exact Or.inl rfl
    | timeout => exact Or.inr rfl
  · intro other equal available
    cases equal
    exact absurd unavailable available

theorem surfaced
    (working : Working acts)
    {fault : Fault}
    (unrecorded : fault.Unrecorded) :
    Agreement (.error fault) acts := by
  have record := working.outcomes_eq_nil
  refine ⟨?_, working.once, ?_, ?_, ?_⟩
  · rw [record]
    exact Nat.zero_le 1
  · constructor
    · rintro ⟨answer, equal⟩
      cases equal
    · rintro (equal | equal)
      · exact absurd equal (working.ne_singleton (by simp))
      · cases record.symm.trans equal
  · constructor
    · rintro ⟨other, equal, unavailable⟩
      cases equal
      exact absurd unavailable unrecorded.not_isUnavailable
    · rintro (⟨rejection, equal⟩ | equal | equal)
      · exact absurd equal (working.ne_singleton (by simp))
      · cases record.symm.trans equal
      · cases record.symm.trans equal
  · intro other equal available
    cases equal
    exact ⟨record, unrecorded⟩

end Agreement

/-- The result of a call and the record of its circuit agree, where no method has
a prepared answer: the result and the acts of the call tell the same story, and
every step that the call takes makes the circuit of its method record exactly the
outcomes among its acts. -/
theorem result_agrees_with_record
    {proxy : Proxy Conn Peers}
    (failFast : proxy.fallback = .failFast)
    {id : CallId}
    {method : Method}
    {context : CallContext}
    {payload : Bytes}
    {cached : Bool}
    {fabric after : Fabric Conn Peers}
    {acts : List CallAct}
    (life : Life proxy id (proxy.begin id method context payload cached fabric) acts after)
    {result : Except Fault Bytes}
    (ended : after.result? id = some (some result)) :
    Agreement result acts ∧
      ∀ earlier between now,
        Life proxy id (proxy.begin id method context payload cached fabric) earlier between ->
          CircuitUse now (between.circuit proxy.config.circuit method)
            ((proxy.step now id between).fabric.circuit proxy.config.circuit method)
            (outcomes (proxy.step now id between).acts) := by
  have degrade : ∀ cause, proxy.degrade method cause =
      .error (Fallback.unavailable method cause) := by
    intro cause
    rw [Proxy.degrade, failFast]
    rfl
  have unavailable : ∀ cause, (Fallback.unavailable method cause).IsUnavailable :=
    fun cause => ⟨_, _, _, rfl⟩
  refine ⟨?_, fun earlier between now lived => lived.circuitUse now⟩
  cases life.ending ended with
  | @served answer => exact .hit answer
  | @rejected rejection cause =>
      rw [degrade]
      exact .rejected (unavailable cause) rejection
  | @succeeded answer acts working ran => exact .succeeded working answer
  | @degraded outcome cause acts working failed =>
      rw [degrade]
      exact .degraded working (unavailable cause) failed
  | surfaced working unrecorded => exact .surfaced working unrecorded

/-- A proxy for one method, whose service refuses every connection. -/
def refusedProxy : Proxy Unit Unit where
  config := ProxyConfig.standard
  table := DispatchTable.empty.register ⟨"cart", "GetCart"⟩ .getCartReq .getCartResp
    fun _ _ now _ peers => (⟨now, .crash⟩, peers)
  dialler := ⟨none, fun now endpoint peers =>
    (⟨now, .error (.connection endpoint.name "refused")⟩, peers)⟩
  fallback := .failFast

/-- A call of that proxy, when it begins and when it has gone on. -/
def refusedCall : Fabric Unit Unit :=
  refusedProxy.begin 0 ⟨"cart", "GetCart"⟩ .fresh [] true
    (Fabric.new .off (Pool.new [⟨"cart", "localhost:1"⟩] false) ())

theorem result_agrees_with_record_refused :
    refusedProxy.fallback = .failFast ∧
      Life refusedProxy 0 refusedCall [.dialled, .recorded .failure]
        (refusedProxy.advance 0 0 Proxy.stepBound refusedCall).fabric ∧
      (refusedProxy.advance 0 0 Proxy.stepBound refusedCall).fabric.result? 0 =
        some (some (.error (.serviceUnavailable "cart" "GetCart"
          "connection to cart failed: refused"))) ∧
      Agreement
        (.error (.serviceUnavailable "cart" "GetCart" "connection to cart failed: refused"))
        [.dialled, .recorded .failure] := by
  have life : Life refusedProxy 0 refusedCall [.dialled, .recorded .failure] _ :=
    Proxy.life_advance .begun 0 Proxy.stepBound
  exact ⟨rfl, life, rfl, (result_agrees_with_record rfl life rfl).1⟩

end MallFabric
