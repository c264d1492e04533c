import MallFabric.Flow
import MallFabric.Proofs.Proxy.Accounting

/-!
# Runs of a flow

A flow is carried out by calls that live one after the other, with anything else
between them and beside them.  Its journal tells what each of them asked, what
it did and what it came to.
-/

namespace MallFabric

variable {Conn Peers : Type}

/-- A call that a flow made. -/
structure FlowCall where
  typed : TypedRequest
  acts : List CallAct
  result : Except Fault Bytes

namespace CallAct

/-- Where a service has no prepared answer, an answer comes from the handler, which
ran once, or from the cache. -/
theorem invoked_add_hit
    {proxy : Proxy Conn Peers}
    (failFast : proxy.fallback = .failFast)
    {method : Method}
    {answer : Bytes}
    {acts : List CallAct}
    (ending : CallEnding proxy method (.ok answer) acts) :
    acts.count .invoked + acts.count .hit = 1 := by
  have degrade : ∀ cause, proxy.degrade method cause ≠ .ok answer := by
    intro cause
    rw [Proxy.degrade, failFast]
    intro same
    cases same
  generalize equal : Except.ok answer = result at ending
  cases ending with
  | served => decide
  | @rejected rejection cause => exact absurd equal.symm (degrade cause)
  | @succeeded _ acts working ran =>
      have noHit : acts.count .hit = 0 := by
        rw [List.count_eq_zero]
        intro present
        rcases working.busy _ present with same | same
        · cases same
        · cases same
      have once : acts.count .invoked = 1 :=
        Nat.le_antisymm working.once (List.count_pos_iff.mpr ran)
      simp [List.count_append, noHit, once]
  | @degraded outcome cause acts working failed => exact absurd equal.symm (degrade cause)
  | surfaced working unrecorded => cases equal

end CallAct

namespace Proxy

variable {proxy : Proxy Conn Peers} {id : CallId} {typed : TypedRequest} {context : CallContext}
variable {cached : Bool} {fabric after : Fabric Conn Peers} {acts : List CallAct} {answer : Bytes}

/-- Only the presence of the cache decides what goes through it. -/
theorem caches_congr
    (proxy : Proxy Conn Peers)
    {left right : CacheLink}
    (same : left.isEnabled = right.isEnabled)
    (method : Method) :
    proxy.caches left method = proxy.caches right method := by
  rw [caches, caches, same]

theorem cache_beginTyped
    (proxy : Proxy Conn Peers)
    (id : CallId)
    (typed : TypedRequest)
    (context : CallContext)
    (cached : Bool)
    (fabric : Fabric Conn Peers) :
    (proxy.beginTyped id typed context cached fabric).cache = fabric.cache := by
  unfold beginTyped
  split
  · rfl
  · rfl

/-- A step of a call that is over changes nothing. -/
theorem step_of_finished
    {call : Call}
    (found : fabric.calls.find? id = some call)
    {result : Except Fault Bytes}
    (stage : call.stage = .finished result)
    (now : Instant) :
    proxy.step now id fabric = blocked fabric [] := by
  simp only [step, found, stage]

/-- A call that is over stays so. -/
theorem life_of_finished
    (life : Life proxy id fabric acts after)
    {call : Call}
    (found : fabric.calls.find? id = some call)
    {result : Except Fault Bytes}
    (stage : call.stage = .finished result) :
    after.calls.find? id = some call := by
  induction life with
  | begun => exact found
  | meanwhile life undisturbed inductionHypothesis =>
      rw [undisturbed.call]
      exact inductionHypothesis
  | stepped life now inductionHypothesis =>
      rw [step_of_finished inductionHypothesis stage now]
      exact inductionHypothesis

/-- The types of a typed call that is answered were right. -/
theorem contract_of_answered
    (life : Life proxy id (proxy.beginTyped id typed context cached fabric) acts after)
    (ended : after.result? id = some (some (.ok answer))) :
    proxy.table.contract typed.method typed.request typed.response = .ok () := by
  cases contract : proxy.table.contract typed.method typed.request typed.response with
  | ok checked => rfl
  | error fault =>
      simp only [beginTyped, contract] at life
      have finished := life_of_finished life (Assoc.find?_insert_self _ _ _) rfl
      simp only [Fabric.result?, finished] at ended
      cases ended

/-- A typed call that is answered was begun, since its types were right. -/
theorem begun_of_answered
    (life : Life proxy id (proxy.beginTyped id typed context cached fabric) acts after)
    (ended : after.result? id = some (some (.ok answer))) :
    proxy.beginTyped id typed context cached fabric =
      proxy.begin id typed.method context typed.payload cached fabric := by
  rw [beginTyped, contract_of_answered life ended]

/-- An answered call ran its handler once or was a hit, and past the cache it was no
hit. -/
theorem invoked_add_hit_of_answered
    (failFast : proxy.fallback = .failFast)
    (life : Life proxy id (proxy.beginTyped id typed context cached fabric) acts after)
    (ended : after.result? id = some (some (.ok answer))) :
    acts.count .invoked + acts.count .hit = 1 ∧
      (proxy.caches fabric.cache typed.method = false -> acts.count .hit = 0) := by
  rw [begun_of_answered life ended] at life
  refine ⟨CallAct.invoked_add_hit failFast (life.ending ended), fun past => ?_⟩
  rw [List.count_eq_zero]
  refine (life.not_hit (Assoc.find?_insert_self _ _ _) ⟨?_, rfl⟩).1
  rw [past, Bool.and_false]

end Proxy

namespace FlowCall

/-- How often the calls of a method did something. -/
def times (act : CallAct) (method : Method) (journal : List FlowCall) : Nat :=
  ((journal.filter fun call => call.typed.method = method).flatMap FlowCall.acts).count act

variable {act : CallAct} {method : Method} {journal : List FlowCall}

@[simp] theorem times_nil : times act method [] = 0 := rfl

theorem times_cons
    (call : FlowCall)
    (journal : List FlowCall) :
    times act method (call :: journal) =
      (if call.typed.method = method then call.acts.count act else 0) +
        times act method journal := by
  by_cases same : call.typed.method = method
  · simp [times, same]
  · simp [times, same]

theorem times_append
    (first second : List FlowCall) :
    times act method (first ++ second) = times act method first + times act method second := by
  simp [times]

theorem times_of_all_ne
    (different : ∀ call ∈ journal, call.typed.method ≠ method) :
    times act method journal = 0 := by
  have nobody : (journal.filter fun call => call.typed.method = method) = [] := by
    refine List.filter_eq_nil_iff.mpr fun call present => ?_
    simpa using different call present
  rw [times, nobody]
  rfl

end FlowCall

namespace Flow

variable {Result : Type}

/-- A flow is carried out from one fabric to another, with a journal and a result. -/
inductive Ran (proxy : Proxy Conn Peers) (context : CallContext) :
    Flow Result -> Fabric Conn Peers -> List FlowCall -> Result -> Fabric Conn Peers -> Prop where
  | done {result fabric} : Ran proxy context (.done result) fabric [] result fabric
  | called {typed cached next fabric before id acts answer between journal result after}
      (meanwhile : before.cache.isEnabled = fabric.cache.isEnabled)
      (life : Life proxy id (proxy.beginTyped id typed context cached before) acts between)
      (ended : between.result? id = some (some answer))
      (rest : Ran proxy context (next (typed.read answer)) between journal result after) :
      Ran proxy context (.call typed cached next) fabric (⟨typed, acts, answer⟩ :: journal)
        result after

/-- Every answered call of a flow ran its handler once or was a hit, and what does not
go through the cache was no hit. -/
theorem Ran.answered
    {proxy : Proxy Conn Peers}
    (failFast : proxy.fallback = .failFast)
    {context : CallContext}
    {flow : Flow Result}
    {fabric after : Fabric Conn Peers}
    {journal : List FlowCall}
    {result : Result}
    (ran : flow.Ran proxy context fabric journal result after) :
    ∀ call ∈ journal, ∀ answer, call.result = .ok answer ->
      call.acts.count .invoked + call.acts.count .hit = 1 ∧
        (proxy.caches fabric.cache call.typed.method = false -> call.acts.count .hit = 0) := by
  induction ran with
  | done => exact fun _ present => absurd present List.not_mem_nil
  | @called typed cached next fabric before id acts known between journal result after
      meanwhile life ended rest inductionHypothesis =>
      intro call present answer answered
      rcases List.mem_cons.mp present with rfl | later
      · cases answered
        have same := proxy.caches_congr meanwhile typed.method
        rw [← same]
        exact Proxy.invoked_add_hit_of_answered failFast life ended
      · have enabled : between.cache.isEnabled = fabric.cache.isEnabled := by
          rw [life.enabled, Proxy.cache_beginTyped, meanwhile]
        have same := proxy.caches_congr enabled call.typed.method
        rw [← same]
        exact inductionHypothesis call later answer answered

/-- Carry out a flow at one instant with nothing beside it, its calls under
successive ids; none if a call does not end at once. -/
def runAlone (proxy : Proxy Conn Peers) (context : CallContext) (now : Instant) :
    CallId -> Flow Result -> Fabric Conn Peers ->
      Option (List FlowCall × Result × Fabric Conn Peers)
  | _, .done result, fabric => some ([], result, fabric)
  | id, .call typed cached next, fabric =>
      let made := proxy.advance now id Proxy.stepBound
        (proxy.beginTyped id typed context cached fabric)
      match made.fabric.result? id with
      | some (some answer) =>
          match runAlone proxy context now (id + 1) (next (typed.read answer)) made.fabric with
          | some (journal, result, after) =>
              some (⟨typed, made.acts, answer⟩ :: journal, result, after)
          | none => none
      | _ => none

/-- A flow that is carried out alone is carried out. -/
theorem ran_of_runAlone
    {proxy : Proxy Conn Peers}
    {context : CallContext}
    {now : Instant}
    {id : CallId}
    {flow : Flow Result}
    {fabric after : Fabric Conn Peers}
    {journal : List FlowCall}
    {result : Result}
    (ran : flow.runAlone proxy context now id fabric = some (journal, result, after)) :
    flow.Ran proxy context fabric journal result after := by
  induction flow generalizing id fabric journal with
  | done value =>
      cases ran
      exact .done
  | call typed cached next inductionHypothesis =>
      simp only [runAlone] at ran
      split at ran
      · next answer ended =>
          split at ran
          · next later outcome final restRan =>
              cases ran
              exact .called rfl (Proxy.life_advance .begun now Proxy.stepBound) ended
                (inductionHypothesis _ restRan)
          · cases ran
      · cases ran

end Flow

/-! ## Exchanges -/

/-- A call and what it was answered. -/
structure Exchange where
  typed : TypedRequest
  answer : Except Fault typed.response.Value

namespace FlowCall

/-- What a call of a flow asked and was answered. -/
def exchange (call : FlowCall) : Exchange := ⟨call.typed, call.typed.read call.result⟩

end FlowCall

namespace Flow

variable {Result : Type}

/-- A flow has come to where it is by the given exchanges, whatever it was answered. -/
inductive Follows : Flow Result -> List Exchange -> Flow Result -> Prop where
  | here {flow} : Follows flow [] flow
  | answered {typed cached next made later}
      (answer : Except Fault typed.response.Value)
      (rest : Follows (next answer) made later) :
      Follows (.call typed cached next) (⟨typed, answer⟩ :: made) later

/-- A flow that is carried out comes to its end by the exchanges of its journal. -/
theorem Ran.follows
    {proxy : Proxy Conn Peers}
    {context : CallContext}
    {flow : Flow Result}
    {fabric after : Fabric Conn Peers}
    {journal : List FlowCall}
    {result : Result}
    (ran : flow.Ran proxy context fabric journal result after) :
    flow.Follows (journal.map FlowCall.exchange) (.done result) := by
  induction ran with
  | done => exact .here
  | called meanwhile life ended rest inductionHypothesis =>
      exact .answered _ inductionHypothesis

end Flow
end MallFabric
