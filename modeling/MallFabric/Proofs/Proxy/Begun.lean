import MallFabric.Proofs.Proxy.Failing

/-!
# One call in a run

A call begins in a run of a proxy, and anything may happen after that.  The main
statements are about every such call: what it comes to is the work of a step of its
own, what it did until then is its life, and where it ends with a cancellation or
for lack of time this has one of three causes.
-/

namespace MallFabric

open Message (MessageType)

variable {Conn Peers : Type}

namespace ProxyRun

variable {proxy : Proxy Conn Peers} {run : ProxyRun Conn Peers} {id : CallId}

/-- Only its own steps and the end of its task concern a call. -/
theorem undisturbed_event
    {event : ProxyEvent Peers}
    (counted : id < run.next)
    (steps : event ≠ .step id)
    (aborts : event ≠ .abort id) :
    Undisturbed id run.fabric (run.step proxy event).fabric := by
  refine ⟨find?_step_of_apart (.inl (Nat.ne_of_lt counted)) steps aborts, ?_⟩
  have typed : ∀ request context cached,
      (proxy.beginTyped run.next request context cached run.fabric).cache.isEnabled =
        run.fabric.cache.isEnabled := by
    intro request context cached
    obtain ⟨call, begins, -⟩ := proxy.exists_beginTyped run.next request context cached run.fabric
    rw [begins]
    rfl
  cases event with
  | call request context cached => exact typed request context cached
  | detach request context => exact typed request _ true
  | step other => exact proxy.enabled_step run.clock other run.fabric
  | abort other => exact congrArg CacheLink.isEnabled (abort_eq proxy other run.fabric).1
  | _ => rfl

/-- What holds of a call at first and is kept by its own steps holds of it all along. -/
theorem holds_resume
    {holds : Call -> Prop}
    (counted : id < run.next)
    (first : ∀ call, run.fabric.calls.find? id = some call -> holds call)
    (events : List (ProxyEvent Peers))
    (kept : ∀ moment before after, Happens proxy run events moment (.step id) ->
      moment.fabric.calls.find? id = some before -> holds before ->
        (moment.step proxy (.step id)).fabric.calls.find? id = some after -> holds after) :
    ∀ call, (run.resume proxy events).fabric.calls.find? id = some call -> holds call := by
  induction events generalizing run with
  | nil => exact first
  | cons event rest inductionHypothesis =>
      have later : id < (run.step proxy event).next :=
        Nat.lt_of_lt_of_le counted (next_le_step proxy run event)
      refine inductionHypothesis later (fun call found => ?_) fun moment before after happened =>
        kept moment before after happened.of_step
      by_cases steps : event = .step id
      · subst steps
        cases present : run.fabric.calls.find? id with
        | none =>
            rw [step_of_absent present, present] at found
            cases found
        | some before =>
            exact kept run before call (happens_cons proxy run _ rest) present
              (first before present) found
      · exact first call (find?_of_find?_step counted steps found)

/-- A call that is gone does not come back. -/
theorem absent_resume
    (counted : id < run.next)
    (absent : run.fabric.calls.find? id = none)
    (events : List (ProxyEvent Peers)) :
    (run.resume proxy events).fabric.calls.find? id = none := by
  have never : ∀ call, (run.resume proxy events).fabric.calls.find? id = some call -> False :=
    holds_resume counted (fun call found => by cases absent.symm.trans found) events
      fun _ _ _ _ _ before _ => before
  exact Option.eq_none_iff_forall_ne_some.mpr fun call found => never call found

/-- What the steps of a call do in the course of some events. -/
def actsOf (proxy : Proxy Conn Peers) (id : CallId) (run : ProxyRun Conn Peers) :
    List (ProxyEvent Peers) -> List CallAct
  | [] => []
  | .step other :: rest =>
      (if other = id then (proxy.step run.clock id run.fabric).acts else []) ++
        actsOf proxy id (run.step proxy (.step other)) rest
  | event :: rest => actsOf proxy id (run.step proxy event) rest

theorem actsOf_append
    (proxy : Proxy Conn Peers)
    (id : CallId)
    (run : ProxyRun Conn Peers)
    (earlier later : List (ProxyEvent Peers)) :
    actsOf proxy id run (earlier ++ later) =
      actsOf proxy id run earlier ++ actsOf proxy id (run.resume proxy earlier) later := by
  induction earlier generalizing run with
  | nil => rfl
  | cons event rest inductionHypothesis =>
      have goesOn := inductionHypothesis (run.step proxy event)
      cases event with
      | step other =>
          rw [List.cons_append, actsOf, actsOf, List.append_assoc, goesOn]
          rfl
      | _ => exact goesOn

/-- What a call does while nobody gives up its task is its life. -/
theorem life_resume
    {start : Fabric Conn Peers}
    {acts : List CallAct}
    (life : Life proxy id start acts run.fabric)
    (counted : id < run.next)
    (events : List (ProxyEvent Peers))
    (present : (run.resume proxy events).fabric.calls.find? id ≠ none) :
    Life proxy id start (acts ++ actsOf proxy id run events)
      (run.resume proxy events).fabric := by
  induction events generalizing run acts with
  | nil =>
      rw [actsOf, List.append_nil]
      exact life
  | cons event rest inductionHypothesis =>
      have later : id < (run.step proxy event).next :=
        Nat.lt_of_lt_of_le counted (next_le_step proxy run event)
      have aside : event ≠ .step id -> event ≠ .abort id ->
          Life proxy id start acts (run.step proxy event).fabric :=
        fun steps aborts => life.meanwhile (undisturbed_event counted steps aborts)
      cases event with
      | step other =>
          by_cases same : other = id
          · subst same
            have goesOn := inductionHypothesis (life.stepped run.clock) later present
            rw [List.append_assoc] at goesOn
            rw [actsOf, if_pos rfl]
            exact goesOn
          · have different : (ProxyEvent.step other : ProxyEvent Peers) ≠ .step id :=
              fun equal => same (ProxyEvent.step.inj equal)
            rw [actsOf, if_neg same, List.nil_append]
            exact inductionHypothesis (aside different (by rintro ⟨⟩)) later present
      | abort other =>
          by_cases same : other = id
          · subst same
            have gone : (run.step proxy (.abort other)).fabric.calls.find? other = none := by
              rw [step, (abort_eq proxy other run.fabric).2]
              exact Assoc.find?_erase_self _ _
            exact absurd (absent_resume later gone rest) present
          · have different : (ProxyEvent.abort other : ProxyEvent Peers) ≠ .abort id :=
              fun equal => same (ProxyEvent.abort.inj equal)
            exact inductionHypothesis (aside (by rintro ⟨⟩) different) later present
      | _ => exact inductionHypothesis (aside (by rintro ⟨⟩) (by rintro ⟨⟩)) later present

end ProxyRun

/-! ## One call -/

/-- What a call has come to, if it is over; none inside if it broke down. -/
def CallStage.end? : CallStage -> Option (Option (Except Fault Bytes))
  | .finished result => some (some result)
  | .crashed => some none
  | _ => none

theorem Fabric.result?_eq
    (fabric : Fabric Conn Peers)
    (id : CallId) :
    fabric.result? id = (fabric.calls.find? id).bind (·.stage.end?) := by
  unfold result?
  cases fabric.calls.find? id with
  | none => rfl
  | some call =>
      simp only [Option.bind_some]
      cases call.stage with
      | _ => rfl

/-- A call that is over makes no more steps. -/
theorem ProxyRun.step_of_over
    {run : ProxyRun Conn Peers}
    {proxy : Proxy Conn Peers}
    {id : CallId}
    {call : Call}
    {ended : Option (Except Fault Bytes)}
    (found : run.fabric.calls.find? id = some call)
    (comesTo : call.stage.end? = some ended) :
    (run.step proxy (.step id)).fabric = run.fabric := by
  cases stage : call.stage with
  | finished result => simp only [step, Proxy.step, found, stage, Proxy.blocked]
  | crashed => simp only [step, Proxy.step, found, stage, Proxy.blocked]
  | _ =>
      rw [stage] at comesTo
      cases comesTo

/-- A typed call as it begins: the proxy at that time, the request, the context that the
caller passes, and whether the call may use the cache. -/
structure BegunCall (Conn Peers : Type) where
  run : ProxyRun Conn Peers
  fresh : run.Fresh
  typed : TypedRequest
  context : CallContext
  cached : Bool

namespace BegunCall

/-- The number of the call. -/
def id (call : BegunCall Conn Peers) : CallId := call.run.next

/-- The proxy when the call has begun and some events have happened. -/
def after (call : BegunCall Conn Peers) (proxy : Proxy Conn Peers)
    (events : List (ProxyEvent Peers)) : ProxyRun Conn Peers :=
  (call.run.step proxy (.call call.typed call.context call.cached)).resume proxy events

/-- In the course of some events the call makes a step in a state. -/
def Steps (call : BegunCall Conn Peers) (proxy : Proxy Conn Peers)
    (events : List (ProxyEvent Peers)) (moment : ProxyRun Conn Peers) : Prop :=
  ProxyRun.Happens proxy (call.after proxy []) events moment (.step call.id)

/-- What the call has come to after some events. -/
def result? (call : BegunCall Conn Peers) (proxy : Proxy Conn Peers)
    (events : List (ProxyEvent Peers)) : Option (Option (Except Fault Bytes)) :=
  (call.after proxy events).fabric.result? call.id

/-- The call goes on for some events, and its next step ends it. -/
structure Ends (call : BegunCall Conn Peers) (proxy : Proxy Conn Peers)
    (events : List (ProxyEvent Peers)) (ended : Option (Except Fault Bytes)) : Prop where
  goesOn : call.result? proxy events = none
  ends : call.result? proxy (events ++ [.step call.id]) = some ended

/-- The step that ends the call makes it fail for its caller. -/
def FailsWith (call : BegunCall Conn Peers) (proxy : Proxy Conn Peers)
    (events : List (ProxyEvent Peers)) (fault : Fault) : Prop :=
  ∃ result, call.Ends proxy events (some result) ∧ call.typed.read result = .error fault

/-- What the call did when its next step has been made. -/
def acts (call : BegunCall Conn Peers) (proxy : Proxy Conn Peers)
    (events : List (ProxyEvent Peers)) : List CallAct :=
  (call.after proxy []).actsOf proxy call.id (events ++ [.step call.id])

/-- The service of the call makes something of it: the handler of its method, or a dial that
fails. -/
inductive Tells (call : BegunCall Conn Peers) (proxy : Proxy Conn Peers)
    (events : List (ProxyEvent Peers)) : Reply Bytes -> Prop where
  | handler {moment conn ending}
      (steps : call.Steps proxy events moment)
      (connected : moment.fabric.pool.result? call.id = some (.ok conn))
      (replies : (proxy.table.invokeRaw conn call.typed.method call.context moment.clock
        call.typed.payload moment.fabric.peers).1.result = ending) :
      Tells call proxy events ending
  | dial {moment fault}
      (steps : call.Steps proxy events moment)
      (dials : (moment.fabric.pool.step call.id).2 = .dial call.typed.method.service)
      (failed : (proxy.dialler.dial (moment.fabric.pool.step call.id).1 moment.clock
        call.typed.method.service moment.fabric.peers).1.result = .error fault) :
      Tells call proxy events (.fault fault)

variable {call : BegunCall Conn Peers} {proxy : Proxy Conn Peers}
variable {events more : List (ProxyEvent Peers)} {fault : Fault}

theorem after_concat
    (call : BegunCall Conn Peers)
    (proxy : Proxy Conn Peers)
    (events : List (ProxyEvent Peers))
    (event : ProxyEvent Peers) :
    call.after proxy (events ++ [event]) = (call.after proxy events).step proxy event := by
  rw [after, ProxyRun.resume, List.foldl_append]
  rfl

/-- What the call did before its last step, and by this step. -/
theorem acts_eq
    (call : BegunCall Conn Peers)
    (proxy : Proxy Conn Peers)
    (events : List (ProxyEvent Peers)) :
    call.acts proxy events =
      (call.after proxy []).actsOf proxy call.id events ++
        (proxy.step (call.after proxy events).clock call.id (call.after proxy events).fabric).acts := by
  rw [acts, ProxyRun.actsOf_append, ProxyRun.actsOf, if_pos rfl, ProxyRun.actsOf, List.append_nil]
  rfl

theorem Steps.mono
    {moment : ProxyRun Conn Peers}
    (steps : call.Steps proxy events moment)
    (further : events <+: more) :
    call.Steps proxy more moment := by
  obtain ⟨earlier, first, reached⟩ := steps
  exact ⟨earlier, first.trans further, reached⟩

theorem Tells.mono
    {ending : Reply Bytes}
    (tells : call.Tells proxy events ending)
    (further : events <+: more) :
    call.Tells proxy more ending := by
  cases tells with
  | handler steps connected replies => exact .handler (steps.mono further) connected replies
  | dial steps dials failed => exact .dial (steps.mono further) dials failed

/-- The number of the call has been given out. -/
theorem id_lt_next
    (call : BegunCall Conn Peers)
    (proxy : Proxy Conn Peers) :
    call.id < (call.after proxy []).next :=
  Nat.lt_succ_self _

/-- A fault that the caller gets, and that does not point at a broken table, is that of the
call. -/
theorem eq_error_of_read
    {typed : TypedRequest}
    {result : Except Fault Bytes}
    (failed : typed.read result = .error fault)
    (plain : fault.isContract = false) :
    result = .error fault := by
  cases result with
  | error other =>
      obtain rfl : other = fault := Except.error.inj failed
      rfl
  | ok answer =>
      simp only [TypedRequest.read, DispatchTable.decodeResponse] at failed
      split at failed
      · cases failed
      · obtain rfl := Except.error.inj failed
        cases plain

/-- What a call is when its types have been checked. -/
theorem find?_after_nil
    (checked : proxy.table.contract call.typed.method call.typed.request call.typed.response =
      .ok ()) :
    (call.after proxy []).fabric.calls.find? call.id =
      some (call.run.beginning proxy call.typed call.context call.cached) :=
  ProxyRun.find?_beginning checked call.run call.context call.cached

/-- A call whose types the table does not have has failed at once. -/
theorem finished_of_refused
    (refused : proxy.table.contract call.typed.method call.typed.request call.typed.response =
      .error fault)
    (events : List (ProxyEvent Peers)) :
    ∀ attempt, (call.after proxy events).fabric.calls.find? call.id = some attempt ->
      attempt.stage = .finished (.error fault) := by
  refine ProxyRun.holds_resume (call.id_lt_next proxy) (fun attempt found => ?_) events ?_
  · simp only [after, ProxyRun.resume, List.foldl_nil, ProxyRun.step, Proxy.beginTyped,
      refused] at found
    obtain rfl := Option.some.inj ((Assoc.find?_insert_self _ _ _).symm.trans found)
    rfl
  · intro moment before later happened present finished found
    have comesTo : before.stage.end? = some (some (.error fault)) := by
      rw [finished]
      rfl
    rw [ProxyRun.step_of_over present comesTo, present] at found
    obtain rfl := Option.some.inj found
    exact finished

theorem result?_of_refused
    (refused : proxy.table.contract call.typed.method call.typed.request call.typed.response =
      .error fault)
    {ended : Option (Except Fault Bytes)}
    (comesTo : call.result? proxy events = some ended) :
    ended = some (.error fault) := by
  rw [result?, Fabric.result?_eq] at comesTo
  obtain ⟨attempt, found, finished⟩ := Option.bind_eq_some_iff.mp comesTo
  rw [finished_of_refused refused events attempt found] at finished
  exact (Option.some.inj finished).symm

/-- The call that a step ends was there, and was not over. -/
theorem Ends.exists_attempt
    {ended : Option (Except Fault Bytes)}
    (ends : call.Ends proxy events ended) :
    ∃ attempt, (call.after proxy events).fabric.calls.find? call.id = some attempt ∧
      attempt.stage.end? = none := by
  cases found : (call.after proxy events).fabric.calls.find? call.id with
  | none =>
      have gone := ends.ends
      rw [result?, after_concat, ProxyRun.step_of_absent found, Fabric.result?_eq, found] at gone
      cases gone
  | some attempt =>
      have goesOn := ends.goesOn
      rw [result?, Fabric.result?_eq, found] at goesOn
      exact ⟨attempt, rfl, goesOn⟩

/-- Only a call whose types have been checked goes on. -/
theorem checked_of_goesOn
    {attempt : Call}
    (found : (call.after proxy events).fabric.calls.find? call.id = some attempt)
    (goesOn : attempt.stage.end? = none) :
    proxy.table.contract call.typed.method call.typed.request call.typed.response = .ok () := by
  cases checked : proxy.table.contract call.typed.method call.typed.request call.typed.response with
  | ok done => rfl
  | error fault =>
      rw [finished_of_refused checked events attempt found] at goesOn
      cases goesOn

theorem Ends.checked
    {ended : Option (Except Fault Bytes)}
    (ends : call.Ends proxy events ended) :
    proxy.table.contract call.typed.method call.typed.request call.typed.response = .ok () := by
  obtain ⟨attempt, found, goesOn⟩ := ends.exists_attempt
  exact checked_of_goesOn found goesOn

/-- What a checked call has come to is the work of a step of its own. -/
theorem exists_ends
    (checked : proxy.table.contract call.typed.method call.typed.request call.typed.response =
      .ok ())
    {ended : Option (Except Fault Bytes)}
    (comesTo : call.result? proxy events = some ended) :
    ∃ earlier, earlier ++ [.step call.id] <+: events ∧ call.Ends proxy earlier ended := by
  have every : ∀ attempt, (call.after proxy events).fabric.calls.find? call.id = some attempt ->
      ∀ ended, attempt.stage.end? = some ended ->
        ∃ earlier, earlier ++ [.step call.id] <+: events ∧ call.Ends proxy earlier ended := by
    refine ProxyRun.holds_resume (call.id_lt_next proxy) ?_ events ?_
    · intro attempt found ended finished
      obtain rfl := Option.some.inj ((find?_after_nil checked).symm.trans found)
      cases finished
    · rintro moment before later ⟨earlier, first, rfl⟩ present known found ended finished
      cases comesTo : before.stage.end? with
      | none =>
          refine ⟨earlier, first, ?_, ?_⟩
          · rw [result?, Fabric.result?_eq]
            exact (congrArg (Option.bind · _) present).trans comesTo
          · rw [result?, after_concat, Fabric.result?_eq]
            exact Option.bind_eq_some_iff.mpr ⟨later, found, finished⟩
      | some outcome =>
          rw [ProxyRun.step_of_over present comesTo, present] at found
          obtain rfl := Option.some.inj found
          exact known ended finished
  rw [result?, Fabric.result?_eq] at comesTo
  obtain ⟨attempt, found, finished⟩ := Option.bind_eq_some_iff.mp comesTo
  exact every attempt found ended finished

/-- What is known of a checked call holds of it all along. -/
theorem traced
    (checked : proxy.table.contract call.typed.method call.typed.request call.typed.response =
      .ok ())
    (events : List (ProxyEvent Peers)) :
    ProxyRun.Traced proxy (ProxyRun.Happens proxy (call.after proxy []) events) call.id
      (call.run.beginning proxy call.typed call.context call.cached) (call.after proxy events) :=
  (ProxyRun.traced_begun call.fresh checked call.context call.cached).resume events
    fun _ _ happened => happened

/-- A step that ends a call with a fault has one of the reasons. -/
theorem Ends.failing
    (ends : call.Ends proxy events (some (.error fault))) :
    ∃ attempt, (call.after proxy events).fabric.calls.find? call.id = some attempt ∧
      Proxy.Failing proxy (call.after proxy events).clock call.id (call.after proxy events).fabric
        attempt fault := by
  obtain ⟨attempt, found, goesOn⟩ := ends.exists_attempt
  have move : Proxy.Move proxy (call.after proxy events).clock call.id
      (call.after proxy events).fabric attempt _ := Proxy.move_step found
  obtain ⟨stage, later, -⟩ := move.passage found
  have comesTo := ends.ends
  rw [result?, after_concat, Fabric.result?_eq, ProxyRun.step, later, Option.bind_some] at comesTo
  obtain rfl : stage = .finished (.error fault) := by
    cases stage with
    | finished result =>
        obtain rfl := Option.some.inj (Option.some.inj comesTo)
        rfl
    | _ => cases comesTo
  refine ⟨attempt, found, move.failing found (fun outcome finished => ?_) later⟩
  rw [finished] at goesOn
  cases goesOn

/-- Why a call ends with a cancellation or for lack of time. -/
inductive Cause (call : BegunCall Conn Peers) (proxy : Proxy Conn Peers)
    (events : List (ProxyEvent Peers)) : Fault -> Prop where
  /-- The token of the caller has fired. -/
  | cancelled
      (fired : call.context.token.isFired (call.after proxy events).fabric.fired = true) :
      Cause call proxy events .cancelled
  /-- The time of the attempt is up, and the caller has set it. -/
  | expired {attempt limit expiry}
      (found : (call.after proxy events).fabric.calls.find? call.id = some attempt)
      (bounds : attempt.stage.bounds? = some (limit, expiry))
      (tight : limit < proxy.config.circuit.timeout)
      (expired : expiry ≤ (call.after proxy events).clock) :
      Cause call proxy events .timeout
  /-- The service itself tells the fault, and it surfaces. -/
  | told {attempt limit expiry fault}
      (found : (call.after proxy events).fabric.calls.find? call.id = some attempt)
      (bounds : attempt.stage.bounds? = some (limit, expiry))
      (judged : judge (limit < proxy.config.circuit.timeout) fault = .surfaces fault)
      (tells : call.Tells proxy events (.fault fault)) :
      Cause call proxy events fault

/-- A connection that fails with a cancellation or a timeout has been dialled by the call. -/
theorem tells_of_unreached
    (reason : proxy.Unreached (ProxyRun.Happens proxy (call.after proxy []) events) call.id
      call.typed.method.service fault)
    (own : fault = .cancelled ∨ fault = .timeout) :
    call.Tells proxy events (.fault fault) := by
  cases reason with
  | unknown => rcases own with same | same <;> cases same
  | closed => rcases own with same | same <;> cases same
  | dial happened dials failed => exact .dial happened dials failed

/-- A call that ends with a cancellation or for lack of time has a cause. -/
theorem Ends.cause
    (ends : call.Ends proxy events (some (.error fault)))
    (own : fault = .cancelled ∨ fault = .timeout) :
    call.Cause proxy events fault := by
  have traced := traced ends.checked events
  obtain ⟨attempt, found, failing⟩ := ends.failing
  obtain ⟨stage, rfl, comes⟩ := traced.comes attempt found
  cases failing with
  | unregistered missing => rcases own with same | same <;> cases same
  | unavailable cause => rcases own with same | same <;> cases same
  | cancelled given => exact .cancelled given
  | expired bounds tight expired => exact .expired found bounds tight expired
  | unconnected before told judged =>
      refine .told found (by rw [before]; rfl) judged ?_
      exact tells_of_unreached ((traced.awaited _ found).told fault told) own
  | @replied key permit limit expiry reply fault before due replies judged =>
      obtain rfl : stage = .handling key permit limit expiry reply := before
      refine .told found rfl judged ?_
      cases comes with
      | underWay before => exact before.elim
      | handling handled =>
          cases handled with
          | invoked happened connected => exact .handler happened connected replies

/-- What a call did until it ended is its life. -/
theorem Ends.life
    {ended : Option (Except Fault Bytes)}
    (ends : call.Ends proxy events ended) :
    Life proxy call.id
      (proxy.begin call.id call.typed.method call.context call.typed.payload call.cached
        call.run.fabric)
      (call.acts proxy events) (call.after proxy (events ++ [.step call.id])).fabric := by
  have begun : (call.after proxy []).fabric =
      proxy.begin call.id call.typed.method call.context call.typed.payload call.cached
        call.run.fabric :=
    congrArg ProxyRun.fabric
      (ProxyRun.step_call_of_checked ends.checked call.run call.context call.cached)
  have present : (call.after proxy (events ++ [.step call.id])).fabric.calls.find? call.id ≠
      none := by
    intro absent
    have comesTo := ends.ends
    rw [result?, Fabric.result?_eq, absent] at comesTo
    cases comesTo
  have life : Life proxy call.id (call.after proxy []).fabric ([] ++ call.acts proxy events)
      (call.after proxy (events ++ [.step call.id])).fabric :=
    ProxyRun.life_resume .begun (call.id_lt_next proxy) _ present
  rw [begun, List.nil_append] at life
  exact life

end BegunCall

/-! ## A cart that is asked for -/

/-- A proxy for one method, whose handler takes its time before it replies. -/
def Proxy.replyingAfter (delay : Duration) (reply : Reply MessageType.getCartResp.Value) :
    Proxy Unit Unit where
  config := ProxyConfig.standard
  table := DispatchTable.empty.register ⟨"cart", "GetCart"⟩ .getCartReq .getCartResp
    fun _ _ now _ peers => (⟨now + delay, reply⟩, peers)
  dialler := ⟨none, fun now _ peers => (⟨now, .ok ()⟩, peers)⟩
  fallback := .failFast

/-- Somebody asks for the cart of the user of number 7 in some context. -/
def BegunCall.cart (context : CallContext) : BegunCall Unit Unit where
  run := ⟨0, Fabric.new .off (Pool.new [⟨"cart", "localhost:1"⟩] false) (), 0, []⟩
  fresh := fun _ _ => ⟨rfl, rfl, rfl⟩
  typed := ⟨⟨"cart", "GetCart"⟩, .getCartReq, .getCartResp, (7, ())⟩
  context
  cached := false

/-- The handler is asked for the cart, and some time passes. -/
def BegunCall.askedFor (span : Duration) : List (ProxyEvent Unit) :=
  List.replicate 9 (.step 0) ++ [.pass span]

end MallFabric
