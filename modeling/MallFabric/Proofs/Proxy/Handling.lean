import MallFabric.Proofs.Dispatch.Transparency
import MallFabric.Proofs.Message.Constancy
import MallFabric.Proofs.Proxy.Begun

/-!
# When the handler of a call runs

A handler runs by a step of a call that has got its connection, and it gets the message
that the caller wrote.  A call that was not to use the response cache has nothing to do
with it from its beginning to its end.
-/

namespace MallFabric

open Message (MessageType)

variable {Conn Peers : Type}

namespace DispatchTable

/-- A request that reaches the function of its method, of whatever length, reaches it as the
message that was written. -/
theorem invokeRaw_of_accepts
    {table : DispatchTable Conn Peers}
    {method : Method}
    {entry : DispatchEntry Conn Peers}
    (found : table.entries.find? method = some entry)
    {message : entry.request.Value}
    (accepted : table.accepts method (entry.request.shape.encode message) = true)
    (conn : Conn)
    (context : CallContext)
    (now : Instant)
    (peers : Peers) :
    table.invokeRaw conn method context now (entry.request.shape.encode message) peers =
      ((entry.handler conn context now (entry.request.shape.unsignZero message) peers).1.map
          fun answer => answer.bind fun given => .ok (entry.response.shape.encode given),
        (entry.handler conn context now (entry.request.shape.unsignZero message) peers).2) := by
  unfold accepts at accepted
  unfold invokeRaw
  simp only [found, decodeRequest] at accepted ⊢
  cases read : entry.request.shape.decode entry.request.name
      (entry.request.shape.encode message) with
  | error fault => simp only [read, Bool.false_eq_true] at accepted
  | ok result =>
      obtain rfl := Message.Shape.eq_of_decode_encode entry.request.sound_shape read
      rfl

end DispatchTable

namespace Proxy

variable {proxy : Proxy Conn Peers} {now : Instant} {id : CallId} {fabric : Fabric Conn Peers}
variable {call : Call} {result : StepResult Conn Peers}

/-- A handler runs only by the step of a call that has got its connection and waits for its
handler from then on, and only if the request can be read. -/
theorem Move.carriedOut_of_invoked
    (move : Move proxy now id fabric call result)
    (invoked : .invoked ∈ result.acts) :
    ∃ key permit limit expiry conn, fabric.pool.result? id = some (.ok conn) ∧
      proxy.table.accepts call.method call.payload = true ∧
      result =
        moved { fabric with
            pool := (fabric.pool.abort id).1
            peers := (proxy.table.invokeRaw conn call.method call.context now call.payload
              fabric.peers).2 } id call [.invoked]
          (.handling key permit limit expiry
            (proxy.table.invokeRaw conn call.method call.context now call.payload
              fabric.peers).1) := by
  have recorded : ∀ outcome : Option Outcome,
      CallAct.invoked ∉ outcome.toList.map CallAct.recorded := by
    intro outcome
    simp
  cases move with
  | @carriedOut key permit limit expiry conn reply peers stage live noDial connected inTime
      invocation =>
      simp only [moved] at invoked
      split at invoked
      · next accepted =>
          refine ⟨key, permit, limit, expiry, conn, connected, accepted, ?_⟩
          rw [if_pos accepted, invocation]
      · cases invoked
  | unconnected stage cause => exact absurd invoked (recorded _)
  | concluded stage ended => exact absurd invoked (recorded _)
  | hit stage found => simp [moved] at invoked
  | refused stage decision => simp [moved] at invoked
  | saturated stage full => simp [moved] at invoked
  | dialled => simp at invoked
  | _ => cases invoked

/-- Only a call that is there does anything. -/
theorem exists_call_of_mem_acts
    {act : CallAct}
    (acts : act ∈ (proxy.step now id fabric).acts) :
    ∃ call, fabric.calls.find? id = some call := by
  cases found : fabric.calls.find? id with
  | some call => exact ⟨call, rfl⟩
  | none =>
      simp only [step, found] at acts
      cases acts

/-- A typed call that may not use the cache is past it when it begins. -/
theorem pastCache_beginTyped
    (proxy : Proxy Conn Peers)
    (id : CallId)
    (typed : TypedRequest)
    (context : CallContext)
    (fabric : Fabric Conn Peers) :
    ∃ call, (proxy.beginTyped id typed context false fabric).calls.find? id = some call ∧
      call.PastCache := by
  unfold beginTyped
  cases proxy.table.contract typed.method typed.request typed.response with
  | ok checked => exact ⟨_, Assoc.find?_insert_self _ _ _, rfl, rfl⟩
  | error fault => exact ⟨_, Assoc.find?_insert_self _ _ _, rfl, rfl⟩

end Proxy

namespace ProxyRun

variable {proxy : Proxy Conn Peers} {run moment : ProxyRun Conn Peers} {id : CallId}
variable {events : List (ProxyEvent Peers)} {call : Call}

/-- Every act of a call is an act of one of its steps. -/
theorem exists_happens_of_mem_actsOf
    {act : CallAct}
    (present : act ∈ run.actsOf proxy id events) :
    ∃ moment, Happens proxy run events moment (.step id) ∧
      act ∈ (proxy.step moment.clock id moment.fabric).acts := by
  induction events generalizing run with
  | nil => cases present
  | cons event rest inductionHypothesis =>
      have later : act ∈ (run.step proxy event).actsOf proxy id rest ->
          ∃ moment, Happens proxy run (event :: rest) moment (.step id) ∧
            act ∈ (proxy.step moment.clock id moment.fabric).acts := by
        intro present
        obtain ⟨moment, happened, acts⟩ := inductionHypothesis present
        exact ⟨moment, happened.of_step, acts⟩
      cases event with
      | step other =>
          rcases List.mem_append.mp present with now | rest
          · split at now
            · next same =>
                subst same
                exact ⟨run, happens_cons proxy run _ _, now⟩
            · cases now
          · exact later rest
      | _ => exact later present

/-- A call past the cache stays so. -/
theorem pastCache_resume
    (counted : id < run.next)
    (first : ∀ call, run.fabric.calls.find? id = some call -> call.PastCache)
    (events : List (ProxyEvent Peers)) :
    ∀ call, (run.resume proxy events).fabric.calls.find? id = some call -> call.PastCache := by
  refine holds_resume counted first events fun moment before after happened present past found => ?_
  obtain ⟨-, -, later, there, stillPast⟩ := (Proxy.move_step present).pastCache present past
  obtain rfl := Option.some.inj (there.symm.trans found)
  exact stillPast

/-- A call keeps its method, its context and its request. -/
theorem exists_stage_resume
    (counted : id < run.next)
    (first : run.fabric.calls.find? id = some call)
    (events : List (ProxyEvent Peers)) :
    ∀ later, (run.resume proxy events).fabric.calls.find? id = some later ->
      ∃ stage, later = { call with stage } := by
  refine holds_resume counted (fun later found => ?_) events ?_
  · exact ⟨call.stage, Option.some.inj (found.symm.trans first)⟩
  · rintro moment before after happened present ⟨reached, rfl⟩ found
    obtain ⟨stage, there, -⟩ := (Proxy.move_step present).passage present
    exact ⟨stage, Option.some.inj (found.symm.trans there)⟩

/-- What a call past the cache does, or the end of its task, leaves the cache as it is. -/
theorem cache_eq_of_pastCache
    (past : ∀ call, run.fabric.calls.find? id = some call -> call.PastCache) :
    (run.step proxy (.step id)).fabric.cache = run.fabric.cache ∧
      (run.step proxy (.abort id)).fabric.cache = run.fabric.cache := by
  refine ⟨?_, (abort_eq proxy id run.fabric).1⟩
  cases present : run.fabric.calls.find? id with
  | none => rw [step_of_absent present]
  | some call => exact ((Proxy.move_step present).pastCache present (past call present)).1

/-- By its step in a state a call runs the handler of its method on a message: the services are
then as the handler leaves them, and the call waits for the reply. -/
inductive RunsHandler (proxy : Proxy Conn Peers) (moment : ProxyRun Conn Peers) (id : CallId)
    (method : Method) (context : CallContext) (request response : MessageType)
    (message : request.Value) : Prop where
  | ran {cacheable remote handler conn reply peers call key permit limit expiry}
      (registered : proxy.table.entries.find? method =
        some ⟨request, response, cacheable, remote, handler⟩)
      (connected : moment.fabric.pool.result? id = some (.ok conn))
      (replies : handler conn context moment.clock message moment.fabric.peers = (reply, peers))
      (acts : (proxy.step moment.clock id moment.fabric).acts = [.invoked])
      (changed : (moment.step proxy (.step id)).fabric.peers = peers)
      (found : (moment.step proxy (.step id)).fabric.calls.find? id = some call)
      (awaits : call.stage = .handling key permit limit expiry
        (reply.map fun answer => answer.bind fun given => .ok (response.shape.encode given))) :
      RunsHandler proxy moment id method context request response message

/-- Where the handler of a typed call runs, it runs on the message that was asked. -/
theorem runsHandler_of_invoked
    {typed : TypedRequest}
    (checked : proxy.table.contract typed.method typed.request typed.response = .ok ())
    (present : moment.fabric.calls.find? id = some call)
    (method : call.method = typed.method)
    (payload : call.payload = typed.payload)
    (invoked : .invoked ∈ (proxy.step moment.clock id moment.fabric).acts) :
    RunsHandler proxy moment id typed.method call.context typed.request typed.response
      (typed.request.shape.unsignZero typed.message) := by
  obtain ⟨named, asked, answered, message⟩ := typed
  obtain ⟨⟨request, response, cacheable, remote, handler⟩, registered, rfl, rfl⟩ :=
    DispatchTable.contract_eq_ok_iff.mp checked
  obtain ⟨key, permit, limit, expiry, conn, connected, accepted, same⟩ :=
    (Proxy.move_step present).carriedOut_of_invoked invoked
  rw [method, payload, TypedRequest.payload] at accepted same
  rw [DispatchTable.invokeRaw_of_accepts registered accepted] at same
  obtain ⟨⟨reply, peers⟩, replies⟩ :
      ∃ replied, handler conn call.context moment.clock (request.shape.unsignZero message)
        moment.fabric.peers = replied := ⟨_, rfl⟩
  simp only [replies] at same
  have waits : (moment.step proxy (.step id)).fabric.calls.find? id =
      some { call with
        stage := .handling key permit limit expiry (reply.map fun answer =>
          answer.bind fun given => .ok (response.shape.encode given)) } := by
    rw [step, same]
    exact Assoc.find?_insert_self _ _ _
  exact .ran registered connected replies (by rw [same]; rfl) (by rw [step, same]; rfl) waits rfl

end ProxyRun
end MallFabric
