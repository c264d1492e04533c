import MallFabric.Checkout
import MallFabric.Grpc.Metadata
import MallFabric.Proofs.Checkout.Effects
import MallFabric.Proofs.Proxy.InTime

/-!
# Checkouts that return in time

A flow makes its calls one after the other, each as soon as it has the answer to the
one before it, in a run of a proxy in which anything else may happen.  All of them are
made in one context, so that none of them goes on after its deadline.  The main
statement is about every checkout that tells how long its caller waits, and about every
call: they return when the timer of the deadline fires, or before.
-/

namespace MallFabric

variable {Conn Peers Result : Type}

/-- What may happen next around a flow. -/
inductive FlowEvent (Peers : Type) where
  /-- Something happens around the proxy. -/
  | around (event : ProxyEvent Peers)
  /-- The flow makes its next call, or takes the answer to the one that it has made. -/
  | goOn

/-- A flow at work: the proxy, what is left of the flow, and the call that it waits for. -/
structure FlowRun (Conn Peers Result : Type) where
  run : ProxyRun Conn Peers
  rest : Flow Result
  pending : Option CallId

namespace FlowRun

/-- A flow begins. -/
def start (run : ProxyRun Conn Peers) (flow : Flow Result) : FlowRun Conn Peers Result :=
  ⟨run, flow, none⟩

/-- Let a flow go on.  A call that broke down counts as cancelled. -/
def goOn (proxy : Proxy Conn Peers) (context : CallContext) (flow : FlowRun Conn Peers Result) :
    FlowRun Conn Peers Result :=
  match flow.rest with
  | .done _ => flow
  | .call typed cached next =>
      match flow.pending with
      | none =>
          { flow with
            run := flow.run.step proxy (.call typed context cached), pending := some flow.run.next }
      | some id =>
          match flow.run.fabric.result? id with
          | none => flow
          | some ended =>
              { flow with
                rest := next (typed.read (ended.getD (.error .cancelled))), pending := none }

/-- Carry out an event. -/
def step (proxy : Proxy Conn Peers) (context : CallContext) (flow : FlowRun Conn Peers Result) :
    FlowEvent Peers -> FlowRun Conn Peers Result
  | .around event => { flow with run := flow.run.step proxy event }
  | .goOn => flow.goOn proxy context

/-- A run of a flow goes on. -/
def resume (proxy : Proxy Conn Peers) (context : CallContext) (flow : FlowRun Conn Peers Result)
    (events : List (FlowEvent Peers)) : FlowRun Conn Peers Result :=
  events.foldl (step proxy context) flow

/-- What a flow has returned. -/
def returned? (flow : FlowRun Conn Peers Result) : Option Result :=
  match flow.rest with
  | .done result => some result
  | .call _ _ _ => none

/-- A flow is given up together with the call that it waits for. -/
def IsGivenUp (flow : FlowRun Conn Peers Result) : Prop :=
  ∃ id, flow.pending = some id ∧ flow.run.fabric.calls.find? id = none

/-- Whether a flow that has not returned can only wait for a span: it has made a call, and
that can only wait. -/
def rests (proxy : Proxy Conn Peers) (flow : FlowRun Conn Peers Result) (span : Duration) : Bool :=
  match flow.pending with
  | none => false
  | some id => (flow.run.fabric.result? id).isNone && flow.run.rests proxy id span

/-- Whether an event may come now: time passes only while the flow has to wait, or when it has
returned. -/
def permits (proxy : Proxy Conn Peers) (flow : FlowRun Conn Peers Result) :
    FlowEvent Peers -> Bool
  | .around (.pass span) => flow.returned?.isSome || flow.rests proxy span
  | _ => true

/-- A run is prompt if the flow never waits longer than it has to. -/
def isPrompt (proxy : Proxy Conn Peers) (context : CallContext)
    (flow : FlowRun Conn Peers Result) : List (FlowEvent Peers) -> Bool
  | [] => true
  | event :: rest =>
      flow.permits proxy event && isPrompt proxy context (flow.step proxy context event) rest

/-- A run of a flow goes on in which nothing happens but that the flow and its calls go on,
and that time passes while they have to wait. -/
inductive LeadsTo (proxy : Proxy Conn Peers) (context : CallContext) :
    FlowRun Conn Peers Result -> FlowRun Conn Peers Result -> Prop where
  | here {flow} : LeadsTo proxy context flow flow
  | goesOn {flow after}
      (rest : LeadsTo proxy context (flow.goOn proxy context) after) :
      LeadsTo proxy context flow after
  | called {flow after run id}
      (waits : flow.pending = some id)
      (call : flow.run.LeadsTo proxy id run)
      (rest : LeadsTo proxy context { flow with run } after) :
      LeadsTo proxy context flow after

/-- A flow returns by an instant: it has not passed as long as the flow has not returned, and
the flow can always go on to its return by then. -/
structure ReturnsBy (proxy : Proxy Conn Peers) (context : CallContext) (due : Instant)
    (flow : FlowRun Conn Peers Result) : Prop where
  inTime : flow.returned? = none -> flow.run.clock ≤ due
  goesOn : flow.returned? = none -> ∃ after, flow.LeadsTo proxy context after ∧
    after.returned? ≠ none ∧ after.run.clock ≤ due

end FlowRun

/-! ## One deadline for all calls -/

/-- A call that begins before the timer of its deadline fires is answered by then. -/
theorem Proxy.answerBy_le
    (proxy : Proxy Conn Peers)
    {begun deadline : Instant}
    (inTime : begun ≤ Instant.timer deadline) :
    proxy.answerBy begun deadline ≤ Instant.timer deadline := by
  calc proxy.answerBy begun deadline
      ≤ Instant.timer (max begun deadline) := Instant.timer_mono (Nat.min_le_left _ _)
    _ ≤ Instant.timer (Instant.timer deadline) :=
        Instant.timer_mono (Nat.max_le.mpr ⟨inTime, Instant.le_timer deadline⟩)
    _ = Instant.timer deadline := Instant.timer_timer deadline

namespace FlowRun

variable {proxy : Proxy Conn Peers} {context : CallContext} {deadline : Instant}
variable {flow : FlowRun Conn Peers Result}

/-- What is known of a flow that has not returned: the timer of the deadline has not fired
unless the flow is given up, and its call has begun in time. -/
structure Timely (proxy : Proxy Conn Peers) (deadline : Instant)
    (flow : FlowRun Conn Peers Result) : Prop where
  inTime : flow.returned? = none -> ¬ flow.IsGivenUp -> flow.run.clock ≤ Instant.timer deadline
  call : flow.returned? = none -> ∀ id, flow.pending = some id ->
    ∃ begun ≤ Instant.timer deadline, flow.run.OnTime proxy id begun deadline

namespace Timely

/-- The call of a flow that is not given up ends in time. -/
theorem le_of_onTime
    {id : CallId}
    (waits : flow.pending = some id)
    {begun : Instant}
    (inTime : begun ≤ Instant.timer deadline)
    (onTime : flow.run.OnTime proxy id begun deadline)
    (underWay : flow.run.fabric.result? id = none)
    (goesOn : ¬ flow.IsGivenUp) :
    flow.run.clock ≤ Instant.timer deadline := by
  have there : flow.run.fabric.calls.find? id ≠ none := fun gone => goesOn ⟨id, waits, gone⟩
  exact Nat.le_trans (onTime.le underWay there) (proxy.answerBy_le inTime)

/-- Time that passes while the flow has to wait ends in time. -/
theorem pass
    (timely : flow.Timely proxy deadline)
    {span : Duration}
    (permitted : flow.permits proxy (.around (.pass span)) = true) :
    (flow.step proxy context (.around (.pass span))).Timely proxy deadline := by
  have passes : flow.returned? = none -> ∃ id begun, flow.pending = some id ∧
      flow.run.fabric.result? id = none ∧ begun ≤ Instant.timer deadline ∧
        (flow.run.step proxy (.pass span)).OnTime proxy id begun deadline := by
    intro unreturned
    simp only [permits, unreturned, Option.isSome_none, Bool.false_or, rests] at permitted
    cases waits : flow.pending with
    | none =>
        rw [waits] at permitted
        cases permitted
    | some id =>
        rw [waits] at permitted
        obtain ⟨underWay, rests⟩ := Bool.and_eq_true_iff.mp permitted
        obtain ⟨begun, inTime, onTime⟩ := timely.call unreturned id waits
        exact ⟨id, begun, rfl, Option.isNone_iff_eq_none.mp underWay, inTime, onTime.pass rests⟩
  refine ⟨fun unreturned goesOn => ?_, fun unreturned id waits => ?_⟩
  · obtain ⟨id, begun, waits, underWay, inTime, onTime⟩ := passes unreturned
    exact le_of_onTime waits inTime onTime underWay goesOn
  · obtain ⟨same, begun, waits', -, inTime, onTime⟩ := passes unreturned
    obtain rfl := Option.some.inj (waits.symm.trans waits')
    exact ⟨begun, inTime, onTime⟩

/-- What takes no time around a flow keeps it in time. -/
theorem around
    (timely : flow.Timely proxy deadline)
    {event : ProxyEvent Peers}
    (timeless : ∀ span, event ≠ .pass span) :
    (flow.step proxy context (.around event)).Timely proxy deadline := by
  have permitted : ∀ id, flow.run.permits proxy id event = true := by
    intro id
    cases event with
    | pass span => exact absurd rfl (timeless span)
    | _ => rfl
  refine ⟨fun unreturned goesOn => ?_, fun unreturned id waits => ?_⟩
  · rw [step, ProxyRun.clock_step_of_ne_pass timeless]
    refine timely.inTime unreturned fun given => goesOn ?_
    obtain ⟨id, waits, gone⟩ := given
    obtain ⟨begun, -, onTime⟩ := timely.call unreturned id waits
    exact ⟨id, waits, ProxyRun.absent_resume onTime.counted gone [event]⟩
  · obtain ⟨begun, inTime, onTime⟩ := timely.call unreturned id waits
    exact ⟨begun, inTime, onTime.event (permitted id)⟩

/-- So does the flow itself, all of whose calls are under its deadline. -/
theorem goOn
    (timely : flow.Timely proxy deadline)
    (set : context.deadline = some deadline) :
    (flow.goOn proxy context).Timely proxy deadline := by
  obtain ⟨run, rest, pending⟩ := flow
  cases rest with
  | done result => exact ⟨nofun, nofun⟩
  | call typed cached next =>
      cases pending with
      | none =>
          have early : run.clock ≤ Instant.timer deadline := timely.inTime rfl nofun
          have begun := ProxyRun.onTime_begun proxy run
            (rfl : (ProxyEvent.call typed context cached).context? = _) set
          refine ⟨fun _ _ => early, fun _ id waits => ?_⟩
          cases waits
          exact ⟨run.clock, early, begun⟩
      | some id =>
          cases ended : run.fabric.result? id with
          | none =>
              simp only [FlowRun.goOn, ended]
              exact timely
          | some result =>
              have early : run.clock ≤ Instant.timer deadline := by
                refine timely.inTime rfl fun ⟨other, waits, gone⟩ => ?_
                cases waits
                rw [Fabric.result?_eq, gone] at ended
                cases ended
              simp only [FlowRun.goOn, ended]
              exact ⟨fun _ _ => early, fun _ _ => nofun⟩

theorem event
    (timely : flow.Timely proxy deadline)
    (set : context.deadline = some deadline)
    {event : FlowEvent Peers}
    (permitted : flow.permits proxy event = true) :
    (flow.step proxy context event).Timely proxy deadline := by
  cases event with
  | goOn => exact timely.goOn set
  | around event =>
      by_cases passes : ∃ span, event = .pass span
      · obtain ⟨span, rfl⟩ := passes
        exact timely.pass permitted
      · exact timely.around fun span same => passes ⟨span, same⟩

theorem resume
    (timely : flow.Timely proxy deadline)
    (set : context.deadline = some deadline)
    {events : List (FlowEvent Peers)}
    (prompt : flow.isPrompt proxy context events = true) :
    (flow.resume proxy context events).Timely proxy deadline := by
  induction events generalizing flow with
  | nil => exact timely
  | cons event rest inductionHypothesis =>
      obtain ⟨permitted, later⟩ := Bool.and_eq_true_iff.mp prompt
      exact inductionHypothesis (timely.event set permitted) later

end Timely

/-- A flow whose call is over takes its answer. -/
theorem goOn_of_result?
    {run : ProxyRun Conn Peers}
    {id : CallId}
    {ended : Option (Except Fault Bytes)}
    (result : run.fabric.result? id = some ended)
    (typed : TypedRequest)
    (cached : Bool)
    (next : Except Fault typed.response.Value -> Flow Result) :
    goOn proxy context ⟨run, .call typed cached next, some id⟩ =
      ⟨run, next (typed.read (ended.getD (.error .cancelled))), none⟩ := by
  simp only [goOn, result]

/-- A flow that has made a call goes on to its return if it does so once it is answered. -/
theorem exists_leadsTo_of_pending
    {run : ProxyRun Conn Peers}
    {id : CallId}
    {typed : TypedRequest}
    {cached : Bool}
    {next : Except Fault typed.response.Value -> Flow Result}
    (later : ∀ answer (run : ProxyRun Conn Peers), run.clock ≤ Instant.timer deadline ->
      ∃ after, LeadsTo proxy context ⟨run, next answer, none⟩ after ∧ after.returned? ≠ none ∧
        after.run.clock ≤ Instant.timer deadline)
    {begun : Instant}
    (inTime : begun ≤ Instant.timer deadline)
    (onTime : run.OnTime proxy id begun deadline)
    (there : run.fabric.calls.find? id ≠ none)
    (early : run.clock ≤ Instant.timer deadline) :
    ∃ after, LeadsTo proxy context ⟨run, .call typed cached next, some id⟩ after ∧
      after.returned? ≠ none ∧ after.run.clock ≤ Instant.timer deadline := by
  -- The call ends, now or later; then the flow takes its answer.
  have ends : ∃ answered, run.LeadsTo proxy id answered ∧ answered.fabric.result? id ≠ none ∧
      answered.clock ≤ Instant.timer deadline := by
    cases result : run.fabric.result? id with
    | some ended => exact ⟨run, .here, by simp [result], early⟩
    | none =>
        obtain ⟨call, found⟩ := Option.ne_none_iff_exists'.mp there
        obtain ⟨answered, leads, answers, soon⟩ :=
          onTime.exists_leadsTo found (onTime.le result there)
        exact ⟨answered, leads, answers, Nat.le_trans soon (proxy.answerBy_le inTime)⟩
  obtain ⟨answered, leads, answers, soon⟩ := ends
  obtain ⟨ended, result⟩ := Option.ne_none_iff_exists'.mp answers
  obtain ⟨after, goesOn, returned, last⟩ := later (typed.read _) answered soon
  refine ⟨after, .called rfl leads (.goesOn ?_), returned, last⟩
  rw [goOn_of_result? result]
  exact goesOn

/-- A flow that begins in time goes on to its return, however many calls it makes. -/
theorem exists_leadsTo
    (set : context.deadline = some deadline)
    (rest : Flow Result)
    (run : ProxyRun Conn Peers)
    (early : run.clock ≤ Instant.timer deadline) :
    ∃ after, LeadsTo proxy context ⟨run, rest, none⟩ after ∧ after.returned? ≠ none ∧
      after.run.clock ≤ Instant.timer deadline := by
  induction rest generalizing run with
  | done result => exact ⟨_, .here, nofun, early⟩
  | call typed cached next inductionHypothesis =>
      have opens : (ProxyEvent.call typed context cached : ProxyEvent Peers).context? =
        some context := rfl
      obtain ⟨call, found⟩ := ProxyRun.exists_find?_begun proxy run opens
      obtain ⟨after, leads, returned, last⟩ :=
        exists_leadsTo_of_pending inductionHypothesis early
          (ProxyRun.onTime_begun proxy run opens set) (Option.ne_none_iff_exists'.mpr ⟨call, found⟩)
          early
      exact ⟨after, .goesOn leads, returned, last⟩

/-- In every prompt run a flow that begins before its deadline returns in time. -/
theorem returnsBy_of_prompt
    (proxy : Proxy Conn Peers)
    (flow : Flow Result)
    {run : ProxyRun Conn Peers}
    (set : context.deadline = some deadline)
    (early : run.clock ≤ Instant.timer deadline)
    {events : List (FlowEvent Peers)}
    (prompt : (start run flow).isPrompt proxy context events = true)
    (goesOn : ¬ ((start run flow).resume proxy context events).IsGivenUp) :
    ((start run flow).resume proxy context events).ReturnsBy proxy context
      (Instant.timer deadline) := by
  have begins : (start run flow).Timely proxy deadline := ⟨fun _ _ => early, fun _ _ => nofun⟩
  have timely := begins.resume set prompt
  generalize (start run flow).resume proxy context events = later at goesOn timely ⊢
  refine ⟨fun unreturned => timely.inTime unreturned goesOn, fun unreturned => ?_⟩
  have soon := timely.inTime unreturned goesOn
  obtain ⟨run, rest, pending⟩ := later
  cases rest with
  | done result => cases unreturned
  | call typed cached next =>
      cases pending with
      | none => exact exists_leadsTo set (.call typed cached next) run soon
      | some id =>
          obtain ⟨begun, inTime, onTime⟩ := timely.call unreturned id rfl
          have there : run.fabric.calls.find? id ≠ none := fun gone => goesOn ⟨id, rfl, gone⟩
          exact exists_leadsTo_of_pending (fun answer => exists_leadsTo set (next answer)) inTime
            onTime there soon

end FlowRun

/-! ## Calls and checkouts -/

/-- A call that tells how long its caller waits is made under the deadline that this makes. -/
theorem Grpc.deadline_contextOfHeaders
    {headers : Headers}
    {span : Duration}
    (told : (headers.text? timeoutHeader).bind parseTimeout? = some span)
    (now : Instant) :
    (contextOfHeaders now headers).deadline = some (now + span) := by
  simp only [contextOfHeaders, told]
  cases headers.text? requestIdHeader with
  | some id => rfl
  | none => rfl

/-- Every call under a deadline, through the cache or past it, attached, detached or of bytes,
is answered by the deadline, or by the time of the service if that ends first; one that begins
after its deadline is answered when it begins.  So every checkout that tells how long its caller
waits returns by then, however many calls it makes and whatever the services do.  A timer
adds less than a millisecond. -/
theorem answered_by_deadline
    (proxy : Proxy Conn Peers)
    (run : ProxyRun Conn Peers) :
    (∀ (opening : ProxyEvent Peers) (context : CallContext) (deadline : Instant)
        (events : List (ProxyEvent Peers)),
      opening.context? = some context -> context.deadline = some deadline ->
        (run.step proxy opening).isPrompt proxy run.next events = true ->
          ((run.step proxy opening).resume proxy events).fabric.calls.find? run.next ≠ none ->
            ((run.step proxy opening).resume proxy events).AnswersBy proxy run.next
              (Instant.timer
                (min (max run.clock deadline) (run.clock + proxy.config.circuit.timeout)))) ∧
      ∀ (headers : Headers) (span : Duration) (request : Message.MessageType.checkoutReq.Value)
          (events : List (FlowEvent Peers)),
        (headers.text? Grpc.timeoutHeader).bind Grpc.parseTimeout? = some span ->
          (FlowRun.start run (Checkout.flow request)).isPrompt proxy
              (Grpc.contextOfHeaders run.clock headers) events = true ->
            ¬ ((FlowRun.start run (Checkout.flow request)).resume proxy
              (Grpc.contextOfHeaders run.clock headers) events).IsGivenUp ->
              ((FlowRun.start run (Checkout.flow request)).resume proxy
                (Grpc.contextOfHeaders run.clock headers) events).ReturnsBy proxy
                  (Grpc.contextOfHeaders run.clock headers) (Instant.timer (run.clock + span)) := by
  refine ⟨fun opening context deadline events opens set prompt there => ?_,
    fun headers span request events told prompt goesOn => ?_⟩
  · exact ProxyRun.answersBy_of_prompt opens set prompt there
  · have early : run.clock ≤ Instant.timer (run.clock + span) :=
      Nat.le_trans (Nat.le_add_right run.clock span) (Instant.le_timer _)
    exact FlowRun.returnsBy_of_prompt proxy (Checkout.flow request)
      (Grpc.deadline_contextOfHeaders told run.clock) early prompt goesOn

/-! ## A slow cart -/

/-- A proxy whose only service takes two seconds to tell a cart. -/
def slowCart : Proxy Unit Unit := .replyingAfter (Duration.ofSeconds 2) (.answer (none, ()))

/-- Nobody has called it yet. -/
def uncalled : ProxyRun Unit Unit := (BegunCall.cart .fresh).run

/-- What arrives with a request whose caller waits half a second. -/
def hurry : Headers := [("grpc-timeout", "500m")]

/-- The cart is asked for by the bytes of a request that says nothing. -/
def askCart : ProxyEvent Unit := .raw ⟨"cart", "GetCart"⟩ (Grpc.contextOfHeaders 0 hurry) []

/-- A checkout asks for the cart, and some time passes. -/
def cartAsked (span : Duration) : List (FlowEvent Unit) :=
  .goOn :: (BegunCall.askedFor span).map .around

/-- Somebody who waits half a second for a cart, and a customer who waits as long for a
checkout, have their answers when the time is up. -/
theorem answered_by_deadline_hurry :
    ((Grpc.contextOfHeaders 0 hurry).deadline = some (Duration.ofMillis 500) ∧
      (uncalled.step slowCart askCart).isPrompt slowCart 0
        (BegunCall.askedFor (Duration.ofMillis 500)) = true ∧
      ((uncalled.step slowCart askCart).resume slowCart
        (BegunCall.askedFor (Duration.ofMillis 500))).AnswersBy slowCart 0
          (Duration.ofMillis 500)) ∧
    (hurry.text? Grpc.timeoutHeader).bind Grpc.parseTimeout? = some (Duration.ofMillis 500) ∧
      (FlowRun.start uncalled (Checkout.flow Checkout.customer)).isPrompt slowCart
        (Grpc.contextOfHeaders 0 hurry) (cartAsked (Duration.ofMillis 500)) = true ∧
      ((FlowRun.start uncalled (Checkout.flow Checkout.customer)).resume slowCart
        (Grpc.contextOfHeaders 0 hurry) (cartAsked (Duration.ofMillis 500))).ReturnsBy slowCart
          (Grpc.contextOfHeaders 0 hurry) (Duration.ofMillis 500) := by
  have set : (Grpc.contextOfHeaders 0 hurry).deadline = some (Duration.ofMillis 500) := by
    decide +kernel
  have prompt : (uncalled.step slowCart askCart).isPrompt slowCart 0
      (BegunCall.askedFor (Duration.ofMillis 500)) = true := by decide +kernel
  have there : (((uncalled.step slowCart askCart).resume slowCart
      (BegunCall.askedFor (Duration.ofMillis 500))).fabric.calls.find? 0).isSome = true := by
    decide +kernel
  have told : (hurry.text? Grpc.timeoutHeader).bind Grpc.parseTimeout? =
      some (Duration.ofMillis 500) := by decide +kernel
  have promptly : (FlowRun.start uncalled (Checkout.flow Checkout.customer)).isPrompt slowCart
      (Grpc.contextOfHeaders 0 hurry) (cartAsked (Duration.ofMillis 500)) = true := by
    decide +kernel
  have waits : ((FlowRun.start uncalled (Checkout.flow Checkout.customer)).resume slowCart
      (Grpc.contextOfHeaders 0 hurry) (cartAsked (Duration.ofMillis 500))).pending = some 0 := by
    decide +kernel
  have called : (((FlowRun.start uncalled (Checkout.flow Checkout.customer)).resume slowCart
      (Grpc.contextOfHeaders 0 hurry)
        (cartAsked (Duration.ofMillis 500))).run.fabric.calls.find? 0).isSome = true := by
    decide +kernel
  have goesOn : ¬ ((FlowRun.start uncalled (Checkout.flow Checkout.customer)).resume slowCart
      (Grpc.contextOfHeaders 0 hurry) (cartAsked (Duration.ofMillis 500))).IsGivenUp := by
    rintro ⟨id, pending, gone⟩
    obtain rfl := Option.some.inj (waits.symm.trans pending)
    rw [gone] at called
    cases called
  have due : Instant.timer (min (max uncalled.clock (Duration.ofMillis 500))
      (uncalled.clock + slowCart.config.circuit.timeout)) = Duration.ofMillis 500 := by
    decide +kernel
  have ends : Instant.timer (uncalled.clock + Duration.ofMillis 500) = Duration.ofMillis 500 := by
    decide +kernel
  refine ⟨⟨set, prompt, ?_⟩, told, promptly, ?_⟩
  · have answers := (answered_by_deadline slowCart uncalled).1 askCart _ _ _ rfl set prompt
      (Option.isSome_iff_ne_none.mp there)
    rw [due] at answers
    exact answers
  · have returns := (answered_by_deadline slowCart uncalled).2 hurry _ Checkout.customer _ told
      promptly goesOn
    rw [ends] at returns
    exact returns

end MallFabric
