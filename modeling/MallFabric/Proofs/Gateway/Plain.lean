import MallFabric.Gateway.Route
import MallFabric.Proofs.Flow
import MallFabric.Proofs.Gateway.Blame
import MallFabric.Proofs.Proxy.Handling

/-!
# Requests of plain routes

Requests arrive at the edge in any order, while everything else happens around the
proxy behind it.  The main statement is about every one of them over a proxy without
prepared answers: a request of a plain route that is answered well ran its handler
once, on the message that it binds, and such a request leaves the response cache
alone; a request that binds no message leaves no trace.
-/

namespace MallFabric

open Message (MessageType)

variable {Conn Peers : Type}

/-- No fault is answered as if all had gone well. -/
theorem Fault.httpStatus_ne_200 (fault : Fault) : fault.httpStatus ≠ 200 := by
  have ofCode : ∀ code, httpStatusOfCode code ≠ 200 := by
    intro code
    cases code with
    | _ => decide
  cases fault with
  | downstream code text => exact ofCode _
  | _ => simp [httpStatus]

/-- The result of a flow that makes no more calls. -/
def Flow.result? {Result : Type} : Flow Result -> Option Result
  | .done result => some result
  | .call _ _ _ => none

/-! ## Requests at the edge -/

/-- What may happen next at the edge. -/
inductive GatewayEvent (Peers : Type) where
  /-- A request arrives. -/
  | visit (request : HttpRequest)
  /-- Anything happens around the proxy: a call makes a step, say. -/
  | around (event : ProxyEvent Peers)

namespace Gateway

variable {config : GatewayConfig} {request : HttpRequest} {route : Route}

/-- The route that a request is answered by. -/
def route? (request : HttpRequest) : Option Route :=
  (Route.all.find? fun route => route.path = request.path).filter fun route =>
    request.verb ∈ route.verb.accepted

@[simp] theorem status_finish
    (request : HttpRequest)
    (answer : HttpAnswer) :
    (finish request answer).status = answer.status := by
  unfold finish
  split
  · rfl
  · rfl

/-- A request is served by the route that it is answered by. -/
theorem serve_of_route?
    (answers : route? request = some route)
    (config : GatewayConfig) :
    serve config request =
      (route.serve config request).bind fun answer => .done (finish request answer) := by
  obtain ⟨found, takes⟩ := Option.filter_eq_some_iff.mp answers
  have path : route.path = request.path := by simpa using List.find?_some found
  have elsewhere : ∀ route ∈ Route.all, route.path ≠ "/" := by decide
  have noRoot : request.path ≠ "/" := path ▸ elsewhere route (List.mem_of_find?_eq_some found)
  have accepted : request.verb ∈ route.verb.accepted := by simpa using takes
  simp only [serve]
  rw [if_neg noRoot, found]
  simp only [accepted, if_true]

/-- A route makes one call of a message that a request binds, and answers what comes of it. -/
theorem serve_of_bound
    (answers : route? request = some route)
    {message : route.request.Value}
    (bound : request.bind route.request = .ok message)
    (config : GatewayConfig) :
    ∃ next, serve config request = .call (route.typed message) route.cached next ∧
      (∀ response, next (.ok response) = .done (finish request (route.answer config response))) ∧
      ∀ fault, next (.error fault) = .done (finish request (.ofFault fault)) := by
  rw [serve_of_route? answers, Route.serve, bound]
  exact ⟨_, rfl, fun _ => rfl, fun _ => rfl⟩

/-- A request that binds no message is answered at once. -/
theorem serve_of_unbound
    (answers : route? request = some route)
    {fault : BindFault}
    (unbound : request.bind route.request = .error fault)
    (config : GatewayConfig) :
    serve config request = .done (finish request (.error 400 fault.message)) := by
  rw [serve_of_route? answers, Route.serve, unbound]
  rfl

/-- What an event at the edge is for the proxy: a request makes a call, or none. -/
def asks (config : GatewayConfig) (now : Instant) :
    GatewayEvent Peers -> List (ProxyEvent Peers)
  | .visit request =>
      match serve config request with
      | .done _ => []
      | .call typed cached _ => [.call typed (context config now request) cached]
  | .around event => [event]

/-- What happens around the proxy in the course of some events at the edge. -/
def asked (proxy : Proxy Conn Peers) (config : GatewayConfig) (run : ProxyRun Conn Peers) :
    List (GatewayEvent Peers) -> List (ProxyEvent Peers)
  | [] => []
  | event :: rest =>
      asks config run.clock event ++
        asked proxy config (run.resume proxy (asks config run.clock event)) rest

theorem asked_append
    (proxy : Proxy Conn Peers)
    (config : GatewayConfig)
    (run : ProxyRun Conn Peers)
    (earlier later : List (GatewayEvent Peers)) :
    asked proxy config run (earlier ++ later) =
      asked proxy config run earlier ++
        asked proxy config (run.resume proxy (asked proxy config run earlier)) later := by
  induction earlier generalizing run with
  | nil => rfl
  | cons event rest inductionHypothesis =>
      rw [List.cons_append, asked, asked, inductionHypothesis, List.append_assoc,
        ProxyRun.resume, ProxyRun.resume, ProxyRun.resume, List.foldl_append]

end Gateway

/-- A request to the edge in the course of a run of a proxy. -/
structure Visit (Conn Peers : Type) where
  proxy : Proxy Conn Peers
  config : GatewayConfig
  /-- The run at first, then what happens before and after the request arrives. -/
  start : ProxyRun Conn Peers
  earlier : List (GatewayEvent Peers)
  request : HttpRequest
  later : List (GatewayEvent Peers)

namespace Visit

/-- The proxy when the request arrives. -/
def arrival (visit : Visit Conn Peers) : ProxyRun Conn Peers :=
  visit.start.resume visit.proxy
    (Gateway.asked visit.proxy visit.config visit.start visit.earlier)

/-- The number of the call that the request makes, if it makes one. -/
def id (visit : Visit Conn Peers) : CallId := visit.arrival.next

/-- The proxy when the request has arrived. -/
def begun (visit : Visit Conn Peers) : ProxyRun Conn Peers :=
  visit.arrival.resume visit.proxy
    (Gateway.asks visit.config visit.arrival.clock (.visit visit.request))

/-- What happens around the proxy after that. -/
def following (visit : Visit Conn Peers) : List (ProxyEvent Peers) :=
  Gateway.asked visit.proxy visit.config visit.begun visit.later

/-- The proxy after all that. -/
def after (visit : Visit Conn Peers) : ProxyRun Conn Peers :=
  visit.begun.resume visit.proxy visit.following

/-- After the request has arrived something happens in a state. -/
def Happens (visit : Visit Conn Peers) (moment : ProxyRun Conn Peers)
    (event : ProxyEvent Peers) : Prop :=
  ProxyRun.Happens visit.proxy visit.begun visit.following moment event

/-- What the call of the request does. -/
def acts (visit : Visit Conn Peers) : List CallAct :=
  visit.begun.actsOf visit.proxy visit.id visit.following

/-- What the request is answered in the end, if it is answered. -/
def answer? (visit : Visit Conn Peers) : Option HttpAnswer :=
  match Gateway.serve visit.config visit.request with
  | .done answer => some answer
  | .call typed _ next =>
      match visit.after.fabric.result? visit.id with
      | some (some result) => (next (typed.read result)).result?
      | _ => none

/-- What a request does that a route answers. -/
structure ReachesService (visit : Visit Conn Peers) (route : Route) : Prop where
  /-- A request of a plain route that is answered well binds a message, and its call runs its
  handler once, on this message. -/
  handled : route.cached = false -> ∀ answer, visit.answer? = some answer -> answer.status = 200 ->
    ∃ message, visit.request.bind route.request = .ok message ∧
      visit.acts.count .invoked = 1 ∧
        ∃ moment, visit.Happens moment (.step visit.id) ∧
          ProxyRun.RunsHandler visit.proxy moment visit.id route.method
            (Gateway.context visit.config visit.arrival.clock visit.request) route.request
            route.response (route.request.shape.unsignZero message)
  /-- The call of a plain route leaves the cache as it is, and how often it was asked, when the
  call begins, makes its steps, and is given up. -/
  apart : route.cached = false -> ∀ message, visit.request.bind route.request = .ok message ->
    visit.begun.fabric.cache = visit.arrival.fabric.cache ∧
      ∀ moment event, event = .step visit.id ∨ event = .abort visit.id ->
        visit.Happens moment event ->
          (moment.step visit.proxy event).fabric.cache = moment.fabric.cache
  /-- A request that binds no message is refused and changes nothing, and what happens around the
  proxy is what happens without it. -/
  traceless : ∀ fault, visit.request.bind route.request = .error fault ->
    visit.answer? = some (Gateway.finish visit.request (.error 400 fault.message)) ∧
      visit.begun = visit.arrival ∧
        Gateway.asked visit.proxy visit.config visit.start
            (visit.earlier ++ .visit visit.request :: visit.later) =
          Gateway.asked visit.proxy visit.config visit.start (visit.earlier ++ visit.later)

variable {visit : Visit Conn Peers} {route : Route}

/-- Everything that happens is what happens before the request arrives, what it asks, and what
happens after that. -/
theorem asked_eq (visit : Visit Conn Peers) :
    Gateway.asked visit.proxy visit.config visit.start
        (visit.earlier ++ .visit visit.request :: visit.later) =
      Gateway.asked visit.proxy visit.config visit.start visit.earlier ++
        (Gateway.asks visit.config visit.arrival.clock (.visit visit.request) ++
          visit.following) := by
  rw [Gateway.asked_append]
  rfl

section Bound

variable {message : route.request.Value}

/-- The call that a request makes of its message. -/
theorem begun_of_bound
    (answers : Gateway.route? visit.request = some route)
    (bound : visit.request.bind route.request = .ok message) :
    visit.begun = visit.arrival.step visit.proxy
      (.call (route.typed message)
        (Gateway.context visit.config visit.arrival.clock visit.request) route.cached) := by
  obtain ⟨next, served, -, -⟩ := Gateway.serve_of_bound answers bound visit.config
  simp only [begun, Gateway.asks, served]
  rfl

/-- A request that is answered well binds a message, and its call is answered. -/
theorem answered_of_status
    (answers : Gateway.route? visit.request = some route)
    {answer : HttpAnswer}
    (answered : visit.answer? = some answer)
    (well : answer.status = 200) :
    ∃ message, visit.request.bind route.request = .ok message ∧
      ∃ bytes, visit.after.fabric.result? visit.id = some (some (.ok bytes)) := by
  cases bound : visit.request.bind route.request with
  | error fault =>
      have refused := Gateway.serve_of_unbound answers bound visit.config
      simp only [answer?, refused, Option.some.injEq] at answered
      subst answered
      rw [Gateway.status_finish] at well
      cases well
  | ok message =>
      refine ⟨message, rfl, ?_⟩
      obtain ⟨next, served, -, faulty⟩ := Gateway.serve_of_bound answers bound visit.config
      simp only [answer?, served] at answered
      split at answered
      · next result ended =>
          cases result with
          | ok bytes => exact ⟨bytes, ended⟩
          | error fault =>
              have failed : (route.typed message).read (.error fault) = .error fault := rfl
              rw [failed, faulty] at answered
              obtain rfl := Option.some.inj answered
              rw [Gateway.status_finish] at well
              exact absurd well fault.httpStatus_ne_200
      · cases answered

variable (answers : Gateway.route? visit.request = some route)
variable (bound : visit.request.bind route.request = .ok message)

include answers bound

/-- The number of the call has been given out. -/
theorem id_lt_next : visit.id < visit.begun.next := by
  rw [begun_of_bound answers bound]
  exact Nat.lt_succ_self _

/-- The call of a request as it begins. -/
theorem find?_begun
    (checked : visit.proxy.table.contract route.method route.request route.response = .ok ()) :
    visit.begun.fabric.calls.find? visit.id =
      some (visit.arrival.beginning visit.proxy (route.typed message)
        (Gateway.context visit.config visit.arrival.clock visit.request) route.cached) := by
  have typed : visit.proxy.table.contract (route.typed message).method (route.typed message).request
      (route.typed message).response = .ok () := checked
  rw [begun_of_bound answers bound]
  exact ProxyRun.find?_beginning typed visit.arrival _ _

/-- What the call of an answered request does is its life. -/
theorem life_of_answered
    {bytes : Bytes}
    (ended : visit.after.fabric.result? visit.id = some (some (.ok bytes))) :
    Life visit.proxy visit.id
      (visit.proxy.beginTyped visit.id (route.typed message)
        (Gateway.context visit.config visit.arrival.clock visit.request) route.cached
        visit.arrival.fabric)
      visit.acts visit.after.fabric := by
  have present : visit.after.fabric.calls.find? visit.id ≠ none := by
    intro absent
    rw [Fabric.result?_eq, absent] at ended
    cases ended
  have life : Life visit.proxy visit.id visit.begun.fabric ([] ++ visit.acts) visit.after.fabric :=
    ProxyRun.life_resume .begun (id_lt_next answers bound) visit.following present
  have started := congrArg ProxyRun.fabric (begun_of_bound answers bound)
  rw [List.nil_append, started] at life
  exact life

/-- Where the call of an answered request runs a handler, it is that of its method, and it runs
on the message of the request. -/
theorem exists_runsHandler
    {bytes : Bytes}
    (ended : visit.after.fabric.result? visit.id = some (some (.ok bytes)))
    (invoked : .invoked ∈ visit.acts) :
    ∃ moment, visit.Happens moment (.step visit.id) ∧
      ProxyRun.RunsHandler visit.proxy moment visit.id route.method
        (Gateway.context visit.config visit.arrival.clock visit.request) route.request
        route.response (route.request.shape.unsignZero message) := by
  have checked := Proxy.contract_of_answered (life_of_answered answers bound ended) ended
  have begins := find?_begun answers bound checked
  obtain ⟨moment, happened, invoked⟩ := ProxyRun.exists_happens_of_mem_actsOf invoked
  refine ⟨moment, happened, ?_⟩
  obtain ⟨earlier, -, rfl⟩ := happened
  obtain ⟨call, there⟩ := Proxy.exists_call_of_mem_acts invoked
  obtain ⟨stage, rfl⟩ :=
    ProxyRun.exists_stage_resume (id_lt_next answers bound) begins earlier call there
  exact ProxyRun.runsHandler_of_invoked checked there rfl rfl invoked

variable (plain : route.cached = false)

include plain

/-- The call of a plain route is past the cache. -/
theorem pastCache_begun :
    ∃ call, visit.begun.fabric.calls.find? visit.id = some call ∧ call.PastCache := by
  rw [begun_of_bound answers bound, plain]
  exact visit.proxy.pastCache_beginTyped _ _ _ _

theorem apart_of_plain :
    visit.begun.fabric.cache = visit.arrival.fabric.cache ∧
      ∀ moment event, event = .step visit.id ∨ event = .abort visit.id ->
        visit.Happens moment event ->
          (moment.step visit.proxy event).fabric.cache = moment.fabric.cache := by
  obtain ⟨first, found, past⟩ := pastCache_begun answers bound plain
  constructor
  · rw [begun_of_bound answers bound]
    exact visit.proxy.cache_beginTyped _ _ _ _ _
  · rintro moment event own ⟨earlier, -, rfl⟩
    have stillPast : ∀ call, (visit.begun.resume visit.proxy earlier).fabric.calls.find? visit.id =
        some call -> call.PastCache := by
      refine ProxyRun.pastCache_resume (id_lt_next answers bound) (fun call present => ?_) earlier
      obtain rfl := Option.some.inj (found.symm.trans present)
      exact past
    rcases own with rfl | rfl
    · exact (ProxyRun.cache_eq_of_pastCache stillPast).1
    · exact (ProxyRun.cache_eq_of_pastCache stillPast).2

/-- The call of an answered request of a plain route ran its handler once. -/
theorem count_invoked_of_answered
    (failFast : visit.proxy.fallback = .failFast)
    {bytes : Bytes}
    (ended : visit.after.fabric.result? visit.id = some (some (.ok bytes))) :
    visit.acts.count .invoked = 1 := by
  have life := life_of_answered answers bound ended
  have sum := (Proxy.invoked_add_hit_of_answered failFast life ended).1
  obtain ⟨first, found, past⟩ := pastCache_begun answers bound plain
  rw [begun_of_bound answers bound] at found
  -- An answer comes from the handler or from the cache, and this call is past the cache.
  have noHit : visit.acts.count .hit = 0 := List.count_eq_zero.mpr (life.not_hit found past).1
  rwa [noHit] at sum

end Bound

/-- What any request does that a route answers, over a proxy without prepared answers. -/
theorem reachesService
    (failFast : visit.proxy.fallback = .failFast)
    (answers : Gateway.route? visit.request = some route) :
    visit.ReachesService route where
  handled := by
    intro plain answer answered well
    obtain ⟨message, bound, bytes, ended⟩ := answered_of_status answers answered well
    have once := count_invoked_of_answered answers bound plain failFast ended
    have ran : .invoked ∈ visit.acts := List.count_pos_iff.mp (by omega)
    exact ⟨message, bound, once, exists_runsHandler answers bound ended ran⟩
  apart := fun plain message bound => apart_of_plain answers bound plain
  traceless := by
    intro fault unbound
    have refused := Gateway.serve_of_unbound answers unbound visit.config
    have nothing : Gateway.asks visit.config visit.arrival.clock
        (.visit visit.request : GatewayEvent Peers) = [] := by
      simp only [Gateway.asks, refused]
    refine ⟨by simp only [answer?, refused], ?_, ?_⟩
    · rw [begun, nothing]
      rfl
    · rw [asked_eq, following, begun, nothing, Gateway.asked_append]
      rfl

end Visit

/-! ## A cart that is asked for again -/

namespace Gateway

/-- The route of the cart of a user, which is plain. -/
def cartPage : Route :=
  ⟨.get, "/cart/get", ⟨"cart", "GetCart"⟩, .getCartReq, .getCartResp, false⟩

/-- A proxy for carts that are all empty; the service notes whose cart it was asked for. -/
def emptyCarts : Proxy Unit (List UInt32) where
  config := ProxyConfig.standard
  table := DispatchTable.empty.register cartPage.method .getCartReq .getCartResp
    fun _ _ now message users =>
      (⟨now, .answer MessageType.getCartResp.shape.empty⟩, message.1 :: users)
  dialler := ⟨none, fun now _ users => (⟨now, .ok ()⟩, users)⟩
  fallback := .failFast

/-- Somebody asks for a cart when the response cache already has the answer. -/
def askedAgain : Visit Unit (List UInt32) where
  proxy := emptyCarts
  config := GatewayConfig.standard
  start := ProxyRun.start 4 (Pool.new [⟨"cart", "a"⟩] false) []
  earlier := .around (.call (cartPage.typed (7, ())) .fresh true) ::
    List.replicate 12 (.around (.step 0))
  request := ⟨"GET", "/cart/get?user_id=7", [], ""⟩
  later := List.replicate 12 (.around (.step 1))

end Gateway

open Gateway in
/-- The service is asked once more. -/
theorem Visit.reachesService_askedAgain :
    askedAgain.proxy.fallback = .failFast ∧ route? askedAgain.request = some cartPage ∧
      askedAgain.answer?.map HttpAnswer.status = some 200 ∧
        askedAgain.arrival.fabric.cache.entries.length = 1 ∧
          askedAgain.arrival.fabric.peers = [7] ∧ askedAgain.acts.count .invoked = 1 ∧
            askedAgain.after.fabric.peers = [7, 7] := by
  have path : askedAgain.request.path = "/cart/get" := by decide +kernel
  have answers : route? askedAgain.request = some cartPage := by
    rw [route?, path]
    rfl
  have well : askedAgain.answer?.map HttpAnswer.status = some 200 := by decide +kernel
  have reaches : askedAgain.ReachesService cartPage := Visit.reachesService rfl answers
  obtain ⟨answer, answered, status⟩ := Option.map_eq_some_iff.mp well
  obtain ⟨message, bound, once, ran⟩ := reaches.handled rfl answer answered status
  exact ⟨rfl, answers, well, by decide +kernel, by decide +kernel, once, by decide +kernel⟩

end MallFabric
