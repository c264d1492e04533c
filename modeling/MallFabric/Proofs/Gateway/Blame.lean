import MallFabric.Gateway.Route
import MallFabric.Proofs.Dispatch.Transparency
import MallFabric.Proofs.Proxy.Origin
import MallFabric.Proofs.Proxy.Release
import Mathlib

/-!
# Who is behind the faults of a route

A route is accepted if the table has its method with its types.  The main
statement is about every table that was built and every route that it was
accepted for: calls through the table are calls of the functions registered
last, and when a call of the route fails as if the method or its types were not
there, this comes from such a function, from a prepared answer, from opening
the connection, or from bytes that the cache held.
-/

namespace MallFabric

open Message (MessageType)

variable {Conn Peers : Type}

namespace Gateway

/-- A table has the types of every route that it was accepted for. -/
theorem contract_of_check
    {table : DispatchTable Conn Peers}
    {routes : List Route}
    (accepted : check table routes = .ok ())
    {route : Route}
    (present : route ∈ routes) :
    table.contract route.method route.request route.response = .ok () := by
  induction routes with
  | nil => cases present
  | cons first rest inductionHypothesis =>
      unfold check at accepted
      cases checked : table.contract first.method first.request first.response with
      | error fault =>
          rw [checked] at accepted
          cases accepted
      | ok done =>
          rw [checked] at accepted
          rcases List.mem_cons.mp present with rfl | later
          · exact checked
          · exact inductionHypothesis accepted later

end Gateway

/-- The request that a route makes of a message. -/
def Route.typed (route : Route) (message : route.request.Value) : TypedRequest :=
  ⟨route.method, route.request, route.response, message⟩

/-- A call that a route makes for a request in a run of a proxy. -/
structure RouteCall (Conn Peers : Type) where
  route : Route
  request : HttpRequest
  message : route.request.Value
  bound : request.bind route.request = .ok message
  context : CallContext
  /-- The run at first, then what happens before and after the call begins. -/
  start : ProxyRun Conn Peers
  fresh : start.Fresh
  earlier : List (ProxyEvent Peers)
  later : List (ProxyEvent Peers)

namespace RouteCall

def asked (call : RouteCall Conn Peers) : TypedRequest := call.route.typed call.message

/-- Everything that happens. -/
def events (call : RouteCall Conn Peers) : List (ProxyEvent Peers) :=
  call.earlier ++ .call call.asked call.context call.route.cached :: call.later

/-- The number of the call. -/
def id (call : RouteCall Conn Peers) (proxy : Proxy Conn Peers) : CallId :=
  (call.start.resume proxy call.earlier).next

/-- What the call comes to for the route, if it has ended and its task has not broken down. -/
def result? (call : RouteCall Conn Peers) (proxy : Proxy Conn Peers) :
    Option (Except Fault call.route.response.Value) :=
  match (call.start.resume proxy call.events).fabric.result? (call.id proxy) with
  | some (some result) => some (call.asked.read result)
  | _ => none

/-- The call makes a step in a state of the run. -/
def Steps (call : RouteCall Conn Peers) (proxy : Proxy Conn Peers) (moment : ProxyRun Conn Peers) :
    Prop :=
  ProxyRun.Happens proxy call.start call.events moment (.step (call.id proxy))

/-- This call is what the route makes of the request, and the route answers a fault of the call
as it is. -/
theorem serve_eq_call
    (call : RouteCall Conn Peers)
    (config : GatewayConfig) :
    ∃ next, call.route.serve config call.request = .call call.asked call.route.cached next ∧
      ∀ fault, next (.error fault) = .done (.ofFault fault) := by
  unfold Route.serve
  rw [call.bound]
  exact ⟨_, rfl, fun _ => rfl⟩

end RouteCall

/-- Faults that tell that a method or its types are not there. -/
inductive Fault.IsMisdispatch : Fault -> Prop where
  | methodNotFound (method : Method) : IsMisdispatch (.methodNotFound method)
  | invalidContract (method : Method) (reason : String) :
      IsMisdispatch (.invalidContract method reason)

/-- What is behind a fault of a call of a route. -/
inductive Blamed (proxy : Proxy Conn Peers) (steps : List (TableStep Conn Peers))
    (call : RouteCall Conn Peers) (fault : Fault) : Prop where
  /-- The function that was registered last fails so when the call is carried out. -/
  | function {moment conn remote handler}
      (latest : TableStep.latest? call.route.method steps =
        some ⟨call.route.method, call.route.request, call.route.response, remote, handler⟩)
      (invoked : call.Steps proxy moment)
      (connected : moment.fabric.pool.result? (call.id proxy) = some (.ok conn))
      (fails : (handler conn call.context moment.clock
        (call.route.request.shape.unsignZero call.message) moment.fabric.peers).1.result =
          .fault fault) :
      Blamed proxy steps call fault
  /-- The answer that is prepared for the method is no response of the route. -/
  | fallback {answer}
      (prepared : proxy.fallback.answers.find? call.route.method = some answer)
      (unread : call.asked.read (.ok answer) = .error fault) :
      Blamed proxy steps call fault
  /-- The call dials its service, and the dial fails so. -/
  | connection {moment}
      (dialled : call.Steps proxy moment)
      (dials : (moment.fabric.pool.step (call.id proxy)).2 = .dial call.route.method.service)
      (fails : (proxy.dialler.dial (moment.fabric.pool.step (call.id proxy)).1 moment.clock
        call.route.method.service moment.fabric.peers).1.result = .error fault) :
      Blamed proxy steps call fault
  /-- What the cache holds for the request when the call looks there is no response of the
  route. -/
  | held {moment answer}
      (cached : call.route.cached = true)
      (looked : call.Steps proxy moment)
      (found : (moment.fabric.cache.get moment.clock
        (call.route.method.cacheKey call.asked.payload)).1 = some answer)
      (unread : call.asked.read (.ok answer) = .error fault) :
      Blamed proxy steps call fault

/-- What a table that is built by some steps is for its callers, and for the routes that it is
accepted for. -/
structure Transparent (steps : List (TableStep Conn Peers)) : Prop where
  /-- The check of the types passes just for those of the function registered last. -/
  checks : ∀ method request response,
    (DispatchTable.build steps).contract method request response = .ok () ↔
      ∃ remote handler,
        TableStep.latest? method steps = some ⟨method, request, response, remote, handler⟩
  /-- Where it passes, a call gives what this function gives. -/
  delivers : ∀ method request response remote handler,
    TableStep.latest? method steps = some ⟨method, request, response, remote, handler⟩ ->
      ∀ conn context now message peers, request.Fits message ->
        (DispatchTable.build steps).invoke conn method context now request response message peers =
          handler.deliver conn context now message peers
  /-- Where it fails, a call fails in the same way at once, and nothing happens to the
  peers. -/
  refuses : ∀ method request response fault,
    (DispatchTable.build steps).contract method request response = .error fault ->
      ∀ conn context now message peers,
        (DispatchTable.build steps).invoke conn method context now request response message peers =
          (⟨now, .fault fault⟩, peers)
  /-- A route makes its call of the message that a request binds, and answers a fault of the
  call as it is. -/
  serves : ∀ (call : RouteCall Conn Peers) config,
    ∃ next, call.route.serve config call.request = .call call.asked call.route.cached next ∧
      ∀ fault, next (.error fault) = .done (.ofFault fault)
  /-- A call of an accepted route that fails as if the method or its types were not there has
  something else to blame. -/
  blames : ∀ (proxy : Proxy Conn Peers) routes,
    proxy.table = DispatchTable.build steps -> Gateway.check proxy.table routes = .ok () ->
      ∀ call : RouteCall Conn Peers, call.route ∈ routes ->
        call.route.request.Fits call.message ->
          ∀ fault, call.result? proxy = some (.error fault) -> fault.IsMisdispatch ->
            Blamed proxy steps call fault

section Blames

variable {proxy : Proxy Conn Peers} {steps : List (TableStep Conn Peers)}
variable {call : RouteCall Conn Peers} {remote : Bool} {fault : Fault}
variable {handler : Handler Conn Peers call.route.request call.route.response}

/-- A prepared answer that is no response is to blame for itself. -/
theorem blamed_of_degraded
    (cause : Fault)
    (failed : call.asked.read (proxy.degrade call.route.method cause) = .error fault)
    (misdispatch : fault.IsMisdispatch) :
    Blamed proxy steps call fault := by
  unfold Proxy.degrade Fallback.degrade at failed
  cases prepared : proxy.fallback.answers.find? call.route.method with
  | none =>
      rw [prepared] at failed
      cases failed
      cases misdispatch
  | some answer =>
      rw [prepared] at failed
      exact .fallback prepared failed

/-- What is told instead of a connection comes from a dial. -/
theorem blamed_of_unreached
    (reason : proxy.Unreached (ProxyRun.Happens proxy call.start call.events) (call.id proxy)
      call.route.method.service fault)
    (misdispatch : fault.IsMisdispatch) :
    Blamed proxy steps call fault := by
  cases reason with
  | unknown => cases misdispatch
  | closed => cases misdispatch
  | dial dialled dials failed => exact .connection dialled dials failed

/-- The call whose origin is told. -/
def RouteCall.beginning (call : RouteCall Conn Peers) (proxy : Proxy Conn Peers) : Call :=
  (call.start.resume proxy call.earlier).beginning proxy call.asked call.context call.route.cached

variable (built : proxy.table = DispatchTable.build steps)
variable (latest : TableStep.latest? call.route.method steps =
  some ⟨call.route.method, call.route.request, call.route.response, remote, handler⟩)
variable (fits : call.route.request.Fits call.message)

include built latest fits

/-- What a call of a route gets from its handler. -/
theorem handled_eq
    {reply : Timed (Reply Bytes)}
    (handled : proxy.Handled (ProxyRun.Happens proxy call.start call.events) (call.id proxy)
      (call.beginning proxy) reply) :
    ∃ moment conn, call.Steps proxy moment ∧
      moment.fabric.pool.result? (call.id proxy) = some (.ok conn) ∧
        reply.result = (handler conn call.context moment.clock
          (call.route.request.shape.unsignZero call.message) moment.fabric.peers).1.result.bind
            fun given => .ok (call.route.response.shape.encode given) := by
  cases handled with
  | @invoked moment conn happened connected =>
      refine ⟨moment, conn, happened, connected, ?_⟩
      have invoked := DispatchTable.invokeRaw_build latest fits conn call.context moment.clock
        moment.fabric.peers
      rw [← built] at invoked
      exact congrArg (fun called => called.1.result) invoked

/-- What a call of a route got from its handler is the fault of the function. -/
theorem blamed_of_failed
    {reply : Timed (Reply Bytes)}
    (handled : proxy.Handled (ProxyRun.Happens proxy call.start call.events) (call.id proxy)
      (call.beginning proxy) reply)
    (failed : reply.result = .fault fault) :
    Blamed proxy steps call fault := by
  obtain ⟨moment, conn, invoked, connected, same⟩ := handled_eq built latest fits handled
  exact .function latest invoked connected (Reply.eq_fault_of_bind (same.symm.trans failed))

/-- What the function answers is read without a fault. -/
theorem read_of_answered
    (bounded : Registration.Bounded
      ⟨call.route.method, call.route.request, call.route.response, remote, handler⟩)
    {reply : Timed (Reply Bytes)}
    {answer : Bytes}
    (handled : proxy.Handled (ProxyRun.Happens proxy call.start call.events) (call.id proxy)
      (call.beginning proxy) reply)
    (answered : reply.result = .answer answer) :
    ∃ response, call.asked.read (.ok answer) = .ok response := by
  obtain ⟨moment, conn, invoked, connected, same⟩ := handled_eq built latest fits handled
  obtain ⟨given, gives, rfl⟩ := Reply.exists_of_bind_eq_answer (same.symm.trans answered)
  exact ⟨_, DispatchTable.decodeResponse_encode call.route.method
    (bounded conn call.context moment.clock _ moment.fabric.peers given gives)⟩

/-- The origin of the result of a call tells what is behind its fault. -/
theorem blamed_of_origin
    (bounded : Registration.Bounded
      ⟨call.route.method, call.route.request, call.route.response, remote, handler⟩)
    {result : Except Fault Bytes}
    (origin : proxy.Origin (ProxyRun.Happens proxy call.start call.events) (call.id proxy)
      (call.beginning proxy) result)
    (failed : call.asked.read result = .error fault)
    (misdispatch : fault.IsMisdispatch) :
    Blamed proxy steps call fault := by
  cases origin with
  | unregistered missing =>
      have checked := DispatchTable.contract_build_eq_ok_iff.mpr ⟨remote, handler, latest⟩
      obtain ⟨entry, found, -⟩ := DispatchTable.contract_eq_ok_iff.mp checked
      have present : proxy.table.contains call.route.method = true := by
        rw [built]
        exact Option.isSome_iff_exists.mpr ⟨entry, found⟩
      cases present.symm.trans missing
  | cancelled =>
      cases failed
      cases misdispatch
  | timedOut =>
      cases failed
      cases misdispatch
  | served looked cached found =>
      exact .held (Bool.and_eq_true_iff.mp cached).1 looked found failed
  | answered handled answered =>
      obtain ⟨response, read⟩ := read_of_answered built latest fits bounded handled answered
      cases read.symm.trans failed
  | failed handled fails =>
      cases failed
      exact blamed_of_failed built latest fits handled fails
  | unreached asked told reason =>
      cases failed
      exact blamed_of_unreached reason misdispatch
  | degraded cause replaced =>
      rw [← replaced] at failed
      exact blamed_of_degraded cause failed misdispatch

end Blames

theorem RouteCall.origin
    {proxy : Proxy Conn Peers}
    {call : RouteCall Conn Peers}
    (checked : proxy.table.contract call.route.method call.route.request call.route.response =
      .ok ())
    {fault : Fault}
    (failed : call.result? proxy = some (.error fault)) :
    ∃ result, proxy.Origin (ProxyRun.Happens proxy call.start call.events) (call.id proxy)
      (call.beginning proxy) result ∧ call.asked.read result = .error fault := by
  unfold result? at failed
  split at failed
  · next result ended =>
      refine ⟨result, ?_, Option.some.inj failed⟩
      rw [events, ProxyRun.resume, List.foldl_append, List.foldl_cons] at ended
      exact ProxyRun.origin_of_result? call.fresh checked call.context call.route.cached
        call.earlier call.later rfl ended
  · cases failed

/-- Every table whose functions give no answer that is too long is transparent. -/
theorem transparent_of_bounded
    (steps : List (TableStep Conn Peers))
    (bounded : ∀ registration, .register registration ∈ steps -> registration.Bounded) :
    Transparent steps := by
  have boundedLatest : ∀ {method registration},
      TableStep.latest? method steps = some registration -> registration.Bounded :=
    fun latest => bounded _ (TableStep.registered_of_latest? latest).1
  constructor
  · exact fun method request response => DispatchTable.contract_build_eq_ok_iff
  · intro method request response remote handler latest conn context now message peers fits
    exact DispatchTable.invoke_build latest (boundedLatest latest) fits conn context now peers
  · intro method request response fault refused conn context now message peers
    unfold DispatchTable.invoke
    rw [refused]
  · exact fun call config => call.serve_eq_call config
  · intro proxy routes built accepted call present fits fault failed misdispatch
    have checked := Gateway.contract_of_check accepted present
    obtain ⟨result, origin, read⟩ := call.origin checked failed
    rw [built] at checked
    obtain ⟨remote, handler, latest⟩ := DispatchTable.contract_build_eq_ok_iff.mp checked
    exact blamed_of_origin built latest fits (boundedLatest latest) origin read misdispatch

/-! ## A product page -/

namespace Gateway

/-- The route of one product, which goes through the cache. -/
def productPage : Route :=
  ⟨.get, "/product/get", ⟨"product", "GetProduct"⟩, .getProductReq, .getProductResp, true⟩

/-- The request for the product of number 5. -/
def five : MessageType.getProductReq.Value := (5, ())

/-- A response without a product. -/
def noProduct : MessageType.getProductResp.Value := MessageType.getProductResp.shape.empty

/-- A function that knows no product, whoever asks for it. -/
def answersNothing : Handler Unit Unit .getProductReq .getProductResp :=
  fun _ _ now _ peers => (⟨now, .answer noProduct⟩, peers)

/-- A function that finds nothing takes the place of one that fails. -/
def replaced : List (TableStep Unit Unit) := [
  .register ⟨productPage.method, .getProductReq, .getProductResp, false,
    fun _ _ now _ peers => (⟨now, .fault (.notFound "product")⟩, peers)⟩,
  .mark productPage.method,
  .register ⟨productPage.method, .getProductReq, .getProductResp, false, answersNothing⟩]

/-- A proxy without prepared answers that opens connections in the given way. -/
def shop (connected : Except Fault Unit) : Proxy Unit Unit where
  config := ProxyConfig.standard
  table := DispatchTable.build replaced
  dialler := ⟨none, fun now _ peers => (⟨now, connected⟩, peers)⟩
  fallback := .failFast

/-- A cache that holds a byte for the product of number 5 that is no response. -/
def outdated : CacheLink :=
  (CacheLink.ofStore (MemoryCache.new 4)).set 0 (productPage.method.cacheKey [8, 5]) [255]
    (Duration.ofSeconds 60)

/-- Somebody visits the page of the product over a cache. -/
def visit (cache : CacheLink) : RouteCall Unit Unit where
  route := productPage
  request := ⟨"GET", "/product/get?id=5", [], ""⟩
  message := five
  bound := by cbv
  context := .fresh
  start := ProxyRun.new cache (Pool.new [⟨"product", "a"⟩] false) ()
  fresh := fun _ _ => ⟨rfl, rfl, rfl⟩
  earlier := []
  later := List.replicate 12 (.step 0)

theorem bounded_replaced :
    ∀ registration, .register registration ∈ replaced -> registration.Bounded := by
  intro registration present
  simp only [replaced, List.mem_cons, TableStep.register.injEq, reduceCtorEq, List.not_mem_nil,
    or_false, false_or] at present
  rcases present with rfl | rfl
  · rintro conn context now request peers response ⟨⟩
  · rintro conn context now request peers response ⟨⟩
    show (MessageType.getProductResp.shape.encode noProduct).length < 2 ^ 64
    decide +kernel

theorem latest?_replaced :
    TableStep.latest? productPage.method replaced =
      some ⟨productPage.method, .getProductReq, .getProductResp, false, answersNothing⟩ := rfl

/-- What the cache holds is read as a response of the route, and is none. -/
theorem result?_outdated :
    ∃ reason, (visit outdated).result? (shop (.ok ())) =
      some (.error (.invalidContract productPage.method reason)) := by
  have ended : ((visit outdated).start.resume (shop (.ok ()))
      (visit outdated).events).fabric.result? ((visit outdated).id (shop (.ok ()))) =
        some (some (.ok [255])) := by
    decide +kernel
  unfold RouteCall.result?
  rw [ended]
  exact ⟨_, rfl⟩

/-- A connection that cannot be opened may say anything. -/
theorem result?_unconnected :
    (visit .off).result? (shop (.error (.methodNotFound productPage.method))) =
      some (.error (.methodNotFound productPage.method)) := by
  have ended : ((visit .off).start.resume (shop (.error (.methodNotFound productPage.method)))
      (visit .off).events).fabric.result?
        ((visit .off).id (shop (.error (.methodNotFound productPage.method)))) =
          some (some (.error (.methodNotFound productPage.method))) := by
    decide +kernel
  unfold RouteCall.result?
  rw [ended]
  rfl

/-- A page of the shop fails as if its method or its types were not there, though the table
has them, no answer is prepared, and the function that was registered last answers whatever
it is asked. -/
theorem misdispatch_of_neither_function_nor_fallback :
    (∀ connected, check (shop connected).table [productPage] = .ok () ∧
      (shop connected).fallback = .failFast) ∧
    (shop (.ok ())).table = DispatchTable.build replaced ∧
    TableStep.latest? productPage.method replaced =
      some ⟨productPage.method, .getProductReq, .getProductResp, false, answersNothing⟩ ∧
    (∀ conn context now request peers,
      (answersNothing conn context now request peers).1.result = .answer noProduct) ∧
    (∃ reason, (visit outdated).result? (shop (.ok ())) =
      some (.error (.invalidContract productPage.method reason))) ∧
    (visit .off).result? (shop (.error (.methodNotFound productPage.method))) =
      some (.error (.methodNotFound productPage.method)) :=
  ⟨fun _ => ⟨rfl, rfl⟩, rfl, latest?_replaced, fun _ _ _ _ _ => rfl, result?_outdated,
    result?_unconnected⟩

/-- The table of the shop is transparent, and something is behind the fault of the page. -/
theorem transparent_of_bounded_replaced :
    (∀ registration, .register registration ∈ replaced -> registration.Bounded) ∧
      Transparent replaced ∧
      MessageType.getProductReq.Fits five ∧
      (DispatchTable.build replaced).contract productPage.method .getProductReq .getProductResp =
        .ok () ∧
      ∃ reason, Blamed (shop (.ok ())) replaced (visit outdated)
        (.invalidContract productPage.method reason) := by
  have fits : MessageType.getProductReq.Fits five := by
    show (MessageType.getProductReq.shape.encode five).length < 2 ^ 64
    decide +kernel
  have transparent := transparent_of_bounded replaced bounded_replaced
  obtain ⟨reason, failed⟩ := result?_outdated
  refine ⟨bounded_replaced, transparent, fits, rfl, reason, ?_⟩
  exact transparent.blames (shop (.ok ())) [productPage] rfl rfl (visit outdated)
    List.mem_cons_self fits _ failed (.invalidContract _ reason)

end Gateway

end MallFabric
