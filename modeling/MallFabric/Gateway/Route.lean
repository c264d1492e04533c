import MallFabric.Flow
import MallFabric.Gateway.Answer
import MallFabric.Gateway.Request

/-!
# The routes of the HTTP edge

Each route maps a verb and a path to a method.  A plain route always reaches
the service; a cached route is served through the response cache and lets its
clients keep the answer.
-/

namespace MallFabric

open Message (MessageType)

/-- The verbs of routes. -/
inductive Verb where
  | get
  | post
  | delete
deriving DecidableEq, Repr, Inhabited

namespace Verb

def name : Verb -> String
  | get => "GET"
  | post => "POST"
  | delete => "DELETE"

/-- The verbs of requests that a route answers.  What is got can also be asked
for without its body. -/
def accepted : Verb -> List String
  | get => ["GET", "HEAD"]
  | verb => [verb.name]

end Verb

/-- A path of the HTTP edge and the method it leads to. -/
structure Route where
  verb : Verb
  path : String
  method : Method
  request : MessageType
  response : MessageType
  /-- Whether the route goes through the response cache. -/
  cached : Bool
deriving Repr

/-- How the edge treats requests. -/
structure GatewayConfig where
  /-- The time that every call is given. -/
  requestTimeout : Duration
  /-- How long clients may keep the answers of cached routes. -/
  cacheMaxAge : Duration
deriving DecidableEq, Repr, Inhabited

namespace GatewayConfig

def standard : GatewayConfig := ⟨Duration.ofSeconds 5, Duration.ofSeconds 300⟩

end GatewayConfig

namespace Route

/-- Every route, in order. -/
def all : List Route := [
  ⟨.get, "/test_auth", ⟨"auth", "TestGatewayMsg"⟩, .testGatewayMsgReq, .testGatewayMsgResp, false⟩,
  ⟨.post, "/login", ⟨"user", "Login"⟩, .loginReq, .loginResp, false⟩,
  ⟨.post, "/register", ⟨"user", "Register"⟩, .registerReq, .registerResp, false⟩,
  ⟨.get, "/product", ⟨"product", "ListProducts"⟩, .listProductsReq, .listProductsResp, false⟩,
  ⟨.get, "/product/get", ⟨"product", "GetProduct"⟩, .getProductReq, .getProductResp, true⟩,
  ⟨.post, "/product/search", ⟨"product", "SearchProducts"⟩, .searchProductsReq,
    .searchProductsResp, false⟩,
  ⟨.post, "/cart/add", ⟨"cart", "AddItem"⟩, .addItemReq, .addItemResp, false⟩,
  ⟨.get, "/cart/get", ⟨"cart", "GetCart"⟩, .getCartReq, .getCartResp, false⟩,
  ⟨.delete, "/cart/empty", ⟨"cart", "EmptyCart"⟩, .emptyCartReq, .emptyCartResp, false⟩,
  ⟨.post, "/order/place", ⟨"order", "PlaceOrder"⟩, .placeOrderReq, .placeOrderResp, false⟩,
  ⟨.get, "/order/list", ⟨"order", "ListOrder"⟩, .listOrderReq, .listOrderResp, false⟩,
  ⟨.post, "/order/mark_paid", ⟨"order", "MarkOrderPaid"⟩, .markOrderPaidReq, .markOrderPaidResp,
    false⟩,
  ⟨.post, "/payment/charge", ⟨"payment", "Charge"⟩, .chargeReq, .chargeResp, false⟩,
  ⟨.post, "/checkout", ⟨"checkout", "Checkout"⟩, .checkoutReq, .checkoutResp, false⟩]

/-- The longest time that an expiry date is computed for. -/
def greatestMaxAge : Duration := Duration.ofMillis (1 <<< 63 - 1)

/-- How long after an answer its expiry date lies: no time at all if it is too
long to be computed. -/
def expiry (config : GatewayConfig) : Duration :=
  if config.cacheMaxAge ≤ greatestMaxAge then config.cacheMaxAge else 0

/-- The answer of a route to a response. -/
def answer (route : Route) (config : GatewayConfig) (response : route.response.Value) :
    HttpAnswer :=
  let plain := HttpAnswer.json 200 (route.response.shape.toJson response)
  if route.cached then
    { plain with
      cacheControl := some s!"public, max-age={config.cacheMaxAge.seconds}"
      expiresIn := some (expiry config) }
  else plain

/-- Serve a request that the route answers: bind the message, make the call,
and answer its response or its fault. -/
def serve (route : Route) (config : GatewayConfig) (request : HttpRequest) : Flow HttpAnswer :=
  match request.bind route.request with
  | .error fault => .done (.error 400 fault.message)
  | .ok message =>
      .call ⟨route.method, route.request, route.response, message⟩ route.cached fun
        | .ok response => .done (route.answer config response)
        | .error fault => .done (.ofFault fault)

end Route

namespace Gateway

/-- Check that the table serves every route. -/
def check {Conn Peers : Type} (table : DispatchTable Conn Peers) :
    List Route -> Except Fault Unit
  | [] => .ok ()
  | route :: rest =>
      match table.contract route.method route.request route.response with
      | .ok () => check table rest
      | .error fault => .error fault

/-- The answer at the root. -/
def welcome : HttpAnswer :=
  HttpAnswer.json 200 (Json.record
    [("code", Json.nat 200), ("message", Json.text "welcome to the mall gateway")])

/-- The answer to a verb that a path does not take. -/
def notAllowed (verb : Verb) : HttpAnswer :=
  { HttpAnswer.bare 405 with allow := some (",".intercalate verb.accepted) }

/-- The answer as its request gets it: one that asks for no body gets none. -/
def finish (request : HttpRequest) (answer : HttpAnswer) : HttpAnswer :=
  if request.verb = "HEAD" then { answer with body := "" } else answer

/-- Serve a request. -/
def serve (config : GatewayConfig) (request : HttpRequest) : Flow HttpAnswer :=
  let path := request.path
  if path = "/" then
    if request.verb ∈ Verb.get.accepted then .done (finish request welcome)
    else .done (notAllowed .get)
  else match Route.all.find? fun route => route.path = path with
    | none => .done (HttpAnswer.bare 404)
    | some route =>
        if request.verb ∈ route.verb.accepted then
          (route.serve config request).bind fun answer => .done (finish request answer)
        else .done (notAllowed route.verb)

/-- The context of the calls that a request leads to. -/
def context (config : GatewayConfig) (now : Instant) (request : HttpRequest) : CallContext :=
  { CallContext.fresh.withTimeout now config.requestTimeout with requestId := request.requestId }

end Gateway

end MallFabric
