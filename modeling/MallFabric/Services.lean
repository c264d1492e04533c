import MallFabric.Grpc.Unary

/-!
# The services of the mall

Every method that is reached through the proxy, under the service names that
settings use.  Only reads of the catalogue are cacheable: everything else
changes something or depends on who asks.
-/

namespace MallFabric

open Message (MessageType)

/-- A method of a service of the mall. -/
structure ServiceMethod where
  method : Method
  request : MessageType
  response : MessageType
  /-- The service in the package of the mall's messages. -/
  owner : String
  cacheable : Bool
deriving Repr

namespace ServiceMethod

def path (service : ServiceMethod) : String :=
  s!"/mall.v1.{service.owner}/{service.method.name}"

/-- Every method, in order. -/
def all : List ServiceMethod := [
  ⟨⟨"auth", "DeliverToken"⟩, .deliverTokenReq, .deliverTokenResp, "AuthService", false⟩,
  ⟨⟨"auth", "VerifyToken"⟩, .verifyTokenReq, .verifyTokenResp, "AuthService", false⟩,
  ⟨⟨"auth", "TestGatewayMsg"⟩, .testGatewayMsgReq, .testGatewayMsgResp, "AuthService", false⟩,
  ⟨⟨"user", "Register"⟩, .registerReq, .registerResp, "UserService", false⟩,
  ⟨⟨"user", "Login"⟩, .loginReq, .loginResp, "UserService", false⟩,
  ⟨⟨"product", "ListProducts"⟩, .listProductsReq, .listProductsResp,
    "ProductCatalogService", true⟩,
  ⟨⟨"product", "GetProduct"⟩, .getProductReq, .getProductResp, "ProductCatalogService", true⟩,
  ⟨⟨"product", "SearchProducts"⟩, .searchProductsReq, .searchProductsResp,
    "ProductCatalogService", true⟩,
  ⟨⟨"cart", "AddItem"⟩, .addItemReq, .addItemResp, "CartService", false⟩,
  ⟨⟨"cart", "GetCart"⟩, .getCartReq, .getCartResp, "CartService", false⟩,
  ⟨⟨"cart", "EmptyCart"⟩, .emptyCartReq, .emptyCartResp, "CartService", false⟩,
  ⟨⟨"order", "PlaceOrder"⟩, .placeOrderReq, .placeOrderResp, "OrderService", false⟩,
  ⟨⟨"order", "ListOrder"⟩, .listOrderReq, .listOrderResp, "OrderService", false⟩,
  ⟨⟨"order", "MarkOrderPaid"⟩, .markOrderPaidReq, .markOrderPaidResp, "OrderService", false⟩,
  ⟨⟨"payment", "Charge"⟩, .chargeReq, .chargeResp, "PaymentService", false⟩,
  ⟨⟨"checkout", "Checkout"⟩, .checkoutReq, .checkoutResp, "CheckoutService", false⟩]

/-- Register a method that the service at `path` carries out. -/
def registerAt {Conn Peers : Type} (service : Grpc.Service Peers) (path : String)
    (entry : ServiceMethod) (table : DispatchTable Conn Peers) : DispatchTable Conn Peers :=
  let registered := table.registerRemote entry.method entry.request entry.response
    (Grpc.unary service path entry.request entry.response)
  if entry.cacheable then registered.markCacheable entry.method else registered

/-- The table of all methods over the given services. -/
def table {Conn Peers : Type} (service : Grpc.Service Peers) : DispatchTable Conn Peers :=
  all.foldl (fun table entry => entry.registerAt service entry.path table) DispatchTable.empty

end ServiceMethod

end MallFabric
