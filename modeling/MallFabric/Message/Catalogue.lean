import MallFabric.Message.Schema

/-!
# The messages of the mall

Every message that services exchange, with its schema.
-/

namespace MallFabric.Message

namespace Shapes

def address : Shape :=
  .field "street_address" 1 (.scalar .text) <|
  .field "city" 2 (.scalar .text) <|
  .field "state" 3 (.scalar .text) <|
  .field "country" 4 (.scalar .text) <|
  .field "zip_code" 5 (.scalar .text) <|
  .done

def cartItem : Shape :=
  .field "product_id" 1 (.scalar .uint32) <|
  .field "quantity" 2 (.scalar .int32) <|
  .done

def creditCardInfo : Shape :=
  .field "credit_card_number" 1 (.scalar .text) <|
  .field "credit_card_cvv" 2 (.scalar .int32) <|
  .field "credit_card_expiration_year" 3 (.scalar .int32) <|
  .field "credit_card_expiration_month" 4 (.scalar .int32) <|
  .done

def deliverTokenReq : Shape :=
  .field "user_id" 1 (.scalar .int64) <|
  .done

def deliverTokenResp : Shape :=
  .field "token" 1 (.scalar .text) <|
  .done

def verifyTokenReq : Shape :=
  .field "token" 1 (.scalar .text) <|
  .done

def verifyTokenResp : Shape :=
  .field "valid" 1 (.scalar .bool) <|
  .field "user_id" 2 (.scalar .int64) <|
  .done

def testGatewayMsgReq : Shape :=
  .field "message" 1 (.scalar .text) <|
  .done

def testGatewayMsgResp : Shape :=
  .field "message" 1 (.scalar .text) <|
  .done

def registerReq : Shape :=
  .field "email" 1 (.scalar .text) <|
  .field "password" 2 (.scalar .text) <|
  .field "confirm_password" 3 (.scalar .text) <|
  .done

def registerResp : Shape :=
  .field "user_id" 1 (.scalar .int64) <|
  .done

def loginReq : Shape :=
  .field "email" 1 (.scalar .text) <|
  .field "password" 2 (.scalar .text) <|
  .done

def loginResp : Shape :=
  .field "user_id" 1 (.scalar .int64) <|
  .field "token" 2 (.scalar .text) <|
  .done

def product : Shape :=
  .field "id" 1 (.scalar .uint32) <|
  .field "name" 2 (.scalar .text) <|
  .field "description" 3 (.scalar .text) <|
  .field "picture" 4 (.scalar .text) <|
  .field "price" 5 (.scalar .float) <|
  .field "categories" 6 .texts <|
  .done

def listProductsReq : Shape :=
  .field "page" 1 (.scalar .int32) <|
  .field "page_size" 2 (.scalar .int64) <|
  .field "category_name" 3 (.scalar .text) <|
  .done

def listProductsResp : Shape :=
  .field "products" 1 (.messages "Product" product) <|
  .done

def getProductReq : Shape :=
  .field "id" 1 (.scalar .uint32) <|
  .done

def getProductResp : Shape :=
  .field "product" 1 (.message "Product" product) <|
  .done

def searchProductsReq : Shape :=
  .field "query" 1 (.scalar .text) <|
  .done

def searchProductsResp : Shape :=
  .field "results" 1 (.messages "Product" product) <|
  .done

def cart : Shape :=
  .field "user_id" 1 (.scalar .uint32) <|
  .field "items" 2 (.messages "CartItem" cartItem) <|
  .done

def addItemReq : Shape :=
  .field "user_id" 1 (.scalar .uint32) <|
  .field "item" 2 (.message "CartItem" cartItem) <|
  .done

def addItemResp : Shape := .done

def getCartReq : Shape :=
  .field "user_id" 1 (.scalar .uint32) <|
  .done

def getCartResp : Shape :=
  .field "cart" 1 (.message "Cart" cart) <|
  .done

def emptyCartReq : Shape :=
  .field "user_id" 1 (.scalar .uint32) <|
  .done

def emptyCartResp : Shape := .done

def orderItem : Shape :=
  .field "item" 1 (.message "CartItem" cartItem) <|
  .field "cost" 2 (.scalar .float) <|
  .done

def placeOrderReq : Shape :=
  .field "user_id" 1 (.scalar .uint32) <|
  .field "user_currency" 2 (.scalar .text) <|
  .field "address" 3 (.message "Address" address) <|
  .field "email" 4 (.scalar .text) <|
  .field "order_items" 5 (.messages "OrderItem" orderItem) <|
  .done

def orderResult : Shape :=
  .field "order_id" 1 (.scalar .text) <|
  .done

def placeOrderResp : Shape :=
  .field "order" 1 (.message "OrderResult" orderResult) <|
  .done

def listOrderReq : Shape :=
  .field "user_id" 1 (.scalar .uint32) <|
  .done

def order : Shape :=
  .field "order_items" 1 (.messages "OrderItem" orderItem) <|
  .field "order_id" 2 (.scalar .text) <|
  .field "user_id" 3 (.scalar .uint32) <|
  .field "user_currency" 4 (.scalar .text) <|
  .field "address" 5 (.message "Address" address) <|
  .field "email" 6 (.scalar .text) <|
  .field "created_at" 7 (.scalar .int64) <|
  .done

def listOrderResp : Shape :=
  .field "orders" 1 (.messages "Order" order) <|
  .done

def markOrderPaidReq : Shape :=
  .field "user_id" 1 (.scalar .uint32) <|
  .field "order_id" 2 (.scalar .text) <|
  .done

def markOrderPaidResp : Shape := .done

def chargeReq : Shape :=
  .field "amount" 1 (.scalar .float) <|
  .field "credit_card" 2 (.message "CreditCardInfo" creditCardInfo) <|
  .field "order_id" 3 (.scalar .text) <|
  .field "user_id" 4 (.scalar .uint32) <|
  .done

def chargeResp : Shape :=
  .field "transaction_id" 1 (.scalar .text) <|
  .done

def checkoutReq : Shape :=
  .field "user_id" 1 (.scalar .uint32) <|
  .field "firstname" 2 (.scalar .text) <|
  .field "lastname" 3 (.scalar .text) <|
  .field "email" 4 (.scalar .text) <|
  .field "address" 5 (.message "Address" address) <|
  .field "credit_card" 6 (.message "CreditCardInfo" creditCardInfo) <|
  .done

def checkoutResp : Shape :=
  .field "order_id" 1 (.scalar .text) <|
  .field "transaction_id" 2 (.scalar .text) <|
  .done

end Shapes

/-- The messages of the mall. -/
inductive MessageType where
  | address
  | cartItem
  | creditCardInfo
  | deliverTokenReq
  | deliverTokenResp
  | verifyTokenReq
  | verifyTokenResp
  | testGatewayMsgReq
  | testGatewayMsgResp
  | registerReq
  | registerResp
  | loginReq
  | loginResp
  | product
  | listProductsReq
  | listProductsResp
  | getProductReq
  | getProductResp
  | searchProductsReq
  | searchProductsResp
  | cart
  | addItemReq
  | addItemResp
  | getCartReq
  | getCartResp
  | emptyCartReq
  | emptyCartResp
  | orderItem
  | placeOrderReq
  | orderResult
  | placeOrderResp
  | listOrderReq
  | order
  | listOrderResp
  | markOrderPaidReq
  | markOrderPaidResp
  | chargeReq
  | chargeResp
  | checkoutReq
  | checkoutResp
deriving DecidableEq, Repr

namespace MessageType

/-- Every message, each once. -/
def all : List MessageType := [
  address, cartItem, creditCardInfo, deliverTokenReq, deliverTokenResp,
  verifyTokenReq, verifyTokenResp, testGatewayMsgReq, testGatewayMsgResp, registerReq,
  registerResp, loginReq, loginResp, product, listProductsReq,
  listProductsResp, getProductReq, getProductResp, searchProductsReq, searchProductsResp,
  cart, addItemReq, addItemResp, getCartReq, getCartResp,
  emptyCartReq, emptyCartResp, orderItem, placeOrderReq, orderResult,
  placeOrderResp, listOrderReq, order, listOrderResp, markOrderPaidReq,
  markOrderPaidResp, chargeReq, chargeResp, checkoutReq, checkoutResp]

/-- The name of a message. -/
def name : MessageType -> String
  | address => "Address"
  | cartItem => "CartItem"
  | creditCardInfo => "CreditCardInfo"
  | deliverTokenReq => "DeliverTokenReq"
  | deliverTokenResp => "DeliverTokenResp"
  | verifyTokenReq => "VerifyTokenReq"
  | verifyTokenResp => "VerifyTokenResp"
  | testGatewayMsgReq => "TestGatewayMsgReq"
  | testGatewayMsgResp => "TestGatewayMsgResp"
  | registerReq => "RegisterReq"
  | registerResp => "RegisterResp"
  | loginReq => "LoginReq"
  | loginResp => "LoginResp"
  | product => "Product"
  | listProductsReq => "ListProductsReq"
  | listProductsResp => "ListProductsResp"
  | getProductReq => "GetProductReq"
  | getProductResp => "GetProductResp"
  | searchProductsReq => "SearchProductsReq"
  | searchProductsResp => "SearchProductsResp"
  | cart => "Cart"
  | addItemReq => "AddItemReq"
  | addItemResp => "AddItemResp"
  | getCartReq => "GetCartReq"
  | getCartResp => "GetCartResp"
  | emptyCartReq => "EmptyCartReq"
  | emptyCartResp => "EmptyCartResp"
  | orderItem => "OrderItem"
  | placeOrderReq => "PlaceOrderReq"
  | orderResult => "OrderResult"
  | placeOrderResp => "PlaceOrderResp"
  | listOrderReq => "ListOrderReq"
  | order => "Order"
  | listOrderResp => "ListOrderResp"
  | markOrderPaidReq => "MarkOrderPaidReq"
  | markOrderPaidResp => "MarkOrderPaidResp"
  | chargeReq => "ChargeReq"
  | chargeResp => "ChargeResp"
  | checkoutReq => "CheckoutReq"
  | checkoutResp => "CheckoutResp"

/-- The fields of a message. -/
def shape : MessageType -> Shape
  | address => Shapes.address
  | cartItem => Shapes.cartItem
  | creditCardInfo => Shapes.creditCardInfo
  | deliverTokenReq => Shapes.deliverTokenReq
  | deliverTokenResp => Shapes.deliverTokenResp
  | verifyTokenReq => Shapes.verifyTokenReq
  | verifyTokenResp => Shapes.verifyTokenResp
  | testGatewayMsgReq => Shapes.testGatewayMsgReq
  | testGatewayMsgResp => Shapes.testGatewayMsgResp
  | registerReq => Shapes.registerReq
  | registerResp => Shapes.registerResp
  | loginReq => Shapes.loginReq
  | loginResp => Shapes.loginResp
  | product => Shapes.product
  | listProductsReq => Shapes.listProductsReq
  | listProductsResp => Shapes.listProductsResp
  | getProductReq => Shapes.getProductReq
  | getProductResp => Shapes.getProductResp
  | searchProductsReq => Shapes.searchProductsReq
  | searchProductsResp => Shapes.searchProductsResp
  | cart => Shapes.cart
  | addItemReq => Shapes.addItemReq
  | addItemResp => Shapes.addItemResp
  | getCartReq => Shapes.getCartReq
  | getCartResp => Shapes.getCartResp
  | emptyCartReq => Shapes.emptyCartReq
  | emptyCartResp => Shapes.emptyCartResp
  | orderItem => Shapes.orderItem
  | placeOrderReq => Shapes.placeOrderReq
  | orderResult => Shapes.orderResult
  | placeOrderResp => Shapes.placeOrderResp
  | listOrderReq => Shapes.listOrderReq
  | order => Shapes.order
  | listOrderResp => Shapes.listOrderResp
  | markOrderPaidReq => Shapes.markOrderPaidReq
  | markOrderPaidResp => Shapes.markOrderPaidResp
  | chargeReq => Shapes.chargeReq
  | chargeResp => Shapes.chargeResp
  | checkoutReq => Shapes.checkoutReq
  | checkoutResp => Shapes.checkoutResp

/-- The values of a message. -/
abbrev Value (type : MessageType) : Type := type.shape.Value

/-- The name of a message with the package that defines it. -/
def qualifiedName (type : MessageType) : String :=
  "mall_proto::v1::" ++ type.name

/-- The message of a given name. -/
def ofName? (name : String) : Option MessageType :=
  all.find? fun type => type.name = name

/-- The fields of every message are told apart by their names and by their tags. -/
theorem sound_shape (type : MessageType) : type.shape.sound = true := by
  cases type <;> decide +kernel

end MessageType

end MallFabric.Message
