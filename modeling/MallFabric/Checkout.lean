import MallFabric.Flow

/-!
# The checkout

A checkout reads the cart, prices its items, places an order and charges the
card.  Every step needs a usable answer to the one before it.
-/

namespace MallFabric.Checkout

open Message (MessageType)

/-! Fields of the messages involved -/

def userId (request : MessageType.checkoutReq.Value) : UInt32 := request.1

def email (request : MessageType.checkoutReq.Value) : String := request.2.2.2.1

def address? (request : MessageType.checkoutReq.Value) : Option MessageType.address.Value :=
  request.2.2.2.2.1

def creditCard? (request : MessageType.checkoutReq.Value) :
    Option MessageType.creditCardInfo.Value :=
  request.2.2.2.2.2.1

/-- The items of a cart; one that is not there has none. -/
def cartItems (response : MessageType.getCartResp.Value) : List MessageType.cartItem.Value :=
  match (response.1 : Option MessageType.cart.Value) with
  | some cart => cart.2.1
  | none => []

def productId (item : MessageType.cartItem.Value) : UInt32 := item.1

def quantity (item : MessageType.cartItem.Value) : Int32 := item.2.1

/-- The price of a product, if there is one. -/
def price? (response : MessageType.getProductResp.Value) : Option Single :=
  match (response.1 : Option MessageType.product.Value) with
  | some product => some product.2.2.2.2.1
  | none => none

/-- The id of an order, if it has one that is not empty. -/
def orderId? (response : MessageType.placeOrderResp.Value) : Option String :=
  match (response.1 : Option MessageType.orderResult.Value) with
  | some order => if order.1 = "" then none else some order.1
  | none => none

def transactionId (response : MessageType.chargeResp.Value) : String := response.1

/-! Requests -/

def getCart (user : UInt32) : TypedRequest :=
  ⟨⟨"cart", "GetCart"⟩, .getCartReq, .getCartResp, (user, ())⟩

def getProduct (product : UInt32) : TypedRequest :=
  ⟨⟨"product", "GetProduct"⟩, .getProductReq, .getProductResp, (product, ())⟩

/-- The currency of every order. -/
def currency : String := "CNY"

def placeOrder (user : UInt32) (address : MessageType.address.Value) (email : String)
    (items : List MessageType.orderItem.Value) : TypedRequest :=
  ⟨⟨"order", "PlaceOrder"⟩, .placeOrderReq, .placeOrderResp,
    (user, currency, some address, email, items, ())⟩

def charge (user : UInt32) (card : MessageType.creditCardInfo.Value) (orderId : String)
    (amount : Single) : TypedRequest :=
  ⟨⟨"payment", "Charge"⟩, .chargeReq, .chargeResp, (amount, some card, orderId, user, ())⟩

/-! The flow -/

/-- How a checkout ends. -/
abbrev Result := Except Status MessageType.checkoutResp.Value

def refuse (code : StatusCode) (message : String) : Flow Result :=
  .done (.error ⟨code, message⟩)

/-- Make a call, and end the checkout if it fails. -/
def step (typed : TypedRequest) (next : typed.response.Value -> Flow Result) : Flow Result :=
  .call typed true fun
    | .ok response => next response
    | .error fault => .done (.error fault.toStatus)

/-- What an item costs. -/
def cost (price : Single) (item : MessageType.cartItem.Value) : Single :=
  price.mul (Single.ofInt (quantity item).toInt)

/-- The cost of all items, added from the left. -/
def total (items : List MessageType.orderItem.Value) : Single :=
  Single.sum (items.map fun item => item.2.1)

/-- Price the items of a cart one after the other, after those in `priced`,
which are in reverse order. -/
def priceItems (next : List MessageType.orderItem.Value -> Flow Result)
    (priced : List MessageType.orderItem.Value) : List MessageType.cartItem.Value -> Flow Result
  | [] => next priced.reverse
  | item :: rest =>
      step (getProduct (productId item)) fun response =>
        match price? response with
        | some price => priceItems next ((some item, cost price item, ()) :: priced) rest
        | none =>
            refuse .failedPrecondition s!"product {(productId item).toNat} no longer exists"

/-- Place the order and charge the card. -/
def complete (request : MessageType.checkoutReq.Value) (address : MessageType.address.Value)
    (card : MessageType.creditCardInfo.Value) (items : List MessageType.orderItem.Value) :
    Flow Result :=
  step (placeOrder (userId request) address (email request) items) fun placed =>
    match orderId? placed with
    | none => refuse .internal "order service returned no order id"
    | some orderId =>
        step (charge (userId request) card orderId (total items)) fun charged =>
          .done (.ok (orderId, transactionId charged, ()))

/-- The flow of a checkout. -/
def flow (request : MessageType.checkoutReq.Value) : Flow Result :=
  if userId request = 0 then refuse .invalidArgument "user_id must not be zero"
  else match address? request, creditCard? request with
    | none, _ => refuse .invalidArgument "address is required"
    | some _, none => refuse .invalidArgument "credit_card is required"
    | some address, some card =>
        step (getCart (userId request)) fun cart =>
          match cartItems cart with
          | [] => refuse .failedPrecondition "cart is empty"
          | items => priceItems (complete request address card) [] items

end MallFabric.Checkout
