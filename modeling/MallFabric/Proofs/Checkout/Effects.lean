import MallFabric.Checkout
import MallFabric.Proofs.Flow

/-!
# The effects of a checkout

A checkout that succeeds has read the cart, placed an order and charged the card
by one call each.  Whether the handlers ran for it depends on the response cache:
each of the three calls either ran its handler once or was answered from the
cache, and only what the proxy does not cache is sure to have run.
-/

namespace MallFabric.Checkout

variable {Conn Peers : Type} {proxy : Proxy Conn Peers} {context : CallContext}
variable {fabric after : Fabric Conn Peers} {journal : List FlowCall}
variable {request : Message.MessageType.checkoutReq.Value}
variable {response : Message.MessageType.checkoutResp.Value}

/-- The calls of a checkout that read or change the state of their service. -/
def effects : List Method := [⟨"cart", "GetCart"⟩, ⟨"order", "PlaceOrder"⟩, ⟨"payment", "Charge"⟩]

/-- The calls of a checkout that succeeds. -/
structure Calls (journal : List FlowCall) : Prop where
  inOrder : ∃ cart products order charge,
    journal = cart :: (products ++ [order, charge]) ∧
      cart.typed.method = ⟨"cart", "GetCart"⟩ ∧
      (∀ call ∈ products, call.typed.method = ⟨"product", "GetProduct"⟩) ∧
      order.typed.method = ⟨"order", "PlaceOrder"⟩ ∧
      charge.typed.method = ⟨"payment", "Charge"⟩
  answered : ∀ call ∈ journal, ∃ answer, call.result = .ok answer

theorem not_ran_refuse
    {code : StatusCode}
    {message : String} :
    ¬ (refuse code message).Ran proxy context fabric journal (.ok response) after := by
  intro ran
  cases ran

/-- A checkout that succeeds goes on from each of its calls with a usable answer. -/
theorem ran_step
    {typed : TypedRequest}
    {next : typed.response.Value -> Flow Result}
    (ran : (step typed next).Ran proxy context fabric journal (.ok response) after) :
    ∃ acts bytes answer between rest,
      journal = ⟨typed, acts, .ok bytes⟩ :: rest ∧ typed.read (.ok bytes) = .ok answer ∧
        (next answer).Ran proxy context between rest (.ok response) after := by
  cases ran with
  | @called _ _ _ _ before id acts known between rest _ _ meanwhile life ended ran =>
      cases known with
      | error fault => cases ran
      | ok bytes =>
          cases read : typed.read (.ok bytes) with
          | error fault =>
              rw [read] at ran
              cases ran
          | ok answer =>
              rw [read] at ran
              exact ⟨acts, bytes, answer, between, rest, rfl, read, ran⟩

/-- Pricing makes one call for each item, and goes on when all are answered. -/
theorem ran_priceItems
    {next : List Message.MessageType.orderItem.Value -> Flow Result}
    {items : List Message.MessageType.cartItem.Value}
    {priced : List Message.MessageType.orderItem.Value}
    (ran : (priceItems next priced items).Ran proxy context fabric journal (.ok response) after) :
    ∃ products ordered between rest,
      journal = products ++ rest ∧
        (∀ call ∈ products, call.typed.method = ⟨"product", "GetProduct"⟩ ∧
          ∃ answer, call.result = .ok answer) ∧
        (next ordered).Ran proxy context between rest (.ok response) after := by
  induction items generalizing fabric journal priced with
  | nil => exact ⟨[], priced.reverse, fabric, journal, rfl, by simp, ran⟩
  | cons item items inductionHypothesis =>
      obtain ⟨acts, bytes, answer, between, rest, rfl, -, ran⟩ := ran_step ran
      cases price : price? answer with
      | none =>
          simp only [price] at ran
          exact absurd ran not_ran_refuse
      | some cost =>
          simp only [price] at ran
          obtain ⟨products, ordered, later, final, rfl, all, ran⟩ := inductionHypothesis ran
          refine ⟨_ :: products, ordered, later, final, rfl, ?_, ran⟩
          intro call present
          rcases List.mem_cons.mp present with rfl | inProducts
          · exact ⟨rfl, bytes, rfl⟩
          · exact all call inProducts

/-- Completing a checkout makes one call for the order and one for the charge. -/
theorem ran_complete
    {address : Message.MessageType.address.Value}
    {card : Message.MessageType.creditCardInfo.Value}
    {items : List Message.MessageType.orderItem.Value}
    (ran : (complete request address card items).Ran proxy context fabric journal (.ok response)
      after) :
    ∃ order charge,
      journal = [order, charge] ∧
        (order.typed.method = ⟨"order", "PlaceOrder"⟩ ∧ ∃ answer, order.result = .ok answer) ∧
        (charge.typed.method = ⟨"payment", "Charge"⟩ ∧ ∃ answer, charge.result = .ok answer) := by
  obtain ⟨acts, bytes, placed, between, rest, rfl, -, ran⟩ := ran_step ran
  cases placedId : orderId? placed with
  | none =>
      simp only [placedId] at ran
      exact absurd ran not_ran_refuse
  | some orderId =>
      simp only [placedId] at ran
      obtain ⟨chargeActs, chargeBytes, charged, final, none_, rfl, -, ran⟩ := ran_step ran
      cases ran
      exact ⟨_, _, rfl, ⟨rfl, bytes, rfl⟩, ⟨rfl, chargeBytes, rfl⟩⟩

/-- A checkout that succeeds calls for the cart, then for the products, for the
order and for the charge. -/
theorem calls_of_ok
    (ran : (flow request).Ran proxy context fabric journal (.ok response) after) :
    Calls journal := by
  unfold flow at ran
  split at ran
  · exact absurd ran not_ran_refuse
  · split at ran
    · exact absurd ran not_ran_refuse
    · exact absurd ran not_ran_refuse
    · next address card _ _ =>
        obtain ⟨acts, bytes, cart, between, rest, rfl, -, ran⟩ := ran_step ran
        split at ran
        · exact absurd ran not_ran_refuse
        · obtain ⟨products, ordered, later, final, rfl, priced, ran⟩ := ran_priceItems ran
          obtain ⟨order, charge, rfl, placed, charged⟩ := ran_complete ran
          refine ⟨⟨_, products, order, charge, rfl, rfl, ?_, placed.1, charged.1⟩, ?_⟩
          · exact fun call present => (priced call present).1
          · intro call present
            rcases List.mem_cons.mp present with rfl | later
            · exact ⟨bytes, rfl⟩
            · rcases List.mem_append.mp later with inProducts | last
              · exact (priced call inProducts).2
              · rcases List.mem_cons.mp last with rfl | last
                · exact placed.2
                · rw [List.mem_singleton.mp last]
                  exact charged.2

/-- For each of its effects a checkout that succeeds has made one call. -/
theorem Calls.times_eq
    (calls : Calls journal)
    {method : Method}
    (effect : method ∈ effects) :
    ∃ call ∈ journal, call.typed.method = method ∧
      ∀ act, FlowCall.times act method journal = call.acts.count act := by
  obtain ⟨cart, products, order, charge, rfl, cartMethod, productMethods, orderMethod,
    chargeMethod⟩ := calls.inOrder
  have priced : ∀ act, ∀ other ∈ effects, FlowCall.times act other products = 0 := by
    intro act other isEffect
    refine FlowCall.times_of_all_ne fun call present same => ?_
    rw [← same, productMethods call present] at isEffect
    exact absurd isEffect (by decide)
  have counted : ∀ act, FlowCall.times act method (cart :: (products ++ [order, charge])) =
      (if cart.typed.method = method then cart.acts.count act else 0) +
        ((if order.typed.method = method then order.acts.count act else 0) +
          if charge.typed.method = method then charge.acts.count act else 0) := by
    intro act
    rw [FlowCall.times_cons, FlowCall.times_append, priced act method effect,
      FlowCall.times_cons, FlowCall.times_cons, FlowCall.times_nil]
    omega
  rw [cartMethod, orderMethod, chargeMethod] at counted
  simp only [effects, List.mem_cons, List.not_mem_nil, or_false] at effect
  rcases effect with rfl | rfl | rfl
  · exact ⟨cart, by simp, cartMethod, fun act => by simpa using counted act⟩
  · exact ⟨order, by simp, orderMethod, fun act => by simpa using counted act⟩
  · exact ⟨charge, by simp, chargeMethod, fun act => by simpa using counted act⟩

/-- A checkout that succeeds has carried out each of its effects once or was answered
from the cache in its stead, and what the proxy does not cache it has carried out. -/
theorem effects_invoked_or_hit
    (failFast : proxy.fallback = .failFast)
    (ran : (flow request).Ran proxy context fabric journal (.ok response) after)
    {method : Method}
    (effect : method ∈ effects) :
    FlowCall.times .invoked method journal + FlowCall.times .hit method journal = 1 ∧
      (proxy.caches fabric.cache method = false -> FlowCall.times .invoked method journal = 1) := by
  have calls := calls_of_ok ran
  obtain ⟨call, present, rfl, times⟩ := calls.times_eq effect
  obtain ⟨answer, answered⟩ := calls.answered call present
  obtain ⟨once, noHit⟩ := ran.answered failFast call present answer answered
  rw [times, times]
  refine ⟨once, fun past => ?_⟩
  have never := noHit past
  omega

/-- A checkout that succeeds has carried out its effects exactly if none of them was
answered from the cache, as it is sure to be if the proxy caches none of them. -/
theorem effects_once_iff_no_hit
    (failFast : proxy.fallback = .failFast)
    (ran : (flow request).Ran proxy context fabric journal (.ok response) after) :
    ((∀ method ∈ effects, FlowCall.times .invoked method journal = 1) ↔
        ∀ method ∈ effects, FlowCall.times .hit method journal = 0) ∧
      ((∀ method ∈ effects, proxy.caches fabric.cache method = false) ->
        ∀ method ∈ effects, FlowCall.times .invoked method journal = 1) := by
  refine ⟨⟨?_, ?_⟩, ?_⟩
  · intro carriedOut method effect
    have once := (effects_invoked_or_hit failFast ran effect).1
    have invoked := carriedOut method effect
    omega
  · intro noHit method effect
    have once := (effects_invoked_or_hit failFast ran effect).1
    have never := noHit method effect
    omega
  · exact fun past method effect =>
      (effects_invoked_or_hit failFast ran effect).2 (past method effect)

/-! ## A checkout that is repeated -/

/-- A handler that answers at once and leaves a note that it ran. -/
def noting
    (method : Method)
    (request : Message.MessageType)
    {response : Message.MessageType}
    (answer : response.Value) : Handler Unit (List Method) request response :=
  fun _ _ now _ notes => (⟨now, .answer answer⟩, notes ++ [method])

/-- A shop with one product, whose proxy caches every answer. -/
def shop : Proxy Unit (List Method) where
  config := ProxyConfig.standard
  table :=
    let cart := DispatchTable.empty.register ⟨"cart", "GetCart"⟩ .getCartReq .getCartResp
      (noting ⟨"cart", "GetCart"⟩ _ (some (1, [(5, 2, ())], ()), ()))
    let product := cart.register ⟨"product", "GetProduct"⟩ .getProductReq .getProductResp
      (noting ⟨"product", "GetProduct"⟩ _ (some (5, "tea", "", "", ⟨0x40400000⟩, [], ()), ()))
    let order := product.register ⟨"order", "PlaceOrder"⟩ .placeOrderReq .placeOrderResp
      (noting ⟨"order", "PlaceOrder"⟩ _ (some ("o-1", ()), ()))
    order.register ⟨"payment", "Charge"⟩ .chargeReq .chargeResp
      (noting ⟨"payment", "Charge"⟩ _ ("t-1", ()))
  dialler := ⟨none, fun now _ notes => (⟨now, .ok ()⟩, notes)⟩
  fallback := .failFast

/-- The shop before anything was called, its cache empty. -/
def opening : Fabric Unit (List Method) :=
  Fabric.new (.ofStore (MemoryCache.new 16))
    (Pool.new [⟨"cart", "a"⟩, ⟨"product", "b"⟩, ⟨"order", "c"⟩, ⟨"payment", "d"⟩] false) []

/-- The request of a customer with all that a checkout asks for. -/
def customer : Message.MessageType.checkoutReq.Value :=
  (1, "", "", "", some ("", "", "", "", "", ()), some ("", 0, 0, 0, ()), ())

/-- Whether a first checkout carries out its effects and a second one, like it and
at the same instant, none of them. -/
def repeatsFromCache : Bool :=
  match (flow customer).runAlone shop .fresh 0 0 opening with
  | some (first, .ok _, warm) =>
      match (flow customer).runAlone shop .fresh 0 4 warm with
      | some (second, .ok _, after) =>
          effects.all (fun method => FlowCall.times .invoked method first = 1) &&
            effects.all (fun method => FlowCall.times .invoked method second = 0) &&
            after.peers = warm.peers
      | _ => false
  | _ => false

theorem exists_repeated :
    ∃ first response warm second again after,
      (flow customer).runAlone shop .fresh 0 0 opening = some (first, .ok response, warm) ∧
        (flow customer).runAlone shop .fresh 0 4 warm = some (second, .ok again, after) ∧
        (∀ method ∈ effects, FlowCall.times .invoked method first = 1) ∧
        (∀ method ∈ effects, FlowCall.times .invoked method second = 0) ∧
        after.peers = warm.peers := by
  have checked : repeatsFromCache = true := by decide +kernel
  unfold repeatsFromCache at checked
  split at checked
  · next first response warm firstRan =>
      split at checked
      · next second again after secondRan =>
          simp only [Bool.and_eq_true, List.all_eq_true, decide_eq_true_eq] at checked
          exact ⟨first, response, warm, second, again, after, firstRan, secondRan,
            checked.1.1, checked.1.2, checked.2⟩
      · cases checked
  · cases checked

theorem effects_once_iff_no_hit_opening :
    ∃ journal response after,
      shop.fallback = .failFast ∧
        (flow customer).Ran shop .fresh opening journal (.ok response) after ∧
        (∀ method ∈ effects, FlowCall.times .invoked method journal = 1) ∧
        ∀ method ∈ effects, FlowCall.times .hit method journal = 0 := by
  obtain ⟨first, response, warm, -, -, -, firstRan, -, once, -⟩ := exists_repeated
  have ran := Flow.ran_of_runAlone firstRan
  exact ⟨first, response, warm, rfl, ran, once, (effects_once_iff_no_hit rfl ran).1.mp once⟩

/-- A checkout that succeeds after another one like it need not carry out any of its
effects: no cart is read, no order is placed and no card is charged. -/
theorem repeated_checkout_without_effects :
    ∃ journal response warm second again after,
      shop.fallback = .failFast ∧
        (flow customer).Ran shop .fresh opening journal (.ok response) warm ∧
        (flow customer).Ran shop .fresh warm second (.ok again) after ∧
        (∀ method ∈ effects, FlowCall.times .invoked method second = 0) ∧
        after.peers = warm.peers := by
  obtain ⟨first, response, warm, second, again, after, firstRan, secondRan, -, never, same⟩ :=
    exists_repeated
  exact ⟨first, response, warm, second, again, after, rfl, Flow.ran_of_runAlone firstRan,
    Flow.ran_of_runAlone secondRan, never, same⟩

end MallFabric.Checkout
