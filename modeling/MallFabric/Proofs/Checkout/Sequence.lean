import MallFabric.Proofs.Checkout.Effects

/-!
# The calls of a checkout

Whatever the services answer, the calls of a checkout are the first ones of a plan: the
cart, its products in order, the order and the charge.  Each is made when all before it
were answered with what the next ones need, and carries what they answered.
-/

namespace MallFabric.Checkout

open Message (MessageType)

/-! ## Usable answers -/

/-- The price of a product. -/
def listPrice (product : MessageType.product.Value) : Single := product.2.2.2.2.1

def cartAnswer (owner : UInt32) (items : List MessageType.cartItem.Value) :
    MessageType.getCartResp.Value :=
  (some (owner, items, ()), ())

def productAnswer (product : MessageType.product.Value) : MessageType.getProductResp.Value :=
  (some product, ())

def orderAnswer (orderId : String) : MessageType.placeOrderResp.Value := (some (orderId, ()), ())

def chargeAnswer (transactionId : String) : MessageType.chargeResp.Value := (transactionId, ())

/-- A cart with items is there. -/
theorem eq_of_cartItems_eq_cons
    {cart : MessageType.getCartResp.Value}
    {item : MessageType.cartItem.Value}
    {items : List MessageType.cartItem.Value}
    (listed : cartItems cart = item :: items) :
    ∃ owner, cart = cartAnswer owner (item :: items) := by
  obtain ⟨found, ⟨⟩⟩ := cart
  cases found with
  | none => cases listed
  | some cart =>
      obtain ⟨owner, held, ⟨⟩⟩ := cart
      obtain rfl : held = item :: items := listed
      exact ⟨owner, rfl⟩

/-- A product with a price is there. -/
theorem eq_of_price?_eq_some
    {response : MessageType.getProductResp.Value}
    {price : Single}
    (priced : price? response = some price) :
    ∃ product, response = productAnswer product ∧ price = listPrice product := by
  obtain ⟨found, ⟨⟩⟩ := response
  cases found with
  | none => cases priced
  | some product => exact ⟨product, rfl, (Option.some.inj priced).symm⟩

/-- An order with an id is there, and its id is not empty. -/
theorem eq_of_orderId?_eq_some
    {response : MessageType.placeOrderResp.Value}
    {orderId : String}
    (placed : orderId? response = some orderId) :
    response = orderAnswer orderId ∧ orderId ≠ "" := by
  obtain ⟨found, ⟨⟩⟩ := response
  cases found with
  | none => cases placed
  | some order =>
      obtain ⟨id, ⟨⟩⟩ := order
      simp only [orderId?] at placed
      split at placed
      · cases placed
      · next named =>
          obtain rfl := Option.some.inj placed
          exact ⟨rfl, named⟩

/-! ## The plan -/

/-- What the services tell a checkout that succeeds. -/
structure Plan where
  /-- Whose cart it is, as the cart says. -/
  owner : UInt32
  /-- The items of the cart, each with the product that was found for it. -/
  bought : List (MessageType.cartItem.Value × MessageType.product.Value)
  something : bought ≠ []
  orderId : String
  named : orderId ≠ ""
  transactionId : String

/-- An item as it is ordered: it costs the price of its product times its quantity. -/
def orderItem (item : MessageType.cartItem.Value) (product : MessageType.product.Value) :
    MessageType.orderItem.Value :=
  (some item, (listPrice product).mul (Single.ofInt (quantity item).toInt), ())

/-- The items as they are ordered, in the order of the cart. -/
def orderItems (bought : List (MessageType.cartItem.Value × MessageType.product.Value)) :
    List MessageType.orderItem.Value :=
  bought.map fun (item, product) => orderItem item product

/-- The calls for the products of some items. -/
def pricing (bought : List (MessageType.cartItem.Value × MessageType.product.Value)) :
    List Exchange :=
  bought.map fun (item, product) => ⟨getProduct (productId item), .ok (productAnswer product)⟩

/-- Placing an order for some items and charging the card for the sum of their costs. -/
def completion (request : MessageType.checkoutReq.Value) (address : MessageType.address.Value)
    (card : MessageType.creditCardInfo.Value) (items : List MessageType.orderItem.Value)
    (orderId transactionId : String) : List Exchange :=
  [⟨placeOrder (userId request) address (email request) items, .ok (orderAnswer orderId)⟩,
    ⟨charge (userId request) card orderId (Single.sum (items.map fun item => item.2.1)),
      .ok (chargeAnswer transactionId)⟩]

/-- The exchanges of a checkout that succeeds. -/
def Plan.transcript (plan : Plan) (request : MessageType.checkoutReq.Value)
    (address : MessageType.address.Value) (card : MessageType.creditCardInfo.Value) :
    List Exchange :=
  ⟨getCart (userId request), .ok (cartAnswer plan.owner (plan.bought.map Prod.fst))⟩ ::
    (pricing plan.bought ++
      completion request address card (orderItems plan.bought) plan.orderId plan.transactionId)

/-- What a checkout that succeeds tells its caller. -/
def receipt (orderId transactionId : String) : MessageType.checkoutResp.Value :=
  (orderId, transactionId, ())

/-- A charge that was made. -/
def IsPaid (exchange : Exchange) : Prop :=
  exchange.typed.method = ⟨"payment", "Charge"⟩ ∧ ∃ charged, exchange.answer = .ok charged

@[simp] theorem method_getCart (user : UInt32) : (getCart user).method = ⟨"cart", "GetCart"⟩ := rfl

@[simp] theorem method_getProduct (product : UInt32) :
    (getProduct product).method = ⟨"product", "GetProduct"⟩ := rfl

@[simp] theorem method_placeOrder
    (user : UInt32)
    (address : MessageType.address.Value)
    (email : String)
    (items : List MessageType.orderItem.Value) :
    (placeOrder user address email items).method = ⟨"order", "PlaceOrder"⟩ := rfl

@[simp] theorem method_charge
    (user : UInt32)
    (card : MessageType.creditCardInfo.Value)
    (orderId : String)
    (amount : Single) :
    (charge user card orderId amount).method = ⟨"payment", "Charge"⟩ := rfl

/-- Only a charge is one that was made. -/
theorem not_isPaid
    {exchange : Exchange}
    (other : exchange.typed.method ≠ ⟨"payment", "Charge"⟩) :
    ¬ IsPaid exchange :=
  fun paid => other paid.1

/-! ## Keeping to a transcript -/

/-- A flow has kept to a transcript up to where it is: it has made its first calls, all
before the last were answered as it says, and it succeeds, with the given response, only
when it is through with it. -/
structure Keeps (made : List Exchange) (later : Flow Result) (transcript : List Exchange)
    (response : MessageType.checkoutResp.Value) : Prop where
  calls : made.map Exchange.typed <+: transcript.map Exchange.typed
  answers : made.dropLast <+: transcript
  ends : ∀ result, later = .done (.ok result) ↔ made = transcript ∧ result = response
  paid : (∃ exchange ∈ made, IsPaid exchange) -> made = transcript

variable {request : MessageType.checkoutReq.Value} {address : MessageType.address.Value}
variable {card : MessageType.creditCardInfo.Value} {made transcript : List Exchange}
variable {later : Flow Result} {response : MessageType.checkoutResp.Value}
variable {typed : TypedRequest}

namespace Keeps

/-- Nothing was called yet. -/
theorem none
    (unfinished : ∀ result, later ≠ .done (.ok result))
    (more : transcript ≠ [])
    (response : MessageType.checkoutResp.Value) :
    Keeps [] later transcript response where
  calls := List.nil_prefix
  answers := List.nil_prefix
  ends := fun result =>
    ⟨fun finished => absurd finished (unfinished result), fun ⟨same, _⟩ => absurd same.symm more⟩
  paid := fun ⟨_, present, _⟩ => absurd present List.not_mem_nil

/-- The last call was answered otherwise. -/
theorem last
    {given : Except Fault typed.response.Value}
    {answer : typed.response.Value}
    (unfinished : ∀ result, later ≠ .done (.ok result))
    (unpaid : ¬ IsPaid ⟨typed, given⟩)
    (unlike : given ≠ .ok answer ∨ transcript ≠ [])
    (response : MessageType.checkoutResp.Value) :
    Keeps [⟨typed, given⟩] later (⟨typed, .ok answer⟩ :: transcript) response where
  calls := ⟨transcript.map Exchange.typed, rfl⟩
  answers := List.nil_prefix
  ends := by
    intro result
    refine ⟨fun finished => absurd finished (unfinished result), fun ⟨same, _⟩ => ?_⟩
    simp only [List.cons.injEq, Exchange.mk.injEq, heq_eq_eq, true_and] at same
    rcases unlike with differs | more
    · exact absurd same.1 differs
    · exact absurd same.2.symm more
  paid := by
    rintro ⟨exchange, present, charged⟩
    rw [List.mem_singleton.mp present] at charged
    exact absurd charged unpaid

/-- The first call was answered as the transcript says. -/
theorem cons
    {exchange : Exchange}
    (unpaid : ¬ IsPaid exchange)
    (keeps : Keeps made later transcript response) :
    Keeps (exchange :: made) later (exchange :: transcript) response where
  calls := by
    rw [List.map_cons, List.map_cons]
    exact (List.prefix_cons_inj _).mpr keeps.calls
  answers := by
    cases made with
    | nil => exact List.nil_prefix
    | cons first rest => exact (List.prefix_cons_inj _).mpr keeps.answers
  ends := by
    intro result
    rw [keeps.ends result, List.cons.injEq]
    exact and_congr_left fun _ => (and_iff_right rfl).symm
  paid := by
    rintro ⟨other, present, charged⟩
    rcases List.mem_cons.mp present with rfl | later
    · exact absurd charged unpaid
    · rw [keeps.paid ⟨other, later, charged⟩]

/-- A whole transcript is kept by a flow that succeeds. -/
theorem whole
    (transcript : List Exchange)
    (response : MessageType.checkoutResp.Value) :
    Keeps transcript (.done (.ok response)) transcript response where
  calls := List.prefix_refl _
  answers := List.dropLast_prefix transcript
  ends := by
    intro result
    rw [Flow.done.injEq, Except.ok.injEq]
    exact ⟨fun same => ⟨rfl, same.symm⟩, fun same => same.2.symm⟩
  paid := fun _ => rfl

end Keeps

/-! ## From step to step -/

/-- A step waits for its answer, ends on a fault, or goes on from the answer. -/
theorem follows_step
    {next : typed.response.Value -> Flow Result}
    (follows : (step typed next).Follows made later) :
    ((∀ result, later ≠ .done (.ok result)) ∧
        (made = [] ∨ ∃ fault, made = [⟨typed, .error fault⟩])) ∨
      ∃ answer rest, made = ⟨typed, .ok answer⟩ :: rest ∧ (next answer).Follows rest later := by
  cases follows with
  | here => exact .inl ⟨nofun, .inl rfl⟩
  | answered answer rest =>
      cases answer with
      | error fault =>
          cases rest with
          | here => exact .inl ⟨nofun, .inr ⟨fault, rfl⟩⟩
      | ok answer => exact .inr ⟨answer, _, rfl, rest⟩

theorem follows_refuse
    {code : StatusCode}
    {message : String}
    (follows : (refuse code message).Follows made later) :
    made = [] ∧ later = .done (.error ⟨code, message⟩) := by
  cases follows with
  | here => exact ⟨rfl, rfl⟩

/-- A step that waits or has failed keeps to every transcript that begins with it. -/
theorem keeps_of_stopped
    (unfinished : ∀ result, later ≠ .done (.ok result))
    (stopped : made = [] ∨ ∃ fault, made = [⟨typed, .error fault⟩])
    (answer : typed.response.Value)
    (transcript : List Exchange)
    (response : MessageType.checkoutResp.Value) :
    Keeps made later (⟨typed, .ok answer⟩ :: transcript) response := by
  rcases stopped with rfl | ⟨fault, rfl⟩
  · exact .none unfinished (List.cons_ne_nil _ _) response
  · have unlike : (.error fault : Except Fault typed.response.Value) ≠ .ok answer := nofun
    refine .last unfinished ?_ (.inl unlike) response
    rintro ⟨-, charged, answered⟩
    cases answered

/-- A checkout that refuses an answer keeps to what would have gone on from another one. -/
theorem keeps_of_refused
    {code : StatusCode}
    {message : String}
    {given answer : typed.response.Value}
    (other : typed.method ≠ ⟨"payment", "Charge"⟩)
    (follows : (refuse code message).Follows made later)
    (more : transcript ≠ [])
    (response : MessageType.checkoutResp.Value) :
    Keeps (⟨typed, .ok given⟩ :: made) later (⟨typed, .ok answer⟩ :: transcript) response := by
  obtain ⟨rfl, rfl⟩ := follows_refuse follows
  refine .last ?_ (not_isPaid other) (.inr more) response
  intro result same
  cases same

/-- Placing the order and charging the card keep to a transcript. -/
theorem keeps_complete
    {items : List MessageType.orderItem.Value}
    (follows : (complete request address card items).Follows made later) :
    ∃ orderId transactionId, orderId ≠ "" ∧
      Keeps made later (completion request address card items orderId transactionId)
        (receipt orderId transactionId) := by
  rcases follows_step follows with ⟨unfinished, stopped⟩ | ⟨placed, rest, rfl, goesOn⟩
  · exact ⟨"o", "", by decide, keeps_of_stopped unfinished stopped _ _ _⟩
  · cases id : orderId? placed with
    | none =>
        simp only [id] at goesOn
        exact ⟨"o", "", by decide,
          keeps_of_refused (by simp) goesOn (List.cons_ne_nil _ _) _⟩
    | some orderId =>
        simp only [id] at goesOn
        obtain ⟨rfl, named⟩ := eq_of_orderId?_eq_some id
        have unpaid : ¬ IsPaid
            ⟨placeOrder (userId request) address (email request) items,
              .ok (orderAnswer orderId)⟩ :=
          not_isPaid (by simp)
        rcases follows_step goesOn with ⟨unfinished, stopped⟩ | ⟨charged, rest, rfl, final⟩
        · exact ⟨orderId, "", named,
            .cons unpaid (keeps_of_stopped unfinished stopped _ _ _)⟩
        · cases final with
          | here =>
              obtain ⟨transactionId, ⟨⟩⟩ := charged
              exact ⟨orderId, transactionId, named, .cons unpaid (.whole _ _)⟩

/-- Pricing keeps to a transcript whose order has the items that were priced, those in
`priced` first. -/
theorem keeps_priceItems
    {items : List MessageType.cartItem.Value}
    {priced : List MessageType.orderItem.Value}
    (follows : (priceItems (complete request address card) priced items).Follows made later) :
    ∃ bought orderId transactionId,
      bought.map Prod.fst = items ∧ orderId ≠ "" ∧
        Keeps made later
          (pricing bought ++
            completion request address card (priced.reverse ++ orderItems bought) orderId
              transactionId)
          (receipt orderId transactionId) := by
  induction items generalizing made priced with
  | nil =>
      obtain ⟨orderId, transactionId, named, keeps⟩ := keeps_complete follows
      refine ⟨[], orderId, transactionId, rfl, named, ?_⟩
      rw [orderItems, List.map_nil, List.append_nil]
      exact keeps
  | cons item items inductionHypothesis =>
      -- Where the checkout stops, the products still to come may be any.
      let blank : MessageType.product.Value := MessageType.product.shape.empty
      let rest := items.map fun item => (item, blank)
      have all : rest.map Prod.fst = items := by simp [rest, Function.comp_def]
      rcases follows_step follows with ⟨unfinished, stopped⟩ | ⟨found, made, rfl, goesOn⟩
      · refine ⟨(item, blank) :: rest, "o", "", by rw [List.map_cons, all], by decide, ?_⟩
        exact keeps_of_stopped unfinished stopped _ _ _
      · cases price : price? found with
        | none =>
            simp only [price] at goesOn
            refine ⟨(item, blank) :: rest, "o", "", by rw [List.map_cons, all], by decide, ?_⟩
            exact keeps_of_refused (by simp) goesOn (by simp [completion]) _
        | some cost =>
            simp only [price] at goesOn
            obtain ⟨product, rfl, rfl⟩ := eq_of_price?_eq_some price
            have onward : (priceItems (complete request address card)
                (orderItem item product :: priced) items).Follows made later := goesOn
            obtain ⟨bought, orderId, transactionId, listed, named, keeps⟩ :=
              inductionHypothesis onward
            refine ⟨(item, product) :: bought, orderId, transactionId, by rw [List.map_cons, listed],
              named, ?_⟩
            rw [List.reverse_cons, List.append_assoc] at keeps
            exact .cons (not_isPaid (by simp)) keeps

/-- A checkout that has all it asks for keeps to the transcript of a plan. -/
theorem keeps_flow
    (known : userId request ≠ 0)
    (delivered : address? request = some address)
    (given : creditCard? request = some card)
    (follows : (flow request).Follows made later) :
    ∃ plan : Plan, Keeps made later (plan.transcript request address card)
      (receipt plan.orderId plan.transactionId) := by
  let blank : Plan :=
    ⟨0, [(MessageType.cartItem.shape.empty, MessageType.product.shape.empty)], by simp, "o",
      by decide, ""⟩
  simp only [flow, if_neg known, delivered, given] at follows
  rcases follows_step follows with ⟨unfinished, stopped⟩ | ⟨cart, rest, rfl, goesOn⟩
  · exact ⟨blank, keeps_of_stopped unfinished stopped _ _ _⟩
  · cases listed : cartItems cart with
    | nil =>
        simp only [listed] at goesOn
        exact ⟨blank, keeps_of_refused (by simp) goesOn (by simp [pricing, blank]) _⟩
    | cons item items =>
        simp only [listed] at goesOn
        obtain ⟨owner, rfl⟩ := eq_of_cartItems_eq_cons listed
        obtain ⟨bought, orderId, transactionId, same, named, keeps⟩ := keeps_priceItems goesOn
        have something : bought ≠ [] := by
          rintro rfl
          cases same
        refine ⟨⟨owner, bought, something, orderId, named, transactionId⟩, ?_⟩
        rw [Plan.transcript, same]
        exact .cons (not_isPaid (by simp)) keeps

/-! ## Every checkout -/

/-- How a checkout has gone up to some point. -/
structure Sequenced (request : MessageType.checkoutReq.Value) (made : List Exchange)
    (later : Flow Result) : Prop where
  /-- Without a user, an address or a card it calls nobody and fails. -/
  silent :
    userId request = 0 ∨ address? request = none ∨ creditCard? request = none ->
      made = [] ∧ ∃ status, later = .done (.error status)
  /-- Otherwise its calls are the first ones of a plan, all before the last were answered as
  in the plan, and it succeeds exactly if it is through with the plan, with the ids that it
  was told. -/
  planned : ∀ address card,
    userId request ≠ 0 -> address? request = some address -> creditCard? request = some card ->
      ∃ plan : Plan,
        made.map Exchange.typed <+: (plan.transcript request address card).map Exchange.typed ∧
          made.dropLast <+: plan.transcript request address card ∧
          ∀ result, later = .done (.ok result) ↔
            made = plan.transcript request address card ∧
              result = receipt plan.orderId plan.transactionId
  /-- It charges at most once. -/
  once : made.countP (fun exchange => exchange.typed.method = ⟨"payment", "Charge"⟩) ≤ 1
  /-- It succeeds exactly if the charge does. -/
  paid : (∃ result, later = .done (.ok result)) ↔ ∃ exchange ∈ made, IsPaid exchange

/-- A plan has one charge. -/
theorem countP_transcript
    (plan : Plan)
    (request : MessageType.checkoutReq.Value)
    (address : MessageType.address.Value)
    (card : MessageType.creditCardInfo.Value) :
    ((plan.transcript request address card).map Exchange.typed).countP
      (fun typed => typed.method = ⟨"payment", "Charge"⟩) = 1 := by
  have priced : (pricing plan.bought).countP
      (fun exchange => exchange.typed.method = ⟨"payment", "Charge"⟩) = 0 := by
    rw [List.countP_eq_zero]
    intro exchange present
    obtain ⟨pair, -, rfl⟩ := List.mem_map.mp present
    simp
  rw [List.countP_map]
  simp only [Plan.transcript, completion, List.countP_cons, List.countP_append, List.countP_nil,
    Function.comp_def]
  rw [priced]
  simp

/-- The charge of a plan is made. -/
theorem exists_isPaid_transcript
    (plan : Plan)
    (request : MessageType.checkoutReq.Value)
    (address : MessageType.address.Value)
    (card : MessageType.creditCardInfo.Value) :
    ∃ exchange ∈ plan.transcript request address card, IsPaid exchange := by
  refine ⟨⟨charge (userId request) card plan.orderId
    (Single.sum ((orderItems plan.bought).map fun item => item.2.1)),
    .ok (chargeAnswer plan.transactionId)⟩, ?_, rfl, _, rfl⟩
  simp [Plan.transcript, completion]

/-- A request that lacks something is refused. -/
theorem flow_of_lacking
    (lacking : userId request = 0 ∨ address? request = none ∨ creditCard? request = none) :
    ∃ code message, flow request = refuse code message := by
  unfold flow
  by_cases known : userId request = 0
  · exact ⟨_, _, if_pos known⟩
  · rw [if_neg known]
    cases delivered : address? request with
    | none => exact ⟨_, _, rfl⟩
    | some address =>
        cases given : creditCard? request with
        | none => exact ⟨_, _, rfl⟩
        | some card => simp [known, delivered, given] at lacking

/-- Every checkout goes by a plan, whatever the services answer and wherever it stops. -/
theorem sequenced_of_follows
    (follows : (flow request).Follows made later) :
    Sequenced request made later := by
  by_cases lacking : userId request = 0 ∨ address? request = none ∨ creditCard? request = none
  · obtain ⟨code, message, refused⟩ := flow_of_lacking lacking
    rw [refused] at follows
    obtain ⟨rfl, rfl⟩ := follows_refuse follows
    refine ⟨fun _ => ⟨rfl, _, rfl⟩, ?_, Nat.zero_le _, ?_⟩
    · intro address card known delivered given
      simp [known, delivered, given] at lacking
    · refine ⟨fun ⟨result, finished⟩ => ?_, fun ⟨_, present, _⟩ => absurd present List.not_mem_nil⟩
      cases finished
  · have complete := lacking
    simp only [not_or] at complete
    obtain ⟨known, addressed, equipped⟩ := complete
    obtain ⟨address, delivered⟩ := Option.ne_none_iff_exists'.mp addressed
    obtain ⟨card, given⟩ := Option.ne_none_iff_exists'.mp equipped
    obtain ⟨plan, keeps⟩ := keeps_flow known delivered given follows
    refine ⟨fun lacks => absurd lacks lacking, ?_, ?_, ?_⟩
    · intro other another _ sameAddress sameCard
      obtain rfl := Option.some.inj (delivered.symm.trans sameAddress)
      obtain rfl := Option.some.inj (given.symm.trans sameCard)
      exact ⟨plan, keeps.calls, keeps.answers, keeps.ends⟩
    · have fewer := keeps.calls.sublist.countP_le
        (p := fun typed => decide (typed.method = ⟨"payment", "Charge"⟩))
      rw [countP_transcript, List.countP_map] at fewer
      exact fewer
    · constructor
      · rintro ⟨result, finished⟩
        rw [((keeps.ends result).mp finished).1]
        exact exists_isPaid_transcript plan request address card
      · intro charged
        exact ⟨_, (keeps.ends _).mpr ⟨keeps.paid charged, rfl⟩⟩

/-- The first checkout of the customer of the shop goes by a plan to its end. -/
theorem sequenced_customer :
    ∃ journal response after,
      (flow customer).Ran shop .fresh opening journal (.ok response) after ∧
        (flow customer).Follows (journal.map FlowCall.exchange) (.done (.ok response)) ∧
        Sequenced customer (journal.map FlowCall.exchange) (.done (.ok response)) := by
  obtain ⟨journal, response, after, -, -, -, alone, -⟩ := exists_repeated
  have ran := Flow.ran_of_runAlone alone
  exact ⟨journal, response, after, ran, ran.follows, sequenced_of_follows ran.follows⟩

end MallFabric.Checkout
