import PrintForge.Checkout.Coupons

/-!
# Checkout

A call with a key that an order was made under returns that order. Otherwise it runs one
transaction: lock the cart, claim the key, price what is in the cart, redeem a coupon, draw an
order number, count the order against the plan of the tenant, write the order and empty the cart.
The order is read again at the end, outside the transaction.

The limit on orders is resolved outside; a call carries it. A call may be made to fail after any
number of statements.
-/

namespace PrintForge.Checkout

open Relational Concurrent JavaScript Numeric Catalogue

def checkoutEndpointId : String := "POST /checkout/orders"

def shippingFeeSettingKey : String := "shippingFeeFlat"

def billingPeriodUnavailableMessage : String := "billing_period_unavailable"

structure CreateOrderDto where
  shipping : ShippingAddress
  couponCode : Option String
deriving DecidableEq, Repr

/-! ## Reading -/

def assertTenantActive (tenantId : Nat) (message : String) : Session Unit := do
  let tenant ← Txn.read (·.shop.tenants.get tenantId)
  if tenant.any (·.status = .suspended) then
    throw (.forbidden message)
  else
    return ()

def loadCustomization (w : World) (c : CartItemCustomization) :
    Option (CartItemCustomization × CustomizationField) :=
  (w.shop.customizationFields.get c.customizationFieldId).map fun field => (c, field)

/-- An item with the rows it refers to, which foreign keys keep there. -/
def loadItem (w : World) (item : CartItem) : Option CheckoutCartItem := do
  let product ← w.shop.products.get item.productId
  let customizations ←
    (w.shop.cartItemCustomizations.findMany (·.cartItemId = item.id)).mapM (loadCustomization w)
  return ⟨item, product, item.variantId.bind w.shop.productVariants.get, customizations⟩

def loadItems (cartId : Nat) (w : World) : Option (List CheckoutCartItem) :=
  (w.shop.cartItems.findMany (·.cartId = cartId)).mapM (loadItem w)

/-- The cart, with at least one item. -/
def loadCart (cartId : Nat) : Session (Cart × List CheckoutCartItem) := do
  let found ← Txn.read fun w => (w.shop.carts.get cartId, loadItems cartId w)
  match found with
  | (none, _) | (some _, some []) => throw (.badRequest "Your cart is empty")
  | (some _, none) => throw (.other "Inconsistent query result")
  | (some cart, some items) => return (cart, items)

def resolvePrimaryStoreId (tenantId : Nat) : Session Nat := do
  let store ← Txn.read fun w =>
    w.shop.stores.findFirst fun s => s.tenantId = tenantId && s.isPrimary
  match store with
  | none => throw (.notFound "This tenant has no primary store configured")
  | some store => return store.id

section

variable (decimalOf : String → DecimalText)

def getShippingFeePaise (storeId : Nat) : Session Int := do
  let setting ← Txn.read fun w =>
    w.shop.storeSettings.findFirst fun s => s.ownerId = storeId && s.name = shippingFeeSettingKey
  match setting.map fun setting => decimalOf setting.value with
  | none => return 0
  | some (.finite fee) => return decimalToPaise fee
  | some _ => throw (.other "Invalid argument")

def tenantSetting (tenantId : Nat) (name : String) (w : World) : Option String :=
  (w.shop.tenantSettings.findFirst fun s => s.ownerId = tenantId && s.name = name).map (·.value)

def getConfig (tenantId : Nat) : Session TaxConfig :=
  Txn.read fun w =>
    { enabled := tenantSetting tenantId "tax.enabled" w = some "true"
      mode :=
        if tenantSetting tenantId "tax.pricingMode" w = some "EXCLUSIVE" then .exclusive
        else .inclusive
      ratePercent := (tenantSetting tenantId "tax.ratePercent" w).getD "0" }

/-! ## Keys, numbers and periods -/

/-- The key is claimed unless there is a row for it. -/
def claim (key : String) (userId tenantId : Nat) : Session Bool := do
  let _ ← Txn.lockAnd .claimKey (.idempotencyKey key) fun _ => ()
  let row ← Txn.exec (Db.idempotencyKeys.createOrIgnore fun id =>
    { id, key, userId, endpoint := checkoutEndpointId, resultOrderId := none, tenantId })
  return row.isSome

/-- What a call does that finds the key claimed. -/
def resolveRaced (key : String) (userId : Nat) : Session CheckoutOutcome := do
  let raced ← Txn.read (·.idempotencyKeys.findFirst (·.key = key))
  match raced.bind fun r => (r.resultOrderId).filter fun _ => r.userId = userId with
  | some orderId => return .raced orderId
  | none =>
      throw (.conflict "A checkout for this idempotency key is already in progress")

def orderNumberOf (counter : Nat) : String := "PF-" ++ JavaScript.padStart (toString counter) 6 '0'

theorem toList_orderNumberOf (counter : Nat) :
    (orderNumberOf counter).toList = "PF-".toList ++ JavaScript.numeral 6 counter := by
  rw [orderNumberOf, String.toList_append, JavaScript.padStart_toString]

/-- The counter is there from the first order on. -/
def nextOrderNumber : Transaction String := do
  let counter ← Tx.read fun w => (w.orderNumberCounter.map (· + 1)).getD 1
  modify fun w => { w with orderNumberCounter := some counter }
  return orderNumberOf counter

def generateOrderNumber : Session String := do
  let _ ← Txn.lockAnd .nextOrderNumber .orderNumber fun _ => ()
  Txn.exec nextOrderNumber

/-- The timestamp stands for its ISO form. -/
def deriveBillingPeriodIdentifier (currentPeriodStart : Int) : String :=
  toString currentPeriodStart

def resolveBillingPeriod (tenantId : Nat) : Session String := do
  let subscription ← Txn.read fun w => w.shop.subscriptions.findFirst (·.tenantId = tenantId)
  match subscription.bind (·.currentPeriodStart) with
  | none => throw (.other billingPeriodUnavailableMessage)
  | some currentPeriodStart => return deriveBillingPeriodIdentifier currentPeriodStart

/-- The counter in question: that of the period where the limit is one of the period. -/
def limitPeriod (limit : ResolvedLimit) (period : String) : String :=
  if limit.billingPeriod then period else persistentPeriod

/-- Count usage against a limit. The statements wait for the counter. -/
def countAgainst (tenantId : Nat) (limitKey : LimitKey) (amount : Int) (limit : ResolvedLimit)
    (period : String) : Session Unit := do
  let _ ← Txn.lockAnd .countUsage (.usage tenantId limitKey (limitPeriod limit period)) fun _ => ()
  Txn.exec (assertLimit Db.usage tenantId limitKey amount limit (some period))

/-! ## Writing the order -/

/-- Subtotal, discount, shipping fee, tax and total. -/
structure Bill where
  subtotalPaise : Int
  discount : Discount
  tax : TaxComputation
  totalPaise : Int
deriving DecidableEq, Repr

def computeBill (subtotalPaise : Int) (discount : Discount) (config : TaxConfig) :
    Except HttpError Bill := do
  let tax ← computeTax decimalOf (subtotalPaise - discount.discountPaise) config
  return {
    subtotalPaise, discount, tax
    totalPaise := computeOrderTotal subtotalPaise discount.shippingFeePaise discount.discountPaise
      (taxToAddPaise tax) }

/-- What an order is written from. -/
structure OrderDraft where
  orderNumber : String
  userId : Nat
  tenantId : Nat
  storeId : Nat
  key : String
  items : List CheckoutCartItem
  bill : Bill
  redemption : Option Redemption
  shipping : ShippingAddress
deriving DecidableEq, Repr

def createOrder (draft : OrderDraft) : Transaction Order := do
  let subtotal ← Tx.ofExcept (toAmount draft.bill.subtotalPaise)
  let shippingFee ← Tx.ofExcept (toAmount draft.bill.discount.shippingFeePaise)
  let total ← Tx.ofExcept (toAmount draft.bill.totalPaise)
  let discountAmount ← Tx.ofExcept (toAmount draft.bill.discount.discountPaise)
  let taxableAmount ← Tx.ofExcept (toAmount draft.bill.tax.taxableAmountPaise)
  let taxAmount ← Tx.ofExcept (toAmount draft.bill.tax.taxAmountPaise)
  Db.orders.create fun id =>
    { id, orderNumber := draft.orderNumber, userId := draft.userId, tenantId := draft.tenantId
      storeId := draft.storeId, status := .pendingPayment, subtotal, shippingFee, total
      discountAmount, taxMode := draft.bill.tax.mode, taxableAmount, taxAmount
      taxRateSnapshot := draft.bill.tax.taxRateSnapshot
      couponId := draft.redemption.map (·.read.id)
      couponCode := draft.redemption.map (·.read.code), shipping := draft.shipping }

def recordUsage (draft : OrderDraft) (order : Order) : Transaction Unit :=
  match draft.redemption with
  | none => return ()
  | some redemption => do
      let discountAppliedAmount ← Tx.ofExcept (toAmount draft.bill.discount.discountPaise)
      let _ ← Db.couponUsages.create fun id =>
        { id, couponId := redemption.read.id, userId := draft.userId, orderId := order.id
          discountAppliedAmount, tenantId := order.tenantId }
      return ()

def createItemCustomizations (item : OrderItem) :
    List (CartItemCustomization × CustomizationField) → Transaction Unit
  | [] => return ()
  | (c, field) :: rest => do
      let _ ← Db.orderItemCustomizations.create fun id =>
        { id, orderItemId := item.id, fieldLabelSnapshot := field.label, textValue := c.textValue
          uploadedFileId := c.uploadedFileId, tenantId := item.tenantId }
      createItemCustomizations item rest

def createItems (order : Order) : List CheckoutCartItem → Transaction Unit
  | [] => return ()
  | item :: rest => do
      let unitPriceSnapshot ← Tx.ofExcept (toAmount (priceItem item).unitPricePaise)
      let lineTotal ← Tx.ofExcept (toAmount (priceItem item).lineTotalPaise)
      let orderItem ← Db.orderItems.create fun id =>
        { id, orderId := order.id, productId := item.product.id
          productNameSnapshot := item.product.name
          variantLabelSnapshot := item.variant.map (·.label)
          unitPriceSnapshot, quantity := item.item.quantity, lineTotal
          tenantId := order.tenantId }
      createItemCustomizations orderItem item.customizations
      createItems order rest

/-- The row that was claimed is found again by its key. -/
def recordResult (key : String) (orderId : Nat) : Transaction Unit := do
  let _ ← Db.idempotencyKeys.updateMany (·.key = key) fun row =>
    { row with resultOrderId := some orderId }
  return ()

def OrderDraft.itemIds (draft : OrderDraft) : List Nat := draft.items.map (·.item.id)

def emptyCart (draft : OrderDraft) : Transaction Unit := do
  let _ ← Db.cartItemCustomizations.deleteMany (draft.itemIds.contains ·.cartItemId)
  let _ ← Db.cartItems.deleteMany (draft.itemIds.contains ·.id)
  return ()

def OrderDraft.placement (draft : OrderDraft) (period : String) (orderId : Nat) : Placement where
  userId := draft.userId
  tenantId := draft.tenantId
  key := draft.key
  orderId := orderId
  period := period
  items := draft.items.map fun i => (i.item.id, i.item.cartId)
  redemption := draft.redemption

/-- Every write that follows the counters, with what it is remembered by. -/
def writeOrder (draft : OrderDraft) (period : String) : Transaction Placement := do
  let order ← createOrder draft
  recordUsage draft order
  createItems order draft.items
  let _ ← Db.orderStatusHistory.create fun id =>
    { id, orderId := order.id, fromStatus := none, toStatus := .pendingPayment
      changedByUserId := some draft.userId, note := "Order created from cart at checkout"
      tenantId := order.tenantId }
  recordResult draft.key order.id
  emptyCart draft
  let placement := draft.placement period order.id
  modify fun w => { w with placements := placement :: w.placements }
  return placement

/-! ## The transaction -/

variable (limit : ResolvedLimit) (userId : Nat) (dto : CreateOrderDto) (key : String)

/-- The discount of the coupon, if one is given. -/
def redeem (tenantId : Nat) (items : List CheckoutCartItem) (subtotalPaise shippingFeePaise : Int) :
    Session (Option Redemption × Discount) :=
  match truthy dto.couponCode with
  | none => return (none, ⟨0, shippingFeePaise⟩)
  | some code => do
      let claim ← validateAndClaim {
        code, userId, subtotalPaise, shippingFeePaise, tenantId
        lineItems := items.map fun item =>
          ⟨item.product.categoryId, (priceItem item).lineTotalPaise⟩ }
      return (some claim.redemption, claim.discount)

/-- From the draft to the order: number, period, usage and rows. -/
def finishOrder (draft : String → OrderDraft) : Session CheckoutOutcome := do
  let orderNumber ← generateOrderNumber
  let tenantId := (draft orderNumber).tenantId
  let period ← resolveBillingPeriod tenantId
  countAgainst tenantId .ordersPerMonth 1 limit period
  let placement ← Txn.exec (writeOrder (draft orderNumber) (limitPeriod limit period))
  return .placed placement

def placeOrder (cartId : Nat) : Session CheckoutOutcome := do
  let (cart, items) ← loadCart cartId
  Txn.done (assertItemsCheckoutable items)
  let storeId ← resolvePrimaryStoreId cart.tenantId
  let shippingFeePaise ← getShippingFeePaise decimalOf storeId
  let subtotalPaise := sumLineTotals (items.map priceItem)
  let (redemption, discount) ← redeem userId dto cart.tenantId items subtotalPaise shippingFeePaise
  let config ← getConfig cart.tenantId
  let bill ← Txn.done (computeBill decimalOf subtotalPaise discount config)
  finishOrder limit fun orderNumber =>
    { orderNumber, userId, tenantId := cart.tenantId, storeId, key, items, bill, redemption
      shipping := dto.shipping }

/-- The transaction once the cart is locked. -/
def checkoutCart (cart : Cart) : Session CheckoutOutcome := do
  assertTenantActive cart.tenantId "This store is currently unavailable"
  let claimed ← claim key userId cart.tenantId
  if claimed then placeOrder decimalOf limit userId dto key cart.id else resolveRaced key userId

def checkoutTransaction : Session CheckoutOutcome := do
  let lockedCart ← Txn.lockAnd .lockCart (.cart userId) fun w =>
    w.shop.carts.findFirst (·.userId = userId)
  match lockedCart with
  | none => throw (.badRequest "Your cart is empty")
  | some cart => checkoutCart decimalOf limit userId dto key cart

end

/-! ## Calls -/

/-- What a call answers: the order, and whether the call made it. -/
structure OrderReply where
  orderId : Nat
  created : Bool
deriving DecidableEq, Repr

/-- The process of a call. -/
abbrev Service := Proc (Locked World Key) (Entry Key Commit) HttpError

/-- What a call fails with that is cut off. -/
def connectionLost : HttpError := .other "connection lost"

/-- The statement a call fails at: the look-up of the key, one of the transaction, or the one that
reads the order again. -/
inductive Fault where
  | lookup
  | statement (n : Nat)
  | view
deriving DecidableEq, Repr

def Fault.cut : Fault → Option Nat
  | statement n => some n
  | lookup | view => none

def loadOrderView (orderId userId : Nat) (created : Bool) : Service OrderReply := do
  let order ← Proc.read fun s => (s.db.orders.get orderId).filter (·.userId = userId)
  match order with
  | none => throw (.conflict "Order not found for this user")
  | some order => return ⟨order.id, created⟩

def CheckoutOutcome.orderId : CheckoutOutcome → Nat
  | raced orderId => orderId
  | placed placement => placement.orderId

def CheckoutOutcome.created : CheckoutOutcome → Bool
  | raced _ => false
  | placed _ => true

def viewUnless (fault : Option Fault) (orderId userId : Nat) (created : Bool) :
    Service OrderReply :=
  if fault = some .view then throw connectionLost else loadOrderView orderId userId created

/-- What a call does that finds its key. -/
def replay (existing : IdempotencyKey) (userId : Nat) (fault : Option Fault) :
    Service OrderReply :=
  if existing.userId ≠ userId then
    throw (.conflict "Idempotency key already in use")
  else
    match existing.resultOrderId with
    | some orderId => viewUnless fault orderId userId false
    | none => throw (.conflict "A checkout for this idempotency key is already in progress")

def checkout (decimalOf : String → DecimalText) (limit : ResolvedLimit) (i userId : Nat)
    (dto : CreateOrderDto) (key : String) (fault : Option Fault) : Service OrderReply := do
  if fault = some .lookup then
    throw connectionLost
  else do
    let existing ← Proc.read fun s => s.db.idempotencyKeys.findFirst (·.key = key)
    match existing with
    | some existing => replay existing userId fault
    | none => do
        let outcome ← inTransaction i Commit.checkout
          ((checkoutTransaction decimalOf limit userId dto key).cutAt connectionLost
            (fault.bind Fault.cut))
        viewUnless fault outcome.orderId userId outcome.created

/-! ## Usage by itself -/

def reserveUsage (tenantId : Nat) (limitKey : LimitKey) (period : String) (amount : Int)
    (limit : Option Int) : Session ReservationOutcome := do
  let _ ← Txn.lockAnd .countUsage (.usage tenantId limitKey period) fun _ => ()
  Txn.exec (reserve Db.usage tenantId limitKey period amount limit)

def decrementUsage (tenantId : Nat) (limitKey : LimitKey) (period : String) (amount : Int) :
    Session Int := do
  let _ ← Txn.lockAnd .countUsage (.usage tenantId limitKey period) fun _ => ()
  Txn.exec (decrement Db.usage tenantId limitKey period amount)

/-! ## Requests -/

/-- What the service of carts comes to, one row at a time. -/
inductive CartChange where
  | openCart (userId tenantId : Nat)
  | addItem (cartId productId : Nat) (variantId : Option Nat) (quantity tenantId : Nat)
  | setQuantity (itemId quantity : Nat)
  | removeItem (itemId : Nat)
deriving DecidableEq, Repr

def CartChange.run : CartChange → Transaction Unit
  | openCart userId tenantId => do
      let _ ← Db.carts.createOrIgnore (fun id => { id, userId, tenantId })
        (Cart.key_row userId tenantId)
      return ()
  | addItem cartId productId variantId quantity tenantId => do
      let _ ← Db.cartItems.create fun id =>
        { id, cartId, productId, variantId, quantity, tenantId }
      return ()
  | setQuantity itemId quantity => do
      let _ ← Db.cartItems.updateMany (·.id = itemId) fun item => { item with quantity }
      return ()
  | removeItem itemId => do
      let _ ← Db.cartItems.deleteMany (·.id = itemId)
      return ()

/-- What other services do to the rest of the shop is given by what comes of it. -/
inductive Request where
  | checkout (limit : ResolvedLimit) (userId : Nat) (dto : CreateOrderDto) (key : String)
      (fault : Option Fault)
  | updateCoupon (tenantId id : Nat) (dto : UpdateCouponDto) (failsAt : Option Nat)
  | reserve (tenantId : Nat) (limitKey : LimitKey) (period : String) (amount : Int)
      (limit : Option Int) (failsAt : Option Nat)
  | decrement (tenantId : Nat) (limitKey : LimitKey) (period : String) (amount : Int)
      (failsAt : Option Nat)
  | cart (change : CartChange)
  | elsewhere (edit : Shop → Shop)
  | tick (milliseconds : Nat)

/-- An action on the tables that is no transaction of the ones above. -/
def outside (ℓ : Commit) (tx : Transaction Unit) : Service Unit :=
  .commit (.other ℓ) (fun s => { s with db := Proc.applied tx s.db })
    fun s => .done ((tx s.db).map fun _ => ())

def handle (decimalOf : String → DecimalText) (i : Nat) : Request → Service (Option OrderReply)
  | .checkout limit userId dto key fault =>
      some <$> checkout decimalOf limit i userId dto key fault
  | .updateCoupon tenantId id dto failsAt =>
      (fun _ => none) <$> inTransaction i (fun _ => Commit.updateCoupon)
        ((updateCoupon tenantId id dto).cutAt connectionLost failsAt)
  | .reserve tenantId limitKey period amount limit failsAt =>
      (fun _ => none) <$> inTransaction i (Commit.reserved tenantId limitKey period amount)
        ((reserveUsage tenantId limitKey period amount limit).cutAt connectionLost failsAt)
  | .decrement tenantId limitKey period amount failsAt =>
      (fun _ => none) <$> inTransaction i
        (fun _ => Commit.decremented tenantId limitKey period amount)
        ((decrementUsage tenantId limitKey period amount).cutAt connectionLost failsAt)
  | .cart change => (fun _ => none) <$> outside .cart change.run
  | .elsewhere edit => (fun _ => none) <$> outside .elsewhere (modify fun w =>
      { w with shop := { edit w.shop with carts := w.shop.carts, cartItems := w.shop.cartItems } })
  | .tick milliseconds => (fun _ => none) <$> outside .tick (modify fun w =>
      { w with now := w.now + milliseconds })

abbrev CheckoutConfig :=
  Config (Locked World Key) Request (Entry Key Commit) HttpError (Option OrderReply)

/-- A run of any length, with any requests, under any schedule. Steps wait for keys, and the
others are as `ok` says. -/
abbrev Reaches (decimalOf : String → DecimalText)
    (ok : Entry Key Commit → Locked World Key → Prop) : CheckoutConfig → CheckoutConfig → Prop :=
  Run (handle decimalOf) (fun _ _ => True) fun a s => Unblocked a s ∧ ok a s

end PrintForge.Checkout
