import PrintForge.Orders.Service
import PrintForge.Payments.Refunds
import PrintForge.Payments.Webhooks

/-!
# The payment system

Every request the order, payment, webhook and refund services take, each served by a
process over the shared `World`. Answers of Razorpay are part of the request they answer.
Checkout appears as the one transaction that creates an order; the administration of
accounts, stores and users may turn their tables into anything.
-/

namespace PrintForge

open Relational Concurrent

structure CheckoutOrder where
  orderNumber : String
  userId : Nat
  tenantId : Nat
  storeId : Option Nat
  total : Numeric.Decimal
deriving DecidableEq

/-- What the transaction of `checkout` writes to the tables of this system. -/
def createOrder (data : CheckoutOrder) : Transaction Unit := do
  let order ← Db.orders.create fun id =>
    { id, orderNumber := data.orderNumber, userId := data.userId, status := .pendingPayment
      total := data.total, currency := defaultCurrency, razorpayOrderId := none
      paymentAccountId := none, tenantId := data.tenantId, storeId := data.storeId }
  let _ ← Db.orderStatusHistory.create fun id =>
    { id, orderId := order.id, fromStatus := none, toStatus := .pendingPayment
      changedByUserId := some data.userId, note := "Order created from cart at checkout"
      tenantId := data.tenantId }
  return ()

/-- Razorpay reports on its own books that a refund it had accepted has failed. -/
def failProviderRefund (razorpayRefundId : String) : Transaction Unit :=
  modify fun w => { w with
    providerRefunds := w.providerRefunds.map fun r =>
      if r.razorpayRefundId = razorpayRefundId then { r with standing := false } else r }

def administer (paymentAccounts : Table PaymentAccount) (stores : Table Store)
    (users : Table User) : Transaction Unit :=
  modify fun w => { w with paymentAccounts, stores, users }

inductive Request where
  | checkout (data : CheckoutOrder)
  | administer (paymentAccounts : Table PaymentAccount) (stores : Table Store)
      (users : Table User)
  | initiatePayment (userId orderId : Nat) (created : Except ServiceError String)
  | verifyPayment (userId : Nat) (dto : VerifyPaymentDto)
  | receiveWebhook (rawBody signature : String) (headerEventId : Option String) (now : Nat)
  | receiveMerchantWebhook (paymentAccountId : Nat) (rawBody signature : String)
      (headerEventId : Option String) (now : Nat)
  | processOne (id now : Nat)
  | reconcileOne (orderId ageMinutes : Nat) (payments : Option (List RazorpayOrderPayment))
  | failStale (orderId ageMinutes : Nat)
  | cancelOrder (userId orderId : Nat) (reason : Option String)
  | adminTransitionStatus (tenantId adminId orderId : Nat) (status : OrderStatus)
      (reason : Option String)
  | createRefund (tenantId paymentAttemptId : Nat) (dto : CreateRefundDto)
      (answer : ProviderRefundAnswer)
  | failProviderRefund (razorpayRefundId : String)

inductive Response where
  | unit
  | initiated (view : InitiatePaymentView)
  | verified (view : VerifyPaymentView)
  | order (order : Order)
  | refund (view : RefundView)
deriving DecidableEq

/-- The process that serves a request. `n` is the number of the request. -/
def handle (gateway : Gateway) (n : Nat) : Request → Service Response
  | .checkout data => do
      Proc.transact .checkout (createOrder data)
      return .unit
  | .administer paymentAccounts stores users => do
      execute (administer paymentAccounts stores users)
      return .unit
  | .initiatePayment userId orderId created => do
      let view ← initiatePayment gateway userId orderId created
      return .initiated view
  | .verifyPayment userId dto => do
      let view ← verifyPayment gateway userId dto
      return .verified view
  | .receiveWebhook rawBody signature headerEventId now => do
      receiveWebhook gateway rawBody signature headerEventId now
      return .unit
  | .receiveMerchantWebhook paymentAccountId rawBody signature headerEventId now => do
      receiveMerchantWebhook gateway paymentAccountId rawBody signature headerEventId now
      return .unit
  | .processOne id now => do
      processOne id now
      return .unit
  | .reconcileOne orderId ageMinutes payments => do
      reconcileOne orderId ageMinutes payments
      return .unit
  | .failStale orderId ageMinutes => do
      failStaleOrderWithoutRazorpayOrder orderId ageMinutes
      return .unit
  | .cancelOrder userId orderId reason => do
      let order ← cancelOrder userId orderId reason
      return .order order
  | .adminTransitionStatus tenantId adminId orderId status reason => do
      let order ← adminTransitionStatus tenantId adminId orderId status reason
      return .order order
  | .createRefund tenantId paymentAttemptId dto answer => do
      let view ← createRefund n tenantId paymentAttemptId dto answer
      return .refund view
  | .failProviderRefund razorpayRefundId => do
      execute (failProviderRefund razorpayRefundId)
      return .unit

abbrev PaymentConfig := Config World Request Commit ServiceError Response

/-- No order has been placed yet; accounts, stores and users may already be there. -/
def World.initial (paymentAccounts : Table PaymentAccount) (stores : Table Store)
    (users : Table User) : World where
  orders := .empty
  paymentAttempts := .empty
  refunds := .empty
  orderStatusHistory := .empty
  outboxEvents := .empty
  webhookEvents := .empty
  paymentAccounts := paymentAccounts
  stores := stores
  users := users
  providerRefunds := []
  reservedBy := []

/-- A system that has taken no request yet. -/
def PaymentConfig.initial (paymentAccounts : Table PaymentAccount) (stores : Table Store)
    (users : Table User) : PaymentConfig :=
  ⟨World.initial paymentAccounts stores users, []⟩

end PrintForge
