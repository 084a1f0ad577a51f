import PrintForge.Concurrent.Process
import PrintForge.Relational.Transaction
import PrintForge.Common.Basic
import PrintForge.Orders.StateMachine

/-!
# The tables behind payments

One row type for each table the payment, order and refund services touch, with its
unique indexes, and the state they make up together. Identifiers that the database
draws are natural numbers; identifiers that Razorpay draws are strings. Rows keep
their insertion order, which stands for `createdAt`.
-/

namespace PrintForge

open Relational Concurrent Numeric

inductive PaymentAttemptStatus where
  | initiated
  | captured
  | failed
  | abandoned
deriving DecidableEq, Repr

namespace PaymentAttemptStatus

def name : PaymentAttemptStatus → String
  | initiated => "INITIATED"
  | captured => "CAPTURED"
  | failed => "FAILED"
  | abandoned => "ABANDONED"

instance : ToString PaymentAttemptStatus := ⟨name⟩

end PaymentAttemptStatus

inductive RefundStatus where
  | pending
  | processed
  | failed
deriving DecidableEq, Repr

inductive WebhookEventStatus where
  | received
  | processed
  | processingFailed
  | ignored
  | failed
deriving DecidableEq, Repr

inductive PaymentAccountStatus where
  | pending
  | active
  | disabled
deriving DecidableEq, Repr

namespace PaymentAccountStatus

def name : PaymentAccountStatus → String
  | pending => "PENDING"
  | active => "ACTIVE"
  | disabled => "DISABLED"

instance : ToString PaymentAccountStatus := ⟨name⟩

end PaymentAccountStatus

inductive PaymentProviderType where
  | razorpay
deriving DecidableEq, Repr

instance : ToString PaymentProviderType := ⟨fun _ => "RAZORPAY"⟩

/-! ## Webhook payloads -/

/-- The payment fields a webhook carries. `amount` is the integer that the amount
denotes, if it denotes one. -/
structure RazorpayPaymentEntity where
  id : String
  orderId : String
  amount : Option Int
  currency : Option String
  method : Option String
  errorCode : Option String
  errorDescription : Option String
deriving DecidableEq, Repr

structure RazorpayRefundEntity where
  id : String
  amount : Option Int
  errorDescription : Option String
deriving DecidableEq, Repr

structure RazorpayWebhookPayload where
  event : String
  payment : Option RazorpayPaymentEntity
  refund : Option RazorpayRefundEntity
  createdAt : Option Nat
deriving DecidableEq, Repr

/-! ## Rows -/

structure Order where
  id : Nat
  orderNumber : String
  userId : Nat
  status : OrderStatus
  total : Decimal
  currency : String
  razorpayOrderId : Option String
  paymentAccountId : Option Nat
  tenantId : Nat
  storeId : Option Nat
deriving DecidableEq, Repr

instance : Schema Order where
  key o := o.id
  Clash a b := a.razorpayOrderId = b.razorpayOrderId ∧ a.razorpayOrderId ≠ none
  clash_decidable _ _ := inferInstanceAs (Decidable (_ ∧ _))
  clash_symm h := ⟨h.1.symm, h.1 ▸ h.2⟩

structure PaymentAttempt where
  id : Nat
  orderId : Nat
  razorpayOrderId : String
  razorpayPaymentId : Option String
  amountPaise : Int
  currency : String
  status : PaymentAttemptStatus
  failureCode : Option String
  failureReason : Option String
  method : Option String
  tenantId : Nat
  paymentAccountId : Option Nat
deriving DecidableEq, Repr

/-- A payment id stands on one attempt, and an order has at most one captured attempt. -/
instance : Schema PaymentAttempt where
  key a := a.id
  Clash a b :=
    (a.razorpayPaymentId = b.razorpayPaymentId ∧ a.razorpayPaymentId ≠ none) ∨
      (a.orderId = b.orderId ∧ a.status = .captured ∧ b.status = .captured)
  clash_decidable _ _ := inferInstanceAs (Decidable (_ ∨ _))
  clash_symm := by
    rintro a b (⟨h, hn⟩ | ⟨h, ha, hb⟩)
    · exact .inl ⟨h.symm, h ▸ hn⟩
    · exact .inr ⟨h.symm, hb, ha⟩

structure Refund where
  id : Nat
  paymentAttemptId : Nat
  razorpayRefundId : Option String
  amountPaise : Int
  status : RefundStatus
  reason : Option String
  failureReason : Option String
  tenantId : Nat
  paymentAccountId : Option Nat
deriving DecidableEq, Repr

instance : Schema Refund where
  key r := r.id
  Clash a b := a.razorpayRefundId = b.razorpayRefundId ∧ a.razorpayRefundId ≠ none
  clash_decidable _ _ := inferInstanceAs (Decidable (_ ∧ _))
  clash_symm h := ⟨h.1.symm, h.1 ▸ h.2⟩

structure OrderStatusHistory where
  id : Nat
  orderId : Nat
  fromStatus : Option OrderStatus
  toStatus : OrderStatus
  changedByUserId : Option Nat
  note : String
  tenantId : Nat
deriving DecidableEq, Repr

instance : Schema OrderStatusHistory where
  key h := h.id
  Clash _ _ := False
  clash_decidable _ _ := inferInstanceAs (Decidable False)
  clash_symm h := h

inductive OutboxEventType where
  | orderPaid
  | orderStatusChanged (toStatus : OrderStatus)
deriving DecidableEq, Repr

/-- The keys `ORDER_PAID:<order>` and `ORDER_STATUS_CHANGED:<order>:<status>`. -/
structure EventKey where
  orderId : Nat
  eventType : OutboxEventType
deriving DecidableEq, Repr

structure OutboxPayload where
  orderId : Nat
  orderNumber : String
  userId : Nat
  email : Option String
  fromStatus : Option OrderStatus
  toStatus : Option OrderStatus
  refundPending : Bool
deriving DecidableEq, Repr

structure OutboxEvent where
  id : Nat
  aggregateId : Nat
  eventKey : EventKey
  payload : OutboxPayload
deriving DecidableEq, Repr

instance : Schema OutboxEvent where
  key e := e.id
  Clash a b := a.eventKey = b.eventKey
  clash_decidable a b := inferInstanceAs (Decidable (a.eventKey = b.eventKey))
  clash_symm h := h.symm

structure WebhookEvent where
  id : Nat
  razorpayEventId : String
  payload : RazorpayWebhookPayload
  status : WebhookEventStatus
  paymentAccountId : Option Nat
  attempts : Nat
  availableAt : Nat
  lastError : Option String
deriving DecidableEq, Repr

instance : Schema WebhookEvent where
  key e := e.id
  Clash a b := a.razorpayEventId = b.razorpayEventId
  clash_decidable a b := inferInstanceAs (Decidable (a.razorpayEventId = b.razorpayEventId))
  clash_symm h := h.symm

structure PaymentAccount where
  id : Nat
  tenantId : Nat
  storeId : Nat
  provider : PaymentProviderType
  status : PaymentAccountStatus
  credentialsEncrypted : Option String
deriving DecidableEq, Repr

instance : Schema PaymentAccount where
  key a := a.id
  Clash a b := a.storeId = b.storeId ∧ a.provider = b.provider
  clash_decidable _ _ := inferInstanceAs (Decidable (_ ∧ _))
  clash_symm h := ⟨h.1.symm, h.2.symm⟩

structure Store where
  id : Nat
  tenantId : Nat
deriving DecidableEq, Repr

instance : Schema Store where
  key s := s.id
  Clash _ _ := False
  clash_decidable _ _ := inferInstanceAs (Decidable False)
  clash_symm h := h

structure User where
  id : Nat
  email : String
deriving DecidableEq, Repr

instance : Schema User where
  key u := u.id
  Clash _ _ := False
  clash_decidable _ _ := inferInstanceAs (Decidable False)
  clash_symm h := h

@[simp] theorem key_order (o : Order) : Schema.key o = o.id := rfl

theorem Order.key_setStatus (status : OrderStatus) (o : Order) :
    Schema.key { o with status } = Schema.key o := rfl

theorem Refund.key_setStatus (status : RefundStatus) (r : Refund) :
    Schema.key { r with status } = Schema.key r := rfl

@[simp] theorem key_paymentAttempt (a : PaymentAttempt) : Schema.key a = a.id := rfl

@[simp] theorem key_refund (r : Refund) : Schema.key r = r.id := rfl

@[simp] theorem key_webhookEvent (e : WebhookEvent) : Schema.key e = e.id := rfl

/-- A refund that Razorpay has accepted, with the row it was asked for. It stands until
Razorpay itself reports that it failed. -/
structure ProviderRefund where
  refundId : Nat
  razorpayRefundId : String
  razorpayPaymentId : String
  amountPaise : Int
  standing : Bool
deriving DecidableEq, Repr

/-- The database, and what Razorpay has on its own books. -/
structure World where
  orders : Table Order
  paymentAttempts : Table PaymentAttempt
  refunds : Table Refund
  orderStatusHistory : Table OrderStatusHistory
  outboxEvents : Table OutboxEvent
  webhookEvents : Table WebhookEvent
  paymentAccounts : Table PaymentAccount
  stores : Table Store
  users : Table User
  providerRefunds : List ProviderRefund
  /-- Which request reserved which refund row. Nothing reads it; proofs use it to tell
  one caller from another. -/
  reservedBy : List (Nat × Nat)

namespace Db

def orders : Slot World Order where
  get := World.orders
  set t w := { w with orders := t }

def paymentAttempts : Slot World PaymentAttempt where
  get := World.paymentAttempts
  set t w := { w with paymentAttempts := t }

def refunds : Slot World Refund where
  get := World.refunds
  set t w := { w with refunds := t }

def orderStatusHistory : Slot World OrderStatusHistory where
  get := World.orderStatusHistory
  set t w := { w with orderStatusHistory := t }

def outboxEvents : Slot World OutboxEvent where
  get := World.outboxEvents
  set t w := { w with outboxEvents := t }

def webhookEvents : Slot World WebhookEvent where
  get := World.webhookEvents
  set t w := { w with webhookEvents := t }

end Db

/-! ## Errors -/

inductive PaymentMismatchReason where
  | razorpayOrderIdMismatch
  | currencyMismatch
  | amountMismatch
deriving DecidableEq, Repr

instance : ToString PaymentMismatchReason where
  toString
    | .razorpayOrderIdMismatch => "RAZORPAY_ORDER_ID_MISMATCH"
    | .currencyMismatch => "CURRENCY_MISMATCH"
    | .amountMismatch => "AMOUNT_MISMATCH"

inductive PaymentAccountResolutionError where
  | storeNotFound (storeId : Nat)
  | noActivePaymentAccount (storeId : Nat) (provider : PaymentProviderType)
  | inactivePaymentAccount (paymentAccountId : Nat) (status : PaymentAccountStatus)
  | unknownPaymentAccount (paymentAccountId : Nat)
  | paymentAccountTenantMismatch (paymentAccountId : Nat)
deriving DecidableEq, Repr

namespace PaymentAccountResolutionError

def message : PaymentAccountResolutionError → String
  | storeNotFound _ => "Store not found for this tenant"
  | noActivePaymentAccount _ provider =>
      s!"No {provider} payment account is configured for this store"
  | inactivePaymentAccount id status => s!"Payment account {id} is {status}, not ACTIVE"
  | unknownPaymentAccount _ => "Payment account not found"
  | paymentAccountTenantMismatch _ => "Payment account not found for this tenant"

end PaymentAccountResolutionError

/-- Everything a service may throw. `provider` is a failed call to Razorpay, `malformed`
a number that does not parse, `other` any error the code does not tell apart. -/
inductive ServiceError where
  | notFound (text : String)
  | badRequest (text : String)
  | conflict (text : String)
  | forbidden (text : String)
  | merchantPaymentUnavailable
  | paymentProviderUnavailable
  | paymentMismatch (reason : PaymentMismatchReason) (detail : String)
  | unresolvedRefundWebhook (razorpayRefundId : String)
  | paymentAccountResolution (err : PaymentAccountResolutionError)
  | provider (text : String)
  | malformed (text : String)
  | uniqueViolation
  | recordNotFound
  | other (text : String)
deriving DecidableEq, Repr

instance : DatabaseError ServiceError where
  uniqueViolation := .uniqueViolation
  recordNotFound := .recordNotFound

namespace ServiceError

def message : ServiceError → String
  | notFound text => text
  | badRequest text => text
  | conflict text => text
  | forbidden text => text
  | merchantPaymentUnavailable =>
      "This store has not finished setting up payments yet. Please try again later or contact the merchant."
  | paymentProviderUnavailable =>
      "The payment provider could not process this request. Please try again shortly."
  | paymentMismatch reason detail => s!"Payment mismatch ({reason}): {detail}"
  | unresolvedRefundWebhook id =>
      s!"No local Refund found yet for razorpayRefundId={id} — retrying (may be a provider-call/webhook race)"
  | paymentAccountResolution err => err.message
  | provider text => text
  | malformed text => text
  | uniqueViolation => "P2002"
  | recordNotFound => "P2025"
  | other text => text

/-- A Prisma error with code `P2002`. -/
def isUniqueConstraintViolation : ServiceError → Bool
  | uniqueViolation => true
  | _ => false

end ServiceError

/-! ## Transactions and services

A service is a process over the `World`. A statement made outside a transaction is an
atomic action of its own; a `$transaction` is one atomic action. Code that is handed
either client is written once, over any `PrismaClient`.

Every commit is labelled with the source function that makes it and with the values
that function had read before, which may be stale by then. -/

abbrev Transaction := Tx World ServiceError

structure MerchantRefundResult where
  providerRefundId : String
  status : String
deriving DecidableEq, Repr

/-- What Razorpay did with a refund call, and what the caller heard of it. `accepted` is
the identifier under which Razorpay booked the refund, if it did. -/
structure ProviderRefundAnswer where
  accepted : Option String
  reply : Except ServiceError MerchantRefundResult

inductive Commit where
  | statement
  | checkout
  | verifyPayment (order : Order) (existingByPaymentId : Option PaymentAttempt)
      (razorpayPaymentId : String)
  | processWebhook (id : Nat)
  | reconcileCapturedPayment (order : Order)
  | failStalePendingOrder (order : Order)
  | performCancellation (order : Order) (capturedAttempt : Option PaymentAttempt)
  | performRefundRecording (order : Order)
  | adminTransitionStatus (order : Order) (status : OrderStatus)
  | createRefund (paymentAttemptId : Nat)
  | callProvider (refundId : Nat) (answer : ProviderRefundAnswer)

abbrev Service := Proc World Commit ServiceError

/-- A database client: the transaction it was handed, or one statement at a time. -/
class PrismaClient (m : Type → Type) where
  query {α : Type} : (World → α) → m α
  execute {α : Type} : Transaction α → m α

export PrismaClient (query execute)

instance : PrismaClient Transaction where
  query := Tx.read
  execute tx := tx

instance : PrismaClient Service where
  query := Proc.read
  execute := Proc.transact .statement

end PrintForge
