import PrintForge.Payments.Schema

/-!
# The orders service

Cancelling an order, and the administrator's status changes. Cancelling an order whose
payment was captured only records the refund that is owed; recording a refund closes
whatever is still owed. Every change goes through `transitionOrderWithHistory`.
-/

namespace PrintForge

open Relational Concurrent JavaScript

inductive Role where
  | customer
  | admin
deriving DecidableEq, Repr

instance : ToString Role where
  toString
    | .customer => "CUSTOMER"
    | .admin => "ADMIN"

structure Actor where
  role : Role
  actorId : Nat
deriving DecidableEq, Repr

section

variable {m : Type → Type} [Monad m] [MonadExceptOf ServiceError m]

def assertTransitionAllowed (source target : OrderStatus) : m Unit :=
  if isTransitionAllowed source target then
    return ()
  else
    throw (.conflict s!"Illegal order transition: {source} -> {target}")

end

/-- Only an order with a captured payment has to be refunded when it is cancelled. -/
def orderNeedsRefund (capturedPaymentAttempt : Option PaymentAttempt) : Bool :=
  capturedPaymentAttempt.any (·.status = .captured)

/-- Compare-and-swap, history and outbox. An order that has moved on is left alone. -/
def transitionOrderWithHistory (order : Order) (target : OrderStatus) (actor : Actor)
    (reason : Option String) (refundPending : Bool) : Transaction Unit := do
  assertTransitionAllowed order.status target
  let count ← Db.orders.updateMany (fun o => o.id = order.id && o.status = order.status)
    fun o => { o with status := target }
  if count ≠ 1 then
    return ()
  else
    let defaultNote := if refundPending
      then s!"Order {target.name.toLower} — refund pending manual processing"
      else s!"Order {target.name.toLower}"
    let note := s!"[{actor.role}] {(truthy (reason.map trim)).getD defaultNote}"
    let _ ← Db.orderStatusHistory.create fun id =>
      { id, orderId := order.id, fromStatus := some order.status, toStatus := target
        changedByUserId := some actor.actorId, note, tenantId := order.tenantId }
    let user ← query (·.users.get order.userId)
    match user with
    | none => throw .recordNotFound
    | some user =>
        let _ ← Db.outboxEvents.create fun id =>
          { id, aggregateId := order.id, eventKey := ⟨order.id, .orderStatusChanged target⟩
            payload :=
              { orderId := order.id, orderNumber := order.orderNumber, userId := order.userId
                email := some user.email, fromStatus := some order.status
                toStatus := some target, refundPending } }
        return ()

/-- Write down what is owed for a captured attempt. -/
def recordOwedRefund (order : Order) (capturedAttempt : Option PaymentAttempt)
    (reason : Option String) : Transaction Unit :=
  match capturedAttempt.filter (·.status = .captured) with
  | none => return ()
  | some attempt => do
      let _ ← Db.refunds.create fun id =>
        { id, paymentAttemptId := attempt.id, razorpayRefundId := none
          amountPaise := attempt.amountPaise, status := .pending, reason, failureReason := none
          tenantId := order.tenantId, paymentAccountId := none }
      return ()

/-- The transaction of `performCancellation`. `order` and `capturedAttempt` were read before
it began. -/
def recordCancellation (order : Order) (capturedAttempt : Option PaymentAttempt) (actor : Actor)
    (reason : Option String) : Transaction Unit := do
  recordOwedRefund order capturedAttempt reason
  transitionOrderWithHistory order .cancelled actor reason (orderNeedsRefund capturedAttempt)

def performCancellation (order : Order) (actor : Actor) (reason : Option String) :
    Service Unit := do
  let capturedAttempt ← query (·.paymentAttempts.findFirst fun a =>
    a.orderId = order.id && a.status = .captured)
  Proc.transact (.performCancellation order capturedAttempt)
    (recordCancellation order capturedAttempt actor reason)

/-- The transaction of `performRefundRecording`: the refunds still owed for the order are
marked as made. -/
def recordRefund (order : Order) (actor : Actor) (reason : Option String) :
    Transaction Unit := do
  let attempts ← query (·.paymentAttempts.findMany (·.orderId = order.id))
  let _ ← Db.refunds.updateMany
    (fun r => r.status = .pending && attempts.any (·.id = r.paymentAttemptId))
    fun r => { r with status := .processed }
  transitionOrderWithHistory order .refunded actor reason false

def performRefundRecording (order : Order) (actor : Actor) (reason : Option String) :
    Service Unit :=
  Proc.transact (.performRefundRecording order) (recordRefund order actor reason)

def findOrderOrThrow (orderId : Nat) : Service Order := do
  let found ← query (·.orders.get orderId)
  match found with
  | some order => return order
  | none => throw (.notFound "Order not found")

def cancelOrder (userId orderId : Nat) (reason : Option String) : Service Order := do
  let order ← findOrderOrThrow orderId
  if order.userId ≠ userId then
    throw (.forbidden "You do not have access to this order")
  else if order.status = .cancelled then
    findOrderOrThrow orderId
  else
    assertTransitionAllowed order.status .cancelled
    performCancellation order ⟨.customer, userId⟩ reason
    findOrderOrThrow orderId

def adminTransitionStatus (tenantId adminId orderId : Nat) (status : OrderStatus)
    (reason : Option String) : Service Order := do
  let order ← findOrderOrThrow orderId
  if order.tenantId ≠ tenantId then
    throw (.notFound "Not Found")
  else if order.status = status then
    findOrderOrThrow orderId
  else
    assertTransitionAllowed order.status status
    let actor : Actor := ⟨.admin, adminId⟩
    match status with
    | .cancelled => performCancellation order actor reason
    | .refunded => performRefundRecording order actor reason
    | status =>
        Proc.transact (.adminTransitionStatus order status)
          (transitionOrderWithHistory order status actor reason false)
    findOrderOrThrow orderId

end PrintForge
