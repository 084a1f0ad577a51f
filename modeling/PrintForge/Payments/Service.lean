import PrintForge.Payments.Accounts

/-!
# The payments service

Starting a payment, the customer's verify callback, the application of Razorpay's
webhook events, and reconciliation. Calls to Razorpay lie outside every transaction;
their answers are arguments.
-/

namespace PrintForge

open Relational Concurrent JavaScript

def defaultCurrency : String := "INR"

def capturedEvent : String := "payment.captured"

def failedEvent : String := "payment.failed"

def refundProcessedEvent : String := "refund.processed"

def refundFailedEvent : String := "refund.failed"

/-! ## Shared helpers -/

section

variable {m : Type → Type} [Monad m] [MonadExceptOf ServiceError m] [PrismaClient m]

/-- Compare-and-swap of the order's status with its history row. There is no result when
the order was not in the status it had been read in. -/
def transitionOrder (order : Order) (target : OrderStatus) (changedByUserId : Option Nat)
    (note : String) : m (Option Order) := do
  if isTransitionAllowed order.status target = false then
    throw (.conflict s!"Illegal order transition {order.status} -> {target}")
  else
    let count ← execute (Db.orders.updateMany
      (fun o => o.id = order.id && o.status = order.status) (fun o => { o with status := target })
      (Order.key_setStatus target))
    if count ≠ 1 then
      return none
    else
      let _ ← execute (Db.orderStatusHistory.create fun id =>
        { id, orderId := order.id, fromStatus := some order.status, toStatus := target
          changedByUserId, note, tenantId := order.tenantId })
      return some { order with status := target }

end

/-- The event key is unique, so an event that is already there fails the transaction. -/
def insertOutboxEvent (eventType : OutboxEventType) (order : Order) : Transaction Unit := do
  let _ ← Db.outboxEvents.create fun id =>
    { id, aggregateId := order.id, eventKey := ⟨order.id, eventType⟩
      payload :=
        { orderId := order.id, orderNumber := order.orderNumber, userId := order.userId
          email := none, fromStatus := none
          toStatus := match eventType with
            | .orderPaid => none
            | .orderStatusChanged toStatus => some toStatus
          refundPending := false } }
  return ()

def findUniqueOrderOrThrow (orderId : Nat) : Service Order := do
  let found ← query (·.orders.get orderId)
  match found with
  | some order => return order
  | none => throw .recordNotFound

/-! ## Starting a payment -/

structure InitiatePaymentView where
  paymentAttemptId : Nat
  razorpayOrderId : String
  razorpayKeyId : String
  amountPaise : Int
  currency : String
deriving DecidableEq, Repr

/-- Only a failed call to the provider is translated. -/
def translateProviderError : ServiceError → ServiceError
  | .provider _ => .paymentProviderUnavailable
  | err => err

/-- A failed payment is put back to pending for a retry. -/
def reopenOrder (order : Order) (userId : Nat) : Service Order := do
  if order.status = .paymentFailed then
    let transitioned ← transitionOrder order .pendingPayment (some userId)
      "Customer retrying payment"
    match transitioned with
    | some reopened => return reopened
    | none => findUniqueOrderOrThrow order.id
  else
    return order

/-- Bind the order to the payment account of its store, once. Of two calls that race the
second takes the account the first has bound. -/
def bindPaymentAccount (order : Order) : Service (Order × ResolvedPaymentAccount) := do
  match order.paymentAccountId, order.storeId with
  | some paymentAccountId, _ =>
      let resolved ← resolveBoundAccountOrFail order.tenantId paymentAccountId
      return (order, resolved)
  | none, none => throw .merchantPaymentUnavailable
  | none, some storeId =>
      tryCatch (do
        let resolved ← resolveForStore order.tenantId storeId .razorpay
        let count ← execute (Db.orders.updateMany
          (fun o => o.id = order.id && o.paymentAccountId = none)
          fun o => { o with paymentAccountId := some resolved.paymentAccountId })
        if count = 1 then
          return ({ order with paymentAccountId := some resolved.paymentAccountId }, resolved)
        else
          let fresh ← findUniqueOrderOrThrow order.id
          match fresh.paymentAccountId with
          | none => throw (.other "paymentAccountId is null")
          | some bound =>
              let resolved ← resolveBoundAccountOrFail order.tenantId bound
              return ({ order with paymentAccountId := some bound }, resolved))
        fun
        | .paymentAccountResolution _ => throw .merchantPaymentUnavailable
        | err => throw err

/-- The Razorpay order to pay against, created on the first call and reused afterwards. -/
def associateRazorpayOrder (order : Order) (created : Except ServiceError String) :
    Service String := do
  match truthy order.razorpayOrderId with
  | some razorpayOrderId => return razorpayOrderId
  | none =>
      match created with
      | .error err => throw (translateProviderError err)
      | .ok providerOrderId =>
          let count ← execute (Db.orders.updateMany
            (fun o => o.id = order.id && o.razorpayOrderId = none)
            fun o => { o with razorpayOrderId := some providerOrderId })
          if count = 1 then
            return providerOrderId
          else
            let fresh ← findUniqueOrderOrThrow order.id
            match fresh.razorpayOrderId with
            | some razorpayOrderId => return razorpayOrderId
            | none => throw (.other "razorpayOrderId is null")

/-- `created` is Razorpay's answer, should this call have to create an order there. -/
def initiatePayment (gateway : Gateway) (userId orderId : Nat)
    (created : Except ServiceError String) : Service InitiatePaymentView := do
  let found ← query fun w => (w.orders.get orderId).filter (·.userId = userId)
  match found with
  | none => throw (.notFound "Order not found")
  | some found =>
      let order ← reopenOrder found userId
      if order.status ≠ .pendingPayment then
        throw (.conflict s!"Order is not payable in its current status ({order.status})")
      else
        let (order, resolvedAccount) ← bindPaymentAccount order
        let credentials ← getEncryptedCredentials order.tenantId resolvedAccount.paymentAccountId
        match credentials with
        | none => throw .merchantPaymentUnavailable
        | some encryptedCredentials =>
            let razorpayOrderId ← associateRazorpayOrder order created
            let amountPaise := decimalToPaise order.total
            let attempt ← execute (Db.paymentAttempts.create fun id =>
              { id, orderId := order.id, razorpayOrderId, razorpayPaymentId := none, amountPaise
                currency := order.currency, status := .initiated, failureCode := none
                failureReason := none, method := none, tenantId := order.tenantId
                paymentAccountId := some resolvedAccount.paymentAccountId })
            return {
              paymentAttemptId := attempt.id
              razorpayOrderId
              razorpayKeyId := gateway.publicKeyId encryptedCredentials
              amountPaise
              currency := order.currency }

/-! ## The customer's verify callback -/

structure VerifyPaymentDto where
  razorpayOrderId : String
  razorpayPaymentId : String
  razorpaySignature : String
deriving DecidableEq, Repr

structure VerifyPaymentView where
  orderId : Nat
  status : OrderStatus
deriving DecidableEq, Repr

/-- Capture the attempt and pay the order, which was read before the transaction began. -/
def captureAttempt (userId : Nat) (order : Order) (attempt : PaymentAttempt)
    (dto : VerifyPaymentDto) : Transaction VerifyPaymentView := do
  let count ← Db.paymentAttempts.updateMany
    (fun a => a.id = attempt.id && a.status ≠ .captured)
    fun a => { a with status := .captured, razorpayPaymentId := some dto.razorpayPaymentId }
  if count = 1 then
    let _ ← transitionOrder order .paid (some userId) "Payment verified (client callback)"
    insertOutboxEvent .orderPaid order
  let finalOrder ← query (·.orders.get order.id)
  match finalOrder with
  | some finalOrder => return ⟨finalOrder.id, finalOrder.status⟩
  | none => throw .recordNotFound

/-- The transaction of `verifyPayment`. `existingByPaymentId` was read before it began. -/
def capturePayment (userId : Nat) (order : Order) (existingByPaymentId : Option PaymentAttempt)
    (dto : VerifyPaymentDto) : Transaction VerifyPaymentView := do
  let open' ← query (·.paymentAttempts.findLast fun a =>
    a.orderId = order.id && a.razorpayOrderId = dto.razorpayOrderId && a.status = .initiated)
  match existingByPaymentId.or open' with
  | none => throw (.conflict "No pending payment attempt found for this order")
  | some attempt => captureAttempt userId order attempt dto

def verifyPayment (gateway : Gateway) (userId : Nat) (dto : VerifyPaymentDto) :
    Service VerifyPaymentView := do
  let found ← query fun w => (w.orders.findFirst fun o =>
    o.razorpayOrderId = some dto.razorpayOrderId).filter (·.userId = userId)
  match found with
  | none => throw (.notFound "Order not found for this payment")
  | some order =>
      match order.paymentAccountId with
      | none => throw .merchantPaymentUnavailable
      | some paymentAccountId =>
          let resolvedAccount ← resolveBoundAccountOrFail order.tenantId paymentAccountId
          let credentials ← getEncryptedCredentials order.tenantId
            resolvedAccount.paymentAccountId
          match credentials with
          | none => throw .merchantPaymentUnavailable
          | some encryptedCredentials =>
              if gateway.paymentSignatureValid encryptedCredentials dto.razorpayOrderId
                  dto.razorpayPaymentId dto.razorpaySignature = false then
                throw (.badRequest "Invalid payment signature")
              else
                let existingByPaymentId ← query (·.paymentAttempts.findFirst fun a =>
                  a.razorpayPaymentId = some dto.razorpayPaymentId)
                if existingByPaymentId.any (·.status = .captured) then
                  let current ← findUniqueOrderOrThrow order.id
                  return ⟨current.id, current.status⟩
                else
                  tryCatch
                    (Proc.transact (.verifyPayment order existingByPaymentId dto.razorpayPaymentId)
                      (capturePayment userId order existingByPaymentId dto))
                    fun err => do
                      if err.isUniqueConstraintViolation then
                        let current ← findUniqueOrderOrThrow order.id
                        return ⟨current.id, current.status⟩
                      else
                        throw err

/-! ## Applying webhook events -/

inductive WebhookOutcome where
  | processed
  | ignored
deriving DecidableEq, Repr

/-- `BigInt(amount)`. -/
def bigInt {m : Type → Type} [Monad m] [MonadExceptOf ServiceError m] (amount : Option Int) :
    m Int :=
  match amount with
  | some n => return n
  | none => throw (.malformed "Cannot convert amount to a BigInt")

/-- The attempt of a payment: the one that carries its id, else the newest open attempt for
the same Razorpay order, else a new one. `paymentAccountId` is stamped on a new one. -/
def findOrCreateAttemptFor (paymentAccountId : Option Nat) (order : Order)
    (paymentEntity : RazorpayPaymentEntity) : Transaction PaymentAttempt := do
  let byPaymentId ← query (·.paymentAttempts.findFirst fun a =>
    a.razorpayPaymentId = some paymentEntity.id)
  match byPaymentId with
  | some attempt => return attempt
  | none =>
      let byOrder ← query (·.paymentAttempts.findLast fun a =>
        a.orderId = order.id && a.razorpayOrderId = paymentEntity.orderId &&
          a.status = .initiated)
      match byOrder with
      | some attempt =>
          Db.paymentAttempts.update attempt.id fun a =>
            { a with razorpayPaymentId := some paymentEntity.id }
      | none =>
          let amountPaise ← bigInt paymentEntity.amount
          Db.paymentAttempts.create fun id =>
            { id, orderId := order.id, razorpayOrderId := paymentEntity.orderId
              razorpayPaymentId := some paymentEntity.id, amountPaise
              currency := defaultCurrency, status := .initiated, failureCode := none
              failureReason := none, method := none, tenantId := order.tenantId
              paymentAccountId }

def findOrCreateAttempt (order : Order) (paymentEntity : RazorpayPaymentEntity) :
    Transaction PaymentAttempt :=
  findOrCreateAttemptFor none order paymentEntity

def findOrCreateMerchantAttempt (order : Order) (paymentEntity : RazorpayPaymentEntity)
    (paymentAccountId : Nat) : Transaction PaymentAttempt :=
  findOrCreateAttemptFor (some paymentAccountId) order paymentEntity

structure CapturedPayment where
  razorpayOrderId : String
  amountPaise : Int
  currency : String
deriving DecidableEq, Repr

/-- Why a captured payment does not match the order it is claimed against, if it does not. -/
def capturedPaymentMismatch (order : Order) (captured : CapturedPayment) :
    Option ServiceError :=
  let expectedCurrency := (truthy (some order.currency)).getD defaultCurrency
  let expectedPaise := decimalToPaise order.total
  match (truthy order.razorpayOrderId).filter (captured.razorpayOrderId ≠ ·) with
  | some expected =>
      some (.paymentMismatch .razorpayOrderIdMismatch
        s!"expected {expected}, got {captured.razorpayOrderId}")
  | none =>
      if captured.currency ≠ expectedCurrency then
        some (.paymentMismatch .currencyMismatch
          s!"expected {expectedCurrency}, got {captured.currency}")
      else if captured.amountPaise ≠ expectedPaise then
        some (.paymentMismatch .amountMismatch
          s!"expected {expectedPaise} paise, got {captured.amountPaise} paise")
      else
        none

def assertCapturedPaymentMatchesOrder (order : Order) (captured : CapturedPayment) :
    Transaction Unit :=
  match capturedPaymentMismatch order captured with
  | some err => throw err
  | none => return ()

/-- Record a capture. An order that is no longer pending is left as it is. -/
def applyCaptured (order : Order) (attempt : PaymentAttempt)
    (paymentEntity : RazorpayPaymentEntity) : Transaction Unit := do
  let amountPaise ← bigInt paymentEntity.amount
  assertCapturedPaymentMatchesOrder order
    { razorpayOrderId := paymentEntity.orderId, amountPaise
      currency := paymentEntity.currency.getD defaultCurrency }
  let count ← Db.paymentAttempts.updateMany
    (fun a => a.id = attempt.id && a.status ≠ .captured)
    fun a => { a with
      status := .captured
      razorpayPaymentId := some paymentEntity.id
      method := paymentEntity.method.or a.method }
  if count ≠ 1 then
    return ()
  else if isTransitionAllowed order.status .paid = false then
    return ()
  else
    let transitioned ← transitionOrder order .paid none "Payment captured (webhook)"
    if transitioned.isSome then
      insertOutboxEvent .orderPaid order

def applyFailed (order : Order) (attempt : PaymentAttempt)
    (paymentEntity : RazorpayPaymentEntity) : Transaction Unit := do
  let count ← Db.paymentAttempts.updateMany
    (fun a => a.id = attempt.id && a.status ≠ .captured && a.status ≠ .failed)
    fun a => { a with
      status := .failed
      razorpayPaymentId := some paymentEntity.id
      failureCode := paymentEntity.errorCode
      failureReason := paymentEntity.errorDescription
      method := paymentEntity.method.or a.method }
  if count ≠ 1 then
    return ()
  else
    let transitioned ← transitionOrder order .paymentFailed none "Payment failed (webhook)"
    if transitioned.isSome then
      insertOutboxEvent (.orderStatusChanged .paymentFailed) order

/-- The last part of both webhook paths. -/
def applyPaymentEvent (event : String) (order : Order) (attempt : PaymentAttempt)
    (paymentEntity : RazorpayPaymentEntity) : Transaction WebhookOutcome := do
  if event = capturedEvent then
    applyCaptured order attempt paymentEntity
  else
    applyFailed order attempt paymentEntity
  return .processed

/-- The payment a payload is about, when its event is one the service acts on. -/
def paymentOf (payload : RazorpayWebhookPayload) : Option RazorpayPaymentEntity :=
  payload.payment.filter fun _ => payload.event = capturedEvent || payload.event = failedEvent

def applyWebhookEvent (payload : RazorpayWebhookPayload) : Transaction WebhookOutcome := do
  match paymentOf payload with
  | none => return .ignored
  | some paymentEntity =>
      let found ← query (·.orders.findFirst fun o =>
        o.razorpayOrderId = some paymentEntity.orderId)
      match found with
      | none => return .ignored
      | some order =>
          let attempt ← findOrCreateAttempt order paymentEntity
          applyPaymentEvent payload.event order attempt paymentEntity

def applyRefundWebhookEvent (paymentAccountId : Nat) (payload : RazorpayWebhookPayload) :
    Transaction WebhookOutcome := do
  match payload.refund with
  | none => return .ignored
  | some refundEntity =>
      let found ← query (·.refunds.findFirst fun r =>
        r.razorpayRefundId = some refundEntity.id)
      match found with
      | none => throw (.unresolvedRefundWebhook refundEntity.id)
      | some refund =>
          if refund.paymentAccountId ≠ some paymentAccountId then
            return .ignored
          else if payload.event = refundFailedEvent then
            let _ ← Db.refunds.updateMany (fun r => r.id = refund.id && r.status = .pending)
              fun r => { r with
                status := .failed
                failureReason := some (refundEntity.errorDescription.getD "Refund failed") }
            return .processed
          else
            let reportedAmount ← bigInt refundEntity.amount
            if reportedAmount ≠ refund.amountPaise then
              throw (.paymentMismatch .amountMismatch
                s!"refund {refund.id}: expected {refund.amountPaise} paise, got {reportedAmount} paise")
            else
              let _ ← Db.refunds.updateMany (fun r => r.id = refund.id && r.status = .pending)
                (fun r => { r with status := .processed }) (Refund.key_setStatus .processed)
              return .processed

/-- An event of the account-aware route acts only on an order bound to that account. -/
def applyMerchantWebhookEvent (paymentAccountId : Nat) (payload : RazorpayWebhookPayload) :
    Transaction WebhookOutcome := do
  if payload.event = refundProcessedEvent ∨ payload.event = refundFailedEvent then
    applyRefundWebhookEvent paymentAccountId payload
  else
    match paymentOf payload with
    | none => return .ignored
    | some paymentEntity =>
        let found ← query (·.orders.findFirst fun o =>
          o.razorpayOrderId = some paymentEntity.orderId)
        match found with
        | none => return .ignored
        | some order =>
            if order.paymentAccountId ≠ some paymentAccountId then
              return .ignored
            else
              let resolved ← tryCatch
                (do
                  let _ ← resolveForBoundAccount order.tenantId paymentAccountId
                  return true)
                fun
                | .paymentAccountResolution _ => return false
                | err => throw err
              if resolved then
                let attempt ← findOrCreateMerchantAttempt order paymentEntity paymentAccountId
                applyPaymentEvent payload.event order attempt paymentEntity
              else
                return .ignored

/-! ## Reconciliation -/

/-- A payment as Razorpay reports it to reconciliation. -/
structure RazorpayOrderPayment where
  id : String
  razorpayOrderId : String
  amountPaise : Int
  currency : String
  status : String
  captured : Bool
  method : Option String
deriving DecidableEq, Repr

inductive ReconcileCaptureResult where
  | paid
  | alreadyTerminal
  | mismatch
deriving DecidableEq, Repr

/-- The status of an order that is still pending, read under its row lock. -/
def lockPending (orderId : Nat) : Transaction Bool :=
  query fun w => (w.orders.get orderId).any (·.status = .pendingPayment)

def hasCaptured (orderId : Nat) : Transaction Bool :=
  query fun w => (w.paymentAttempts.findFirst fun a =>
    a.orderId = orderId && a.status = .captured).isSome

/-- The newest attempt of the order that carries the payment id or is still open for its
Razorpay order, else a new one. -/
def findOrCreateReconciledAttempt (order : Order) (captured : RazorpayOrderPayment) :
    Transaction Nat := do
  let existing ← query (·.paymentAttempts.findLast fun a =>
    a.orderId = order.id && (a.razorpayPaymentId = some captured.id ||
      order.razorpayOrderId.all (a.razorpayOrderId = ·) && a.status = .initiated))
  match existing with
  | some attempt => return attempt.id
  | none =>
      let attempt ← Db.paymentAttempts.create fun id =>
        { id, orderId := order.id
          razorpayOrderId := order.razorpayOrderId.getD captured.razorpayOrderId
          razorpayPaymentId := none, amountPaise := captured.amountPaise
          currency := captured.currency, status := .initiated, failureCode := none
          failureReason := none, method := none, tenantId := order.tenantId
          paymentAccountId := none }
      return attempt.id

def captureReconciled (order : Order) (captured : RazorpayOrderPayment) (attemptId : Nat) :
    Transaction ReconcileCaptureResult := do
  let count ← Db.paymentAttempts.updateMany
    (fun a => a.id = attemptId && a.status ≠ .captured)
    fun a => { a with
      status := .captured
      razorpayPaymentId := some captured.id
      method := captured.method }
  if count ≠ 1 then
    return .alreadyTerminal
  else
    let transitioned ← transitionOrder { order with status := .pendingPayment } .paid none
      "Payment captured (reconciliation)"
    if transitioned.isSome then
      insertOutboxEvent .orderPaid order
    return .paid

/-- The transaction of `reconcileCapturedPayment`. -/
def recordReconciled (order : Order) (captured : RazorpayOrderPayment) :
    Transaction ReconcileCaptureResult := do
  let isPending ← lockPending order.id
  if isPending = false then
    return .alreadyTerminal
  else
    let alreadyCaptured ← hasCaptured order.id
    if alreadyCaptured then
      return .alreadyTerminal
    else
      let attemptId ← findOrCreateReconciledAttempt order captured
      captureReconciled order captured attemptId

/-- `order` was read by the cron before it asked Razorpay for the payments of the order. -/
def reconcileCapturedPayment (order : Order) (captured : RazorpayOrderPayment) :
    Service ReconcileCaptureResult := do
  match capturedPaymentMismatch order
      ⟨captured.razorpayOrderId, captured.amountPaise, captured.currency⟩ with
  | some _ => return .mismatch
  | none =>
      tryCatch
        (Proc.transact (.reconcileCapturedPayment order) (recordReconciled order captured))
        fun err =>
          if err.isUniqueConstraintViolation then return .alreadyTerminal else throw err

/-- The transaction of `failStalePendingOrder`. -/
def expirePendingOrder (order : Order) : Transaction Bool := do
  let isPending ← lockPending order.id
  if isPending = false then
    return false
  else
    let captured ← hasCaptured order.id
    if captured then
      return false
    else
      let _ ← Db.paymentAttempts.updateMany
        (fun a => a.orderId = order.id && a.status = .initiated)
        fun a => { a with status := .abandoned }
      let transitioned ← transitionOrder { order with status := .pendingPayment } .paymentFailed
        none "Payment not completed — order expired by reconciliation (no captured Razorpay payment)"
      if transitioned.isSome then
        insertOutboxEvent (.orderStatusChanged .paymentFailed) order
      return transitioned.isSome

def failStalePendingOrder (order : Order) : Service Bool :=
  tryCatch (Proc.transact (.failStalePendingOrder order) (expirePendingOrder order)) fun err =>
    if err.isUniqueConstraintViolation then return false else throw err

def failStaleAfterMinutes : Nat := 180

def maybeFailStale (order : Order) (ageMinutes : Nat) : Service Unit := do
  if ageMinutes < failStaleAfterMinutes then
    return ()
  else
    let _ ← failStalePendingOrder order
    return ()

/-- The reconciliation of one order the cron has selected: pending, with a Razorpay order
and without a captured attempt. `payments` is what Razorpay answers, if it does. -/
def reconcileOne (orderId ageMinutes : Nat) (payments : Option (List RazorpayOrderPayment)) :
    Service Unit := do
  let candidate ← query fun w => (w.orders.get orderId).filter fun o =>
    o.status = .pendingPayment && o.razorpayOrderId.isSome &&
      (w.paymentAttempts.findFirst fun a => a.orderId = orderId && a.status = .captured).isNone
  match candidate.filter (truthy ·.razorpayOrderId |>.isSome), payments with
  | some order, some payments =>
      match payments.find? fun p => p.status = "captured" || p.captured with
      | some captured =>
          let _ ← reconcileCapturedPayment order captured
          return ()
      | none =>
          if payments.any fun p => p.status = "authorized" && !p.captured then
            return ()
          else
            maybeFailStale order ageMinutes
  | _, _ => return ()

/-- The expiry of one order that never reached Razorpay. -/
def failStaleOrderWithoutRazorpayOrder (orderId ageMinutes : Nat) : Service Unit := do
  let candidate ← query fun w => (w.orders.get orderId).filter fun o =>
    o.status = .pendingPayment && o.razorpayOrderId.isNone
  match candidate with
  | some order => maybeFailStale order ageMinutes
  | none => return ()

end PrintForge
