import PrintForge.Payments.Accounts

/-!
# Refunds

A refund is reserved in a transaction, checked against what the captured payment has
left, and only then asked of Razorpay, outside any transaction. Whatever the answer, one
more write settles the reserved row.
-/

namespace PrintForge

open Relational Concurrent JavaScript

/-- `amountPaise` is absent for a full refund; it is `some none` when it does not parse. -/
structure CreateRefundDto where
  amountPaise : Option (Option Int)
  reason : Option String
deriving DecidableEq, Repr

structure RefundView where
  id : Nat
  amountPaise : Int
  status : RefundStatus
  reason : Option String
deriving DecidableEq, Repr

def toView (refund : Refund) : RefundView :=
  ⟨refund.id, refund.amountPaise, refund.status, refund.reason⟩

/-- The statuses that take up part of the captured amount. -/
def reservingStatuses : List RefundStatus := [.pending, .processed]

def Refund.isReserving (refund : Refund) : Bool := refund.status ∈ reservingStatuses

/-- What the refunds of an attempt take up already. -/
def alreadyReserved (w : World) (paymentAttemptId : Nat) : Int :=
  ((w.refunds.findMany fun r => r.paymentAttemptId = paymentAttemptId && r.isReserving).map
    (·.amountPaise)).sum

def resolveRequestedAmount (amountPaiseInput : Option (Option Int)) (capturedAmountPaise : Int) :
    Transaction Int :=
  match amountPaiseInput with
  | none => return capturedAmountPaise
  | some none => throw (.badRequest "amountPaise must be a valid integer")
  | some (some amountPaise) => return amountPaise

/-- The first phase of `createRefund`. `request` is the number of the request that asks. -/
def reserveRefund (request tenantId paymentAttemptId : Nat) (dto : CreateRefundDto) :
    Transaction (Refund × String × Nat) := do
  let found ← query fun w =>
    (w.paymentAttempts.get paymentAttemptId).filter (·.tenantId = tenantId)
  match found with
  | none => throw (.notFound "Not Found")
  | some attempt =>
      if attempt.status ≠ .captured then
        throw (.conflict s!"Payment attempt is not in a refundable state ({attempt.status})")
      else
        match truthy attempt.razorpayPaymentId, attempt.paymentAccountId with
        | none, _ => throw (.conflict "Payment attempt has no provider payment id to refund")
        | some _, none => throw .merchantPaymentUnavailable
        | some razorpayPaymentId, some paymentAccountId =>
            let amountPaise ← resolveRequestedAmount dto.amountPaise attempt.amountPaise
            if amountPaise ≤ 0 then
              throw (.badRequest "Refund amount must be positive")
            else
              let reserved ← query (alreadyReserved · paymentAttemptId)
              let remaining := attempt.amountPaise - reserved
              if amountPaise > remaining then
                throw (.conflict
                  s!"Refund amount exceeds refundable balance ({remaining} paise remaining)")
              else
                let created ← Db.refunds.create fun id =>
                  { id, paymentAttemptId, razorpayRefundId := none, amountPaise
                    status := .pending, reason := dto.reason, failureReason := none
                    tenantId := attempt.tenantId, paymentAccountId := some paymentAccountId }
                modify fun w => { w with reservedBy := w.reservedBy ++ [(created.id, request)] }
                return (created, razorpayPaymentId, paymentAccountId)

/-- A refund that is still pending becomes failed; any other is left as it is. -/
def markFailed (refundId : Nat) (failureReason : String) (razorpayRefundId : Option String) :
    Service Refund := do
  let _ ← execute (Db.refunds.updateMany (fun r => r.id = refundId && r.status = .pending)
    fun r => { r with
      status := .failed
      failureReason := some failureReason
      razorpayRefundId := (truthy razorpayRefundId).or r.razorpayRefundId })
  let found ← query (·.refunds.get refundId)
  match found with
  | some refund => return refund
  | none => throw .recordNotFound

/-- Razorpay books the refund if it accepts it, and the caller hears the reply. -/
def bookProviderRefund (refund : Refund) (providerPaymentId : String)
    (answer : ProviderRefundAnswer) : Transaction (Except ServiceError MerchantRefundResult) := do
  match answer.accepted with
  | some id =>
      modify fun w => { w with
        providerRefunds := w.providerRefunds ++
          [{ refundId := refund.id, razorpayRefundId := id
             razorpayPaymentId := providerPaymentId, amountPaise := refund.amountPaise
             standing := true }] }
  | none => pure ()
  return answer.reply

/-- The write after a reply that does not report a failure. -/
def settleRefund (refundId : Nat) (result : MerchantRefundResult) : Service Refund := do
  let _ ← execute (Db.refunds.updateMany (fun r => r.id = refundId && r.status = .pending)
    fun r => { r with
      status := if result.status = "processed" then .processed else r.status
      razorpayRefundId := some result.providerRefundId })
  let found ← query (·.refunds.get refundId)
  match found with
  | some refund => return refund
  | none => throw .recordNotFound

def callProviderAndSettle (tenantId : Nat) (refund : Refund) (providerPaymentId : String)
    (paymentAccountId : Nat) (answer : ProviderRefundAnswer) : Service RefundView := do
  let resolved ← tryCatch (resolveForBoundAccount tenantId paymentAccountId) fun err => do
    let _ ← markFailed refund.id "Merchant payment account unavailable" none
    match err with
    | .paymentAccountResolution _ => throw .merchantPaymentUnavailable
    | err => throw err
  let encryptedCredentials ← getEncryptedCredentials tenantId resolved.paymentAccountId
  match encryptedCredentials with
  | none =>
      let _ ← markFailed refund.id "Merchant payment account has no credentials configured" none
      throw .merchantPaymentUnavailable
  | some _ =>
      let reply ← Proc.transact (.callProvider refund.id answer)
        (bookProviderRefund refund providerPaymentId answer)
      match reply with
      | .error err =>
          let _ ← markFailed refund.id "Provider refund call failed" none
          match err with
          | .provider _ => throw .paymentProviderUnavailable
          | err => throw err
      | .ok result =>
          if result.status = "failed" then
            let failed ← markFailed refund.id "Provider reported the refund as failed"
              (some result.providerRefundId)
            return toView failed
          else
            let settled ← settleRefund refund.id result
            return toView settled

def createRefund (request tenantId paymentAttemptId : Nat) (dto : CreateRefundDto)
    (answer : ProviderRefundAnswer) : Service RefundView := do
  let (refund, razorpayPaymentId, paymentAccountId) ←
    Proc.transact (.createRefund paymentAttemptId)
      (reserveRefund request tenantId paymentAttemptId dto)
  callProviderAndSettle tenantId refund razorpayPaymentId paymentAccountId answer

end PrintForge
