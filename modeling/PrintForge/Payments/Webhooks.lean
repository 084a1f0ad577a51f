import PrintForge.Payments.Service

/-!
# Webhook events

A delivery is stored once per event id. The processor applies a stored event in one
transaction together with its new status; when the transaction fails, a second write
records why. A unique violation counts as a race that another writer has won.
-/

namespace PrintForge

open Relational Concurrent JavaScript

def extractWebhookEventId (headerId : Option String) (payload : RazorpayWebhookPayload)
    (fallbackScope : Option String) : String :=
  match truthy (headerId.map trim) with
  | some id => id
  | none =>
      let paymentId := (payload.payment.map (·.id)).getD "unknown"
      let createdAt := (payload.createdAt.map toString).getD ""
      let scope := ((truthy fallbackScope).map (· ++ ":")).getD ""
      s!"{scope}{payload.event}:{paymentId}:{createdAt}"

/-- Store a delivery unless its event id is already there. -/
def insertWebhookEvent (razorpayEventId : String) (payload : RazorpayWebhookPayload)
    (paymentAccountId : Option Nat) (now : Nat) : Transaction Unit := do
  let _ ← Db.webhookEvents.createOrIgnore fun id =>
    { id, razorpayEventId, payload, status := .received, paymentAccountId, attempts := 0
      availableAt := now, lastError := none }
  return ()

def receiveWebhook (gateway : Gateway) (rawBody signature : String)
    (headerEventId : Option String) (now : Nat) : Service Unit := do
  if gateway.globalWebhookSignatureValid rawBody signature = false then
    throw (.badRequest "Invalid webhook signature")
  else
    match gateway.parse rawBody with
    | none => throw (.badRequest "Malformed webhook payload")
    | some payload =>
        let razorpayEventId := extractWebhookEventId headerEventId payload none
        execute (insertWebhookEvent razorpayEventId payload none now)

def receiveMerchantWebhook (gateway : Gateway) (paymentAccountId : Nat)
    (rawBody signature : String) (headerEventId : Option String) (now : Nat) :
    Service Unit := do
  let (resolved, tenantId) ← tryCatch (resolveForWebhook paymentAccountId) fun
    | .paymentAccountResolution _ => throw (.badRequest "Invalid webhook signature")
    | err => throw err
  let encryptedCredentials ← getEncryptedCredentials tenantId resolved.paymentAccountId
  let signatureValid := encryptedCredentials.any fun credentials =>
    gateway.webhookSignatureValid credentials rawBody signature
  if signatureValid = false then
    throw (.badRequest "Invalid webhook signature")
  else
    match gateway.parse rawBody with
    | none => throw (.badRequest "Malformed webhook payload")
    | some payload =>
        let razorpayEventId := extractWebhookEventId headerEventId payload
          (some (toString resolved.paymentAccountId))
        execute (insertWebhookEvent razorpayEventId payload (some resolved.paymentAccountId) now)

def maxAttempts : Nat := 6

def backoffMs : List Nat := [30000, 120000, 600000, 1800000, 3600000, 7200000]

/-- The event under its row lock, unless it has been dealt with. -/
def lockedEvent (id : Nat) (w : World) : Option WebhookEvent :=
  (w.webhookEvents.get id).filter fun e => e.status = .received || e.status = .processingFailed

/-- An event that came in for an account takes the account-aware route. -/
def applyStoredEvent (event : WebhookEvent) : Transaction WebhookOutcome :=
  match event.paymentAccountId with
  | some paymentAccountId => applyMerchantWebhookEvent paymentAccountId event.payload
  | none => applyWebhookEvent event.payload

/-- The status an outcome leaves on the stored event. -/
def WebhookOutcome.status : WebhookOutcome → WebhookEventStatus
  | .processed => .processed
  | .ignored => .ignored

/-- The transaction of `processOne`. -/
def processEvent (id : Nat) : Transaction Unit := do
  let locked ← query (lockedEvent id)
  match locked with
  | none => return ()
  | some locked =>
      let outcome ← applyStoredEvent locked
      let _ ← Db.webhookEvents.update locked.id fun e => { e with status := outcome.status }
      return ()

/-- A failed update is only logged. -/
def safeUpdate (id : Nat) (data : WebhookEvent → WebhookEvent)
    (hdata : ∀ e, (data e).id = e.id := by intro; rfl) : Service Unit :=
  tryCatch
    (do
      let _ ← execute (Db.webhookEvents.update id data hdata)
      return ())
    fun _ => return ()

/-- `attempts` is set inside the transaction and survives its rollback. -/
def processOne (id now : Nat) : Service Unit := do
  let (attempts, result) ← Proc.attempt (.processWebhook id)
    (fun w => ((lockedEvent id w).map (·.attempts)).getD 0) (processEvent id)
  match result with
  | .ok () => return ()
  | .error err =>
      if err.isUniqueConstraintViolation then
        safeUpdate id fun e => { e with status := .processed }
      else
        let nextAttempts := attempts + 1
        match err with
        | .paymentMismatch _ _ =>
            safeUpdate id fun e => { e with
              status := .failed
              attempts := nextAttempts
              lastError := some err.message }
        | _ =>
            if maxAttempts ≤ nextAttempts then
              safeUpdate id fun e => { e with
                status := .failed
                attempts := nextAttempts
                lastError := some err.message }
            else
              let delay := backoffMs.getD (min (nextAttempts - 1) (backoffMs.length - 1)) 0
              safeUpdate id fun e => { e with
                status := .processingFailed
                attempts := nextAttempts
                lastError := some err.message
                availableAt := now + delay }

end PrintForge
