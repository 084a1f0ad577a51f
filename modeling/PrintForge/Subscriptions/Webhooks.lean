import PrintForge.Subscriptions.Service

/-!
# Billing webhooks

A stored delivery is applied in one transaction together with its new status; when the
transaction fails, a second write records why. The delivery is dropped as stale when the instant
it names is not later than the clock of the subscription's row.
-/

namespace PrintForge.Subscriptions

open Relational Concurrent JavaScript

def maxAttempts : Nat := 6

def backoffMs : List Int := [30000, 120000, 600000, 1800000, 3600000, 7200000]

structure BillingWebhookEnvelope where
  providerSubscriptionId : Option String
  providerCustomerId : Option String
  occurredAt : Option String
  currentPeriodStart : Option String
  currentPeriodEnd : Option String
deriving DecidableEq, Repr

def JsonValue.asString : JsonValue → Option String
  | string s => some s
  | other => none

/-- A value that is no object has no fields. -/
def extractEnvelope (payload : Option (List (String × JsonValue))) : BillingWebhookEnvelope :=
  let field (name : String) := ((payload.getD []).lookup name).bind JsonValue.asString
  { providerSubscriptionId := field "providerSubscriptionId"
    providerCustomerId := field "providerCustomerId"
    occurredAt := field "occurredAt"
    currentPeriodStart := field "currentPeriodStart"
    currentPeriodEnd := field "currentPeriodEnd" }

def renewalEventType : String := "renewed"

/-- The event under its row lock, unless it has been dealt with. -/
def lockedEvent (id : Nat) (w : World) : Option BillingWebhookEvent :=
  (w.billingWebhookEvents.get id).filter fun e =>
    e.status = .received || e.status = .processingFailed

/-- The subscription a delivery is about, by the provider's name for it or else for its
customer. -/
def resolveSubscription (envelope : BillingWebhookEnvelope) (w : World) : Option Subscription :=
  let named := (truthy envelope.providerSubscriptionId).bind fun id =>
    findSubscriptionByProviderSubscriptionId id w
  named.or ((truthy envelope.providerCustomerId).bind fun id =>
    findSubscriptionByProviderCustomerId id w)

section Dates

-- the value of `new Date(s)`, none where it is invalid
variable (parseDate : String → Option Int)

/-- The instant of a delivery; without a name of its own, the instant it was stored. -/
def eventTimestamp (envelope : BillingWebhookEnvelope) (createdAt : Int) : Option Int :=
  match truthy envelope.occurredAt with
  | some occurredAt => parseDate occurredAt
  | none => some createdAt

/-- A comparison with an invalid date is false. -/
def isStale (timestamp : Option Int) (subscription : Subscription) : Bool :=
  timestamp.any (· ≤ subscription.updatedAt.getD 0)

/-- The period of a renewal, where both bounds are named. -/
def renewalPeriod (normalized : NormalizedBillingEvent) (envelope : BillingWebhookEnvelope) :
    Option Period :=
  if normalized.type = renewalEventType then
    match truthy envelope.currentPeriodStart, truthy envelope.currentPeriodEnd with
    | some periodStart, some periodEnd => some ⟨parseDate periodStart, parseDate periodEnd⟩
    | _, _ => none
  else none

/-- A renewal of a subscription whose payment was overdue is a recovery. -/
def applyEvent (normalized : NormalizedBillingEvent) (subscription : Subscription) :
    Transaction TransitionResult :=
  match renewalPeriod parseDate normalized (extractEnvelope normalized.payload) with
  | some period =>
      if subscription.status = .pastDue then
        (recoverPayment (some normalized.providerEventId)).apply subscription
      else
        (confirmRenewal period (some normalized.providerEventId)).apply subscription
  | none => applyBillingWebhookEvent subscription normalized

/-- The status a dealt-with delivery is left in. -/
def closeEvent (id : Nat) (status : BillingWebhookEventStatus) (lastError : Option String) :
    Transaction Unit := do
  let now ← Tx.read World.now
  let _ ← Db.billingWebhookEvents.update id fun e => { e with
    status
    lastError := lastError.or e.lastError
    processedAt := some now }
  return ()

/-- What is done with a delivery once its subscription is known. -/
def applyLocked (locked : BillingWebhookEvent) (subscription : Subscription) :
    Transaction Unit :=
  if isStale (eventTimestamp parseDate (extractEnvelope locked.payload.payload) locked.createdAt)
      subscription then
    closeEvent locked.id .ignored
      (some "stale: event timestamp not newer than current subscription state")
  else do
    let _ ← applyEvent parseDate locked.payload subscription
    closeEvent locked.id .processed none

/-- The transaction of `processOne`. -/
def processEvent (id : Nat) : Transaction Unit := do
  let locked ← Tx.read (lockedEvent id)
  match locked with
  | none => return ()
  | some locked => do
      let subscription ← Tx.read (resolveSubscription (extractEnvelope locked.payload.payload))
      match subscription with
      | none =>
          closeEvent locked.id .ignored
            (some "no matching local subscription for providerSubscriptionId/providerCustomerId")
      | some subscription => applyLocked parseDate locked subscription

end Dates

/-- A failed update is only logged. -/
def safeUpdate (id : Nat) (data : Int → BillingWebhookEvent → BillingWebhookEvent)
    (hdata : ∀ now e, (data now e).id = e.id := by intros; rfl) : Service Unit :=
  tryCatch
    (do
      let _ ← Proc.transact (.settleBillingWebhook id) (do
        let now ← Tx.read World.now
        Db.billingWebhookEvents.update id (data now) (hdata now))
      return ())
    fun _ => return ()

def isConflict : HttpError → Bool
  | .conflict _ => true
  | _ => false

def backoff (attempts : Nat) : Int :=
  backoffMs.getD (min (attempts - 1) (backoffMs.length - 1)) 0

/-- What is recorded after a failure: a conflict is final, any other error is until it has come
up too often. -/
def recordFailure (id attempts : Nat) (err : HttpError) : Service Unit :=
  if isConflict err || maxAttempts ≤ attempts + 1 then
    safeUpdate id fun now e => { e with
      status := .failed
      attempts := attempts + 1
      lastError := some err.message
      processedAt := some now }
  else
    safeUpdate id fun now e => { e with
      status := .processingFailed
      attempts := attempts + 1
      lastError := some err.message
      availableAt := now + backoff (attempts + 1) }

/-- `attempts` is set inside the transaction and survives its rollback. -/
def processOne (parseDate : String → Option Int) (id : Nat) : Service Unit := do
  let (attempts, result) ← Proc.attempt (.processBillingWebhook id)
    (fun w => ((lockedEvent id w).map (·.attempts)).getD 0) (processEvent parseDate id)
  match result with
  | .ok () => return ()
  | .error err => recordFailure id attempts err

end PrintForge.Subscriptions
