import PrintForge.Subscriptions.Schema

/-!
# The subscription service

Every change of a subscription has one shape: nothing where the target state holds already, a
conflict where the change is not allowed, and otherwise an update on the condition that the row
is still as it was read, followed by an event. An update that finds the row changed is no
error. `Transition` holds what the methods differ in.
-/

namespace PrintForge.Subscriptions

open Relational Concurrent JavaScript

structure TransitionResult where
  applied : Bool
  subscription : Subscription
  eventType : Option SubscriptionEventType
deriving DecidableEq, Repr

/-- What a method says in the event it writes. -/
structure EventData where
  type : SubscriptionEventType
  toStatus : SubscriptionStatus
  fromPlanId : Option String := none
  toPlanId : Option String := none
  providerEventId : Option String := none
  metadata : EventMetadata := {}

/-- One method of the service. `unchanged` compares further columns of the row found with those
of the row read, and `write` rewrites the row found. The identity of a row is not a method's to
change, and its clock is set by all of them alike. -/
structure Transition where
  method : Method
  reached : Subscription → Bool
  check : Subscription → Option HttpError
  unchanged : Subscription → Subscription → Bool := fun _ _ => true
  write : Int → Subscription → Subscription → Subscription
  event : Subscription → EventData
  write_identity : ∀ now read r, (write now read r).toIdentity = r.toIdentity := by intros; rfl
  unchanged_self : ∀ r, unchanged r r = true := by intro; simp

namespace Transition

variable (t : Transition)

/-- The row as the update leaves it. -/
def row (now : Int) (read r : Subscription) : Subscription :=
  { t.write now read r with updatedAt := some now }

@[simp] theorem row_identity (now : Int) (read r : Subscription) :
    (t.row now read r).toIdentity = r.toIdentity := t.write_identity now read r

@[simp] theorem row_updatedAt (now : Int) (read r : Subscription) :
    (t.row now read r).updatedAt = some now := rfl

theorem row_key (now : Int) (read r : Subscription) :
    Schema.key (t.row now read r) = Schema.key r :=
  congrArg Identity.id (t.row_identity now read r)

/-- The rows the update is for. -/
def finds (read r : Subscription) : Bool :=
  r.id = read.id && r.status = read.status && t.unchanged read r

def compareAndSwap (read : Subscription) : Transaction Nat := do
  let now ← Tx.read World.now
  Db.subscriptions.updateMany (t.finds read) (t.row now read) (t.row_key now read)

/-- The event that is written. -/
def entry (read : Subscription) (id : Nat) : SubscriptionEvent where
  id := id
  subscriptionId := read.id
  tenantId := read.tenantId
  type := (t.event read).type
  fromStatus := some read.status
  toStatus := (t.event read).toStatus
  fromPlanId := (t.event read).fromPlanId
  toPlanId := (t.event read).toPlanId
  providerEventId := (t.event read).providerEventId
  metadata := (t.event read).metadata

def record (read : Subscription) : Transaction SubscriptionEvent :=
  Db.subscriptionEvents.create (t.entry read)

end Transition

section Methods

variable {m : Type → Type} [Monad m] [MonadExceptOf HttpError m]
variable [Client World Commit HttpError m]

def findUniqueOrThrow (id : Nat) : m Subscription := do
  let found ← Client.query Commit HttpError fun w : World => w.subscriptions.get id
  match found with
  | none => throw .recordNotFound
  | some subscription => return subscription

namespace Transition

def unapplied (read : Subscription) : TransitionResult :=
  { applied := false, subscription := read, eventType := none }

/-- What follows an update that found its row. -/
def applied (t : Transition) (read : Subscription) : m TransitionResult := do
  let _ ← Client.statement (Commit.event (t.entry read 0)) (t.record read)
  let updated ← findUniqueOrThrow read.id
  return { applied := true, subscription := updated, eventType := some (t.event read).type }

def apply (t : Transition) (read : Subscription) : m TransitionResult :=
  if t.reached read then
    return unapplied read
  else
    match t.check read with
    | some err => throw err
    | none => do
        let count ← Client.statement (Commit.transition t.method read) (t.compareAndSwap read)
        if count ≠ 1 then
          return unapplied read
        else
          t.applied read

end Transition

/-! ## Reads -/

def getSubscriptionForTenant (tenantId : Nat) : m Subscription := do
  let found ← Client.query Commit HttpError fun w : World =>
    w.subscriptions.findFirst (·.tenantId = tenantId)
  match found with
  | none => throw (.notFound "Subscription not found")
  | some subscription => return subscription

def findSubscriptionByProviderSubscriptionId (providerSubscriptionId : String) (w : World) :
    Option Subscription :=
  w.subscriptions.findFirst (·.providerSubscriptionId = some providerSubscriptionId)

def findSubscriptionByProviderCustomerId (providerCustomerId : String) (w : World) :
    Option Subscription :=
  w.subscriptions.findFirst (·.providerCustomerId = some providerCustomerId)

end Methods

/-! ## The transitions -/

def assertCurrentlyActive (subscription : Subscription) : Option HttpError :=
  if subscription.status = .active then none
  else some (.conflict
    s!"Subscription must be ACTIVE for this operation (currently {subscription.status})")

/-- ACTIVE|TRIALING → PAST_DUE -/
def recordPaymentFailure (graceEndsAt : Int) (providerEventId : Option String) : Transition where
  method := .recordPaymentFailure
  reached s := s.status = .pastDue
  check s := assertSubscriptionTransitionAllowed s.status .pastDue
  write _ _ r := { r with status := .pastDue, graceEndsAt := some graceEndsAt }
  event _ := { type := .paymentFailed, toStatus := .pastDue, providerEventId }

/-- PAST_DUE|PAUSED → ACTIVE -/
def recoverPayment (providerEventId : Option String) : Transition where
  method := .recoverPayment
  reached s := s.status = .active
  check s := assertSubscriptionTransitionAllowed s.status .active
  write _ _ r := { r with status := .active, graceEndsAt := none }
  event _ := { type := .resumed, toStatus := .active, providerEventId }

/-- A period the provider has confirmed. A bound that is no date is none. -/
structure Period where
  currentPeriodStart : Option Int
  currentPeriodEnd : Option Int
deriving DecidableEq, Repr

/-- A date that is none cannot be written. -/
def Period.check (period : Period) : Option HttpError :=
  if period.currentPeriodStart.isSome && period.currentPeriodEnd.isSome then none
  else some (.other "Invalid value for argument: Provided Date object is invalid")

/-- ACTIVE → ACTIVE -/
def applyScheduledDowngrade (period : Period) (providerEventId : Option String) :
    Transition where
  method := .applyScheduledDowngrade
  reached s := s.pendingPlanId = none
  check s := (assertCurrentlyActive s).or period.check
  unchanged read r := r.pendingPlanId = read.pendingPlanId
  write _ read r := { r with
    planId := read.pendingPlanId.getD r.planId
    pendingPlanId := none
    currentPeriodStart := period.currentPeriodStart
    currentPeriodEnd := period.currentPeriodEnd }
  event s :=
    { type := .downgradeApplied, toStatus := s.status, fromPlanId := some s.planId
      toPlanId := s.pendingPlanId, providerEventId }

/-- ACTIVE → ACTIVE, with nothing else pending. -/
def confirmRenewal (period : Period) (providerEventId : Option String) : Transition where
  method := .confirmRenewal
  reached s := s.currentPeriodStart ≠ none && s.currentPeriodStart = period.currentPeriodStart
  check s := (assertCurrentlyActive s).or period.check
  unchanged read r := r.currentPeriodStart = read.currentPeriodStart
  write _ _ r := { r with
    currentPeriodStart := period.currentPeriodStart
    currentPeriodEnd := period.currentPeriodEnd }
  event s :=
    { type := .activated, toStatus := s.status, providerEventId, metadata := { renewal := true } }

def msPerDay : Int := 24 * 60 * 60 * 1000

def cancellationRetentionDays : Int := 30

/-- PAST_DUE|PAUSED|ACTIVE → CANCELLED -/
def cancel (providerEventId : Option String) : Transition where
  method := .cancel
  reached s := s.status = .cancelled
  check s := assertSubscriptionTransitionAllowed s.status .cancelled
  write now _ r := { r with
    status := .cancelled
    retentionEndsAt := some (now + cancellationRetentionDays * msPerDay) }
  event _ := { type := .cancelled, toStatus := .cancelled, providerEventId }

/-- The same, for a cancellation that was scheduled. -/
def cancelAtBoundary : Transition := { cancel none with method := .cancelAtBoundary }

/-- PAST_DUE → PAUSED -/
def exhaustGrace : Transition where
  method := .exhaustGrace
  reached s := s.status = .paused
  check s := assertSubscriptionTransitionAllowed s.status .paused
  write _ _ r := { r with status := .paused }
  event _ := { type := .paused, toStatus := .paused }

/-- CANCELLED → ACTIVE -/
def reactivate : Transition where
  method := .reactivate
  reached s := s.status = .active
  check s := assertSubscriptionTransitionAllowed s.status .active
  write _ _ r := { r with status := .active }
  event _ := { type := .reactivated, toStatus := .active }

/-- PAUSED|CANCELLED → EXPIRED -/
def expire : Transition where
  method := .expire
  reached s := s.status = .expired
  check s := assertSubscriptionTransitionAllowed s.status .expired
  write _ _ r := { r with status := .expired }
  event _ := { type := .expired, toStatus := .expired }

/-- A plan that does not exist cannot be changed to. -/
def assertPlanExists (planExists : String → Bool) (planId : String) : Option HttpError :=
  if planExists planId then none else some (.notFound "Plan not found")

/-- ACTIVE → ACTIVE, on another plan at once. -/
def confirmUpgrade (planExists : String → Bool) (toPlanId : String) : Transition where
  method := .confirmUpgrade toPlanId
  reached s := s.planId = toPlanId
  check s := (assertCurrentlyActive s).or (assertPlanExists planExists toPlanId)
  unchanged read r := r.planId = read.planId
  write _ _ r := { r with planId := toPlanId }
  event s :=
    { type := .upgraded, toStatus := s.status, fromPlanId := some s.planId
      toPlanId := some toPlanId }

/-- ACTIVE → ACTIVE, with another plan to come. -/
def scheduleDowngrade (planExists : String → Bool) (pendingPlanId : String) : Transition where
  method := .scheduleDowngrade pendingPlanId
  reached s := s.pendingPlanId = some pendingPlanId
  check s := (assertCurrentlyActive s).or (assertPlanExists planExists pendingPlanId)
  unchanged read r := r.pendingPlanId = read.pendingPlanId
  write _ _ r := { r with pendingPlanId := some pendingPlanId }
  event s :=
    { type := .downgradeScheduled, toStatus := s.status, fromPlanId := some s.planId
      toPlanId := some pendingPlanId }

/-- ACTIVE → ACTIVE, with a cancellation to come. -/
def scheduleCancellation : Transition where
  method := .scheduleCancellation
  reached s := s.cancelAtPeriodEnd = some true
  check s := assertCurrentlyActive s
  unchanged read r := r.cancelAtPeriodEnd = read.cancelAtPeriodEnd
  write _ _ r := { r with cancelAtPeriodEnd := some true }
  event s := { type := .cancelled, toStatus := s.status, metadata := { scheduled := true } }

/-- ACTIVE → ACTIVE, with no cancellation to come. -/
def unscheduleCancellation : Transition where
  method := .unscheduleCancellation
  reached s := s.cancelAtPeriodEnd ≠ some true
  check s := assertCurrentlyActive s
  unchanged read r := r.cancelAtPeriodEnd = read.cancelAtPeriodEnd
  write _ _ r := { r with cancelAtPeriodEnd := some false }
  event s := { type := .cancelled, toStatus := s.status, metadata := { unscheduled := true } }

def gracePeriodDays : Int := 7

/-- The transition an event of the provider is routed to. An event of a type that is not known
is routed to none. -/
def billingWebhookTransition (event : NormalizedBillingEvent) (now : Int) : Option Transition :=
  match event.type with
  | "payment_failed" =>
      some (recordPaymentFailure (now + gracePeriodDays * msPerDay) (some event.providerEventId))
  | "recovered" => some (recoverPayment (some event.providerEventId))
  | "cancelled" => some (cancel (some event.providerEventId))
  | _ => none

section Methods

variable {m : Type → Type} [Monad m] [MonadExceptOf HttpError m]
variable [Client World Commit HttpError m]

def applyBillingWebhookEvent (subscription : Subscription) (event : NormalizedBillingEvent) :
    m TransitionResult := do
  let now ← Client.query Commit HttpError World.now
  match billingWebhookTransition event now with
  | some t => t.apply subscription
  | none => return Transition.unapplied subscription

end Methods

end PrintForge.Subscriptions
