import PrintForge.Common.Basic
import PrintForge.Concurrent.Process
import PrintForge.Text.Strings

/-!
# Subscriptions to the platform

The rows of the billing of merchants, and the transition table of a subscription. Instants are
milliseconds since the epoch. A `Date` of the language that need not be valid is an optional
instant.

The clock of the server is part of the state: time passes between two statements as other
processes act between them.
-/

namespace PrintForge.Subscriptions

open Relational Concurrent

inductive SubscriptionStatus where
  | pending
  | trialing
  | active
  | pastDue
  | paused
  | cancelled
  | expired
deriving DecidableEq, Repr

namespace SubscriptionStatus

def name : SubscriptionStatus → String
  | pending => "PENDING"
  | trialing => "TRIALING"
  | active => "ACTIVE"
  | pastDue => "PAST_DUE"
  | paused => "PAUSED"
  | cancelled => "CANCELLED"
  | expired => "EXPIRED"

instance : ToString SubscriptionStatus := ⟨name⟩

end SubscriptionStatus

def subscriptionStateTransitions : SubscriptionStatus → List SubscriptionStatus
  | .pending => [.trialing, .active]
  | .trialing => [.active, .pastDue]
  | .active => [.active, .pastDue, .cancelled]
  | .pastDue => [.active, .paused, .cancelled]
  | .paused => [.active, .cancelled, .expired]
  | .cancelled => [.active, .expired]
  | .expired => []

def isSubscriptionTransitionAllowed (source target : SubscriptionStatus) : Bool :=
  target ∈ subscriptionStateTransitions source

/-- The conflict a transition that is not in the table is answered with. -/
def assertSubscriptionTransitionAllowed (source target : SubscriptionStatus) :
    Option HttpError :=
  if isSubscriptionTransitionAllowed source target then none
  else some (.conflict s!"Illegal subscription transition: {source} -> {target}")

/-- The columns by which the provider and the tenant find a subscription. -/
structure Identity where
  id : Nat
  tenantId : Nat
  providerCustomerId : Option String
  providerSubscriptionId : Option String
deriving DecidableEq, Repr

structure Subscription extends Identity where
  planId : String
  pendingPlanId : Option String
  status : SubscriptionStatus
  currentPeriodStart : Option Int
  currentPeriodEnd : Option Int
  cancelAtPeriodEnd : Option Bool
  graceEndsAt : Option Int
  retentionEndsAt : Option Int
  updatedAt : Option Int
deriving DecidableEq, Repr

/-- A tenant has one subscription, and a name the provider gives is given once. -/
def Identity.Clash (a b : Identity) : Prop :=
  a.tenantId = b.tenantId ∨
    (a.providerSubscriptionId.isSome ∧ a.providerSubscriptionId = b.providerSubscriptionId) ∨
    (a.providerCustomerId.isSome ∧ a.providerCustomerId = b.providerCustomerId)

instance : DecidableRel Identity.Clash :=
  fun _ _ => inferInstanceAs (Decidable (_ ∨ (_ ∧ _) ∨ (_ ∧ _)))

theorem Identity.Clash.symm {a b : Identity} : a.Clash b → b.Clash a
  | .inl h => .inl h.symm
  | .inr (.inl h) => .inr (.inl ⟨h.2 ▸ h.1, h.2.symm⟩)
  | .inr (.inr h) => .inr (.inr ⟨h.2 ▸ h.1, h.2.symm⟩)

instance : Schema Subscription where
  key s := s.id
  Clash a b := a.toIdentity.Clash b.toIdentity
  clash_decidable _ _ := inferInstanceAs (Decidable (Identity.Clash _ _))
  clash_symm h := h.symm

inductive SubscriptionEventType where
  | created
  | activated
  | upgraded
  | downgradeScheduled
  | downgradeApplied
  | paymentFailed
  | paused
  | resumed
  | cancelled
  | expired
  | reactivated
deriving DecidableEq, Repr

/-- The flags that tell two uses of one event type apart. -/
structure EventMetadata where
  renewal : Bool := false
  scheduled : Bool := false
  unscheduled : Bool := false
deriving DecidableEq, Repr

structure SubscriptionEvent where
  id : Nat
  subscriptionId : Nat
  tenantId : Nat
  type : SubscriptionEventType
  fromStatus : Option SubscriptionStatus
  toStatus : SubscriptionStatus
  fromPlanId : Option String
  toPlanId : Option String
  providerEventId : Option String
  metadata : EventMetadata
deriving DecidableEq, Repr

instance : Schema SubscriptionEvent where
  key e := e.id
  Clash _ _ := False
  clash_decidable _ _ := inferInstanceAs (Decidable False)
  clash_symm h := h

inductive BillingWebhookEventStatus where
  | received
  | processed
  | processingFailed
  | ignored
  | failed
deriving DecidableEq, Repr

/-- A value in a JSON object, as far as the readers of one tell values apart. -/
inductive JsonValue where
  | string (s : String)
  | other
deriving DecidableEq, Repr

/-- A verified delivery in the provider's place. The payload is an object, or some value that
is none. -/
structure NormalizedBillingEvent where
  providerEventId : String
  type : String
  payload : Option (List (String × JsonValue))
deriving DecidableEq, Repr

structure BillingWebhookEvent where
  id : Nat
  providerEventId : String
  payload : NormalizedBillingEvent
  status : BillingWebhookEventStatus
  attempts : Nat
  availableAt : Int
  lastError : Option String
  processedAt : Option Int
  createdAt : Int
deriving DecidableEq, Repr

instance : Schema BillingWebhookEvent where
  key e := e.id
  Clash a b := a.providerEventId = b.providerEventId
  clash_decidable _ _ := inferInstanceAs (Decidable (_ = _))
  clash_symm h := h.symm

/-- A key under which a tenant has asked for an operation. -/
structure IdempotencyKey where
  id : Nat
  key : String
  userId : Nat
  endpoint : String
  tenantId : Nat
deriving DecidableEq, Repr

instance : Schema IdempotencyKey where
  key k := k.id
  Clash a b := a.key = b.key
  clash_decidable _ _ := inferInstanceAs (Decidable (_ = _))
  clash_symm h := h.symm

inductive ChangeMode where
  | immediate
  | atPeriodEnd
deriving DecidableEq, Repr

/-- What the provider can be asked to do with a subscription of its own. -/
inductive ProviderChange where
  | changeSubscription (providerSubscriptionId newPlanRef : String) (mode : ChangeMode)
  | cancelSubscription (providerSubscriptionId : String) (mode : ChangeMode)
  | unscheduleCancellation (providerSubscriptionId : String)
  | resumeSubscription (providerSubscriptionId : String)
deriving DecidableEq, Repr

/-- `providerChanges` is no table: it lists the changes tenants have asked for that the provider
has made. -/
structure World where
  now : Int
  subscriptions : Table Subscription
  subscriptionEvents : Table SubscriptionEvent
  billingWebhookEvents : Table BillingWebhookEvent
  idempotencyKeys : Table IdempotencyKey := .empty
  providerChanges : List ProviderChange := []

namespace Db

def subscriptions : Slot World Subscription where
  get w := w.subscriptions
  set t w := { w with subscriptions := t }

def subscriptionEvents : Slot World SubscriptionEvent where
  get w := w.subscriptionEvents
  set t w := { w with subscriptionEvents := t }

def billingWebhookEvents : Slot World BillingWebhookEvent where
  get w := w.billingWebhookEvents
  set t w := { w with billingWebhookEvents := t }

def idempotencyKeys : Slot World IdempotencyKey where
  get w := w.idempotencyKeys
  set t w := { w with idempotencyKeys := t }

end Db

/-- The methods that update a subscription. A cancellation that falls due at the end of a period
is told from one that is asked for. -/
inductive Method where
  | confirmActivation
  | recordPaymentFailure
  | recoverPayment
  | exhaustGrace
  | confirmUpgrade (toPlanId : String)
  | scheduleDowngrade (pendingPlanId : String)
  | applyScheduledDowngrade
  | confirmRenewal
  | scheduleCancellation
  | unscheduleCancellation
  | cancel
  | cancelAtBoundary
  | reactivate
  | expire
deriving DecidableEq, Repr

/-- The writes, and the calls that may change something at the provider. An update of a
subscription is listed with the row it was decided on, an event with what it says. -/
inductive Commit where
  | create (tenantId : Nat)
  | transition (method : Method) (read : Subscription)
  | event (event : SubscriptionEvent)
  | processBillingWebhook (id : Nat)
  | settleBillingWebhook (id : Nat)
  | claimKey (key : String)
  | provider (change : ProviderChange)
  | tick
deriving DecidableEq, Repr

abbrev Transaction := Tx World HttpError

abbrev Service := Proc World Commit HttpError

end PrintForge.Subscriptions
