import PrintForge.Subscriptions.Webhooks

/-!
# The scheduler's passes over subscriptions

`reconcilePeriod` works over the bare connection: between its reads and its updates anything
may happen. What the billing provider answers to the two calls it makes is part of the request.
-/

namespace PrintForge.Subscriptions

open Relational Concurrent JavaScript

/-- A subscription as the provider reports it. -/
structure ProviderSubscription where
  currentPeriodStart : Int
  currentPeriodEnd : Int
deriving DecidableEq, Repr

def ProviderSubscription.period (state : ProviderSubscription) : Period :=
  ⟨some state.currentPeriodStart, some state.currentPeriodEnd⟩

/-- What the provider answers: the subscription, unless the call fails, and whether a
cancellation is accepted. -/
structure ProviderAnswers where
  subscription : Option ProviderSubscription
  cancels : Bool
deriving DecidableEq, Repr

section Reconcile

variable (answers : ProviderAnswers)

def attemptReconciliationRead : Service ProviderSubscription :=
  match answers.subscription with
  | some state => return state
  | none => throw (.other "Billing provider is currently unavailable; please retry shortly")

/-- The provider has gone on to the next period. -/
def boundaryReached (state : ProviderSubscription) (subscription : Subscription) : Bool :=
  subscription.currentPeriodEnd.any (· ≤ state.currentPeriodStart)

/-- The scheduled downgrade, and whether there was one. -/
def applyPendingPlan (state : ProviderSubscription) (subscription : Subscription) :
    Service (Subscription × Bool) :=
  if (truthy subscription.pendingPlanId).isSome then do
    let result ← (applyScheduledDowngrade state.period none).apply subscription
    return (result.subscription, true)
  else
    return (subscription, false)

/-- The period goes on where nothing scheduled has been applied. -/
def renewPeriod (state : ProviderSubscription) (updated : Subscription)
    (somethingScheduledApplied : Bool) : Service Subscription :=
  if somethingScheduledApplied = false && updated.status = .active then do
    let result ← (confirmRenewal state.period none).apply updated
    return result.subscription
  else
    return updated

/-- The scheduled cancellation, once the provider has accepted it. -/
def applyPendingCancellation (state : ProviderSubscription) (updated : Subscription)
    (somethingScheduledApplied : Bool) : Service Subscription :=
  if updated.status = .active && updated.cancelAtPeriodEnd = some true then
    if (truthy updated.providerSubscriptionId).isNone then
      throw (.conflict "Subscription has no linked billing-provider record")
    else if answers.cancels = false then
      return updated
    else do
      let result ← cancelAtBoundary.apply updated
      renewPeriod state result.subscription true
  else
    renewPeriod state updated somethingScheduledApplied

def reconcilePeriod (tenantId : Nat) : Service Subscription := do
  let subscription ← getSubscriptionForTenant tenantId
  if subscription.status ≠ .active || (truthy subscription.providerSubscriptionId).isNone then
    return subscription
  else do
    let providerState ← attemptReconciliationRead answers
    if boundaryReached providerState subscription = false then
      return subscription
    else do
      let (updated, somethingScheduledApplied) ← applyPendingPlan providerState subscription
      applyPendingCancellation answers providerState updated somethingScheduledApplied

end Reconcile

/-! ## Requests -/

inductive Request where
  | processOne (id : Nat)
  | reconcilePeriod (tenantId : Nat) (answers : ProviderAnswers)
  | tick (elapsed : Nat)
deriving DecidableEq, Repr

/-- Time passes. -/
def tick (elapsed : Nat) : Service Unit :=
  Proc.transact .tick (modify fun w : World => { w with now := w.now + elapsed })

def handle (parseDate : String → Option Int) (_ : Nat) : Request → Service Unit
  | .processOne id => processOne parseDate id
  | .reconcilePeriod tenantId answers => do
      let _ ← reconcilePeriod answers tenantId
      return ()
  | .tick elapsed => tick elapsed

end PrintForge.Subscriptions
