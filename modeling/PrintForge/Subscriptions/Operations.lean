import Mathlib.Data.List.Sort
import PrintForge.Subscriptions.Provider

/-!
# What a tenant asks for

Upgrade, downgrade, cancellation and resumption have one shape. The subscription is read, the
provider is asked for the change, and only then is the local row changed, by the method of the
subscription service. When it is not known what the provider did, its subscription is read, and
some of the operations take the answer for a confirmation. `Flow` holds what they differ in.

Each runs under an idempotency key. The key is claimed before the work, in a transaction of its
own, and a request whose key is taken is answered with the subscription as it is.
-/

namespace PrintForge.Subscriptions

open Relational Concurrent JavaScript

def assertHasProviderLink (subscription : Subscription) : Option HttpError :=
  if (truthy subscription.providerSubscriptionId).isSome then none
  else some (.conflict "Subscription has no linked billing-provider record")

/-- What an operation on an active subscription answers for any other. -/
def assertActiveTo (action : String) (subscription : Subscription) : Option HttpError :=
  if subscription.status = .active then none
  else some (.conflict
    s!"Subscription must be ACTIVE to {action} (currently {subscription.status})")

/-- One operation. `settled` holds where there is nothing to do, and `confirms` of the states of
the provider that a call without an answer is taken to have led to. -/
structure Flow where
  settled : Subscription → Bool
  check : Subscription → Option HttpError
  change : String → ProviderChange
  confirms : BillingProviderSubscription → Bool
  unconfirmed : String
  transition : Subscription → Transition

/-! ## The operations -/

def couldNotConfirm (what : String) : String :=
  s!"Could not confirm the {what} with the billing provider; " ++
    "no local change was made — please retry"

section Flows

variable (planExists : String → Bool)

def upgrade (toPlanId : String) : Flow where
  settled s := s.planId = toPlanId
  check s := ((assertPlanExists planExists toPlanId).or (assertHasProviderLink s)).or
    (assertActiveTo "upgrade" s)
  change id := .changeSubscription id toPlanId .immediate
  confirms state := state.planRef = toPlanId
  unconfirmed := couldNotConfirm "upgrade"
  transition _ := confirmUpgrade planExists toPlanId

def downgrade (toPlanId : String) : Flow where
  settled s := s.pendingPlanId = some toPlanId
  check s := ((assertPlanExists planExists toPlanId).or (assertHasProviderLink s)).or
    (assertActiveTo "schedule a downgrade" s)
  change id := .changeSubscription id toPlanId .atPeriodEnd
  confirms _ := false
  unconfirmed := couldNotConfirm "downgrade schedule"
  transition _ := scheduleDowngrade planExists toPlanId

end Flows

def immediateCancellationFlow : Flow where
  settled s := s.status = .cancelled
  check s :=
    if s.status ≠ .active && s.status ≠ .pastDue && s.status ≠ .paused then
      some (.conflict s!"Subscription cannot be cancelled from {s.status}")
    else assertHasProviderLink s
  change id := .cancelSubscription id .immediate
  confirms _ := false
  unconfirmed := couldNotConfirm "cancellation"
  transition _ := Subscriptions.cancel none

def scheduleCancellationFlow : Flow where
  settled s := s.cancelAtPeriodEnd = some true
  check s := (assertActiveTo "schedule a cancellation" s).or (assertHasProviderLink s)
  change id := .cancelSubscription id .atPeriodEnd
  confirms _ := false
  unconfirmed := couldNotConfirm "cancellation"
  transition _ := scheduleCancellation

def unscheduleCancellationFlow : Flow where
  settled s := s.cancelAtPeriodEnd ≠ some true
  check s := (assertActiveTo "unschedule a cancellation" s).or (assertHasProviderLink s)
  change id := .unscheduleCancellation id
  confirms _ := false
  unconfirmed := couldNotConfirm "unscheduling"
  transition _ := unscheduleCancellation

/-- The transition a resumption is for the subscription. -/
def resumeTransition (subscription : Subscription) : Transition :=
  if subscription.status = .pastDue || subscription.status = .paused then recoverPayment none
  else reactivate

def resume : Flow where
  settled s := s.status = .active
  check s :=
    if s.status = .expired then
      some (.conflict "Subscription is EXPIRED and cannot be resumed")
    else if s.status = .pending || s.status = .trialing then
      some (.conflict s!"Subscription is {s.status} — nothing to resume")
    else assertHasProviderLink s
  change id := .resumeSubscription id
  confirms _ := true
  unconfirmed := ""
  transition := resumeTransition

/-! ## Running one -/

/-- The change takes place at the provider, if it does, before the answer arrives. -/
def applyChange (change : ProviderChange) (provider : ProviderCall) :
    Transaction (Except ProviderError Unit) := do
  modify fun w : World =>
    if provider.applied then { w with providerChanges := w.providerChanges ++ [change] } else w
  return provider.answer

def callProvider (change : ProviderChange) (provider : ProviderCall) :
    Service (Except ProviderError Unit) :=
  Proc.transact (.provider change) (applyChange change provider)

namespace Flow

variable (flow : Flow)

/-- The local change, once the provider is taken to have made its own. -/
def confirm (subscription : Subscription) : Service Subscription := do
  let result ← (flow.transition subscription).apply subscription
  return result.subscription

/-- What follows a call of which nothing is known. -/
def reconcileTimeout (provider : ProviderCall) (subscription : Subscription) :
    Service Subscription :=
  if (truthy subscription.providerSubscriptionId).isNone then
    throw (.other
      "Billing provider reconciliation unavailable — no linked provider subscription")
  else
    match provider.read with
    | .error _ => throw (.other "Billing provider is currently unavailable; please retry shortly")
    | .ok providerState =>
        if flow.confirms providerState then flow.confirm subscription
        else throw (.other flow.unconfirmed)

/-- What follows the provider's answer. -/
def conclude (provider : ProviderCall) (subscription : Subscription) :
    Except ProviderError Unit → Service Subscription
  | .ok () => flow.confirm subscription
  | .error (.timeout _) => flow.reconcileTimeout provider subscription
  | .error err => throw (classifyProviderError err)

/-- The provider's name for the subscription. -/
def providerSubscriptionId (subscription : Subscription) : String :=
  (truthy subscription.providerSubscriptionId).getD ""

def run (provider : ProviderChange → ProviderCall) (tenantId : Nat) : Service Subscription := do
  let subscription ← getSubscriptionForTenant tenantId
  if flow.settled subscription then
    return subscription
  else
    match flow.check subscription with
    | some err => throw err
    | none => do
        let change := flow.change (providerSubscriptionId subscription)
        let answer ← callProvider change (provider change)
        flow.conclude (provider change) subscription answer

end Flow

/-! ## Idempotency keys -/

def findExisting (key : String) (w : World) : Option IdempotencyKey :=
  w.idempotencyKeys.findFirst (·.key = key)

/-- There is no result where the key is taken. -/
def claim (key : String) (userId : Nat) (endpoint : String) (tenantId : Nat) :
    Transaction (Option IdempotencyKey) :=
  Db.idempotencyKeys.createOrIgnore fun id => { id, key, userId, endpoint, tenantId }

def withIdempotency (tenantId userId : Nat) (endpoint idempotencyKey : String)
    (proceed : Service Subscription) : Service Subscription := do
  let existing ← Proc.read (findExisting idempotencyKey)
  match existing with
  | some existing =>
      if existing.tenantId ≠ tenantId then throw (.conflict "Idempotency key already in use")
      else getSubscriptionForTenant tenantId
  | none => do
      let claimed ← Proc.transact (.claimKey idempotencyKey)
        (claim idempotencyKey userId endpoint tenantId)
      match claimed with
      | none => getSubscriptionForTenant tenantId
      | some _ => proceed

/-- What can be asked for under a key. -/
inductive Operation where
  | upgrade (toPlanId : String)
  | downgrade (toPlanId : String)
  | cancel (atPeriodEnd : Bool)
  | unscheduleCancellation
  | resume
deriving DecidableEq, Repr

namespace Operation

def endpoint : Operation → String
  | upgrade _ => "subscription:upgrade"
  | downgrade _ => "subscription:downgrade"
  | cancel _ => "subscription:cancel"
  | unscheduleCancellation => "subscription:unschedule-cancellation"
  | resume => "subscription:resume"

def flow (planExists : String → Bool) : Operation → Flow
  | upgrade toPlanId => Subscriptions.upgrade planExists toPlanId
  | downgrade toPlanId => Subscriptions.downgrade planExists toPlanId
  | cancel true => scheduleCancellationFlow
  | cancel false => immediateCancellationFlow
  | unscheduleCancellation => unscheduleCancellationFlow
  | resume => Subscriptions.resume

end Operation

/-- A request of a tenant for an operation. What the provider does about it is part of it. -/
structure OperationRequest where
  operation : Operation
  tenantId : Nat
  userId : Nat
  idempotencyKey : String
  provider : ProviderChange → ProviderCall

def orchestrate (planExists : String → Bool) (req : OperationRequest) : Service Subscription :=
  withIdempotency req.tenantId req.userId req.operation.endpoint req.idempotencyKey
    ((req.operation.flow planExists).run req.provider req.tenantId)

/-! ## Creation -/

/-- An event is written by itself. -/
def recordEvent (event : SubscriptionEvent) : Service SubscriptionEvent :=
  Proc.transact (.event { event with id := 0 })
    (Db.subscriptionEvents.create fun id => { event with id })

def pendingSubscription (tenantId : Nat) (planId : String) (now : Int) (id : Nat) :
    Subscription where
  id := id
  tenantId := tenantId
  providerCustomerId := none
  providerSubscriptionId := none
  planId := planId
  pendingPlanId := none
  status := .pending
  currentPeriodStart := none
  currentPeriodEnd := none
  cancelAtPeriodEnd := none
  graceEndsAt := none
  retentionEndsAt := none
  updatedAt := some now

def insertPending (tenantId : Nat) (planId : String) : Transaction Subscription := do
  let now ← Tx.read World.now
  Db.subscriptions.create (pendingSubscription tenantId planId now)

def createPendingSubscription (tenantId : Nat) (planId : String) : Service Subscription := do
  let created ← Proc.transact (.create tenantId) (insertPending tenantId planId)
  let _ ← recordEvent
    { id := 0, subscriptionId := created.id, tenantId, type := .created, fromStatus := none
      toStatus := .pending, fromPlanId := none, toPlanId := some planId
      providerEventId := none, metadata := {} }
  return created

/-- What the provider has confirmed of a subscription that is new. -/
structure Activation where
  toStatus : SubscriptionStatus
  starts : toStatus = .trialing ∨ toStatus = .active
  period : ProviderSubscription
  providerCustomerId : String
  providerSubscriptionId : String
deriving DecidableEq, Repr

/-- The only update that sets the names by which the provider finds the subscription. -/
def activate (input : Activation) (read : Subscription) : Transaction Nat := do
  let now ← Tx.read World.now
  Db.subscriptions.updateMany (fun r => r.id = read.id && r.status = read.status)
    fun r => { r with
      status := input.toStatus
      currentPeriodStart := some input.period.currentPeriodStart
      currentPeriodEnd := some input.period.currentPeriodEnd
      providerCustomerId := some input.providerCustomerId
      providerSubscriptionId := some input.providerSubscriptionId
      updatedAt := some now }

/-- PENDING → TRIALING|ACTIVE, TRIALING → ACTIVE -/
def confirmActivation (input : Activation) (subscription : Subscription) :
    Service TransitionResult :=
  if subscription.status = input.toStatus then
    return Transition.unapplied subscription
  else
    match assertSubscriptionTransitionAllowed subscription.status input.toStatus with
    | some err => throw err
    | none => do
        let count ← Proc.transact (.transition .confirmActivation subscription)
          (activate input subscription)
        if count ≠ 1 then
          return Transition.unapplied subscription
        else do
          let _ ← recordEvent
            { id := 0, subscriptionId := subscription.id, tenantId := subscription.tenantId
              type := .activated, fromStatus := some subscription.status
              toStatus := input.toStatus, fromPlanId := none
              toPlanId := some subscription.planId, providerEventId := none, metadata := {} }
          let updated ← findUniqueOrThrow subscription.id
          return { applied := true, subscription := updated, eventType := some .activated }

/-- The provider's answers to a creation: the customer, and then the subscription. -/
abbrev Created := Except ProviderError (String × BillingProviderSubscription)

def classifyCreationError : ProviderError → HttpError
  | .timeout _ => .other
      "Could not confirm subscription creation with the billing provider; please retry"
  | err => classifyProviderError err

/-- The provider has confirmed the creation. -/
def createLocally (tenantId : Nat) (planId providerCustomerId : String)
    (providerSub : BillingProviderSubscription) : Service Subscription := do
  let created ← createPendingSubscription tenantId planId
  let result ← confirmActivation
    { toStatus := if providerSub.trialEndsAt.isSome then .trialing else .active
      starts := by split <;> simp
      period := providerSub.toProviderSubscription
      providerCustomerId
      providerSubscriptionId := providerSub.providerSubscriptionId } created
  return result.subscription

def createSubscription (planExists : String → Bool) (tenantId : Nat) (planId : String)
    (answer : Created) : Service Subscription := do
  let existing ← Proc.read fun w : World => w.subscriptions.findFirst (·.tenantId = tenantId)
  if existing.isSome then
    throw (.conflict "Tenant already has a subscription")
  else
    match assertPlanExists planExists planId with
    | some err => throw err
    | none =>
        match answer with
        | .error err => throw (classifyCreationError err)
        | .ok (providerCustomerId, providerSub) =>
            createLocally tenantId planId providerCustomerId providerSub

/-! ## The passes of the scheduler -/

def schedulerBatchSize : Nat := 20

/-- The rows a pass is for, the earliest deadline first. -/
def eligible (status : SubscriptionStatus) (deadline : Subscription → Option Int) (now : Int)
    (w : World) : List Subscription :=
  let due := w.subscriptions.findMany fun s => s.status = status && (deadline s).any (· ≤ now)
  (due.insertionSort fun a b => (deadline a).getD 0 ≤ (deadline b).getD 0).take
    schedulerBatchSize

def findGraceExhaustedSubscriptions : Int → World → List Subscription :=
  eligible .pastDue (·.graceEndsAt)

def findExpirableCancelledSubscriptions : Int → World → List Subscription :=
  eligible .cancelled (·.retentionEndsAt)

/-- A row that fails is only logged. -/
def settleOne (t : Transition) (subscription : Subscription) : Service Unit :=
  tryCatch
    (do
      let _ ← (t.apply subscription : Service TransitionResult)
      return ())
    fun _ => return ()

def exhaustOne : Subscription → Service Unit := settleOne exhaustGrace

def expireOne : Subscription → Service Unit := settleOne expire

/-- The rows found are settled one after another, as they were found. -/
def runPass (find : Int → World → List Subscription) (one : Subscription → Service Unit) :
    Service Unit := do
  let now ← Proc.read World.now
  let found ← Proc.read (find now)
  found.forM one

def runGraceExhaustion : Service Unit := runPass findGraceExhaustedSubscriptions exhaustOne

def runCancellationExpiration : Service Unit :=
  runPass findExpirableCancelledSubscriptions expireOne

/-! ## Requests -/

/-- Everything that happens to subscriptions. A pass that reconciles periods asks for one
reconciliation after another and carries nothing from one to the next, so that each is a request
of its own. -/
inductive Call where
  | processOne (id : Nat)
  | runGraceExhaustion
  | runCancellationExpiration
  | reconcilePeriod (tenantId : Nat) (answers : ProviderAnswers)
  | createSubscription (tenantId : Nat) (planId : String) (answer : Created)
  | orchestrate (req : OperationRequest)
  | tick (elapsed : Nat)

def serve (parseDate : String → Option Int) (planExists : String → Bool) (_ : Nat) :
    Call → Service Unit
  | .processOne id => processOne parseDate id
  | .runGraceExhaustion => runGraceExhaustion
  | .runCancellationExpiration => runCancellationExpiration
  | .reconcilePeriod tenantId answers => do
      let _ ← reconcilePeriod answers tenantId
      return ()
  | .createSubscription tenantId planId answer => do
      let _ ← createSubscription planExists tenantId planId answer
      return ()
  | .orchestrate req => do
      let _ ← orchestrate planExists req
      return ()
  | .tick elapsed => tick elapsed

end PrintForge.Subscriptions
