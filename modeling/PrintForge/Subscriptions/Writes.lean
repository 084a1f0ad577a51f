import PrintForge.Subscriptions.Operations
import PrintForge.Subscriptions.Steps

/-!
# What the requests about subscriptions may write

Every write of the service, the orchestration, the scheduler and the webhooks is listed, with
its label: `Writes`. What a write does to one subscription, that is to its row and to its events
in the order of their creation, is one of six things: `Turn`. Everything said of all runs is
said by cases on these.
-/

namespace PrintForge.Subscriptions

open Relational Concurrent JavaScript

/-- The transitions that are applied over the bare connection. -/
inductive Direct (planExists : String → Bool) : Transition → Prop
  | exhaustGrace : Direct planExists exhaustGrace
  | expire : Direct planExists expire
  | reactivate : Direct planExists reactivate
  | recoverPayment : Direct planExists (recoverPayment none)
  | cancel : Direct planExists (cancel none)
  | cancelAtBoundary : Direct planExists cancelAtBoundary
  | applyScheduledDowngrade (period : Period) :
      Direct planExists (applyScheduledDowngrade period none)
  | confirmRenewal (period : Period) : Direct planExists (confirmRenewal period none)
  | confirmUpgrade (toPlanId : String) : Direct planExists (confirmUpgrade planExists toPlanId)
  | scheduleDowngrade (pendingPlanId : String) :
      Direct planExists (scheduleDowngrade planExists pendingPlanId)
  | scheduleCancellation : Direct planExists scheduleCancellation
  | unscheduleCancellation : Direct planExists unscheduleCancellation

/-- The transitions a delivery may ask for. -/
inductive Delivered (now : Int) : Transition → Prop
  | recordPaymentFailure (name : Option String) :
      Delivered now (recordPaymentFailure (now + gracePeriodDays * msPerDay) name)
  | recoverPayment (name : Option String) : Delivered now (recoverPayment name)
  | cancel (name : Option String) : Delivered now (cancel name)
  | confirmRenewal (period : Period) (name : Option String) :
      Delivered now (confirmRenewal period name)

/-- The row ends in the status its event names. -/
theorem Direct.status {planExists : String → Bool} {t : Transition} (ht : Direct planExists t)
    {read r : Subscription} (h : r.status = read.status) (now : Int) :
    (t.row now read r).status = (t.event read).toStatus := by
  cases ht with
  | exhaustGrace | expire | reactivate | recoverPayment | cancel | cancelAtBoundary => rfl
  | applyScheduledDowngrade | confirmRenewal | confirmUpgrade | scheduleDowngrade
  | scheduleCancellation | unscheduleCancellation => exact h

theorem Delivered.status {now : Int} {t : Transition} (ht : Delivered now t) (r : Subscription) :
    (t.row now r r).status = (t.event r).toStatus := by
  cases ht with
  | recordPaymentFailure | recoverPayment | cancel | confirmRenewal => rfl

/-- The method has something to do, and may do it. -/
structure Due (t : Transition) (read : Subscription) : Prop where
  reached : t.reached read = false
  check : t.check read = none

section Writes

-- `allowed` narrows the list to the transitions of some of the requests
variable (parseDate : String → Option Int) (planExists : String → Bool)
variable (allowed : Transition → Subscription → Prop)

/-- The writes of a method that is applied over the bare connection. -/
inductive Applies : Commit → (World → World) → Prop
  | transition {t : Transition} {read : Subscription} (ht : allowed t read)
      (hdue : Due t read) :
      Applies (.transition t.method read) (Proc.applied (t.compareAndSwap read))
  | event (e : SubscriptionEvent) :
      Applies (.event { e with id := 0 }) (Proc.applied
        (Db.subscriptionEvents.create fun id => { e with id } : Transaction SubscriptionEvent))

inductive Writes : Commit → (World → World) → Prop
  | create (tenantId : Nat) (planId : String) :
      Writes (.create tenantId) (Proc.applied (insertPending tenantId planId))
  | apply {ℓ : Commit} {upd : World → World} (h : Applies allowed ℓ upd) : Writes ℓ upd
  | activate (input : Activation) (read : Subscription) (hne : read.status ≠ input.toStatus)
      (hallowed : isSubscriptionTransitionAllowed read.status input.toStatus = true) :
      Writes (.transition .confirmActivation read) (Proc.applied (activate input read))
  | process (id : Nat) :
      Writes (.processBillingWebhook id) (Proc.applied (processEvent parseDate id))
  | settle (id : Nat) (data : Int → BillingWebhookEvent → BillingWebhookEvent)
      (hdata : ∀ now e, (data now e).id = e.id) :
      Writes (.settleBillingWebhook id) (Proc.applied (do
        let now ← Tx.read World.now
        Db.billingWebhookEvents.update id (data now) (hdata now) :
          Transaction BillingWebhookEvent))
  | claim (key : String) (userId : Nat) (endpoint : String) (tenantId : Nat) :
      Writes (.claimKey key) (Proc.applied (claim key userId endpoint tenantId))
  | provider (change : ProviderChange) (provider : ProviderCall) :
      Writes (.provider change) (Proc.applied (applyChange change provider))
  | tick (elapsed : Nat) :
      Writes .tick (Proc.applied
        (modify fun w : World => { w with now := w.now + elapsed } : Transaction PUnit))

variable {parseDate planExists allowed}

theorem Writes.mono {allowed' : Transition → Subscription → Prop} {ℓ : Commit}
    {upd : World → World} (h : Writes parseDate allowed ℓ upd)
    (hmono : ∀ t read, allowed t read → allowed' t read) : Writes parseDate allowed' ℓ upd := by
  cases h with
  | apply h =>
      cases h with
      | transition ht hdue => exact .apply (.transition (hmono _ _ ht) hdue)
      | event e => exact .apply (.event e)
  | create tenantId planId => exact .create tenantId planId
  | activate input read hne hallowed => exact .activate input read hne hallowed
  | process id => exact .process id
  | settle id data hdata => exact .settle id data hdata
  | claim key userId endpoint tenantId => exact .claim key userId endpoint tenantId
  | provider change provider => exact .provider change provider
  | tick elapsed => exact .tick elapsed

/-! ## Every request -/

/-- What is applied is listed. -/
theorem commits_writes {α : Type} {p : Service α} (h : p.Commits (Applies allowed)) :
    p.Commits (Writes parseDate allowed) :=
  h.mono fun _ _ => .apply

theorem findUniqueOrThrow_commits {K : Commit → (World → World) → Prop} (id : Nat) :
    (findUniqueOrThrow id : Service Subscription).Commits K := by
  refine Proc.Commits.bind (Proc.commits_read _) fun found => ?_
  cases found with
  | none => exact Proc.commits_throw _
  | some s => exact Proc.commits_pure _

theorem getSubscriptionForTenant_commits {K : Commit → (World → World) → Prop} (tenantId : Nat) :
    (getSubscriptionForTenant tenantId : Service Subscription).Commits K := by
  refine Proc.Commits.bind (Proc.commits_read _) fun found => ?_
  cases found with
  | none => exact Proc.commits_throw _
  | some s => exact Proc.commits_pure _

theorem apply_commits {t : Transition} {read : Subscription} (ht : allowed t read) :
    (t.apply read : Service TransitionResult).Commits (Applies allowed) := by
  unfold Transition.apply
  split
  · exact Proc.commits_pure _
  · next hreached =>
    split
    · exact Proc.commits_throw _
    · next hcheck =>
      have hdue : Due t read := ⟨by simpa using hreached, hcheck⟩
      refine (Proc.commits_transact (.transition ht hdue)).bind fun count => ?_
      split
      · exact Proc.commits_pure _
      · refine (Proc.commits_transact (.event (t.entry read 0))).bind fun _ => ?_
        exact (findUniqueOrThrow_commits read.id).bind fun _ => Proc.commits_pure _

/-- A delivery is applied, and what has come of it is recorded. -/
theorem processOne_commits_of {K : Commit → (World → World) → Prop} (id : Nat)
    (hprocess : K (.processBillingWebhook id) (Proc.applied (processEvent parseDate id)))
    (hsettle : ∀ (data : Int → BillingWebhookEvent → BillingWebhookEvent)
      (hdata : ∀ now e, (data now e).id = e.id),
      K (.settleBillingWebhook id) (Proc.applied (do
        let now ← Tx.read World.now
        Db.billingWebhookEvents.update id (data now) (hdata now) :
          Transaction BillingWebhookEvent))) :
    (processOne parseDate id).Commits K := by
  have hsafe : ∀ data hdata, (safeUpdate id data hdata).Commits K := by
    intro data hdata
    refine Proc.Commits.tryCatch ?_ fun _ => Proc.commits_pure _
    exact (Proc.commits_transact (hsettle data hdata)).bind fun _ => Proc.commits_pure _
  refine (Proc.commits_attempt hprocess).bind fun seen => ?_
  obtain ⟨attempts, result⟩ := seen
  cases result with
  | ok _ => exact Proc.commits_pure _
  | error err =>
      dsimp only [recordFailure]
      split
      · exact hsafe _ _
      · exact hsafe _ _

theorem processOne_commits (id : Nat) :
    (processOne parseDate id).Commits (Writes parseDate allowed) :=
  processOne_commits_of id (.process id) fun data hdata => .settle id data hdata

theorem renewPeriod_commits (state : ProviderSubscription) (updated : Subscription)
    (done : Bool) (hrenew : ∀ period u, allowed (confirmRenewal period none) u) :
    (renewPeriod state updated done).Commits (Applies allowed) := by
  unfold renewPeriod
  split
  · exact (apply_commits (hrenew _ _)).bind fun _ => Proc.commits_pure _
  · exact Proc.commits_pure _

/-- What a method returns is the row it was called with, as it was or as it is. -/
theorem apply_answers (t : Transition) (read : Subscription) :
    (t.apply read : Service TransitionResult).Answers (·.subscription.id = read.id) := by
  unfold Transition.apply
  split
  · exact rfl
  · split
    · trivial
    · refine Proc.Answers.bind _ fun count => ?_
      split
      · exact rfl
      · refine Proc.Answers.bind _ fun _ => ?_
        intro w
        dsimp only
        cases hfound : w.subscriptions.get read.id with
        | none => exact trivial
        | some s => exact (Table.get_eq_some.mp hfound).2

/-- What a reconciliation does about the row it has read. -/
def reconcileRow (answers : ProviderAnswers) (subscription : Subscription) :
    Service Subscription :=
  if subscription.status ≠ .active || (truthy subscription.providerSubscriptionId).isNone then
    return subscription
  else do
    let providerState ← attemptReconciliationRead answers
    if boundaryReached providerState subscription = false then
      return subscription
    else do
      let (updated, somethingScheduledApplied) ← applyPendingPlan providerState subscription
      applyPendingCancellation answers providerState updated somethingScheduledApplied

theorem reconcilePeriod_eq (answers : ProviderAnswers) (tenantId : Nat) :
    reconcilePeriod answers tenantId
      = getSubscriptionForTenant tenantId >>= reconcileRow answers := rfl

/-- The transitions of a reconciliation. The row is updated as it was first read, or as it is
once a downgrade has been applied to it. -/
theorem reconcileRow_commits (answers : ProviderAnswers) (s : Subscription)
    (hplan : ∀ period, (truthy s.pendingPlanId).isSome →
      allowed (applyScheduledDowngrade period none) s)
    (hcancel : ∀ u, u = s ∨ (u.id = s.id ∧ (truthy s.pendingPlanId).isSome) →
      u.cancelAtPeriodEnd = some true → allowed cancelAtBoundary u)
    (hrenew : ∀ period u, allowed (confirmRenewal period none) u) :
    (reconcileRow answers s).Commits (Applies allowed) := by
  unfold reconcileRow
  split
  · exact Proc.commits_pure _
  · have hread : (attemptReconciliationRead answers).Commits (Applies allowed) := by
      unfold attemptReconciliationRead
      split
      · exact Proc.commits_pure _
      · exact Proc.commits_throw _
    refine hread.bind fun state => ?_
    split
    · exact Proc.commits_pure _
    · have hpending : (applyPendingPlan state s).Commits (Applies allowed) ∧
          (applyPendingPlan state s).Answers fun found =>
            found.1 = s ∨ (found.1.id = s.id ∧ (truthy s.pendingPlanId).isSome) := by
        unfold applyPendingPlan
        split
        · next hsome =>
          refine ⟨(apply_commits (hplan _ hsome)).bind fun _ => Proc.commits_pure _, ?_⟩
          exact (apply_answers _ s).bind_answers fun a ha => .inr ⟨ha, hsome⟩
        · exact ⟨Proc.commits_pure _, .inl rfl⟩
      refine hpending.1.bind_answers hpending.2 fun found hfound => ?_
      dsimp only [applyPendingCancellation]
      split
      · next hdue =>
        simp only [Bool.and_eq_true, decide_eq_true_eq] at hdue
        split
        · exact Proc.commits_throw _
        · split
          · exact Proc.commits_pure _
          · exact (apply_commits (hcancel _ hfound hdue.2)).bind fun _ =>
              renewPeriod_commits _ _ _ hrenew
      · exact renewPeriod_commits _ _ _ hrenew

theorem reconcilePeriod_commits (answers : ProviderAnswers) (tenantId : Nat)
    (hplan : ∀ period s, allowed (applyScheduledDowngrade period none) s)
    (hcancel : ∀ s, s.cancelAtPeriodEnd = some true → allowed cancelAtBoundary s)
    (hrenew : ∀ period s, allowed (confirmRenewal period none) s) :
    (reconcilePeriod answers tenantId).Commits (Applies allowed) := by
  rw [reconcilePeriod_eq]
  refine (getSubscriptionForTenant_commits tenantId).bind fun s => ?_
  exact reconcileRow_commits answers s (fun period _ => hplan period s)
    (fun u _ => hcancel u) hrenew

/-- The transitions of the operations. -/
theorem flow_direct (op : Operation) (s : Subscription) :
    Direct planExists ((op.flow planExists).transition s) := by
  cases op with
  | upgrade toPlanId => exact .confirmUpgrade toPlanId
  | downgrade toPlanId => exact .scheduleDowngrade toPlanId
  | cancel atPeriodEnd =>
      cases atPeriodEnd with
      | true => exact .scheduleCancellation
      | false => exact .cancel
  | unscheduleCancellation => exact .unscheduleCancellation
  | resume =>
      change Direct planExists (resumeTransition s)
      unfold resumeTransition
      split
      · exact .recoverPayment
      · exact .reactivate

/-- What an operation does about the subscription it has read. -/
def Flow.proceed (flow : Flow) (provider : ProviderChange → ProviderCall) (s : Subscription) :
    Service Subscription :=
  if flow.settled s then
    return s
  else
    match flow.check s with
    | some err => throw err
    | none => do
        let change := flow.change (Flow.providerSubscriptionId s)
        let answer ← callProvider change (provider change)
        flow.conclude (provider change) s answer

theorem Flow.run_eq (flow : Flow) (provider : ProviderChange → ProviderCall) (tenantId : Nat) :
    flow.run provider tenantId
      = getSubscriptionForTenant tenantId >>= flow.proceed provider := rfl

theorem confirm_commits {flow : Flow} {s : Subscription} (hflow : allowed (flow.transition s) s) :
    (flow.confirm s).Commits (Applies allowed) :=
  (apply_commits hflow).bind fun _ => Proc.commits_pure _

/-- What follows the provider's answer is the local change or nothing. -/
theorem conclude_commits {flow : Flow} {s : Subscription} (hflow : allowed (flow.transition s) s)
    (provider : ProviderCall) (answer : Except ProviderError Unit) :
    (flow.conclude provider s answer).Commits (Applies allowed) := by
  unfold Flow.conclude
  split
  · exact confirm_commits hflow
  · unfold Flow.reconcileTimeout
    split
    · exact Proc.commits_throw _
    · split
      · exact Proc.commits_throw _
      · split
        · exact confirm_commits hflow
        · exact Proc.commits_throw _
  · exact Proc.commits_throw _

/-- The writes of the work of an operation. -/
inductive Works (allowed : Transition → Subscription → Prop) : Commit → (World → World) → Prop
  | apply {ℓ : Commit} {upd : World → World} (h : Applies allowed ℓ upd) : Works allowed ℓ upd
  | provider (change : ProviderChange) (provider : ProviderCall) :
      Works allowed (.provider change) (Proc.applied (applyChange change provider))

theorem proceed_commits {flow : Flow} {s : Subscription}
    (hflow : flow.settled s = false → flow.check s = none → allowed (flow.transition s) s)
    (provider : ProviderChange → ProviderCall) :
    (flow.proceed provider s).Commits (Works allowed) := by
  unfold Flow.proceed
  split
  · exact Proc.commits_pure _
  · next hsettled =>
    split
    · exact Proc.commits_throw _
    · next hcheck =>
      have hallowed := hflow (Bool.eq_false_iff.mpr hsettled) hcheck
      refine (Proc.commits_transact (.provider _ _)).bind fun answer => ?_
      exact (conclude_commits hallowed _ _).mono fun _ _ => .apply

theorem run_commits {flow : Flow}
    (hflow : ∀ s, flow.settled s = false → flow.check s = none → allowed (flow.transition s) s)
    (provider : ProviderChange → ProviderCall) (tenantId : Nat) :
    (flow.run provider tenantId).Commits (Works allowed) := by
  rw [Flow.run_eq]
  exact (getSubscriptionForTenant_commits tenantId).bind fun s => proceed_commits (hflow s) provider

/-- The key is claimed before the work is done. -/
theorem withIdempotency_commits {K : Commit → (World → World) → Prop} {tenantId userId : Nat}
    {endpoint key : String} {work : Service Subscription}
    (hclaim : K (.claimKey key) (Proc.applied (claim key userId endpoint tenantId)))
    (hwork : work.Commits K) : (withIdempotency tenantId userId endpoint key work).Commits K := by
  refine (Proc.commits_read _).bind fun existing => ?_
  split
  · split
    · exact Proc.commits_throw _
    · exact getSubscriptionForTenant_commits _
  · refine (Proc.commits_transact hclaim).bind fun claimed => ?_
    split
    · exact getSubscriptionForTenant_commits _
    · exact hwork

theorem orchestrate_commits (req : OperationRequest)
    (hflow : ∀ s, allowed ((req.operation.flow planExists).transition s) s) :
    (orchestrate planExists req).Commits (Writes parseDate allowed) := by
  refine withIdempotency_commits (.claim _ _ _ _) ?_
  refine (run_commits (fun s _ _ => hflow s) req.provider req.tenantId).mono fun ℓ upd h => ?_
  cases h with
  | apply h => exact .apply h
  | provider change provider => exact .provider change provider

/-- What is created is pending. -/
theorem createPendingSubscription_answers (tenantId : Nat) (planId : String) :
    (createPendingSubscription tenantId planId).Answers (·.status = .pending) := by
  have hinsert : (Proc.transact (.create tenantId) (insertPending tenantId planId) :
      Service Subscription).Answers (·.status = .pending) := by
    refine Proc.answers_transact fun w created w' htx => ?_
    rw [insertPending, Tx.bind_read] at htx
    obtain ⟨u, -, rfl, -⟩ := Slot.create_ok htx
    rfl
  exact hinsert.bind_answers fun created hcreated => Proc.Answers.bind _ fun _ => hcreated

section Creation

variable {K : Commit → (World → World) → Prop}
variable (hevent : ∀ e : SubscriptionEvent, K (.event { e with id := 0 }) (Proc.applied
  (Db.subscriptionEvents.create fun id => { e with id } : Transaction SubscriptionEvent)))
include hevent

theorem recordEvent_commits (e : SubscriptionEvent) : (recordEvent e).Commits K :=
  Proc.commits_transact (hevent e)

theorem confirmActivation_commits (input : Activation) (read : Subscription)
    (hactivate : read.status ≠ input.toStatus →
      isSubscriptionTransitionAllowed read.status input.toStatus = true →
      K (.transition .confirmActivation read) (Proc.applied (activate input read))) :
    (confirmActivation input read).Commits K := by
  unfold confirmActivation
  split
  · exact Proc.commits_pure _
  · next hne =>
    split
    · exact Proc.commits_throw _
    · next hcheck =>
      have hallowed : isSubscriptionTransitionAllowed read.status input.toStatus = true := by
        simpa [assertSubscriptionTransitionAllowed] using hcheck
      refine (Proc.commits_transact (hactivate hne hallowed)).bind fun count => ?_
      split
      · exact Proc.commits_pure _
      · refine (recordEvent_commits hevent _).bind fun _ => ?_
        exact (findUniqueOrThrow_commits _).bind fun _ => Proc.commits_pure _

/-- What is activated has just been created. -/
theorem createSubscription_commits_of {tenantId : Nat} {planId : String} {answer : Created}
    (hcreate : K (.create tenantId) (Proc.applied (insertPending tenantId planId)))
    (hactivate : ∀ input read, read.status = .pending → read.status ≠ input.toStatus →
      isSubscriptionTransitionAllowed read.status input.toStatus = true →
      K (.transition .confirmActivation read) (Proc.applied (activate input read))) :
    (createSubscription planExists tenantId planId answer).Commits K := by
  refine (Proc.commits_read _).bind fun existing => ?_
  split
  · exact Proc.commits_throw _
  · split
    · exact Proc.commits_throw _
    · split
      · exact Proc.commits_throw _
      · refine Proc.Commits.bind_answers ?_ (createPendingSubscription_answers tenantId planId)
          fun created hcreated => ?_
        · refine (Proc.commits_transact hcreate).bind fun created => ?_
          exact (recordEvent_commits hevent _).bind fun _ => Proc.commits_pure _
        · exact (confirmActivation_commits hevent _ _ (hactivate _ _ hcreated)).bind
            fun _ => Proc.commits_pure _

end Creation

theorem createSubscription_commits (tenantId : Nat) (planId : String) (answer : Created) :
    (createSubscription planExists tenantId planId answer).Commits
      (Writes parseDate allowed) :=
  createSubscription_commits_of (fun e => .apply (.event e)) (.create tenantId planId)
    fun input read _ hne hallowed => .activate input read hne hallowed

theorem settleAll_commits {t : Transition} {found : List Subscription}
    (h : ∀ s ∈ found, allowed t s) :
    (found.forM (settleOne t)).Commits (Applies allowed) := by
  induction found with
  | nil => exact Proc.commits_pure _
  | cons s found ih =>
      refine Proc.Commits.bind ?_ fun _ => ih fun x hx => h x (List.mem_cons_of_mem s hx)
      refine Proc.Commits.tryCatch ?_ fun _ => Proc.commits_pure _
      exact (apply_commits (h s List.mem_cons_self)).bind fun _ => Proc.commits_pure _

theorem runPass_commits {t : Transition} {find : Int → World → List Subscription}
    (h : ∀ now w, ∀ s ∈ find now w, allowed t s) :
    (runPass find (settleOne t)).Commits (Writes parseDate allowed) :=
  Proc.Commits.bind (Proc.commits_read _) fun now => fun w =>
    commits_writes (settleAll_commits (h now w))

/-- The transitions of all requests. -/
def direct (planExists : String → Bool) : Transition → Subscription → Prop :=
  fun t _ => Direct planExists t

/-- Whatever is asked for, its writes are listed. -/
theorem serve_commits (i : Nat) (call : Call) :
    (serve parseDate planExists i call).Commits (Writes parseDate (direct planExists)) := by
  cases call with
  | processOne id => exact processOne_commits id
  | runGraceExhaustion =>
      exact runPass_commits fun _ _ _ _ => .exhaustGrace
  | runCancellationExpiration =>
      exact runPass_commits fun _ _ _ _ => .expire
  | reconcilePeriod tenantId answers =>
      refine (commits_writes (reconcilePeriod_commits answers tenantId ?_ ?_ ?_)).bind fun _ =>
        Proc.commits_pure _
      · exact fun period _ => .applyScheduledDowngrade period
      · exact fun _ _ => .cancelAtBoundary
      · exact fun period _ => .confirmRenewal period
  | createSubscription tenantId planId answer =>
      exact (createSubscription_commits tenantId planId answer).bind fun _ => Proc.commits_pure _
  | orchestrate req =>
      exact (orchestrate_commits req (flow_direct req.operation)).bind fun _ =>
        Proc.commits_pure _
  | tick elapsed => exact Proc.commits_transact (Writes.tick elapsed)

end Writes

/-! ## One subscription -/

/-- What is said of a subscription, whatever the number of the event that says it. -/
def said (e : SubscriptionEvent) : SubscriptionEvent := { e with id := 0 }

/-- The events of a subscription, in the order of their creation. -/
def logOf (w : World) (d : Nat) : List SubscriptionEvent :=
  (w.subscriptionEvents.rows.filter (·.subscriptionId = d)).map said

/-- The row of a subscription and its events. -/
def view (w : World) (d : Nat) : Option Subscription × List SubscriptionEvent :=
  (w.subscriptions.get d, logOf w d)

/-- What a write does to the subscription `d`. -/
inductive Turn (allowed : Transition → Subscription → Prop) (ℓ : Commit) (now : Int) (d : Nat) :
    Option Subscription × List SubscriptionEvent →
      Option Subscription × List SubscriptionEvent → Prop
  | stay (v : Option Subscription × List SubscriptionEvent) : Turn allowed ℓ now d v v
  | create {tenantId : Nat} {planId : String} {log : List SubscriptionEvent}
      (hℓ : ℓ = .create tenantId) :
      Turn allowed ℓ now d (none, log) (some (pendingSubscription tenantId planId now d), log)
  | transition {t : Transition} {read r : Subscription} {log : List SubscriptionEvent}
      (ht : allowed t read) (hdue : Due t read) (hfinds : t.finds read r = true)
      (hd : read.id = d) (hℓ : ℓ = .transition t.method read) :
      Turn allowed ℓ now d (some r, log) (some (t.row now read r), log)
  | activate {input : Activation} {read r : Subscription} {log : List SubscriptionEvent}
      (hstatus : r.status = read.status)
      (hallowed : isSubscriptionTransitionAllowed read.status input.toStatus = true)
      (hd : read.id = d) (hℓ : ℓ = .transition .confirmActivation read) :
      Turn allowed ℓ now d (some r, log) (some { r with
        status := input.toStatus
        currentPeriodStart := some input.period.currentPeriodStart
        currentPeriodEnd := some input.period.currentPeriodEnd
        providerCustomerId := some input.providerCustomerId
        providerSubscriptionId := some input.providerSubscriptionId
        updatedAt := some now }, log)
  | event {e : SubscriptionEvent} {row : Option Subscription} {log : List SubscriptionEvent}
      (hd : e.subscriptionId = d) (hℓ : ℓ = .event e) :
      Turn allowed ℓ now d (row, log) (row, log ++ [e])
  | deliver {t : Transition} {r : Subscription} {log : List SubscriptionEvent} {id : Nat}
      (ht : Delivered now t) (hdue : Due t r) (hd : r.id = d)
      (hℓ : ℓ = .processBillingWebhook id) :
      Turn allowed ℓ now d (some r, log) (some (t.row now r r), log ++ [t.entry r 0])

/-- Rows are never deleted. -/
theorem Turn.row {allowed : Transition → Subscription → Prop} {ℓ : Commit} {now : Int} {d : Nat}
    {r : Subscription} {log : List SubscriptionEvent}
    {v : Option Subscription × List SubscriptionEvent} (h : Turn allowed ℓ now d (some r, log) v) :
    ∃ r', v.1 = some r' := by
  cases h with
  | stay | transition | activate | event | deliver => exact ⟨_, rfl⟩

theorem logOf_create {w : World} {row : Nat → SubscriptionEvent} {hk}
    {events : Table SubscriptionEvent} (h : w.subscriptionEvents.create row hk = some events)
    (d : Nat) :
    logOf { w with subscriptionEvents := events } d
      = logOf w d ++ if (row w.subscriptionEvents.nextKey).subscriptionId = d
          then [said (row w.subscriptionEvents.nextKey)] else [] := by
  simp only [logOf, Table.rows_create h, List.filter_append, List.map_append]
  by_cases hd : (row w.subscriptionEvents.nextKey).subscriptionId = d
  · simp [hd]
  · simp [hd]

/-- An update finds the row as it was read and rewrites it, or does nothing. -/
theorem compareAndSwap_cases (t : Transition) (read : Subscription) (w : World) :
    (∃ r u, w.subscriptions.get read.id = some r ∧ t.finds read r = true ∧
      t.compareAndSwap read w = .ok (1, { w with subscriptions := u }) ∧
      ∀ k, u.get k = if k = read.id then some (t.row w.now read r) else w.subscriptions.get k) ∨
    (∃ n, n ≠ 1 ∧ t.compareAndSwap read w = .ok (n, w) ∧
      ∀ r, w.subscriptions.get read.id = some r → t.finds read r = false) := by
  cases hr : w.subscriptions.get read.id with
  | none =>
      obtain ⟨u, hu⟩ := t.exists_update read w.now w.subscriptions
      have hzero : w.subscriptions.count (t.finds read) = 0 := by
        refine Table.count_eq_zero.mpr fun x hx => ?_
        by_contra hfound
        have hkey := Transition.finds_key (by simpa using hfound : t.finds read x = true)
        exact Table.get_eq_none.mp hr x hx hkey
      have hsame : u = w.subscriptions :=
        Table.update_eq_self hu (Table.count_eq_zero.mp hzero)
      refine .inr ⟨0, by decide, ?_, fun r h => by cases h⟩
      rw [Transition.compareAndSwap_eq hu, hzero, hsame]
  | some r =>
      cases hf : t.finds read r with
      | true =>
          obtain ⟨u, hcas, hu⟩ := Transition.compareAndSwap_hit hr hf
          exact .inl ⟨r, u, rfl, hf, hcas, hu⟩
      | false =>
          obtain ⟨n, hn, hcas⟩ := Transition.compareAndSwap_miss hr hf
          refine .inr ⟨n, hn, hcas, fun r' h => ?_⟩
          cases h
          exact hf

theorem record_view (t : Transition) (read : Subscription) (w : World) :
    ∃ e events, t.record read w = .ok (e, { w with subscriptionEvents := events }) ∧
      ∀ d, logOf { w with subscriptionEvents := events } d
        = logOf w d ++ if read.id = d then [t.entry read 0] else [] := by
  obtain ⟨events, hcreate⟩ : ∃ events,
      w.subscriptionEvents.create (t.entry read) (fun _ => rfl) = some events :=
    Table.exists_create fun _ _ h => h
  refine ⟨t.entry read w.subscriptionEvents.nextKey, events, ?_, fun d => logOf_create hcreate d⟩
  simp [Transition.record, Slot.create, Db.subscriptionEvents, hcreate]

section Deliver

variable {w w' : World} {r : Subscription}

/-- A method called inside a transaction with the row as it stands. -/
theorem apply_view (t : Transition) (hr : w.subscriptions.get r.id = some r)
    {result : TransitionResult}
    (h : (t.apply r : Transaction TransitionResult) w = .ok (result, w')) :
    w' = w ∨ (Due t r ∧ w'.now = w.now ∧
      ∀ d, view w' d = if r.id = d then (some (t.row w.now r r), logOf w d ++ [t.entry r 0])
        else view w d) := by
  unfold Transition.apply at h
  split at h
  · cases h
    exact .inl rfl
  · next hreached =>
    cases hcheck : t.check r with
    | some err =>
        rw [hcheck] at h
        cases h
    | none =>
      rw [hcheck] at h
      right
      obtain ⟨count, w₁, hcas, hrest⟩ := Tx.bind_ok.mp h
      obtain ⟨u, hhit, hu⟩ := Transition.compareAndSwap_hit hr (t.finds_self r)
      rw [Client.statement_tx] at hcas
      cases hhit.symm.trans hcas
      obtain ⟨e, events, hrecord, hlog⟩ := record_view t r { w with subscriptions := u }
      obtain ⟨e', w₂, hrecord', hfind⟩ := Tx.bind_ok.mp hrest
      rw [Client.statement_tx] at hrecord'
      cases hrecord.symm.trans hrecord'
      obtain ⟨found, w₃, hfound, hdone⟩ := Tx.bind_ok.mp hfind
      cases hdone
      have hw₃ : w' = { w with subscriptions := u, subscriptionEvents := events } := by
        obtain ⟨x, w₄, hquery, hmatch⟩ := Tx.bind_ok.mp hfound
        cases hquery
        dsimp only at hmatch
        cases hx : u.get r.id with
        | none =>
            rw [hx] at hmatch
            cases hmatch
        | some s =>
            rw [hx] at hmatch
            cases hmatch
            rfl
      subst hw₃
      refine ⟨⟨by simpa using hreached, hcheck⟩, rfl, fun d => ?_⟩
      have hd := hlog d
      simp only [view, hu d]
      by_cases hid : r.id = d
      · subst hid
        rw [if_pos rfl, if_pos rfl]
        rw [if_pos rfl] at hd
        exact congrArg (some (t.row w.now r r), ·) hd
      · rw [if_neg hid, if_neg (Ne.symm hid)]
        rw [if_neg hid, List.append_nil] at hd
        exact congrArg (w.subscriptions.get d, ·) hd

theorem closeEvent_view {id : Nat} {status : BillingWebhookEventStatus}
    {lastError : Option String} (h : closeEvent id status lastError w = .ok ((), w')) (d : Nat) :
    w'.now = w.now ∧ view w' d = view w d := by
  obtain ⟨now, w₁, hread, hrest⟩ := Tx.bind_ok.mp h
  cases hread
  obtain ⟨row, w₂, hupdate, hdone⟩ := Tx.bind_ok.mp hrest
  cases hdone
  obtain ⟨e, t, -, -, -, rfl⟩ := Slot.update_ok hupdate
  exact ⟨rfl, rfl⟩

theorem asked_delivered {parseDate : String → Option Int} {normalized : NormalizedBillingEvent}
    {status : SubscriptionStatus} {now : Int} {t : Transition}
    (h : asked parseDate normalized status now = some t) : Delivered now t := by
  unfold asked at h
  split at h
  · split at h
    · cases h
      exact .recoverPayment _
    · cases h
      exact .confirmRenewal _ _
  · unfold billingWebhookTransition at h
    split at h
    · cases h
      exact .recordPaymentFailure _
    · cases h
      exact .recoverPayment _
    · cases h
      exact .cancel _
    · cases h

/-- The transaction of a delivery does nothing to any subscription, or to one of them what the
delivery asks for. -/
theorem processEvent_view (parseDate : String → Option Int) {id : Nat}
    (h : processEvent parseDate id w = .ok ((), w')) :
    w'.now = w.now ∧ ((∀ d, view w' d = view w d) ∨
      ∃ e r t, lockedEvent id w = some e ∧
        resolveSubscription (extractEnvelope e.payload.payload) w = some r ∧
        isStale (eventTimestamp parseDate (extractEnvelope e.payload.payload) e.createdAt) r
          = false ∧
        asked parseDate e.payload r.status w.now = some t ∧ Due t r ∧
        ∀ d, view w' d = if r.id = d then (some (t.row w.now r r), logOf w d ++ [t.entry r 0])
          else view w d) := by
  cases hlock : lockedEvent id w with
  | none =>
      rw [processEvent_idle parseDate hlock] at h
      cases h
      exact ⟨rfl, .inl fun _ => rfl⟩
  | some e =>
      rw [processEvent, Tx.bind_read, hlock] at h
      dsimp only at h
      rw [Tx.bind_read] at h
      cases hres : resolveSubscription (extractEnvelope e.payload.payload) w with
      | none =>
          rw [hres] at h
          exact ⟨(closeEvent_view h 0).1, .inl fun d => (closeEvent_view h d).2⟩
      | some r =>
          rw [hres] at h
          dsimp only [applyLocked] at h
          split at h
          · exact ⟨(closeEvent_view h 0).1, .inl fun d => (closeEvent_view h d).2⟩
          · next hstale =>
            obtain ⟨result, w₁, hevent, hclose⟩ := Tx.bind_ok.mp h
            have hnow : w'.now = w₁.now := (closeEvent_view hclose 0).1
            have hview : ∀ d, view w' d = view w₁ d := fun d => (closeEvent_view hclose d).2
            rw [applyEvent_eq] at hevent
            cases hasked : asked parseDate e.payload r.status w.now with
            | none =>
                rw [hasked] at hevent
                cases hevent
                exact ⟨hnow, .inl hview⟩
            | some t =>
                rw [hasked] at hevent
                obtain rfl | ⟨hdue, hnow₁, hview₁⟩ :=
                  apply_view t (resolveSubscription_get hres) hevent
                · exact ⟨hnow, .inl hview⟩
                · refine ⟨hnow.trans hnow₁, .inr ⟨e, r, t, rfl, hres, ?_, hasked, hdue, ?_⟩⟩
                  · simpa using hstale
                  · exact fun d => (hview d).trans (hview₁ d)

/-- The transaction of a delivery changes at most one subscription. -/
theorem processEvent_turn (parseDate : String → Option Int)
    (allowed : Transition → Subscription → Prop)
    {id : Nat} (h : processEvent parseDate id w = .ok ((), w')) (d : Nat) :
    w'.now = w.now ∧ Turn allowed (.processBillingWebhook id) w.now d (view w d) (view w' d) := by
  obtain ⟨hnow, hsame | ⟨e, r, t, -, hres, -, hasked, hdue, hview⟩⟩ := processEvent_view parseDate h
  · refine ⟨hnow, ?_⟩
    rw [hsame d]
    exact .stay _
  · refine ⟨hnow, ?_⟩
    rw [hview d]
    split
    · next hd =>
      subst hd
      rw [view, resolveSubscription_get hres]
      exact .deliver (asked_delivered hasked) hdue rfl rfl
    · exact .stay _

end Deliver

/-- A transaction that is rolled back does nothing. -/
theorem applied_turn {allowed : Transition → Subscription → Prop} {ℓ : Commit} {w : World}
    {d : Nat} {α : Type} {tx : Transaction α} (h : ∀ a w', tx w = .ok (a, w') →
      w.now ≤ w'.now ∧ Turn allowed ℓ w.now d (view w d) (view w' d)) :
    w.now ≤ (Proc.applied tx w).now ∧
      Turn allowed ℓ w.now d (view w d) (view (Proc.applied tx w) d) := by
  cases htx : tx w with
  | ok result =>
      obtain ⟨a, w'⟩ := result
      rw [Proc.applied_ok htx]
      exact h a w' htx
  | error err =>
      rw [Proc.applied_error htx]
      exact ⟨le_rfl, .stay _⟩

/-- What a write does to each subscription. Only the clock's own write moves it. -/
theorem writes_turn {parseDate : String → Option Int}
    {allowed : Transition → Subscription → Prop} {ℓ : Commit} {upd : World → World}
    (h : Writes parseDate allowed ℓ upd) (w : World) (d : Nat) :
    (w.now ≤ (upd w).now) ∧ Turn allowed ℓ w.now d (view w d) (view (upd w) d) := by
  cases h with
  | create tenantId planId =>
      refine applied_turn fun s w' htx => ?_
      rw [insertPending, Tx.bind_read] at htx
      obtain ⟨u, hu, -, rfl⟩ := Slot.create_ok htx
      refine ⟨le_rfl, ?_⟩
      have hget : u.get d = if d = w.subscriptions.nextKey
          then some (pendingSubscription tenantId planId w.now d) else w.subscriptions.get d :=
        Table.get_create hu d
      have hview : view (Db.subscriptions.set u w) d = (u.get d, logOf w d) := rfl
      rw [hview, hget]
      split
      · next hd =>
        have hnone : w.subscriptions.get d = none := Table.get_eq_none_of_le (by omega)
        rw [view, hnone]
        exact .create rfl
      · exact .stay _
  | apply h =>
      cases h with
      | @transition t read ht hdue =>
          obtain ⟨r, u, hr, hfinds, hcas, hu⟩ | ⟨n, -, hcas, -⟩ := compareAndSwap_cases t read w
          · rw [Proc.applied_ok hcas]
            refine ⟨le_rfl, ?_⟩
            have hview : view { w with subscriptions := u } d = (u.get d, logOf w d) := rfl
            rw [hview, hu d]
            split
            · next hd =>
              subst hd
              rw [view, hr]
              exact .transition ht hdue hfinds rfl rfl
            · exact .stay _
          · rw [Proc.applied_ok hcas]
            exact ⟨le_rfl, .stay _⟩
      | event e =>
          refine applied_turn fun e' w' htx => ?_
          obtain ⟨events, hcreate, -, rfl⟩ := Slot.create_ok htx
          refine ⟨le_rfl, ?_⟩
          have hview : view (Db.subscriptionEvents.set events w) d
              = (w.subscriptions.get d, logOf { w with subscriptionEvents := events } d) := rfl
          rw [hview, logOf_create hcreate d]
          dsimp only
          split
          · next hd => exact .event hd rfl
          · rw [List.append_nil]
            exact .stay _
  | activate input read hne hallowed =>
      refine applied_turn fun n w' htx => ?_
      rw [activate, Tx.bind_read] at htx
      obtain ⟨u, hu, -, rfl⟩ := Slot.updateMany_ok htx
      refine ⟨le_rfl, ?_⟩
      have hview : view (Db.subscriptions.set u w) d = (u.get d, logOf w d) := rfl
      rw [hview, Table.get_update hu d]
      change Turn _ _ _ _ (w.subscriptions.get d, _) (Option.map _ (w.subscriptions.get d), _)
      cases hr : w.subscriptions.get d with
      | none => exact .stay _
      | some r =>
          rw [Option.map_some]
          split
          · next hfound =>
            simp only [Bool.and_eq_true, decide_eq_true_eq] at hfound
            have hid : r.id = d := (Table.get_eq_some.mp hr).2
            exact .activate hfound.2 hallowed (hfound.1.symm.trans hid) rfl
          · exact .stay _
  | process id =>
      refine applied_turn fun _ w' htx => ?_
      obtain ⟨hnow, hturn⟩ := processEvent_turn parseDate allowed htx d
      exact ⟨hnow.ge, hturn⟩
  | settle id data hdata =>
      refine applied_turn fun e w' htx => ?_
      rw [Tx.bind_read] at htx
      obtain ⟨e₀, events, -, -, -, rfl⟩ := Slot.update_ok htx
      exact ⟨le_rfl, .stay _⟩
  | claim key userId endpoint tenantId =>
      refine applied_turn fun claimed w' htx => ?_
      unfold Subscriptions.claim Slot.createOrIgnore at htx
      split at htx
      · cases htx
        exact ⟨le_rfl, .stay _⟩
      · cases htx
        exact ⟨le_rfl, .stay _⟩
  | provider change provider =>
      refine applied_turn fun answer w' htx => ?_
      obtain ⟨_, w₁, hmodify, hpure⟩ := Tx.bind_ok.mp htx
      cases hmodify
      cases hpure
      dsimp only
      split
      · exact ⟨le_rfl, .stay _⟩
      · exact ⟨le_rfl, .stay _⟩
  | tick elapsed =>
      refine ⟨?_, .stay _⟩
      change w.now ≤ w.now + elapsed
      omega

end PrintForge.Subscriptions
