import PrintForge.Relational.Selections
import PrintForge.Subscriptions.Outcomes

/-!
# A scheduled cancellation the provider does not accept

At the end of a period `reconcilePeriod` applies a scheduled downgrade, and then asks the provider
to cancel the subscription. When that call fails nothing more is done, and the next pass is to try
again. It does so where the row is as the pass has found it. A downgrade has by then moved the row
on to the next period, and no pass looks at it before that period is over.
-/

namespace PrintForge.Subscriptions

open Relational Concurrent JavaScript

/-! ## The rows a pass is for -/

def needsPeriodReconciliation (now : Int) (s : Subscription) : Bool :=
  s.status = .active && s.providerSubscriptionId.isSome && s.currentPeriodEnd.any (· ≤ now)

/-- The rows that are past the end of their period, the earliest first. -/
def findSubscriptionsNeedingPeriodReconciliation (now : Int) (w : World) : List Subscription :=
  ((w.subscriptions.findMany (needsPeriodReconciliation now)).insertionSort fun a b =>
    a.currentPeriodEnd.getD 0 ≤ b.currentPeriodEnd.getD 0).take schedulerBatchSize

/-- A row that a pass is for is still one of those of any later pass that finds the same rows. -/
theorem needsPeriodReconciliation_later {now later : Int} (hle : now ≤ later) {w w' : World}
    (hsame : w'.subscriptions = w.subscriptions) {s : Subscription}
    (h : s ∈ findSubscriptionsNeedingPeriodReconciliation now w) :
    s ∈ findSubscriptionsNeedingPeriodReconciliation later w' := by
  unfold findSubscriptionsNeedingPeriodReconciliation Table.findMany at h ⊢
  rw [hsame]
  refine mem_first_of_mem (fun a ha => ?_) (fun a _ b _ ha hb hlater => ?_) h
  · simp only [needsPeriodReconciliation, Bool.and_eq_true, Option.any_eq_true,
      decide_eq_true_eq] at ha ⊢
    obtain ⟨hrow, ends, hends, hpast⟩ := ha
    exact ⟨hrow, ends, hends, hpast.trans hle⟩
  · simp only [needsPeriodReconciliation, Bool.and_eq_true, Option.any_eq_true,
      decide_eq_true_eq, Bool.and_eq_false_imp] at ha hb hlater
    obtain ⟨-, ends, hends, hpast⟩ := ha
    obtain ⟨hrow, ends', hends', -⟩ := hlater
    have hfuture : ¬ ends' ≤ now := by
      have hnot := hb hrow
      rw [hends'] at hnot
      simpa using hnot
    rw [hends, hends', Option.getD_some, Option.getD_some]
    omega

/-! ## The pass -/

section Pass

variable {w : World} {s : Subscription} {answers : ProviderAnswers} {state : ProviderSubscription}

/-- The row once a scheduled downgrade has been applied. -/
def afterDowngrade (state : ProviderSubscription) (now : Int) (s : Subscription) : Subscription :=
  if (truthy s.pendingPlanId).isSome then
    (applyScheduledDowngrade state.period none).row now s s
  else s

theorem afterDowngrade_kept (state : ProviderSubscription) (now : Int) (s : Subscription) :
    (afterDowngrade state now s).toIdentity = s.toIdentity ∧
      (afterDowngrade state now s).status = s.status ∧
      (afterDowngrade state now s).cancelAtPeriodEnd = s.cancelAtPeriodEnd := by
  unfold afterDowngrade
  split
  · exact ⟨Transition.row_identity _ now s s, rfl, rfl⟩
  · exact ⟨rfl, rfl, rfl⟩

theorem applyPendingPlan_alone (state : ProviderSubscription)
    (hrow : w.subscriptions.get s.id = some s) (hactive : s.status = .active) :
    ∃ done w', (applyPendingPlan state s).alone w
        = (.ok (afterDowngrade state w.now s, done), w') ∧
      w'.subscriptions.get s.id = some (afterDowngrade state w.now s) ∧
      ((truthy s.pendingPlanId).isSome = false → w' = w) := by
  unfold applyPendingPlan afterDowngrade
  cases hplan : (truthy s.pendingPlanId).isSome with
  | false => exact ⟨false, w, rfl, hrow, fun _ => rfl⟩
  | true =>
      obtain ⟨plan, hplan'⟩ := Option.isSome_iff_exists.mp hplan
      have hpending : s.pendingPlanId = some plan := (Option.filter_eq_some_iff.mp hplan').1
      have hdue : Due (applyScheduledDowngrade state.period none) s := by
        refine ⟨by simp [applyScheduledDowngrade, hpending], ?_⟩
        simp [applyScheduledDowngrade, assertCurrentlyActive, hactive, Period.check,
          ProviderSubscription.period]
      obtain ⟨result, w', happly, hresult, hrewrites⟩ := apply_alone hrow hdue
      refine ⟨true, w', ?_, ?_, fun h => by cases h⟩
      · rw [if_pos rfl, if_pos rfl, Proc.alone_bind happly, hresult]
        rfl
      · have hget := hrewrites.get s.id
        have hid : ((applyScheduledDowngrade state.period none).row w.now s s).id = s.id :=
          congrArg Identity.id (Transition.row_identity _ w.now s s)
        rw [hid, if_pos rfl] at hget
        rw [if_pos rfl]
        exact hget

/-- An active subscription with a cancellation to come, of which the provider reports that the
period is over. -/
structure CancellationDue (w : World) (s : Subscription) (state : ProviderSubscription) :
    Prop where
  row : w.subscriptions.get s.id = some s
  active : s.status = .active
  linked : (truthy s.providerSubscriptionId).isSome = true
  scheduled : s.cancelAtPeriodEnd = some true
  boundary : boundaryReached state s = true

theorem ownSubscription_of_row (hrow : w.subscriptions.get s.id = some s) :
    ownSubscription s.tenantId w = some s := by
  have hmem := (Table.get_eq_some.mp hrow).1
  refine Table.findFirst_eq_some hmem (decide_eq_true rfl) fun x hx htenant => ?_
  exact Table.eq_of_clash hx hmem (.inl (of_decide_eq_true htenant))

/-- A pass that finds the period over applies the downgrade and then the cancellation. -/
theorem reconcilePeriod_alone (h : CancellationDue w s state)
    (hread : answers.subscription = some state) :
    ∃ done w', (reconcilePeriod answers s.tenantId).alone w
        = (applyPendingCancellation answers state (afterDowngrade state w.now s) done).alone w' ∧
      w'.subscriptions.get s.id = some (afterDowngrade state w.now s) ∧
      ((truthy s.pendingPlanId).isSome = false → w' = w) := by
  obtain ⟨done, w', hplan, hrow, hsame⟩ := applyPendingPlan_alone state h.row h.active
  refine ⟨done, w', ?_, hrow, hsame⟩
  have hnone : (truthy s.providerSubscriptionId).isNone = false :=
    Option.isNone_eq_false_iff.mpr h.linked
  rw [reconcilePeriod,
    Proc.alone_bind (getSubscriptionForTenant_alone (ownSubscription_of_row h.row)), h.active,
    hnone, if_neg (by simp), attemptReconciliationRead, hread]
  change (if boundaryReached state s = false then pure s else _ : Service Subscription).alone w = _
  rw [h.boundary, if_neg Bool.true_eq_false.mp, Proc.alone_bind hplan]

/-- A cancellation that fails leaves the row as the downgrade has left it. -/
theorem reconcilePeriod_fails (h : CancellationDue w s state)
    (hread : answers.subscription = some state) (hfails : answers.cancels = false) :
    ((reconcilePeriod answers s.tenantId).alone w).2.subscriptions.get s.id
        = some (afterDowngrade state w.now s) ∧
      ((truthy s.pendingPlanId).isSome = false →
        ((reconcilePeriod answers s.tenantId).alone w).2 = w) := by
  obtain ⟨done, w', hrun, hrow, hsame⟩ := reconcilePeriod_alone h hread
  obtain ⟨hidentity, hstatus, hflag⟩ := afterDowngrade_kept state w.now s
  have hlink : (truthy (afterDowngrade state w.now s).providerSubscriptionId).isNone = false := by
    rw [show (afterDowngrade state w.now s).providerSubscriptionId = s.providerSubscriptionId from
      congrArg Identity.providerSubscriptionId hidentity]
    exact Option.isNone_eq_false_iff.mpr h.linked
  have hend : (applyPendingCancellation answers state (afterDowngrade state w.now s) done).alone w'
      = (.ok (afterDowngrade state w.now s), w') := by
    rw [applyPendingCancellation, hstatus, hflag, h.active, h.scheduled, hlink, hfails]
    rfl
  rw [hrun, hend]
  exact ⟨hrow, hsame⟩

/-- A cancellation that is accepted cancels the subscription. -/
theorem reconcilePeriod_cancels (h : CancellationDue w s state)
    (hread : answers.subscription = some state) (haccepted : answers.cancels = true) :
    (((reconcilePeriod answers s.tenantId).alone w).2.subscriptions.get s.id).map (·.status)
      = some .cancelled := by
  obtain ⟨done, w', hrun, hrow, -⟩ := reconcilePeriod_alone h hread
  obtain ⟨hidentity, hstatus, hflag⟩ := afterDowngrade_kept state w.now s
  generalize afterDowngrade state w.now s = u at *
  have hid : u.id = s.id := congrArg Identity.id hidentity
  have hlink : (truthy u.providerSubscriptionId).isNone = false := by
    rw [show u.providerSubscriptionId = s.providerSubscriptionId from
      congrArg Identity.providerSubscriptionId hidentity]
    exact Option.isNone_eq_false_iff.mpr h.linked
  have hdue : Due cancelAtBoundary u := by
    refine ⟨?_, ?_⟩
    · simp [cancelAtBoundary, cancel, hstatus, h.active]
    · simp [cancelAtBoundary, cancel, hstatus, h.active, assertSubscriptionTransitionAllowed,
        isSubscriptionTransitionAllowed, subscriptionStateTransitions]
  rw [← hid] at hrow ⊢
  obtain ⟨result, w₂, happly, hresult, hrewrites⟩ := apply_alone hrow hdue
  have hend : (applyPendingCancellation answers state u done).alone w'
      = (.ok result.subscription, w₂) := by
    rw [applyPendingCancellation, hstatus, hflag, h.active, h.scheduled, hlink, haccepted]
    exact (Proc.alone_bind happly).trans rfl
  rw [hrun, hend]
  have hget := hrewrites.get u.id
  rw [show (cancelAtBoundary.row w'.now u u).id = u.id from
    congrArg Identity.id (Transition.row_identity _ w'.now u u), if_pos rfl] at hget
  dsimp only
  rw [hget]
  rfl

/-- A pass that does not find the period over leaves everything as it is. -/
theorem reconcilePeriod_early (hrow : w.subscriptions.get s.id = some s)
    (hread : answers.subscription = some state) (hearly : boundaryReached state s = false) :
    ((reconcilePeriod answers s.tenantId).alone w).2 = w := by
  rw [reconcilePeriod,
    Proc.alone_bind (getSubscriptionForTenant_alone (ownSubscription_of_row hrow))]
  split
  · rfl
  · rw [attemptReconciliationRead, hread]
    change ((if boundaryReached state s = false then pure s else _ :
      Service Subscription).alone w).2 = w
    rw [hearly, if_pos rfl]
    rfl

end Pass

/-! ## What is left for the next pass -/

/-- Every later pass is for the row, and cancels the subscription as soon as the provider accepts
it, which still reports that period or a later one. -/
def RetriedAtOnce (s : Subscription) (state : ProviderSubscription) (now : Int) (w : World) :
    Prop :=
  ∀ later, now ≤ later →
    (∃ r, w.subscriptions.get s.id = some r ∧ needsPeriodReconciliation later r = true) ∧
      ∀ state' : ProviderSubscription, state.currentPeriodStart ≤ state'.currentPeriodStart →
        (((reconcilePeriod ⟨some state', true⟩ s.tenantId).alone
          { w with now := later }).2.subscriptions.get s.id).map (·.status) = some .cancelled

section Retry

variable {w : World} {s : Subscription} {answers : ProviderAnswers} {state : ProviderSubscription}

theorem CancellationDue.provider (h : CancellationDue w s state) :
    s.providerSubscriptionId.isSome = true := by
  obtain ⟨name, hname⟩ := Option.isSome_iff_exists.mp h.linked
  rw [(Option.filter_eq_some_iff.mp hname).1]
  rfl

/-- A row that is past the end of its period, and that the provider has gone beyond, is retried. -/
theorem retried_of_due {w' : World} {r : Subscription}
    (hrow : w'.subscriptions.get s.id = some r) (hid : r.toIdentity = s.toIdentity)
    (hactive : r.status = .active) (hflag : r.cancelAtPeriodEnd = some true)
    (hlinked : (truthy s.providerSubscriptionId).isSome = true) {ends now : Int}
    (hends : r.currentPeriodEnd = some ends) (hpast : ends ≤ now)
    (hbeyond : ends ≤ state.currentPeriodStart) : RetriedAtOnce s state now w' := by
  intro later hlater
  have hsame : r.id = s.id ∧ r.tenantId = s.tenantId ∧
      r.providerSubscriptionId = s.providerSubscriptionId :=
    ⟨congrArg Identity.id hid, congrArg Identity.tenantId hid,
      congrArg Identity.providerSubscriptionId hid⟩
  refine ⟨⟨r, hrow, ?_⟩, fun state' hstate => ?_⟩
  · obtain ⟨name, hname⟩ := Option.isSome_iff_exists.mp hlinked
    have hprovider : r.providerSubscriptionId = some name :=
      hsame.2.2.trans (Option.filter_eq_some_iff.mp hname).1
    simp [needsPeriodReconciliation, hactive, hprovider, hends, hpast.trans hlater]
  · have hdue : CancellationDue { w' with now := later } r state' := by
      refine ⟨?_, hactive, ?_, hflag, ?_⟩
      · rw [hsame.1]
        exact hrow
      · rw [hsame.2.2]
        exact hlinked
      · simp [boundaryReached, hends, hbeyond.trans hstate]
    have hcancelled : (((reconcilePeriod ⟨some state', true⟩ r.tenantId).alone
        { w' with now := later }).2.subscriptions.get r.id).map (·.status) = some .cancelled :=
      reconcilePeriod_cancels hdue rfl rfl
    rw [hsame.1, hsame.2.1] at hcancelled
    exact hcancelled

/-- A row that has been moved on waits for the end of the period it has been moved to. -/
theorem needsPeriodReconciliation_moved (h : CancellationDue w s state)
    (hplan : (truthy s.pendingPlanId).isSome = true) (now later : Int) :
    needsPeriodReconciliation later (afterDowngrade state now s) = true ↔
      state.currentPeriodEnd ≤ later := by
  have hactive : (afterDowngrade state now s).status = .active :=
    (afterDowngrade_kept state now s).2.1.trans h.active
  have hprovider : (afterDowngrade state now s).providerSubscriptionId.isSome = true := by
    rw [show (afterDowngrade state now s).providerSubscriptionId = s.providerSubscriptionId from
      congrArg Identity.providerSubscriptionId (afterDowngrade_kept state now s).1]
    exact h.provider
  have hends : (afterDowngrade state now s).currentPeriodEnd = some state.currentPeriodEnd := by
    rw [afterDowngrade, if_pos hplan]
    rfl
  simp [needsPeriodReconciliation, hactive, hprovider, hends]

/-- After a cancellation that the provider has not accepted the next pass tries again exactly
where no downgrade was pending, or the period the provider reports is over before it has begun.
With a downgrade the subscription is looked at again when that period ends; without one it stays
among the rows of the pass. -/
theorem failed_cancellation_retried_iff (h : CancellationDue w s state)
    (hended : ∃ ends, s.currentPeriodEnd = some ends ∧ ends ≤ w.now)
    (hread : answers.subscription = some state) (hfails : answers.cancels = false) :
    (RetriedAtOnce s state w.now ((reconcilePeriod answers s.tenantId).alone w).2 ↔
      truthy s.pendingPlanId = none ∨
        (state.currentPeriodEnd ≤ w.now ∧ state.currentPeriodEnd ≤ state.currentPeriodStart)) ∧
    (truthy s.pendingPlanId ≠ none → ∀ later,
      (∃ r, ((reconcilePeriod answers s.tenantId).alone w).2.subscriptions.get s.id = some r ∧
        needsPeriodReconciliation later r = true) ↔ state.currentPeriodEnd ≤ later) ∧
    (truthy s.pendingPlanId = none → s ∈ findSubscriptionsNeedingPeriodReconciliation w.now w →
      ∀ later, w.now ≤ later → s ∈ findSubscriptionsNeedingPeriodReconciliation later
        ((reconcilePeriod answers s.tenantId).alone w).2) := by
  obtain ⟨hleft, hsame⟩ := reconcilePeriod_fails h hread hfails
  have hnone : truthy s.pendingPlanId = none ↔ (truthy s.pendingPlanId).isSome = false := by
    rw [Option.isSome_eq_false_iff, Option.isNone_iff_eq_none]
  have hmoved : truthy s.pendingPlanId ≠ none → ∀ later,
      (∃ r, ((reconcilePeriod answers s.tenantId).alone w).2.subscriptions.get s.id = some r ∧
        needsPeriodReconciliation later r = true) ↔ state.currentPeriodEnd ≤ later := by
    intro hplan later
    rw [← needsPeriodReconciliation_moved h (Option.isSome_iff_ne_none.mpr hplan) w.now later]
    constructor
    · rintro ⟨r, hr, hneeds⟩
      cases hleft.symm.trans hr
      exact hneeds
    · exact fun hneeds => ⟨_, hleft, hneeds⟩
  refine ⟨⟨fun hretried => ?_, ?_⟩, hmoved, fun hplan hselected later hlater => ?_⟩
  · by_cases hplan : truthy s.pendingPlanId = none
    · exact .inl hplan
    -- the row must be found at once, and found over by the report that moved it on
    · refine .inr ⟨(hmoved hplan w.now).mp (hretried w.now le_rfl).1, ?_⟩
      by_contra hbeyond
      have hsome : (truthy s.pendingPlanId).isSome = true := Option.isSome_iff_ne_none.mpr hplan
      obtain ⟨hidentity, hstatus, -⟩ := afterDowngrade_kept state w.now s
      have hearly : boundaryReached state (afterDowngrade state w.now s) = false := by
        rw [boundaryReached, afterDowngrade, if_pos hsome]
        exact decide_eq_false hbeyond
      have hcancelled := (hretried w.now le_rfl).2 state le_rfl
      generalize ((reconcilePeriod answers s.tenantId).alone w).2 = w' at hleft hcancelled
      generalize afterDowngrade state w.now s = u at *
      have hid : u.id = s.id := congrArg Identity.id hidentity
      have htenant : u.tenantId = s.tenantId := congrArg Identity.tenantId hidentity
      have hrow : ({ w' with now := w.now } : World).subscriptions.get u.id = some u := by
        rw [hid]
        exact hleft
      have hkept : ((reconcilePeriod ⟨some state, true⟩ u.tenantId).alone
          { w' with now := w.now }).2 = { w' with now := w.now } :=
        reconcilePeriod_early hrow rfl hearly
      rw [htenant] at hkept
      rw [hkept] at hcancelled
      change (w'.subscriptions.get s.id).map _ = _ at hcancelled
      rw [hleft, Option.map_some, hstatus, h.active] at hcancelled
      cases hcancelled
  · obtain ⟨hidentity, hstatus, hflag⟩ := afterDowngrade_kept state w.now s
    obtain ⟨ends, hends, hpast⟩ := hended
    have hboundary := h.boundary
    rw [boundaryReached, hends, Option.any_some, decide_eq_true_eq] at hboundary
    rintro (hplan | ⟨hover, hempty⟩)
    · have hrow : afterDowngrade state w.now s = s := by
        rw [afterDowngrade, hplan]
        rfl
      rw [hrow] at hleft
      exact retried_of_due hleft rfl h.active h.scheduled h.linked hends hpast hboundary
    · cases hplan : (truthy s.pendingPlanId).isSome with
      | false =>
          have hrow : afterDowngrade state w.now s = s := by
            rw [afterDowngrade, hplan]
            rfl
          rw [hrow] at hleft
          exact retried_of_due hleft rfl h.active h.scheduled h.linked hends hpast hboundary
      | true =>
          have hmovedEnd : (afterDowngrade state w.now s).currentPeriodEnd
              = some state.currentPeriodEnd := by
            rw [afterDowngrade, if_pos hplan]
            rfl
          exact retried_of_due hleft hidentity (hstatus.trans h.active) (hflag.trans h.scheduled)
            h.linked hmovedEnd hover hempty
  · exact needsPeriodReconciliation_later hlater
      (by rw [hsame (hnone.mp hplan)]) hselected

end Retry

/-! The end of a month, with a cancellation to come and perhaps a downgrade. -/

def leaving (pendingPlanId : Option String) : Subscription where
  id := 0
  tenantId := 0
  providerCustomerId := some "cust_1"
  providerSubscriptionId := some "sub_1"
  planId := "pro"
  pendingPlanId := pendingPlanId
  status := .active
  currentPeriodStart := some 0
  currentPeriodEnd := some 1000
  cancelAtPeriodEnd := some true
  graceEndsAt := none
  retentionEndsAt := none
  updatedAt := some 0

def leavingTenant (pendingPlanId : Option String) : World where
  now := 1005
  subscriptions := ⟨[leaving pendingPlanId], 1, by simp [leaving, Schema.key],
    List.pairwise_singleton ..⟩
  subscriptionEvents := .empty
  billingWebhookEvents := .empty

/-- The provider reports the second month and does not accept the cancellation. -/
def unwilling : ProviderAnswers := ⟨some ⟨1000, 2000⟩, false⟩

theorem leaving_due (pendingPlanId : Option String) :
    CancellationDue (leavingTenant pendingPlanId) (leaving pendingPlanId) ⟨1000, 2000⟩ where
  row := by simp [leavingTenant, leaving, Table.get, Schema.key]
  active := rfl
  linked := (by decide : (truthy (some "sub_1")).isSome = true)
  scheduled := rfl
  boundary := by simp [boundaryReached, leaving]

/-- Without a downgrade the next pass tries again. -/
theorem failed_cancellation_retried_plain :
    RetriedAtOnce (leaving none) ⟨1000, 2000⟩ 1005
      ((reconcilePeriod unwilling 0).alone (leavingTenant none)).2 :=
  (failed_cancellation_retried_iff (leaving_due none) ⟨1000, rfl, by decide⟩ rfl rfl).1.mpr
    (.inl rfl)

/-- With one the subscription is on the new plan, the cancellation still to come, and no pass of
the second month looks at it. -/
theorem failed_cancellation_waits_for_downgrade :
    CancellationDue (leavingTenant (some "basic")) (leaving (some "basic")) ⟨1000, 2000⟩ ∧
      ¬ RetriedAtOnce (leaving (some "basic")) ⟨1000, 2000⟩ 1005
        ((reconcilePeriod unwilling 0).alone (leavingTenant (some "basic"))).2 ∧
      (∀ later, later < 2000 → ∀ r,
        ((reconcilePeriod unwilling 0).alone (leavingTenant (some "basic"))).2.subscriptions.get 0
          = some r → needsPeriodReconciliation later r = false) ∧
      ((((reconcilePeriod unwilling 0).alone (leavingTenant (some "basic"))).2.subscriptions.get
        0).any fun r => r.status = .active && r.cancelAtPeriodEnd = some true) = true := by
  have hdue := leaving_due (some "basic")
  have hleft :
      ((reconcilePeriod unwilling 0).alone (leavingTenant (some "basic"))).2.subscriptions.get 0
        = some (afterDowngrade ⟨1000, 2000⟩ 1005 (leaving (some "basic"))) :=
    (reconcilePeriod_fails hdue rfl rfl).1
  have hwaits : ∀ later, later < 2000 → ∀ r,
      ((reconcilePeriod unwilling 0).alone (leavingTenant (some "basic"))).2.subscriptions.get 0
        = some r → needsPeriodReconciliation later r = false := by
    intro later hlater r hr
    cases hleft.symm.trans hr
    refine Bool.eq_false_of_not_eq_true fun hneeds => ?_
    have hends := (needsPeriodReconciliation_moved hdue (by decide) 1005 later).mp hneeds
    exact absurd hends (Int.not_le.mpr hlater)
  refine ⟨hdue, fun hretried => ?_, hwaits, by decide +kernel⟩
  obtain ⟨r, hr, hneeds⟩ := (hretried 1005 le_rfl).1
  rw [hwaits 1005 (by decide) r hr] at hneeds
  cases hneeds

end PrintForge.Subscriptions
