import PrintForge.Concurrent.Discipline
import PrintForge.Subscriptions.Steps

/-!
# Changes scheduled for the end of a period

A downgrade or a cancellation that was scheduled is applied by `reconcilePeriod`, which finds
out from the provider that the period is over. A delivered renewal says the same and moves the
period on by itself. The two may come in either order, or in between each other.

`settled` is what `reconcilePeriod` makes of a row by itself. In the discipline for the one pass
and any number of workers on the delivery, the outcome depends on the row that the pass reads,
which is the row as it was or with the period the delivery names.
-/

namespace PrintForge.Subscriptions

open Relational Concurrent JavaScript

/-! ## The outcome of one pass -/

/-- The plan of a tenant and whether it is cancelled. -/
def standing (tenantId : Nat) (w : World) : Option (String × SubscriptionStatus) :=
  (w.subscriptions.findFirst (·.tenantId = tenantId)).map fun s => (s.planId, s.status)

section Settled

variable (answers : ProviderAnswers)

/-- The provider has gone beyond the end of a period. -/
def crossed (periodEnd : Option Int) : Bool :=
  answers.subscription.any fun state => periodEnd.any (· ≤ state.currentPeriodStart)

/-- The plan that is in force after the end of the period. -/
def planAfter (s : Subscription) : String := (truthy s.pendingPlanId).getD s.planId

def statusAfter (s : Subscription) : SubscriptionStatus :=
  if s.cancelAtPeriodEnd = some true && answers.cancels then .cancelled else .active

/-- What a pass over an active subscription leaves. -/
def settled (s : Subscription) : String × SubscriptionStatus :=
  if (truthy s.providerSubscriptionId).isSome && crossed answers s.currentPeriodEnd then
    (planAfter s, statusAfter answers s)
  else
    (s.planId, .active)

end Settled

/-! ## The discipline -/

/-- What the pass depends on, apart from the period. -/
structure Core (r r' : Subscription) : Prop where
  identity : r'.toIdentity = r.toIdentity
  planId : r'.planId = r.planId
  pendingPlanId : r'.pendingPlanId = r.pendingPlanId
  status : r'.status = r.status
  cancelAtPeriodEnd : r'.cancelAtPeriodEnd = r.cancelAtPeriodEnd

theorem core_refl (r : Subscription) : Core r r := ⟨rfl, rfl, rfl, rfl, rfl⟩

theorem Core.trans {r r' r'' : Subscription} (h : Core r r') (h' : Core r' r'') : Core r r'' :=
  ⟨h'.identity.trans h.identity, h'.planId.trans h.planId,
    h'.pendingPlanId.trans h.pendingPlanId, h'.status.trans h.status,
    h'.cancelAtPeriodEnd.trans h.cancelAtPeriodEnd⟩

/-- What others may do to the row meanwhile. -/
structure Interference where
  may : Subscription → Subscription → Prop
  refl : ∀ r, may r r
  trans : ∀ {r r' r''}, may r r' → may r' r'' → may r r''
  core : ∀ {r r'}, may r r' → Core r r'

/-- Nobody else is about. -/
def noInterference : Interference where
  may r r' := r' = r
  refl _ := rfl
  trans h h' := h'.trans h
  core h := by
    subst h
    exact core_refl _

section Discipline

variable (s : Subscription) (e : BillingWebhookEvent) (I : Interference)

/-- The row keeps its identity and is not overdue; the delivery keeps its content. -/
structure Inv (w : World) : Prop where
  row : ∃ r, w.subscriptions.get s.id = some r ∧ r.toIdentity = s.toIdentity ∧
    r.status ≠ .pastDue
  delivery : ∃ e', w.billingWebhookEvents.get e.id = some e' ∧ e'.payload = e.payload ∧
    e'.createdAt = e.createdAt

/-- The row changes as the interference allows. -/
def RowKept (w w' : World) : Prop :=
  ∀ r, w.subscriptions.get s.id = some r →
    ∃ r', w'.subscriptions.get s.id = some r' ∧ I.may r r'

/-- The pass is served at place 0, and everybody else interferes as `I` allows. -/
def boundaryDiscipline : Discipline World Commit where
  inv := Inv s e
  ok _ _ := True
  rely i w w' := i = 0 → RowKept s I w w'
  guar i _ w w' := Inv s e w' ∧ (i ≠ 0 → RowKept s I w w')
  rely_refl _ _ _ r hr := ⟨r, hr, I.refl r⟩
  rely_trans h h' hi r hr := by
    obtain ⟨r₁, hr₁, hmay⟩ := h hi r hr
    obtain ⟨r₂, hr₂, hmay'⟩ := h' hi r₁ hr₁
    exact ⟨r₂, hr₂, I.trans hmay hmay'⟩
  inv_guar _ _ hg := hg.1
  rely_guar hij _ _ hg hj := hg.2 fun hi => hij (hi.trans hj.symm)

variable {s e I} {w w' : World}

/-- The row as it stands. -/
def At (s : Subscription) (P : Subscription → Prop) (w : World) : Prop :=
  ∃ r, w.subscriptions.get s.id = some r ∧ P r

/-- Others do not disturb what interference keeps. -/
def Stable (I : Interference) (P : Subscription → Prop) : Prop := ∀ r r', I.may r r' → P r → P r'

theorem At.later {P : Subscription → Prop} (h : At s P w) (hP : Stable I P)
    (hw : 0 = 0 → RowKept s I w w') : At s P w' := by
  obtain ⟨r, hr, hp⟩ := h
  obtain ⟨r', hr', hmay⟩ := hw rfl r hr
  exact ⟨r', hr', hP r r' hmay hp⟩

/-- Writes to other tables. -/
theorem Inv.of_subscriptions (h : Inv s e w) (hsub : w'.subscriptions = w.subscriptions)
    (hevents : w'.billingWebhookEvents = w.billingWebhookEvents) : Inv s e w' := by
  refine ⟨?_, ?_⟩
  · rw [hsub]
    exact h.row
  · rw [hevents]
    exact h.delivery

/-- What a method does after an update that found its row. -/
theorem applied_safe {t : Transition} {read : Subscription} {Q : Subscription → Prop}
    (hid : read.id = s.id) (hQ : Stable I Q) (h : At s Q w) :
    (boundaryDiscipline s e I).Safe 0
      (Discipline.Yields fun a w => Q a.subscription ∧ At s Q w)
      (t.applied read : Service TransitionResult) w := by
  refine Discipline.safe_transact (fun w₁ _ w₂ hl hinv _ hrecord => ?_)
    fun w₁ err _ _ _ herr => ?_
  · obtain ⟨record, events, hok⟩ := t.record_ok read w₁
    cases hok.symm.trans hrecord
    refine ⟨⟨hinv.of_subscriptions rfl rfl, fun h0 => absurd rfl h0⟩, fun _ => ?_⟩
    have hat : At s Q { w₁ with subscriptionEvents := events } := h.later hQ hl
    intro w₃ hl₃ _
    obtain ⟨r, hr, hq⟩ := hat.later hQ hl₃
    have hread : w₃.subscriptions.get read.id = some r := by
      rw [hid]
      exact hr
    simp only [hread]
    exact Discipline.safe_done fun w₄ hl₄ _ => ⟨_, rfl, hq, At.later ⟨r, hr, hq⟩ hQ hl₄⟩
  · obtain ⟨record, events, hok⟩ := t.record_ok read w₁
    cases hok.symm.trans herr

/-- A method called for the row, with what was read of it earlier. -/
theorem apply_safe {t : Transition} {read : Subscription} {P Q : Subscription → Prop}
    (hid : read.id = s.id) (hreached : t.reached read = false) (hcheck : t.check read = none)
    (hP : Stable I P) (hQ : Stable I Q)
    (hhit : ∀ now r, P r → t.finds read r = true →
      Q (t.row now read r) ∧ (t.row now read r).status ≠ .pastDue)
    (hmiss : ∀ r, P r → t.finds read r = false → Q r ∧ Q read) (h : At s P w) :
    (boundaryDiscipline s e I).Safe 0
      (Discipline.Yields fun a w => Q a.subscription ∧ At s Q w)
      (t.apply read : Service TransitionResult) w := by
  have hopen : (t.apply read : Service TransitionResult)
      = (do
        let count ← Proc.transact (Commit.transition t.method read) (t.compareAndSwap read)
        if count ≠ 1 then return Transition.unapplied read else t.applied read) := by
    rw [Transition.apply, hreached, hcheck]
    rfl
  rw [hopen]
  refine Discipline.safe_transact (fun w₁ n w₂ hl hinv _ hcas => ?_)
    fun w₁ err hl _ _ herr => ?_
  · obtain ⟨r, hr, hp⟩ := h.later hP hl
    have hread : w₁.subscriptions.get read.id = some r := by
      rw [hid]
      exact hr
    cases hf : t.finds read r with
    | true =>
        obtain ⟨u, hok, hu⟩ := Transition.compareAndSwap_hit hread hf
        cases hok.symm.trans hcas
        obtain ⟨hq, hstatus⟩ := hhit w₁.now r hp hf
        have hget : u.get s.id = some (t.row w₁.now read r) := by rw [hu, if_pos hid.symm]
        obtain ⟨r', hr', hidentity, -⟩ := hinv.row
        cases hr.symm.trans hr'
        refine ⟨⟨⟨⟨_, hget, ?_, hstatus⟩, hinv.delivery⟩, fun h0 => absurd rfl h0⟩, fun _ => ?_⟩
        · rw [t.row_identity]
          exact hidentity
        · exact applied_safe hid hQ ⟨_, hget, hq⟩
    | false =>
        obtain ⟨m, hm, hok⟩ := Transition.compareAndSwap_miss hread hf
        cases hok.symm.trans hcas
        obtain ⟨hq, hqread⟩ := hmiss r hp hf
        refine ⟨⟨hinv, fun h0 => absurd rfl h0⟩, fun _ => ?_⟩
        rw [Proc.onResult, if_pos hm]
        exact Discipline.safe_done fun w₃ hl₃ _ =>
          ⟨_, rfl, hqread, At.later ⟨r, hr, hq⟩ hQ hl₃⟩
  · obtain ⟨r, hr, -⟩ := h.later hP hl
    have hread : w₁.subscriptions.get read.id = some r := by
      rw [hid]
      exact hr
    cases hf : t.finds read r with
    | true =>
        obtain ⟨u, hok, -⟩ := Transition.compareAndSwap_hit hread hf
        cases hok.symm.trans herr
    | false =>
        obtain ⟨m, -, hok⟩ := Transition.compareAndSwap_miss hread hf
        cases hok.symm.trans herr

/-! ## The pass -/

theorem stable_may : Stable I (I.may s) := fun _ _ hmay h => I.trans h hmay

/-- The row has this plan and this status, and is otherwise as it was at the start. -/
structure Reached (s : Subscription) (plan : String) (status : SubscriptionStatus)
    (r : Subscription) : Prop where
  identity : r.toIdentity = s.toIdentity
  planId : r.planId = plan
  status : r.status = status
  cancelAtPeriodEnd : r.cancelAtPeriodEnd = s.cancelAtPeriodEnd

theorem stable_reached {plan : String} {status : SubscriptionStatus} :
    Stable I (Reached s plan status) := by
  intro r r' hmay h
  have hcore := I.core hmay
  exact ⟨hcore.identity.trans h.identity, hcore.planId.trans h.planId,
    hcore.status.trans h.status, hcore.cancelAtPeriodEnd.trans h.cancelAtPeriodEnd⟩

theorem Reached.id {plan : String} {status : SubscriptionStatus} {r : Subscription}
    (h : Reached s plan status r) : r.id = s.id := congrArg Identity.id h.identity

/-- A pass that does nothing more to a row leaves it so. -/
theorem safe_pure_reached {plan : String} {status : SubscriptionStatus} {α : Type} {a : α}
    (h : At s (Reached s plan status) w) :
    (boundaryDiscipline s e I).Safe 0 (fun w _ => At s (Reached s plan status) w)
      (pure a : Service α) w :=
  Discipline.safe_done fun _ hl _ => h.later stable_reached hl

theorem read_safe (hrow : At s (I.may s) w) :
    (boundaryDiscipline s e I).Safe 0
      (Discipline.Yields fun r w => I.may s r ∧ At s (I.may s) w)
      (getSubscriptionForTenant s.tenantId : Service Subscription) w := by
  intro w₁ hl hinv
  obtain ⟨r, hr, hmay⟩ := hrow.later stable_may hl
  have hfind : w₁.subscriptions.findFirst (·.tenantId = s.tenantId) = some r := by
    have hr' := (Table.get_eq_some.mp hr).1
    have htenant : r.tenantId = s.tenantId := congrArg Identity.tenantId (I.core hmay).identity
    refine Table.findFirst_eq_some hr' (decide_eq_true htenant) fun x hx hxt => ?_
    exact Table.eq_of_clash hx hr' (.inl ((of_decide_eq_true hxt).trans htenant.symm))
  simp only [hfind]
  exact Discipline.safe_done fun w₂ hl₂ _ =>
    ⟨r, rfl, hmay, At.later ⟨r, hr, hmay⟩ stable_may hl₂⟩

theorem assertCurrentlyActive_none {r : Subscription} (h : r.status = .active) :
    assertCurrentlyActive r = none := if_pos h

theorem period_check (state : ProviderSubscription) : state.period.check = none := rfl

/-- After the downgrade the row has the plan that is due. -/
theorem applyPendingPlan_safe {r : Subscription} (state : ProviderSubscription)
    (hactive : s.status = .active) (hinv : Inv s e w) (hr : I.may s r)
    (h : At s (I.may s) w) :
    (boundaryDiscipline s e I).Safe 0
      (Discipline.Yields fun a w => Reached s (planAfter s) .active a.1 ∧
        At s (Reached s (planAfter s) .active) w)
      (applyPendingPlan state r) w := by
  have hcore := I.core hr
  have hactive' : r.status = .active := hcore.status.trans hactive
  cases hplan : truthy r.pendingPlanId with
  | none =>
      have hafter : planAfter s = s.planId := by
        rw [planAfter, ← hcore.pendingPlanId, hplan, Option.getD_none]
      have hreached : ∀ x, I.may s x → Reached s (planAfter s) .active x := by
        intro x hx
        have hx := I.core hx
        exact ⟨hx.identity, hx.planId.trans hafter.symm, hx.status.trans hactive,
          hx.cancelAtPeriodEnd⟩
      rw [applyPendingPlan, hplan]
      refine Discipline.safe_done fun w₁ hl _ => ⟨_, rfl, hreached r hr, ?_⟩
      obtain ⟨x, hx, hmay⟩ := h.later stable_may hl
      exact ⟨x, hx, hreached x hmay⟩
  | some plan =>
      have hpending : r.pendingPlanId = some plan := (Option.filter_eq_some_iff.mp hplan).1
      have hafter : planAfter s = plan := by
        rw [planAfter, ← hcore.pendingPlanId, hplan, Option.getD_some]
      rw [applyPendingPlan, hplan, Option.isSome_some, if_pos rfl, hafter]
      have happly : (boundaryDiscipline s e I).Safe 0
          (Discipline.Yields fun a w =>
            Reached s plan .active a.subscription ∧ At s (Reached s plan .active) w)
          ((applyScheduledDowngrade state.period none).apply r : Service TransitionResult) w := by
        refine apply_safe (congrArg Identity.id hcore.identity) ?_ ?_ stable_may stable_reached
          ?_ ?_ h
        · simp [applyScheduledDowngrade, hpending]
        · simp [applyScheduledDowngrade, assertCurrentlyActive_none hactive', period_check]
        · intro now x hx _
          have hx := I.core hx
          have hstatus : x.status = .active := hx.status.trans hactive
          refine ⟨⟨?_, ?_, hstatus, hx.cancelAtPeriodEnd⟩, ?_⟩
          · exact (Transition.row_identity _ now r x).trans hx.identity
          · simp [Transition.row, applyScheduledDowngrade, hpending]
          · simp [Transition.row, applyScheduledDowngrade, hstatus]
        · intro x hx hmiss
          have hx := I.core hx
          have hid : x.id = r.id := congrArg Identity.id (hx.identity.trans hcore.identity.symm)
          simp [Transition.finds, applyScheduledDowngrade, hid, hx.status, hcore.status,
            hx.pendingPlanId, hcore.pendingPlanId] at hmiss
      refine happly.bind_yields hinv fun w₁ a _ ha => ?_
      exact Discipline.safe_done fun w₂ hl _ => ⟨_, rfl, ha.1, ha.2.later stable_reached hl⟩

/-- A renewal leaves plan and status. -/
theorem renewPeriod_safe {plan : String} {status : SubscriptionStatus} {u : Subscription}
    (state : ProviderSubscription) (done : Bool) (hstatus : status ≠ .pastDue)
    (hinv : Inv s e w) (hu : Reached s plan status u) (h : At s (Reached s plan status) w) :
    (boundaryDiscipline s e I).Safe 0 (fun w _ => At s (Reached s plan status) w)
      (renewPeriod state u done) w := by
  unfold renewPeriod
  split
  · next hdue =>
    have hactive : u.status = .active := by
      simp only [Bool.and_eq_true, decide_eq_true_eq] at hdue
      exact hdue.2
    by_cases hreached : (confirmRenewal state.period none).reached u = true
    · have hsame : ((confirmRenewal state.period none).apply u : Service TransitionResult)
          = pure (Transition.unapplied u) := by rw [Transition.apply, if_pos hreached]
      rw [hsame]
      exact safe_pure_reached h
    · have happly : (boundaryDiscipline s e I).Safe 0
          (Discipline.Yields fun a w =>
            Reached s plan status a.subscription ∧ At s (Reached s plan status) w)
          ((confirmRenewal state.period none).apply u : Service TransitionResult) w := by
        refine apply_safe hu.id (by simpa using hreached) ?_ stable_reached stable_reached ?_ ?_ h
        · simp [confirmRenewal, assertCurrentlyActive_none hactive, period_check]
        · intro now x hx _
          exact ⟨⟨(Transition.row_identity _ now u x).trans hx.identity, hx.planId, hx.status,
            hx.cancelAtPeriodEnd⟩, fun hp => hstatus (hx.status.symm.trans hp)⟩
        · exact fun x hx _ => ⟨hx, hu⟩
      exact happly.bind_yields hinv fun w₁ a _ ha => safe_pure_reached ha.2
  · exact safe_pure_reached h

/-- The rest of a pass that has found the period to be over. -/
theorem applyPendingCancellation_safe {plan : String} {u : Subscription}
    (answers : ProviderAnswers) (state : ProviderSubscription) (done : Bool)
    (hlinked : (truthy s.providerSubscriptionId).isSome = true) (hinv : Inv s e w)
    (hu : Reached s plan .active u) (h : At s (Reached s plan .active) w) :
    (boundaryDiscipline s e I).Safe 0
      (fun w _ => At s (Reached s plan (statusAfter answers s)) w)
      (applyPendingCancellation answers state u done) w := by
  have hlink : (truthy u.providerSubscriptionId).isNone = false := by
    rw [show u.providerSubscriptionId = s.providerSubscriptionId from
      congrArg Identity.providerSubscriptionId hu.identity]
    simpa using hlinked
  unfold applyPendingCancellation
  rw [hu.status, hu.cancelAtPeriodEnd, hlink]
  by_cases hflag : s.cancelAtPeriodEnd = some true
  · cases hcancels : answers.cancels with
    | false =>
        have hafter : statusAfter answers s = .active := by simp [statusAfter, hcancels]
        rw [hafter]
        simp only [hflag, decide_true, Bool.and_self, if_true]
        exact safe_pure_reached h
    | true =>
        have hafter : statusAfter answers s = .cancelled := by
          simp [statusAfter, hcancels, hflag]
        rw [hafter]
        simp only [hflag, decide_true, Bool.and_self, if_true]
        have happly : (boundaryDiscipline s e I).Safe 0
            (Discipline.Yields fun a w =>
              Reached s plan .cancelled a.subscription ∧ At s (Reached s plan .cancelled) w)
            (cancelAtBoundary.apply u : Service TransitionResult) w := by
          refine apply_safe hu.id ?_ ?_ stable_reached stable_reached ?_ ?_ h
          · simp [cancelAtBoundary, cancel, hu.status]
          · simp [cancelAtBoundary, cancel, hu.status, assertSubscriptionTransitionAllowed,
              isSubscriptionTransitionAllowed, subscriptionStateTransitions]
          · intro now x hx _
            exact ⟨⟨(Transition.row_identity _ now u x).trans hx.identity, hx.planId, rfl,
              hx.cancelAtPeriodEnd⟩, fun hp => by cases hp⟩
          · intro x hx hmiss
            simp [Transition.finds, cancelAtBoundary, cancel, hx.id, hu.id, hx.status,
              hu.status] at hmiss
        exact happly.bind_yields hinv fun w₁ a hinv₁ ha =>
          renewPeriod_safe state true (by decide) hinv₁ ha.1 ha.2
  · have hafter : statusAfter answers s = .active := by simp [statusAfter, hflag]
    rw [hafter]
    simp only [hflag, decide_true, decide_false, Bool.and_false, Bool.false_eq_true, if_false]
    exact renewPeriod_safe state done (by decide) hinv hu h

/-- The row is as a whole pass leaves it. -/
def Settled (answers : ProviderAnswers) (s : Subscription) (w : World) : Prop :=
  At s (fun r => (r.planId, r.status) = settled answers s) w

theorem Reached.outcome {answers : ProviderAnswers} {plan : String} {status : SubscriptionStatus}
    (h : At s (Reached s plan status) w) (hplan : settled answers s = (plan, status)) :
    Settled answers s w := by
  obtain ⟨r, hr, hreached⟩ := h
  refine ⟨r, hr, ?_⟩
  change (r.planId, r.status) = settled answers s
  rw [hplan, hreached.planId, hreached.status]

/-- Whatever the others do that does not decide the outcome, a pass that has ended has settled
the row. -/
theorem reconcilePeriod_safe (answers : ProviderAnswers) (hactive : s.status = .active)
    (hsame : ∀ r, I.may s r → settled answers r = settled answers s) (hinv : Inv s e w)
    (hrow : w.subscriptions.get s.id = some s) :
    (boundaryDiscipline s e I).Safe 0 (fun w _ => Settled answers s w)
      (reconcilePeriod answers s.tenantId) w := by
  refine (read_safe ⟨s, hrow, I.refl s⟩).bind_yields hinv fun w₁ r hinv₁ hread => ?_
  obtain ⟨hr, hat⟩ := hread
  have hcore := I.core hr
  have houtcome := hsame r hr
  have hlink : r.providerSubscriptionId = s.providerSubscriptionId :=
    congrArg Identity.providerSubscriptionId hcore.identity
  -- a pass that gives up leaves plan and status
  have hleft : At s (Reached s s.planId .active) w₁ := by
    obtain ⟨x, hx, hmay⟩ := hat
    have hcore := I.core hmay
    exact ⟨x, hx, hcore.identity, hcore.planId, hcore.status.trans hactive,
      hcore.cancelAtPeriodEnd⟩
  rw [settled, hlink] at houtcome
  rw [hcore.status, hactive, hlink]
  cases hlinked : (truthy s.providerSubscriptionId).isSome with
  | false =>
      rw [hlinked, Bool.false_and, if_neg Bool.false_ne_true, hcore.planId] at houtcome
      have hnone : (truthy s.providerSubscriptionId).isNone = true := by
        simpa using hlinked
      rw [hnone, if_pos (by simp)]
      exact (safe_pure_reached hleft).mono_post fun w₂ _ hw => Reached.outcome hw houtcome.symm
  | true =>
      have hnone : (truthy s.providerSubscriptionId).isNone = false := by
        simpa using hlinked
      rw [hlinked, Bool.true_and] at houtcome
      rw [hnone, if_neg (by simp)]
      cases hanswer : answers.subscription with
      | none =>
          rw [crossed, hanswer, Option.any_none, if_neg Bool.false_ne_true, hcore.planId]
            at houtcome
          rw [attemptReconciliationRead, hanswer]
          exact Discipline.safe_done fun w₂ hl _ =>
            Reached.outcome (hleft.later stable_reached hl) houtcome.symm
      | some state =>
          rw [attemptReconciliationRead, hanswer]
          rw [crossed, hanswer, Option.any_some] at houtcome
          change (boundaryDiscipline s e I).Safe 0 _
            (if boundaryReached state r = false then pure r else _) w₁
          rw [boundaryReached]
          cases hreached : r.currentPeriodEnd.any (· ≤ state.currentPeriodStart) with
          | false =>
              rw [hreached, if_neg Bool.false_ne_true, hcore.planId] at houtcome
              rw [if_pos rfl]
              exact (safe_pure_reached hleft).mono_post fun w₂ _ hw =>
                Reached.outcome hw houtcome.symm
          | true =>
              have hplan : planAfter r = planAfter s := by
                rw [planAfter, planAfter, hcore.pendingPlanId, hcore.planId]
              have hstatus : statusAfter answers r = statusAfter answers s := by
                rw [statusAfter, statusAfter, hcore.cancelAtPeriodEnd]
              rw [hreached, if_pos rfl, hplan, hstatus] at houtcome
              rw [if_neg Bool.true_eq_false.mp]
              refine (applyPendingPlan_safe state hactive hinv₁ hr hat).bind_yields hinv₁
                fun w₂ a hinv₂ ha => ?_
              obtain ⟨u, done⟩ := a
              exact (applyPendingCancellation_safe answers state done hlinked hinv₂ ha.1
                ha.2).mono_post fun w₃ _ hw => Reached.outcome hw houtcome.symm

theorem stable_settled {answers : ProviderAnswers} :
    Stable I fun r => (r.planId, r.status) = settled answers s := by
  intro r r' hmay h
  have hcore := I.core hmay
  change (r'.planId, r'.status) = settled answers s
  rw [hcore.planId, hcore.status]
  exact h

theorem Settled.standing {answers : ProviderAnswers} (h : Settled answers s w)
    (hinv : Inv s e w) : standing s.tenantId w = some (settled answers s) := by
  obtain ⟨r, hr, houtcome⟩ := h
  obtain ⟨r', hr', hidentity, -⟩ := hinv.row
  cases hr.symm.trans hr'
  have htenant : r.tenantId = s.tenantId := congrArg Identity.tenantId hidentity
  have hmem := (Table.get_eq_some.mp hr).1
  have hfind : w.subscriptions.findFirst (·.tenantId = s.tenantId) = some r := by
    refine Table.findFirst_eq_some hmem (decide_eq_true htenant) fun x hx hxt => ?_
    exact Table.eq_of_clash hx hmem (.inl ((of_decide_eq_true hxt).trans htenant.symm))
  rw [Subscriptions.standing, hfind, Option.map_some]
  exact congrArg some houtcome

theorem handle_reconcile_safe (parseDate : String → Option Int) (answers : ProviderAnswers)
    (hactive : s.status = .active)
    (hsame : ∀ r, I.may s r → settled answers r = settled answers s) (hinv : Inv s e w)
    (hrow : w.subscriptions.get s.id = some s) :
    (boundaryDiscipline s e I).Safe 0 (fun w _ => Settled answers s w)
      (handle parseDate 0 (.reconcilePeriod s.tenantId answers)) w := by
  refine (reconcilePeriod_safe answers hactive hsame hinv hrow).finish hinv fun w₁ r _ hw => ?_
  cases r with
  | ok a => exact Discipline.safe_done fun _ hl _ => At.later hw stable_settled hl
  | error err => exact Discipline.safe_done fun _ hl _ => At.later hw stable_settled hl

/-- What a pass by itself leaves. -/
theorem reconcile_alone (parseDate : String → Option Int) (answers : ProviderAnswers)
    (hactive : s.status = .active) (hinv : Inv s e w)
    (hrow : w.subscriptions.get s.id = some s) :
    standing s.tenantId ((handle parseDate 0 (.reconcilePeriod s.tenantId answers)).alone w).2
      = some (settled answers s) := by
  have hsafe := handle_reconcile_safe (I := noInterference) parseDate answers hactive
    (fun r hr => by rw [show r = s from hr]) hinv hrow
  obtain ⟨hinv', hsettled⟩ := hsafe.alone (fun _ _ => trivial) hinv
  exact hsettled.standing hinv'

end Discipline

/-! ## The delivery -/

section Delivery

variable (parseDate : String → Option Int) (e : BillingWebhookEvent)

/-- The period a renewal moves a subscription on to. -/
def renewal (s : Subscription) : Option Period :=
  if isStale (eventTimestamp parseDate (extractEnvelope e.payload.payload) e.createdAt) s then none
  else
    (renewalPeriod parseDate e.payload (extractEnvelope e.payload.payload)).filter fun period =>
      (confirmRenewal period none).reached s = false && period.check.isNone

variable {parseDate e}

theorem renewal_period {s : Subscription} {period : Period}
    (h : renewal parseDate e s = some period) :
    renewalPeriod parseDate e.payload (extractEnvelope e.payload.payload) = some period := by
  unfold renewal at h
  split at h
  · cases h
  · exact (Option.filter_eq_some_iff.mp h).1

variable (parseDate e)

/-- Workers on the delivery may move the period on. -/
def deliveryInterference : Interference where
  may r r' := r' = r ∨ ∃ period, renewal parseDate e r = some period ∧
    r'.currentPeriodEnd = period.currentPeriodEnd ∧ Core r r'
  refl _ := .inl rfl
  trans := by
    rintro r r' r'' (rfl | ⟨period, hperiod, hend, hcore⟩) h'
    · exact h'
    · obtain rfl | ⟨period', hperiod', hend', hcore'⟩ := h'
      · exact .inr ⟨period, hperiod, hend, hcore⟩
      · refine .inr ⟨period, hperiod, ?_, hcore.trans hcore'⟩
        cases (renewal_period hperiod).symm.trans (renewal_period hperiod')
        exact hend'
  core := by
    rintro r r' (rfl | ⟨-, -, -, hcore⟩)
    · exact core_refl _
    · exact hcore

variable {parseDate e}

/-- A renewal of an active subscription moves the period and nothing else. -/
theorem after_renewal {r : Subscription} {period : Period} {now : Int}
    (hactive : r.status = .active) (h : renewal parseDate e r = some period) :
    r.after parseDate e now
      = { r with currentPeriodStart := period.currentPeriodStart
                 currentPeriodEnd := period.currentPeriodEnd, updatedAt := some now } := by
  unfold renewal at h
  split at h
  · cases h
  · next hstale =>
    obtain ⟨hperiod, hopen⟩ := Option.filter_eq_some_iff.mp h
    simp only [Bool.and_eq_true, decide_eq_true_eq] at hopen
    have hreached : (confirmRenewal period (some e.payload.providerEventId)).reached r = false :=
      hopen.1
    have hcheck : (confirmRenewal period (some e.payload.providerEventId)).check r = none := by
      have hvalid : period.check = none := by simpa using hopen.2
      simp [confirmRenewal, assertCurrentlyActive_none hactive, hvalid]
    have hasked : asked parseDate e.payload r.status now
        = some (confirmRenewal period (some e.payload.providerEventId)) := by
      simp [asked, hperiod, hactive]
    rw [Subscription.after, if_neg hstale, hasked]
    simp only [Transition.settle, hreached, hcheck]
    rfl

/-- What a renewal does to a subscription that is not overdue. -/
theorem after_may {r : Subscription} (htype : e.payload.type = renewalEventType)
    (hstatus : r.status ≠ .pastDue) (now : Int) :
    (deliveryInterference parseDate e).may r (r.after parseDate e now) := by
  by_cases hstale : isStale (eventTimestamp parseDate (extractEnvelope e.payload.payload)
      e.createdAt) r = true
  · rw [Subscription.after, if_pos hstale]
    exact .inl rfl
  · rw [Subscription.after, if_neg hstale]
    cases hperiod : renewalPeriod parseDate e.payload (extractEnvelope e.payload.payload) with
    | none =>
        have hasked : asked parseDate e.payload r.status now = none := by
          simp [asked, hperiod, billingWebhookTransition, htype, renewalEventType]
        rw [hasked]
        exact .inl rfl
    | some period =>
        have hasked : asked parseDate e.payload r.status now
            = some (confirmRenewal period (some e.payload.providerEventId)) := by
          simp [asked, hperiod, hstatus]
        rw [hasked]
        simp only [Transition.settle]
        split
        · exact .inl rfl
        · next hreached =>
          split
          · exact .inl rfl
          · next hcheck =>
            have hvalid : period.check = none := by
              have hcheck : (confirmRenewal period (some e.payload.providerEventId)).check r
                  = none := by simpa using hcheck
              exact (Option.or_eq_none_iff.mp hcheck).2
            have hopen : (confirmRenewal period none).reached r = false :=
              Bool.eq_false_of_not_eq_true hreached
            refine .inr ⟨period, ?_, rfl, ⟨rfl, rfl, rfl, rfl, rfl⟩⟩
            rw [renewal, if_neg hstale, hperiod]
            simp [hvalid, hopen]

/-- Two deliveries of the same content ask for the same. -/
theorem after_congr {e' : BillingWebhookEvent} (hpayload : e'.payload = e.payload)
    (hcreated : e'.createdAt = e.createdAt) (now : Int) (r : Subscription) :
    r.after parseDate e' now = r.after parseDate e now := by
  unfold Subscription.after
  rw [hpayload, hcreated]

variable {s : Subscription} {w w' : World}

/-- An action of a worker on the delivery interferes as far as the delivery goes. -/
theorem Processes.guarantee (htype : e.payload.type = renewalEventType) (hinv : Inv s e w)
    (h : Processes parseDate e.id w w') :
    Inv s e w' ∧ RowKept s (deliveryInterference parseDate e) w w' := by
  obtain ⟨e₁, he₁, hpayload₁, hcreated₁⟩ := hinv.delivery
  obtain ⟨r, hr, hidentity, hstatus⟩ := hinv.row
  have hdelivery : ∃ e', w'.billingWebhookEvents.get e.id = some e' ∧ e'.payload = e.payload ∧
      e'.createdAt = e.createdAt := by
    obtain ⟨e₂, he₂, hpayload₂, hcreated₂⟩ := h.files.delivery e₁ he₁
    exact ⟨e₂, he₂, hpayload₂.trans hpayload₁, hcreated₂.trans hcreated₁⟩
  have hrow : ∃ r', w'.subscriptions.get s.id = some r' ∧
      (deliveryInterference parseDate e).may r r' := by
    obtain hsame | ⟨e', x, hlocked, hres, hset⟩ := h.subscriptions
    · exact ⟨r, by rw [hsame]; exact hr, .inl rfl⟩
    · have hid : (x.after parseDate e' w.now).id = x.id :=
        congrArg Identity.id (after_identity parseDate e' w.now x)
      by_cases hx : s.id = x.id
      · have hxr : x = r := by
          have hget := resolveSubscription_get hres
          rw [← hx, hr] at hget
          cases hget
          rfl
        obtain ⟨hget', -⟩ := lockedEvent_get hlocked
        cases he₁.symm.trans hget'
        refine ⟨_, (hset.get s.id).trans (if_pos (hx.trans hid.symm)), ?_⟩
        rw [hxr, after_congr hpayload₁ hcreated₁]
        exact after_may htype hstatus w.now
      · refine ⟨r, ?_, .inl rfl⟩
        rw [hset.get, if_neg fun heq => hx (heq.trans hid), hr]
  obtain ⟨r', hr', hmay⟩ := hrow
  have hcore := (deliveryInterference parseDate e).core hmay
  refine ⟨⟨⟨r', hr', hcore.identity.trans hidentity, ?_⟩, hdelivery⟩, ?_⟩
  · rw [hcore.status]
    exact hstatus
  · intro r₀ hr₀
    cases hr.symm.trans hr₀
    exact ⟨r', hr', hmay⟩

/-- The requests beside the pass: workers on the delivery, and time. -/
def besides (id : Nat) (req : Request) (_ : World) : Prop :=
  req = .processOne id ∨ ∃ elapsed, req = .tick elapsed

theorem besides_safe {req : Request} {i : Nat} {answers : ProviderAnswers}
    (htype : e.payload.type = renewalEventType) (hi : i ≠ 0) (hreq : besides e.id req w) :
    (boundaryDiscipline s e (deliveryInterference parseDate e)).Safe i
      (fun w _ => i = 0 → Settled answers s w) (handle parseDate i req) w := by
  have hwithin : (handle parseDate i req).Within fun _ w w' =>
      Processes parseDate e.id w w' ∨
        w'.subscriptions = w.subscriptions ∧ w'.billingWebhookEvents = w.billingWebhookEvents := by
    obtain rfl | ⟨elapsed, rfl⟩ := hreq
    · exact (processOne_within parseDate e.id).mono fun _ _ _ h => .inl h
    · unfold handle tick
      refine Proc.within_transact (fun w => .inr ⟨rfl, rfl⟩) fun w a w' h => ?_
      cases h
      exact .inr ⟨rfl, rfl⟩
  refine (Discipline.safe_of_within hwithin fun ℓ w w' hinv _ h => ?_).mono_post
    fun w r _ h0 => absurd h0 hi
  obtain h | ⟨hsub, hevents⟩ := h
  · obtain ⟨hinv', hkept⟩ := h.guarantee htype hinv
    exact ⟨hinv', fun _ => hkept⟩
  · refine ⟨hinv.of_subscriptions hsub hevents, fun _ r hr => ⟨r, ?_, .inl rfl⟩⟩
    rw [hsub]
    exact hr

end Delivery

end PrintForge.Subscriptions
