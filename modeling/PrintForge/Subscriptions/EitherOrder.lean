import PrintForge.Subscriptions.Boundary

/-!
# The pass and the renewal in either order

The pass that comes first applies what is due, if the provider has gone on by then and accepts.
Every order comes to the same unless the renewal overtakes the pass: it moves the period on, so
that the pass takes the boundary for one that is yet to come, or the other way round. A change
that is due is in effect in every order just where the pass that comes first applies it and is
not overtaken. Everywhere else, a renewal that moves the period on carries it over in some order.
-/

namespace PrintForge.Subscriptions

open Relational Concurrent JavaScript

/-- An active subscription at the end of a period, with a change scheduled for it, and a
renewal of it that waits to be processed. -/
structure AtBoundary (w : World) (s : Subscription) (e : BillingWebhookEvent) : Prop where
  row : w.subscriptions.get s.id = some s
  active : s.status = .active
  scheduled : s.pendingPlanId ≠ none ∨ s.cancelAtPeriodEnd = some true
  ended : ∃ periodEnd, s.currentPeriodEnd = some periodEnd ∧ periodEnd ≤ w.now
  waiting : lockedEvent e.id w = some e
  renewed : e.payload.type = renewalEventType
  about : resolveSubscription (extractEnvelope e.payload.payload) w = some s

theorem AtBoundary.inv {w : World} {s : Subscription} {e : BillingWebhookEvent}
    (h : AtBoundary w s e) : Inv s e w := by
  refine ⟨⟨s, h.row, rfl, ?_⟩, e, (lockedEvent_get h.waiting).1, rfl, rfl⟩
  rw [h.active]
  decide

section Order

variable (parseDate : String → Option Int) (answers : ProviderAnswers)

/-- The renewal moves the period past the boundary that a pass would have acted at. -/
structure Overtaken (e : BillingWebhookEvent) (s : Subscription) : Prop where
  linked : (truthy s.providerSubscriptionId).isSome = true
  moved : ∃ period, renewal parseDate e s = some period ∧
    crossed answers period.currentPeriodEnd ≠ crossed answers s.currentPeriodEnd
  due : planAfter s ≠ s.planId ∨ statusAfter answers s ≠ .active

/-- The plan and the status that a subscription is due for. -/
def due (s : Subscription) : String × SubscriptionStatus :=
  (planAfter s, if s.cancelAtPeriodEnd = some true then .cancelled else .active)

/-- The pass reads of the provider that the boundary is behind it, and the provider accepts the
cancellation, if there is one; or what is due is no change. -/
def TakesEffect (s : Subscription) : Prop :=
  due s = (s.planId, .active) ∨
    (truthy s.providerSubscriptionId).isSome = true ∧
      crossed answers s.currentPeriodEnd = true ∧
      (s.cancelAtPeriodEnd = some true → answers.cancels = true)

/-- The subscription has gone on to another period without what was due. -/
def CarriedOver (s : Subscription) (w : World) : Prop :=
  ∃ r, w.subscriptions.get s.id = some r ∧ r.currentPeriodStart ≠ s.currentPeriodStart ∧
    (r.planId, r.status) ≠ due s

variable {parseDate answers} {w : World} {s : Subscription} {e : BillingWebhookEvent}

theorem statusAfter_eq (hcancels : s.cancelAtPeriodEnd = some true → answers.cancels = true) :
    statusAfter answers s = if s.cancelAtPeriodEnd = some true then .cancelled else .active := by
  unfold statusAfter
  by_cases hflag : s.cancelAtPeriodEnd = some true
  · simp [hflag, hcancels hflag]
  · simp [hflag]

/-- What is due is what the pass leaves, just where it takes effect. -/
theorem settled_eq_due_iff : settled answers s = due s ↔ TakesEffect answers s := by
  constructor
  · intro h
    by_cases hnone : due s = (s.planId, .active)
    · exact .inl hnone
    · unfold settled at h
      split at h
      · next hacts =>
        obtain ⟨hlinked, hcrossed⟩ := Bool.and_eq_true_iff.mp hacts
        refine .inr ⟨hlinked, hcrossed, fun hflag => ?_⟩
        have hstatus := (Prod.mk.inj h).2
        by_contra hrefused
        simp [statusAfter, hflag, hrefused] at hstatus
      · exact absurd h.symm hnone
  · rintro (hnone | ⟨hlinked, hcrossed, hcancels⟩)
    · obtain ⟨hplan, hstatus⟩ := Prod.mk.inj (show (planAfter s, _) = (s.planId, _) from hnone)
      have hflag : ¬ s.cancelAtPeriodEnd = some true := fun hflag => by
        rw [if_pos hflag] at hstatus
        cases hstatus
      have hafter : statusAfter answers s = .active := by simp [statusAfter, hflag]
      rw [settled, hplan, hafter, ite_self, hnone]
    · rw [settled, hlinked, hcrossed, Bool.and_self, if_pos rfl, statusAfter_eq hcancels, due]

/-- Nothing overtakes a pass that has nothing to apply. -/
theorem not_overtaken_of_due (h : due s = (s.planId, .active)) :
    ¬ Overtaken parseDate answers e s := by
  obtain ⟨hplan, hstatus⟩ := Prod.mk.inj (show (planAfter s, _) = (s.planId, _) from h)
  have hflag : ¬ s.cancelAtPeriodEnd = some true := fun hflag => by
    rw [if_pos hflag] at hstatus
    cases hstatus
  intro hover
  obtain hdiffer | hdiffer := hover.due
  · exact hdiffer hplan
  · exact hdiffer (by simp [statusAfter, hflag])

/-- A renewal that does not overtake a pass does not decide what the pass does. -/
theorem settled_of_not_overtaken (hactive : s.status = .active)
    (h : ¬ Overtaken parseDate answers e s) {r : Subscription}
    (hr : (deliveryInterference parseDate e).may s r) : settled answers r = settled answers s := by
  obtain rfl | ⟨period, hperiod, hend, hcore⟩ := hr
  · rfl
  · have hlink : r.providerSubscriptionId = s.providerSubscriptionId :=
      congrArg Identity.providerSubscriptionId hcore.identity
    have hplan : planAfter r = planAfter s := by
      rw [planAfter, planAfter, hcore.pendingPlanId, hcore.planId]
    have hstatus : statusAfter answers r = statusAfter answers s := by
      rw [statusAfter, statusAfter, hcore.cancelAtPeriodEnd]
    rw [settled, settled, hlink, hplan, hstatus, hcore.planId, hend]
    by_cases hlinked : (truthy s.providerSubscriptionId).isSome = true
    · by_cases hcrossed :
          crossed answers period.currentPeriodEnd = crossed answers s.currentPeriodEnd
      · rw [hcrossed]
      · have hdue : planAfter s = s.planId ∧ statusAfter answers s = .active := by
          by_contra hdue
          exact h ⟨hlinked, ⟨period, hperiod, hcrossed⟩, not_and_or.mp hdue⟩
        rw [hdue.1, hdue.2, ite_self, ite_self]
    · rw [Bool.eq_false_of_not_eq_true hlinked]
      rfl

theorem settled_of_overtaken (h : Overtaken parseDate answers e s) {period : Period}
    {now : Option Int} (hperiod : renewal parseDate e s = some period) :
    settled answers { s with
      currentPeriodStart := period.currentPeriodStart
      currentPeriodEnd := period.currentPeriodEnd, updatedAt := now } ≠ settled answers s := by
  obtain ⟨hlinked, ⟨period', hperiod', hcrossed⟩, hdue⟩ := h
  cases hperiod.symm.trans hperiod'
  have hmoved : settled answers { s with
      currentPeriodStart := period.currentPeriodStart
      currentPeriodEnd := period.currentPeriodEnd, updatedAt := now }
      = if crossed answers period.currentPeriodEnd then (planAfter s, statusAfter answers s)
        else (s.planId, .active) := by
    simp only [settled, hlinked, Bool.true_and]
    rfl
  have hstood : settled answers s
      = if crossed answers s.currentPeriodEnd then (planAfter s, statusAfter answers s)
        else (s.planId, .active) := by
    simp only [settled, hlinked, Bool.true_and]
  have hdiffer : (planAfter s, statusAfter answers s) ≠ (s.planId, .active) := by
    intro heq
    obtain ⟨hplan, hstatus⟩ := Prod.mk.inj heq
    exact hdue.elim (fun h => h hplan) fun h => h hstatus
  rw [hmoved, hstood]
  -- exactly one of the two ends has been crossed
  cases hend : crossed answers s.currentPeriodEnd with
  | true =>
      rw [hend] at hcrossed
      rw [Bool.eq_false_of_not_eq_true hcrossed, if_neg Bool.false_ne_true, if_pos rfl]
      exact hdiffer.symm
  | false =>
      rw [hend] at hcrossed
      rw [Bool.eq_true_of_not_eq_false hcrossed, if_neg Bool.false_ne_true, if_pos rfl]
      exact hdiffer

/-- What a run of the pass with workers on the delivery beside it comes to. -/
abbrev BoundaryRun (parseDate : String → Option Int) (answers : ProviderAnswers) (w : World)
    (s : Subscription) (e : BillingWebhookEvent)
    (c : Config World Request Commit HttpError Unit) : Prop :=
  Run (handle parseDate) (besides e.id) (fun _ _ => True)
    ⟨w, [(.reconcilePeriod s.tenantId answers,
      handle parseDate 0 (.reconcilePeriod s.tenantId answers))]⟩ c

/-- The pass has ended. -/
def Passed (c : Config World Request Commit HttpError Unit) : Prop :=
  ∃ req r, c.flights[0]? = some (req, .done r)

/-- The row with the period that a renewal names. -/
def renewedRow (s : Subscription) (period : Period) (now : Int) : Subscription :=
  { s with
    currentPeriodStart := period.currentPeriodStart
    currentPeriodEnd := period.currentPeriodEnd, updatedAt := some now }

/-- What processing the whole delivery leaves. -/
theorem renewal_alone (h : AtBoundary w s e) {period : Period}
    (hperiod : renewal parseDate e s = some period) :
    ((handle parseDate 1 (.processOne e.id)).alone w).2.subscriptions.get s.id =
        some (renewedRow s period w.now) ∧
      Inv (renewedRow s period w.now) e ((handle parseDate 1 (.processOne e.id)).alone w).2 := by
  obtain ⟨hsub, -, hfiles⟩ := processOne_alone parseDate e.id w
  have hset := (processEvent_row parseDate h.waiting h.about).1
  rw [after_renewal h.active hperiod] at hset
  obtain ⟨e', he', hpayload, hcreated⟩ := hfiles.delivery e (lockedEvent_get h.waiting).1
  have hrow : ((processOne parseDate e.id).alone w).2.subscriptions.get s.id =
      some (renewedRow s period w.now) := by
    rw [hsub, hset.get]
    exact if_pos rfl
  refine ⟨hrow, ⟨⟨_, hrow, rfl, ?_⟩, e', he', hpayload, hcreated⟩⟩
  change s.status ≠ .pastDue
  rw [h.active]
  decide

/-- A renewal names a period that has begun at another time. -/
theorem renewal_moves {period : Period} (hperiod : renewal parseDate e s = some period) :
    period.currentPeriodStart ≠ s.currentPeriodStart := by
  unfold renewal at hperiod
  split at hperiod
  · cases hperiod
  · obtain ⟨-, hopen⟩ := Option.filter_eq_some_iff.mp hperiod
    obtain ⟨hreached, hvalid⟩ := Bool.and_eq_true_iff.mp hopen
    intro hsame
    cases hstart : s.currentPeriodStart with
    | none => simp [Period.check, hsame, hstart] at hvalid
    | some start => simp [confirmRenewal, hsame, hstart] at hreached

/-- A pass that does not find the period to be over leaves everything as it is. -/
theorem reconcile_idle {tenantId : Nat} {r : Subscription}
    (hfind : w.subscriptions.findFirst (·.tenantId = tenantId) = some r)
    (hidle : ((truthy r.providerSubscriptionId).isSome &&
      crossed answers r.currentPeriodEnd) = false) :
    ((handle parseDate 0 (.reconcilePeriod tenantId answers)).alone w).2 = w := by
  have hread : (getSubscriptionForTenant tenantId : Service Subscription).alone w =
      (.ok r, w) := by
    rw [getSubscriptionForTenant, Client.query_proc, Proc.alone_bind (Proc.alone_read _ w), hfind]
    rfl
  have hpass : ((reconcilePeriod answers tenantId).alone w).2 = w := by
    rw [reconcilePeriod, Proc.alone_bind hread]
    split
    · rfl
    · next hlinked =>
      cases hanswer : answers.subscription with
      | none =>
          rw [attemptReconciliationRead, hanswer]
          rfl
      | some state =>
          have hsome : (truthy r.providerSubscriptionId).isSome = true := by
            cases hlink : truthy r.providerSubscriptionId <;> simp [hlink] at hlinked ⊢
          have hbehind : boundaryReached state r = false := by
            rw [hsome, Bool.true_and, crossed, hanswer, Option.any_some] at hidle
            exact hidle
          have hstate : (attemptReconciliationRead answers : Service _).alone w =
              (.ok state, w) := by
            rw [attemptReconciliationRead, hanswer]
            rfl
          rw [Proc.alone_bind hstate, if_pos hbehind]
          rfl
  change ((reconcilePeriod answers tenantId >>= fun _ => pure () : Service Unit).alone w).2 = w
  rw [Proc.bind_def, Proc.alone_finish]
  cases hresult : ((reconcilePeriod answers tenantId).alone w).1 with
  | ok a => exact hpass
  | error err => exact hpass

theorem findFirst_tenant {r : Subscription} (hrow : w.subscriptions.get s.id = some r)
    (htenant : r.tenantId = s.tenantId) :
    w.subscriptions.findFirst (·.tenantId = s.tenantId) = some r := by
  have hmem := (Table.get_eq_some.mp hrow).1
  refine Table.findFirst_eq_some hmem (decide_eq_true htenant) fun x hx hxt => ?_
  exact Table.eq_of_clash hx hmem (.inl ((of_decide_eq_true hxt).trans htenant.symm))

variable (answers) in
/-- The order in which the whole delivery is processed before the pass begins. -/
theorem renewal_first (h : AtBoundary w s e) {period : Period}
    (hperiod : renewal parseDate e s = some period) :
    ∃ c, BoundaryRun parseDate answers w s e c ∧ Passed c ∧
      standing s.tenantId c.state = some (settled answers (renewedRow s period w.now)) ∧
      (((truthy s.providerSubscriptionId).isSome &&
          crossed answers period.currentPeriodEnd) = false →
        c.state.subscriptions.get s.id = some (renewedRow s period w.now)) := by
  obtain ⟨hrow, hinv⟩ := renewal_alone h hperiod
  refine ⟨_, (Relation.ReflTransGen.single (.accept (.processOne e.id) (.inl rfl))).trans
    ((run_alone (fun _ _ => trivial) (i := 1) (handle parseDate 1 (.processOne e.id)) rfl).trans
      (run_alone (fun _ _ => trivial) (i := 0) _ rfl)), ⟨_, _, rfl⟩, ?_, fun hidle => ?_⟩
  · refine reconcile_alone parseDate answers ?_ hinv hrow
    exact h.active
  · rw [reconcile_idle (findFirst_tenant hrow rfl) hidle]
    exact hrow

/-- The order in which a pass that does nothing has ended before the delivery is processed. -/
theorem idle_pass_first (h : AtBoundary w s e) {period : Period}
    (hperiod : renewal parseDate e s = some period)
    (hidle : crossed answers s.currentPeriodEnd = false) :
    ∃ c, BoundaryRun parseDate answers w s e c ∧ Passed c ∧
      c.state.subscriptions.get s.id = some (renewedRow s period w.now) := by
  have hstays : ((handle parseDate 0 (.reconcilePeriod s.tenantId answers)).alone w).2 = w :=
    reconcile_idle (findFirst_tenant h.row rfl) (by rw [hidle, Bool.and_false])
  refine ⟨_, (run_alone (fun _ _ => trivial) (i := 0) _ rfl).trans
    ((Relation.ReflTransGen.single (.accept (.processOne e.id) (.inl rfl))).trans
      (run_alone (fun _ _ => trivial) (i := 1) (handle parseDate 1 (.processOne e.id)) rfl)),
    ⟨_, _, rfl⟩, ?_⟩
  dsimp only
  rw [hstays]
  exact (renewal_alone h hperiod).1

theorem CarriedOver.of_renewed {period : Period} {now : Int}
    (hperiod : renewal parseDate e s = some period)
    (hactive : s.status = .active) (hdue : due s ≠ (s.planId, .active))
    (hrow : w.subscriptions.get s.id = some (renewedRow s period now)) : CarriedOver s w := by
  refine ⟨_, hrow, renewal_moves hperiod, fun hsame => hdue ?_⟩
  rw [← hsame, ← hactive]
  rfl

/-- Every order comes to the same as the pass that comes first, unless it is overtaken. -/
theorem same_of_not_overtaken (h : AtBoundary w s e) (hnot : ¬ Overtaken parseDate answers e s)
    {c : Config World Request Commit HttpError Unit}
    (hrun : BoundaryRun parseDate answers w s e c) (hpassed : Passed c) :
    Settled answers s c.state ∧ Inv s e c.state := by
  obtain ⟨req, r, hdone⟩ := hpassed
  have hstart : (boundaryDiscipline s e (deliveryInterference parseDate e)).Holds
      (fun i _ w _ => i = 0 → Settled answers s w)
      ⟨w, [(Request.reconcilePeriod s.tenantId answers,
        handle parseDate 0 (.reconcilePeriod s.tenantId answers))]⟩ := by
    refine ⟨h.inv, fun i req p hi => ?_⟩
    cases i with
    | zero =>
        cases hi
        refine (handle_reconcile_safe parseDate answers h.active ?_ h.inv h.row).mono_post
          fun _ _ hw _ => hw
        exact fun r hr => settled_of_not_overtaken h.active hnot hr
    | succ i => cases hi
  have hserve : ∀ i req w₁, 1 ≤ i → Inv s e w₁ → besides e.id req w₁ →
      (boundaryDiscipline s e (deliveryInterference parseDate e)).Safe i
        (fun w _ => i = 0 → Settled answers s w) (handle parseDate i req) w₁ :=
    fun i req w₁ hi _ hreq => besides_safe h.renewed (by omega) hreq
  have hholds := hstart.run (by exact Nat.le_refl 1) hserve hrun
  exact ⟨hholds.outcome hdone rfl, hholds.inv⟩

/-- Where what is due is in effect, nothing is carried over. -/
theorem not_carriedOver (heffect : TakesEffect answers s) (h : Settled answers s w) :
    ¬ CarriedOver s w := by
  rintro ⟨r, hr, -, hdue⟩
  obtain ⟨r', hr', hsettled⟩ := h
  cases hr.symm.trans hr'
  exact hdue (hsettled.trans (settled_eq_due_iff.mpr heffect))

/-- Every order comes to what is said of the pass that comes first, just where that is not
overtaken. -/
theorem settled_in_any_order_iff (h : AtBoundary w s e) :
    (∀ c, BoundaryRun parseDate answers w s e c → Passed c →
      standing s.tenantId c.state = some (settled answers s)) ↔
        ¬ Overtaken parseDate answers e s := by
  constructor
  · intro hall hover
    obtain ⟨period, hperiod, -⟩ := hover.moved
    obtain ⟨c, hrun, hpassed, hstanding, -⟩ := renewal_first answers h hperiod
    have hsame := hall c hrun hpassed
    rw [hstanding] at hsame
    exact settled_of_overtaken hover hperiod (Option.some.inj hsame)
  · intro hnot c hrun hpassed
    obtain ⟨hsettled, hinv⟩ := same_of_not_overtaken h hnot hrun hpassed
    exact hsettled.standing hinv

/-- Where nothing is carried over in any order, the pass finds the period to be over on either
side of the renewal. -/
theorem takesEffect_of_not_carriedOver (h : AtBoundary w s e) {period : Period}
    (hperiod : renewal parseDate e s = some period)
    (hcancels : s.cancelAtPeriodEnd = some true → answers.cancels = true)
    (hnever : ∀ c, BoundaryRun parseDate answers w s e c → Passed c → ¬ CarriedOver s c.state) :
    TakesEffect answers s ∧ ¬ Overtaken parseDate answers e s := by
  by_cases hdue : due s = (s.planId, .active)
  · exact ⟨.inl hdue, not_overtaken_of_due hdue⟩
  have hbehind : ((truthy s.providerSubscriptionId).isSome &&
      crossed answers period.currentPeriodEnd) = true := by
    by_contra hidle
    obtain ⟨c, hrun, hpassed, -, hrow⟩ := renewal_first answers h hperiod
    exact hnever c hrun hpassed (.of_renewed hperiod h.active hdue
      (hrow (Bool.eq_false_of_not_eq_true hidle)))
  have hbefore : crossed answers s.currentPeriodEnd = true := by
    by_contra hidle
    obtain ⟨c, hrun, hpassed, hrow⟩ :=
      idle_pass_first h hperiod (Bool.eq_false_of_not_eq_true hidle)
    exact hnever c hrun hpassed (.of_renewed hperiod h.active hdue hrow)
  obtain ⟨hlinked, hcrossed⟩ := Bool.and_eq_true_iff.mp hbehind
  refine ⟨.inr ⟨hlinked, hbefore, hcancels⟩, fun hover => ?_⟩
  obtain ⟨period', hperiod', hdiffer⟩ := hover.moved
  cases hperiod.symm.trans hperiod'
  exact hdiffer (hcrossed.trans hbefore.symm)

variable (parseDate answers)

/-- A pass that comes first gives the tenant the plan and the status that `settled` says. Every
other order comes to the same, unless the renewal overtakes the pass. What is due is in effect in
every order just where the pass that comes first applies it and is not overtaken. Everywhere
else, it is carried over into another period in some order, if the renewal names one and the
provider accepts the cancellation. -/
theorem scheduled_change_in_any_order (h : AtBoundary w s e) :
    standing s.tenantId ((handle parseDate 0 (.reconcilePeriod s.tenantId answers)).alone w).2
        = some (settled answers s) ∧
      ((∀ c, BoundaryRun parseDate answers w s e c → Passed c →
          standing s.tenantId c.state = standing s.tenantId
            ((handle parseDate 0 (.reconcilePeriod s.tenantId answers)).alone w).2) ↔
        ¬ Overtaken parseDate answers e s) ∧
      ((∀ c, BoundaryRun parseDate answers w s e c → Passed c →
          standing s.tenantId c.state = some (due s)) ↔
        TakesEffect answers s ∧ ¬ Overtaken parseDate answers e s) ∧
      ((renewal parseDate e s).isSome = true →
        (s.cancelAtPeriodEnd = some true → answers.cancels = true) →
        ((∀ c, BoundaryRun parseDate answers w s e c → Passed c → ¬ CarriedOver s c.state) ↔
          TakesEffect answers s ∧ ¬ Overtaken parseDate answers e s)) := by
  have hfirst := reconcile_alone parseDate answers h.active h.inv h.row
  have hsame : _ ↔ ¬ Overtaken parseDate answers e s := settled_in_any_order_iff h
  refine ⟨hfirst, ?_, ?_, fun hmoves hcancels => ?_⟩
  · rw [hfirst]
    exact hsame
  · constructor
    · intro hall
      have heffect : settled answers s = due s := Option.some.inj
        (hfirst.symm.trans (hall _ (run_alone (fun _ _ => trivial) (i := 0) _ rfl) ⟨_, _, rfl⟩))
      refine ⟨settled_eq_due_iff.mp heffect, hsame.mp ?_⟩
      rw [heffect]
      exact hall
    · rintro ⟨heffect, hnot⟩
      rw [← settled_eq_due_iff.mpr heffect]
      exact hsame.mpr hnot
  · obtain ⟨period, hperiod⟩ := Option.isSome_iff_exists.mp hmoves
    constructor
    · exact takesEffect_of_not_carriedOver h hperiod hcancels
    · rintro ⟨heffect, hnot⟩ c hrun hpassed
      exact not_carriedOver heffect (same_of_not_overtaken h hnot hrun hpassed).1

/-! A month on the plan "pro" ends with a downgrade to "basic" scheduled. -/

def februaryToMarch : String → Option Int
  | "2026-02-01T00:00:00.000Z" => some 1769904000000
  | "2026-02-01T00:01:00.000Z" => some 1769904060000
  | "2026-03-01T00:00:00.000Z" => some 1772323200000
  | _ => none

def dueDowngrade : Subscription where
  id := 0
  tenantId := 0
  providerCustomerId := some "cust_1"
  providerSubscriptionId := some "sub_1"
  planId := "pro"
  pendingPlanId := some "basic"
  status := .active
  currentPeriodStart := some 1767225600000
  currentPeriodEnd := some 1769904000000
  cancelAtPeriodEnd := none
  graceEndsAt := none
  retentionEndsAt := none
  updatedAt := some 1767225600000

def charged : BillingWebhookEvent where
  id := 0
  providerEventId := "evt_1"
  payload :=
    { providerEventId := "evt_1"
      type := "renewed"
      payload := some
        [("providerSubscriptionId", .string "sub_1"),
          ("occurredAt", .string "2026-02-01T00:01:00.000Z"),
          ("currentPeriodStart", .string "2026-02-01T00:00:00.000Z"),
          ("currentPeriodEnd", .string "2026-03-01T00:00:00.000Z")] }
  status := .received
  attempts := 0
  availableAt := 1769904061000
  lastError := none
  processedAt := none
  createdAt := 1769904061000

def monthEnd : World where
  now := 1769904120000
  subscriptions := ⟨[dueDowngrade], 1, by decide, by decide⟩
  subscriptionEvents := .empty
  billingWebhookEvents := ⟨[charged], 1, by decide, by decide⟩

def nextMonth : ProviderAnswers := ⟨some ⟨1769904000000, 1772323200000⟩, true⟩

theorem monthEnd_atBoundary : AtBoundary monthEnd dueDowngrade charged where
  row := rfl
  active := rfl
  scheduled := .inl (by decide)
  ended := ⟨_, rfl, by decide⟩
  waiting := rfl
  renewed := rfl
  about := by decide +kernel

theorem monthEnd_renewal : renewal februaryToMarch charged dueDowngrade
    = some ⟨some 1769904000000, some 1772323200000⟩ := by decide +kernel

theorem monthEnd_overtaken : Overtaken februaryToMarch nextMonth charged dueDowngrade where
  linked := rfl
  moved := ⟨_, monthEnd_renewal, by decide⟩
  due := .inl (by decide)

/-- The same delivery without the bounds of the period. -/
def unbounded : BillingWebhookEvent :=
  { charged with
    payload := { charged.payload with
      payload := some
        [("providerSubscriptionId", .string "sub_1"),
          ("occurredAt", .string "2026-02-01T00:01:00.000Z")] } }

def quietMonthEnd : World :=
  { monthEnd with billingWebhookEvents := ⟨[unbounded], 1, by decide, by decide⟩ }

theorem quietMonthEnd_atBoundary : AtBoundary quietMonthEnd dueDowngrade unbounded where
  row := rfl
  active := rfl
  scheduled := .inl (by decide)
  ended := ⟨_, rfl, by decide⟩
  waiting := rfl
  renewed := rfl
  about := by decide +kernel

/-- The pass that comes first has the downgrade applied, but not every order: in some, it is
carried over. With a delivery that names no period, every order applies it. -/
theorem scheduled_downgrade_in_any_order_checked :
    standing 0 ((handle februaryToMarch 0 (.reconcilePeriod 0 nextMonth)).alone monthEnd).2
        = some ("basic", .active) ∧
      (¬ ∀ c, BoundaryRun februaryToMarch nextMonth monthEnd dueDowngrade charged c → Passed c →
        standing 0 c.state = some ("basic", .active)) ∧
      (∃ c, BoundaryRun februaryToMarch nextMonth monthEnd dueDowngrade charged c ∧ Passed c ∧
        CarriedOver dueDowngrade c.state) ∧
      ∀ c, BoundaryRun februaryToMarch nextMonth quietMonthEnd dueDowngrade unbounded c →
        Passed c → standing 0 c.state = some ("basic", .active) := by
  obtain ⟨hfirst, -, heffect, hcarried⟩ :=
    scheduled_change_in_any_order februaryToMarch nextMonth monthEnd_atBoundary
  obtain ⟨-, -, hquiet, -⟩ :=
    scheduled_change_in_any_order februaryToMarch nextMonth quietMonthEnd_atBoundary
  refine ⟨hfirst, fun hall => (heffect.mp hall).2 monthEnd_overtaken, ?_, hquiet.mpr ⟨?_, ?_⟩⟩
  · by_contra hnever
    have hnot := (hcarried (by rw [monthEnd_renewal]; rfl) fun _ => rfl).mp
      fun c hrun hpassed hover => hnever ⟨c, hrun, hpassed, hover⟩
    exact hnot.2 monthEnd_overtaken
  · exact .inr ⟨rfl, rfl, fun _ => rfl⟩
  · intro hover
    obtain ⟨period, hperiod, -⟩ := hover.moved
    have hnone : renewal februaryToMarch unbounded dueDowngrade = none := by decide +kernel
    cases hnone.symm.trans hperiod

/-- The renewal that comes first carries the plan into the next month. -/
theorem renewal_overtakes_downgrade :
    ∃ c, AtBoundary monthEnd dueDowngrade charged ∧
      BoundaryRun februaryToMarch nextMonth monthEnd dueDowngrade charged c ∧ Passed c ∧
      standing 0 c.state = some ("pro", .active) ∧
      standing 0 ((handle februaryToMarch 0 (.reconcilePeriod 0 nextMonth)).alone monthEnd).2
        = some ("basic", .active) := by
  obtain ⟨c, hrun, hpassed, hstanding, -⟩ :=
    renewal_first nextMonth monthEnd_atBoundary monthEnd_renewal
  refine ⟨c, monthEnd_atBoundary, hrun, hpassed, hstanding, ?_⟩
  exact reconcile_alone februaryToMarch nextMonth rfl monthEnd_atBoundary.inv rfl

end Order

end PrintForge.Subscriptions
