import PrintForge.Concurrent.Discipline
import PrintForge.Subscriptions.Writes

/-!
# Subscriptions that have been reactivated

What was scheduled for the end of a period survives a cancellation and the reactivation after
it: neither touches `pendingPlanId` or `cancelAtPeriodEnd`. A reactivated subscription on which
nothing is scheduled stays so until something is scheduled, and no reconciliation that starts
later cancels it or changes its plan.
-/

namespace PrintForge.Subscriptions

open Relational Concurrent JavaScript

/-- Nothing is scheduled for the end of the period. -/
def Clear (r : Subscription) : Prop :=
  truthy r.pendingPlanId = none ∧ r.cancelAtPeriodEnd ≠ some true

instance : DecidablePred Clear := fun _ => inferInstanceAs (Decidable (_ ∧ _))

/-- The row is one the method schedules something for. -/
def Method.schedules : Method → Subscription → Subscription → Bool
  | .scheduleDowngrade _, read, r => r.status = read.status && r.pendingPlanId = read.pendingPlanId
  | .scheduleCancellation, read, r =>
      r.status = read.status && r.cancelAtPeriodEnd = read.cancelAtPeriodEnd
  | _, _, _ => false

/-- An update schedules something for the subscription `d`. -/
def Schedules (d : Nat) : Commit → World → Prop
  | .transition method read, w =>
      read.id = d ∧ ∃ r ∈ w.subscriptions.get d, method.schedules read r = true
  | _, _ => False

instance (d : Nat) : ∀ ℓ w, Decidable (Schedules d ℓ w)
  | .transition _ read, w =>
      inferInstanceAs (Decidable (read.id = d ∧ ∃ r ∈ w.subscriptions.get d, _))
  | .create _, _ | .event _, _ | .processBillingWebhook _, _ | .settleBillingWebhook _, _
  | .claimKey _, _ | .provider _, _ | .tick, _ => inferInstanceAs (Decidable False)

/-- The subscription is cancelled and becomes active. -/
def Reactivates (d : Nat) (w w' : World) : Prop :=
  ∃ r ∈ w.subscriptions.get d, ∃ r' ∈ w'.subscriptions.get d,
    r.status = .cancelled ∧ r'.status = .active

instance (d : Nat) (w w' : World) : Decidable (Reactivates d w w') :=
  inferInstanceAs (Decidable (∃ r ∈ w.subscriptions.get d, ∃ r' ∈ w'.subscriptions.get d, _))

/-- What is due at the end of a period. -/
def Method.boundary : Method → Bool
  | .cancelAtBoundary | .applyScheduledDowngrade => true
  | _ => false

section Clear

variable {planExists : String → Bool} {d : Nat}

/-- What is not scheduled stays so. -/
theorem Turn.clear {ℓ : Commit} {w : World} {r r' : Subscription}
    {log log' : List SubscriptionEvent}
    (h : Turn (direct planExists) ℓ w.now d (some r, log) (some r', log'))
    (hr : w.subscriptions.get d = some r) (hok : ¬ Schedules d ℓ w) (hclear : Clear r) :
    Clear r' := by
  cases h with
  | stay => exact hclear
  | event => exact hclear
  | activate => exact hclear
  | deliver ht => cases ht <;> exact hclear
  | @transition t read r log ht hdue hfinds hd hℓ =>
      subst hd hℓ
      simp only [Transition.finds, Bool.and_eq_true, decide_eq_true_eq] at hfinds
      cases ht with
      | exhaustGrace | expire | reactivate | recoverPayment | cancel | cancelAtBoundary
      | confirmRenewal | confirmUpgrade => exact hclear
      | applyScheduledDowngrade => exact ⟨rfl, hclear.2⟩
      | unscheduleCancellation => exact ⟨hclear.1, by simp [Transition.row, unscheduleCancellation]⟩
      | scheduleDowngrade planId =>
          refine absurd ⟨rfl, r, hr, ?_⟩ hok
          simpa [Method.schedules, scheduleDowngrade, hfinds.1.2] using hfinds.2
      | scheduleCancellation =>
          refine absurd ⟨rfl, r, hr, ?_⟩ hok
          simpa [Method.schedules, scheduleCancellation, hfinds.1.2] using hfinds.2

/-- A reactivation schedules nothing. -/
theorem Turn.reactivated {ℓ : Commit} {now : Int} {r r' : Subscription}
    {log log' : List SubscriptionEvent}
    (h : Turn (direct planExists) ℓ now d (some r, log) (some r', log'))
    (hcancelled : r.status = .cancelled) (hactive : r'.status = .active) (hclear : Clear r) :
    Clear r' := by
  have hmoved : r'.status ≠ r.status := by
    rw [hcancelled, hactive]
    decide
  cases h with
  | stay | event => exact absurd rfl hmoved
  | activate => exact hclear
  | deliver ht => cases ht <;> exact hclear
  | transition ht =>
      cases ht with
      | exhaustGrace | expire | reactivate | recoverPayment | cancel | cancelAtBoundary =>
          exact hclear
      | applyScheduledDowngrade | confirmRenewal | confirmUpgrade | scheduleDowngrade
      | scheduleCancellation | unscheduleCancellation => exact absurd rfl hmoved

end Clear

/-! ## Every request -/

/-- The update is not one that is due at the end of a period of `d`. -/
def Spares (d : Nat) (ℓ : Commit) : Prop :=
  ∀ method read, ℓ = .transition method read → method.boundary = true → read.id ≠ d

/-- Nothing is scheduled on `d`. -/
def ClearRow (d : Nat) (w : World) : Prop := ∃ r, w.subscriptions.get d = some r ∧ Clear r

/-- While nothing is scheduled on `d`, nothing that starts from place `n` on is due. -/
def clearDiscipline (d n : Nat) : Discipline World Commit where
  inv := ClearRow d
  ok ℓ w := ¬ Schedules d ℓ w
  rely _ _ _ := True
  guar i ℓ w w' := (ClearRow d w → ClearRow d w') ∧ (n ≤ i → Spares d ℓ)
  rely_refl _ _ := trivial
  rely_trans _ _ := trivial
  inv_guar h _ hg := hg.1 h
  rely_guar _ _ _ _ := trivial

section Requests

variable {parseDate : String → Option Int} {planExists : String → Bool} {d n i : Nat}

/-- The transitions of a process at place `i`. -/
def sparing (planExists : String → Bool) (d n i : Nat) : Transition → Subscription → Prop :=
  fun t read => Direct planExists t ∧ (n ≤ i → t.method.boundary = true → read.id ≠ d)

theorem safe_clear (parseDate : String → Option Int) (planExists : String → Bool) {α : Type}
    {p : Service α} {w : World} (h : p.Commits (Writes parseDate (sparing planExists d n i))) :
    (clearDiscipline d n).Safe i (fun _ _ => True) p w := by
  have hwithin : p.Within fun ℓ w w' =>
      (¬ Schedules d ℓ w → ClearRow d w → ClearRow d w') ∧ (n ≤ i → Spares d ℓ) := by
    refine h.within fun ℓ upd w hwrite => ⟨?_, fun hi method read hℓ hboundary => ?_⟩
    · rintro hok ⟨r, hr, hclear⟩
      have hturn := (writes_turn (hwrite.mono fun _ _ h => h.1) w d).2
      rw [view, hr] at hturn
      obtain ⟨r', hr'⟩ := hturn.row
      rw [show view (upd w) d = (some r', logOf (upd w) d) from Prod.ext hr' rfl] at hturn
      exact ⟨r', hr', hturn.clear hr hok hclear⟩
    · cases hwrite with
      | apply h =>
          cases h with
          | transition ht hdue =>
              cases hℓ
              exact ht.2 hi hboundary
          | event => cases hℓ
      | activate =>
          cases hℓ
          cases hboundary
      | create | process | settle | claim | provider | tick => cases hℓ
  exact Discipline.safe_of_within hwithin fun ℓ w w' _ hok hg => ⟨hg.1 hok, hg.2⟩

/-- What is read of `d` has nothing scheduled on it. -/
theorem read_clear {w : World} (tenantId : Nat) :
    (clearDiscipline d n).Safe i (Discipline.Returns fun s _ => s.id = d → Clear s)
      (getSubscriptionForTenant tenantId : Service Subscription) w := by
  intro w₁ _ hinv
  dsimp only
  cases hfound : w₁.subscriptions.findFirst (·.tenantId = tenantId) with
  | none => exact Discipline.safe_throw _
  | some s =>
      refine Discipline.safe_pure fun _ _ hd => ?_
      obtain ⟨r, hr, hclear⟩ := hinv
      have hs := Table.get_key (Table.findFirst_some hfound).1
      rw [← hd] at hr
      cases hr.symm.trans hs
      exact hclear

theorem reconcilePeriod_clear {w : World} (answers : ProviderAnswers) (tenantId : Nat)
    (hinv : ClearRow d w) :
    (clearDiscipline d n).Safe i (fun _ _ => True) (reconcilePeriod answers tenantId) w := by
  rw [reconcilePeriod_eq]
  refine (read_clear tenantId).finish hinv fun w₁ found _ hfound => ?_
  cases found with
  | error err => exact Discipline.safe_done fun _ _ _ => trivial
  | ok s =>
      have hs : s.id = d → Clear s := hfound s rfl
      refine safe_clear (fun _ => none) (fun _ => true)
        (commits_writes (reconcileRow_commits answers s ?_ ?_ ?_))
      · refine fun period hpending => ⟨.applyScheduledDowngrade period, fun _ _ hd => ?_⟩
        rw [(hs hd).1] at hpending
        cases hpending
      · rintro u hu hflag
        refine ⟨.cancelAtBoundary, fun _ _ hd => ?_⟩
        obtain rfl | ⟨hid, hpending⟩ := hu
        · exact (hs hd).2 hflag
        · rw [(hs (hid.symm.trans hd)).1] at hpending
          cases hpending
      · exact fun period u => ⟨.confirmRenewal period, fun _ h => by cases h⟩

theorem flow_sparing (op : Operation) (s : Subscription) :
    sparing planExists d n i ((op.flow planExists).transition s) s := by
  refine ⟨flow_direct op s, fun _ h => ?_⟩
  cases op with
  | upgrade | downgrade | unscheduleCancellation => cases h
  | cancel atPeriodEnd => cases atPeriodEnd <;> cases h
  | resume =>
      change (resumeTransition s).method.boundary = true at h
      unfold resumeTransition at h
      split at h <;> cases h

theorem serve_clear (i : Nat) (call : Call) {w : World} (hinv : ClearRow d w) :
    (clearDiscipline d n).Safe i (fun _ _ => True) (serve parseDate planExists i call) w := by
  cases call with
  | processOne id => exact safe_clear parseDate planExists (processOne_commits id)
  | runGraceExhaustion =>
      exact safe_clear parseDate planExists <|
        runPass_commits fun _ _ _ _ => ⟨.exhaustGrace, fun _ h => by cases h⟩
  | runCancellationExpiration =>
      exact safe_clear parseDate planExists <|
        runPass_commits fun _ _ _ _ => ⟨.expire, fun _ h => by cases h⟩
  | reconcilePeriod tenantId answers =>
      exact (reconcilePeriod_clear answers tenantId hinv).bind hinv fun _ _ _ _ =>
        Discipline.safe_done fun _ _ _ => trivial
  | createSubscription tenantId planId answer =>
      exact safe_clear parseDate planExists <|
        (createSubscription_commits tenantId planId answer).bind fun _ => Proc.commits_pure _
  | orchestrate req =>
      exact safe_clear parseDate planExists <|
        (orchestrate_commits req (flow_sparing req.operation)).bind fun _ => Proc.commits_pure _
  | tick elapsed =>
      exact safe_clear parseDate planExists <|
        Proc.commits_transact (Writes.tick elapsed)

/-- The transitions of a reconciliation. -/
inductive Reconciling : Transition → Prop
  | applyScheduledDowngrade (period : Period) : Reconciling (applyScheduledDowngrade period none)
  | cancelAtBoundary : Reconciling cancelAtBoundary
  | confirmRenewal (period : Period) : Reconciling (confirmRenewal period none)

def Call.isReconciliation : Call → Bool
  | .reconcilePeriod _ _ => true
  | _ => false

/-- A request for a reconciliation is served by its transitions and no others. -/
def Reconciles (_ : Nat) (call : Call) (p : Service Unit) : Prop :=
  ∀ tenantId answers, call = .reconcilePeriod tenantId answers →
    p.Commits (Applies fun t _ => Reconciling t)

theorem serve_reconciles (i : Nat) (call : Call) :
    Reconciles i call (serve parseDate planExists i call) := by
  rintro tenantId answers rfl
  refine Proc.Commits.bind (reconcilePeriod_commits answers tenantId ?_ ?_ ?_) fun _ =>
    Proc.commits_pure _
  · exact fun period _ => .applyScheduledDowngrade period
  · exact fun _ _ => .cancelAtBoundary
  · exact fun period _ => .confirmRenewal period

/-- A write of a reconciliation that is not due at the end of a period leaves status and plan. -/
theorem Turn.keeps {ℓ : Commit} {upd : World → World} {now : Int} {r r' : Subscription}
    {log log' : List SubscriptionEvent} (happlies : Applies (fun t _ => Reconciling t) ℓ upd)
    (h : Turn (fun t _ => Reconciling t) ℓ now d (some r, log) (some r', log'))
    (hspares : Spares d ℓ) : r'.status = r.status ∧ r'.planId = r.planId := by
  cases h with
  | stay | event => exact ⟨rfl, rfl⟩
  | @transition t read r log ht hdue hfinds hd hℓ =>
      cases ht with
      | applyScheduledDowngrade => exact absurd hd (hspares _ read hℓ rfl)
      | cancelAtBoundary => exact absurd hd (hspares _ read hℓ rfl)
      | confirmRenewal => exact ⟨rfl, rfl⟩
  | activate hstatus hallowed hd hℓ =>
      cases happlies with
      | event => cases hℓ
      | transition ht hdue => cases ht <;> cases hℓ
  | deliver ht hdue hd hℓ =>
      cases happlies with
      | event => cases hℓ
      | transition ht hdue => cases hℓ

/-- A run in which the subscription `d` is reactivated, nothing is scheduled on it afterwards, and
a reconciliation that starts later, at place `i`, takes an action. -/
structure Episode (parseDate : String → Option Int) (planExists : String → Bool) (d i : Nat)
    (w : World) (c₀ c₁ c c' : Config World Call Commit HttpError Unit) : Prop where
  before : Run (serve parseDate planExists) (fun _ _ => True) (fun _ _ => True) ⟨w, []⟩ c₀
  step : Step (serve parseDate planExists) (fun _ _ => True) (fun _ _ => True) c₀ c₁
  reactivates : Reactivates d c₀.state c₁.state
  after : Run (serve parseDate planExists) (fun _ _ => True) (fun ℓ w => ¬ Schedules d ℓ w) c₁ c
  later : c₁.flights.length ≤ i
  reconciles : c.flights[i]?.any (·.1.isReconciliation) = true
  move : Advances (fun ℓ w => ¬ Schedules d ℓ w) i c c'

/-- Where nothing is scheduled on a subscription when it is reactivated, and nothing is scheduled
on it afterwards, no reconciliation that starts after the reactivation cancels it or changes its
plan. -/
theorem reactivated_keeps_running {w : World}
    {c₀ c₁ c c' : Config World Call Commit HttpError Unit}
    (h : Episode parseDate planExists d i w c₀ c₁ c c') (hclear : ClearRow d c₀.state) :
    ∀ r r', c.state.subscriptions.get d = some r → c'.state.subscriptions.get d = some r' →
      r'.status = r.status ∧ r'.planId = r.planId := by
  obtain ⟨hbefore, hstep, hreactivates, hafter, hlater, hreq, hmove⟩ := h
  have hlisted : Listed (Writes parseDate (direct planExists)) c₀ :=
    listed_idle.run serve_commits hbefore
  obtain ⟨hlisted₁, hsame | ⟨ℓ, upd, hwrite, -, hstate⟩⟩ := hlisted.step serve_commits hstep
  · obtain ⟨r, hr, r', hr', hcancelled, hactive⟩ := hreactivates
    rw [hsame] at hr'
    cases Option.mem_unique hr hr'
    rw [hcancelled] at hactive
    cases hactive
  -- nothing is scheduled after the reactivation
  have hstart : ClearRow d c₁.state := by
    obtain ⟨r, hr, r', hr', hcancelled, hactive⟩ := hreactivates
    obtain ⟨r₀, hr₀, hclear⟩ := hclear
    cases Option.mem_unique hr hr₀
    have hturn := (writes_turn hwrite c₀.state d).2
    rw [← hstate, view, view, Option.mem_def.mp hr, Option.mem_def.mp hr'] at hturn
    exact ⟨r', hr', hturn.reactivated hcancelled hactive hclear⟩
  have hholds : (clearDiscipline d c₁.flights.length).Holds (fun _ _ _ _ => True) c₁ := by
    refine ⟨hstart, fun k req q hk => ?_⟩
    refine safe_clear parseDate planExists
      ((hlisted₁ _ (List.mem_of_getElem? hk)).mono fun ℓ upd h => h.mono fun t read ht => ?_)
    exact ⟨ht, fun hle => absurd (List.getElem?_eq_some_iff.mp hk).1 (Nat.not_lt.mpr hle)⟩
  have hholds' := hholds.run le_rfl (fun k call w _ hinv _ => serve_clear k call hinv) hafter
  have hrun : Run (serve parseDate planExists) (fun _ _ => True) (fun _ _ => True) ⟨w, []⟩ c :=
    (hbefore.tail hstep).trans (hafter.mono (fun _ _ h => h) fun _ _ _ => trivial)
  obtain ⟨call, p, p', hi, hp, hok, -⟩ := hmove
  rw [hi, Option.any_some] at hreq
  have happlies : p.Commits (Applies fun t _ => Reconciling t) := by
    have hserved := hrun.flights serve_reconciles
      (fun k call q q' s s' h hq tenantId answers hcall => (h tenantId answers hcall).step hq)
      (fun k call q hk => by simp at hk) i call p hi
    cases call with
    | reconcilePeriod tenantId answers => exact hserved tenantId answers rfl
    | processOne | runGraceExhaustion | runCancellationExpiration | createSubscription
    | orchestrate | tick => cases hreq
  intro r r' hr hr'
  cases p with
  | done r => cases hp
  | query next =>
      have hkept : c.state = c'.state := congrArg Prod.snd (Option.some.inj hp)
      rw [← hkept, hr] at hr'
      cases hr'
      exact ⟨rfl, rfl⟩
  | commit ℓ upd next =>
      have hupd : upd c.state = c'.state := congrArg Prod.snd (Option.some.inj hp)
      have hguar := (hholds'.safe i _ _ hi).write rfl trivial hholds'.inv (hok ℓ rfl)
      have hmade := happlies.listed rfl
      have hturn := (writes_turn (.apply hmade : Writes parseDate _ ℓ upd) c.state d).2
      rw [hupd, view, view, hr, hr'] at hturn
      exact hturn.keeps hmade (hguar.2 hlater)

end Requests

/-! A subscription that was cancelled at the end of its period is resumed. -/

def lapsed (cancelAtPeriodEnd : Option Bool) : Subscription where
  id := 0
  tenantId := 0
  providerCustomerId := some "cust_1"
  providerSubscriptionId := some "sub_1"
  planId := "pro"
  pendingPlanId := none
  status := .active
  currentPeriodStart := some 0
  currentPeriodEnd := some 1000
  cancelAtPeriodEnd := cancelAtPeriodEnd
  graceEndsAt := none
  retentionEndsAt := none
  updatedAt := some 0

def periodOver (cancelAtPeriodEnd : Option Bool) : World where
  now := 2000
  subscriptions := ⟨[lapsed cancelAtPeriodEnd], 1, by simp [lapsed, Schema.key],
    List.pairwise_singleton ..⟩
  subscriptionEvents := .empty
  billingWebhookEvents := .empty

/-- The provider does what it is asked. -/
def willing (_ : ProviderChange) : ProviderCall := ⟨true, .ok (), .error (.error "unreachable")⟩

def nextPeriod : ProviderAnswers := ⟨some ⟨1000, 2000⟩, true⟩

def asks (operation : Operation) (idempotencyKey : String) : Call :=
  .orchestrate ⟨operation, 0, 0, idempotencyKey, willing⟩

def serveAll : Nat → Call → Service Unit := serve (fun _ => none) fun _ => true

/-- An episode that can be followed. -/
theorem exists_episode (w : World) (before : List (Action Call)) (reactivation : Action Call)
    (after : List (Action Call)) (i : Nat)
    (P : Config World Call Commit HttpError Unit → Config World Call Commit HttpError Unit →
      Config World Call Commit HttpError Unit → Bool)
    (h : (exec serveAll (fun _ _ => True) (fun _ _ => True) before ⟨w, []⟩).any (fun c₀ =>
      (act serveAll (fun _ _ => True) (fun _ _ => True) reactivation c₀).any fun c₁ =>
        Reactivates 0 c₀.state c₁.state && (c₁.flights.length ≤ i) &&
        (exec serveAll (fun _ _ => True) (fun ℓ w => ¬ Schedules 0 ℓ w) after c₁).any fun c =>
          c.flights[i]?.any (·.1.isReconciliation) &&
          (act serveAll (fun _ _ => True) (fun ℓ w => ¬ Schedules 0 ℓ w) (.advance i) c).any
            fun c' => P c₀ c c') = true) :
    ∃ c₀ c₁ c c', Episode (fun _ => none) (fun _ => true) 0 i w c₀ c₁ c c' ∧
      P c₀ c c' = true := by
  obtain ⟨c₀, hbefore, h₀⟩ := exec_any h
  obtain ⟨c₁, hstep, h₁⟩ := act_any h₀
  rw [Bool.and_eq_true, Bool.and_eq_true, decide_eq_true_eq, decide_eq_true_eq] at h₁
  obtain ⟨⟨hreactivates, hlater⟩, h₁⟩ := h₁
  obtain ⟨c, hafter, h₂⟩ := exec_any h₁
  rw [Bool.and_eq_true] at h₂
  obtain ⟨c', hact, hP⟩ := (Option.any_eq_true ..).mp h₂.2
  exact ⟨c₀, c₁, c, c',
    ⟨hbefore, hstep, hreactivates, hafter, hlater, h₂.1, act_advances hact⟩, hP⟩

/-- A cancellation at once and a resumption, up to its update. -/
def cancelAndResume : List (Action Call) :=
  [.accept (asks (.cancel false) "k1"), .advance 0, .advance 0, .advance 0, .advance 0,
    .advance 0, .advance 0, .accept (asks .resume "k2"), .advance 1, .advance 1, .advance 1,
    .advance 1]

/-- A reconciliation, up to its update. -/
def reconcileUpTo (i : Nat) : List (Action Call) :=
  [.accept (.reconcilePeriod 0 nextPeriod), .advance i]

/-- Nothing was scheduled: the reconciliation renews the subscription. -/
theorem reactivated_keeps_running_clear :
    ∃ c₀ c₁ c c', Episode (fun _ => none) (fun _ => true) 0 2 (periodOver none) c₀ c₁ c c' ∧
      (c'.state.subscriptions.get 0).any (·.currentPeriodStart = some 1000) ∧
      ∀ r r', c.state.subscriptions.get 0 = some r → c'.state.subscriptions.get 0 = some r' →
        r'.status = r.status ∧ r'.planId = r.planId := by
  obtain ⟨c₀, c₁, c, c', hepisode, hP⟩ := exists_episode (periodOver none) cancelAndResume
    (.advance 1) (reconcileUpTo 2) 2
    (fun c₀ c c' => (c₀.state.subscriptions.get 0).any (fun r => decide (Clear r)) &&
      (c'.state.subscriptions.get 0).any (·.currentPeriodStart = some 1000)) (by decide +kernel)
  rw [Bool.and_eq_true] at hP
  obtain ⟨r, hr, hclear⟩ := (Option.any_eq_true ..).mp hP.1
  exact ⟨c₀, c₁, c, c', hepisode, hP.2,
    reactivated_keeps_running hepisode ⟨r, hr, of_decide_eq_true hclear⟩⟩

/-- A cancellation at the end of the period and a resumption, up to its update. -/
def lapseAndResume : List (Action Call) :=
  [.accept (.reconcilePeriod 0 nextPeriod), .advance 0, .advance 0, .advance 0, .advance 0,
    .accept (asks .resume "k1"), .advance 1, .advance 1, .advance 1, .advance 1]

/-- The flag that led to the cancellation is still set: the next reconciliation cancels the
subscription again. -/
theorem reactivated_cancelled_again :
    ∃ c₀ c₁ c c', Episode (fun _ => none) (fun _ => true) 0 2 (periodOver (some true)) c₀ c₁ c c' ∧
      ∃ r r', c.state.subscriptions.get 0 = some r ∧ c'.state.subscriptions.get 0 = some r' ∧
        r.status = .active ∧ r'.status = .cancelled := by
  obtain ⟨c₀, c₁, c, c', hepisode, hP⟩ := exists_episode (periodOver (some true)) lapseAndResume
    (.advance 1) (reconcileUpTo 2) 2
    (fun _ c c' => (c.state.subscriptions.get 0).any (·.status = .active) &&
      (c'.state.subscriptions.get 0).any (·.status = .cancelled)) (by decide +kernel)
  rw [Bool.and_eq_true] at hP
  obtain ⟨r, hr, hactive⟩ := (Option.any_eq_true ..).mp hP.1
  obtain ⟨r', hr', hcancelled⟩ := (Option.any_eq_true ..).mp hP.2
  exact ⟨c₀, c₁, c, c', hepisode, r, r', hr, hr', of_decide_eq_true hactive,
    of_decide_eq_true hcancelled⟩

end PrintForge.Subscriptions
