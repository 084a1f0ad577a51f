import PrintForge.Subscriptions.EitherOrder

/-!
# Deliveries that are dropped as stale

A delivery names the instant at which its event occurred. It is compared with the clock of the
subscription's row, which is set to the instant of processing. A delivery that is processed late
therefore sets the clock beyond the instants of events that have occurred since.

What a delivery that is not dropped does to the status depends on the status alone:
`statusOf`. The statuses of a run are those of a fold of it over the deliveries that are newer
than the row was at first, as long as no such delivery is dropped that would have changed the
status.
-/

namespace PrintForge.Subscriptions

open Relational Concurrent JavaScript

/-! ## The status a delivery leads to -/

/-- The status after a transition towards `target`. -/
def moveTo (target status : SubscriptionStatus) : SubscriptionStatus :=
  if isSubscriptionTransitionAllowed status target then target else status

/-- The status after a delivery of this type that is no renewal. -/
def statusOfType (type : String) (status : SubscriptionStatus) : SubscriptionStatus :=
  if type = "payment_failed" then moveTo .pastDue status
  else if type = "recovered" then moveTo .active status
  else if type = "cancelled" then moveTo .cancelled status
  else status

section Dates

variable (parseDate : String → Option Int)

/-- What a delivery makes of a status, unless it is dropped. -/
def statusOf (normalized : NormalizedBillingEvent) (status : SubscriptionStatus) :
    SubscriptionStatus :=
  match renewalPeriod parseDate normalized (extractEnvelope normalized.payload) with
  | some _ => if status = .pastDue then moveTo .active status else status
  | none => statusOfType normalized.type status

/-- The instant at which the event of a delivery occurred. -/
def occurredAt (e : BillingWebhookEvent) : Option Int :=
  eventTimestamp parseDate (extractEnvelope e.payload.payload) e.createdAt

end Dates

/-- The clock of a row. -/
def clock (r : Subscription) : Int := r.updatedAt.getD 0

theorem settle_recordPaymentFailure (graceEndsAt now : Int) (name : Option String)
    (r : Subscription) :
    ((recordPaymentFailure graceEndsAt name).settle now r).status = moveTo .pastDue r.status := by
  cases h : r.status <;>
    simp [Transition.settle, recordPaymentFailure, moveTo, h, assertSubscriptionTransitionAllowed,
      isSubscriptionTransitionAllowed, subscriptionStateTransitions, Transition.row]

theorem settle_recoverPayment (now : Int) (name : Option String) (r : Subscription) :
    ((recoverPayment name).settle now r).status = moveTo .active r.status := by
  cases h : r.status <;>
    simp [Transition.settle, recoverPayment, moveTo, h, assertSubscriptionTransitionAllowed,
      isSubscriptionTransitionAllowed, subscriptionStateTransitions, Transition.row]

theorem settle_cancel (now : Int) (name : Option String) (r : Subscription) :
    ((cancel name).settle now r).status = moveTo .cancelled r.status := by
  cases h : r.status <;>
    simp [Transition.settle, cancel, moveTo, h, assertSubscriptionTransitionAllowed,
      isSubscriptionTransitionAllowed, subscriptionStateTransitions, Transition.row]

theorem settle_confirmRenewal (period : Period) (now : Int) (name : Option String)
    (r : Subscription) : ((confirmRenewal period name).settle now r).status = r.status := by
  unfold Transition.settle
  split
  · rfl
  · split
    · rfl
    · rfl

/-- A row that changes has its clock set to the present. -/
theorem settle_clock (t : Transition) (now : Int) (r : Subscription) :
    t.settle now r = r ∨ clock (t.settle now r) = now := by
  unfold Transition.settle
  split
  · exact .inl rfl
  · split
    · exact .inl rfl
    · exact .inr rfl

/-- A row after the transition a delivery is routed to, if there is one. -/
theorem settle_billingWebhookTransition (normalized : NormalizedBillingEvent) (now : Int)
    (r : Subscription) :
    (((billingWebhookTransition normalized now).elim r (·.settle now r)).status
        = statusOfType normalized.type r.status) ∧
      ((billingWebhookTransition normalized now).elim r (·.settle now r) = r ∨
        clock ((billingWebhookTransition normalized now).elim r (·.settle now r)) = now) := by
  unfold billingWebhookTransition statusOfType
  split
  · next htype =>
    rw [htype, if_pos rfl]
    exact ⟨settle_recordPaymentFailure _ now _ r, settle_clock _ now r⟩
  · next htype =>
    rw [htype, if_neg (by decide), if_pos rfl]
    exact ⟨settle_recoverPayment now _ r, settle_clock _ now r⟩
  · next htype =>
    rw [htype, if_neg (by decide), if_neg (by decide), if_pos rfl]
    exact ⟨settle_cancel now _ r, settle_clock _ now r⟩
  · next hfailed hrecovered hcancelled =>
    rw [if_neg hfailed, if_neg hrecovered, if_neg hcancelled]
    exact ⟨rfl, .inl rfl⟩

section After

variable {parseDate : String → Option Int} {e : BillingWebhookEvent} {r : Subscription}
variable {now instant : Int}

theorem after_stale (h : occurredAt parseDate e = some instant) (hle : instant ≤ clock r) :
    r.after parseDate e now = r := by
  rw [Subscription.after, if_pos]
  change (occurredAt parseDate e).any _ = true
  rw [h]
  exact decide_eq_true hle

theorem after_fresh (h : occurredAt parseDate e = some instant) (hlt : clock r < instant) :
    (r.after parseDate e now).status = statusOf parseDate e.payload r.status ∧
      (r.after parseDate e now = r ∨ clock (r.after parseDate e now) = now) := by
  have hstale : isStale (eventTimestamp parseDate (extractEnvelope e.payload.payload)
      e.createdAt) r = false := by
    change (occurredAt parseDate e).any _ = false
    rw [h]
    exact decide_eq_false (Int.not_le.mpr hlt)
  rw [Subscription.after, hstale, if_neg Bool.false_ne_true, asked, statusOf]
  cases renewalPeriod parseDate e.payload (extractEnvelope e.payload.payload) with
  | some period =>
      dsimp only
      by_cases hdue : r.status = .pastDue
      · rw [if_pos hdue, if_pos hdue]
        exact ⟨settle_recoverPayment now _ r, settle_clock _ now r⟩
      · rw [if_neg hdue, if_neg hdue]
        exact ⟨settle_confirmRenewal period now _ r, settle_clock _ now r⟩
  | none =>
      have hrouted := settle_billingWebhookTransition e.payload now r
      cases hroute : billingWebhookTransition e.payload now with
      | some t =>
          rw [hroute] at hrouted
          exact hrouted
      | none =>
          rw [hroute] at hrouted
          exact hrouted

end After

/-! ## Deliveries one after the other -/

/-- The subscription that a delivery is about is found by columns no delivery changes. -/
theorem resolveSubscription_later {w w' : World} {envelope : BillingWebhookEnvelope}
    {r r' : Subscription} (h : resolveSubscription envelope w = some r)
    (hset : ∀ k, w'.subscriptions.get k = if k = r'.id then some r' else w.subscriptions.get k)
    (hidentity : r'.toIdentity = r.toIdentity) : resolveSubscription envelope w' = some r' := by
  have hid : r'.id = r.id := congrArg Identity.id hidentity
  have hsub : r'.providerSubscriptionId = r.providerSubscriptionId :=
    congrArg Identity.providerSubscriptionId hidentity
  have hcust : r'.providerCustomerId = r.providerCustomerId :=
    congrArg Identity.providerCustomerId hidentity
  have hmem' : r' ∈ w'.subscriptions :=
    (Table.get_eq_some.mp ((hset r'.id).trans (if_pos rfl))).1
  -- the rows of `w'` are `r'` and rows of `w`
  have hrows : ∀ x ∈ w'.subscriptions, x = r' ∨ x ∈ w.subscriptions := by
    intro x hx
    have hget := hset x.id
    rw [show w'.subscriptions.get x.id = some x from Table.get_key hx] at hget
    split at hget
    · exact .inl (Option.some.inj hget)
    · exact .inr (Table.get_eq_some.mp hget.symm).1
  have hfound : ∀ name, r'.providerSubscriptionId = some name →
      findSubscriptionByProviderSubscriptionId name w' = some r' := by
    intro name hname
    refine Table.findFirst_eq_some hmem' (decide_eq_true hname) fun x hx hxname => ?_
    have hxname : x.providerSubscriptionId = some name := of_decide_eq_true hxname
    exact Table.eq_of_clash hx hmem' (.inr (.inl ⟨by rw [hxname]; rfl, hxname.trans hname.symm⟩))
  have hfound' : ∀ name, r'.providerCustomerId = some name →
      findSubscriptionByProviderCustomerId name w' = some r' := by
    intro name hname
    refine Table.findFirst_eq_some hmem' (decide_eq_true hname) fun x hx hxname => ?_
    have hxname : x.providerCustomerId = some name := of_decide_eq_true hxname
    exact Table.eq_of_clash hx hmem' (.inr (.inr ⟨by rw [hxname]; rfl, hxname.trans hname.symm⟩))
  obtain h | ⟨hnone, h⟩ := Option.or_eq_some_iff.mp h
  · obtain ⟨name, htruthy, hfind⟩ := Option.bind_eq_some_iff.mp h
    have hname : r.providerSubscriptionId = some name :=
      of_decide_eq_true (Table.findFirst_some hfind).2
    refine Option.or_eq_some_iff.mpr (.inl (Option.bind_eq_some_iff.mpr ⟨name, htruthy, ?_⟩))
    exact hfound name (hsub.trans hname)
  · obtain ⟨name, htruthy, hfind⟩ := Option.bind_eq_some_iff.mp h
    have hname : r.providerCustomerId = some name :=
      of_decide_eq_true (Table.findFirst_some hfind).2
    refine Option.or_eq_some_iff.mpr (.inr ⟨?_, Option.bind_eq_some_iff.mpr ⟨name, htruthy, ?_⟩⟩)
    · -- a name that no row had is a name that no row has
      refine Option.bind_eq_none_iff.mpr fun missing hmissing => ?_
      have hold := Option.bind_eq_none_iff.mp hnone missing hmissing
      unfold findSubscriptionByProviderSubscriptionId at hold ⊢
      have hr : r ∈ w.subscriptions := (Table.findFirst_some hfind).1
      cases hnew : w'.subscriptions.findFirst (·.providerSubscriptionId = some missing) with
      | none => rfl
      | some x =>
          obtain ⟨hx, hxname⟩ := Table.findFirst_some hnew
          obtain rfl | hx := hrows x hx
          · have hxname := of_decide_eq_true hxname
            rw [hsub] at hxname
            simpa [hxname] using Table.findFirst_none hold r hr
          · have habsent := Table.findFirst_none hold x hx
            rw [hxname] at habsent
            cases habsent
    · exact hfound' name (hcust.trans hname)

section Runs

variable (parseDate : String → Option Int)

/-- A delivery processed at an instant. -/
def processAt (w : World) (step : BillingWebhookEvent × Int) : World :=
  ((processOne parseDate step.1.id).alone { w with now := step.2 }).2

/-- The world after deliveries have been processed, one after the other. -/
def processAll (w : World) (steps : List (BillingWebhookEvent × Int)) : World :=
  steps.foldl (processAt parseDate) w

/-- Every delivery processed at the instant it occurred. -/
def atOnce (es : List BillingWebhookEvent) : List (BillingWebhookEvent × Int) :=
  es.map fun e => (e, (occurredAt parseDate e).getD 0)

def statusIn (s : Subscription) (w : World) : Option SubscriptionStatus :=
  (w.subscriptions.get s.id).map (·.status)

/-- Stored deliveries about one subscription, each of an event that occurred after the one
before. -/
structure Deliveries (w : World) (s : Subscription) (es : List BillingWebhookEvent) : Prop where
  row : w.subscriptions.get s.id = some s
  waiting : ∀ e ∈ es, lockedEvent e.id w = some e
  about : ∀ e ∈ es, resolveSubscription (extractEnvelope e.payload.payload) w = some s
  dated : ∀ e ∈ es, ∃ instant, occurredAt parseDate e = some instant
  ordered : es.Pairwise fun e e' =>
    (occurredAt parseDate e).getD 0 < (occurredAt parseDate e').getD 0

/-- Every delivery is processed at some instant after its event, however long after. -/
structure Delayed (es : List BillingWebhookEvent) (steps : List (BillingWebhookEvent × Int)) :
    Prop where
  all : (steps.map Prod.fst).Perm es
  late : ∀ step ∈ steps, (occurredAt parseDate step.1).getD 0 ≤ step.2
  forward : steps.Pairwise fun step step' => step.2 ≤ step'.2

/-- A delivery that finds the clock of the row before it is not dropped. One that is no newer
than the row was at first, or that would not change the status, may be. -/
def InTime (s : Subscription) (w : World) (e : BillingWebhookEvent) : Prop :=
  ∀ r, w.subscriptions.get s.id = some r →
    clock r < (occurredAt parseDate e).getD 0 ∨ (occurredAt parseDate e).getD 0 ≤ clock s ∨
      statusOf parseDate e.payload r.status = r.status

/-- Every delivery of a run is processed in time. -/
def Prompt (s : Subscription) : World → List (BillingWebhookEvent × Int) → Prop
  | _, [] => True
  | w, step :: steps => InTime parseDate s w step.1 ∧ Prompt s (processAt parseDate w step) steps

/-- The status that deliveries lead to, without those that are no newer than the row was. -/
def expected (s : Subscription) (status : SubscriptionStatus) (es : List BillingWebhookEvent) :
    SubscriptionStatus :=
  es.foldl (fun status e =>
    if (occurredAt parseDate e).getD 0 ≤ clock s then status
    else statusOf parseDate e.payload status) status

variable {parseDate} {w : World} {s r : Subscription} {e : BillingWebhookEvent}
variable {es : List BillingWebhookEvent} {steps : List (BillingWebhookEvent × Int)}

/-- Where a run stands: the row as it is, and what is still to be processed. -/
structure Underway (parseDate : String → Option Int) (s : Subscription) (w : World)
    (r : Subscription) (es : List BillingWebhookEvent) : Prop where
  identity : r.toIdentity = s.toIdentity
  clock : clock s ≤ clock r
  rest : Deliveries parseDate w r es

theorem Underway.row (h : Underway parseDate s w r es) : w.subscriptions.get s.id = some r := by
  rw [← show r.id = s.id from congrArg Identity.id h.identity]
  exact h.rest.row

/-- A delivery processed at an instant leaves the row as `after` says. -/
theorem Underway.step {now : Int} (h : Underway parseDate s w r (e :: es))
    (hlate : (occurredAt parseDate e).getD 0 ≤ now) :
    Underway parseDate s (processAt parseDate w (e, now)) (r.after parseDate e now) es := by
  obtain ⟨hsub, -, hfiles⟩ := processOne_alone parseDate e.id { w with now := now }
  obtain ⟨hset, -⟩ := processEvent_row (w := { w with now := now }) parseDate
    (h.rest.waiting e List.mem_cons_self) (h.rest.about e List.mem_cons_self)
  have hsets : ∀ k, (processAt parseDate w (e, now)).subscriptions.get k
      = if k = (r.after parseDate e now).id then some (r.after parseDate e now)
        else w.subscriptions.get k := by
    intro k
    rw [show (processAt parseDate w (e, now)).subscriptions
      = (Proc.applied (processEvent parseDate e.id) { w with now := now }).subscriptions from hsub]
    exact hset.get k
  have hidentity := after_identity parseDate e now r
  obtain ⟨hfirst, hordered⟩ := List.pairwise_cons.mp h.rest.ordered
  refine ⟨hidentity.trans h.identity, ?_, ?_, ?_, ?_, ?_, hordered⟩
  · obtain ⟨instant, hinstant⟩ := h.rest.dated e List.mem_cons_self
    rw [hinstant, Option.getD_some] at hlate
    by_cases hle : instant ≤ Subscriptions.clock r
    · rw [after_stale hinstant hle]
      exact h.clock
    · have hlt := Int.not_le.mp hle
      have hclock := h.clock
      have hfresh : r.after parseDate e now = r ∨
          Subscriptions.clock (r.after parseDate e now) = now := (after_fresh hinstant hlt).2
      obtain hsame | hnow := hfresh
      · rw [hsame]
        exact hclock
      · omega
  · exact (hsets _).trans (if_pos rfl)
  · intro e' he'
    have hne : e'.id ≠ e.id := by
      intro hid
      have hwait := h.rest.waiting e' (List.mem_cons_of_mem _ he')
      rw [hid, h.rest.waiting e List.mem_cons_self] at hwait
      cases hwait
      exact absurd (hfirst e he') (Int.lt_irrefl _)
    have hsame := hfiles.others e'.id hne
    have hwait := h.rest.waiting e' (List.mem_cons_of_mem _ he')
    rw [lockedEvent] at hwait ⊢
    rw [show (processAt parseDate w (e, now)).billingWebhookEvents.get e'.id
      = w.billingWebhookEvents.get e'.id from hsame]
    exact hwait
  · intro e' he'
    exact resolveSubscription_later (h.rest.about e' (List.mem_cons_of_mem _ he')) hsets hidentity
  · exact fun e' he' => h.rest.dated e' (List.mem_cons_of_mem _ he')

/-- The status after one delivery. -/
theorem Underway.status {now : Int} (h : Underway parseDate s w r (e :: es))
    (htime : InTime parseDate s w e) :
    (r.after parseDate e now).status = expected parseDate s r.status [e] := by
  obtain ⟨instant, hinstant⟩ := h.rest.dated e List.mem_cons_self
  have hexpected : expected parseDate s r.status [e]
      = if instant ≤ Subscriptions.clock s then r.status
        else statusOf parseDate e.payload r.status := by
    simp only [expected, List.foldl_cons, List.foldl_nil, hinstant, Option.getD_some]
  have hclock := h.clock
  have hcases := htime r h.row
  rw [hinstant, Option.getD_some] at hcases
  rw [hexpected]
  by_cases hle : instant ≤ Subscriptions.clock r
  · rw [after_stale hinstant hle]
    by_cases hold : instant ≤ Subscriptions.clock s
    · rw [if_pos hold]
    · rw [if_neg hold]
      obtain hlt | hle' | hsame := hcases
      · omega
      · omega
      · exact hsame.symm
  · rw [(after_fresh hinstant (Int.not_le.mp hle)).1, if_neg (by omega)]

/-- A delivery that is dropped although it is newer than the row was and would have changed the
status leaves the wrong status. -/
theorem Underway.inTime {now : Int} (h : Underway parseDate s w r (e :: es))
    (hstatus : (r.after parseDate e now).status = expected parseDate s r.status [e]) :
    InTime parseDate s w e := by
  intro r' hr'
  cases h.row.symm.trans hr'
  obtain ⟨instant, hinstant⟩ := h.rest.dated e List.mem_cons_self
  rw [hinstant, Option.getD_some]
  by_cases hle : instant ≤ Subscriptions.clock r
  · by_cases hold : instant ≤ Subscriptions.clock s
    · exact .inr (.inl hold)
    · simp only [expected, List.foldl_cons, List.foldl_nil, hinstant, Option.getD_some, if_neg hold,
        after_stale hinstant hle] at hstatus
      exact .inr (.inr hstatus.symm)
  · exact .inl (Int.not_le.mp hle)

/-- The statuses after each delivery are the expected ones exactly when every delivery is
processed in time. -/
theorem statuses_expected (h : Underway parseDate s w r (steps.map Prod.fst))
    (hlate : ∀ step ∈ steps, (occurredAt parseDate step.1).getD 0 ≤ step.2) :
    (∀ k, statusIn s (processAll parseDate w (steps.take k))
        = some (expected parseDate s r.status ((steps.map Prod.fst).take k))) ↔
      Prompt parseDate s w steps := by
  induction steps generalizing w r with
  | nil =>
      refine ⟨fun _ => trivial, fun _ k => ?_⟩
      simp [processAll, statusIn, h.row, expected]
  | cons step steps ih =>
      obtain ⟨e, now⟩ := step
      have hlate' : ∀ step ∈ steps, (occurredAt parseDate step.1).getD 0 ≤ step.2 :=
        fun step hstep => hlate step (List.mem_cons_of_mem _ hstep)
      have hnext := h.step (hlate (e, now) List.mem_cons_self)
      have hrest := ih hnext hlate'
      have hnow : statusIn s (processAt parseDate w (e, now))
          = some (r.after parseDate e now).status := by
        rw [statusIn, hnext.row]
        rfl
      constructor
      · intro hall
        have hone : (r.after parseDate e now).status = expected parseDate s r.status [e] := by
          have h₁ := hall 1
          simp only [List.take_succ_cons, List.take_zero, List.map_cons] at h₁
          exact Option.some.inj (hnow.symm.trans h₁)
        refine ⟨h.inTime hone, hrest.mp fun k => ?_⟩
        rw [hone]
        exact hall (k + 1)
      · intro hprompt k
        cases k with
        | zero => simp [processAll, statusIn, h.row, expected]
        | succ k =>
            have hk := hrest.mpr hprompt.2 k
            rw [h.status hprompt.1] at hk
            exact hk

/-- Deliveries that are processed at once are processed in time. -/
theorem atOnce_prompt (h : Underway parseDate s w r es)
    (hclock : clock r = clock s ∨ ∀ e ∈ es, clock r < (occurredAt parseDate e).getD 0) :
    Prompt parseDate s w (atOnce parseDate es) := by
  induction es generalizing w r with
  | nil => trivial
  | cons e es ih =>
      constructor
      · intro r' hr'
        cases h.row.symm.trans hr'
        obtain heq | hlt := hclock
        · by_cases hle : (occurredAt parseDate e).getD 0 ≤ clock s
          · exact .inr (.inl hle)
          · refine .inl ?_
            rw [heq]
            exact Int.not_le.mp hle
        · exact .inl (hlt e List.mem_cons_self)
      · refine ih (h.step (Int.le_refl _)) ?_
        obtain ⟨instant, hinstant⟩ := h.rest.dated e List.mem_cons_self
        obtain ⟨hfirst, -⟩ := List.pairwise_cons.mp h.rest.ordered
        have hkept : r.after parseDate e instant = r →
            clock (r.after parseDate e instant) = clock s ∨
            ∀ e' ∈ es, clock (r.after parseDate e instant) < (occurredAt parseDate e').getD 0 := by
          intro hsame
          rw [hsame]
          exact hclock.imp_right fun hlt e' he' => hlt e' (List.mem_cons_of_mem _ he')
        rw [hinstant, Option.getD_some]
        by_cases hle : instant ≤ clock r
        · exact hkept (after_stale hinstant hle)
        · have hfresh : r.after parseDate e instant = r ∨
              clock (r.after parseDate e instant) = instant :=
            (after_fresh hinstant (Int.not_le.mp hle)).2
          obtain hsame | hnow := hfresh
          · exact hkept hsame
          · refine .inr fun e' he' => ?_
            have hlater := hfirst e' he'
            rw [hinstant, Option.getD_some] at hlater
            rw [hnow]
            exact hlater

theorem Deliveries.underway (h : Deliveries parseDate w s es) : Underway parseDate s w s es :=
  ⟨rfl, Int.le_refl _, h⟩

theorem Deliveries.take (h : Deliveries parseDate w s es) (k : Nat) :
    Deliveries parseDate w s (es.take k) where
  row := h.row
  waiting e he := h.waiting e (List.mem_of_mem_take he)
  about e he := h.about e (List.mem_of_mem_take he)
  dated e he := h.dated e (List.mem_of_mem_take he)
  ordered := h.ordered.sublist (List.take_sublist k es)

theorem atOnce_events (es : List BillingWebhookEvent) :
    (atOnce parseDate es).map Prod.fst = es := by
  simp [atOnce, Function.comp_def]

/-- The status after deliveries that are processed at once. -/
theorem atOnce_status (h : Deliveries parseDate w s es) :
    statusIn s (processAll parseDate w (atOnce parseDate es))
      = some (expected parseDate s s.status es) := by
  have hunder : Underway parseDate s w s ((atOnce parseDate es).map Prod.fst) := by
    rw [atOnce_events]
    exact h.underway
  have hlate : ∀ step ∈ atOnce parseDate es, (occurredAt parseDate step.1).getD 0 ≤ step.2 := by
    intro step hstep
    obtain ⟨e, -, rfl⟩ := List.mem_map.mp hstep
    exact Int.le_refl _
  have hall := (statuses_expected hunder hlate).mpr (atOnce_prompt h.underway (.inl rfl))
    (atOnce parseDate es).length
  rw [List.take_length, ← List.length_map Prod.fst, List.take_length, atOnce_events] at hall
  exact hall

/-- Deliveries that are processed in the order of their events, each in time, lead to the status
they would have led to at once. In that order being in time is also necessary for the status to
be right after each of them. -/
theorem deliveries_as_at_once (h : Deliveries parseDate w s es)
    (hdelayed : Delayed parseDate es steps) :
    (steps.map Prod.fst = es → Prompt parseDate s w steps →
      statusIn s (processAll parseDate w steps)
        = statusIn s (processAll parseDate w (atOnce parseDate es))) ∧
    (steps.map Prod.fst = es →
      ((∀ k, statusIn s (processAll parseDate w (steps.take k))
          = statusIn s (processAll parseDate w (atOnce parseDate (es.take k)))) ↔
        Prompt parseDate s w steps)) := by
  have hexact : steps.map Prod.fst = es →
      ((∀ k, statusIn s (processAll parseDate w (steps.take k))
          = statusIn s (processAll parseDate w (atOnce parseDate (es.take k)))) ↔
        Prompt parseDate s w steps) := by
    intro horder
    have hunder : Underway parseDate s w s (steps.map Prod.fst) := by
      rw [horder]
      exact h.underway
    rw [← statuses_expected hunder hdelayed.late, horder]
    refine forall_congr' fun k => ?_
    rw [atOnce_status (h.take k)]
  refine ⟨fun horder hprompt => ?_, hexact⟩
  have hlast := (hexact horder).mpr hprompt steps.length
  rw [List.take_length, ← List.length_map Prod.fst, horder, List.take_length] at hlast
  exact hlast

/-- A failed payment and a recovery: the subscription is active in the end exactly when the
failure was processed before the recovery occurred. -/
theorem recovery_after_failure {failure recovery : BillingWebhookEvent} {now now' : Int}
    (h : Deliveries parseDate w s [failure, recovery]) (hactive : s.status = .active)
    (hnew : clock s < (occurredAt parseDate failure).getD 0)
    (hfails : statusOf parseDate failure.payload .active = .pastDue)
    (hrecovers : statusOf parseDate recovery.payload .pastDue = .active)
    (hlate : (occurredAt parseDate failure).getD 0 ≤ now)
    (hlate' : (occurredAt parseDate recovery).getD 0 ≤ now') :
    statusIn s (processAll parseDate w [(failure, now), (recovery, now')]) = some .active ↔
      now < (occurredAt parseDate recovery).getD 0 := by
  obtain ⟨instant, hinstant⟩ := h.dated failure List.mem_cons_self
  obtain ⟨instant', hinstant'⟩ := h.dated recovery (List.mem_cons_of_mem _ List.mem_cons_self)
  have hfirst := h.underway.step hlate
  have hsecond := hfirst.step hlate'
  have hlast : statusIn s (processAll parseDate w [(failure, now), (recovery, now')])
      = some ((s.after parseDate failure now).after parseDate recovery now').status := by
    change statusIn s (processAt parseDate (processAt parseDate w (failure, now)) (recovery, now'))
      = _
    rw [statusIn, hsecond.row]
    rfl
  have hfresh : (s.after parseDate failure now).status = .pastDue ∧
      clock (s.after parseDate failure now) = now := by
    rw [hinstant, Option.getD_some] at hnew
    obtain ⟨hstatus, hclock⟩ := after_fresh (r := s) hinstant hnew
    rw [hactive, hfails] at hstatus
    refine ⟨hstatus, hclock.resolve_left fun hsame => ?_⟩
    rw [hsame, hactive] at hstatus
    cases hstatus
  rw [hlast, hinstant', Option.getD_some]
  by_cases hlt : now < instant'
  · refine iff_of_true ?_ hlt
    rw [(after_fresh hinstant' (by rw [hfresh.2]; exact hlt)).1, hfresh.1, hrecovers]
  · refine iff_of_false ?_ hlt
    rw [after_stale hinstant' (by rw [hfresh.2]; exact Int.not_lt.mp hlt), hfresh.1]
    decide

/-! A charge fails at midnight and succeeds a minute later. -/

def paying : Subscription := { dueDowngrade with pendingPlanId := none }

def failedCharge : BillingWebhookEvent where
  id := 1
  providerEventId := "evt_0"
  payload :=
    { providerEventId := "evt_0"
      type := "payment_failed"
      payload := some
        [("providerSubscriptionId", .string "sub_1"),
          ("occurredAt", .string "2026-02-01T00:00:00.000Z")] }
  status := .received
  attempts := 0
  availableAt := 1769904001000
  lastError := none
  processedAt := none
  createdAt := 1769904001000

def midnight : World where
  now := 1769904120000
  subscriptions := ⟨[paying], 1, by decide, by decide⟩
  subscriptionEvents := .empty
  billingWebhookEvents := ⟨[charged, failedCharge], 2, by decide, by decide⟩

theorem midnight_deliveries :
    Deliveries februaryToMarch midnight paying [failedCharge, charged] where
  row := rfl
  waiting := by decide +kernel
  about := by decide +kernel
  dated := by
    intro e he
    obtain rfl | rfl := List.mem_pair.mp he
    · exact ⟨1769904000000, by decide +kernel⟩
    · exact ⟨1769904060000, by decide +kernel⟩
  ordered := by decide +kernel

theorem delayed_pair {now now' : Int} (hfailure : 1769904000000 ≤ now) (hforward : now ≤ now')
    (hcharge : 1769904060000 ≤ now') :
    Delayed februaryToMarch [failedCharge, charged] [(failedCharge, now), (charged, now')] where
  all := .refl _
  late := by
    intro step hstep
    obtain rfl | rfl := List.mem_pair.mp hstep
    · have hinstant : (occurredAt februaryToMarch failedCharge).getD 0 = 1769904000000 := by
        decide +kernel
      exact Int.le_trans (Int.le_of_eq hinstant) hfailure
    · have hinstant : (occurredAt februaryToMarch charged).getD 0 = 1769904060000 := by
        decide +kernel
      exact Int.le_trans (Int.le_of_eq hinstant) hcharge
  forward := List.pairwise_pair.mpr hforward

/-- The failure is processed half a minute later, before the charge succeeds. -/
theorem deliveries_as_at_once_checked :
    statusIn paying (processAll februaryToMarch midnight
        [(failedCharge, 1769904030000), (charged, 1769904120000)])
      = statusIn paying (processAll februaryToMarch midnight
        (atOnce februaryToMarch [failedCharge, charged])) := by
  refine (deliveries_as_at_once midnight_deliveries
    (delayed_pair (by decide) (by decide) (by decide))).1 rfl ⟨?_, ?_, trivial⟩
  · intro r hr
    cases hr
    exact .inl (by decide +kernel)
  · intro r hr
    have hlate : (occurredAt februaryToMarch failedCharge).getD 0 ≤ 1769904030000 := by
      decide +kernel
    cases (midnight_deliveries.underway.step hlate).row.symm.trans hr
    exact .inl (by decide +kernel)

/-- The failure is processed two minutes later: the charge that has succeeded meanwhile is dropped
and the subscription stays overdue. -/
theorem charge_dropped_as_stale :
    ∃ w s es steps, Deliveries februaryToMarch w s es ∧ Delayed februaryToMarch es steps ∧
      steps.map Prod.fst = es ∧ s.status = .active ∧
      statusIn s (processAll februaryToMarch w steps) ≠ some .active ∧
      statusIn s (processAll februaryToMarch w (atOnce februaryToMarch es)) = some .active := by
  refine ⟨midnight, paying, [failedCharge, charged],
    [(failedCharge, 1769904120000), (charged, 1769904121000)], midnight_deliveries,
    delayed_pair (by decide) (by decide) (by decide), rfl, rfl, ?_, ?_⟩
  · intro h
    have hlt := (recovery_after_failure midnight_deliveries rfl (by decide +kernel)
      (by decide +kernel) (by decide +kernel) (by decide +kernel) (by decide +kernel)).mp h
    exact absurd hlt (by decide +kernel)
  · rw [atOnce_status midnight_deliveries]
    decide +kernel

end Runs

end PrintForge.Subscriptions
