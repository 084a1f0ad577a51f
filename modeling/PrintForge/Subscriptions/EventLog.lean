import Mathlib.Data.List.Chain
import PrintForge.Concurrent.Outstanding
import PrintForge.Subscriptions.Writes

/-!
# The events of a subscription

Every change of a subscription is followed by an event, and the events tell its history: each
starts from the status the one before it has led to, and the last leads to the status of the row.
A delivery writes both in one transaction. Over the bare connection the update and the event are
two statements, and until the second the log is behind the row.

The log with what is still outstanding tells the history in every state, as long as nobody changes
the subscription in between.
-/

namespace PrintForge.Subscriptions

open Relational Concurrent JavaScript

/-! ## Histories -/

/-- The events that say which plan the subscription is on. -/
def SubscriptionEventType.namesPlan : SubscriptionEventType → Bool
  | .created | .upgraded | .downgradeApplied => true
  | .activated | .downgradeScheduled | .paymentFailed | .paused | .resumed | .cancelled
  | .expired | .reactivated => false

/-- The last event that names a plan. -/
def lastPlan (log : List SubscriptionEvent) : Option SubscriptionEvent :=
  (log.filter (·.type.namesPlan)).getLast?

/-- A status is left as it is or changed along the table. -/
def SubscriptionEvent.Allowed (e : SubscriptionEvent) : Prop :=
  ∀ s ∈ e.fromStatus, e.toStatus = s ∨ isSubscriptionTransitionAllowed s e.toStatus = true

/-- The events tell the history of the row. -/
structure Tells (log : List SubscriptionEvent) (r : Subscription) : Prop where
  chain : log.IsChain fun e e' => e'.fromStatus = some e.toStatus
  allowed : ∀ e ∈ log, e.Allowed
  status : log.getLast?.map (·.toStatus) = some r.status
  plan : (lastPlan log).bind (·.toPlanId) = some r.planId

/-- Without a row there are no events. -/
def Faithful : Option Subscription × List SubscriptionEvent → Prop
  | (none, log) => log = []
  | (some r, log) => Tells log r

/-- An event that follows on. -/
structure Follows (r : Subscription) (e : SubscriptionEvent) (r' : Subscription) : Prop where
  fromStatus : e.fromStatus = some r.status
  allowed : e.Allowed
  toStatus : e.toStatus = r'.status
  plan : if e.type.namesPlan then e.toPlanId = some r'.planId else r'.planId = r.planId

theorem Tells.follow {log : List SubscriptionEvent} {r r' : Subscription} {e : SubscriptionEvent}
    (h : Tells log r) (he : Follows r e r') : Tells (log ++ [e]) r' := by
  refine ⟨?_, fun x hx => ?_, ?_, ?_⟩
  · refine h.chain.append (List.isChain_singleton e) fun x hx y hy => ?_
    have hlast : some x.toStatus = some r.status := by
      rw [← h.status, Option.mem_def.mp hx]
      rfl
    cases hy
    rw [he.fromStatus, hlast]
  · obtain hx | hx := List.mem_append.mp hx
    · exact h.allowed x hx
    · rw [List.mem_singleton.mp hx]
      exact he.allowed
  · rw [List.getLast?_concat, ← he.toStatus]
    rfl
  · have hplan := he.plan
    rw [lastPlan, List.filter_append]
    cases hnames : e.type.namesPlan with
    | true =>
        rw [hnames] at hplan
        simpa [hnames] using hplan
    | false =>
        rw [hnames] at hplan
        have hkept : r'.planId = r.planId := hplan
        have hold := h.plan
        rw [lastPlan] at hold
        simpa [hnames, hkept] using hold

/-- The first event. -/
theorem tells_created {r : Subscription} {e : SubscriptionEvent} (hfrom : e.fromStatus = none)
    (htype : e.type = .created) (hstatus : e.toStatus = r.status)
    (hplan : e.toPlanId = some r.planId) : Tells [e] r := by
  refine ⟨List.isChain_singleton e, fun x hx s hs => ?_, ?_, ?_⟩
  · rw [List.mem_singleton.mp hx, hfrom] at hs
    cases hs
  · exact congrArg some hstatus
  · simpa [lastPlan, htype, SubscriptionEventType.namesPlan] using hplan

/-! ## The methods -/

section Methods

variable {planExists : String → Bool}

theorem allowed_of_check {t : Transition} {read : Subscription} {target : SubscriptionStatus}
    (h : assertSubscriptionTransitionAllowed read.status target = none)
    (htarget : (t.event read).toStatus = target) : (t.entry read 0).Allowed := by
  rintro s hs
  cases hs
  right
  change isSubscriptionTransitionAllowed read.status (t.event read).toStatus = true
  rw [htarget]
  simpa [assertSubscriptionTransitionAllowed] using h

theorem allowed_of_same {t : Transition} {read : Subscription}
    (h : (t.event read).toStatus = read.status) : (t.entry read 0).Allowed := by
  rintro s hs
  cases hs
  exact .inl h

/-- A method that may act leaves an event that follows on. -/
theorem Direct.follows {t : Transition} (ht : Direct planExists t) {read r : Subscription}
    (hdue : Due t read) (hfinds : t.finds read r = true) (now : Int) :
    Follows r (t.entry read 0) (t.row now read r) := by
  have hstatus : r.status = read.status := by
    simp only [Transition.finds, Bool.and_eq_true, decide_eq_true_eq] at hfinds
    exact hfinds.1.2
  refine ⟨congrArg some hstatus.symm, ?_, (ht.status hstatus now).symm, ?_⟩
  · cases ht with
    | exhaustGrace | expire | reactivate | recoverPayment | cancel | cancelAtBoundary =>
        exact allowed_of_check hdue.check rfl
    | applyScheduledDowngrade | confirmRenewal | confirmUpgrade | scheduleDowngrade
    | scheduleCancellation | unscheduleCancellation => exact allowed_of_same rfl
  · cases ht with
    | exhaustGrace | expire | reactivate | recoverPayment | cancel | cancelAtBoundary
    | confirmRenewal | scheduleDowngrade | scheduleCancellation | unscheduleCancellation =>
        exact rfl
    | confirmUpgrade toPlanId => exact rfl
    | applyScheduledDowngrade period =>
        have hpending : read.pendingPlanId ≠ none := of_decide_eq_false hdue.reached
        obtain ⟨p, hp⟩ := Option.ne_none_iff_exists'.mp hpending
        change read.pendingPlanId = some (read.pendingPlanId.getD r.planId)
        rw [hp]
        rfl

theorem Delivered.follows {now : Int} {t : Transition} (ht : Delivered now t) {r : Subscription}
    (hdue : Due t r) : Follows r (t.entry r 0) (t.row now r r) := by
  refine ⟨rfl, ?_, (ht.status r).symm, ?_⟩
  · cases ht with
    | recordPaymentFailure | recoverPayment | cancel => exact allowed_of_check hdue.check rfl
    | confirmRenewal => exact allowed_of_same rfl
  · cases ht with
    | recordPaymentFailure | recoverPayment | cancel | confirmRenewal => exact rfl

end Methods

/-! ## What a write leaves outstanding -/

/-- The event a creation is followed by. -/
def createdEvent (tenantId : Nat) (planId : String) (created : Subscription) :
    SubscriptionEvent where
  id := 0
  subscriptionId := created.id
  tenantId := tenantId
  type := .created
  fromStatus := none
  toStatus := .pending
  fromPlanId := none
  toPlanId := some planId
  providerEventId := none
  metadata := {}

/-- The event an activation is followed by. -/
def activatedEvent (input : Activation) (read : Subscription) : SubscriptionEvent where
  id := 0
  subscriptionId := read.id
  tenantId := read.tenantId
  type := .activated
  fromStatus := some read.status
  toStatus := input.toStatus
  fromPlanId := none
  toPlanId := some read.planId
  providerEventId := none
  metadata := {}

/-- An update is followed by its event where it has found the row. -/
def ifFound (e : SubscriptionEvent) (count : Nat) : Option SubscriptionEvent :=
  if count = 1 then some e else none

/-- The writes that are complete in themselves. -/
def Commit.isWhole : Commit → Bool
  | .processBillingWebhook _ | .settleBillingWebhook _ | .claimKey _ | .provider _ | .tick => true
  | .create _ | .transition _ _ | .event _ => false

/-- What a transaction leaves outstanding, read off its result. -/
def outstanding {α : Type} (tx : Transaction α) (due : α → Option SubscriptionEvent) (w : World) :
    Option SubscriptionEvent :=
  (tx w).toOption.bind fun r => due r.1

section Incurs

variable (parseDate : String → Option Int) (planExists : String → Bool)

inductive Incurs : Commit → (World → World) → (World → Option SubscriptionEvent) → Prop
  | create (tenantId : Nat) (planId : String) :
      Incurs (.create tenantId) (Proc.applied (insertPending tenantId planId))
        (outstanding (insertPending tenantId planId)
          fun created => some (createdEvent tenantId planId created))
  | update {t : Transition} {read : Subscription} (ht : Direct planExists t) (hdue : Due t read) :
      Incurs (.transition t.method read) (Proc.applied (t.compareAndSwap read))
        (outstanding (t.compareAndSwap read) (ifFound (t.entry read 0)))
  | activate (input : Activation) (read : Subscription)
      (hallowed : isSubscriptionTransitionAllowed read.status input.toStatus = true) :
      Incurs (.transition .confirmActivation read) (Proc.applied (activate input read))
        (outstanding (activate input read) (ifFound (activatedEvent input read)))
  | whole {ℓ : Commit} {upd : World → World} (h : Writes parseDate (fun _ _ => False) ℓ upd)
      (hℓ : ℓ.isWhole = true) : Incurs ℓ upd fun _ => none

inductive Records : SubscriptionEvent → Commit → (World → World) → Prop
  | event (e : SubscriptionEvent) : Records { e with id := 0 } (.event { e with id := 0 })
      (Proc.applied
        (Db.subscriptionEvents.create fun id => { e with id } : Transaction SubscriptionEvent))

variable {parseDate planExists}

theorem records_view {e : SubscriptionEvent} {ℓ : Commit} {upd : World → World}
    (h : Records e ℓ upd) (w : World) (d : Nat) :
    view (upd w) d
      = ((view w d).1, (view w d).2 ++ if e.subscriptionId = d then [e] else []) := by
  cases h with
  | event e =>
      obtain ⟨events, hcreate⟩ : ∃ events,
          w.subscriptionEvents.create (fun id => { e with id }) (fun _ => rfl) = some events :=
        Table.exists_create fun _ _ h => h
      have hupd : Proc.applied
          (Db.subscriptionEvents.create fun id => { e with id } : Transaction SubscriptionEvent) w
          = { w with subscriptionEvents := events } := by
        refine Proc.applied_ok (a := { e with id := w.subscriptionEvents.nextKey }) ?_
        simp only [Slot.create, Db.subscriptionEvents, hcreate]
      rw [hupd]
      exact congrArg (w.subscriptions.get d, ·) (logOf_create hcreate d)

/-- The history of a subscription is told by its events and those outstanding. -/
def InOrder (d : Nat) (w : World) (due : Option SubscriptionEvent) : Prop :=
  Faithful ((view w d).1, (view w d).2 ++ due.toList)

theorem outstanding_ok {α : Type} {tx : Transaction α} {due : α → Option SubscriptionEvent}
    {w w' : World} {a : α} (h : tx w = .ok (a, w')) : outstanding tx due w = due a := by
  rw [outstanding, h]
  rfl

/-- What the rules below ask of a write that leaves `due` outstanding. -/
def KeepsOrder (d : Nat) (due : Option SubscriptionEvent) (w' : World) : Prop :=
  (∀ e, due = some e → e.subscriptionId = d → InOrder d w' (some e)) ∧
    ((∀ e, due = some e → e.subscriptionId ≠ d) → InOrder d w' none)

/-- A write that leaves a subscription as it was, and nothing outstanding. -/
theorem keepsOrder_same {d : Nat} {w w' : World} (h : view w' d = view w d)
    (hinv : InOrder d w none) : KeepsOrder d none w' := by
  refine ⟨fun e he => ?_, fun _ => ?_⟩
  · cases he
  · rw [InOrder, h]
    exact hinv

/-- A write with an event to follow. -/
theorem keepsOrder_rewritten {d : Nat} {w w' : World} {row : Subscription} {e : SubscriptionEvent}
    (hevents : w'.subscriptionEvents = w.subscriptionEvents)
    (hget : ∀ k, w'.subscriptions.get k
      = if k = e.subscriptionId then some row else w.subscriptions.get k)
    (hinv : InOrder d w none)
    (h : ∀ log, Faithful (w.subscriptions.get e.subscriptionId, log) →
      Tells (log ++ [e]) row) : KeepsOrder d (some e) w' := by
  have hlog : ∀ d, logOf w' d = logOf w d := by
    intro d
    simp only [logOf, hevents]
  have hbefore : Faithful (w.subscriptions.get d, logOf w d) := by
    rw [InOrder, Option.toList_none, List.append_nil] at hinv
    exact hinv
  refine ⟨fun e' he' hd => ?_, fun hd => ?_⟩
  · cases he'
    subst hd
    change Faithful (w'.subscriptions.get e.subscriptionId, logOf w' e.subscriptionId ++ [e])
    rw [hget, if_pos rfl, hlog]
    exact h _ hbefore
  · have hne : d ≠ e.subscriptionId := Ne.symm (hd e rfl)
    change Faithful (w'.subscriptions.get d, logOf w' d ++ [])
    rw [hget, if_neg hne, hlog, List.append_nil]
    exact hbefore

theorem create_keepsOrder (tenantId : Nat) (planId : String) {d : Nat} {w : World}
    (hinv : InOrder d w none) :
    KeepsOrder d
      (outstanding (insertPending tenantId planId)
        (fun created => some (createdEvent tenantId planId created)) w)
      (Proc.applied (insertPending tenantId planId) w) := by
  cases htx : insertPending tenantId planId w with
  | error err =>
      rw [outstanding, htx, Proc.applied_error htx]
      exact keepsOrder_same rfl hinv
  | ok result =>
      obtain ⟨created, w'⟩ := result
      rw [outstanding_ok htx, Proc.applied_ok htx]
      rw [insertPending, Tx.bind_read] at htx
      obtain ⟨u, hu, rfl, rfl⟩ := Slot.create_ok htx
      let row := pendingSubscription tenantId planId w.now w.subscriptions.nextKey
      have hget : ∀ k, u.get k
          = if k = w.subscriptions.nextKey then some row else w.subscriptions.get k := by
        intro k
        have hcreated : u.get k = if k = w.subscriptions.nextKey
            then some (pendingSubscription tenantId planId w.now k) else w.subscriptions.get k :=
          Table.get_create hu k
        by_cases hk : k = w.subscriptions.nextKey
        · rw [hcreated, if_pos hk, if_pos hk, hk]
        · rw [hcreated, if_neg hk, if_neg hk]
      refine keepsOrder_rewritten (w := w) rfl hget hinv fun log hlog => ?_
      have hfresh : w.subscriptions.get w.subscriptions.nextKey = none :=
        Table.get_eq_none_of_le (Nat.le_refl _)
      have hnil : log = [] := by
        change Faithful (w.subscriptions.get w.subscriptions.nextKey, log) at hlog
        rw [hfresh] at hlog
        exact hlog
      subst hnil
      exact tells_created rfl rfl rfl rfl

theorem update_keepsOrder {t : Transition} {read : Subscription} (ht : Direct planExists t)
    (hdue : Due t read) {d : Nat} {w : World} (hinv : InOrder d w none) :
    KeepsOrder d (outstanding (t.compareAndSwap read) (ifFound (t.entry read 0)) w)
      (Proc.applied (t.compareAndSwap read) w) := by
  obtain ⟨r, u, hr, hfinds, hcas, hu⟩ | ⟨n, hn, hcas, -⟩ := compareAndSwap_cases t read w
  · rw [outstanding_ok hcas, Proc.applied_ok hcas]
    refine keepsOrder_rewritten (w := w) rfl hu hinv fun log hlog => ?_
    change Faithful (w.subscriptions.get read.id, log) at hlog
    rw [hr] at hlog
    exact Tells.follow hlog (ht.follows hdue hfinds w.now)
  · rw [outstanding_ok hcas, Proc.applied_ok hcas, ifFound, if_neg hn]
    exact keepsOrder_same rfl hinv

/-- An activation finds the row as it was read and rewrites it, or does nothing. -/
theorem activate_keepsOrder {input : Activation} {read : Subscription}
    (hallowed : isSubscriptionTransitionAllowed read.status input.toStatus = true)
    {d : Nat} {w : World} (hinv : InOrder d w none) :
    KeepsOrder d (outstanding (activate input read) (ifFound (activatedEvent input read)) w)
      (Proc.applied (activate input read) w) := by
  cases htx : activate input read w with
  | error err =>
      rw [outstanding, htx, Proc.applied_error htx]
      exact keepsOrder_same rfl hinv
  | ok result =>
      obtain ⟨n, w'⟩ := result
      rw [outstanding_ok htx, Proc.applied_ok htx]
      rw [activate, Tx.bind_read] at htx
      have hkey : ∀ r : Subscription, (r.id = read.id && r.status = read.status) = true →
          Schema.key r = read.id := by
        intro r h
        simp only [Bool.and_eq_true, decide_eq_true_eq] at h
        exact h.1
      obtain ⟨rfl, r, u, hr, hfinds, hu, rfl⟩ | ⟨hn, -, rfl⟩ := Slot.updateMany_key_ok hkey htx
      · refine keepsOrder_rewritten (w := w) rfl (Table.get_update_key hu hkey hr hfinds) hinv
          fun log hlog => ?_
        change Faithful (w.subscriptions.get read.id, log) at hlog
        rw [show w.subscriptions.get read.id = some r from hr] at hlog
        have hstatus : r.status = read.status := by
          simp only [Bool.and_eq_true, decide_eq_true_eq] at hfinds
          exact hfinds.2
        refine Tells.follow hlog ⟨congrArg some hstatus.symm, ?_, rfl, rfl⟩
        rintro s hs
        cases hs
        exact .inr hallowed
      · rw [ifFound, if_neg hn]
        exact keepsOrder_same rfl hinv

/-- What is complete in itself leaves a history that is told. -/
theorem whole_keepsOrder {ℓ : Commit} {upd : World → World}
    (h : Writes parseDate (fun _ _ => False) ℓ upd) (hℓ : ℓ.isWhole = true) {d : Nat} {w : World}
    (hinv : InOrder d w none) : KeepsOrder d none (upd w) := by
  refine ⟨fun e he => ?_, fun _ => ?_⟩
  · cases he
  rw [InOrder, Option.toList_none, List.append_nil] at hinv ⊢
  change Faithful (view w d) at hinv
  change Faithful (view (upd w) d)
  generalize hv : view w d = v at hinv
  generalize hv' : view (upd w) d = v'
  have hturn := (writes_turn h w d).2
  rw [hv, hv'] at hturn
  cases hturn with
  | stay => exact hinv
  | deliver ht hdue hd hℓ' => exact Tells.follow hinv (ht.follows hdue)
  | create hℓ' | event hd hℓ' | activate hstatus hallowed hd hℓ' =>
      subst hℓ'
      cases hℓ
  | transition ht => exact ht.elim

end Incurs

section Instance

variable (parseDate : String → Option Int) (planExists : String → Bool)

/-- Every change leaves its event outstanding, and the event of a change settles it. -/
def eventDebts : Debts World Commit SubscriptionEvent Nat
    (Option Subscription × List SubscriptionEvent) where
  incurs := Incurs parseDate planExists
  pays := Records
  owed
    | .event e => some e
    | _ => none
  about e := e.subscriptionId
  seen d w := view w d
  inOrder := InOrder
  owed_incurs h := by
    cases h with
    | create | update | activate => rfl
    | whole h hℓ =>
        revert hℓ
        split
        · exact fun hℓ => Bool.noConfusion hℓ
        · exact fun _ => rfl
  owed_pays h := by
    cases h with
    | event e => rfl
  inOrder_congr hseen hinv := by
    rw [InOrder, hseen]
    exact hinv
  inOrder_incurs h hinv := by
    cases h with
    | create tenantId planId => exact create_keepsOrder tenantId planId hinv
    | update ht hdue => exact update_keepsOrder ht hdue hinv
    | activate input read hallowed => exact activate_keepsOrder hallowed hinv
    | whole h hℓ => exact whole_keepsOrder h hℓ hinv
  inOrder_pays h hinv := by
    rw [InOrder, records_view h, if_pos rfl, Option.toList_none, List.append_nil]
    exact hinv
  seen_pays h hne := by
    rw [records_view h, if_neg hne, List.append_nil]

end Instance

end PrintForge.Subscriptions
