import PrintForge.Relational.References
import PrintForge.Subscriptions.Orchestration

/-!
# What the statements of the subscription service do

One lemma for each statement, as an equation, since none of them can fail: no update touches an
indexed column. From them follows what a delivery does to the row of its subscription: `after`.
-/

namespace PrintForge.Subscriptions

open Relational Concurrent JavaScript

variable {w w' : World}

/-! ## Transitions -/

namespace Transition

variable {t : Transition} {read r : Subscription}

theorem exists_update (t : Transition) (read : Subscription) (now : Int)
    (table : Table Subscription) :
    ∃ u, table.update (t.finds read) (t.row now read) (t.row_key now read) = some u := by
  refine Table.exists_update fun a _ b _ h => ?_
  have hidentity : ∀ x, (if t.finds read x then t.row now read x else x).toIdentity
      = x.toIdentity := by
    intro x
    split
    · exact t.row_identity now read x
    · rfl
  change Identity.Clash _ _ at h
  rw [hidentity, hidentity] at h
  exact h

theorem compareAndSwap_eq {u : Table Subscription}
    (hu : w.subscriptions.update (t.finds read) (t.row w.now read) (t.row_key w.now read)
      = some u) :
    t.compareAndSwap read w
      = .ok (w.subscriptions.count (t.finds read), { w with subscriptions := u }) := by
  simp [compareAndSwap, Slot.updateMany, Db.subscriptions, hu]

theorem finds_key (h : t.finds read r = true) : Schema.key r = read.id := by
  simp only [finds, Bool.and_eq_true, decide_eq_true_eq] at h
  exact h.1.1

/-- The row is as it was read: it is rewritten. -/
theorem compareAndSwap_hit (hr : w.subscriptions.get read.id = some r)
    (hf : t.finds read r = true) :
    ∃ u, t.compareAndSwap read w = .ok (1, { w with subscriptions := u }) ∧
      ∀ k, u.get k = if k = read.id then some (t.row w.now read r) else w.subscriptions.get k := by
  obtain ⟨u, hu⟩ := t.exists_update read w.now w.subscriptions
  refine ⟨u, ?_, fun k => Table.get_update_key hu (fun x => finds_key) hr hf k⟩
  rw [compareAndSwap_eq hu, (Table.count_eq_one fun x => finds_key).mpr ⟨r, hr, hf⟩]

/-- The row is not as it was read: nothing happens. -/
theorem compareAndSwap_miss (hr : w.subscriptions.get read.id = some r)
    (hf : t.finds read r = false) : ∃ n, n ≠ 1 ∧ t.compareAndSwap read w = .ok (n, w) := by
  obtain ⟨u, hu⟩ := t.exists_update read w.now w.subscriptions
  have hcount : w.subscriptions.count (t.finds read) ≠ 1 := by
    intro hone
    obtain ⟨r', hr', hf'⟩ := (Table.count_eq_one fun x => finds_key).mp hone
    cases hr.symm.trans hr'
    rw [hf] at hf'
    cases hf'
  have hsame : u = w.subscriptions :=
    Table.update_eq_self hu (Table.count_ne_one (fun x => finds_key) hcount)
  refine ⟨_, hcount, ?_⟩
  rw [compareAndSwap_eq hu, hsame]

theorem record_ok (t : Transition) (read : Subscription) (w : World) :
    ∃ e events, t.record read w = .ok (e, { w with subscriptionEvents := events }) := by
  obtain ⟨events, -, h⟩ := Slot.exists_create_ok (T := Db.subscriptionEvents) (s := w)
    (ε := HttpError) _ _ fun _ _ h => h
  exact ⟨_, events, h⟩

theorem finds_self (t : Transition) (r : Subscription) : t.finds r r = true := by
  simp [finds, t.unchanged_self r]

/-- What becomes of a row that the method is called with as it stands. -/
def settle (t : Transition) (now : Int) (r : Subscription) : Subscription :=
  if t.reached r then r else if (t.check r).isSome then r else t.row now r r

@[simp] theorem settle_identity (t : Transition) (now : Int) (r : Subscription) :
    (t.settle now r).toIdentity = r.toIdentity := by
  unfold settle
  split
  · rfl
  · split
    · rfl
    · exact t.row_identity now r r

end Transition

/-- The row with the identity of `r'` is `r'` now, and nothing else has happened to
subscriptions. -/
structure Sets (r' : Subscription) (w w' : World) : Prop where
  now : w'.now = w.now
  get : ∀ k, w'.subscriptions.get k = if k = r'.id then some r' else w.subscriptions.get k

theorem sets_self {r : Subscription} (h : w.subscriptions.get r.id = some r) : Sets r w w := by
  refine ⟨rfl, fun k => ?_⟩
  split
  · next he =>
    rw [he]
    exact h
  · rfl

/-- Inside a transaction a method called with the row as it stands settles it. -/
theorem Transition.apply_settles (t : Transition) {r : Subscription}
    (hr : w.subscriptions.get r.id = some r) :
    Sets (t.settle w.now r) w (Proc.applied (t.apply r : Transaction TransitionResult) w) ∧
      (Proc.applied (t.apply r : Transaction TransitionResult) w).billingWebhookEvents
        = w.billingWebhookEvents := by
  by_cases hreached : t.reached r = true
  · have hself : t.settle w.now r = r := by simp [settle, hreached]
    rw [hself, Transition.apply, if_pos hreached]
    exact ⟨sets_self hr, rfl⟩
  · rw [Transition.apply, if_neg hreached]
    cases hcheck : t.check r with
    | some err =>
        have hself : t.settle w.now r = r := by simp [settle, hcheck]
        rw [hself]
        exact ⟨sets_self hr, rfl⟩
    | none =>
        have hself : t.settle w.now r = t.row w.now r r := by simp [settle, hcheck, hreached]
        obtain ⟨u, hcas, hu⟩ := Transition.compareAndSwap_hit hr (t.finds_self r)
        obtain ⟨e, events, hrecord⟩ := t.record_ok r { w with subscriptions := u }
        have hid : (t.row w.now r r).id = r.id := congrArg Identity.id (t.row_identity w.now r r)
        have hget : u.get r.id = some (t.row w.now r r) := by rw [hu, if_pos rfl]
        have hrun : (Transition.applied t r : Transaction TransitionResult)
            { w with subscriptions := u }
            = .ok (⟨true, t.row w.now r r, some (t.event r).type⟩,
              { w with subscriptions := u, subscriptionEvents := events }) := by
          simp [Transition.applied, findUniqueOrThrow, Tx.bind_apply, hrecord, hget]
        have happly : Proc.applied (do
            let count ← Client.statement (Commit.transition t.method r) (t.compareAndSwap r)
            if count ≠ 1 then return unapplied r else t.applied r :
              Transaction TransitionResult) w
            = { w with subscriptions := u, subscriptionEvents := events } :=
          Proc.applied_ok (Tx.bind_ok.mpr ⟨1, _, hcas, hrun⟩)
        dsimp only
        rw [hself, happly]
        refine ⟨⟨rfl, fun k => ?_⟩, rfl⟩
        rw [hid]
        exact hu k

/-! ## Deliveries -/

/-- Of the stored deliveries at most the status of one has changed. -/
structure Files (id : Nat) (w w' : World) : Prop where
  others : ∀ k, k ≠ id → w'.billingWebhookEvents.get k = w.billingWebhookEvents.get k
  delivery : ∀ e, w.billingWebhookEvents.get id = some e →
    ∃ e', w'.billingWebhookEvents.get id = some e' ∧ e'.payload = e.payload ∧
      e'.createdAt = e.createdAt

theorem files_self {id : Nat} (h : w'.billingWebhookEvents = w.billingWebhookEvents) :
    Files id w w' := by
  refine ⟨fun k _ => by rw [h], fun e he => ⟨e, ?_, rfl, rfl⟩⟩
  rw [h]
  exact he

theorem Files.trans {id : Nat} {w₁ : World} (h : Files id w w₁) (h' : Files id w₁ w') :
    Files id w w' := by
  refine ⟨fun k hk => (h'.others k hk).trans (h.others k hk), fun e he => ?_⟩
  obtain ⟨e₁, he₁, hp₁, hc₁⟩ := h.delivery e he
  obtain ⟨e₂, he₂, hp₂, hc₂⟩ := h'.delivery e₁ he₁
  exact ⟨e₂, he₂, hp₂.trans hp₁, hc₂.trans hc₁⟩

/-- An update of a delivery that leaves its content alone succeeds. -/
theorem update_delivery {id : Nat} {data : BillingWebhookEvent → BillingWebhookEvent}
    {hdata : ∀ e, Schema.key (data e) = Schema.key e} {e : BillingWebhookEvent}
    (he : w.billingWebhookEvents.get id = some e)
    (hname : ∀ e, (data e).providerEventId = e.providerEventId)
    (hcontent : ∀ e, (data e).payload = e.payload ∧ (data e).createdAt = e.createdAt) :
    ∃ events, (Db.billingWebhookEvents.update id data hdata : Transaction _) w
        = .ok (data e, { w with billingWebhookEvents := events }) ∧
      Files id w { w with billingWebhookEvents := events } := by
  have hclash : ∀ a b : BillingWebhookEvent, Schema.Clash (if Schema.key a = id then data a else a)
      (if Schema.key b = id then data b else b) → Schema.Clash a b := by
    intro a b h
    have hsame : ∀ x : BillingWebhookEvent,
        (if Schema.key x = id then data x else x).providerEventId = x.providerEventId := by
      intro x
      split
      · exact hname x
      · rfl
    change _ = _ at h
    rw [hsame, hsame] at h
    exact h
  obtain ⟨events, hrun, hget⟩ : ∃ t, (Db.billingWebhookEvents.update id data hdata :
      Transaction BillingWebhookEvent) w = .ok (data e, Db.billingWebhookEvents.set t w) ∧
        ∀ k, t.get k = if k = id then some (data e) else w.billingWebhookEvents.get k :=
    Slot.exists_update_ok he fun a _ b _ => hclash a b
  refine ⟨events, hrun, fun k hk => (hget k).trans (if_neg hk), fun e' he' => ?_⟩
  cases he.symm.trans he'
  exact ⟨data e, (hget id).trans (if_pos rfl), hcontent e⟩

theorem closeEvent_ok {id : Nat} {e : BillingWebhookEvent}
    (he : w.billingWebhookEvents.get id = some e) (status : BillingWebhookEventStatus)
    (lastError : Option String) :
    ∃ events, closeEvent id status lastError w
        = .ok ((), { w with billingWebhookEvents := events }) ∧
      Files id w { w with billingWebhookEvents := events } := by
  let data (e : BillingWebhookEvent) : BillingWebhookEvent :=
    { e with status, lastError := lastError.or e.lastError, processedAt := some w.now }
  have hdata : ∀ e, Schema.key (data e) = Schema.key e := fun _ => rfl
  obtain ⟨events, hrun, hfiles⟩ : ∃ events,
      (Db.billingWebhookEvents.update id data hdata : Transaction BillingWebhookEvent) w
        = .ok (data e, { w with billingWebhookEvents := events }) ∧
      Files id w { w with billingWebhookEvents := events } :=
    update_delivery he (fun _ => rfl) fun _ => ⟨rfl, rfl⟩
  exact ⟨events, Tx.bind_ok.mpr ⟨_, _, rfl, Tx.bind_ok.mpr ⟨_, _, hrun, rfl⟩⟩, hfiles⟩

section Dates

variable (parseDate : String → Option Int)

/-- The transition a delivery asks of a subscription. -/
def asked (normalized : NormalizedBillingEvent) (status : SubscriptionStatus) (now : Int) :
    Option Transition :=
  match renewalPeriod parseDate normalized (extractEnvelope normalized.payload) with
  | some period =>
      if status = .pastDue then some (recoverPayment (some normalized.providerEventId))
      else some (confirmRenewal period (some normalized.providerEventId))
  | none => billingWebhookTransition normalized now

theorem applyEvent_eq (normalized : NormalizedBillingEvent) (r : Subscription) (w : World) :
    applyEvent parseDate normalized r w
      = (match asked parseDate normalized r.status w.now with
        | some t => (t.apply r : Transaction TransitionResult)
        | none => pure (Transition.unapplied r)) w := by
  unfold applyEvent asked
  cases renewalPeriod parseDate normalized (extractEnvelope normalized.payload) with
  | some period =>
      dsimp only
      split <;> rfl
  | none => rfl

/-- The row of a subscription after a delivery about it has been processed. -/
def Subscription.after (e : BillingWebhookEvent) (now : Int) (r : Subscription) : Subscription :=
  if isStale (eventTimestamp parseDate (extractEnvelope e.payload.payload) e.createdAt) r then r
  else
    match asked parseDate e.payload r.status now with
    | some t => t.settle now r
    | none => r

/-- No delivery changes what identifies a subscription. -/
@[simp] theorem after_identity (e : BillingWebhookEvent) (now : Int) (r : Subscription) :
    (r.after parseDate e now).toIdentity = r.toIdentity := by
  unfold Subscription.after
  split
  · rfl
  · split
    · exact Transition.settle_identity _ now r
    · rfl

variable {id : Nat} {e : BillingWebhookEvent} {r : Subscription}

theorem lockedEvent_get (h : lockedEvent id w = some e) :
    w.billingWebhookEvents.get id = some e ∧ e.id = id := by
  have hget := (Option.filter_eq_some_iff.mp h).1
  exact ⟨hget, (Table.get_eq_some.mp hget).2⟩

theorem resolveSubscription_get {envelope : BillingWebhookEnvelope}
    (h : resolveSubscription envelope w = some r) : w.subscriptions.get r.id = some r := by
  have hmem : r ∈ w.subscriptions := by
    rcases Option.or_eq_some_iff.mp h with h | ⟨-, h⟩
    · obtain ⟨name, -, hfind⟩ := Option.bind_eq_some_iff.mp h
      exact (Table.findFirst_some hfind).1
    · obtain ⟨name, -, hfind⟩ := Option.bind_eq_some_iff.mp h
      exact (Table.findFirst_some hfind).1
  exact Table.get_key hmem

/-- A delivery that has been dealt with is left alone. -/
theorem processEvent_idle (h : lockedEvent id w = none) :
    processEvent parseDate id w = .ok ((), w) := by
  rw [processEvent, Tx.bind_read, h]
  rfl

/-- A delivery about no subscription is closed. -/
theorem processEvent_unresolved (h : lockedEvent id w = some e)
    (hres : resolveSubscription (extractEnvelope e.payload.payload) w = none) :
    ∃ events, processEvent parseDate id w = .ok ((), { w with billingWebhookEvents := events }) ∧
      Files id w { w with billingWebhookEvents := events } := by
  obtain ⟨hget, rfl⟩ := lockedEvent_get h
  rw [processEvent, Tx.bind_read, h]
  dsimp only
  rw [Tx.bind_read, hres]
  exact closeEvent_ok hget _ _

/-- A delivery leaves the row of its subscription as `after` says, whether it is applied,
dropped or refused. -/
theorem processEvent_row (h : lockedEvent id w = some e)
    (hres : resolveSubscription (extractEnvelope e.payload.payload) w = some r) :
    Sets (r.after parseDate e w.now) w (Proc.applied (processEvent parseDate id) w) ∧
      Files id w (Proc.applied (processEvent parseDate id) w) := by
  obtain ⟨hget, rfl⟩ := lockedEvent_get h
  have hr := resolveSubscription_get hres
  have hrun : processEvent parseDate e.id w = applyLocked parseDate e r w := by
    rw [processEvent, Tx.bind_read, h]
    dsimp only
    rw [Tx.bind_read, hres]
  have happlied : Proc.applied (processEvent parseDate e.id) w
      = Proc.applied (applyLocked parseDate e r) w := by
    rw [Proc.applied, hrun]
    rfl
  rw [happlied]
  by_cases hstale : isStale (eventTimestamp parseDate (extractEnvelope e.payload.payload)
      e.createdAt) r = true
  · have hafter : r.after parseDate e w.now = r := by rw [Subscription.after, if_pos hstale]
    obtain ⟨events, hclose, hfiles⟩ := closeEvent_ok hget .ignored
      (some "stale: event timestamp not newer than current subscription state")
    rw [applyLocked, if_pos hstale, Proc.applied_ok hclose, hafter]
    exact ⟨⟨rfl, (sets_self hr).get⟩, hfiles⟩
  · rw [applyLocked, if_neg hstale]
    -- the transition asked for, when there is one, settles the row
    have hsets : Sets (r.after parseDate e w.now) w
          (Proc.applied (applyEvent parseDate e.payload r) w) ∧
        (Proc.applied (applyEvent parseDate e.payload r) w).billingWebhookEvents
          = w.billingWebhookEvents := by
      rw [Proc.applied, applyEvent_eq, Subscription.after, if_neg hstale]
      cases hasked : asked parseDate e.payload r.status w.now with
      | some t => exact t.apply_settles hr
      | none => exact ⟨sets_self hr, rfl⟩
    cases hevent : applyEvent parseDate e.payload r w with
    | error err =>
        rw [Proc.applied_error hevent] at hsets
        rw [Proc.applied_error (Tx.bind_error.mpr (.inl hevent))]
        exact ⟨hsets.1, files_self rfl⟩
    | ok result =>
        obtain ⟨result, w₁⟩ := result
        rw [Proc.applied_ok hevent] at hsets
        obtain ⟨hset, hsame⟩ := hsets
        have hget₁ : w₁.billingWebhookEvents.get e.id = some e := by
          rw [hsame]
          exact hget
        obtain ⟨events, hclose, hfiles⟩ := closeEvent_ok hget₁ .processed none
        rw [Proc.applied_ok (Tx.bind_ok.mpr ⟨result, w₁, hevent, hclose⟩)]
        exact ⟨⟨hset.now, hset.get⟩, (files_self hsame).trans hfiles⟩

/-! ## The whole of `processOne` -/

/-- What the bookkeeping after a failure leaves alone. -/
structure Bookkeeps (id : Nat) (w w' : World) : Prop where
  now : w'.now = w.now
  subscriptions : w'.subscriptions = w.subscriptions
  files : Files id w w'

theorem bookkeeps_refl (id : Nat) (w : World) : Bookkeeps id w w := ⟨rfl, rfl, files_self rfl⟩

theorem safeUpdate_within {data : Int → BillingWebhookEvent → BillingWebhookEvent}
    {hdata : ∀ now e, (data now e).id = e.id}
    (hcontent : ∀ now e, (data now e).payload = e.payload ∧ (data now e).createdAt = e.createdAt) :
    (safeUpdate id data hdata).Within fun _ w w' => Bookkeeps id w w' := by
  refine Proc.Within.tryCatch (Proc.Within.bind ?_ fun _ => Proc.within_pure _)
    fun _ => Proc.within_pure _
  refine Proc.within_transact (bookkeeps_refl id) fun w e w' h => ?_
  obtain ⟨now, w₁, hread, hupdate⟩ := Tx.bind_ok.mp h
  cases hread
  obtain ⟨e₀, events, hget, hevents, -, rfl⟩ := Slot.update_ok hupdate
  have hall := Table.get_update_key hevents (fun x hx => by simpa using hx) hget
    (by simpa using (Table.get_eq_some.mp hget).2)
  refine ⟨rfl, rfl, fun k hk => (hall k).trans (if_neg hk), fun e' he' => ?_⟩
  cases hget.symm.trans he'
  exact ⟨data w.now e₀, (hall id).trans (if_pos rfl), hcontent w.now e₀⟩

theorem recordFailure_within (id attempts : Nat) (err : HttpError) :
    (recordFailure id attempts err).Within fun _ w w' => Bookkeeps id w w' := by
  unfold recordFailure
  split
  · exact safeUpdate_within fun _ _ => ⟨rfl, rfl⟩
  · exact safeUpdate_within fun _ _ => ⟨rfl, rfl⟩

/-- What one action of `processOne` may do. -/
structure Processes (id : Nat) (w w' : World) : Prop where
  now : w'.now = w.now
  files : Files id w w'
  subscriptions : w'.subscriptions = w.subscriptions ∨
    ∃ e r, lockedEvent id w = some e ∧
      resolveSubscription (extractEnvelope e.payload.payload) w = some r ∧
      Sets (r.after parseDate e w.now) w w'

theorem processEvent_processes (id : Nat) (w : World) :
    Processes parseDate id w (Proc.applied (processEvent parseDate id) w) := by
  cases h : lockedEvent id w with
  | none =>
      rw [Proc.applied_ok (processEvent_idle parseDate h)]
      exact ⟨rfl, files_self rfl, .inl rfl⟩
  | some e =>
      cases hres : resolveSubscription (extractEnvelope e.payload.payload) w with
      | none =>
          obtain ⟨events, hrun, hfiles⟩ := processEvent_unresolved parseDate h hres
          rw [Proc.applied_ok hrun]
          exact ⟨rfl, hfiles, .inl rfl⟩
      | some r =>
          obtain ⟨hset, hfiles⟩ := processEvent_row parseDate h hres
          exact ⟨hset.now, hfiles, .inr ⟨e, r, h, hres, hset⟩⟩

theorem processOne_within (id : Nat) :
    (processOne parseDate id).Within fun _ w w' => Processes parseDate id w w' := by
  refine Proc.Within.bind (Proc.within_attempt ?_ ?_) fun seen => ?_
  · exact fun w => ⟨rfl, files_self rfl, .inl rfl⟩
  · intro w a w' h
    have hall := processEvent_processes parseDate id w
    rw [Proc.applied_ok h] at hall
    exact hall
  · obtain ⟨attempts, result⟩ := seen
    cases result with
    | ok a => exact Proc.within_pure _
    | error err =>
        refine (recordFailure_within id attempts err).mono fun ℓ w w' h => ?_
        exact ⟨h.now, h.files, .inl h.subscriptions⟩

/-- By itself `processOne` does to subscriptions what its transaction does. -/
theorem processOne_alone (id : Nat) (w : World) :
    ((processOne parseDate id).alone w).2.subscriptions
        = (Proc.applied (processEvent parseDate id) w).subscriptions ∧
      ((processOne parseDate id).alone w).2.now = w.now ∧
      Files id w ((processOne parseDate id).alone w).2 := by
  have hall := processEvent_processes parseDate id w
  cases h : processEvent parseDate id w with
  | ok result =>
      obtain ⟨a, w₁⟩ := result
      have hrun : (processOne parseDate id).alone w = (.ok (), w₁) := by
        rw [processOne, Proc.alone_bind (Proc.alone_attempt_ok h)]
        rfl
      rw [Proc.applied_ok h] at hall ⊢
      rw [hrun]
      exact ⟨rfl, hall.now, hall.files⟩
  | error err =>
      have hrun : (processOne parseDate id).alone w
          = (recordFailure id (((lockedEvent id w).map (·.attempts)).getD 0) err).alone w := by
        rw [processOne, Proc.alone_bind (Proc.alone_attempt_error h)]
      rw [Proc.applied_error h, hrun]
      have hkeep := (recordFailure_within id (((lockedEvent id w).map (·.attempts)).getD 0)
        err).alone (J := Bookkeeps id w) (fun ℓ w₁ w₂ h₂ h₁ => ?_) (bookkeeps_refl id w)
      · exact ⟨hkeep.subscriptions, hkeep.now, hkeep.files⟩
      · exact ⟨h₂.now.trans h₁.now, h₂.subscriptions.trans h₁.subscriptions,
          h₁.files.trans h₂.files⟩

end Dates

end PrintForge.Subscriptions
