import PrintForge.Payments.OrderGuarantees
import PrintForge.Payments.Retries
import PrintForge.Subscriptions.EitherOrder

/-!
# Billing webhooks as work that is retried

The processor of billing webhooks keeps its books as the one of payment webhooks does, and what
is promised of an event is promised of both. What can go wrong is shown of both as well: the
write that records a failure does not ask whether the event has been dealt with meanwhile.
-/

namespace PrintForge.Subscriptions

open Relational Concurrent

namespace BillingWebhookEventStatus

/-- The statuses in which the processor takes an event up. -/
def isOpen (status : BillingWebhookEventStatus) : Bool :=
  status = .received || status = .processingFailed

end BillingWebhookEventStatus

/-- The stored event `id` as an item of work. -/
def billingWebhookItem (id : Nat) : Item World Commit BillingWebhookEventStatus where
  view w := (w.billingWebhookEvents.get id).map fun e => (e.status, e.attempts)
  isOpen := BillingWebhookEventStatus.isOpen
  maxAttempts := maxAttempts
  applies := .processBillingWebhook id
  records := .settleBillingWebhook id
  distinct := by simp

variable {w w' : World} {id : Nat}

theorem lockedEvent_eq_some {e : BillingWebhookEvent} :
    lockedEvent id w = some e ↔
      w.billingWebhookEvents.get id = some e ∧ e.status.isOpen = true := by
  unfold lockedEvent BillingWebhookEventStatus.isOpen
  exact Option.filter_eq_some_iff

theorem billingWebhookItem_view {e : BillingWebhookEvent}
    (h : w.billingWebhookEvents.get id = some e) :
    (billingWebhookItem id).view w = some (e.status, e.attempts) := by
  simp [billingWebhookItem, h]

/-- An update of the event is seen as its new status and its new number of attempts. -/
theorem update_view {data : BillingWebhookEvent → BillingWebhookEvent}
    {hdata : ∀ e, Schema.key (data e) = Schema.key e} {e : BillingWebhookEvent}
    (h : (Db.billingWebhookEvents.update id data hdata : Transaction BillingWebhookEvent) w
      = .ok (e, w')) :
    ∃ e₀, w.billingWebhookEvents.get id = some e₀ ∧
      (billingWebhookItem id).view w' = some ((data e₀).status, (data e₀).attempts) := by
  obtain ⟨e₀, events, hget, hevents, -, rfl⟩ := Slot.update_ok h
  refine ⟨e₀, hget, billingWebhookItem_view ?_⟩
  have hall := Table.get_update_key hevents (fun x hx => by simpa using hx) hget
    (by simpa using (Table.get_eq_some.mp hget).2)
  exact (hall id).trans (if_pos rfl)

/-- Closing the event leaves the number of its attempts. -/
theorem closeEvent_attempt {e : BillingWebhookEvent} {w₁ : World}
    (hlock : lockedEvent id w = some e)
    (hkept : w₁.billingWebhookEvents = w.billingWebhookEvents)
    {status : BillingWebhookEventStatus} (hclosed : status.isOpen = false)
    {lastError : Option String} (h : closeEvent e.id status lastError w₁ = .ok ((), w')) :
    (billingWebhookItem id).Attempt w w' := by
  obtain ⟨hget, hopen⟩ := lockedEvent_eq_some.mp hlock
  obtain rfl : e.id = id := (Table.get_eq_some.mp hget).2
  obtain ⟨now, w₂, hread, hrest⟩ := Tx.bind_ok.mp h
  cases hread
  obtain ⟨row, w₃, hupdate, hdone⟩ := Tx.bind_ok.mp hrest
  cases hdone
  obtain ⟨e₀, hget₀, hview⟩ := update_view hupdate
  rw [hkept] at hget₀
  cases hget.symm.trans hget₀
  exact .inr ⟨e.status, e.attempts, status, billingWebhookItem_view hget, hopen, hview, hclosed⟩

section Dates

variable (parseDate : String → Option Int)

/-- What is done to the subscription leaves the stored events alone. -/
theorem applyEvent_events {normalized : NormalizedBillingEvent} {r : Subscription}
    {result : TransitionResult} (hr : w.subscriptions.get r.id = some r)
    (h : applyEvent parseDate normalized r w = .ok (result, w')) :
    w'.billingWebhookEvents = w.billingWebhookEvents := by
  rw [applyEvent_eq] at h
  cases hasked : asked parseDate normalized r.status w.now with
  | none =>
      rw [hasked] at h
      cases h
      rfl
  | some t =>
      rw [hasked] at h
      have hkept := (t.apply_settles hr).2
      rw [Proc.applied_ok h] at hkept
      exact hkept

/-- Where the transaction commits, it has dealt with the event. -/
theorem processEvent_attempt (h : processEvent parseDate id w = .ok ((), w')) :
    (billingWebhookItem id).Attempt w w' := by
  cases hlock : lockedEvent id w with
  | none =>
      rw [processEvent_idle parseDate hlock] at h
      cases h
      exact .inl rfl
  | some e =>
      rw [processEvent, Tx.bind_read, hlock] at h
      dsimp only at h
      rw [Tx.bind_read] at h
      cases hres : resolveSubscription (extractEnvelope e.payload.payload) w with
      | none =>
          rw [hres] at h
          exact closeEvent_attempt hlock rfl rfl h
      | some r =>
          rw [hres] at h
          dsimp only [applyLocked] at h
          split at h
          · exact closeEvent_attempt hlock rfl rfl h
          · obtain ⟨result, w₁, hevent, hclose⟩ := Tx.bind_ok.mp h
            have hkept := applyEvent_events parseDate (resolveSubscription_get hres) hevent
            exact closeEvent_attempt hlock hkept rfl hclose

end Dates

/-- What `safeUpdate` has to write to record a failure after `n` earlier ones. -/
theorem safeUpdate_minds {n : Nat} (hn : n < maxAttempts)
    {data : Int → BillingWebhookEvent → BillingWebhookEvent}
    {hdata : ∀ now e, (data now e).id = e.id} (hcount : ∀ now e, (data now e).attempts = n + 1)
    (hopen : ∀ now e, (data now e).status.isOpen = true → n + 1 < maxAttempts) :
    (billingWebhookItem id).Minds (safeUpdate id data hdata) := by
  have hwrite : (billingWebhookItem id).Minds (do
      let _ ← Proc.transact (Commit.settleBillingWebhook id) (do
        let now ← Tx.read World.now
        Db.billingWebhookEvents.update id (data now) (hdata now))
      return () : Service Unit) := by
    refine Item.Minds.bind (Item.minds_transact (n := n) hn fun w e w' h => ?_)
      fun _ => .done _
    obtain ⟨now, w₁, hread, hupdate⟩ := Tx.bind_ok.mp h
    cases hread
    obtain ⟨e₀, hget, hview⟩ := update_view hupdate
    exact .inr ⟨_, _, _, _, billingWebhookItem_view hget, hview, .inl (hcount _ e₀),
      hopen _ e₀⟩
  exact hwrite.tryCatch fun _ => .done _

theorem recordFailure_minds {attempts : Nat} (hn : attempts < maxAttempts) (err : HttpError) :
    (billingWebhookItem id).Minds (recordFailure id attempts err) := by
  unfold recordFailure
  split
  · exact safeUpdate_minds hn (fun _ _ => rfl) fun _ _ h => by cases h
  · next hnot =>
    refine safeUpdate_minds hn (fun _ _ => rfl) fun _ _ _ => ?_
    simp only [Bool.or_eq_true, decide_eq_true_eq, not_or] at hnot
    omega

theorem processOne_minds (parseDate : String → Option Int) (id : Nat) :
    (billingWebhookItem id).Minds (processOne parseDate id) := by
  refine Item.minds_attempt_bind (by simp [billingWebhookItem])
    (fun w _ w' h => processEvent_attempt parseDate h) fun w result hw => ?_
  -- what the worker has seen of the attempts is within the bound
  have hn : ((lockedEvent id w).map (·.attempts)).getD 0 < maxAttempts := by
    cases hlock : lockedEvent id w with
    | none => decide
    | some e =>
        obtain ⟨hget, hopen⟩ := lockedEvent_eq_some.mp hlock
        exact (hw _ _ (billingWebhookItem_view hget)).2 hopen
  cases result with
  | ok a => exact .done _
  | error err => exact recordFailure_minds hn err

/-! ## Both processors -/

/-- The runs of the processor of payment webhooks on the event `id`. -/
abbrev PaymentRun (id : Nat) (ok : PrintForge.Commit → PrintForge.World → Prop) :=
  Run (ε := ServiceError) (fun _ => Item.Activity.serve (PrintForge.processOne id))
    (fun act _ => (webhookItem id).Around act) ok

/-- A stored event is settled once, whichever processor it belongs to, as long as no failure is
recorded of an event that has been settled; the bound on its attempts holds in every run. -/
theorem events_settle_once (parseDate : String → Option Int) (id : Nat) {w : PrintForge.World}
    {v : World} (hw : (webhookItem id).Bounded w) (hv : (billingWebhookItem id).Bounded v) :
    (webhookItem id).SettlesOnce (fun _ => Item.Activity.serve (PrintForge.processOne id))
        (fun act _ => (webhookItem id).Around act) ⟨w, []⟩ ∧
      (billingWebhookItem id).SettlesOnce
        (fun _ => Item.Activity.serve fun _ : Unit => processOne parseDate id)
        (fun act _ => (billingWebhookItem id).Around act) ⟨v, []⟩ := by
  constructor
  · exact Item.settlesOnce_around (PrintForge.processOne_minds id) hw
  · exact Item.settlesOnce_around (fun _ => processOne_minds parseDate id) hv

/-- The webhook of a refund this system does not know, after four failed attempts. -/
def unknownRefund : WebhookEvent where
  id := 0
  razorpayEventId := "evt_1"
  payload := ⟨refundProcessedEvent, none, some ⟨"rfnd_1", some 10000, none⟩, some 1769904000⟩
  status := .processingFailed
  paymentAccountId := some 0
  attempts := 4
  availableAt := 0
  lastError := some "rfnd_1"

def fourthRetry : PrintForge.World :=
  { World.initial exampleAccounts .empty .empty with
    webhookEvents := ⟨[unknownRefund], 1, by decide, by decide⟩ }

theorem fourthRetry_bounded : (webhookItem 0).Bounded fourthRetry := by
  intro status attempts hview
  have hfound : (webhookItem 0).view fourthRetry = some (.processingFailed, 4) := rfl
  cases hfound.symm.trans hview
  exact ⟨by decide, fun _ => by decide⟩

theorem monthEnd_bounded : (billingWebhookItem 0).Bounded monthEnd := by
  intro status attempts hview
  have hfound : (billingWebhookItem 0).view monthEnd = some (.received, 0) := rfl
  cases hfound.symm.trans hview
  exact ⟨by decide, fun _ => by decide⟩

theorem events_settle_once_fourthRetry :
    (webhookItem 0).SettlesOnce (fun _ => Item.Activity.serve (PrintForge.processOne 0))
        (fun act _ => (webhookItem 0).Around act) ⟨fourthRetry, []⟩ ∧
      (billingWebhookItem 0).SettlesOnce
        (fun _ => Item.Activity.serve fun _ : Unit => processOne februaryToMarch 0)
        (fun act _ => (billingWebhookItem 0).Around act) ⟨monthEnd, []⟩ :=
  events_settle_once februaryToMarch 0 fourthRetry_bounded monthEnd_bounded

/-- Three workers fail on the same event. The first two to record it make it six failures, and
the event is given up; the third, slower one puts it back to five and up for another attempt. -/
theorem given_up_event_reopened :
    ¬ ∀ (id : Nat) (w : PrintForge.World), (webhookItem id).Bounded w → ∀ c c' status,
      PaymentRun id (fun _ _ => True) ⟨w, []⟩ c → (webhookItem id).Settled status c.state →
        PaymentRun id (fun _ _ => True) c c' → (webhookItem id).Settled status c'.state := by
  have hrun : (exec (ε := ServiceError) (fun _ => Item.Activity.serve (PrintForge.processOne 0))
      (fun act _ => act matches .work _) (fun _ _ => True)
      [.accept (.work 0), .advance 0, .accept (.work 0), .advance 1, .advance 1,
        .accept (.work 0), .advance 2, .advance 2] ⟨fourthRetry, []⟩).any (fun c =>
        decide ((webhookItem 0).view c.state = some (.failed, 6)) &&
          (exec (ε := ServiceError) (fun _ => Item.Activity.serve (PrintForge.processOne 0))
            (fun act _ => act matches .work _) (fun _ _ => True) [.advance 0] c).any fun c' =>
              decide ((webhookItem 0).view c'.state = some (.processingFailed, 5))) = true := by
    decide +kernel
  have hmono : ∀ {c c'}, Run (ε := ServiceError)
      (fun _ => Item.Activity.serve (PrintForge.processOne 0))
      (fun act _ => act matches .work _) (fun _ _ => True) c c' →
        PaymentRun 0 (fun _ _ => True) c c' := by
    intro c c' h
    refine h.mono (fun act s hact => ?_) fun _ _ h => h
    cases act with
    | work now => trivial
    | other ℓ upd => cases hact
  obtain ⟨c, hc, h⟩ := exec_any hrun
  obtain ⟨hview, h⟩ := Bool.and_eq_true_iff.mp h
  obtain ⟨c', hc', h⟩ := exec_any h
  have hsettled : (webhookItem 0).Settled .failed c.state := ⟨6, of_decide_eq_true hview, rfl⟩
  intro hall
  obtain ⟨n, hview', -⟩ := hall 0 fourthRetry fourthRetry_bounded c c' .failed (hmono hc) hsettled
    (hmono hc')
  cases (of_decide_eq_true h).symm.trans hview'

end PrintForge.Subscriptions
