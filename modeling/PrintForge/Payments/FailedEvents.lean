import PrintForge.Payments.EventErrors
import PrintForge.Payments.OrderGuarantees

/-!
# When the report of a failed payment is accepted

A failure closes the attempt of its payment and then takes the order to `PAYMENT_FAILED`. The
second half is not guarded the way a capture guards it: where the order cannot make that
transition, or has announced an earlier failure, the transaction is rolled back, the attempt
stays open, and the next delivery of the event meets the same state again.

So the events that are accepted are those of a payment whose attempt is closed already, and
those of an open attempt of an order that is still waiting for its first payment.
-/

namespace PrintForge

open Relational Concurrent

variable {w : World} {payload : RazorpayWebhookPayload}
variable {order : Order} {paymentEntity : RazorpayPaymentEntity}

/-- The event is applied, and an order that is paid stays as it is. -/
def AcceptsEvent (w : World) (payload : RazorpayWebhookPayload) (order : Order) : Prop :=
  ∃ outcome w', applyWebhookEvent payload w = .ok (outcome, w') ∧
    (order.status = .paid → w'.orders.get order.id = some order)

/-- The order is waiting for its payment, and no earlier failure has been announced. -/
def MayFail (w : World) (order : Order) : Prop :=
  order.status = .pendingPayment ∧
    .orderStatusChanged .paymentFailed ∉ (ledger w order.id).notices

instance (w : World) (order : Order) : Decidable (MayFail w order) :=
  inferInstanceAs (Decidable (_ ∧ ¬ ∃ e ∈ w.outboxEvents.rows, _))

/-- The payload reports a failed payment of the order. -/
structure ReportsFailure (w : World) (payload : RazorpayWebhookPayload) (order : Order)
    (paymentEntity : RazorpayPaymentEntity) : Prop where
  event : payload.event = failedEvent
  payment : payload.payment = some paymentEntity
  order : w.orders.findFirst (·.razorpayOrderId = some paymentEntity.orderId) = some order

instance (w : World) (payload : RazorpayWebhookPayload) (order : Order)
    (paymentEntity : RazorpayPaymentEntity) :
    Decidable (ReportsFailure w payload order paymentEntity) :=
  decidable_of_iff (payload.event = failedEvent ∧ payload.payment = some paymentEntity ∧
      w.orders.findFirst (·.razorpayOrderId = some paymentEntity.orderId) = some order)
    ⟨fun ⟨he, hp, ho⟩ => ⟨he, hp, ho⟩, fun h => ⟨h.event, h.payment, h.order⟩⟩

/-! ## The transaction of a failure -/

/-- Applying a report of a failure is finding the attempt and failing it. -/
theorem ReportsFailure.apply (h : ReportsFailure w payload order paymentEntity) :
    applyWebhookEvent payload w = (do
      let attempt ← findOrCreateAttempt order paymentEntity
      applyFailed order attempt paymentEntity
      return WebhookOutcome.processed) w := by
  have hp : paymentOf payload = some paymentEntity := by
    rw [paymentOf, Option.filter_eq_some_iff]
    exact ⟨h.payment, by simp [h.event]⟩
  have hne : payload.event ≠ capturedEvent := by
    rw [h.event]
    decide
  rw [applyWebhookEvent_target (eventTarget_eq_some.mpr ⟨hp, h.order, rfl⟩)]
  simp only [applyPaymentEvent, if_neg hne]
  rfl

/-- A failure that is recorded was still to come. -/
theorem applyFailed_mayFail {attempt : PaymentAttempt} {w' : World}
    (hord : w.orders.get order.id = some order)
    (hatt : w.paymentAttempts.get attempt.id = some attempt)
    (h : applyFailed order attempt paymentEntity w = .ok ((), w')) :
    ((attempt.status = .captured ∨ attempt.status = .failed) ∧ w' = w) ∨ MayFail w order := by
  obtain hclosed | ⟨hs, -, -, ⟨hstep, -⟩, -⟩ := applyFailed_ok hord hatt h
  · exact .inl hclosed
  · generalize ledger w' order.id = L' at hstep
    cases hstep with
    | move _ _ hn => exact .inr ⟨hs, hn⟩

/-! ## What is accepted -/

/-- The report of a failed payment is applied exactly if the payment's attempt is closed
already, or the order is waiting for its payment, has not announced a failure, and there is an
attempt to close. Otherwise every delivery of it ends in an error. -/
theorem failed_event_accepted_iff (h : ReportsFailure w payload order paymentEntity) :
    AcceptsEvent w payload order ↔
      Closed w paymentEntity ∨ (MayFail w order ∧ Findable w order paymentEntity) := by
  have hget : w.orders.get order.id = some order := Table.get_key (Table.findFirst_some h.order).1
  constructor
  · rintro ⟨outcome, w', happly, -⟩
    rw [h.apply] at happly
    obtain ⟨attempt, w₁, hfind, hrest⟩ := Tx.bind_ok.mp happly
    obtain ⟨⟨⟩, w₂, hfail, -⟩ := Tx.bind_ok.mp hrest
    obtain ⟨hledger, hatt, -, -⟩ := findOrCreateAttemptFor_found hfind
    have hsame : w₁.orders = w.orders :=
      within_findOrCreateAttemptFor (R := Tx.Same World.orders) (fun _ _ => rfl) _ _ _ hfind
    obtain ⟨hclosed, -⟩ | ⟨hs, hn⟩ := applyFailed_mayFail (hsame ▸ hget) hatt hfail
    · exact .inl ((findOrCreateAttemptFor_closed hfind).mp hclosed)
    · exact .inr ⟨⟨hs, hledger ▸ hn⟩, findOrCreateAttemptFor_findable hfind⟩
  · intro hcond
    cases happly : applyWebhookEvent payload w with
    | error err =>
        exfalso
        rw [h.apply] at happly
        obtain hfind | ⟨attempt, w₁, hfind, hrest⟩ := Tx.bind_error.mp happly
        · -- a closed attempt is found, too
          obtain ⟨-, hnone⟩ := findOrCreateAttemptFor_error hfind
          obtain ⟨a, ha, hid, -⟩ | ⟨-, hf⟩ := hcond
          · exact hnone (.inr ⟨a, ha, .inl hid⟩)
          · exact hnone hf
        obtain hfail | ⟨⟨⟩, w₂, -, hret⟩ := Tx.bind_error.mp hrest
        · obtain ⟨hledger, hatt, hpay, -⟩ := findOrCreateAttemptFor_found hfind
          obtain ⟨hnc, hnf, herr⟩ := applyFailed_error hatt hpay hfail
          obtain hclosed | ⟨⟨hs, hn⟩, -⟩ := hcond
          · exact ((findOrCreateAttemptFor_closed hfind).mpr hclosed).elim hnc hnf
          · obtain ⟨-, hnot⟩ | ⟨-, -, hnotice⟩ := herr
            · exact hnot hs
            · exact hn (hledger ▸ hnotice)
        · cases hret
    | ok result =>
        obtain ⟨outcome, w'⟩ := result
        refine ⟨outcome, w', happly, fun hpaid => ?_⟩
        -- the order is not pending, so nothing but a closed attempt was found
        rw [h.apply] at happly
        obtain ⟨attempt, w₁, hfind, hrest⟩ := Tx.bind_ok.mp happly
        obtain ⟨⟨⟩, w₂, hfail, hret⟩ := Tx.bind_ok.mp hrest
        cases hret
        have hsame : w₁.orders = w.orders :=
          within_findOrCreateAttemptFor (R := Tx.Same World.orders) (fun _ _ => rfl) _ _ _ hfind
        obtain ⟨-, hatt, -, -⟩ := findOrCreateAttemptFor_found hfind
        obtain ⟨-, rfl⟩ | ⟨hs, -⟩ := applyFailed_mayFail (hsame ▸ hget) hatt hfail
        · exact hsame ▸ hget
        · simp [hpaid] at hs

/-- A first payment of the order fails while the order waits for it. -/
theorem failed_event_accepted_pending :
    ∃ (c : PaymentConfig) (payload : RazorpayWebhookPayload) (order : Order),
      order.status = .pendingPayment ∧ AcceptsEvent c.state payload order := by
  have hrun : (follow (fun _ _ => True) exampleOrder exampleStart).any (fun c =>
      decide (∃ order ∈ c.state.orders.rows, ∃ b ∈ exampleBodies, ∃ payment ∈ b.2.payment,
        ReportsFailure c.state b.2 order payment ∧ MayFail c.state order ∧
          Findable c.state order payment)) = true := by
    decide +kernel
  obtain ⟨c, -, h⟩ := exec_any hrun
  obtain ⟨order, -, b, -, payment, -, hreports, hcond⟩ := of_decide_eq_true h
  exact ⟨c, b.2, order, hcond.1.1, (failed_event_accepted_iff hreports).mpr (.inr hcond)⟩

/-- The report of a failed payment of an order that another payment has paid is refused, and is
refused again whenever it is delivered. -/
theorem failed_event_refused_paid :
    ¬ ∀ (gateway : Gateway) (paymentAccounts : Table PaymentAccount) (stores : Table Store)
      (users : Table User) (c : PaymentConfig) (payload : RazorpayWebhookPayload) (order : Order)
      (paymentEntity : RazorpayPaymentEntity),
        Reaches gateway (fun _ _ => True) (.initial paymentAccounts stores users) c →
          ReportsFailure c.state payload order paymentEntity →
            AcceptsEvent c.state payload order := by
  have hrun : (follow (fun _ _ => True) examplePaid exampleStart).any (fun c =>
      decide (∃ order ∈ c.state.orders.rows, ∃ b ∈ exampleBodies, ∃ payment ∈ b.2.payment,
        ReportsFailure c.state b.2 order payment ∧ order.status = .paid ∧
          (applyWebhookEvent b.2 c.state).toOption.isNone = true)) = true := by
    decide +kernel
  obtain ⟨c, hc, h⟩ := exec_any hrun
  obtain ⟨order, -, b, -, payment, -, hreports, -, herror⟩ := of_decide_eq_true h
  intro hall
  obtain ⟨outcome, w', happly, -⟩ := hall _ _ _ _ c b.2 order payment hc hreports
  rw [happly] at herror
  cases herror

end PrintForge
