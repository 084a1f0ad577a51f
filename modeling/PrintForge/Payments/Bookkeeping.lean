import PrintForge.Concurrent.Discipline
import PrintForge.Payments.EventErrors
import PrintForge.Payments.OrderSteps

/-!
# The discipline of the payment system

What every commit of every service guarantees, whatever the others have done since the
service last looked: rows persist, payment ids stay with the order they belong to, one
ledger makes one step, and refunds change as `RefundStep` says. The last holds without
exception only in runs in which the provider does not misreport what it did.
-/

namespace PrintForge

open Relational Concurrent Function

/-! ## Invariants -/

/-- Every payment the payload names belongs to the Razorpay order it is reported for. -/
def RazorpayWebhookPayload.Genuine (gateway : Gateway) (payload : RazorpayWebhookPayload) :
    Prop :=
  ∀ payment ∈ payload.payment, gateway.orderOf payment.id = payment.orderId

/-- A payment id stands on an attempt of the order whose Razorpay order it was paid to. -/
def Attributed (gateway : Gateway) (w : World) : Prop :=
  ∀ a ∈ w.paymentAttempts, ∀ p, a.razorpayPaymentId = some p →
    ∃ order, w.orders.get a.orderId = some order ∧
      order.razorpayOrderId = some (gateway.orderOf p)

structure BooksInv (gateway : Gateway) (w : World) : Prop where
  blank : ∀ o, (ledger w o).status = none → ledger w o = Ledger.blank
  announced : ∀ o, .orderPaid ∈ (ledger w o).notices → (ledger w o).captured.Nonempty
  attributed : Attributed gateway w
  genuine : ∀ e ∈ w.webhookEvents, e.payload.Genuine gateway
  refunds : RefundInv w

/-! ## Situations -/

instance (order : Order) (paymentEntity : RazorpayPaymentEntity) :
    Decidable (Matches order paymentEntity) :=
  decidable_of_iff (∃ n ∈ paymentEntity.amount, capturedPaymentMismatch order
    ⟨paymentEntity.orderId, n, paymentEntity.currency.getD defaultCurrency⟩ = none) Iff.rfl

/-- The commit would record a capture of the order. -/
def Captures (w : World) (o : Nat) : Commit → Prop
  | .verifyPayment order existingByPaymentId razorpayPaymentId =>
      order.id = o ∧ VerifyCaptures order existingByPaymentId razorpayPaymentId w
  | .processWebhook id =>
      ∃ e ∈ lockedEvent id w, e.payload.event = capturedEvent ∧
        ∃ t ∈ eventTarget w e.paymentAccountId e.payload, t.1.id = o ∧ Matches t.1 t.2
  | _ => False

instance (w : World) (o : Nat) : DecidablePred (Captures w o)
  | .verifyPayment _ _ _ => inferInstanceAs (Decidable (_ ∧ _))
  | .processWebhook id => inferInstanceAs (Decidable (∃ e ∈ lockedEvent id w, _ ∧ _))
  | .statement | .checkout | .reconcileCapturedPayment _ | .failStalePendingOrder _
  | .performCancellation _ _ | .performRefundRecording _ | .adminTransitionStatus _ _
  | .createRefund _ | .callProvider _ _ => inferInstanceAs (Decidable False)

/-- A payment has failed for an order that is pending again, but whose notice of an earlier
failure is out. -/
def FailsAgain (w : World) (order : Order) (paymentEntity : RazorpayPaymentEntity) : Prop :=
  order.status = .pendingPayment ∧
    (∃ n ∈ w.outboxEvents, n.eventKey = ⟨order.id, .orderStatusChanged .paymentFailed⟩) ∧
    (∀ a ∈ w.paymentAttempts, a.razorpayPaymentId = some paymentEntity.id →
      a.status ≠ .captured ∧ a.status ≠ .failed) ∧
    Findable w order paymentEntity

instance (w : World) (order : Order) (paymentEntity : RazorpayPaymentEntity) :
    Decidable (FailsAgain w order paymentEntity) :=
  inferInstanceAs (Decidable (_ ∧ (∃ n ∈ w.outboxEvents.rows, _) ∧
    (∀ a ∈ w.paymentAttempts.rows, _ → _) ∧ _))

def RepeatedFailure (w : World) : Commit → Prop
  | .processWebhook id =>
      ∃ e ∈ lockedEvent id w, e.payload.event ≠ capturedEvent ∧
        ∃ t ∈ eventTarget w e.paymentAccountId e.payload, FailsAgain w t.1 t.2
  | _ => False

instance (w : World) : DecidablePred (RepeatedFailure w)
  | .processWebhook id => inferInstanceAs (Decidable (∃ e ∈ lockedEvent id w, _ ∧ _))
  | .statement | .checkout | .verifyPayment _ _ _ | .reconcileCapturedPayment _
  | .failStalePendingOrder _ | .performCancellation _ _ | .performRefundRecording _
  | .adminTransitionStatus _ _ | .createRefund _ | .callProvider _ _ =>
      inferInstanceAs (Decidable False)

/-- What Razorpay says it did: a refund it reports as made is one it has accepted under the
reported identifier. -/
def ProviderRefundAnswer.Truthful (answer : ProviderRefundAnswer) : Prop :=
  ∀ result, answer.reply = .ok result → result.status ≠ "failed" →
    answer.accepted = some result.providerRefundId

/-- A refund that Razorpay has accepted is reported as made. -/
def ProviderRefundAnswer.Reported (answer : ProviderRefundAnswer) : Prop :=
  answer.accepted ≠ none → ∃ result, answer.reply = .ok result ∧ result.status ≠ "failed"

/-- How Razorpay behaves: answers are truthful, and a refund is reported as failed only after
it has failed. -/
def ProviderLaw (w : World) : Commit → Prop
  | .callProvider _ answer => answer.Truthful
  | .processWebhook id => ∀ e ∈ lockedEvent id w, RefundEventGenuine w e.payload
  | _ => True

/-- No accepted refund is reported to its caller as an error or a failure. -/
def Reported : Commit → Prop
  | .callProvider _ answer => answer.Reported
  | _ => True

/-- A cancellation finds nothing of the captured payment refunded. -/
def CancelsUnrefunded (w : World) : Commit → Prop
  | .performCancellation _ capturedAttempt =>
      ∀ a ∈ capturedAttempt, a.status = .captured → alreadyReserved w a.id ≤ 0
  | _ => True

instance (w : World) : DecidablePred (CancelsUnrefunded w)
  | .performCancellation _ capturedAttempt =>
      inferInstanceAs (Decidable (∀ a ∈ capturedAttempt, _ → _))
  | .statement | .checkout | .verifyPayment _ _ _ | .processWebhook _
  | .reconcileCapturedPayment _ | .failStalePendingOrder _ | .performRefundRecording _
  | .adminTransitionStatus _ _ | .createRefund _ | .callProvider _ _ =>
      inferInstanceAs (Decidable True)

instance (answer : ProviderRefundAnswer) : Decidable answer.Truthful :=
  decidable_of_iff (∀ result ∈ answer.reply.toOption, result.status ≠ "failed" →
      answer.accepted = some result.providerRefundId) <| by
    unfold ProviderRefundAnswer.Truthful
    cases answer.reply <;> simp [Except.toOption]

instance (answer : ProviderRefundAnswer) : Decidable answer.Reported :=
  decidable_of_iff (answer.accepted ≠ none →
      ∃ result ∈ answer.reply.toOption, result.status ≠ "failed") <| by
    unfold ProviderRefundAnswer.Reported
    cases answer.reply <;> simp [Except.toOption]

instance (w : World) : DecidablePred (ProviderLaw w)
  | .callProvider _ answer => inferInstanceAs (Decidable answer.Truthful)
  | .processWebhook id => inferInstanceAs (Decidable (∀ e ∈ lockedEvent id w, _))
  | .statement | .checkout | .verifyPayment _ _ _ | .reconcileCapturedPayment _
  | .failStalePendingOrder _ | .performCancellation _ _ | .performRefundRecording _
  | .adminTransitionStatus _ _ | .createRefund _ => inferInstanceAs (Decidable True)

instance : DecidablePred Reported
  | .callProvider _ answer => inferInstanceAs (Decidable answer.Reported)
  | .statement | .checkout | .verifyPayment _ _ _ | .processWebhook _
  | .reconcileCapturedPayment _ | .failStalePendingOrder _ | .performCancellation _ _
  | .performRefundRecording _ | .adminTransitionStatus _ _ | .createRefund _ =>
      inferInstanceAs (Decidable True)

/-- What the condition on the commits of a run makes of the refunds. -/
def refundTerms (ok : Commit → World → Prop) : RefundTerms where
  honest := ∀ ℓ w, ok ℓ w → ProviderLaw w ℓ ∧ Reported ℓ
  unrefunded := ∀ ℓ w, ok ℓ w → CancelsUnrefunded w ℓ

/-- An attempt of the order is captured. -/
def OrderCaptured (w : World) (o : Nat) : Prop :=
  ∃ a ∈ w.paymentAttempts, a.orderId = o ∧ a.status = .captured

instance (w : World) (o : Nat) : Decidable (OrderCaptured w o) :=
  inferInstanceAs (Decidable (∃ a ∈ w.paymentAttempts.rows, _))

theorem captured_nonempty {w : World} {o : Nat} :
    (ledger w o).captured.Nonempty ↔ OrderCaptured w o := by
  constructor
  · rintro ⟨k, a, ha, -, hrow⟩
    exact ⟨a, ha, hrow⟩
  · rintro ⟨a, ha, hrow⟩
    exact ⟨a.id, a, ha, rfl, hrow⟩

/-! ## The guarantee -/

/-- The commit would fail the order: a payment event reports a failure that is not recorded
yet, an order that nobody has paid expires, or an administrator says so. -/
def Fails (w : World) (o : Nat) : Commit → Prop
  | .processWebhook id =>
      ∃ e ∈ lockedEvent id w, e.payload.event ≠ capturedEvent ∧
        ∃ t ∈ eventTarget w e.paymentAccountId e.payload, t.1.id = o ∧ ¬ Closed w t.2 ∧
          Findable w t.1 t.2
  | .failStalePendingOrder order => order.id = o ∧ ¬ OrderCaptured w o
  | .adminTransitionStatus order status => order.id = o ∧ status = .paymentFailed
  | _ => False

/-- Which ledger steps a commit may make, beyond the ones that every commit may. -/
def Admits (ℓ : Commit) (w : World) (o : Nat) : Ledger.Kind → Prop
  | .lateCapture => Captures w o ℓ
  | .lostCapture =>
      Captures w o ℓ ∧ ∃ order existing p, ℓ = .verifyPayment order existing p
  | .move .paid => ∃ order, ℓ = .adminTransitionStatus order .paid ∧ order.id = o
  | .move .paymentFailed => Fails w o ℓ
  | .move .pendingPayment =>
      ∃ order, ℓ = .adminTransitionStatus order .pendingPayment ∧ order.id = o
  | _ => True

/-- What every commit of request `i` guarantees. -/
structure Guarantee (gateway : Gateway) (ok : Commit → World → Prop) (i : Nat) (ℓ : Commit)
    (w w' : World) : Prop where
  persist : Persist w w'
  attributed : Attributed gateway w'
  genuine : ∀ e ∈ w'.webhookEvents, e.payload.Genuine gateway
  posts : ∃ o k, Posts k o w w' ∧ Admits ℓ w o k
  refunds : RefundStep (refundTerms ok) i w w'

variable {gateway : Gateway} {ok : Commit → World → Prop} {i : Nat} {ℓ : Commit}
variable {w w' : World}

theorem Keeps.attributed {g : Grants} (h : Keeps g w w') (ha : Attributed gateway w)
    (hpay : ∀ k o p, g.payment k o p → ∃ order, w.orders.get o = some order ∧
      order.razorpayOrderId = some (gateway.orderOf p)) : Attributed gateway w' := by
  intro a ha' p hp
  have hold : ∃ order, w.orders.get a.orderId = some order ∧
      order.razorpayOrderId = some (gateway.orderOf p) := by
    obtain ⟨a₀, ha₀, -, hord, hp₀⟩ | hg := h.payments a ha' p hp
    · rw [← hord]
      exact ha a₀ ha₀ p hp₀
    · exact hpay _ _ _ hg
  obtain ⟨order, hget, hrzp⟩ := hold
  obtain ⟨order', hget', hle⟩ := h.orders.get hget
  exact ⟨order', hget', (hle.razorpayOrderId (by simp [hrzp])).trans hrzp⟩

/-- The guarantee from what a transaction has been shown to do. -/
theorem Guarantee.of_keeps {g : Grants} {k : Ledger.Kind} {o : Nat}
    (hinv : BooksInv gateway w) (hk : Keeps g w w') (hposts : Posts k o w w')
    (hadmits : Admits ℓ w o k)
    (hrefunds : RefundStep (refundTerms ok) i w w')
    (hpay : ∀ k o p, g.payment k o p → ∃ order, w.orders.get o = some order ∧
      order.razorpayOrderId = some (gateway.orderOf p))
    (hload : ∀ q, g.payload q → q.Genuine gateway) :
    Guarantee gateway ok i ℓ w w' where
  persist := hk.toPersist
  attributed := hk.attributed hinv.attributed hpay
  genuine := by
    intro e he
    obtain ⟨e₀, he₀, hp⟩ | hg := hk.payloads e he
    · rw [← hp]
      exact hinv.genuine e₀ he₀
    · exact hload _ hg
  posts := ⟨o, k, hposts, hadmits⟩
  refunds := hrefunds

/-- A commit that grants nothing new. -/
theorem Guarantee.plain {k : Ledger.Kind} {o : Nat} (hinv : BooksInv gateway w)
    (hk : Keeps {} w w') (hposts : Posts k o w w') (hadmits : Admits ℓ w o k)
    (hrefunds : RefundStep (refundTerms ok) i w w') :
    Guarantee gateway ok i ℓ w w' :=
  .of_keeps hinv hk hposts hadmits hrefunds (fun _ _ _ => False.elim) fun _ => False.elim

/-- A commit that no ledger notices. -/
theorem Guarantee.quiet (hinv : BooksInv gateway w) (hk : Keeps {} w w')
    (hledger : ledger w' = ledger w)
    (hrefunds : RefundStep (refundTerms ok) i w w') :
    Guarantee gateway ok i ℓ w w' :=
  .plain hinv hk (posts_still 0 hledger) trivial hrefunds

/-- A transaction that is rolled back does nothing. -/
theorem Guarantee.refl (hinv : BooksInv gateway w) : Guarantee gateway ok i ℓ w w :=
  .quiet hinv (Std.Refl.refl w) rfl (.same rfl)

theorem Guarantee.inv (h : Guarantee gateway ok i ℓ w w') (hinv : BooksInv gateway w) :
    BooksInv gateway w' := by
  obtain ⟨o, k, ⟨hstep, hframe⟩, -⟩ := h.posts
  refine ⟨fun o' => ?_, fun o' => ?_, h.attributed, h.genuine,
    h.refunds.inv h.persist hinv.refunds⟩
  · by_cases ho : o' = o
    · subst ho
      exact hstep.blank (hinv.blank _)
    · rw [hframe o' ho]
      exact hinv.blank o'
  · by_cases ho : o' = o
    · subst ho
      exact hstep.notice_captured (hinv.announced _)
    · rw [hframe o' ho]
      exact hinv.announced o'

/-- The discipline the services keep in the runs whose commits are `ok`. -/
def bookkeeping (gateway : Gateway) (ok : Commit → World → Prop) :
    Discipline World Commit where
  inv := BooksInv gateway
  ok := ok
  rely i w w' := Persist w w' ∧ OwnRefunds i w w'
  guar := Guarantee gateway ok
  rely_refl i w := ⟨Std.Refl.refl w, ownRefunds_refl i w⟩
  rely_trans h h' := ⟨IsTrans.trans _ _ _ h.1 h'.1, h.2.trans h'.2⟩
  inv_guar hinv _ hg := hg.inv hinv
  rely_guar hij hinv _ hg := ⟨hg.persist, hg.refunds.ownRefunds hij hinv.refunds⟩

/-- The payment of a genuine payload stands on no attempt of another order. -/
theorem Attributed.ownPayment {payload : RazorpayWebhookPayload} {paymentAccountId : Option Nat}
    {order : Order} {paymentEntity : RazorpayPaymentEntity} (ha : Attributed gateway w)
    (hg : payload.Genuine gateway)
    (ht : eventTarget w paymentAccountId payload = some (order, paymentEntity)) :
    order ∈ w.orders ∧ order.razorpayOrderId = some (gateway.orderOf paymentEntity.id) ∧
      OwnPayment w order paymentEntity := by
  obtain ⟨hp, hord, -⟩ := eventTarget_eq_some.mp ht
  obtain ⟨hmem, hrzp⟩ := Table.findFirst_some hord
  have hgenuine : gateway.orderOf paymentEntity.id = paymentEntity.orderId :=
    hg _ (Option.filter_eq_some_iff.mp hp).1
  have hrzp : order.razorpayOrderId = some (gateway.orderOf paymentEntity.id) := by
    rw [hgenuine]
    simpa using hrzp
  refine ⟨hmem, hrzp, fun a hmema hid => ?_⟩
  obtain ⟨order', hget, hrzp'⟩ := ha a hmema _ hid
  obtain ⟨hmem', hkey⟩ := Table.get_eq_some.mp hget
  have heq : order' = order := Table.eq_of_clash hmem' hmem
    ⟨hrzp'.trans hrzp.symm, by simp [hrzp']⟩
  rw [← heq]
  exact hkey.symm

theorem BooksInv.ownPayment (hinv : BooksInv gateway w) {e : WebhookEvent} {order : Order}
    {paymentEntity : RazorpayPaymentEntity} (he : e ∈ w.webhookEvents)
    (ht : eventTarget w e.paymentAccountId e.payload = some (order, paymentEntity)) :
    order ∈ w.orders ∧ order.razorpayOrderId = some (gateway.orderOf paymentEntity.id) ∧
      OwnPayment w order paymentEntity :=
  hinv.attributed.ownPayment (hinv.genuine e he) ht

end PrintForge
