import PrintForge.Payments.EventSteps

/-!
# Why the transaction of a webhook event is rolled back

The errors a payment event can end in, each with the state that provokes it. A unique
violation has only two sources: a capture of an order that has been captured already, and
the notice of a second failed payment.
-/

namespace PrintForge

open Relational Concurrent Function

variable {w : World} {err : ServiceError}

/-! ## Transitions -/

theorem transitionOrder_error {order : Order} {target : OrderStatus}
    {changedByUserId : Option Nat} {note : String}
    (h : (transitionOrder order target changedByUserId note : Transaction (Option Order)) w =
      .error err) :
    isTransitionAllowed order.status target = false ∧ err ≠ .uniqueViolation := by
  unfold transitionOrder at h
  split at h
  · next hnot =>
    cases h
    exact ⟨hnot, by simp⟩
  · obtain hcas | ⟨n, w₁, -, h₁⟩ := Tx.bind_error.mp h
    · -- a status is in no index
      refine absurd hcas (Slot.updateMany_ne_error fun a _ b _ => ?_)
      split <;> split <;> exact id
    · split at h₁
      · cases h₁
      · obtain hhist | ⟨row, w₂, -, h₂⟩ := Tx.bind_error.mp h₁
        · exact absurd hhist (Slot.create_ne_error fun _ _ => id)
        · cases h₂

theorem insertOutboxEvent_error {eventType : OutboxEventType} {order : Order}
    (h : insertOutboxEvent eventType order w = .error err) :
    err = .uniqueViolation ∧ eventType ∈ (ledger w order.id).notices := by
  unfold insertOutboxEvent at h
  obtain hcreate | ⟨row, w₁, -, hret⟩ := Tx.bind_error.mp h
  · obtain ⟨rfl, e, he, hclash⟩ := Slot.create_error hcreate
    exact ⟨rfl, e, he, hclash⟩
  · cases hret

/-- A transition that may be made is only rolled back with its notice. -/
theorem transition_notify_error {order : Order} {target : OrderStatus}
    {changedByUserId : Option Nat} {note : String} {eventType : OutboxEventType}
    (h : (do
      let transitioned ← (transitionOrder order target changedByUserId note :
        Transaction (Option Order))
      if transitioned.isSome then insertOutboxEvent eventType order) w = .error err) :
    (isTransitionAllowed order.status target = false ∧ err ≠ .uniqueViolation) ∨
      (isTransitionAllowed order.status target = true ∧ err = .uniqueViolation ∧
        eventType ∈ (ledger w order.id).notices) := by
  obtain htrans | ⟨r, w₁, htrans, hnote⟩ := Tx.bind_error.mp h
  · exact .inl (transitionOrder_error htrans)
  · split at hnote
    · obtain ⟨rfl, hmem⟩ := insertOutboxEvent_error hnote
      obtain ⟨hallowed, ⟨-, -, hw₁⟩ | ⟨-, -, rfl⟩⟩ := transitionOrder_ok htrans
      · rw [hw₁, update_self] at hmem
        exact .inr ⟨hallowed, rfl, hmem⟩
      · exact .inr ⟨hallowed, rfl, hmem⟩
    · cases hnote

/-! ## Acting on an event -/

section Events

variable {order : Order} {attempt : PaymentAttempt} {paymentEntity : RazorpayPaymentEntity}

theorem bigInt_error {amount : Option Int}
    (h : (bigInt amount : Transaction Int) w = .error err) :
    amount = none ∧ err ≠ .uniqueViolation := by
  cases amount with
  | none =>
      cases h
      exact ⟨rfl, by simp⟩
  | some n => cases h

theorem capturedPaymentMismatch_ne {captured : CapturedPayment}
    (h : capturedPaymentMismatch order captured = some err) : err ≠ .uniqueViolation := by
  unfold capturedPaymentMismatch at h
  dsimp only at h
  split at h
  · cases h
    simp
  · split at h
    · cases h
      simp
    · split at h
      · cases h
        simp
      · cases h

/-- A capture is rolled back when the payment is not the one the order waits for, or when
the order has one already. -/
theorem applyCaptured_error (hatt : w.paymentAttempts.get attempt.id = some attempt)
    (hpay : attempt.razorpayPaymentId = some paymentEntity.id)
    (h : applyCaptured order attempt paymentEntity w = .error err) :
    (err ≠ .uniqueViolation ∧ ¬ Matches order paymentEntity) ∨
      (err = .uniqueViolation ∧ Matches order paymentEntity ∧
        ((ledger w attempt.orderId).captured.Nonempty ∨
          order.status = .pendingPayment ∧ .orderPaid ∈ (ledger w order.id).notices)) := by
  unfold applyCaptured at h
  obtain hbig | ⟨n, w₀, hbig, h₁⟩ := Tx.bind_error.mp h
  · obtain ⟨hnone, hne⟩ := bigInt_error hbig
    refine .inl ⟨hne, ?_⟩
    rintro ⟨n, hn, -⟩
    simp [hnone] at hn
  obtain ⟨hamount, rfl⟩ := bigInt_ok hbig
  obtain hassert | ⟨⟨⟩, w₀', hassert, h₂⟩ := Tx.bind_error.mp h₁
  · unfold assertCapturedPaymentMatchesOrder at hassert
    cases hm : capturedPaymentMismatch order
        ⟨paymentEntity.orderId, n, paymentEntity.currency.getD defaultCurrency⟩ with
    | none =>
        rw [hm] at hassert
        cases hassert
    | some err' =>
        rw [hm] at hassert
        cases hassert
        refine .inl ⟨capturedPaymentMismatch_ne hm, ?_⟩
        rintro ⟨m, hm', hmatch⟩
        obtain rfl : n = m := Option.some.inj (hamount.symm.trans hm')
        simp [hm] at hmatch
  obtain ⟨hnone, rfl⟩ := assertCapturedPaymentMatchesOrder_ok hassert
  have hmatch : Matches order paymentEntity := ⟨n, hamount, hnone⟩
  obtain ⟨hmem, -⟩ := Table.get_eq_some.mp hatt
  obtain hcap | ⟨count, w₁, hcap, h₃⟩ := Tx.bind_error.mp h₂
  · -- only one row changes, and its payment id stands on it already
    obtain ⟨rfl, a, ha, b, hb, hab, hclash⟩ := Slot.updateMany_error hcap
    have row : ∀ {c}, c ∈ w₀'.paymentAttempts →
        (decide (c.id = attempt.id) && decide (c.status ≠ .captured)) = true → c = attempt := by
      intro c hc hp
      simp only [Bool.and_eq_true, decide_eq_true_eq] at hp
      exact Table.eq_of_key hc hmem hp.1
    have other : ∀ {c}, c ∈ w₀'.paymentAttempts → c ≠ attempt →
        c.razorpayPaymentId ≠ some paymentEntity.id := by
      intro c hc hne hcp
      exact hne (Table.eq_of_clash hc hmem (.inl ⟨hcp.trans hpay.symm, by simp [hcp]⟩))
    have captured : ∀ {c}, c ∈ w₀'.paymentAttempts → c.orderId = attempt.orderId →
        c.status = .captured → (ledger w₀' attempt.orderId).captured.Nonempty :=
      fun {c} hc ho hs => ⟨c.id, c, hc, rfl, ho, hs⟩
    refine .inr ⟨rfl, hmatch, .inl ?_⟩
    split at hclash
    · next hpa =>
      obtain rfl := row ha hpa
      rw [if_neg fun hpb => hab (row hb hpb).symm] at hclash
      obtain ⟨hid, -⟩ | ⟨hbo, -, hbs⟩ := hclash
      · exact absurd hid.symm (other hb hab.symm)
      · exact captured hb hbo.symm hbs
    · split at hclash
      · next hpb =>
        obtain rfl := row hb hpb
        obtain ⟨hid, -⟩ | ⟨hao, has, -⟩ := hclash
        · exact absurd hid (other ha hab)
        · exact captured ha hao has
      · exact absurd hclash (Table.apart ha hb hab).2
  · obtain ⟨hc, a, ha, -, -, hempty, hw₁⟩ | ⟨hc, -, rfl⟩ :=
      capture_ok hcap (fun _ => rfl) fun _ => rfl
    · rw [if_neg (by simp [hc])] at h₃
      split at h₃
      · cases h₃
      · next hallowed =>
        obtain rfl : attempt = a := Option.some.inj (hatt.symm.trans ha)
        obtain ⟨hnot, -⟩ | ⟨-, rfl, hn⟩ := transition_notify_error h₃
        · exact absurd hnot hallowed
        · have hnotices : (ledger w₁ order.id).notices = (ledger w₀' order.id).notices := by
            rw [hw₁]
            by_cases ho : order.id = attempt.orderId
            · rw [ho, update_self]
            · rw [update_of_ne ho]
          exact .inr ⟨rfl, hmatch, .inr ⟨by simpa using hallowed, hnotices ▸ hn⟩⟩
    · rw [if_pos hc] at h₃
      cases h₃

/-- A failure is rolled back when the order is not pending, or has had the notice of an
earlier one. -/
theorem applyFailed_error (hatt : w.paymentAttempts.get attempt.id = some attempt)
    (hpay : attempt.razorpayPaymentId = some paymentEntity.id)
    (h : applyFailed order attempt paymentEntity w = .error err) :
    attempt.status ≠ .captured ∧ attempt.status ≠ .failed ∧
      ((err ≠ .uniqueViolation ∧ order.status ≠ .pendingPayment) ∨
        (err = .uniqueViolation ∧ order.status = .pendingPayment ∧
          .orderStatusChanged .paymentFailed ∈ (ledger w order.id).notices)) := by
  unfold applyFailed at h
  obtain ⟨hmem, -⟩ := Table.get_eq_some.mp hatt
  have hkey : ∀ a : PaymentAttempt, (decide (a.id = attempt.id) && decide (a.status ≠ .captured) &&
      decide (a.status ≠ .failed)) = true → Schema.key a = attempt.id := by
    intro a ha
    simp only [Bool.and_eq_true, decide_eq_true_eq] at ha
    exact ha.1.1
  obtain hupd | ⟨count, w₁, hupd, h₁⟩ := Tx.bind_error.mp h
  · -- no index sees the change of the one row
    refine absurd hupd (Slot.updateMany_ne_error fun a ha b hb => ?_)
    have row : ∀ {c}, c ∈ w.paymentAttempts → (decide (c.id = attempt.id) &&
        decide (c.status ≠ .captured) && decide (c.status ≠ .failed)) = true → c = attempt :=
      fun hc hp => Table.eq_of_key hc hmem (hkey _ hp)
    split
    · next hpa =>
      obtain rfl := row ha hpa
      split
      · next hpb =>
        obtain rfl := row hb hpb
        rintro (⟨-, hsome⟩ | ⟨-, hs, -⟩)
        · exact .inl ⟨rfl, by simp [hpay]⟩
        · cases hs
      · rintro (⟨hid, hsome⟩ | ⟨-, hs, -⟩)
        · exact .inl ⟨hpay.trans hid, by simp [hpay]⟩
        · cases hs
    · split
      · next hpb =>
        obtain rfl := row hb hpb
        rintro (⟨hid, hsome⟩ | ⟨-, -, hs⟩)
        · exact .inl ⟨hid.trans hpay.symm, hsome⟩
        · cases hs
      · exact id
  · obtain ⟨hc, a, t, ha, hp, ht, hw₁⟩ | ⟨hc, -, rfl⟩ := Slot.updateMany_key_ok hkey hupd
    · rw [if_neg (by simp [hc])] at h₁
      obtain rfl : attempt = a := Option.some.inj (hatt.symm.trans ha)
      simp only [Bool.and_eq_true, decide_eq_true_eq] at hp
      have hledger : ledger w₁ = ledger w := by
        rw [hw₁]
        refine ledger_updateAttempts ht fun b _ hb => ⟨rfl, ?_⟩
        simp only [Bool.and_eq_true, decide_eq_true_eq] at hb
        simp [hb.1.2]
      refine ⟨hp.1.2, hp.2, ?_⟩
      obtain ⟨hnot, hne⟩ | ⟨hallowed, rfl, hn⟩ := transition_notify_error h₁
      · refine .inl ⟨hne, fun hpending => ?_⟩
        rw [isTransitionAllowed_paymentFailed.mpr hpending] at hnot
        cases hnot
      · exact .inr ⟨rfl, by simpa using hallowed, hledger ▸ hn⟩
    · rw [if_pos hc] at h₁
      cases h₁

theorem findOrCreateAttemptFor_error {paymentAccountId : Option Nat}
    (h : findOrCreateAttemptFor paymentAccountId order paymentEntity w = .error err) :
    err ≠ .uniqueViolation ∧ ¬ Findable w order paymentEntity := by
  unfold findOrCreateAttemptFor at h
  simp only [query_transaction, Tx.bind_read] at h
  generalize hpay : w.paymentAttempts.findFirst _ = byPaymentId at h
  cases byPaymentId with
  | some a => cases h
  | none =>
      have hfree : ∀ a ∈ w.paymentAttempts, a.razorpayPaymentId ≠ some paymentEntity.id := by
        intro a ha
        simpa using Table.findFirst_none hpay a ha
      simp only [Tx.bind_read] at h
      generalize hopen : w.paymentAttempts.findLast _ = byOrder at h
      cases byOrder with
      | some a =>
          obtain ⟨hmem, hrow⟩ := Table.findLast_some hopen
          simp only [Bool.and_eq_true, decide_eq_true_eq] at hrow
          obtain ⟨hnone, -⟩ | ⟨-, b, hb, c, hc, hbc, hclash⟩ := Slot.update_error h
          · have hself : w.paymentAttempts.get a.id = some a := Table.get_key hmem
            exact absurd (hself.symm.trans hnone) (by simp)
          · -- the id is new, and the attempt is not captured
            have row : ∀ {b}, b ∈ w.paymentAttempts → b.id = a.id → b.status = .initiated :=
              fun hb hid => by rw [Table.eq_of_key hb hmem hid, hrow.2]
            simp only [key_paymentAttempt] at hclash
            split at hclash
            · next hbk =>
              rw [if_neg fun hck => hbc (Table.eq_of_key hb hc (hbk.trans hck.symm))] at hclash
              obtain ⟨hid, -⟩ | ⟨-, hs, -⟩ := hclash
              · exact absurd hid.symm (hfree c hc)
              · rw [row hb hbk] at hs
                cases hs
            · split at hclash
              · next hck =>
                obtain ⟨hid, -⟩ | ⟨-, -, hs⟩ := hclash
                · exact absurd hid (hfree b hb)
                · rw [row hc hck] at hs
                  cases hs
              · exact absurd hclash (Table.apart hb hc hbc).2
      | none =>
          obtain hbig | ⟨n, w₁, hbig, hcreate⟩ := Tx.bind_error.mp h
          · obtain ⟨hnone, hne⟩ := bigInt_error hbig
            refine ⟨hne, ?_⟩
            rintro (hsome | ⟨a, ha, hid | ⟨hao, har, hs⟩⟩)
            · simp [hnone] at hsome
            · exact hfree a ha hid
            · have := Table.findLast_none hopen a ha
              simp [hao, har, hs] at this
          · obtain ⟨-, rfl⟩ := bigInt_ok hbig
            refine absurd hcreate (Slot.create_ne_error ?_)
            rintro a ha (⟨hid, -⟩ | ⟨-, -, hs⟩)
            · exact hfree a ha hid
            · cases hs

/-- Why a payment event is not applied. -/
inductive EventError (event : String) (order : Order) (paymentEntity : RazorpayPaymentEntity)
    (w : World) (err : ServiceError) : Prop
  | unknown (hne : err ≠ .uniqueViolation) (hf : ¬ Findable w order paymentEntity)
  | mismatch (he : event = capturedEvent) (hne : err ≠ .uniqueViolation)
      (hm : ¬ Matches order paymentEntity)
  | captured (he : event = capturedEvent) (heq : err = .uniqueViolation)
      (hm : Matches order paymentEntity)
      (hc : (ledger w (ownerFor w order paymentEntity)).captured.Nonempty ∨
        order.status = .pendingPayment ∧ .orderPaid ∈ (ledger w order.id).notices)
  | terminal (he : event ≠ capturedEvent) (hne : err ≠ .uniqueViolation)
      (hs : order.status ≠ .pendingPayment)
  | repeated (he : event ≠ capturedEvent) (heq : err = .uniqueViolation)
      (hs : order.status = .pendingPayment)
      (hn : .orderStatusChanged .paymentFailed ∈ (ledger w order.id).notices)
      (ha : ∀ a ∈ w.paymentAttempts, a.razorpayPaymentId = some paymentEntity.id →
        a.status ≠ .captured ∧ a.status ≠ .failed)
      (hf : Findable w order paymentEntity)

theorem actOnEvent_error {event : String} {stampAccount : Option Nat}
    (h : (do
      let attempt ← findOrCreateAttemptFor stampAccount order paymentEntity
      applyPaymentEvent event order attempt paymentEntity) w = .error err) :
    EventError event order paymentEntity w err := by
  obtain hfind | ⟨attempt, w₁, hfind, happly⟩ := Tx.bind_error.mp h
  · obtain ⟨hne, hf⟩ := findOrCreateAttemptFor_error hfind
    exact .unknown hne hf
  obtain ⟨hledger, hatt, hpay, -⟩ := findOrCreateAttemptFor_found hfind
  unfold applyPaymentEvent at happly
  by_cases he : event = capturedEvent
  · rw [if_pos he] at happly
    obtain hcap | ⟨⟨⟩, w₂, -, hret⟩ := Tx.bind_error.mp happly
    · obtain ⟨hne, hm⟩ | ⟨heq, hm, hc⟩ := applyCaptured_error hatt hpay hcap
      · exact .mismatch he hne hm
      · rw [findOrCreateAttemptFor_owner hfind, hledger] at hc
        exact .captured he heq hm hc
    · cases hret
  · rw [if_neg he] at happly
    obtain hfail | ⟨⟨⟩, w₂, -, hret⟩ := Tx.bind_error.mp happly
    · obtain ⟨hnc, hnf, ⟨hne, hs⟩ | ⟨heq, hs, hn⟩⟩ := applyFailed_error hatt hpay hfail
      · exact .terminal he hne hs
      · refine .repeated he heq hs (hledger ▸ hn) (fun a ha hid => ?_)
          (findOrCreateAttemptFor_findable hfind)
        -- an attempt that carried the id is the one that was found
        unfold findOrCreateAttemptFor at hfind
        simp only [query_transaction, Tx.bind_read] at hfind
        generalize hfound : w.paymentAttempts.findFirst _ = byPaymentId at hfind
        cases byPaymentId with
        | none =>
            have := Table.findFirst_none hfound a ha
            simp [hid] at this
        | some b =>
            cases hfind
            have hmem := (Table.get_eq_some.mp hatt).1
            have : a = attempt := Table.eq_of_clash ha hmem (.inl ⟨hid.trans hpay.symm, by
              simp [hid]⟩)
            rw [this]
            exact ⟨hnc, hnf⟩
    · cases hret

theorem applyRefundWebhookEvent_error {id : Nat} {payload : RazorpayWebhookPayload}
    (h : applyRefundWebhookEvent id payload w = .error err) : err ≠ .uniqueViolation := by
  have hstatus : ∀ {f : Refund → Refund} {hf} {p : Refund → Bool},
      (∀ r, (f r).razorpayRefundId = r.razorpayRefundId) →
        (Db.refunds.updateMany p f hf : Transaction Nat) w ≠ .error err := by
    intro f hf p hid
    have same : ∀ r : Refund, (if p r then f r else r).razorpayRefundId = r.razorpayRefundId := by
      intro r
      split
      · exact hid r
      · rfl
    refine Slot.updateMany_ne_error fun a _ b _ hclash => ?_
    obtain ⟨heq, hne⟩ := hclash
    rw [same] at hne
    rw [same, same] at heq
    exact ⟨heq, hne⟩
  unfold applyRefundWebhookEvent at h
  generalize payload.refund = refund at h
  cases refund with
  | none => cases h
  | some refundEntity =>
      simp only [query_transaction, Tx.bind_read] at h
      generalize w.refunds.findFirst _ = found at h
      cases found with
      | none =>
          cases h
          simp
      | some refund =>
          dsimp only at h
          split at h
          · cases h
          · split at h
            · obtain hupd | ⟨n, w₁, -, hret⟩ := Tx.bind_error.mp h
              · exact absurd hupd (hstatus fun _ => rfl)
              · cases hret
            · obtain hbig | ⟨n, w₁, hbig, h₁⟩ := Tx.bind_error.mp h
              · exact (bigInt_error hbig).2
              · obtain ⟨-, rfl⟩ := bigInt_ok hbig
                split at h₁
                · cases h₁
                  simp
                · obtain hupd | ⟨n, w₁, -, hret⟩ := Tx.bind_error.mp h₁
                  · exact absurd hupd (hstatus fun _ => rfl)
                  · cases hret

/-- A stored event whose transaction breaks an index is about an order the event has a
target in. -/
theorem processEvent_error {id : Nat}
    (h : processEvent id w = .error .uniqueViolation) :
    ∃ e order paymentEntity, lockedEvent id w = some e ∧
      eventTarget w e.paymentAccountId e.payload = some (order, paymentEntity) ∧
      EventError e.payload.event order paymentEntity w .uniqueViolation := by
  unfold processEvent at h
  simp only [query_transaction, Tx.bind_read] at h
  generalize hlock : lockedEvent id w = locked at h
  cases locked with
  | none => cases h
  | some e =>
      obtain happly | ⟨outcome, w₁, -, hmark⟩ := Tx.bind_error.mp h
      · cases ht : eventTarget w e.paymentAccountId e.payload with
        | none =>
            obtain ⟨-, acc, hrefund⟩ | hignored := applyStoredEvent_untargeted ht
            · exact absurd rfl (applyRefundWebhookEvent_error (hrefund.symm.trans happly))
            · cases hignored.symm.trans happly
        | some t =>
            rw [applyStoredEvent_target ht] at happly
            exact ⟨e, t.1, t.2, rfl, ht, actOnEvent_error happly⟩
      · -- the status of an event is in no index
        obtain hupd | ⟨row, w₂, -, hret⟩ := Tx.bind_error.mp hmark
        · obtain ⟨-, he⟩ | ⟨-, a, ha, b, hb, hab, hclash⟩ := Slot.update_error hupd
          · cases he
          · refine absurd ?_ (Table.apart ha hb hab).2
            split at hclash <;> split at hclash <;> exact hclash
        · cases hret

end Events

end PrintForge
