import PrintForge.Payments.Evolution
import PrintForge.Payments.OrderGuarantees

/-!
# Payment accounts are kept apart

A merchant holds the webhook secret of its own account and can have any payload stored for it.
The account-aware route lets such an event act on orders and refunds of that account only. The
attempt it acts on is another matter: it is looked up by the payment id of the payload alone,
which may be the id of somebody else's payment.

The second half is about the columns that bind an order to its account and to its Razorpay
order. They are set once, by whichever request comes first, whatever payloads are stored.
-/

namespace PrintForge

open Relational Concurrent Proc

variable {w w' : World}

/-- Whatever is bound to another account, or to none, is left as it is. -/
structure Isolated (paymentAccountId : Nat) (w w' : World) : Prop where
  orders : ∀ o ∈ w.orders, o.paymentAccountId ≠ some paymentAccountId → o ∈ w'.orders
  attempts : ∀ a ∈ w.paymentAttempts, a.paymentAccountId ≠ some paymentAccountId →
    a ∈ w'.paymentAttempts
  refunds : ∀ r ∈ w.refunds, r.paymentAccountId ≠ some paymentAccountId → r ∈ w'.refunds

instance (paymentAccountId : Nat) (w w' : World) : Decidable (Isolated paymentAccountId w w') :=
  decidable_of_iff ((∀ o ∈ w.orders.rows, o.paymentAccountId ≠ some paymentAccountId →
      o ∈ w'.orders.rows) ∧
    (∀ a ∈ w.paymentAttempts.rows, a.paymentAccountId ≠ some paymentAccountId →
      a ∈ w'.paymentAttempts.rows) ∧
    ∀ r ∈ w.refunds.rows, r.paymentAccountId ≠ some paymentAccountId → r ∈ w'.refunds.rows)
    ⟨fun h => ⟨h.1, h.2.1, h.2.2⟩, fun h => ⟨h.orders, h.attempts, h.refunds⟩⟩

theorem isolated_refl (paymentAccountId : Nat) (w : World) : Isolated paymentAccountId w w :=
  ⟨fun _ h _ => h, fun _ h _ => h, fun _ h _ => h⟩

/-! ## The rows an event may change -/

/-- One order and one attempt apart, every row is still there as it was. -/
structure OnlyRows (o k : Nat) (w w' : World) : Prop where
  orders : ∀ r ∈ w.orders, r.id ≠ o → r ∈ w'.orders
  attempts : ∀ a ∈ w.paymentAttempts, a.id ≠ k → a ∈ w'.paymentAttempts
  refunds : ∀ r ∈ w.refunds, r ∈ w'.refunds

instance (o k : Nat) : Std.Refl (OnlyRows o k) :=
  ⟨fun _ => ⟨fun _ h _ => h, fun _ h _ => h, fun _ h => h⟩⟩

instance (o k : Nat) : IsTrans World (OnlyRows o k) where
  trans _ _ _ h h' :=
    { orders := fun r hr hne => h'.orders r (h.orders r hr hne) hne
      attempts := fun a ha hne => h'.attempts a (h.attempts a ha hne) hne
      refunds := fun r hr => h'.refunds r (h.refunds r hr) }

section Rows

variable {o k : Nat}

theorem onlyRows_updateOrder {p : Order → Bool} {f : Order → Order} {hf} {t : Table Order}
    (ht : w.orders.update p f hf = some t) (hp : ∀ r, p r → r.id = o) :
    OnlyRows o k w (Db.orders.set t w) where
  orders r hr hne := Table.mem_of_update_false ht hr <| by
    by_contra h
    exact hne (hp r (by simpa using h))
  attempts _ h _ := h
  refunds _ h := h

theorem onlyRows_updateAttempt {p : PaymentAttempt → Bool} {f : PaymentAttempt → PaymentAttempt}
    {hf} {t : Table PaymentAttempt} (ht : w.paymentAttempts.update p f hf = some t)
    (hp : ∀ a, p a → a.id = k) : OnlyRows o k w (Db.paymentAttempts.set t w) where
  orders _ h _ := h
  attempts a ha hne := Table.mem_of_update_false ht ha <| by
    by_contra h
    exact hne (hp a (by simpa using h))
  refunds _ h := h

theorem onlyRows_transition_notify (order : Order) (target : OrderStatus)
    (changedByUserId : Option Nat) (note : String) (eventType : OutboxEventType) :
    Tx.Within (OnlyRows order.id k) (do
      let transitioned ← (transitionOrder order target changedByUserId note :
        Transaction (Option Order))
      if transitioned.isSome then insertOutboxEvent eventType order) := by
  have hsame : ∀ w w' : World, w'.orders = w.orders → w'.paymentAttempts = w.paymentAttempts →
      w'.refunds = w.refunds → OnlyRows order.id k w w' := by
    intro w w' ho ha hr
    exact ⟨fun r h _ => ho ▸ h, fun a h _ => ha ▸ h, fun r h => hr ▸ h⟩
  apply Tx.within_bind
  · unfold transitionOrder
    split
    · exact Tx.within_throw _
    · refine Tx.within_bind (Slot.within_updateMany fun w t ht => ?_) fun count => ?_
      · refine onlyRows_updateOrder ht fun r hr => ?_
        simp only [Bool.and_eq_true, decide_eq_true_eq] at hr
        exact hr.1
      · split
        · exact Tx.within_pure _
        · refine Tx.within_bind (Slot.within_create fun w t _ => ?_) fun _ => Tx.within_pure _
          exact hsame _ _ rfl rfl rfl
  · intro transitioned
    split
    · refine Tx.within_bind (Slot.within_create fun w t _ => ?_) fun _ => Tx.within_pure _
      exact hsame _ _ rfl rfl rfl
    · exact Tx.within_pure _

theorem onlyRows_applyPaymentEvent (event : String) (order : Order) (attempt : PaymentAttempt)
    (paymentEntity : RazorpayPaymentEntity) :
    Tx.Within (OnlyRows order.id attempt.id)
      (applyPaymentEvent event order attempt paymentEntity) := by
  unfold applyPaymentEvent
  split
  · refine Tx.within_bind ?_ fun _ => Tx.within_pure _
    refine Tx.within_bind (within_bigInt _) fun amountPaise => Tx.within_bind ?_ fun _ =>
      Tx.within_bind (Slot.within_updateMany fun w t ht => ?_) fun count => ?_
    · unfold assertCapturedPaymentMatchesOrder
      split
      · exact Tx.within_throw _
      · exact Tx.within_pure _
    · refine onlyRows_updateAttempt ht fun a ha => ?_
      simp only [Bool.and_eq_true, decide_eq_true_eq] at ha
      exact ha.1
    · split
      · exact Tx.within_pure _
      · split
        · exact Tx.within_pure _
        · exact onlyRows_transition_notify _ _ _ _ _
  · refine Tx.within_bind ?_ fun _ => Tx.within_pure _
    refine Tx.within_bind (Slot.within_updateMany fun w t ht => ?_) fun count => ?_
    · refine onlyRows_updateAttempt ht fun a ha => ?_
      simp only [Bool.and_eq_true, decide_eq_true_eq] at ha
      exact ha.1.1
    · split
      · exact Tx.within_pure _
      · exact onlyRows_transition_notify _ _ _ _ _

end Rows

/-! ## The attempt an event acts on -/

/-- The event has nothing left to do to the attempt. -/
def SettledFor (event : String) (attempt : PaymentAttempt) : Prop :=
  attempt.status = .captured ∨ event ≠ capturedEvent ∧ attempt.status = .failed

instance (event : String) (attempt : PaymentAttempt) : Decidable (SettledFor event attempt) :=
  inferInstanceAs (Decidable (_ ∨ _ ∧ _))

/-- The attempt an event of the account acts on is bound to that account, or is settled. -/
def ActsOnOwn (paymentAccountId : Nat) (w : World) (payload : RazorpayWebhookPayload) : Prop :=
  ∀ t ∈ eventTarget w (some paymentAccountId) payload, ∀ a ∈ attemptFor w t.1 t.2,
    a.paymentAccountId = some paymentAccountId ∨ SettledFor payload.event a

instance (paymentAccountId : Nat) (w : World) (payload : RazorpayWebhookPayload) :
    Decidable (ActsOnOwn paymentAccountId w payload) :=
  inferInstanceAs (Decidable (∀ t ∈ eventTarget w (some paymentAccountId) payload,
    ∀ a ∈ attemptFor w t.1 t.2, _))

section Events

variable {order : Order} {attempt : PaymentAttempt} {paymentEntity : RazorpayPaymentEntity}

/-- A compare-and-swap of the status of one attempt either changes it or does nothing. -/
theorem swapAttempt_ok {p : PaymentAttempt → Bool} {f : PaymentAttempt → PaymentAttempt} {hf}
    {n : Nat} (hkey : ∀ a, p a → Schema.key a = attempt.id)
    (hatt : w.paymentAttempts.get attempt.id = some attempt)
    (hne : p attempt = true → (f attempt).status ≠ attempt.status)
    (h : (Db.paymentAttempts.updateMany p f hf : Transaction Nat) w = .ok (n, w')) :
    (n = 1 ∧ p attempt = true ∧
        ∀ a ∈ w'.paymentAttempts, a.id = attempt.id → a.status ≠ attempt.status) ∨
      (n ≠ 1 ∧ p attempt = false ∧ w' = w) := by
  obtain ⟨hn, a, t, ha, hp, ht, rfl⟩ | ⟨hn, hnone, rfl⟩ := Slot.updateMany_key_ok hkey h
  · obtain rfl : attempt = a := Option.some.inj (hatt.symm.trans ha)
    refine .inl ⟨hn, hp, fun b hb hid => ?_⟩
    have hnew : f attempt ∈ t := Table.mem_of_update_true ht (Table.get_eq_some.mp ha).1 hp
    rw [Table.eq_of_key hb hnew (Eq.trans hid (hf attempt).symm)]
    exact hne hp
  · exact .inr ⟨hn, hnone attempt (Table.get_eq_some.mp hatt).1, rfl⟩

/-- An event changes the status of its attempt, unless there is nothing left to do to it. -/
theorem applyPaymentEvent_attempt {event : String} {outcome : WebhookOutcome}
    (hatt : w.paymentAttempts.get attempt.id = some attempt)
    (h : applyPaymentEvent event order attempt paymentEntity w = .ok (outcome, w')) :
    (SettledFor event attempt ∧ attempt ∈ w'.paymentAttempts) ∨
      (¬ SettledFor event attempt ∧
        ∀ a ∈ w'.paymentAttempts, a.id = attempt.id → a.status ≠ attempt.status) := by
  have hframe : TransitionFrame (Tx.Same World.paymentAttempts) :=
    ⟨inferInstance, inferInstance, fun _ => rfl, fun _ _ => rfl, fun _ _ => rfl⟩
  have hmem : attempt ∈ w.paymentAttempts := (Table.get_eq_some.mp hatt).1
  unfold applyPaymentEvent at h
  by_cases he : event = capturedEvent
  · rw [if_pos he] at h
    obtain ⟨⟨⟩, w₁, hcap, hret⟩ := Tx.bind_ok.mp h
    cases hret
    unfold applyCaptured at hcap
    obtain ⟨n, w₂, hbig, h₁⟩ := Tx.bind_ok.mp hcap
    obtain ⟨-, rfl⟩ := bigInt_ok hbig
    obtain ⟨⟨⟩, w₃, hassert, h₂⟩ := Tx.bind_ok.mp h₁
    obtain ⟨-, rfl⟩ := assertCapturedPaymentMatchesOrder_ok hassert
    obtain ⟨count, w₄, hswap, hrest⟩ := Tx.bind_ok.mp h₂
    have hkey : ∀ a : PaymentAttempt, (decide (a.id = attempt.id) &&
        decide (a.status ≠ .captured)) = true → Schema.key a = attempt.id := by
      intro a ha
      simp only [Bool.and_eq_true, decide_eq_true_eq] at ha
      exact ha.1
    have hne : (decide (attempt.id = attempt.id) && decide (attempt.status ≠ .captured)) = true →
        .captured ≠ attempt.status := by
      intro hp
      simp only [Bool.and_eq_true, decide_eq_true_eq] at hp
      exact hp.2.symm
    obtain ⟨hn, hp, hchanged⟩ | ⟨hn, hp, rfl⟩ := swapAttempt_ok hkey hatt hne hswap
    · rw [if_neg (by simp [hn])] at hrest
      have hsame : w'.paymentAttempts = w₄.paymentAttempts := by
        split at hrest
        · cases hrest
          rfl
        · exact within_transition_notify hframe.whole _ _ _ _ _ hrest
      rw [hsame]
      refine .inr ⟨fun hs => ?_, hchanged⟩
      exact hs.elim (fun hc => hne hp hc.symm) fun hfailed => hfailed.1 he
    · rw [if_pos hn] at hrest
      cases hrest
      exact .inl ⟨.inl (by simpa using hp), hmem⟩
  · rw [if_neg he] at h
    obtain ⟨⟨⟩, w₁, hfail, hret⟩ := Tx.bind_ok.mp h
    cases hret
    unfold applyFailed at hfail
    obtain ⟨count, w₂, hswap, hrest⟩ := Tx.bind_ok.mp hfail
    have hkey : ∀ a : PaymentAttempt, (decide (a.id = attempt.id) &&
        decide (a.status ≠ .captured) && decide (a.status ≠ .failed)) = true →
          Schema.key a = attempt.id := by
      intro a ha
      simp only [Bool.and_eq_true, decide_eq_true_eq] at ha
      exact ha.1.1
    have hne : (decide (attempt.id = attempt.id) && decide (attempt.status ≠ .captured) &&
        decide (attempt.status ≠ .failed)) = true → .failed ≠ attempt.status := by
      intro hp
      simp only [Bool.and_eq_true, decide_eq_true_eq] at hp
      exact hp.2.symm
    obtain ⟨hn, hp, hchanged⟩ | ⟨hn, hp, rfl⟩ := swapAttempt_ok hkey hatt hne hswap
    · rw [if_neg (by simp [hn])] at hrest
      have hsame : w'.paymentAttempts = w₂.paymentAttempts :=
        within_transition_notify hframe.whole _ _ _ _ _ hrest
      rw [hsame]
      refine .inr ⟨fun hs => ?_, hchanged⟩
      simp only [Bool.and_eq_true, decide_eq_true_eq] at hp
      exact hs.elim hp.1.2 fun hfailed => hp.2 hfailed.2
    · rw [if_pos hn] at hrest
      cases hrest
      refine .inl ⟨?_, hmem⟩
      by_cases hc : attempt.status = .captured
      · exact .inl hc
      · exact .inr ⟨he, by simpa [hc] using hp⟩

/-- Finding the attempt touches no row but the attempt's own. -/
theorem findOrCreateMerchantAttempt_ok {paymentAccountId : Nat}
    (h : findOrCreateMerchantAttempt order paymentEntity paymentAccountId w =
      .ok (attempt, w')) :
    OnlyRows order.id attempt.id w w' ∧ w'.paymentAttempts.get attempt.id = some attempt ∧
      match attemptFor w order paymentEntity with
      | some a => a ∈ w.paymentAttempts ∧ a.id = attempt.id ∧
          a.paymentAccountId = attempt.paymentAccountId ∧ a.status = attempt.status ∧
          (attempt = a ∨ attempt.status = .initiated)
      | none => ∀ a ∈ w.paymentAttempts, a.id ≠ attempt.id := by
  unfold findOrCreateMerchantAttempt findOrCreateAttemptFor at h
  unfold attemptFor
  simp only [query_transaction, Tx.bind_read] at h
  generalize hpay : w.paymentAttempts.findFirst _ = byPaymentId at h ⊢
  cases byPaymentId with
  | some a =>
      cases h
      have hmem : attempt ∈ w.paymentAttempts := (Table.findFirst_some hpay).1
      exact ⟨Std.Refl.refl _, Table.get_key hmem, hmem, rfl, rfl, rfl, .inl rfl⟩
  | none =>
      simp only [Tx.bind_read] at h
      generalize hopen : w.paymentAttempts.findLast _ = byOrder at h ⊢
      cases byOrder with
      | some a =>
          obtain ⟨hmem, hrow⟩ := Table.findLast_some hopen
          simp only [Bool.and_eq_true, decide_eq_true_eq] at hrow
          obtain ⟨a₀, t, hget, ht, rfl, rfl⟩ := Slot.update_ok h
          have hself : w.paymentAttempts.get a.id = some a := Table.get_key hmem
          obtain rfl : a = a₀ := Option.some.inj (hself.symm.trans hget)
          refine ⟨onlyRows_updateAttempt ht fun b hb => by simpa using hb, ?_, hmem, rfl, rfl,
            rfl, .inr hrow.2⟩
          exact (Table.get_update_key ht (fun r hr => by simpa using hr) hget (by simp) _).trans
            (if_pos rfl)
      | none =>
          obtain ⟨n, w₁, hbig, hcreate⟩ := Tx.bind_ok.mp h
          obtain ⟨-, rfl⟩ := bigInt_ok hbig
          obtain ⟨t, ht, rfl, rfl⟩ := Slot.create_ok hcreate
          refine ⟨⟨fun _ h _ => h, fun a ha _ => (Table.mem_create ht).mpr (.inl ha),
            fun _ h => h⟩, (Table.get_create ht _).trans (if_pos rfl), fun a ha => ?_⟩
          exact Nat.ne_of_lt (Table.key_lt_nextKey ha)

/-- An event acts on one order and one attempt. It leaves that attempt alone exactly when there
was nothing left to do to it. -/
theorem actOnMerchantEvent_ok {paymentAccountId : Nat} {event : String}
    {outcome : WebhookOutcome} {w₁ : World} (hord : order ∈ w.orders)
    (hbound : order.paymentAccountId = some paymentAccountId)
    (hfind : findOrCreateMerchantAttempt order paymentEntity paymentAccountId w =
      .ok (attempt, w₁))
    (happly : applyPaymentEvent event order attempt paymentEntity w₁ = .ok (outcome, w')) :
    Isolated paymentAccountId w w' ↔ ∀ a ∈ attemptFor w order paymentEntity,
      a.paymentAccountId = some paymentAccountId ∨ SettledFor event a := by
  obtain ⟨hrows, hatt, hfound⟩ := findOrCreateMerchantAttempt_ok hfind
  have hrows' : OnlyRows order.id attempt.id w w' :=
    IsTrans.trans _ _ _ hrows (onlyRows_applyPaymentEvent _ _ _ _ happly)
  -- what is left to show is about the attempt that was found
  have hrest : Isolated paymentAccountId w w' ↔ ∀ a ∈ w.paymentAttempts, a.id = attempt.id →
      a.paymentAccountId ≠ some paymentAccountId → a ∈ w'.paymentAttempts := by
    refine ⟨fun h a ha _ hne => h.attempts a ha hne, fun h => ⟨fun o ho hne => ?_, ?_, ?_⟩⟩
    · refine hrows'.orders o ho fun hid => hne ?_
      rw [Table.eq_of_key ho hord hid]
      exact hbound
    · intro a ha hne
      by_cases hid : a.id = attempt.id
      · exact h a ha hid hne
      · exact hrows'.attempts a ha hid
    · exact fun r hr _ => hrows'.refunds r hr
  rw [hrest]
  cases hfor : attemptFor w order paymentEntity with
  | none =>
      rw [hfor] at hfound
      exact iff_of_true (fun a ha hid => absurd hid (hfound a ha)) (by simp)
  | some a =>
      rw [hfor] at hfound
      obtain ⟨hmem, hid, hacc, hstatus, hsame⟩ := hfound
      have hself : a ∈ w'.paymentAttempts ↔ SettledFor event a := by
        rw [show SettledFor event a ↔ SettledFor event attempt by
          rw [SettledFor, SettledFor, hstatus]]
        obtain ⟨hs, hstays⟩ | ⟨hs, hchanged⟩ := applyPaymentEvent_attempt hatt happly
        · obtain rfl | hopen := hsame
          · exact iff_of_true hstays hs
          · simp [SettledFor, hopen] at hs
        · exact iff_of_false (fun hmem' => hchanged a hmem' hid hstatus) hs
      constructor
      · rintro h b ⟨⟩
        exact or_iff_not_imp_left.mpr fun hne => hself.mp (h a hmem hid hne)
      · intro h b hb hbid hne
        obtain rfl : b = a := Table.eq_of_key hb hmem (hbid.trans hid.symm)
        exact hself.mpr ((h b rfl).resolve_left hne)

end Events

/-- An event that is not acted on for any order meets the condition. -/
theorem actsOnOwn_of_none {paymentAccountId : Nat} {payload : RazorpayWebhookPayload}
    (h : eventTarget w (some paymentAccountId) payload = none) :
    ActsOnOwn paymentAccountId w payload := by
  intro t ht
  rw [h] at ht
  cases ht

/-- A refund event changes a refund of the account only. -/
theorem applyRefundWebhookEvent_isolated {paymentAccountId : Nat}
    {payload : RazorpayWebhookPayload} {outcome : WebhookOutcome}
    (h : applyRefundWebhookEvent paymentAccountId payload w = .ok (outcome, w')) :
    Isolated paymentAccountId w w' := by
  unfold applyRefundWebhookEvent at h
  cases hentity : payload.refund with
  | none =>
      simp only [hentity] at h
      cases h
      exact isolated_refl _ _
  | some refundEntity =>
      simp only [hentity, query_transaction, Tx.bind_read] at h
      generalize hfound : w.refunds.findFirst _ = found at h
      cases found with
      | none => cases h
      | some refund =>
          have hmem : refund ∈ w.refunds := (Table.findFirst_some hfound).1
          dsimp only at h
          split at h
          · cases h
            exact isolated_refl _ _
          · next hbound =>
            have hbound : refund.paymentAccountId = some paymentAccountId := by
              simpa using hbound
            -- the rows of other accounts are not the one that is settled
            have settle : ∀ {f : Refund → Refund} {hf} {n : Nat} {w₁ : World},
                (Db.refunds.updateMany (fun r => r.id = refund.id && r.status = .pending) f hf :
                  Transaction Nat) w = .ok (n, w₁) → Isolated paymentAccountId w w₁ := by
              intro f hf n w₁ hupd
              obtain ⟨t, ht, -, rfl⟩ := Slot.updateMany_ok hupd
              refine ⟨fun _ h _ => h, fun _ h _ => h, fun r hr hne => ?_⟩
              refine Table.mem_of_update_false ht hr ?_
              by_contra hp
              simp only [Bool.not_eq_false, Bool.and_eq_true, decide_eq_true_eq] at hp
              rw [Table.eq_of_key hr hmem hp.1] at hne
              exact hne hbound
            split at h
            · obtain ⟨n, w₁, hupd, hret⟩ := Tx.bind_ok.mp h
              cases hret
              exact settle hupd
            · obtain ⟨amount, w₁, hbig, h₁⟩ := Tx.bind_ok.mp h
              obtain ⟨-, rfl⟩ := bigInt_ok hbig
              split at h₁
              · cases h₁
              · obtain ⟨n, w₂, hupd, hret⟩ := Tx.bind_ok.mp h₁
                cases hret
                exact settle hupd

/-- An event that the account-aware route has applied keeps to its account exactly when the
attempt it acts on is bound to that account or is settled. -/
theorem applyMerchantWebhookEvent_isolated {paymentAccountId : Nat}
    {payload : RazorpayWebhookPayload} {outcome : WebhookOutcome}
    (h : applyMerchantWebhookEvent paymentAccountId payload w = .ok (outcome, w')) :
    Isolated paymentAccountId w w' ↔ ActsOnOwn paymentAccountId w payload := by
  cases ht : eventTarget w (some paymentAccountId) payload with
  | none =>
      refine iff_of_true ?_ (actsOnOwn_of_none ht)
      obtain ⟨-, hrefund⟩ | hignored := applyMerchantWebhookEvent_untargeted ht
      · exact applyRefundWebhookEvent_isolated (hrefund.symm.trans h)
      · cases hignored.symm.trans h
        exact isolated_refl _ _
  | some t =>
      obtain ⟨order, paymentEntity⟩ := t
      rw [applyMerchantWebhookEvent_target ht] at h
      obtain ⟨attempt, w₁, hfind, happly⟩ := Tx.bind_ok.mp h
      obtain ⟨-, hord, hacc⟩ := eventTarget_eq_some.mp ht
      rw [actOnMerchantEvent_ok (Table.findFirst_some hord).1 (accountAccepts_some hacc).1 hfind
        happly]
      exact ⟨fun hown s hs => by cases ht.symm.trans hs; exact hown, fun hown => hown _ ht⟩

/-- The same of the transaction that processes a stored event. -/
theorem processEvent_isolated {id paymentAccountId : Nat} {e : WebhookEvent}
    (he : lockedEvent id w = some e) (hacc : e.paymentAccountId = some paymentAccountId)
    (h : processEvent id w = .ok ((), w')) :
    Isolated paymentAccountId w w' ↔ ActsOnOwn paymentAccountId w e.payload := by
  unfold processEvent at h
  simp only [query_transaction, Tx.bind_read, he] at h
  obtain ⟨outcome, w₁, happly, hmark⟩ := Tx.bind_ok.mp h
  obtain ⟨row, w₂, hupd, hret⟩ := Tx.bind_ok.mp hmark
  cases hret
  obtain ⟨e₀, t, -, -, -, rfl⟩ := Slot.update_ok hupd
  simp only [applyStoredEvent, hacc] at happly
  rw [← applyMerchantWebhookEvent_isolated happly]
  exact ⟨fun h => ⟨h.orders, h.attempts, h.refunds⟩, fun h => ⟨h.orders, h.attempts, h.refunds⟩⟩

/-! ## An order is bound once -/

/-- What an order has been bound to, it stays bound to. -/
def StaysBound (w w' : World) : Prop :=
  ∀ o ∈ w.orders, ∃ o' ∈ w'.orders, o'.id = o.id ∧
    (o.paymentAccountId ≠ none → o'.paymentAccountId = o.paymentAccountId) ∧
    (o.razorpayOrderId ≠ none → o'.razorpayOrderId = o.razorpayOrderId)

theorem RowsEvolve.staysBound (h : RowsEvolve w w') : StaysBound w w' := by
  intro o ho
  obtain ⟨o', ho', hid, hle⟩ := h.orders o ho
  exact ⟨o', ho', hid, hle.paymentAccountId, hle.razorpayOrderId⟩

/-! ## The system with hostile merchants -/

/-- A request to the services, or an event with any payload at all that reaches the table of
stored events: a merchant can sign whatever it likes with the secret of its account. -/
inductive AnyRequest where
  | service (req : Request)
  | store (razorpayEventId : String) (payload : RazorpayWebhookPayload)
      (paymentAccountId : Option Nat) (now : Nat)

def handleAny (gateway : Gateway) (n : Nat) : AnyRequest → Service Response
  | .service req => handle gateway n req
  | .store razorpayEventId payload paymentAccountId now => do
      execute (insertWebhookEvent razorpayEventId payload paymentAccountId now)
      return .unit

theorem commits_handleAny {gateway : Gateway} (n : Nat) (req : AnyRequest) :
    Commits Written (handleAny gateway n req) := by
  cases req with
  | service req => exact commits_handle n req
  | store razorpayEventId payload paymentAccountId now =>
      exact (commits_execute (.insertWebhookEvent _ _ _ _)).bind fun _ => commits_pure _

abbrev HostileConfig := Config World AnyRequest Commit ServiceError Response

/-- A run of any length, with any requests and any payloads, whose commits are `ok`. -/
abbrev ReachesWhen (gateway : Gateway) (ok : Commit → World → Prop) :
    HostileConfig → HostileConfig → Prop :=
  Run (handleAny gateway) (fun _ _ => True) ok

abbrev ReachesAny (gateway : Gateway) : HostileConfig → HostileConfig → Prop :=
  ReachesWhen gateway fun _ _ => True

def HostileConfig.initial (paymentAccounts : Table PaymentAccount) (stores : Table Store)
    (users : Table User) : HostileConfig :=
  ⟨World.initial paymentAccounts stores users, []⟩

/-- Processing an event that was stored for an account either is rolled back, or leaves what is
bound to other accounts alone exactly when the attempt it acts on is bound to that account or
is settled; and in every run, whatever is stored, orders stay bound as they were. -/
theorem accounts_kept_apart (gateway : Gateway) (paymentAccounts : Table PaymentAccount)
    (stores : Table Store) (users : Table User) :
    (∀ (w : World) (id paymentAccountId : Nat) (e : WebhookEvent),
      lockedEvent id w = some e → e.paymentAccountId = some paymentAccountId →
        (∃ err, processEvent id w = .error err) ∨
          ∃ w', processEvent id w = .ok ((), w') ∧
            (Isolated paymentAccountId w w' ↔ ActsOnOwn paymentAccountId w e.payload)) ∧
      ∀ c c' : HostileConfig, ReachesAny gateway (.initial paymentAccounts stores users) c →
        ReachesAny gateway c c' → StaysBound c.state c'.state := by
  constructor
  · intro w id paymentAccountId e he hacc
    cases h : processEvent id w with
    | error err => exact .inl ⟨err, rfl⟩
    | ok r =>
        obtain ⟨⟨⟩, w'⟩ := r
        exact .inr ⟨w', rfl, processEvent_isolated he hacc h⟩
  · intro c c' hrun hlater
    have hlisted : Listed Written c := listed_idle.run commits_handleAny hrun
    have hevolve : RowsEvolve c.state c'.state := by
      refine hlisted.invariant (J := RowsEvolve c.state) commits_handleAny (Std.Refl.refl _)
        (fun ℓ upd s hK _ hJ => ?_) hlater
      exact IsTrans.trans _ _ _ hJ (hK.rowsEvolve s)
    exact hevolve.staysBound

/-! ### Two merchants -/

/-- Two merchants, each with a store and an account of its own. -/
def hostileStart : HostileConfig :=
  .initial ⟨[⟨0, 0, 0, .razorpay, .active, some "credentials"⟩,
      ⟨1, 1, 1, .razorpay, .active, some "credentials"⟩], 2, by decide, by decide⟩
    ⟨[⟨0, 0⟩, ⟨1, 1⟩], 2, by decide, by decide⟩ exampleUsers

/-- Accept a request as the `i`-th and take its first `n` actions. -/
def serveAny (i : Nat) (req : AnyRequest) (n : Nat) : List (Action AnyRequest) :=
  .accept req :: List.replicate n (.advance i)

/-- The same actions in the system with hostile merchants. -/
def services (acts : List (Action Request)) : List (Action AnyRequest) :=
  acts.map fun
    | .accept req => .accept (.service req)
    | .advance i => .advance i

/-- Follow a schedule in that system. -/
def followAny (ok : Commit → World → Prop) [∀ ℓ w, Decidable (ok ℓ w)]
    (acts : List (Action AnyRequest)) (c : HostileConfig) : Option HostileConfig :=
  exec (handleAny exampleGateway) (fun _ _ => True) ok acts c

/-- The example shop. -/
def exampleOpening : HostileConfig := .initial exampleAccounts exampleStores exampleUsers

/-- An order of each merchant, the one of merchant 1 with a failed payment `pay_1`, and an
event stored for the account of merchant 0 that says its own order is paid by a payment. -/
def hostileEvent (paymentId : String) : List (Action AnyRequest) :=
  serveAny 0 (.service (.checkout ⟨"PF-1", 0, 1, some 1, ⟨10000, -2⟩⟩)) 1 ++
    serveAny 1 (.service (.initiatePayment 0 0 (.ok "order_1"))) 7 ++
    serveAny 2 (.service (.checkout ⟨"PF-2", 0, 0, some 0, ⟨10000, -2⟩⟩)) 1 ++
    serveAny 3 (.service (.initiatePayment 0 1 (.ok "order_2"))) 7 ++
    serveAny 4 (.service (.receiveWebhook "failed pay_1" "signature" none 0)) 1 ++
    serveAny 5 (.service (.processOne 0 0)) 1 ++
    serveAny 6 (.store "event" ⟨capturedEvent,
      some ⟨paymentId, "order_2", some 10000, none, none, none, none⟩, none, none⟩ (some 0) 0) 1

/-- An event of merchant 0 about a payment of its own. -/
theorem accounts_kept_apart_own :
    ∃ (c c' : HostileConfig) (e : WebhookEvent) (w' : World),
      lockedEvent 1 c.state = some e ∧ processEvent 1 c.state = .ok ((), w') ∧
        w'.paymentAttempts ≠ c.state.paymentAttempts ∧ Isolated 0 c.state w' ∧
        c.state ≠ c'.state ∧ StaysBound c.state c'.state := by
  have hrun : (exec (handleAny exampleGateway) (fun _ _ => True) (fun _ _ => True)
      (hostileEvent "pay_2") hostileStart).any (fun c => (lockedEvent 1 c.state).any (fun e =>
        decide (e.paymentAccountId = some 0 ∧ ActsOnOwn 0 c.state e.payload) &&
          (processEvent 1 c.state).toOption.any fun (_, w') =>
            decide (w'.paymentAttempts.rows ≠ c.state.paymentAttempts.rows)) &&
        (exec (handleAny exampleGateway) (fun _ _ => True) (fun _ _ => True)
          (serveAny 7 (.service (.processOne 1 0)) 1) c).any fun c' =>
            decide (c.state.paymentAttempts.rows ≠ c'.state.paymentAttempts.rows)) = true := by
    decide +kernel
  obtain ⟨c, hc, h⟩ := exec_any hrun
  obtain ⟨h, hlater⟩ := Bool.and_eq_true_iff.mp h
  obtain ⟨e, he, h⟩ := (Option.any_eq_true ..).mp h
  obtain ⟨hown, h⟩ := Bool.and_eq_true_iff.mp h
  obtain ⟨hacc, hown⟩ := of_decide_eq_true hown
  obtain ⟨c', hc', hne⟩ := exec_any hlater
  obtain ⟨⟨⟨⟩, w'⟩, hok, h⟩ := Tx.exists_ok h
  refine ⟨c, c', e, w', he, hok, fun heq => of_decide_eq_true h (by rw [heq]), ?_,
    fun heq => of_decide_eq_true hne (by rw [heq]), ?_⟩
  · obtain ⟨err, herr⟩ | ⟨w'', hok', hiff⟩ :=
      (accounts_kept_apart exampleGateway .empty .empty .empty).1 c.state 1 0 e he hacc
    · rw [hok] at herr
      cases herr
    · obtain rfl : w' = w'' := by
        rw [hok] at hok'
        cases hok'
        rfl
      exact hiff.mpr hown
  · exact (accounts_kept_apart exampleGateway _ _ _).2 c c' hc hc'

/-- An event of merchant 0 that names the failed payment of merchant 1: the attempt of merchant
1 is captured for the order of merchant 0. -/
theorem foreign_attempt_captured :
    ¬ ∀ (gateway : Gateway) (paymentAccounts : Table PaymentAccount) (stores : Table Store)
      (users : Table User) (c : HostileConfig) (id paymentAccountId : Nat) (e : WebhookEvent),
        ReachesAny gateway (.initial paymentAccounts stores users) c →
          lockedEvent id c.state = some e → e.paymentAccountId = some paymentAccountId →
            Isolated paymentAccountId c.state (applied (processEvent id) c.state) := by
  have hrun : (exec (handleAny exampleGateway) (fun _ _ => True) (fun _ _ => True)
      (hostileEvent "pay_1") hostileStart).any (fun c => (lockedEvent 1 c.state).any fun e =>
        decide (e.paymentAccountId = some 0 ∧
          ¬ Isolated 0 c.state (applied (processEvent 1) c.state))) = true := by
    decide +kernel
  obtain ⟨c, hc, h⟩ := exec_any hrun
  obtain ⟨e, he, h⟩ := (Option.any_eq_true ..).mp h
  obtain ⟨hacc, hnot⟩ := of_decide_eq_true h
  exact fun hall => hnot (hall exampleGateway _ _ _ c 1 0 e hc he hacc)

end PrintForge
