import PrintForge.Payments.Commits
import PrintForge.Payments.OrderGuarantees
import PrintForge.Relational.Mirror

/-!
# A transition and its notice

A transition and the notice of it are one transaction, and the key of a notice names the order
and the status, so a notice that is already out rolls the transition back. To say that this
never happens, every write is run a second time in a world from which all notices sent so far
have been taken away: what a write does to the tables must not depend on them.

A notice can only stand in the way of a second one for the same status. The table of
transitions leads an order to one status twice in one case only: an order that waits for its
payment may fail, wait again, and fail again.
-/

namespace PrintForge

open Relational Concurrent Proc

/-- The world as if no notice had been sent so far. -/
def World.unnotified (w : World) : World := { w with outboxEvents := .empty }

/-- The notices sent so far do not keep a write from moving an order. -/
def Unhindered (upd : World → World) (w : World) : Prop :=
  (upd w.unnotified).orders ≠ w.orders →
    ∃ notices, upd w = { upd w.unnotified with outboxEvents := notices }

/-! ## Only the insert of a notice looks at the outbox -/

/-- The second world lacks the notices under the keys in `sent`. -/
structure Unnoticed (sent : EventKey → Prop) (s q : World) : Prop where
  rest : s = { q with outboxEvents := s.outboxEvents }
  keys : ∀ k, (∃ n ∈ s.outboxEvents, n.eventKey = k) ↔
    sent k ∨ ∃ n ∈ q.outboxEvents, n.eventKey = k

/-- A notice is out again under a key in `sent`. -/
def Repeated (sent : EventKey → Prop) (w : World) : Prop :=
  ∃ n ∈ w.outboxEvents, sent n.eventKey

/-- The transaction does the same without the notices under the keys in `sent`, unless it
sends one of them again. -/
abbrev IgnoresNotices {α : Type} (sent : EventKey → Prop) (tx : Transaction α) : Prop :=
  Tx.Mirrors (Unnoticed sent) (Repeated sent) tx

section Mirrors

variable {α : Type} {sent : EventKey → Prop}

theorem unnoticed_unnotified (w : World) :
    Unnoticed (fun k => ∃ n ∈ w.outboxEvents, n.eventKey = k) w w.unnotified :=
  ⟨rfl, fun k => by simp [World.unnotified]⟩

theorem ignores_query {f : World → α} (h : ∀ w t, f { w with outboxEvents := t } = f w) :
    IgnoresNotices sent (query f) :=
  Tx.mirrors_read fun s q hs => by rw [hs.rest, h]

theorem shared_orders : Db.orders.Shared (Unnoticed sent) (Repeated sent) where
  get h := by rw [h.rest]; rfl
  set t h := ⟨by rw [h.rest]; rfl, h.keys⟩
  bad _ h := h

theorem shared_paymentAttempts :
    Db.paymentAttempts.Shared (Unnoticed sent) (Repeated sent) where
  get h := by rw [h.rest]; rfl
  set t h := ⟨by rw [h.rest]; rfl, h.keys⟩
  bad _ h := h

theorem shared_refunds : Db.refunds.Shared (Unnoticed sent) (Repeated sent) where
  get h := by rw [h.rest]; rfl
  set t h := ⟨by rw [h.rest]; rfl, h.keys⟩
  bad _ h := h

theorem shared_orderStatusHistory :
    Db.orderStatusHistory.Shared (Unnoticed sent) (Repeated sent) where
  get h := by rw [h.rest]; rfl
  set t h := ⟨by rw [h.rest]; rfl, h.keys⟩
  bad _ h := h

theorem shared_webhookEvents : Db.webhookEvents.Shared (Unnoticed sent) (Repeated sent) where
  get h := by rw [h.rest]; rfl
  set t h := ⟨by rw [h.rest]; rfl, h.keys⟩
  bad _ h := h

/-- Where a notice cannot be sent, its key is in `sent` unless it has been sent since. -/
theorem ignores_notify {row : Nat → OutboxEvent} {key : EventKey}
    (hk : ∀ k, Schema.key (row k) = k) (hkey : ∀ k, (row k).eventKey = key) :
    IgnoresNotices sent (do
      let _ ← Db.outboxEvents.create row hk
      return ()) where
  ok := by
    intro s q a s' hs h
    obtain ⟨n, s₁, hcreate, hret⟩ := Tx.bind_ok.mp h
    cases hret
    obtain ⟨t, ht, -, rfl⟩ := Slot.create_ok hcreate
    have hfree : ∀ n ∈ q.outboxEvents, ¬ Schema.Clash n (row q.outboxEvents.nextKey) := by
      intro n hn hclash
      have hclash : n.eventKey = key := Eq.trans hclash (hkey _)
      obtain ⟨n', hn', hkey'⟩ := (hs.keys key).mpr (.inr ⟨n, hn, hclash⟩)
      -- the insert in the first world would have failed on the same key
      exact Table.create_apart ht n' hn' (Eq.trans hkey' (hkey _).symm)
    obtain ⟨t', ht'⟩ : ∃ t', q.outboxEvents.create row hk = some t' := Table.exists_create hfree
    refine ⟨Db.outboxEvents.set t' q, ?_, ?_, ?_⟩
    · refine Tx.bind_ok.mpr ⟨row q.outboxEvents.nextKey, Db.outboxEvents.set t' q, ?_, rfl⟩
      simp only [Slot.create, Db.outboxEvents, ht']
    · rw [hs.rest]
      rfl
    · intro k
      change (∃ n ∈ t, n.eventKey = k) ↔ sent k ∨ ∃ n ∈ t', n.eventKey = k
      have hold := hs.keys k
      simp only [Table.mem_create ht, Table.mem_create ht', or_and_right, exists_or,
        exists_eq_left, hkey]
      change (∃ n ∈ s.outboxEvents, n.eventKey = k) ∨ _ ↔ _
      rw [hold, or_assoc]
  error := by
    intro s q e b q' hs h hq
    obtain herr | ⟨n, s₁, -, hret⟩ := Tx.bind_error.mp h
    · obtain ⟨-, n, hn, hclash⟩ := Slot.create_error herr
      obtain ⟨n', q₁, hcreate, hret⟩ := Tx.bind_ok.mp hq
      cases hret
      obtain ⟨t, ht, -, rfl⟩ := Slot.create_ok hcreate
      have hclash : n.eventKey = key := Eq.trans hclash (hkey _)
      obtain hsent | ⟨n₁, hn₁, hkey₁⟩ := (hs.keys key).mp ⟨n, hn, hclash⟩
      · exact ⟨_, (Table.mem_create ht).mpr (.inr rfl), by rwa [hkey]⟩
      · exact absurd (Eq.trans hkey₁ (hkey _).symm) (Table.create_apart ht n₁ hn₁)
    · cases hret
  bad := by
    intro s a s' h hs
    obtain ⟨n, s₁, hcreate, hret⟩ := Tx.bind_ok.mp h
    cases hret
    obtain ⟨t, ht, -, rfl⟩ := Slot.create_ok hcreate
    obtain ⟨n, hn, hsent⟩ := hs
    exact ⟨n, (Table.mem_create ht).mpr (.inl hn), hsent⟩

/-! ### Payments -/

theorem ignores_transitionOrder (order : Order) (target : OrderStatus)
    (changedByUserId : Option Nat) (note : String) :
    IgnoresNotices sent (transitionOrder order target changedByUserId note :
      Transaction (Option Order)) := by
  unfold transitionOrder
  split
  · exact Tx.mirrors_throw _
  · apply shared_orders.updateMany.bind
    intro count
    split
    · exact Tx.mirrors_pure _
    · apply (shared_orderStatusHistory.create _ _).bind
      exact fun _ => Tx.mirrors_pure _

theorem ignores_insertOutboxEvent (eventType : OutboxEventType) (order : Order) :
    IgnoresNotices sent (insertOutboxEvent eventType order) :=
  ignores_notify _ fun _ => rfl

/-- A transition and its notice. -/
theorem ignores_transition_notify (order : Order) (target : OrderStatus)
    (changedByUserId : Option Nat) (note : String) (eventType : OutboxEventType) :
    IgnoresNotices sent (do
      let transitioned ← (transitionOrder order target changedByUserId note :
        Transaction (Option Order))
      if transitioned.isSome then insertOutboxEvent eventType order) := by
  apply (ignores_transitionOrder _ _ _ _).bind
  intro transitioned
  split
  · exact ignores_insertOutboxEvent _ _
  · exact Tx.mirrors_pure _

theorem ignores_bigInt (amount : Option Int) :
    IgnoresNotices sent (bigInt amount : Transaction Int) := by
  cases amount with
  | none => exact Tx.mirrors_throw _
  | some n => exact Tx.mirrors_pure _

theorem ignores_readView (id : Nat) :
    IgnoresNotices sent (do
      let finalOrder ← query (·.orders.get id)
      match finalOrder with
      | some finalOrder => return (⟨finalOrder.id, finalOrder.status⟩ : VerifyPaymentView)
      | none => throw .recordNotFound) := by
  apply (ignores_query fun _ _ => rfl).bind
  intro finalOrder
  cases finalOrder with
  | none => exact Tx.mirrors_throw _
  | some finalOrder => exact Tx.mirrors_pure _

theorem ignores_capturePayment (userId : Nat) (order : Order)
    (existingByPaymentId : Option PaymentAttempt) (dto : VerifyPaymentDto) :
    IgnoresNotices sent (capturePayment userId order existingByPaymentId dto) := by
  apply (ignores_query fun _ _ => rfl).bind
  intro open'
  split
  · exact Tx.mirrors_throw _
  · apply shared_paymentAttempts.updateMany.bind
    intro count
    dsimp only
    split
    · apply (ignores_transitionOrder _ _ _ _).bind
      intro transitioned
      exact (ignores_insertOutboxEvent _ _).bind fun _ =>
        ignores_readView order.id
    · exact ignores_readView order.id

theorem ignores_findOrCreateAttemptFor (paymentAccountId : Option Nat) (order : Order)
    (paymentEntity : RazorpayPaymentEntity) :
    IgnoresNotices sent (findOrCreateAttemptFor paymentAccountId order paymentEntity) := by
  apply (ignores_query fun _ _ => rfl).bind
  intro byPaymentId
  cases byPaymentId with
  | some attempt => exact Tx.mirrors_pure _
  | none =>
      apply (ignores_query fun _ _ => rfl).bind
      intro byOrder
      cases byOrder with
      | some attempt => exact shared_paymentAttempts.update _
      | none =>
          apply (ignores_bigInt _).bind
          exact fun amountPaise => shared_paymentAttempts.create _ _

theorem ignores_applyPaymentEvent (event : String) (order : Order) (attempt : PaymentAttempt)
    (paymentEntity : RazorpayPaymentEntity) :
    IgnoresNotices sent (applyPaymentEvent event order attempt paymentEntity) := by
  have hreturn : ∀ _ : Unit, IgnoresNotices sent (pure .processed : Transaction WebhookOutcome) :=
    fun _ => Tx.mirrors_pure _
  unfold applyPaymentEvent
  split
  · refine Tx.Mirrors.bind ?_ hreturn
    apply (ignores_bigInt _).bind
    intro amountPaise
    apply Tx.Mirrors.bind
    · unfold assertCapturedPaymentMatchesOrder
      split
      · exact Tx.mirrors_throw _
      · exact Tx.mirrors_pure _
    · intro _
      apply shared_paymentAttempts.updateMany.bind
      intro count
      split
      · exact Tx.mirrors_pure _
      · split
        · exact Tx.mirrors_pure _
        · exact ignores_transition_notify _ _ _ _ _
  · refine Tx.Mirrors.bind ?_ hreturn
    apply shared_paymentAttempts.updateMany.bind
    intro count
    split
    · exact Tx.mirrors_pure _
    · exact ignores_transition_notify _ _ _ _ _

theorem ignores_applyWebhookEvent (payload : RazorpayWebhookPayload) :
    IgnoresNotices sent (applyWebhookEvent payload) := by
  unfold applyWebhookEvent
  cases paymentOf payload with
  | none => exact Tx.mirrors_pure _
  | some paymentEntity =>
      apply (ignores_query fun _ _ => rfl).bind
      intro found
      cases found with
      | none => exact Tx.mirrors_pure _
      | some order =>
          apply (ignores_findOrCreateAttemptFor _ _ _).bind
          exact fun attempt => ignores_applyPaymentEvent _ _ _ _

theorem ignores_applyRefundWebhookEvent (paymentAccountId : Nat)
    (payload : RazorpayWebhookPayload) :
    IgnoresNotices sent (applyRefundWebhookEvent paymentAccountId payload) := by
  unfold applyRefundWebhookEvent
  cases payload.refund with
  | none => exact Tx.mirrors_pure _
  | some refundEntity =>
      apply (ignores_query fun _ _ => rfl).bind
      intro found
      cases found with
      | none => exact Tx.mirrors_throw _
      | some refund =>
          dsimp only
          split
          · exact Tx.mirrors_pure _
          · split
            · exact shared_refunds.updateMany.bind fun _ => Tx.mirrors_pure _
            · apply (ignores_bigInt _).bind
              intro reportedAmount
              split
              · exact Tx.mirrors_throw _
              · exact shared_refunds.updateMany.bind fun _ => Tx.mirrors_pure _

/-- The account of the route is only looked up. -/
theorem ignores_resolveForBoundAccount (tenantId id : Nat) :
    IgnoresNotices sent (tryCatch
      (do
        let _ ← resolveForBoundAccount tenantId id
        return true)
      fun
      | .paymentAccountResolution _ => return false
      | err => throw err : Transaction Bool) := by
  refine Tx.mirrors_of_reader
    (f := fun w => .ok ((w.paymentAccounts.get id).any (·.tenantId = tenantId))) (fun w => ?_)
    fun s q hs => by rw [hs.rest]
  rw [Tx.tryCatch_apply, Tx.bind_apply, resolveForBoundAccount_apply]
  cases w.paymentAccounts.get id with
  | none => rfl
  | some account =>
      by_cases ht : account.tenantId = tenantId
      · simp [ht, Option.filter_some, Except.map]
      · simp [ht, Option.filter_some, Except.map]

theorem ignores_applyMerchantWebhookEvent (paymentAccountId : Nat)
    (payload : RazorpayWebhookPayload) :
    IgnoresNotices sent (applyMerchantWebhookEvent paymentAccountId payload) := by
  unfold applyMerchantWebhookEvent
  split
  · exact ignores_applyRefundWebhookEvent _ _
  · cases paymentOf payload with
    | none => exact Tx.mirrors_pure _
    | some paymentEntity =>
        apply (ignores_query fun _ _ => rfl).bind
        intro found
        cases found with
        | none => exact Tx.mirrors_pure _
        | some order =>
            dsimp only
            split
            · exact Tx.mirrors_pure _
            · apply (ignores_resolveForBoundAccount _ _).bind
              intro resolved
              split
              · apply (ignores_findOrCreateAttemptFor _ _ _).bind
                exact fun attempt => ignores_applyPaymentEvent _ _ _ _
              · exact Tx.mirrors_pure _

theorem ignores_processEvent (id : Nat) : IgnoresNotices sent (processEvent id) := by
  apply (ignores_query fun _ _ => rfl).bind
  intro locked
  cases locked with
  | none => exact Tx.mirrors_pure _
  | some locked =>
      apply Tx.Mirrors.bind
      · unfold applyStoredEvent
        cases locked.paymentAccountId with
        | none => exact ignores_applyWebhookEvent _
        | some paymentAccountId => exact ignores_applyMerchantWebhookEvent _ _
      · intro outcome
        exact (shared_webhookEvents.update _).bind fun _ => Tx.mirrors_pure _

theorem ignores_recordReconciled (order : Order) (captured : RazorpayOrderPayment) :
    IgnoresNotices sent (recordReconciled order captured) := by
  apply (ignores_query fun _ _ => rfl).bind
  intro isPending
  split
  · exact Tx.mirrors_pure _
  · apply (ignores_query fun _ _ => rfl).bind
    intro alreadyCaptured
    split
    · exact Tx.mirrors_pure _
    · apply Tx.Mirrors.bind
      · apply (ignores_query fun _ _ => rfl).bind
        intro existing
        cases existing with
        | some attempt => exact Tx.mirrors_pure _
        | none => exact (shared_paymentAttempts.create _ _).bind fun _ => Tx.mirrors_pure _
      · intro attemptId
        apply shared_paymentAttempts.updateMany.bind
        intro count
        split
        · exact Tx.mirrors_pure _
        · apply (ignores_transitionOrder _ _ _ _).bind
          intro transitioned
          dsimp only
          split
          · exact (ignores_insertOutboxEvent _ _).bind fun _ => Tx.mirrors_pure _
          · exact Tx.mirrors_pure _

theorem ignores_expirePendingOrder (order : Order) :
    IgnoresNotices sent (expirePendingOrder order) := by
  apply (ignores_query fun _ _ => rfl).bind
  intro isPending
  split
  · exact Tx.mirrors_pure _
  · apply (ignores_query fun _ _ => rfl).bind
    intro captured
    split
    · exact Tx.mirrors_pure _
    · apply shared_paymentAttempts.updateMany.bind
      intro count
      apply (ignores_transitionOrder _ _ _ _).bind
      intro transitioned
      dsimp only
      split
      · exact (ignores_insertOutboxEvent _ _).bind fun _ => Tx.mirrors_pure _
      · exact Tx.mirrors_pure _

/-! ### Orders and refunds -/

theorem ignores_transitionOrderWithHistory (order : Order) (target : OrderStatus)
    (actor : Actor) (reason : Option String) (refundPending : Bool) :
    IgnoresNotices sent
      (transitionOrderWithHistory order target actor reason refundPending) := by
  apply Tx.Mirrors.bind
  · unfold assertTransitionAllowed
    split
    · exact Tx.mirrors_pure _
    · exact Tx.mirrors_throw _
  · intro _
    apply shared_orders.updateMany.bind
    intro count
    split
    · exact Tx.mirrors_pure _
    · apply (shared_orderStatusHistory.create _ _).bind
      intro row
      apply (ignores_query fun _ _ => rfl).bind
      intro user
      cases user with
      | none => exact Tx.mirrors_throw _
      | some user => exact ignores_notify _ fun _ => rfl

theorem ignores_recordCancellation (order : Order) (capturedAttempt : Option PaymentAttempt)
    (actor : Actor) (reason : Option String) :
    IgnoresNotices sent (recordCancellation order capturedAttempt actor reason) := by
  apply Tx.Mirrors.bind
  · unfold recordOwedRefund
    split
    · exact Tx.mirrors_pure _
    · exact (shared_refunds.create _ _).bind fun _ => Tx.mirrors_pure _
  · exact fun _ => ignores_transitionOrderWithHistory _ _ _ _ _

theorem ignores_recordRefund (order : Order) (actor : Actor) (reason : Option String) :
    IgnoresNotices sent (recordRefund order actor reason) := by
  apply (ignores_query fun _ _ => rfl).bind
  intro attempts
  apply shared_refunds.updateMany.bind
  exact fun count => ignores_transitionOrderWithHistory _ _ _ _ _

theorem ignores_reserveRefund (request tenantId paymentAttemptId : Nat)
    (dto : CreateRefundDto) :
    IgnoresNotices sent (reserveRefund request tenantId paymentAttemptId dto) := by
  apply (ignores_query fun _ _ => rfl).bind
  intro found
  cases found with
  | none => exact Tx.mirrors_throw _
  | some attempt =>
      dsimp only
      split
      · exact Tx.mirrors_throw _
      · split
        · exact Tx.mirrors_throw _
        · exact Tx.mirrors_throw _
        · apply Tx.Mirrors.bind
          · unfold resolveRequestedAmount
            split
            · exact Tx.mirrors_pure _
            · exact Tx.mirrors_throw _
            · exact Tx.mirrors_pure _
          · intro amountPaise
            split
            · exact Tx.mirrors_throw _
            · apply (ignores_query fun _ _ => rfl).bind
              intro reserved
              split
              · exact Tx.mirrors_throw _
              · apply (shared_refunds.create _ _).bind
                intro created
                apply Tx.Mirrors.bind _ fun _ => Tx.mirrors_pure _
                exact Tx.mirrors_modify (fun s q h => ⟨by rw [h.rest], h.keys⟩) fun _ h => h

theorem ignores_bookProviderRefund (refund : Refund) (providerPaymentId : String)
    (answer : ProviderRefundAnswer) :
    IgnoresNotices sent (bookProviderRefund refund providerPaymentId answer) := by
  unfold bookProviderRefund
  split
  · apply Tx.Mirrors.bind _ fun _ => Tx.mirrors_pure _
    exact Tx.mirrors_modify (fun s q h => ⟨by rw [h.rest], h.keys⟩) fun _ h => h
  · exact (Tx.mirrors_pure _).bind fun _ => Tx.mirrors_pure _

theorem ignores_createOrder (data : CheckoutOrder) : IgnoresNotices sent (createOrder data) := by
  apply (shared_orders.create _ _).bind
  intro order
  apply (shared_orderStatusHistory.create _ _).bind
  exact fun _ => Tx.mirrors_pure _

end Mirrors

/-- Every write of the system ignores the notices that it does not send again. -/
theorem Written.ignoresNotices {ℓ : Commit} {upd : World → World} (h : Written ℓ upd) :
    ∃ (α : Type) (tx : Transaction α), upd = applied tx ∧ ∀ sent, IgnoresNotices sent tx := by
  cases h with
  | checkout data => exact ⟨_, _, rfl, fun _ => ignores_createOrder _⟩
  | verifyPayment userId order existing dto hrzp =>
      exact ⟨_, _, rfl, fun _ => ignores_capturePayment _ _ _ _⟩
  | processWebhook id => exact ⟨_, _, rfl, fun _ => ignores_processEvent _⟩
  | reconcileCapturedPayment order captured =>
      exact ⟨_, _, rfl, fun _ => ignores_recordReconciled _ _⟩
  | failStalePendingOrder order => exact ⟨_, _, rfl, fun _ => ignores_expirePendingOrder _⟩
  | performCancellation order capturedAttempt actor reason =>
      exact ⟨_, _, rfl, fun _ => ignores_recordCancellation _ _ _ _⟩
  | performRefundRecording order actor reason =>
      exact ⟨_, _, rfl, fun _ => ignores_recordRefund _ _ _⟩
  | adminTransitionStatus order status actor reason =>
      exact ⟨_, _, rfl, fun _ => ignores_transitionOrderWithHistory _ _ _ _ _⟩
  | createRefund request tenantId paymentAttemptId dto =>
      exact ⟨_, _, rfl, fun _ => ignores_reserveRefund _ _ _ _⟩
  | callProvider refund providerPaymentId answer =>
      exact ⟨_, _, rfl, fun _ => ignores_bookProviderRefund _ _ _⟩
  | reopenOrder order hfailed => exact ⟨_, _, rfl, fun _ => shared_orders.updateMany⟩
  | logTransition row hk => exact ⟨_, _, rfl, fun _ => shared_orderStatusHistory.create _ _⟩
  | bindPaymentAccount orderId paymentAccountId =>
      exact ⟨_, _, rfl, fun _ => shared_orders.updateMany⟩
  | associateRazorpayOrder orderId razorpayOrderId =>
      exact ⟨_, _, rfl, fun _ => shared_orders.updateMany⟩
  | openAttempt row hk hrow => exact ⟨_, _, rfl, fun _ => shared_paymentAttempts.create _ _⟩
  | insertWebhookEvent razorpayEventId payload paymentAccountId now =>
      refine ⟨_, _, rfl, fun _ => ?_⟩
      exact (shared_webhookEvents.createOrIgnore _ _).bind fun _ => Tx.mirrors_pure _
  | safeUpdate id data hk hid => exact ⟨_, _, rfl, fun _ => shared_webhookEvents.update _⟩
  | settleRefund p f hk => exact ⟨_, _, rfl, fun _ => shared_refunds.updateMany⟩
  | administer paymentAccounts stores users =>
      refine ⟨_, _, rfl, fun _ => ?_⟩
      exact Tx.mirrors_modify (fun s q h => ⟨by rw [h.rest], h.keys⟩) fun _ h => h
  | failProviderRefund razorpayRefundId =>
      refine ⟨_, _, rfl, fun _ => ?_⟩
      exact Tx.mirrors_modify (fun s q h => ⟨by rw [h.rest], h.keys⟩) fun _ h => h

/-! ## Which notices can stand in the way -/

/-- The notice that the order has come to a status is out. -/
def NoticeOut (w : World) (o : Nat) (status : OrderStatus) : Prop :=
  ∃ n ∈ w.outboxEvents, n.eventKey = ⟨o, .orderStatusChanged status⟩

instance (w : World) (o : Nat) (status : OrderStatus) : Decidable (NoticeOut w o status) :=
  inferInstanceAs (Decidable (∃ n ∈ w.outboxEvents.rows, _))

/-- The commit is about to lead an order to a status before the payment whose notice is out: a
failed payment or an expiry a pending order to failed, or an administrator to either. -/
def RepeatsNotice (w : World) : Commit → Prop
  | .processWebhook id => RepeatedFailure w (.processWebhook id)
  | .failStalePendingOrder order =>
      (w.orders.get order.id).map (·.status) = some .pendingPayment ∧
        ¬ OrderCaptured w order.id ∧ NoticeOut w order.id .paymentFailed
  | .adminTransitionStatus order status =>
      status.Unpaid ∧ (w.orders.get order.id).any (isTransitionAllowed ·.status status) ∧
        NoticeOut w order.id status
  | _ => False

instance (w : World) : DecidablePred (RepeatsNotice w)
  | .processWebhook id => inferInstanceAs (Decidable (RepeatedFailure w (.processWebhook id)))
  | .failStalePendingOrder _ => inferInstanceAs (Decidable (_ ∧ _))
  | .adminTransitionStatus _ _ => inferInstanceAs (Decidable (_ ∧ _))
  | .statement | .checkout | .verifyPayment _ _ _ | .reconcileCapturedPayment _
  | .performCancellation _ _ | .performRefundRecording _ | .createRefund _
  | .callProvider _ _ => inferInstanceAs (Decidable False)

variable {gateway : Gateway} {w : World} {c : PaymentConfig}
variable {paymentAccounts : Table PaymentAccount} {stores : Table Store} {users : Table User}

theorem BooksInv.unnotified (h : BooksInv gateway w) : BooksInv gateway w.unnotified where
  blank := by
    intro o ho
    have hblank : ledger w o = Ledger.blank := h.blank o ho
    have hsame : ledger w.unnotified o = { ledger w o with notices := ∅ } := by
      simp [ledger, World.unnotified]
    rw [hsame, hblank]
    rfl
  announced o hn := by simp [ledger, World.unnotified] at hn
  attributed := h.attributed
  genuine := h.genuine
  refunds := ⟨h.refunds.reserved_lt, h.refunds.reserved_unique, h.refunds.captured,
    h.refunds.asked⟩

theorem rely_unnotified (i : Nat) (w : World) :
    Persist w w.unnotified ∧ OwnRefunds i w w.unnotified :=
  ⟨⟨Table.evolves_refl _, Table.evolves_refl _, Table.evolves_refl _⟩,
    ⟨fun _ hk => hk, fun _ r _ hr => ⟨r, hr, Std.Refl.refl r, fun hn => ⟨hn, id⟩⟩,
      fun _ _ q hq hk => ⟨q, hq, hk, rfl⟩⟩⟩

/-- A commit that fails a pending order whose failure has been announced repeats the notice. -/
theorem repeatsNotice_of_fails {ℓ : Commit} {o : Nat}
    (hpending : (ledger w o).status = some .pendingPayment) (hout : NoticeOut w o .paymentFailed)
    (h : Fails w.unnotified o ℓ) : RepeatsNotice w ℓ := by
  obtain ⟨order', hget, hs⟩ := Option.map_eq_some_iff.mp hpending
  cases ℓ with
  | processWebhook id =>
      obtain ⟨e, he, hev, ⟨order, p⟩, ht, rfl, hclosed, hfind⟩ := h
      have hmem : order ∈ w.orders :=
        (Table.findFirst_some (eventTarget_eq_some.mp ht).2.1).1
      have hstatus : order.status = .pendingPayment :=
        Option.some.inj ((ledger_status_of_mem hmem).symm.trans hpending)
      refine ⟨e, he, hev, (order, p), ht, hstatus, hout, fun a ha hid => ?_, hfind⟩
      exact ⟨fun hs => hclosed ⟨a, ha, hid, .inl hs⟩, fun hs => hclosed ⟨a, ha, hid, .inr hs⟩⟩
  | failStalePendingOrder order =>
      obtain ⟨rfl, hcaptured⟩ := h
      exact ⟨hpending, hcaptured, hout⟩
  | adminTransitionStatus order status =>
      obtain ⟨rfl, rfl⟩ := h
      exact ⟨.inr rfl, by simp [hget, hs], hout⟩
  | _ => exact h.elim

/-- A notice that a commit would send again is one of a status before the payment. -/
theorem repeatsNotice_of_sent {i : Nat} {ℓ : Commit} {w' : World} {n m : OutboxEvent}
    (hinv : BooksInv gateway w) (hranked : ∀ o, (ledger w o).Ranked)
    (hg : Guarantee gateway (fun _ _ => True) i ℓ w.unnotified w')
    (hn : n ∈ w'.outboxEvents) (hm : m ∈ w.outboxEvents) (hkey : m.eventKey = n.eventKey) :
    RepeatsNotice w ℓ := by
  obtain ⟨o, k, ⟨hstep, hframe⟩, hadmits⟩ := hg.posts
  have hledger : ∀ o', ledger w.unnotified o' = { ledger w o' with notices := ∅ } := by
    intro o'
    simp [ledger, World.unnotified]
  have hsent : n.eventKey.eventType ∈ (ledger w' n.eventKey.orderId).notices :=
    mem_notices.mpr ⟨n, hn, rfl⟩
  have hout : n.eventKey.eventType ∈ (ledger w n.eventKey.orderId).notices :=
    mem_notices.mpr ⟨m, hm, hkey⟩
  -- only the order of the step has a notice that is not among those taken away
  obtain ho | ho : n.eventKey.orderId = o ∨ n.eventKey.orderId ≠ o := em _
  · rw [ho] at hsent hout
    rw [hledger] at hstep
    obtain ⟨hpaid, hnone⟩ | ⟨s, t, rfl, hs, hallowed, hmoved⟩ := hstep.notice_sent hsent
    · rw [hpaid] at hout
      exact absurd hnone (hinv.announced o hout).ne_empty
    · rw [hmoved] at hout
      obtain hlt | ⟨-, ht⟩ := isTransitionAllowed_rank hallowed
      · by_cases ht : t.Unpaid
        · rw [OrderStatus.rank_eq_zero.mpr ht] at hlt
          exact absurd hlt (Nat.not_lt_zero _)
        · exact absurd (hranked o t hout ht s hs) (Nat.not_le.mpr hlt)
      · have hnotice : NoticeOut w o t := mem_notices.mp hout
        obtain rfl | rfl := ht
        · obtain ⟨order, rfl, rfl⟩ := hadmits
          obtain ⟨order', hget, rfl⟩ := Option.map_eq_some_iff.mp hs
          exact ⟨.inl rfl, by simpa [hget] using hallowed, hnotice⟩
        · rw [isTransitionAllowed_paymentFailed.mp hallowed] at hs
          exact repeatsNotice_of_fails hs hnotice hadmits
  · rw [hframe _ ho, hledger] at hsent
    exact absurd hsent (Set.notMem_empty _)

/-- In every run of genuine requests, a commit that does not repeat a notice of a status before the
payment moves orders as if no notice had ever been sent. -/
theorem transition_unhindered {f : Request × Service Response} {ℓ : Commit}
    {upd : World → World}
    (hrun : Reaches gateway (fun _ _ => True) (.initial paymentAccounts stores users) c)
    (hf : f ∈ c.flights) (hwrite : f.2.write = some (ℓ, upd)) (hok : ¬ RepeatsNotice c.state ℓ) :
    Unhindered upd c.state := by
  intro hmoves
  have hc := holds_of_reaches hrun
  have hwritten : Written ℓ upd := (listed_idle.run commits_handle hrun f hf).listed hwrite
  obtain ⟨α, tx, rfl, hignores⟩ := hwritten.ignoresNotices
  have hbeside := unnoticed_unnotified c.state
  cases htx : tx c.state with
  | ok r =>
      obtain ⟨q', hq, hrest⟩ := (hignores _).ok hbeside htx
      rw [applied_ok htx, applied_ok hq]
      exact ⟨_, hrest.rest⟩
  | error e =>
      cases hq : tx c.state.unnotified with
      | error e' =>
          rw [applied_error hq] at hmoves
          exact absurd rfl hmoves
      | ok r =>
          obtain ⟨n, hn, m, hm, hkey⟩ := (hignores _).error hbeside htx hq
          obtain ⟨i, hi⟩ := List.mem_iff_getElem?.mp hf
          have hg := (hc.safe i _ _ hi).write hwrite (rely_unnotified i _) hc.inv.unnotified
            trivial
          rw [applied_ok hq] at hg
          have hranked : ∀ o, (ledger c.state o).Ranked := by
            apply ledgers_of_reaches _ (fun _ _ hs hr => hs.ranked hr) hrun
            intro t hout
            simp [Ledger.blank] at hout
          exact absurd (repeatsNotice_of_sent hc.inv hranked hg hn hm hkey) hok

/-- An order whose payment has failed waits again, and is paid. -/
theorem transition_unhindered_reopened :
    ∃ (c : PaymentConfig) (f : Request × Service Response) (ℓ : Commit) (upd : World → World),
      f ∈ c.flights ∧ f.2.write = some (ℓ, upd) ∧ NoticeOut c.state 0 .paymentFailed ∧
        (upd c.state.unnotified).orders ≠ c.state.orders ∧ Unhindered upd c.state := by
  have hrun : (follow (fun _ _ => True) (exampleOrder ++ deliver 2 0 "failed pay_1" ++
      serve 4 (.initiatePayment 0 0 (.ok "order_2")) 6 ++
      serve 5 (.receiveWebhook "captured pay_2" "signature" (some "event_2") 0) 1 ++
      serve 6 (.processOne 1 0) 0) exampleStart).any (fun c => c.flights.any fun f =>
        f.2.write.any fun (ℓ, upd) => decide (NoticeOut c.state 0 .paymentFailed ∧
          (upd c.state.unnotified).orders.rows ≠ c.state.orders.rows ∧
            ¬ RepeatsNotice c.state ℓ)) = true := by
    decide +kernel
  obtain ⟨c, hc, h⟩ := exec_any hrun
  obtain ⟨f, hf, h⟩ := List.any_eq_true.mp h
  obtain ⟨⟨ℓ, upd⟩, hwrite, h⟩ := (Option.any_eq_true ..).mp h
  obtain ⟨hout, hmoves, hok⟩ := of_decide_eq_true h
  exact ⟨c, f, ℓ, upd, hf, hwrite, hout, fun he => hmoves (by rw [he]),
    transition_unhindered hc hf hwrite hok⟩

/-- The second failed payment of an order is a legal transition, and its own notice undoes
it. -/
theorem transition_undone_by_notice :
    ¬ ∀ (gateway : Gateway) (paymentAccounts : Table PaymentAccount) (stores : Table Store)
      (users : Table User) (c : PaymentConfig) (f : Request × Service Response) (ℓ : Commit)
      (upd : World → World),
        Reaches gateway (fun _ _ => True) (.initial paymentAccounts stores users) c →
          f ∈ c.flights → f.2.write = some (ℓ, upd) → Unhindered upd c.state := by
  have hrun : (follow (fun _ _ => True) (exampleOrder ++ deliver 2 0 "failed pay_1" ++
      serve 4 (.initiatePayment 0 0 (.ok "order_2")) 6 ++
      serve 5 (.receiveWebhook "failed pay_2" "signature" (some "event_2") 0) 1 ++
      serve 6 (.processOne 1 0) 0) exampleStart).any (fun c => c.flights.any fun f =>
        f.2.write.any fun (_, upd) => decide (
          (upd c.state.unnotified).orders.rows ≠ c.state.orders.rows ∧
            (upd c.state).orders.rows = c.state.orders.rows)) = true := by
    decide +kernel
  obtain ⟨c, hc, h⟩ := exec_any hrun
  obtain ⟨f, hf, h⟩ := List.any_eq_true.mp h
  obtain ⟨⟨ℓ, upd⟩, hwrite, h⟩ := (Option.any_eq_true ..).mp h
  obtain ⟨hmoves, hsame⟩ := of_decide_eq_true h
  intro hall
  obtain ⟨notices, hupd⟩ := hall _ _ _ _ c f ℓ upd hc hf hwrite fun he => hmoves (by rw [he])
  exact hmoves (by rw [← hsame, hupd])

end PrintForge
