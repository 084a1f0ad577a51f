import PrintForge.Payments.RefundBooks

/-!
# Ledger steps

`Posts k o` says that a commit makes the ledger step `k` on order `o` and leaves every other
ledger alone. This module shows it for the parts that transactions are made of: a transition
with its history row, and the notice that follows it.
-/

namespace PrintForge

open Relational Concurrent Function

@[simp] theorem execute_transaction {α : Type} (tx : Transaction α) :
    (execute tx : Transaction α) = tx := rfl

@[simp] theorem query_transaction {α : Type} (f : World → α) :
    (query f : Transaction α) = Tx.read f := rfl

/-- One ledger step on one order. -/
def Posts (k : Ledger.Kind) (o : Nat) (w w' : World) : Prop :=
  Ledger.Step k (ledger w o) (ledger w' o) ∧ ∀ o', o' ≠ o → ledger w' o' = ledger w o'

variable {w w' : World}

theorem posts_still (o : Nat) (h : ledger w' = ledger w) : Posts .still o w w' := by
  refine ⟨?_, fun o' _ => by rw [h]⟩
  rw [h]
  exact .still

theorem posts_of_update {k : Ledger.Kind} {o : Nat} {L : Ledger}
    (h : ledger w' = update (ledger w) o L) (hstep : Ledger.Step k (ledger w o) L) :
    Posts k o w w' := by
  refine ⟨?_, fun o' ho => by rw [h, update_of_ne ho]⟩
  rw [h, update_self]
  exact hstep

/-- `Posts` only looks at the ledgers. -/
theorem Posts.congr_left {w₀ : World} {k : Ledger.Kind} {o : Nat} (h : Posts k o w w')
    (hw : ledger w = ledger w₀) : Posts k o w₀ w' := by
  unfold Posts at *
  rwa [← hw]

/-! ## Transitions -/

/-- A transition and its history row. -/
def Ledger.moved (L : Ledger) (source target : OrderStatus) : Ledger :=
  { L with status := some target, history := L.history ++ [(some source, target)] }

theorem transitionOrder_ok {order : Order} {target : OrderStatus} {changedByUserId : Option Nat}
    {note : String} {r : Option Order}
    (h : (transitionOrder order target changedByUserId note : Transaction (Option Order)) w =
      .ok (r, w')) :
    isTransitionAllowed order.status target = true ∧
      ((r.isSome ∧ (ledger w order.id).status = some order.status ∧
          ledger w' = update (ledger w) order.id
            ((ledger w order.id).moved order.status target)) ∨
        (r = none ∧ (ledger w order.id).status ≠ some order.status ∧ w' = w)) := by
  unfold transitionOrder at h
  split at h
  · cases h
  · next hallowed =>
    refine ⟨by simpa using hallowed, ?_⟩
    obtain ⟨n, w₁, hcas, hrest⟩ := Tx.bind_ok.mp h
    obtain ⟨hn, hs, hw₁⟩ | ⟨hn, hs, rfl⟩ := casStatus_ok hcas
    · rw [if_neg (by simp [hn])] at hrest
      obtain ⟨row, w₂, hhist, hret⟩ := Tx.bind_ok.mp hrest
      cases hret
      refine .inl ⟨rfl, hs, ?_⟩
      obtain ⟨t, -, hrow, -⟩ := Slot.create_ok hhist
      rw [createHistory_ok hhist, hrow, hw₁]
      simp [Ledger.moved]
    · rw [if_pos hn] at hrest
      cases hrest
      exact .inr ⟨rfl, hs, rfl⟩

theorem insertOutboxEvent_ok {eventType : OutboxEventType} {order : Order}
    (h : insertOutboxEvent eventType order w = .ok ((), w')) :
    eventType ∉ (ledger w order.id).notices ∧
      ledger w' = update (ledger w) order.id
        { ledger w order.id with notices := insert eventType (ledger w order.id).notices } := by
  unfold insertOutboxEvent at h
  obtain ⟨row, w₁, hrow', hret⟩ := Tx.bind_ok.mp h
  cases hret
  obtain ⟨t, -, hrow, -⟩ := Slot.create_ok hrow'
  have hout := createOutbox_ok hrow'
  rw [hrow] at hout
  exact hout

/-- A transition followed by its notice, which is only sent if the transition was made. -/
theorem transition_notify_ok {order : Order} {target : OrderStatus}
    {changedByUserId : Option Nat} {note : String} {eventType : OutboxEventType}
    {r : Option Order} {w₁ : World}
    (ht : (transitionOrder order target changedByUserId note : Transaction (Option Order)) w =
      .ok (r, w₁))
    (hn : (if r.isSome then insertOutboxEvent eventType order else pure ()) w₁ = .ok ((), w')) :
    isTransitionAllowed order.status target = true ∧
      (((ledger w order.id).status = some order.status ∧
          eventType ∉ (ledger w order.id).notices ∧
          ledger w' = update (ledger w) order.id
            { (ledger w order.id).moved order.status target with
              notices := insert eventType (ledger w order.id).notices }) ∨
        ((ledger w order.id).status ≠ some order.status ∧ w' = w)) := by
  obtain ⟨hallowed, ⟨hr, hs, hw₁⟩ | ⟨rfl, hs, rfl⟩⟩ := transitionOrder_ok ht
  · rw [if_pos hr] at hn
    obtain ⟨hfresh, hw'⟩ := insertOutboxEvent_ok hn
    rw [hw₁, update_self] at hfresh
    refine ⟨hallowed, .inl ⟨hs, hfresh, ?_⟩⟩
    rw [hw', hw₁, update_self, update_idem]
    rfl
  · cases hn
    exact ⟨hallowed, .inr ⟨hs, rfl⟩⟩

/-! ## Frames -/

/-- A preorder that the writes of a transition keep to. -/
structure TransitionFrame (R : World → World → Prop) : Prop where
  refl : Std.Refl R
  trans : IsTrans World R
  status : ∀ {w t p s hf}, w.orders.update p (fun o => { o with status := s }) hf = some t →
    R w (Db.orders.set t w)
  history : ∀ w t, R w (Db.orderStatusHistory.set t w)
  outbox : ∀ w t, R w (Db.outboxEvents.set t w)

/-- A preorder that the writes of a payment keep to. -/
structure PaymentFrame (S : Nat → String → Prop) (R : World → World → Prop) : Prop
    extends TransitionFrame R where
  attempts : ∀ {w t p f hf}, w.paymentAttempts.update p f hf = some t →
    (∀ a, p a → PaymentAttempt.Edit S a (f a)) → R w (Db.paymentAttempts.set t w)
  newAttempt : ∀ {w t row hk}, w.paymentAttempts.create row hk = some t →
    (∀ k, (row k).razorpayPaymentId = none) → R w (Db.paymentAttempts.set t w)

/-- A change of status is one that persists. -/
theorem Order.le_status (o : Order) (s : OrderStatus) : o.Le { o with status := s } :=
  ⟨rfl, rfl, rfl, rfl, fun _ => rfl, fun _ => rfl⟩

theorem keeps_frame (g : Grants) :
    PaymentFrame (fun k p => ∀ o, g.payment k o p) (Keeps g) where
  refl := inferInstance
  trans := inferInstance
  status ht := keeps_setOrders (Table.evolves_update ht fun o _ _ => o.le_status _)
  attempts ht hedit := keeps_updateAttempts ht (fun a _ hp => hedit a hp) fun _ _ _ h => h _
  newAttempt ht hnone := keeps_createAttempt ht fun k p hp => by simp [hnone] at hp
  history _ _ := keeps_of_eq rfl rfl rfl
  outbox _ _ := keeps_of_eq rfl rfl rfl

/-- A preorder that a transition keeps to as a whole, its history row included. -/
structure MoveFrame (R : World → World → Prop) : Prop where
  refl : Std.Refl R
  trans : IsTrans World R
  transition : ∀ order target changedByUserId note,
    Tx.Within R (transitionOrder order target changedByUserId note : Transaction (Option Order))
  outbox : ∀ w t, R w (Db.outboxEvents.set t w)

/-- A preorder that a payment keeps to, each of its transitions taken as a whole. -/
structure WholeFrame (S : Nat → String → Prop) (R : World → World → Prop) : Prop
    extends MoveFrame R where
  attempts : ∀ {w t p f hf}, w.paymentAttempts.update p f hf = some t →
    (∀ a, p a → PaymentAttempt.Edit S a (f a)) → R w (Db.paymentAttempts.set t w)
  newAttempt : ∀ {w t row hk}, w.paymentAttempts.create row hk = some t →
    (∀ k, (row k).razorpayPaymentId = none) → R w (Db.paymentAttempts.set t w)

/-- A relation that does not look at the tables a payment moves. -/
structure IgnoresPayments (R : World → World → Prop) : Prop where
  refl : Std.Refl R
  trans : IsTrans World R
  orders : ∀ w t, R w (Db.orders.set t w)
  attempts : ∀ w t, R w (Db.paymentAttempts.set t w)
  history : ∀ w t, R w (Db.orderStatusHistory.set t w)
  outbox : ∀ w t, R w (Db.outboxEvents.set t w)

theorem IgnoresPayments.frame {R : World → World → Prop} (h : IgnoresPayments R) :
    PaymentFrame (fun _ _ => True) R where
  refl := h.refl
  trans := h.trans
  status _ := h.orders _ _
  attempts _ _ := h.attempts _ _
  newAttempt _ _ := h.attempts _ _
  history := h.history
  outbox := h.outbox

theorem refundsSame_frame : IgnoresPayments RefundsSame :=
  ⟨inferInstance, inferInstance, fun _ _ => rfl, fun _ _ => rfl, fun _ _ => rfl, fun _ _ => rfl⟩

section Frames

variable {R : World → World → Prop}

theorem within_transitionOrder (hR : TransitionFrame R) (order : Order) (target : OrderStatus)
    (changedByUserId : Option Nat) (note : String) :
    Tx.Within R (transitionOrder order target changedByUserId note :
      Transaction (Option Order)) := by
  have := hR.refl
  have := hR.trans
  unfold transitionOrder
  split
  · exact Tx.within_throw _
  · refine Tx.within_bind (Slot.within_updateMany fun w t ht => hR.status ht) fun n => ?_
    split
    · exact Tx.within_pure _
    · refine Tx.within_bind (Slot.within_create fun w t _ => hR.history w t) fun _ => ?_
      exact Tx.within_pure _

theorem TransitionFrame.whole (hR : TransitionFrame R) : MoveFrame R :=
  ⟨hR.refl, hR.trans, within_transitionOrder hR, hR.outbox⟩

theorem PaymentFrame.whole {S : Nat → String → Prop} (hR : PaymentFrame S R) : WholeFrame S R :=
  ⟨hR.toTransitionFrame.whole, hR.attempts, hR.newAttempt⟩

theorem IgnoresPayments.whole (hR : IgnoresPayments R) : WholeFrame (fun _ _ => True) R :=
  hR.frame.whole

theorem within_insertOutboxEvent (hR : MoveFrame R) (eventType : OutboxEventType)
    (order : Order) : Tx.Within R (insertOutboxEvent eventType order) := by
  have := hR.refl
  have := hR.trans
  unfold insertOutboxEvent
  exact Tx.within_bind (Slot.within_create fun w t _ => hR.outbox w t) fun _ =>
    Tx.within_pure _

theorem within_bigInt [Std.Refl R] (amount : Option Int) :
    Tx.Within R (bigInt amount : Transaction Int) := by
  unfold bigInt
  split
  · exact Tx.within_pure _
  · exact Tx.within_throw _

/-- A transition and its notice. -/
theorem within_transition_notify (hR : MoveFrame R) (order : Order)
    (target : OrderStatus) (changedByUserId : Option Nat) (note : String)
    (eventType : OutboxEventType) :
    Tx.Within R (do
      let transitioned ← (transitionOrder order target changedByUserId note :
        Transaction (Option Order))
      if transitioned.isSome then insertOutboxEvent eventType order) := by
  have := hR.refl
  have := hR.trans
  refine Tx.within_bind (hR.transition _ _ _ _) fun r => ?_
  split
  · exact within_insertOutboxEvent hR _ _
  · exact Tx.within_pure _

end Frames

end PrintForge
