import PrintForge.Payments.Commits
import PrintForge.Payments.OrderSteps

/-!
# How rows evolve, whatever is asked for

Some things hold of every write in every state, with no assumption about who asks for it or
about what a stored event says: an order only changes as orders may, and a stored event keeps
its event id.
-/

namespace PrintForge

open Relational Concurrent Proc

variable {w w' : World}

/-- Every order changes only as orders may, and every stored event keeps its delivery. -/
structure RowsEvolve (w w' : World) : Prop where
  orders : w.orders.Evolves Order.Le w'.orders
  events : w.webhookEvents.Evolves WebhookEvent.SameDelivery w'.webhookEvents

instance : Std.Refl RowsEvolve :=
  ⟨fun w => ⟨Table.evolves_refl w.orders, Table.evolves_refl w.webhookEvents⟩⟩

instance : IsTrans World RowsEvolve :=
  ⟨fun _ _ _ h h' => ⟨h.orders.trans h'.orders, h.events.trans h'.events⟩⟩

/-- Most tables do not matter here. -/
theorem rowsEvolve_of_eq (ho : w'.orders = w.orders) (he : w'.webhookEvents = w.webhookEvents) :
    RowsEvolve w w' where
  orders := ho ▸ Table.evolves_refl _
  events := he ▸ Table.evolves_refl _

theorem rowsEvolve_setOrders {t : Table Order} (h : w.orders.Evolves Order.Le t) :
    RowsEvolve w (Db.orders.set t w) :=
  ⟨h, Table.evolves_refl _⟩

theorem rowsEvolve_setEvents {t : Table WebhookEvent}
    (h : w.webhookEvents.Evolves WebhookEvent.SameDelivery t) :
    RowsEvolve w (Db.webhookEvents.set t w) :=
  ⟨Table.evolves_refl _, h⟩

theorem rowsEvolve_frame : PaymentFrame (fun _ _ => True) RowsEvolve where
  refl := inferInstance
  trans := inferInstance
  status ht := rowsEvolve_setOrders (Table.evolves_update ht fun o _ _ => o.le_status _)
  history _ _ := rowsEvolve_of_eq rfl rfl
  outbox _ _ := rowsEvolve_of_eq rfl rfl
  attempts _ _ := rowsEvolve_of_eq rfl rfl
  newAttempt _ _ := rowsEvolve_of_eq rfl rfl

/-! ## Every transaction -/

/-- A preorder that whatever is written to the refunds keeps to. -/
structure RefundFrame (R : World → World → Prop) : Prop where
  refl : Std.Refl R
  trans : IsTrans World R
  refunds : ∀ w t, R w (Db.refunds.set t w)
  books : ∀ w providerRefunds reservedBy, R w { w with providerRefunds, reservedBy }

/-- A preorder that the transactions keep to which touch no payment attempt: each transition as a
whole, a new order with its first history row, and the refunds. -/
structure DeskFrame (R : World → World → Prop) : Prop extends RefundFrame R where
  transitionWithHistory : ∀ order target actor reason refundPending,
    Tx.Within R (transitionOrderWithHistory order target actor reason refundPending)
  place : ∀ data, Tx.Within R (createOrder data)

/-- A preorder that every transaction of the system keeps to. -/
structure SystemFrame (R : World → World → Prop) : Prop
    extends WholeFrame (fun _ _ => True) R, DeskFrame R where
  findOrCreate : ∀ paymentAccountId order paymentEntity,
    Tx.Within R (findOrCreateAttemptFor paymentAccountId order paymentEntity)
  events : ∀ {w t}, w.webhookEvents.Evolves WebhookEvent.SameDelivery t →
    R w (Db.webhookEvents.set t w)

section Transactions

variable {R : World → World → Prop}

theorem within_processEvent (hR : SystemFrame R) (id : Nat) : Tx.Within R (processEvent id) := by
  have := hR.refl
  have := hR.trans
  refine Tx.within_bind (Tx.within_read _) fun locked => ?_
  cases locked with
  | none => exact Tx.within_pure _
  | some event =>
      refine Tx.within_bind (within_storedEvent hR.toWholeFrame hR.findOrCreate event fun id _ =>
        within_applyRefundWebhookEvent hR.refunds id event.payload) fun outcome => ?_
      refine Tx.within_bind (Slot.within_update fun w t ht => ?_) fun _ => Tx.within_pure _
      exact hR.events (Table.evolves_update ht fun _ _ _ => ⟨rfl, rfl⟩)

theorem within_capturePayment (hR : WholeFrame (fun _ _ => True) R) (userId : Nat) (order : Order)
    (existingByPaymentId : Option PaymentAttempt) (dto : VerifyPaymentDto) :
    Tx.Within R (capturePayment userId order existingByPaymentId dto) := by
  have := hR.refl
  have := hR.trans
  refine Tx.within_bind (Tx.within_read _) fun open' => ?_
  split
  · exact Tx.within_throw _
  · exact within_captureAttempt hR _ _ _ _ trivial

theorem within_recordReconciled (hR : WholeFrame (fun _ _ => True) R) (order : Order)
    (captured : RazorpayOrderPayment) : Tx.Within R (recordReconciled order captured) := by
  have := hR.refl
  have := hR.trans
  refine Tx.within_bind (Tx.within_read _) fun isPending => ?_
  split
  · exact Tx.within_pure _
  · refine Tx.within_bind (Tx.within_read _) fun alreadyCaptured => ?_
    split
    · exact Tx.within_pure _
    · refine Tx.within_bind (within_findOrCreateReconciledAttempt hR _ _)
        fun attemptId => ?_
      exact within_captureReconciled hR _ _ _ trivial

theorem within_recordOwedRefund (hR : RefundFrame R) (order : Order)
    (capturedAttempt : Option PaymentAttempt) (reason : Option String) :
    Tx.Within R (recordOwedRefund order capturedAttempt reason) := by
  have := hR.refl
  have := hR.trans
  unfold recordOwedRefund
  split
  · exact Tx.within_pure _
  · exact Tx.within_bind (Slot.within_create fun w t _ => hR.refunds w t)
      fun _ => Tx.within_pure _

theorem within_recordCancellation (hR : DeskFrame R) (order : Order)
    (capturedAttempt : Option PaymentAttempt) (actor : Actor) (reason : Option String) :
    Tx.Within R (recordCancellation order capturedAttempt actor reason) := by
  have := hR.trans
  exact Tx.within_bind (within_recordOwedRefund hR.toRefundFrame _ _ _)
    fun _ => hR.transitionWithHistory _ _ _ _ _

theorem within_recordRefund (hR : DeskFrame R) (order : Order) (actor : Actor)
    (reason : Option String) : Tx.Within R (recordRefund order actor reason) := by
  have := hR.refl
  have := hR.trans
  refine Tx.within_bind (Tx.within_read _) fun attempts =>
    Tx.within_bind (Slot.within_updateMany fun w t _ => hR.refunds w t) fun count => ?_
  exact hR.transitionWithHistory _ _ _ _ _

theorem within_reserveRefund (hR : RefundFrame R) (request tenantId paymentAttemptId : Nat)
    (dto : CreateRefundDto) :
    Tx.Within R (reserveRefund request tenantId paymentAttemptId dto) := by
  have := hR.refl
  have := hR.trans
  refine Tx.within_bind (Tx.within_read _) fun found => ?_
  cases found with
  | none => exact Tx.within_throw _
  | some attempt =>
      dsimp only
      split
      · exact Tx.within_throw _
      · split
        · exact Tx.within_throw _
        · exact Tx.within_throw _
        · refine Tx.within_bind ?_ fun amountPaise => ?_
          · unfold resolveRequestedAmount
            split
            · exact Tx.within_pure _
            · exact Tx.within_throw _
            · exact Tx.within_pure _
          · split
            · exact Tx.within_throw _
            · refine Tx.within_bind (Tx.within_read _) fun reserved => ?_
              split
              · exact Tx.within_throw _
              · refine Tx.within_bind
                  (Slot.within_create fun w t _ => hR.refunds w t) fun created =>
                  Tx.within_bind ?_ fun _ => Tx.within_pure _
                intro w a w' h
                cases h
                exact hR.books w _ _

theorem within_bookProviderRefund (hR : RefundFrame R) (refund : Refund)
    (providerPaymentId : String) (answer : ProviderRefundAnswer) :
    Tx.Within R (bookProviderRefund refund providerPaymentId answer) := by
  have := hR.refl
  have := hR.trans
  unfold bookProviderRefund
  split
  · refine Tx.within_bind ?_ fun _ => Tx.within_pure _
    intro w a w' h
    cases h
    exact hR.books w _ _
  · exact Tx.within_bind (Tx.within_pure _) fun _ => Tx.within_pure _

/-- A transaction other than the processing of an event touches the attempts of a payment, or
none. -/
theorem Written.other {ℓ : Commit} {upd : World → World} (h : Written ℓ upd)
    (hwhole : WholeFrame (fun _ _ => True) R) (hdesk : DeskFrame R) (hℓ : ℓ ≠ .statement)
    (hevent : ∀ id, ℓ ≠ .processWebhook id) (w : World) : R w (upd w) := by
  have := hwhole.refl
  cases h with
  | checkout data => exact applied_within (hdesk.place _) w
  | verifyPayment userId order existing dto hrzp =>
      exact applied_within (within_capturePayment hwhole _ _ _ _) w
  | processWebhook id => exact absurd rfl (hevent id)
  | reconcileCapturedPayment order captured =>
      exact applied_within (within_recordReconciled hwhole _ _) w
  | failStalePendingOrder order => exact applied_within (within_expirePendingOrder hwhole _) w
  | performCancellation order capturedAttempt actor reason =>
      exact applied_within (within_recordCancellation hdesk _ _ _ _) w
  | performRefundRecording order actor reason =>
      exact applied_within (within_recordRefund hdesk _ _ _) w
  | adminTransitionStatus order status actor reason =>
      exact applied_within (hdesk.transitionWithHistory _ _ _ _ _) w
  | createRefund request tenantId paymentAttemptId dto =>
      exact applied_within (within_reserveRefund hdesk.toRefundFrame _ _ _ _) w
  | callProvider refund providerPaymentId answer =>
      exact applied_within (within_bookProviderRefund hdesk.toRefundFrame _ _ _) w
  | _ => exact absurd rfl hℓ

/-- What every transaction keeps to, every write of one does. -/
theorem Written.transaction (hR : SystemFrame R) {ℓ : Commit} {upd : World → World}
    (h : Written ℓ upd) (hℓ : ℓ ≠ .statement) (w : World) : R w (upd w) := by
  have := hR.refl
  by_cases hevent : ∀ id, ℓ ≠ .processWebhook id
  · exact h.other hR.toWholeFrame hR.toDeskFrame hℓ hevent w
  · cases h with
    | processWebhook id => exact applied_within (within_processEvent hR _) w
    | _ => exact absurd (fun id he => by cases he) hevent

/-! ## Every write -/

/-- A preorder that the single statements keep to which no transaction makes. -/
structure StatementFrame (R : World → World → Prop) : Prop where
  orders : ∀ {w t p f hf}, w.orders.update p f hf = some t → (∀ o, p o → o.Le (f o)) →
    R w (Db.orders.set t w)
  history : ∀ w t, R w (Db.orderStatusHistory.set t w)
  administer : ∀ w paymentAccounts stores users, R w { w with paymentAccounts, stores, users }

theorem Written.statement (hR : SystemFrame R) (hS : StatementFrame R) {upd : World → World}
    (h : Written .statement upd) (w : World) : R w (upd w) := by
  have := hR.refl
  have := hR.trans
  cases h with
  | reopenOrder order hfailed =>
      exact applied_within (Slot.within_updateMany fun w t ht =>
        hS.orders ht fun o _ => o.le_status _) w
  | logTransition row hk =>
      exact applied_within (Slot.within_create fun w t _ => hS.history w t) w
  | bindPaymentAccount orderId paymentAccountId =>
      refine applied_within (Slot.within_updateMany fun w t ht => hS.orders ht fun o hp => ?_) w
      simp only [Bool.and_eq_true, decide_eq_true_eq] at hp
      exact ⟨rfl, rfl, rfl, rfl, fun _ => rfl, fun hne => absurd hp.2 hne⟩
  | associateRazorpayOrder orderId razorpayOrderId =>
      refine applied_within (Slot.within_updateMany fun w t ht => hS.orders ht fun o hp => ?_) w
      simp only [Bool.and_eq_true, decide_eq_true_eq] at hp
      exact ⟨rfl, rfl, rfl, rfl, fun hne => absurd hp.2 hne, fun _ => rfl⟩
  | openAttempt row hk hrow =>
      exact applied_within (Slot.within_create fun w t ht =>
        hR.newAttempt ht fun k => (hrow k).2) w
  | insertWebhookEvent razorpayEventId payload paymentAccountId now =>
      exact applied_within (insertWebhookEvent_within fun ht =>
        hR.events (Table.evolves_create ht)) w
  | safeUpdate id data hk hsame =>
      exact applied_within (Slot.within_update fun w t ht =>
        hR.events (Table.evolves_update ht fun e _ _ => hsame e)) w
  | settleRefund p f hk =>
      exact applied_within (Slot.within_updateMany fun w t _ => hR.refunds w t) w
  | administer paymentAccounts stores users => exact hS.administer w _ _ _
  | failProviderRefund razorpayRefundId => exact hR.books w _ _

/-- What every transaction and every statement keeps to, every write does. -/
theorem Written.within (hR : SystemFrame R) (hS : StatementFrame R) {ℓ : Commit}
    {upd : World → World} (h : Written ℓ upd) (w : World) : R w (upd w) := by
  by_cases hℓ : ℓ = .statement
  · subst hℓ
    exact h.statement hR hS w
  · exact h.transaction hR hℓ w

end Transactions

/-! ## Rows -/

theorem rowsEvolve_createOrder (data : CheckoutOrder) :
    Tx.Within RowsEvolve (createOrder data) := by
  refine Tx.within_bind
    (Slot.within_create fun w t ht => rowsEvolve_setOrders (Table.evolves_create ht))
    fun order => ?_
  exact Tx.within_bind (Slot.within_create fun w t _ => rowsEvolve_of_eq rfl rfl)
    fun _ => Tx.within_pure _

theorem rowsEvolve_system : SystemFrame RowsEvolve where
  toWholeFrame := rowsEvolve_frame.whole
  transitionWithHistory :=
    within_transitionOrderWithHistory rowsEvolve_frame.toTransitionFrame
  place := rowsEvolve_createOrder
  findOrCreate := within_findOrCreateAttemptFor fun _ _ => rowsEvolve_of_eq rfl rfl
  refunds _ _ := rowsEvolve_of_eq rfl rfl
  events h := rowsEvolve_setEvents h
  books _ _ _ := rowsEvolve_of_eq rfl rfl

theorem rowsEvolve_statements : StatementFrame RowsEvolve where
  orders ht hle := rowsEvolve_setOrders (Table.evolves_update ht fun o _ hp => hle o hp)
  history _ _ := rowsEvolve_of_eq rfl rfl
  administer _ _ _ _ := rowsEvolve_of_eq rfl rfl

/-- Every write of the system lets its rows evolve. -/
theorem Written.rowsEvolve {ℓ : Commit} {upd : World → World} (h : Written ℓ upd) (w : World) :
    RowsEvolve w (upd w) :=
  h.within rowsEvolve_system rowsEvolve_statements w

theorem rowsEvolve_insertWebhookEvent (razorpayEventId : String) (payload : RazorpayWebhookPayload)
    (paymentAccountId : Option Nat) (now : Nat) :
    Tx.Within RowsEvolve (insertWebhookEvent razorpayEventId payload paymentAccountId now) :=
  insertWebhookEvent_within fun ht => rowsEvolve_setEvents (Table.evolves_create ht)

/-! ## What persists -/

/-- Attempts only change as attempts may. -/
def AttemptsEvolve (w w' : World) : Prop :=
  w.paymentAttempts.Evolves PaymentAttempt.Le w'.paymentAttempts

instance : Std.Refl AttemptsEvolve := ⟨fun w => Table.evolves_refl w.paymentAttempts⟩

instance : IsTrans World AttemptsEvolve := ⟨fun _ _ _ h h' => h.trans h'⟩

theorem attemptsEvolve_of_eq (h : w'.paymentAttempts = w.paymentAttempts) :
    AttemptsEvolve w w' := by
  unfold AttemptsEvolve
  rw [h]
  exact Table.evolves_refl _

theorem attemptsEvolve_frame : PaymentFrame (fun _ _ => True) AttemptsEvolve where
  refl := inferInstance
  trans := inferInstance
  status _ := attemptsEvolve_of_eq rfl
  history _ _ := attemptsEvolve_of_eq rfl
  outbox _ _ := attemptsEvolve_of_eq rfl
  attempts ht hedit := (keeps_updateAttempts (g := { payment := fun _ _ _ => True }) ht
    (fun a _ hp => hedit a hp) fun _ _ _ _ => trivial).attempts
  newAttempt ht _ := Table.evolves_create ht

theorem attemptsEvolve_createOrder (data : CheckoutOrder) :
    Tx.Within AttemptsEvolve (createOrder data) := by
  refine Tx.within_bind (Slot.within_create fun w t _ => attemptsEvolve_of_eq rfl) fun order => ?_
  exact Tx.within_bind (Slot.within_create fun w t _ => attemptsEvolve_of_eq rfl)
    fun _ => Tx.within_pure _

theorem attemptsEvolve_system : SystemFrame AttemptsEvolve where
  toWholeFrame := attemptsEvolve_frame.whole
  transitionWithHistory :=
    within_transitionOrderWithHistory attemptsEvolve_frame.toTransitionFrame
  place := attemptsEvolve_createOrder
  findOrCreate _ _ _ _ _ _ h := (findOrCreateAttemptFor_keeps h).attempts
  refunds _ _ := attemptsEvolve_of_eq rfl
  events _ := attemptsEvolve_of_eq rfl
  books _ _ _ := attemptsEvolve_of_eq rfl

theorem attemptsEvolve_statements : StatementFrame AttemptsEvolve where
  orders _ _ := attemptsEvolve_of_eq rfl
  history _ _ := attemptsEvolve_of_eq rfl
  administer _ _ _ _ := attemptsEvolve_of_eq rfl

/-- What no write takes back, whatever is asked for. -/
theorem Written.persist {ℓ : Commit} {upd : World → World} (h : Written ℓ upd) (w : World) :
    Persist w (upd w) where
  orders := (h.rowsEvolve w).orders
  attempts := h.within attemptsEvolve_system attemptsEvolve_statements w
  events r hr := by
    obtain ⟨r', hr', hk, hle⟩ := (h.rowsEvolve w).events r hr
    exact ⟨r', hr', hk, hle.2⟩

end PrintForge
