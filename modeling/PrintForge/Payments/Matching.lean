import PrintForge.Payments.Isolation
import PrintForge.Payments.Served

/-!
# Only a matching payment pays an order

The processor of stored events and the reconciliation of an order each present one payment at
most: the payment of a captured event, and the first captured payment among those that Razorpay
reports. An order that they move to paid is the one that the payment is for, in its amount, its
currency and its Razorpay order. A payment that is for no order it could pay leaves everything as
it was, apart from the row of the event that brought it.

The check stands in different places. An event is checked after its attempt has been found or made
in the same transaction, which the mismatch rolls back. Reconciliation checks before its
transaction begins, against an order it has read earlier; what the check compares has not changed
in the meantime.

A failed payment is not checked. Its amount plays no part in closing the attempt.
-/

namespace PrintForge

open Relational Concurrent JavaScript

variable {w w' : World}

/-! ## Payments and the orders they are for -/

/-- A payment that Razorpay has captured, as it is presented. The amount is missing where it is
not a number. -/
structure PresentedPayment where
  razorpayOrderId : String
  amountPaise : Option Int
  currency : String
deriving DecidableEq, Repr

/-- The payment has the amount, the currency and the Razorpay order of the order. -/
structure PaysFor (payment : PresentedPayment) (order : Order) : Prop where
  amountPaise : payment.amountPaise = some (decimalToPaise order.total)
  currency : payment.currency = order.currency
  razorpayOrderId : order.razorpayOrderId = some payment.razorpayOrderId

instance (payment : PresentedPayment) (order : Order) : Decidable (PaysFor payment order) :=
  decidable_of_iff (payment.amountPaise = some (decimalToPaise order.total) ∧
      payment.currency = order.currency ∧ order.razorpayOrderId = some payment.razorpayOrderId)
    ⟨fun h => ⟨h.1, h.2.1, h.2.2⟩, fun h => ⟨h.amountPaise, h.currency, h.razorpayOrderId⟩⟩

def RazorpayPaymentEntity.presented (paymentEntity : RazorpayPaymentEntity) : PresentedPayment :=
  ⟨paymentEntity.orderId, paymentEntity.amount, paymentEntity.currency.getD defaultCurrency⟩

def RazorpayOrderPayment.presented (payment : RazorpayOrderPayment) : PresentedPayment :=
  ⟨payment.razorpayOrderId, some payment.amountPaise, payment.currency⟩

/-- The payment of a captured event. -/
def capturedPaymentOf (payload : RazorpayWebhookPayload) : Option PresentedPayment :=
  (payload.payment.filter fun _ => payload.event = capturedEvent).map (·.presented)

/-- The payment that a request presents. -/
def presentedPayment : Request → World → Option PresentedPayment
  | .processOne id _, w => (lockedEvent id w).bind fun e => capturedPaymentOf e.payload
  | .reconcileOne _ _ payments, _ =>
      (payments.bind (·.find? fun p => p.status = "captured" || p.captured)).map (·.presented)
  | _, _ => none

/-- The requests that present a payment. -/
inductive Presents : Request → Prop
  | processOne (id now : Nat) : Presents (.processOne id now)
  | reconcileOne (orderId ageMinutes : Nat) (payments : Option (List RazorpayOrderPayment)) :
      Presents (.reconcileOne orderId ageMinutes payments)

/-- An event is about the order it names, a reconciliation about the order it is for. -/
def Concerns : Request → Order → Prop
  | .reconcileOne orderId _ _, order => order.id = orderId
  | _, _ => True

/-- Nothing changes but the row of one event, if any. -/
structure Unmoved (own : Option Nat) (w w' : World) : Prop where
  rest : w' = { w with webhookEvents := w'.webhookEvents }
  events : ∀ k, own ≠ some k → w'.webhookEvents.get k = w.webhookEvents.get k

theorem unmoved_refl (own : Option Nat) (w : World) : Unmoved own w w := ⟨rfl, fun _ _ => rfl⟩

/-- What an action of a request may do with a payment: an order is paid by a payment that is for
it, and a payment that is for none changes nothing. -/
structure Settles (req : Request) (w w' : World) : Prop where
  pays : ∀ order ∈ w.orders, order.status ≠ .paid →
    ∀ order', w'.orders.get order.id = some order' → order'.status = .paid →
      ∃ payment, presentedPayment req w = some payment ∧ PaysFor payment order
  kept : ∀ payment, presentedPayment req w = some payment →
    (∀ order ∈ w.orders, Concerns req order → ¬ PaysFor payment order) →
      Unmoved (ownEvent req) w w'

/-! ## The orders that a transaction pays -/

/-- Orders are paid only where `ids` says so. -/
def PaidWithin (ids : Nat → Prop) (w w' : World) : Prop :=
  ∀ k order', w'.orders.get k = some order' → order'.status = .paid →
    ids k ∨ ∃ order, w.orders.get k = some order ∧ order.status = .paid

theorem paidWithin_of_orders {ids : Nat → Prop} (h : w'.orders = w.orders) :
    PaidWithin ids w w' :=
  fun _ order' hget hpaid => .inr ⟨order', h ▸ hget, hpaid⟩

instance (ids : Nat → Prop) : Std.Refl (PaidWithin ids) := ⟨fun _ => paidWithin_of_orders rfl⟩

instance (ids : Nat → Prop) : IsTrans World (PaidWithin ids) where
  trans _ _ _ h h' := by
    intro k order'' hget hpaid
    obtain hid | ⟨order', hget', hpaid'⟩ := h' k order'' hget hpaid
    · exact .inl hid
    · exact h k order' hget' hpaid'

section PaidWithin

variable {ids : Nat → Prop}

theorem paidWithin_transitionOrder {order : Order} {target : OrderStatus}
    (h : target = .paid → ids order.id) (changedByUserId : Option Nat) (note : String) :
    Tx.Within (PaidWithin ids) (transitionOrder order target changedByUserId note :
      Transaction (Option Order)) := by
  unfold transitionOrder
  split
  · exact Tx.within_throw _
  · refine Tx.within_bind (Slot.within_updateMany fun w t ht => ?_) fun count => ?_
    · intro k order' hget hpaid
      have hget : t.get k = some order' := hget
      rw [Table.get_update ht] at hget
      obtain ⟨o, ho, rfl⟩ := Option.map_eq_some_iff.mp hget
      split at hpaid
      · next hp =>
        simp only [Bool.and_eq_true, decide_eq_true_eq] at hp
        have hk : o.id = k := (Table.get_eq_some.mp ho).2
        rw [← hk, hp.1]
        exact .inl (h hpaid)
      · exact .inr ⟨o, ho, hpaid⟩
    · split
      · exact Tx.within_pure _
      · exact Tx.within_bind (Slot.within_create fun w t _ => paidWithin_of_orders rfl)
          fun _ => Tx.within_pure _

theorem paidWithin_insertOutboxEvent (eventType : OutboxEventType) (order : Order) :
    Tx.Within (PaidWithin ids) (insertOutboxEvent eventType order) :=
  Tx.within_bind (Slot.within_create fun _ _ _ => paidWithin_of_orders rfl)
    fun _ => Tx.within_pure _

theorem paidWithin_transition_notify {order : Order} {target : OrderStatus}
    (h : target = .paid → ids order.id) (changedByUserId : Option Nat) (note : String)
    (eventType : OutboxEventType) :
    Tx.Within (PaidWithin ids) (do
      let transitioned ← (transitionOrder order target changedByUserId note :
        Transaction (Option Order))
      if transitioned.isSome then insertOutboxEvent eventType order) := by
  refine Tx.within_bind (paidWithin_transitionOrder h _ _) fun transitioned => ?_
  split
  · exact paidWithin_insertOutboxEvent _ _
  · exact Tx.within_pure _

theorem paidWithin_findOrCreateAttemptFor (paymentAccountId : Option Nat) (order : Order)
    (paymentEntity : RazorpayPaymentEntity) :
    Tx.Within (PaidWithin ids) (findOrCreateAttemptFor paymentAccountId order paymentEntity) :=
  within_findOrCreateAttemptFor (fun _ _ => paidWithin_of_orders rfl) _ _ _

/-- A captured event pays its own order, and a failed one pays none. -/
theorem paidWithin_applyPaymentEvent {event : String} {order : Order}
    (h : event = capturedEvent → ids order.id) (attempt : PaymentAttempt)
    (paymentEntity : RazorpayPaymentEntity) :
    Tx.Within (PaidWithin ids) (applyPaymentEvent event order attempt paymentEntity) := by
  unfold applyPaymentEvent
  split
  · next hevent =>
    refine Tx.within_bind ?_ fun _ => Tx.within_pure _
    refine Tx.within_bind (within_bigInt _) fun amountPaise => Tx.within_bind ?_ fun _ =>
      Tx.within_bind (Slot.within_updateMany fun w t _ => paidWithin_of_orders rfl) fun count => ?_
    · unfold assertCapturedPaymentMatchesOrder
      split
      · exact Tx.within_throw _
      · exact Tx.within_pure _
    · split
      · exact Tx.within_pure _
      · split
        · exact Tx.within_pure _
        · exact paidWithin_transition_notify (fun _ => h hevent) _ _ _
  · refine Tx.within_bind ?_ fun _ => Tx.within_pure _
    refine Tx.within_bind (Slot.within_updateMany fun w t _ => paidWithin_of_orders rfl)
      fun count => ?_
    split
    · exact Tx.within_pure _
    · exact paidWithin_transition_notify (fun h => by cases h) _ _ _

theorem paidWithin_captureReconciled {order : Order} (h : ids order.id)
    (captured : RazorpayOrderPayment) (attemptId : Nat) :
    Tx.Within (PaidWithin ids) (captureReconciled order captured attemptId) := by
  unfold captureReconciled
  refine Tx.within_bind (Slot.within_updateMany fun w t _ => paidWithin_of_orders rfl)
    fun count => ?_
  split
  · exact Tx.within_pure _
  · apply Tx.within_bind
    · refine paidWithin_transitionOrder ?_ _ _
      exact fun _ => h
    · intro transitioned
      split
      · exact Tx.within_bind (paidWithin_insertOutboxEvent _ _) fun _ => Tx.within_pure _
      · exact Tx.within_pure _

/-- An expiry pays no order. -/
theorem paidWithin_expirePendingOrder (order : Order) :
    Tx.Within (PaidWithin ids) (expirePendingOrder order) := by
  refine Tx.within_bind (Tx.within_read _) fun isPending => ?_
  split
  · exact Tx.within_pure _
  · refine Tx.within_bind (Tx.within_read _) fun captured => ?_
    split
    · exact Tx.within_pure _
    · refine Tx.within_bind (Slot.within_updateMany fun w t _ => paidWithin_of_orders rfl)
        fun count => ?_
      refine Tx.within_bind (paidWithin_transitionOrder (fun h => by cases h) _ _)
        fun transitioned => ?_
      split
      · exact Tx.within_bind (paidWithin_insertOutboxEvent _ _) fun _ => Tx.within_pure _
      · exact Tx.within_pure _

theorem paidWithin_recordReconciled {order : Order} (h : ids order.id)
    (captured : RazorpayOrderPayment) :
    Tx.Within (PaidWithin ids) (recordReconciled order captured) := by
  refine Tx.within_bind (Tx.within_read _) fun isPending => ?_
  split
  · exact Tx.within_pure _
  · refine Tx.within_bind (Tx.within_read _) fun alreadyCaptured => ?_
    split
    · exact Tx.within_pure _
    · refine Tx.within_bind ?_ fun attemptId => paidWithin_captureReconciled h captured attemptId
      refine Tx.within_bind (Tx.within_read _) fun existing => ?_
      cases existing with
      | some attempt => exact Tx.within_pure _
      | none =>
          exact Tx.within_bind (Slot.within_create fun w t _ => paidWithin_of_orders rfl)
            fun _ => Tx.within_pure _

end PaidWithin

/-! ## Events -/

/-- Every order names a currency. -/
def CurrencyNamed (w : World) : Prop := ∀ order ∈ w.orders, order.currency ≠ ""

/-- What the check lets through is for the order. -/
theorem capturedPaymentMismatch_none {order : Order} {captured : CapturedPayment}
    (h : capturedPaymentMismatch order captured = none) (hcur : order.currency ≠ "") :
    (∀ id, truthy order.razorpayOrderId = some id → captured.razorpayOrderId = id) ∧
      captured.currency = order.currency ∧
      captured.amountPaise = decimalToPaise order.total := by
  have hcurrency : (truthy (some order.currency)).getD defaultCurrency = order.currency := by
    simp [truthy, Option.filter_some, hcur]
  unfold capturedPaymentMismatch at h
  dsimp only at h
  rw [hcurrency] at h
  split at h
  · cases h
  · next hsame =>
    split at h
    · cases h
    · next hcur =>
      split at h
      · cases h
      · next hamount =>
        refine ⟨fun id hid => ?_, not_not.mp hcur, not_not.mp hamount⟩
        rw [Option.filter_eq_none_iff] at hsame
        simpa using hsame id hid

theorem Matches.paysFor {order : Order} {paymentEntity : RazorpayPaymentEntity}
    (h : Matches order paymentEntity) (hcur : order.currency ≠ "")
    (hnamed : order.razorpayOrderId = some paymentEntity.orderId) :
    PaysFor paymentEntity.presented order := by
  obtain ⟨n, hamount, hmatch⟩ := h
  obtain ⟨-, hcurrency, hpaise⟩ := capturedPaymentMismatch_none hmatch hcur
  exact ⟨hamount.trans (congrArg some hpaise), hcurrency, hnamed⟩

/-- What acting on an event may do. -/
structure EventSettles (payload : RazorpayWebhookPayload) (w w' : World) : Prop where
  pays : ∀ order ∈ w.orders, order.status ≠ .paid →
    ∀ order', w'.orders.get order.id = some order' → order'.status = .paid →
      ∃ payment, capturedPaymentOf payload = some payment ∧ PaysFor payment order
  kept : ∀ payment, capturedPaymentOf payload = some payment →
    (∀ order ∈ w.orders, ¬ PaysFor payment order) → w' = w

theorem eventSettles_refl (payload : RazorpayWebhookPayload) (w : World) :
    EventSettles payload w w where
  pays order horder hstatus order' hget hpaid := by
    obtain rfl : order = order' := Option.some.inj ((Table.get_key horder).symm.trans hget)
    exact absurd hpaid hstatus
  kept _ _ _ := rfl

/-- What pays only some orders pays no other. -/
theorem PaidWithin.mem {ids : Nat → Prop} (h : PaidWithin ids w w') {order order' : Order}
    (horder : order ∈ w.orders) (hstatus : order.status ≠ .paid)
    (hget : w'.orders.get order.id = some order') (hpaid : order'.status = .paid) :
    ids order.id := by
  obtain hid | ⟨o, ho, hopaid⟩ := h order.id order' hget hpaid
  · exact hid
  · obtain rfl : order = o := Option.some.inj ((Table.get_key horder).symm.trans ho)
    exact absurd hopaid hstatus

theorem paymentOf_of_captured {payload : RazorpayWebhookPayload} {payment : PresentedPayment}
    (h : capturedPaymentOf payload = some payment) :
    payload.event = capturedEvent ∧
      ∃ paymentEntity, paymentOf payload = some paymentEntity ∧
        paymentEntity.presented = payment := by
  obtain ⟨paymentEntity, hfilter, rfl⟩ := Option.map_eq_some_iff.mp h
  obtain ⟨hpayment, hevent⟩ := Option.filter_eq_some_iff.mp hfilter
  have hevent : payload.event = capturedEvent := by simpa using hevent
  exact ⟨hevent, paymentEntity, by simp [paymentOf, hpayment, hevent], rfl⟩

theorem capturedPaymentOf_of_paymentOf {payload : RazorpayWebhookPayload}
    {paymentEntity : RazorpayPaymentEntity} (h : paymentOf payload = some paymentEntity)
    (hevent : payload.event = capturedEvent) :
    capturedPaymentOf payload = some paymentEntity.presented := by
  obtain ⟨hpayment, -⟩ := Option.filter_eq_some_iff.mp h
  simp [capturedPaymentOf, hpayment, hevent]

theorem applyPaymentEvent_matches {event : String} {order : Order} {attempt : PaymentAttempt}
    {paymentEntity : RazorpayPaymentEntity} {outcome : WebhookOutcome}
    (hevent : event = capturedEvent)
    (h : applyPaymentEvent event order attempt paymentEntity w = .ok (outcome, w')) :
    Matches order paymentEntity := by
  unfold applyPaymentEvent at h
  rw [if_pos hevent] at h
  obtain ⟨⟨⟩, w₁, hcaptured, -⟩ := Tx.bind_ok.mp h
  obtain ⟨n, w₂, hbig, hrest⟩ := Tx.bind_ok.mp hcaptured
  obtain ⟨hamount, rfl⟩ := bigInt_ok hbig
  obtain ⟨⟨⟩, w₃, hassert, -⟩ := Tx.bind_ok.mp hrest
  exact ⟨n, hamount, (assertCapturedPaymentMatchesOrder_ok hassert).1⟩

/-- The last part of both routes. -/
theorem actOnEvent_settles {payload : RazorpayWebhookPayload}
    {paymentEntity : RazorpayPaymentEntity} {order : Order} {stampAccount : Option Nat}
    {outcome : WebhookOutcome} (hcur : CurrencyNamed w)
    (hp : paymentOf payload = some paymentEntity)
    (hfound : w.orders.findFirst (fun o => o.razorpayOrderId = some paymentEntity.orderId) =
      some order)
    (h : (do
      let attempt ← findOrCreateAttemptFor stampAccount order paymentEntity
      applyPaymentEvent payload.event order attempt paymentEntity : Transaction WebhookOutcome) w =
        .ok (outcome, w')) : EventSettles payload w w' := by
  obtain ⟨hmem, hnamed⟩ := Table.findFirst_some hfound
  have hnamed : order.razorpayOrderId = some paymentEntity.orderId := by simpa using hnamed
  have hpays : payload.event = capturedEvent → PaysFor paymentEntity.presented order := by
    intro hevent
    obtain ⟨attempt, w₁, -, happly⟩ := Tx.bind_ok.mp h
    exact (applyPaymentEvent_matches hevent happly).paysFor (hcur order hmem) hnamed
  have hwithin : PaidWithin (fun id => payload.event = capturedEvent ∧ id = order.id) w w' :=
    Tx.within_bind (paidWithin_findOrCreateAttemptFor _ _ _)
      (fun attempt => paidWithin_applyPaymentEvent (fun hevent => ⟨hevent, rfl⟩) attempt _) h
  refine ⟨fun o ho hstatus o' hget hpaid => ?_, fun payment hpayment hnone => ?_⟩
  · obtain ⟨hevent, hid⟩ := hwithin.mem ho hstatus hget hpaid
    obtain rfl : o = order := Table.eq_of_key ho hmem hid
    exact ⟨_, capturedPaymentOf_of_paymentOf hp hevent, hpays hevent⟩
  · obtain ⟨hevent, paymentEntity', hp', rfl⟩ := paymentOf_of_captured hpayment
    obtain rfl : paymentEntity = paymentEntity' := Option.some.inj (hp.symm.trans hp')
    exact absurd (hpays hevent) (hnone order hmem)

/-- A refund event pays for nothing. -/
theorem applyRefundWebhookEvent_paysNothing {id : Nat} {payload : RazorpayWebhookPayload}
    {outcome : WebhookOutcome} (hnone : paymentOf payload = none)
    (h : applyRefundWebhookEvent id payload w = .ok (outcome, w')) : EventSettles payload w w' := by
  have hwithin : PaidWithin (fun _ => False) w w' :=
    within_applyRefundWebhookEvent (fun _ _ => paidWithin_of_orders rfl) _ _ h
  refine ⟨fun o ho hstatus o' hget hpaid => (hwithin.mem ho hstatus hget hpaid).elim,
    fun payment hpayment _ => ?_⟩
  obtain ⟨-, paymentEntity, hp, -⟩ := paymentOf_of_captured hpayment
  rw [hnone] at hp
  cases hp

theorem applyStoredEvent_settles {e : WebhookEvent} {outcome : WebhookOutcome}
    (hcur : CurrencyNamed w) (h : applyStoredEvent e w = .ok (outcome, w')) :
    EventSettles e.payload w w' := by
  cases ht : eventTarget w e.paymentAccountId e.payload with
  | none =>
      obtain ⟨hnone, id, hrefund⟩ | hignored := applyStoredEvent_untargeted ht
      · exact applyRefundWebhookEvent_paysNothing hnone (hrefund.symm.trans h)
      · cases hignored.symm.trans h
        exact eventSettles_refl _ _
  | some t =>
      obtain ⟨hp, hfound, -⟩ := eventTarget_eq_some.mp ht
      rw [applyStoredEvent_target ht] at h
      exact actOnEvent_settles hcur hp hfound h

/-! ## Orders name their currency -/

/-- Orders go on naming their currency. -/
def KeepsCurrency (w w' : World) : Prop := CurrencyNamed w → CurrencyNamed w'

instance : Std.Refl KeepsCurrency := ⟨fun _ h => h⟩

instance : IsTrans World KeepsCurrency := ⟨fun _ _ _ h h' hw => h' (h hw)⟩

theorem keepsCurrency_of_orders (h : w'.orders = w.orders) : KeepsCurrency w w' :=
  fun hw order horder => hw order (h ▸ horder)

theorem keepsCurrency_updateOrders {p : Order → Bool} {f : Order → Order} {hf} {t : Table Order}
    (ht : w.orders.update p f hf = some t) (h : ∀ o, p o → (f o).currency = o.currency) :
    KeepsCurrency w (Db.orders.set t w) := by
  intro hw order horder
  obtain ⟨o, ho, rfl⟩ := (Table.mem_update ht).mp horder
  split
  · next hp =>
    rw [h o hp]
    exact hw o ho
  · exact hw o ho

theorem keepsCurrency_frame : PaymentFrame (fun _ _ => True) KeepsCurrency where
  refl := inferInstance
  trans := inferInstance
  status ht := keepsCurrency_updateOrders ht fun _ _ => rfl
  history _ _ := keepsCurrency_of_orders rfl
  outbox _ _ := keepsCurrency_of_orders rfl
  attempts _ _ := keepsCurrency_of_orders rfl
  newAttempt _ _ := keepsCurrency_of_orders rfl

theorem keepsCurrency_createOrder (data : CheckoutOrder) :
    Tx.Within KeepsCurrency (createOrder data) := by
  refine Tx.within_bind (Slot.within_create fun w t ht => ?_) fun order => ?_
  · intro hw order horder
    obtain hold | rfl := (Table.mem_create ht).mp horder
    · exact hw order hold
    · exact (by decide : defaultCurrency ≠ "")
  · exact Tx.within_bind (Slot.within_create fun w t _ => keepsCurrency_of_orders rfl)
      fun _ => Tx.within_pure _

theorem keepsCurrency_system : SystemFrame KeepsCurrency where
  toWholeFrame := keepsCurrency_frame.whole
  transitionWithHistory :=
    within_transitionOrderWithHistory keepsCurrency_frame.toTransitionFrame
  place := keepsCurrency_createOrder
  findOrCreate := within_findOrCreateAttemptFor fun _ _ => keepsCurrency_of_orders rfl
  refunds _ _ := keepsCurrency_of_orders rfl
  events _ := keepsCurrency_of_orders rfl
  books _ _ _ := keepsCurrency_of_orders rfl

theorem keepsCurrency_statements : StatementFrame KeepsCurrency where
  orders ht hle := keepsCurrency_updateOrders ht fun o hp => (hle o hp).currency
  history _ _ := keepsCurrency_of_orders rfl
  administer _ _ _ _ := keepsCurrency_of_orders rfl

theorem Written.keepsCurrency {ℓ : Commit} {upd : World → World} (h : Written ℓ upd) (w : World) :
    KeepsCurrency w (upd w) :=
  h.within keepsCurrency_system keepsCurrency_statements w

/-! ## Processes -/

/-- What every step of a run leaves of the orders. -/
def OrdersKept (w w' : World) : Prop := RowsEvolve w w' ∧ KeepsCurrency w w'

theorem Written.ordersKept {ℓ : Commit} {upd : World → World} (h : Written ℓ upd) (w : World) :
    OrdersKept w (upd w) :=
  ⟨h.rowsEvolve w, h.keepsCurrency w⟩

/-- The discipline of a request: the orders are kept, and a payment is settled as it should be. -/
def settling (req : AnyRequest) : Discipline World Commit where
  inv := CurrencyNamed
  ok _ _ := True
  rely _ := RowsEvolve
  guar _ _ w w' := OrdersKept w w' ∧
    ∀ r, req = .service r → Presents r → Settles r w w'
  rely_refl _ w := Std.Refl.refl w
  rely_trans h h' := IsTrans.trans _ _ _ h h'
  inv_guar hinv _ hg := hg.1.2 hinv
  rely_guar _ _ _ hg := hg.1.1

variable {req : AnyRequest} {i : Nat}

theorem settles_refl (r : Request) (w : World) : Settles r w w where
  pays order horder hstatus order' hget hpaid := by
    obtain rfl : order = order' := Option.some.inj ((Table.get_key horder).symm.trans hget)
    exact absurd hpaid hstatus
  kept _ _ _ := unmoved_refl _ w

/-- A write to the row of the request's own event settles nothing. -/
theorem settles_ownEvent {id now : Nat} {t : Table WebhookEvent}
    {data : WebhookEvent → WebhookEvent} {hdata}
    (ht : w.webhookEvents.update (Schema.key · = id) data hdata = some t) :
    Settles (.processOne id now) w (Db.webhookEvents.set t w) where
  pays order horder hstatus order' hget hpaid := by
    obtain rfl : order = order' := Option.some.inj ((Table.get_key horder).symm.trans hget)
    exact absurd hpaid hstatus
  kept _ _ _ := by
    refine ⟨rfl, fun k hk => ?_⟩
    change t.get k = w.webhookEvents.get k
    rw [Table.get_update ht]
    cases hget : w.webhookEvents.get k with
    | none => rfl
    | some e =>
        have hother : ¬ Schema.key e = id := by
          rw [(Table.get_eq_some.mp hget).2]
          exact fun h => hk (congrArg some h.symm)
        rw [Option.map_some, decide_eq_false hother]
        rfl

theorem processEvent_settles {id now : Nat} (hcur : CurrencyNamed w)
    (h : processEvent id w = .ok ((), w')) : Settles (.processOne id now) w w' := by
  unfold processEvent at h
  simp only [query_transaction, Tx.bind_read] at h
  generalize hlock : lockedEvent id w = locked at h
  cases locked with
  | none =>
      cases h
      exact settles_refl _ _
  | some e =>
      obtain ⟨outcome, w₁, happly, hmark⟩ := Tx.bind_ok.mp h
      obtain ⟨row, w₂, hupd, hret⟩ := Tx.bind_ok.mp hmark
      cases hret
      obtain ⟨e₀, t, -, ht, -, rfl⟩ := Slot.update_ok hupd
      have hid : e.id = id := (Table.get_eq_some.mp (Option.filter_eq_some_iff.mp hlock).1).2
      have hpresented : presentedPayment (.processOne id now) w = capturedPaymentOf e.payload := by
        simp [presentedPayment, hlock]
      have hsettles : EventSettles e.payload w w₁ := applyStoredEvent_settles hcur happly
      rw [hid] at ht
      refine ⟨fun order horder hstatus order' hget hpaid => ?_, fun payment hpayment hnone => ?_⟩
      · rw [hpresented]
        exact hsettles.pays order horder hstatus order' hget hpaid
      · rw [hpresented] at hpayment
        obtain rfl := hsettles.kept payment hpayment fun order horder => hnone order horder trivial
        have hown : Settles (.processOne id now) _ _ := settles_ownEvent ht
        exact hown.kept payment (hpresented.trans hpayment) hnone

/-- A write that settles the payment of its request, in any state that a run may come to. -/
def SettlingWrite (r : Request) (_ : Commit) (upd : World → World) : Prop :=
  ∀ w, CurrencyNamed w → Settles r w (upd w)

theorem commits_safeUpdate_settling {id now : Nat} {data : WebhookEvent → WebhookEvent}
    {hdata : ∀ e, (data e).id = e.id} :
    Proc.Commits (SettlingWrite (.processOne id now)) (safeUpdate id data hdata) := by
  refine Proc.Commits.tryCatch ?_ fun _ => Proc.commits_pure _
  refine Proc.Commits.bind (commits_execute fun w _ => ?_) fun _ => Proc.commits_pure _
  cases h : (Db.webhookEvents.update id data hdata : Transaction WebhookEvent) w with
  | error e =>
      rw [Proc.applied_error h]
      exact settles_refl _ w
  | ok r =>
      obtain ⟨e', w'⟩ := r
      obtain ⟨e₀, t, -, ht, -, hw⟩ := Slot.update_ok h
      rw [Proc.applied_ok h, hw]
      exact settles_ownEvent ht

theorem settlingWrite_processEvent (id now : Nat) :
    SettlingWrite (.processOne id now) (.processWebhook id) (Proc.applied (processEvent id)) := by
  intro w hcur
  cases h : processEvent id w with
  | error e =>
      rw [Proc.applied_error h]
      exact settles_refl _ w
  | ok r =>
      obtain ⟨⟨⟩, w'⟩ := r
      rw [Proc.applied_ok h]
      exact processEvent_settles hcur h

theorem commits_processOne_settling (id now : Nat) :
    Proc.Commits (SettlingWrite (.processOne id now)) (processOne id now) := by
  apply (Proc.commits_attempt (settlingWrite_processEvent id now)).bind
  rintro ⟨attempts, result⟩
  dsimp only
  split
  · exact Proc.commits_pure _
  · split
    · exact commits_safeUpdate_settling
    · split
      · exact commits_safeUpdate_settling
      · split
        · exact commits_safeUpdate_settling
        · exact commits_safeUpdate_settling

/-- Where no payment is presented, no order is to be paid. -/
theorem settles_of_unpaid {r : Request} (hnone : presentedPayment r w = none)
    (h : PaidWithin (fun _ => False) w w') : Settles r w w' where
  pays _ ho hstatus _ hget hpaid := (h.mem ho hstatus hget hpaid).elim
  kept payment hpayment _ := by
    rw [hnone] at hpayment
    cases hpayment

theorem commits_maybeFailStale_settling {r : Request} (hnone : ∀ w, presentedPayment r w = none)
    (order : Order) (ageMinutes : Nat) :
    Proc.Commits (SettlingWrite r) (maybeFailStale order ageMinutes) := by
  unfold maybeFailStale
  split
  · exact Proc.commits_pure _
  · refine Proc.Commits.bind ?_ fun _ => Proc.commits_pure _
    refine Proc.Commits.tryCatch (Proc.commits_transact fun w _ => ?_) fun err => ?_
    · exact settles_of_unpaid (hnone w)
        (applied_within (R := PaidWithin _) (paidWithin_expirePendingOrder order) w)
    · split
      · exact Proc.commits_pure _
      · exact Proc.commits_throw _

/-- A process whose writes are listed and settle its payment keeps the discipline. -/
theorem safe_settling {r : Request} {p : Service α} (hwritten : p.Commits Written)
    (hsettling : p.Commits (SettlingWrite r)) :
    (settling (.service r)).Safe i (fun _ _ => True) p w := by
  refine Discipline.safe_of_within ((hwritten.within fun ℓ upd w h => h.ordersKept w).and
    (hsettling.within (G := fun _ w w' => CurrencyNamed w → Settles r w w') fun ℓ upd w h => h w))
    fun ℓ w w' hinv _ hg => ⟨hg.1, fun r' he _ => ?_⟩
  cases he
  exact hg.2 hinv

/-- What has been checked of an order that was read earlier holds of its row. -/
theorem paysFor_later {order : Order} {captured : RazorpayOrderPayment} {id : String}
    (horder : order ∈ w.orders) (hcur : CurrencyNamed w) (hlater : RowsEvolve w w')
    (hid : truthy order.razorpayOrderId = some id)
    (hmatch : capturedPaymentMismatch order
      ⟨captured.razorpayOrderId, captured.amountPaise, captured.currency⟩ = none) :
    ∃ row ∈ w'.orders, row.id = order.id ∧ PaysFor captured.presented row := by
  obtain ⟨row, hrow, hle⟩ := hlater.orders.get (Table.get_key horder)
  obtain ⟨hmem, hkey⟩ := Table.get_eq_some.mp hrow
  obtain ⟨hsame, hcurrency, hamount⟩ := capturedPaymentMismatch_none hmatch (hcur order horder)
  have hnamed : order.razorpayOrderId = some id := (Option.filter_eq_some_iff.mp hid).1
  refine ⟨row, hmem, hkey, ?_, ?_, ?_⟩
  · rw [hle.total]
    exact congrArg some hamount
  · rw [hle.currency]
    exact hcurrency
  · rw [hle.razorpayOrderId (by simp [hnamed]), hnamed]
    exact congrArg some (hsame id hid).symm

/-- The payment that reconciliation has checked pays the order it was checked against. -/
theorem recordReconciled_settles {r : Request} {order row : Order} {captured : RazorpayOrderPayment}
    (hpresented : presentedPayment r w = some captured.presented) (hrow : row ∈ w.orders)
    (hid : row.id = order.id) (hconcerns : Concerns r row)
    (hpays : PaysFor captured.presented row) :
    Settles r w (Proc.applied (recordReconciled order captured) w) := by
  have hwithin : PaidWithin (· = order.id) w (Proc.applied (recordReconciled order captured) w) :=
    applied_within (paidWithin_recordReconciled (by rfl) captured) w
  refine ⟨fun o ho hstatus o' hget hpaid => ?_, fun payment hpayment hnone => ?_⟩
  · have hsame : o = row :=
      Table.eq_of_key ho hrow ((hwithin.mem ho hstatus hget hpaid).trans hid.symm)
    exact ⟨_, hpresented, hsame ▸ hpays⟩
  · obtain rfl : captured.presented = payment := Option.some.inj (hpresented.symm.trans hpayment)
    exact absurd hpays (hnone row hrow hconcerns)

theorem safe_reconcileCapturedPayment {orderId ageMinutes : Nat}
    {payments : Option (List RazorpayOrderPayment)} {order : Order}
    {captured : RazorpayOrderPayment} {id : String} (horder : order ∈ w.orders)
    (hcur : CurrencyNamed w) (hkey : order.id = orderId)
    (hid : truthy order.razorpayOrderId = some id)
    (hfind : payments.bind (·.find? fun p => p.status = "captured" || p.captured) =
      some captured) :
    (settling (.service (.reconcileOne orderId ageMinutes payments))).Safe i (fun _ _ => True)
      (reconcileCapturedPayment order captured) w := by
  unfold reconcileCapturedPayment
  split
  · exact Discipline.safe_done fun _ _ _ => trivial
  · next hmatch =>
    rw [Proc.tryCatch_def]
    have hwrite : ∀ w', RowsEvolve w w' →
        OrdersKept w' (Proc.applied (recordReconciled order captured) w') ∧
          Settles (.reconcileOne orderId ageMinutes payments) w'
            (Proc.applied (recordReconciled order captured) w') := by
      intro w' hlater
      obtain ⟨row, hrow, hrowid, hpays⟩ := paysFor_later horder hcur hlater hid hmatch
      refine ⟨(Written.reconcileCapturedPayment order captured).ordersKept w', ?_⟩
      refine recordReconciled_settles ?_ hrow hrowid (hrowid.trans hkey) hpays
      exact congrArg (Option.map RazorpayOrderPayment.presented) hfind
    refine Discipline.safe_transact (fun w₁ result w₂ hl _ _ htx => ?_)
      (fun w₁ err hl _ _ htx => ?_)
    · have hguar := hwrite w₁ hl
      rw [Proc.applied_ok htx] at hguar
      refine ⟨⟨hguar.1, fun r he _ => ?_⟩, fun _ => Discipline.safe_done fun _ _ _ => trivial⟩
      cases he
      exact hguar.2
    · have hguar := hwrite w₁ hl
      rw [Proc.applied_error htx] at hguar
      refine ⟨⟨hguar.1, fun r he _ => ?_⟩, ?_⟩
      · cases he
        exact hguar.2
      · simp only [Proc.onError]
        split
        · exact Discipline.safe_done fun _ _ _ => trivial
        · exact Discipline.safe_done fun _ _ _ => trivial

theorem safe_reconcileOne (orderId ageMinutes : Nat)
    (payments : Option (List RazorpayOrderPayment)) :
    (settling (.service (.reconcileOne orderId ageMinutes payments))).Safe i (fun _ _ => True)
      (reconcileOne orderId ageMinutes payments) w := by
  unfold reconcileOne
  refine Discipline.safe_read fun w₁ _hlater hcur => ?_
  simp only [Proc.onResult]
  split
  · next order payments' horder =>
    obtain ⟨hcandidate, hsome⟩ := Option.filter_eq_some_iff.mp horder
    obtain ⟨id, hid⟩ := Option.isSome_iff_exists.mp hsome
    obtain ⟨hmem, hkey⟩ := Table.get_eq_some.mp (Option.filter_eq_some_iff.mp hcandidate).1
    split
    · next captured hfind =>
      refine Discipline.Safe.bind (K := fun _ => True)
        (safe_reconcileCapturedPayment hmem hcur hkey hid hfind) hcur fun _ _ _ _ => ?_
      exact Discipline.safe_done fun _ _ _ => trivial
    · next hnone =>
      split
      · exact Discipline.safe_done fun _ _ _ => trivial
      · refine safe_settling ((@commits_maybeFailStale none order ageMinutes).mono
          fun _ _ hordinary => hordinary.plain.written) ?_
        refine commits_maybeFailStale_settling (fun w => ?_) order ageMinutes
        exact congrArg (Option.map RazorpayOrderPayment.presented) hnone
  · exact Discipline.safe_done fun _ _ _ => trivial

/-- Every request keeps its discipline. -/
theorem settling_handleAny (gateway : Gateway) (n : Nat) (req : AnyRequest) (w : World)
    (hcur : CurrencyNamed w) :
    (settling req).Safe i (fun _ _ => True) (handleAny gateway n req) w := by
  by_cases hpresents : ∃ r, req = .service r ∧ Presents r
  · obtain ⟨r, rfl, hr⟩ := hpresents
    cases hr with
    | processOne id now =>
        exact safe_settling (commits_handleAny n _)
          ((commits_processOne_settling id now).bind fun _ => Proc.commits_pure _)
    | reconcileOne orderId ageMinutes payments =>
        refine Discipline.Safe.bind (K := fun _ => True)
          (safe_reconcileOne orderId ageMinutes payments) hcur fun _ _ _ _ => ?_
        exact Discipline.safe_done fun _ _ _ => trivial
  · refine Discipline.safe_of_within ((commits_handleAny n req).within fun ℓ upd w h =>
      h.ordersKept w) fun ℓ w w' _ _ hg => ⟨hg, fun r he hr => ?_⟩
    exact absurd ⟨r, he, hr⟩ hpresents

/-! ## Runs -/

section Runs

variable {gateway : Gateway} {paymentAccounts : Table PaymentAccount} {stores : Table Store}
variable {users : Table User} {c c' : HostileConfig}

theorem currencyNamed_of_run (hrun : ReachesAny gateway (.initial paymentAccounts stores users) c) :
    CurrencyNamed c.state :=
  listed_idle.invariant commits_handleAny (fun _ h => absurd h (Table.not_mem_empty _))
    (fun _ _ w hwrite _ hw => hwrite.keepsCurrency w hw) hrun

theorem rowsEvolve_of_step (hrun : ReachesAny gateway (.initial paymentAccounts stores users) c)
    (hstep : Step (handleAny gateway) (fun _ _ => True) (fun _ _ => True) c c') :
    RowsEvolve c.state c'.state := by
  have hlisted : Listed Written c := listed_idle.run commits_handleAny hrun
  obtain ⟨-, hsame | ⟨ℓ, upd, hwrite, -, hw⟩⟩ := hlisted.step commits_handleAny hstep
  · rw [hsame]
    exact Std.Refl.refl _
  · rw [hw]
    exact hwrite.rowsEvolve _

/-- In every run, whatever payloads are stored and whatever payments Razorpay reports, no action
of the processor or of a reconciliation pays an order but by a captured payment that has the
order's amount, currency and Razorpay order, and with a captured payment that is for none of the
orders it could pay it changes nothing but the row of its own event. -/
theorem only_matching_payment_pays (gateway : Gateway) (paymentAccounts : Table PaymentAccount)
    (stores : Table Store) (users : Table User) {c : HostileConfig} {i : Nat} {req : Request}
    {p p' : Service Response} {w' : World}
    (hrun : ReachesAny gateway (.initial paymentAccounts stores users) c)
    (hi : c.flights[i]? = some (.service req, p)) (hpresents : Presents req)
    (hp : p.step c.state = some (p', w')) : Settles req c.state w' := by
  have hsafe : (settling (.service req)).Safe i (fun _ _ => True) p c.state :=
    Discipline.safe_of_run (R := settling) (fun _ _ _ => trivial)
      (fun _ hbefore _ => currencyNamed_of_run hbefore)
      (fun _ _ hbefore hstep _ _ => rowsEvolve_of_step hbefore hstep)
      (fun _ req w hcur => settling_handleAny gateway _ req w hcur) hrun hi
  obtain ⟨-, rfl | ⟨ℓ, -, hguar⟩⟩ :=
    hsafe.step (currencyNamed_of_run hrun) (fun _ => trivial) hp
  · exact settles_refl _ _
  · exact hguar req rfl hpresents

/-- An order that waits for a payment, and a stored event of that payment. -/
def exampleEvent (event : String) (amount : Int) : List (Action AnyRequest) :=
  serveAny 0 (.service (.checkout ⟨"PF-1", 0, 0, some 0, ⟨10000, -2⟩⟩)) 1 ++
    serveAny 1 (.service (.initiatePayment 0 0 (.ok "order_1"))) 7 ++
    serveAny 2 (.store "event" ⟨event,
      some ⟨"pay_1", "order_1", some amount, none, none, none, none⟩, none, none⟩ none 0) 1

/-- The processing of the event is about to pay an order. -/
def aboutToPay (c : HostileConfig) : AnyRequest × Service Response → Bool
  | (.service (.processOne 0 0), p) => (p.step c.state).any fun (_, w') =>
      decide (∃ order ∈ c.state.orders.rows, order.status = .pendingPayment ∧
        ∃ order' ∈ w'.orders.rows, order'.id = order.id ∧ order'.status = .paid)
  | _ => false

/-- A captured event with the amount of the order pays it. -/
theorem only_matching_payment_pays_captured : ∃ (c : HostileConfig) (w' : World),
    (∃ order ∈ c.state.orders.rows, order.status = .pendingPayment ∧
      ∃ order' ∈ w'.orders.rows, order'.id = order.id ∧ order'.status = .paid) ∧
    Settles (.processOne 0 0) c.state w' := by
  have hexec : (exec (handleAny exampleGateway) (fun _ _ => True) (fun _ _ => True)
      (exampleEvent capturedEvent 10000 ++ [.accept (.service (.processOne 0 0))])
      (HostileConfig.initial exampleAccounts exampleStores exampleUsers)).any (fun c =>
        (c.flights[3]?).any (aboutToPay c)) = true := by
    decide +kernel
  obtain ⟨c, hrun, h⟩ := exec_any hexec
  obtain ⟨flight, hi, h⟩ := (Option.any_eq_true ..).mp h
  unfold aboutToPay at h
  split at h
  · obtain ⟨⟨p', w'⟩, hp, h⟩ := (Option.any_eq_true ..).mp h
    exact ⟨c, w', of_decide_eq_true h, only_matching_payment_pays exampleGateway exampleAccounts
      exampleStores exampleUsers hrun hi (.processOne 0 0) hp⟩
  · cases h

/-- A failed event with another amount than the order's closes the attempt and fails the order. -/
theorem failed_payment_unchecked :
    ¬ ∀ (gateway : Gateway) (paymentAccounts : Table PaymentAccount) (stores : Table Store)
      (users : Table User) (c : HostileConfig) (id : Nat) (e : WebhookEvent)
      (paymentEntity : RazorpayPaymentEntity),
        ReachesAny gateway (.initial paymentAccounts stores users) c →
          lockedEvent id c.state = some e → e.payload.payment = some paymentEntity →
            (∀ order ∈ c.state.orders, ¬ PaysFor paymentEntity.presented order) →
              Unmoved (some id) c.state (Proc.applied (processEvent id) c.state) := by
  have hexec : (exec (handleAny exampleGateway) (fun _ _ => True) (fun _ _ => True)
      (exampleEvent failedEvent 1)
      (HostileConfig.initial exampleAccounts exampleStores exampleUsers)).any
      (fun c => (lockedEvent 0 c.state).any fun e => e.payload.payment.any fun paymentEntity =>
        decide ((∀ order ∈ c.state.orders.rows, ¬ PaysFor paymentEntity.presented order) ∧
          (Proc.applied (processEvent 0) c.state).orders.rows ≠ c.state.orders.rows)) = true := by
    decide +kernel
  obtain ⟨c, hrun, h⟩ := exec_any hexec
  obtain ⟨e, he, h⟩ := (Option.any_eq_true ..).mp h
  obtain ⟨paymentEntity, hpayment, h⟩ := (Option.any_eq_true ..).mp h
  obtain ⟨hnone, hmoved⟩ := of_decide_eq_true h
  intro hall
  have hrest := (hall exampleGateway _ _ _ c 0 e paymentEntity hrun he hpayment hnone).rest
  exact hmoved (congrArg (fun w => w.orders.rows) hrest)

end Runs

end PrintForge
