import PrintForge.Payments.OrderGuarantees

/-!
# The order in which webhooks arrive

Payment events about one pending order, delivered in any order and any number of times. An
order is settled by the first delivery that takes effect. From then on it is not pending any
more, and a transition out of pending is all a payment event can make.

A capture always takes effect. A failure does not when the notice of an earlier failure of the
order is out, nor when the payment has failed before.
-/

namespace PrintForge

open Relational Concurrent Function

variable {gateway : Gateway} {w w' : World} {order : Order}
variable {payload : RazorpayWebhookPayload} {paymentEntity : RazorpayPaymentEntity}

/-- Apply an event in a transaction of its own, which does nothing where it fails. -/
def deliverEvent (w : World) (payload : RazorpayWebhookPayload) : World :=
  match applyWebhookEvent payload w with
  | .ok (_, w') => w'
  | .error _ => w

def deliverAll (w : World) (payloads : List RazorpayWebhookPayload) : World :=
  payloads.foldl deliverEvent w

/-- A genuine event about a payment of the order: a failure, or a capture of the payment the
order is waiting for. -/
structure PaymentEvent (gateway : Gateway) (order : Order) (payload : RazorpayWebhookPayload) :
    Prop where
  genuine : payload.Genuine gateway
  payment : ∃ paymentEntity ∈ payload.payment,
    order.razorpayOrderId = some paymentEntity.orderId ∧ paymentEntity.amount.isSome = true ∧
      (payload.event = capturedEvent ∧ Matches order paymentEntity ∨ payload.event = failedEvent)

instance (gateway : Gateway) (order : Order) (payload : RazorpayWebhookPayload) :
    Decidable (PaymentEvent gateway order payload) :=
  decidable_of_iff ((∀ payment ∈ payload.payment, gateway.orderOf payment.id = payment.orderId) ∧
      ∃ paymentEntity ∈ payload.payment, _)
    ⟨fun h => ⟨h.1, h.2⟩, fun h => ⟨h.genuine, h.payment⟩⟩

/-- The event changes a pending order. -/
def TakesEffect (w : World) (o : Nat) (payload : RazorpayWebhookPayload) : Prop :=
  payload.event = capturedEvent ∨
    ((∀ n ∈ w.outboxEvents, n.eventKey ≠ ⟨o, .orderStatusChanged .paymentFailed⟩) ∧
      ∀ paymentEntity ∈ payload.payment, ¬ Closed w paymentEntity)

instance (w : World) (o : Nat) (payload : RazorpayWebhookPayload) :
    Decidable (TakesEffect w o payload) :=
  inferInstanceAs (Decidable (_ ∨ (∀ n ∈ w.outboxEvents.rows, _) ∧ _))

def RazorpayWebhookPayload.orderStatus (payload : RazorpayWebhookPayload) : OrderStatus :=
  if payload.event = capturedEvent then .paid else .paymentFailed

/-- The status that a list of deliveries gives a pending order. -/
def settledStatus (w : World) (o : Nat) (payloads : List RazorpayWebhookPayload) : OrderStatus :=
  ((payloads.find? (TakesEffect w o)).map (·.orderStatus)).getD .pendingPayment

/-! ## One delivery -/

/-- The event is acted on for its order. -/
theorem PaymentEvent.target (h : PaymentEvent gateway order payload) (horder : order ∈ w.orders) :
    ∃ paymentEntity, eventTarget w none payload = some (order, paymentEntity) ∧
      paymentEntity.amount.isSome = true ∧
      (payload.event = capturedEvent → Matches order paymentEntity) := by
  obtain ⟨p, hp, hrzp, hamount, hevent⟩ := h.payment
  refine ⟨p, eventTarget_eq_some.mpr ⟨?_, ?_, rfl⟩, hamount, fun he => ?_⟩
  · rw [paymentOf, Option.filter_eq_some_iff]
    refine ⟨hp, ?_⟩
    obtain ⟨he, -⟩ | he := hevent <;> simp [he]
  · cases hfound : w.orders.findFirst fun o => o.razorpayOrderId = some p.orderId with
    | none =>
        have := Table.findFirst_none hfound order horder
        simp [hrzp] at this
    | some order' =>
        obtain ⟨hmem, hrow⟩ := Table.findFirst_some hfound
        have hrow : order'.razorpayOrderId = some p.orderId := by simpa using hrow
        rw [Table.eq_of_clash hmem horder ⟨hrow.trans hrzp.symm, by simp [hrow]⟩]
  · obtain ⟨-, hm⟩ | he' := hevent
    · exact hm
    · rw [he] at he'
      simp [capturedEvent, failedEvent] at he'

/-- A delivery either changes nothing or acts on the order it is about. -/
theorem deliverEvent_cases (hattr : Attributed gateway w) (hgenuine : payload.Genuine gateway)
    (ht : eventTarget w none payload = some (order, paymentEntity)) :
    (∃ err, EventError payload.event order paymentEntity w err ∧ deliverEvent w payload = w) ∨
      (EventPosts payload.event order paymentEntity w (deliverEvent w payload) ∧
        Applied payload.event paymentEntity order.id (deliverEvent w payload) ∧
        Keeps (eventGrants order paymentEntity) w (deliverEvent w payload)) := by
  have hown : OwnPayment w order paymentEntity := (hattr.ownPayment hgenuine ht).2.2
  unfold deliverEvent
  rw [applyWebhookEvent_target ht]
  cases happly : (findOrCreateAttemptFor none order paymentEntity >>= fun attempt =>
      applyPaymentEvent payload.event order attempt paymentEntity) w with
  | error err => exact .inl ⟨err, actOnEvent_error happly, rfl⟩
  | ok result =>
      obtain ⟨outcome, w'⟩ := result
      obtain ⟨attempt, w₁, hfind, hrest⟩ := Tx.bind_ok.mp happly
      cases actOnEvent_ok ht hown hfind hrest with
      | untouched hnone _ _ _ => simp [ht] at hnone
      | acted o p ht' hp ha hk hr =>
          obtain ⟨rfl, rfl⟩ := Prod.mk.inj (Option.some.inj (ht.symm.trans ht'))
          exact .inr ⟨hp, ha, hk⟩

/-- A delivery keeps payment ids with the orders they belong to. -/
theorem deliverEvent_attributed (hattr : Attributed gateway w)
    (hevent : PaymentEvent gateway order payload) (horder : order ∈ w.orders) :
    Attributed gateway (deliverEvent w payload) := by
  obtain ⟨p, ht, -, -⟩ := hevent.target horder
  obtain ⟨err, -, hw⟩ | ⟨-, -, hk⟩ := deliverEvent_cases hattr hevent.genuine ht
  · rw [hw]
    exact hattr
  · refine hk.attributed hattr ?_
    rintro k o q ⟨rfl, rfl⟩
    exact ⟨order, Table.get_key horder, (hattr.ownPayment hevent.genuine ht).2.1⟩

/-- The first delivery that takes effect settles a pending order. -/
theorem deliverEvent_settles (hattr : Attributed gateway w)
    (hevent : PaymentEvent gateway order payload) (horder : order ∈ w.orders)
    (hpending : order.status = .pendingPayment) (hopen : ¬ (ledger w order.id).captured.Nonempty)
    (hnotice : .orderPaid ∉ (ledger w order.id).notices)
    (heffect : TakesEffect w order.id payload) :
    (ledger (deliverEvent w payload) order.id).status = some payload.orderStatus := by
  obtain ⟨p, ht, hamount, hmatch⟩ := hevent.target horder
  have hp : p ∈ payload.payment := (Option.filter_eq_some_iff.mp (eventTarget_eq_some.mp ht).1).1
  have hstatus : (ledger w order.id).status = some .pendingPayment := by
    rw [← hpending]
    exact ledger_status_of_mem horder
  unfold RazorpayWebhookPayload.orderStatus
  obtain ⟨err, herr, -⟩ | ⟨hposts, happlied, -⟩ := deliverEvent_cases hattr hevent.genuine ht
  · -- nothing stands in the way of an event that takes effect
    exfalso
    cases herr with
    | unknown _ hf => exact hf (.inl hamount)
    | mismatch he _ hm => exact hm (hmatch he)
    | captured _ _ _ hc =>
        rw [ownerFor_own (hattr.ownPayment hevent.genuine ht).2.2] at hc
        exact hc.elim hopen fun h => hnotice h.2
    | terminal _ _ hs => exact hs hpending
    | repeated he _ _ hn _ _ =>
        obtain ⟨n, hn, hkey⟩ := hn
        obtain he' | ⟨hfresh, -⟩ := heffect
        · exact he he'
        · exact hfresh n hn hkey
  · cases hposts with
    | duplicate h hc _ _ =>
        exfalso
        obtain he | ⟨-, hnot⟩ := heffect
        · rw [Applied, if_pos he] at happlied
          obtain ⟨hstep, -⟩ := h
          generalize ledger (deliverEvent w payload) order.id = L at hstep happlied
          cases hstep
          exact hopen happlied
        · exact hnot p hp hc
    | late _ _ h =>
        obtain ⟨hstep, -⟩ := h
        generalize ledger (deliverEvent w payload) order.id = L at hstep
        cases hstep with
        | lateCapture _ hs hne _ => exact absurd (Option.some.inj (hs.symm.trans hstatus)) hne
    | paid he _ h =>
        rw [if_pos he]
        obtain ⟨hstep, -⟩ := h
        generalize ledger (deliverEvent w payload) order.id = L at hstep ⊢
        cases hstep
        rfl
    | failed he _ _ h =>
        rw [if_neg he]
        obtain ⟨hstep, -⟩ := h
        generalize ledger (deliverEvent w payload) order.id = L at hstep ⊢
        cases hstep
        rfl

/-- A delivery without effect leaves everything the next one depends on. -/
theorem deliverEvent_idle (hattr : Attributed gateway w)
    (hevent : PaymentEvent gateway order payload) (horder : order ∈ w.orders)
    (heffect : ¬ TakesEffect w order.id payload) :
    (deliverEvent w payload).orders = w.orders ∧
      (deliverEvent w payload).paymentAttempts = w.paymentAttempts ∧
      ledger (deliverEvent w payload) order.id = ledger w order.id := by
  obtain ⟨hnot, hnoeffect⟩ := not_or.mp heffect
  obtain ⟨p, ht, -, -⟩ := hevent.target horder
  have hp : p ∈ payload.payment := (Option.filter_eq_some_iff.mp (eventTarget_eq_some.mp ht).1).1
  obtain ⟨err, -, hw⟩ | ⟨hposts, -, -⟩ := deliverEvent_cases hattr hevent.genuine ht
  · rw [hw]
    exact ⟨rfl, rfl, rfl⟩
  · cases hposts with
    | duplicate h _ ho ha =>
        refine ⟨ho, ha, ?_⟩
        obtain ⟨hstep, -⟩ := h
        generalize ledger (deliverEvent w payload) order.id = L at hstep ⊢
        cases hstep
        rfl
    | late he _ _ => exact absurd he hnot
    | paid he _ _ => exact absurd he hnot
    | failed _ hc _ h =>
        obtain ⟨hstep, -⟩ := h
        generalize ledger (deliverEvent w payload) order.id = L at hstep
        cases hstep with
        | move _ _ hn =>
            refine absurd ⟨fun n hmem hkey => hn ⟨n, hmem, hkey⟩, fun q hq => ?_⟩ hnoeffect
            obtain rfl : p = q := Option.some.inj (hp.symm.trans hq)
            exact hc

/-- An order that is not pending keeps its status. -/
theorem deliverEvent_settled (hattr : Attributed gateway w)
    (hevent : PaymentEvent gateway order payload) (horder : order ∈ w.orders)
    (hsettled : order.status ≠ .pendingPayment) :
    (ledger (deliverEvent w payload) order.id).status = some order.status := by
  obtain ⟨p, ht, -, -⟩ := hevent.target horder
  have hstatus : (ledger w order.id).status = some order.status :=
    ledger_status_of_mem horder
  obtain ⟨err, -, hw⟩ | ⟨hposts, -, -⟩ := deliverEvent_cases hattr hevent.genuine ht
  · rw [hw, hstatus]
  · cases hposts with
    | duplicate h _ _ _ =>
        obtain ⟨hstep, -⟩ := h
        generalize ledger (deliverEvent w payload) order.id = L at hstep ⊢
        cases hstep
        exact hstatus
    | late _ _ h =>
        obtain ⟨hstep, -⟩ := h
        generalize ledger (deliverEvent w payload) order.id = L at hstep ⊢
        cases hstep
        exact hstatus
    | paid _ _ h =>
        obtain ⟨hstep, -⟩ := h
        generalize ledger (deliverEvent w payload) order.id = L at hstep
        cases hstep with
        | pay _ hp _ _ => exact absurd (Option.some.inj (hstatus.symm.trans hp)) hsettled
    | failed _ _ _ h =>
        obtain ⟨hstep, -⟩ := h
        generalize ledger (deliverEvent w payload) order.id = L at hstep
        cases hstep with
        | move hs hallowed _ =>
            obtain rfl := Option.some.inj (hstatus.symm.trans hs)
            exact absurd (isTransitionAllowed_paymentFailed.mp hallowed) hsettled

/-! ## Any number of deliveries -/

/-- What an order is waiting for does not change. -/
theorem PaymentEvent.later {order' : Order} (h : PaymentEvent gateway order payload)
    (hle : order.Le order') : PaymentEvent gateway order' payload := by
  obtain ⟨p, hp, hrzp, hamount, hevent⟩ := h.payment
  have hrzp' : order'.razorpayOrderId = order.razorpayOrderId :=
    hle.razorpayOrderId (by simp [hrzp])
  refine ⟨h.genuine, p, hp, hrzp'.trans hrzp, hamount, hevent.imp_left fun he => ⟨he.1, ?_⟩⟩
  obtain ⟨n, hn, hm⟩ := he.2
  refine ⟨n, hn, ?_⟩
  rw [← hm]
  simp only [capturedPaymentMismatch, hrzp', hle.currency, hle.total]

theorem deliverEvent_order (hattr : Attributed gateway w)
    (hevent : PaymentEvent gateway order payload) (horder : order ∈ w.orders) :
    ∃ order' ∈ (deliverEvent w payload).orders, order'.id = order.id ∧ order.Le order' := by
  obtain ⟨p, ht, -, -⟩ := hevent.target horder
  obtain ⟨err, -, hw⟩ | ⟨-, -, hk⟩ := deliverEvent_cases hattr hevent.genuine ht
  · rw [hw]
    exact ⟨order, horder, rfl, Std.Refl.refl _⟩
  · obtain ⟨order', hmem, hid, hle⟩ := hk.orders order horder
    exact ⟨order', hmem, hid, hle⟩

theorem deliverAll_settled {payloads : List RazorpayWebhookPayload}
    (hattr : Attributed gateway w) (hevents : ∀ e ∈ payloads, PaymentEvent gateway order e)
    (horder : order ∈ w.orders) (hsettled : order.status ≠ .pendingPayment) :
    (ledger (deliverAll w payloads) order.id).status = some order.status := by
  induction payloads generalizing w order with
  | nil => exact ledger_status_of_mem horder
  | cons e es ih =>
      have he := hevents e (List.mem_cons_self ..)
      obtain ⟨order', hmem, hid, hle⟩ := deliverEvent_order hattr he horder
      have hstatus : order'.status = order.status := by
        have h := deliverEvent_settled hattr he horder hsettled
        rw [← hid, ledger_status_of_mem hmem] at h
        exact Option.some.inj h
      have h := ih (deliverEvent_attributed hattr he horder)
        (fun e' he' => (hevents e' (List.mem_cons_of_mem _ he')).later hle) hmem
        (hstatus ▸ hsettled)
      rw [hid, hstatus] at h
      exact h

/-- A pending order without a captured payment, and with its payment ids in order. -/
structure Waiting (gateway : Gateway) (w : World) (order : Order) : Prop where
  attributed : Attributed gateway w
  placed : order ∈ w.orders
  pending : order.status = .pendingPayment
  notCaptured : ¬ (ledger w order.id).captured.Nonempty
  notAnnounced : .orderPaid ∉ (ledger w order.id).notices

theorem orderStatus_ne_pending (payload : RazorpayWebhookPayload) :
    payload.orderStatus ≠ .pendingPayment := by
  unfold RazorpayWebhookPayload.orderStatus
  split <;> decide

theorem takesEffect_congr {o : Nat} (ha : w'.paymentAttempts = w.paymentAttempts)
    (hl : ledger w' o = ledger w o) : TakesEffect w' o = TakesEffect w o := by
  funext payload
  have hnotice : (∀ n ∈ w'.outboxEvents, n.eventKey ≠ ⟨o, .orderStatusChanged .paymentFailed⟩) ↔
      ∀ n ∈ w.outboxEvents, n.eventKey ≠ ⟨o, .orderStatusChanged .paymentFailed⟩ := by
    have h : .orderStatusChanged .paymentFailed ∈ (ledger w' o).notices ↔
        .orderStatusChanged .paymentFailed ∈ (ledger w o).notices := by rw [hl]
    simpa [mem_notices] using not_congr h
  simp only [TakesEffect, Closed, ha, hnotice]

theorem deliverAll_pending {payloads : List RazorpayWebhookPayload}
    (hw : Waiting gateway w order) (hevents : ∀ e ∈ payloads, PaymentEvent gateway order e) :
    (ledger (deliverAll w payloads) order.id).status =
      some (settledStatus w order.id payloads) := by
  induction payloads generalizing w with
  | nil =>
      rw [settledStatus, List.find?_nil, ← hw.pending]
      exact ledger_status_of_mem hw.placed
  | cons e es ih =>
      have he := hevents e (List.mem_cons_self ..)
      have hes : ∀ e' ∈ es, PaymentEvent gateway order e' := fun e' he' =>
        hevents e' (List.mem_cons_of_mem _ he')
      have hattr := deliverEvent_attributed hw.attributed he hw.placed
      by_cases heffect : TakesEffect w order.id e
      · -- settled now, and for good
        have hsettled := deliverEvent_settles hw.attributed he hw.placed hw.pending
          hw.notCaptured hw.notAnnounced heffect
        obtain ⟨order', hmem, hid, hle⟩ := deliverEvent_order hw.attributed he hw.placed
        have hstatus : order'.status = e.orderStatus := by
          rw [← hid, ledger_status_of_mem hmem] at hsettled
          exact Option.some.inj hsettled
        have h := deliverAll_settled hattr (fun e' he' => (hes e' he').later hle) hmem
          (hstatus ▸ orderStatus_ne_pending e)
        rw [hid, hstatus] at h
        rw [settledStatus, List.find?_cons_of_pos (by simpa using heffect)]
        exact h
      · obtain ⟨ho, ha, hl⟩ := deliverEvent_idle hw.attributed he hw.placed heffect
        have h := ih ⟨hattr, ho ▸ hw.placed, hw.pending, hl ▸ hw.notCaptured,
          hl ▸ hw.notAnnounced⟩ hes
        have hsame : settledStatus w order.id (e :: es) =
            settledStatus (deliverEvent w e) order.id es := by
          rw [settledStatus, List.find?_cons_of_neg (by simpa using heffect)]
          simp only [settledStatus, takesEffect_congr ha hl]
        rw [hsame]
        exact h

/-! ## From any reachable state -/

variable {paymentAccounts : Table PaymentAccount} {stores : Table Store} {users : Table User}

/-- The status of an order after a list of deliveries. -/
def statusAfter (w : World) (o : Nat) (payloads : List RazorpayWebhookPayload) :
    Option OrderStatus :=
  ((deliverAll w payloads).orders.get o).map (·.status)

/-- A pending order without a captured payment ends in the status that the first delivery to
take effect gives it, whatever is delivered after that and however often. -/
theorem status_after_deliveries {c : PaymentConfig} {payloads : List RazorpayWebhookPayload}
    (hrun : Reaches gateway (fun _ _ => True) (.initial paymentAccounts stores users) c)
    (horder : order ∈ c.state.orders) (hpending : order.status = .pendingPayment)
    (hopen : ¬ OrderCaptured c.state order.id)
    (hevents : ∀ e ∈ payloads, PaymentEvent gateway order e) :
    statusAfter c.state order.id payloads = some (settledStatus c.state order.id payloads) := by
  have hinv : BooksInv gateway c.state := (holds_of_reaches hrun).inv
  have hopen : ¬ (ledger c.state order.id).captured.Nonempty :=
    fun h => hopen (captured_nonempty.mp h)
  exact deliverAll_pending ⟨hinv.attributed, horder, hpending, hopen,
    fun h => hopen (hinv.announced _ h)⟩ hevents

/-- Repeated or late, a delivery leaves the status to the first. -/
theorem status_after_deliveries_repeated :
    ∃ (c : PaymentConfig) (order : Order) (captured failed : RazorpayWebhookPayload),
      [captured.event, failed.event] = [capturedEvent, failedEvent] ∧
      statusAfter c.state order.id [captured, failed, captured] = some .paid ∧
      statusAfter c.state order.id [failed, captured, failed] = some .paymentFailed := by
  have hrun : (follow (fun _ _ => True) exampleOrder exampleStart).any (fun c =>
      c.state.orders.rows.any fun order => (exampleParse "captured pay_2").any fun captured =>
        (exampleParse "failed pay_1").any fun failed => decide
          (order.status = .pendingPayment ∧ ¬ OrderCaptured c.state order.id ∧
          [captured.event, failed.event] = [capturedEvent, failedEvent] ∧
          PaymentEvent exampleGateway order captured ∧ PaymentEvent exampleGateway order failed ∧
          settledStatus c.state order.id [captured, failed, captured] = .paid ∧
          settledStatus c.state order.id [failed, captured, failed] = .paymentFailed)) = true := by
    decide +kernel
  obtain ⟨c, hc, h⟩ := exec_any hrun
  obtain ⟨order, horder, h⟩ := List.any_eq_true.mp h
  obtain ⟨captured, -, h⟩ := (Option.any_eq_true ..).mp h
  obtain ⟨failed, -, h⟩ := (Option.any_eq_true ..).mp h
  obtain ⟨hpending, hopen, hkinds, hcaptured, hfailed, hpaid, hlost⟩ := of_decide_eq_true h
  refine ⟨c, order, captured, failed, hkinds, ?_, ?_⟩
  · rw [status_after_deliveries hc horder hpending hopen (by simp [hcaptured, hfailed]), hpaid]
  · rw [status_after_deliveries hc horder hpending hopen (by simp [hcaptured, hfailed]), hlost]

/-- Deliveries about payments of the order, of which at most one was captured and any others
failed. -/
structure OnePayment (gateway : Gateway) (order : Order)
    (payloads : List RazorpayWebhookPayload) : Prop where
  events : ∀ e ∈ payloads, PaymentEvent gateway order e
  captured : ∀ e ∈ payloads, ∀ e' ∈ payloads, e.event = capturedEvent →
    (e'.payment.map (·.id) = e.payment.map (·.id) ↔ e'.event = capturedEvent)

instance (gateway : Gateway) (order : Order) (payloads : List RazorpayWebhookPayload) :
    Decidable (OnePayment gateway order payloads) :=
  decidable_of_iff (_ ∧ _) ⟨fun h => ⟨h.1, h.2⟩, fun h => ⟨h.events, h.captured⟩⟩

/-- A capture that is delivered after the failure of another payment does not pay the order,
and one that is delivered before it does. -/
theorem status_depends_on_delivery_order :
    ¬ ∀ (gateway : Gateway) (paymentAccounts : Table PaymentAccount) (stores : Table Store)
      (users : Table User) (c : PaymentConfig) (order : Order)
      (payloads payloads' : List RazorpayWebhookPayload),
        Reaches gateway (fun _ _ => True) (.initial paymentAccounts stores users) c →
          order ∈ c.state.orders → order.status = .pendingPayment →
            (∀ a ∈ c.state.paymentAttempts, a.orderId = order.id → a.status = .initiated) →
              OnePayment gateway order payloads → (∀ e, e ∈ payloads ↔ e ∈ payloads') →
                statusAfter c.state order.id payloads =
                  statusAfter c.state order.id payloads' := by
  let payloads := ["failed pay_1", "captured pay_2"].filterMap exampleParse
  have hrun : (follow (fun _ _ => True) exampleOrder exampleStart).any (fun c =>
      c.state.orders.rows.any fun order => decide (order.status = .pendingPayment ∧
        (∀ a ∈ c.state.paymentAttempts.rows, a.orderId = order.id → a.status = .initiated) ∧
        OnePayment exampleGateway order payloads ∧ statusAfter c.state order.id payloads ≠
          statusAfter c.state order.id payloads.reverse)) = true := by
    decide +kernel
  obtain ⟨c, hc, h⟩ := exec_any hrun
  obtain ⟨order, horder, h⟩ := List.any_eq_true.mp h
  obtain ⟨hpending, hopen, hevents, hne⟩ := of_decide_eq_true h
  exact fun hall => hne (hall _ _ _ _ c order payloads payloads.reverse hc horder hpending hopen
    hevents fun e => List.mem_reverse.symm)

end PrintForge
