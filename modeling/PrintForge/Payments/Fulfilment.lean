import PrintForge.Payments.Captures

/-!
# What is fulfilled has been paid for

An order reaches the statuses in which it is made and sent by way of PAID, and two kinds of
writers make it PAID: those that record a capture, and administrators. An administrator is held
back by the transition table alone. A capture may be that of another order, since a merchant can
have an event stored that names its own order and somebody else's payment.
-/

namespace PrintForge

open Relational Concurrent

variable {gateway : Gateway} {w w' : World}
variable {paymentAccounts : Table PaymentAccount} {stores : Table Store} {users : Table User}

/-- The statuses in which an order is made, sent, delivered or refunded. -/
def fulfilledStatuses : List OrderStatus :=
  [.confirmed, .inProduction, .shipped, .delivered, .refunded]

theorem not_unpaid_of_fulfilled {s : OrderStatus} (h : s ∈ fulfilledStatuses) : ¬ s.Unpaid := by
  revert h
  cases s <;> decide

/-- An administrator sets a pending order to paid only where a payment of it is captured. -/
def PaidByHandCaptured : Commit → World → Prop
  | .adminTransitionStatus order status, w =>
      status = .paid → statusOf w order.id = some .pendingPayment → OrderCaptured w order.id
  | _, _ => True

instance (w : World) : DecidablePred fun ℓ => PaidByHandCaptured ℓ w
  | .adminTransitionStatus _ _ => inferInstanceAs (Decidable (_ → _ → _))
  | .statement | .checkout | .verifyPayment _ _ _ | .processWebhook _
  | .reconcileCapturedPayment _ | .failStalePendingOrder _ | .performCancellation _ _
  | .performRefundRecording _ | .createRefund _ | .callProvider _ _ =>
      inferInstanceAs (Decidable True)

instance (ℓ : Commit) (w : World) : Decidable (PaidByHandCaptured ℓ w) :=
  inferInstanceAs (Decidable ((fun ℓ => PaidByHandCaptured ℓ w) ℓ))

/-- A capture pays for a pending order only if it is one of its own attempts that is captured, or
one of them is captured already. -/
def PaidByOwnCapture (ℓ : Commit) (w : World) : Prop :=
  ∀ c ∈ captureOf w ℓ, statusOf w c.order.id = some .pendingPayment →
    c.owner = c.order.id ∨ OrderCaptured w c.order.id

instance (ℓ : Commit) (w : World) : Decidable (PaidByOwnCapture ℓ w) :=
  inferInstanceAs (Decidable (∀ c ∈ captureOf w ℓ, _ → _))

/-- No order is set to paid, by hand or by a capture, that nobody has paid for. -/
def PaidForOnly (ℓ : Commit) (w : World) : Prop := PaidByHandCaptured ℓ w ∧ PaidByOwnCapture ℓ w

instance (ℓ : Commit) (w : World) : Decidable (PaidForOnly ℓ w) :=
  inferInstanceAs (Decidable (_ ∧ _))

/-- An order that has left the statuses before the payment has a captured payment. -/
def PaidOrdersCaptured (w : World) : Prop :=
  ∀ o s, statusOf w o = some s → ¬ s.Unpaid → OrderCaptured w o

theorem paidOrdersCaptured_initial :
    PaidOrdersCaptured (World.initial paymentAccounts stores users) := by
  intro o s hs
  cases hs

/-- Recording a capture keeps paid orders captured. -/
theorem PaidOrdersCaptured.recorded {c : Capture} (h : PaidOrdersCaptured w)
    (hown : statusOf w c.order.id = some .pendingPayment →
      c.owner = c.order.id ∨ OrderCaptured w c.order.id)
    (hc : Recorded c w w') : PaidOrdersCaptured w' := by
  intro o s hs hpaid
  rw [hc.captured]
  rw [hc.status] at hs
  split at hs
  · next hpays =>
    obtain ⟨rfl, hpending⟩ := hpays
    exact (hown hpending).symm.imp_right Eq.symm
  · exact .inl (h o s hs hpaid)

/-- Without a capture, only an administrator makes an order paid. -/
theorem PaidOrdersCaptured.moved {ℓ : Commit} (h : PaidOrdersCaptured w)
    (hhand : PaidByHandCaptured ℓ w) (hcaptured : ∀ o, OrderCaptured w' o ↔ OrderCaptured w o)
    (hstatus : ∀ o, StatusMove ℓ o (statusOf w o) (statusOf w' o)) : PaidOrdersCaptured w' := by
  intro o t ht hpaid
  rw [hcaptured]
  have hmove := hstatus o
  rw [ht] at hmove
  generalize hs : statusOf w o = before at hmove
  cases hmove with
  | same => exact h o t hs hpaid
  | placed => exact absurd (.inl rfl) hpaid
  | @edge s t hallowed hby =>
      by_cases hu : s.Unpaid
      · obtain rfl : t = .paid := eq_paid_of_isTransitionAllowed hallowed hu hpaid
        obtain ⟨order, rfl, rfl⟩ := hby rfl
        exact hhand rfl (hs.trans (congrArg some (isTransitionAllowed_paid.mp hallowed)))
      · exact h o s hs hu

/-- As long as an administrator only sets a pending order to paid where a payment of it is
captured, and captures only pay for orders they are captures of, every fulfilled or refunded
order has a captured payment, whatever is stored. -/
theorem fulfilled_order_captured {c : HostileConfig} {order : Order}
    (hrun : ReachesWhen gateway PaidForOnly (.initial paymentAccounts stores users) c)
    (horder : order ∈ c.state.orders) (hs : order.status ∈ fulfilledStatuses) :
    OrderCaptured c.state order.id := by
  have hpaid : PaidOrdersCaptured c.state := by
    refine listed_idle.invariant commits_handleAny paidOrdersCaptured_initial
      (fun ℓ upd w hℓ hok hpaid => ?_) hrun
    obtain ⟨capture, hcapture, hrecorded⟩ | ⟨hcaptured, hstatus⟩ := hℓ.course w
    · exact hpaid.recorded (hok.2 capture hcapture) hrecorded
    · exact hpaid.moved hok.1 hcaptured hstatus
  refine hpaid order.id order.status ?_ (not_unpaid_of_fulfilled hs)
  exact congrArg (Option.map _) (Table.get_key horder)

/-- A payment fails, another one is captured, the customer tries again, and an administrator
sets the order to paid and has it confirmed. -/
theorem fulfilled_order_captured_by_hand :
    ∃ (c : HostileConfig) (order : Order), order ∈ c.state.orders ∧
      order.status = .confirmed ∧ OrderCaptured c.state order.id := by
  have hrun : (followAny PaidForOnly (services (exampleOrder ++ deliver 2 0 "failed pay_1" ++
      deliver 4 1 "captured pay_2" ++ serve 6 (.initiatePayment 0 0 (.ok "order_2")) 3 ++
      serve 7 (.adminTransitionStatus 0 1 0 .paid none) 2 ++
      serve 8 (.adminTransitionStatus 0 1 0 .confirmed none) 2)) exampleOpening).any
        (fun c => c.state.orders.rows.any fun order => decide (order.status = .confirmed)) =
          true := by
    decide +kernel
  obtain ⟨c, hc, h⟩ := exec_any hrun
  obtain ⟨order, horder, h⟩ := List.any_eq_true.mp h
  have hconfirmed : order.status = .confirmed := of_decide_eq_true h
  exact ⟨c, order, horder, hconfirmed,
    fulfilled_order_captured hc horder (by rw [hconfirmed]; decide)⟩

/-- The transition table alone lets an administrator set an order to paid that nobody has
paid for, and then have it made. -/
theorem unpaid_order_fulfilled :
    ¬ ∀ (gateway : Gateway) (paymentAccounts : Table PaymentAccount) (stores : Table Store)
      (users : Table User) (c : HostileConfig) (order : Order),
        ReachesWhen gateway PaidByOwnCapture (.initial paymentAccounts stores users) c →
          order ∈ c.state.orders → order.status ∈ fulfilledStatuses →
            OrderCaptured c.state order.id := by
  have hrun : (followAny PaidByOwnCapture (services (exampleOrder ++
      serve 2 (.adminTransitionStatus 0 1 0 .paid none) 2 ++
      serve 3 (.adminTransitionStatus 0 1 0 .confirmed none) 2)) exampleOpening).any
        (fun c => c.state.orders.rows.any fun order =>
          decide (order.status ∈ fulfilledStatuses ∧ ¬ OrderCaptured c.state order.id)) =
            true := by
    decide +kernel
  obtain ⟨c, hc, h⟩ := exec_any hrun
  obtain ⟨order, horder, h⟩ := List.any_eq_true.mp h
  obtain ⟨hs, hnot⟩ := of_decide_eq_true h
  exact fun hall => hnot (hall _ _ _ _ c order hc horder hs)

/-- An event of one merchant that names the failed payment of another has its order paid and
made, although what is captured is an attempt of the other one. -/
theorem foreign_capture_fulfilled :
    ¬ ∀ (gateway : Gateway) (paymentAccounts : Table PaymentAccount) (stores : Table Store)
      (users : Table User) (c : HostileConfig) (order : Order),
        ReachesWhen gateway PaidByHandCaptured (.initial paymentAccounts stores users) c →
          order ∈ c.state.orders → order.status ∈ fulfilledStatuses →
            OrderCaptured c.state order.id := by
  have hrun : (followAny PaidByHandCaptured (hostileEvent "pay_1" ++
      serveAny 7 (.service (.processOne 1 0)) 1 ++
      serveAny 8 (.service (.adminTransitionStatus 0 1 1 .confirmed none)) 2) hostileStart).any
        (fun c => c.state.orders.rows.any fun order =>
          decide (order.status ∈ fulfilledStatuses ∧ ¬ OrderCaptured c.state order.id)) =
            true := by
    decide +kernel
  obtain ⟨c, hc, h⟩ := exec_any hrun
  obtain ⟨order, horder, h⟩ := List.any_eq_true.mp h
  obtain ⟨hs, hnot⟩ := of_decide_eq_true h
  exact fun hall => hnot (hall _ _ _ _ c order hc horder hs)

end PrintForge
