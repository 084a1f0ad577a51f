import PrintForge.Payments.EventErrors
import PrintForge.Payments.OrderGuarantees

/-!
# When reconciliation recovers a captured payment

The cron has found a payment that Razorpay has captured, for an order that is still pending. The
transaction picks an attempt of the order and writes the payment on it. The pick is the newest row
that either carries the payment already or is open for the Razorpay order. A customer who has tried
again, after an attempt that failed with this very payment, has left an open row that is newer than
the one that carries the payment. Then the unique index on the payment id refuses the write.
-/

namespace PrintForge

open Relational Concurrent Proc Function

variable {gateway : Gateway} {w w' w₁ : World} {order : Order} {captured : RazorpayOrderPayment}

/-- The order is paid, with the payment on its captured attempt. -/
def Completed (orderId : Nat) (razorpayPaymentId : String) (w : World) : Prop :=
  (ledger w orderId).status = some .paid ∧ ∃ a ∈ w.paymentAttempts, a.orderId = orderId ∧
    a.status = .captured ∧ a.razorpayPaymentId = some razorpayPaymentId

/-- An attempt of the order that is still open for its Razorpay order. -/
def OpenFor (order : Order) (a : PaymentAttempt) : Prop :=
  a.orderId = order.id ∧ order.razorpayOrderId.all (a.razorpayOrderId = ·) = true ∧
    a.status = .initiated

/-- An attempt that carries the payment is the order's own, and no newer one is open. -/
def Recoverable (order : Order) (captured : RazorpayOrderPayment) (w : World) : Prop :=
  ∀ a ∈ w.paymentAttempts, a.razorpayPaymentId = some captured.id →
    a.orderId = order.id ∧ ∀ b ∈ w.paymentAttempts, OpenFor order b →
      ¬ w.paymentAttempts.Older a b

/-! ## The attempt that is picked -/

/-- The transaction picks the attempt with the payment, if there is one, just in the recoverable
states. -/
theorem findOrCreateReconciledAttempt_picks {id : Nat}
    (h : findOrCreateReconciledAttempt order captured w = .ok (id, w₁)) :
    (∀ b ∈ w₁.paymentAttempts, b.razorpayPaymentId = some captured.id → b.id = id) ↔
      Recoverable order captured w := by
  unfold findOrCreateReconciledAttempt at h
  simp only [query_transaction, Tx.bind_read] at h
  generalize hfound : w.paymentAttempts.findLast _ = existing at h
  cases existing with
  | some x =>
      cases h
      obtain ⟨hx, hpick⟩ := Table.findLast_some hfound
      simp only [Bool.and_eq_true, Bool.or_eq_true, decide_eq_true_eq] at hpick
      obtain ⟨hown, hreason⟩ := hpick
      constructor
      · intro hall a ha hpay
        obtain rfl : a = x := Table.eq_of_key ha hx (hall a ha hpay)
        refine ⟨hown, fun b hb hopen holder => ?_⟩
        obtain ⟨hbo, hbr, hbs⟩ := hopen
        obtain rfl | hnewer := Table.older_findLast hfound hb (by simp [hbo, hbr, hbs])
        · exact holder.asymm holder
        · exact holder.asymm hnewer
      · intro hrec a ha hpay
        obtain ⟨hao, hnewest⟩ := hrec a ha hpay
        obtain rfl | holder := Table.older_findLast hfound ha (by simp [hao, hpay])
        · rfl
        · obtain hxp | ⟨hxr, hxs⟩ := hreason
          · exact congrArg PaymentAttempt.id
              (Table.eq_of_clash ha hx (.inl ⟨hpay.trans hxp.symm, by simp [hpay]⟩))
          · exact absurd holder (hnewest x hx ⟨hown, hxr, hxs⟩)
  | none =>
      have hnone := Table.findLast_none hfound
      obtain ⟨a, w₂, hcreate, hret⟩ := Tx.bind_ok.mp h
      cases hret
      obtain ⟨t, ht, rfl, rfl⟩ := Slot.create_ok hcreate
      constructor
      · intro hall a ha hpay
        have hid := hall a ((Table.mem_create ht).mpr (.inl ha)) hpay
        exact absurd hid (Nat.ne_of_lt (Table.key_lt_nextKey ha))
      · intro hrec a ha hpay
        obtain hold | rfl := (Table.mem_create ht).mp ha
        · obtain ⟨hao, -⟩ := hrec a hold hpay
          have := hnone a hold
          simp [hao, hpay] at this
        · rfl

/-! ## The capture -/

theorem attempts_frame : TransitionFrame (Tx.Same fun w : World => w.paymentAttempts) :=
  ⟨inferInstance, inferInstance, fun _ => rfl, fun _ _ => rfl, fun _ _ => rfl⟩

/-- A capture of a pending order without one goes through with everything that belongs to it. -/
theorem captureReconciled_completes {attemptId : Nat} {result : ReconcileCaptureResult}
    {a : PaymentAttempt} (hstatus : (ledger w order.id).status = some .pendingPayment)
    (hempty : (ledger w order.id).captured = ∅) (hget : w.paymentAttempts.get attemptId = some a)
    (hao : a.orderId = order.id)
    (h : captureReconciled order captured attemptId w = .ok (result, w')) :
    (∀ b ∈ w.paymentAttempts, b.razorpayPaymentId = some captured.id → b.id = attemptId) ∧
      Completed order.id captured.id w' := by
  unfold captureReconciled at h
  obtain ⟨count, w₁, hcap, hrest⟩ := Tx.bind_ok.mp h
  have hmove := capture_ok hcap (fun _ => rfl) fun _ => rfl
  obtain ⟨t, ht, -, rfl⟩ := Slot.updateMany_ok hcap
  obtain ⟨hmem, hid⟩ := Table.get_eq_some.mp hget
  have hnot : a.status ≠ .captured := fun hs =>
    (Set.eq_empty_iff_forall_notMem.mp hempty) a.id ⟨a, hmem, rfl, hao, hs⟩
  obtain ⟨hc, a', ha', -, hfree, -, hw₁⟩ | ⟨-, hall, -⟩ := hmove
  · obtain rfl : a = a' := Option.some.inj (hget.symm.trans ha')
    refine ⟨fun b hb hpay => hfree b hb hpay (by simp [hpay]), ?_⟩
    rw [if_neg (by simp [hc])] at hrest
    obtain ⟨r, w₂, htrans, hlast⟩ := Tx.bind_ok.mp hrest
    have hkept : w₂.paymentAttempts = t := within_transitionOrder attempts_frame _ _ _ _ htrans
    have hpaid : (ledger w₂ order.id).status = some .paid ∧ r.isSome := by
      rw [hao] at hw₁
      obtain ⟨-, ⟨hr, -, hw₂⟩ | ⟨-, hs, -⟩⟩ := transitionOrder_ok htrans
      · rw [hw₂, update_self]
        exact ⟨rfl, hr⟩
      · rw [hw₁, update_self] at hs
        exact absurd hstatus hs
    rw [if_pos hpaid.2] at hlast
    obtain ⟨⟨⟩, w₃, hnote, hret⟩ := Tx.bind_ok.mp hlast
    cases hret
    have hkept' : w'.paymentAttempts = w₂.paymentAttempts :=
      within_insertOutboxEvent attempts_frame.whole _ _ hnote
    refine ⟨?_, { a with
      status := .captured
      razorpayPaymentId := some captured.id
      method := captured.method }, ?_, hao, rfl, rfl⟩
    · rw [(insertOutboxEvent_ok hnote).2, update_self]
      exact hpaid.1
    · rw [hkept', hkept]
      exact Table.mem_of_update_true ht hmem (by simpa [hnot] using hid)
  · exact absurd (hall a hget) hnot

/-- Otherwise another attempt carries the payment. -/
theorem captureReconciled_error {attemptId : Nat} {err : ServiceError} {a : PaymentAttempt}
    (hempty : (ledger w order.id).captured = ∅)
    (hnotice : .orderPaid ∉ (ledger w order.id).notices)
    (hget : w.paymentAttempts.get attemptId = some a) (hao : a.orderId = order.id)
    (h : captureReconciled order captured attemptId w = .error err) :
    err = .uniqueViolation ∧
      ∃ b ∈ w.paymentAttempts, b.razorpayPaymentId = some captured.id ∧ b.id ≠ attemptId := by
  unfold captureReconciled at h
  obtain ⟨hmem, hid⟩ := Table.get_eq_some.mp hget
  have huncaptured : ∀ b ∈ w.paymentAttempts, b.orderId = order.id → b.status ≠ .captured :=
    fun b hb ho hs => (Set.eq_empty_iff_forall_notMem.mp hempty) b.id ⟨b, hb, rfl, ho, hs⟩
  obtain hcap | ⟨count, w₁, hcap, hrest⟩ := Tx.bind_error.mp h
  · obtain ⟨rfl, a', ha', hp, b, hb, hbk, hclash⟩ :=
      Slot.updateMany_key_error (k := attemptId) (fun a ha => by simp_all) hcap
    refine ⟨rfl, b, hb, ?_, hbk⟩
    simp only [Bool.and_eq_true, decide_eq_true_eq] at hp
    obtain rfl : a' = a := Table.eq_of_key ha' hmem (hp.1.trans hid.symm)
    obtain ⟨hpay, -⟩ | ⟨hbo, -, hbs⟩ := hclash
    · exact hpay.symm
    · exact absurd hbs (huncaptured b hb (hbo.symm.trans hao))
  · obtain ⟨hc, a', ha', -, -, -, hw₁⟩ | ⟨-, hall, -⟩ := capture_ok hcap (fun _ => rfl) fun _ => rfl
    · obtain rfl : a = a' := Option.some.inj (hget.symm.trans ha')
      rw [if_neg (by simp [hc])] at hrest
      rw [hao] at hw₁
      obtain htrans | ⟨r, w₂, htrans, hlast⟩ := Tx.bind_error.mp hrest
      · exact absurd (transitionOrder_error htrans).1 (by simp [isTransitionAllowed_paid])
      · split at hlast
        · obtain hnote | ⟨⟨⟩, w₃, -, hret⟩ := Tx.bind_error.mp hlast
          · have hmem := (insertOutboxEvent_error hnote).2
            obtain ⟨-, ⟨-, -, hw₂⟩ | ⟨-, -, rfl⟩⟩ := transitionOrder_ok htrans
            · rw [hw₂, update_self, hw₁] at hmem
              simp only [update_self] at hmem
              exact absurd hmem hnotice
            · rw [hw₁, update_self] at hmem
              exact absurd hmem hnotice
          · cases hret
        · cases hlast
    · exact absurd (hall a hget) (huncaptured a hmem hao)

/-! ## The whole transaction -/

/-- What is left of the transaction once the order is known to be pending and uncaptured. -/
theorem recordReconciled_eq (hstatus : (ledger w order.id).status = some .pendingPayment)
    (hempty : (ledger w order.id).captured = ∅) :
    recordReconciled order captured w =
      (findOrCreateReconciledAttempt order captured >>= captureReconciled order captured) w := by
  obtain ⟨row, hrow, hpending⟩ := Option.map_eq_some_iff.mp hstatus
  have hnone : w.paymentAttempts.findFirst (fun a => a.orderId = order.id && a.status = .captured) =
      none := by
    refine Option.eq_none_iff_forall_not_mem.mpr fun a ha => ?_
    obtain ⟨hmem, hp⟩ := Table.findFirst_some ha
    simp only [Bool.and_eq_true, decide_eq_true_eq] at hp
    exact (Set.eq_empty_iff_forall_notMem.mp hempty) a.id ⟨a, hmem, rfl, hp⟩
  unfold recordReconciled lockPending hasCaptured
  simp only [query_transaction, Tx.bind_read, hrow]
  rw [if_neg (by simp [hpending]), Tx.bind_read, hnone]
  rfl

theorem recordReconciled_completes_iff
    (hstatus : (ledger w order.id).status = some .pendingPayment)
    (hempty : (ledger w order.id).captured = ∅)
    (hnotice : .orderPaid ∉ (ledger w order.id).notices) :
    Completed order.id captured.id (applied (recordReconciled order captured) w) ↔
      Recoverable order captured w := by
  cases hfind : findOrCreateReconciledAttempt order captured w with
  | error err =>
      -- a new attempt is in no index yet
      unfold findOrCreateReconciledAttempt at hfind
      simp only [query_transaction, Tx.bind_read] at hfind
      generalize w.paymentAttempts.findLast _ = existing at hfind
      cases existing with
      | some a => cases hfind
      | none =>
        obtain hcreate | ⟨a, w₁, -, hret⟩ := Tx.bind_error.mp hfind
        · refine absurd hcreate (Slot.create_ne_error fun a _ hclash => ?_)
          obtain ⟨hpay, hsome⟩ | ⟨-, -, hs⟩ := hclash
          · exact hsome hpay
          · cases hs
        · cases hret
  | ok found =>
      obtain ⟨id, w₁⟩ := found
      have hpicks := findOrCreateReconciledAttempt_picks hfind
      obtain ⟨hledger, a, hget, hao⟩ := findOrCreateReconciledAttempt_ok hfind
      rw [← hledger] at hstatus hempty hnotice
      have hrest : recordReconciled order captured w = captureReconciled order captured id w₁ := by
        rw [recordReconciled_eq (hledger ▸ hstatus) (hledger ▸ hempty), Tx.bind_apply, hfind]
      cases hcap : captureReconciled order captured id w₁ with
      | ok res =>
          obtain ⟨result, w'⟩ := res
          obtain ⟨hfree, hdone⟩ := captureReconciled_completes hstatus hempty hget hao hcap
          rw [applied_ok (hrest.trans hcap)]
          exact iff_of_true hdone (hpicks.mp hfree)
      | error err =>
          obtain ⟨-, b, hb, hpay, hne⟩ :=
            captureReconciled_error hempty hnotice hget hao hcap
          rw [applied_error (hrest.trans hcap)]
          refine iff_of_false (fun hdone => ?_) fun hrec => hne (hpicks.mpr hrec b hb hpay)
          have hpaid : (ledger w₁ order.id).status = some .paid := hledger ▸ hdone.1
          cases hstatus.symm.trans hpaid

/-! ## Runs -/

/-- In every reachable state, reconciliation completes a matching payment of a pending order
without a captured attempt just where an attempt that carries the payment is the order's own and no
newer attempt is open. -/
theorem reconciliation_completes_iff {paymentAccounts : Table PaymentAccount} {stores : Table Store}
    {users : Table User} {c : PaymentConfig} {row : Order}
    (hrun : Reaches gateway (fun _ _ => True) (.initial paymentAccounts stores users) c)
    (hrow : c.state.orders.get order.id = some row) (hpending : row.status = .pendingPayment)
    (huncaptured : ¬ OrderCaptured c.state order.id)
    (hmatch : capturedPaymentMismatch order
      ⟨captured.razorpayOrderId, captured.amountPaise, captured.currency⟩ = none) :
    Completed order.id captured.id ((reconcileCapturedPayment order captured).alone c.state).2 ↔
      Recoverable order captured c.state := by
  have hempty : (ledger c.state order.id).captured = ∅ := by
    rw [← Set.not_nonempty_iff_eq_empty, captured_nonempty]
    exact huncaptured
  have hnotice : .orderPaid ∉ (ledger c.state order.id).notices := fun h => by
    have := (holds_of_reaches hrun).inv.announced order.id h
    rw [hempty] at this
    exact Set.not_nonempty_empty this
  rw [← recordReconciled_completes_iff (by rw [ledger_status_of_get hrow, hpending]) hempty hnotice]
  unfold reconcileCapturedPayment
  rw [hmatch]
  have hstate : ∀ (h : ServiceError → Service ReconcileCaptureResult),
      (∀ e s, ((h e).alone s).2 = s) →
      ((tryCatch (transact (.reconcileCapturedPayment order) (recordReconciled order captured)) h :
        Service ReconcileCaptureResult).alone c.state).2 =
          applied (recordReconciled order captured) c.state := by
    intro h hquiet
    rw [tryCatch_def, alone_finish, alone_transact]
    cases (recordReconciled order captured c.state).map Prod.fst with
    | ok result => rfl
    | error e => exact hquiet e _
  rw [hstate]
  intro e s
  split <;> rfl

/-- The payment of the example order, as Razorpay reports it to the cron. -/
def examplePayment : RazorpayOrderPayment :=
  ⟨"pay_1", "order_1", 10000, "INR", "captured", true, none⟩

/-- The order is pending without a captured attempt, and the payment is its. -/
def AwaitsPayment (w : World) (order : Order) (captured : RazorpayOrderPayment) : Prop :=
  order.status = .pendingPayment ∧ ¬ OrderCaptured w order.id ∧ capturedPaymentMismatch order
    ⟨captured.razorpayOrderId, captured.amountPaise, captured.currency⟩ = none

instance (w : World) (order : Order) (captured : RazorpayOrderPayment) :
    Decidable (AwaitsPayment w order captured) :=
  inferInstanceAs (Decidable (_ ∧ ¬ (∃ a ∈ w.paymentAttempts.rows, _) ∧ _))

instance (orderId : Nat) (razorpayPaymentId : String) (w : World) :
    Decidable (Completed orderId razorpayPaymentId w) :=
  inferInstanceAs (Decidable ((w.orders.get orderId).map (·.status) = _ ∧
    ∃ a ∈ w.paymentAttempts.rows, _))

/-- The only attempt is open, and neither the callback nor the webhook has come. -/
theorem reconciliation_completes_first :
    ∃ (c : PaymentConfig) (order : Order), AwaitsPayment c.state order examplePayment ∧
      Completed order.id "pay_1"
        ((reconcileCapturedPayment order examplePayment).alone c.state).2 := by
  have hrun : (follow (fun _ _ => True) exampleOrder exampleStart).any (fun c =>
      (c.state.orders.get 0).any fun order => decide (AwaitsPayment c.state order examplePayment ∧
        ∀ a ∈ c.state.paymentAttempts.rows, a.razorpayPaymentId ≠ some "pay_1")) = true := by
    decide +kernel
  obtain ⟨c, hc, h⟩ := exec_any hrun
  obtain ⟨order, hget, h⟩ := (Option.any_eq_true ..).mp h
  obtain ⟨hawaits, hfresh⟩ := of_decide_eq_true h
  have hid : order.id = 0 := (Table.get_eq_some.mp hget).2
  rw [← hid] at hget
  exact ⟨c, order, hawaits, (reconciliation_completes_iff hc hget hawaits.1 hawaits.2.1
    hawaits.2.2).mpr fun a ha hpay => absurd hpay (hfresh a ha)⟩

/-- A payment fails, the customer tries again, and then the first payment is captured after
all. -/
theorem reconciliation_blocked_by_retry :
    ¬ ∀ (gateway : Gateway) (paymentAccounts : Table PaymentAccount) (stores : Table Store)
      (users : Table User) (c : PaymentConfig) (order row : Order)
      (captured : RazorpayOrderPayment),
        Reaches gateway (fun _ _ => True) (.initial paymentAccounts stores users) c →
          c.state.orders.get order.id = some row → row.status = .pendingPayment →
            ¬ OrderCaptured c.state order.id → capturedPaymentMismatch order
              ⟨captured.razorpayOrderId, captured.amountPaise, captured.currency⟩ = none →
                Completed order.id captured.id
                  ((reconcileCapturedPayment order captured).alone c.state).2 := by
  have hrun : (follow (fun _ _ => True) (exampleOrder ++ deliver 2 0 "failed pay_1" ++
      serve 4 (.initiatePayment 0 0 (.ok "order_2")) 6) exampleStart).any (fun c =>
        (c.state.orders.get 0).any fun order =>
          decide (AwaitsPayment c.state order examplePayment ∧ ¬ Completed order.id "pay_1"
            ((reconcileCapturedPayment order examplePayment).alone c.state).2)) = true := by
    decide +kernel
  obtain ⟨c, hc, h⟩ := exec_any hrun
  obtain ⟨order, hget, h⟩ := (Option.any_eq_true ..).mp h
  obtain ⟨⟨hpending, huncaptured, hmatch⟩, hnot⟩ := of_decide_eq_true h
  have hid : order.id = 0 := (Table.get_eq_some.mp hget).2
  rw [← hid] at hget
  exact fun hall =>
    hnot (hall _ _ _ _ c order order examplePayment hc hget hpending huncaptured hmatch)

end PrintForge
