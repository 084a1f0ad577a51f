import PrintForge.Payments.EventSteps

/-!
# What the other transactions do to the ledgers

The verify callback, reconciliation, expiry, cancellation, refund recording, the
administrator's transitions and checkout. Each works on an order that was read before the
transaction began, so the order may have moved on; only the verify callback then still
records something.
-/

namespace PrintForge

open Relational Concurrent Function

variable {w w' : World}

/-! ## The verify callback -/

/-- The attempt the verify callback takes: the one that was read, else the newest that is
open. -/
def attemptToVerify (order : Order) (existingByPaymentId : Option PaymentAttempt) (w : World) :
    Option PaymentAttempt :=
  existingByPaymentId.or (w.paymentAttempts.findLast fun a =>
    a.orderId = order.id && some a.razorpayOrderId = order.razorpayOrderId &&
      a.status = .initiated)

/-- The verify callback goes through: its order was read as pending, its attempt can be
captured, and neither unique index of the attempts stands in the way. -/
def VerifyCaptures (order : Order) (existingByPaymentId : Option PaymentAttempt)
    (razorpayPaymentId : String) (w : World) : Prop :=
  order.status = .pendingPayment ∧ ∃ a ∈ w.paymentAttempts,
    (attemptToVerify order existingByPaymentId w).map (·.id) = some a.id ∧
    a.status ≠ .captured ∧ ∀ b ∈ w.paymentAttempts,
      (b.razorpayPaymentId = some razorpayPaymentId → b.id = a.id) ∧
      (b.orderId = order.id → b.status ≠ .captured)

instance (order : Order) (existingByPaymentId : Option PaymentAttempt)
    (razorpayPaymentId : String) (w : World) :
    Decidable (VerifyCaptures order existingByPaymentId razorpayPaymentId w) :=
  inferInstanceAs (Decidable (_ ∧ ∃ a ∈ w.paymentAttempts.rows, _ ∧ _ ∧
    ∀ b ∈ w.paymentAttempts.rows, (_ → _) ∧ (_ → _)))

/-- The last read of the transaction changes nothing. -/
theorem readView_ok {id : Nat} {view : VerifyPaymentView}
    (h : (do
      let finalOrder ← Tx.read fun w : World => w.orders.get id
      match finalOrder with
      | some finalOrder => return ⟨finalOrder.id, finalOrder.status⟩
      | none => throw .recordNotFound : Transaction VerifyPaymentView) w = .ok (view, w')) :
    w' = w := by
  simp only [Tx.bind_read] at h
  cases hg : w.orders.get id with
  | none =>
      rw [hg] at h
      cases h
  | some o =>
      rw [hg] at h
      cases h
      rfl

theorem within_readView {R : World → World → Prop} [Std.Refl R] [IsTrans World R] (id : Nat) :
    Tx.Within R (do
      let finalOrder ← query fun w : World => w.orders.get id
      match finalOrder with
      | some finalOrder => return ⟨finalOrder.id, finalOrder.status⟩
      | none => throw .recordNotFound : Transaction VerifyPaymentView) := by
  refine Tx.within_bind (Tx.within_read _) fun found => ?_
  cases found with
  | none => exact Tx.within_throw _
  | some o => exact Tx.within_pure _

/-- What becomes of the attempt and the order. -/
theorem captureAttempt_ok {userId : Nat} {order : Order} {attempt a : PaymentAttempt}
    {dto : VerifyPaymentDto} {view : VerifyPaymentView}
    (hplaced : (ledger w order.id).status ≠ none)
    (hget : w.paymentAttempts.get attempt.id = some a) (hao : a.orderId = order.id)
    (h : captureAttempt userId order attempt dto w = .ok (view, w')) :
    Posts .still order.id w w' ∨ Posts .pay order.id w w' ∨
      (order.status = .pendingPayment ∧ a.status ≠ .captured ∧
        (∀ b ∈ w.paymentAttempts,
          (b.razorpayPaymentId = some dto.razorpayPaymentId → b.id = a.id) ∧
            (b.orderId = order.id → b.status ≠ .captured)) ∧
        (ledger w order.id).status ≠ some .pendingPayment ∧
        Posts .lostCapture order.id w w') := by
  unfold captureAttempt at h
  obtain ⟨count, w₁, hcap, hrest⟩ := Tx.bind_ok.mp h
  obtain ⟨hc, a', ha', hnot, hfree, hempty, hw₁⟩ | ⟨hc, -, rfl⟩ :=
    capture_ok hcap (fun _ => rfl) fun _ => rfl
  · obtain rfl : a = a' := Option.some.inj (hget.symm.trans ha')
    rw [hao] at hempty hw₁
    rw [if_pos hc] at hrest
    obtain ⟨r, w₂, htrans, hrest⟩ := Tx.bind_ok.mp hrest
    obtain ⟨⟨⟩, w₃, hnote, hread⟩ := Tx.bind_ok.mp hrest
    obtain rfl := readView_ok hread
    obtain ⟨hallowed, hmoved⟩ := transitionOrder_ok htrans
    obtain ⟨hfresh, hw'⟩ := insertOutboxEvent_ok hnote
    have hpending : order.status = .pendingPayment := by simpa using hallowed
    rw [hw₁, update_self, hpending] at hmoved
    obtain ⟨-, hs, hw₂⟩ | ⟨-, hs, rfl⟩ := hmoved
    · rw [hw₂, update_self] at hfresh
      refine .inr (.inl (posts_of_update (L := _) ?_ (.pay attempt.id hs hempty hfresh)))
      rw [hw', hw₂, update_self, update_idem, update_idem]
      rfl
    · rw [hw₁, update_self] at hfresh
      obtain ⟨s, hstatus⟩ := Option.ne_none_iff_exists'.mp hplaced
      have hid : a.id = attempt.id := (Table.get_eq_some.mp hget).2
      refine .inr (.inr ⟨hpending, hnot, fun b hb => ⟨?_, ?_⟩, hs, posts_of_update (L := _) ?_
        (.lostCapture attempt.id hstatus (fun he => hs (by rw [← he]; exact hstatus)) hempty
          hfresh)⟩)
      · exact fun hpay => (hfree b hb hpay (by simp [hpay])).trans hid.symm
      · exact fun hbo hbc => (Set.eq_empty_iff_forall_notMem.mp hempty b.id)
          ⟨b, hb, rfl, hbo, hbc⟩
      · rw [hw', hw₁, update_self, update_idem]
  · rw [if_neg hc] at hrest
    exact .inl (posts_still _ (by rw [readView_ok hrest]))

theorem within_captureAttempt {S : Nat → String → Prop} {R : World → World → Prop}
    (hR : WholeFrame S R) (userId : Nat) (order : Order) (attempt : PaymentAttempt)
    (dto : VerifyPaymentDto) (hS : S attempt.id dto.razorpayPaymentId) :
    Tx.Within R (captureAttempt userId order attempt dto) := by
  have := hR.refl
  have := hR.trans
  unfold captureAttempt
  refine Tx.within_bind (Slot.within_updateMany fun w t ht => hR.attempts ht fun a ha => ?_)
    fun n => ?_
  · simp only [Bool.and_eq_true, decide_eq_true_eq] at ha
    refine ⟨ha.2, rfl, rfl, rfl, rfl, fun p hp => .inr ?_⟩
    obtain rfl : dto.razorpayPaymentId = p := by simpa using hp
    rwa [ha.1]
  · split
    · exact Tx.within_bind (hR.transition _ _ _ _) fun _ =>
        Tx.within_bind (within_insertOutboxEvent hR.toMoveFrame _ _) fun _ =>
          within_readView order.id
    · exact within_readView order.id

/-- A verify callback that commits has recorded nothing, or paid the order, or captured the
payment of an order that was read as pending and is no longer. All it may have granted is
the payment id to an attempt of the order. -/
theorem capturePayment_ok {userId : Nat} {order : Order} {existing : Option PaymentAttempt}
    {dto : VerifyPaymentDto} {view : VerifyPaymentView}
    (hplaced : (ledger w order.id).status ≠ none)
    (hrzp : order.razorpayOrderId = some dto.razorpayOrderId)
    (hown : ∀ a, existing = some a →
      ∃ a', w.paymentAttempts.get a.id = some a' ∧ a'.orderId = order.id)
    (h : capturePayment userId order existing dto w = .ok (view, w')) :
    (Posts .still order.id w w' ∨ Posts .pay order.id w w' ∨
      (VerifyCaptures order existing dto.razorpayPaymentId w ∧
        (ledger w order.id).status ≠ some .pendingPayment ∧
        Posts .lostCapture order.id w w')) ∧
    Keeps { payment := fun _ o p => o = order.id ∧ p = dto.razorpayPaymentId } w w' ∧
    RefundsSame w w' := by
  unfold capturePayment at h
  simp only [query_transaction, Tx.bind_read] at h
  generalize hopen : w.paymentAttempts.findLast _ = open' at h
  generalize hchoice : existing.or open' = choice at h
  have hattempt : attemptToVerify order existing w = choice := by
    rw [attemptToVerify, ← hchoice, ← hopen]
    simp [hrzp]
  cases choice with
  | none => cases h
  | some attempt =>
      -- the chosen attempt is a row of the order
      obtain ⟨a, hget, hao⟩ : ∃ a, w.paymentAttempts.get attempt.id = some a ∧
          a.orderId = order.id := by
        cases existing with
        | some attempt' =>
            obtain rfl : attempt' = attempt := by simpa using hchoice
            exact hown _ rfl
        | none =>
            obtain rfl : open' = some attempt := by simpa using hchoice
            obtain ⟨hmem, hrow⟩ := Table.findLast_some hopen
            simp only [Bool.and_eq_true, decide_eq_true_eq] at hrow
            exact ⟨attempt, Table.get_key hmem, hrow.1.1⟩
      obtain ⟨hmem, hid⟩ := Table.get_eq_some.mp hget
      refine ⟨?_, ?_, within_captureAttempt refundsSame_frame.whole _ _ _ _ trivial h⟩
      · refine (captureAttempt_ok hplaced hget hao h).imp_right (Or.imp_right ?_)
        rintro ⟨hpending, hnot, hfree, hs, hposts⟩
        exact ⟨⟨hpending, a, hmem, by rw [hattempt]; simp [← hid], hnot, hfree⟩, hs, hposts⟩
      · exact (within_captureAttempt (keeps_frame { payment := fun k _ p => k = attempt.id ∧
          p = dto.razorpayPaymentId }).whole _ _ _ _ (fun _ => ⟨rfl, rfl⟩) h).onOrder ⟨a, hget, hao⟩

/-! ## Reconciliation -/

theorem findOrCreateReconciledAttempt_ok {order : Order} {captured : RazorpayOrderPayment}
    {id : Nat} (h : findOrCreateReconciledAttempt order captured w = .ok (id, w')) :
    ledger w' = ledger w ∧
      ∃ a, w'.paymentAttempts.get id = some a ∧ a.orderId = order.id := by
  unfold findOrCreateReconciledAttempt at h
  simp only [query_transaction, Tx.bind_read] at h
  generalize hfound : w.paymentAttempts.findLast _ = existing at h
  cases existing with
  | some attempt =>
      cases h
      obtain ⟨hmem, hrow⟩ := Table.findLast_some hfound
      simp only [Bool.and_eq_true, decide_eq_true_eq] at hrow
      exact ⟨rfl, attempt, Table.get_key hmem, hrow.1⟩
  | none =>
      obtain ⟨a, w₁, hcreate, hret⟩ := Tx.bind_ok.mp h
      cases hret
      have hledger := createAttempt_ok hcreate
      obtain ⟨t, ht, rfl, rfl⟩ := Slot.create_ok hcreate
      exact ⟨hledger (by simp), _, (Table.get_create ht _).trans (if_pos rfl), rfl⟩

/-- The lock is only granted on a pending order. -/
theorem lockPending_ok {orderId : Nat} {isPending : Bool}
    (h : lockPending orderId w = .ok (isPending, w')) :
    w' = w ∧ (isPending = true → (ledger w orderId).status = some .pendingPayment) := by
  cases h
  refine ⟨rfl, fun hp => ?_⟩
  cases hget : w.orders.get orderId with
  | none => simp [hget] at hp
  | some o =>
      rw [ledger_status_of_get hget]
      simpa [hget] using hp

theorem within_findOrCreateReconciledAttempt {S : Nat → String → Prop}
    {R : World → World → Prop} (hR : WholeFrame S R) (order : Order)
    (captured : RazorpayOrderPayment) :
    Tx.Within R (findOrCreateReconciledAttempt order captured) := by
  have := hR.refl
  have := hR.trans
  unfold findOrCreateReconciledAttempt
  refine Tx.within_bind (Tx.within_read _) fun existing => ?_
  cases existing with
  | some attempt => exact Tx.within_pure _
  | none =>
      exact Tx.within_bind (Slot.within_create fun w t ht => hR.newAttempt ht fun _ => rfl)
        fun _ => Tx.within_pure _

theorem captureReconciled_ok {order : Order} {captured : RazorpayOrderPayment}
    {attemptId : Nat} {result : ReconcileCaptureResult} {a : PaymentAttempt}
    (hstatus : (ledger w order.id).status = some .pendingPayment)
    (hget : w.paymentAttempts.get attemptId = some a) (hao : a.orderId = order.id)
    (h : captureReconciled order captured attemptId w = .ok (result, w')) :
    Posts .still order.id w w' ∨ Posts .pay order.id w w' := by
  unfold captureReconciled at h
  obtain ⟨count, w₁, hcap, hrest⟩ := Tx.bind_ok.mp h
  obtain ⟨hc, a', ha', -, -, hempty, hw₁⟩ | ⟨hc, -, rfl⟩ :=
    capture_ok hcap (fun _ => rfl) fun _ => rfl
  · obtain rfl : a = a' := Option.some.inj (hget.symm.trans ha')
    rw [hao] at hempty hw₁
    rw [if_neg (by simp [hc])] at hrest
    obtain ⟨r, w₂, htrans, hlast⟩ := Tx.bind_ok.mp hrest
    have hnote : (if r.isSome then insertOutboxEvent .orderPaid order else pure ()) w₂ =
        .ok ((), w') := by
      split at hlast
      · next hr =>
        rw [if_pos hr]
        obtain ⟨⟨⟩, w₃, hinsert, hret⟩ := Tx.bind_ok.mp hlast
        cases hret
        exact hinsert
      · next hr =>
        rw [if_neg hr]
        cases hlast
        rfl
    obtain ⟨-, ⟨hs, hfresh, hw'⟩ | ⟨hs, -⟩⟩ := transition_notify_ok htrans hnote
    · rw [hw₁, update_self] at hs hfresh
      refine .inr (posts_of_update (L := _) ?_ (.pay attemptId hs hempty hfresh))
      rw [hw', hw₁, update_self, update_idem]
      rfl
    · rw [hw₁, update_self] at hs
      exact absurd hstatus hs
  · rw [if_pos hc] at hrest
    cases hrest
    exact .inl (posts_still _ rfl)

theorem within_captureReconciled {S : Nat → String → Prop} {R : World → World → Prop}
    (hR : WholeFrame S R) (order : Order) (captured : RazorpayOrderPayment)
    (attemptId : Nat) (hS : S attemptId captured.id) :
    Tx.Within R (captureReconciled order captured attemptId) := by
  have := hR.refl
  have := hR.trans
  unfold captureReconciled
  refine Tx.within_bind (Slot.within_updateMany fun w t ht => hR.attempts ht fun a ha => ?_)
    fun n => ?_
  · simp only [Bool.and_eq_true, decide_eq_true_eq] at ha
    refine ⟨ha.2, rfl, rfl, rfl, rfl, fun p hp => .inr ?_⟩
    obtain rfl : captured.id = p := by simpa using hp
    rwa [ha.1]
  · split
    · exact Tx.within_pure _
    · refine Tx.within_bind (hR.transition _ _ _ _) fun r => ?_
      split
      · exact Tx.within_bind (within_insertOutboxEvent hR.toMoveFrame _ _)
          fun _ => Tx.within_pure _
      · exact Tx.within_pure _

theorem recordReconciled_ok {order : Order} {captured : RazorpayOrderPayment}
    {result : ReconcileCaptureResult}
    (h : recordReconciled order captured w = .ok (result, w')) :
    (Posts .still order.id w w' ∨ Posts .pay order.id w w') ∧
      Keeps { payment := fun _ o p => o = order.id ∧ p = captured.id } w w' ∧
      RefundsSame w w' := by
  unfold recordReconciled at h
  obtain ⟨isPending, w₀, hlock, h₁⟩ := Tx.bind_ok.mp h
  obtain ⟨rfl, hpending⟩ := lockPending_ok hlock
  split at h₁
  · cases h₁
    exact ⟨.inl (posts_still _ rfl), Std.Refl.refl _, rfl⟩
  · next hp =>
    simp only [hasCaptured, query_transaction, Tx.bind_read] at h₁
    split at h₁
    · cases h₁
      exact ⟨.inl (posts_still _ rfl), Std.Refl.refl _, rfl⟩
    · obtain ⟨id, w₁, hfind, hcap⟩ := Tx.bind_ok.mp h₁
      obtain ⟨hledger, a, hget, hao⟩ := findOrCreateReconciledAttempt_ok hfind
      have hstatus : (ledger w₁ order.id).status = some .pendingPayment := by
        rw [hledger]
        exact hpending (by simpa using hp)
      refine ⟨?_, ?_, ?_⟩
      · exact (captureReconciled_ok hstatus hget hao hcap).imp (·.congr_left hledger)
          (·.congr_left hledger)
      · refine IsTrans.trans _ w₁ _ (within_findOrCreateReconciledAttempt (keeps_frame _).whole _ _
          hfind) ?_
        exact (within_captureReconciled (keeps_frame { payment := fun k _ p => k = id ∧
          p = captured.id }).whole _ _ _ (fun _ => ⟨rfl, rfl⟩) hcap).onOrder ⟨a, hget, hao⟩
      · exact IsTrans.trans _ w₁ _
          (within_findOrCreateReconciledAttempt refundsSame_frame.whole _ _ hfind)
          (within_captureReconciled refundsSame_frame.whole _ _ _ trivial hcap)

/-- An order that has waited too long is closed, unless a payment was captured after all. -/
theorem expirePendingOrder_ok {order : Order} {expired : Bool}
    (h : expirePendingOrder order w = .ok (expired, w')) :
    Posts .still order.id w w' ∨
      ((ledger w order.id).captured = ∅ ∧ Posts (.move .paymentFailed) order.id w w') := by
  unfold expirePendingOrder at h
  obtain ⟨isPending, w₀, hlock, h₁⟩ := Tx.bind_ok.mp h
  obtain ⟨rfl, hpending⟩ := lockPending_ok hlock
  split at h₁
  · cases h₁
    exact .inl (posts_still _ rfl)
  · next hp =>
    have hstatus := hpending (by simpa using hp)
    simp only [hasCaptured, query_transaction, Tx.bind_read] at h₁
    split at h₁
    · cases h₁
      exact .inl (posts_still _ rfl)
    · next hnone =>
      have hempty : (ledger w₀ order.id).captured = ∅ := by
        refine Set.eq_empty_of_forall_notMem fun k hk => ?_
        obtain ⟨a, ha, -, hao, hc⟩ := hk
        have := Table.findFirst_none (by simpa using hnone) a ha
        simp [hao, hc] at this
      obtain ⟨count, w₁, habandon, h₂⟩ := Tx.bind_ok.mp h₁
      obtain ⟨t, ht, -, rfl⟩ := Slot.updateMany_ok habandon
      have hledger : ledger (Db.paymentAttempts.set t w₀) = ledger w₀ := by
        refine ledger_updateAttempts ht fun a _ ha => ⟨rfl, ?_⟩
        simp only [Bool.and_eq_true, decide_eq_true_eq] at ha
        simp [ha.2]
      obtain ⟨r, w₂, htrans, h₃⟩ := Tx.bind_ok.mp h₂
      have hnote : (if r.isSome then
          insertOutboxEvent (.orderStatusChanged .paymentFailed) order else pure ()) w₂ =
            .ok ((), w') := by
        split at h₃
        · next hr =>
          rw [if_pos hr]
          obtain ⟨⟨⟩, w₄, hinsert, hret⟩ := Tx.bind_ok.mp h₃
          cases hret
          exact hinsert
        · next hr =>
          rw [if_neg hr]
          cases h₃
          rfl
      obtain ⟨hallowed, ⟨hs, hfresh, hw'⟩ | ⟨hs, -⟩⟩ := transition_notify_ok htrans hnote
      · exact .inr ⟨hempty,
          (posts_of_update hw' (.move hs hallowed hfresh)).congr_left hledger⟩
      · exact absurd (by rw [hledger, hstatus]) hs

theorem within_expirePendingOrder {S : Nat → String → Prop} {R : World → World → Prop}
    (hR : WholeFrame S R) (order : Order) : Tx.Within R (expirePendingOrder order) := by
  have := hR.refl
  have := hR.trans
  unfold expirePendingOrder
  refine Tx.within_bind (Tx.within_read _) fun isPending => ?_
  split
  · exact Tx.within_pure _
  · refine Tx.within_bind (Tx.within_read _) fun captured => ?_
    split
    · exact Tx.within_pure _
    · refine Tx.within_bind (Slot.within_updateMany fun w t ht => hR.attempts ht fun a ha => ?_)
        fun n => ?_
      · simp only [Bool.and_eq_true, decide_eq_true_eq] at ha
        exact ⟨by rw [ha.2]; decide, rfl, rfl, rfl, rfl, fun p hp => .inl hp⟩
      · refine Tx.within_bind (hR.transition _ _ _ _) fun r => ?_
        split
        · exact Tx.within_bind (within_insertOutboxEvent hR.toMoveFrame _ _)
            fun _ => Tx.within_pure _
        · exact Tx.within_pure _

/-! ## The orders service -/

/-- A status change with its history row and its notice, or nothing when the order has moved
on. -/
theorem transitionOrderWithHistory_ok {order : Order} {target : OrderStatus} {actor : Actor}
    {reason : Option String} {refundPending : Bool}
    (h : transitionOrderWithHistory order target actor reason refundPending w = .ok ((), w')) :
    Posts .still order.id w w' ∨
      (isTransitionAllowed order.status target = true ∧
        Posts (.move target) order.id w w') := by
  unfold transitionOrderWithHistory at h
  obtain ⟨⟨⟩, w₀, hassert, h₁⟩ := Tx.bind_ok.mp h
  have hallowed : isTransitionAllowed order.status target = true ∧ w₀ = w := by
    unfold assertTransitionAllowed at hassert
    split at hassert
    · next ha =>
      cases hassert
      exact ⟨ha, rfl⟩
    · cases hassert
  obtain ⟨hallowed, rfl⟩ := hallowed
  obtain ⟨count, w₁, hcas, h₂⟩ := Tx.bind_ok.mp h₁
  obtain ⟨hc, hs, hw₁⟩ | ⟨hc, -, rfl⟩ := casStatus_ok hcas
  · rw [if_neg (by simp [hc])] at h₂
    obtain ⟨row, w₂, hhist, h₃⟩ := Tx.bind_ok.mp h₂
    obtain ⟨_, -, hrow, -⟩ := Slot.create_ok hhist
    have hw₂ := createHistory_ok hhist
    simp only [query_transaction, Tx.bind_read] at h₃
    generalize w₂.users.get _ = user at h₃
    cases user with
    | none => cases h₃
    | some user =>
        obtain ⟨event, w₃, hout, hret⟩ := Tx.bind_ok.mp h₃
        cases hret
        obtain ⟨_, -, hevent, -⟩ := Slot.create_ok hout
        obtain ⟨hfresh, hw'⟩ := createOutbox_ok hout
        simp only [hrow] at hw₂
        simp only [hevent] at hfresh hw'
        rw [hw₁, update_self, update_idem] at hw₂
        rw [hw₂, update_self] at hfresh hw'
        refine .inr ⟨hallowed, posts_of_update (L := _) ?_ (.move hs hallowed hfresh)⟩
        rw [hw', update_idem]
  · rw [if_pos hc] at h₂
    cases h₂
    exact .inl (posts_still _ rfl)

theorem within_transitionOrderWithHistory {R : World → World → Prop} (hR : TransitionFrame R)
    (order : Order) (target : OrderStatus) (actor : Actor) (reason : Option String)
    (refundPending : Bool) :
    Tx.Within R (transitionOrderWithHistory order target actor reason refundPending) := by
  have := hR.refl
  have := hR.trans
  unfold transitionOrderWithHistory
  refine Tx.within_bind ?_ fun _ =>
    Tx.within_bind (Slot.within_updateMany fun w t ht => hR.status ht) fun n => ?_
  · unfold assertTransitionAllowed
    split
    · exact Tx.within_pure _
    · exact Tx.within_throw _
  · split
    · exact Tx.within_pure _
    · refine Tx.within_bind (Slot.within_create fun w t _ => hR.history w t) fun _ =>
        Tx.within_bind (Tx.within_read _) fun user => ?_
      cases user with
      | none => exact Tx.within_throw _
      | some user =>
          exact Tx.within_bind (Slot.within_create fun w t _ => hR.outbox w t)
            fun _ => Tx.within_pure _

/-- A cancellation writes down the refund it owes even when the order has moved on. -/
theorem recordCancellation_ok {terms : RefundTerms} {i : Nat} {order : Order}
    {capturedAttempt : Option PaymentAttempt} {actor : Actor} {reason : Option String}
    (hcap : ∀ a ∈ capturedAttempt, a.status = .captured →
      ∃ a' ∈ w.paymentAttempts, a'.id = a.id ∧ a'.status = .captured ∧
        a'.amountPaise = a.amountPaise)
    (hfree : terms.unrefunded → ∀ a ∈ capturedAttempt, a.status = .captured →
      alreadyReserved w a.id ≤ 0)
    (h : recordCancellation order capturedAttempt actor reason w = .ok ((), w')) :
    (Posts .still order.id w w' ∨
      (isTransitionAllowed order.status .cancelled = true ∧
        Posts (.move .cancelled) order.id w w')) ∧
    Keeps {} w w' ∧ RefundStep terms i w w' := by
  unfold recordCancellation at h
  obtain ⟨⟨⟩, w₁, howed, htrans⟩ := Tx.bind_ok.mp h
  have hsame : RefundsSame w₁ w' :=
    within_transitionOrderWithHistory refundsSame_frame.frame.toTransitionFrame _ _ _ _ _ htrans
  have hkeeps : Keeps {} w₁ w' :=
    within_transitionOrderWithHistory (keeps_frame _).toTransitionFrame _ _ _ _ _ htrans
  obtain ⟨hledger, hkeeps₁, hstep⟩ : ledger w₁ = ledger w ∧ Keeps {} w w₁ ∧
      RefundStep terms i w w₁ := by
    unfold recordOwedRefund at howed
    generalize howes : capturedAttempt.filter _ = owed at howed
    cases owed with
    | none =>
        cases howed
        exact ⟨rfl, Std.Refl.refl _, .same rfl⟩
    | some attempt =>
        obtain ⟨row, w₂, hcreate, hret⟩ := Tx.bind_ok.mp howed
        cases hret
        obtain ⟨t, ht, -, rfl⟩ := Slot.create_ok hcreate
        obtain ⟨hmem, hs⟩ := Option.filter_eq_some_iff.mp howes
        obtain ⟨a, ha, hid, has, hamount⟩ := hcap attempt hmem (by simpa using hs)
        refine ⟨rfl, keeps_of_eq rfl rfl rfl, .owe _ _ t a ht rfl ha has (fun k => ?_) fun hu => ?_⟩
        · exact ⟨hid.symm, rfl, by simp [Refund.isReserving, reservingStatuses], hamount.symm⟩
        · rw [hid]
          exact hfree hu attempt hmem (by simpa using hs)
  refine ⟨?_, IsTrans.trans _ _ _ hkeeps₁ hkeeps, hstep.congr_right hsame⟩
  exact (transitionOrderWithHistory_ok htrans).imp (·.congr_left hledger)
    (And.imp_right (·.congr_left hledger))

/-- Recording a refund settles what is still owed for the order. -/
theorem recordRefund_ok {terms : RefundTerms} {i : Nat} {order : Order} {actor : Actor}
    {reason : Option String} (h : recordRefund order actor reason w = .ok ((), w')) :
    (Posts .still order.id w w' ∨
      (isTransitionAllowed order.status .refunded = true ∧
        Posts (.move .refunded) order.id w w')) ∧
    Keeps {} w w' ∧ RefundStep terms i w w' := by
  unfold recordRefund at h
  simp only [query_transaction, Tx.bind_read] at h
  obtain ⟨count, w₁, hupd, htrans⟩ := Tx.bind_ok.mp h
  obtain ⟨t, ht, -, rfl⟩ := Slot.updateMany_ok hupd
  have hledger : ledger (Db.refunds.set t w) = ledger w := rfl
  refine ⟨?_, ?_, ?_⟩
  · exact (transitionOrderWithHistory_ok htrans).imp (·.congr_left hledger)
      (And.imp_right (·.congr_left hledger))
  · refine IsTrans.trans _ (Db.refunds.set t w) _ (keeps_of_eq rfl rfl rfl) ?_
    exact within_transitionOrderWithHistory (keeps_frame _).toTransitionFrame _ _ _ _ _ htrans
  · refine .settle _ _ _ t ht ?_ (fun r _ hp => ?_) (fun _ _ _ => .inl ⟨rfl, by simp⟩)
      (fun _ r _ _ hs => ?_) fun _ r _ _ x hx => .inl hx
    · exact within_transitionOrderWithHistory refundsSame_frame.frame.toTransitionFrame
        _ _ _ _ _ htrans
    · simp only [Bool.and_eq_true, decide_eq_true_eq] at hp
      exact Refund.le_of_pending hp.1 rfl rfl
    · simp at hs

/-! ## Checkout -/

/-- A new order starts from a blank ledger, as long as only placed orders have left one. -/
theorem createOrder_ok {data : CheckoutOrder}
    (hblank : ∀ o, (ledger w o).status = none → ledger w o = Ledger.blank)
    (h : createOrder data w = .ok ((), w')) :
    Posts .place w.orders.nextKey w w' ∧ Keeps {} w w' ∧ RefundsSame w w' := by
  unfold createOrder at h
  obtain ⟨order, w₁, hcreate, h₁⟩ := Tx.bind_ok.mp h
  obtain ⟨row, w₂, hhist, hret⟩ := Tx.bind_ok.mp h₁
  cases hret
  obtain ⟨t, ht, horder, rfl⟩ := Slot.create_ok hcreate
  obtain ⟨t', ht', hrow, rfl⟩ := Slot.create_ok hhist
  refine ⟨?_, IsTrans.trans _ (Db.orders.set t w) _ (keeps_setOrders (Table.evolves_create ht))
    (keeps_of_eq rfl rfl rfl), rfl⟩
  have hid : order.id = w.orders.nextKey := by rw [horder]; rfl
  have hnone : ledger w w.orders.nextKey = Ledger.blank := by
    refine hblank _ ?_
    simp [ledger, Table.get_eq_none_of_le (Nat.le_refl _)]
  have hplaced : ledger (Db.orders.set t w) = update (ledger w) w.orders.nextKey
      { Ledger.blank with status := some .pendingPayment } := by
    funext o
    have hget : t.get o = _ := Table.get_create ht o
    by_cases ho : o = w.orders.nextKey
    · subst ho
      rw [update_self, ← hnone]
      simp only [ledger, Db.orders]
      rw [hget]
      simp [Db.orders]
    · rw [update_of_ne ho]
      simp only [ledger, Db.orders]
      rw [hget]
      simp [Db.orders, ho]
  have hw' := createHistory_ok hhist
  simp only [hrow, hid] at hw'
  refine posts_of_update (L := _) ?_ (by rw [hnone]; exact .place)
  rw [hw', hplaced, update_self, update_idem]
  rfl

end PrintForge
