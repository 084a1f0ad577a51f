import PrintForge.Payments.Transitions

/-!
# What webhook events do to the ledgers

A payment event finds or creates the attempt of its payment and acts on it. When its
transaction commits, it has made one ledger step on the order it names, and the attempt or
the order shows it.
-/

namespace PrintForge

open Relational Concurrent Function

variable {w w' : World}

/-! ## Acting on an event -/

theorem bigInt_ok {amount : Option Int} {n : Int}
    (h : (bigInt amount : Transaction Int) w = .ok (n, w')) : amount = some n ∧ w' = w := by
  cases amount with
  | none => cases h
  | some m =>
      cases h
      exact ⟨rfl, rfl⟩

theorem assertCapturedPaymentMatchesOrder_ok {order : Order} {captured : CapturedPayment}
    (h : assertCapturedPaymentMatchesOrder order captured w = .ok ((), w')) :
    capturedPaymentMismatch order captured = none ∧ w' = w := by
  unfold assertCapturedPaymentMatchesOrder at h
  cases hm : capturedPaymentMismatch order captured with
  | some err =>
      rw [hm] at h
      cases h
  | none =>
      rw [hm] at h
      cases h
      exact ⟨rfl, rfl⟩

/-- The payment of an event is the one the order is waiting for. -/
def Matches (order : Order) (paymentEntity : RazorpayPaymentEntity) : Prop :=
  ∃ n, paymentEntity.amount = some n ∧ capturedPaymentMismatch order
    ⟨paymentEntity.orderId, n, paymentEntity.currency.getD defaultCurrency⟩ = none

section Events

variable {order : Order} {attempt : PaymentAttempt} {paymentEntity : RazorpayPaymentEntity}

theorem applyCaptured_ok (hord : w.orders.get order.id = some order)
    (hatt : w.paymentAttempts.get attempt.id = some attempt) (hown : attempt.orderId = order.id)
    (h : applyCaptured order attempt paymentEntity w = .ok ((), w')) :
    Matches order paymentEntity ∧
      ((attempt.status = .captured ∧ w' = w) ∨
        (order.status ≠ .pendingPayment ∧ Posts .lateCapture order.id w w') ∨
        (order.status = .pendingPayment ∧ Posts .pay order.id w w')) := by
  unfold applyCaptured at h
  obtain ⟨n, w₀, hbig, h₁⟩ := Tx.bind_ok.mp h
  obtain ⟨hamount, rfl⟩ := bigInt_ok hbig
  obtain ⟨⟨⟩, w₀', hassert, h₂⟩ := Tx.bind_ok.mp h₁
  obtain ⟨hmatch, rfl⟩ := assertCapturedPaymentMatchesOrder_ok hassert
  obtain ⟨count, w₁, hcap, h₃⟩ := Tx.bind_ok.mp h₂
  refine ⟨⟨n, hamount, hmatch⟩, ?_⟩
  have hstatus : (ledger w₀' order.id).status = some order.status := ledger_status_of_get hord
  obtain ⟨hc, a, ha, -, -, hempty, hw₁⟩ | ⟨hc, hall, rfl⟩ :=
    capture_ok hcap (fun _ => rfl) fun _ => rfl
  · obtain rfl : attempt = a := Option.some.inj (hatt.symm.trans ha)
    rw [hown] at hempty hw₁
    rw [if_neg (by simp [hc])] at h₃
    split at h₃
    · next hnot =>
      cases h₃
      have hne : order.status ≠ .pendingPayment := by
        rintro hp
        rw [isTransitionAllowed_paid.mpr hp] at hnot
        cases hnot
      exact .inr (.inl ⟨hne, posts_of_update hw₁ (.lateCapture _ hstatus hne hempty)⟩)
    · next hallowed =>
      have hpending : order.status = .pendingPayment := by simpa using hallowed
      obtain ⟨r, w₂, htrans, hnote⟩ := Tx.bind_ok.mp h₃
      obtain ⟨-, ⟨-, hfresh, hw'⟩ | ⟨hs, -⟩⟩ := transition_notify_ok htrans hnote
      · rw [hw₁, update_self] at hfresh
        refine .inr (.inr ⟨hpending, posts_of_update (L := _) ?_
          (.pay attempt.id (by rw [hstatus, hpending]) hempty hfresh)⟩)
        rw [hw', hw₁, update_self, update_idem, hpending]
        rfl
      · rw [hw₁, update_self] at hs
        exact absurd hstatus hs
  · rw [if_pos hc] at h₃
    cases h₃
    exact .inl ⟨hall attempt hatt, rfl⟩

/-- A failed payment closes its attempt and the order with it. -/
theorem applyFailed_ok (hord : w.orders.get order.id = some order)
    (hatt : w.paymentAttempts.get attempt.id = some attempt)
    (h : applyFailed order attempt paymentEntity w = .ok ((), w')) :
    ((attempt.status = .captured ∨ attempt.status = .failed) ∧ w' = w) ∨
      (order.status = .pendingPayment ∧ attempt.status ≠ .captured ∧ attempt.status ≠ .failed ∧
        Posts (.move .paymentFailed) order.id w w' ∧
          ∃ a ∈ w'.paymentAttempts, a.orderId = attempt.orderId ∧ a.status = .failed ∧
            a.razorpayPaymentId = some paymentEntity.id) := by
  unfold applyFailed at h
  obtain ⟨count, w₁, hupd, hrest⟩ := Tx.bind_ok.mp h
  have hkey : ∀ a : PaymentAttempt, (decide (a.id = attempt.id) && decide (a.status ≠ .captured) &&
      decide (a.status ≠ .failed)) = true → Schema.key a = attempt.id := by
    intro a ha
    simp only [Bool.and_eq_true, decide_eq_true_eq] at ha
    exact ha.1.1
  obtain ⟨hc, a, t, ha, hp, ht, hw₁⟩ | ⟨hc, hnone, rfl⟩ := Slot.updateMany_key_ok hkey hupd
  · rw [if_neg (by simp [hc])] at hrest
    obtain rfl : attempt = a := Option.some.inj (hatt.symm.trans ha)
    have hledger : ledger w₁ = ledger w := by
      rw [hw₁]
      refine ledger_updateAttempts ht fun b _ hb => ⟨rfl, ?_⟩
      simp only [Bool.and_eq_true, decide_eq_true_eq] at hb
      simp [hb.1.2]
    have hstatus : (ledger w₁ order.id).status = some order.status := by
      rw [hledger]
      exact ledger_status_of_get hord
    obtain ⟨r, w₂, htrans, hnote⟩ := Tx.bind_ok.mp hrest
    obtain ⟨hallowed, ⟨-, hfresh, hw'⟩ | ⟨hs, -⟩⟩ := transition_notify_ok htrans hnote
    · have hpending : order.status = .pendingPayment := by simpa using hallowed
      have hopen := hp
      simp only [Bool.and_eq_true, decide_eq_true_eq] at hopen
      refine .inr ⟨hpending, hopen.1.2, hopen.2, ?_, ?_⟩
      · refine (posts_of_update hw' ?_).congr_left hledger
        exact .move (by rw [hstatus]) hallowed hfresh
      · have hrow := (Table.get_update_key ht hkey ha hp attempt.id).trans (if_pos rfl)
        have htable : w₁.paymentAttempts = t := by rw [hw₁]; rfl
        have hsame : w'.paymentAttempts = w₁.paymentAttempts := by
          exact within_transition_notify (R := Tx.Same World.paymentAttempts)
            (TransitionFrame.whole
              ⟨inferInstance, inferInstance, fun _ => rfl, fun _ _ => rfl, fun _ _ => rfl⟩)
            _ _ _ _ _ hrest
        rw [hsame, htable]
        exact ⟨_, (Table.get_eq_some.mp hrow).1, rfl, rfl, rfl⟩
    · exact absurd hstatus hs
  · rw [if_pos hc] at hrest
    cases hrest
    have hmem := (Table.get_eq_some.mp hatt).1
    have := hnone attempt hmem
    refine .inl ⟨?_, rfl⟩
    by_cases hcap : attempt.status = .captured
    · exact .inl hcap
    · exact .inr (by simpa [hcap] using this)

/-- The attempt an event is about carries the payment's id, and finding it changes no ledger.
Unless it carried the id before, it is an open one of the order. -/
theorem findOrCreateAttemptFor_found {paymentAccountId : Option Nat}
    (h : findOrCreateAttemptFor paymentAccountId order paymentEntity w = .ok (attempt, w')) :
    ledger w' = ledger w ∧ w'.paymentAttempts.get attempt.id = some attempt ∧
      attempt.razorpayPaymentId = some paymentEntity.id ∧
      (w' = w ∨ (attempt.orderId = order.id ∧ attempt.status = .initiated ∧
        ∀ a ∈ w.paymentAttempts, a.razorpayPaymentId ≠ some paymentEntity.id)) := by
  unfold findOrCreateAttemptFor at h
  simp only [query_transaction, Tx.bind_read] at h
  generalize hpay : w.paymentAttempts.findFirst _ = byPaymentId at h
  cases byPaymentId with
  | some a =>
      cases h
      obtain ⟨hmem, hid⟩ := Table.findFirst_some hpay
      have hid : attempt.razorpayPaymentId = some paymentEntity.id := by simpa using hid
      exact ⟨rfl, Table.get_key hmem, hid, .inl rfl⟩
  | none =>
      have hfree : ∀ a ∈ w.paymentAttempts, a.razorpayPaymentId ≠ some paymentEntity.id := by
        intro a ha
        simpa using Table.findFirst_none hpay a ha
      simp only [Tx.bind_read] at h
      generalize hopen : w.paymentAttempts.findLast _ = byOrder at h
      cases byOrder with
      | some a =>
          obtain ⟨hmem, hrow⟩ := Table.findLast_some hopen
          simp only [Bool.and_eq_true, decide_eq_true_eq] at hrow
          obtain ⟨a₀, t, hget, ht, rfl, rfl⟩ := Slot.update_ok h
          have hself : w.paymentAttempts.get a.id = some a := Table.get_key hmem
          obtain rfl : a = a₀ := Option.some.inj (hself.symm.trans hget)
          refine ⟨ledger_updateAttempts ht fun b _ _ => ⟨rfl, Iff.rfl⟩, ?_, rfl,
            .inr ⟨hrow.1.1, hrow.2, hfree⟩⟩
          exact (Table.get_update_key ht (fun r hr => by simpa using hr) hget (by simp) _).trans
            (if_pos rfl)
      | none =>
          obtain ⟨n, w₁, hbig, hcreate⟩ := Tx.bind_ok.mp h
          obtain ⟨-, rfl⟩ := bigInt_ok hbig
          have hledger := createAttempt_ok hcreate
          obtain ⟨t, ht, rfl, rfl⟩ := Slot.create_ok hcreate
          exact ⟨hledger (by simp), (Table.get_create ht _).trans (if_pos rfl), rfl,
            .inr ⟨rfl, rfl, hfree⟩⟩

/-- Where the payment's id stands on no other order, the attempt is a row of the order. -/
theorem findOrCreateAttemptFor_ok {paymentAccountId : Option Nat}
    (hown : ∀ a ∈ w.paymentAttempts, a.razorpayPaymentId = some paymentEntity.id →
      a.orderId = order.id)
    (h : findOrCreateAttemptFor paymentAccountId order paymentEntity w = .ok (attempt, w')) :
    ledger w' = ledger w ∧ w'.paymentAttempts.get attempt.id = some attempt ∧
      attempt.orderId = order.id ∧ attempt.razorpayPaymentId = some paymentEntity.id ∧
      (w' = w ∨ attempt.status = .initiated ∧
        ∀ a ∈ w.paymentAttempts, a.razorpayPaymentId ≠ some paymentEntity.id) := by
  obtain ⟨hledger, hatt, hpay, rfl | ⟨hao, hs, hfree⟩⟩ := findOrCreateAttemptFor_found h
  · exact ⟨hledger, hatt, hown _ (Table.get_eq_some.mp hatt).1 hpay, hpay, .inl rfl⟩
  · exact ⟨hledger, hatt, hao, hpay, .inr ⟨hs, hfree⟩⟩

/-- The attempt an event is applied to, if there is one already. -/
def attemptFor (w : World) (order : Order) (paymentEntity : RazorpayPaymentEntity) :
    Option PaymentAttempt :=
  (w.paymentAttempts.findFirst (·.razorpayPaymentId = some paymentEntity.id)).or
    (w.paymentAttempts.findLast fun a =>
      a.orderId = order.id && a.razorpayOrderId = paymentEntity.orderId &&
        a.status = .initiated)

/-- The order whose attempt an event about `order` is applied to. -/
def ownerFor (w : World) (order : Order) (paymentEntity : RazorpayPaymentEntity) : Nat :=
  ((attemptFor w order paymentEntity).map (·.orderId)).getD order.id

/-- The attempt that is found is one of the order that `ownerFor` names. -/
theorem findOrCreateAttemptFor_owner {paymentAccountId : Option Nat}
    (h : findOrCreateAttemptFor paymentAccountId order paymentEntity w = .ok (attempt, w')) :
    attempt.orderId = ownerFor w order paymentEntity := by
  unfold findOrCreateAttemptFor at h
  unfold ownerFor attemptFor
  simp only [query_transaction, Tx.bind_read] at h
  generalize w.paymentAttempts.findFirst _ = byPaymentId at h ⊢
  cases byPaymentId with
  | some a =>
      cases h
      rfl
  | none =>
      simp only [Tx.bind_read] at h
      generalize hopen : w.paymentAttempts.findLast _ = byOrder at h ⊢
      cases byOrder with
      | some a =>
          obtain ⟨hmem, -⟩ := Table.findLast_some hopen
          obtain ⟨a₀, t, hget, -, rfl, -⟩ := Slot.update_ok h
          have hself : w.paymentAttempts.get a.id = some a := Table.get_key hmem
          obtain rfl : a = a₀ := Option.some.inj (hself.symm.trans hget)
          rfl
      | none =>
          obtain ⟨n, w₁, hbig, hcreate⟩ := Tx.bind_ok.mp h
          obtain ⟨t, -, rfl, -⟩ := Slot.create_ok hcreate
          rfl

/-- Where the payment's id stands on no other order, that is the order itself. -/
theorem ownerFor_own (hown : ∀ a ∈ w.paymentAttempts,
    a.razorpayPaymentId = some paymentEntity.id → a.orderId = order.id) :
    ownerFor w order paymentEntity = order.id := by
  unfold ownerFor attemptFor
  cases hpay : w.paymentAttempts.findFirst _ with
  | some a =>
      obtain ⟨hmem, hid⟩ := Table.findFirst_some hpay
      exact hown a hmem (by simpa using hid)
  | none =>
      rw [Option.none_or]
      cases hopen : w.paymentAttempts.findLast _ with
      | none => rfl
      | some a =>
          obtain ⟨-, hrow⟩ := Table.findLast_some hopen
          simp only [Bool.and_eq_true, decide_eq_true_eq] at hrow
          exact hrow.1.1

/-- The attempt of the payment has been captured or has failed. -/
def Closed (w : World) (paymentEntity : RazorpayPaymentEntity) : Prop :=
  ∃ a ∈ w.paymentAttempts, a.razorpayPaymentId = some paymentEntity.id ∧
    (a.status = .captured ∨ a.status = .failed)

instance (w : World) (paymentEntity : RazorpayPaymentEntity) :
    Decidable (Closed w paymentEntity) :=
  inferInstanceAs (Decidable (∃ a ∈ w.paymentAttempts.rows, _))

/-- The attempt that was found is closed exactly if the payment had a closed one before. -/
theorem findOrCreateAttemptFor_closed {paymentAccountId : Option Nat}
    (hfind : findOrCreateAttemptFor paymentAccountId order paymentEntity w = .ok (attempt, w')) :
    attempt.status = .captured ∨ attempt.status = .failed ↔ Closed w paymentEntity := by
  obtain ⟨-, hatt, hpay, hw⟩ := findOrCreateAttemptFor_found hfind
  have hmem := (Table.get_eq_some.mp hatt).1
  constructor
  · intro hs
    obtain rfl | ⟨-, hopen, -⟩ := hw
    · exact ⟨attempt, hmem, hpay, hs⟩
    · simp [hopen] at hs
  · rintro ⟨a, ha, hid, hs⟩
    obtain rfl | ⟨-, -, hfree⟩ := hw
    · obtain rfl : a = attempt :=
        Table.eq_of_clash ha hmem (.inl ⟨hid.trans hpay.symm, by simp [hid]⟩)
      exact hs
    · exact absurd hid (hfree a ha)

/-- There is something to work on: an attempt of the payment, an open one, or the amount a
new one needs. -/
def Findable (w : World) (order : Order) (paymentEntity : RazorpayPaymentEntity) : Prop :=
  paymentEntity.amount.isSome ∨ ∃ a ∈ w.paymentAttempts,
    a.razorpayPaymentId = some paymentEntity.id ∨
      (a.orderId = order.id ∧ a.razorpayOrderId = paymentEntity.orderId ∧ a.status = .initiated)

instance (w : World) (order : Order) (paymentEntity : RazorpayPaymentEntity) :
    Decidable (Findable w order paymentEntity) :=
  inferInstanceAs (Decidable (_ ∨ ∃ a ∈ w.paymentAttempts.rows, _))

theorem findOrCreateAttemptFor_findable {paymentAccountId : Option Nat} {w' : World}
    (h : findOrCreateAttemptFor paymentAccountId order paymentEntity w = .ok (attempt, w')) :
    Findable w order paymentEntity := by
  unfold findOrCreateAttemptFor at h
  simp only [query_transaction, Tx.bind_read] at h
  generalize hpay : w.paymentAttempts.findFirst _ = byPaymentId at h
  cases byPaymentId with
  | some a =>
      obtain ⟨hmem, hid⟩ := Table.findFirst_some hpay
      exact .inr ⟨a, hmem, .inl (by simpa using hid)⟩
  | none =>
      simp only [Tx.bind_read] at h
      generalize hopen : w.paymentAttempts.findLast _ = byOrder at h
      cases byOrder with
      | some a =>
          obtain ⟨hmem, hrow⟩ := Table.findLast_some hopen
          simp only [Bool.and_eq_true, decide_eq_true_eq] at hrow
          exact .inr ⟨a, hmem, .inr ⟨hrow.1.1, hrow.1.2, hrow.2⟩⟩
      | none =>
          obtain ⟨n, w₁, hbig, -⟩ := Tx.bind_ok.mp h
          exact .inl (by simp [(bigInt_ok hbig).1])

/-- The payment id of the event may come to stand on an attempt of the order. -/
def eventGrants (order : Order) (paymentEntity : RazorpayPaymentEntity) : Grants where
  payment _ o p := o = order.id ∧ p = paymentEntity.id

theorem findOrCreateAttemptFor_keeps {paymentAccountId : Option Nat}
    (h : findOrCreateAttemptFor paymentAccountId order paymentEntity w = .ok (attempt, w')) :
    Keeps (eventGrants order paymentEntity) w w' := by
  unfold findOrCreateAttemptFor at h
  simp only [query_transaction, Tx.bind_read] at h
  generalize hpay : w.paymentAttempts.findFirst _ = byPaymentId at h
  cases byPaymentId with
  | some a =>
      cases h
      exact Std.Refl.refl _
  | none =>
      simp only [Tx.bind_read] at h
      generalize hopen : w.paymentAttempts.findLast _ = byOrder at h
      cases byOrder with
      | some a =>
          obtain ⟨hmem, hrow⟩ := Table.findLast_some hopen
          simp only [Bool.and_eq_true, decide_eq_true_eq] at hrow
          obtain ⟨a₀, t, -, ht, -, rfl⟩ := Slot.update_ok h
          -- the key picks out the row that was read
          have hrow' : ∀ b ∈ w.paymentAttempts, b.id = a.id → b = a := fun b hb hid =>
            Table.eq_of_key hb hmem hid
          refine keeps_updateAttempts (S := fun k p => k = a.id ∧ p = paymentEntity.id) ht
            (fun b hb hkey => ?_) fun b hb q hq => ?_
          · have hkey : b.id = a.id := by simpa using hkey
            refine ⟨by rw [hrow' b hb hkey, hrow.2]; decide, rfl, rfl, rfl, rfl, fun p hp => ?_⟩
            exact .inr ⟨hkey, by simpa using hp.symm⟩
          · exact ⟨by rw [hrow' b hb hq.1, hrow.1.1], hq.2⟩
      | none =>
          obtain ⟨n, w₁, hbig, hcreate⟩ := Tx.bind_ok.mp h
          obtain ⟨-, rfl⟩ := bigInt_ok hbig
          obtain ⟨t, ht, -, rfl⟩ := Slot.create_ok hcreate
          refine keeps_createAttempt ht fun k p hp => ⟨rfl, ?_⟩
          simpa using hp.symm

theorem within_findOrCreateAttemptFor {R : World → World → Prop} [Std.Refl R]
    [IsTrans World R] (ha : ∀ w t, R w (Db.paymentAttempts.set t w))
    (paymentAccountId : Option Nat) (order : Order) (paymentEntity : RazorpayPaymentEntity) :
    Tx.Within R (findOrCreateAttemptFor paymentAccountId order paymentEntity) := by
  unfold findOrCreateAttemptFor
  refine Tx.within_bind (Tx.within_read _) fun byPaymentId => ?_
  cases byPaymentId with
  | some a => exact Tx.within_pure _
  | none =>
      refine Tx.within_bind (Tx.within_read _) fun byOrder => ?_
      cases byOrder with
      | some a => exact Slot.within_update fun w t _ => ha w t
      | none =>
          refine Tx.within_bind (within_bigInt _) fun n => ?_
          exact Slot.within_create fun w t _ => ha w t

theorem within_applyPaymentEvent {S : Nat → String → Prop} {R : World → World → Prop}
    (hR : WholeFrame S R) (event : String) (order : Order) (attempt : PaymentAttempt)
    (paymentEntity : RazorpayPaymentEntity) (hS : S attempt.id paymentEntity.id) :
    Tx.Within R (applyPaymentEvent event order attempt paymentEntity) := by
  have := hR.refl
  have := hR.trans
  unfold applyPaymentEvent
  split
  · refine Tx.within_bind ?_ fun _ => Tx.within_pure _
    unfold applyCaptured
    refine Tx.within_bind (within_bigInt _) fun n => Tx.within_bind ?_ fun _ =>
      Tx.within_bind (Slot.within_updateMany fun w t ht => hR.attempts ht fun a ha => ?_)
        fun n => ?_
    · unfold assertCapturedPaymentMatchesOrder
      split
      · exact Tx.within_throw _
      · exact Tx.within_pure _
    · simp only [Bool.and_eq_true, decide_eq_true_eq] at ha
      refine ⟨ha.2, rfl, rfl, rfl, rfl, fun p hp => .inr ?_⟩
      obtain rfl : paymentEntity.id = p := by simpa using hp
      rwa [ha.1]
    · split
      · exact Tx.within_pure _
      · split
        · exact Tx.within_pure _
        · exact within_transition_notify hR.toMoveFrame _ _ _ _ _
  · refine Tx.within_bind ?_ fun _ => Tx.within_pure _
    unfold applyFailed
    refine Tx.within_bind
      (Slot.within_updateMany fun w t ht => hR.attempts ht fun a ha => ?_) fun n => ?_
    · simp only [Bool.and_eq_true, decide_eq_true_eq] at ha
      refine ⟨ha.1.2, rfl, rfl, rfl, rfl, fun p hp => .inr ?_⟩
      obtain rfl : paymentEntity.id = p := by simpa using hp
      rwa [ha.1.1]
    · split
      · exact Tx.within_pure _
      · exact within_transition_notify hR.toMoveFrame _ _ _ _ _

/-- What an event that was acted on has left behind. -/
def Applied (event : String) (paymentEntity : RazorpayPaymentEntity) (orderId : Nat)
    (w : World) : Prop :=
  if event = capturedEvent then
    (ledger w orderId).captured.Nonempty
  else
    ∃ a ∈ w.paymentAttempts, a.razorpayPaymentId = some paymentEntity.id ∧
      a.orderId = orderId ∧ (a.status = .captured ∨ a.status = .failed)

/-- What acting on an event does to the ledger of its order. -/
inductive EventPosts (event : String) (order : Order) (paymentEntity : RazorpayPaymentEntity)
    (w w' : World) : Prop
  | duplicate (h : Posts .still order.id w w') (hc : Closed w paymentEntity)
      (ho : w'.orders = w.orders) (ha : w'.paymentAttempts = w.paymentAttempts)
  | late (he : event = capturedEvent) (hm : Matches order paymentEntity)
      (h : Posts .lateCapture order.id w w')
  | paid (he : event = capturedEvent) (hm : Matches order paymentEntity)
      (h : Posts .pay order.id w w')
  | failed (he : event ≠ capturedEvent) (hc : ¬ Closed w paymentEntity)
      (hf : Findable w order paymentEntity) (h : Posts (.move .paymentFailed) order.id w w')

theorem Posts.captured_nonempty {k : Ledger.Kind} {o : Nat} (h : Posts k o w w')
    (hk : k = .lateCapture ∨ k = .pay) : (ledger w' o).captured.Nonempty := by
  obtain ⟨hstep, -⟩ := h
  generalize ledger w' o = L' at hstep ⊢
  rcases hk with rfl | rfl
  · cases hstep
    exact Set.singleton_nonempty _
  · cases hstep
    exact Set.singleton_nonempty _

theorem applyPaymentEvent_ok {event : String} {outcome : WebhookOutcome}
    (hord : w.orders.get order.id = some order)
    (hatt : w.paymentAttempts.get attempt.id = some attempt) (hown : attempt.orderId = order.id)
    (hpay : attempt.razorpayPaymentId = some paymentEntity.id)
    (h : applyPaymentEvent event order attempt paymentEntity w = .ok (outcome, w')) :
    EventPosts event order paymentEntity w w' ∧ Applied event paymentEntity order.id w' := by
  have hmem : attempt ∈ w.paymentAttempts := (Table.get_eq_some.mp hatt).1
  unfold applyPaymentEvent at h
  unfold Applied
  by_cases he : event = capturedEvent
  · rw [if_pos he] at h ⊢
    obtain ⟨⟨⟩, w₁, hcap, hret⟩ := Tx.bind_ok.mp h
    cases hret
    obtain ⟨hm, ⟨hc, rfl⟩ | ⟨-, hposts⟩ | ⟨-, hposts⟩⟩ := applyCaptured_ok hord hatt hown hcap
    · exact ⟨.duplicate (posts_still _ rfl) ⟨attempt, hmem, hpay, .inl hc⟩ rfl rfl,
        attempt.id, attempt, hmem, rfl, hown, hc⟩
    · exact ⟨.late he hm hposts, hposts.captured_nonempty (.inl rfl)⟩
    · exact ⟨.paid he hm hposts, hposts.captured_nonempty (.inr rfl)⟩
  · rw [if_neg he] at h ⊢
    obtain ⟨⟨⟩, w₁, hfail, hret⟩ := Tx.bind_ok.mp h
    cases hret
    obtain ⟨hs, rfl⟩ | ⟨-, hnc, hnf, hposts, a, ha, hao, hs, hid⟩ :=
      applyFailed_ok hord hatt hfail
    · exact ⟨.duplicate (posts_still _ rfl) ⟨attempt, hmem, hpay, hs⟩ rfl rfl, attempt,
        hmem, hpay, hown, hs⟩
    · refine ⟨.failed he ?_ (.inr ⟨attempt, hmem, .inl hpay⟩) hposts, a, ha, hid,
        hao.trans hown, .inr hs⟩
      rintro ⟨b, hb, hbid, hbs⟩
      obtain rfl : b = attempt := Table.eq_of_clash hb hmem
        (.inl ⟨hbid.trans hpay.symm, by simp [hbid]⟩)
      exact hbs.elim hnc hnf

/-! ## The two routes -/

/-- The account of the route accepts the order: it is bound to it and still resolves. -/
def accountAccepts (w : World) (paymentAccountId : Option Nat) (order : Order) : Bool :=
  match paymentAccountId with
  | none => true
  | some id => order.paymentAccountId = some id &&
      (w.paymentAccounts.get id).any (·.tenantId = order.tenantId)

theorem accountAccepts_some {id : Nat} (h : accountAccepts w (some id) order = true) :
    order.paymentAccountId = some id ∧
      (w.paymentAccounts.get id).any (·.tenantId = order.tenantId) = true := by
  simpa [accountAccepts] using h

/-- The order and the payment a payload is acted on for, if it is. -/
def eventTarget (w : World) (paymentAccountId : Option Nat) (payload : RazorpayWebhookPayload) :
    Option (Order × RazorpayPaymentEntity) :=
  (paymentOf payload).bind fun paymentEntity =>
    ((w.orders.findFirst (·.razorpayOrderId = some paymentEntity.orderId)).filter
      (accountAccepts w paymentAccountId)).map (·, paymentEntity)

theorem eventTarget_eq_some {w : World} {paymentAccountId : Option Nat}
    {payload : RazorpayWebhookPayload} {order : Order} {paymentEntity : RazorpayPaymentEntity} :
    eventTarget w paymentAccountId payload = some (order, paymentEntity) ↔
      paymentOf payload = some paymentEntity ∧
      w.orders.findFirst (·.razorpayOrderId = some paymentEntity.orderId) = some order ∧
      accountAccepts w paymentAccountId order = true := by
  simp only [eventTarget, Option.bind_eq_some_iff, Option.map_eq_some_iff,
    Option.filter_eq_some_iff, Prod.mk.injEq]
  constructor
  · rintro ⟨p, hp, o, ⟨ho, ha⟩, rfl, rfl⟩
    exact ⟨hp, ho, ha⟩
  · rintro ⟨hp, ho, ha⟩
    exact ⟨_, hp, _, ⟨ho, ha⟩, rfl, rfl⟩

/-- The payment id of an event does not stand on an attempt of another order. -/
def OwnPayment (w : World) (order : Order) (paymentEntity : RazorpayPaymentEntity) : Prop :=
  ∀ a ∈ w.paymentAttempts, a.razorpayPaymentId = some paymentEntity.id → a.orderId = order.id

instance (w : World) (order : Order) (paymentEntity : RazorpayPaymentEntity) :
    Decidable (OwnPayment w order paymentEntity) :=
  inferInstanceAs (Decidable (∀ a ∈ w.paymentAttempts.rows, _ → _))

/-- What applying a payload may come to. -/
inductive EventOutcome (w : World) (paymentAccountId : Option Nat)
    (payload : RazorpayWebhookPayload) (w' : World) : Prop
  | untouched (ht : eventTarget w paymentAccountId payload = none) (h : ledger w' = ledger w)
      (hk : Keeps {} w w')
      (hr : ∀ (terms : RefundTerms) (i : Nat), (terms.honest → RefundEventGenuine w payload) →
        RefundStep terms i w w')
  | acted (order : Order) (paymentEntity : RazorpayPaymentEntity)
      (ht : eventTarget w paymentAccountId payload = some (order, paymentEntity))
      (hp : EventPosts payload.event order paymentEntity w w')
      (ha : Applied payload.event paymentEntity order.id w')
      (hk : Keeps (eventGrants order paymentEntity) w w') (hr : RefundsSame w w')

/-- The part both routes share: find the attempt, then act on it. -/
theorem actOnEvent_ok {payload : RazorpayWebhookPayload} {outcome : WebhookOutcome}
    {routeAccount stampAccount : Option Nat} {w₁ : World}
    (ht : eventTarget w routeAccount payload = some (order, paymentEntity))
    (hown : OwnPayment w order paymentEntity)
    (hfind : findOrCreateAttemptFor stampAccount order paymentEntity w = .ok (attempt, w₁))
    (happly : applyPaymentEvent payload.event order attempt paymentEntity w₁ =
      .ok (outcome, w')) :
    EventOutcome w routeAccount payload w' := by
  obtain ⟨-, hord, -⟩ := eventTarget_eq_some.mp ht
  obtain ⟨hledger, hatt, hao, hpay, hfresh⟩ := findOrCreateAttemptFor_ok hown hfind
  have hsame : w₁.orders = w.orders :=
    within_findOrCreateAttemptFor (R := Tx.Same World.orders) (fun _ _ => rfl) _ _ _ hfind
  have hget : w₁.orders.get order.id = some order := by
    rw [hsame]
    exact Table.get_key (Table.findFirst_some hord).1
  obtain ⟨hposts, happlied⟩ := applyPaymentEvent_ok hget hatt hao hpay happly
  have hkeeps : Keeps (eventGrants order paymentEntity) w₁ w' :=
    (within_applyPaymentEvent (keeps_frame { payment := fun k _ p => k = attempt.id ∧
      p = paymentEntity.id }).whole _ _ _ _ (fun _ => ⟨rfl, rfl⟩) happly).onOrder
      ⟨attempt, hatt, hao⟩
  refine .acted order paymentEntity ht ?_ happlied
    (IsTrans.trans _ _ _ (findOrCreateAttemptFor_keeps hfind) hkeeps)
    (IsTrans.trans _ w₁ _ (within_findOrCreateAttemptFor (fun _ _ => rfl) _ _ _ hfind)
      (within_applyPaymentEvent refundsSame_frame.whole _ _ _ _ trivial happly))
  cases hposts with
  | duplicate h hc ho ha =>
      -- a closed attempt was not made by finding it
      obtain rfl : w₁ = w := by
        obtain hw | ⟨hs, -⟩ := hfresh
        · exact hw
        · obtain ⟨a, hmem, hid, hclosed⟩ := hc
          obtain rfl : a = attempt := Table.eq_of_clash hmem (Table.get_eq_some.mp hatt).1
            (.inl ⟨hid.trans hpay.symm, by simp [hid]⟩)
          simp [hs] at hclosed
      exact .duplicate h hc ho ha
  | late he hm h => exact .late he hm (h.congr_left hledger)
  | paid he hm h => exact .paid he hm (h.congr_left hledger)
  | failed he hc _ h =>
      refine .failed he ?_ (findOrCreateAttemptFor_findable hfind) (h.congr_left hledger)
      obtain rfl | ⟨-, hfree⟩ := hfresh
      · exact hc
      · rintro ⟨a, hmem, hid, -⟩
        exact hfree a hmem hid

/-- On the platform's route an event that has a target is acted on for it. -/
theorem applyWebhookEvent_target {payload : RazorpayWebhookPayload}
    (ht : eventTarget w none payload = some (order, paymentEntity)) :
    applyWebhookEvent payload w = (do
      let attempt ← findOrCreateAttemptFor none order paymentEntity
      applyPaymentEvent payload.event order attempt paymentEntity) w := by
  obtain ⟨hp, hord, -⟩ := eventTarget_eq_some.mp ht
  unfold applyWebhookEvent
  simp only [hp, query_transaction, Tx.bind_read, hord]
  rfl

theorem applyWebhookEvent_untargeted {payload : RazorpayWebhookPayload}
    (ht : eventTarget w none payload = none) :
    applyWebhookEvent payload w = .ok (.ignored, w) := by
  unfold applyWebhookEvent
  cases hp : paymentOf payload with
  | none => rfl
  | some paymentEntity =>
      simp only [query_transaction, Tx.bind_read]
      cases hord : w.orders.findFirst fun o => o.razorpayOrderId = some paymentEntity.orderId with
      | none => rfl
      | some order => simp [eventTarget, hp, hord, accountAccepts] at ht

theorem within_applyRefundWebhookEvent {R : World → World → Prop} [Std.Refl R]
    [IsTrans World R] (hr : ∀ w t, R w (Db.refunds.set t w)) (paymentAccountId : Nat)
    (payload : RazorpayWebhookPayload) :
    Tx.Within R (applyRefundWebhookEvent paymentAccountId payload) := by
  unfold applyRefundWebhookEvent
  cases payload.refund with
  | none => exact Tx.within_pure _
  | some refundEntity =>
      refine Tx.within_bind (Tx.within_read _) fun found => ?_
      cases found with
      | none => exact Tx.within_throw _
      | some refund =>
          dsimp only
          split
          · exact Tx.within_pure _
          · split
            · exact Tx.within_bind (Slot.within_updateMany fun w t _ => hr w t)
                fun _ => Tx.within_pure _
            · refine Tx.within_bind (within_bigInt _) fun _ => ?_
              split
              · exact Tx.within_throw _
              · exact Tx.within_bind (Slot.within_updateMany fun w t _ => hr w t)
                  fun _ => Tx.within_pure _

/-- A refund event does nothing, or settles the refund that carries its identifier, if that is
still pending. -/
theorem applyRefundWebhookEvent_cases {id : Nat} {payload : RazorpayWebhookPayload}
    {outcome : WebhookOutcome} (h : applyRefundWebhookEvent id payload w = .ok (outcome, w')) :
    (outcome = .ignored ∧ w' = w) ∨ ∃ refundEntity refund f hf t,
      outcome = .processed ∧ payload.refund = some refundEntity ∧ refund ∈ w.refunds ∧
        refund.razorpayRefundId = some refundEntity.id ∧
        w.refunds.update (fun r => r.id = refund.id && r.status = .pending) f hf = some t ∧
        w' = Db.refunds.set t w ∧ ∀ r : Refund, (f r).paymentAttemptId = r.paymentAttemptId ∧
          (f r).amountPaise = r.amountPaise ∧ (f r).razorpayRefundId = r.razorpayRefundId ∧
          (f r).status = if payload.event = refundFailedEvent then .failed else .processed := by
  unfold applyRefundWebhookEvent at h
  generalize hentity : payload.refund = entity at h
  cases entity with
  | none =>
      cases h
      exact .inl ⟨rfl, rfl⟩
  | some refundEntity =>
      simp only [query_transaction, Tx.bind_read] at h
      generalize hfound : w.refunds.findFirst _ = found at h
      cases found with
      | none => cases h
      | some refund =>
          obtain ⟨hmem, hid⟩ := Table.findFirst_some hfound
          have hid : refund.razorpayRefundId = some refundEntity.id := by simpa using hid
          dsimp only at h
          split at h
          · cases h
            exact .inl ⟨rfl, rfl⟩
          · split at h
            · next hfailed =>
              obtain ⟨n, w₁, hupd, hret⟩ := Tx.bind_ok.mp h
              cases hret
              obtain ⟨t, ht, -, rfl⟩ := Slot.updateMany_ok hupd
              refine .inr ⟨refundEntity, refund, _, _, t, rfl, rfl, hmem, hid, ht, rfl, fun r => ?_⟩
              exact ⟨rfl, rfl, rfl, (if_pos hfailed).symm⟩
            · next hfailed =>
              obtain ⟨n, w₁, hbig, h₁⟩ := Tx.bind_ok.mp h
              obtain ⟨-, rfl⟩ := bigInt_ok hbig
              split at h₁
              · cases h₁
              · obtain ⟨n, w₂, hupd, hret⟩ := Tx.bind_ok.mp h₁
                cases hret
                obtain ⟨t, ht, -, rfl⟩ := Slot.updateMany_ok hupd
                refine .inr ⟨refundEntity, refund, _, _, t, rfl, rfl, hmem, hid, ht, rfl,
                  fun r => ?_⟩
                exact ⟨rfl, rfl, rfl, (if_neg hfailed).symm⟩

/-- What a refund event may do to the refunds, on the terms of the run. -/
theorem applyRefundWebhookEvent_ok {terms : RefundTerms} {i id : Nat}
    {payload : RazorpayWebhookPayload} {outcome : WebhookOutcome}
    (hgenuine : terms.honest → RefundEventGenuine w payload)
    (h : applyRefundWebhookEvent id payload w = .ok (outcome, w')) :
    RefundStep terms i w w' := by
  obtain ⟨-, rfl⟩ | ⟨refundEntity, refund, f, hf, t, -, hentity, hmem, hid, ht, rfl, hrow⟩ :=
    applyRefundWebhookEvent_cases h
  · exact .same rfl
  · have row : ∀ {r}, r ∈ w.refunds →
        (decide (r.id = refund.id) && decide (r.status = .pending)) = true →
          r = refund ∧ r.status = .pending := by
      intro r hr hp
      simp only [Bool.and_eq_true, decide_eq_true_eq] at hp
      exact ⟨Table.eq_of_key hr hmem hp.1, hp.2⟩
    have named : ∀ {r}, r ∈ w.refunds →
        (decide (r.id = refund.id) && decide (r.status = .pending)) = true →
          r.razorpayRefundId = some refundEntity.id := by
      intro r hr hp
      rw [(row hr hp).1, hid]
    refine .settle _ f hf t ht rfl (fun r hr hp => ?_) (fun r hr hp => ?_)
      (fun hh r hr hp hs q hq hqr hname => ?_) fun _ r hr hp x hx => .inl ?_
    · exact Refund.le_of_pending (row hr hp).2 (hrow r).1 (hrow r).2.1
    · exact .inr (.inr ⟨(hrow r).2.2.1, by rw [named hr hp]; simp⟩)
    · have hfailed : payload.event = refundFailedEvent := by
        by_contra hnot
        rw [(hrow r).2.2.2, if_neg hnot] at hs
        cases hs
      exact hgenuine hh hfailed refundEntity hentity q hq (hname _ (named hr hp))
    · rw [← (hrow r).2.2.1]
      exact hx

/-- Resolving a bound account is a lookup. -/
theorem resolveForBoundAccount_apply (tenantId id : Nat) (w : World) :
    (resolveForBoundAccount tenantId id : Transaction ResolvedPaymentAccount) w =
      match (w.paymentAccounts.get id).filter (·.tenantId = tenantId) with
      | some account => .ok (toResolved account, w)
      | none => .error (.paymentAccountResolution (.paymentAccountTenantMismatch id)) := by
  unfold resolveForBoundAccount
  simp only [query_transaction, Tx.bind_read]
  cases w.paymentAccounts.get id with
  | none => rfl
  | some account =>
      by_cases ht : account.tenantId = tenantId
      · simp [ht, Option.filter_some]
      · simp [ht, Option.filter_some]

/-- Whether a bound account resolves is read off the accounts. -/
theorem resolveForBoundAccount_try (tenantId id : Nat) (w : World) :
    (tryCatch
      (do
        let _ ← resolveForBoundAccount tenantId id
        return true)
      fun
      | .paymentAccountResolution _ => return false
      | err => throw err : Transaction Bool) w =
      .ok ((w.paymentAccounts.get id).any (·.tenantId = tenantId), w) := by
  rw [Tx.tryCatch_apply, Tx.bind_apply, resolveForBoundAccount_apply]
  cases w.paymentAccounts.get id with
  | none => rfl
  | some account =>
      by_cases ht : account.tenantId = tenantId
      · simp only [Option.filter_some, Option.any_some, ht, decide_true, if_true]
        rfl
      · simp only [Option.filter_some, Option.any_some, ht, decide_false]
        rfl

theorem paymentOf_refundEvent {payload : RazorpayWebhookPayload}
    (he : payload.event = refundProcessedEvent ∨ payload.event = refundFailedEvent) :
    paymentOf payload = none := by
  rw [paymentOf, Option.filter_eq_none_iff]
  intro p _
  rcases he with he | he <;>
    simp [he, refundProcessedEvent, refundFailedEvent, capturedEvent, failedEvent]

/-- So it is on the route of an account. -/
theorem applyMerchantWebhookEvent_target {id : Nat} {payload : RazorpayWebhookPayload}
    (ht : eventTarget w (some id) payload = some (order, paymentEntity)) :
    applyMerchantWebhookEvent id payload w = (do
      let attempt ← findOrCreateAttemptFor (some id) order paymentEntity
      applyPaymentEvent payload.event order attempt paymentEntity) w := by
  obtain ⟨hp, hord, hacc⟩ := eventTarget_eq_some.mp ht
  obtain ⟨hbound, hresolves⟩ := accountAccepts_some hacc
  unfold applyMerchantWebhookEvent
  rw [if_neg fun he => by simp [paymentOf_refundEvent he] at hp]
  simp only [hp, query_transaction, Tx.bind_read, hord]
  rw [if_neg fun hne => hne hbound]
  refine (Tx.bind_of_ok (resolveForBoundAccount_try order.tenantId id w)).trans ?_
  rw [if_pos hresolves]
  rfl

/-- Without a target, an event of an account is one about a refund, or is ignored. -/
theorem applyMerchantWebhookEvent_untargeted {id : Nat} {payload : RazorpayWebhookPayload}
    (ht : eventTarget w (some id) payload = none) :
    (paymentOf payload = none ∧
        applyMerchantWebhookEvent id payload w = applyRefundWebhookEvent id payload w) ∨
      applyMerchantWebhookEvent id payload w = .ok (.ignored, w) := by
  unfold applyMerchantWebhookEvent
  split
  · next he => exact .inl ⟨paymentOf_refundEvent he, rfl⟩
  · refine .inr ?_
    cases hp : paymentOf payload with
    | none => rfl
    | some paymentEntity =>
        simp only [query_transaction, Tx.bind_read]
        cases hord : w.orders.findFirst
            fun o => o.razorpayOrderId = some paymentEntity.orderId with
        | none => rfl
        | some order =>
            dsimp only
            split
            · rfl
            · next hbound =>
              have hbound : order.paymentAccountId = some id := by simpa using hbound
              have hresolves : (w.paymentAccounts.get id).any (·.tenantId = order.tenantId) =
                  false := by
                simpa [eventTarget, hp, hord, accountAccepts, hbound] using ht
              refine (Tx.bind_of_ok (resolveForBoundAccount_try order.tenantId id w)).trans ?_
              rw [hresolves]
              rfl

/-- Either way, a stored event that has a target is acted on for it. -/
theorem applyStoredEvent_target {e : WebhookEvent}
    (ht : eventTarget w e.paymentAccountId e.payload = some (order, paymentEntity)) :
    applyStoredEvent e w = (do
      let attempt ← findOrCreateAttemptFor e.paymentAccountId order paymentEntity
      applyPaymentEvent e.payload.event order attempt paymentEntity) w := by
  unfold applyStoredEvent
  cases hacc : e.paymentAccountId with
  | none => exact applyWebhookEvent_target (hacc ▸ ht)
  | some id => exact applyMerchantWebhookEvent_target (hacc ▸ ht)

theorem applyStoredEvent_untargeted {e : WebhookEvent}
    (ht : eventTarget w e.paymentAccountId e.payload = none) :
    (paymentOf e.payload = none ∧
        ∃ id, applyStoredEvent e w = applyRefundWebhookEvent id e.payload w) ∨
      applyStoredEvent e w = .ok (.ignored, w) := by
  unfold applyStoredEvent
  cases hacc : e.paymentAccountId with
  | none => exact .inr (applyWebhookEvent_untargeted (hacc ▸ ht))
  | some id =>
      exact (applyMerchantWebhookEvent_untargeted (hacc ▸ ht)).imp_left
        fun h => ⟨h.1, id, h.2⟩

/-- What applying a stored event comes to. -/
theorem applyStoredEvent_ok {e : WebhookEvent} {outcome : WebhookOutcome}
    (hown : ∀ order paymentEntity,
      eventTarget w e.paymentAccountId e.payload = some (order, paymentEntity) →
        OwnPayment w order paymentEntity)
    (h : applyStoredEvent e w = .ok (outcome, w')) :
    EventOutcome w e.paymentAccountId e.payload w' := by
  cases ht : eventTarget w e.paymentAccountId e.payload with
  | none =>
      obtain ⟨-, id, hrefund⟩ | hignored := applyStoredEvent_untargeted ht
      · rw [hrefund] at h
        exact .untouched ht
          (within_applyRefundWebhookEvent (R := Tx.Same ledger) (fun _ _ => rfl) _ _ h)
          (within_applyRefundWebhookEvent (fun _ _ => keeps_of_eq rfl rfl rfl) _ _ h)
          fun _ _ hgenuine => applyRefundWebhookEvent_ok hgenuine h
      · cases hignored.symm.trans h
        exact .untouched ht rfl (Std.Refl.refl _) fun _ _ _ => .same rfl
  | some t =>
      rw [applyStoredEvent_target ht] at h
      obtain ⟨attempt, w₁, hfind, happly⟩ := Tx.bind_ok.mp h
      exact actOnEvent_ok ht (hown _ _ ht) hfind happly

/-- The rest of the merchant route, after the refund events. -/
theorem within_applyMerchantWebhookEvent {R : World → World → Prop}
    (hR : WholeFrame (fun _ _ => True) R)
    (ha : ∀ paymentAccountId order paymentEntity,
      Tx.Within R (findOrCreateAttemptFor paymentAccountId order paymentEntity))
    (id : Nat) (payload : RazorpayWebhookPayload)
    (hr : payload.event = refundProcessedEvent ∨ payload.event = refundFailedEvent →
      Tx.Within R (applyRefundWebhookEvent id payload)) :
    Tx.Within R (applyMerchantWebhookEvent id payload) := by
  have := hR.refl
  have := hR.trans
  unfold applyMerchantWebhookEvent
  split
  · next he => exact hr he
  · cases paymentOf payload with
    | none => exact Tx.within_pure _
    | some paymentEntity =>
        refine Tx.within_bind (Tx.within_read _) fun found => ?_
        cases found with
        | none => exact Tx.within_pure _
        | some order =>
            dsimp only
            split
            · exact Tx.within_pure _
            · refine Tx.within_bind ?_ fun ok => ?_
              · intro w b w' h
                cases (resolveForBoundAccount_try order.tenantId id w).symm.trans h
                exact hR.refl.refl w
              · split
                · exact Tx.within_bind (ha _ _ _)
                    fun _ => within_applyPaymentEvent hR _ _ _ _ trivial
                · exact Tx.within_pure _

theorem within_applyWebhookEvent {R : World → World → Prop}
    (hR : WholeFrame (fun _ _ => True) R)
    (ha : ∀ paymentAccountId order paymentEntity,
      Tx.Within R (findOrCreateAttemptFor paymentAccountId order paymentEntity))
    (payload : RazorpayWebhookPayload) : Tx.Within R (applyWebhookEvent payload) := by
  have := hR.refl
  have := hR.trans
  unfold applyWebhookEvent
  cases paymentOf payload with
  | none => exact Tx.within_pure _
  | some paymentEntity =>
      refine Tx.within_bind (Tx.within_read _) fun found => ?_
      cases found with
      | none => exact Tx.within_pure _
      | some order =>
          exact Tx.within_bind (ha _ _ _)
            fun _ => within_applyPaymentEvent hR _ _ _ _ trivial

theorem within_storedEvent {R : World → World → Prop} (hR : WholeFrame (fun _ _ => True) R)
    (ha : ∀ paymentAccountId order paymentEntity,
      Tx.Within R (findOrCreateAttemptFor paymentAccountId order paymentEntity))
    (e : WebhookEvent)
    (hr : ∀ id, e.payload.event = refundProcessedEvent ∨ e.payload.event = refundFailedEvent →
      Tx.Within R (applyRefundWebhookEvent id e.payload)) :
    Tx.Within R (applyStoredEvent e) := by
  unfold applyStoredEvent
  cases e.paymentAccountId with
  | none => exact within_applyWebhookEvent hR ha _
  | some acc => exact within_applyMerchantWebhookEvent hR ha _ _ (hr acc)

theorem within_applyStoredEvent (e : WebhookEvent) :
    Tx.Within (Tx.Same World.webhookEvents) (applyStoredEvent e) := by
  have hframe : IgnoresPayments (Tx.Same World.webhookEvents) :=
    ⟨inferInstance, inferInstance, fun _ _ => rfl, fun _ _ => rfl, fun _ _ => rfl, fun _ _ => rfl⟩
  exact within_storedEvent hframe.whole (within_findOrCreateAttemptFor hframe.attempts) e
    fun id _ => within_applyRefundWebhookEvent (fun _ _ => rfl) id e.payload

/-- What processing a stored event may come to. -/
theorem processEvent_ok {id : Nat}
    (hown : ∀ e order paymentEntity, lockedEvent id w = some e →
      eventTarget w e.paymentAccountId e.payload = some (order, paymentEntity) →
        OwnPayment w order paymentEntity)
    (h : processEvent id w = .ok ((), w')) :
    (lockedEvent id w = none ∧ w' = w) ∨
      ∃ e, lockedEvent id w = some e ∧ EventOutcome w e.paymentAccountId e.payload w' := by
  unfold processEvent at h
  simp only [query_transaction, Tx.bind_read] at h
  generalize hlock : lockedEvent id w = locked at h
  cases locked with
  | none =>
      cases h
      exact .inl ⟨rfl, rfl⟩
  | some e =>
      obtain ⟨outcome, w₁, happly, hmark⟩ := Tx.bind_ok.mp h
      obtain ⟨row, w₂, hupd, hret⟩ := Tx.bind_ok.mp hmark
      cases hret
      have houtcome : EventOutcome w e.paymentAccountId e.payload w₁ :=
        applyStoredEvent_ok (fun o p => hown e o p hlock) happly
      obtain ⟨e₀, t, -, ht, -, rfl⟩ := Slot.update_ok hupd
      have hmarks : ∀ g : Grants, Keeps g w₁ (Db.webhookEvents.set t w₁) :=
        fun g => keeps_updateEvents ht fun _ => rfl
      refine .inr ⟨e, rfl, ?_⟩
      cases houtcome with
      | untouched ht h hk hr =>
          exact .untouched ht h (IsTrans.trans _ _ _ hk (hmarks _))
            fun terms i hg => (hr terms i hg).congr_right rfl
      | acted order p ht hp ha hk hr =>
          refine .acted order p ht ?_ ha (IsTrans.trans _ _ _ hk (hmarks _)) hr
          cases hp with
          | duplicate h hc hord hatt => exact .duplicate h hc hord hatt
          | late he hm h => exact .late he hm h
          | paid he hm h => exact .paid he hm h
          | failed he hc hf h => exact .failed he hc hf h

end Events

end PrintForge
