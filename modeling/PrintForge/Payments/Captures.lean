import PrintForge.Payments.History
import PrintForge.Payments.Isolation

/-!
# Which order a commit captures

A commit is about one order, but the attempt it captures need not be that order's: an attempt is
looked up by the payment id, and a merchant can have an event stored with any payment id at all.
`captureOf` says which capture a commit is about to record. `Written.course` then follows every
order through every write, with no assumption about what is stored: either that capture is
recorded, and the order it is recorded for is paid if it was pending, or no order is captured and
each keeps its status or moves along the transition table.
-/

namespace PrintForge

open Relational Concurrent Proc Function

variable {w w' : World}

/-- A capture: the order that a commit is about, and the order whose attempt is captured. -/
structure Capture where
  order : Order
  owner : Nat

/-- The notice that the order is paid is out. -/
def PaidNotice (w : World) (o : Nat) : Prop := ∃ n ∈ w.outboxEvents, n.eventKey = ⟨o, .orderPaid⟩

instance (w : World) (o : Nat) : Decidable (PaidNotice w o) :=
  inferInstanceAs (Decidable (∃ n ∈ w.outboxEvents.rows, _))

/-- The event captures a payment that its order may take. -/
def CapturesFor (w : World) (event : String) (order : Order)
    (paymentEntity : RazorpayPaymentEntity) : Prop :=
  event = capturedEvent ∧ Matches order paymentEntity ∧
    ¬ OrderCaptured w (ownerFor w order paymentEntity) ∧
    (order.status = .pendingPayment → ¬ PaidNotice w order.id)

instance (w : World) (event : String) (order : Order) (paymentEntity : RazorpayPaymentEntity) :
    Decidable (CapturesFor w event order paymentEntity) :=
  inferInstanceAs (Decidable (_ ∧ _ ∧ _ ∧ (_ → _)))

/-- The verify callback may capture the attempt under the payment id. -/
def MayVerify (w : World) (order : Order) (razorpayPaymentId : String) (a : PaymentAttempt) :
    Prop :=
  order.status = .pendingPayment ∧ ¬ PaidNotice w order.id ∧ ¬ OrderCaptured w a.orderId ∧
    ∀ b ∈ w.paymentAttempts, b.razorpayPaymentId = some razorpayPaymentId → b.id = a.id

instance (w : World) (order : Order) (razorpayPaymentId : String) (a : PaymentAttempt) :
    Decidable (MayVerify w order razorpayPaymentId a) :=
  inferInstanceAs (Decidable (_ ∧ _ ∧ _ ∧ ∀ b ∈ w.paymentAttempts.rows, _ → _))

/-- The capture that a commit records. -/
def captureOf (w : World) : Commit → Option Capture
  | .verifyPayment order existingByPaymentId razorpayPaymentId =>
      (((attemptToVerify order existingByPaymentId w).bind fun a =>
        w.paymentAttempts.get a.id).filter fun a => MayVerify w order razorpayPaymentId a).map
          fun a => ⟨order, a.orderId⟩
  | .processWebhook id =>
      (((lockedEvent id w).bind fun e =>
        (eventTarget w e.paymentAccountId e.payload).filter fun t =>
          CapturesFor w e.payload.event t.1 t.2)).map fun t => ⟨t.1, ownerFor w t.1 t.2⟩
  | .reconcileCapturedPayment order =>
      if statusOf w order.id = some .pendingPayment ∧ ¬ OrderCaptured w order.id ∧
          ¬ PaidNotice w order.id then
        some ⟨order, order.id⟩
      else
        none
  | _ => none

/-! ## What becomes of the orders -/

/-- The capture is recorded, and nothing else is captured or moved. -/
structure Recorded (c : Capture) (w w' : World) : Prop where
  fresh : ¬ OrderCaptured w c.owner
  captured : ∀ o, OrderCaptured w' o ↔ OrderCaptured w o ∨ o = c.owner
  status : ∀ o, statusOf w' o =
    if o = c.order.id ∧ statusOf w o = some .pendingPayment then some .paid else statusOf w o

/-- An administrator sets the order to paid. -/
def PaidByHand (ℓ : Commit) (o : Nat) : Prop :=
  ∃ order, ℓ = .adminTransitionStatus order .paid ∧ order.id = o

/-- What a commit that captures nothing may do to the status of an order. -/
inductive StatusMove (ℓ : Commit) (o : Nat) : Option OrderStatus → Option OrderStatus → Prop
  | same (s : Option OrderStatus) : StatusMove ℓ o s s
  | placed : StatusMove ℓ o none (some .pendingPayment)
  | edge {s t : OrderStatus} (h : isTransitionAllowed s t = true)
      (hpaid : t = .paid → PaidByHand ℓ o) : StatusMove ℓ o (some s) (some t)

/-- What a commit does to the attempts and the statuses of the orders. -/
inductive Course (w : World) (ℓ : Commit) (w' : World) : Prop
  | recorded (c : Capture) (hc : captureOf w ℓ = some c) (h : Recorded c w w')
  | moved (hcaptured : ∀ o, OrderCaptured w' o ↔ OrderCaptured w o)
      (hstatus : ∀ o, StatusMove ℓ o (statusOf w o) (statusOf w' o))

section Courses

variable {ℓ : Commit} {o : Nat}

theorem orderCaptured_congr (h : (ledger w' o).captured = (ledger w o).captured) :
    OrderCaptured w' o ↔ OrderCaptured w o := by
  rw [← captured_nonempty, ← captured_nonempty, h]

theorem statusOf_eq (w : World) (o : Nat) : statusOf w o = (ledger w o).status := rfl

theorem course_of_ledger (h : ledger w' = ledger w) : Course w ℓ w' := by
  refine .moved (fun o => orderCaptured_congr (by rw [h])) fun o => ?_
  rw [statusOf_eq w', h]
  exact .same _

/-- A single step along the transition table, with its history and its notice. -/
theorem course_of_posts {k : Ledger.Kind} (h : Posts k o w w')
    (hk : k = .still ∨ ∃ t, k = .move t ∧ (t = .paid → PaidByHand ℓ o)) : Course w ℓ w' := by
  obtain ⟨hstep, hframe⟩ := h
  have hself : ((ledger w' o).captured = (ledger w o).captured) ∧
      StatusMove ℓ o (statusOf w o) (statusOf w' o) := by
    rw [statusOf_eq, statusOf_eq]
    generalize ledger w o = L at hstep
    generalize ledger w' o = L' at hstep
    cases hstep with
    | still => exact ⟨rfl, .same _⟩
    | move hs hallowed hfresh =>
        obtain hk | ⟨t, hk, hpaid⟩ := hk
        · cases hk
        · cases hk
          rw [hs]
          exact ⟨rfl, .edge hallowed hpaid⟩
    | _ => simp at hk
  refine .moved (fun o' => ?_) fun o' => ?_
  · by_cases ho : o' = o
    · exact orderCaptured_congr (ho ▸ hself.1)
    · exact orderCaptured_congr (by rw [hframe o' ho])
  · by_cases ho : o' = o
    · exact ho ▸ hself.2
    · rw [statusOf_eq w', hframe o' ho]
      exact .same _

/-- A status that is swapped along the transition table, and nothing with it. -/
theorem course_of_status {s t : OrderStatus} (hs : (ledger w o).status = some s)
    (hallowed : isTransitionAllowed s t = true) (hne : t ≠ .paid)
    (h : ledger w' = update (ledger w) o { ledger w o with status := some t }) :
    Course w ℓ w' := by
  refine .moved (fun o' => orderCaptured_congr ?_) fun o' => ?_
  · rw [h]
    by_cases ho : o' = o
    · rw [ho, update_self]
    · rw [update_of_ne ho]
  · rw [statusOf_eq, statusOf_eq, h]
    by_cases ho : o' = o
    · rw [ho, update_self, hs]
      exact .edge hallowed fun ht => absurd ht hne
    · rw [update_of_ne ho]
      exact .same _

theorem Course.congr_right {w'' : World} (h : Course w ℓ w') (hw : ledger w'' = ledger w') :
    Course w ℓ w'' := by
  have hcaptured : ∀ o, OrderCaptured w'' o ↔ OrderCaptured w' o :=
    fun o => orderCaptured_congr (by rw [hw])
  have hstatus : ∀ o, statusOf w'' o = statusOf w' o := fun o => by
    rw [statusOf_eq, hw]
    rfl
  cases h with
  | recorded c hc h =>
      exact .recorded c hc ⟨h.fresh, fun o => (hcaptured o).trans (h.captured o),
        fun o => (hstatus o).trans (h.status o)⟩
  | moved hcap hmove =>
      exact .moved (fun o => (hcaptured o).trans (hcap o)) fun o => hstatus o ▸ hmove o

end Courses

/-! ## Recording a capture -/

/-- The order is paid if it is pending, and nothing is captured. -/
structure Pays (o : Nat) (w w' : World) : Prop where
  captured : ∀ o', OrderCaptured w' o' ↔ OrderCaptured w o'
  status : ∀ o', statusOf w' o' =
    if o' = o ∧ statusOf w o' = some .pendingPayment then some .paid else statusOf w o'

section Transactions

variable {order : Order} {attempt : PaymentAttempt} {paymentEntity : RazorpayPaymentEntity}

theorem pays_of_not_pending {o : Nat} (h : statusOf w o ≠ some .pendingPayment) :
    Pays o w w where
  captured _ := Iff.rfl
  status o' := by
    rw [if_neg]
    rintro ⟨rfl, hs⟩
    exact h hs

theorem transitionOrder_pays {changedByUserId : Option Nat} {note : String} {r : Option Order}
    (h : (transitionOrder order .paid changedByUserId note : Transaction (Option Order)) w =
      .ok (r, w')) :
    order.status = .pendingPayment ∧ Pays order.id w w' ∧
      (ledger w' order.id).notices = (ledger w order.id).notices := by
  obtain ⟨hallowed, ⟨-, hs, hw'⟩ | ⟨-, hs, rfl⟩⟩ := transitionOrder_ok h
  · have hpending : order.status = .pendingPayment := isTransitionAllowed_paid.mp hallowed
    refine ⟨hpending, ⟨fun o => orderCaptured_congr ?_, fun o => ?_⟩, by rw [hw', update_self]; rfl⟩
    · rw [hw']
      by_cases ho : o = order.id
      · rw [ho, update_self]
        rfl
      · rw [update_of_ne ho]
    · rw [statusOf_eq, hw']
      by_cases ho : o = order.id
      · have hstatus : statusOf w order.id = some .pendingPayment :=
          hs.trans (congrArg some hpending)
        rw [ho, update_self, if_pos ⟨rfl, hstatus⟩]
        rfl
      · rw [update_of_ne ho, if_neg fun h => ho h.1]
        rfl
  · have hpending : order.status = .pendingPayment := isTransitionAllowed_paid.mp hallowed
    exact ⟨hpending, pays_of_not_pending (hpending ▸ hs), rfl⟩

theorem Pays.notice {o : Nat} {eventType : OutboxEventType} {w'' : World} (h : Pays o w w')
    (hnote : insertOutboxEvent eventType order w' = .ok ((), w'')) : Pays o w w'' := by
  obtain ⟨-, hw''⟩ := insertOutboxEvent_ok hnote
  have hledger : ∀ o', (ledger w'' o').captured = (ledger w' o').captured ∧
      (ledger w'' o').status = (ledger w' o').status := by
    intro o'
    rw [hw'']
    by_cases ho : o' = order.id
    · rw [ho, update_self]
      exact ⟨rfl, rfl⟩
    · rw [update_of_ne ho]
      exact ⟨rfl, rfl⟩
  exact ⟨fun o' => (orderCaptured_congr (hledger o').1).trans (h.captured o'),
    fun o' => (hledger o').2.trans (h.status o')⟩

/-- The attempt is captured, and its order or another one is paid for. -/
theorem recorded_of_capture {c : Capture} {k : Nat} {w₁ : World}
    (hempty : (ledger w c.owner).captured = ∅)
    (hw₁ : ledger w₁ = update (ledger w) c.owner { ledger w c.owner with captured := {k} })
    (h : Pays c.order.id w₁ w') : Recorded c w w' := by
  have hnone : ¬ OrderCaptured w c.owner := by
    rw [← captured_nonempty, hempty]
    exact Set.not_nonempty_empty
  have hstatus : ∀ o, statusOf w₁ o = statusOf w o := fun o => by
    rw [statusOf_eq, hw₁]
    by_cases ho : o = c.owner
    · rw [ho, update_self]
      rfl
    · rw [update_of_ne ho]
      rfl
  refine ⟨hnone, fun o => ?_, fun o => ?_⟩
  · rw [h.captured, ← captured_nonempty, hw₁]
    by_cases ho : o = c.owner
    · rw [ho, update_self]
      exact iff_of_true (Set.singleton_nonempty k) (.inr rfl)
    · rw [update_of_ne ho, captured_nonempty]
      simp [ho]
  · rw [h.status, hstatus]

/-- Only the ledgers before the capture matter. -/
theorem Recorded.congr_left {c : Capture} {w₀ : World} (h : Recorded c w w')
    (hw : ledger w = ledger w₀) : Recorded c w₀ w' := by
  have hcaptured : ∀ o, OrderCaptured w o ↔ OrderCaptured w₀ o :=
    fun o => orderCaptured_congr (by rw [hw])
  have hstatus : ∀ o, statusOf w o = statusOf w₀ o := fun o => by
    rw [statusOf_eq, hw]
    rfl
  refine ⟨fun hc => h.fresh ((hcaptured _).mpr hc), fun o => ?_, fun o => ?_⟩
  · rw [h.captured, hcaptured]
  · rw [h.status, hstatus]

theorem not_paidNotice {o : Nat} (h : .orderPaid ∉ (ledger w o).notices) : ¬ PaidNotice w o := h

/-! ## The transactions -/

/-- The verify callback captures the attempt it has chosen, whichever order that is one of. -/
theorem course_capturePayment {userId : Nat} {existing : Option PaymentAttempt}
    {dto : VerifyPaymentDto} {view : VerifyPaymentView}
    (hrzp : order.razorpayOrderId = some dto.razorpayOrderId)
    (h : capturePayment userId order existing dto w = .ok (view, w')) :
    Course w (.verifyPayment order existing dto.razorpayPaymentId) w' := by
  unfold capturePayment at h
  simp only [query_transaction, Tx.bind_read] at h
  generalize hopen : w.paymentAttempts.findLast _ = open' at h
  generalize hchoice : existing.or open' = choice at h
  have hattempt : attemptToVerify order existing w = choice := by
    rw [attemptToVerify, ← hchoice, ← hopen]
    simp [hrzp]
  cases choice with
  | none => cases h
  | some attempt =>
      unfold captureAttempt at h
      obtain ⟨count, w₁, hcap, hrest⟩ := Tx.bind_ok.mp h
      obtain ⟨hc, a, ha, -, hfree, hempty, hw₁⟩ | ⟨hc, -, rfl⟩ :=
        capture_ok hcap (fun _ => rfl) fun _ => rfl
      · rw [if_pos hc] at hrest
        obtain ⟨r, w₂, htrans, hrest⟩ := Tx.bind_ok.mp hrest
        obtain ⟨⟨⟩, w₃, hnote, hread⟩ := Tx.bind_ok.mp hrest
        obtain rfl := readView_ok hread
        obtain ⟨hpending, hpays, hnotices⟩ := transitionOrder_pays htrans
        have hrecorded : Recorded ⟨order, a.orderId⟩ w w' :=
          recorded_of_capture hempty hw₁ (hpays.notice hnote)
        have hfresh : .orderPaid ∉ (ledger w order.id).notices := by
          have hw₂ := (insertOutboxEvent_ok hnote).1
          rw [hnotices, hw₁] at hw₂
          by_cases ho : order.id = a.orderId
          · rw [ho, update_self] at hw₂
            rwa [ho]
          · rwa [update_of_ne ho] at hw₂
        have hid : a.id = attempt.id := (Table.get_eq_some.mp ha).2
        refine .recorded ⟨order, a.orderId⟩ ?_ hrecorded
        have hmay : MayVerify w order dto.razorpayPaymentId a :=
          ⟨hpending, hfresh, hrecorded.fresh, fun b hb hpay =>
            (hfree b hb hpay (by simp [hpay])).trans hid.symm⟩
        simp [captureOf, hattempt, ha, hmay]
      · rw [if_neg hc] at hrest
        exact course_of_ledger (by rw [readView_ok hrest])

/-- A capture is recorded for the order of the attempt, and the order of the event is paid. -/
theorem applyCaptured_recorded (hord : w.orders.get order.id = some order)
    (h : applyCaptured order attempt paymentEntity w = .ok ((), w'))
    (hatt : w.paymentAttempts.get attempt.id = some attempt) :
    Matches order paymentEntity ∧ (OrderCaptured w attempt.orderId ∧ w' = w ∨
      Recorded ⟨order, attempt.orderId⟩ w w' ∧
        (order.status = .pendingPayment → ¬ PaidNotice w order.id)) := by
  unfold applyCaptured at h
  obtain ⟨n, w₀, hbig, h₁⟩ := Tx.bind_ok.mp h
  obtain ⟨hamount, rfl⟩ := bigInt_ok hbig
  obtain ⟨⟨⟩, w₀', hassert, h₂⟩ := Tx.bind_ok.mp h₁
  obtain ⟨hmatch, rfl⟩ := assertCapturedPaymentMatchesOrder_ok hassert
  obtain ⟨count, w₁, hcap, h₃⟩ := Tx.bind_ok.mp h₂
  refine ⟨⟨n, hamount, hmatch⟩, ?_⟩
  obtain ⟨hc, a, ha, -, -, hempty, hw₁⟩ | ⟨hc, hall, rfl⟩ :=
    capture_ok hcap (fun _ => rfl) fun _ => rfl
  · obtain rfl : attempt = a := Option.some.inj (hatt.symm.trans ha)
    rw [if_neg (by simp [hc])] at h₃
    have hsame : (ledger w₁ order.id).status = some order.status ∧
        (ledger w₁ order.id).notices = (ledger w₀' order.id).notices := by
      have hstatus := ledger_status_of_get hord
      rw [hw₁]
      by_cases ho : order.id = attempt.orderId
      · rw [ho, update_self, ← ho]
        exact ⟨hstatus, rfl⟩
      · rw [update_of_ne ho]
        exact ⟨hstatus, rfl⟩
    split at h₃
    · next hnot =>
      cases h₃
      have hne : order.status ≠ .pendingPayment := by
        rintro hp
        rw [isTransitionAllowed_paid.mpr hp] at hnot
        cases hnot
      have hpays : Pays order.id w' w' := by
        refine pays_of_not_pending fun hs => hne (Option.some.inj ?_)
        exact hsame.1.symm.trans hs
      exact .inr ⟨recorded_of_capture hempty hw₁ hpays, fun hp => absurd hp hne⟩
    · obtain ⟨r, w₂, htrans, hnote⟩ := Tx.bind_ok.mp h₃
      obtain ⟨-, hpays, hnotices⟩ := transitionOrder_pays htrans
      split at hnote
      · have hfresh := (insertOutboxEvent_ok hnote).1
        rw [hnotices, hsame.2] at hfresh
        exact .inr ⟨recorded_of_capture hempty hw₁ (hpays.notice hnote), fun _ => hfresh⟩
      · next hr =>
        obtain ⟨-, ⟨hsome, -⟩ | ⟨-, hs, -⟩⟩ := transitionOrder_ok htrans
        · exact absurd hsome hr
        · exact absurd hsame.1 hs
  · rw [if_pos hc] at h₃
    cases h₃
    exact .inl ⟨⟨attempt, (Table.get_eq_some.mp hatt).1, rfl, hall attempt hatt⟩, rfl⟩

/-- A payment event that is acted on captures what `CapturesFor` says, or no order. -/
theorem course_actOnEvent {ℓ : Commit} {event : String} {paymentAccountId : Option Nat}
    {outcome : WebhookOutcome} (hord : w.orders.get order.id = some order)
    (hcapture : CapturesFor w event order paymentEntity →
      captureOf w ℓ = some ⟨order, ownerFor w order paymentEntity⟩)
    (h : (do
      let attempt ← findOrCreateAttemptFor paymentAccountId order paymentEntity
      applyPaymentEvent event order attempt paymentEntity) w = .ok (outcome, w')) :
    Course w ℓ w' := by
  obtain ⟨attempt, w₁, hfind, happly⟩ := Tx.bind_ok.mp h
  obtain ⟨hledger, hatt, -, -⟩ := findOrCreateAttemptFor_found hfind
  have howner := findOrCreateAttemptFor_owner hfind
  have hsame : w₁.orders = w.orders :=
    within_findOrCreateAttemptFor (R := Tx.Same World.orders) (fun _ _ => rfl) _ _ _ hfind
  have hord₁ : w₁.orders.get order.id = some order := hsame ▸ hord
  unfold applyPaymentEvent at happly
  split at happly
  · next hevent =>
    obtain ⟨⟨⟩, w₂, hcap, hret⟩ := Tx.bind_ok.mp happly
    cases hret
    obtain ⟨hmatch, ⟨-, rfl⟩ | ⟨hrecorded, hnotice⟩⟩ := applyCaptured_recorded hord₁ hcap hatt
    · exact course_of_ledger hledger
    · have hrecorded : Recorded ⟨order, ownerFor w order paymentEntity⟩ w w' :=
        howner ▸ hrecorded.congr_left hledger
      refine .recorded _ (hcapture ⟨hevent, hmatch, hrecorded.fresh, fun hp hn => ?_⟩) hrecorded
      exact hnotice hp (mem_notices.mp (hledger ▸ mem_notices.mpr hn))
  · obtain ⟨⟨⟩, w₂, hfail, hret⟩ := Tx.bind_ok.mp happly
    cases hret
    obtain ⟨-, rfl⟩ | ⟨-, -, -, hposts, -⟩ := applyFailed_ok hord₁ hatt hfail
    · exact course_of_ledger hledger
    · exact course_of_posts (hposts.congr_left hledger) (.inr ⟨_, rfl, fun h => by cases h⟩)

theorem course_processEvent {id : Nat} (h : processEvent id w = .ok ((), w')) :
    Course w (.processWebhook id) w' := by
  unfold processEvent at h
  simp only [query_transaction, Tx.bind_read] at h
  cases hlock : lockedEvent id w with
  | none =>
      rw [hlock] at h
      cases h
      exact course_of_ledger rfl
  | some e =>
      rw [hlock] at h
      obtain ⟨outcome, w₁, happly, hmark⟩ := Tx.bind_ok.mp h
      obtain ⟨row, w₂, hupd, hret⟩ := Tx.bind_ok.mp hmark
      cases hret
      obtain ⟨e₀, t, -, -, -, rfl⟩ := Slot.update_ok hupd
      suffices hcourse : Course w (.processWebhook id) w₁ from hcourse.congr_right rfl
      cases ht : eventTarget w e.paymentAccountId e.payload with
      | none =>
          obtain ⟨-, acc, hrefund⟩ | hignored := applyStoredEvent_untargeted ht
          · exact course_of_ledger (within_applyRefundWebhookEvent (R := Tx.Same ledger)
              (fun _ _ => rfl) _ _ (hrefund.symm.trans happly))
          · cases hignored.symm.trans happly
            exact course_of_ledger rfl
      | some target =>
          obtain ⟨order, paymentEntity⟩ := target
          obtain ⟨-, hfound, -⟩ := eventTarget_eq_some.mp ht
          refine course_actOnEvent (Table.get_key (Table.findFirst_some hfound).1) (fun hc => ?_)
            ((applyStoredEvent_target ht).symm.trans happly)
          simp [captureOf, hlock, ht, hc, Option.filter_some]

/-- Reconciliation captures an attempt of the order it pays. -/
theorem course_recordReconciled {captured : RazorpayOrderPayment}
    {result : ReconcileCaptureResult} (h : recordReconciled order captured w = .ok (result, w')) :
    Course w (.reconcileCapturedPayment order) w' := by
  obtain hposts | ⟨hstep, hframe⟩ := (recordReconciled_ok h).1
  · exact course_of_posts hposts (.inl rfl)
  · generalize hL : ledger w order.id = L at hstep
    generalize hL' : ledger w' order.id = L' at hstep
    cases hstep with
    | pay k hs hempty hfresh =>
        have hpending : statusOf w order.id = some .pendingPayment := by rw [statusOf_eq, hL, hs]
        have hnone : ¬ OrderCaptured w order.id := by
          rw [← captured_nonempty, hL, hempty]
          exact Set.not_nonempty_empty
        refine .recorded ⟨order, order.id⟩ ?_ ⟨hnone, fun o => ?_, fun o => ?_⟩
        · simp only [captureOf]
          exact if_pos ⟨hpending, hnone, not_paidNotice (hL ▸ hfresh)⟩
        · rw [← captured_nonempty]
          by_cases ho : o = order.id
          · rw [ho, hL']
            exact iff_of_true (Set.singleton_nonempty k) (.inr rfl)
          · rw [hframe o ho, captured_nonempty]
            simp [ho]
        · by_cases ho : o = order.id
          · rw [ho, if_pos ⟨rfl, hpending⟩, statusOf_eq, hL']
          · rw [if_neg fun h => ho h.1, statusOf_eq, hframe o ho]
            rfl

/-- A transition that has gone through or was too late. -/
theorem course_of_transition {ℓ : Commit} {P : Prop} {target : OrderStatus} {w₀ : World}
    (hledger : ledger w = ledger w₀) (hpaid : target = .paid → PaidByHand ℓ o)
    (h : Posts .still o w w' ∨ (P ∧ Posts (.move target) o w w')) : Course w₀ ℓ w' := by
  obtain hposts | ⟨-, hposts⟩ := h
  · exact course_of_posts (hposts.congr_left hledger) (.inl rfl)
  · exact course_of_posts (hposts.congr_left hledger) (.inr ⟨target, rfl, hpaid⟩)

/-- A new order is pending, and no other is touched. -/
theorem course_createOrder {ℓ : Commit} {data : CheckoutOrder}
    (h : createOrder data w = .ok ((), w')) : Course w ℓ w' := by
  unfold createOrder at h
  obtain ⟨row, w₁, hcreate, h₁⟩ := Tx.bind_ok.mp h
  obtain ⟨history, w₂, hhist, hret⟩ := Tx.bind_ok.mp h₁
  cases hret
  obtain ⟨t, ht, -, rfl⟩ := Slot.create_ok hcreate
  obtain ⟨t', -, -, rfl⟩ := Slot.create_ok hhist
  refine .moved (fun o => Iff.rfl) fun o => ?_
  have hget : t.get o = if o = w.orders.nextKey then _ else w.orders.get o :=
    Table.get_create ht o
  change StatusMove ℓ o (statusOf w o) ((t.get o).map (·.status))
  rw [hget]
  by_cases ho : o = w.orders.nextKey
  · rw [if_pos ho, statusOf, ho, Table.get_eq_none_of_le (Nat.le_refl _)]
    exact .placed
  · rw [if_neg ho]
    exact .same _

/-- The history is no part of the course. -/
theorem course_createHistory {ℓ : Commit} {row : Nat → OrderStatusHistory} {hk}
    {r : OrderStatusHistory}
    (h : (Db.orderStatusHistory.create row hk : Transaction OrderStatusHistory) w = .ok (r, w')) :
    Course w ℓ w' := by
  have hledger := createHistory_ok h
  refine .moved (fun o => orderCaptured_congr ?_) fun o => ?_
  · rw [hledger]
    by_cases ho : o = r.orderId
    · rw [ho, update_self]
    · rw [update_of_ne ho]
  · rw [statusOf_eq w', hledger]
    by_cases ho : o = r.orderId
    · rw [ho, update_self]
      exact .same _
    · rw [update_of_ne ho]
      exact .same _

theorem course_applied {α : Type} {ℓ : Commit} {tx : Transaction α}
    (h : ∀ a w', tx w = .ok (a, w') → Course w ℓ w') : Course w ℓ (applied tx w) := by
  cases htx : tx w with
  | ok r =>
      rw [applied_ok htx]
      exact h r.1 r.2 htx
  | error e =>
      rw [applied_error htx]
      exact course_of_ledger rfl

theorem ledgerSame_refunds : RefundFrame (Tx.Same ledger) where
  refl := inferInstance
  trans := inferInstance
  refunds _ _ := rfl
  books _ _ _ := rfl

end Transactions

/-- What a write does to the orders, whatever is stored. -/
theorem Written.course {ℓ : Commit} {upd : World → World} (h : Written ℓ upd) (w : World) :
    Course w ℓ (upd w) := by
  cases h with
  | checkout data => exact course_applied fun _ _ h => course_createOrder h
  | verifyPayment userId order existing dto hrzp =>
      exact course_applied fun _ _ h => course_capturePayment hrzp h
  | processWebhook id => exact course_applied fun _ _ h => course_processEvent h
  | reconcileCapturedPayment order captured =>
      exact course_applied fun _ _ h => course_recordReconciled h
  | failStalePendingOrder order =>
      exact course_applied fun _ _ h =>
        course_of_transition rfl (fun h => by cases h) (expirePendingOrder_ok h)
  | performCancellation order capturedAttempt actor reason =>
      refine course_applied fun _ w' h => ?_
      obtain ⟨⟨⟩, w₁, howed, htrans⟩ := Tx.bind_ok.mp h
      have hledger : ledger w₁ = ledger w :=
        within_recordOwedRefund ledgerSame_refunds _ _ _ howed
      exact course_of_transition hledger (fun h => by cases h) (transitionOrderWithHistory_ok htrans)
  | performRefundRecording order actor reason =>
      refine course_applied fun _ _ h => ?_
      obtain ⟨hposts, -⟩ : _ ∧ _ ∧ RefundStep ⟨False, False⟩ 0 w _ := recordRefund_ok h
      exact course_of_transition rfl (fun h => by cases h) hposts
  | adminTransitionStatus order status actor reason =>
      refine course_applied fun _ _ h =>
        course_of_transition rfl ?_ (transitionOrderWithHistory_ok h)
      rintro rfl
      exact ⟨order, rfl, rfl⟩
  | createRefund request tenantId paymentAttemptId dto =>
      exact course_of_ledger (applied_within (R := Tx.Same ledger)
        (within_reserveRefund ledgerSame_refunds _ _ _ _) w)
  | callProvider refund providerPaymentId answer =>
      exact course_of_ledger (applied_within (R := Tx.Same ledger)
        (within_bookProviderRefund ledgerSame_refunds _ _ _) w)
  | reopenOrder order hfailed =>
      refine course_applied fun n w' h => ?_
      obtain ⟨-, hs, hledger⟩ | ⟨-, -, rfl⟩ := casStatus_ok h
      · exact course_of_status hs (by rw [hfailed]; decide) (by decide) hledger
      · exact course_of_ledger rfl
  | logTransition row hk =>
      exact course_applied fun _ _ h => course_createHistory h
  | bindPaymentAccount orderId paymentAccountId =>
      exact course_applied fun _ _ h => course_of_ledger (updateOrder_ok h fun _ => rfl)
  | associateRazorpayOrder orderId razorpayOrderId =>
      exact course_applied fun _ _ h => course_of_ledger (updateOrder_ok h fun _ => rfl)
  | openAttempt row hk hrow =>
      refine course_applied fun a _ h => course_of_ledger (createAttempt_ok h ?_)
      obtain ⟨t, -, rfl, -⟩ := Slot.create_ok h
      rw [(hrow _).1]
      decide
  | insertWebhookEvent razorpayEventId payload paymentAccountId now =>
      exact course_of_ledger (applied_within (R := Tx.Same ledger)
        (insertWebhookEvent_within fun _ => rfl) w)
  | safeUpdate id data hk hsame =>
      refine course_applied fun _ _ h => ?_
      obtain ⟨e, t, -, -, -, rfl⟩ := Slot.update_ok h
      exact course_of_ledger rfl
  | settleRefund p f hk =>
      refine course_applied fun _ _ h => ?_
      obtain ⟨t, -, -, rfl⟩ := Slot.updateMany_ok h
      exact course_of_ledger rfl
  | administer paymentAccounts stores users => exact course_of_ledger rfl
  | failProviderRefund razorpayRefundId => exact course_of_ledger rfl

end PrintForge
