import PrintForge.Payments.RefundsServed

/-!
# What holds of an order in every run

Results about runs of any length under any schedule of the payment system. `Reaches` is such
a run in which Razorpay tells the truth about which payment belongs to which order. A
condition on the commits of a run, where there is one, excludes a step that goes wrong, and
the run that shows the step going wrong stands next to the result.
-/

namespace PrintForge

open Relational Concurrent Function

variable {gateway : Gateway} {ok : Commit → World → Prop} {w w' : World}
variable {paymentAccounts : Table PaymentAccount} {stores : Table Store} {users : Table User}

instance (gateway : Gateway) : DecidablePred (Request.Genuine gateway)
  | .reconcileOne _ _ payments =>
      inferInstanceAs (Decidable (∀ ps ∈ payments, ∀ p ∈ ps, _))
  | .checkout _ | .administer _ _ _ | .initiatePayment _ _ _ | .verifyPayment _ _
  | .receiveWebhook _ _ _ _ | .receiveMerchantWebhook _ _ _ _ _ | .processOne _ _
  | .failStale _ _ | .cancelOrder _ _ _ | .adminTransitionStatus _ _ _ _ _
  | .createRefund _ _ _ _ | .failProviderRefund _ => inferInstanceAs (Decidable True)

/-- A run of the payment system whose requests are genuine and whose commits are `ok`. -/
abbrev Reaches (gateway : Gateway) (ok : Commit → World → Prop) :
    PaymentConfig → PaymentConfig → Prop :=
  Run (handle gateway) (fun req _ => req.Genuine gateway) ok

/-- Every state of a run satisfies the invariant, and what is still in flight is served. -/
theorem holds_of_reaches {c : PaymentConfig}
    (h : Reaches gateway ok (.initial paymentAccounts stores users) c) :
    (bookkeeping gateway ok).Holds (fun _ _ _ _ => True) c := by
  have hidle : (bookkeeping gateway ok).Holds (fun _ _ _ _ => True)
      (PaymentConfig.initial paymentAccounts stores users) :=
    Discipline.holds_idle (booksInv_initial paymentAccounts stores users)
  refine hidle.run (Nat.zero_le _) (fun i req w _ hinv hgenuine => ?_) h
  exact served_handle hgenuine hinv

/-- A property that every guaranteed commit keeps holds in every state a run goes through. -/
theorem Discipline.Holds.invariant {J : World → Prop} {c c' : PaymentConfig}
    (hc : (bookkeeping gateway ok).Holds (fun _ _ _ _ => True) c) (hJ : J c.state)
    (hstep : ∀ i ℓ w w', BooksInv gateway w → J w → ok ℓ w → Guarantee gateway ok i ℓ w w' →
      J w')
    (h : Reaches gateway ok c c') : J c'.state := by
  let D := (bookkeeping gateway ok).strengthen J (fun _ _ => True)
    fun i ℓ w w' hinv hj hok _ hg => hstep i ℓ w w' hinv hj hok hg
  have hD : D.Holds (fun _ _ _ _ => True) c :=
    ⟨⟨hc.inv, hJ⟩, fun i req p hi => (hc.safe i req p hi).strengthen⟩
  have hrun := Run.mono h (fun _ _ => id) fun ℓ w hok => (⟨hok, trivial⟩ : ok ℓ w ∧ True)
  have hlater : D.Holds (fun _ _ _ _ => True) c' := by
    refine hD.run (Nat.zero_le _) (fun i req w _ hinv hgenuine => ?_) hrun
    exact (served_handle hgenuine hinv.1).strengthen
  exact hlater.inv.2

/-- What the ledger step of a commit keeps of its order, the commit keeps of every order. -/
theorem Guarantee.ledgers {P : Ledger → Prop} {i : Nat} {ℓ : Commit}
    (h : Guarantee gateway ok i ℓ w w')
    (hstep : ∀ {o k L'}, Admits ℓ w o k → Ledger.Step k (ledger w o) L' → P (ledger w o) → P L')
    (hP : ∀ o, P (ledger w o)) : ∀ o, P (ledger w' o) := by
  obtain ⟨o, k, ⟨hs, hframe⟩, hadmits⟩ := h.posts
  intro o'
  by_cases ho : o' = o
  · subst ho
    exact hstep hadmits hs (hP _)
  · rw [hframe o' ho]
    exact hP o'

/-- What every ledger step keeps, a run keeps. -/
theorem ledgers_of_reaches {P : Ledger → Prop} {c : PaymentConfig} (hblank : P Ledger.blank)
    (hstep : ∀ {ℓ w o k L'}, ok ℓ w → Admits ℓ w o k → Ledger.Step k (ledger w o) L' →
      P (ledger w o) → P L')
    (h : Reaches gateway ok (.initial paymentAccounts stores users) c) (o : Nat) :
    P (ledger c.state o) := by
  have hidle : (bookkeeping gateway ok).Holds (fun _ _ _ _ => True)
      (PaymentConfig.initial paymentAccounts stores users) :=
    Discipline.holds_idle (booksInv_initial paymentAccounts stores users)
  refine Discipline.Holds.invariant (J := fun w => ∀ o, P (ledger w o)) hidle (fun o => ?_)
    (fun i ℓ w w' _ hJ hok hg => hg.ledgers (hstep hok) hJ) h o
  rw [hidle.inv.blank o rfl]
  exact hblank

/-! ## A shop for concrete runs -/

/-- The bodies of webhooks that the example shop may receive. -/
def exampleBodies : List (String × RazorpayWebhookPayload) :=
  let payment (id : String) : RazorpayPaymentEntity :=
    ⟨id, "order_1", some 10000, none, none, none, none⟩
  [("failed pay_1", ⟨failedEvent, some (payment "pay_1"), none, none⟩),
   ("failed pay_2", ⟨failedEvent, some (payment "pay_2"), none, none⟩),
   ("captured pay_1", ⟨capturedEvent, some (payment "pay_1"), none, none⟩),
   ("captured pay_2", ⟨capturedEvent, some (payment "pay_2"), none, none⟩)]

theorem exampleBodies_genuine : ∀ b ∈ exampleBodies, ∀ payment ∈ b.2.payment,
    "order_1" = payment.orderId := by
  decide

def exampleParse (rawBody : String) : Option RazorpayWebhookPayload :=
  (exampleBodies.find? (·.1 = rawBody)).map (·.2)

theorem exampleParse_genuine {rawBody : String} {payload : RazorpayWebhookPayload}
    {payment : RazorpayPaymentEntity} (h : exampleParse rawBody = some payload)
    (hp : payload.payment = some payment) : "order_1" = payment.orderId := by
  obtain ⟨b, hb, rfl⟩ := Option.map_eq_some_iff.mp h
  exact exampleBodies_genuine b (List.mem_of_find?_eq_some hb) payment hp

/-- One Razorpay order, and signatures that fit whenever they name it. -/
def exampleGateway : Gateway where
  publicKeyId _ := "rzp_key"
  paymentSignatureValid _ orderId _ _ := orderId == "order_1"
  webhookSignatureValid _ _ _ := true
  globalWebhookSignatureValid _ _ := true
  parse := exampleParse
  orderOf _ := "order_1"
  orderOf_eq h := (beq_iff_eq.mp h).symm
  parse_genuine _ h hp := exampleParse_genuine h hp
  parse_genuine_global _ h hp := exampleParse_genuine h hp

def exampleAccounts : Table PaymentAccount :=
  ⟨[⟨0, 0, 0, .razorpay, .active, some "credentials"⟩], 1, by decide, by decide⟩

def exampleStores : Table Store := ⟨[⟨0, 0⟩], 1, by decide, by decide⟩

def exampleUsers : Table User := ⟨[⟨0, "customer@example.com"⟩], 1, by decide, by decide⟩

def exampleStart : PaymentConfig := .initial exampleAccounts exampleStores exampleUsers

/-- Accept a request as the `i`-th and take its first `n` actions. -/
def serve (i : Nat) (req : Request) (n : Nat) : List (Action Request) :=
  .accept req :: List.replicate n (.advance i)

/-- Receive a webhook and process it, as requests `i` and `i + 1`. -/
def deliver (i event : Nat) (body : String) : List (Action Request) :=
  serve i (.receiveWebhook body "signature" (some body) 0) 1 ++
    serve (i + 1) (.processOne event 0) 1

/-- Follow a schedule in the example shop. -/
def follow (ok : Commit → World → Prop) [∀ ℓ w, Decidable (ok ℓ w)]
    (acts : List (Action Request)) (c : PaymentConfig) : Option PaymentConfig :=
  exec (handle exampleGateway) (fun req _ => req.Genuine exampleGateway) ok acts c

/-- An order of 100 rupees, placed and with a first payment attempt. -/
def exampleOrder : List (Action Request) :=
  serve 0 (.checkout ⟨"PF-1", 0, 0, some 0, ⟨10000, -2⟩⟩) 1 ++
    serve 1 (.initiatePayment 0 0 (.ok "order_1")) 7

/-- The order, and the webhook of its payment. -/
def examplePaid : List (Action Request) := exampleOrder ++ deliver 2 0 "captured pay_1"

/-! ## A paid order has one captured payment -/

/-- No administrator sets an order to paid by hand. -/
def NotPaidByHand : Commit → World → Prop
  | .adminTransitionStatus _ status, _ => status ≠ .paid
  | _, _ => True

instance (w : World) : DecidablePred fun ℓ => NotPaidByHand ℓ w
  | .adminTransitionStatus _ status => inferInstanceAs (Decidable (status ≠ .paid))
  | .statement | .checkout | .verifyPayment _ _ _ | .processWebhook _
  | .reconcileCapturedPayment _ | .failStalePendingOrder _ | .performCancellation _ _
  | .performRefundRecording _ | .createRefund _ | .callProvider _ _ =>
      inferInstanceAs (Decidable True)

instance (ℓ : Commit) (w : World) : Decidable (NotPaidByHand ℓ w) :=
  inferInstanceAs (Decidable ((fun ℓ => NotPaidByHand ℓ w) ℓ))

theorem NotPaidByHand.not_admits {ℓ : Commit} {o : Nat} {k : Ledger.Kind}
    (hok : NotPaidByHand ℓ w) (h : Admits ℓ w o k) : k ≠ .move .paid := by
  rintro rfl
  obtain ⟨order, rfl, -⟩ := h
  exact hok rfl

/-- At most one attempt of the order is captured, and one is as soon as the order has left
the statuses before the payment. -/
structure CapturedOnce (w : World) (order : Order) : Prop where
  unique : ∀ a ∈ w.paymentAttempts, ∀ b ∈ w.paymentAttempts, a.orderId = order.id →
    b.orderId = order.id → a.status = .captured → b.status = .captured → a = b
  captured : ¬ order.status.Unpaid → OrderCaptured w order.id

/-- What is captured stays captured, for the same order and with the same payment. -/
def StaysCaptured (w w' : World) : Prop :=
  ∀ a ∈ w.paymentAttempts, a.status = .captured →
    ∃ a' ∈ w'.paymentAttempts, a'.id = a.id ∧ a'.orderId = a.orderId ∧
      a'.status = .captured ∧ a'.razorpayPaymentId = a.razorpayPaymentId

theorem Persist.staysCaptured (h : Persist w w') : StaysCaptured w w' := by
  intro a ha hs
  obtain ⟨a', ha', hid, hle⟩ := h.attempts a ha
  obtain ⟨hs', hp⟩ := hle.captured hs
  exact ⟨a', ha', hid, hle.orderId, hs', hp⟩

theorem persist_of_reaches {c c' : PaymentConfig}
    (hrun : Reaches gateway ok (.initial paymentAccounts stores users) c)
    (hlater : Reaches gateway ok c c') : Persist c.state c'.state := by
  refine Discipline.Holds.invariant (J := Persist c.state) (holds_of_reaches hrun)
    (Std.Refl.refl _) (fun i ℓ w w' _ hJ _ hg => ?_) hlater
  exact IsTrans.trans _ _ _ hJ hg.persist

/-- In every run without a status change to paid by hand, an order has at most one captured
attempt, exactly one once it is paid, and never loses it. -/
theorem paid_order_captured_once {c c' : PaymentConfig} {order : Order}
    (hrun : Reaches gateway NotPaidByHand (.initial paymentAccounts stores users) c)
    (horder : order ∈ c.state.orders) (hlater : Reaches gateway NotPaidByHand c c') :
    CapturedOnce c.state order ∧ StaysCaptured c.state c'.state := by
  have hpaid : (ledger c.state order.id).PaidCaptured := by
    refine ledgers_of_reaches (fun s hs => ?_) (fun hok hadmits hs hp => ?_) hrun order.id
    · cases hs
    · exact hs.paidCaptured (fun hk => absurd hk (hok.not_admits hadmits)) hp
  refine ⟨⟨fun a ha b hb hao hbo has hbs => ?_, fun hs => ?_⟩,
    (persist_of_reaches hrun hlater).staysCaptured⟩
  · exact Table.eq_of_clash ha hb (.inr ⟨hao.trans hbo.symm, has, hbs⟩)
  · exact captured_nonempty.mp (hpaid _ (ledger_status_of_mem horder) hs)

/-- A paid order that is then cancelled. -/
theorem paid_order_captured_once_cancelled :
    ∃ (c c' : PaymentConfig) (order : Order), order ∈ c.state.orders ∧ order.status = .paid ∧
      c.state.orders ≠ c'.state.orders ∧
      CapturedOnce c.state order ∧ StaysCaptured c.state c'.state := by
  have hrun : (follow NotPaidByHand examplePaid exampleStart).any (fun c =>
      c.state.orders.rows.any fun order =>
        decide (order.status = .paid) &&
          (follow NotPaidByHand (serve 4 (.cancelOrder 0 0 none) 3) c).any fun c' =>
            decide (c.state.orders.rows ≠ c'.state.orders.rows)) = true := by
    decide +kernel
  obtain ⟨c, hc, h⟩ := exec_any hrun
  obtain ⟨order, horder, h⟩ := List.any_eq_true.mp h
  obtain ⟨hpaid, h⟩ := Bool.and_eq_true_iff.mp h
  obtain ⟨c', hc', hne⟩ := exec_any h
  refine ⟨c, c', order, horder, of_decide_eq_true hpaid, fun he => ?_,
    paid_order_captured_once hc horder hc'⟩
  exact of_decide_eq_true hne (by rw [he])

/-! ## The paid notice and the paid transition -/

/-- A verify callback only captures a payment while its order is pending, and no
administrator sets an order to paid by hand. -/
def NoLostCapture : Commit → World → Prop
  | .verifyPayment order existingByPaymentId razorpayPaymentId, w =>
      VerifyCaptures order existingByPaymentId razorpayPaymentId w →
        (w.orders.get order.id).map (·.status) = some .pendingPayment
  | ℓ, w => NotPaidByHand ℓ w

instance (w : World) : DecidablePred fun ℓ => NoLostCapture ℓ w
  | .verifyPayment _ _ _ => inferInstanceAs (Decidable (_ → _))
  | .adminTransitionStatus _ status => inferInstanceAs (Decidable (status ≠ .paid))
  | .statement | .checkout | .processWebhook _ | .reconcileCapturedPayment _
  | .failStalePendingOrder _ | .performCancellation _ _ | .performRefundRecording _
  | .createRefund _ | .callProvider _ _ => inferInstanceAs (Decidable True)

instance (ℓ : Commit) (w : World) : Decidable (NoLostCapture ℓ w) :=
  inferInstanceAs (Decidable ((fun ℓ => NoLostCapture ℓ w) ℓ))

/-- How often the history of the order says that it became paid. -/
def paidTransitions (w : World) (o : Nat) : Nat :=
  (w.orderStatusHistory.findMany fun h => h.orderId = o && h.toStatus = .paid).length

/-- The paid notice of the order is out exactly when its history has the transition, which
it has at most once. -/
def PaidAnnounced (w : World) (o : Nat) : Prop :=
  ((∃ e ∈ w.outboxEvents, e.eventKey = ⟨o, .orderPaid⟩) ↔ 0 < paidTransitions w o) ∧
    paidTransitions w o ≤ 1

instance (w : World) (o : Nat) : Decidable (PaidAnnounced w o) :=
  inferInstanceAs (Decidable (((∃ e ∈ w.outboxEvents.rows, _) ↔ _) ∧ _))

theorem ledger_paidTransitions (w : World) (o : Nat) :
    (ledger w o).paidTransitions = paidTransitions w o := by
  rw [Ledger.paidTransitions, ledger, List.countP_map, Table.findMany, List.countP_filter,
    paidTransitions, Table.findMany, ← List.countP_eq_length_filter]
  simp [Bool.and_comm]

/-- The steps of such a commit keep the notice and the transition together. -/
theorem NoLostCapture.announced {ℓ : Commit} {o : Nat} {k : Ledger.Kind} {L' : Ledger}
    (hok : NoLostCapture ℓ w) (hadmits : Admits ℓ w o k)
    (hs : Ledger.Step k (ledger w o) L') (ha : (ledger w o).Announced) : L'.Announced := by
  refine hs.announced ?_ ?_ ha
  · rintro rfl
    obtain ⟨hcaptures, order, existing, p, rfl⟩ := hadmits
    obtain ⟨rfl, hverify⟩ := hcaptures
    cases hs with
    | lostCapture k h hne _ _ => exact hne (Option.some.inj (h.symm.trans (hok hverify)))
  · rintro rfl
    obtain ⟨order, rfl, -⟩ := hadmits
    exact hok rfl

/-- As long as verify callbacks only capture payments of pending orders, the paid notice of
an order is out exactly when its history has the transition, which it has at most once. -/
theorem paid_notice_iff_transition {c : PaymentConfig}
    (hrun : Reaches gateway NoLostCapture (.initial paymentAccounts stores users) c) (o : Nat) :
    PaidAnnounced c.state o := by
  have ha : (ledger c.state o).Announced := by
    refine ledgers_of_reaches ?_ NoLostCapture.announced hrun o
    exact ⟨by simp [Ledger.blank, Ledger.paidTransitions], by simp [Ledger.blank,
      Ledger.paidTransitions], by simp [Ledger.blank, Ledger.paidTransitions]⟩
  have hone := ha.le_one
  have hiff := ha.notice_iff
  rw [ledger_paidTransitions] at hone hiff
  refine ⟨mem_notices.symm.trans (hiff.trans ?_), hone⟩
  omega

/-- The customer's callback and the webhook both report the payment. -/
theorem paid_notice_iff_transition_verified :
    ∃ c : PaymentConfig, paidTransitions c.state 0 = 1 ∧ PaidAnnounced c.state 0 := by
  have hrun : (follow NoLostCapture (exampleOrder ++
      serve 2 (.verifyPayment 0 ⟨"order_1", "pay_1", "signature"⟩) 5 ++
      deliver 3 0 "captured pay_1") exampleStart).any
        (fun c => decide (paidTransitions c.state 0 = 1)) = true := by
    decide +kernel
  obtain ⟨c, hc, h⟩ := exec_any hrun
  exact ⟨c, of_decide_eq_true h, paid_notice_iff_transition hc 0⟩

/-- Two attempts are open. The callback for one payment reads the order while it is pending,
the other payment fails, and the callback then announces a paid order all the same. -/
theorem paid_notice_without_transition :
    ¬ ∀ (gateway : Gateway) (paymentAccounts : Table PaymentAccount) (stores : Table Store)
      (users : Table User) (c : PaymentConfig) (o : Nat),
        Reaches gateway NotPaidByHand (.initial paymentAccounts stores users) c →
          PaidAnnounced c.state o := by
  have hrun : (follow NotPaidByHand (exampleOrder ++
      serve 2 (.initiatePayment 0 0 (.ok "order_2")) 4 ++
      serve 3 (.verifyPayment 0 ⟨"order_1", "pay_2", "signature"⟩) 4 ++
      deliver 4 0 "failed pay_1" ++ [.advance 3]) exampleStart).any
        (fun c => decide (¬ PaidAnnounced c.state 0)) = true := by
    decide +kernel
  obtain ⟨c, hc, h⟩ := exec_any hrun
  exact fun hall => of_decide_eq_true h (hall _ _ _ _ c 0 hc)

end PrintForge
