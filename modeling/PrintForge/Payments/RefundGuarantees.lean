import PrintForge.Payments.OrderGuarantees

/-!
# What holds of refunds in every run

The refund rows that count against a captured payment never add up to more than it, as long
as no order is cancelled while part of its payment is refunded: a cancellation writes down the
whole amount whatever has been reserved.

What Razorpay has accepted stays within the payment too, cancelled orders or not, as long as
it never reports an accepted refund as an error: the row of such a refund is failed and no
longer counts.
-/

namespace PrintForge

open Relational Concurrent

variable {gateway : Gateway} {ok : Commit → World → Prop} {terms : RefundTerms} {i : Nat}
variable {w w' : World}
variable {paymentAccounts : Table PaymentAccount} {stores : Table Store} {users : Table User}

/-! ## What one row counts for -/

/-- What a refund takes up of the attempt with key `k`. -/
def Refund.weight (k : Nat) (r : Refund) : Int :=
  if r.paymentAttemptId = k && r.isReserving then r.amountPaise else 0

theorem alreadyReserved_eq_total (w : World) (k : Nat) :
    alreadyReserved w k = w.refunds.total (Refund.weight k) :=
  Table.sum_findMany _ _

/-- A row that changes counts for no more than before. -/
theorem Refund.Le.weight_le {k : Nat} {a b : Refund} (h : a.Le b) (ha : 0 ≤ a.weight k) :
    b.weight k ≤ a.weight k := by
  unfold Refund.weight at ha ⊢
  rw [h.paymentAttemptId, h.amountPaise]
  by_cases hk : a.paymentAttemptId = k
  · by_cases hb : b.isReserving = true
    · simp [hk, hb, h.reserving hb]
    · simpa [hk, hb] using ha
  · simp [hk]

/-- Rows about an amount of money count for an amount of money. -/
theorem RefundInv.weight_nonneg {a : PaymentAttempt} (h : RefundInv w)
    (ha : a ∈ w.paymentAttempts) (hpos : 0 ≤ a.amountPaise) :
    ∀ r ∈ w.refunds, 0 ≤ r.weight a.id := by
  intro r hr
  unfold Refund.weight
  split
  · next hrow =>
    simp only [Bool.and_eq_true, decide_eq_true_eq] at hrow
    obtain ⟨b, hget, -, hamount⟩ := h.captured r hr
    have hself : w.paymentAttempts.get a.id = some a := Table.get_key ha
    rw [hrow.1, hself] at hget
    obtain rfl := Option.some.inj hget
    obtain hlt | heq := hamount
    · exact Int.le_of_lt hlt
    · rw [heq]
      exact hpos
  · exact Int.le_refl 0

/-- Nothing is refunded of an attempt that is not there. -/
theorem RefundInv.weight_eq_zero {k : Nat} (h : RefundInv w) (hk : w.paymentAttempts.get k = none) :
    ∀ r ∈ w.refunds, r.weight k = 0 := by
  intro r hr
  obtain ⟨a, hget, -⟩ := h.captured r hr
  have hne : r.paymentAttemptId ≠ k := fun he => by simp [he, hk] at hget
  simp [Refund.weight, hne]

/-! ## The refunds of an order stay within its payment -/

/-- A commit takes up no more of an attempt than before, or no more than the attempt has. -/
theorem RefundStep.alreadyReserved_le {k : Nat} (h : RefundStep terms i w w')
    (hu : terms.unrefunded) (hpos : ∀ r ∈ w.refunds, 0 ≤ r.weight k) :
    alreadyReserved w' k ≤ alreadyReserved w k ∨
      ∃ a ∈ w.paymentAttempts, a.id = k ∧ alreadyReserved w' k ≤ a.amountPaise := by
  have unchanged : w'.refunds = w.refunds → alreadyReserved w' k ≤ alreadyReserved w k :=
    fun he => by rw [alreadyReserved, he]; exact Int.le_refl _
  have added : ∀ {row hk t a}, w.refunds.create row hk = some t → w'.refunds = t →
      a ∈ w.paymentAttempts → (row w.refunds.nextKey).paymentAttemptId = a.id →
      (a.id = k → alreadyReserved w k + (row w.refunds.nextKey).amountPaise ≤ a.amountPaise) →
      (row w.refunds.nextKey).isReserving = true →
      alreadyReserved w' k ≤ alreadyReserved w k ∨
        ∃ a ∈ w.paymentAttempts, a.id = k ∧ alreadyReserved w' k ≤ a.amountPaise := by
    intro row hk t a ht hw ha hid hle hres
    have htotal : alreadyReserved w' k =
        alreadyReserved w k + (row w.refunds.nextKey).weight k := by
      rw [alreadyReserved_eq_total, hw, Table.total_create ht, alreadyReserved_eq_total]
    by_cases hak : a.id = k
    · refine .inr ⟨a, ha, hak, ?_⟩
      rw [htotal, Refund.weight, hid, hres]
      simpa [hak] using hle hak
    · refine .inl ?_
      rw [htotal, Refund.weight, hid]
      simp [hak]
  cases h with
  | same h => exact .inl (unchanged (refundsSame_iff.mp h).1)
  | settle p f hf t ht hw hle _ _ _ =>
      refine .inl ?_
      rw [alreadyReserved_eq_total, (refundsSame_iff.mp hw).1, alreadyReserved_eq_total]
      exact Table.total_update_le ht fun r hr hp => (hle r hr hp).weight_le (hpos r hr)
  | reserve row hk t a ht hw ha hs hrow =>
      obtain ⟨hid, -, hres, -, hle⟩ := hrow w.refunds.nextKey
      refine added ht (refundsSame_iff.mp hw).1 ha hid (fun hak => ?_) hres
      rw [hak] at hle
      omega
  | owe row hk t a ht hw ha hs hrow hfree =>
      obtain ⟨hid, -, hres, hamount⟩ := hrow w.refunds.nextKey
      refine added ht (refundsSame_iff.mp hw).1 ha hid (fun hak => ?_) hres
      have hfree := hfree hu
      rw [hak] at hfree
      omega
  | accept q r a hw _ _ _ _ _ _ _ _ => exact .inl (unchanged (refundsSame_iff.mp hw).1)
  | reject id hw => exact .inl (unchanged (refundsSame_iff.mp hw).1)

/-- No attempt for an amount of money is refunded beyond it. -/
def Balanced (w : World) : Prop :=
  ∀ a ∈ w.paymentAttempts, 0 ≤ a.amountPaise → alreadyReserved w a.id ≤ a.amountPaise

/-- An attempt was there before with the same amount, or is new. -/
theorem Persist.attempt_cases (h : Persist w w') {a : PaymentAttempt}
    (ha : a ∈ w'.paymentAttempts) :
    (∃ a₀ ∈ w.paymentAttempts, a₀.id = a.id ∧ a₀.Le a) ∨ w.paymentAttempts.get a.id = none := by
  cases hget : w.paymentAttempts.get a.id with
  | none => exact .inr rfl
  | some a₀ =>
      obtain ⟨hmem, hid⟩ := Table.get_eq_some.mp hget
      obtain ⟨a', ha', hid', hle⟩ := h.attempts a₀ hmem
      obtain rfl : a' = a := Table.eq_of_key ha' ha (hid'.trans hid)
      exact .inl ⟨a₀, hmem, hid, hle⟩

theorem Balanced.step (h : RefundStep terms i w w') (hu : terms.unrefunded)
    (hp : Persist w w') (hinv : RefundInv w) (hb : Balanced w) : Balanced w' := by
  intro a' ha' hpos
  obtain ⟨a, ha, hid, hle⟩ | hnew := hp.attempt_cases ha'
  · rw [hle.amountPaise] at hpos ⊢
    rw [← hid]
    obtain hsame | ⟨b, hb', hbid, hle'⟩ :=
      h.alreadyReserved_le hu (hinv.weight_nonneg ha hpos)
    · exact Int.le_trans hsame (hb a ha hpos)
    · rwa [Table.eq_of_key hb' ha hbid] at hle'
  · have hzero := hinv.weight_eq_zero hnew
    obtain hsame | ⟨b, hb', hbid, -⟩ := h.alreadyReserved_le hu fun r hr => (hzero r hr).ge
    · have hnothing : alreadyReserved w a'.id = 0 := by
        rw [alreadyReserved_eq_total, Table.total_congr hzero]
        simp [Table.total]
      rw [hnothing] at hsame
      exact Int.le_trans hsame hpos
    · have hself : w.paymentAttempts.get b.id = some b := Table.get_key hb'
      rw [hbid, hnew] at hself
      cases hself

/-- What the refunds of an order that are pending or processed add up to. -/
def refundedTotal (w : World) (o : Nat) : Int :=
  ((w.refunds.findMany fun r => r.isReserving &&
    (w.paymentAttempts.get r.paymentAttemptId).any (·.orderId = o)).map (·.amountPaise)).sum

/-- The refunds of an order are those of its captured attempt. -/
theorem RefundInv.refundedTotal_eq {a : PaymentAttempt} (h : RefundInv w)
    (ha : a ∈ w.paymentAttempts) (hs : a.status = .captured) :
    refundedTotal w a.orderId = alreadyReserved w a.id := by
  unfold refundedTotal
  rw [Table.sum_findMany, alreadyReserved_eq_total]
  refine Table.total_congr fun r hr => ?_
  obtain ⟨b, hget, hbs, -⟩ := h.captured r hr
  obtain ⟨hb, hbid⟩ := Table.get_eq_some.mp hget
  have hbid : b.id = r.paymentAttemptId := hbid
  have hiff : b.orderId = a.orderId ↔ r.paymentAttemptId = a.id := by
    rw [← hbid]
    constructor
    · exact fun ho => congrArg (·.id) (Table.eq_of_clash hb ha (.inr ⟨ho, hbs, hs⟩))
    · exact fun hid => congrArg (·.orderId) (Table.eq_of_key hb ha hid)
  simp [Refund.weight, hget, hiff, Bool.and_comm]

/-- The condition on runs: cancellations find nothing of the captured payment refunded. -/
def CancelledUnrefunded (ℓ : Commit) (w : World) : Prop := CancelsUnrefunded w ℓ

instance (ℓ : Commit) (w : World) : Decidable (CancelledUnrefunded ℓ w) :=
  inferInstanceAs (Decidable (CancelsUnrefunded w ℓ))

/-- As long as orders are only cancelled while nothing of their payment is refunded, the
refunds of an order never exceed its captured payment. -/
theorem refunds_within_payment {c : PaymentConfig} {a : PaymentAttempt}
    (hrun : Reaches gateway CancelledUnrefunded (.initial paymentAccounts stores users) c)
    (ha : a ∈ c.state.paymentAttempts) (hs : a.status = .captured) (hpos : 0 ≤ a.amountPaise) :
    refundedTotal c.state a.orderId ≤ a.amountPaise := by
  have hinv : BooksInv gateway c.state := (holds_of_reaches hrun).inv
  have hidle : (bookkeeping gateway CancelledUnrefunded).Holds (fun _ _ _ _ => True)
      (PaymentConfig.initial paymentAccounts stores users) :=
    Discipline.holds_idle (booksInv_initial paymentAccounts stores users)
  have hbalanced : Balanced c.state := by
    refine Discipline.Holds.invariant hidle (fun a ha => ?_) (fun i ℓ w w' hinv hJ _ hg => ?_)
      hrun
    · exact absurd ha (Table.not_mem_empty a)
    · exact hJ.step hg.refunds (fun _ _ h => h) hg.persist hinv.refunds
  rw [hinv.refunds.refundedTotal_eq ha hs]
  exact hbalanced a ha hpos

/-- Refund the first payment of the shop. -/
def refundFirst (amountPaise : Int) (answer : ProviderRefundAnswer) : Request :=
  .createRefund 0 0 ⟨some (some amountPaise), none⟩ answer

/-- Part of a payment is refunded, and then the rest. -/
theorem refunds_within_payment_twice :
    ∃ (c : PaymentConfig) (a : PaymentAttempt), a ∈ c.state.paymentAttempts ∧
      a.amountPaise = 10000 ∧ refundedTotal c.state a.orderId = 10000 ∧
      refundedTotal c.state a.orderId ≤ a.amountPaise := by
  have hrun : (follow CancelledUnrefunded (examplePaid ++
      serve 4 (refundFirst 4000 ⟨some "rfnd_1", .ok ⟨"rfnd_1", "processed"⟩⟩) 6 ++
      serve 5 (refundFirst 6000 ⟨some "rfnd_2", .ok ⟨"rfnd_2", "pending"⟩⟩) 6)
      exampleStart).any (fun c => c.state.paymentAttempts.rows.any fun a =>
        decide (a.status = .captured ∧ a.amountPaise = 10000 ∧
          refundedTotal c.state a.orderId = 10000)) = true := by
    decide +kernel
  obtain ⟨c, hc, h⟩ := exec_any hrun
  obtain ⟨a, ha, h⟩ := List.any_eq_true.mp h
  obtain ⟨hs, hamount, htotal⟩ := of_decide_eq_true h
  exact ⟨c, a, ha, hamount, htotal, refunds_within_payment hc ha hs (by omega)⟩

/-- A partial refund is made, and then the order is cancelled. -/
theorem refunds_exceed_payment_after_cancellation :
    ¬ ∀ (gateway : Gateway) (paymentAccounts : Table PaymentAccount) (stores : Table Store)
      (users : Table User) (c : PaymentConfig) (a : PaymentAttempt),
        Reaches gateway (fun _ _ => True) (.initial paymentAccounts stores users) c →
          a ∈ c.state.paymentAttempts → a.status = .captured → 0 ≤ a.amountPaise →
            refundedTotal c.state a.orderId ≤ a.amountPaise := by
  have hrun : (follow (fun _ _ => True) (examplePaid ++
      serve 4 (refundFirst 4000 ⟨some "rfnd_1", .ok ⟨"rfnd_1", "processed"⟩⟩) 6 ++
      serve 5 (.cancelOrder 0 0 none) 3) exampleStart).any (fun c =>
        c.state.paymentAttempts.rows.any fun a => decide (a.status = .captured ∧
          0 ≤ a.amountPaise ∧ ¬ refundedTotal c.state a.orderId ≤ a.amountPaise)) = true := by
    decide +kernel
  obtain ⟨c, hc, h⟩ := exec_any hrun
  obtain ⟨a, ha, h⟩ := List.any_eq_true.mp h
  obtain ⟨hs, hpos, hexceeds⟩ := of_decide_eq_true h
  exact fun hall => hexceeds (hall _ _ _ _ c a hc ha hs hpos)

/-! ## What Razorpay has accepted stays within the payment -/

/-- The row was reserved by some request, so Razorpay may be asked for it. -/
def requested (w : World) (k : Nat) : Bool := w.reservedBy.any (·.1 = k)

theorem requested_iff {k : Nat} : requested w k = true ↔ ∃ j, ReservedBy w k j := by
  simp [requested, ReservedBy]

/-- What the requested refunds of an attempt take up. -/
def requestedTotal (w : World) (k : Nat) : Int :=
  w.refunds.total fun r => if requested w r.id then r.weight k else 0

/-- The row a refund was asked for, as far as Razorpay's books agree with it. -/
structure ProviderRefund.Fits (q : ProviderRefund) (r : Refund) : Prop where
  amount : q.amountPaise = r.amountPaise
  name : ∀ x, r.razorpayRefundId = some x → q.razorpayRefundId = x
  standing : q.standing = true → r.isReserving = true

/-- Every refund on Razorpay's books was asked for once, for a row of the same amount that
still counts while the refund stands, and for the payment of the row's attempt. -/
structure ProviderInv (w : World) : Prop where
  distinct : (w.providerRefunds.map (·.refundId)).Nodup
  row : ∀ q ∈ w.providerRefunds, ∃ r, w.refunds.get q.refundId = some r ∧ q.Fits r ∧
    ∃ a, w.paymentAttempts.get r.paymentAttemptId = some a ∧
      a.razorpayPaymentId = some q.razorpayPaymentId
  within : ∀ a ∈ w.paymentAttempts, 0 ≤ a.amountPaise → requestedTotal w a.id ≤ a.amountPaise

theorem RefundStep.distinct (h : RefundStep terms i w w')
    (hd : (w.providerRefunds.map (·.refundId)).Nodup) :
    (w'.providerRefunds.map (·.refundId)).Nodup := by
  cases h with
  | same h =>
      rw [(refundsSame_iff.mp h).2.1]
      exact hd
  | settle p f hf t ht hw _ _ _ _ =>
      rw [(refundsSame_iff.mp hw).2.1]
      exact hd
  | reserve row hk t a ht hw _ _ _ =>
      rw [(refundsSame_iff.mp hw).2.1]
      exact hd
  | owe row hk t a ht hw _ _ _ _ =>
      rw [(refundsSame_iff.mp hw).2.1]
      exact hd
  | accept q r a hw _ _ _ _ _ _ _ hnew =>
      rw [(refundsSame_iff.mp hw).2.1, List.map_append]
      refine List.Nodup.append hd (List.nodup_singleton _) fun k hk hk' => ?_
      obtain ⟨q', hq', rfl⟩ := List.mem_map.mp hk
      exact hnew q' hq' (by simpa using hk')
  | reject id hw =>
      have hids : ∀ q : ProviderRefund, (if q.razorpayRefundId = id then
          { q with standing := false } else q).refundId = q.refundId := by
        intro q
        split <;> rfl
      rw [(refundsSame_iff.mp hw).2.1, List.map_map]
      simpa [Function.comp_def, hids] using hd

/-- On honest terms Razorpay's books keep agreeing with the rows. -/
theorem RefundStep.row (h : RefundStep terms i w w') (hh : terms.honest) (hp : Persist w w')
    (hinv : RefundInv w) (hrow : ∀ q ∈ w.providerRefunds, ∃ r,
      w.refunds.get q.refundId = some r ∧ q.Fits r ∧
        ∃ a, w.paymentAttempts.get r.paymentAttemptId = some a ∧
          a.razorpayPaymentId = some q.razorpayPaymentId) :
    ∀ q ∈ w'.providerRefunds, ∃ r, w'.refunds.get q.refundId = some r ∧ q.Fits r ∧
      ∃ a, w'.paymentAttempts.get r.paymentAttemptId = some a ∧
        a.razorpayPaymentId = some q.razorpayPaymentId := by
  -- the payment of a row's attempt is captured, and stays
  have later : ∀ {r : Refund} {p : String} {k : Nat}, w.refunds.get k = some r →
      (∃ a, w.paymentAttempts.get r.paymentAttemptId = some a ∧ a.razorpayPaymentId = some p) →
        ∃ a, w'.paymentAttempts.get r.paymentAttemptId = some a ∧
          a.razorpayPaymentId = some p := by
    rintro r p k hget ⟨a, ha, hpay⟩
    obtain ⟨b, hb, hs, -⟩ := hinv.captured r (Table.get_eq_some.mp hget).1
    obtain rfl : a = b := Option.some.inj (ha.symm.trans hb)
    obtain ⟨a', ha', hle⟩ := hp.attempts.get ha
    exact ⟨a', ha', (hle.captured hs).2.trans hpay⟩
  have unchanged : w'.refunds = w.refunds → ∀ q ∈ w.providerRefunds, ∃ r,
      w'.refunds.get q.refundId = some r ∧ q.Fits r ∧
        ∃ a, w'.paymentAttempts.get r.paymentAttemptId = some a ∧
          a.razorpayPaymentId = some q.razorpayPaymentId := by
    intro he q hq
    obtain ⟨r, hget, hfits, ha⟩ := hrow q hq
    exact ⟨r, he ▸ hget, hfits, later hget ha⟩
  have created : ∀ {row hk t}, w.refunds.create row hk = some t → w'.refunds = t →
      ∀ q ∈ w.providerRefunds, ∃ r, w'.refunds.get q.refundId = some r ∧ q.Fits r ∧
        ∃ a, w'.paymentAttempts.get r.paymentAttemptId = some a ∧
          a.razorpayPaymentId = some q.razorpayPaymentId := by
    intro row hk t ht he q hq
    obtain ⟨r, hget, hfits, ha⟩ := hrow q hq
    obtain ⟨hmem, hkey⟩ := Table.get_eq_some.mp hget
    have hlt : q.refundId < w.refunds.nextKey := hkey ▸ Table.key_lt_nextKey hmem
    refine ⟨r, ?_, hfits, later hget ha⟩
    rw [he, Table.get_create ht, if_neg (Nat.ne_of_lt hlt)]
    exact hget
  intro q hq
  cases h with
  | same h =>
      rw [(refundsSame_iff.mp h).2.1] at hq
      exact unchanged (refundsSame_iff.mp h).1 q hq
  | settle p f hf t ht hw hle _ hfailed hnamed =>
      rw [(refundsSame_iff.mp hw).2.1] at hq
      obtain ⟨r, hget, hfits, ha⟩ := hrow q hq
      obtain ⟨hmem, hkey⟩ := Table.get_eq_some.mp hget
      have hget' := Table.get_update ht q.refundId
      rw [hget] at hget'
      rw [(refundsSame_iff.mp hw).1, hget']
      have hkey : q.refundId = r.id := hkey.symm
      by_cases hpr : p r = true
      · refine ⟨f r, by simp [hpr], ⟨?_, ?_, ?_⟩, ?_⟩
        · rw [(hle r hmem hpr).amountPaise]
          exact hfits.amount
        · intro x hx
          obtain hold | hall := hnamed hh r hmem hpr x hx
          · exact hfits.name x hold
          · exact hall q hq hkey
        · intro hstanding
          cases hstatus : (f r).status with
          | failed =>
              have := hfailed hh r hmem hpr hstatus q hq hkey hfits.name
              rw [hstanding] at this
              cases this
          | _ => simp [Refund.isReserving, reservingStatuses, hstatus]
        · rw [(hle r hmem hpr).paymentAttemptId]
          exact later hget ha
      · exact ⟨r, by simp [hpr], hfits, later hget ha⟩
  | reserve row hk t a ht hw _ _ _ =>
      rw [(refundsSame_iff.mp hw).2.1] at hq
      exact created ht (refundsSame_iff.mp hw).1 q hq
  | owe row hk t a ht hw _ _ _ _ =>
      rw [(refundsSame_iff.mp hw).2.1] at hq
      exact created ht (refundsSame_iff.mp hw).1 q hq
  | accept q' r a hw _ hr hnone hs hamount ha hpayment _ =>
      rw [(refundsSame_iff.mp hw).2.1] at hq
      obtain hq | hq := List.mem_append.mp hq
      · exact unchanged (refundsSame_iff.mp hw).1 q hq
      · obtain rfl : q = q' := List.mem_singleton.mp hq
        refine ⟨r, ?_, ⟨hamount, ?_, fun _ => hs⟩, later hr ⟨a, ha, hpayment⟩⟩
        · rw [(refundsSame_iff.mp hw).1]
          exact hr
        · intro x hx
          rw [hnone] at hx
          cases hx
  | reject id hw =>
      rw [(refundsSame_iff.mp hw).2.1] at hq
      obtain ⟨q₀, hq₀, rfl⟩ := List.mem_map.mp hq
      obtain ⟨r, hget, hfits, ha⟩ := unchanged (refundsSame_iff.mp hw).1 q₀ hq₀
      split
      · exact ⟨r, hget, ⟨hfits.amount, hfits.name, fun h => by cases h⟩, ha⟩
      · exact ⟨r, hget, hfits, ha⟩

/-- Whether an existing row was requested does not change. -/
theorem RefundStep.requested_eq (h : RefundStep terms i w w') {r : Refund} (hr : r ∈ w.refunds) :
    requested w' r.id = requested w r.id := by
  have hlt : r.id < w.refunds.nextKey := Table.key_lt_nextKey hr
  have hiff : requested w' r.id = true ↔ requested w r.id = true := by
    rw [requested_iff, requested_iff]
    constructor
    · rintro ⟨j, hj⟩
      obtain hj | ⟨he, -, -, -⟩ := (h.reserved.2 _ j).mp hj
      · exact ⟨j, hj⟩
      · omega
    · rintro ⟨j, hj⟩
      exact ⟨j, h.reservedBy_mono hj⟩
  exact Bool.eq_iff_iff.mpr hiff

/-- A commit requests no more of an attempt than before, or no more than the attempt has. -/
theorem RefundStep.requestedTotal_le {k : Nat} (h : RefundStep terms i w w') (hinv : RefundInv w)
    (hpos : ∀ r ∈ w.refunds, 0 ≤ r.weight k) :
    requestedTotal w' k ≤ requestedTotal w k ∨
      ∃ a ∈ w.paymentAttempts, a.id = k ∧ requestedTotal w' k ≤ a.amountPaise := by
  -- the old rows weigh what they did
  have hold : (w.refunds.total fun r => if requested w' r.id then r.weight k else 0) =
      requestedTotal w k :=
    Table.total_congr fun r hr => by rw [h.requested_eq hr]
  have unchanged : w'.refunds = w.refunds → requestedTotal w' k ≤ requestedTotal w k := by
    intro he
    rw [requestedTotal, he, hold]
  have hle : requestedTotal w k ≤ alreadyReserved w k := by
    rw [alreadyReserved_eq_total]
    refine Table.total_mono fun r hr => ?_
    split
    · exact Int.le_refl _
    · exact hpos r hr
  cases h with
  | same h => exact .inl (unchanged (refundsSame_iff.mp h).1)
  | settle p f hf t ht hw hrow _ _ _ =>
      refine .inl ?_
      rw [← hold, requestedTotal, (refundsSame_iff.mp hw).1]
      refine Table.total_update_le ht fun r hr hp => ?_
      have hid : (f r).id = r.id := hf r
      rw [hid]
      split
      · exact (hrow r hr hp).weight_le (hpos r hr)
      · exact Int.le_refl 0
  | reserve row hk t a ht hw ha hs hrow =>
      obtain ⟨hid, -, hreserving, hamount, hbalance⟩ := hrow w.refunds.nextKey
      have htotal : requestedTotal w' k ≤
          requestedTotal w k + (row w.refunds.nextKey).weight k := by
        rw [requestedTotal, (refundsSame_iff.mp hw).1, Table.total_create ht, hold]
        split
        · exact Int.le_refl _
        · unfold Refund.weight
          split <;> omega
      by_cases hak : a.id = k
      · refine .inr ⟨a, ha, hak, ?_⟩
        rw [Refund.weight, hid, hreserving, hak] at htotal
        simp only [decide_true, Bool.and_self, if_true] at htotal
        rw [hak] at hbalance
        omega
      · refine .inl ?_
        rw [Refund.weight, hid] at htotal
        simpa [hak] using htotal
  | owe row hk t a ht hw _ _ _ _ =>
      -- nobody has requested the new row
      have hnew : requested w' w.refunds.nextKey = false := by
        rw [Bool.eq_false_iff, Ne, requested_iff]
        rintro ⟨j, hj⟩
        have hj : (w.refunds.nextKey, j) ∈ w.reservedBy := (refundsSame_iff.mp hw).2.2 ▸ hj
        exact Nat.lt_irrefl _ (hinv.reserved_lt _ j hj)
      have hid : (row w.refunds.nextKey).id = w.refunds.nextKey := hk _
      refine .inl ?_
      rw [requestedTotal, (refundsSame_iff.mp hw).1, Table.total_create ht, hold, hid, hnew]
      simp
  | accept q r a hw _ _ _ _ _ _ _ _ => exact .inl (unchanged (refundsSame_iff.mp hw).1)
  | reject id hw => exact .inl (unchanged (refundsSame_iff.mp hw).1)

theorem ProviderInv.step (h : RefundStep terms i w w') (hh : terms.honest) (hp : Persist w w')
    (hinv : RefundInv w) (hb : ProviderInv w) : ProviderInv w' := by
  refine ⟨h.distinct hb.distinct, h.row hh hp hinv hb.row, fun a' ha' hpos => ?_⟩
  obtain ⟨a, ha, hid, hle⟩ | hnew := hp.attempt_cases ha'
  · rw [hle.amountPaise] at hpos ⊢
    rw [← hid]
    obtain hsame | ⟨b, hb', hbid, hle'⟩ :=
      h.requestedTotal_le hinv (hinv.weight_nonneg ha hpos)
    · exact Int.le_trans hsame (hb.within a ha hpos)
    · rwa [Table.eq_of_key hb' ha hbid] at hle'
  · have hzero := hinv.weight_eq_zero hnew
    obtain hsame | ⟨b, hb', hbid, -⟩ := h.requestedTotal_le hinv fun r hr => (hzero r hr).ge
    · have hnothing : requestedTotal w a'.id = 0 := by
        have hweight : ∀ r ∈ w.refunds,
            (if requested w r.id then r.weight a'.id else 0) = (fun _ : Refund => (0 : Int)) r :=
          fun r hr => by rw [hzero r hr, ite_self]
        rw [requestedTotal, Table.total_congr hweight]
        simp [Table.total]
      rw [hnothing] at hsame
      exact Int.le_trans hsame hpos
    · have hself : w.paymentAttempts.get b.id = some b := Table.get_key hb'
      rw [hbid, hnew] at hself
      cases hself

/-- What the standing refunds of a payment on Razorpay's books add up to. -/
def acceptedTotal (w : World) (razorpayPaymentId : String) : Int :=
  ((w.providerRefunds.filter fun q => q.standing && q.razorpayPaymentId = razorpayPaymentId).map
    (·.amountPaise)).sum

/-- A failed row has no refund that stands at Razorpay, and the standing refunds of a captured
payment stay within it. -/
structure RefundsAccounted (w : World) : Prop where
  failed : ∀ r ∈ w.refunds, r.status = .failed → ∀ q ∈ w.providerRefunds,
    q.refundId = r.id → q.standing = false
  within : ∀ a ∈ w.paymentAttempts, a.status = .captured → 0 ≤ a.amountPaise →
    ∀ p, a.razorpayPaymentId = some p → acceptedTotal w p ≤ a.amountPaise

theorem ProviderInv.accounted (h : ProviderInv w) (hinv : RefundInv w) : RefundsAccounted w := by
  constructor
  · intro r hr hs q hq hid
    obtain ⟨r', hget, hfits, -⟩ := h.row q hq
    obtain ⟨hmem, hkey⟩ := Table.get_eq_some.mp hget
    obtain rfl : r' = r := Table.eq_of_key hmem hr (hkey.trans hid)
    rw [Bool.eq_false_iff]
    intro hstanding
    have := hfits.standing hstanding
    simp [Refund.isReserving, reservingStatuses, hs] at this
  · intro a ha hs hpos p hpay
    have hdistinct : ((w.providerRefunds.filter fun q =>
        q.standing && q.razorpayPaymentId = p).map (·.refundId)).Nodup :=
      List.Sublist.nodup (List.filter_sublist.map _) h.distinct
    refine Int.le_trans (Table.sum_le_total (fun r hr => ?_) hdistinct fun q hq => ?_)
      (h.within a ha hpos)
    · split
      · exact hinv.weight_nonneg ha hpos r hr
      · exact Int.le_refl 0
    · -- a standing refund of the payment is charged to its row
      obtain ⟨hq, hrow⟩ := List.mem_filter.mp hq
      simp only [Bool.and_eq_true, decide_eq_true_eq] at hrow
      obtain ⟨r, hget, hfits, b, hb, hbpay⟩ := h.row q hq
      obtain ⟨hmem, hkey⟩ := Table.get_eq_some.mp hget
      obtain ⟨hbmem, hbid⟩ := Table.get_eq_some.mp hb
      obtain rfl : b = a := Table.eq_of_clash hbmem ha
        (.inl ⟨by rw [hbpay, hpay, hrow.2], by simp [hbpay]⟩)
      have hrid : r.id = q.refundId := hkey
      have hasked : requested w r.id = true := by
        rw [hrid]
        exact requested_iff.mpr (hinv.asked q hq)
      refine ⟨r, hget, ?_⟩
      have hbid : b.id = r.paymentAttemptId := hbid
      simp [hasked, Refund.weight, hbid, hfits.standing hrow.1, hfits.amount]

/-- The condition on runs: Razorpay behaves, and never reports a refund it has accepted as an
error or a failure. -/
def AcceptedReported (ℓ : Commit) (w : World) : Prop := ProviderLaw w ℓ ∧ Reported ℓ

instance (ℓ : Commit) (w : World) : Decidable (AcceptedReported ℓ w) :=
  inferInstanceAs (Decidable (_ ∧ _))

/-- As long as no accepted refund is reported as an error, only refunds that Razorpay does not
owe are failed, and what it owes for a payment stays within the payment. -/
theorem refunds_accounted {c : PaymentConfig}
    (hrun : Reaches gateway AcceptedReported (.initial paymentAccounts stores users) c) :
    RefundsAccounted c.state := by
  have hinv : BooksInv gateway c.state := (holds_of_reaches hrun).inv
  have hidle : (bookkeeping gateway AcceptedReported).Holds (fun _ _ _ _ => True)
      (PaymentConfig.initial paymentAccounts stores users) :=
    Discipline.holds_idle (booksInv_initial paymentAccounts stores users)
  have hprovider : ProviderInv c.state := by
    refine Discipline.Holds.invariant hidle ⟨?_, ?_, ?_⟩ (fun i ℓ w w' hinv hJ _ hg => ?_) hrun
    · exact List.nodup_nil
    · intro q hq
      cases hq
    · exact fun a ha => absurd ha (Table.not_mem_empty a)
    · exact hJ.step hg.refunds (fun _ _ h => h) hg.persist hinv.refunds
  exact hprovider.accounted hinv.refunds

/-- Two refunds, the second of which Razorpay refuses. -/
theorem refunds_accounted_refused :
    ∃ c : PaymentConfig, acceptedTotal c.state "pay_1" = 4000 ∧
      (∃ r ∈ c.state.refunds, r.status = .failed) ∧ RefundsAccounted c.state := by
  have hrun : (follow AcceptedReported (examplePaid ++
      serve 4 (refundFirst 4000 ⟨some "rfnd_1", .ok ⟨"rfnd_1", "pending"⟩⟩) 6 ++
      serve 5 (refundFirst 6000 ⟨none, .error (.provider "timeout")⟩) 6) exampleStart).any
        (fun c => decide (acceptedTotal c.state "pay_1" = 4000 ∧
          ∃ r ∈ c.state.refunds.rows, r.status = .failed)) = true := by
    decide +kernel
  obtain ⟨c, hc, h⟩ := exec_any hrun
  obtain ⟨htotal, hfailed⟩ := of_decide_eq_true h
  exact ⟨c, htotal, hfailed, refunds_accounted hc⟩

/-- Razorpay accepts a full refund but the call times out, and a second full refund goes
through. -/
theorem refunds_unaccounted_after_timeout :
    ¬ ∀ (gateway : Gateway) (paymentAccounts : Table PaymentAccount) (stores : Table Store)
      (users : Table User) (c : PaymentConfig),
        Reaches gateway (fun ℓ w => ProviderLaw w ℓ)
          (.initial paymentAccounts stores users) c → RefundsAccounted c.state := by
  have hrun : (follow (fun ℓ w => ProviderLaw w ℓ) (examplePaid ++
      serve 4 (refundFirst 10000 ⟨some "rfnd_1", .error (.provider "timeout")⟩) 6 ++
      serve 5 (refundFirst 10000 ⟨some "rfnd_2", .ok ⟨"rfnd_2", "processed"⟩⟩) 6)
      exampleStart).any (fun c => c.state.paymentAttempts.rows.any fun a =>
        decide (a.status = .captured ∧ 0 ≤ a.amountPaise ∧ a.razorpayPaymentId = some "pay_1" ∧
          ¬ acceptedTotal c.state "pay_1" ≤ a.amountPaise)) = true := by
    decide +kernel
  obtain ⟨c, hc, h⟩ := exec_any hrun
  obtain ⟨a, ha, h⟩ := List.any_eq_true.mp h
  obtain ⟨hs, hpos, hpay, hexceeds⟩ := of_decide_eq_true h
  exact fun hall => hexceeds ((hall _ _ _ _ c hc).within a ha hs hpos _ hpay)

end PrintForge
