import PrintForge.Payments.Books

/-!
# What commits do to refunds

A refund row keeps its attempt and its amount, and a failed one stays failed. New rows come
from the refund service, which checks the balance of the attempt, and from cancellations,
which write down the whole amount. `RefundStep` lists every way a commit may change the
refunds, here and on Razorpay's own books. A row that a request has reserved is settled by
that request, or by an event that names the identifier Razorpay gave it.
-/

namespace PrintForge

open Relational Concurrent Function

/-- What may happen to a refund row. -/
structure Refund.Le (a b : Refund) : Prop where
  paymentAttemptId : b.paymentAttemptId = a.paymentAttemptId
  amountPaise : b.amountPaise = a.amountPaise
  reserving : b.isReserving = true → a.isReserving = true

instance : Std.Refl Refund.Le := ⟨fun _ => ⟨rfl, rfl, id⟩⟩

instance : IsTrans Refund Refund.Le where
  trans _ _ _ h h' :=
    { paymentAttemptId := h'.paymentAttemptId.trans h.paymentAttemptId
      amountPaise := h'.amountPaise.trans h.amountPaise
      reserving := fun hr => h.reserving (h'.reserving hr) }

/-- A pending row still reserves its amount. -/
theorem Refund.le_of_pending {a b : Refund} (hs : a.status = .pending)
    (hid : b.paymentAttemptId = a.paymentAttemptId) (hamount : b.amountPaise = a.amountPaise) :
    a.Le b :=
  ⟨hid, hamount, fun _ => by simp [isReserving, reservingStatuses, hs]⟩

/-- The row was reserved by the request. -/
def ReservedBy (w : World) (refundId request : Nat) : Prop := (refundId, request) ∈ w.reservedBy

/-- Which runs are under discussion: whether Razorpay's answers and events agree with its
books, and whether an order is only cancelled while nothing of its payment is refunded. -/
structure RefundTerms where
  honest : Prop
  unrefunded : Prop

/-- What a commit of request `i` may do to the refunds. On honest terms a row is failed or
named only in agreement with Razorpay's books. -/
inductive RefundStep (terms : RefundTerms) (i : Nat) (w w' : World) : Prop
  | same (h : RefundsSame w w')
  | settle (p : Refund → Bool) (f : Refund → Refund) (hf) (t : Table Refund)
      (ht : w.refunds.update p f hf = some t) (hw : RefundsSame { w with refunds := t } w')
      (hle : ∀ r ∈ w.refunds, p r → r.Le (f r))
      (howner : ∀ r ∈ w.refunds, p r →
        ((f r).razorpayRefundId = r.razorpayRefundId ∧ (f r).status ≠ .failed) ∨
          ReservedBy w r.id i ∨
          ((f r).razorpayRefundId = r.razorpayRefundId ∧ r.razorpayRefundId ≠ none))
      (hfailed : terms.honest → ∀ r ∈ w.refunds, p r → (f r).status = .failed →
        ∀ q ∈ w.providerRefunds, q.refundId = r.id →
          (∀ x, r.razorpayRefundId = some x → q.razorpayRefundId = x) → q.standing = false)
      (hnamed : terms.honest → ∀ r ∈ w.refunds, p r → ∀ x, (f r).razorpayRefundId = some x →
        r.razorpayRefundId = some x ∨
          ∀ q ∈ w.providerRefunds, q.refundId = r.id → q.razorpayRefundId = x)
  | reserve (row : Nat → Refund) (hk) (t : Table Refund) (a : PaymentAttempt)
      (ht : w.refunds.create row hk = some t)
      (hw : RefundsSame { w with
        refunds := t
        reservedBy := w.reservedBy ++ [(w.refunds.nextKey, i)] } w')
      (ha : a ∈ w.paymentAttempts) (hs : a.status = .captured)
      (hrow : ∀ k, (row k).paymentAttemptId = a.id ∧ (row k).razorpayRefundId = none ∧
        (row k).isReserving = true ∧ 0 < (row k).amountPaise ∧
        (row k).amountPaise ≤ a.amountPaise - alreadyReserved w a.id)
  | owe (row : Nat → Refund) (hk) (t : Table Refund) (a : PaymentAttempt)
      (ht : w.refunds.create row hk = some t) (hw : RefundsSame { w with refunds := t } w')
      (ha : a ∈ w.paymentAttempts) (hs : a.status = .captured)
      (hrow : ∀ k, (row k).paymentAttemptId = a.id ∧ (row k).razorpayRefundId = none ∧
        (row k).isReserving = true ∧ (row k).amountPaise = a.amountPaise)
      (hfree : terms.unrefunded → alreadyReserved w a.id ≤ 0)
  | accept (q : ProviderRefund) (r : Refund) (a : PaymentAttempt)
      (hw : RefundsSame { w with providerRefunds := w.providerRefunds ++ [q] } w')
      (howner : ReservedBy w q.refundId i) (hr : w.refunds.get q.refundId = some r)
      (hnone : r.razorpayRefundId = none) (hs : r.isReserving = true)
      (hamount : q.amountPaise = r.amountPaise)
      (ha : w.paymentAttempts.get r.paymentAttemptId = some a)
      (hpayment : a.razorpayPaymentId = some q.razorpayPaymentId)
      (hnew : ∀ q' ∈ w.providerRefunds, q'.refundId ≠ q.refundId)
  | reject (id : String)
      (hw : RefundsSame { w with
        providerRefunds := w.providerRefunds.map fun q =>
          if q.razorpayRefundId = id then { q with standing := false } else q } w')

/-- Razorpay reports a refund as failed only when it has failed on its own books. -/
def RefundEventGenuine (w : World) (payload : RazorpayWebhookPayload) : Prop :=
  payload.event = refundFailedEvent → ∀ refundEntity ∈ payload.refund,
    ∀ q ∈ w.providerRefunds, q.razorpayRefundId = refundEntity.id → q.standing = false

instance (w : World) (payload : RazorpayWebhookPayload) :
    Decidable (RefundEventGenuine w payload) :=
  inferInstanceAs (Decidable (_ → ∀ refundEntity ∈ payload.refund, _))

/-- What a request may rely on for the rows it has reserved: others neither name nor fail
them, and ask nothing of Razorpay for them. -/
structure OwnRefunds (i : Nat) (w w' : World) : Prop where
  reservedBy : ∀ k, ReservedBy w k i → ReservedBy w' k i
  row : ∀ k r, ReservedBy w k i → w.refunds.get k = some r →
    ∃ r', w'.refunds.get k = some r' ∧ r.Le r' ∧
      (r.razorpayRefundId = none → r'.razorpayRefundId = none ∧
        (r.isReserving = true → r'.isReserving = true))
  provider : ∀ k, ReservedBy w k i → ∀ q' ∈ w'.providerRefunds, q'.refundId = k →
    ∃ q ∈ w.providerRefunds, q.refundId = k ∧ q.razorpayRefundId = q'.razorpayRefundId

theorem ownRefunds_refl (i : Nat) (w : World) : OwnRefunds i w w where
  reservedBy _ h := h
  row _ r _ h := ⟨r, h, Std.Refl.refl r, fun hn => ⟨hn, id⟩⟩
  provider _ _ q hq hk := ⟨q, hq, hk, rfl⟩

theorem OwnRefunds.trans {i : Nat} {w w' w'' : World} (h : OwnRefunds i w w')
    (h' : OwnRefunds i w' w'') : OwnRefunds i w w'' where
  reservedBy k hk := h'.reservedBy k (h.reservedBy k hk)
  row := by
    intro k r hk hr
    obtain ⟨r₁, hr₁, hle₁, hn₁⟩ := h.row k r hk hr
    obtain ⟨r₂, hr₂, hle₂, hn₂⟩ := h'.row k r₁ (h.reservedBy k hk) hr₁
    refine ⟨r₂, hr₂, IsTrans.trans _ _ _ hle₁ hle₂, fun hn => ?_⟩
    exact ⟨(hn₂ (hn₁ hn).1).1, fun hs => (hn₂ (hn₁ hn).1).2 ((hn₁ hn).2 hs)⟩
  provider := by
    intro k hk q'' hq'' hid
    obtain ⟨q', hq', hk', he⟩ := h'.provider k (h.reservedBy k hk) q'' hq'' hid
    obtain ⟨q, hq, hk'', he'⟩ := h.provider k hk q' hq' hk'
    exact ⟨q, hq, hk'', he'.trans he⟩

/-- The invariant of the refund rows: every row was reserved by at most one request and is
about a captured attempt, and Razorpay was only ever asked for reserved ones. -/
structure RefundInv (w : World) : Prop where
  reserved_lt : ∀ k i, ReservedBy w k i → k < w.refunds.nextKey
  reserved_unique : ∀ k i j, ReservedBy w k i → ReservedBy w k j → i = j
  captured : ∀ r ∈ w.refunds, ∃ a, w.paymentAttempts.get r.paymentAttemptId = some a ∧
    a.status = .captured ∧ (0 < r.amountPaise ∨ r.amountPaise = a.amountPaise)
  asked : ∀ q ∈ w.providerRefunds, ∃ i, ReservedBy w q.refundId i

section Steps

variable {terms : RefundTerms} {i j : Nat} {w w' : World}

/-- Only the refunds matter. -/
theorem RefundStep.congr_right {w'' : World} (h : RefundStep terms i w w')
    (hw : RefundsSame w' w'') : RefundStep terms i w w'' := by
  have trans : ∀ {v}, RefundsSame v w' → RefundsSame v w'' := fun hv =>
    IsTrans.trans _ _ _ hv hw
  cases h with
  | same h => exact .same (trans h)
  | settle p f hf t ht hw hle howner hfailed hnamed =>
      exact .settle p f hf t ht (trans hw) hle howner hfailed hnamed
  | reserve row hk t a ht hw ha hs hrow => exact .reserve row hk t a ht (trans hw) ha hs hrow
  | owe row hk t a ht hw ha hs hrow hfree =>
      exact .owe row hk t a ht (trans hw) ha hs hrow hfree
  | accept q r a hw howner hr hnone hs hamount ha hpayment hnew =>
      exact .accept q r a (trans hw) howner hr hnone hs hamount ha hpayment hnew
  | reject id hw => exact .reject id (trans hw)

/-- Refund rows stay, with their attempt and their amount. -/
theorem RefundStep.evolves (h : RefundStep terms i w w') :
    w.refunds.Evolves Refund.Le w'.refunds := by
  cases h with
  | same h =>
      rw [(refundsSame_iff.mp h).1]
      exact Table.evolves_refl _
  | settle p f hf t ht hw hle _ _ _ =>
      rw [(refundsSame_iff.mp hw).1]
      exact Table.evolves_update ht hle
  | reserve row hk t a ht hw _ _ _ =>
      rw [(refundsSame_iff.mp hw).1]
      exact Table.evolves_create ht
  | owe row hk t a ht hw _ _ _ _ =>
      rw [(refundsSame_iff.mp hw).1]
      exact Table.evolves_create ht
  | accept q r a hw _ _ _ _ _ _ _ _ =>
      rw [(refundsSame_iff.mp hw).1]
      exact Table.evolves_refl _
  | reject id hw =>
      rw [(refundsSame_iff.mp hw).1]
      exact Table.evolves_refl _

/-- A new row belongs to a captured attempt; every other row was there before. -/
theorem RefundStep.mem (h : RefundStep terms i w w') {r : Refund} (hr : r ∈ w'.refunds) :
    (∃ r₀ ∈ w.refunds, r₀.id = r.id ∧ r₀.Le r) ∨
      ∃ a ∈ w.paymentAttempts, a.status = .captured ∧ r.paymentAttemptId = a.id ∧
        (0 < r.amountPaise ∨ r.amountPaise = a.amountPaise) := by
  cases h with
  | same h =>
      rw [(refundsSame_iff.mp h).1] at hr
      exact .inl ⟨r, hr, rfl, Std.Refl.refl r⟩
  | settle p f hf t ht hw hle _ _ _ =>
      rw [(refundsSame_iff.mp hw).1] at hr
      obtain ⟨r₀, hr₀, rfl⟩ := (Table.mem_update ht).mp hr
      refine .inl ⟨r₀, hr₀, ?_⟩
      split
      · next hp => exact ⟨(hf r₀).symm, hle r₀ hr₀ hp⟩
      · exact ⟨rfl, Std.Refl.refl r₀⟩
  | reserve row hk t a ht hw ha hs hrow =>
      rw [(refundsSame_iff.mp hw).1] at hr
      obtain hr | rfl := (Table.mem_create ht).mp hr
      · exact .inl ⟨r, hr, rfl, Std.Refl.refl r⟩
      · obtain ⟨hid, -, -, hpos, -⟩ := hrow w.refunds.nextKey
        exact .inr ⟨a, ha, hs, hid, .inl hpos⟩
  | owe row hk t a ht hw ha hs hrow _ =>
      rw [(refundsSame_iff.mp hw).1] at hr
      obtain hr | rfl := (Table.mem_create ht).mp hr
      · exact .inl ⟨r, hr, rfl, Std.Refl.refl r⟩
      · obtain ⟨hid, -, -, hamount⟩ := hrow w.refunds.nextKey
        exact .inr ⟨a, ha, hs, hid, .inr hamount⟩
  | accept q r' a hw _ _ _ _ _ _ _ _ =>
      rw [(refundsSame_iff.mp hw).1] at hr
      exact .inl ⟨r, hr, rfl, Std.Refl.refl r⟩
  | reject id hw =>
      rw [(refundsSame_iff.mp hw).1] at hr
      exact .inl ⟨r, hr, rfl, Std.Refl.refl r⟩

/-- Only a reservation adds an owner, and it adds one to a new row. -/
theorem RefundStep.reserved (h : RefundStep terms i w w') :
    w.refunds.nextKey ≤ w'.refunds.nextKey ∧ ∀ k j, ReservedBy w' k j ↔ ReservedBy w k j ∨
      (k = w.refunds.nextKey ∧ j = i ∧ w'.refunds.nextKey = w.refunds.nextKey + 1 ∧
        ReservedBy w' k j) := by
  unfold ReservedBy
  cases h with
  | same h =>
      obtain ⟨h₁, -, h₃⟩ := refundsSame_iff.mp h
      simp [h₁, h₃]
  | settle p f hf t ht hw _ _ _ _ =>
      obtain ⟨h₁, -, h₃⟩ := refundsSame_iff.mp hw
      have := Table.nextKey_update ht
      simp [h₁, h₃, this]
  | reserve row hk t a ht hw _ _ _ =>
      obtain ⟨h₁, -, h₃⟩ := refundsSame_iff.mp hw
      have := Table.nextKey_create ht
      simp only [h₁, h₃, this, List.mem_append, List.mem_singleton, Prod.mk.injEq]
      exact ⟨Nat.le_succ _, by tauto⟩
  | owe row hk t a ht hw _ _ _ _ =>
      obtain ⟨h₁, -, h₃⟩ := refundsSame_iff.mp hw
      have := Table.nextKey_create ht
      simp only [h₁, h₃, this]
      exact ⟨Nat.le_succ _, by tauto⟩
  | accept q r a hw _ _ _ _ _ _ _ _ =>
      obtain ⟨h₁, -, h₃⟩ := refundsSame_iff.mp hw
      simp [h₁, h₃]
  | reject id hw =>
      obtain ⟨h₁, -, h₃⟩ := refundsSame_iff.mp hw
      simp [h₁, h₃]

theorem RefundStep.reservedBy_mono {k : Nat} (h : RefundStep terms i w w')
    (hk : ReservedBy w k j) : ReservedBy w' k j :=
  (h.reserved.2 k j).mpr (.inl hk)

/-- Razorpay is asked for a refund by the request that reserved it. -/
theorem RefundStep.asked (h : RefundStep terms i w w') {q : ProviderRefund}
    (hq : q ∈ w'.providerRefunds) :
    (∃ q₀ ∈ w.providerRefunds, q₀.refundId = q.refundId) ∨ ReservedBy w q.refundId i := by
  have same : w'.providerRefunds = w.providerRefunds →
      ∃ q₀ ∈ w.providerRefunds, q₀.refundId = q.refundId := fun he => ⟨q, he ▸ hq, rfl⟩
  cases h with
  | same h => exact .inl (same (refundsSame_iff.mp h).2.1)
  | settle p f hf t ht hw _ _ _ _ => exact .inl (same (refundsSame_iff.mp hw).2.1)
  | reserve row hk t a ht hw _ _ _ => exact .inl (same (refundsSame_iff.mp hw).2.1)
  | owe row hk t a ht hw _ _ _ _ => exact .inl (same (refundsSame_iff.mp hw).2.1)
  | accept q' r a hw howner _ _ _ _ _ _ _ =>
      rw [(refundsSame_iff.mp hw).2.1] at hq
      obtain hq | hq := List.mem_append.mp hq
      · exact .inl ⟨q, hq, rfl⟩
      · rw [List.mem_singleton.mp hq]
        exact .inr howner
  | reject id hw =>
      rw [(refundsSame_iff.mp hw).2.1] at hq
      obtain ⟨q₀, hq₀, rfl⟩ := List.mem_map.mp hq
      refine .inl ⟨q₀, hq₀, ?_⟩
      split <;> rfl

theorem RefundStep.inv (h : RefundStep terms i w w') (hp : Persist w w') (hi : RefundInv w) :
    RefundInv w' := by
  obtain ⟨hkey, hres⟩ := h.reserved
  refine ⟨fun k j hj => ?_, fun k j j' hj hj' => ?_, fun r hr => ?_, fun q hq => ?_⟩
  · obtain hj | ⟨rfl, -, hnext, -⟩ := (hres k j).mp hj
    · exact Nat.lt_of_lt_of_le (hi.reserved_lt k j hj) hkey
    · omega
  · have fresh : ∀ {j}, ¬ ReservedBy w w.refunds.nextKey j := fun hj =>
      absurd (hi.reserved_lt _ _ hj) (Nat.lt_irrefl _)
    obtain hj | ⟨rfl, rfl, -, -⟩ := (hres k j).mp hj
    · obtain hj' | ⟨rfl, -, -, -⟩ := (hres k j').mp hj'
      · exact hi.reserved_unique k j j' hj hj'
      · exact absurd hj fresh
    · obtain hj' | ⟨-, rfl, -, -⟩ := (hres _ j').mp hj'
      · exact absurd hj' fresh
      · rfl
  · have later : ∀ a ∈ w.paymentAttempts, a.status = .captured →
        ∃ a', w'.paymentAttempts.get a.id = some a' ∧ a'.status = .captured ∧
          a'.amountPaise = a.amountPaise := by
      intro a ha hs
      obtain ⟨a', ha', hle⟩ := hp.attempts.get (Table.get_key ha)
      exact ⟨a', ha', (hle.captured hs).1, hle.amountPaise⟩
    obtain ⟨r₀, hr₀, -, hle⟩ | ⟨a, ha, hs, hid, hamount⟩ := h.mem hr
    · obtain ⟨a, hget, hs, hamount⟩ := hi.captured r₀ hr₀
      obtain ⟨hmem, hkey⟩ := Table.get_eq_some.mp hget
      obtain ⟨a', ha', hs', he⟩ := later a hmem hs
      refine ⟨a', ?_, hs', ?_⟩
      · rw [hle.paymentAttemptId, ← hkey]
        exact ha'
      · rw [hle.amountPaise, he]
        exact hamount
    · obtain ⟨a', ha', hs', he⟩ := later a ha hs
      exact ⟨a', by rw [hid]; exact ha', hs', by rw [he]; exact hamount⟩
  · obtain ⟨q₀, hq₀, he⟩ | howner := h.asked hq
    · obtain ⟨j, hj⟩ := hi.asked q₀ hq₀
      exact ⟨j, h.reservedBy_mono (he ▸ hj)⟩
    · exact ⟨i, h.reservedBy_mono howner⟩

/-- What one request does is what every other may rely on. -/
theorem RefundStep.ownRefunds (h : RefundStep terms i w w') (hij : i ≠ j)
    (hi : RefundInv w) : OwnRefunds j w w' := by
  have other : ∀ {k}, ReservedBy w k j → ¬ ReservedBy w k i := fun hj hk =>
    hij (hi.reserved_unique _ _ _ hk hj)
  refine ⟨fun k hk => h.reservedBy_mono hk, fun k r hk hr => ?_,
    fun k hk q' hq' hid => ?_⟩
  · obtain ⟨r', hr', hle⟩ := h.evolves.get hr
    refine ⟨r', hr', hle, fun hn => ?_⟩
    have unchanged : ∀ {t : Table Refund}, w'.refunds = t → t.get k = some r →
        r'.razorpayRefundId = none ∧ (r.isReserving = true → r'.isReserving = true) := by
      intro t ht hget
      rw [ht] at hr'
      obtain rfl : r = r' := Option.some.inj (hget.symm.trans hr')
      exact ⟨hn, id⟩
    have hlt : ∀ {t : Table Refund} {row hk'}, w.refunds.create row hk' = some t →
        t.get k = some r := by
      intro t row hk' ht
      rw [Table.get_create ht, if_neg (Nat.ne_of_lt (hi.reserved_lt k j hk))]
      exact hr
    cases h with
    | same h => exact unchanged (refundsSame_iff.mp h).1 hr
    | settle p f hf t ht hw _ howner _ _ =>
        have hrow := Table.get_update ht k
        rw [(refundsSame_iff.mp hw).1] at hr'
        obtain ⟨hmem, hkey⟩ := Table.get_eq_some.mp hr
        by_cases hp : p r
        · have hr'' : r' = f r := by
            have heq : t.get k = some (f r) := by simp [hrow, hr, hp]
            exact Option.some.inj (hr'.symm.trans heq)
          obtain ⟨hid, hs⟩ | howned | ⟨-, hne⟩ := howner r hmem hp
          · refine ⟨by rw [hr'', hid, hn], fun _ => ?_⟩
            rw [hr'']
            cases hstatus : (f r).status with
            | failed => exact absurd hstatus hs
            | _ => simp [Refund.isReserving, reservingStatuses, hstatus]
          · have hkey : r.id = k := hkey
            exact absurd (hkey ▸ howned) (other hk)
          · exact absurd hn hne
        · exact unchanged rfl (by
            rw [(refundsSame_iff.mp hw).1]
            simp [hrow, hr, hp])
    | reserve row hk' t a ht hw _ _ _ =>
        exact unchanged (refundsSame_iff.mp hw).1 (hlt ht)
    | owe row hk' t a ht hw _ _ _ _ => exact unchanged (refundsSame_iff.mp hw).1 (hlt ht)
    | accept q r₁ a hw _ _ _ _ _ _ _ _ => exact unchanged (refundsSame_iff.mp hw).1 hr
    | reject id hw => exact unchanged (refundsSame_iff.mp hw).1 hr
  · have same : w'.providerRefunds = w.providerRefunds →
        ∃ q ∈ w.providerRefunds, q.refundId = k ∧ q.razorpayRefundId = q'.razorpayRefundId :=
      fun he => ⟨q', he ▸ hq', hid, rfl⟩
    cases h with
    | same h => exact same (refundsSame_iff.mp h).2.1
    | settle p f hf t ht hw _ _ _ _ => exact same (refundsSame_iff.mp hw).2.1
    | reserve row hk' t a ht hw _ _ _ => exact same (refundsSame_iff.mp hw).2.1
    | owe row hk' t a ht hw _ _ _ _ => exact same (refundsSame_iff.mp hw).2.1
    | accept q r a hw howner _ _ _ _ _ _ _ =>
        rw [(refundsSame_iff.mp hw).2.1] at hq'
        obtain hq' | hq' := List.mem_append.mp hq'
        · exact ⟨q', hq', hid, rfl⟩
        · rw [List.mem_singleton.mp hq'] at hid
          exact absurd (hid ▸ howner) (other hk)
    | reject id hw =>
        rw [(refundsSame_iff.mp hw).2.1] at hq'
        obtain ⟨q, hq, rfl⟩ := List.mem_map.mp hq'
        refine ⟨q, hq, ?_⟩
        split at hid <;> split <;> exact ⟨hid, rfl⟩

end Steps

end PrintForge
