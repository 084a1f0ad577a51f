import PrintForge.Concurrent.Aftermath
import PrintForge.Payments.RefundTurns
import PrintForge.Payments.RefundsServed

/-!
# A refund ends with the provider's verdict

The answer to a refund call and the events about the refund race to the same row. The call writes
the identifier and whatever verdict its answer has; an event finds the row only once the identifier
is there, and is retried until then. Each write is conditional on the row being pending, so the
first verdict is the one that stays, and as long as the provider has one verdict it does not matter
which write came first.
-/

namespace PrintForge

open Relational Concurrent Proc JavaScript

variable {provider : Option RefundProvider} {gateway : Gateway} {i : Nat} {w w' : World}

/-! ## What others do to a refund -/

theorem othersTurn_refundEvent {id : Nat} {payload : RazorpayWebhookPayload}
    (hsends : ∀ p ∈ provider, p.Sends payload)
    (he : payload.event = refundProcessedEvent ∨ payload.event = refundFailedEvent) :
    Tx.Within (OthersTurn provider) (applyRefundWebhookEvent id payload) := by
  intro w outcome w' h
  obtain ⟨-, rfl⟩ | ⟨refundEntity, refund, f, hf, t, -, hentity, hmem, hid, ht, rfl, hrow⟩ :=
    applyRefundWebhookEvent_cases h
  · exact Std.Refl.refl _
  · refine ⟨rowsTurn_update ht rfl fun r hr hp => .inr ?_, rfl⟩
    simp only [Bool.and_eq_true, decide_eq_true_eq] at hp
    obtain rfl : r = refund := Table.eq_of_key hr hmem hp.1
    obtain ⟨-, -, hname, hstatus⟩ := hrow r
    refine ⟨hp.2, fun hn => ?_, fun x hx => hname.trans hx, fun hbacked p hprovider x hx => ?_⟩
    · rw [hid] at hn
      cases hn
    · obtain rfl : refundEntity.id = x := Option.some.inj (hid.symm.trans (hname.symm.trans hx))
      refine ⟨(hbacked p hprovider _ hid).1.trans (hf r).symm, fun _ => ?_⟩
      obtain ⟨hprocessed, hfailed⟩ := hsends p hprovider refundEntity hentity
      rw [hstatus]
      split
      · next hevent => rw [hfailed hevent, RefundVerdict.status]
      · next hevent => rw [hprocessed (he.resolve_right hevent), RefundVerdict.status]

theorem othersTurn_processEvent {id : Nat}
    (hagrees : ∀ p ∈ provider, p.Agrees (.processWebhook id) w) :
    OthersTurn provider w (applied (processEvent id) w) := by
  cases h : processEvent id w with
  | error e =>
      rw [applied_error h]
      exact Std.Refl.refl w
  | ok r =>
      obtain ⟨⟨⟩, w'⟩ := r
      rw [applied_ok h]
      unfold processEvent at h
      simp only [query_transaction, Tx.bind_read] at h
      cases hlock : lockedEvent id w with
      | none =>
          rw [hlock] at h
          cases h
          exact Std.Refl.refl w
      | some e =>
          rw [hlock] at h
          obtain ⟨outcome, w₁, happly, hmark⟩ := Tx.bind_ok.mp h
          obtain ⟨row, w₂, hupd, hret⟩ := Tx.bind_ok.mp hmark
          cases hret
          obtain ⟨e₀, t, -, -, -, rfl⟩ := Slot.update_ok hupd
          have hevent : OthersTurn provider w w₁ :=
            within_storedEvent othersTurn_frame.whole
              (within_findOrCreateAttemptFor othersTurn_frame.attempts) e
              (fun id he => othersTurn_refundEvent (fun p hp => hagrees p hp e hlock) he) happly
          exact IsTrans.trans _ _ _ hevent (othersTurn_of_eq rfl rfl)

/-- A refund that is only written down has no identifier yet. -/
theorem othersTurn_recordCancellation (order : Order) (capturedAttempt : Option PaymentAttempt)
    (actor : Actor) (reason : Option String) :
    Tx.Within (OthersTurn provider) (recordCancellation order capturedAttempt actor reason) := by
  refine Tx.within_bind ?_ fun _ =>
    within_transitionOrderWithHistory othersTurn_frame.frame.toTransitionFrame _ _ _ _ _
  unfold recordOwedRefund
  split
  · exact Tx.within_pure _
  · refine Tx.within_bind (Slot.within_create fun w t ht => ?_) fun _ => Tx.within_pure _
    exact ⟨rowsTurn_create ht rfl fun _ => rfl, rfl⟩

theorem othersTurn_createOrder (data : CheckoutOrder) :
    Tx.Within (OthersTurn provider) (createOrder data) := by
  refine Tx.within_bind (Slot.within_create fun w t _ => othersTurn_of_eq rfl rfl) fun order => ?_
  exact Tx.within_bind (Slot.within_create fun w t _ => othersTurn_of_eq rfl rfl)
    fun _ => Tx.within_pure _

/-- An ordinary write turns the refunds of others only, as long as nobody records refunds by
hand. -/
theorem Ordinary.othersTurn {own : Option Nat} {ℓ : Commit} {upd : World → World}
    (h : Ordinary own ℓ upd) (hrecord : Unrecorded ℓ w) (hagrees : ∀ p ∈ provider, p.Agrees ℓ w) :
    OthersTurn provider w (upd w) := by
  cases h with
  | transaction h hℓ hrefund hown =>
      cases h with
      | checkout data => exact applied_within (othersTurn_createOrder data) w
      | verifyPayment userId order existing dto hrzp =>
          exact applied_within (within_capturePayment othersTurn_frame.whole _ _ _ _) w
      | processWebhook id => exact othersTurn_processEvent hagrees
      | reconcileCapturedPayment order captured =>
          exact applied_within (within_recordReconciled othersTurn_frame.whole _ _) w
      | failStalePendingOrder order =>
          exact applied_within (within_expirePendingOrder othersTurn_frame.whole _) w
      | performCancellation order capturedAttempt actor reason =>
          exact applied_within (othersTurn_recordCancellation _ _ _ _) w
      | performRefundRecording order actor reason => exact hrecord.elim
      | adminTransitionStatus order status actor reason =>
          exact applied_within (within_transitionOrderWithHistory
            othersTurn_frame.frame.toTransitionFrame _ _ _ _ _) w
      | createRefund request tenantId paymentAttemptId dto => exact absurd rfl (hrefund _)
      | callProvider refund providerPaymentId answer =>
          unfold applied
          rw [bookProviderRefund_apply]
          cases answer.accepted <;> exact othersTurn_of_eq rfl rfl
      | _ => exact absurd rfl hℓ
  | bindPaymentAccount orderId paymentAccountId =>
      exact applied_within (R := OthersTurn provider)
        (Slot.within_updateMany fun _ _ _ => othersTurn_of_eq rfl rfl) w
  | associateRazorpayOrder orderId razorpayOrderId =>
      exact applied_within (R := OthersTurn provider)
        (Slot.within_updateMany fun _ _ _ => othersTurn_of_eq rfl rfl) w
  | openAttempt row hk hrow =>
      exact applied_within (R := OthersTurn provider)
        (Slot.within_create fun _ _ _ => othersTurn_of_eq rfl rfl) w
  | insertWebhookEvent razorpayEventId payload paymentAccountId now =>
      exact applied_within (R := OthersTurn provider)
        (insertWebhookEvent_within fun _ => othersTurn_of_eq rfl rfl) w
  | safeUpdate id data hk hid hown =>
      exact applied_within (R := OthersTurn provider)
        (Slot.within_update fun _ _ _ => othersTurn_of_eq rfl rfl) w
  | administer paymentAccounts stores users => exact othersTurn_of_eq rfl rfl
  | failProviderRefund razorpayRefundId => exact othersTurn_of_eq rfl rfl

/-! ## What the refund service does to its own rows -/

/-- The row a request has reserved, as it was reserved. -/
structure Untouched (i k : Nat) (w : World) : Prop where
  reserved : ReservedBy w k i
  row : ∃ r, w.refunds.get k = some r ∧ r.status = .pending ∧ r.razorpayRefundId = none

theorem Untouched.later {k : Nat} (h : Untouched i k w) (hkept : OwnRowsKept i w w') :
    Untouched i k w' := by
  obtain ⟨r, hget, hpending, hnone⟩ := h.row
  exact ⟨hkept.reserved k h.reserved, r, hkept.own k r h.reserved hget hnone, hpending, hnone⟩

theorem refundsMove_refl : RefundsMove provider i w w := OthersTurn.moves (Std.Refl.refl w)

theorem reserveRefund_moves {tenantId paymentAttemptId : Nat} {dto : CreateRefundDto}
    {refund : Refund} {razorpayPaymentId : String} {paymentAccountId : Nat}
    (h : reserveRefund i tenantId paymentAttemptId dto w =
      .ok ((refund, razorpayPaymentId, paymentAccountId), w')) :
    RefundsMove provider i w w' ∧ Untouched i refund.id w' := by
  obtain ⟨attempt, amount, t, -, -, -, -, -, ht, hrow, hkey, hnone, hpending, rfl⟩ :=
    reserveRefund_reserves h
  have hmine : (refund.id, i) ∈ w.reservedBy ++ [(refund.id, i)] :=
    List.mem_append.mpr (.inr (List.mem_singleton.mpr rfl))
  refine ⟨⟨rowsTurn_create ht rfl fun _ => rfl, fun k j hk => List.mem_append_left _ hk,
    fun k j hk => ?_⟩, hmine, refund, hrow, hpending, hnone⟩
  obtain hold | hnew := List.mem_append.mp hk
  · exact .inl hold
  · obtain ⟨rfl, rfl⟩ := Prod.mk.inj (List.mem_singleton.mp hnew)
    refine .inr ⟨rfl, hkey, ?_⟩
    change refund.id < t.nextKey
    rw [Table.nextKey_create ht, hkey]
    exact Nat.lt_succ_self _

section Settling

variable {ok : Commit → World → Prop} {k : Nat} {f : Refund → Refund}
variable {hf : ∀ r, Schema.key (f r) = Schema.key r}

/-- The row has been turned by `f` from what it was reserved as, and only moved on since. -/
def TurnedBy (k : Nat) (f : Refund → Refund) (w : World) : Prop :=
  ∃ r r', r.status = .pending ∧ r.razorpayRefundId = none ∧ w.refunds.get k = some r' ∧
    (f r).Stays r'

theorem TurnedBy.later (h : TurnedBy k f w) (hkept : OwnRowsKept i w w') : TurnedBy k f w' := by
  obtain ⟨r, r', hpending, hnone, hget, hstays⟩ := h
  obtain ⟨r'', hget', hstays'⟩ := hkept.stays.get hget
  exact ⟨r, r'', hpending, hnone, hget', IsTrans.trans _ _ _ hstays hstays'⟩

theorem settle_moves {t : Table Refund} (hown : Untouched i k w)
    (ht : w.refunds.update (fun r => r.id = k && r.status = .pending) f hf = some t)
    (hbacked : ∀ r : Refund, r.id = k → r.status = .pending → r.razorpayRefundId = none →
      (f r).Backed provider) :
    RefundsMove provider i w (Db.refunds.set t w) ∧ TurnedBy k f (Db.refunds.set t w) := by
  obtain ⟨r₀, hget, hpending, hnone⟩ := hown.row
  obtain ⟨hmem, hkey⟩ := Table.get_eq_some.mp hget
  refine ⟨⟨rowsTurn_update ht rfl fun r hr hp => .inr ?_, fun k j hk => hk,
    fun k j hk => .inl hk⟩, r₀, f r₀, hpending, hnone, ?_, Std.Refl.refl _⟩
  · simp only [Bool.and_eq_true, decide_eq_true_eq] at hp
    obtain rfl : r = r₀ := Table.eq_of_key hr hmem (hp.1.trans hkey.symm)
    refine ⟨hp.2, fun _ => hp.1 ▸ hown.reserved, fun x hx => ?_, fun _ => hbacked r hp.1 hp.2 hnone⟩
    rw [hnone] at hx
    cases hx
  · have hrow := Table.get_update ht k
    have hid : r₀.id = k := hkey
    change t.get k = _
    rw [hrow, hget]
    simp [hid, hpending]

/-- With a provider that tells refunds apart, no identifier is taken twice. -/
theorem settle_ne_error {p : RefundProvider} {e : ServiceError} (hw : RefundRows (some p) w)
    (hown : Untouched i k w)
    (hbacked : ∀ r : Refund, r.id = k → r.status = .pending → r.razorpayRefundId = none →
      (f r).Backed (some p)) :
    (Db.refunds.updateMany (fun r => r.id = k && r.status = .pending) f hf :
      Transaction Nat) w ≠ .error e := by
  intro h
  obtain ⟨-, a, ha, b, hb, hne, hclash, hnamed⟩ := Slot.updateMany_error h
  obtain ⟨r₀, hget, -, hnone⟩ := hown.row
  obtain ⟨hmem, hkey⟩ := Table.get_eq_some.mp hget
  have known : ∀ r ∈ w.refunds, ∀ x, (if (decide (r.id = k) && decide (r.status = .pending)) = true
      then f r else r).razorpayRefundId = some x → p.refundId x = r.id := by
    intro r hr x hx
    split at hx
    · next hp =>
      simp only [Bool.and_eq_true, decide_eq_true_eq] at hp
      obtain rfl : r = r₀ := Table.eq_of_key hr hmem (hp.1.trans hkey.symm)
      exact (hbacked r hp.1 hp.2 hnone p rfl x hx).1.trans (hf r)
    · exact (hw.backed r hr p rfl x hx).1
  obtain ⟨x, hx⟩ := Option.ne_none_iff_exists'.mp hnamed
  exact hne (Table.eq_of_key ha hb ((known a ha x hx).symm.trans (known b hb x (hclash ▸ hx))))

/-- The write that settles an own row, with the read after it. -/
theorem safe_settle (hown : Untouched i k w)
    (hbacked : ∀ r : Refund, r.id = k → r.status = .pending → r.razorpayRefundId = none →
      (f r).Backed provider) :
    (turning provider ok).Safe i (fun w _ => provider.isSome → TurnedBy k f w)
      (do
        let _ ← execute (Db.refunds.updateMany (fun r => r.id = k && r.status = .pending) f hf)
        let found ← query (·.refunds.get k)
        match found with
        | some refund => return refund
        | none => throw .recordNotFound : Service Refund) w := by
  refine Discipline.safe_transact (fun w₁ n w₂ hl hinv _ hupd => ?_)
    (fun w₁ e hl hinv _ hupd => ⟨refundsMove_refl, ?_⟩)
  · obtain ⟨t, ht, -, rfl⟩ := Slot.updateMany_ok hupd
    obtain ⟨hmoves, hturned⟩ := settle_moves (hown.later hl) ht hbacked
    refine ⟨hmoves, fun _ => ?_⟩
    have hread : (turning provider ok).Safe i (fun w _ => TurnedBy k f w) _ (Db.refunds.set t w₁) :=
      Discipline.safe_of_readOnly (within_readRefund k) (fun _ _ hl h => TurnedBy.later h hl)
        hturned
    exact hread.mono_post fun _ _ h _ => h
  · refine Discipline.safe_done fun _ _ _ hsome => ?_
    obtain ⟨p, rfl⟩ := Option.isSome_iff_exists.mp hsome
    exact absurd hupd (settle_ne_error hinv (hown.later hl) hbacked)

/-- What becomes of the row after an answer that has reached the caller. -/
def Concluded (k : Nat) (result : MerchantRefundResult) (w : World) : Prop :=
  ∃ r, w.refunds.get k = some r ∧ (result.status = "failed" → r.status = .failed) ∧
    (result.status = "processed" → r.status = .processed) ∧
    (result.status ≠ "failed" → r.razorpayRefundId = some result.providerRefundId)

theorem Concluded.later {result : MerchantRefundResult} (h : Concluded k result w)
    (hkept : OwnRowsKept i w w') : Concluded k result w' := by
  obtain ⟨r, hget, hfailed, hprocessed, hname⟩ := h
  obtain ⟨r', hget', hstays⟩ := hkept.stays.get hget
  refine ⟨r', hget', fun hf => ?_, fun hp => ?_, fun hn => hstays.named _ (hname hn)⟩
  · rw [hstays.settled (fun h => by cases h.symm.trans (hfailed hf))]
    exact hfailed hf
  · rw [hstays.settled (fun h => by cases h.symm.trans (hprocessed hp))]
    exact hprocessed hp

/-- What becomes of the row once the answer has been dealt with. -/
def Heard (k : Nat) (answer : ProviderRefundAnswer) (w : World) : Prop :=
  ∀ result, answer.reply = .ok result → Concluded k result w

theorem Heard.later {answer : ProviderRefundAnswer} (h : Heard k answer w)
    (hkept : OwnRowsKept i w w') : Heard k answer w' :=
  fun result hr => (h result hr).later hkept

theorem safe_markFailed {failureReason : String} {name : Option String} (hown : Untouched i k w)
    (hname : ∀ p ∈ provider, ∀ x, truthy name = some x →
      p.refundId x = k ∧ p.verdict x = .failed) :
    (turning provider ok).Safe i (fun w _ => provider.isSome → ∃ r, w.refunds.get k = some r ∧
      r.status = .failed) (markFailed k failureReason name) w := by
  refine (safe_settle hown fun r hid hpending hnone p hp x hx => ?_).mono_post fun w _ h hsome => ?_
  · rw [hnone, Option.or_none] at hx
    obtain ⟨hrefund, hverdict⟩ := hname p hp x hx
    refine ⟨hrefund.trans hid.symm, fun _ => ?_⟩
    rw [hverdict]
    rfl
  · obtain ⟨r, r', -, -, hget, hstays⟩ := h hsome
    exact ⟨r', hget, congrArg Refund.status (hstays.settled (by simp))⟩

theorem safe_settleRefund {result : MerchantRefundResult} (hown : Untouched i k w)
    (hnot : result.status ≠ "failed")
    (hname : ∀ p ∈ provider, p.refundId result.providerRefundId = k ∧
      (result.status = "processed" → p.verdict result.providerRefundId = .processed)) :
    (turning provider ok).Safe i (fun w _ => provider.isSome → Concluded k result w)
      (settleRefund k result) w := by
  refine (safe_settle hown fun r hid hpending hnone p hp x hx => ?_).mono_post fun w _ h hsome => ?_
  · obtain rfl : result.providerRefundId = x := by simpa using hx
    obtain ⟨hrefund, hverdict⟩ := hname p hp
    refine ⟨hrefund.trans hid.symm, fun hs => ?_⟩
    by_cases hprocessed : result.status = "processed"
    · rw [hverdict hprocessed]
      exact if_pos hprocessed
    · exact absurd ((if_neg hprocessed).trans hpending) hs
  · obtain ⟨r, r', hpending, -, hget, hstays⟩ := h hsome
    refine ⟨r', hget, fun hf => absurd hf hnot, fun hp => ?_, fun _ => hstays.named _ rfl⟩
    have hprocessed : (if result.status = "processed" then RefundStatus.processed else r.status) =
        .processed := if_pos hp
    rw [hstays.settled (fun h => by cases hprocessed.symm.trans h)]
    exact hprocessed

/-- Everything after the reply, for whichever reply it is. -/
theorem safe_settleReply {refund : Refund} {answer : ProviderRefundAnswer}
    (hinv : RefundRows provider w) (hown : Untouched i refund.id w)
    (hanswers : ∀ p ∈ provider, p.Answers refund.id answer) :
    (turning provider ok).Safe i
      (fun w _ => provider.isSome → Heard refund.id answer w)
      (do
        match answer.reply with
        | .error err =>
            let _ ← markFailed refund.id "Provider refund call failed" none
            match err with
            | .provider _ => throw .paymentProviderUnavailable
            | err => throw err
        | .ok result =>
            if result.status = "failed" then
              let failed ← markFailed refund.id "Provider reported the refund as failed"
                (some result.providerRefundId)
              return toView failed
            else
              let settled ← settleRefund refund.id result
              return toView settled : Service RefundView) w := by
  unfold RefundProvider.Answers at hanswers
  cases hreply : answer.reply with
  | error err =>
      have hunheard : ∀ w, Heard refund.id answer w := fun w result hr => by
        rw [hreply] at hr
        cases hr
      refine Discipline.Safe.finish (safe_markFailed hown fun p _ x hx => by cases hx) hinv
        fun w₁ r _ _ => ?_
      cases r with
      | error e => exact Discipline.safe_done fun w₂ _ _ _ => hunheard w₂
      | ok failed =>
          simp only [Proc.onResult]
          split
          · exact Discipline.safe_done fun w₂ _ _ _ => hunheard w₂
          · exact Discipline.safe_done fun w₂ _ _ _ => hunheard w₂
  | ok result =>
      rw [hreply] at hanswers
      have hlater : ∀ w w', (turning provider ok).rely i w w' →
          (provider.isSome → Heard refund.id answer w) →
          provider.isSome → Heard refund.id answer w' :=
        fun w w' hl h hsome => (h hsome).later hl
      dsimp only at hanswers ⊢
      split
      · next hfailed =>
        refine Discipline.Safe.bind_pure ((safe_markFailed hown fun p hp x hx => ?_).mono_post
          fun w₁ _ h hsome result' hr => ?_) hinv hlater
        · obtain rfl : result.providerRefundId = x :=
            Option.some.inj (Option.filter_eq_some_iff.mp hx).1
          obtain ⟨hrefund, -, hverdict⟩ := hanswers p hp
          exact ⟨hrefund, hverdict hfailed⟩
        · cases hreply.symm.trans hr
          obtain ⟨r, hget, hs⟩ := h hsome
          refine ⟨r, hget, fun _ => hs, fun hp => ?_, fun hn => absurd hfailed hn⟩
          exact absurd (hfailed.symm.trans hp) (by decide)
      · next hnot =>
        refine Discipline.Safe.bind_pure ((safe_settleRefund hown hnot fun p hp => ?_).mono_post
          fun w₁ _ h hsome result' hr => ?_) hinv hlater
        · obtain ⟨hrefund, hverdict, -⟩ := hanswers p hp
          exact ⟨hrefund, hverdict⟩
        · cases hreply.symm.trans hr
          exact h hsome

/-- Until Razorpay is asked, the row is as it was reserved. -/
theorem safe_resolve {tenantId paymentAccountId : Nat} (hinv : RefundRows provider w)
    (hown : Untouched i k w) :
    (turning provider ok).Safe i (fun w r => r.toOption.isSome → Untouched i k w)
      (tryCatch (resolveForBoundAccount tenantId paymentAccountId) fun err => do
        let _ ← markFailed k "Merchant payment account unavailable" none
        match err with
        | .paymentAccountResolution _ => throw .merchantPaymentUnavailable
        | err => throw err : Service ResolvedPaymentAccount) w := by
  have hlater : ∀ w w', (turning provider ok).rely i w w' → Untouched i k w → Untouched i k w' :=
    fun w w' hl h => h.later hl
  rw [Proc.tryCatch_def]
  refine Discipline.Safe.finish (Discipline.safe_of_readOnly
    (within_resolveForBoundAccount _ _) hlater hown) hinv fun w₁ r hinv₁ hown₁ => ?_
  cases r with
  | ok resolved => exact Discipline.safe_done fun w₂ hl _ _ => hlater _ _ hl hown₁
  | error err =>
      refine Discipline.Safe.finish (safe_markFailed hown₁ fun p _ x hx => by cases hx) hinv₁
        fun w₂ r _ _ => ?_
      cases r with
      | error e => exact Discipline.safe_done fun _ _ _ h => by simp [Except.toOption] at h
      | ok failed =>
          simp only [Proc.onResult]
          split
          · exact Discipline.safe_done fun _ _ _ h => by simp [Except.toOption] at h
          · exact Discipline.safe_done fun _ _ _ h => by simp [Except.toOption] at h

/-- Booking a refund at Razorpay touches no row of the shop. -/
theorem bookProviderRefund_othersTurn {refund : Refund} {razorpayPaymentId : String}
    {answer : ProviderRefundAnswer} {reply : Except ServiceError MerchantRefundResult}
    (h : bookProviderRefund refund razorpayPaymentId answer w = .ok (reply, w')) :
    reply = answer.reply ∧ OthersTurn provider w w' ∧ (Untouched i k w → Untouched i k w') := by
  rw [bookProviderRefund_apply] at h
  obtain ⟨rfl, rfl⟩ := Prod.mk.inj (Except.ok.inj h)
  cases answer.accepted with
  | none => exact ⟨rfl, Std.Refl.refl _, id⟩
  | some id => exact ⟨rfl, othersTurn_of_eq rfl rfl, fun h => ⟨h.reserved, h.row⟩⟩

theorem safe_callProviderAndSettle {tenantId : Nat} {refund : Refund}
    {razorpayPaymentId : String} {paymentAccountId : Nat} {answer : ProviderRefundAnswer}
    (hagrees : ∀ p ∈ provider, ∀ ℓ w, ok ℓ w → p.Agrees ℓ w) (hinv : RefundRows provider w)
    (hown : Untouched i refund.id w) :
    (turning provider ok).Safe i (fun _ _ => True)
      (callProviderAndSettle tenantId refund razorpayPaymentId paymentAccountId answer) w := by
  refine Discipline.Safe.finish (safe_resolve hinv hown) hinv fun w₁ r hinv₁ hown₁ => ?_
  cases r with
  | error err => exact Discipline.safe_done fun _ _ _ => trivial
  | ok resolved =>
  refine Discipline.Safe.bind (Discipline.safe_of_readOnly
    (within_getEncryptedCredentials _ _) (fun _ _ hl h => Untouched.later h hl) (hown₁ rfl))
    hinv₁ fun w₂ credentials hinv₂ hown₂ => ?_
  cases credentials with
  | none =>
      refine Discipline.Safe.finish (safe_markFailed hown₂ fun p _ x hx => by cases hx) hinv₂
        fun w₃ r _ _ => ?_
      cases r <;> exact Discipline.safe_done fun _ _ _ => trivial
  | some credentials =>
      refine Discipline.safe_transact (fun w₃ reply w₄ hl hinv₃ hok hbook => ?_)
        (fun w₃ e _ _ _ hbook => by rw [bookProviderRefund_apply] at hbook; cases hbook)
      obtain ⟨rfl, hturn, hkept⟩ := bookProviderRefund_othersTurn hbook
      exact ⟨hturn.moves, fun hinv₄ => (safe_settleReply hinv₄ (hkept (hown₂.later hl))
        fun p hp => hagrees p hp _ _ hok).mono_post fun _ _ _ => trivial⟩

end Settling

end PrintForge
