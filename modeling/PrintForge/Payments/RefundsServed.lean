import PrintForge.Payments.Served

/-!
# Order and refund requests keep the discipline

A cancellation relies on the captured attempt it has read. A refund request owns the row it
has reserved: nobody else names or fails it, so what the request has heard from Razorpay is
still true of the row when it settles it.
-/

namespace PrintForge

open Relational Concurrent Function JavaScript

variable {gateway : Gateway} {ok : Commit → World → Prop} {i : Nat} {w w' : World}

/-! ## The orders service -/

theorem within_findOrderOrThrow {G : Commit → World → World → Prop} (orderId : Nat) :
    Proc.Within G (findOrderOrThrow orderId) := by
  refine Proc.Within.bind (within_query _) fun found => ?_
  cases found with
  | none => exact Proc.within_throw _
  | some order => exact Proc.within_pure _

theorem within_assertTransitionAllowed {G : Commit → World → World → Prop}
    (source target : OrderStatus) :
    Proc.Within G (assertTransitionAllowed source target : Service Unit) := by
  unfold assertTransitionAllowed
  split
  · exact Proc.within_pure _
  · exact Proc.within_throw _

/-- A captured attempt that was read is still captured, for the same amount. -/
def KnownCapture (capturedAttempt : Option PaymentAttempt) (w : World) : Prop :=
  ∀ a ∈ capturedAttempt, a.status = .captured →
    ∃ a' ∈ w.paymentAttempts, a'.id = a.id ∧ a'.status = .captured ∧
      a'.amountPaise = a.amountPaise

theorem KnownCapture.later {capturedAttempt : Option PaymentAttempt}
    (h : KnownCapture capturedAttempt w) (hp : Persist w w') :
    KnownCapture capturedAttempt w' := by
  intro a ha hs
  obtain ⟨a', hmem, hid, hs', hamount⟩ := h a ha hs
  obtain ⟨a'', hmem', hid', hle⟩ := hp.attempts a' hmem
  exact ⟨a'', hmem', hid'.trans hid, (hle.captured hs').1, hle.amountPaise.trans hamount⟩

theorem served_performCancellation {order : Order} {actor : Actor} {reason : Option String} :
    Served gateway ok i (performCancellation order actor reason) w := by
  unfold performCancellation
  refine Discipline.safe_read fun w₁ _ _ => ?_
  simp only [Proc.onResult]
  generalize hread : w₁.paymentAttempts.findFirst _ = capturedAttempt
  have hknown : KnownCapture capturedAttempt w₁ := by
    rintro a rfl hs
    exact ⟨a, (Table.findFirst_some hread).1, rfl, hs, rfl⟩
  rw [← Proc.finish_done (Proc.transact _ _)]
  refine Discipline.safe_transact (fun w₂ _ w₃ hl hinv hok h => ⟨?_, fun _ =>
    Discipline.safe_done fun _ _ _ => trivial⟩) (fun w₂ err _ hinv _ _ => ⟨.refl hinv,
    Discipline.safe_done fun _ _ _ => trivial⟩)
  have hfree : (refundTerms ok).unrefunded → ∀ a ∈ capturedAttempt, a.status = .captured →
      alreadyReserved w₂ a.id ≤ 0 := fun hu => hu _ w₂ hok
  obtain ⟨hposts, hkeeps, hstep⟩ := recordCancellation_ok (hknown.later hl.1) hfree h
  obtain hp | ⟨-, hp⟩ := hposts
  · exact .plain hinv hkeeps hp trivial hstep
  · exact .plain hinv hkeeps hp trivial hstep

theorem served_cancelOrder {userId orderId : Nat} {reason : Option String}
    (hinv : BooksInv gateway w) :
    Served gateway ok i (cancelOrder userId orderId reason) w := by
  unfold cancelOrder
  refine Served.bind (served_of_within (within_findOrderOrThrow _)) hinv fun w₁ order hinv₁ => ?_
  split
  · exact served_of_within (Proc.within_throw _)
  · split
    · exact served_of_within (within_findOrderOrThrow _)
    · refine Served.bind (served_of_within (within_assertTransitionAllowed _ _)) hinv₁
        fun w₂ _ hinv₂ => ?_
      exact Served.bind served_performCancellation hinv₂
        fun w₃ _ _ => served_of_within (within_findOrderOrThrow _)

theorem within_performRefundRecording (order : Order) (actor : Actor) (reason : Option String) :
    Proc.Within (Guaranteed gateway ok i) (performRefundRecording order actor reason) := by
  refine Proc.within_transact (fun _ hinv _ => .refl hinv) fun w _ w' h hinv _ => ?_
  obtain ⟨hposts, hkeeps, hstep⟩ := recordRefund_ok h
  obtain hp | ⟨-, hp⟩ := hposts
  · exact .plain hinv hkeeps hp trivial hstep
  · exact .plain hinv hkeeps hp trivial hstep

theorem within_transitionStatus (order : Order) (status : OrderStatus) (actor : Actor)
    (reason : Option String) :
    Proc.Within (Guaranteed gateway ok i)
      (Proc.transact (.adminTransitionStatus order status)
        (transitionOrderWithHistory order status actor reason false) : Service Unit) := by
  refine Proc.within_transact (fun _ hinv _ => .refl hinv) fun w _ w' h hinv _ => ?_
  have hkeeps : Keeps {} w w' :=
    within_transitionOrderWithHistory (keeps_frame _).toTransitionFrame _ _ _ _ _ h
  have hsame : RefundsSame w w' :=
    within_transitionOrderWithHistory refundsSame_frame.frame.toTransitionFrame _ _ _ _ _ h
  obtain hp | ⟨-, hp⟩ := transitionOrderWithHistory_ok h
  · exact .plain hinv hkeeps hp trivial (.same hsame)
  · refine .plain hinv hkeeps hp ?_ (.same hsame)
    cases status with
    | paid => exact ⟨order, rfl, rfl⟩
    | paymentFailed => exact ⟨rfl, rfl⟩
    | pendingPayment => exact ⟨order, rfl, rfl⟩
    | _ => exact trivial

theorem served_adminTransitionStatus {tenantId adminId orderId : Nat} {status : OrderStatus}
    {reason : Option String} (hinv : BooksInv gateway w) :
    Served gateway ok i (adminTransitionStatus tenantId adminId orderId status reason) w := by
  unfold adminTransitionStatus
  refine Served.bind (served_of_within (within_findOrderOrThrow _)) hinv fun w₁ order hinv₁ => ?_
  split
  · exact served_of_within (Proc.within_throw _)
  · split
    · exact served_of_within (within_findOrderOrThrow _)
    · refine Served.bind (served_of_within (within_assertTransitionAllowed _ _)) hinv₁
        fun w₂ _ hinv₂ => ?_
      have hlast : ∀ w, Served gateway ok i (findOrderOrThrow orderId) w :=
        fun _ => served_of_within (within_findOrderOrThrow _)
      cases status with
      | cancelled => exact Served.bind served_performCancellation hinv₂ fun w _ _ => hlast w
      | refunded =>
          exact Served.bind (served_of_within (within_performRefundRecording _ _ _)) hinv₂
            fun w _ _ => hlast w
      | _ =>
          exact Served.bind (served_of_within (within_transitionStatus _ _ _ _)) hinv₂
            fun w _ _ => hlast w

/-! ## The refund service -/

/-- The row a request has reserved and not yet asked Razorpay for. -/
structure OwnsRefund (i : Nat) (refund : Refund) (razorpayPaymentId : String) (w : World) :
    Prop where
  reserved : ReservedBy w refund.id i
  row : ∃ r, w.refunds.get refund.id = some r ∧ r.amountPaise = refund.amountPaise ∧
    r.razorpayRefundId = none ∧ r.isReserving = true ∧
    ∃ a, w.paymentAttempts.get r.paymentAttemptId = some a ∧ a.status = .captured ∧
      a.razorpayPaymentId = some razorpayPaymentId
  unasked : ∀ q ∈ w.providerRefunds, q.refundId ≠ refund.id

theorem OwnsRefund.later {refund : Refund} {razorpayPaymentId : String}
    (h : OwnsRefund i refund razorpayPaymentId w) (hp : Persist w w')
    (ho : OwnRefunds i w w') : OwnsRefund i refund razorpayPaymentId w' := by
  obtain ⟨hres, ⟨r, hget, hamount, hnone, hs, a, ha, hcaptured, hpay⟩, hun⟩ := h
  obtain ⟨r', hget', hle, hkeep⟩ := ho.row _ r hres hget
  obtain ⟨a', ha', hale⟩ := hp.attempts.get ha
  obtain ⟨hcaptured', hpay'⟩ := hale.captured hcaptured
  refine ⟨ho.reservedBy _ hres, ⟨r', hget', hle.amountPaise.trans hamount, (hkeep hnone).1,
    (hkeep hnone).2 hs, a', ?_, hcaptured', hpay'.trans hpay⟩, fun q hq hid => ?_⟩
  · rw [hle.paymentAttemptId]
    exact ha'
  · obtain ⟨q₀, hq₀, hid₀, -⟩ := ho.provider _ hres q hq hid
    exact hun q₀ hq₀ hid₀

/-- What a request knows of Razorpay's books when it settles its row: `name` is the only
identifier the refund may have there. -/
def SettleKnows (honest : Prop) (i refundId : Nat) (name : Option String) (w : World) : Prop :=
  ReservedBy w refundId i ∧
    (honest → ∀ q ∈ w.providerRefunds, q.refundId = refundId → some q.razorpayRefundId = name)

theorem SettleKnows.later {honest : Prop} {refundId : Nat} {name : Option String}
    (h : SettleKnows honest i refundId name w) (ho : OwnRefunds i w w') :
    SettleKnows honest i refundId name w' := by
  refine ⟨ho.reservedBy _ h.1, fun hh q hq hid => ?_⟩
  obtain ⟨q₀, hq₀, hid₀, hname⟩ := ho.provider _ h.1 q hq hid
  rw [← hname]
  exact h.2 hh q₀ hq₀ hid₀

theorem OwnsRefund.settleKnows {honest : Prop} {refund : Refund} {razorpayPaymentId : String}
    (h : OwnsRefund i refund razorpayPaymentId w) : SettleKnows honest i refund.id none w :=
  ⟨h.reserved, fun _ q hq hid => absurd hid (h.unasked q hq)⟩

/-- The last read of a settlement. -/
theorem within_readRefund {G : Commit → World → World → Prop} (refundId : Nat) :
    Proc.Within G (do
      let found ← query (·.refunds.get refundId)
      match found with
      | some refund => return refund
      | none => throw .recordNotFound : Service Refund) := by
  refine Proc.Within.bind (within_query _) fun found => ?_
  cases found with
  | none => exact Proc.within_throw _
  | some refund => exact Proc.within_pure _

/-- Settling an own row as failed, while Razorpay has nothing booked for it. -/
theorem served_markFailed {refundId : Nat} {failureReason : String}
    {razorpayRefundId : Option String} (h : SettleKnows (refundTerms ok).honest i refundId none w) :
    Served gateway ok i (markFailed refundId failureReason razorpayRefundId) w := by
  unfold markFailed
  refine Discipline.safe_transact (fun w₁ n w₂ hl hinv _ hupd => ?_) (fun w₁ e _ hinv _ _ =>
    ⟨.refl hinv, Discipline.safe_done fun _ _ _ => trivial⟩)
  obtain ⟨t, ht, -, rfl⟩ := Slot.updateMany_ok hupd
  obtain ⟨hres, hbooks⟩ := h.later hl.2
  have row : ∀ {r : Refund}, (decide (r.id = refundId) && decide (r.status = .pending)) = true →
      r.id = refundId ∧ r.status = .pending := by
    intro r hp
    simpa using hp
  refine ⟨.quiet hinv (keeps_of_eq rfl rfl rfl) rfl (.settle _ _ _ t ht rfl
    (fun r _ hp => Refund.le_of_pending (row hp).2 rfl rfl)
    (fun r _ hp => .inr (.inl ((row hp).1 ▸ hres)))
    (fun hh r _ hp _ q hq hid _ => ?_) fun hh r _ hp x _ => .inr fun q hq hid => ?_),
    fun _ => served_of_within (within_readRefund _)⟩
  · cases hbooks hh q hq (hid.trans (row hp).1)
  · cases hbooks hh q hq (hid.trans (row hp).1)

/-- Settling an own row under the identifier Razorpay has given the refund. -/
theorem served_settleRefund {refundId : Nat} {result : MerchantRefundResult}
    (h : SettleKnows (refundTerms ok).honest i refundId (some result.providerRefundId) w) :
    Served gateway ok i (settleRefund refundId result) w := by
  unfold settleRefund
  refine Discipline.safe_transact (fun w₁ n w₂ hl hinv _ hupd => ?_) (fun w₁ e _ hinv _ _ =>
    ⟨.refl hinv, Discipline.safe_done fun _ _ _ => trivial⟩)
  obtain ⟨t, ht, -, rfl⟩ := Slot.updateMany_ok hupd
  obtain ⟨hres, hbooks⟩ := h.later hl.2
  have row : ∀ {r : Refund}, (decide (r.id = refundId) && decide (r.status = .pending)) = true →
      r.id = refundId ∧ r.status = .pending := by
    intro r hp
    simpa using hp
  refine ⟨.quiet hinv (keeps_of_eq rfl rfl rfl) rfl (.settle _ _ _ t ht rfl
    (fun r _ hp => Refund.le_of_pending (row hp).2 rfl rfl)
    (fun r _ hp => .inr (.inl ((row hp).1 ▸ hres)))
    (fun hh r _ hp hs => ?_) fun hh r _ hp x hx => .inr fun q hq hid => ?_),
    fun _ => served_of_within (within_readRefund _)⟩
  · -- a pending row does not fail here
    rw [(row hp).2] at hs
    split at hs <;> cases hs
  · obtain rfl : result.providerRefundId = x := by simpa using hx
    exact Option.some.inj (hbooks hh q hq (hid.trans (row hp).1))

theorem bookProviderRefund_apply (refund : Refund) (providerPaymentId : String)
    (answer : ProviderRefundAnswer) (w : World) :
    bookProviderRefund refund providerPaymentId answer w = .ok (answer.reply,
      match answer.accepted with
      | some id => { w with
          providerRefunds := w.providerRefunds ++
            [{ refundId := refund.id, razorpayRefundId := id
               razorpayPaymentId := providerPaymentId, amountPaise := refund.amountPaise
               standing := true }] }
      | none => w) := by
  unfold bookProviderRefund
  cases answer.accepted <;> rfl

/-- What the answer of an honest provider tells about the refund it was asked for. -/
theorem accepted_of_honest {answer : ProviderRefundAnswer} {id : String}
    (htruthful : answer.Truthful) (hreported : answer.Reported) (h : answer.accepted = some id) :
    ∃ result, answer.reply = .ok result ∧ result.status ≠ "failed" ∧
      result.providerRefundId = id := by
  obtain ⟨result, hreply, hs⟩ := hreported (by simp [h])
  have := htruthful result hreply hs
  exact ⟨result, hreply, hs, Option.some.inj (this.symm.trans h)⟩

/-- Asking Razorpay for the refund of an own row. -/
theorem guarantee_callProvider {refund : Refund} {razorpayPaymentId : String}
    {answer : ProviderRefundAnswer} (hinv : BooksInv gateway w)
    (hown : OwnsRefund i refund razorpayPaymentId w)
    (h : bookProviderRefund refund razorpayPaymentId answer w = .ok (answer.reply, w')) :
    Guarantee gateway ok i (.callProvider refund.id answer) w w' := by
  rw [bookProviderRefund_apply] at h
  obtain rfl := (Prod.mk.inj (Except.ok.inj h)).2
  obtain ⟨hres, ⟨r, hget, hamount, hnone, hs, a, ha, -, hpay⟩, hun⟩ := hown
  cases answer.accepted with
  | none => exact .refl hinv
  | some id =>
      exact .quiet hinv (keeps_of_eq rfl rfl rfl) rfl (.accept _ r a rfl hres hget hnone hs
        hamount.symm ha hpay hun)

/-- Until Razorpay is asked, the row is as it was reserved. -/
theorem safe_resolving {tenantId : Nat} {refund : Refund} {razorpayPaymentId : String}
    {paymentAccountId : Nat} (hinv : BooksInv gateway w)
    (hown : OwnsRefund i refund razorpayPaymentId w) :
    (bookkeeping gateway ok).Safe i
      (fun w r => r.toOption.isSome → OwnsRefund i refund razorpayPaymentId w)
      (tryCatch (resolveForBoundAccount tenantId paymentAccountId) fun err => do
        let _ ← markFailed refund.id "Merchant payment account unavailable" none
        match err with
        | .paymentAccountResolution _ => throw .merchantPaymentUnavailable
        | err => throw err : Service ResolvedPaymentAccount) w := by
  have hlater : ∀ w w', (bookkeeping gateway ok).rely i w w' →
      OwnsRefund i refund razorpayPaymentId w → OwnsRefund i refund razorpayPaymentId w' :=
    fun w w' hl h => h.later hl.1 hl.2
  rw [Proc.tryCatch_def]
  refine Discipline.Safe.finish (Discipline.safe_of_readOnly
    (within_resolveForBoundAccount _ _) hlater hown) hinv fun w₁ r hinv₁ hown₁ => ?_
  cases r with
  | ok resolved => exact Discipline.safe_done fun w₂ hl _ _ => hlater _ _ hl hown₁
  | error err =>
      simp only [Proc.onError]
      rw [Proc.bind_def]
      refine Discipline.Safe.finish (served_markFailed hown₁.settleKnows) hinv₁
        fun w₂ r _ _ => ?_
      cases r with
      | error e => exact Discipline.safe_done fun _ _ _ h => by simp [Except.toOption] at h
      | ok failed =>
          simp only [Proc.onResult]
          split
          · exact Discipline.safe_done fun _ _ _ h => by simp [Except.toOption] at h
          · exact Discipline.safe_done fun _ _ _ h => by simp [Except.toOption] at h

theorem served_callProviderAndSettle {tenantId : Nat} {refund : Refund}
    {razorpayPaymentId : String} {paymentAccountId : Nat} {answer : ProviderRefundAnswer}
    (hinv : BooksInv gateway w) (hown : OwnsRefund i refund razorpayPaymentId w) :
    Served gateway ok i
      (callProviderAndSettle tenantId refund razorpayPaymentId paymentAccountId answer) w := by
  have hlater : ∀ w w', (bookkeeping gateway ok).rely i w w' →
      OwnsRefund i refund razorpayPaymentId w → OwnsRefund i refund razorpayPaymentId w' :=
    fun w w' hl h => h.later hl.1 hl.2
  unfold callProviderAndSettle
  rw [Proc.bind_def]
  refine Discipline.Safe.finish (safe_resolving hinv hown) hinv fun w₁ r hinv₁ hown₁ => ?_
  cases r with
  | error err => exact Discipline.safe_done fun _ _ _ => trivial
  | ok resolved =>
  refine Discipline.Safe.bind (Discipline.safe_of_readOnly
    (within_getEncryptedCredentials _ _) hlater (hown₁ rfl)) hinv₁
    fun w₂ credentials hinv₂ hown₂ => ?_
  cases credentials with
  | none =>
      exact Served.bind (served_markFailed hown₂.settleKnows) hinv₂
        fun _ _ _ => served_of_within (Proc.within_throw _)
  | some credentials =>
      rw [Proc.bind_def]
      refine Discipline.safe_transact (fun w₃ reply w₄ hl hinv₃ hok hbook => ?_)
        (fun w₃ e _ _ _ hbook => by rw [bookProviderRefund_apply] at hbook; cases hbook)
      have hown₃ := hlater _ _ hl hown₂
      have happly := bookProviderRefund_apply refund razorpayPaymentId answer w₃
      obtain ⟨rfl, hw₄⟩ := Prod.mk.inj (Except.ok.inj (hbook.symm.trans happly))
      refine ⟨guarantee_callProvider hinv₃ hown₃ hbook, fun hinv₄ => ?_⟩
      -- what is booked now is what the answer says
      have hbooked : ∀ name : Option String, ((refundTerms ok).honest → answer.accepted = name) →
          SettleKnows (refundTerms ok).honest i refund.id name w₄ := by
        refine fun name hname => ⟨?_, fun hh q hq hid => ?_⟩
        · rw [hw₄]
          cases answer.accepted <;> exact hown₃.reserved
        · have hname := hname hh
          cases hacc : answer.accepted with
          | none =>
              rw [hw₄, hacc] at hq
              exact absurd hid (hown₃.unasked q hq)
          | some id =>
              rw [hw₄, hacc] at hq
              obtain hq | hq := List.mem_append.mp hq
              · exact absurd hid (hown₃.unasked q hq)
              · rw [List.mem_singleton.mp hq, ← hname, hacc]
      have hrefused : (∀ result, answer.reply = .ok result → result.status = "failed") →
          (refundTerms ok).honest → answer.accepted = none := by
        intro hreply hh
        obtain ⟨htruthful, hreported⟩ := hh _ w₃ hok
        cases hacc : answer.accepted with
        | none => rfl
        | some id =>
            obtain ⟨result, hr, hs, -⟩ := accepted_of_honest htruthful hreported hacc
            exact absurd (hreply result hr) hs
      simp only [Proc.onResult]
      cases hreply : answer.reply with
      | error err =>
          refine Served.bind (served_markFailed (hbooked none (hrefused fun result hr => ?_)))
            hinv₄ fun _ _ _ => served_of_within ?_
          · rw [hreply] at hr
            cases hr
          · split
            · exact Proc.within_throw _
            · exact Proc.within_throw _
      | ok result =>
          dsimp only
          split
          · next hfailed =>
            refine Served.bind (served_markFailed (hbooked none (hrefused fun result' hr => ?_)))
              hinv₄ fun _ _ _ => served_of_within (Proc.within_pure _)
            rw [hreply] at hr
            cases hr
            exact hfailed
          · next hnot =>
            refine Served.bind (served_settleRefund (hbooked _ fun hh => ?_)) hinv₄
              fun _ _ _ => served_of_within (Proc.within_pure _)
            exact (hh _ w₃ hok).1 result hreply hnot

theorem resolveRequestedAmount_ok {amountPaiseInput : Option (Option Int)} {captured n : Int}
    (h : resolveRequestedAmount amountPaiseInput captured w = .ok (n, w')) : w' = w := by
  unfold resolveRequestedAmount at h
  split at h
  · cases h
    rfl
  · cases h
  · cases h
    rfl

/-- The row that is reserved, and what has been checked before. -/
theorem reserveRefund_reserves {request tenantId paymentAttemptId : Nat} {dto : CreateRefundDto}
    {refund : Refund} {razorpayPaymentId : String} {paymentAccountId : Nat}
    (h : reserveRefund request tenantId paymentAttemptId dto w =
      .ok ((refund, razorpayPaymentId, paymentAccountId), w')) :
    ∃ attempt amountPaise t, w.paymentAttempts.get paymentAttemptId = some attempt ∧
      attempt.status = .captured ∧ attempt.razorpayPaymentId = some razorpayPaymentId ∧
      0 < amountPaise ∧
      amountPaise ≤ attempt.amountPaise - alreadyReserved w paymentAttemptId ∧
      w.refunds.create (fun id =>
        { id, paymentAttemptId, razorpayRefundId := none, amountPaise
          status := .pending, reason := dto.reason, failureReason := none
          tenantId := attempt.tenantId, paymentAccountId := some paymentAccountId })
        (by intro; rfl) = some t ∧
      t.get refund.id = some refund ∧ refund.id = w.refunds.nextKey ∧
      refund.razorpayRefundId = none ∧ refund.status = .pending ∧
      w' = { w with
        refunds := t
        reservedBy := w.reservedBy ++ [(refund.id, request)] } := by
  unfold reserveRefund at h
  simp only [query_transaction, Tx.bind_read] at h
  generalize hfound : (w.paymentAttempts.get paymentAttemptId).filter _ = found at h
  cases found with
  | none => cases h
  | some attempt =>
      have hget := (Option.filter_eq_some_iff.mp hfound).1
      dsimp only at h
      split at h
      · cases h
      · next hstatus =>
        have hcaptured : attempt.status = .captured := by simpa using hstatus
        generalize hpayment : truthy attempt.razorpayPaymentId = payment at h
        generalize attempt.paymentAccountId = account at h
        cases payment with
        | none => cases h
        | some payment =>
        cases account with
        | none => cases h
        | some account =>
          obtain ⟨amount, w₁, hamount, h₁⟩ := Tx.bind_ok.mp h
          obtain rfl := resolveRequestedAmount_ok hamount
          split at h₁
          · cases h₁
          · next hpos =>
            simp only [Tx.bind_read] at h₁
            split at h₁
            · cases h₁
            · next hbalance =>
              obtain ⟨created, w₂, hcreate, h₂⟩ := Tx.bind_ok.mp h₁
              obtain ⟨t, ht, hcreated, rfl⟩ := Slot.create_ok hcreate
              obtain ⟨⟨⟩, w₃, hmodify, hret⟩ := Tx.bind_ok.mp h₂
              cases hmodify
              cases hret
              have hrow := (Table.get_create ht w₁.refunds.nextKey).trans (if_pos rfl)
              refine ⟨attempt, amount, t, hget, hcaptured,
                (Option.filter_eq_some_iff.mp hpayment).1, by simpa using hpos,
                by simpa using hbalance, ht, ?_⟩
              rw [hcreated]
              exact ⟨hrow, rfl, rfl, rfl, rfl⟩

/-- A reservation is checked against the balance of a captured attempt, and owned by the
request that made it. -/
theorem reserveRefund_ok {terms : RefundTerms} {tenantId paymentAttemptId : Nat}
    {dto : CreateRefundDto} {refund : Refund} {razorpayPaymentId : String}
    {paymentAccountId : Nat} (hinv : RefundInv w)
    (h : reserveRefund i tenantId paymentAttemptId dto w =
      .ok ((refund, razorpayPaymentId, paymentAccountId), w')) :
    Keeps {} w w' ∧ ledger w' = ledger w ∧ RefundStep terms i w w' ∧
      OwnsRefund i refund razorpayPaymentId w' := by
  obtain ⟨attempt, amount, t, hget, hcaptured, hpayment, hpos, hbalance, ht, hrow, hkey, hnone,
    hpending, rfl⟩ := reserveRefund_reserves h
  obtain ⟨hmem, hid⟩ := Table.get_eq_some.mp hget
  have hid : attempt.id = paymentAttemptId := hid
  have hattempt : refund.paymentAttemptId = paymentAttemptId := by
    have hcreated := (Table.get_create ht w.refunds.nextKey).trans (if_pos rfl)
    rw [← hkey, hrow] at hcreated
    rw [Option.some.inj hcreated]
  have hreserving : refund.isReserving = true := by
    simp [Refund.isReserving, reservingStatuses, hpending]
  refine ⟨keeps_of_eq rfl rfl rfl, rfl, .reserve _ _ t attempt ht ?_ hmem hcaptured
    (fun k => ⟨hid.symm, rfl, by simp [Refund.isReserving, reservingStatuses], hpos, ?_⟩), ?_,
    ⟨refund, hrow, rfl, hnone, hreserving, attempt, ?_, hcaptured, hpayment⟩, ?_⟩
  · rw [← hkey]
    rfl
  · rw [hid]
    exact hbalance
  · exact List.mem_append.mpr (.inr (List.mem_singleton.mpr rfl))
  · rw [hattempt]
    exact hget
  · -- Razorpay was only asked for rows that had been reserved before
    intro q hq hqid
    obtain ⟨j, hj⟩ := hinv.asked q hq
    rw [hqid, hkey] at hj
    exact absurd (hinv.reserved_lt _ _ hj) (Nat.lt_irrefl _)

theorem served_createRefund {tenantId paymentAttemptId : Nat} {dto : CreateRefundDto}
    {answer : ProviderRefundAnswer} :
    Served gateway ok i (createRefund i tenantId paymentAttemptId dto answer) w := by
  unfold createRefund
  rw [Proc.bind_def]
  refine Discipline.safe_transact (fun w₁ r w₂ _ hinv _ h => ?_) (fun w₁ e _ hinv _ _ =>
    ⟨.refl hinv, Discipline.safe_done fun _ _ _ => trivial⟩)
  obtain ⟨refund, razorpayPaymentId, paymentAccountId⟩ := r
  obtain ⟨hkeeps, hledger, hstep, hown⟩ := reserveRefund_ok hinv.refunds h
  exact ⟨.quiet hinv hkeeps hledger hstep, fun hinv₂ =>
    served_callProviderAndSettle hinv₂ hown⟩

/-! ## Every request -/

/-- Payments that Razorpay reports to reconciliation belong to the Razorpay order it was
asked about. -/
def Request.Genuine (gateway : Gateway) : Request → Prop
  | .reconcileOne _ _ payments =>
      ∀ ps ∈ payments, ∀ p ∈ ps, gateway.orderOf p.id = p.razorpayOrderId
  | _ => True

theorem served_handle {req : Request} (hgenuine : req.Genuine gateway)
    (hinv : BooksInv gateway w) : Served gateway ok i (handle gateway i req) w := by
  have respond : ∀ {α : Type} {p : Service α} {f : α → Response}, Served gateway ok i p w →
      Served gateway ok i (p >>= fun a => pure (f a)) w :=
    fun h => Served.bind h hinv fun _ _ _ => served_of_within (Proc.within_pure _)
  cases req with
  | checkout data =>
      refine respond (served_of_within (Proc.within_transact (fun _ hinv _ => .refl hinv)
        fun w _ w' h hinv _ => ?_))
      obtain ⟨hposts, hkeeps, hsame⟩ := createOrder_ok hinv.blank h
      exact .plain hinv hkeeps hposts trivial (.same hsame)
  | administer paymentAccounts stores users =>
      refine respond (served_of_within (within_statement fun w _ w' hinv h => ?_))
      cases h
      exact .quiet hinv (keeps_of_eq rfl rfl rfl) rfl (.same rfl)
  | initiatePayment userId orderId created => exact respond served_initiatePayment
  | verifyPayment userId dto => exact respond served_verifyPayment
  | receiveWebhook rawBody signature headerEventId now =>
      exact respond (served_of_within (within_receiveWebhook _ _ _ _))
  | receiveMerchantWebhook paymentAccountId rawBody signature headerEventId now =>
      exact respond (served_of_within (within_receiveMerchantWebhook _ _ _ _ _))
  | processOne id now => exact respond served_processOne
  | reconcileOne orderId ageMinutes payments => exact respond (served_reconcileOne hgenuine)
  | failStale orderId ageMinutes =>
      exact respond (served_of_within (within_failStaleOrderWithoutRazorpayOrder _ _))
  | cancelOrder userId orderId reason => exact respond (served_cancelOrder hinv)
  | adminTransitionStatus tenantId adminId orderId status reason =>
      exact respond (served_adminTransitionStatus hinv)
  | createRefund tenantId paymentAttemptId dto answer => exact respond served_createRefund
  | failProviderRefund razorpayRefundId =>
      refine respond (served_of_within (within_statement fun w _ w' hinv h => ?_))
      cases h
      exact .quiet hinv (keeps_of_eq rfl rfl rfl) rfl (.reject razorpayRefundId rfl)

/-- No order has been placed yet. -/
theorem booksInv_initial (paymentAccounts : Table PaymentAccount) (stores : Table Store)
    (users : Table User) : BooksInv gateway (World.initial paymentAccounts stores users) where
  blank o _ := by
    have hcaptured : (ledger (World.initial paymentAccounts stores users) o).captured = ∅ :=
      Set.eq_empty_of_forall_notMem fun k ⟨a, ha, _⟩ => Table.not_mem_empty a ha
    have hnotices : (ledger (World.initial paymentAccounts stores users) o).notices = ∅ :=
      Set.eq_empty_of_forall_notMem fun n ⟨e, he, _⟩ => Table.not_mem_empty e he
    exact congrArg₂ (Ledger.mk none · [] ·) hcaptured hnotices
  announced o h := by
    obtain ⟨e, he, -⟩ := h
    exact absurd he (Table.not_mem_empty e)
  attributed a ha := absurd ha (Table.not_mem_empty a)
  genuine e he := absurd he (Table.not_mem_empty e)
  refunds :=
    { reserved_lt := fun _ _ h => by cases h
      reserved_unique := fun _ _ _ h => by cases h
      captured := fun r hr => absurd hr (Table.not_mem_empty r)
      asked := fun _ h => by cases h }

end PrintForge
