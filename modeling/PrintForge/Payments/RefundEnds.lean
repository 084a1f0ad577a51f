import PrintForge.Concurrent.Moments
import PrintForge.Payments.Ingestion
import PrintForge.Payments.RefundGuarantees
import PrintForge.Payments.RefundVerdicts

/-!
# How every refund ends

The rules for the refund service are put together with those for everybody else's writes, and the
guarantees of whole runs follow: what is settled stays, and a refund whose answer has been dealt
with, and whose verdict has been reported, has that verdict.
-/

namespace PrintForge

open Relational Concurrent Proc JavaScript

variable {provider : Option RefundProvider} {ok : Commit → World → Prop} {gateway : Gateway}
variable {i : Nat} {w w' : World}

/-! ## The refund service -/

/-- Statements are not heeded; the call to Razorpay ends as its answer says. -/
def AsHeard {α : Type} (ℓ : Commit) (_ _ w : World) (_ : Except ServiceError α) : Prop :=
  match ℓ with
  | .callProvider k answer => Heard k answer w
  | _ => True

section Unheeded

variable {α : Type} (refundId : Nat)

theorem unheeded_markFailed (failureReason : String) (razorpayRefundId : Option String) :
    (markFailed refundId failureReason razorpayRefundId).Within
      fun ℓ _ _ => ∀ s s' t r, AsHeard (α := α) ℓ s s' t r :=
  (within_transact (fun _ _ _ _ _ => trivial) fun _ _ _ _ _ _ _ _ => trivial).bind
    fun _ => within_readRefund _

theorem unheeded_settleRefund (result : MerchantRefundResult) :
    (settleRefund refundId result).Within fun ℓ _ _ => ∀ s s' t r, AsHeard (α := α) ℓ s s' t r :=
  (within_transact (fun _ _ _ _ _ => trivial) fun _ _ _ _ _ _ _ _ => trivial).bind
    fun _ => within_readRefund _

theorem unheeded_settleReply (refund : Refund) (reply : Except ServiceError MerchantRefundResult) :
    (do
      match reply with
      | .error err =>
          let _ ← markFailed refund.id "Provider refund call failed" none
          match err with
          | .provider _ => throw .paymentProviderUnavailable
          | err => throw err
      | .ok result =>
          if result.status = "failed" then
            let failed ← markFailed refund.id "Provider reported the refund as failed"
              (some result.providerRefundId)
            return toView failed
          else
            let settled ← settleRefund refund.id result
            return toView settled : Service RefundView).Within
      fun ℓ _ _ => ∀ s s' t r, AsHeard (α := α) ℓ s s' t r := by
  cases reply with
  | error err =>
      refine (unheeded_markFailed _ _ _).bind fun _ => ?_
      cases err <;> exact within_throw _
  | ok result =>
      dsimp only
      split
      · exact (unheeded_markFailed _ _ _).bind fun _ => within_pure _
      · exact (unheeded_settleRefund _ _).bind fun _ => within_pure _

end Unheeded

theorem heeds_callProviderAndSettle {p : RefundProvider} {tenantId : Nat} {refund : Refund}
    {razorpayPaymentId : String} {paymentAccountId : Nat} {answer : ProviderRefundAnswer}
    (hagrees : ∀ ℓ w, ok ℓ w → p.Agrees ℓ w) (hinv : RefundRows (some p) w)
    (hown : Untouched i refund.id w) :
    (turning (some p) ok).Heeds i AsHeard
      (callProviderAndSettle tenantId refund razorpayPaymentId paymentAccountId answer) w := by
  refine (safe_resolve hinv hown).finish_heeds hinv ?_ fun w₁ r hinv₁ hown₁ => ?_
  · refine (within_resolveForBoundAccount _ _).tryCatch fun err => ?_
    refine (unheeded_markFailed _ _ _).bind fun _ => ?_
    cases err <;> exact within_throw _
  cases r with
  | error err => trivial
  | ok resolved =>
  refine (Discipline.safe_of_readOnly (K := Untouched i refund.id)
    (within_getEncryptedCredentials _ _)
    (fun _ _ hl h => Untouched.later h hl) (hown₁ rfl)).finish_heeds hinv₁
    (within_getEncryptedCredentials _ _) fun w₂ r hinv₂ hown₂ => ?_
  cases r with
  | error err => trivial
  | ok credentials =>
  cases credentials with
  | none =>
      exact Discipline.heeds_of_within ((unheeded_markFailed _ _ _).bind fun _ => within_throw _)
  | some credentials =>
      refine Discipline.heeds_transact (fun w₃ reply w₄ hl hinv₃ hok hbook => ?_)
        (fun w₃ e _ _ _ hbook => by rw [bookProviderRefund_apply] at hbook; cases hbook)
      obtain ⟨rfl, hturn, hkept⟩ := bookProviderRefund_othersTurn hbook
      refine ⟨?_, Discipline.heeds_of_within (unheeded_settleReply _ _)⟩
      have hinv₄ := RefundsMove.refundRows (i := i) hturn.moves hinv₃
      exact (safe_settleReply hinv₄ (hkept (hown₂.later hl))
        fun p' hp => by cases hp; exact hagrees _ _ hok).mono_post fun _ _ h => h rfl

/-- A reservation, as the start of its request. -/
theorem safe_reserve {tenantId paymentAttemptId : Nat} {dto : CreateRefundDto} :
    (turning provider ok).Safe i (Discipline.Returns fun r w => Untouched i r.1.id w)
      (transact (.createRefund paymentAttemptId)
        (reserveRefund i tenantId paymentAttemptId dto) :
          Service (Refund × String × Nat)) w := by
  rw [← finish_done (transact _ _)]
  refine Discipline.safe_transact (D := turning provider ok) (fun w₁ r w₂ _ hinv _ h => ?_)
    (fun w₁ e _ _ _ _ => ⟨refundsMove_refl, Discipline.safe_throw e⟩)
  obtain ⟨refund, razorpayPaymentId, paymentAccountId⟩ := r
  obtain ⟨hmoves, hown⟩ := reserveRefund_moves h
  exact ⟨hmoves, fun _ => Discipline.safe_pure fun _ hl => hown.later hl⟩

theorem safe_createRefund {tenantId paymentAttemptId : Nat} {dto : CreateRefundDto}
    {answer : ProviderRefundAnswer} (hagrees : ∀ p ∈ provider, ∀ ℓ w, ok ℓ w → p.Agrees ℓ w)
    (hinv : RefundRows provider w) :
    (turning provider ok).Safe i (fun _ _ => True)
      (createRefund i tenantId paymentAttemptId dto answer) w := by
  refine Discipline.Safe.finish safe_reserve hinv fun w₁ r hinv₁ hown => ?_
  cases r with
  | error e => exact Discipline.safe_done fun _ _ _ => trivial
  | ok r => exact safe_callProviderAndSettle hagrees hinv₁ (hown r rfl)

theorem heeds_createRefund {p : RefundProvider} {tenantId paymentAttemptId : Nat}
    {dto : CreateRefundDto} {answer : ProviderRefundAnswer}
    (hagrees : ∀ ℓ w, ok ℓ w → p.Agrees ℓ w) (hinv : RefundRows (some p) w) :
    (turning (some p) ok).Heeds i AsHeard
      (createRefund i tenantId paymentAttemptId dto answer) w := by
  refine safe_reserve.finish_heeds hinv
    (within_transact (fun _ _ _ _ _ => trivial) fun _ _ _ _ _ _ _ _ => trivial)
    fun w₁ r hinv₁ hown => ?_
  cases r with
  | error e => trivial
  | ok r => exact heeds_callProviderAndSettle hagrees hinv₁ (hown r rfl)

/-! ## Every request -/

/-- Nobody records refunds by hand, and the provider, if one is given, agrees with itself. -/
def Concordant (provider : Option RefundProvider) (ℓ : Commit) (w : World) : Prop :=
  Unrecorded ℓ w ∧ ∀ p ∈ provider, p.Agrees ℓ w

instance (provider : Option RefundProvider) (ℓ : Commit) (w : World) :
    Decidable (Concordant provider ℓ w) :=
  inferInstanceAs (Decidable (_ ∧ ∀ p ∈ provider, _))

/-- What everybody but the refund service writes. -/
def TurnsOthers (provider : Option RefundProvider) (ℓ : Commit) (upd : World → World) : Prop :=
  ∀ w, Concordant provider ℓ w → OthersTurn provider w (upd w)

theorem turnsOthers_reopen : ReopenWrites (TurnsOthers provider) where
  reopenOrder _ _ w _ := applied_within (R := OthersTurn provider)
    (Slot.within_updateMany fun _ _ _ => othersTurn_of_eq rfl rfl) w
  logTransition _ _ w _ := applied_within (R := OthersTurn provider)
    (Slot.within_create fun _ _ _ => othersTurn_of_eq rfl rfl) w

theorem commits_others (n : Nat) (req : Request)
    (hrefund : ∀ tenantId paymentAttemptId dto answer,
      req ≠ .createRefund tenantId paymentAttemptId dto answer) :
    Commits (TurnsOthers provider) (handle gateway n req) := by
  have ordinary : ∀ {own} ℓ upd, Ordinary own ℓ upd → TurnsOthers provider ℓ upd :=
    fun ℓ upd h w hok => h.othersTurn hok.1 hok.2
  by_cases hpayment : ∃ userId orderId created, req = .initiatePayment userId orderId created
  · obtain ⟨userId, orderId, created, rfl⟩ := hpayment
    have payable : PayableWrites (TurnsOthers provider) :=
      ⟨fun orderId account => @ordinary none _ _ (.bindPaymentAccount orderId account),
        fun orderId rzp => @ordinary none _ _ (.associateRazorpayOrder orderId rzp),
        fun row hk hrow => @ordinary none _ _ (.openAttempt row hk hrow)⟩
    exact (commits_initiatePayment payable turnsOthers_reopen userId orderId created).bind
      fun _ => commits_pure _
  · refine (commits_handle_ordinary n req (fun userId orderId created he => ?_) hrefund).mono
      ordinary
    exact hpayment ⟨userId, orderId, created, he⟩

theorem safe_handle (req : Request) (hinv : RefundRows provider w) :
    (turning provider (Concordant provider)).Safe i (fun _ _ => True) (handle gateway i req) w := by
  by_cases hrefund : ∃ tenantId paymentAttemptId dto answer,
      req = .createRefund tenantId paymentAttemptId dto answer
  · obtain ⟨tenantId, paymentAttemptId, dto, answer, rfl⟩ := hrefund
    exact Discipline.Safe.bind_pure (safe_createRefund (fun p hp _ _ hok => hok.2 p hp) hinv) hinv
      fun _ _ _ _ => trivial
  · have hcommits : Commits (TurnsOthers provider) (handle gateway i req) := commits_others i req
      fun tenantId paymentAttemptId dto answer he =>
        hrefund ⟨tenantId, paymentAttemptId, dto, answer, he⟩
    exact Discipline.safe_of_within
      (hcommits.within (G := fun ℓ w w' => Concordant provider ℓ w → OthersTurn provider w w')
        fun ℓ upd w h => h w) fun ℓ w w' _ hok h => (h hok).moves

theorem heeds_handle {p : RefundProvider} {tenantId paymentAttemptId : Nat}
    {dto : CreateRefundDto} {answer : ProviderRefundAnswer} (hinv : RefundRows (some p) w) :
    (turning (some p) (Concordant (some p))).Heeds i AsHeard
      (handle gateway i (.createRefund tenantId paymentAttemptId dto answer)) w := by
  have h : (turning (some p) (Concordant (some p))).Heeds i AsHeard
      (createRefund i tenantId paymentAttemptId dto answer) w :=
    heeds_createRefund (fun ℓ w hok => hok.2 p rfl) hinv
  have hmap := h.map (g := Except.map Response.refund) (T := AsHeard)
    (fun ℓ s s' h t _ => h t (.error .recordNotFound)) fun ℓ s s' t r h => h
  rw [← Proc.map_def] at hmap
  exact hmap

/-! ## Events that find their row -/

/-- An event about a refund, for its row, on the account the refund went through. -/
structure AboutRefund (e : WebhookEvent) (account : Nat) (refundEntity : RazorpayRefundEntity)
    (r : Refund) : Prop where
  event : e.payload.event = refundProcessedEvent ∨ e.payload.event = refundFailedEvent
  entity : e.payload.refund = some refundEntity
  named : r.razorpayRefundId = some refundEntity.id
  bound : r.paymentAccountId = some account
  received : e.paymentAccountId = some account
  amount : e.payload.event = refundProcessedEvent → refundEntity.amount = some r.amountPaise

theorem settlePending_ok {f : Refund → Refund} {hf : ∀ r, Schema.key (f r) = Schema.key r}
    {r : Refund} (hr : r ∈ w.refunds) (hname : ∀ r, (f r).razorpayRefundId = r.razorpayRefundId)
    (hstatus : ∀ r, (f r).status ≠ .pending) :
    ∃ n t, (Db.refunds.updateMany (fun x => x.id = r.id && x.status = .pending) f hf :
        Transaction Nat) w = .ok (n, Db.refunds.set t w) ∧
      ∃ r', t.get r.id = some r' ∧ r'.status ≠ .pending := by
  cases h : (Db.refunds.updateMany (fun x => x.id = r.id && x.status = .pending) f hf :
      Transaction Nat) w with
  | error e =>
      refine absurd h (Slot.updateMany_ne_error fun a _ b _ hclash => ?_)
      have hsame : ∀ x : Refund, (if (decide (x.id = r.id) && decide (x.status = .pending)) = true
          then f x else x).razorpayRefundId = x.razorpayRefundId := by
        intro x
        split
        · exact hname x
        · rfl
      obtain ⟨hab, ha⟩ := hclash
      rw [hsame] at hab ha
      rw [hsame] at hab
      exact ⟨hab, ha⟩
  | ok res =>
      obtain ⟨n, w'⟩ := res
      obtain ⟨t, ht, -, rfl⟩ := Slot.updateMany_ok h
      have hget : w.refunds.get r.id = some r := Table.get_key hr
      have hrow : t.get r.id = (w.refunds.get r.id).map fun x =>
          if decide (x.id = r.id) && decide (x.status = .pending) then f x else x :=
        Table.get_update ht r.id
      rw [hget] at hrow
      refine ⟨n, t, rfl, _, hrow, ?_⟩
      by_cases hpending : r.status = .pending
      · simp [hpending, hstatus]
      · simp [hpending]

theorem applyRefundWebhookEvent_settles {e : WebhookEvent} {account : Nat}
    {refundEntity : RazorpayRefundEntity} {r : Refund} (hr : r ∈ w.refunds)
    (h : AboutRefund e account refundEntity r) :
    ∃ t, applyRefundWebhookEvent account e.payload w = .ok (.processed, Db.refunds.set t w) ∧
      ∃ r', t.get r.id = some r' ∧ r'.status ≠ .pending := by
  have hfound : w.refunds.findFirst (fun x => x.razorpayRefundId = some refundEntity.id) =
      some r := by
    refine Table.findFirst_eq_some hr (by simp [h.named]) fun x hx hp => ?_
    have hx' : x.razorpayRefundId = r.razorpayRefundId := by
      rw [h.named]
      simpa using hp
    exact Table.eq_of_clash hx hr ⟨hx', by rw [hx', h.named]; simp⟩
  unfold applyRefundWebhookEvent
  simp only [h.entity, query_transaction, Tx.bind_read, hfound, h.bound, ne_eq, not_true_eq_false,
    if_false]
  split
  · obtain ⟨n, t, hupd, hsettled⟩ := settlePending_ok
      (f := fun x => { x with
        status := .failed
        failureReason := some (refundEntity.errorDescription.getD "Refund failed") })
      hr (fun _ => rfl) (fun _ => by simp)
    refine ⟨t, ?_, hsettled⟩
    exact Tx.bind_ok.mpr ⟨n, _, hupd, rfl⟩
  · next hnot =>
    obtain ⟨n, t, hupd, hsettled⟩ := settlePending_ok
      (f := fun x => { x with status := .processed }) hr (fun _ => rfl) (fun _ => by simp)
    refine ⟨t, ?_, hsettled⟩
    have hbig : (bigInt refundEntity.amount : Transaction Int) w = .ok (r.amountPaise, w) := by
      rw [h.amount (h.event.resolve_right hnot)]
      rfl
    refine Tx.bind_ok.mpr ⟨r.amountPaise, _, hbig, ?_⟩
    rw [if_neg (fun hne => hne rfl)]
    exact Tx.bind_ok.mpr ⟨n, _, hupd, rfl⟩

/-- Processing such an event settles its row. -/
theorem processEvent_settlesRow {id : Nat} {e : WebhookEvent} {account : Nat}
    {refundEntity : RazorpayRefundEntity} {r : Refund} (hlock : lockedEvent id w = some e)
    (hr : r ∈ w.refunds) (h : AboutRefund e account refundEntity r) :
    ∃ r', (applied (processEvent id) w).refunds.get r.id = some r' ∧ r'.status ≠ .pending := by
  obtain ⟨t, happly, hsettled⟩ := applyRefundWebhookEvent_settles hr h
  have hget : w.webhookEvents.get id = some e := (Option.filter_eq_some_iff.mp hlock).1
  have hid : e.id = id := (Table.get_eq_some.mp hget).2
  have hstored : applyStoredEvent e w = .ok (.processed, Db.refunds.set t w) := by
    unfold applyStoredEvent applyMerchantWebhookEvent
    rw [h.received]
    dsimp only
    rw [if_pos h.event]
    exact happly
  have hsame : ∀ x : WebhookEvent, (if Schema.key x = e.id then
      { x with status := WebhookOutcome.processed.status } else x).razorpayEventId =
        x.razorpayEventId := by
    intro x
    split <;> rfl
  obtain ⟨t', hmark, -⟩ := Slot.exists_update_ok (T := Db.webhookEvents) (ε := ServiceError)
    (s := Db.refunds.set t w) (k := e.id)
    (f := fun e => { e with status := WebhookOutcome.processed.status }) (r := e) (hid ▸ hget)
    fun a _ b _ hclash => (hsame a).symm.trans (hclash.trans (hsame b))
  have hok : processEvent id w = .ok ((), Db.webhookEvents.set t' (Db.refunds.set t w)) := by
    unfold processEvent
    simp only [query_transaction, Tx.bind_read, hlock]
    exact Tx.bind_ok.mpr ⟨_, _, hstored, Tx.bind_ok.mpr ⟨_, _, hmark, rfl⟩⟩
  rw [applied_ok hok]
  exact hsettled

/-! ## Runs -/

/-- Settled rows stay, and so do the identifiers. -/
def RowsStay (w w' : World) : Prop := w.refunds.Evolves Refund.Stays w'.refunds

instance : Std.Refl RowsStay := ⟨fun _ => Table.evolves_refl _⟩

instance : IsTrans World RowsStay := ⟨fun _ _ _ => Table.Evolves.trans⟩

/-- A run of the payment system, whoever asks for whatever. -/
abbrev RefundRun (gateway : Gateway) (ok : Commit → World → Prop) :
    PaymentConfig → PaymentConfig → Prop :=
  Run (handle gateway) (fun _ _ => True) ok

variable {c c' : PaymentConfig} {paymentAccounts : Table PaymentAccount} {stores : Table Store}
variable {users : Table User}

theorem refundRows_initial :
    RefundRows provider (World.initial paymentAccounts stores users) where
  reserved_lt _ _ h := by cases h
  reserved_unique _ _ _ h := by cases h
  backed r hr := absurd hr (Table.not_mem_empty r)

theorem holds_turning
    (hrun : RefundRun gateway (Concordant provider) (.initial paymentAccounts stores users) c) :
    (turning provider (Concordant provider)).Holds (fun _ _ _ _ => True) c :=
  (Discipline.holds_idle refundRows_initial).run (Nat.zero_le _)
    (fun _ req _ _ hinv _ => safe_handle req hinv) hrun

theorem rowsStay_of_run (h : (turning provider (Concordant provider)).Holds
      (fun _ _ _ _ => True) c) (hrun : RefundRun gateway (Concordant provider) c c') :
    RowsStay c.state c'.state := by
  refine h.related (Nat.zero_le _) (fun _ req _ _ hinv _ => safe_handle req hinv)
    (fun i ℓ w w' hmoves r hr => ?_) hrun
  have hrows : RefundsMove provider i w w' := hmoves
  obtain ⟨r', hr', hkey, hturns⟩ := hrows.rows r hr
  exact ⟨r', hr', hkey, hturns.stays⟩

/-- Place `n` has asked Razorpay for the refund of row `k` and heard `result`, and has been
answered since. -/
def RefundAnswered (gateway : Gateway) (ok : Commit → World → Prop) (c₀ c : PaymentConfig)
    (n k : Nat) (result : MerchantRefundResult) : Prop :=
  ∃ a a' tenantId paymentAttemptId dto answer asked p, RefundRun gateway ok c₀ a ∧
    a.flights[n]? = some (.createRefund tenantId paymentAttemptId dto asked, p) ∧
    p.label = some (.callProvider k answer) ∧ answer.reply = .ok result ∧
    Advances ok n a a' ∧ RefundRun gateway ok a' c ∧ (c.answer n).isSome

/-- An event about row `k` has been processed when the row carried its identifier. -/
def RefundDelivered (gateway : Gateway) (ok : Commit → World → Prop) (c₀ c : PaymentConfig)
    (k : Nat) (razorpayRefundId : String) : Prop :=
  ∃ b b' j id e account refundEntity r, RefundRun gateway ok c₀ b ∧
    b.nextLabel j = some (.processWebhook id) ∧ Advances ok j b b' ∧ RefundRun gateway ok b' c ∧
    lockedEvent id b.state = some e ∧ b.state.refunds.get k = some r ∧
    AboutRefund e account refundEntity r ∧ r.razorpayRefundId = some razorpayRefundId

/-- The verdict has been reported, by the answer or by an event. -/
def RefundReported (gateway : Gateway) (ok : Commit → World → Prop) (c₀ c : PaymentConfig) (k : Nat)
    (result : MerchantRefundResult) : Prop :=
  result.status = "processed" ∨ result.status = "failed" ∨
    RefundDelivered gateway ok c₀ c k result.providerRefundId

theorem advances_processWebhook {ok : Commit → World → Prop} {b b' : PaymentConfig} {j id : Nat}
    (hrun : RefundRun gateway ok (.initial paymentAccounts stores users) b)
    (hlabel : b.nextLabel j = some (.processWebhook id)) (hstep : Advances ok j b b') :
    b'.state = applied (processEvent id) b.state := by
  obtain ⟨req, p, p', hj, hp, -, -⟩ := hstep
  have hnext : p.label = some (.processWebhook id) := by
    rw [Config.nextLabel, hj] at hlabel
    exact hlabel
  have hcommits : p.Commits Written :=
    listed_idle.run commits_handle hrun _ (List.mem_of_getElem? hj)
  cases p with
  | done r => cases hp
  | query next => cases hnext
  | commit ℓ upd next =>
      cases hnext
      have hstate : upd b.state = b'.state := congrArg Prod.snd (Option.some.inj hp)
      obtain ⟨hwritten, -⟩ := hcommits
      cases hwritten
      exact hstate.symm

/-- A row that is settled under an identifier is settled as the provider says of it. -/
theorem status_of_settled {p : RefundProvider} {k : Nat} {r : Refund} {x : String}
    (hinv : RefundRows (some p) w) (hget : w.refunds.get k = some r)
    (hname : r.razorpayRefundId = some x) (hs : r.status ≠ .pending) :
    r.status = (p.verdict x).status :=
  (hinv.backed r (Table.get_eq_some.mp hget).1 p rfl x hname).2 hs

theorem status_of_refundDelivered {p : RefundProvider} {k : Nat} {x : String}
    (h : RefundDelivered gateway (Concordant (some p)) (.initial paymentAccounts stores users) c
      k x) : ∃ r, c.state.refunds.get k = some r ∧ r.status = (p.verdict x).status := by
  obtain ⟨b, b', j, id, e, account, refundEntity, r, hbefore, hlabel, hstep, hafter, hlock, hget,
    habout, hname⟩ := h
  obtain ⟨hmem, hid⟩ := Table.get_eq_some.mp hget
  have hid : r.id = k := hid
  have hb := holds_turning hbefore
  have hmove : RefundRun gateway (Concordant (some p)) b b' := .single hstep.step
  have hb' := holds_turning (hbefore.trans hmove)
  -- processing settles the row, and neither that nor the name is taken back
  obtain ⟨r₁, hget₁, hs⟩ := processEvent_settlesRow hlock hmem habout
  rw [← advances_processWebhook hbefore hlabel hstep, hid] at hget₁
  obtain ⟨r₂, hget₂, hstays⟩ := (rowsStay_of_run hb hmove).get hget
  obtain rfl : r₁ = r₂ := Option.some.inj (hget₁.symm.trans hget₂)
  obtain ⟨r₃, hget₃, hstays₃⟩ := (rowsStay_of_run hb' hafter).get hget₁
  obtain rfl := hstays₃.settled hs
  exact ⟨r₃, hget₃, status_of_settled (holds_turning ((hbefore.trans hmove).trans hafter)).inv
    hget₃ (hstays.named x hname) hs⟩

/-- Settled rows never change, and an identifier is given once. If the provider comes to one
verdict on each refund, then a refund whose answer has reached its request carries the identifier,
and has the verdict as soon as it has been reported. -/
theorem refund_ends_with_verdict (gateway : Gateway) (paymentAccounts : Table PaymentAccount)
    (stores : Table Store) (users : Table User) :
    (∀ c c', RefundRun gateway Unrecorded (.initial paymentAccounts stores users) c →
      RefundRun gateway Unrecorded c c' → RowsStay c.state c'.state) ∧
    ∀ (p : RefundProvider) (c : PaymentConfig) (n k : Nat) (result : MerchantRefundResult),
      RefundAnswered gateway (Concordant (some p)) (.initial paymentAccounts stores users) c n k
        result →
      ∃ r, c.state.refunds.get k = some r ∧
        (result.status ≠ "failed" → r.razorpayRefundId = some result.providerRefundId) ∧
        (RefundReported gateway (Concordant (some p)) (.initial paymentAccounts stores users) c k
            result →
          r.status = (p.verdict result.providerRefundId).status) := by
  refine ⟨fun c c' hbefore hafter => ?_, fun p c n k result hanswered => ?_⟩
  · have hok : ∀ ℓ w, Unrecorded ℓ w → Concordant none ℓ w := fun ℓ w h => ⟨h, fun p hp => by
      cases hp⟩
    have hrun := hbefore.mono (fun _ _ h => h) hok
    exact rowsStay_of_run (holds_turning hrun) (hafter.mono (fun _ _ h => h) hok)
  · obtain ⟨a, a', tenantId, paymentAttemptId, dto, answer, asked, q, hbefore, hflight, hlabel,
      hreply, hstep, hafter, hend⟩ := hanswered
    obtain ⟨⟨req, outcome⟩, hend⟩ := Option.isSome_iff_exists.mp hend
    have hagrees : Concordant (some p) (.callProvider k answer) a.state := by
      obtain ⟨req', q', q'', hflight', -, hok, -⟩ := hstep
      cases hflight.symm.trans hflight'
      exact hok _ hlabel
    have hmove : RefundRun gateway (Concordant (some p)) a a' := .single hstep.step
    have hheard : Heard k answer c.state := by
      obtain ⟨q', hlater⟩ := Run.flight_later (hmove.trans hafter) hflight
      cases hlater.symm.trans (Config.flight_of_answer hend)
      exact Discipline.Heeds.outcome (D := turning (some p) (Concordant (some p))) (Q := AsHeard)
        (P := fun req => ∃ tenantId attemptId dto answer,
          req = .createRefund tenantId attemptId dto answer)
        (fun i req w hinv _ => safe_handle req hinv)
        (fun i req w hreq hinv _ => by
          obtain ⟨tenantId, attemptId, dto, answer, rfl⟩ := hreq
          exact heeds_handle hinv)
        refundRows_initial hbefore hflight hlabel ⟨_, _, _, _, rfl⟩ hstep hafter
        (Config.flight_of_answer hend)
    obtain ⟨r, hget, hfailed, hprocessed, hname⟩ := hheard result hreply
    refine ⟨r, hget, hname, fun hreported => ?_⟩
    have hsays : p.Answers k answer := hagrees.2 p rfl
    unfold RefundProvider.Answers at hsays
    rw [hreply] at hsays
    obtain hs | hs | hdelivered := hreported
    · rw [hprocessed hs, hsays.2.1 hs]
      rfl
    · rw [hfailed hs, hsays.2.2 hs]
      rfl
    · obtain ⟨r', hget', hs⟩ := status_of_refundDelivered hdelivered
      cases hget.symm.trans hget'
      exact hs

/-- All refunds of this provider are of row 0, and are processed. -/
def processingProvider : RefundProvider := ⟨fun _ => 0, fun _ => .processed⟩

/-- A request for a refund that is about to ask Razorpay, and will hear `result`. -/
def asksRazorpay (k : Nat) (result : MerchantRefundResult) : Request × Service Response → Bool
  | (.createRefund _ _ _ _, p) =>
      match p.label with
      | some (.callProvider refundId ⟨_, .ok heard⟩) => refundId = k && heard = result
      | _ => false
  | _ => false

theorem asks_of_asksRazorpay {k : Nat} {result : MerchantRefundResult} {req : Request}
    {q : Service Response} (h : asksRazorpay k result (req, q) = true) :
    (∃ tenantId paymentAttemptId dto asked,
      req = .createRefund tenantId paymentAttemptId dto asked) ∧
      ∃ answer, q.label = some (.callProvider k answer) ∧ answer.reply = .ok result := by
  unfold asksRazorpay at h
  split at h
  · next tenantId paymentAttemptId dto asked p he =>
    cases he
    split at h
    · next refundId accepted heard hlabel =>
      obtain ⟨hk, hr⟩ := Bool.and_eq_true_iff.mp h
      obtain rfl := of_decide_eq_true hk
      obtain rfl := of_decide_eq_true hr
      exact ⟨⟨_, _, _, _, rfl⟩, _, hlabel, rfl⟩
    · cases h
  · cases h

def processesEvent (id : Nat) : Option Commit → Bool
  | some (.processWebhook id') => id' = id
  | _ => false

theorem eq_of_processesEvent {id : Nat} {ℓ : Option Commit} (h : processesEvent id ℓ = true) :
    ℓ = some (.processWebhook id) := by
  unfold processesEvent at h
  split at h
  · exact congrArg (fun id => some (Commit.processWebhook id)) (of_decide_eq_true h)
  · cases h

/-- Razorpay takes the refund on, and reports later that it is done. -/
theorem refund_ends_with_verdict_reported :
    ∃ (c : PaymentConfig) (r : Refund), c.state.refunds.get 0 = some r ∧
      r.razorpayRefundId = some "rfnd_1" ∧ r.status = .processed := by
  let answer : ProviderRefundAnswer := ⟨some "rfnd_1", .ok ⟨"rfnd_1", "pending"⟩⟩
  let ok := Concordant (some processingProvider)
  have hrun : (exec (handle refundGateway) (fun _ _ => True) ok (exampleOrder ++
      serve 2 (.verifyPayment 0 ⟨"order_1", "pay_1", "signature"⟩) 5 ++
      serve 3 (.receiveMerchantWebhook 0 "rfnd_1" "signature" none 0) 3 ++
      serve 4 (refundFirst 5000 answer) 3) exampleStart).any (fun a =>
        a.flights[4]?.any (asksRazorpay 0 ⟨"rfnd_1", "pending"⟩) &&
          (act (handle refundGateway) (fun _ _ => True) ok (.advance 4) a).any fun a' =>
            (exec (handle refundGateway) (fun _ _ => True) ok
              ([.advance 4, .advance 4] ++ serve 5 (.processOne 0 0) 0) a').any fun b =>
                processesEvent 0 (b.nextLabel 5) &&
                (lockedEvent 0 b.state).any (fun e => (b.state.refunds.get 0).any fun r =>
                  decide (e.payload.event = refundProcessedEvent ∧
                    e.payload.refund = some ⟨"rfnd_1", some 5000, none⟩ ∧
                    e.paymentAccountId = some 0 ∧ r.razorpayRefundId = some "rfnd_1" ∧
                    r.paymentAccountId = some 0 ∧ r.amountPaise = 5000)) &&
                (act (handle refundGateway) (fun _ _ => True) ok (.advance 5) b).any fun c =>
                  (c.answer 4).isSome) = true := by
    decide +kernel
  obtain ⟨a, hbefore, h⟩ := exec_any hrun
  obtain ⟨hasks, h⟩ := Bool.and_eq_true_iff.mp h
  obtain ⟨⟨req, q⟩, hflight, hasks⟩ := (Option.any_eq_true ..).mp hasks
  obtain ⟨a', hask, h⟩ := (Option.any_eq_true ..).mp h
  obtain ⟨b, hbetween, h⟩ := exec_any h
  obtain ⟨h, hlast⟩ := Bool.and_eq_true_iff.mp h
  obtain ⟨hlabel, h⟩ := Bool.and_eq_true_iff.mp h
  obtain ⟨e, hlock, h⟩ := (Option.any_eq_true ..).mp h
  obtain ⟨r, hget, h⟩ := (Option.any_eq_true ..).mp h
  obtain ⟨hevent, hentity, hreceived, hname, hbound, hamount⟩ := of_decide_eq_true h
  obtain ⟨c, hprocess, hend⟩ := (Option.any_eq_true ..).mp hlast
  have hmove : Step (handle refundGateway) (fun _ _ => True) ok a a' := (act_advances hask).step
  have hdone : Step (handle refundGateway) (fun _ _ => True) ok b c := (act_advances hprocess).step
  have hdelivered : RefundDelivered refundGateway ok exampleStart c 0 "rfnd_1" := by
    have habout : AboutRefund e 0 ⟨"rfnd_1", some 5000, none⟩ r :=
      ⟨.inl hevent, hentity, hname, hbound, hreceived, fun _ => by rw [hamount]⟩
    exact ⟨b, c, 5, 0, e, 0, _, r, (hbefore.tail hmove).trans hbetween,
      eq_of_processesEvent hlabel, act_advances hprocess, .refl, hlock, hget, habout, hname⟩
  obtain ⟨⟨tenantId, paymentAttemptId, dto, asked, rfl⟩, answer, hasked, hreply⟩ :=
    asks_of_asksRazorpay hasks
  obtain ⟨r', hget', hname', hverdict⟩ :=
    (refund_ends_with_verdict refundGateway exampleAccounts exampleStores exampleUsers).2
      processingProvider c 4 0 ⟨"rfnd_1", "pending"⟩
      ⟨a, a', _, _, _, answer, _, _, hbefore, hflight, hasked, hreply, act_advances hask,
        hbetween.tail hdone, hend⟩
  exact ⟨c, r', hget', hname' (by decide), hverdict (.inr (.inr hdelivered))⟩

end PrintForge
