import PrintForge.Payments.System

/-!
# Every write of the payment system

`Written` lists, for each label, the writes that a service may commit under it. The services
are walked through once, here; a property of every write of every run is then shown case by
case over the list, without looking at the processes again.
-/

namespace PrintForge

open Relational Concurrent Proc

/-- A stored event keeps its event id and what was delivered. -/
def WebhookEvent.SameDelivery (a b : WebhookEvent) : Prop :=
  b.razorpayEventId = a.razorpayEventId ∧ b.payload = a.payload

instance : Std.Refl WebhookEvent.SameDelivery := ⟨fun _ => ⟨rfl, rfl⟩⟩

instance : IsTrans WebhookEvent WebhookEvent.SameDelivery :=
  ⟨fun _ _ _ h h' => ⟨h'.1.trans h.1, h'.2.trans h.2⟩⟩

/-- The writes the services make, each under its label. -/
inductive Written : Commit → (World → World) → Prop
  | checkout (data : CheckoutOrder) : Written .checkout (applied (createOrder data))
  | verifyPayment (userId : Nat) (order : Order) (existingByPaymentId : Option PaymentAttempt)
      (dto : VerifyPaymentDto) (h : order.razorpayOrderId = some dto.razorpayOrderId) :
      Written (.verifyPayment order existingByPaymentId dto.razorpayPaymentId)
        (applied (capturePayment userId order existingByPaymentId dto))
  | processWebhook (id : Nat) : Written (.processWebhook id) (applied (processEvent id))
  | reconcileCapturedPayment (order : Order) (captured : RazorpayOrderPayment) :
      Written (.reconcileCapturedPayment order) (applied (recordReconciled order captured))
  | failStalePendingOrder (order : Order) :
      Written (.failStalePendingOrder order) (applied (expirePendingOrder order))
  | performCancellation (order : Order) (capturedAttempt : Option PaymentAttempt)
      (actor : Actor) (reason : Option String) :
      Written (.performCancellation order capturedAttempt)
        (applied (recordCancellation order capturedAttempt actor reason))
  | performRefundRecording (order : Order) (actor : Actor) (reason : Option String) :
      Written (.performRefundRecording order) (applied (recordRefund order actor reason))
  | adminTransitionStatus (order : Order) (status : OrderStatus) (actor : Actor)
      (reason : Option String) :
      Written (.adminTransitionStatus order status)
        (applied (transitionOrderWithHistory order status actor reason false))
  | createRefund (request tenantId paymentAttemptId : Nat) (dto : CreateRefundDto) :
      Written (.createRefund paymentAttemptId)
        (applied (reserveRefund request tenantId paymentAttemptId dto))
  | callProvider (refund : Refund) (providerPaymentId : String)
      (answer : ProviderRefundAnswer) :
      Written (.callProvider refund.id answer)
        (applied (bookProviderRefund refund providerPaymentId answer))
  | reopenOrder (order : Order) (h : order.status = .paymentFailed) :
      Written .statement (applied (Db.orders.updateMany
        (fun o => o.id = order.id && o.status = order.status)
        fun o => { o with status := .pendingPayment } : Transaction Nat))
  | logTransition (row : Nat → OrderStatusHistory) (hk : ∀ k, Schema.key (row k) = k) :
      Written .statement (applied (Db.orderStatusHistory.create row hk :
        Transaction OrderStatusHistory))
  | bindPaymentAccount (orderId paymentAccountId : Nat) :
      Written .statement (applied (Db.orders.updateMany
        (fun o => o.id = orderId && o.paymentAccountId = none)
        fun o => { o with paymentAccountId := some paymentAccountId } : Transaction Nat))
  | associateRazorpayOrder (orderId : Nat) (razorpayOrderId : String) :
      Written .statement (applied (Db.orders.updateMany
        (fun o => o.id = orderId && o.razorpayOrderId = none)
        fun o => { o with razorpayOrderId := some razorpayOrderId } : Transaction Nat))
  | openAttempt (row : Nat → PaymentAttempt) (hk : ∀ k, Schema.key (row k) = k)
      (h : ∀ k, (row k).status = .initiated ∧ (row k).razorpayPaymentId = none) :
      Written .statement (applied (Db.paymentAttempts.create row hk :
        Transaction PaymentAttempt))
  | insertWebhookEvent (razorpayEventId : String) (payload : RazorpayWebhookPayload)
      (paymentAccountId : Option Nat) (now : Nat) :
      Written .statement
        (applied (insertWebhookEvent razorpayEventId payload paymentAccountId now))
  | safeUpdate (id : Nat) (data : WebhookEvent → WebhookEvent)
      (hk : ∀ e, Schema.key (data e) = Schema.key e)
      (h : ∀ e : WebhookEvent, e.SameDelivery (data e)) :
      Written .statement (applied (Db.webhookEvents.update id data hk :
        Transaction WebhookEvent))
  | settleRefund (p : Refund → Bool) (f : Refund → Refund)
      (hk : ∀ r, Schema.key (f r) = Schema.key r) :
      Written .statement (applied (Db.refunds.updateMany p f hk : Transaction Nat))
  | administer (paymentAccounts : Table PaymentAccount) (stores : Table Store)
      (users : Table User) :
      Written .statement (applied (administer paymentAccounts stores users))
  | failProviderRefund (razorpayRefundId : String) :
      Written .statement (applied (failProviderRefund razorpayRefundId))

variable {α : Type} {gateway : Gateway} {w w' : World}

theorem applied_within {R : World → World → Prop} [Std.Refl R] {tx : Transaction α}
    (h : Tx.Within R tx) (w : World) : R w (applied tx w) := by
  cases htx : tx w with
  | ok r =>
      rw [applied_ok htx]
      exact h htx
  | error e =>
      rw [applied_error htx]
      exact Std.Refl.refl w

/-- Storing an event adds one row at most. -/
theorem insertWebhookEvent_within {R : World → World → Prop} [Std.Refl R] [IsTrans World R]
    {razorpayEventId : String} {payload : RazorpayWebhookPayload} {paymentAccountId : Option Nat}
    {now : Nat} (h : ∀ {w t row hk}, w.webhookEvents.create row hk = some t →
      R w (Db.webhookEvents.set t w)) :
    Tx.Within R (insertWebhookEvent razorpayEventId payload paymentAccountId now) :=
  Tx.within_bind (Slot.within_createOrIgnore fun _ _ ht => h ht) fun _ => Tx.within_pure _

/-! ## Statements that leave the course of an order alone -/

/-- Every order keeps its status, and its history. -/
def SameCourse (w w' : World) : Prop :=
  (∀ o, (w'.orders.get o).map (·.status) = (w.orders.get o).map (·.status)) ∧
    w'.orderStatusHistory = w.orderStatusHistory

theorem sameCourse_of_eq (ho : w'.orders = w.orders)
    (hh : w'.orderStatusHistory = w.orderStatusHistory) : SameCourse w w' :=
  ⟨fun o => by rw [ho], hh⟩

instance : Std.Refl SameCourse := ⟨fun _ => sameCourse_of_eq rfl rfl⟩

instance : IsTrans World SameCourse :=
  ⟨fun _ _ _ h h' => ⟨fun o => (h'.1 o).trans (h.1 o), h'.2.trans h.2⟩⟩

/-- A listed write that, as a single statement, leaves the course of every order alone. -/
structure Plain (ℓ : Commit) (upd : World → World) : Prop where
  written : Written ℓ upd
  course : ℓ = .statement → ∀ w, SameCourse w (upd w)

theorem Written.plain {ℓ : Commit} {upd : World → World} (h : Written ℓ upd)
    (hℓ : ℓ ≠ .statement) : Plain ℓ upd :=
  ⟨h, fun he => absurd he hℓ⟩

theorem Written.plain_of_within {tx : Transaction α} (h : Written .statement (applied tx))
    (htx : Tx.Within SameCourse tx) : Plain .statement (applied tx) :=
  ⟨h, fun _ => applied_within htx⟩

/-- An update of orders that does not change their status. -/
theorem within_keepStatus {p : Order → Bool} {f : Order → Order} {hf}
    (h : ∀ o, (f o).status = o.status) :
    Tx.Within SameCourse (Db.orders.updateMany p f hf : Transaction Nat) := by
  refine Slot.within_updateMany fun w t ht => ⟨fun o => ?_, rfl⟩
  have hget : t.get o = (w.orders.get o).map fun r => if p r then f r else r :=
    Table.get_update ht o
  change (t.get o).map _ = _
  rw [hget]
  cases w.orders.get o with
  | none => rfl
  | some order => by_cases hp : p order <;> simp [hp, h]

theorem plain_bindPaymentAccount (orderId paymentAccountId : Nat) :
    Plain .statement (applied (Db.orders.updateMany
      (fun o => o.id = orderId && o.paymentAccountId = none)
      fun o => { o with paymentAccountId := some paymentAccountId } : Transaction Nat)) :=
  (Written.bindPaymentAccount orderId paymentAccountId).plain_of_within
    (within_keepStatus fun _ => rfl)

theorem plain_associateRazorpayOrder (orderId : Nat) (razorpayOrderId : String) :
    Plain .statement (applied (Db.orders.updateMany
      (fun o => o.id = orderId && o.razorpayOrderId = none)
      fun o => { o with razorpayOrderId := some razorpayOrderId } : Transaction Nat)) :=
  (Written.associateRazorpayOrder orderId razorpayOrderId).plain_of_within
    (within_keepStatus fun _ => rfl)

theorem plain_openAttempt (row : Nat → PaymentAttempt) (hk : ∀ k, Schema.key (row k) = k)
    (h : ∀ k, (row k).status = .initiated ∧ (row k).razorpayPaymentId = none) :
    Plain .statement (applied (Db.paymentAttempts.create row hk : Transaction PaymentAttempt)) :=
  (Written.openAttempt row hk h).plain_of_within
    (Slot.within_create fun _ _ _ => sameCourse_of_eq rfl rfl)

theorem plain_insertWebhookEvent (razorpayEventId : String) (payload : RazorpayWebhookPayload)
    (paymentAccountId : Option Nat) (now : Nat) :
    Plain .statement
      (applied (insertWebhookEvent razorpayEventId payload paymentAccountId now)) :=
  (Written.insertWebhookEvent razorpayEventId payload paymentAccountId now).plain_of_within
    (insertWebhookEvent_within fun _ => sameCourse_of_eq rfl rfl)

theorem plain_safeUpdate (id : Nat) (data : WebhookEvent → WebhookEvent)
    (hk : ∀ e, Schema.key (data e) = Schema.key e)
    (h : ∀ e : WebhookEvent, e.SameDelivery (data e)) :
    Plain .statement (applied (Db.webhookEvents.update id data hk : Transaction WebhookEvent)) :=
  (Written.safeUpdate id data hk h).plain_of_within
    (Slot.within_update fun _ _ _ => sameCourse_of_eq rfl rfl)

theorem plain_settleRefund (p : Refund → Bool) (f : Refund → Refund)
    (hk : ∀ r, Schema.key (f r) = Schema.key r) :
    Plain .statement (applied (Db.refunds.updateMany p f hk : Transaction Nat)) :=
  (Written.settleRefund p f hk).plain_of_within
    (Slot.within_updateMany fun _ _ _ => sameCourse_of_eq rfl rfl)

theorem plain_administer (paymentAccounts : Table PaymentAccount) (stores : Table Store)
    (users : Table User) : Plain .statement (applied (administer paymentAccounts stores users)) :=
  ⟨.administer paymentAccounts stores users, fun _ _ => sameCourse_of_eq rfl rfl⟩

theorem plain_failProviderRefund (razorpayRefundId : String) :
    Plain .statement (applied (failProviderRefund razorpayRefundId)) :=
  ⟨.failProviderRefund razorpayRefundId, fun _ _ => sameCourse_of_eq rfl rfl⟩

/-- The stored event that a request deals with. -/
def ownEvent : Request → Option Nat
  | .processOne id _ => some id
  | _ => none

/-- The writes of a service, except for the reservation of a refund and the single statements
that reopen an order or settle a refund. Only the stored event `own` is processed. -/
inductive Ordinary (own : Option Nat) : Commit → (World → World) → Prop
  | transaction {ℓ : Commit} {upd : World → World} (h : Written ℓ upd) (hℓ : ℓ ≠ .statement)
      (hrefund : ∀ paymentAttemptId, ℓ ≠ .createRefund paymentAttemptId)
      (hown : ∀ id, ℓ = .processWebhook id → own = some id) : Ordinary own ℓ upd
  | bindPaymentAccount (orderId paymentAccountId : Nat) :
      Ordinary own .statement (applied (Db.orders.updateMany
        (fun o => o.id = orderId && o.paymentAccountId = none)
        fun o => { o with paymentAccountId := some paymentAccountId } : Transaction Nat))
  | associateRazorpayOrder (orderId : Nat) (razorpayOrderId : String) :
      Ordinary own .statement (applied (Db.orders.updateMany
        (fun o => o.id = orderId && o.razorpayOrderId = none)
        fun o => { o with razorpayOrderId := some razorpayOrderId } : Transaction Nat))
  | openAttempt (row : Nat → PaymentAttempt) (hk : ∀ k, Schema.key (row k) = k)
      (h : ∀ k, (row k).status = .initiated ∧ (row k).razorpayPaymentId = none) :
      Ordinary own .statement (applied (Db.paymentAttempts.create row hk :
        Transaction PaymentAttempt))
  | insertWebhookEvent (razorpayEventId : String) (payload : RazorpayWebhookPayload)
      (paymentAccountId : Option Nat) (now : Nat) :
      Ordinary own .statement
        (applied (insertWebhookEvent razorpayEventId payload paymentAccountId now))
  | safeUpdate (id : Nat) (data : WebhookEvent → WebhookEvent)
      (hk : ∀ e, Schema.key (data e) = Schema.key e)
      (h : ∀ e : WebhookEvent, e.SameDelivery (data e))
      (hown : own = some id) :
      Ordinary own .statement (applied (Db.webhookEvents.update id data hk :
        Transaction WebhookEvent))
  | administer (paymentAccounts : Table PaymentAccount) (stores : Table Store)
      (users : Table User) :
      Ordinary own .statement (applied (administer paymentAccounts stores users))
  | failProviderRefund (razorpayRefundId : String) :
      Ordinary own .statement (applied (failProviderRefund razorpayRefundId))

/-- An ordinary write leaves the course of every order alone, unless it is a whole transaction. -/
theorem Ordinary.plain {own : Option Nat} {ℓ : Commit} {upd : World → World}
    (h : Ordinary own ℓ upd) : Plain ℓ upd := by
  cases h with
  | transaction h hℓ hrefund hown => exact h.plain hℓ
  | bindPaymentAccount orderId paymentAccountId => exact plain_bindPaymentAccount _ _
  | associateRazorpayOrder orderId razorpayOrderId => exact plain_associateRazorpayOrder _ _
  | openAttempt row hk h => exact plain_openAttempt row hk h
  | insertWebhookEvent razorpayEventId payload paymentAccountId now =>
      exact plain_insertWebhookEvent _ _ _ _
  | safeUpdate id data hk h hown => exact plain_safeUpdate id data hk h
  | administer paymentAccounts stores users => exact plain_administer _ _ _
  | failProviderRefund razorpayRefundId => exact plain_failProviderRefund _

section Lookups

variable {K : Commit → (World → World) → Prop}

/-- A statement on its own is a transaction of its own. -/
theorem commits_execute {tx : Transaction α} (h : K .statement (applied tx)) :
    Commits K (execute tx : Service α) :=
  commits_transact h

theorem commits_query (f : World → α) : Commits K (query f : Service α) :=
  commits_read f

/-! ## Reads -/

theorem commits_findUniqueOrderOrThrow (id : Nat) :
    Commits K (findUniqueOrderOrThrow id) := by
  apply (commits_query _).bind
  intro found
  cases found with
  | none => exact commits_throw _
  | some order => exact commits_pure _

theorem commits_findOrderOrThrow (id : Nat) : Commits K (findOrderOrThrow id) := by
  apply (commits_query _).bind
  intro found
  cases found with
  | none => exact commits_throw _
  | some order => exact commits_pure _

theorem commits_resolveForBoundAccount (tenantId id : Nat) :
    Commits K (resolveForBoundAccount tenantId id : Service ResolvedPaymentAccount) := by
  apply (commits_query _).bind
  intro found
  cases found with
  | none => exact commits_throw _
  | some account =>
      dsimp only
      split
      · exact commits_throw _
      · exact commits_pure _

theorem commits_resolveBoundAccountOrFail (tenantId id : Nat) :
    Commits K (resolveBoundAccountOrFail tenantId id : Service ResolvedPaymentAccount) := by
  apply (commits_resolveForBoundAccount tenantId id).tryCatch
  intro err
  cases err <;> exact commits_throw _

theorem commits_resolveForStore (tenantId storeId : Nat) (provider : PaymentProviderType) :
    Commits K (resolveForStore tenantId storeId provider :
      Service ResolvedPaymentAccount) := by
  apply Commits.bind
  · apply (commits_query _).bind
    intro store
    split
    · exact commits_throw _
    · exact commits_pure _
  · intro _
    apply (commits_query _).bind
    intro found
    cases found with
    | none => exact commits_throw _
    | some account =>
        dsimp only
        split
        · exact commits_throw _
        · split
          · exact commits_throw _
          · exact commits_pure _

theorem commits_resolveForWebhook (id : Nat) :
    Commits K (resolveForWebhook id : Service (ResolvedPaymentAccount × Nat)) := by
  apply (commits_query _).bind
  intro found
  cases found with
  | none => exact commits_throw _
  | some account => exact commits_pure _

theorem commits_getEncryptedCredentials (tenantId id : Nat) :
    Commits K (getEncryptedCredentials tenantId id : Service (Option String)) := by
  apply (commits_query _).bind
  intro found
  cases found with
  | none => exact commits_throw _
  | some account =>
      dsimp only
      split
      · exact commits_throw _
      · exact commits_pure _

end Lookups

variable {own : Option Nat}

/-- A whole transaction other than the reservation of a refund. -/
theorem commits_transaction {ℓ : Commit} {tx : Transaction α} (h : Written ℓ (applied tx))
    (hℓ : ℓ ≠ .statement := by simp)
    (hrefund : ∀ paymentAttemptId, ℓ ≠ .createRefund paymentAttemptId := by simp)
    (hown : ∀ id, ℓ = .processWebhook id → own = some id := by simp) :
    Commits (Ordinary own) (Proc.transact ℓ tx : Service α) :=
  commits_transact (.transaction h hℓ hrefund hown)

/-! ## Payments -/

/-- The statements that reopen an order are among the writes. -/
structure ReopenWrites (K : Commit → (World → World) → Prop) : Prop where
  reopenOrder : ∀ order : Order, order.status = .paymentFailed →
    K .statement (applied (Db.orders.updateMany
      (fun o => o.id = order.id && o.status = order.status)
      fun o => { o with status := .pendingPayment } : Transaction Nat))
  logTransition : ∀ (row : Nat → OrderStatusHistory) (hk : ∀ k, Schema.key (row k) = k),
    K .statement (applied (Db.orderStatusHistory.create row hk :
      Transaction OrderStatusHistory))

theorem commits_reopenOrder {K : Commit → (World → World) → Prop} (hK : ReopenWrites K)
    (order : Order) (userId : Nat) : Commits K (reopenOrder order userId) := by
  unfold reopenOrder
  split
  · next hfailed =>
    apply Commits.bind
    · unfold transitionOrder
      split
      · exact commits_throw _
      · apply (commits_execute (hK.reopenOrder order hfailed)).bind
        intro count
        split
        · exact commits_pure _
        · exact (commits_execute (hK.logTransition _ _)).bind fun _ => commits_pure _
    · intro transitioned
      cases transitioned with
      | none => exact commits_findUniqueOrderOrThrow _
      | some reopened => exact commits_pure _
  · exact commits_pure _

/-- The statements that prepare a payment are among the writes. -/
structure PayableWrites (K : Commit → (World → World) → Prop) : Prop where
  bindPaymentAccount : ∀ orderId paymentAccountId,
    K .statement (applied (Db.orders.updateMany
      (fun o => o.id = orderId && o.paymentAccountId = none)
      fun o => { o with paymentAccountId := some paymentAccountId } : Transaction Nat))
  associateRazorpayOrder : ∀ orderId razorpayOrderId,
    K .statement (applied (Db.orders.updateMany
      (fun o => o.id = orderId && o.razorpayOrderId = none)
      fun o => { o with razorpayOrderId := some razorpayOrderId } : Transaction Nat))
  openAttempt : ∀ (row : Nat → PaymentAttempt) (hk : ∀ k, Schema.key (row k) = k),
    (∀ k, (row k).status = .initiated ∧ (row k).razorpayPaymentId = none) →
      K .statement (applied (Db.paymentAttempts.create row hk : Transaction PaymentAttempt))

theorem payableWrites_plain : PayableWrites Plain :=
  ⟨plain_bindPaymentAccount, plain_associateRazorpayOrder, plain_openAttempt⟩

section Payable

variable {K : Commit → (World → World) → Prop}

theorem commits_bindPaymentAccount (hK : PayableWrites K) (order : Order) :
    Commits K (bindPaymentAccount order) := by
  unfold bindPaymentAccount
  split
  · exact (commits_resolveBoundAccountOrFail _ _).bind fun _ => commits_pure _
  · exact commits_throw _
  · apply Commits.tryCatch
    · apply (commits_resolveForStore _ _ _).bind
      intro resolved
      apply (commits_execute (hK.bindPaymentAccount _ _)).bind
      intro count
      split
      · exact commits_pure _
      · apply (commits_findUniqueOrderOrThrow _).bind
        intro fresh
        split
        · exact commits_throw _
        · exact (commits_resolveBoundAccountOrFail _ _).bind fun _ => commits_pure _
    · intro err
      cases err <;> exact commits_throw _

theorem commits_associateRazorpayOrder (hK : PayableWrites K) (order : Order)
    (created : Except ServiceError String) :
    Commits K (associateRazorpayOrder order created) := by
  unfold associateRazorpayOrder
  split
  · exact commits_pure _
  · split
    · exact commits_throw _
    · apply (commits_execute (hK.associateRazorpayOrder _ _)).bind
      intro count
      split
      · exact commits_pure _
      · apply (commits_findUniqueOrderOrThrow _).bind
        intro fresh
        split
        · exact commits_pure _
        · exact commits_throw _

/-- Paying for an order that is payable. -/
theorem commits_payable (hK : PayableWrites K) (gateway : Gateway) (order : Order)
    (created : Except ServiceError String) :
    Commits K (do
      let (order, resolvedAccount) ← bindPaymentAccount order
      let credentials ← getEncryptedCredentials order.tenantId resolvedAccount.paymentAccountId
      match credentials with
      | none => throw .merchantPaymentUnavailable
      | some encryptedCredentials =>
          let razorpayOrderId ← associateRazorpayOrder order created
          let amountPaise := decimalToPaise order.total
          let attempt ← execute (Db.paymentAttempts.create fun id =>
            { id, orderId := order.id, razorpayOrderId, razorpayPaymentId := none, amountPaise
              currency := order.currency, status := .initiated, failureCode := none
              failureReason := none, method := none, tenantId := order.tenantId
              paymentAccountId := some resolvedAccount.paymentAccountId })
          return {
            paymentAttemptId := attempt.id
            razorpayOrderId
            razorpayKeyId := gateway.publicKeyId encryptedCredentials
            amountPaise
            currency := order.currency } : Service InitiatePaymentView) := by
  apply (commits_bindPaymentAccount hK _).bind
  rintro ⟨order, resolved⟩
  apply (commits_getEncryptedCredentials _ _).bind
  intro credentials
  cases credentials with
  | none => exact commits_throw _
  | some credentials =>
      apply (commits_associateRazorpayOrder hK _ _).bind
      intro razorpayOrderId
      apply (commits_execute (hK.openAttempt _ _ fun _ => ⟨rfl, rfl⟩)).bind
      exact fun _ => commits_pure _

theorem commits_initiatePayment (hpayable : PayableWrites K) (hreopen : ReopenWrites K)
    (userId orderId : Nat) (created : Except ServiceError String) :
    Commits K (initiatePayment gateway userId orderId created) := by
  apply (commits_query _).bind
  intro found
  cases found with
  | none => exact commits_throw _
  | some order =>
      apply (commits_reopenOrder hreopen _ _).bind
      intro order
      split
      · exact commits_throw _
      · exact commits_payable hpayable gateway order created

end Payable

theorem commits_verifyPayment (userId : Nat) (dto : VerifyPaymentDto) :
    Commits (Ordinary own) (verifyPayment gateway userId dto) := by
  refine commits_read_bind fun w => ?_
  generalize hfound : (w.orders.findFirst _).filter _ = found
  cases found with
  | none => exact commits_throw _
  | some order =>
      have hrzp : order.razorpayOrderId = some dto.razorpayOrderId := by
        simpa using (Table.findFirst_some (Option.filter_eq_some_iff.mp hfound).1).2
      dsimp only
      split
      · exact commits_throw _
      · apply (commits_resolveBoundAccountOrFail _ _).bind
        intro resolved
        apply (commits_getEncryptedCredentials _ _).bind
        intro credentials
        cases credentials with
        | none => exact commits_throw _
        | some credentials =>
            dsimp only
            split
            · exact commits_throw _
            · apply (commits_query _).bind
              intro existing
              split
              · exact (commits_findUniqueOrderOrThrow _).bind fun _ => commits_pure _
              · apply (commits_transaction (.verifyPayment _ _ _ _ hrzp)).tryCatch
                intro err
                split
                · exact (commits_findUniqueOrderOrThrow _).bind fun _ => commits_pure _
                · exact commits_throw _

/-! ## Webhooks and reconciliation -/

theorem commits_receiveWebhook (rawBody signature : String) (headerEventId : Option String)
    (now : Nat) :
    Commits (Ordinary own) (receiveWebhook gateway rawBody signature headerEventId now) := by
  unfold receiveWebhook
  split
  · exact commits_throw _
  · split
    · exact commits_throw _
    · exact commits_execute (.insertWebhookEvent _ _ _ _)

theorem commits_receiveMerchantWebhook (paymentAccountId : Nat) (rawBody signature : String)
    (headerEventId : Option String) (now : Nat) :
    Commits (Ordinary own)
      (receiveMerchantWebhook gateway paymentAccountId rawBody signature headerEventId now) := by
  apply Commits.bind
  · apply (commits_resolveForWebhook _).tryCatch
    intro err
    cases err <;> exact commits_throw _
  · rintro ⟨resolved, tenantId⟩
    apply (commits_getEncryptedCredentials _ _).bind
    intro credentials
    dsimp only
    split
    · exact commits_throw _
    · split
      · exact commits_throw _
      · exact commits_execute (.insertWebhookEvent _ _ _ _)

theorem commits_safeUpdate {id : Nat} {data : WebhookEvent → WebhookEvent}
    {hdata : ∀ e, (data e).id = e.id} (h : ∀ e : WebhookEvent, e.SameDelivery (data e)) :
    Commits (Ordinary (some id)) (safeUpdate id data hdata) := by
  apply Commits.tryCatch
  · exact (commits_execute (.safeUpdate id data hdata h rfl)).bind fun _ => commits_pure _
  · exact fun _ => commits_pure _

theorem commits_processOne (id now : Nat) :
    Commits (Ordinary (some id)) (processOne id now) := by
  have hwrite : Ordinary (some id) (.processWebhook id) (applied (processEvent id)) :=
    .transaction (.processWebhook id) (by simp) (by simp) (by simp)
  apply (commits_attempt hwrite).bind
  rintro ⟨attempts, result⟩
  dsimp only
  split
  · exact commits_pure _
  · split
    · exact commits_safeUpdate fun _ => ⟨rfl, rfl⟩
    · split
      · exact commits_safeUpdate fun _ => ⟨rfl, rfl⟩
      · split
        · exact commits_safeUpdate fun _ => ⟨rfl, rfl⟩
        · exact commits_safeUpdate fun _ => ⟨rfl, rfl⟩

theorem commits_maybeFailStale (order : Order) (ageMinutes : Nat) :
    Commits (Ordinary own) (maybeFailStale order ageMinutes) := by
  unfold maybeFailStale
  split
  · exact commits_pure _
  · apply Commits.bind
    · apply (commits_transaction (.failStalePendingOrder order)).tryCatch
      intro err
      split
      · exact commits_pure _
      · exact commits_throw _
    · exact fun _ => commits_pure _

theorem commits_reconcileOne (orderId ageMinutes : Nat)
    (payments : Option (List RazorpayOrderPayment)) :
    Commits (Ordinary own) (reconcileOne orderId ageMinutes payments) := by
  apply (commits_query _).bind
  intro candidate
  split
  · split
    · apply Commits.bind
      · unfold reconcileCapturedPayment
        split
        · exact commits_pure _
        · apply (commits_transaction (.reconcileCapturedPayment _ _)).tryCatch
          intro err
          split
          · exact commits_pure _
          · exact commits_throw _
      · exact fun _ => commits_pure _
    · split
      · exact commits_pure _
      · exact commits_maybeFailStale _ _
  · exact commits_pure _

theorem commits_failStaleOrderWithoutRazorpayOrder (orderId ageMinutes : Nat) :
    Commits (Ordinary own) (failStaleOrderWithoutRazorpayOrder orderId ageMinutes) := by
  apply (commits_query _).bind
  intro candidate
  cases candidate with
  | none => exact commits_pure _
  | some order => exact commits_maybeFailStale _ _

/-! ## Orders and refunds -/

theorem commits_performCancellation (order : Order) (actor : Actor) (reason : Option String) :
    Commits (Ordinary own) (performCancellation order actor reason) := by
  apply (commits_query _).bind
  intro capturedAttempt
  exact commits_transaction (.performCancellation _ _ _ _)

theorem commits_assertTransitionAllowed (source target : OrderStatus) :
    Commits (Ordinary own) (assertTransitionAllowed source target : Service Unit) := by
  unfold assertTransitionAllowed
  split
  · exact commits_pure _
  · exact commits_throw _

theorem commits_cancelOrder (userId orderId : Nat) (reason : Option String) :
    Commits (Ordinary own) (cancelOrder userId orderId reason) := by
  apply (commits_findOrderOrThrow _).bind
  intro order
  split
  · exact commits_throw _
  · split
    · exact commits_findOrderOrThrow _
    · apply (commits_assertTransitionAllowed _ _).bind
      intro _
      exact (commits_performCancellation _ _ _).bind fun _ => commits_findOrderOrThrow _

theorem commits_adminTransitionStatus (tenantId adminId orderId : Nat) (status : OrderStatus)
    (reason : Option String) :
    Commits (Ordinary own) (adminTransitionStatus tenantId adminId orderId status reason) := by
  apply (commits_findOrderOrThrow _).bind
  intro order
  split
  · exact commits_throw _
  · split
    · exact commits_findOrderOrThrow _
    · apply (commits_assertTransitionAllowed _ _).bind
      intro _
      have hlast : ∀ _ : Unit, Commits (Ordinary own) (findOrderOrThrow orderId) :=
        fun _ => commits_findOrderOrThrow _
      cases status with
      | cancelled => exact (commits_performCancellation _ _ _).bind hlast
      | refunded => exact (commits_transaction (.performRefundRecording _ _ _)).bind hlast
      | _ => exact (commits_transaction (.adminTransitionStatus _ _ _ _)).bind hlast

/-- The writes of the refund service are among the writes. -/
structure RefundWrites (K : Commit → (World → World) → Prop) : Prop where
  createRefund : ∀ request tenantId paymentAttemptId dto, K (.createRefund paymentAttemptId)
    (applied (reserveRefund request tenantId paymentAttemptId dto))
  callProvider : ∀ (refund : Refund) providerPaymentId answer, K (.callProvider refund.id answer)
    (applied (bookProviderRefund refund providerPaymentId answer))
  settleRefund : ∀ (p : Refund → Bool) (f : Refund → Refund)
    (hk : ∀ r, Schema.key (f r) = Schema.key r),
    K .statement (applied (Db.refunds.updateMany p f hk : Transaction Nat))

theorem refundWrites_plain : RefundWrites Plain where
  createRefund _ _ _ _ := (Written.createRefund _ _ _ _).plain (by simp)
  callProvider _ _ _ := (Written.callProvider _ _ _).plain (by simp)
  settleRefund p f hk := plain_settleRefund p f hk

section Refunds

variable {K : Commit → (World → World) → Prop}

theorem commits_markFailed (hK : RefundWrites K) (refundId : Nat) (failureReason : String)
    (razorpayRefundId : Option String) :
    Commits K (markFailed refundId failureReason razorpayRefundId) := by
  apply (commits_execute (hK.settleRefund _ _ _)).bind
  intro count
  apply (commits_query _).bind
  intro found
  cases found with
  | none => exact commits_throw _
  | some refund => exact commits_pure _

theorem commits_settleRefund (hK : RefundWrites K) (refundId : Nat)
    (result : MerchantRefundResult) : Commits K (settleRefund refundId result) := by
  apply (commits_execute (hK.settleRefund _ _ _)).bind
  intro count
  apply (commits_query _).bind
  intro found
  cases found with
  | none => exact commits_throw _
  | some refund => exact commits_pure _

theorem commits_createRefund (hK : RefundWrites K) (request tenantId paymentAttemptId : Nat)
    (dto : CreateRefundDto) (answer : ProviderRefundAnswer) :
    Commits K (createRefund request tenantId paymentAttemptId dto answer) := by
  apply (commits_transact (hK.createRefund _ _ _ _)).bind
  rintro ⟨refund, razorpayPaymentId, paymentAccountId⟩
  unfold callProviderAndSettle
  apply Commits.bind
  · apply (commits_resolveForBoundAccount _ _).tryCatch
    intro err
    apply (commits_markFailed hK _ _ _).bind
    intro _
    cases err <;> exact commits_throw _
  · intro resolved
    apply (commits_getEncryptedCredentials _ _).bind
    intro credentials
    cases credentials with
    | none => exact (commits_markFailed hK _ _ _).bind fun _ => commits_throw _
    | some credentials =>
        apply (commits_transact (hK.callProvider refund razorpayPaymentId answer)).bind
        intro reply
        cases reply with
        | error err =>
            apply (commits_markFailed hK _ _ _).bind
            intro _
            cases err <;> exact commits_throw _
        | ok result =>
            dsimp only
            split
            · exact (commits_markFailed hK _ _ _).bind fun _ => commits_pure _
            · exact (commits_settleRefund hK _ _).bind fun _ => commits_pure _

end Refunds

/-- A request for neither a payment nor a refund makes ordinary writes only. -/
theorem commits_handle_ordinary (n : Nat) (req : Request)
    (hpayment : ∀ userId orderId created, req ≠ .initiatePayment userId orderId created)
    (hrefund : ∀ tenantId paymentAttemptId dto answer,
      req ≠ .createRefund tenantId paymentAttemptId dto answer) :
    Commits (Ordinary (ownEvent req)) (handle gateway n req) := by
  have respond : ∀ {own : Option Nat} {α : Type} {p : Service α} {f : α → Response},
      Commits (Ordinary own) p → Commits (Ordinary own) (p >>= fun v => pure (f v)) :=
    fun hp => hp.bind fun _ => commits_pure _
  cases req with
  | checkout data => exact respond (commits_transaction (.checkout _))
  | administer accounts stores users => exact respond (commits_execute (.administer _ _ _))
  | initiatePayment userId orderId created => exact absurd rfl (hpayment _ _ _)
  | verifyPayment userId dto => exact respond (commits_verifyPayment _ _)
  | receiveWebhook rawBody signature headerEventId now =>
      exact respond (commits_receiveWebhook _ _ _ _)
  | receiveMerchantWebhook paymentAccountId rawBody signature headerEventId now =>
      exact respond (commits_receiveMerchantWebhook _ _ _ _ _)
  | processOne id now => exact respond (commits_processOne _ _)
  | reconcileOne orderId ageMinutes payments => exact respond (commits_reconcileOne _ _ _)
  | failStale orderId ageMinutes =>
      exact respond (commits_failStaleOrderWithoutRazorpayOrder _ _)
  | cancelOrder userId orderId reason => exact respond (commits_cancelOrder _ _ _)
  | adminTransitionStatus tenantId adminId orderId status reason =>
      exact respond (commits_adminTransitionStatus _ _ _ _ _)
  | createRefund tenantId paymentAttemptId dto answer => exact absurd rfl (hrefund _ _ _ _)
  | failProviderRefund razorpayRefundId =>
      exact respond (commits_execute (.failProviderRefund _))

/-- What a request other than for a payment commits. -/
theorem commits_handle_plain (n : Nat) (req : Request)
    (hreq : ∀ userId orderId created, req ≠ .initiatePayment userId orderId created) :
    Commits Plain (handle gateway n req) := by
  by_cases hrefund : ∃ tenantId paymentAttemptId dto answer,
      req = .createRefund tenantId paymentAttemptId dto answer
  · obtain ⟨tenantId, paymentAttemptId, dto, answer, rfl⟩ := hrefund
    exact (commits_createRefund refundWrites_plain _ _ _ _ _).bind fun _ => commits_pure _
  · refine (commits_handle_ordinary n req hreq fun tenantId paymentAttemptId dto answer he =>
      ?_).mono fun _ _ h => h.plain
    exact hrefund ⟨tenantId, paymentAttemptId, dto, answer, he⟩

/-- A list with the writes of all kinds has the writes of every request. -/
theorem commits_handle_of {K : Commit → (World → World) → Prop} {req : Request}
    (hordinary : ∀ ℓ upd, Ordinary (ownEvent req) ℓ upd → K ℓ upd)
    (hreopen : ReopenWrites K) (hrefunds : RefundWrites K) (n : Nat) :
    Commits K (handle gateway n req) := by
  by_cases hpayment : ∃ userId orderId created, req = .initiatePayment userId orderId created
  · obtain ⟨userId, orderId, created, rfl⟩ := hpayment
    have hpayable : PayableWrites K :=
      ⟨fun _ _ => hordinary _ _ (.bindPaymentAccount _ _),
        fun _ _ => hordinary _ _ (.associateRazorpayOrder _ _),
        fun _ _ h => hordinary _ _ (.openAttempt _ _ h)⟩
    exact (commits_initiatePayment hpayable hreopen userId orderId created).bind
      fun _ => commits_pure _
  · by_cases hrefund : ∃ tenantId paymentAttemptId dto answer,
        req = .createRefund tenantId paymentAttemptId dto answer
    · obtain ⟨tenantId, paymentAttemptId, dto, answer, rfl⟩ := hrefund
      exact (commits_createRefund hrefunds _ _ _ _ _).bind fun _ => commits_pure _
    · refine (commits_handle_ordinary n req (fun userId orderId created he => ?_)
        fun tenantId paymentAttemptId dto answer he => ?_).mono hordinary
      · exact hpayment ⟨userId, orderId, created, he⟩
      · exact hrefund ⟨tenantId, paymentAttemptId, dto, answer, he⟩

/-- Every request only makes listed writes. -/
theorem commits_handle (n : Nat) (req : Request) : Commits Written (handle gateway n req) :=
  commits_handle_of (fun _ _ h => h.plain.written) ⟨.reopenOrder, .logTransition⟩
    ⟨.createRefund, .callProvider, .settleRefund⟩ n

end PrintForge
