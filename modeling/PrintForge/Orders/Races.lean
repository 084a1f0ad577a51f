import PrintForge.Orders.Audit

/-!
# Order changes that lose a race

Between the read of an order and the transaction that changes it, another request may have
moved the order on. The transition is then left out, but the refund that was written down
before it and the audit row that follows it are committed all the same. A call that loses the
race is quiet exactly where it has neither to write.
-/

namespace PrintForge.Orders

open Relational Concurrent Proc

variable {α : Type} {order : Order} {capturedAttempt : Option PaymentAttempt}
variable {target : OrderStatus} {actor : Actor} {reason : Option String} {refundPending : Bool}
variable {tenantAudit : Option TenantAuditContext} {s s' : World} {w w' : AuditedWorld}

theorem quiet_refl (w : AuditedWorld) : Quiet w w := ⟨rfl, rfl, rfl, rfl⟩

theorem onShop_ok {tx : Transaction α} {a : α} (h : tx w.toWorld = .ok (a, s)) :
    onShop tx w = .ok (a, { w with toWorld := s }) := by
  rw [onShop, h]
  rfl

theorem onShop_error {tx : Transaction α} {e : ServiceError} (h : tx w.toWorld = .error e) :
    onShop tx w = .error e := by
  rw [onShop, h]
  rfl

/-! ## The transition -/

/-- The compare-and-swap does not find the order. -/
def Missed (order : Order) (s : World) : Prop :=
  ∀ o ∈ s.orders, o.id = order.id → o.status ≠ order.status

theorem not_stands : ¬ Stands order w ↔ Missed order w.toWorld := by
  simp only [Stands, Missed, not_exists, not_and, Table.mem_rows]

theorem transition_missed (hallowed : isTransitionAllowed order.status target = true)
    (h : Missed order s) :
    transitionOrderWithHistory order target actor reason refundPending s = .ok ((), s) := by
  have hnone : ∀ o ∈ Db.orders.get s, (o.id = order.id && o.status = order.status) = false := by
    intro o ho
    simpa using h o ho
  have hcas : (PrintForge.Db.orders.updateMany
      (fun o => o.id = order.id && o.status = order.status)
      fun o => { o with status := target } : Transaction Nat) s = .ok (0, s) :=
    Slot.updateMany_none hnone
  rw [transitionOrderWithHistory, assertTransitionAllowed, if_pos hallowed]
  exact Tx.bind_ok.mpr ⟨(), s, rfl, Tx.bind_ok.mpr ⟨0, s, hcas, rfl⟩⟩

theorem transition_forbidden (actor : Actor) (reason : Option String) (refundPending : Bool)
    (s : World) (h : isTransitionAllowed order.status target = false) :
    ∃ e, transitionOrderWithHistory order target actor reason refundPending s = .error e := by
  rw [transitionOrderWithHistory, assertTransitionAllowed, if_neg (by simp [h])]
  exact ⟨_, rfl⟩

/-! ## The statements around it -/

theorem orderNeedsRefund_eq_false :
    orderNeedsRefund capturedAttempt = false ↔
      capturedAttempt.filter (·.status = .captured) = none := by
  cases capturedAttempt with
  | none => simp [orderNeedsRefund]
  | some attempt => simp [orderNeedsRefund, Option.filter]

/-- Writing down what is owed goes through. It inserts a row where a captured attempt was
read, and nothing where none was. -/
theorem recordOwedRefund_commits (order : Order) (capturedAttempt : Option PaymentAttempt)
    (reason : Option String) (s : World) :
    ∃ t, recordOwedRefund order capturedAttempt reason s = .ok ((), { s with refunds := t }) ∧
      (t = s.refunds ↔ orderNeedsRefund capturedAttempt = false) := by
  rw [orderNeedsRefund_eq_false, recordOwedRefund]
  cases hfilter : capturedAttempt.filter (·.status = .captured) with
  | none => exact ⟨s.refunds, rfl, by simp⟩
  | some attempt =>
      obtain ⟨t, ht, hcreate⟩ := Slot.exists_create_ok (T := PrintForge.Db.refunds) (s := s)
        (ε := ServiceError) (fun id =>
          { id, paymentAttemptId := attempt.id, razorpayRefundId := none
            amountPaise := attempt.amountPaise, status := .pending, reason, failureReason := none
            tenantId := order.tenantId, paymentAccountId := none }) (by intro; rfl)
        fun r _ hclash => hclash.2 (hclash.1 ▸ rfl)
      refine ⟨t, Tx.bind_ok.mpr ⟨_, _, hcreate, rfl⟩, ?_⟩
      have hne : t ≠ s.refunds := fun h => by
        have hnext := Table.nextKey_create ht
        rw [h] at hnext
        exact absurd hnext (by simp [PrintForge.Db.refunds])
      simp [hne]

/-- A refund that `performRefundRecording` closes. -/
def isOwedFor (order : Order) (s : World) (r : Refund) : Bool :=
  r.status = .pending &&
    (s.paymentAttempts.findMany (·.orderId = order.id)).any (·.id = r.paymentAttemptId)

theorem isOwedFor_eq_false {r : Refund} :
    isOwedFor order s r = false ↔ (r.status = .pending → ∀ a ∈ s.paymentAttempts.rows,
      a.orderId = order.id → a.id ≠ r.paymentAttemptId) := by
  simp only [isOwedFor, Bool.and_eq_false_iff, decide_eq_false_iff_not, List.any_eq_false,
    Table.findMany, List.mem_filter, decide_eq_true_eq, and_imp]
  exact imp_iff_not_or.symm

/-- Closing what is owed goes through. It changes a row where one is owed, and none where none
is. -/
theorem closeRefunds_commits (order : Order) (s : World) :
    ∃ n t, (PrintForge.Db.refunds.updateMany (isOwedFor order s)
        fun r => { r with status := .processed } : Transaction Nat) s =
          .ok (n, { s with refunds := t }) ∧
      (t = s.refunds ↔ ∀ r ∈ s.refunds, isOwedFor order s r = false) := by
  obtain ⟨t, ht⟩ : ∃ t, s.refunds.update (isOwedFor order s)
      (fun r => { r with status := .processed }) (by intro; rfl) = some t := by
    refine Table.exists_update fun a _ b _ hclash => ?_
    have hid : ∀ r : Refund, (if isOwedFor order s r then { r with status := .processed }
        else r).razorpayRefundId = r.razorpayRefundId := by
      intro r
      split <;> rfl
    simpa only [Schema.Clash, hid] using hclash
  refine ⟨s.refunds.count (isOwedFor order s), t, ?_, ?_⟩
  · simp only [Slot.updateMany, PrintForge.Db.refunds, ht]
  · constructor
    · intro h r hr
      by_contra howed
      have howed : isOwedFor order s r = true := by simpa using howed
      have hclosed := Table.mem_of_update_true ht hr howed
      rw [h] at hclosed
      have heq := congrArg Refund.status (Table.eq_of_key hclosed hr rfl)
      simp [isOwedFor, ← heq] at howed
    · exact Table.update_eq_self ht

/-! ## The transactions -/

/-- The audit row goes in. -/
theorem logOrderAction_commits (order : Order) (action : String) (metadata : AuditMetadata)
    (tenantAudit : TenantAuditContext) (w : AuditedWorld) :
    ∃ t, logOrderAction order action metadata tenantAudit w =
        .ok ((), { w with tenantAuditLogs := t }) ∧ t ≠ w.tenantAuditLogs := by
  obtain ⟨attribution, hresolve⟩ : ∃ attribution, resolveTenantAuditActor
      tenantAudit.tenantContext tenantAudit.actorId w = .ok (attribution, w) := by
    unfold resolveTenantAuditActor
    split
    · exact ⟨_, rfl⟩
    · exact ⟨_, rfl⟩
  obtain ⟨t, ht, hcreate⟩ := Slot.exists_create_ok (T := Db.tenantAuditLogs) (s := w)
    (ε := ServiceError) (fun id =>
      { id, tenantId := tenantAudit.tenantContext.tenantId
        actorMembershipId := attribution.actorMembershipId
        action, targetType := "Order", targetId := order.id, metadata
        viaSupportSessionId := attribution.viaSupportSessionId }) (by intro; rfl)
    fun _ _ hclash => hclash
  refine ⟨t, Tx.bind_ok.mpr ⟨_, _, hresolve, Tx.bind_ok.mpr ⟨_, _, hcreate, rfl⟩⟩, fun h => ?_⟩
  have hnext := Table.nextKey_create ht
  rw [h] at hnext
  exact absurd hnext (by simp [Db.tenantAuditLogs])

theorem audit_commits (order : Order) (action : String) (metadata : AuditMetadata)
    (tenantAudit : Option TenantAuditContext) (w : AuditedWorld) :
    ∃ t, audit order action metadata tenantAudit w =
        .ok ((), { w with tenantAuditLogs := t }) ∧
      (t = w.tenantAuditLogs ↔ tenantAudit = none) := by
  cases tenantAudit with
  | none => exact ⟨w.tenantAuditLogs, rfl, by simp⟩
  | some tenantAudit =>
      obtain ⟨t, hlog, hne⟩ := logOrderAction_commits order action metadata tenantAudit w
      exact ⟨t, hlog, by simp [hne]⟩

/-- A transition that is refused takes everything around it back. -/
theorem onShop_bind_error {β : Type} {tx : Transaction α} {f : α → AuditedTransaction β}
    {e : ServiceError} (h : tx w.toWorld = .error e) : applied (onShop tx >>= f) w = w :=
  applied_error (Tx.bind_error.mpr (.inl (onShop_error h)))

theorem recordCancellation_missed (capturedAttempt : Option PaymentAttempt) (actor : Actor)
    (reason : Option String) (hallowed : isTransitionAllowed order.status .cancelled = true)
    (h : Missed order s) :
    ∃ t, recordCancellation order capturedAttempt actor reason s =
        .ok ((), { s with refunds := t }) ∧
      (t = s.refunds ↔ orderNeedsRefund capturedAttempt = false) := by
  obtain ⟨t, howed, ht⟩ := recordOwedRefund_commits order capturedAttempt reason s
  have hmissed : Missed order { s with refunds := t } := h
  exact ⟨t, Tx.bind_ok.mpr ⟨(), _, howed, transition_missed hallowed hmissed⟩, ht⟩

theorem recordRefund_missed (actor : Actor) (reason : Option String)
    (hallowed : isTransitionAllowed order.status .refunded = true) (h : Missed order s) :
    ∃ t, recordRefund order actor reason s = .ok ((), { s with refunds := t }) ∧
      (t = s.refunds ↔ ∀ r ∈ s.refunds, isOwedFor order s r = false) := by
  obtain ⟨n, t, hclose, ht⟩ := closeRefunds_commits order s
  have hmissed : Missed order { s with refunds := t } := h
  refine ⟨t, ?_, ht⟩
  exact Tx.bind_ok.mpr ⟨_, s, rfl,
    Tx.bind_ok.mpr ⟨n, _, hclose, transition_missed hallowed hmissed⟩⟩

/-- Where the transition misses the order, the refund and the audit row are what is left. -/
theorem cancelAudited_missed (capturedAttempt : Option PaymentAttempt) (actor : Actor)
    (reason : Option String) (tenantAudit : Option TenantAuditContext)
    (hallowed : isTransitionAllowed order.status .cancelled = true)
    (h : Missed order w.toWorld) :
    ∃ t t', cancelAudited order capturedAttempt actor reason tenantAudit w =
        .ok ((), { w with refunds := t, tenantAuditLogs := t' }) ∧
      (t = w.refunds ↔ orderNeedsRefund capturedAttempt = false) ∧
      (t' = w.tenantAuditLogs ↔ tenantAudit = none) := by
  obtain ⟨t, hcancel, ht⟩ := recordCancellation_missed capturedAttempt actor reason hallowed h
  obtain ⟨t', haudit, ht'⟩ := audit_commits order "order.cancel"
    (.cancel reason (orderNeedsRefund capturedAttempt) order.tenantId) tenantAudit
    { w with toWorld := { w.toWorld with refunds := t } }
  exact ⟨t, t', Tx.bind_ok.mpr ⟨(), _, onShop_ok hcancel, haudit⟩, ht, ht'⟩

theorem recordRefundAudited_missed (actor : Actor) (reason : Option String)
    (tenantAudit : Option TenantAuditContext)
    (hallowed : isTransitionAllowed order.status .refunded = true)
    (h : Missed order w.toWorld) :
    ∃ t t', recordRefundAudited order actor reason tenantAudit w =
        .ok ((), { w with refunds := t, tenantAuditLogs := t' }) ∧
      (t = w.refunds ↔ ∀ r ∈ w.refunds, isOwedFor order w.toWorld r = false) ∧
      (t' = w.tenantAuditLogs ↔ tenantAudit = none) := by
  obtain ⟨t, hrecord, ht⟩ := recordRefund_missed actor reason hallowed h
  obtain ⟨t', haudit, ht'⟩ := audit_commits order "order.refund_record"
    (.refundRecord reason order.tenantId) tenantAudit
    { w with toWorld := { w.toWorld with refunds := t } }
  exact ⟨t, t', Tx.bind_ok.mpr ⟨(), _, onShop_ok hrecord, haudit⟩, ht, ht'⟩

theorem transitionAudited_missed (actor : Actor) (reason : Option String)
    (tenantAudit : TenantAuditContext)
    (hallowed : isTransitionAllowed order.status target = true) (h : Missed order w.toWorld) :
    ∃ t, transitionAudited order target actor reason tenantAudit w =
        .ok ((), { w with tenantAuditLogs := t }) ∧ t ≠ w.tenantAuditLogs := by
  obtain ⟨t, hlog, hne⟩ := logOrderAction_commits order "order.status_change"
    (.statusChange order.status target order.tenantId) tenantAudit w
  exact ⟨t, Tx.bind_ok.mpr ⟨(), _, onShop_ok (transition_missed hallowed h), hlog⟩, hne⟩

/-! ## Calls -/

/-- A call whose transition misses the order writes nothing. -/
def LostRaceIsQuiet (ℓ : AuditedCommit) (w w' : AuditedWorld) : Prop :=
  ¬ Stands ℓ.order w → Quiet w w'

/-- The transition finds the order, or is refused, or nothing is written around it. -/
def Harmless (ℓ : AuditedCommit) (w : AuditedWorld) : Prop :=
  Stands ℓ.order w ∨ isTransitionAllowed ℓ.order.status ℓ.target = false ∨ Bare ℓ w

/-- The writes that lose a race quietly where they are harmless, and only there. -/
def QuietWhereHarmless (ℓ : AuditedCommit) (upd : AuditedWorld → AuditedWorld) : Prop :=
  ∀ w, LostRaceIsQuiet ℓ w (upd w) ↔ Harmless ℓ w

/-- A write is as it should be that is taken back where the transition is refused and that is
quiet, where it misses the order, exactly if it is bare. -/
theorem quietWhereHarmless {ℓ : AuditedCommit} {upd : AuditedWorld → AuditedWorld}
    (hforbidden : ∀ w, isTransitionAllowed ℓ.order.status ℓ.target = false → upd w = w)
    (hmissed : ∀ w, isTransitionAllowed ℓ.order.status ℓ.target = true →
      Missed ℓ.order w.toWorld → (Quiet w (upd w) ↔ Bare ℓ w)) :
    QuietWhereHarmless ℓ upd := by
  intro w
  unfold LostRaceIsQuiet Harmless
  by_cases hstands : Stands ℓ.order w
  · exact ⟨fun _ => .inl hstands, fun _ h => absurd hstands h⟩
  · cases hallowed : isTransitionAllowed ℓ.order.status ℓ.target with
    | false => exact ⟨fun _ => .inr (.inl rfl), fun _ _ => by
        rw [hforbidden w hallowed]
        exact quiet_refl w⟩
    | true =>
        rw [← hmissed w hallowed (not_stands.mp hstands)]
        simp [hstands]

theorem cancelAudited_quiet (order : Order) (capturedAttempt : Option PaymentAttempt)
    (actor : Actor) (reason : Option String) (tenantAudit : Option TenantAuditContext) :
    QuietWhereHarmless (.performCancellation order capturedAttempt tenantAudit)
      (applied (cancelAudited order capturedAttempt actor reason tenantAudit)) := by
  refine quietWhereHarmless (fun w hforbidden => ?_) fun w hallowed hmissed => ?_
  · obtain ⟨t, howed, -⟩ := recordOwedRefund_commits order capturedAttempt reason w.toWorld
    obtain ⟨e, he⟩ := transition_forbidden actor reason (orderNeedsRefund capturedAttempt)
      { w.toWorld with refunds := t } hforbidden
    exact onShop_bind_error (Tx.bind_error.mpr (.inr ⟨(), _, howed, he⟩))
  · obtain ⟨t, t', hcancel, ht, ht'⟩ := cancelAudited_missed capturedAttempt actor reason
      tenantAudit hallowed hmissed
    rw [show applied (cancelAudited order capturedAttempt actor reason tenantAudit) w = _ from
      applied_ok hcancel]
    constructor
    · intro hquiet
      exact ⟨ht.mp hquiet.refunds, ht'.mp hquiet.tenantAuditLogs⟩
    · rintro ⟨hneeds, hnobody⟩
      exact ⟨ht.mpr hneeds, rfl, ht'.mpr hnobody, rfl⟩

theorem recordRefundAudited_quiet (order : Order) (actor : Actor) (reason : Option String)
    (tenantAudit : Option TenantAuditContext) :
    QuietWhereHarmless (.performRefundRecording order tenantAudit)
      (applied (recordRefundAudited order actor reason tenantAudit)) := by
  refine quietWhereHarmless (fun w hforbidden => ?_) fun w hallowed hmissed => ?_
  · obtain ⟨n, t, hclose, -⟩ := closeRefunds_commits order w.toWorld
    obtain ⟨e, he⟩ := transition_forbidden actor reason false { w.toWorld with refunds := t }
      hforbidden
    exact onShop_bind_error (Tx.bind_error.mpr (.inr ⟨_, _, rfl,
      Tx.bind_error.mpr (.inr ⟨n, _, hclose, he⟩)⟩))
  · obtain ⟨t, t', hrecord, ht, ht'⟩ := recordRefundAudited_missed actor reason tenantAudit hallowed
      hmissed
    rw [show applied (recordRefundAudited order actor reason tenantAudit) w = _ from
      applied_ok hrecord]
    have hbare : (∀ r ∈ w.refunds, isOwedFor order w.toWorld r = false) ↔
        ∀ r ∈ w.refunds.rows, r.status = .pending → ∀ a ∈ w.paymentAttempts.rows,
          a.orderId = order.id → a.id ≠ r.paymentAttemptId :=
      forall₂_congr fun r _ => isOwedFor_eq_false
    constructor
    · intro hquiet
      exact ⟨hbare.mp (ht.mp hquiet.refunds), ht'.mp hquiet.tenantAuditLogs⟩
    · rintro ⟨hnone, hnobody⟩
      exact ⟨ht.mpr (hbare.mpr hnone), rfl, ht'.mpr hnobody, rfl⟩

theorem transitionAudited_quiet (order : Order) (status : OrderStatus) (actor : Actor)
    (reason : Option String) (tenantAudit : TenantAuditContext) :
    QuietWhereHarmless (.adminTransitionStatus order status)
      (applied (transitionAudited order status actor reason tenantAudit)) := by
  refine quietWhereHarmless (fun w hforbidden => ?_) fun w hallowed hmissed => ?_
  · obtain ⟨e, he⟩ := transition_forbidden actor reason false w.toWorld hforbidden
    exact onShop_bind_error he
  · obtain ⟨t, htransition, hne⟩ := transitionAudited_missed actor reason tenantAudit hallowed
      hmissed
    rw [show applied (transitionAudited order status actor reason tenantAudit) w = _ from
      applied_ok htransition]
    exact ⟨fun hquiet => hne hquiet.tenantAuditLogs, False.elim⟩

theorem performCancellation_commits (order : Order) (actor : Actor) (reason : Option String)
    (tenantAudit : Option TenantAuditContext) :
    (performCancellation order actor reason tenantAudit).Commits QuietWhereHarmless :=
  (commits_read _).bind fun capturedAttempt => commits_transact
    (cancelAudited_quiet order capturedAttempt actor reason tenantAudit)

theorem findOrderOrThrow_commits (orderId : Nat) :
    (findOrderOrThrow orderId).Commits QuietWhereHarmless := by
  refine (commits_read _).bind fun found => ?_
  cases found with
  | some order => exact commits_pure order
  | none => exact commits_throw _

theorem assertTransitionAllowed_commits (source target : OrderStatus) :
    (assertTransitionAllowed source target : AuditedService Unit).Commits QuietWhereHarmless := by
  unfold assertTransitionAllowed
  split
  · exact commits_pure ()
  · exact commits_throw _

theorem serve_commits (i : Nat) (call : Call) : (serve i call).Commits QuietWhereHarmless := by
  cases call with
  | performCancellation order actor reason tenantAudit =>
      exact performCancellation_commits order actor reason tenantAudit
  | performRefundRecording order actor reason tenantAudit =>
      exact commits_transact (recordRefundAudited_quiet order actor reason tenantAudit)
  | cancelOrder userId orderId reason =>
      refine (findOrderOrThrow_commits orderId).bind fun order => ?_
      split
      · exact commits_throw _
      · split
        · exact commits_pure ()
        · exact (assertTransitionAllowed_commits _ _).bind fun _ =>
            performCancellation_commits order _ reason none
  | adminTransitionStatus tenantContext adminId orderId status reason =>
      refine (findOrderOrThrow_commits orderId).bind fun order => ?_
      split
      · exact commits_throw _
      · split
        · exact commits_pure ()
        · refine (assertTransitionAllowed_commits _ _).bind fun _ => ?_
          dsimp only
          split
          · exact performCancellation_commits order _ reason _
          · exact commits_transact (recordRefundAudited_quiet order _ reason _)
          · exact commits_transact (transitionAudited_quiet order _ _ reason _)

/-- Whatever a call read and whatever others did in the meantime, its transaction is a no-op
where it misses the order if and only if it is harmless. -/
theorem lost_race_quiet_iff (i : Nat) (call : Call) :
    (serve i call).Within fun ℓ w w' => LostRaceIsQuiet ℓ w w' ↔ Harmless ℓ w :=
  (serve_commits i call).within fun _ _ w h => h w

/-- An order that is paid for, of a customer. -/
def exampleOrder : Order where
  id := 0
  orderNumber := "PF-1"
  userId := 0
  status := .paid
  total := ⟨500, 0⟩
  currency := "INR"
  razorpayOrderId := some "order_1"
  paymentAccountId := none
  tenantId := 0
  storeId := none

def exampleAttempt : PaymentAttempt where
  id := 0
  orderId := 0
  razorpayOrderId := "order_1"
  razorpayPaymentId := some "pay_1"
  amountPaise := 50000
  currency := "INR"
  status := .captured
  failureCode := none
  failureReason := none
  method := none
  tenantId := 0
  paymentAccountId := none

theorem key_lt_customer : ∀ u ∈ [(⟨0, "customer@example.com"⟩ : User)], Schema.key u < 1 := by
  decide

def exampleWorld : AuditedWorld where
  orders := ⟨[exampleOrder], 1, by decide, by decide⟩
  paymentAttempts := ⟨[exampleAttempt], 1, by decide, by decide⟩
  refunds := .empty
  orderStatusHistory := .empty
  outboxEvents := .empty
  webhookEvents := .empty
  paymentAccounts := .empty
  stores := .empty
  users := ⟨[⟨0, "customer@example.com"⟩], 1, key_lt_customer, List.pairwise_singleton ..⟩
  providerRefunds := []
  reservedBy := []
  tenantMemberships := .empty
  tenantAuditLogs := .empty

/-- The customer and the administrator cancel at once: both have read the order and its
captured attempt, and the administrator's transaction has gone through. -/
def bothCancel : List (Action Call) :=
  [.accept (.cancelOrder 0 0 none), .advance 0, .advance 0,
    .accept (.adminTransitionStatus ⟨0, .membershipDefault, none⟩ 1 0 .cancelled none),
    .advance 1, .advance 1, .advance 1]

/-- The customer's transaction then writes down a second refund for the one payment. -/
theorem lost_cancellation_owes_again :
    ¬ ∀ (w : AuditedWorld) (c : Config AuditedWorld Call AuditedCommit ServiceError Unit)
      (i : Nat) (call : Call) (p p' : AuditedService Unit) (ℓ : AuditedCommit) (w' : AuditedWorld),
        Run serve (fun _ _ => True) (fun _ _ => True) ⟨w, []⟩ c →
          c.flights[i]? = some (call, p) → p.label = some ℓ → p.step c.state = some (p', w') →
            LostRaceIsQuiet ℓ c.state w' := by
  have hexec : (exec serve (fun _ _ => True) (fun _ _ => True) bothCancel
      ⟨exampleWorld, []⟩).any (fun c => (c.flights[0]?).any fun (_, p) =>
        p.label.any fun ℓ => (p.step c.state).any fun (_, w') =>
          decide (¬ Stands ℓ.order c.state ∧ w'.refunds.nextKey ≠ c.state.refunds.nextKey)) =
      true := by
    decide +kernel
  obtain ⟨c, hrun, h⟩ := exec_any hexec
  obtain ⟨⟨call, p⟩, hi, h⟩ := (Option.any_eq_true ..).mp h
  obtain ⟨ℓ, hℓ, h⟩ := (Option.any_eq_true ..).mp h
  obtain ⟨⟨p', w'⟩, hp, h⟩ := (Option.any_eq_true ..).mp h
  obtain ⟨hmissed, hrefunds⟩ := of_decide_eq_true h
  intro hall
  have hquiet := hall exampleWorld c 0 call p p' ℓ w' hrun hi hℓ hp hmissed
  exact hrefunds (congrArg Table.nextKey hquiet.refunds)

end PrintForge.Orders
