import PrintForge.Payments.Ledger
import PrintForge.Payments.System
import Mathlib.Logic.Function.Basic

/-!
# From tables to ledgers

`ledger w` reads the ledger of every order off the tables, and `Persist` says what no
commit ever takes back: rows stay, the columns that never change do not change, and a
captured attempt stays captured. For each statement the services make there is one lemma
that says what it does to the ledgers.
-/

namespace PrintForge

open Relational Concurrent Function

/-! ## What persists -/

/-- What may happen to an order row. -/
structure Order.Le (a b : Order) : Prop where
  userId : b.userId = a.userId
  tenantId : b.tenantId = a.tenantId
  total : b.total = a.total
  currency : b.currency = a.currency
  razorpayOrderId : a.razorpayOrderId ≠ none → b.razorpayOrderId = a.razorpayOrderId
  paymentAccountId : a.paymentAccountId ≠ none → b.paymentAccountId = a.paymentAccountId

/-- What may happen to an attempt. Captured attempts keep their payment. -/
structure PaymentAttempt.Le (a b : PaymentAttempt) : Prop where
  orderId : b.orderId = a.orderId
  amountPaise : b.amountPaise = a.amountPaise
  tenantId : b.tenantId = a.tenantId
  paymentAccountId : b.paymentAccountId = a.paymentAccountId
  captured : a.status = .captured →
    b.status = .captured ∧ b.razorpayPaymentId = a.razorpayPaymentId

instance : Std.Refl Order.Le := ⟨fun _ => ⟨rfl, rfl, rfl, rfl, fun _ => rfl, fun _ => rfl⟩⟩

instance : IsTrans Order Order.Le where
  trans _ _ _ h h' :=
    { userId := h'.userId.trans h.userId
      tenantId := h'.tenantId.trans h.tenantId
      total := h'.total.trans h.total
      currency := h'.currency.trans h.currency
      razorpayOrderId := fun hn =>
        have hb := h.razorpayOrderId hn
        (h'.razorpayOrderId (hb ▸ hn)).trans hb
      paymentAccountId := fun hn =>
        have hb := h.paymentAccountId hn
        (h'.paymentAccountId (hb ▸ hn)).trans hb }

instance : Std.Refl PaymentAttempt.Le := ⟨fun _ => ⟨rfl, rfl, rfl, rfl, fun h => ⟨h, rfl⟩⟩⟩

instance : IsTrans PaymentAttempt PaymentAttempt.Le where
  trans _ _ _ h h' :=
    { orderId := h'.orderId.trans h.orderId
      amountPaise := h'.amountPaise.trans h.amountPaise
      tenantId := h'.tenantId.trans h.tenantId
      paymentAccountId := h'.paymentAccountId.trans h.paymentAccountId
      captured := fun hs =>
        have hb := h.captured hs
        have hc := h'.captured hb.1
        ⟨hc.1, hc.2.trans hb.2⟩ }

/-- What may happen to a stored event. -/
def WebhookEvent.Le (a b : WebhookEvent) : Prop := b.payload = a.payload

instance : Std.Refl WebhookEvent.Le := ⟨fun _ => rfl⟩

instance : IsTrans WebhookEvent WebhookEvent.Le := ⟨fun _ _ _ h h' => Eq.trans h' h⟩

/-- What every commit leaves of the tables. -/
structure Persist (w w' : World) : Prop where
  orders : w.orders.Evolves Order.Le w'.orders
  attempts : w.paymentAttempts.Evolves PaymentAttempt.Le w'.paymentAttempts
  events : w.webhookEvents.Evolves WebhookEvent.Le w'.webhookEvents

instance : Std.Refl Persist :=
  ⟨fun _ => ⟨Table.evolves_refl _, Table.evolves_refl _, Table.evolves_refl _⟩⟩

instance : IsTrans World Persist where
  trans _ _ _ h h' :=
    ⟨h.orders.trans h'.orders, h.attempts.trans h'.attempts, h.events.trans h'.events⟩

/-! ## What a commit may add -/

/-- What a commit may add beyond that: payment ids, by attempt and order, and payloads of new
webhook events. -/
structure Grants where
  payment : Nat → Nat → String → Prop := fun _ _ _ => False
  payload : RazorpayWebhookPayload → Prop := fun _ => False

structure Keeps (g : Grants) (w w' : World) : Prop extends Persist w w' where
  payments : ∀ a ∈ w'.paymentAttempts, ∀ p, a.razorpayPaymentId = some p →
    (∃ a₀ ∈ w.paymentAttempts, a₀.id = a.id ∧ a₀.orderId = a.orderId ∧
      a₀.razorpayPaymentId = some p) ∨ g.payment a.id a.orderId p
  payloads : ∀ e ∈ w'.webhookEvents,
    (∃ e₀ ∈ w.webhookEvents, e₀.payload = e.payload) ∨ g.payload e.payload

section Keeps

variable {g g' : Grants} {w w' : World}

instance : Std.Refl (Keeps g) where
  refl w :=
    { toPersist := Std.Refl.refl w
      payments := fun a ha _ hp => .inl ⟨a, ha, rfl, rfl, hp⟩
      payloads := fun e he => .inl ⟨e, he, rfl⟩ }

instance : IsTrans World (Keeps g) where
  trans _ _ _ h h' :=
    { toPersist := IsTrans.trans _ _ _ h.toPersist h'.toPersist
      payments := by
        intro a ha p hp
        obtain ⟨b, hb, hid, hord, hbp⟩ | hg := h'.payments a ha p hp
        · obtain ⟨c, hc, hid', hord', hcp⟩ | hg := h.payments b hb p hbp
          · exact .inl ⟨c, hc, hid'.trans hid, hord'.trans hord, hcp⟩
          · exact .inr (hid ▸ hord ▸ hg)
        · exact .inr hg
      payloads := by
        intro e he
        obtain ⟨e₁, he₁, hp⟩ | hg := h'.payloads e he
        · rw [← hp]
          exact h.payloads e₁ he₁
        · exact .inr hg }

theorem Keeps.mono (h : Keeps g w w') (hpay : ∀ k o p, g.payment k o p → g'.payment k o p)
    (hload : ∀ q, g.payload q → g'.payload q) : Keeps g' w w' where
  toPersist := h.toPersist
  payments a ha p hp := (h.payments a ha p hp).imp_right (hpay _ _ _)
  payloads e he := (h.payloads e he).imp_right (hload _)

/-- Most writes go to none of the tables that matter here. -/
theorem keeps_of_eq (ho : w'.orders = w.orders) (ha : w'.paymentAttempts = w.paymentAttempts)
    (he : w'.webhookEvents = w.webhookEvents) : Keeps g w w' where
  orders := by rw [ho]; exact Table.evolves_refl _
  attempts := by rw [ha]; exact Table.evolves_refl _
  events := by rw [he]; exact Table.evolves_refl _
  payments a h _ hp := .inl ⟨a, ha ▸ h, rfl, rfl, hp⟩
  payloads e h := .inl ⟨e, he ▸ h, rfl⟩

theorem keeps_setOrders {t : Table Order} (h : w.orders.Evolves Order.Le t) :
    Keeps g w (Db.orders.set t w) where
  orders := h
  attempts := Table.evolves_refl _
  events := Table.evolves_refl _
  payments a ha _ hp := .inl ⟨a, ha, rfl, rfl, hp⟩
  payloads e he := .inl ⟨e, he, rfl⟩

/-- What a payment may change on an attempt. `S` says which payment ids it may carry then. -/
structure PaymentAttempt.Edit (S : Nat → String → Prop) (a b : PaymentAttempt) : Prop where
  notCaptured : a.status ≠ .captured
  orderId : b.orderId = a.orderId
  amountPaise : b.amountPaise = a.amountPaise
  tenantId : b.tenantId = a.tenantId
  paymentAccountId : b.paymentAccountId = a.paymentAccountId
  payment : ∀ p, b.razorpayPaymentId = some p → a.razorpayPaymentId = some p ∨ S a.id p

theorem keeps_updateAttempts {S : Nat → String → Prop} {p : PaymentAttempt → Bool}
    {f : PaymentAttempt → PaymentAttempt} {hf} {t : Table PaymentAttempt}
    (ht : w.paymentAttempts.update p f hf = some t)
    (hedit : ∀ a ∈ w.paymentAttempts, p a → PaymentAttempt.Edit S a (f a))
    (hS : ∀ a ∈ w.paymentAttempts, ∀ q, S a.id q → g.payment a.id a.orderId q) :
    Keeps g w (Db.paymentAttempts.set t w) where
  orders := Table.evolves_refl _
  attempts := by
    refine Table.evolves_update ht fun a ha hp => ?_
    obtain ⟨hn, ho, hamt, hten, hacc, -⟩ := hedit a ha hp
    exact ⟨ho, hamt, hten, hacc, fun hc => absurd hc hn⟩
  events := Table.evolves_refl _
  payments := by
    intro b hb q hq
    obtain ⟨a, ha, rfl⟩ := (Table.mem_update ht).mp hb
    by_cases hp : p a
    · have hid : (f a).id = a.id := hf a
      simp only [hp, if_true] at hq ⊢
      obtain ⟨-, ho, -, -, -, hpay⟩ := hedit a ha hp
      rw [hid, ho]
      exact (hpay q hq).imp (fun h => ⟨a, ha, rfl, rfl, h⟩) (hS a ha q)
    · simp only [hp] at hq ⊢
      exact .inl ⟨a, ha, rfl, rfl, hq⟩
  payloads e he := .inl ⟨e, he, rfl⟩

theorem keeps_createAttempt {row : Nat → PaymentAttempt} {hk} {t : Table PaymentAttempt}
    (ht : w.paymentAttempts.create row hk = some t)
    (hpay : ∀ k p, (row k).razorpayPaymentId = some p → g.payment k (row k).orderId p) :
    Keeps g w (Db.paymentAttempts.set t w) where
  orders := Table.evolves_refl _
  attempts := Table.evolves_create ht
  events := Table.evolves_refl _
  payments := by
    intro b hb q hq
    obtain hb | rfl := (Table.mem_create ht).mp hb
    · exact .inl ⟨b, hb, rfl, rfl, hq⟩
    · have hid : (row w.paymentAttempts.nextKey).id = w.paymentAttempts.nextKey := hk _
      refine .inr ?_
      rw [hid]
      exact hpay _ _ hq
  payloads e he := .inl ⟨e, he, rfl⟩

/-- An id granted to one row is granted to the order of that row. -/
theorem Keeps.onOrder {k o : Nat} {q : String}
    (h : Keeps { payment := fun k' _ p => k' = k ∧ p = q } w w')
    (ha : ∃ a, w.paymentAttempts.get k = some a ∧ a.orderId = o) :
    Keeps { payment := fun _ o' p => o' = o ∧ p = q } w w' where
  toPersist := h.toPersist
  payments := by
    intro b hb p hp
    obtain hold | ⟨hid, hq⟩ := h.payments b hb p hp
    · exact .inl hold
    · obtain ⟨a, hget, rfl⟩ := ha
      obtain ⟨a', hget', hle⟩ := h.attempts.get hget
      obtain ⟨hmem, hkey⟩ := Table.get_eq_some.mp hget'
      obtain rfl : b = a' := Table.eq_of_key hb hmem (hid.trans hkey.symm)
      exact .inr ⟨hle.orderId, hq⟩
  payloads := h.payloads

theorem keeps_updateEvents {p : WebhookEvent → Bool} {f : WebhookEvent → WebhookEvent} {hf}
    {t : Table WebhookEvent} (ht : w.webhookEvents.update p f hf = some t)
    (hpayload : ∀ e, (f e).payload = e.payload) : Keeps g w (Db.webhookEvents.set t w) where
  orders := Table.evolves_refl _
  attempts := Table.evolves_refl _
  events := Table.evolves_update ht fun e _ _ => hpayload e
  payments a ha _ hp := .inl ⟨a, ha, rfl, rfl, hp⟩
  payloads := by
    intro e he
    obtain ⟨e₀, he₀, rfl⟩ := (Table.mem_update ht).mp he
    refine .inl ⟨e₀, he₀, ?_⟩
    split
    · exact (hpayload e₀).symm
    · rfl

theorem keeps_createEvent {row : Nat → WebhookEvent} {hk} {t : Table WebhookEvent}
    (ht : w.webhookEvents.create row hk = some t)
    (hpayload : ∀ k, g.payload (row k).payload) : Keeps g w (Db.webhookEvents.set t w) where
  orders := Table.evolves_refl _
  attempts := Table.evolves_refl _
  events := Table.evolves_create ht
  payments a ha _ hp := .inl ⟨a, ha, rfl, rfl, hp⟩
  payloads := by
    intro e he
    obtain he | rfl := (Table.mem_create ht).mp he
    · exact .inl ⟨e, he, rfl⟩
    · exact .inr (hpayload _)

end Keeps

/-- The refunds, here and at Razorpay, are left alone. -/
def RefundsSame : World → World → Prop :=
  Tx.Same fun w => (w.refunds, w.providerRefunds, w.reservedBy)

theorem refundsSame_iff {w w' : World} :
    RefundsSame w w' ↔ w'.refunds = w.refunds ∧ w'.providerRefunds = w.providerRefunds ∧
      w'.reservedBy = w.reservedBy := by
  simp [RefundsSame, Tx.Same]

instance : Std.Refl RefundsSame := inferInstanceAs (Std.Refl (Tx.Same _))

instance : IsTrans World RefundsSame := inferInstanceAs (IsTrans World (Tx.Same _))

/-! ## The ledgers of a world -/

def ledger (w : World) (o : Nat) : Ledger where
  status := (w.orders.get o).map (·.status)
  captured := {k | ∃ a ∈ w.paymentAttempts, a.id = k ∧ a.orderId = o ∧ a.status = .captured}
  history := (w.orderStatusHistory.findMany (·.orderId = o)).map
    fun h => (h.fromStatus, h.toStatus)
  notices := {n | ∃ e ∈ w.outboxEvents, e.eventKey = ⟨o, n⟩}

theorem mem_captured {w : World} {o k : Nat} :
    k ∈ (ledger w o).captured ↔
      ∃ a ∈ w.paymentAttempts, a.id = k ∧ a.orderId = o ∧ a.status = .captured := Iff.rfl

theorem mem_notices {w : World} {o : Nat} {n : OutboxEventType} :
    n ∈ (ledger w o).notices ↔ ∃ e ∈ w.outboxEvents, e.eventKey = ⟨o, n⟩ := Iff.rfl

theorem ledger_status_of_get {w : World} {o : Nat} {order : Order}
    (h : w.orders.get o = some order) : (ledger w o).status = some order.status := by
  simp [ledger, h]

theorem ledger_status_of_mem {w : World} {order : Order} (h : order ∈ w.orders) :
    (ledger w order.id).status = some order.status :=
  ledger_status_of_get (Table.get_key h)

/-! ## What each statement does -/

section Statements

variable {w w' : World} {n : Nat}

/-- An update of order columns other than the status. -/
theorem updateOrder_ok {p : Order → Bool} {f : Order → Order} {hf}
    (h : (Db.orders.updateMany p f hf : Transaction Nat) w = .ok (n, w'))
    (hstatus : ∀ o, (f o).status = o.status) : ledger w' = ledger w := by
  obtain ⟨t, ht, -, rfl⟩ := Slot.updateMany_ok h
  funext o
  have hget : (t.get o).map (·.status) = (w.orders.get o).map (·.status) := by
    have hrow : t.get o = (w.orders.get o).map fun r => if p r then f r else r :=
      Table.get_update ht o
    rw [hrow, Option.map_map]
    congr 1
    funext r
    by_cases hp : p r <;> simp [hp, hstatus]
  simp only [ledger, Db.orders, hget]

/-- A compare-and-swap of an order's status. -/
theorem casStatus_ok {id : Nat} {s t : OrderStatus}
    (h : (Db.orders.updateMany (fun o => o.id = id && o.status = s)
      (fun o => { o with status := t }) : Transaction Nat) w = .ok (n, w')) :
    (n = 1 ∧ (ledger w id).status = some s ∧
      ledger w' = update (ledger w) id { ledger w id with status := some t }) ∨
    (n ≠ 1 ∧ (ledger w id).status ≠ some s ∧ w' = w) := by
  have hkey : ∀ o : Order, (decide (o.id = id) && decide (o.status = s)) = true →
      Schema.key o = id := by
    intro o ho
    simp only [Bool.and_eq_true, decide_eq_true_eq] at ho
    exact ho.1
  obtain ⟨h1, o, tbl, ho, hp, ht, rfl⟩ | ⟨h1, hnone, rfl⟩ := Slot.updateMany_key_ok hkey h
  · have hs : o.status = s := by
      simp only [Bool.and_eq_true, decide_eq_true_eq] at hp
      exact hp.2
    refine .inl ⟨h1, by rw [ledger_status_of_get ho, hs], ?_⟩
    funext id'
    have hget : tbl.get id' = if id' = id then _ else w.orders.get id' :=
      Table.get_update_key ht hkey ho hp id'
    by_cases hid : id' = id
    · subst hid
      simp [ledger, Db.orders, hget]
    · simp [ledger, Db.orders, hget, hid]
  · refine .inr ⟨h1, ?_, rfl⟩
    intro hs
    obtain ⟨o, ho, hos⟩ := Option.map_eq_some_iff.mp hs
    obtain ⟨hmem, hid⟩ := Table.get_eq_some.mp ho
    have := hnone o hmem
    simp_all

theorem createHistory_ok {row : Nat → OrderStatusHistory} {hk} {r : OrderStatusHistory}
    (h : (Db.orderStatusHistory.create row hk : Transaction OrderStatusHistory) w = .ok (r, w')) :
    ledger w' = update (ledger w) r.orderId
      { ledger w r.orderId with
        history := (ledger w r.orderId).history ++ [(r.fromStatus, r.toStatus)] } := by
  obtain ⟨t, ht, rfl, rfl⟩ := Slot.create_ok h
  have hrows : t.rows = w.orderStatusHistory.rows ++ [row w.orderStatusHistory.nextKey] :=
    Table.rows_create ht
  funext o
  by_cases ho : o = (row w.orderStatusHistory.nextKey).orderId
  · subst ho
    simp [ledger, Db.orderStatusHistory, Table.findMany, hrows]
    rfl
  · simp [ledger, Db.orderStatusHistory, Table.findMany, hrows, ho, Ne.symm ho]

theorem createOutbox_ok {row : Nat → OutboxEvent} {hk} {r : OutboxEvent}
    (h : (Db.outboxEvents.create row hk : Transaction OutboxEvent) w = .ok (r, w')) :
    r.eventKey.eventType ∉ (ledger w r.eventKey.orderId).notices ∧
      ledger w' = update (ledger w) r.eventKey.orderId
        { ledger w r.eventKey.orderId with
          notices := insert r.eventKey.eventType (ledger w r.eventKey.orderId).notices } := by
  obtain ⟨t, ht, hr, rfl⟩ := Slot.create_ok h
  have hmem : ∀ {e}, e ∈ t ↔ e ∈ w.outboxEvents ∨ e = r := by
    intro e
    rw [hr]
    exact Table.mem_create ht
  constructor
  · rintro ⟨e, he, hkey⟩
    have heq : e = r := Table.eq_of_clash (hmem.mpr (.inl he)) (hmem.mpr (.inr rfl)) hkey
    have hlt : Schema.key e < w.outboxEvents.nextKey := Table.key_lt_nextKey he
    rw [heq, hr, hk] at hlt
    exact absurd hlt (Nat.lt_irrefl _)
  · funext o
    by_cases ho : o = r.eventKey.orderId
    · subst ho
      simp only [ledger, Db.outboxEvents, update_self, Ledger.mk.injEq, true_and]
      ext n
      simp only [Set.mem_ofPred_eq, Set.mem_insert_iff, hmem]
      constructor
      · rintro ⟨e, he | rfl, hkey⟩
        · exact .inr ⟨e, he, hkey⟩
        · exact .inl (by rw [hkey])
      · rintro (rfl | ⟨e, he, hkey⟩)
        · exact ⟨r, .inr rfl, rfl⟩
        · exact ⟨e, .inl he, hkey⟩
    · simp only [ledger, Db.outboxEvents, update_of_ne ho, Ledger.mk.injEq, true_and]
      ext n
      simp only [Set.mem_ofPred_eq, hmem]
      constructor
      · rintro ⟨e, he | rfl, hkey⟩
        · exact ⟨e, he, hkey⟩
        · exact absurd (by rw [hkey]) ho
      · rintro ⟨e, he, hkey⟩
        exact ⟨e, .inl he, hkey⟩

/-- A write to the attempts that captures nothing leaves every ledger as it was. -/
theorem ledger_setAttempts {t : Table PaymentAttempt}
    (h : ∀ k o, (∃ a ∈ t, a.id = k ∧ a.orderId = o ∧ a.status = .captured) ↔
      ∃ a ∈ w.paymentAttempts, a.id = k ∧ a.orderId = o ∧ a.status = .captured) :
    ledger (Db.paymentAttempts.set t w) = ledger w := by
  funext o
  have hc : {k | ∃ a ∈ t, a.id = k ∧ a.orderId = o ∧ a.status = .captured} =
      {k | ∃ a ∈ w.paymentAttempts, a.id = k ∧ a.orderId = o ∧ a.status = .captured} :=
    Set.ext fun k => h k o
  simp only [ledger, Db.paymentAttempts, hc]

theorem ledger_updateAttempts {p : PaymentAttempt → Bool} {f : PaymentAttempt → PaymentAttempt}
    {hf} {t : Table PaymentAttempt} (ht : w.paymentAttempts.update p f hf = some t)
    (hrow : ∀ a ∈ w.paymentAttempts, p a → (f a).orderId = a.orderId ∧
      ((f a).status = .captured ↔ a.status = .captured)) :
    ledger (Db.paymentAttempts.set t w) = ledger w := by
  refine ledger_setAttempts fun k o => ?_
  simp only [Table.mem_update ht]
  constructor
  · rintro ⟨_, ⟨a, ha, rfl⟩, hk, ho, hc⟩
    refine ⟨a, ha, ?_⟩
    by_cases hp : p a
    · simp only [hp, if_true] at hk ho hc
      exact ⟨(hf a).symm.trans hk, (hrow a ha hp).1.symm.trans ho, (hrow a ha hp).2.mp hc⟩
    · simp only [hp] at hk ho hc
      exact ⟨hk, ho, hc⟩
  · rintro ⟨a, ha, hk, ho, hc⟩
    refine ⟨_, ⟨a, ha, rfl⟩, ?_⟩
    by_cases hp : p a
    · simp only [hp, if_true]
      exact ⟨(hf a).trans hk, (hrow a ha hp).1.trans ho, (hrow a ha hp).2.mpr hc⟩
    · simp only [hp]
      exact ⟨hk, ho, hc⟩

theorem createAttempt_ok {row : Nat → PaymentAttempt} {hk} {a : PaymentAttempt}
    (h : (Db.paymentAttempts.create row hk : Transaction PaymentAttempt) w = .ok (a, w'))
    (hs : a.status ≠ .captured) : ledger w' = ledger w := by
  obtain ⟨t, ht, ha, rfl⟩ := Slot.create_ok h
  refine ledger_setAttempts fun k o => ?_
  have hmem : ∀ {b}, b ∈ t ↔ b ∈ w.paymentAttempts ∨ b = a := by
    intro b
    rw [ha]
    exact Table.mem_create ht
  constructor
  · rintro ⟨b, hb, hrest⟩
    rcases hmem.mp hb with hb | rfl
    · exact ⟨b, hb, hrest⟩
    · exact absurd hrest.2.2 hs
  · rintro ⟨b, hb, hrest⟩
    exact ⟨b, hmem.mpr (.inl hb), hrest⟩

/-- Capturing an attempt. By the unique index no other attempt of the order is captured. -/
theorem capture_ok {k : Nat} {f : PaymentAttempt → PaymentAttempt} {hf}
    (h : (Db.paymentAttempts.updateMany (fun a => a.id = k && a.status ≠ .captured) f hf :
      Transaction Nat) w = .ok (n, w'))
    (hstatus : ∀ a, (f a).status = .captured) (horder : ∀ a, (f a).orderId = a.orderId) :
    (n = 1 ∧ ∃ a, w.paymentAttempts.get k = some a ∧ a.status ≠ .captured ∧
      (∀ b ∈ w.paymentAttempts, b.razorpayPaymentId = (f a).razorpayPaymentId →
        b.razorpayPaymentId ≠ none → b.id = k) ∧
      (ledger w a.orderId).captured = ∅ ∧
      ledger w' = update (ledger w) a.orderId { ledger w a.orderId with captured := {k} }) ∨
    (n ≠ 1 ∧ (∀ a, w.paymentAttempts.get k = some a → a.status = .captured) ∧ w' = w) := by
  have hkey : ∀ a : PaymentAttempt, (decide (a.id = k) && decide (a.status ≠ .captured)) = true →
      Schema.key a = k := by
    intro a ha
    simp only [Bool.and_eq_true, decide_eq_true_eq] at ha
    exact ha.1
  obtain ⟨h1, a, t, ha, hp, ht, rfl⟩ | ⟨h1, hnone, rfl⟩ := Slot.updateMany_key_ok hkey h
  · obtain ⟨hmem, hid⟩ := Table.get_eq_some.mp ha
    have hnot : a.status ≠ .captured := by simp_all
    have hnew : f a ∈ t := Table.mem_of_update_true ht hmem hp
    have hold : ∀ b ∈ w.paymentAttempts, b.status = .captured → b ∈ t := fun b hb hc =>
      Table.mem_of_update_false ht hb (by simp [hc])
    have hempty : (ledger w a.orderId).captured = ∅ := by
      ext k'
      simp only [mem_captured, Set.mem_empty_iff_false, iff_false]
      rintro ⟨b, hb, -, hbo, hbc⟩
      have heq : b = f a := Table.eq_of_clash (hold b hb hbc) hnew
        (.inr ⟨hbo.trans (horder a).symm, hbc, hstatus a⟩)
      have hba : b = a := Table.eq_of_key hb hmem (by rw [heq]; exact hf a)
      exact hnot (hba ▸ hbc)
    have hfree : ∀ b ∈ w.paymentAttempts, b.razorpayPaymentId = (f a).razorpayPaymentId →
        b.razorpayPaymentId ≠ none → b.id = k := by
      intro b hb hpay hsome
      by_contra hne
      have hbt : b ∈ t := Table.mem_of_update_false ht hb (by simp [hne])
      have heq : b = f a := Table.eq_of_clash hbt hnew (.inl ⟨hpay, hsome⟩)
      exact hne (by rw [heq]; exact (hf a).trans hid)
    refine .inl ⟨h1, a, ha, hnot, hfree, hempty, ?_⟩
    have hcap : ∀ k' o, (∃ b ∈ t, b.id = k' ∧ b.orderId = o ∧ b.status = .captured) ↔
        (k' = k ∧ o = a.orderId) ∨ k' ∈ (ledger w o).captured := by
      intro k' o
      rw [mem_captured]
      constructor
      · rintro ⟨_, hb, hk', ho, hc⟩
        obtain ⟨b, hbw, rfl⟩ := (Table.mem_update ht).mp hb
        by_cases hpb : (decide (b.id = k) && decide (b.status ≠ .captured)) = true
        · have hba : b = a := Table.eq_of_key hbw hmem ((hkey b hpb).trans hid.symm)
          subst hba
          simp only [hpb, if_true] at hk' ho
          exact .inl ⟨hk'.symm.trans ((hf b).trans hid), ho.symm.trans (horder b)⟩
        · simp only [hpb] at hk' ho hc
          exact .inr ⟨b, hbw, hk', ho, hc⟩
      · rintro (⟨rfl, rfl⟩ | ⟨b, hb, hk', ho, hc⟩)
        · exact ⟨f a, hnew, (hf a).trans hid, horder a, hstatus a⟩
        · exact ⟨b, hold b hb hc, hk', ho, hc⟩
    funext o
    have hset : {k' | ∃ b ∈ t, b.id = k' ∧ b.orderId = o ∧ b.status = .captured} =
        if o = a.orderId then {k} else (ledger w o).captured := by
      ext k'
      rw [Set.mem_ofPred_eq, hcap]
      by_cases ho : o = a.orderId
      · subst ho
        simp [hempty]
      · simp [ho]
    by_cases ho : o = a.orderId
    · subst ho
      simp only [ledger, Db.paymentAttempts, hset, if_true, update_self]
    · simp only [ledger, Db.paymentAttempts, hset, if_neg ho, update_of_ne ho]
  · refine .inr ⟨h1, fun a ha => ?_, rfl⟩
    obtain ⟨hmem, hid⟩ := Table.get_eq_some.mp ha
    have := hnone a hmem
    simp_all

end Statements

end PrintForge
