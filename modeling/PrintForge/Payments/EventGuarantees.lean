import PrintForge.Payments.Captures

/-!
# What holds of stored events in every run

The processor takes a unique violation to mean that another writer has already captured the
payment, and marks the event as processed. The violation may mean something else: the notice of an
earlier failure, or of an earlier payment, is still out, or the payment id stands on an attempt of
another order that is captured. In the last case an event may even be applied in full, and leave
the order it names without a captured payment.
-/

namespace PrintForge

open Relational Concurrent Proc

variable {gateway : Gateway} {w w' : World}
variable {paymentAccounts : Table PaymentAccount} {stores : Table Store} {users : Table User}

/-- What an event that names an order has to have brought about once it is processed. -/
def EffectPresent (w : World) (payload : RazorpayWebhookPayload) : Prop :=
  ∀ payment ∈ payload.payment, ∀ order ∈ w.orders,
    order.razorpayOrderId = some payment.orderId →
      (payload.event = capturedEvent → Matches order payment → OrderCaptured w order.id) ∧
      (payload.event = failedEvent → Closed w payment ∨ ¬ order.status.Unpaid)

instance (w : World) (payload : RazorpayWebhookPayload) : Decidable (EffectPresent w payload) :=
  inferInstanceAs (Decidable (∀ payment ∈ payload.payment, ∀ order ∈ w.orders.rows, _ → _))

/-- Every event that has just been marked as processed has its effect. -/
def MarksWithEffect (w w' : World) : Prop :=
  ∀ e ∈ w'.webhookEvents, e.status = .processed → e ∈ w.webhookEvents ∨
    EffectPresent w' e.payload

instance (w w' : World) : Decidable (MarksWithEffect w w') :=
  inferInstanceAs (Decidable (∀ e ∈ w'.webhookEvents.rows, _ →
    e ∈ w.webhookEvents.rows ∨ _))

/-- An event that captures its payment is applied to an attempt of the order it names, which has
not announced its payment while it is pending, unless the order is captured already. An event of a
failure does not find the order pending again after an earlier one. -/
def EffectDue (w : World) (event : String) (order : Order)
    (paymentEntity : RazorpayPaymentEntity) : Prop :=
  (event = capturedEvent → Matches order paymentEntity → OrderCaptured w order.id ∨
    ownerFor w order paymentEntity = order.id ∧
      (order.status = .pendingPayment → ¬ PaidNotice w order.id)) ∧
  (event ≠ capturedEvent → ¬ FailsAgain w order paymentEntity)

instance (w : World) (event : String) (order : Order) (paymentEntity : RazorpayPaymentEntity) :
    Decidable (EffectDue w event order paymentEntity) :=
  inferInstanceAs (Decidable ((_ → _ → _ ∨ _ ∧ (_ → _)) ∧ (_ → ¬ _)))

/-- The stored event that is processed is as `EffectDue` says. -/
def EventsDue : Commit → World → Prop
  | .processWebhook id, w =>
      ∀ e ∈ lockedEvent id w, ∀ t ∈ eventTarget w e.paymentAccountId e.payload,
        EffectDue w e.payload.event t.1 t.2
  | _, _ => True

instance (w : World) : DecidablePred fun ℓ => EventsDue ℓ w
  | .processWebhook id =>
      inferInstanceAs (Decidable (∀ e ∈ lockedEvent id w, ∀ t ∈ eventTarget w _ _, _))
  | .statement | .checkout | .verifyPayment _ _ _ | .reconcileCapturedPayment _
  | .failStalePendingOrder _ | .performCancellation _ _ | .performRefundRecording _
  | .adminTransitionStatus _ _ | .createRefund _ | .callProvider _ _ =>
      inferInstanceAs (Decidable True)

instance (ℓ : Commit) (w : World) : Decidable (EventsDue ℓ w) :=
  inferInstanceAs (Decidable ((fun ℓ => EventsDue ℓ w) ℓ))

/-! ## The effect of an event -/

section Effects

variable {order : Order} {paymentEntity : RazorpayPaymentEntity}
variable {payload : RazorpayWebhookPayload}

theorem effectPresent_of_ignored (h : paymentOf payload = none) : EffectPresent w payload := by
  intro payment hp order _ _
  have hnot : ¬ (payload.event = capturedEvent ∨ payload.event = failedEvent) := by
    intro he
    rw [paymentOf, Option.filter_eq_none_iff] at h
    exact h payment hp (by simpa using he)
  exact ⟨fun he => absurd (.inl he) hnot, fun he => absurd (.inr he) hnot⟩

/-- What acting on an event leaves behind for its order and its payment. -/
def ActedOn (w : World) (event : String) (order : Order)
    (paymentEntity : RazorpayPaymentEntity) : Prop :=
  if event = capturedEvent then OrderCaptured w order.id else Closed w paymentEntity

theorem effectPresent_of_acted (hp : paymentOf payload = some paymentEntity)
    (hknown : KnownOrder order w) (hrzp : order.razorpayOrderId = some paymentEntity.orderId)
    (ha : ActedOn w payload.event order paymentEntity) : EffectPresent w payload := by
  intro payment hpayment o ho hid
  obtain rfl : payment = paymentEntity := Option.some.inj
    ((Option.mem_def.mp hpayment).symm.trans (Option.filter_eq_some_iff.mp hp).1)
  rw [orderId_of_rzp hknown hrzp o ho hid]
  unfold ActedOn at ha
  split at ha
  · next he => exact ⟨fun _ _ => ha, fun hf => by simp [he, capturedEvent, failedEvent] at hf⟩
  · next hne => exact ⟨fun he => absurd he hne, fun _ => .inl ha⟩

/-- Acting on an event that is due leaves its effect behind. -/
theorem actOnEvent_acted {event : String} {paymentAccountId : Option Nat}
    {outcome : WebhookOutcome} (hord : w.orders.get order.id = some order)
    (hdue : EffectDue w event order paymentEntity)
    (h : (do
      let attempt ← findOrCreateAttemptFor paymentAccountId order paymentEntity
      applyPaymentEvent event order attempt paymentEntity) w = .ok (outcome, w')) :
    ActedOn w' event order paymentEntity := by
  obtain ⟨attempt, w₁, hfind, happly⟩ := Tx.bind_ok.mp h
  obtain ⟨hledger, hatt, hpay, -⟩ := findOrCreateAttemptFor_found hfind
  have howner := findOrCreateAttemptFor_owner hfind
  have hsame : w₁.orders = w.orders :=
    within_findOrCreateAttemptFor (R := Tx.Same World.orders) (fun _ _ => rfl) _ _ _ hfind
  have hord₁ : w₁.orders.get order.id = some order := hsame ▸ hord
  have hmem : attempt ∈ w₁.paymentAttempts := (Table.get_eq_some.mp hatt).1
  unfold applyPaymentEvent at happly
  unfold ActedOn
  by_cases he : event = capturedEvent
  · rw [if_pos he] at happly ⊢
    obtain ⟨⟨⟩, w₂, hcap, hret⟩ := Tx.bind_ok.mp happly
    cases hret
    obtain ⟨hmatch, hcaptured⟩ := applyCaptured_recorded hord₁ hcap hatt
    have hbefore : OrderCaptured w₁ order.id ↔ OrderCaptured w order.id :=
      orderCaptured_congr (by rw [hledger])
    obtain hc | ⟨hown, -⟩ := hdue.1 he hmatch
    · obtain ⟨-, rfl⟩ | ⟨hrecorded, -⟩ := hcaptured
      · exact hbefore.mpr hc
      · exact (hrecorded.captured _).mpr (.inl (hbefore.mpr hc))
    · rw [howner, hown] at hcaptured
      obtain ⟨hc, rfl⟩ | ⟨hrecorded, -⟩ := hcaptured
      · exact hc
      · exact (hrecorded.captured _).mpr (.inr rfl)
  · rw [if_neg he] at happly ⊢
    obtain ⟨⟨⟩, w₂, hfail, hret⟩ := Tx.bind_ok.mp happly
    cases hret
    obtain ⟨hs, rfl⟩ | ⟨-, -, -, -, a, ha, -, hs, hid⟩ := applyFailed_ok hord₁ hatt hfail
    · exact ⟨attempt, hmem, hpay, hs⟩
    · exact ⟨a, ha, hid, .inr hs⟩

/-- Nothing else is marked than the event that was processed, and that has its effect. -/
theorem processEvent_marks {id : Nat} (hdue : EventsDue (.processWebhook id) w)
    (h : processEvent id w = .ok ((), w')) : MarksWithEffect w w' := by
  have hpersist : Persist w w' := applied_ok h ▸ (Written.processWebhook id).persist w
  unfold processEvent at h
  simp only [query_transaction, Tx.bind_read] at h
  cases hlock : lockedEvent id w with
  | none =>
      rw [hlock] at h
      cases h
      exact fun e he _ => .inl he
  | some e =>
      rw [hlock] at h
      obtain ⟨outcome, w₁, happly, hmark⟩ := Tx.bind_ok.mp h
      obtain ⟨row, w₂, hupd, hret⟩ := Tx.bind_ok.mp hmark
      cases hret
      have hevents : w₁.webhookEvents = w.webhookEvents := within_applyStoredEvent e happly
      obtain ⟨e₀, t, -, ht, -, rfl⟩ := Slot.update_ok hupd
      intro e' he' hs
      obtain ⟨e₁, he₁, rfl⟩ := (Table.mem_update ht).mp he'
      split at hs
      · next hkey =>
        -- the row that is marked is that of the event
        rw [if_pos hkey]
        have hrow : e ∈ w.webhookEvents := lockedEvent_mem hlock
        obtain rfl : e₁ = e := Table.eq_of_key (hevents ▸ he₁) hrow (by simpa using hkey)
        refine .inr ?_
        cases ht : eventTarget w e₁.paymentAccountId e₁.payload with
        | none =>
            obtain ⟨hnone, -⟩ | hignored := applyStoredEvent_untargeted ht
            · exact effectPresent_of_ignored hnone
            · cases hignored.symm.trans happly
              cases hs
        | some target =>
            obtain ⟨order, p⟩ := target
            obtain ⟨hp, hfound, -⟩ := eventTarget_eq_some.mp ht
            obtain ⟨hmem, hrzp⟩ := Table.findFirst_some hfound
            have hacted := actOnEvent_acted (Table.get_key hmem) (hdue _ hlock _ ht)
              ((applyStoredEvent_target ht).symm.trans happly)
            exact effectPresent_of_acted hp ((knownOrder_of_mem hmem).later hpersist)
              (by simpa using hrzp) hacted
      · rw [if_neg (by assumption)]
        exact .inl (hevents ▸ he₁)

/-- A stored event that is due and whose transaction broke an index has had its effect all the
same: its order was captured before. -/
theorem effect_of_processEvent_clash {id : Nat} (hdue : EventsDue (.processWebhook id) w)
    (h : processEvent id w = .error .uniqueViolation) :
    ∃ e order paymentEntity, lockedEvent id w = some e ∧ order ∈ w.orders ∧
      paymentOf e.payload = some paymentEntity ∧
      order.razorpayOrderId = some paymentEntity.orderId ∧
      e.payload.event = capturedEvent ∧ OrderCaptured w order.id := by
  obtain ⟨e, order, p, he, ht, herr⟩ := processEvent_error h
  obtain ⟨hp, hord, -⟩ := eventTarget_eq_some.mp ht
  obtain ⟨hmem, hid⟩ := Table.findFirst_some hord
  obtain ⟨hcapture, hfail⟩ := hdue e he _ ht
  refine ⟨e, order, p, he, hmem, hp, by simpa using hid, ?_⟩
  cases herr with
  | unknown hne _ => exact absurd rfl hne
  | mismatch _ hne _ => exact absurd rfl hne
  | captured hev _ hm hc =>
      refine ⟨hev, ?_⟩
      obtain hbefore | ⟨hown, hnotice⟩ := hcapture hev hm
      · exact hbefore
      · rw [hown] at hc
        obtain hc | ⟨hpending, hn⟩ := hc
        · exact captured_nonempty.mp hc
        · exact absurd hn (hnotice hpending)
  | terminal _ hne _ => exact absurd rfl hne
  | repeated hev _ hs hn ha hf =>
      obtain ⟨n, hn, hkey⟩ := hn
      exact absurd ⟨hs, ⟨n, hn, hkey⟩, ha, hf⟩ (hfail hev)

end Effects

/-! ## Other writes -/

/-- No event is marked as processed. -/
def MarksNothing (w w' : World) : Prop :=
  ∀ e ∈ w'.webhookEvents, e.status = .processed → e ∈ w.webhookEvents

theorem marksNothing_of_eq (h : w'.webhookEvents = w.webhookEvents) : MarksNothing w w' :=
  fun _ he _ => h ▸ he

instance : Std.Refl MarksNothing := ⟨fun _ => marksNothing_of_eq rfl⟩

instance : IsTrans World MarksNothing := ⟨fun _ _ _ h h' e he hs => h e (h' e he hs) hs⟩

/-- An event is not processed when it is stored. -/
theorem marksNothing_store {razorpayEventId : String} {payload : RazorpayWebhookPayload}
    {paymentAccountId : Option Nat} {now : Nat} :
    Tx.Within MarksNothing (insertWebhookEvent razorpayEventId payload paymentAccountId now) := by
  refine Tx.within_bind (Slot.within_createOrIgnore fun w t ht => ?_) fun _ => Tx.within_pure _
  intro e he hs
  obtain he | rfl := (Table.mem_create ht).mp he
  · exact he
  · cases hs

theorem marksNothing_frame : IgnoresPayments MarksNothing :=
  ⟨inferInstance, inferInstance, fun _ _ => marksNothing_of_eq rfl,
    fun _ _ => marksNothing_of_eq rfl, fun _ _ => marksNothing_of_eq rfl,
    fun _ _ => marksNothing_of_eq rfl⟩

theorem marksNothing_desk : DeskFrame MarksNothing where
  refl := inferInstance
  trans := inferInstance
  refunds _ _ := marksNothing_of_eq rfl
  books _ _ _ := marksNothing_of_eq rfl
  transitionWithHistory :=
    within_transitionOrderWithHistory marksNothing_frame.frame.toTransitionFrame
  place _ := Tx.within_bind (Slot.within_create fun _ _ _ => marksNothing_of_eq rfl) fun _ =>
    Tx.within_bind (Slot.within_create fun _ _ _ => marksNothing_of_eq rfl)
      fun _ => Tx.within_pure _

theorem marksNothing_applied {α : Type} {tx : Transaction α} (h : Tx.Within MarksNothing tx)
    (w : World) : MarksNothing w (applied tx w) :=
  applied_within h w

/-- A listed write that marks no event as processed. -/
def Unmarking (ℓ : Commit) (upd : World → World) : Prop :=
  Written ℓ upd ∧ ∀ w, MarksNothing w (upd w)

/-- Only a request about a stored event marks it. -/
theorem Ordinary.unmarking {ℓ : Commit} {upd : World → World} (h : Ordinary none ℓ upd) :
    Unmarking ℓ upd := by
  refine ⟨h.plain.written, fun w => ?_⟩
  cases h with
  | transaction h hℓ hrefund hown =>
      refine h.other marksNothing_frame.whole marksNothing_desk hℓ (fun id he => ?_) w
      cases hown id he
  | bindPaymentAccount orderId paymentAccountId =>
      exact marksNothing_applied (Slot.within_updateMany fun _ _ _ => marksNothing_of_eq rfl) w
  | associateRazorpayOrder orderId razorpayOrderId =>
      exact marksNothing_applied (Slot.within_updateMany fun _ _ _ => marksNothing_of_eq rfl) w
  | openAttempt row hk hrow =>
      exact marksNothing_applied (Slot.within_create fun _ _ _ => marksNothing_of_eq rfl) w
  | insertWebhookEvent razorpayEventId payload paymentAccountId now =>
      exact marksNothing_applied marksNothing_store w
  | safeUpdate id data hk hsame hown => cases hown
  | administer paymentAccounts stores users => exact marksNothing_of_eq rfl
  | failProviderRefund razorpayRefundId => exact marksNothing_of_eq rfl

theorem reopenWrites_unmarking : ReopenWrites Unmarking where
  reopenOrder order h := ⟨.reopenOrder order h, fun w =>
    marksNothing_applied (Slot.within_updateMany fun _ _ _ => marksNothing_of_eq rfl) w⟩
  logTransition row hk := ⟨.logTransition row hk, fun w =>
    marksNothing_applied (Slot.within_create fun _ _ _ => marksNothing_of_eq rfl) w⟩

theorem refundWrites_unmarking : RefundWrites Unmarking where
  createRefund _ _ _ _ :=
    ⟨.createRefund _ _ _ _, fun w =>
      marksNothing_applied (within_reserveRefund marksNothing_desk.toRefundFrame _ _ _ _) w⟩
  callProvider _ _ _ :=
    ⟨.callProvider _ _ _, fun w =>
      marksNothing_applied (within_bookProviderRefund marksNothing_desk.toRefundFrame _ _ _) w⟩
  settleRefund p f hk := ⟨.settleRefund p f hk, fun w =>
    marksNothing_applied (Slot.within_updateMany fun _ _ _ => marksNothing_of_eq rfl) w⟩

/-- Every request but that of the processor leaves the marks alone. -/
theorem commits_unmarking {n : Nat} {req : AnyRequest}
    (h : ∀ id now, req ≠ .service (.processOne id now)) :
    Commits Unmarking (handleAny gateway n req) := by
  cases req with
  | store razorpayEventId payload paymentAccountId now =>
      exact (commits_execute ⟨.insertWebhookEvent _ _ _ _,
        applied_within marksNothing_store⟩).bind fun _ => commits_pure _
  | service req =>
      have hown : ownEvent req = none := by
        cases req with
        | processOne id now => exact absurd rfl (h id now)
        | _ => rfl
      exact commits_handle_of (fun _ _ hw => (hown ▸ hw).unmarking) reopenWrites_unmarking
        refundWrites_unmarking n

/-! ## Runs -/

/-- What the services keep to in the runs in which every event that is processed is due. -/
def marking : Discipline World Commit where
  inv _ := True
  ok := EventsDue
  rely _ := Persist
  guar _ _ w w' := Persist w w' ∧ MarksWithEffect w w'
  rely_refl _ w := Std.Refl.refl w
  rely_trans h h' := IsTrans.trans _ _ _ h h'
  inv_guar _ _ _ := trivial
  rely_guar _ _ _ h := h.1

/-- Recording what became of an event, other than that it was processed. -/
theorem marking_safeUpdate {i id : Nat} {data : WebhookEvent → WebhookEvent} {hdata}
    (hsame : ∀ e : WebhookEvent, e.SameDelivery (data e))
    (hs : ∀ e, (data e).status ≠ .processed) :
    marking.Safe i (fun _ _ => True) (safeUpdate id data hdata) w := by
  unfold safeUpdate
  rw [Proc.tryCatch_def, Proc.bind_def, Proc.finish_assoc]
  refine Discipline.safe_transact (fun w₁ row w₂ _ _ _ hupd => ⟨⟨?_, ?_⟩, fun _ =>
    Discipline.safe_done fun _ _ _ => trivial⟩) (fun w₁ e _ _ _ _ =>
      ⟨⟨Std.Refl.refl _, fun e he _ => .inl he⟩, Discipline.safe_done fun _ _ _ => trivial⟩)
  · exact applied_ok hupd ▸ (Written.safeUpdate id data hdata hsame).persist w₁
  · obtain ⟨e₁, t, -, ht, -, rfl⟩ := Slot.update_ok hupd
    intro e he hp
    obtain ⟨e₀, he₀, rfl⟩ := (Table.mem_update ht).mp he
    split at hp
    · exact absurd hp (hs e₀)
    · rw [if_neg (by assumption)]
      exact .inl he₀

/-- After a unique violation the event is marked as processed. -/
theorem marking_swallow {i id : Nat}
    (heffect : ∃ e order paymentEntity, lockedEvent id w = some e ∧ order ∈ w.orders ∧
      paymentOf e.payload = some paymentEntity ∧
      order.razorpayOrderId = some paymentEntity.orderId ∧
      e.payload.event = capturedEvent ∧ OrderCaptured w order.id) :
    marking.Safe i (fun _ _ => True)
      (safeUpdate id fun e => { e with status := .processed }) w := by
  unfold safeUpdate
  rw [Proc.tryCatch_def, Proc.bind_def, Proc.finish_assoc]
  refine Discipline.safe_transact (fun w₁ row w₂ hl _ _ hupd => ⟨⟨?_, ?_⟩, fun _ =>
    Discipline.safe_done fun _ _ _ => trivial⟩) (fun w₁ e _ _ _ _ =>
      ⟨⟨Std.Refl.refl _, fun e he _ => .inl he⟩, Discipline.safe_done fun _ _ _ => trivial⟩)
  · exact applied_ok hupd ▸ (Written.safeUpdate id (fun e => { e with status := .processed })
      (fun _ => rfl) fun _ => ⟨rfl, rfl⟩).persist w₁
  · obtain ⟨e₁, t, hget, ht, -, rfl⟩ := Slot.update_ok hupd
    intro e' he' _
    obtain ⟨e₀, he₀, rfl⟩ := (Table.mem_update ht).mp he'
    split
    · next hkey =>
      -- the row is still that of the event whose transaction broke the index
      obtain ⟨e, order, p, he, hmem, hp, hid, hev, hc⟩ := heffect
      obtain ⟨e₂, hget₂, hpayload⟩ := hl.events.get (Option.filter_eq_some_iff.mp he).1
      obtain rfl : e₂ = e₁ := Option.some.inj (hget₂.symm.trans hget)
      have hkey₂ : e₀.id = e₂.id := by
        have hk : e₀.id = id := by simpa using hkey
        exact hk.trans (Table.get_eq_some.mp hget).2.symm
      obtain rfl : e₀ = e₂ := Table.eq_of_key he₀ (Table.get_eq_some.mp hget).1 hkey₂
      have hpayload : e₀.payload = e.payload := hpayload
      have hacted : ActedOn w₁ e₀.payload.event order p := by
        rw [ActedOn, hpayload, if_pos hev]
        exact hc.later hl
      have hknown : KnownOrder order w₁ := (knownOrder_of_mem hmem).later hl
      have hp : paymentOf e₀.payload = some p := hpayload ▸ hp
      exact .inr (effectPresent_of_acted hp hknown hid hacted)
    · exact .inl he₀

theorem marking_processOne {i id now : Nat} :
    marking.Safe i (fun _ _ => True) (processOne id now) w := by
  unfold processOne
  rw [Proc.bind_def]
  refine Discipline.safe_attempt (fun w₁ _ w₂ _ _ hdue h => ⟨⟨?_, ?_⟩, fun _ =>
    Discipline.safe_done fun _ _ _ => trivial⟩) (fun w₁ err _ _ hdue h =>
      ⟨⟨Std.Refl.refl _, fun e he _ => .inl he⟩, ?_⟩)
  · exact applied_ok h ▸ (Written.processWebhook id).persist w₁
  · exact processEvent_marks hdue h
  · simp only [Proc.onResult]
    split
    · next hunique =>
      obtain rfl : err = .uniqueViolation := by
        cases err <;> simp_all [ServiceError.isUniqueConstraintViolation]
      exact marking_swallow (effect_of_processEvent_clash hdue h)
    · split
      · exact marking_safeUpdate (fun _ => ⟨rfl, rfl⟩) fun _ => by simp
      · split
        · exact marking_safeUpdate (fun _ => ⟨rfl, rfl⟩) fun _ => by simp
        · exact marking_safeUpdate (fun _ => ⟨rfl, rfl⟩) fun _ => by simp

theorem marking_handleAny {i : Nat} (req : AnyRequest) :
    marking.Safe i (fun _ _ => True) (handleAny gateway i req) w := by
  by_cases hreq : ∃ id now, req = .service (.processOne id now)
  · obtain ⟨id, now, rfl⟩ := hreq
    exact Discipline.Safe.bind_pure marking_processOne trivial fun _ _ _ _ => trivial
  · have hcommits : Commits Unmarking (handleAny gateway i req) :=
      commits_unmarking fun id now he => hreq ⟨id, now, he⟩
    exact Discipline.safe_of_within
      (hcommits.within (G := fun _ w w' => Persist w w' ∧ MarksNothing w w')
        fun ℓ upd w h => ⟨h.1.persist w, h.2 w⟩)
      fun ℓ w w' _ _ h => ⟨h.1, fun e he hs => .inl (h.2 e he hs)⟩

/-- As long as the events that are processed are due, an event is only marked as processed when its
effect is there, whatever is stored. -/
theorem processed_only_with_effect {c c' : HostileConfig}
    (hrun : ReachesWhen gateway EventsDue (.initial paymentAccounts stores users) c)
    (hstep : Step (handleAny gateway) (fun _ _ => True) EventsDue c c') :
    MarksWithEffect c.state c'.state := by
  have hidle : marking.Holds (fun _ _ _ _ => True)
      (HostileConfig.initial paymentAccounts stores users) := Discipline.holds_idle trivial
  have hholds : marking.Holds (fun _ _ _ _ => True) c :=
    hidle.run (Nat.zero_le _) (fun _ req _ _ _ _ => marking_handleAny req) hrun
  obtain hsame | ⟨i, ℓ, -, hguar⟩ := hholds.commit hstep
  · rw [hsame]
    exact fun e he _ => .inl he
  · exact hguar.2

/-- A failed payment, a second attempt, and the step that captures it. -/
theorem processed_only_with_effect_captured :
    ∃ c c' : HostileConfig, (∃ e ∈ c'.state.webhookEvents, e ∉ c.state.webhookEvents ∧
      e.status = .processed ∧ e.payload.event = capturedEvent) ∧
      MarksWithEffect c.state c'.state := by
  have hrun : (followAny EventsDue (services (exampleOrder ++ deliver 2 0 "failed pay_1" ++
      serve 4 (.initiatePayment 0 0 (.ok "order_2")) 6 ++
      serve 5 (.receiveWebhook "captured pay_2" "signature" (some "event_2") 0) 1 ++
      serve 6 (.processOne 1 0) 0)) exampleOpening).any (fun c =>
        (act (handleAny exampleGateway) (fun _ _ => True) EventsDue (.advance 6) c).any fun c' =>
          c'.state.webhookEvents.rows.any fun e =>
            decide (e ∉ c.state.webhookEvents.rows ∧ e.status = .processed ∧
              e.payload.event = capturedEvent)) = true := by
    decide +kernel
  obtain ⟨c, hc, h⟩ := exec_any hrun
  obtain ⟨c', hc', h⟩ := act_any h
  obtain ⟨e, he, h⟩ := List.any_eq_true.mp h
  have hnew := of_decide_eq_true h
  exact ⟨c, c', ⟨e, he, hnew⟩, processed_only_with_effect hc hc'⟩

/-- The second failure of a payment for one order cannot be announced, and its event ends as
processed although nothing of it was recorded. -/
theorem processed_without_effect :
    ¬ ∀ (gateway : Gateway) (paymentAccounts : Table PaymentAccount) (stores : Table Store)
      (users : Table User) (c c' : HostileConfig),
        ReachesAny gateway (.initial paymentAccounts stores users) c →
          Step (handleAny gateway) (fun _ _ => True) (fun _ _ => True) c c' →
            MarksWithEffect c.state c'.state := by
  have hrun : (followAny (fun _ _ => True) (services (exampleOrder ++
      deliver 2 0 "failed pay_1" ++ serve 4 (.initiatePayment 0 0 (.ok "order_2")) 6 ++
      serve 5 (.receiveWebhook "failed pay_2" "signature" (some "event_2") 0) 1 ++
      serve 6 (.processOne 1 0) 1)) exampleOpening).any (fun c =>
        (act (handleAny exampleGateway) (fun _ _ => True) (fun _ _ => True) (.advance 6) c).any
          fun c' => decide (¬ MarksWithEffect c.state c'.state)) = true := by
    decide +kernel
  obtain ⟨c, hc, h⟩ := exec_any hrun
  obtain ⟨c', hc', h⟩ := act_any h
  exact fun hall => of_decide_eq_true h (hall _ _ _ _ c c' hc hc')

/-- An event of one merchant that names the failed payment of another is applied in full, and its
order has no captured payment. -/
theorem foreign_capture_without_effect :
    ¬ ∀ (gateway : Gateway) (paymentAccounts : Table PaymentAccount) (stores : Table Store)
      (users : Table User) (c c' : HostileConfig),
        ReachesAny gateway (.initial paymentAccounts stores users) c →
          Step (handleAny gateway) (fun _ _ => True) (fun _ _ => True) c c' →
            MarksWithEffect c.state c'.state := by
  have hrun : (followAny (fun _ _ => True) (hostileEvent "pay_1" ++
      serveAny 7 (.service (.processOne 1 0)) 0) hostileStart).any (fun c =>
        (act (handleAny exampleGateway) (fun _ _ => True) (fun _ _ => True) (.advance 7) c).any
          fun c' => decide (¬ MarksWithEffect c.state c'.state)) = true := by
    decide +kernel
  obtain ⟨c, hc, h⟩ := exec_any hrun
  obtain ⟨c', hc', h⟩ := act_any h
  exact fun hall => of_decide_eq_true h (hall _ _ _ _ c c' hc hc')

end PrintForge
