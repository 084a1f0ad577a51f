import PrintForge.Concurrent.Obligations
import PrintForge.Notifications.Outbox

/-!
# No event is lost, unless a poller crashes with one in hand

To take an event is an obligation: the poller that has claimed it comes to an update that settles
it, whichever way the e-mail goes. Nothing but that update ends it, and the poll only looks at
pending events. A poller that crashes between the two leaves its event behind.
-/

namespace PrintForge.Notifications

open Relational Concurrent Proc

variable {w w' : World} {id : Nat}

/-- The event has been claimed and not been settled. -/
def Processing (id : Nat) (w : World) : Prop :=
  ∃ e, w.outboxEvents.get id = some e ∧ e.status = .processing

/-- Nothing is claimed that was not claimed before. -/
def ClaimsNothing (w w' : World) : Prop := ∀ id, Processing id w' → Processing id w

theorem claimsNothing_refl (w : World) : ClaimsNothing w w := fun _ h => h

theorem claimsNothing_of_same (h : w'.outboxEvents = w.outboxEvents) : ClaimsNothing w w' := by
  intro id hid
  rwa [Processing, h] at hid

/-! ## Settling -/

/-- An update of one event that leaves its key alone rewrites that event if it is there, and there
is nothing else it does. -/
theorem update_event (id : Nat) (f : OutboxEvent → OutboxEvent) (hf : ∀ e, (f e).id = e.id)
    (hkey : ∀ e, (f e).eventKey = e.eventKey) (w : World) :
    (∃ e t, w.outboxEvents.get id = some e ∧
      (∀ k, t.get k = if k = id then some (f e) else w.outboxEvents.get k) ∧
      (Db.outboxEvents.update id f hf : Transaction OutboxEvent) w =
        .ok (f e, { w with outboxEvents := t })) ∨
    (w.outboxEvents.get id = none ∧
      (Db.outboxEvents.update id f hf : Transaction OutboxEvent) w = .error .recordNotFound) := by
  cases hget : w.outboxEvents.get id with
  | none =>
      refine .inr ⟨rfl, ?_⟩
      have hnone : (Db.outboxEvents.get w).get id = none := hget
      simp only [Slot.update, hnone]
      rfl
  | some e =>
      have hclash : ∀ a ∈ Db.outboxEvents.get w, ∀ b ∈ Db.outboxEvents.get w,
          Schema.Clash (if Schema.key a = id then f a else a)
              (if Schema.key b = id then f b else b) → Schema.Clash a b := by
        intro a _ b _ h
        have hsame : ∀ e : OutboxEvent,
            (if Schema.key e = id then f e else e).eventKey = e.eventKey := by
          intro e
          split
          · exact hkey e
          · rfl
        exact (hsame a).symm.trans (h.trans (hsame b))
      have hexists : ∃ t, (Db.outboxEvents.update id f hf : Transaction OutboxEvent) w =
          .ok (f e, Db.outboxEvents.set t w) ∧
            ∀ k, t.get k = if k = id then some (f e) else w.outboxEvents.get k :=
        Slot.exists_update_ok hget hclash
      obtain ⟨t, ht, hrows⟩ := hexists
      exact .inl ⟨e, t, rfl, hrows, ht⟩

variable {f : Int → OutboxEvent → OutboxEvent} {hf : ∀ now e, (f now e).id = e.id}

/-- The last update ends the claim. -/
theorem settles_settle (hkey : ∀ now e, (f now e).eventKey = e.eventKey)
    (hstatus : ∀ now e, (f now e).status ≠ .processing) {E : Except HttpError Unit → Prop} :
    (settle id f hf).Settles Processing id E := by
  intro w₀
  refine settles_transact fun w hafter => ?_
  obtain ⟨e, hget, hprocessing⟩ := hafter
  obtain ⟨e₀, t, -, hrows, hupdate⟩ | ⟨hnone, hupdate⟩ :=
    update_event id (f w₀.now) (hf w₀.now) (hkey w₀.now) w
  · rw [applied_ok (Tx.bind_ok.mpr ⟨_, _, hupdate, rfl⟩)] at hget
    have hrow := hrows id
    rw [if_pos rfl] at hrow
    obtain rfl := Option.some.inj (hrow.symm.trans hget)
    exact hstatus w₀.now e₀ hprocessing
  · rw [applied_error (Tx.bind_error.mpr (.inl hupdate)), hnone] at hget
    cases hget

/-- It claims nothing either. -/
theorem within_settle (hkey : ∀ now e, (f now e).eventKey = e.eventKey)
    (hstatus : ∀ now e, (f now e).status ≠ .processing) :
    (settle id f hf).Within fun _ => ClaimsNothing := by
  refine (within_read _).bind fun now => ?_
  refine within_transact claimsNothing_refl fun w a w' htx => ?_
  obtain ⟨_, w₁, hupdate, hreturn⟩ := Tx.bind_ok.mp htx
  cases hreturn
  intro k hk
  obtain ⟨e, hget, hprocessing⟩ := hk
  obtain ⟨e₀, t, -, hrows, hupdate'⟩ | ⟨-, hupdate'⟩ :=
    update_event id (f now) (hf now) (hkey now) w
  · cases hupdate.symm.trans hupdate'
    have hrow := (hrows k).symm.trans hget
    split at hrow
    · cases hrow
      exact absurd hprocessing (hstatus now e₀)
    · exact ⟨e, hrow, hprocessing⟩
  · cases hupdate.symm.trans hupdate'

theorem settles_markSent {E : Except HttpError Unit → Prop} :
    (markSent id).Settles Processing id E := by
  unfold markSent
  refine settles_settle ?_ ?_
  · exact fun _ _ => rfl
  · simp

theorem settles_markUndeliverable {E : Except HttpError Unit → Prop} :
    (markUndeliverable id).Settles Processing id E := by
  unfold markUndeliverable
  refine settles_settle ?_ ?_
  · exact fun _ _ => rfl
  · simp

theorem within_markSent : (markSent id).Within fun _ => ClaimsNothing := by
  unfold markSent
  refine within_settle ?_ ?_
  · exact fun _ _ => rfl
  · simp

theorem within_markUndeliverable : (markUndeliverable id).Within fun _ => ClaimsNothing := by
  unfold markUndeliverable
  refine within_settle ?_ ?_
  · exact fun _ _ => rfl
  · simp

theorem discharges_markFailedOrRetry (claimed : OutboxEvent) (err : HttpError) :
    (markFailedOrRetry claimed err).Discharges Processing claimed.id := by
  unfold markFailedOrRetry
  dsimp only
  split
  · refine settles_settle ?_ ?_
    · exact fun _ _ => rfl
    · simp
  · refine settles_settle ?_ ?_
    · exact fun _ _ => rfl
    · simp

theorem within_markFailedOrRetry (claimed : OutboxEvent) (err : HttpError) :
    (markFailedOrRetry claimed err).Within fun _ => ClaimsNothing := by
  unfold markFailedOrRetry
  dsimp only
  split
  · refine within_settle ?_ ?_
    · exact fun _ _ => rfl
    · simp
  · refine within_settle ?_ ?_
    · exact fun _ _ => rfl
    · simp

/-! ## One event -/

theorem within_resolveRecipientEmail (payload : Payload) :
    (resolveRecipientEmail payload).Within fun _ => ClaimsNothing := by
  unfold resolveRecipientEmail
  split
  · exact within_pure _
  · exact (within_read _).bind fun _ => within_pure _
  · exact within_pure _

theorem within_send (params : SendEmailParams) (failure : Option String) :
    (send params failure).Within fun _ => ClaimsNothing := by
  unfold send
  split
  · exact within_throw _
  · refine within_transact claimsNothing_refl fun w a w' htx => ?_
    cases htx
    exact claimsNothing_of_same rfl

/-- Sending settles the event, or fails before it has. -/
theorem settles_deliver (failure : Option String) (claimed : OutboxEvent) :
    (deliver failure claimed).Settles Processing claimed.id fun r => ∃ e, r = .error e := by
  unfold deliver
  split
  · exact settles_markSent
  · refine settles_bind _ (fun recipient => ?_) fun e => ⟨e, rfl⟩
    split
    · exact settles_markUndeliverable
    · exact settles_bind _ (fun _ => settles_markSent) fun e => ⟨e, rfl⟩

theorem within_deliver (failure : Option String) (claimed : OutboxEvent) :
    (deliver failure claimed).Within fun _ => ClaimsNothing := by
  unfold deliver
  split
  · exact within_markSent
  · refine (within_resolveRecipientEmail _).bind fun recipient => ?_
    split
    · exact within_markUndeliverable
    · exact (within_send _ _).bind fun _ => within_markSent

/-- A claim takes the event it returns, and no other. -/
theorem claim_ok {claimed : Option OutboxEvent} (h : claim id w = .ok (claimed, w')) :
    (claimed = none ∧ w' = w) ∨
      ∃ row, claimed = some row ∧ ∀ k, Processing k w' → Processing k w ∨ k = row.id := by
  rw [claim, Tx.bind_read] at h
  cases hrow : (w.outboxEvents.get id).filter (·.status = .pending) with
  | none =>
      rw [hrow] at h
      cases h
      exact .inl ⟨rfl, rfl⟩
  | some row =>
      rw [hrow] at h
      obtain ⟨_, w₁, hupdate, hreturn⟩ := Tx.bind_ok.mp h
      cases hreturn
      refine .inr ⟨row, rfl, fun k hk => ?_⟩
      obtain ⟨e, hget, hprocessing⟩ := hk
      obtain ⟨e₀, t, -, hrows, hupdate'⟩ | ⟨-, hupdate'⟩ :=
        update_event row.id (fun e => { e with status := .processing }) (fun _ => rfl)
          (fun _ => rfl) w
      · cases hupdate.symm.trans hupdate'
        have hafter := (hrows k).symm.trans hget
        split at hafter
        · next hk => exact .inr hk
        · exact .inl ⟨e, hafter, hprocessing⟩
      · cases hupdate.symm.trans hupdate'

theorem careful_processOne (failures : Nat → Option String) (id : Nat) :
    (processOne failures id).Careful Processing := by
  refine careful_transact (fun w claimed w' htx => ?_) fun e => trivial
  obtain ⟨rfl, rfl⟩ | ⟨row, rfl, hclaims⟩ := claim_ok htx
  · exact ⟨fun o ho => .inl ho, trivial⟩
  · have hsettles : (tryCatch (deliver (failures row.id) row) (markFailedOrRetry row)).Discharges
        Processing row.id :=
      (settles_deliver _ row).tryCatch (discharges_markFailedOrRetry row)
    have hwithin : (tryCatch (deliver (failures row.id) row) (markFailedOrRetry row)).Within
        fun _ => ClaimsNothing :=
      (within_deliver _ row).tryCatch (within_markFailedOrRetry row)
    refine ⟨fun k hk => ?_, careful_of_within hwithin⟩
    obtain hbefore | rfl := hclaims k hk
    · exact .inl hbefore
    · exact .inr hsettles

theorem careful_processAll (failures : Nat → Option String) (ids : List Nat) :
    (processAll failures ids).Careful Processing := by
  induction ids with
  | nil => trivial
  | cons id ids ih => exact (careful_processOne failures id).bind fun _ => ih

/-! ## Everything served -/

theorem enqueueOutboxEvent_ok {event : OutboxEventInput} {a : Unit}
    (h : enqueueOutboxEvent event w = .ok (a, w')) : ClaimsNothing w w' := by
  rw [enqueueOutboxEvent, Tx.bind_read] at h
  obtain ⟨row, w₁, hcreate, hreturn⟩ := Tx.bind_ok.mp h
  cases hreturn
  obtain ⟨t, ht, -, rfl⟩ := Slot.create_ok hcreate
  intro k hk
  obtain ⟨e, hget, hprocessing⟩ := hk
  have hrow := (Table.get_create ht k).symm.trans hget
  split at hrow
  · cases hrow
    cases hprocessing
  · exact ⟨e, hrow, hprocessing⟩

theorem careful_handle (i : Nat) (req : Request) : (handle i req).Careful Processing := by
  cases req with
  | processPendingEvents failures => exact fun w => careful_processAll failures (findDue w)
  | enqueueOutboxEvent event =>
      refine careful_of_within (within_transact claimsNothing_refl fun w a w' htx => ?_)
      exact enqueueOutboxEvent_ok htx
  | wait elapsed =>
      have hwithin : (handle i (.wait elapsed)).Within fun _ => ClaimsNothing := by
        unfold handle
        refine within_transact claimsNothing_refl fun w a w' htx => ?_
        cases htx
        exact claimsNothing_of_same rfl
      exact careful_of_within hwithin

/-- A poll at some later time selects the event. -/
def Selectable (now : Int) (e : OutboxEvent) : Prop := ∃ later, now ≤ later ∧ due later e = true

theorem selectable_of_pending {e : OutboxEvent} (h : e.status = .pending) (now : Int) :
    Selectable now e := by
  refine ⟨max now e.availableAt, le_max_left _ _, ?_⟩
  simp [due, h]

abbrev MortalPollers := Mortal World Request Commit HttpError Unit

/-- The event is sent, has failed for good, can be selected, or is in the hands of a poller that
is alive and will settle it. -/
def Accounted (m : MortalPollers) (e : OutboxEvent) : Prop :=
  e.status = .sent ∨ e.status = .failed ∨ Selectable m.config.state.now e ∨
    m.Held Processing e.id

/-- As long as pollers crash only while they have no event in hand, no event is lost. -/
theorem no_event_lost {w : World} (hw : ∀ e ∈ w.outboxEvents, e.status ≠ .processing)
    {m : MortalPollers}
    (hrun : Mortal.Run handle (fun _ _ => True) (fun _ _ => True) (Mortal.Unburdened Processing)
      ⟨⟨w, []⟩, []⟩ m) :
    ∀ e ∈ m.config.state.outboxEvents, Accounted m e := by
  have hidle : Mortal.Accounted Processing (⟨⟨w, []⟩, []⟩ : MortalPollers) := by
    refine Mortal.accounted_idle fun id hid => ?_
    obtain ⟨e, hget, hprocessing⟩ := hid
    exact hw e (Table.get_eq_some.mp hget).1 hprocessing
  have hm : Mortal.Accounted Processing m :=
    hidle.run careful_handle (fun _ hp => hp) hrun
  intro e he
  cases hstatus : e.status with
  | pending => exact .inr (.inr (.inl (selectable_of_pending hstatus _)))
  | processing => exact .inr (.inr (.inr (hm.held e.id ⟨e, Table.get_key he, hstatus⟩)))
  | sent => exact .inl hstatus
  | failed => exact .inr (.inl hstatus)

/-! ### Two runs with one event -/

/-- A database with nothing in it. -/
def quiet : World := ⟨.empty, .empty, 0, []⟩

/-- Store an event and let a poller take `n` actions. -/
def pollAfterEnqueue (failures : Nat → Option String) (n : Nat) : Option OutboxConfig :=
  exec handle (fun _ _ => True) (fun _ _ => True)
    ([.accept (.enqueueOutboxEvent ⟨.orderPaid, "order-paid:1", ⟨some "a@example.com", none, none,
      some "PF-1", none, false⟩⟩), .advance 0, .accept (.processPendingEvents failures)] ++
      List.replicate n (.advance 1)) ⟨quiet, []⟩

theorem no_event_lost_refused :
    ∃ m : MortalPollers,
      m.config.state.outboxEvents.rows.map (fun e => (e.status, e.attempts)) = [(.pending, 1)] ∧
        ∀ e ∈ m.config.state.outboxEvents, Accounted m e := by
  have hrun : (pollAfterEnqueue (fun _ => some "Resend send failed") 4).any (fun c =>
      decide (c.state.outboxEvents.rows.map (fun e => (e.status, e.attempts)) =
        [(.pending, 1)])) = true := by
    decide +kernel
  obtain ⟨c, hc, hstatus⟩ := exec_any hrun
  refine ⟨⟨c, []⟩, of_decide_eq_true hstatus, ?_⟩
  exact no_event_lost (w := quiet) (fun e he => absurd he (Table.not_mem_empty e))
    (Mortal.run_of_run hc fun _ _ => List.not_mem_nil)

/-- A poller that crashes after its claim leaves an event that nobody holds and no poll selects. -/
theorem event_lost_by_crash :
    ¬ ∀ (w : World) (m : MortalPollers), (∀ e ∈ w.outboxEvents, e.status ≠ .processing) →
      Mortal.Run handle (fun _ _ => True) (fun _ _ => True) (fun _ => True) ⟨⟨w, []⟩, []⟩ m →
        ∀ e ∈ m.config.state.outboxEvents, Accounted m e := by
  have hrun : (pollAfterEnqueue (fun _ => none) 2).any (fun c =>
      decide (c.flights.length = 2 ∧ ∃ e ∈ c.state.outboxEvents.rows, e.status = .processing)) =
        true := by
    decide +kernel
  obtain ⟨c, hc, hlost⟩ := exec_any hrun
  obtain ⟨hlength, e, he, hprocessing⟩ := of_decide_eq_true hlost
  have hflight : ∀ i (hi : i < c.flights.length),
      c.flights[i]? = some (c.flights[i].1, c.flights[i].2) :=
    fun i hi => List.getElem?_eq_getElem hi
  have hcrashes : Mortal.Run handle (fun _ _ => True) (fun _ _ => True) (fun _ => True)
      ⟨⟨quiet, []⟩, []⟩ (⟨c, [0, 1]⟩ : MortalPollers) := by
    have hbefore : Mortal.Run handle (fun _ _ => True) (fun _ _ => True) (fun _ => True)
        ⟨⟨quiet, []⟩, []⟩ (⟨c, []⟩ : MortalPollers) :=
      Mortal.run_of_run hc fun _ _ => List.not_mem_nil
    have hpoller : Mortal.Step handle (fun _ _ => True) (fun _ _ => True) (fun _ => True)
        (⟨c, []⟩ : MortalPollers) ⟨c, [1]⟩ := .crash (hflight 1 (by omega)) trivial
    have hother : Mortal.Step handle (fun _ _ => True) (fun _ _ => True) (fun _ => True)
        (⟨c, [1]⟩ : MortalPollers) ⟨c, [0, 1]⟩ := .crash (hflight 0 (by omega)) trivial
    exact (hbefore.tail hpoller).tail hother
  intro hall
  obtain hsent | hfailed | ⟨later, -, hdue⟩ | ⟨i, req, p, hget, hlive, -⟩ :=
    hall quiet ⟨c, [0, 1]⟩ (fun e he => absurd he (Table.not_mem_empty e)) hcrashes e he
  · rw [hprocessing] at hsent
    cases hsent
  · rw [hprocessing] at hfailed
    cases hfailed
  · simp [due, hprocessing] at hdue
  · have hlt : i < 2 := hlength ▸ (List.getElem?_eq_some_iff.mp hget).1
    have hcases : i = 0 ∨ i = 1 := by omega
    obtain rfl | rfl := hcases
    · exact hlive (by simp)
    · exact hlive (by simp)

end PrintForge.Notifications
