import PrintForge.Concurrent.Leases
import PrintForge.Notifications.Guarantees

/-!
# One poller to an event

A claim finds the event pending and leaves it processing, and what is processing nobody claims. So
an event is in the hands of the poller that has claimed it and of nobody else, until that poller
settles it. Only then does its status change, and the number of its attempts.
-/

namespace PrintForge.Notifications

open Relational Concurrent Proc

/-- The attempts made are within the maximum, and there is one left of an event that may still be
sent. -/
structure InBounds (e : OutboxEvent) : Prop where
  attempts : e.attempts ≤ maxAttempts
  left : e.status = .pending ∨ e.status = .processing → e.attempts < maxAttempts

def Bounded (w : World) : Prop := ∀ id e, w.outboxEvents.get id = some e → InBounds e

/-- The event is as its poller has left it. -/
def Claimed (row : OutboxEvent) (w : World) : Prop :=
  ∃ e, w.outboxEvents.get row.id = some e ∧ e.status = .processing ∧ e.attempts = row.attempts

/-- The event a claim takes. -/
def claimable (id : Nat) (w : World) : Option OutboxEvent :=
  (w.outboxEvents.get id).filter (·.status = .pending)

/-- What a poller may make of an event that it has claimed. -/
structure Settlement (row : OutboxEvent) (f : OutboxEvent → OutboxEvent) : Prop where
  key : ∀ e, (f e).eventKey = e.eventKey
  status : ∀ e, (f e).status ≠ .processing
  attempts : ∀ e, e.attempts = row.attempts → e.attempts ≤ (f e).attempts
  bounds : ∀ e, e.attempts = row.attempts → e.attempts < maxAttempts → InBounds (f e)

/-! ## The writes -/

inductive Takes : Commit → (World → World) → (World → Option OutboxEvent) → Prop
  | claim (id : Nat) : Takes (.claim id) (applied (claim id)) (claimable id)
  | enqueue (event : OutboxEventInput) :
      Takes .enqueue (applied (enqueueOutboxEvent event)) fun _ => none
  | wait (elapsed : Nat) : Takes .wait
      (applied (modify fun w => { w with now := w.now + elapsed } : Transaction Unit)) fun _ => none

inductive Keeps : OutboxEvent → Commit → (World → World) → Prop
  | send (row : OutboxEvent) (params : SendEmailParams) : Keeps row .send
      (applied (modify fun w => { w with delivered := w.delivered ++ [params] } : Transaction Unit))

inductive Gives : OutboxEvent → Commit → (World → World) → Prop
  | settle {row : OutboxEvent} {f : OutboxEvent → OutboxEvent} {hf : ∀ e, (f e).id = e.id}
      (h : Settlement row f) : Gives row (.settle row.id)
        (applied (do let _ ← Db.outboxEvents.update row.id f hf; return () : Transaction Unit))

variable {w : World} {row : OutboxEvent}

/-- A claim takes the pending event, and does nothing where there is none. -/
theorem claim_cases (id : Nat) (w : World) :
    (claimable id w = none ∧ claim id w = .ok (none, w)) ∨
      ∃ row t, claimable id w = some row ∧ row.id = id ∧ row.status = .pending ∧
        w.outboxEvents.get id = some row ∧
        claim id w = .ok (some row, { w with outboxEvents := t }) ∧
        ∀ k, t.get k = if k = id then some { row with status := .processing }
          else w.outboxEvents.get k := by
  cases hrow : claimable id w with
  | none =>
      have hfilter : (w.outboxEvents.get id).filter (·.status = .pending) = none := hrow
      refine .inl ⟨rfl, ?_⟩
      rw [claim, Tx.bind_read, hfilter]
      rfl
  | some row =>
      obtain ⟨hget, hpending⟩ := Option.filter_eq_some_iff.mp hrow
      have hid : row.id = id := (Table.get_eq_some.mp hget).2
      obtain ⟨e, t, he, hrows, hupdate⟩ | ⟨hnone, -⟩ :=
        update_event row.id (fun e => { e with status := .processing }) (fun _ => rfl)
          (fun _ => rfl) w
      · rw [hid] at he hrows
        cases hget.symm.trans he
        refine .inr ⟨row, t, rfl, hid, of_decide_eq_true hpending, hget, ?_, hrows⟩
        have hfilter : (w.outboxEvents.get id).filter (·.status = .pending) = some row := hrow
        rw [claim, Tx.bind_read, hfilter]
        exact Tx.bind_ok.mpr ⟨_, _, hupdate, rfl⟩
      · rw [hid, hget] at hnone
        cases hnone

/-- A settlement rewrites the event that has been claimed. -/
theorem settle_cases {f : OutboxEvent → OutboxEvent} {hf : ∀ e, (f e).id = e.id}
    (h : Settlement row f) (hw : Claimed row w) :
    ∃ e t, w.outboxEvents.get row.id = some e ∧ e.status = .processing ∧
      e.attempts = row.attempts ∧
      (do let _ ← Db.outboxEvents.update row.id f hf; return () : Transaction Unit) w
        = .ok ((), { w with outboxEvents := t }) ∧
      ∀ k, t.get k = if k = row.id then some (f e) else w.outboxEvents.get k := by
  obtain ⟨e, hget, hstatus, hattempts⟩ := hw
  obtain ⟨e', t, he', hrows, hupdate⟩ | ⟨hnone, -⟩ := update_event row.id f hf h.key w
  · cases hget.symm.trans he'
    exact ⟨e, t, hget, hstatus, hattempts, Tx.bind_ok.mpr ⟨_, _, hupdate, rfl⟩, hrows⟩
  · cases hget.symm.trans hnone

/-- An event that is stored is pending and has not been attempted. -/
theorem enqueue_cases (event : OutboxEventInput) (w : World) :
    applied (enqueueOutboxEvent event) w = w ∨
      ∃ e t, e.status = .pending ∧ e.attempts = 0 ∧
        w.outboxEvents.get w.outboxEvents.nextKey = none ∧
        applied (enqueueOutboxEvent event) w = { w with outboxEvents := t } ∧
        ∀ k, t.get k = if k = w.outboxEvents.nextKey then some e else w.outboxEvents.get k := by
  cases htx : enqueueOutboxEvent event w with
  | error err => exact .inl (applied_error htx)
  | ok result =>
      right
      obtain ⟨a, w'⟩ := result
      rw [applied_ok htx]
      rw [enqueueOutboxEvent, Tx.bind_read] at htx
      obtain ⟨r, w₁, hcreate, hreturn⟩ := Tx.bind_ok.mp htx
      cases hreturn
      obtain ⟨t, ht, rfl, rfl⟩ := Slot.create_ok hcreate
      let stored : OutboxEvent :=
        { id := w.outboxEvents.nextKey, eventType := event.eventType, eventKey := event.eventKey
          payload := event.payload, status := .pending, attempts := 0, availableAt := w.now
          lastError := none, processedAt := none }
      refine ⟨stored, t, rfl, rfl, Table.get_eq_none_of_le (Nat.le_refl _), rfl, fun k => ?_⟩
      have hk := Table.get_create ht k
      by_cases hkey : k = w.outboxEvents.nextKey
      · subst hkey
        rw [if_pos rfl]
        exact hk.trans (if_pos rfl)
      · rw [if_neg hkey]
        exact hk.trans (if_neg hkey)

/-! ## What a write does to an event -/

/-- The attempts of an event are not taken back, and what has been sent stays so. -/
structure Onward (e e' : OutboxEvent) : Prop where
  attempts : e.attempts ≤ e'.attempts
  sent : e.status = .sent → e'.status = .sent

theorem onward_refl (e : OutboxEvent) : Onward e e := ⟨Nat.le_refl _, id⟩

/-- Every event is still there, and has gone on. -/
def AllOnward (w w' : World) : Prop :=
  ∀ id e, w.outboxEvents.get id = some e →
    ∃ e', w'.outboxEvents.get id = some e' ∧ Onward e e'

theorem allOnward_of_same {w' : World} (h : w'.outboxEvents = w.outboxEvents) : AllOnward w w' := by
  intro id e he
  rw [h]
  exact ⟨e, he, onward_refl e⟩

/-- One event has been rewritten. -/
theorem allOnward_set {w' : World} {id : Nat} {e e' : OutboxEvent}
    (hget : w.outboxEvents.get id = some e) (he : Onward e e')
    (hrows : ∀ k, w'.outboxEvents.get k = if k = id then some e' else w.outboxEvents.get k) :
    AllOnward w w' := by
  intro k x hx
  rw [hrows]
  by_cases hk : k = id
  · subst hk
    cases hget.symm.trans hx
    exact ⟨e', if_pos rfl, he⟩
  · exact ⟨x, (if_neg hk).trans hx, onward_refl x⟩

theorem Takes.onward {ℓ : Commit} {upd : World → World} {taken : World → Option OutboxEvent}
    (h : Takes ℓ upd taken) (w : World) : AllOnward w (upd w) := by
  cases h with
  | claim id =>
      obtain ⟨-, hclaim⟩ | ⟨row, t, -, -, hpending, hget, hclaim, hrows⟩ := claim_cases id w
      · rw [applied_ok hclaim]
        exact allOnward_of_same rfl
      · rw [applied_ok hclaim]
        have honward : Onward row { row with status := .processing } := by
          refine ⟨Nat.le_refl _, fun hsent => ?_⟩
          rw [hpending] at hsent
          cases hsent
        exact allOnward_set hget honward hrows
  | enqueue event =>
      obtain hsame | ⟨e, t, -, -, hnone, happlied, hrows⟩ := enqueue_cases event w
      · rw [hsame]
        exact allOnward_of_same rfl
      · rw [happlied]
        intro k x hx
        have hk : k ≠ w.outboxEvents.nextKey := by
          rintro rfl
          cases hnone.symm.trans hx
        exact ⟨x, ((hrows k).trans (if_neg hk)).trans hx, onward_refl x⟩
  | wait elapsed => exact allOnward_of_same rfl

theorem Gives.onward {ℓ : Commit} {upd : World → World} (h : Gives row ℓ upd)
    (hw : Claimed row w) : AllOnward w (upd w) := by
  cases h with
  | settle h =>
      obtain ⟨e, t, hget, hprocessing, hattempts, hsettle, hrows⟩ := settle_cases h hw
      rw [applied_ok hsettle]
      refine allOnward_set hget ⟨h.attempts e hattempts, fun hsent => ?_⟩ hrows
      rw [hprocessing] at hsent
      cases hsent

/-! ## Claims as leases -/

/-- What is read off the label of a commit: a claim takes its event where that is pending, and a
settlement ends the claim. -/
def inHand : Commit → World → Option Nat → Option Nat
  | .claim id, w, h => ((claimable id w).map (·.id)).or h
  | .settle _, _, _ => none
  | _, _, h => h

theorem bounded_set {w' : World} {id : Nat} {e' : OutboxEvent} (hw : Bounded w) (he : InBounds e')
    (hrows : ∀ k, w'.outboxEvents.get k = if k = id then some e' else w.outboxEvents.get k) :
    Bounded w' := by
  intro k x hx
  rw [hrows] at hx
  split at hx
  · cases hx
    exact he
  · exact hw k x hx

theorem claimed_of_rows {w' : World} {id : Nat} {e' : OutboxEvent}
    (hrows : ∀ k, w'.outboxEvents.get k = if k = id then some e' else w.outboxEvents.get k)
    (hne : row.id ≠ id) (h : Claimed row w) : Claimed row w' := by
  obtain ⟨e, hget, hrest⟩ := h
  exact ⟨e, ((hrows row.id).trans (if_neg hne)).trans hget, hrest⟩

/-- An event that is claimed is not pending. -/
theorem not_claimable (h : Claimed row w) : claimable row.id w = none := by
  obtain ⟨e, hget, hprocessing, -⟩ := h
  rw [claimable, hget, Option.filter_some, hprocessing]
  rfl

theorem Takes.bounded {ℓ : Commit} {upd : World → World} {taken : World → Option OutboxEvent}
    (h : Takes ℓ upd taken) (hw : Bounded w) : Bounded (upd w) := by
  cases h with
  | claim id =>
      obtain ⟨-, hclaim⟩ | ⟨row, t, -, -, hpending, hget, hclaim, hrows⟩ := claim_cases id w
      · rw [applied_ok hclaim]
        exact hw
      · rw [applied_ok hclaim]
        have hrow := hw id row hget
        have hbounds : InBounds { row with status := .processing } :=
          ⟨hrow.attempts, fun _ => hrow.left (.inl hpending)⟩
        exact bounded_set hw hbounds hrows
  | enqueue event =>
      obtain hsame | ⟨e, t, -, hattempts, -, happlied, hrows⟩ := enqueue_cases event w
      · rw [hsame]
        exact hw
      · rw [happlied]
        refine bounded_set hw ⟨?_, fun _ => ?_⟩ hrows
        · rw [hattempts]
          exact Nat.zero_le _
        · rw [hattempts]
          decide
  | wait elapsed => exact hw

theorem Takes.claimed {ℓ : Commit} {upd : World → World} {taken : World → Option OutboxEvent}
    (h : Takes ℓ upd taken) (htaken : taken w = some row) : Claimed row (upd w) := by
  cases h with
  | claim id =>
      obtain ⟨hnone, -⟩ | ⟨r, t, hr, hid, -, -, hclaim, hrows⟩ := claim_cases id w
      · cases hnone.symm.trans htaken
      · cases hr.symm.trans htaken
        rw [applied_ok hclaim]
        exact ⟨_, (hrows row.id).trans (if_pos hid), rfl, rfl⟩
  | enqueue event => cases htaken
  | wait elapsed => cases htaken

theorem Takes.others {ℓ : Commit} {upd : World → World} {taken : World → Option OutboxEvent}
    (h : Takes ℓ upd taken) (hrow : Claimed row w) : Claimed row (upd w) := by
  cases h with
  | claim id =>
      obtain ⟨-, hclaim⟩ | ⟨r, t, hr, hid, -, -, hclaim, hrows⟩ := claim_cases id w
      · rw [applied_ok hclaim]
        exact hrow
      · rw [applied_ok hclaim]
        refine claimed_of_rows hrows ?_ hrow
        rintro rfl
        cases (not_claimable hrow).symm.trans hr
  | enqueue event =>
      obtain hsame | ⟨e, t, -, -, hnone, happlied, hrows⟩ := enqueue_cases event w
      · rw [hsame]
        exact hrow
      · rw [happlied]
        refine claimed_of_rows hrows ?_ hrow
        intro hkey
        obtain ⟨x, hget, -⟩ := hrow
        rw [hkey, hnone] at hget
        cases hget
  | wait elapsed => exact hrow

/-- A claim is a lease of its event. -/
def claims : Leases World Commit OutboxEvent Nat where
  takes := Takes
  keeps := Keeps
  gives := Gives
  about row := row.id
  valid := Claimed
  inv := Bounded
  note := inHand
  inv_takes h hw := h.bounded hw
  valid_takes h _ htaken := h.claimed htaken
  apart := by
    intro ℓ upd taken w r r' h _ htaken hr' habout
    cases h with
    | claim id =>
        obtain ⟨hnone, -⟩ | ⟨row, t, hrow, hid, -, -, -, -⟩ := claim_cases id w
        · cases hnone.symm.trans htaken
        · cases hrow.symm.trans htaken
          have hnone := not_claimable hr'
          rw [habout, hid] at hnone
          cases hnone.symm.trans hrow
    | enqueue event => cases htaken
    | wait elapsed => cases htaken
  kept_takes h _ hrow := h.others hrow
  note_takes h := by
    cases h with
    | claim id => exact Option.or_none
    | enqueue event => rfl
    | wait elapsed => rfl
  inv_keeps h hw _ := by
    cases h with
    | send params => exact hw
  kept_keeps h hrow := by
    cases h with
    | send params => exact hrow
  note_keeps h := by
    cases h with
    | send params => rfl
  inv_gives h hw hrow := by
    cases h with
    | settle h =>
        obtain ⟨e, t, hget, hprocessing, hattempts, hsettle, hrows⟩ := settle_cases h hrow
        rw [applied_ok hsettle]
        exact bounded_set hw (h.bounds e hattempts ((hw _ e hget).left (.inr hprocessing))) hrows
  kept_gives h hrow hrow' hne := by
    cases h with
    | settle h =>
        obtain ⟨e, t, -, -, -, hsettle, hrows⟩ := settle_cases h hrow
        rw [applied_ok hsettle]
        exact claimed_of_rows hrows hne hrow'
  note_gives h := by
    cases h with
    | settle h => rfl

/-! ## The pollers -/

section Pollers

variable {Q : Except HttpError Unit → Option OutboxEvent → Prop}

theorem settle_leads {f : Int → OutboxEvent → OutboxEvent} {hf : ∀ now e, (f now e).id = e.id}
    (h : ∀ now, Settlement row (f now)) (hQ : Q (.ok ()) none) :
    claims.Leads Q (some row) (settle row.id f hf) := by
  refine Leases.Leads.bind (R := fun _ o => o = some row) (Leases.leads_read _ fun _ => rfl) ?_
  rintro now o rfl
  refine Leases.leads_gives (.settle (h now)) (fun _ _ _ _ _ => hQ) ?_
  intro w err hw herr
  obtain ⟨e, t, -, -, -, hsettle, -⟩ := settle_cases (h now) hw
  cases hsettle.symm.trans herr

theorem settlement_kept {f : OutboxEvent → OutboxEvent} (hkey : ∀ e, (f e).eventKey = e.eventKey)
    (hstatus : ∀ e, (f e).status = .sent ∨ (f e).status = .failed)
    (hattempts : ∀ e, (f e).attempts = e.attempts) : Settlement row f := by
  refine ⟨hkey, fun e => ?_, fun e _ => (hattempts e).ge, fun e _ hlt => ⟨?_, fun hopen => ?_⟩⟩
  · obtain h | h := hstatus e
    · simp [h]
    · simp [h]
  · rw [hattempts]
    exact hlt.le
  · obtain h | h := hstatus e
    · simp [h] at hopen
    · simp [h] at hopen

theorem markSent_leads (hQ : Q (.ok ()) none) : claims.Leads Q (some row) (markSent row.id) :=
  settle_leads (fun _ => settlement_kept (fun _ => rfl) (fun _ => .inl rfl) fun _ => rfl) hQ

theorem markUndeliverable_leads (hQ : Q (.ok ()) none) :
    claims.Leads Q (some row) (markUndeliverable row.id) :=
  settle_leads (fun _ => settlement_kept (fun _ => rfl) (fun _ => .inr rfl) fun _ => rfl) hQ

/-- The next attempt is one of those that are left, or the last has been made. -/
theorem markFailedOrRetry_leads (err : HttpError) (hQ : Q (.ok ()) none) :
    claims.Leads Q (some row) (markFailedOrRetry row err) := by
  unfold markFailedOrRetry
  dsimp only
  split
  · refine settle_leads (fun now => ⟨fun _ => rfl, fun _ => ?_, fun e he => ?_, ?_⟩) hQ
    · simp
    · dsimp only
      omega
    · intro e he hlt
      refine ⟨?_, fun hopen => ?_⟩
      · dsimp only
        omega
      · simp at hopen
  · next hleft =>
    refine settle_leads (fun now => ⟨fun _ => rfl, fun _ => ?_, fun e he => ?_, ?_⟩) hQ
    · simp
    · dsimp only
      omega
    · intro e he hlt
      refine ⟨?_, fun _ => ?_⟩
      · dsimp only
        omega
      · dsimp only
        omega

theorem resolveRecipientEmail_leads
    {R : Except HttpError (Option String) → Option OutboxEvent → Prop} (payload : Payload)
    (hR : ∀ email, R (.ok email) (some row)) :
    claims.Leads R (some row) (resolveRecipientEmail payload) := by
  unfold resolveRecipientEmail
  split
  · exact Leases.leads_pure (hR _)
  · refine Leases.Leads.bind (R := fun _ o => o = some row) (Leases.leads_read _ fun _ => rfl) ?_
    rintro user o rfl
    exact Leases.leads_pure (hR _)
  · exact Leases.leads_pure (hR _)

theorem send_leads (params : SendEmailParams) (failure : Option String)
    (hok : Q (.ok ()) (some row)) (herr : ∀ err, Q (.error err) (some row)) :
    claims.Leads Q (some row) (send params failure) := by
  unfold send
  split
  · exact Leases.leads_throw (herr _)
  · exact Leases.leads_keeps (.send row params) (fun _ _ _ _ _ => hok) fun _ err _ _ => herr err

/-- An event is settled, or sending it has failed and it is still in hand. -/
theorem deliver_leads (failure : Option String) (hok : Q (.ok ()) none)
    (herr : ∀ err, Q (.error err) (some row)) :
    claims.Leads Q (some row) (deliver failure row) := by
  unfold deliver
  split
  · exact markSent_leads hok
  · refine Leases.Leads.bind (R := fun _ o => o = some row)
      (resolveRecipientEmail_leads _ fun _ => rfl) ?_
    rintro recipient o rfl
    split
    · exact markUndeliverable_leads hok
    · refine Leases.Leads.bind (R := fun _ o => o = some row) (send_leads _ _ rfl herr) ?_
      rintro - o rfl
      exact markSent_leads hok

theorem processOne_leads (failures : Nat → Option String) (id : Nat) :
    claims.Returns (processOne failures id) none := by
  refine Leases.Leads.bind (R := fun claimed o => claimed = o) ?_ ?_
  · refine Leases.leads_takes (claimable id) (.claim id) (fun w a w' htx => ?_) fun w err htx => ?_
    · obtain ⟨hnone, hclaim⟩ | ⟨r, t, hr, -, -, -, hclaim, -⟩ := claim_cases id w
      · cases hclaim.symm.trans htx
        exact hnone.symm
      · cases hclaim.symm.trans htx
        exact hr.symm
    · obtain ⟨-, hclaim⟩ | ⟨r, t, -, -, -, -, hclaim, -⟩ := claim_cases id w
      · cases hclaim.symm.trans htx
      · cases hclaim.symm.trans htx
  · rintro claimed o rfl
    cases claimed with
    | none => exact Leases.leads_pure rfl
    | some row =>
        refine Leases.Leads.tryCatch (R := fun _ o => o = some row)
          (deliver_leads _ rfl fun _ => rfl) ?_
        rintro err o rfl
        exact markFailedOrRetry_leads err rfl

theorem processAll_leads (failures : Nat → Option String) (ids : List Nat) :
    claims.Returns (processAll failures ids) none := by
  induction ids with
  | nil => exact Leases.leads_pure rfl
  | cons id ids ih =>
      refine Leases.Leads.bind (R := fun _ o => o = none) ?_ ?_
      · refine (processOne_leads failures id).mono fun r o ho => ?_
        cases r with
        | ok a => exact ho
        | error err => exact ho
      · rintro - o rfl
        exact ih

/-- Whatever is served, claims are kept to. -/
theorem handle_leads (i : Nat) (req : Request) : claims.Returns (handle i req) none := by
  cases req with
  | processPendingEvents failures =>
      refine Leases.Leads.bind (R := fun _ o => o = none) (Leases.leads_read _ fun _ => rfl) ?_
      rintro ids o rfl
      exact processAll_leads failures ids
  | enqueueOutboxEvent event =>
      exact Leases.leads_takes _ (.enqueue event) (fun _ _ _ _ => rfl) fun _ _ _ => rfl
  | wait elapsed =>
      exact Leases.leads_takes (D := claims) _ (.wait elapsed) (fun _ _ _ _ => rfl) fun _ _ _ => rfl

end Pollers

/-- In every run no two ticks have one event in hand, only an event in hand is sent, the attempts of
no event are taken back or exceed the maximum, and what has been sent stays so. -/
theorem one_sender_at_a_time {w : World} (hw : Bounded w) {c : OutboxConfig}
    {hands : Nat → Option Nat}
    (h : claims.Noted handle (fun _ _ => True) (fun _ _ => True) ⟨w, []⟩ c hands) :
    (∀ i j id, hands i = some id → hands j = some id → i = j) ∧
      (∀ e ∈ c.state.outboxEvents, e.attempts ≤ maxAttempts) ∧
        ∀ i c', Advances (fun _ _ => True) i c c' →
          AllOnward c.state c'.state ∧
            (c.nextLabel i = some .send → ∃ id e, hands i = some id ∧
              c.state.outboxEvents.get id = some e ∧ e.status = .processing) := by
  obtain ⟨held, hkept, hhands⟩ := h.kept handle_leads hw
  refine ⟨fun i j id => h.unique handle_leads hw, fun e he => ?_, fun i c' hmove => ?_⟩
  · exact (hkept.inv e.id e (Table.get_key he)).attempts
  · have hleased := (hkept.move hmove).1
    subst hhands
    dsimp only
    generalize held i = o at hleased ⊢
    cases hleased with
    | rests hℓ hs =>
        rw [hs]
        refine ⟨allOnward_of_same rfl, fun hsend => ?_⟩
        cases hℓ.symm.trans hsend
    | takes htakes hℓ hs =>
        rw [hs]
        refine ⟨htakes.onward c.state, fun hsend => ?_⟩
        obtain rfl := Option.some.inj (hℓ.symm.trans hsend)
        cases htakes
    | keeps hkeeps hrow hℓ hs =>
        rw [hs]
        cases hkeeps with
        | send params =>
            obtain ⟨e, hget, hprocessing, -⟩ := hrow
            exact ⟨allOnward_of_same rfl, fun _ => ⟨_, e, rfl, hget, hprocessing⟩⟩
    | gives hgives hrow hℓ hs =>
        rw [hs]
        refine ⟨hgives.onward hrow, fun hsend => ?_⟩
        obtain rfl := Option.some.inj (hℓ.symm.trans hsend)
        cases hgives

/-- Two ticks have found one event, and both have tried to claim it. One is about to send it, and
has it in hand alone. -/
theorem one_sender_at_a_time_overlapping :
    ∃ (c c' : OutboxConfig) (hands : Nat → Option Nat),
      claims.Noted handle (fun _ _ => True) (fun _ _ => True) ⟨quiet, []⟩ c hands ∧
        c.nextLabel 1 = some .send ∧ Advances (fun _ _ => True) 1 c c' ∧
        (∃ id, hands 1 = some id ∧ (∀ j, hands j = some id → 1 = j) ∧
          ∃ e, c.state.outboxEvents.get id = some e ∧ e.status = .processing ∧
            e.attempts ≤ maxAttempts) ∧
        AllOnward c.state c'.state := by
  have hrun : (exec handle (fun _ _ => True) (fun _ _ => True)
      ([.accept (.enqueueOutboxEvent ⟨.orderPaid, "order-paid:1", ⟨some "a@example.com", none, none,
        some "PF-1", none, false⟩⟩), .advance 0, .accept (.processPendingEvents fun _ => none),
        .accept (.processPendingEvents fun _ => none), .advance 1, .advance 2, .advance 1,
        .advance 2]) ⟨quiet, []⟩).any (fun c => decide (c.nextLabel 1 = some .send) &&
          (act handle (fun _ _ => True) (fun _ _ => True) (.advance 1) c).isSome) = true := by
    decide +kernel
  obtain ⟨c, hc, h⟩ := exec_any hrun
  obtain ⟨hlabel, hmoves⟩ := Bool.and_eq_true_iff.mp h
  obtain ⟨c', hc'⟩ := Option.isSome_iff_exists.mp hmoves
  obtain ⟨hands, hnoted⟩ := Leases.exists_noted (D := claims) hc
  have hbounded : Bounded quiet := fun id e he => by cases he
  obtain ⟨halone, hattempts, hstep⟩ := one_sender_at_a_time hbounded hnoted
  obtain ⟨honward, hsender⟩ := hstep 1 c' (act_advances hc')
  obtain ⟨id, e, hhand, hget, hprocessing⟩ := hsender (of_decide_eq_true hlabel)
  exact ⟨c, c', hands, hnoted, of_decide_eq_true hlabel, act_advances hc',
    ⟨id, hhand, fun j hj => halone 1 j id hhand hj, e, hget, hprocessing,
      hattempts e (Table.get_eq_some.mp hget).1⟩, honward⟩

end PrintForge.Notifications
