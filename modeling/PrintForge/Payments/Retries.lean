import PrintForge.Concurrent.Retry
import PrintForge.Payments.EventSteps

/-!
# Stored events as work that is retried

An event is open while it is received or its processing has failed. `processOne` reads the
number of its attempts in the transaction that applies it and writes the next number in a
statement of its own.
-/

namespace PrintForge

open Relational Concurrent

namespace WebhookEventStatus

/-- The statuses in which the processor takes an event up. -/
def isOpen (status : WebhookEventStatus) : Bool := status = .received || status = .processingFailed

theorem isOpen_status (outcome : WebhookOutcome) : outcome.status.isOpen = false := by
  cases outcome <;> rfl

end WebhookEventStatus

/-- The stored event `id` as an item of work. -/
def webhookItem (id : Nat) : Item World Commit WebhookEventStatus where
  view w := (w.webhookEvents.get id).map fun e => (e.status, e.attempts)
  isOpen := WebhookEventStatus.isOpen
  maxAttempts := maxAttempts
  applies := .processWebhook id
  records := .statement
  distinct := by simp

variable {w w' : World} {id : Nat}

theorem lockedEvent_eq_some {e : WebhookEvent} :
    lockedEvent id w = some e ↔ w.webhookEvents.get id = some e ∧ e.status.isOpen = true := by
  unfold lockedEvent WebhookEventStatus.isOpen
  exact Option.filter_eq_some_iff

theorem webhookItem_view {e : WebhookEvent} (h : w.webhookEvents.get id = some e) :
    (webhookItem id).view w = some (e.status, e.attempts) := by
  simp [webhookItem, h]

/-- An update of the event is seen as its new status and its new number of attempts. -/
theorem update_view {data : WebhookEvent → WebhookEvent}
    {hdata : ∀ e, Schema.key (data e) = Schema.key e} {e : WebhookEvent}
    (h : (Db.webhookEvents.update id data hdata : Transaction WebhookEvent) w = .ok (e, w')) :
    ∃ e₀, w.webhookEvents.get id = some e₀ ∧
      (webhookItem id).view w' = some ((data e₀).status, (data e₀).attempts) := by
  obtain ⟨e₀, events, hget, hevents, -, rfl⟩ := Slot.update_ok h
  refine ⟨e₀, hget, webhookItem_view ?_⟩
  have hall := Table.get_update_key hevents (fun x hx => by simpa using hx) hget
    (by simpa using (Table.get_eq_some.mp hget).2)
  exact (hall id).trans (if_pos rfl)

/-- Where the transaction commits, it has dealt with the event. -/
theorem processEvent_attempt (h : processEvent id w = .ok ((), w')) :
    (webhookItem id).Attempt w w' := by
  unfold processEvent at h
  simp only [query_transaction, Tx.bind_read] at h
  cases hlock : lockedEvent id w with
  | none =>
      rw [hlock] at h
      cases h
      exact .inl rfl
  | some e =>
      rw [hlock] at h
      obtain ⟨outcome, w₁, happly, hmark⟩ := Tx.bind_ok.mp h
      obtain ⟨row, w₂, hupdate, hdone⟩ := Tx.bind_ok.mp hmark
      cases hdone
      obtain ⟨hget, hopen⟩ := lockedEvent_eq_some.mp hlock
      obtain rfl : e.id = id := (Table.get_eq_some.mp hget).2
      have hkept : w₁.webhookEvents = w.webhookEvents := within_applyStoredEvent e happly
      obtain ⟨e₀, hget₀, hview⟩ := update_view hupdate
      rw [hkept] at hget₀
      cases hget.symm.trans hget₀
      exact .inr ⟨e.status, e.attempts, outcome.status, webhookItem_view hget, hopen, hview,
        WebhookEventStatus.isOpen_status outcome⟩

/-- What `safeUpdate` has to write to record a failure after `n` earlier ones. -/
theorem safeUpdate_minds {n : Nat} (hn : n < maxAttempts) {data : WebhookEvent → WebhookEvent}
    {hdata : ∀ e, (data e).id = e.id}
    (hcount : ∀ e, (data e).attempts = n + 1 ∨
      (data e).attempts = e.attempts ∧ (data e).status.isOpen = false)
    (hopen : ∀ e, (data e).status.isOpen = true → n + 1 < maxAttempts) :
    (webhookItem id).Minds (safeUpdate id data hdata) := by
  have hwrite : (webhookItem id).Minds (do
      let _ ← Proc.transact Commit.statement (Db.webhookEvents.update id data hdata)
      return () : Service Unit) := by
    refine Item.Minds.bind (Item.minds_transact (n := n) hn fun w e w' h => ?_)
      fun _ => .done _
    obtain ⟨e₀, hget, hview⟩ := update_view h
    exact .inr ⟨_, _, _, _, webhookItem_view hget, hview, hcount e₀, hopen e₀⟩
  exact hwrite.tryCatch fun _ => .done _

theorem processOne_minds (id now : Nat) : (webhookItem id).Minds (processOne id now) := by
  refine Item.minds_attempt_bind (by simp [webhookItem]) (fun w _ w' h => processEvent_attempt h)
    fun w result hw => ?_
  -- what the worker has seen of the attempts is within the bound
  have hn : ((lockedEvent id w).map (·.attempts)).getD 0 < maxAttempts := by
    cases hlock : lockedEvent id w with
    | none => decide
    | some e =>
        obtain ⟨hget, hopen⟩ := lockedEvent_eq_some.mp hlock
        exact (hw _ _ (webhookItem_view hget)).2 hopen
  generalize ((lockedEvent id w).map (·.attempts)).getD 0 = attempts at hn ⊢
  cases result with
  | ok a => exact .done _
  | error err =>
      dsimp only
      split
      · exact safeUpdate_minds hn (fun _ => .inr ⟨rfl, rfl⟩) fun _ h => by cases h
      · split
        · exact safeUpdate_minds hn (fun _ => .inl rfl) fun _ h => by cases h
        · split
          · exact safeUpdate_minds hn (fun _ => .inl rfl) fun _ h => by cases h
          · next hlt => exact safeUpdate_minds hn (fun _ => .inl rfl) fun _ _ => by omega

end PrintForge
