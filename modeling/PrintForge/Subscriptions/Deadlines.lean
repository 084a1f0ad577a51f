import PrintForge.Concurrent.Discipline
import PrintForge.Subscriptions.Writes

/-!
# Moves that time brings about

The scheduler pauses a subscription whose grace is over, lets a cancelled one expire and cancels
one at the end of its period. It decides on rows it has read before, and its updates compare the
status alone. A row that has left the status meanwhile and has come back, with another deadline,
is still taken for the one that was read.

As long as the deadline is the one that was read, the move is made in time: what has elapsed
when the row was read has elapsed when the update commits, since the clock does not go back.
-/

namespace PrintForge.Subscriptions

open Relational Concurrent JavaScript

def elapsed (deadline : Option Int) (now : Int) : Bool := deadline.any (· ≤ now)

theorem elapsed_mono {deadline : Option Int} {now now' : Int} (h : elapsed deadline now = true)
    (hle : now ≤ now') : elapsed deadline now' = true := by
  cases deadline with
  | none => cases h
  | some t =>
      simp only [elapsed, Option.any_some, decide_eq_true_eq] at h ⊢
      omega

/-- What a write does to the rows, under its label, if it acts on conditions that hold. -/
structure Timely (label : Option Commit) (w w' : World) : Prop where
  paused : ∀ d r r', w.subscriptions.get d = some r → w'.subscriptions.get d = some r' →
    r.status = .pastDue → r'.status = .paused → elapsed r.graceEndsAt w.now = true
  expired : ∀ d r r', w.subscriptions.get d = some r → w'.subscriptions.get d = some r' →
    r.status ≠ .expired → r'.status = .expired → elapsed r.retentionEndsAt w.now = true
  cancelled : ∀ read r r', label = some (.transition .cancelAtBoundary read) →
    w.subscriptions.get read.id = some r → w'.subscriptions.get read.id = some r' →
    r.status ≠ .cancelled → r'.status = .cancelled → r.cancelAtPeriodEnd = some true

/-- Two rows agree on what the scheduler's methods wait for. -/
def sameDeadline : Method → Subscription → Subscription → Bool
  | .exhaustGrace, r, r' => r.graceEndsAt = r'.graceEndsAt
  | .expire, r, r' => r.retentionEndsAt = r'.retentionEndsAt
  | .cancelAtBoundary, r, r' => r.cancelAtPeriodEnd = r'.cancelAtPeriodEnd
  | _, _, _ => true

/-- The row an update finds in the status that was read still has the deadline that was read. -/
def Unrenewed : Commit → World → Prop
  | .transition method read, w => ∀ r ∈ w.subscriptions.get read.id,
      r.status = read.status → sameDeadline method r read = true
  | _, _ => True

instance : ∀ ℓ w, Decidable (Unrenewed ℓ w)
  | .transition _ read, w => inferInstanceAs (Decidable (∀ r ∈ w.subscriptions.get read.id, _))
  | .create _, _ | .event _, _ | .processBillingWebhook _, _ | .settleBillingWebhook _, _
  | .claimKey _, _ | .provider _, _ | .tick, _ => inferInstanceAs (Decidable True)

/-- The row that was read has called for the move. -/
def Backed (now : Int) : Commit → Prop
  | .transition .exhaustGrace read => elapsed read.graceEndsAt now = true
  | .transition .expire read => elapsed read.retentionEndsAt now = true
  | .transition .cancelAtBoundary read => read.cancelAtPeriodEnd = some true
  | _ => True

/-! ## One write -/

section Write

variable {parseDate : String → Option Int} {planExists : String → Bool}

theorem Turn.moves {ℓ : Commit} {now : Int} {d : Nat} {r r' : Subscription}
    {log log' : List SubscriptionEvent}
    (h : Turn (direct planExists) ℓ now d (some r, log) (some r', log')) :
    r'.status = r.status ∨
      (∃ t read, Direct planExists t ∧ ℓ = .transition t.method read ∧ read.id = d ∧
        r.status = read.status ∧ r'.status = (t.event read).toStatus) ∨
      r'.status ∈ [SubscriptionStatus.trialing, .active, .pastDue, .cancelled] ∧
        ∀ read, ℓ ≠ .transition .cancelAtBoundary read := by
  cases h with
  | stay => exact .inl rfl
  | event => exact .inl rfl
  | @transition t read r log ht hdue hfinds hd hℓ =>
      have hstatus : r.status = read.status := by
        simp only [Transition.finds, Bool.and_eq_true, decide_eq_true_eq] at hfinds
        exact hfinds.1.2
      exact .inr (.inl ⟨t, read, ht, hℓ, hd, hstatus, ht.status hstatus now⟩)
  | @activate input read r log hstatus hallowed hd hℓ =>
      refine .inr (.inr ⟨?_, fun read' h => ?_⟩)
      · obtain h | h := input.starts
        · simp [h]
        · simp [h]
      · rw [hℓ] at h
        cases h
  | @deliver t r log id ht hdue hd hℓ =>
      refine .inr (.inr ⟨?_, fun read' h => ?_⟩)
      · rw [ht.status]
        cases ht with
        | recordPaymentFailure | recoverPayment | cancel => simp [recordPaymentFailure,
            recoverPayment, cancel]
        | confirmRenewal period name =>
            have hactive : r.status = .active := by
              have hcheck := hdue.check
              simp only [confirmRenewal, assertCurrentlyActive] at hcheck
              by_contra hne
              rw [if_neg hne] at hcheck
              cases hcheck
            simp [confirmRenewal, hactive]
      · rw [hℓ] at h
        cases h

/-- A write that the row read has called for, on a row that still calls for it. -/
theorem Writes.timely {ℓ : Commit} {upd : World → World} {w : World}
    (h : Writes parseDate (direct planExists) ℓ upd) (hbacked : Backed w.now ℓ)
    (hrow : Unrenewed ℓ w) : Timely (some ℓ) w (upd w) := by
  have hmoves : ∀ d r r', w.subscriptions.get d = some r → (upd w).subscriptions.get d = some r' →
      r'.status = r.status ∨
      (∃ t read, Direct planExists t ∧ ℓ = .transition t.method read ∧ read.id = d ∧
        r.status = read.status ∧ r'.status = (t.event read).toStatus) ∨
      r'.status ∈ [SubscriptionStatus.trialing, .active, .pastDue, .cancelled] ∧
        ∀ read, ℓ ≠ .transition .cancelAtBoundary read := by
    intro d r r' hr hr'
    have hturn := (writes_turn h w d).2
    rw [view, view, hr, hr'] at hturn
    exact hturn.moves
  refine ⟨fun d r r' hr hr' hdue hpaused => ?_, fun d r r' hr hr' hne hexpired => ?_,
    fun read r r' hlabel hr hr' hne hcancelled => ?_⟩
  · obtain hsame | ⟨t, read, ht, rfl, rfl, hread, hstatus⟩ | ⟨hmem, -⟩ := hmoves d r r' hr hr'
    · rw [hsame, hdue] at hpaused
      cases hpaused
    · rw [hpaused] at hstatus
      cases ht with
      | exhaustGrace =>
          have hsame : r.graceEndsAt = read.graceEndsAt :=
          of_decide_eq_true (hrow r hr hread)
          rw [hsame]
          exact hbacked
      | expire | reactivate | recoverPayment | cancel | cancelAtBoundary => cases hstatus
      | applyScheduledDowngrade | confirmRenewal | confirmUpgrade | scheduleDowngrade
      | scheduleCancellation | unscheduleCancellation =>
          rw [hdue] at hread
          exact absurd (hstatus.trans hread.symm) (by decide)
    · rw [hpaused] at hmem
      exact absurd hmem (by decide)
  · obtain hsame | ⟨t, read, ht, rfl, rfl, hread, hstatus⟩ | ⟨hmem, -⟩ := hmoves d r r' hr hr'
    · exact absurd (hsame.symm.trans hexpired) hne
    · rw [hexpired] at hstatus
      cases ht with
      | expire =>
          have hsame : r.retentionEndsAt = read.retentionEndsAt :=
          of_decide_eq_true (hrow r hr hread)
          rw [hsame]
          exact hbacked
      | exhaustGrace | reactivate | recoverPayment | cancel | cancelAtBoundary => cases hstatus
      | applyScheduledDowngrade | confirmRenewal | confirmUpgrade | scheduleDowngrade
      | scheduleCancellation | unscheduleCancellation =>
          exact absurd (hread.trans hstatus.symm) hne
    · rw [hexpired] at hmem
      exact absurd hmem (by decide)
  · cases hlabel
    obtain hsame | ⟨t, read', ht, hℓ, -, hread, hstatus⟩ | ⟨-, hnot⟩ :=
      hmoves read.id r r' hr hr'
    · exact absurd (hsame.symm.trans hcancelled) hne
    · obtain ⟨-, rfl⟩ := Commit.transition.inj hℓ
      have hsame : r.cancelAtPeriodEnd = read.cancelAtPeriodEnd :=
          of_decide_eq_true (hrow r hr hread)
      rw [hsame]
      exact hbacked
    · exact absurd rfl (hnot read)

end Write

/-! ## Every request -/

/-- Commits are called for by the rows read, and the clock does not go back. -/
def deadlineDiscipline : Discipline World Commit where
  inv _ := True
  ok := Unrenewed
  rely _ w w' := w.now ≤ w'.now
  guar _ ℓ w w' := w.now ≤ w'.now ∧ Backed w.now ℓ
  rely_refl _ _ := le_rfl
  rely_trans h h' := h.trans h'
  inv_guar _ _ _ := trivial
  rely_guar _ _ _ h := h.1

section Requests

variable (parseDate : String → Option Int) (planExists : String → Bool)

/-- The update has been called for from an instant on. -/
def backedFrom (instant : Int) : Transition → Subscription → Prop :=
  fun t read => ∀ now, instant ≤ now → Backed now (.transition t.method read)

variable {parseDate planExists}

theorem safe_backed (parseDate : String → Option Int) {i : Nat} {w : World} {instant : Int}
    {α : Type} {p : Service α} (h : p.Commits (Writes parseDate (backedFrom instant)))
    (hw : instant ≤ w.now) :
    deadlineDiscipline.Safe i (fun _ _ => True) p w := by
  have hwithin : p.Within fun ℓ w w' =>
      w.now ≤ w'.now ∧ (instant ≤ w.now → Backed w.now ℓ) := by
    refine h.within fun ℓ upd w hwrite => ⟨(writes_turn hwrite w 0).1, fun hle => ?_⟩
    cases hwrite with
    | apply h =>
        cases h with
        | transition ht hdue => exact ht w.now hle
        | event => trivial
    | create | activate | process | settle | claim | provider | tick => trivial
  refine (Discipline.safe_while hwithin (K := fun w => instant ≤ w.now) ?_ ?_ hw).mono_post
    fun _ _ _ => trivial
  · exact fun ℓ w w' _ _ hle hg => ⟨⟨hg.1, hg.2 hle⟩, hle.trans hg.1⟩
  · exact fun w w' hle h => h.trans hle

theorem mem_eligible {status : SubscriptionStatus} {deadline : Subscription → Option Int}
    {now : Int} {w : World} {s : Subscription} (h : s ∈ eligible status deadline now w) :
    s.status = status ∧ elapsed (deadline s) now = true := by
  have hmem := (List.mem_insertionSort _).mp (List.mem_of_mem_take h)
  have hdue := (List.mem_filter.mp hmem).2
  simpa [elapsed] using hdue

/-- A pass decides on rows whose deadline has elapsed when they are read. -/
theorem runPass_safe {i : Nat} {w : World} {find : Int → World → List Subscription}
    {t : Transition}
    (h : ∀ now w s, s ∈ find now w → ∀ now', now ≤ now' → Backed now' (.transition t.method s)) :
    deadlineDiscipline.Safe i (fun _ _ => True) (runPass find (settleOne t)) w := by
  refine Discipline.safe_read fun w₁ _ _ => Discipline.safe_read fun w₂ hle _ => ?_
  exact safe_backed (fun _ => none)
    (commits_writes (settleAll_commits fun s hs => h _ _ s hs)) hle

/-- What a tenant asks for waits for nothing. -/
theorem flow_backed (op : Operation) (instant : Int) (s : Subscription) :
    backedFrom instant ((op.flow planExists).transition s) s := by
  intro now _
  cases op with
  | upgrade | downgrade | unscheduleCancellation => trivial
  | cancel atPeriodEnd => cases atPeriodEnd <;> trivial
  | resume =>
      change Backed now (.transition (resumeTransition s).method s)
      unfold resumeTransition
      split <;> trivial

theorem serve_safe (i : Nat) (call : Call) (w : World) :
    deadlineDiscipline.Safe i (fun _ _ => True) (serve parseDate planExists i call) w := by
  cases call with
  | processOne id => exact safe_backed parseDate (processOne_commits id) (le_refl w.now)
  | runGraceExhaustion =>
      exact runPass_safe fun now w s hs now' hle => elapsed_mono (mem_eligible hs).2 hle
  | runCancellationExpiration =>
      exact runPass_safe fun now w s hs now' hle => elapsed_mono (mem_eligible hs).2 hle
  | reconcilePeriod tenantId answers =>
      refine safe_backed parseDate (Proc.Commits.bind
        (commits_writes (reconcilePeriod_commits answers tenantId ?_ ?_ ?_)) fun _ =>
          Proc.commits_pure _) (le_refl w.now)
      · exact fun _ _ _ _ => trivial
      · exact fun s hflag _ _ => hflag
      · exact fun _ _ _ _ => trivial
  | createSubscription tenantId planId answer =>
      exact safe_backed parseDate (Proc.Commits.bind
        (createSubscription_commits tenantId planId answer) fun _ => Proc.commits_pure _)
        (le_refl w.now)
  | orchestrate req =>
      exact safe_backed parseDate (Proc.Commits.bind
        (orchestrate_commits req (flow_backed req.operation w.now)) fun _ => Proc.commits_pure _)
        (le_refl w.now)
  | tick elapsed =>
      exact safe_backed parseDate (Proc.commits_transact (Writes.tick elapsed))
        (le_refl w.now)

abbrev SchedulerRun (parseDate : String → Option Int) (planExists : String → Bool) :
    Config World Call Commit HttpError Unit → Config World Call Commit HttpError Unit → Prop :=
  Run (serve parseDate planExists) (fun _ _ => True) Unrenewed

/-- The label of what is done next at place `i`. -/
def nextLabel (c : Config World Call Commit HttpError Unit) (i : Nat) : Option Commit :=
  c.flights[i]?.bind fun f => f.2.label

/-- A subscription is paused only once its grace is over, expires only once its retention is,
and is cancelled at the end of a period only while that is scheduled, in every run in which the
deadlines an update goes by are still those that were read. -/
theorem time_driven_moves_in_time {w : World} {c c' : Config World Call Commit HttpError Unit}
    {i : Nat} (hrun : SchedulerRun parseDate planExists ⟨w, []⟩ c)
    (hstep : Advances Unrenewed i c c') : Timely (nextLabel c i) c.state c'.state := by
  obtain ⟨req, p, p', hi, hp, hok, -⟩ := hstep
  have hholds : deadlineDiscipline.Holds (fun _ _ _ _ => True) c :=
    (Discipline.holds_idle trivial).run (Nat.zero_le _)
      (fun i call w _ _ _ => serve_safe i call w) hrun
  have hlisted : Listed (Writes parseDate (direct planExists)) c :=
    listed_idle.run serve_commits hrun
  have hlabel : nextLabel c i = p.label := by simp [nextLabel, hi]
  rw [hlabel]
  cases p with
  | done r => cases hp
  | query next =>
      have hstate : c.state = c'.state := congrArg Prod.snd (Option.some.inj hp)
      rw [← hstate]
      refine ⟨fun d r r' hr hr' hdue hpaused => ?_, fun d r r' hr hr' hne hexpired => ?_,
        fun read r r' hnone => by cases hnone⟩
      · cases hr.symm.trans hr'
        rw [hdue] at hpaused
        cases hpaused
      · cases hr.symm.trans hr'
        exact absurd hexpired hne
  | commit ℓ upd next =>
      have hstate : upd c.state = c'.state := congrArg Prod.snd (Option.some.inj hp)
      rw [← hstate]
      have hwrite : Writes parseDate (direct planExists) ℓ upd :=
        (hlisted _ (List.mem_of_getElem? hi)).listed rfl
      have hbacked := (hholds.safe i req _ hi).write rfl le_rfl trivial (hok ℓ rfl)
      exact hwrite.timely hbacked.2 (hok ℓ rfl)

end Requests

/-! A charge has failed and the grace is over. The pass has read the row when the charge
succeeds after all, which renews the subscription, and the next one fails. -/

def firstSeconds : String → Option Int
  | "1970-01-01T00:00:01.000Z" => some 1000
  | "1970-01-01T00:00:02.000Z" => some 2000
  | _ => none

def overdue : Subscription where
  id := 0
  tenantId := 0
  providerCustomerId := some "cust_1"
  providerSubscriptionId := some "sub_1"
  planId := "pro"
  pendingPlanId := none
  status := .pastDue
  currentPeriodStart := some 0
  currentPeriodEnd := some 1000
  cancelAtPeriodEnd := none
  graceEndsAt := some 10
  retentionEndsAt := none
  updatedAt := some 0

def delivery (id : Nat) (providerEventId type : String) (bounds : List (String × JsonValue))
    (createdAt : Int) : BillingWebhookEvent where
  id := id
  providerEventId := providerEventId
  payload :=
    { providerEventId
      type
      payload := some (("providerSubscriptionId", .string "sub_1") :: bounds) }
  status := .received
  attempts := 0
  availableAt := createdAt
  lastError := none
  processedAt := none
  createdAt := createdAt

def relapse : World where
  now := 20
  subscriptions := ⟨[overdue], 1, by decide, by decide⟩
  subscriptionEvents := .empty
  billingWebhookEvents :=
    ⟨[delivery 0 "evt_1" "renewed" [("currentPeriodStart", .string "1970-01-01T00:00:01.000Z"),
        ("currentPeriodEnd", .string "1970-01-01T00:00:02.000Z")] 20,
      delivery 1 "evt_2" "payment_failed" [] 30], 2, by decide, by decide⟩

/-- The pass has read the overdue subscription. -/
def passHasRead : List (Action Call) := [.accept .runGraceExhaustion, .advance 0, .advance 0]

/-- Left to itself, the pass pauses the subscription. -/
theorem time_driven_moves_in_time_overdue :
    ∃ c c', SchedulerRun firstSeconds (fun _ => true) ⟨relapse, []⟩ c ∧
      Advances Unrenewed 0 c c' ∧ (c'.state.subscriptions.get 0).any (·.status = .paused) ∧
      Timely (nextLabel c 0) c.state c'.state := by
  have hrun : (exec (serve firstSeconds (fun _ => true)) (fun _ _ => True) Unrenewed
      passHasRead ⟨relapse, []⟩).any (fun c =>
        (act (serve firstSeconds (fun _ => true)) (fun _ _ => True) Unrenewed
          (.advance 0) c).any fun c' =>
            (c'.state.subscriptions.get 0).any (·.status = .paused)) = true := by
    decide +kernel
  obtain ⟨c, hrun, hc⟩ := exec_any hrun
  obtain ⟨c', hact, hpaused⟩ := (Option.any_eq_true ..).mp hc
  exact ⟨c, c', hrun, act_advances hact, hpaused,
    time_driven_moves_in_time hrun (act_advances hact)⟩

/-- The subscription has been renewed and has failed again, with a week of grace, when the pass
pauses it. -/
theorem paused_within_new_grace :
    ∃ c c' : Config World Call Commit HttpError Unit,
      Run (serve firstSeconds (fun _ => true)) (fun _ _ => True) (fun _ _ => True)
        ⟨relapse, []⟩ c ∧
      Advances (fun _ _ => True) 0 c c' ∧ ¬ Timely (nextLabel c 0) c.state c'.state := by
  have hrun : (exec (serve firstSeconds (fun _ => true)) (fun _ _ => True) (fun _ _ => True)
      (passHasRead ++ [.accept (.processOne 0), .advance 1, .accept (.tick 15), .advance 2,
        .accept (.processOne 1), .advance 3]) ⟨relapse, []⟩).any (fun c =>
        (act (serve firstSeconds (fun _ => true)) (fun _ _ => True) (fun _ _ => True)
          (.advance 0) c).any fun c' =>
            (c.state.subscriptions.get 0).any (fun r =>
              r.status = .pastDue && !elapsed r.graceEndsAt c.state.now) &&
            (c'.state.subscriptions.get 0).any (·.status = .paused)) = true := by
    decide +kernel
  obtain ⟨c, hrun, hc⟩ := exec_any hrun
  obtain ⟨c', hact, hboth⟩ := (Option.any_eq_true ..).mp hc
  rw [Bool.and_eq_true] at hboth
  obtain ⟨r, hr, hbefore⟩ := (Option.any_eq_true ..).mp hboth.1
  obtain ⟨r', hr', hafter⟩ := (Option.any_eq_true ..).mp hboth.2
  simp only [Bool.and_eq_true, decide_eq_true_eq, Bool.not_eq_true'] at hbefore hafter
  refine ⟨c, c', hrun, act_advances hact, fun htimely => ?_⟩
  have helapsed := htimely.paused 0 r r' hr hr' hbefore.1 hafter
  rw [hbefore.2] at helapsed
  cases helapsed

end PrintForge.Subscriptions
