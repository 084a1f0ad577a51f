import PrintForge.Subscriptions.Histories
import PrintForge.Subscriptions.Reactivation

/-!
# What the kinds of events mean

An event says that a subscription has been resumed, reactivated or activated, and each of these is
said of a change from certain statuses only. The methods are guarded by the table of transitions
alone, in which a subscription becomes active from almost every status. What an operation or a
creation calls a method for is a status it is meant for. A delivery calls `recoverPayment` for
whatever status it finds.

A late recovery is one that finds a subscription which was not waiting for a payment. Without them
every event means what it says.
-/

namespace PrintForge.Subscriptions

open Relational Concurrent JavaScript

/-- The request asks for a resumption. -/
def Call.Resumes : Call → Prop
  | .orchestrate req => req.operation = .resume
  | _ => False

/-- What an event says, of a change that `call` has made. -/
structure MeansWhatItSays (call : Call) (e : SubscriptionEvent) : Prop where
  resumed : e.type = .resumed → e.fromStatus = some .pastDue ∨ e.fromStatus = some .paused
  reactivated : e.type = .reactivated → e.fromStatus = some .cancelled ∧ call.Resumes
  activated : e.type = .activated → e.metadata.renewal = false →
    e.fromStatus = some .pending ∨ e.fromStatus = some .trialing

/-- The statuses a method is meant for, and the requests that may call it. -/
def Fits (call : Call) : Commit → Prop
  | .transition .recoverPayment read => read.status = .pastDue ∨ read.status = .paused
  | .transition .reactivate read => read.status = .cancelled ∧ call.Resumes
  | .transition .confirmActivation read => read.status = .pending ∨ read.status = .trialing
  | _ => True

section Methods

variable {planExists : String → Bool} {call : Call}

/-- Most events are of no kind that says anything about a status. -/
theorem means_other {e : SubscriptionEvent} (hresumed : e.type ≠ .resumed)
    (hreactivated : e.type ≠ .reactivated)
    (hactivated : e.type ≠ .activated ∨ e.metadata.renewal = true) : MeansWhatItSays call e := by
  refine ⟨fun h => absurd h hresumed, fun h => absurd h hreactivated, fun h hrenewal => ?_⟩
  obtain hne | htrue := hactivated
  · exact absurd h hne
  · rw [hrenewal] at htrue
    cases htrue

theorem means_recovered {read : Subscription} {name : Option String}
    (h : read.status = .pastDue ∨ read.status = .paused) :
    MeansWhatItSays call ((recoverPayment name).entry read 0) :=
  ⟨fun _ => h.imp (congrArg some) (congrArg some), nofun, nofun⟩

/-- A method that is called for a status it is meant for leaves an event that means what it
says. -/
theorem Direct.means {t : Transition} (ht : Direct planExists t) {read : Subscription}
    (hfits : Fits call (.transition t.method read)) : MeansWhatItSays call (t.entry read 0) := by
  cases ht with
  | recoverPayment => exact means_recovered hfits
  | reactivate => exact ⟨nofun, fun _ => ⟨congrArg some hfits.1, hfits.2⟩, nofun⟩
  | confirmRenewal period => exact means_other nofun nofun (.inr rfl)
  | exhaustGrace | expire | cancel | cancelAtBoundary | applyScheduledDowngrade | confirmUpgrade
  | scheduleDowngrade | scheduleCancellation | unscheduleCancellation =>
      exact means_other nofun nofun (.inl nofun)

end Methods

/-! ## Deliveries -/

section Deliveries

variable (parseDate : String → Option Int)

/-- A delivery that is to be applied says that a payment has been recovered, and its subscription
was not waiting for one. -/
def lateRecovery (id : Nat) (w : World) : Bool :=
  (lockedEvent id w).any fun e =>
    (resolveSubscription (extractEnvelope e.payload.payload) w).any fun r =>
      !isStale (eventTimestamp parseDate (extractEnvelope e.payload.payload) e.createdAt) r &&
        e.payload.type = "recovered" &&
        (r.status = .pending || r.status = .trialing || r.status = .cancelled)

/-- The commit is none that applies a late recovery. -/
def timely : Commit → World → Bool
  | .processBillingWebhook id, w => !lateRecovery parseDate id w
  | _, _ => true

variable {parseDate} {e : BillingWebhookEvent} {r : Subscription} {t : Transition}

/-- What a delivery asks for, where it is no late recovery. -/
theorem asked_cases {now : Int} (hasked : asked parseDate e.payload r.status now = some t) :
    (∃ name, t = recoverPayment name ∧ (r.status = .pastDue ∨ e.payload.type = "recovered")) ∨
    (∃ period name, t = confirmRenewal period name) ∨
    (∃ graceEndsAt name, t = recordPaymentFailure graceEndsAt name) ∨
    ∃ name, t = cancel name := by
  unfold asked at hasked
  split at hasked
  · split at hasked
    · next hstatus =>
      cases hasked
      exact .inl ⟨_, rfl, .inl hstatus⟩
    · cases hasked
      exact .inr (.inl ⟨_, _, rfl⟩)
  · unfold billingWebhookTransition at hasked
    split at hasked
    · cases hasked
      exact .inr (.inr (.inl ⟨_, _, rfl⟩))
    · next htype =>
      cases hasked
      exact .inl ⟨_, rfl, .inr htype⟩
    · cases hasked
      exact .inr (.inr (.inr ⟨_, rfl⟩))
    · cases hasked

/-- A payment is recovered for a subscription that was waiting for it. -/
theorem recovered_status {id : Nat} {w : World} {name : Option String}
    (htimely : lateRecovery parseDate id w = false) (hlock : lockedEvent id w = some e)
    (hres : resolveSubscription (extractEnvelope e.payload.payload) w = some r)
    (hstale : isStale (eventTimestamp parseDate (extractEnvelope e.payload.payload) e.createdAt) r
      = false)
    (hdue : Due (recoverPayment name) r)
    (hasked : r.status = .pastDue ∨ e.payload.type = "recovered") :
    r.status = .pastDue ∨ r.status = .paused := by
  obtain hpast | htype := hasked
  · exact .inl hpast
  · rw [lateRecovery, hlock, Option.any_some, hres, Option.any_some, hstale] at htimely
    simp only [htype, Bool.not_false, Bool.true_and, decide_true, Bool.or_eq_false_iff,
      decide_eq_false_iff_not] at htimely
    have hactive : r.status ≠ .active := of_decide_eq_false hdue.reached
    have hcheck := hdue.check
    cases hstatus : r.status with
    | pastDue => exact .inl rfl
    | paused => exact .inr rfl
    | pending => exact absurd hstatus htimely.1.1
    | trialing => exact absurd hstatus htimely.1.2
    | cancelled => exact absurd hstatus htimely.2
    | active => exact absurd hstatus hactive
    | expired =>
        simp [recoverPayment, assertSubscriptionTransitionAllowed, hstatus,
          isSubscriptionTransitionAllowed, subscriptionStateTransitions] at hcheck

/-- A late recovery makes its subscription active. -/
theorem lateRecovery_revives {id : Nat} {w : World} (h : lateRecovery parseDate id w = true) :
    ∃ r r', w.subscriptions.get r.id = some r ∧
      (r.status = .pending ∨ r.status = .trialing ∨ r.status = .cancelled) ∧
      (Proc.applied (processEvent parseDate id) w).subscriptions.get r.id = some r' ∧
      r'.status = .active := by
  obtain ⟨e, hlock, h⟩ := (Option.any_eq_true ..).mp h
  obtain ⟨r, hres, h⟩ := (Option.any_eq_true ..).mp h
  simp only [Bool.and_eq_true, Bool.not_eq_true', decide_eq_true_eq, Bool.or_eq_true] at h
  obtain ⟨⟨hstale, htype⟩, hstatus⟩ := h
  have hasked : asked parseDate e.payload r.status w.now
      = some (recoverPayment (some e.payload.providerEventId)) := by
    have hperiod : renewalPeriod parseDate e.payload (extractEnvelope e.payload.payload)
        = none := by
      rw [renewalPeriod, htype]
      exact if_neg (by decide)
    rw [asked, hperiod]
    dsimp only
    rw [billingWebhookTransition, htype]
    rfl
  have hactive : ((recoverPayment (some e.payload.providerEventId)).settle w.now r).status
      = .active := by
    obtain (h | h) | h := hstatus <;>
      simp [Transition.settle, recoverPayment, Transition.row, h,
        assertSubscriptionTransitionAllowed, isSubscriptionTransitionAllowed,
        subscriptionStateTransitions]
  have hget := (processEvent_row parseDate hlock hres).1.get r.id
  have hid : (r.after parseDate e w.now).id = r.id :=
    congrArg Identity.id (after_identity parseDate e w.now r)
  rw [hid, if_pos rfl] at hget
  refine ⟨r, _, resolveSubscription_get hres, ?_, hget, ?_⟩
  · exact hstatus.elim (fun h => h.imp_right .inl) fun h => .inr (.inr h)
  · rw [Subscription.after, if_neg (by rw [hstale]; exact Bool.false_ne_true), hasked]
    exact hactive

/-- A payment fails for a subscription that is paid for. -/
theorem allowed_waiting {status target : SubscriptionStatus}
    (htarget : target = .pastDue ∨ target = .cancelled)
    (h : assertSubscriptionTransitionAllowed status target = none) :
    status ≠ .pending ∧ status ≠ .cancelled := by
  obtain rfl | rfl := htarget
  · cases status with
    | pending | cancelled => cases h
    | trialing | active | pastDue | paused | expired => exact ⟨nofun, nofun⟩
  · cases status with
    | pending | cancelled => cases h
    | trialing | active | pastDue | paused | expired => exact ⟨nofun, nofun⟩

/-- What a delivery does that is no late recovery. -/
theorem processEvent_timely {id : Nat} {w : World}
    (htimely : lateRecovery parseDate id w = false) :
    (∀ d, view (Proc.applied (processEvent parseDate id) w) d = view w d) ∨
    ∃ r t, w.subscriptions.get r.id = some r ∧ Delivered w.now t ∧
      (r.status ≠ .pending ∧ r.status ≠ .cancelled) ∧
      (∀ call, MeansWhatItSays call (t.entry r 0)) ∧
      ∀ d, view (Proc.applied (processEvent parseDate id) w) d
        = if r.id = d then (some (t.row w.now r r), logOf w d ++ [t.entry r 0]) else view w d := by
  cases htx : processEvent parseDate id w with
  | error err =>
      rw [Proc.applied_error htx]
      exact .inl fun _ => rfl
  | ok result =>
      obtain ⟨⟨⟩, w'⟩ := result
      rw [Proc.applied_ok htx]
      obtain ⟨-, hsame | ⟨e, r, t, hlock, hres, hstale, hasked, hdue, hview⟩⟩ :=
        processEvent_view parseDate htx
      · exact .inl hsame
      refine .inr ⟨r, t, resolveSubscription_get hres, asked_delivered hasked, ?_⟩
      obtain ⟨name, rfl, hreason⟩ | ⟨period, name, rfl⟩ | ⟨ends, name, rfl⟩ | ⟨name, rfl⟩ :=
        asked_cases hasked
      · have hstatus := recovered_status htimely hlock hres hstale hdue hreason
        refine ⟨?_, fun call => means_recovered hstatus, hview⟩
        obtain h | h := hstatus
        · rw [h]
          exact ⟨(fun h => by cases h), fun h => by cases h⟩
        · rw [h]
          exact ⟨(fun h => by cases h), fun h => by cases h⟩
      · have hactive : r.status = .active := by
          by_contra hne
          have hcheck := hdue.check
          simp [confirmRenewal, assertCurrentlyActive, hne] at hcheck
        refine ⟨?_, fun call => means_other (fun h => by cases h) (fun h => by cases h)
          (.inr rfl), hview⟩
        rw [hactive]
        exact ⟨(fun h => by cases h), fun h => by cases h⟩
      · exact ⟨allowed_waiting (.inl rfl) hdue.check,
          fun call => means_other (fun h => by cases h) (fun h => by cases h)
            (.inl fun h => by cases h), hview⟩
      · exact ⟨allowed_waiting (.inr rfl) hdue.check,
          fun call => means_other (fun h => by cases h) (fun h => by cases h)
            (.inl fun h => by cases h), hview⟩

end Deliveries

/-! ## Every request -/

section Requests

variable {parseDate : String → Option Int} {planExists : String → Bool}
variable {allowed : Transition → Subscription → Prop} {ℓ : Commit} {upd : World → World}

theorem Applies.fits {call : Call} (h : Applies allowed ℓ upd)
    (hallowed : ∀ t read, allowed t read → Fits call (.transition t.method read)) :
    Fits call ℓ := by
  cases h with
  | transition ht hdue => exact hallowed _ _ ht
  | event e => trivial

/-- The transitions that fit the request. -/
def fitting (call : Call) : Transition → Subscription → Prop :=
  fun t read => Fits call (.transition t.method read)

/-- A resumption calls for what the subscription is in need of. -/
theorem flow_fits {req : OperationRequest} {s : Subscription}
    (hsettled : (req.operation.flow planExists).settled s = false)
    (hcheck : (req.operation.flow planExists).check s = none) :
    fitting (.orchestrate req) ((req.operation.flow planExists).transition s) s := by
  cases hop : req.operation with
  | upgrade toPlanId => trivial
  | downgrade toPlanId => trivial
  | cancel atPeriodEnd => cases atPeriodEnd <;> trivial
  | unscheduleCancellation => trivial
  | resume =>
      rw [hop] at hsettled hcheck
      change Fits _ (.transition (resumeTransition s).method s)
      change decide (s.status = .active) = false at hsettled
      have hactive := of_decide_eq_false hsettled
      simp only [Operation.flow, resume] at hcheck
      unfold resumeTransition
      split
      · next h => simpa [Fits, recoverPayment] using h
      · next h =>
        refine ⟨?_, hop⟩
        cases hstatus : s.status with
        | cancelled => rfl
        | active => exact absurd hstatus hactive
        | expired | pending | trialing =>
            rw [hstatus] at hcheck
            cases hcheck
        | pastDue | paused => simp [hstatus] at h

theorem pass_fits {call : Call} {t : Transition} (find : Int → World → List Subscription)
    (h : ∀ read, Fits call (.transition t.method read)) :
    (runPass find (settleOne t)).Commits fun ℓ _ => Fits call ℓ := by
  refine (Proc.commits_read _).bind fun now => (Proc.commits_read _).bind fun found => ?_
  have hall : (found.forM (settleOne t)).Commits (Applies (fitting call)) :=
    settleAll_commits fun s _ => h s
  exact hall.mono fun ℓ upd happlies => happlies.fits fun _ _ h => h

/-- Every request calls a method for what it is meant for. -/
theorem serve_fits (i : Nat) (call : Call) :
    (serve parseDate planExists i call).Commits fun ℓ _ => Fits call ℓ := by
  cases call with
  | processOne id => exact processOne_commits_of id trivial fun _ _ => trivial
  | runGraceExhaustion => exact pass_fits _ fun _ => trivial
  | runCancellationExpiration => exact pass_fits _ fun _ => trivial
  | reconcilePeriod tenantId answers =>
      have hall : (reconcilePeriod answers tenantId).Commits
          (Applies (fitting (.reconcilePeriod tenantId answers))) :=
        reconcilePeriod_commits answers tenantId (fun _ _ => trivial) (fun _ _ => trivial)
          fun _ _ => trivial
      refine Proc.Commits.bind ?_ fun _ => Proc.commits_pure _
      exact hall.mono fun ℓ upd happlies => happlies.fits fun _ _ h => h
  | createSubscription tenantId planId answer =>
      refine Proc.Commits.bind ?_ fun _ => Proc.commits_pure _
      exact createSubscription_commits_of (fun _ => trivial) trivial
        fun _ _ hpending _ _ => .inl hpending
  | orchestrate req =>
      have hall : ((req.operation.flow planExists).run req.provider req.tenantId).Commits
          (Works (fitting (.orchestrate req))) :=
        run_commits (fun s => flow_fits) req.provider req.tenantId
      refine Proc.Commits.bind (withIdempotency_commits trivial ?_) fun _ => Proc.commits_pure _
      refine hall.mono fun ℓ upd h => ?_
      cases h with
      | apply happlies => exact happlies.fits fun _ _ h => h
      | provider change provider => trivial
  | tick elapsed =>
      unfold serve tick
      exact Proc.commits_transact (K := fun ℓ _ => Fits (.tick elapsed) ℓ) True.intro

/-! ## What is outstanding -/

/-- What a write leaves outstanding says what the write has done. -/
theorem incurs_means {call : Call} {due : World → Option SubscriptionEvent} {w : World}
    {e : SubscriptionEvent} (h : Incurs parseDate planExists ℓ upd due) (hfits : Fits call ℓ)
    (he : due w = some e) :
    MeansWhatItSays call e ∧
      (w.subscriptions.get e.subscriptionId).map (·.status) = e.fromStatus ∧
      ((upd w).subscriptions.get e.subscriptionId).map (·.status) = some e.toStatus := by
  cases h with
  | create tenantId planId =>
      cases htx : insertPending tenantId planId w with
      | error err =>
          rw [outstanding, htx] at he
          cases he
      | ok result =>
          obtain ⟨created, w'⟩ := result
          rw [outstanding_ok htx] at he
          cases he
          rw [Proc.applied_ok htx]
          rw [insertPending, Tx.bind_read] at htx
          obtain ⟨u, hu, rfl, rfl⟩ := Slot.create_ok htx
          refine ⟨means_other (fun h => by cases h) (fun h => by cases h)
            (.inl fun h => by cases h), ?_, ?_⟩
          · have hfresh : w.subscriptions.get w.subscriptions.nextKey = none :=
              Table.get_eq_none_of_le (Nat.le_refl _)
            exact congrArg (Option.map _) hfresh
          · have hget : u.get w.subscriptions.nextKey
                = some (pendingSubscription tenantId planId w.now w.subscriptions.nextKey) := by
              refine (Table.get_create hu w.subscriptions.nextKey).trans ?_
              exact if_pos rfl
            exact congrArg (Option.map _) hget
  | @update t read ht hdue =>
      obtain ⟨r, u, hr, hfinds, hcas, hu⟩ | ⟨n, hn, hcas, -⟩ := compareAndSwap_cases t read w
      · rw [outstanding_ok hcas] at he
        cases he
        have hstatus : r.status = read.status := by
          simp only [Transition.finds, Bool.and_eq_true, decide_eq_true_eq] at hfinds
          exact hfinds.1.2
        refine ⟨ht.means hfits, ?_, ?_⟩
        · change (w.subscriptions.get read.id).map _ = _
          rw [hr]
          exact congrArg some hstatus
        · rw [Proc.applied_ok hcas]
          change (u.get read.id).map _ = _
          rw [hu, if_pos rfl]
          exact congrArg some (ht.status hstatus w.now)
      · rw [outstanding_ok hcas, ifFound, if_neg hn] at he
        cases he
  | activate input read hallowed =>
      cases htx : activate input read w with
      | error err =>
          rw [outstanding, htx] at he
          cases he
      | ok result =>
          obtain ⟨n, w'⟩ := result
          rw [outstanding_ok htx] at he
          rw [Proc.applied_ok htx]
          rw [activate, Tx.bind_read] at htx
          have hkey : ∀ r : Subscription, (r.id = read.id && r.status = read.status) = true →
              Schema.key r = read.id := by
            intro r h
            simp only [Bool.and_eq_true, decide_eq_true_eq] at h
            exact h.1
          obtain ⟨rfl, r, u, hr, hfinds, hu, rfl⟩ | ⟨hn, -, rfl⟩ := Slot.updateMany_key_ok hkey htx
          · cases he
            have hstatus : r.status = read.status := by
              simp only [Bool.and_eq_true, decide_eq_true_eq] at hfinds
              exact hfinds.2
            refine ⟨⟨(fun h => by cases h), (fun h => by cases h), fun _ _ => ?_⟩, ?_, ?_⟩
            · exact hfits.imp (congrArg some) (congrArg some)
            · change (w.subscriptions.get read.id).map _ = _
              rw [show w.subscriptions.get read.id = some r from hr]
              exact congrArg some hstatus
            · change (u.get read.id).map _ = _
              rw [Table.get_update_key hu hkey hr hfinds, if_pos rfl]
              rfl
          · rw [ifFound, if_neg hn] at he
            cases he
  | whole h hℓ => cases he

/-- A log grows by an event that is written by itself, or by a delivery. -/
theorem writes_log (h : Writes parseDate allowed ℓ upd) (w : World) (d : Nat) :
    logOf (upd w) d = logOf w d ∨
      (∃ e, ℓ = .event e ∧ e.subscriptionId = d ∧ logOf (upd w) d = logOf w d ++ [e]) ∨
      ∃ id, ℓ = .processBillingWebhook id ∧ upd = Proc.applied (processEvent parseDate id) := by
  have hturn := (writes_turn h w d).2
  generalize hv : view w d = v at hturn
  generalize hv' : view (upd w) d = v' at hturn
  have hbefore : logOf w d = v.2 := congrArg Prod.snd hv
  have hafter : logOf (upd w) d = v'.2 := congrArg Prod.snd hv'
  rw [hbefore, hafter]
  cases hturn with
  | stay | create | transition | activate => exact .inl rfl
  | event hd hℓ => exact .inr (.inl ⟨_, hℓ, hd, rfl⟩)
  | @deliver t r log id ht hdue hd hℓ =>
      subst hℓ
      right
      right
      cases h with
      | process => exact ⟨id, rfl, rfl⟩
      | apply h => cases h

end Requests

/-! ## Runs -/

section Runs

variable (parseDate : String → Option Int) (planExists : String → Bool)

/-- A run in which no late recovery is applied. -/
abbrev TimelyRun (w : World) (c : Config World Call Commit HttpError Unit) : Prop :=
  Run (serve parseDate planExists) (fun _ _ => True) (fun ℓ w => timely parseDate ℓ w) ⟨w, []⟩ c

/-- On the way to `c` the request at place `i` has taken the subscription of the event from the
status the event names to the other. -/
def Made (w : World) (c : Config World Call Commit HttpError Unit) (i : Nat) (call : Call)
    (e : SubscriptionEvent) : Prop :=
  (∃ p, c.flights[i]? = some (call, p)) ∧ ∃ b b', TimelyRun parseDate planExists w b ∧
    Advances (fun ℓ w => timely parseDate ℓ w = true) i b b' ∧
    Run (serve parseDate planExists) (fun _ _ => True) (fun ℓ w => timely parseDate ℓ w) b' c ∧
    (b.state.subscriptions.get e.subscriptionId).map (·.status) = e.fromStatus ∧
    (b'.state.subscriptions.get e.subscriptionId).map (·.status) = some e.toStatus

variable {parseDate planExists} {w : World} {c c' : Config World Call Commit HttpError Unit}
variable {i : Nat} {call : Call} {e : SubscriptionEvent}

theorem Made.step (h : Made parseDate planExists w c i call e)
    (hstep : Step (serve parseDate planExists) (fun _ _ => True)
      (fun ℓ w => timely parseDate ℓ w) c c') : Made parseDate planExists w c' i call e := by
  obtain ⟨⟨p, hi⟩, b, b', hb, hmove, hrest, hstatus⟩ := h
  obtain ⟨p', hi', -⟩ := hstep.flight_later hi
  exact ⟨⟨p', hi'⟩, b, b', hb, hmove, hrest.tail hstep, hstatus⟩

/-- What is in flight calls the methods for what they are meant for. -/
theorem flight_fits (hrun : TimelyRun parseDate planExists w c) {p : Service Unit}
    (hi : c.flights[i]? = some (call, p)) : p.Commits fun ℓ _ => Fits call ℓ :=
  Run.flights (P := fun _ call (p : Service Unit) => p.Commits fun ℓ _ => Fits call ℓ) serve_fits
    (fun _ _ _ _ _ _ h hp => h.step hp) (fun _ _ _ h => by simp at h) hrun i call p hi

theorem flight_writes (hrun : TimelyRun parseDate planExists w c) {p : Service Unit}
    (hi : c.flights[i]? = some (call, p)) : p.Commits (Writes parseDate (direct planExists)) :=
  Run.flights (P := fun _ _ (p : Service Unit) => p.Commits (Writes parseDate (direct planExists)))
    serve_commits (fun _ _ _ _ _ _ h hp => h.step hp) (fun _ _ _ h => by simp at h) hrun i call p hi

/-- An event that is written by itself is one of a change that the request has made. -/
theorem event_made (hrun : TimelyRun parseDate planExists w c) {p : Service Unit}
    (hi : c.flights[i]? = some (call, p)) (hp : p.label = some (.event e)) :
    Made parseDate planExists w c i call e ∧ MeansWhatItSays call e := by
  have howes : (eventDebts parseDate planExists).owes c i = some e := by
    rw [Debts.owes, Config.nextLabel, hi, Option.bind_some, hp]
    rfl
  obtain ⟨b, b', ℓ, upd, due, hb, hmove, hrest, hlabel, hincurs, hdue, hupd⟩ :=
    Debts.owes_incurred serve_solvent hrun howes
  obtain ⟨call', q, q', hq, hstep, hok, hflights⟩ := id hmove
  -- the request at the place is the same all along
  have hcall : call' = call := by
    have hnext : b'.flights[i]? = some (call', q') := by
      rw [hflights]
      exact List.getElem?_set_self (List.getElem?_eq_some_iff.mp hq).1
    obtain ⟨q'', hlater⟩ := Run.flight_later hrest hnext
    cases hi.symm.trans hlater
    rfl
  subst hcall
  have hfits : Fits call' ℓ := by
    rw [Config.nextLabel, hq, Option.bind_some] at hlabel
    cases q with
    | done r => cases hlabel
    | query next => cases hlabel
    | commit ℓ' upd' next =>
        cases hlabel
        exact (flight_fits hb hq).listed rfl
  obtain ⟨hmeans, hbefore, hafter⟩ := incurs_means hincurs hfits hdue
  refine ⟨⟨⟨p, hi⟩, b, b', hb, hmove, hrest, hbefore, ?_⟩, hmeans⟩
  rw [hupd]
  exact hafter

/-- An action leaves a log as it is, or adds an event that means what it says. -/
theorem action_recorded (hrun : TimelyRun parseDate planExists w c)
    (hmove : Advances (fun ℓ w => timely parseDate ℓ w = true) i c c') (d : Nat) :
    logOf c'.state d = logOf c.state d ∨ ∃ e call, logOf c'.state d = logOf c.state d ++ [e] ∧
      Made parseDate planExists w c' i call e ∧ MeansWhatItSays call e := by
  obtain ⟨call, p, p', hi, hp, hok, hflights⟩ := id hmove
  have hnext : c'.flights[i]? = some (call, p') := by
    rw [hflights]
    exact List.getElem?_set_self (List.getElem?_eq_some_iff.mp hi).1
  cases p with
  | done r => cases hp
  | query next =>
      have hstate : c.state = c'.state := congrArg Prod.snd (Option.some.inj hp)
      rw [hstate]
      exact .inl rfl
  | commit ℓ upd next =>
      have hstate : upd c.state = c'.state := congrArg Prod.snd (Option.some.inj hp)
      have hwrite := (flight_writes hrun hi).listed rfl
      obtain hsame | ⟨e, rfl, -, hlog⟩ | ⟨id, rfl, rfl⟩ := writes_log hwrite c.state d
      · rw [hstate] at hsame
        exact .inl hsame
      · rw [hstate] at hlog
        obtain ⟨hmade, hmeans⟩ := event_made hrun hi rfl
        exact .inr ⟨e, call, hlog, hmade.step hmove.step, hmeans⟩
      · have htimely : lateRecovery parseDate id c.state = false := by
          simpa [timely] using hok _ rfl
        rw [← hstate]
        obtain hsame | ⟨r, t, hr, ht, -, hmeans, hview⟩ := processEvent_timely htimely
        · exact .inl (congrArg Prod.snd (hsame d))
        · have hlog := congrArg Prod.snd (hview d)
          by_cases hd : r.id = d
          · rw [if_pos hd] at hlog
            refine .inr ⟨t.entry r 0, call, hlog, ⟨⟨p', hnext⟩, c, c', hrun, hmove, .refl, ?_, ?_⟩,
              hmeans call⟩
            · change (c.state.subscriptions.get r.id).map _ = some r.status
              rw [hr]
              rfl
            · have hrow := congrArg Prod.fst (hview r.id)
              rw [if_pos rfl, hstate] at hrow
              change (c'.state.subscriptions.get r.id).map _ = _
              rw [show c'.state.subscriptions.get r.id = _ from hrow]
              exact congrArg some (ht.status r)
          · rw [if_neg hd] at hlog
            exact .inl hlog

/-- No action of a delivery touches a subscription that is pending or cancelled. -/
theorem delivery_spares (hrun : TimelyRun parseDate planExists w c) {id : Nat}
    (hreq : (c.flights[i]?).map (·.1) = some (.processOne id))
    (hmove : Advances (fun ℓ w => timely parseDate ℓ w = true) i c c') {d : Nat} {r : Subscription}
    (hr : c.state.subscriptions.get d = some r)
    (hstatus : r.status = .pending ∨ r.status = .cancelled) :
    c'.state.subscriptions.get d = some r := by
  let K : Commit → (World → World) → Prop := fun ℓ upd =>
    (ℓ = .processBillingWebhook id ∧ upd = Proc.applied (processEvent parseDate id)) ∨
      ℓ = .settleBillingWebhook id
  obtain ⟨call, p, p', hi, hp, hok, -⟩ := hmove
  rw [hi] at hreq
  cases hreq
  have hcommits : p.Commits K := by
    refine Run.flights (P := fun _ call (p : Service Unit) => call = .processOne id → p.Commits K)
      (fun i call hcall => ?_) (fun i call p p' s s' h hp hcall => ?_)
      (fun _ _ _ h => by simp at h) hrun i _ p hi rfl
    · rw [hcall]
      exact processOne_commits_of id (.inl ⟨rfl, rfl⟩) fun _ _ => .inr rfl
    · exact Proc.Commits.step (h hcall) hp
  cases p with
  | done r => cases hp
  | query next =>
      have hstate : c.state = c'.state := congrArg Prod.snd (Option.some.inj hp)
      rw [← hstate]
      exact hr
  | commit ℓ upd next =>
      have hstate : upd c.state = c'.state := congrArg Prod.snd (Option.some.inj hp)
      have hwrite := (flight_writes hrun hi).listed rfl
      rw [← hstate]
      obtain ⟨rfl, rfl⟩ | rfl := hcommits.listed rfl
      · have htimely : lateRecovery parseDate id c.state = false := by
          simpa [timely] using hok _ rfl
        obtain hsame | ⟨r₀, t, hr₀, -, hwaiting, -, hview⟩ := processEvent_timely htimely
        · exact (congrArg Prod.fst (hsame d)).trans hr
        · refine (congrArg Prod.fst (hview d)).trans ?_
          by_cases hd : r₀.id = d
          · subst hd
            cases hr.symm.trans hr₀
            exact (hstatus.elim hwaiting.1 hwaiting.2).elim
          · rw [if_neg hd]
            exact hr
      · have hturn := (writes_turn hwrite c.state d).2
        generalize hv : view c.state d = v at hturn
        generalize hv' : view (upd c.state) d = v' at hturn
        have hrow : v.1 = some r := (congrArg Prod.fst hv).symm.trans hr
        refine (congrArg Prod.fst hv').trans ?_
        cases hturn with
        | stay => exact hrow
        | create hℓ | transition ht hdue hfinds hd hℓ | activate hst hallowed hd hℓ
        | event hd hℓ | deliver ht hdue hd hℓ => cases hℓ

/-- In every run without late recoveries the events mean what they say, each of a change that the
request has made that wrote it, and no delivery touches a subscription that is pending or
cancelled. -/
theorem event_kinds_mean_what_they_say (parseDate : String → Option Int)
    (planExists : String → Bool) {w : World} {c : Config World Call Commit HttpError Unit}
    (hrun : TimelyRun parseDate planExists w c) :
    (∀ d, ∃ events, logOf c.state d = logOf w d ++ events ∧ ∀ e ∈ events, ∃ i call,
      Made parseDate planExists w c i call e ∧ MeansWhatItSays call e) ∧
    ∀ i id c', (c.flights[i]?).map (·.1) = some (.processOne id) →
      Advances (fun ℓ w => timely parseDate ℓ w = true) i c c' →
      ∀ d r, c.state.subscriptions.get d = some r → r.status = .pending ∨ r.status = .cancelled →
        c'.state.subscriptions.get d = some r := by
  refine ⟨fun d => ?_, fun i id c' hreq hmove d r hr => delivery_spares hrun hreq hmove hr⟩
  induction hrun with
  | refl => exact ⟨[], (List.append_nil _).symm, fun e he => absurd he List.not_mem_nil⟩
  | @tail b c hbefore hstep ih =>
      obtain ⟨events, hlog, hall⟩ := ih
      have hkept : ∀ e ∈ events, ∃ i call, Made parseDate planExists w c i call e ∧
          MeansWhatItSays call e := by
        intro e he
        obtain ⟨i, call, hmade, hmeans⟩ := hall e he
        exact ⟨i, call, hmade.step hstep, hmeans⟩
      cases hstep with
      | accept req hadm => exact ⟨events, hlog, hkept⟩
      | @advance i req p p' s' hi hp hok =>
          have hmove : Advances (fun ℓ w => timely parseDate ℓ w = true) i b
              ⟨s', b.flights.set i (req, p')⟩ := ⟨req, p, p', hi, hp, hok, rfl⟩
          obtain hsame | ⟨e, call, hnew, hmade, hmeans⟩ := action_recorded hbefore hmove d
          · exact ⟨events, hsame.trans hlog, hkept⟩
          · refine ⟨events ++ [e], ?_, fun x hx => ?_⟩
            · rw [hnew, hlog, List.append_assoc]
            · obtain hx | hx := List.mem_append.mp hx
              · exact hkept x hx
              · rw [List.mem_singleton.mp hx]
                exact ⟨i, call, hmade, hmeans⟩

end Runs

/-! A recovery arrives. The provider's adapter has no event of that meaning (a charge that succeeds
after all is a renewal to it), and reports one only where the raw event bears that very name. -/

def recoveryArrives (status : SubscriptionStatus) : World where
  now := 2000
  subscriptions := ⟨[{ lapsed none with status }], 1, by simp [lapsed, Schema.key],
    List.pairwise_singleton ..⟩
  subscriptionEvents := .empty
  billingWebhookEvents := ⟨[{
    id := 0
    providerEventId := "evt_1"
    payload := ⟨"evt_1", "recovered", some [("providerSubscriptionId", .string "sub_1")]⟩
    status := .received
    attempts := 0
    availableAt := 0
    lastError := none
    processedAt := none
    createdAt := 1000 }], 1, by simp [Schema.key], List.pairwise_singleton ..⟩

/-- The payment was overdue. -/
theorem event_kinds_mean_what_they_say_overdue :
    ∃ c, TimelyRun (fun _ => none) (fun _ => true) (recoveryArrives .pastDue) c ∧
      recorded c.state 0 = ([.resumed], some .active, some .active) ∧
      ∃ events, logOf c.state 0 = logOf (recoveryArrives .pastDue) 0 ++ events ∧
        ∀ e ∈ events, ∃ i call,
          Made (fun _ => none) (fun _ => true) (recoveryArrives .pastDue) c i call e ∧
            MeansWhatItSays call e := by
  have hexec : (exec serveAll (fun _ _ => True) (fun ℓ w => timely (fun _ => none) ℓ w = true)
      [.accept (.processOne 0), .advance 0] ⟨recoveryArrives .pastDue, []⟩).any (fun c =>
        decide (recorded c.state 0 = ([.resumed], some .active, some .active))) = true := by
    decide +kernel
  obtain ⟨c, hrun, hP⟩ := exec_any hexec
  exact ⟨c, hrun, of_decide_eq_true hP, (event_kinds_mean_what_they_say _ _ hrun).1 0⟩

/-- The subscription was cancelled: it is active again, and the event calls that a resumption. -/
theorem late_recovery_revives_cancelled :
    ∃ c, Run serveAll (fun _ _ => True) (fun _ _ => True) ⟨recoveryArrives .cancelled, []⟩ c ∧
      (c.state.subscriptions.get 0).map (·.status) = some .active ∧
      ∃ e, logOf c.state 0 = logOf (recoveryArrives .cancelled) 0 ++ [e] ∧ e.type = .resumed ∧
        e.fromStatus = some .cancelled ∧ ∀ call, ¬ MeansWhatItSays call e := by
  have hexec : (exec serveAll (fun _ _ => True) (fun _ _ => True)
      [.accept (.processOne 0), .advance 0] ⟨recoveryArrives .cancelled, []⟩).any (fun c =>
        decide ((c.state.subscriptions.get 0).map (·.status) = some .active) &&
          decide (logOf c.state 0 = logOf (recoveryArrives .cancelled) 0 ++
            [(recoverPayment (some "evt_1")).entry { lapsed none with status := .cancelled } 0]))
        = true := by
    decide +kernel
  obtain ⟨c, hrun, hP⟩ := exec_any hexec
  rw [Bool.and_eq_true, decide_eq_true_eq, decide_eq_true_eq] at hP
  refine ⟨c, hrun, hP.1, _, hP.2, rfl, rfl, fun call hmeans => ?_⟩
  obtain h | h := hmeans.resumed rfl
  · cases h
  · cases h

end PrintForge.Subscriptions
