import PrintForge.Subscriptions.EventLog

/-!
# Histories told in full

Every request settles what it leaves outstanding with its next action. What could come in between
is another request: then the event written first is that of the later change, and the log tells a
history that never was. Where no change of a subscription comes between another and its event, the
log tells the history of every subscription that has none outstanding.
-/

namespace PrintForge.Subscriptions

open Relational Concurrent JavaScript

section Requests

variable {parseDate : String → Option Int} {planExists : String → Bool}

theorem findUniqueOrThrow_solvent (id : Nat) :
    (eventDebts parseDate planExists).Solvent none
      (findUniqueOrThrow id : Service Subscription) := by
  refine (Debts.solvent_read _).bind fun found => ?_
  cases found with
  | none => exact Debts.solvent_throw _
  | some s => exact Debts.solvent_pure _

theorem getSubscriptionForTenant_solvent (tenantId : Nat) :
    (eventDebts parseDate planExists).Solvent none
      (getSubscriptionForTenant tenantId : Service Subscription) := by
  refine (Debts.solvent_read _).bind fun found => ?_
  cases found with
  | none => exact Debts.solvent_throw _
  | some s => exact Debts.solvent_pure _

/-- An event that is outstanding is written by itself. -/
theorem recordEvent_solvent (e : SubscriptionEvent) :
    (eventDebts parseDate planExists).Solvent (some { e with id := 0 }) (recordEvent e) :=
  Debts.solvent_settling (.event e)

/-- A method writes the event of the update it has made. -/
theorem apply_solvent {t : Transition} (ht : Direct planExists t) (read : Subscription) :
    (eventDebts parseDate planExists).Solvent none (t.apply read : Service TransitionResult) := by
  unfold Transition.apply
  split
  · exact Debts.solvent_pure _
  · next hreached =>
    split
    · exact Debts.solvent_throw _
    · next hcheck =>
      have hdue : Due t read := ⟨by simpa using hreached, hcheck⟩
      refine Debts.solvent_transact (ifFound (t.entry read 0)) (.update ht hdue) fun count => ?_
      by_cases hone : count = 1
      · rw [ifFound, if_pos hone, if_neg (not_not_intro hone)]
        refine (recordEvent_solvent (t.entry read 0)).bind fun _ => ?_
        exact (findUniqueOrThrow_solvent read.id).bind fun _ => Debts.solvent_pure _
      · rw [ifFound, if_neg hone, if_pos hone]
        exact Debts.solvent_pure _

/-! ## Deliveries and the scheduler -/

theorem processOne_solvent (id : Nat) :
    (eventDebts parseDate planExists).Solvent none (processOne parseDate id) := by
  have hsafe : ∀ data hdata,
      (eventDebts parseDate planExists).Solvent none (safeUpdate id data hdata) := by
    intro data hdata
    refine Debts.Solvent.tryCatch ?_ fun _ => Debts.solvent_pure _
    exact (Debts.solvent_whole (Incurs.whole (.settle id data hdata) rfl)).bind
      fun _ => Debts.solvent_pure _
  refine (Debts.solvent_attempt (Incurs.whole (.process id) rfl)).bind fun seen => ?_
  obtain ⟨attempts, result⟩ := seen
  cases result with
  | ok _ => exact Debts.solvent_pure _
  | error err =>
      dsimp only [recordFailure]
      split
      · exact hsafe _ _
      · exact hsafe _ _

theorem renewPeriod_solvent (state : ProviderSubscription) (updated : Subscription) (done : Bool) :
    (eventDebts parseDate planExists).Solvent none (renewPeriod state updated done) := by
  unfold renewPeriod
  split
  · exact (apply_solvent (.confirmRenewal _) _).bind fun _ => Debts.solvent_pure _
  · exact Debts.solvent_pure _

theorem reconcileRow_solvent (answers : ProviderAnswers) (s : Subscription) :
    (eventDebts parseDate planExists).Solvent none (reconcileRow answers s) := by
  unfold reconcileRow
  split
  · exact Debts.solvent_pure _
  · have hread : (eventDebts parseDate planExists).Solvent none
        (attemptReconciliationRead answers) := by
      unfold attemptReconciliationRead
      split
      · exact Debts.solvent_pure _
      · exact Debts.solvent_throw _
    refine hread.bind fun state => ?_
    split
    · exact Debts.solvent_pure _
    · have hpending :
          (eventDebts parseDate planExists).Solvent none (applyPendingPlan state s) := by
        unfold applyPendingPlan
        split
        · exact (apply_solvent (.applyScheduledDowngrade _) s).bind fun _ => Debts.solvent_pure _
        · exact Debts.solvent_pure _
      refine hpending.bind fun found => ?_
      dsimp only [applyPendingCancellation]
      split
      · split
        · exact Debts.solvent_throw _
        · split
          · exact Debts.solvent_pure _
          · exact (apply_solvent .cancelAtBoundary _).bind fun _ => renewPeriod_solvent _ _ _
      · exact renewPeriod_solvent _ _ _

theorem settleAll_solvent {t : Transition} (ht : Direct planExists t) (found : List Subscription) :
    (eventDebts parseDate planExists).Solvent none (found.forM (settleOne t)) := by
  induction found with
  | nil => exact Debts.solvent_pure _
  | cons s found ih =>
      refine Debts.Solvent.bind (Debts.Solvent.tryCatch ?_ fun _ => Debts.solvent_pure _)
        fun _ => ih
      exact (apply_solvent ht s).bind fun _ => Debts.solvent_pure _

theorem runPass_solvent {t : Transition} (ht : Direct planExists t)
    (find : Int → World → List Subscription) :
    (eventDebts parseDate planExists).Solvent none (runPass find (settleOne t)) :=
  (Debts.solvent_read _).bind fun _ => (Debts.solvent_read _).bind fun found =>
    settleAll_solvent ht found

/-! ## Operations and creation -/

theorem confirm_solvent (op : Operation) (s : Subscription) :
    (eventDebts parseDate planExists).Solvent none ((op.flow planExists).confirm s) :=
  (apply_solvent (flow_direct op s) s).bind fun _ => Debts.solvent_pure _

theorem conclude_solvent (op : Operation) (provider : ProviderCall) (s : Subscription)
    (answer : Except ProviderError Unit) :
    (eventDebts parseDate planExists).Solvent none
      ((op.flow planExists).conclude provider s answer) := by
  unfold Flow.conclude
  split
  · exact confirm_solvent op s
  · unfold Flow.reconcileTimeout
    split
    · exact Debts.solvent_throw _
    · split
      · exact Debts.solvent_throw _
      · split
        · exact confirm_solvent op s
        · exact Debts.solvent_throw _
  · exact Debts.solvent_throw _

theorem orchestrate_solvent (req : OperationRequest) :
    (eventDebts parseDate planExists).Solvent none (orchestrate planExists req) := by
  refine (Debts.solvent_read _).bind fun existing => ?_
  split
  · split
    · exact Debts.solvent_throw _
    · exact getSubscriptionForTenant_solvent _
  · refine (Debts.solvent_whole (Incurs.whole (.claim _ _ _ _) rfl)).bind fun claimed => ?_
    split
    · exact getSubscriptionForTenant_solvent _
    · rw [Flow.run_eq]
      refine (getSubscriptionForTenant_solvent _).bind fun s => ?_
      unfold Flow.proceed
      split
      · exact Debts.solvent_pure _
      · split
        · exact Debts.solvent_throw _
        · refine (Debts.solvent_whole (Incurs.whole (.provider _ _) rfl)).bind fun answer => ?_
          exact conclude_solvent req.operation _ s answer

theorem createPendingSubscription_solvent (tenantId : Nat) (planId : String) :
    (eventDebts parseDate planExists).Solvent none (createPendingSubscription tenantId planId) :=
  Debts.solvent_transact (fun created => some (createdEvent tenantId planId created))
    (.create tenantId planId) fun created =>
      (recordEvent_solvent (createdEvent tenantId planId created)).bind
        fun _ => Debts.solvent_pure _

theorem confirmActivation_solvent (input : Activation) (read : Subscription) :
    (eventDebts parseDate planExists).Solvent none (confirmActivation input read) := by
  unfold confirmActivation
  split
  · exact Debts.solvent_pure _
  · split
    · exact Debts.solvent_throw _
    · next hcheck =>
      have hallowed : isSubscriptionTransitionAllowed read.status input.toStatus = true := by
        simpa [assertSubscriptionTransitionAllowed] using hcheck
      refine Debts.solvent_transact (ifFound (activatedEvent input read))
        (.activate input read hallowed) fun count => ?_
      by_cases hone : count = 1
      · rw [ifFound, if_pos hone, if_neg (not_not_intro hone)]
        refine (recordEvent_solvent (activatedEvent input read)).bind fun _ => ?_
        exact (findUniqueOrThrow_solvent _).bind fun _ => Debts.solvent_pure _
      · rw [ifFound, if_neg hone, if_pos hone]
        exact Debts.solvent_pure _

theorem createSubscription_solvent (tenantId : Nat) (planId : String) (answer : Created) :
    (eventDebts parseDate planExists).Solvent none
      (createSubscription planExists tenantId planId answer) := by
  refine (Debts.solvent_read _).bind fun existing => ?_
  split
  · exact Debts.solvent_throw _
  · split
    · exact Debts.solvent_throw _
    · split
      · exact Debts.solvent_throw _
      · refine (createPendingSubscription_solvent tenantId planId).bind fun created => ?_
        exact (confirmActivation_solvent _ created).bind fun _ => Debts.solvent_pure _

/-- Every request settles at once what it leaves outstanding. -/
theorem serve_solvent (i : Nat) (call : Call) :
    (eventDebts parseDate planExists).Solvent none (serve parseDate planExists i call) := by
  cases call with
  | processOne id => exact processOne_solvent id
  | runGraceExhaustion => exact runPass_solvent .exhaustGrace _
  | runCancellationExpiration => exact runPass_solvent .expire _
  | reconcilePeriod tenantId answers =>
      refine Debts.Solvent.bind ?_ fun _ => Debts.solvent_pure _
      rw [reconcilePeriod_eq]
      exact (getSubscriptionForTenant_solvent tenantId).bind (reconcileRow_solvent answers)
  | createSubscription tenantId planId answer =>
      exact (createSubscription_solvent tenantId planId answer).bind fun _ => Debts.solvent_pure _
  | orchestrate req => exact (orchestrate_solvent req).bind fun _ => Debts.solvent_pure _
  | tick elapsed =>
      exact Debts.solvent_whole (D := eventDebts parseDate planExists) (.whole (.tick elapsed) rfl)

end Requests

/-! ## Runs -/

/-- No event of the subscription is outstanding. -/
def NothingDue (parseDate : String → Option Int) (planExists : String → Bool)
    (c : Config World Call Commit HttpError Unit) (d : Nat) : Prop :=
  ∀ j e, (eventDebts parseDate planExists).owes c j = some e → e.subscriptionId ≠ d

/-- The events of a subscription tell its history wherever none is outstanding, in every run in
which no subscription is changed, and no event of it written, between an update and its event. -/
theorem history_told (parseDate : String → Option Int) (planExists : String → Bool) {w : World}
    (hw : ∀ d, Faithful (view w d)) {c : Config World Call Commit HttpError Unit}
    (hrun : (eventDebts parseDate planExists).CalmRun (serve parseDate planExists)
      (fun _ _ => True) (fun _ _ => True) ⟨w, []⟩ c)
    {d : Nat} (hnone : NothingDue parseDate planExists c d) : Faithful (view c.state d) := by
  have hidle : (eventDebts parseDate planExists).Kept
      (⟨w, []⟩ : Config World Call Commit HttpError Unit) := by
    refine Debts.kept_idle fun d => ?_
    change Faithful ((view w d).1, (view w d).2 ++ [])
    rw [List.append_nil]
    exact hw d
  have hinv : Faithful ((view c.state d).1, (view c.state d).2 ++ []) :=
    (hidle.run serve_solvent hrun).settled d hnone
  rw [List.append_nil] at hinv
  exact hinv

/-! A subscription is created, and its tenant cancels it. -/

def unused : World where
  now := 0
  subscriptions := .empty
  subscriptionEvents := .empty
  billingWebhookEvents := .empty

theorem unused_faithful (d : Nat) : Faithful (view unused d) := rfl

def createOnBasic : Call :=
  .createSubscription 0 "basic" (.ok ("cust_1",
    { providerSubscriptionId := "sub_1", planRef := "basic", trialEndsAt := none
      currentPeriodStart := 0, currentPeriodEnd := 1000 }))

def cancelNow : Call :=
  .orchestrate ⟨.cancel false, 0, 0, "k1", fun _ => ⟨true, .ok (), .error (.error "unreachable")⟩⟩

/-- The types of the events of a subscription, where they lead to, and its status. -/
def recorded (w : World) (d : Nat) :
    List SubscriptionEventType × Option SubscriptionStatus × Option SubscriptionStatus :=
  ((logOf w d).map (·.type), (logOf w d).getLast?.map (·.toStatus),
    (w.subscriptions.get d).map (·.status))

def serveCreation : Nat → Call → Service Unit := serve (fun _ => none) fun _ => true

def debtsOfCreation : Debts World Commit SubscriptionEvent Nat
    (Option Subscription × List SubscriptionEvent) :=
  eventDebts (fun _ => none) fun _ => true

/-- The creation by itself. -/
theorem history_told_created :
    ∃ c, debtsOfCreation.CalmRun serveCreation (fun _ _ => True) (fun _ _ => True)
        ⟨unused, []⟩ c ∧
      recorded c.state 0 = ([.created, .activated], some .active, some .active) ∧
      Faithful (view c.state 0) := by
  obtain ⟨c, hexec, hP⟩ := (Option.any_eq_true (fun c : Config World Call Commit HttpError Unit =>
      decide (recorded c.state 0 = ([.created, .activated], some .active, some .active)) &&
        decide (c.flights.map (·.2.label) = [none]))
    (exec serveCreation (fun _ _ => True) (fun _ _ => True)
      (.accept createOnBasic :: List.replicate 6 (.advance 0)) ⟨unused, []⟩)).mp (by decide +kernel)
  rw [Bool.and_eq_true, decide_eq_true_eq, decide_eq_true_eq] at hP
  have hcalm : debtsOfCreation.CalmRun serveCreation (fun _ _ => True) (fun _ _ => True)
      ⟨unused, []⟩ c :=
    Debts.calmRun_single (fun _ => rfl) (serve_solvent 0 createOnBasic) hexec
  refine ⟨c, hcalm, hP.1, history_told _ _ unused_faithful hcalm fun j e hj => ?_⟩
  -- nothing is left to be done, so that nothing is outstanding
  obtain ⟨ℓ, hℓ, -⟩ := Option.bind_eq_some_iff.mp hj
  obtain ⟨f, hf, hlabel⟩ := Option.bind_eq_some_iff.mp hℓ
  have hmem : f.2.label ∈ c.flights.map (·.2.label) :=
    List.mem_map_of_mem (List.mem_of_getElem? hf)
  rw [hP.2, hlabel] at hmem
  cases List.mem_singleton.mp hmem

/-- The subscription is cancelled between its activation and the event of that. -/
def overtakenActivation : List (Action Call) :=
  [.accept createOnBasic, .accept cancelNow] ++ List.replicate 4 (.advance 0) ++
    List.replicate 7 (.advance 1) ++ List.replicate 2 (.advance 0)

/-- Everything has been answered, and the log ends with the activation of a subscription that is
cancelled. -/
theorem overtaken_activation_recorded_last :
    ∃ c, Run serveCreation (fun _ _ => True) (fun _ _ => True) ⟨unused, []⟩ c ∧
      c.flights.map (·.2.ended) = [true, true] ∧
      recorded c.state 0 = ([.created, .cancelled, .activated], some .active, some .cancelled) ∧
      ¬ Faithful (view c.state 0) := by
  have hexec : (exec serveCreation (fun _ _ => True) (fun _ _ => True) overtakenActivation
      ⟨unused, []⟩).any (fun c => decide (c.flights.map (·.2.ended) = [true, true]) &&
        decide (recorded c.state 0
          = ([.created, .cancelled, .activated], some .active, some .cancelled))) = true := by
    decide +kernel
  obtain ⟨c, hrun, hP⟩ := exec_any hexec
  rw [Bool.and_eq_true, decide_eq_true_eq, decide_eq_true_eq] at hP
  refine ⟨c, hrun, hP.1, hP.2, fun h => ?_⟩
  obtain ⟨-, hrecorded⟩ := Prod.mk.inj hP.2
  obtain ⟨hlast, hstatus⟩ := Prod.mk.inj hrecorded
  obtain ⟨r, hr, hcancelled⟩ := Option.map_eq_some_iff.mp hstatus
  rw [view, hr] at h
  have htold : (logOf c.state 0).getLast?.map (·.toStatus) = some r.status := h.status
  rw [hlast, hcancelled] at htold
  cases htold

end PrintForge.Subscriptions
