import PrintForge.Concurrent.Moments
import PrintForge.Subscriptions.Outcomes

/-!
# What a reported success says

An operation asks the provider, and then makes the local change on the condition that the
subscription is still as it was read. A webhook, the scheduler or another operation may come in
between. The update then finds no row, which is no error: the call returns the row it has read,
and reports a success without a trace of the change the provider has made.

Where the update finds the row as it was read, the effect of the operation is in the row with it.
-/

namespace PrintForge.Subscriptions

open Relational Concurrent JavaScript

/-- The row agrees with what was read in the columns that the update of an operation compares. -/
def asRead : Method → Subscription → Subscription → Bool
  | .confirmUpgrade _, read, r => r.status = read.status && r.planId = read.planId
  | .scheduleDowngrade _, read, r =>
      r.status = read.status && r.pendingPlanId = read.pendingPlanId
  | .scheduleCancellation, read, r | .unscheduleCancellation, read, r =>
      r.status = read.status && r.cancelAtPeriodEnd = read.cancelAtPeriodEnd
  | .cancel, read, r | .recoverPayment, read, r | .reactivate, read, r => r.status = read.status
  | .confirmActivation, _, _ | .recordPaymentFailure, _, _ | .exhaustGrace, _, _
  | .applyScheduledDowngrade, _, _ | .confirmRenewal, _, _ | .cancelAtBoundary, _, _
  | .expire, _, _ => true

/-- The update of an operation finds the row as it was read. -/
def Kept : Commit → World → Prop
  | .transition method read, w => ∀ r ∈ w.subscriptions.get read.id, asRead method read r = true
  | _, _ => True

instance : ∀ ℓ w, Decidable (Kept ℓ w)
  | .transition _ read, w => inferInstanceAs (Decidable (∀ r ∈ w.subscriptions.get read.id, _))
  | .create _, _ | .event _, _ | .processBillingWebhook _, _ | .settleBillingWebhook _, _
  | .claimKey _, _ | .provider _, _ | .tick, _ => inferInstanceAs (Decidable True)

/-- Every subscription is still there, and still its tenant's. -/
def TenantsKept (w w' : World) : Prop :=
  ∀ d r, w.subscriptions.get d = some r →
    ∃ r', w'.subscriptions.get d = some r' ∧ r'.tenantId = r.tenantId

theorem tenantsKept_refl (w : World) : TenantsKept w w := fun _ r hr => ⟨r, hr, rfl⟩

theorem TenantsKept.trans {w w₁ w₂ : World} (h : TenantsKept w w₁) (h' : TenantsKept w₁ w₂) :
    TenantsKept w w₂ := by
  intro d r hr
  obtain ⟨r₁, hr₁, htenant⟩ := h d r hr
  obtain ⟨r₂, hr₂, htenant'⟩ := h' d r₁ hr₁
  exact ⟨r₂, hr₂, htenant'.trans htenant⟩

theorem Turn.tenant {allowed : Transition → Subscription → Prop} {ℓ : Commit} {now : Int} {d : Nat}
    {r : Subscription} {log : List SubscriptionEvent}
    {v : Option Subscription × List SubscriptionEvent} (h : Turn allowed ℓ now d (some r, log) v) :
    ∃ r', v.1 = some r' ∧ r'.tenantId = r.tenantId := by
  cases h with
  | stay | event | activate => exact ⟨_, rfl, rfl⟩
  | @transition t read r log =>
      exact ⟨_, rfl, congrArg Identity.tenantId (t.row_identity now read r)⟩
  | @deliver t r log =>
      exact ⟨_, rfl, congrArg Identity.tenantId (t.row_identity now r r)⟩

theorem writes_tenants {parseDate : String → Option Int}
    {allowed : Transition → Subscription → Prop} {ℓ : Commit} {upd : World → World}
    (h : Writes parseDate allowed ℓ upd) (w : World) : TenantsKept w (upd w) := by
  intro d r hr
  have hturn := (writes_turn h w d).2
  rw [view, hr] at hturn
  exact hturn.tenant

theorem ownSubscription_of_get {tenantId d : Nat} {w : World} {r : Subscription}
    (hr : w.subscriptions.get d = some r) (htenant : r.tenantId = tenantId) :
    ownSubscription tenantId w = some r := by
  obtain ⟨hmem, -⟩ := Table.get_eq_some.mp hr
  refine Table.findFirst_eq_some hmem (decide_eq_true htenant) fun x hx hp => ?_
  have hclash : Schema.Clash x r := .inl ((of_decide_eq_true hp).trans htenant.symm)
  exact Table.eq_of_clash hx hmem hclash

/-- What a request may rely on. -/
def rowDiscipline : Discipline World Commit where
  inv _ := True
  ok := Kept
  rely _ := TenantsKept
  guar _ _ := TenantsKept
  rely_refl _ := tenantsKept_refl
  rely_trans h h' := h.trans h'
  inv_guar _ _ _ := trivial
  rely_guar _ _ _ h := h

instance : ∀ ℓ w, Decidable (rowDiscipline.ok ℓ w) :=
  fun ℓ w => inferInstanceAs (Decidable (Kept ℓ w))

section Requests

variable (parseDate : String → Option Int) (planExists : String → Bool)

theorem serve_keeps (i : Nat) (call : Call) (w : World) :
    rowDiscipline.Safe i (fun _ _ => True) (serve parseDate planExists i call) w :=
  Discipline.safe_of_within
    ((serve_commits i call).within fun _ _ w h => writes_tenants h w) fun _ _ _ _ _ h => h

/-- The effect of the operation is in the tenant's subscription. -/
def InEffect (op : Operation) (tenantId : Nat) (w : World) : Prop :=
  ∃ r ∈ ownSubscription tenantId w, (op.flow planExists).settled r = true

def Commit.isTransition : Commit → Bool
  | .transition _ _ => true
  | _ => false

/-- An update of the subscription, or a read with which the request ends, and the effect is
there. -/
def ShowsEffect (op : Operation) (tenantId : Nat) (label : Option Commit) (ended : Bool)
    (w : World) : Prop :=
  (label.any Commit.isTransition || (label.isNone && ended)) = true ∧
    InEffect planExists op tenantId w

instance (op : Operation) (tenantId : Nat) (label : Option Commit) (ended : Bool) (w : World) :
    Decidable (ShowsEffect planExists op tenantId label ended w) :=
  inferInstanceAs (Decidable (_ ∧ ∃ r ∈ ownSubscription tenantId w, _))

variable {planExists}

theorem flow_finds (op : Operation) {s r : Subscription} (hid : r.id = s.id)
    (h : asRead ((op.flow planExists).transition s).method s r = true) :
    ((op.flow planExists).transition s).finds s r = true := by
  cases op with
  | upgrade | downgrade | unscheduleCancellation =>
      simpa [Transition.finds, hid, asRead, Operation.flow, upgrade, downgrade, confirmUpgrade,
        scheduleDowngrade, unscheduleCancellationFlow, unscheduleCancellation] using h
  | cancel atPeriodEnd =>
      cases atPeriodEnd <;>
        simpa [Transition.finds, hid, asRead, Operation.flow, scheduleCancellationFlow,
          scheduleCancellation, immediateCancellationFlow, Subscriptions.cancel] using h
  | resume =>
      change (resumeTransition s).finds s r = true
      change asRead (resumeTransition s).method s r = true at h
      unfold resumeTransition at h ⊢
      split at h
      · next hdue =>
        rw [if_pos hdue]
        simpa [Transition.finds, hid, asRead, recoverPayment] using h
      · next hdue =>
        rw [if_neg hdue]
        simpa [Transition.finds, hid, asRead, reactivate] using h

/-! ## The work -/

section Work

variable {req : OperationRequest} {s : Subscription} {i : Nat} {w : World}

/-- An update that finds the row as it was read leaves the effect in it. -/
theorem update_inEffect (hrow : ∃ r, w.subscriptions.get s.id = some r ∧ r.tenantId = req.tenantId)
    (hkept : Kept (.transition ((req.operation.flow planExists).transition s).method s) w) :
    InEffect planExists req.operation req.tenantId (Proc.applied
      (((req.operation.flow planExists).transition s).compareAndSwap s) w) := by
  obtain ⟨r, hr, htenant⟩ := hrow
  have hid : r.id = s.id := (Table.get_eq_some.mp hr).2
  obtain ⟨u, hcas, hget⟩ := Transition.compareAndSwap_hit hr
    (flow_finds req.operation hid (hkept r hr))
  rw [Proc.applied_ok hcas]
  have hidentity := Transition.row_identity ((req.operation.flow planExists).transition s) w.now s r
  refine ⟨_, ownSubscription_of_get (d := s.id) ?_ ?_, flow_effect req.operation w.now s r⟩
  · exact (hget s.id).trans (if_pos rfl)
  · exact (congrArg Identity.tenantId hidentity).trans htenant

theorem confirm_awaits
    (hrow : ∃ r, w.subscriptions.get s.id = some r ∧ r.tenantId = req.tenantId)
    (hdue : Due ((req.operation.flow planExists).transition s) s) :
    rowDiscipline.Awaits i (ShowsEffect planExists req.operation req.tenantId)
      ((req.operation.flow planExists).confirm s) w := by
  unfold Flow.confirm Transition.apply
  rw [if_neg (by simp [hdue.reached]), hdue.check]
  intro w₁ hrely _ hkept
  refine .inl ⟨rfl, update_inEffect ?_ hkept⟩
  obtain ⟨r, hr, htenant⟩ := hrow
  obtain ⟨r', hr', htenant'⟩ := hrely s.id r hr
  exact ⟨r', hr', htenant'.trans htenant⟩

theorem proceed_awaits (hs : ownSubscription req.tenantId w = some s)
    (hsettled : (req.operation.flow planExists).settled s = false) :
    rowDiscipline.Awaits i (ShowsEffect planExists req.operation req.tenantId)
      ((req.operation.flow planExists).proceed req.provider s) w := by
  unfold Flow.proceed
  rw [if_neg (by simp [hsettled])]
  cases hcheck : (req.operation.flow planExists).check s with
  | some err => exact Discipline.awaits_throw err
  | none =>
      have htenant : s.tenantId = req.tenantId :=
        of_decide_eq_true (Table.findFirst_some hs).2
      have hrow : ∃ r, w.subscriptions.get s.id = some r ∧ r.tenantId = req.tenantId :=
        ⟨s, ownSubscription_get hs, htenant⟩
      have hcall : ∀ change call, rowDiscipline.Safe i
          (Discipline.Returns fun answer w' => answer = call.answer ∧
            ∃ r, w'.subscriptions.get s.id = some r ∧ r.tenantId = req.tenantId)
          (callProvider change call) w := by
        intro change call w₁ hrely _ _
        simp only [applyChange_ok]
        refine ⟨fun d r hr => ⟨r, by rw [requested_subscriptions]; exact hr, rfl⟩, ?_⟩
        intro w₂ hrely' _ answer hanswer
        obtain ⟨r, hr, htenant'⟩ := hrow
        obtain ⟨r₁, hr₁, h₁⟩ := hrely s.id r hr
        have hr₁' : (requested change call w₁).subscriptions.get s.id = some r₁ := by
          rw [requested_subscriptions]
          exact hr₁
        obtain ⟨r₂, hr₂, h₂⟩ := hrely' s.id r₁ hr₁'
        exact ⟨(Except.ok.inj hanswer).symm, r₂, hr₂, h₂.trans (h₁.trans htenant')⟩
      refine (hcall _ _).bind_awaits trivial fun w₁ answer _ h => ?_
      obtain ⟨rfl, hrow₁⟩ := h
      cases hprovider : (req.operation.flow planExists).confirmed
          (req.provider (req.operation.change planExists s)) s with
      | false =>
          obtain ⟨err, herr⟩ := Flow.conclude_unconfirmed hprovider
          exact herr ▸ Discipline.awaits_throw err
      | true =>
          have hconfirm := confirm_awaits (i := i) hrow₁ (flow_due req.operation hsettled hcheck)
          rw [← Flow.conclude_confirmed hprovider] at hconfirm
          exact hconfirm

theorem run_awaits :
    rowDiscipline.Awaits i (ShowsEffect planExists req.operation req.tenantId)
      ((req.operation.flow planExists).run req.provider req.tenantId) w := by
  rw [Flow.run_eq]
  intro w₁ _ _
  dsimp only
  cases hs : w₁.subscriptions.findFirst (·.tenantId = req.tenantId) with
  | none => exact .inr (Discipline.awaits_throw _)
  | some s =>
      cases hsettled : (req.operation.flow planExists).settled s with
      | true =>
          have hproceed : (req.operation.flow planExists).proceed req.provider s = pure s := by
            rw [Flow.proceed, if_pos hsettled]
          refine .inl ⟨?_, s, hs, hsettled⟩
          change (((req.operation.flow planExists).proceed req.provider s).ended) = true
          rw [hproceed]
          rfl
      | false => exact .inr (proceed_awaits hs hsettled)

end Work

/-! ## The request -/

/-- What is left of an operation once its key has been found free. -/
def claimThen (planExists : String → Bool) (req : OperationRequest) : Service Subscription := do
  let claimed ← Proc.transact (.claimKey req.idempotencyKey)
    (claim req.idempotencyKey req.userId req.operation.endpoint req.tenantId)
  match claimed with
  | none => getSubscriptionForTenant req.tenantId
  | some _ => (req.operation.flow planExists).run req.provider req.tenantId

def answerExisting (req : OperationRequest) (existing : IdempotencyKey) : Service Subscription :=
  if existing.tenantId ≠ req.tenantId then throw (.conflict "Idempotency key already in use")
  else getSubscriptionForTenant req.tenantId

theorem orchestrate_step (req : OperationRequest) (w : World) :
    (orchestrate planExists req >>= fun _ => (pure () : Service Unit)).step w
      = some ((match findExisting req.idempotencyKey w with
          | some existing => answerExisting req existing
          | none => claimThen planExists req) >>= fun _ => pure (), w) := rfl

def answerClaim (planExists : String → Bool) (req : OperationRequest) :
    Option IdempotencyKey → Service Subscription
  | none => getSubscriptionForTenant req.tenantId
  | some _ => (req.operation.flow planExists).run req.provider req.tenantId

theorem claimThen_step (req : OperationRequest) {w w' : World} {claimed : Option IdempotencyKey}
    (h : claim req.idempotencyKey req.userId req.operation.endpoint req.tenantId w
      = .ok (claimed, w')) :
    (claimThen planExists req >>= fun _ => (pure () : Service Unit)).step w
      = some (answerClaim planExists req claimed >>= fun _ => pure (), w') := by
  have hthen : claimThen planExists req = Proc.transact (.claimKey req.idempotencyKey)
      (claim req.idempotencyKey req.userId req.operation.endpoint req.tenantId) >>=
        answerClaim planExists req := by
    refine congrArg (_ >>= ·) (funext fun claimed => ?_)
    cases claimed <;> rfl
  rw [hthen]
  exact Proc.bind_step (Proc.transact_bind_step h)

theorem exists_claim (key : String) (userId : Nat) (endpoint : String) (tenantId : Nat)
    (w : World) : ∃ claimed w', claim key userId endpoint tenantId w = .ok (claimed, w') := by
  unfold claim Slot.createOrIgnore
  split <;> exact ⟨_, _, rfl⟩

theorem run_claims_nothing (req : OperationRequest) :
    ((req.operation.flow planExists).run req.provider req.tenantId).Commits
      fun ℓ _ => ∀ key, ℓ ≠ .claimKey key := by
  have hrun : ((req.operation.flow planExists).run req.provider req.tenantId).Commits
      (Works fun _ _ => True) := run_commits (fun _ _ _ => trivial) req.provider req.tenantId
  refine hrun.mono fun ℓ upd h key hℓ => ?_
  cases h with
  | provider => cases hℓ
  | apply h => cases h <;> cases hℓ

theorem answerClaim_claims_nothing (req : OperationRequest) (claimed : Option IdempotencyKey) :
    (answerClaim planExists req claimed).Commits fun ℓ _ => ∀ key, ℓ ≠ .claimKey key := by
  cases claimed with
  | none => exact getSubscriptionForTenant_commits req.tenantId
  | some row => exact run_claims_nothing req

/-- A key is claimed at one place of the process only. -/
def Stage (planExists : String → Bool) (_ : Nat) (call : Call) (p : Service Unit) : Prop :=
  ∀ req, call = .orchestrate req →
    p = (orchestrate planExists req >>= fun _ => pure ()) ∨
    p = (claimThen planExists req >>= fun _ => pure ()) ∨
    p.Commits fun ℓ _ => ∀ key, ℓ ≠ .claimKey key

theorem stage_serve (i : Nat) (call : Call) :
    Stage planExists i call (serve parseDate planExists i call) := by
  rintro req rfl
  exact .inl rfl

theorem Stage.step {i : Nat} {call : Call} {p p' : Service Unit} {w w' : World}
    (h : Stage planExists i call p) (hp : p.step w = some (p', w')) :
    Stage planExists i call p' := by
  intro req hcall
  obtain rfl | rfl | hcommits := h req hcall
  · obtain ⟨rfl, -⟩ := Prod.mk.inj (Option.some.inj ((orchestrate_step req w).symm.trans hp))
    cases hkey : findExisting req.idempotencyKey w with
    | none => exact .inr (.inl rfl)
    | some existing =>
        refine .inr (.inr (Proc.Commits.bind ?_ fun _ => Proc.commits_pure _))
        dsimp only [answerExisting]
        split
        · exact Proc.commits_throw _
        · exact getSubscriptionForTenant_commits req.tenantId
  · obtain ⟨claimed, w₁, hclaim⟩ := exists_claim req.idempotencyKey req.userId
      req.operation.endpoint req.tenantId w
    obtain ⟨rfl, -⟩ := Prod.mk.inj (Option.some.inj ((claimThen_step req hclaim).symm.trans hp))
    exact .inr (.inr ((answerClaim_claims_nothing req claimed).bind fun _ => Proc.commits_pure _))
  · exact .inr (.inr (hcommits.step hp))

/-- What a request asks for, for whom and under which key. -/
def Call.asked : Call → Option (Operation × Nat × String)
  | .orchestrate req => some (req.operation, req.tenantId, req.idempotencyKey)
  | _ => none

/-- A run in which the request at place `i` finds its key free and claims it, and a schedule after
which it has been answered with a result. -/
structure Fresh (parseDate : String → Option Int) (planExists : String → Bool)
    (ok : Commit → World → Prop) [∀ ℓ w, Decidable (ok ℓ w)] (i : Nat)
    (op : Operation) (tenantId : Nat) (key : String) (w : World) (acts : List (Action Call))
    (c₁ c₂ c : Config World Call Commit HttpError Unit) : Prop where
  before : Run (serve parseDate planExists) (fun _ _ => True) ok ⟨w, []⟩ c₁
  asked : c₁.flights[i]?.bind (·.1.asked) = some (op, tenantId, key)
  label : c₁.nextLabel i = some (.claimKey key)
  free : findExisting key c₁.state = none
  claims : Advances ok i c₁ c₂
  after : exec (serve parseDate planExists) (fun _ _ => True) ok acts c₂ = some c
  answer : (c.answer i).any (·.2.toOption.isSome) = true

variable {parseDate}

/-- An operation that reports success under a fresh key has had its effect in the tenant's
subscription at its own update, or has read that there was nothing to do, in every run in which
the updates of operations find their rows as they were read. -/
theorem success_shows_effect {i : Nat} {op : Operation} {tenantId : Nat} {key : String} {w : World}
    {acts : List (Action Call)} {c₁ c₂ c : Config World Call Commit HttpError Unit}
    (h : Fresh parseDate planExists Kept i op tenantId key w acts c₁ c₂ c) :
    Along (serve parseDate planExists) (fun _ _ => True) Kept i
      (fun c c' => ShowsEffect planExists op tenantId (c.nextLabel i) (c'.answer i).isSome c'.state)
      acts c₂ := by
  obtain ⟨hbefore, hasked, hlabel, hfree, hclaims, hafter, hanswer⟩ := h
  have hserve : ∀ j call w, 0 ≤ j → rowDiscipline.inv w → True →
      rowDiscipline.Safe j (fun _ _ => True) (serve parseDate planExists j call) w :=
    fun j call w _ _ _ => serve_keeps parseDate planExists j call w
  have hrun : Run (serve parseDate planExists) (fun _ _ => True) Kept ⟨w, []⟩ c₂ :=
    hbefore.tail hclaims.step
  have hholds : rowDiscipline.Holds (fun _ _ _ _ => True) c₂ :=
    (Discipline.holds_idle trivial).run (Nat.zero_le _) hserve hrun
  obtain ⟨call, p, p', hi, hp, -, hflights⟩ := hclaims
  have hnext : c₂.flights[i]? = some (call, p') := by
    rw [hflights]
    exact List.getElem?_set_self (List.getElem?_eq_some_iff.mp hi).1
  obtain ⟨req, rfl, rfl, rfl, rfl⟩ : ∃ req, call = .orchestrate req ∧ req.operation = op ∧
      req.tenantId = tenantId ∧ req.idempotencyKey = key := by
    rw [hi, Option.bind_some] at hasked
    cases call with
    | orchestrate req =>
        obtain ⟨hop, hrest⟩ := Prod.mk.inj (Option.some.inj hasked)
        obtain ⟨htenant, hkey⟩ := Prod.mk.inj hrest
        exact ⟨req, rfl, hop, htenant, hkey⟩
    | processOne | runGraceExhaustion | runCancellationExpiration | reconcilePeriod
    | createSubscription | tick => cases hasked
  have hstage : Stage planExists i (.orchestrate req) p :=
    hbefore.flights (stage_serve parseDate) (fun _ _ _ _ _ _ h hq => h.step hq)
      (fun _ _ _ hj => by simp at hj) i (.orchestrate req) p hi
  have hlabel' : p.label = some (.claimKey req.idempotencyKey) := by
    rw [Config.nextLabel, hi] at hlabel
    exact hlabel
  have hwork : p' = ((req.operation.flow planExists).run req.provider req.tenantId >>=
      fun _ => pure ()) := by
    obtain rfl | rfl | hcommits := hstage req rfl
    · cases hlabel'
    · obtain ⟨row, w₁, hclaim, -⟩ := claim_free req.userId req.operation.endpoint req.tenantId hfree
      exact congrArg Prod.fst (Option.some.inj (hp.symm.trans (claimThen_step req hclaim)))
    · cases p with
      | done r => cases hlabel'
      | query next => cases hlabel'
      | commit ℓ upd next => exact absurd (Option.some.inj hlabel') (hcommits.1 _)
  rw [hwork] at hnext
  obtain ⟨answered, hanswered, hresult⟩ := (Option.any_eq_true ..).mp hanswer
  obtain ⟨a, ha⟩ : ∃ a, answered.2 = .ok a := by
    cases hr : answered.2 with
    | ok a => exact ⟨a, rfl⟩
    | error err =>
        rw [hr] at hresult
        cases hresult
  exact (run_awaits.map ()).along (Nat.zero_le _) hserve hholds hnext hafter hanswered ha

end Requests

/-! A tenant upgrades. The provider makes the change, and meanwhile a charge fails. -/

def subscriber : Subscription where
  id := 0
  tenantId := 0
  providerCustomerId := some "cust_1"
  providerSubscriptionId := some "sub_1"
  planId := "basic"
  pendingPlanId := none
  status := .active
  currentPeriodStart := some 0
  currentPeriodEnd := some 1000
  cancelAtPeriodEnd := none
  graceEndsAt := none
  retentionEndsAt := none
  updatedAt := some 0

def chargeFailed : BillingWebhookEvent where
  id := 0
  providerEventId := "evt_1"
  payload := ⟨"evt_1", "payment_failed", some [("providerSubscriptionId", .string "sub_1")]⟩
  status := .received
  attempts := 0
  availableAt := 0
  lastError := none
  processedAt := none
  createdAt := 50

theorem key_lt_subscriber : ∀ s ∈ [subscriber], Schema.key s < 1 := by
  simp [subscriber, Schema.key]

def chargePending : World where
  now := 100
  subscriptions := ⟨[subscriber], 1, key_lt_subscriber, List.pairwise_singleton ..⟩
  subscriptionEvents := .empty
  billingWebhookEvents :=
    ⟨[chargeFailed], 1, by simp [chargeFailed, Schema.key], List.pairwise_singleton ..⟩

def upgradeToPro : Call :=
  .orchestrate ⟨.upgrade "pro", 0, 0, "k1", fun _ => ⟨true, .ok (), .error (.error "unreachable")⟩⟩

def serveBilling : Nat → Call → Service Unit := serve (fun _ => none) fun _ => true

abbrev Upgrading (ok : Commit → World → Prop) [∀ ℓ w, Decidable (ok ℓ w)]
    (acts : List (Action Call)) :
    Config World Call Commit HttpError Unit → Config World Call Commit HttpError Unit →
      Config World Call Commit HttpError Unit → Prop :=
  Fresh (fun _ => none) (fun _ => true) ok 0 (.upgrade "pro") 0 "k1" chargePending acts

theorem exists_upgrading (ok : Commit → World → Prop) [∀ ℓ w, Decidable (ok ℓ w)]
    (acts : List (Action Call))
    (P : Config World Call Commit HttpError Unit → Config World Call Commit HttpError Unit → Bool)
    (h : (exec serveBilling (fun _ _ => True) ok [.accept upgradeToPro, .advance 0]
      ⟨chargePending, []⟩).any (fun c₁ =>
        (c₁.flights[0]?.bind (·.1.asked) = some (.upgrade "pro", 0, "k1")) &&
        (c₁.nextLabel 0 = some (.claimKey "k1")) && (findExisting "k1" c₁.state).isNone &&
        (act serveBilling (fun _ _ => True) ok (.advance 0) c₁).any fun c₂ =>
          (exec serveBilling (fun _ _ => True) ok acts c₂).any fun c =>
            (c.answer 0).any (·.2.toOption.isSome) && P c₂ c) = true) :
    ∃ c₁ c₂ c, Upgrading ok acts c₁ c₂ c ∧ P c₂ c = true := by
  obtain ⟨c₁, hbefore, h₁⟩ := exec_any h
  simp only [Bool.and_eq_true, decide_eq_true_eq] at h₁
  obtain ⟨⟨⟨hasked, hlabel⟩, hfree⟩, h₁⟩ := h₁
  obtain ⟨c₂, hclaims, h₂⟩ := (Option.any_eq_true ..).mp h₁
  obtain ⟨c, hafter, h₃⟩ := (Option.any_eq_true ..).mp h₂
  rw [Bool.and_eq_true] at h₃
  exact ⟨c₁, c₂, c, ⟨hbefore, hasked, hlabel, Option.isNone_iff_eq_none.mp hfree,
    act_advances hclaims, hafter, h₃.1⟩, h₃.2⟩

/-- Nothing comes in between. -/
theorem success_shows_effect_upgrade :
    ∃ c₁ c₂ c, Upgrading Kept (List.replicate 5 (.advance 0)) c₁ c₂ c ∧
      Along serveBilling (fun _ _ => True) Kept 0
        (fun c c' => ShowsEffect (fun _ => true) (.upgrade "pro") 0 (c.nextLabel 0)
          (c'.answer 0).isSome c'.state) (List.replicate 5 (.advance 0)) c₂ := by
  obtain ⟨c₁, c₂, c, hfresh, -⟩ := exists_upgrading Kept (List.replicate 5 (.advance 0))
    (fun _ _ => true) (by decide +kernel)
  exact ⟨c₁, c₂, c, hfresh, success_shows_effect hfresh⟩

/-- The failed charge is booked between the provider's answer and the update. -/
def overtaken : List (Action Call) :=
  [.advance 0, .advance 0, .accept (.processOne 0), .advance 1, .advance 0]

/-- The upgrade reports success. The provider has made the change, and the subscription is on the
old plan at the update and ever since. -/
theorem overtaken_upgrade_succeeds :
    ∃ c₁ c₂ c, Upgrading (fun _ _ => True) overtaken c₁ c₂ c ∧
      c.state.providerChanges = [.changeSubscription "sub_1" "pro" .immediate] ∧
      (c.state.subscriptions.get 0).any (·.planId = "basic") ∧
      ¬ Along serveBilling (fun _ _ => True) (fun _ _ => True) 0
        (fun c c' => ShowsEffect (fun _ => true) (.upgrade "pro") 0 (c.nextLabel 0)
          (c'.answer 0).isSome c'.state) overtaken c₂ := by
  obtain ⟨c₁, c₂, c, hfresh, hP⟩ := exists_upgrading (fun _ _ => True) overtaken
    (fun c₂ c =>
      decide (c.state.providerChanges = [.changeSubscription "sub_1" "pro" .immediate]) &&
      (c.state.subscriptions.get 0).any (·.planId = "basic") &&
      decide (¬ Along serveBilling (fun _ _ => True) (fun _ _ => True) 0
        (fun c c' => ShowsEffect (fun _ => true) (.upgrade "pro") 0 (c.nextLabel 0)
          (c'.answer 0).isSome c'.state) overtaken c₂)) (by decide +kernel)
  simp only [Bool.and_eq_true, decide_eq_true_eq] at hP
  exact ⟨c₁, c₂, c, hfresh, hP.1.1, hP.1.2, hP.2⟩

end PrintForge.Subscriptions
