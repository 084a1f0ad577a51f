import PrintForge.Subscriptions.Outcomes

/-!
# Repeated idempotency keys

A tenant's operations follow one another, and each may be cut off after any of its actions. The
key of an operation is claimed, and the claim is committed, before the work. A later request with
this key is answered with the subscription as it is, so that it reports success whatever has
become of the first. Keys are taken for good: exactly one call claims a key.
-/

namespace PrintForge.Subscriptions

open Relational Concurrent JavaScript

/-! ## What becomes of the keys -/

/-- A free key may be claimed, and other keys are as they were. -/
def KeyClaimed (key : String) (tenantId : Nat) (w w' : World) : Prop :=
  ∀ k, findExisting k w' = findExisting k w ∨
    (k = key ∧ findExisting k w = none ∧
      ∃ row, findExisting k w' = some row ∧ row.tenantId = tenantId)

theorem keyClaimed_refl (key : String) (tenantId : Nat) (w : World) :
    KeyClaimed key tenantId w w := fun _ => .inl rfl

theorem KeyClaimed.trans {key : String} {tenantId : Nat} {w w₁ w₂ : World}
    (h : KeyClaimed key tenantId w w₁) (h' : KeyClaimed key tenantId w₁ w₂) :
    KeyClaimed key tenantId w w₂ := by
  intro k
  obtain hsame | ⟨hk, hfree, row, hrow, htenant⟩ := h k
  · obtain hsame' | ⟨hk, hfree, hrow⟩ := h' k
    · exact .inl (hsame'.trans hsame)
    · exact .inr ⟨hk, hsame.symm.trans hfree, hrow⟩
  · obtain hsame' | ⟨-, hfree', -⟩ := h' k
    · exact .inr ⟨hk, hfree, row, hsame'.trans hrow, htenant⟩
    · cases hrow.symm.trans hfree'

theorem claim_claims (key : String) (userId : Nat) (endpoint : String) (tenantId : Nat)
    {w w' : World} {claimed : Option IdempotencyKey}
    (h : claim key userId endpoint tenantId w = .ok (claimed, w')) :
    KeyClaimed key tenantId w w' := by
  cases hkey : findExisting key w with
  | none =>
      obtain ⟨row, w₁, hclaim, hclaims⟩ := claim_free userId endpoint tenantId hkey
      cases hclaim.symm.trans h
      intro k
      by_cases hk : k = key
      · subst hk
        exact .inr ⟨rfl, hkey, hclaims.claimed⟩
      · exact .inl (hclaims.others k hk)
  | some existing =>
      unfold claim Slot.createOrIgnore at h
      split at h
      · next keys hkeys =>
        -- the row that is there stands in the way
        obtain ⟨hmem, hfound⟩ := Table.findFirst_some hkey
        exact absurd (of_decide_eq_true hfound) (Table.create_apart hkeys existing hmem)
      · cases h
        exact keyClaimed_refl _ _ _

theorem works_keys {allowed : Transition → Subscription → Prop} {ℓ : Commit}
    {upd : World → World} (h : Works allowed ℓ upd) (w : World) :
    (upd w).idempotencyKeys = w.idempotencyKeys := by
  cases h with
  | provider change provider =>
      unfold Proc.applied
      cases htx : applyChange change provider w with
      | error err => rfl
      | ok result =>
          obtain ⟨answer, w'⟩ := result
          obtain ⟨_, w₁, hmodify, hpure⟩ := Tx.bind_ok.mp htx
          cases hmodify
          cases hpure
          dsimp only
          split <;> rfl
  | apply h =>
      cases h with
      | @transition t read ht hdue =>
          obtain ⟨r, u, -, -, hcas, -⟩ | ⟨n, -, hcas, -⟩ := compareAndSwap_cases t read w
          · rw [Proc.applied_ok hcas]
          · rw [Proc.applied_ok hcas]
      | event e =>
          unfold Proc.applied
          split
          · next hcreate =>
            obtain ⟨events, -, -, rfl⟩ := Slot.create_ok hcreate
            rfl
          · rfl

section Calls

variable (planExists : String → Bool)

theorem orchestrate_within (req : OperationRequest) :
    (orchestrate planExists req).Within fun _ w w' =>
      KeyClaimed req.idempotencyKey req.tenantId w w' := by
  have hread : (getSubscriptionForTenant req.tenantId : Service Subscription).Within
      fun _ w w' => KeyClaimed req.idempotencyKey req.tenantId w w' :=
    (getSubscriptionForTenant_commits (K := fun _ _ => False) req.tenantId).within
      fun _ _ _ h => h.elim
  have hclaim : (Proc.transact (.claimKey req.idempotencyKey)
      (claim req.idempotencyKey req.userId req.operation.endpoint req.tenantId) :
        Service (Option IdempotencyKey)).Within
      fun _ w w' => KeyClaimed req.idempotencyKey req.tenantId w w' :=
    Proc.within_transact (fun _ => keyClaimed_refl _ _ _) fun w claimed w' h =>
      claim_claims _ _ _ _ h
  refine (Proc.within_read _).bind fun existing => ?_
  split
  · split
    · exact Proc.within_throw _
    · exact hread
  · refine hclaim.bind fun claimed => ?_
    split
    · exact hread
    · have hrun : ((req.operation.flow planExists).run req.provider req.tenantId).Commits
          (Works fun _ _ => True) := run_commits (fun _ _ _ => trivial) req.provider req.tenantId
      refine hrun.within fun ℓ upd w h k => .inl ?_
      simp only [findExisting, works_keys h]

/-! ## Calls in sequence -/

/-- A call, and after how many actions it is cut off, if it is. -/
structure Attempt where
  req : OperationRequest
  cut : Option Nat

/-- What a call is answered, if it is, and what it leaves. -/
def Attempt.outcome (a : Attempt) (w : World) : Option (Except HttpError Subscription) × World :=
  match a.cut with
  | none => (some ((orchestrate planExists a.req).alone w).1,
      ((orchestrate planExists a.req).alone w).2)
  | some n => (orchestrate planExists a.req).upTo n w

/-- The call is not cut off before its end. -/
def Attempt.Ends (a : Attempt) (w : World) : Prop :=
  ∀ n ∈ a.cut, (orchestrate planExists a.req).actions w ≤ n

/-- The world after a sequence of calls. -/
def after : List Attempt → World → World
  | [], w => w
  | a :: rest, w => after rest (a.outcome planExists w).2

variable {planExists}

theorem after_append (before rest : List Attempt) (w : World) :
    after planExists (before ++ rest) w
      = after planExists rest (after planExists before w) := by
  induction before generalizing w with
  | nil => rfl
  | cons a before ih => exact ih _

theorem outcome_of_ends {a : Attempt} {w : World} (h : a.Ends planExists w) :
    a.outcome planExists w = (some ((orchestrate planExists a.req).alone w).1,
      ((orchestrate planExists a.req).alone w).2) := by
  obtain ⟨req, cut⟩ := a
  cases cut with
  | none => rfl
  | some n => exact Proc.upTo_of_le (h n rfl)

theorem ends_of_outcome {a : Attempt} {w : World} {r : Except HttpError Subscription}
    (h : (a.outcome planExists w).1 = some r) : a.Ends planExists w := by
  obtain ⟨req, cut⟩ := a
  rintro n rfl
  exact Proc.le_of_upTo h

variable (planExists) in
theorem outcome_keys (a : Attempt) (w : World) :
    KeyClaimed a.req.idempotencyKey a.req.tenantId w (a.outcome planExists w).2 := by
  have hkeep : ∀ (_ : Commit) (s s' : World),
      KeyClaimed a.req.idempotencyKey a.req.tenantId s s' →
      KeyClaimed a.req.idempotencyKey a.req.tenantId w s →
      KeyClaimed a.req.idempotencyKey a.req.tenantId w s' := fun _ _ _ h h' => h'.trans h
  have hwithin := orchestrate_within planExists a.req
  unfold Attempt.outcome
  split
  · exact hwithin.alone hkeep (keyClaimed_refl _ _ _)
  · exact hwithin.upTo hkeep _ (keyClaimed_refl _ _ _)

/-- A key that is taken stays taken. -/
theorem after_keeps {key : String} {row : IdempotencyKey} (attempts : List Attempt) {w : World}
    (h : findExisting key w = some row) :
    findExisting key (after planExists attempts w) = some row := by
  induction attempts generalizing w with
  | nil => exact h
  | cons a rest ih =>
      obtain hsame | ⟨-, hfree, -⟩ := outcome_keys planExists a w key
      · exact ih (hsame.trans h)
      · cases h.symm.trans hfree

variable (planExists) in
/-- The call after `before` claims the key. -/
structure ClaimedBy (key : String) (attempts before : List Attempt) (a : Attempt)
    (rest : List Attempt) (w : World) : Prop where
  eq : attempts = before ++ a :: rest
  free : findExisting key (after planExists before w) = none
  taken : (findExisting key (a.outcome planExists (after planExists before w)).2).isSome

theorem ClaimedBy.row {key : String} {attempts before rest : List Attempt} {a : Attempt} {w : World}
    (h : ClaimedBy planExists key attempts before a rest w) :
    a.req.idempotencyKey = key ∧ ∃ row, findExisting key (after planExists attempts w) = some row ∧
      row.tenantId = a.req.tenantId := by
  obtain ⟨heq, hfree, htaken⟩ := h
  obtain hsame | ⟨hkey, -, row, hrow, htenant⟩ :=
    outcome_keys planExists a (after planExists before w) key
  · rw [hsame, hfree] at htaken
    cases htaken
  · refine ⟨hkey.symm, row, ?_, htenant⟩
    rw [heq, after_append]
    exact after_keeps rest hrow

/-- A key that has come to be taken has been claimed by a call. -/
theorem exists_claimedBy {key : String} {attempts : List Attempt} {w : World}
    (hfree : findExisting key w = none)
    (htaken : (findExisting key (after planExists attempts w)).isSome) :
    ∃ before a rest, ClaimedBy planExists key attempts before a rest w := by
  induction attempts generalizing w with
  | nil =>
      rw [after, hfree] at htaken
      cases htaken
  | cons a rest ih =>
      cases hnext : findExisting key (a.outcome planExists w).2 with
      | some row => exact ⟨[], a, rest, rfl, hfree, by rw [after, hnext]; rfl⟩
      | none =>
          obtain ⟨before, b, rest', heq, hfree', htaken'⟩ := ih hnext htaken
          exact ⟨a :: before, b, rest', congrArg (a :: ·) heq, hfree', htaken'⟩

/-- There is one such call. -/
theorem ClaimedBy.before_le {key : String} {attempts before rest before' rest' : List Attempt}
    {a a' : Attempt} {w : World} (h : ClaimedBy planExists key attempts before a rest w)
    (heq : attempts = before' ++ a' :: rest')
    (hfree : findExisting key (after planExists before' w) = none) :
    ∃ later, before = before' ++ later := by
  obtain ⟨later, hbefore, -⟩ | ⟨later, hbefore, hrest⟩ :=
    List.append_eq_append_iff.mp (heq.symm.trans h.eq)
  · exact ⟨later, hbefore⟩
  · cases later with
    | nil => exact ⟨[], by rw [List.append_nil, hbefore, List.append_nil]⟩
    | cons b later =>
        -- the key has been taken before
        obtain ⟨rfl, -⟩ := List.cons.inj hrest
        obtain ⟨row, hrow⟩ := Option.isSome_iff_exists.mp h.taken
        rw [hbefore, after_append] at hfree
        exact absurd hfree (by rw [after, after_keeps later hrow]; simp)

theorem ClaimedBy.unique {key : String} {attempts before rest before' rest' : List Attempt}
    {a a' : Attempt} {w : World} (h : ClaimedBy planExists key attempts before a rest w)
    (h' : ClaimedBy planExists key attempts before' a' rest' w) :
    before = before' ∧ a = a' := by
  obtain ⟨later, hlater⟩ := h.before_le h'.eq h'.free
  obtain ⟨later', hlater'⟩ := h'.before_le h.eq h.free
  have hnil : later = [] := by
    have hlength := congrArg List.length hlater
    rw [hlater', List.length_append, List.length_append] at hlength
    exact List.eq_nil_of_length_eq_zero (by omega)
  rw [hnil, List.append_nil] at hlater
  subst hlater
  exact ⟨rfl, (List.cons.inj (List.append_cancel_left (h.eq.symm.trans h'.eq))).1⟩

/-! ## What a replay reports -/

section Replay

variable (planExists) (req : OperationRequest)

/-- The operation finds its effect in place, or brings it about. -/
def GetsThrough (w : World) : Prop :=
  ∃ s ∈ ownSubscription req.tenantId w, (req.operation.flow planExists).settled s = true ∨
    ((req.operation.flow planExists).check s = none ∧
      (req.operation.flow planExists).confirmed
        (req.provider (req.operation.change planExists s)) s = true)

/-- The operation has come to its end with success, and its effect is in the subscription. -/
def Completed (a : Attempt) (w : World) : Prop :=
  (∃ s, (a.outcome planExists w).1 = some (.ok s)) ∧
    ∃ r ∈ ownSubscription a.req.tenantId (a.outcome planExists w).2,
      (a.req.operation.flow planExists).settled r = true

variable {planExists req}

variable (planExists) in
/-- A request whose key is free gets through and brings about its effect, or fails. -/
theorem fresh_outcome {w : World} (hfree : findExisting req.idempotencyKey w = none) :
    (GetsThrough planExists req w ∧ ∃ s w', (orchestrate planExists req).alone w = (.ok s, w') ∧
      (findExisting req.idempotencyKey w').isSome ∧
      ∃ r ∈ ownSubscription req.tenantId w', (req.operation.flow planExists).settled r = true) ∨
    (¬ GetsThrough planExists req w ∧
      ∃ err w', (orchestrate planExists req).alone w = (.error err, w')) := by
  have hanswered := orchestrate_answered planExists req w
  generalize (orchestrate planExists req).alone w = out at hanswered
  cases hanswered with
  | foreign hkey | missing hkey | replayed hkey => cases hkey.symm.trans hfree
  | @worked w₁ out hkey hclaim hout =>
      have hown : ownSubscription req.tenantId w₁ = ownSubscription req.tenantId w := by
        simp only [ownSubscription, hclaim.subscriptions]
      have htaken : (findExisting req.idempotencyKey w₁).isSome := by
        obtain ⟨row, hrow, -⟩ := hclaim.claimed
        rw [hrow]
        rfl
      have hnot : ∀ {s}, ownSubscription req.tenantId w₁ = some s →
          (req.operation.flow planExists).settled s = false →
          ((req.operation.flow planExists).check s = none →
            (req.operation.flow planExists).confirmed
              (req.provider (req.operation.change planExists s)) s = false) →
          ¬ GetsThrough planExists req w := by
        rintro s hs hsettled himp ⟨r, hr, hthrough⟩
        cases hs.symm.trans (hown.trans hr)
        obtain h | ⟨hcheck, h⟩ := hthrough
        · cases hsettled.symm.trans h
        · cases (himp hcheck).symm.trans h
      cases hout with
      | missing hnone =>
          refine .inr ⟨?_, _, _, rfl⟩
          rintro ⟨r, hr, -⟩
          cases hnone.symm.trans (hown.trans hr)
      | @settled s hs hsettled =>
          exact .inl ⟨⟨s, hown.symm.trans hs, .inl hsettled⟩, s, _, rfl, htaken, s, hs, hsettled⟩
      | @refused s err hs hsettled hcheck =>
          have hrefused : (req.operation.flow planExists).check s ≠ none := by
            rw [hcheck]
            exact Option.some_ne_none err
          exact .inr ⟨hnot hs hsettled fun hnone => absurd hnone hrefused, _, _, rfl⟩
      | unconfirmed hs hsettled hcheck hprovider =>
          exact .inr ⟨hnot hs hsettled fun _ => hprovider, _, _, rfl⟩
      | @changed s s' w' hs hsettled hcheck hprovider hs' hw' =>
          refine .inl
            ⟨⟨s, hown.symm.trans hs, .inr ⟨hcheck, hprovider⟩⟩, s', w', rfl, ?_, s', ?_, ?_⟩
          · rw [findExisting, hw'.idempotencyKeys, requested_idempotencyKeys]
            exact htaken
          · have hid : s'.toIdentity = s.toIdentity := by
              rw [hs']
              exact Transition.row_identity ..
            refine ownSubscription_update hs hid fun k => ?_
            rw [hw'.get k, requested_subscriptions, congrArg Identity.id hid]
          · rw [hs']
            exact flow_effect req.operation w₁.now s s

/-- A call under a free key completes its operation exactly where it runs to its end and gets
through. -/
theorem completed_iff {a : Attempt} {w : World}
    (hfree : findExisting a.req.idempotencyKey w = none) :
    Completed planExists a w ↔ a.Ends planExists w ∧ GetsThrough planExists a.req w := by
  constructor
  · rintro ⟨⟨s, hs⟩, -⟩
    have hends := ends_of_outcome hs
    refine ⟨hends, ?_⟩
    obtain ⟨hthrough, -⟩ | ⟨-, err, w', herr⟩ := fresh_outcome planExists hfree
    · exact hthrough
    · rw [outcome_of_ends hends, herr] at hs
      cases hs
  · rintro ⟨hends, hthrough⟩
    obtain ⟨-, s, w', hs, -, r, hr, hsettled⟩ | ⟨hnot, -⟩ :=
      fresh_outcome planExists hfree
    · rw [Completed, outcome_of_ends hends, hs]
      exact ⟨⟨s, rfl⟩, r, hr, hsettled⟩
    · exact absurd hthrough hnot

/-- What completes an operation under a free key has claimed the key. -/
theorem Completed.taken {a : Attempt} {w : World} (h : Completed planExists a w)
    (hfree : findExisting a.req.idempotencyKey w = none) :
    (findExisting a.req.idempotencyKey (a.outcome planExists w).2).isSome := by
  obtain ⟨hends, hthrough⟩ := (completed_iff hfree).mp h
  obtain ⟨-, s, w', hs, htaken, -⟩ | ⟨hnot, -⟩ := fresh_outcome planExists hfree
  · rw [outcome_of_ends hends, hs]
    exact htaken
  · exact absurd hthrough hnot

variable (planExists) in
/-- Whether a request whose key is taken is answered with the subscription. -/
theorem replay_alone {w : World} {existing : IdempotencyKey}
    (hkey : findExisting req.idempotencyKey w = some existing) :
    (∃ s, ((orchestrate planExists req).alone w).1 = .ok s) ↔
      existing.tenantId = req.tenantId ∧ (ownSubscription req.tenantId w).isSome := by
  have hanswered := orchestrate_answered planExists req w
  generalize (orchestrate planExists req).alone w = out at hanswered
  cases hanswered with
  | foreign hkey' htenant =>
      cases hkey.symm.trans hkey'
      refine iff_of_false (fun h => ?_) fun h => htenant h.1
      obtain ⟨s, hs⟩ := h
      cases hs
  | missing hkey' hnone =>
      refine iff_of_false (fun h => ?_) fun h => ?_
      · obtain ⟨s, hs⟩ := h
        cases hs
      · rw [hnone] at h
        cases h.2
  | @replayed existing' s hkey' htenant hs =>
      cases hkey.symm.trans hkey'
      exact iff_of_true ⟨s, rfl⟩ ⟨htenant, by rw [hs]; rfl⟩
  | worked hfree => cases hkey.symm.trans hfree

/-- A replay that is answered with the subscription answers for an operation that has been
completed before, under the same key. -/
def FaithfulReplay (planExists : String → Bool) (req : OperationRequest) (attempts : List Attempt)
    (w : World) : Prop :=
  (findExisting req.idempotencyKey (after planExists attempts w)).isSome →
  (∃ s, ((orchestrate planExists req).alone (after planExists attempts w)).1 = .ok s) →
  ∃ before a rest, attempts = before ++ a :: rest ∧
    findExisting req.idempotencyKey (after planExists before w) = none ∧
    a.req.idempotencyKey = req.idempotencyKey ∧ a.req.tenantId = req.tenantId ∧
    a.req.operation = req.operation ∧ Completed planExists a (after planExists before w)

/-- In any sequence of calls a replay reports an operation that has been done, exactly if the
call of the tenant that claimed the key was for this operation, ran to its end and got through. -/
theorem replay_reports_completed {attempts : List Attempt} {w : World}
    (hnew : findExisting req.idempotencyKey w = none) :
    FaithfulReplay planExists req attempts w ↔
      ((ownSubscription req.tenantId (after planExists attempts w)).isSome →
        ∀ before a rest, ClaimedBy planExists req.idempotencyKey attempts before a rest w →
          a.req.tenantId = req.tenantId → a.req.operation = req.operation ∧
            a.Ends planExists (after planExists before w) ∧
            GetsThrough planExists a.req (after planExists before w)) := by
  constructor
  · intro h hown before a rest hclaimed htenant
    obtain ⟨hkey, row, hrow, hrowTenant⟩ := hclaimed.row
    have hanswer := (replay_alone planExists hrow).mpr
      ⟨hrowTenant.trans htenant, hown⟩
    obtain ⟨before', a', rest', heq, hfree, hkey', -, hop, hcompleted⟩ :=
      h (by rw [hrow]; rfl) hanswer
    have hfree' : findExisting a'.req.idempotencyKey (after planExists before' w) = none := by
      rw [hkey']
      exact hfree
    have htaken := hcompleted.taken hfree'
    rw [hkey'] at htaken
    obtain ⟨rfl, rfl⟩ := hclaimed.unique ⟨heq, hfree, htaken⟩
    exact ⟨hop, (completed_iff hfree').mp hcompleted⟩
  · intro h htaken hanswer
    obtain ⟨before, a, rest, hclaimed⟩ := exists_claimedBy hnew htaken
    obtain ⟨hkey, row, hrow, hrowTenant⟩ := hclaimed.row
    obtain ⟨htenant, hown⟩ := (replay_alone planExists hrow).mp hanswer
    have htenant' : a.req.tenantId = req.tenantId := hrowTenant.symm.trans htenant
    obtain ⟨hop, hends, hthrough⟩ := h hown before a rest hclaimed htenant'
    refine ⟨before, a, rest, hclaimed.eq, hclaimed.free, hkey, htenant', hop, ?_⟩
    exact (completed_iff (hkey.symm ▸ hclaimed.free)).mpr ⟨hends, hthrough⟩

end Replay

end Calls

/-! A tenant asks for an upgrade, and asks again under the same key. -/

def onBasic : Subscription where
  id := 0
  tenantId := 0
  providerCustomerId := some "cust_1"
  providerSubscriptionId := some "sub_1"
  planId := "basic"
  pendingPlanId := none
  status := .active
  currentPeriodStart := some 0
  currentPeriodEnd := some 1000
  cancelAtPeriodEnd := none
  graceEndsAt := none
  retentionEndsAt := none
  updatedAt := some 0

def subscribed : World where
  now := 100
  subscriptions := ⟨[onBasic], 1, by simp [onBasic, Schema.key], List.pairwise_singleton ..⟩
  subscriptionEvents := .empty
  billingWebhookEvents := .empty

def toPro (call : ProviderCall) : OperationRequest := ⟨.upgrade "pro", 0, 0, "k1", fun _ => call⟩

def accepts : ProviderCall := ⟨true, .ok (), .error (.error "unreachable")⟩

def refuses : ProviderCall :=
  ⟨false, .error (.rejected "plan not offered"), .error (.error "unreachable")⟩

theorem replay_reports_completed_upgrade :
    FaithfulReplay (fun _ => true) (toPro accepts) [⟨toPro accepts, none⟩] subscribed ∧
      ((orchestrate (fun _ => true) (toPro accepts)).alone
        (after (fun _ => true) [⟨toPro accepts, none⟩] subscribed)).1.toOption.any
          (·.planId = "pro") := by
  refine ⟨(replay_reports_completed (by decide +kernel)).mpr ?_, by decide +kernel⟩
  rintro - before a rest hclaimed -
  obtain ⟨rfl, rfl, -⟩ : before = [] ∧ a = ⟨toPro accepts, none⟩ ∧ rest = [] := by
    cases before with
    | nil =>
        obtain ⟨ha, hrest⟩ := List.cons.inj hclaimed.eq
        exact ⟨rfl, ha.symm, hrest.symm⟩
    | cons b before => exact absurd (congrArg List.length hclaimed.eq) (by simp)
  exact ⟨rfl, fun n hn => (by cases hn), onBasic, by decide +kernel,
    .inr ⟨by decide +kernel, by decide +kernel⟩⟩

/-- The provider refuses the upgrade. The second request reports success, with the old plan. -/
theorem refused_upgrade_replayed :
    ¬ FaithfulReplay (fun _ => true) (toPro refuses) [⟨toPro refuses, none⟩] subscribed ∧
      ((orchestrate (fun _ => true) (toPro refuses)).alone
        (after (fun _ => true) [⟨toPro refuses, none⟩] subscribed)).1.toOption.any
          (·.planId = "basic") := by
  refine ⟨fun h => ?_, by decide +kernel⟩
  have hanswer : ((orchestrate (fun _ => true) (toPro refuses)).alone
      (after (fun _ => true) [⟨toPro refuses, none⟩] subscribed)).1.toOption.isSome := by
    decide +kernel
  obtain ⟨before, a, rest, heq, -, -, -, -, ⟨s, hs⟩, -⟩ := h (by decide +kernel) (by
    generalize ((orchestrate (fun _ => true) (toPro refuses)).alone
      (after (fun _ => true) [⟨toPro refuses, none⟩] subscribed)).1 = r at hanswer
    cases r with
    | error err => cases hanswer
    | ok s => exact ⟨s, rfl⟩)
  cases before with
  | nil =>
      obtain ⟨rfl, -⟩ := List.cons.inj heq
      have hnone : ((Attempt.outcome (fun _ => true) ⟨toPro refuses, none⟩ subscribed).1.bind
          Except.toOption).isNone := by decide +kernel
      change (Attempt.outcome (fun _ => true) ⟨toPro refuses, none⟩ subscribed).1 = _ at hs
      rw [hs] at hnone
      cases hnone
  | cons b before => exact absurd (congrArg List.length heq) (by simp)

end PrintForge.Subscriptions
