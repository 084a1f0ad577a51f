import PrintForge.Subscriptions.Writes

/-!
# What an operation comes to by itself

An operation that nothing interrupts has one of a few outcomes, and the state before it and the
provider's answers say which: `Outcome` for the work, `Answered` for the request with its key.
What an operation and its transition agree on is shown first, operation by operation.
-/

namespace PrintForge.Subscriptions

open Relational Concurrent JavaScript

def ownSubscription (tenantId : Nat) (w : World) : Option Subscription :=
  w.subscriptions.findFirst (·.tenantId = tenantId)

theorem ownSubscription_get {tenantId : Nat} {w : World} {s : Subscription}
    (h : ownSubscription tenantId w = some s) : w.subscriptions.get s.id = some s :=
  Table.get_key (Table.findFirst_some h).1

/-- A rewritten row is found where it was. -/
theorem ownSubscription_update {tenantId : Nat} {w w' : World} {s s' : Subscription}
    (h : ownSubscription tenantId w = some s) (hs' : s'.toIdentity = s.toIdentity)
    (hget : ∀ k, w'.subscriptions.get k
      = if k = s.id then some s' else w.subscriptions.get k) :
    ownSubscription tenantId w' = some s' := by
  have hmem : s' ∈ w'.subscriptions := by
    have hfound : w'.subscriptions.get s.id = some s' := by rw [hget, if_pos rfl]
    exact (Table.get_eq_some.mp hfound).1
  have htenant : s'.tenantId = tenantId := by
    have hs : s.tenantId = tenantId := of_decide_eq_true (Table.findFirst_some h).2
    exact (congrArg Identity.tenantId hs').trans hs
  refine Table.findFirst_eq_some hmem (decide_eq_true htenant) fun x hx hp => ?_
  have hclash : Schema.Clash x s' := .inl ((of_decide_eq_true hp).trans htenant.symm)
  exact Table.eq_of_clash hx hmem hclash

/-! ## The operations and their transitions -/

section Operations

variable {planExists : String → Bool}

theorem flow_reached (op : Operation) (s : Subscription) :
    ((op.flow planExists).transition s).reached s = (op.flow planExists).settled s := by
  cases op with
  | upgrade | downgrade | unscheduleCancellation => rfl
  | cancel atPeriodEnd => cases atPeriodEnd <;> rfl
  | resume =>
      change (resumeTransition s).reached s = decide (s.status = .active)
      unfold resumeTransition
      split <;> rfl

/-- What an operation lets through, its transition lets through. -/
theorem flow_check (op : Operation) {s : Subscription}
    (h : (op.flow planExists).check s = none) :
    ((op.flow planExists).transition s).check s = none := by
  have hactive : ∀ action, assertActiveTo action s = none → assertCurrentlyActive s = none := by
    intro action hactive
    simpa [assertActiveTo, assertCurrentlyActive] using hactive
  cases op with
  | upgrade toPlanId | downgrade toPlanId =>
      obtain ⟨hplan, hactive'⟩ := Option.or_eq_none_iff.mp h
      exact Option.or_eq_none_iff.mpr
        ⟨hactive _ hactive', (Option.or_eq_none_iff.mp hplan).1⟩
  | cancel atPeriodEnd =>
      cases atPeriodEnd with
      | true => exact hactive _ (Option.or_eq_none_iff.mp h).1
      | false =>
          change immediateCancellationFlow.check s = none at h
          change assertSubscriptionTransitionAllowed s.status .cancelled = none
          cases hs : s.status with
          | active | pastDue | paused => rfl
          | pending | trialing | cancelled | expired =>
              simp [immediateCancellationFlow, hs] at h
  | unscheduleCancellation => exact hactive _ (Option.or_eq_none_iff.mp h).1
  | resume =>
      change resume.check s = none at h
      change (resumeTransition s).check s = none
      cases hs : s.status with
      | active | pastDue | paused | cancelled =>
          simp [resumeTransition, recoverPayment, reactivate, hs]
          rfl
      | pending | trialing | expired => simp [resume, hs] at h

theorem flow_due (op : Operation) {s : Subscription}
    (hsettled : (op.flow planExists).settled s = false)
    (hcheck : (op.flow planExists).check s = none) :
    Due ((op.flow planExists).transition s) s :=
  ⟨(flow_reached op s).trans hsettled, flow_check op hcheck⟩

/-- The transition leads to where there is nothing to do. -/
theorem flow_effect (op : Operation) (now : Int) (read r : Subscription) :
    (op.flow planExists).settled (((op.flow planExists).transition read).row now read r)
      = true := by
  cases op with
  | upgrade toPlanId | downgrade toPlanId => exact decide_eq_true rfl
  | unscheduleCancellation => rfl
  | cancel atPeriodEnd => cases atPeriodEnd <;> rfl
  | resume =>
      change decide (((resumeTransition read).row now read r).status = .active) = true
      unfold resumeTransition
      split <;> rfl

theorem flow_linked (op : Operation) {s : Subscription}
    (h : (op.flow planExists).check s = none) :
    (truthy s.providerSubscriptionId).isSome = true := by
  have hlink : assertHasProviderLink s = none → (truthy s.providerSubscriptionId).isSome := by
    intro hnone
    by_contra hne
    rw [assertHasProviderLink, if_neg hne] at hnone
    cases hnone
  cases op with
  | upgrade | downgrade =>
      exact hlink (Option.or_eq_none_iff.mp (Option.or_eq_none_iff.mp h).1).2
  | cancel atPeriodEnd =>
      cases atPeriodEnd with
      | true => exact hlink (Option.or_eq_none_iff.mp h).2
      | false =>
          change immediateCancellationFlow.check s = none at h
          unfold immediateCancellationFlow at h
          dsimp only at h
          split at h
          · cases h
          · exact hlink h
  | unscheduleCancellation => exact hlink (Option.or_eq_none_iff.mp h).2
  | resume =>
      change resume.check s = none at h
      unfold resume at h
      dsimp only at h
      split at h
      · cases h
      · split at h
        · cases h
        · exact hlink h

end Operations

/-! ## The work -/

/-- The provider has answered, or what is read of it is taken for an answer. -/
def Flow.confirmed (flow : Flow) (provider : ProviderCall) (s : Subscription) : Bool :=
  match provider.answer with
  | .ok () => true
  | .error (.timeout _) =>
      (truthy s.providerSubscriptionId).isSome && provider.read.toOption.any flow.confirms
  | .error _ => false

theorem Flow.conclude_confirmed {flow : Flow} {provider : ProviderCall} {s : Subscription}
    (h : flow.confirmed provider s = true) :
    flow.conclude provider s provider.answer = flow.confirm s := by
  obtain ⟨applied, answer, read⟩ := provider
  unfold Flow.confirmed at h
  cases answer with
  | ok u => rfl
  | error err =>
      cases err with
      | status | rejected | error => cases h
      | timeout message =>
          simp only [Bool.and_eq_true] at h
          cases read with
          | error err => cases h.2
          | ok state =>
              have hlinked : ¬(truthy s.providerSubscriptionId).isNone = true := by
                rw [← Option.not_isSome, h.1]
                decide
              have hconfirms : flow.confirms state = true := h.2
              simp only [Flow.conclude, Flow.reconcileTimeout, if_neg hlinked, if_pos hconfirms]

theorem Flow.conclude_unconfirmed {flow : Flow} {provider : ProviderCall} {s : Subscription}
    (h : flow.confirmed provider s = false) :
    ∃ err, flow.conclude provider s provider.answer = throw err := by
  obtain ⟨applied, answer, read⟩ := provider
  unfold Flow.confirmed at h
  cases answer with
  | ok u => cases h
  | error err =>
      cases err with
      | status | rejected | error => exact ⟨_, rfl⟩
      | timeout message =>
          simp only [Flow.conclude, Flow.reconcileTimeout]
          split
          · exact ⟨_, rfl⟩
          · next hlinked =>
            cases read with
            | error err => exact ⟨_, rfl⟩
            | ok state =>
                have hconfirms : flow.confirms state = false := by
                  rw [Option.isNone_eq_false_iff.mp (Bool.eq_false_of_not_eq_true hlinked)] at h
                  exact h
                simp only [hconfirms]
                exact ⟨_, rfl⟩

/-- The world once the provider has done what it does about the change. -/
def requested (change : ProviderChange) (provider : ProviderCall) (w : World) : World :=
  if provider.applied then { w with providerChanges := w.providerChanges ++ [change] } else w

/-- A subscription and the events, rewritten. -/
structure Rewrites (s : Subscription) (w w' : World) : Prop where
  get : ∀ k, w'.subscriptions.get k
    = if k = s.id then some s else w.subscriptions.get k
  providerChanges : w'.providerChanges = w.providerChanges
  idempotencyKeys : w'.idempotencyKeys = w.idempotencyKeys

theorem findUniqueOrThrow_alone {id : Nat} {w : World} {s : Subscription}
    (h : w.subscriptions.get id = some s) :
    (findUniqueOrThrow id : Service Subscription).alone w = (.ok s, w) := by
  refine (Proc.alone_bind (Proc.alone_read (fun w : World => w.subscriptions.get id) w)).trans ?_
  rw [h]
  rfl

theorem apply_alone {t : Transition} {r : Subscription} {w : World}
    (hr : w.subscriptions.get r.id = some r) (hdue : Due t r) :
    ∃ result w', (t.apply r : Service TransitionResult).alone w = (.ok result, w') ∧
      result.subscription = t.row w.now r r ∧ Rewrites (t.row w.now r r) w w' := by
  obtain ⟨u, hcas, hget⟩ := Transition.compareAndSwap_hit hr (t.finds_self r)
  obtain ⟨e, events, hrecord, -⟩ := record_view t r { w with subscriptions := u }
  have hid : (t.row w.now r r).id = r.id := congrArg Identity.id (t.row_identity w.now r r)
  have hfound : u.get r.id = some (t.row w.now r r) := by rw [hget, if_pos rfl]
  refine ⟨⟨true, t.row w.now r r, some (t.event r).type⟩,
    { w with subscriptions := u, subscriptionEvents := events }, ?_, rfl, ?_, rfl, rfl⟩
  · unfold Transition.apply
    rw [if_neg (by simp [hdue.reached]), hdue.check]
    refine (Proc.alone_bind (Proc.alone_transact_ok hcas)).trans ?_
    refine (Proc.alone_bind (Proc.alone_transact_ok hrecord)).trans ?_
    exact (Proc.alone_bind (findUniqueOrThrow_alone hfound)).trans rfl
  · intro k
    rw [hid]
    exact hget k

theorem getSubscriptionForTenant_alone {tenantId : Nat} {w : World} {s : Subscription}
    (h : ownSubscription tenantId w = some s) :
    (getSubscriptionForTenant tenantId : Service Subscription).alone w = (.ok s, w) := by
  refine (Proc.alone_bind (Proc.alone_read (ownSubscription tenantId) w)).trans ?_
  rw [h]
  rfl

theorem getSubscriptionForTenant_missing {tenantId : Nat} {w : World}
    (h : ownSubscription tenantId w = none) :
    (getSubscriptionForTenant tenantId : Service Subscription).alone w
      = (.error (.notFound "Subscription not found"), w) := by
  refine (Proc.alone_bind (Proc.alone_read (ownSubscription tenantId) w)).trans ?_
  rw [h]
  rfl

section Work

variable (planExists : String → Bool) (op : Operation)
variable (provider : ProviderChange → ProviderCall) (tenantId : Nat)

/-- The change the operation asks the provider for. -/
def Operation.change (s : Subscription) : ProviderChange :=
  (op.flow planExists).change (Flow.providerSubscriptionId s)

/-- What the work of an operation comes to. -/
inductive Outcome (w : World) : Except HttpError Subscription × World → Prop
  | missing {err : HttpError} (hnone : ownSubscription tenantId w = none) :
      Outcome w (.error err, w)
  | settled {s : Subscription} (hs : ownSubscription tenantId w = some s)
      (hsettled : (op.flow planExists).settled s = true) : Outcome w (.ok s, w)
  | refused {s : Subscription} {err : HttpError} (hs : ownSubscription tenantId w = some s)
      (hsettled : (op.flow planExists).settled s = false)
      (hcheck : (op.flow planExists).check s = some err) : Outcome w (.error err, w)
  | unconfirmed {s : Subscription} {err : HttpError}
      (hs : ownSubscription tenantId w = some s)
      (hsettled : (op.flow planExists).settled s = false)
      (hcheck : (op.flow planExists).check s = none)
      (hprovider : (op.flow planExists).confirmed (provider (op.change planExists s)) s = false) :
      Outcome w (.error err,
        requested (op.change planExists s) (provider (op.change planExists s)) w)
  | changed {s s' : Subscription} {w' : World} (hs : ownSubscription tenantId w = some s)
      (hsettled : (op.flow planExists).settled s = false)
      (hcheck : (op.flow planExists).check s = none)
      (hprovider : (op.flow planExists).confirmed (provider (op.change planExists s)) s = true)
      (hs' : s' = ((op.flow planExists).transition s).row w.now s s)
      (hw' : Rewrites s' (requested (op.change planExists s)
        (provider (op.change planExists s)) w) w') : Outcome w (.ok s', w')

section

variable (change : ProviderChange) (call : ProviderCall) (w : World)

@[simp] theorem requested_subscriptions :
    (requested change call w).subscriptions = w.subscriptions := by
  unfold requested
  split <;> rfl

@[simp] theorem requested_now : (requested change call w).now = w.now := by
  unfold requested
  split <;> rfl

@[simp] theorem requested_idempotencyKeys :
    (requested change call w).idempotencyKeys = w.idempotencyKeys := by
  unfold requested
  split <;> rfl

end

theorem applyChange_ok (change : ProviderChange) (call : ProviderCall) (w : World) :
    applyChange change call w = .ok (call.answer, requested change call w) := by
  unfold requested
  split
  · next h => simp [applyChange, h, Tx.bind_apply]
  · next h => simp [applyChange, h, Tx.bind_apply]

theorem callProvider_alone (change : ProviderChange) (call : ProviderCall) (w : World) :
    (callProvider change call).alone w = (.ok call.answer, requested change call w) :=
  Proc.alone_transact_ok (applyChange_ok change call w)

theorem run_outcome (w : World) :
    Outcome planExists op provider tenantId w
      (((op.flow planExists).run provider tenantId).alone w) := by
  rw [Flow.run_eq, Proc.bind_def, Proc.alone_finish]
  cases hs : ownSubscription tenantId w with
  | none =>
      rw [getSubscriptionForTenant_missing hs]
      exact .missing hs
  | some s =>
      rw [getSubscriptionForTenant_alone hs]
      change Outcome planExists op provider tenantId w
        (((op.flow planExists).proceed provider s).alone w)
      unfold Flow.proceed
      split
      · next hsettled => exact .settled hs hsettled
      · next hsettled =>
        rw [Bool.not_eq_true] at hsettled
        cases hcheck : (op.flow planExists).check s with
        | some err => exact .refused hs hsettled hcheck
        | none =>
            have hcall := Proc.alone_bind
              (f := (op.flow planExists).conclude (provider (op.change planExists s)) s)
              (callProvider_alone (op.change planExists s) (provider (op.change planExists s)) w)
            refine Eq.mpr (congrArg _ hcall) ?_
            cases hprovider :
                (op.flow planExists).confirmed (provider (op.change planExists s)) s with
            | false =>
                obtain ⟨err, herr⟩ := Flow.conclude_unconfirmed hprovider
                rw [herr]
                exact .unconfirmed hs hsettled hcheck hprovider
            | true =>
                rw [Flow.conclude_confirmed hprovider]
                have hget : (requested (op.change planExists s)
                    (provider (op.change planExists s)) w).subscriptions.get s.id = some s := by
                  rw [requested_subscriptions]
                  exact ownSubscription_get hs
                obtain ⟨result, w', happly, hresult, hw'⟩ :=
                  apply_alone hget (flow_due op hsettled hcheck)
                rw [requested_now] at hresult hw'
                have hconfirm : ((op.flow planExists).confirm s).alone (requested
                    (op.change planExists s) (provider (op.change planExists s)) w)
                    = (.ok result.subscription, w') :=
                  (Proc.alone_bind happly).trans rfl
                rw [hconfirm]
                refine .changed hs hsettled hcheck hprovider hresult ?_
                rw [hresult]
                exact hw'

end Work

/-! ## The request -/

/-- A key is claimed, and nothing else happens. -/
structure Claims (key : String) (tenantId : Nat) (w w' : World) : Prop where
  subscriptions : w'.subscriptions = w.subscriptions
  providerChanges : w'.providerChanges = w.providerChanges
  claimed : ∃ row, findExisting key w' = some row ∧ row.tenantId = tenantId
  others : ∀ k, k ≠ key → findExisting k w' = findExisting k w

/-- A key that is free can be claimed. -/
theorem claim_free (userId : Nat) (endpoint : String) (tenantId : Nat) {key : String} {w : World}
    (h : findExisting key w = none) :
    ∃ row w', claim key userId endpoint tenantId w = .ok (some row, w') ∧
      Claims key tenantId w w' := by
  have hfree : ∀ r ∈ w.idempotencyKeys, ¬ Schema.Clash r (⟨w.idempotencyKeys.nextKey, key, userId,
      endpoint, tenantId⟩ : IdempotencyKey) := by
    intro r hr hclash
    have hne := Table.findFirst_none h r hr
    rw [decide_eq_false_iff_not] at hne
    exact hne hclash
  obtain ⟨keys, hkeys⟩ : ∃ keys, w.idempotencyKeys.create
      (fun id => ⟨id, key, userId, endpoint, tenantId⟩) (fun _ => rfl) = some keys :=
    Table.exists_create hfree
  have hfind : ∀ k, findExisting k { w with idempotencyKeys := keys }
      = (findExisting k w).or (if key = k then
          some ⟨w.idempotencyKeys.nextKey, key, userId, endpoint, tenantId⟩ else none) := by
    intro k
    simp only [findExisting, Table.findFirst, Table.rows_create hkeys, List.find?_append,
      List.find?_singleton, decide_eq_true_eq]
  refine ⟨⟨w.idempotencyKeys.nextKey, key, userId, endpoint, tenantId⟩,
    { w with idempotencyKeys := keys }, ?_, rfl, rfl, ?_, fun k hk => ?_⟩
  · simp only [claim, Slot.createOrIgnore, Db.idempotencyKeys, hkeys]
  · rw [hfind, h, if_pos rfl]
    exact ⟨_, rfl, rfl⟩
  · rw [hfind, if_neg (Ne.symm hk), Option.or_none]

section Request

variable (planExists : String → Bool) (req : OperationRequest)

/-- What a request for an operation comes to. -/
inductive Answered (w : World) : Except HttpError Subscription × World → Prop
  | foreign {existing : IdempotencyKey} {err : HttpError}
      (hkey : findExisting req.idempotencyKey w = some existing)
      (htenant : existing.tenantId ≠ req.tenantId) : Answered w (.error err, w)
  | missing {existing : IdempotencyKey} {err : HttpError}
      (hkey : findExisting req.idempotencyKey w = some existing)
      (hnone : ownSubscription req.tenantId w = none) : Answered w (.error err, w)
  | replayed {existing : IdempotencyKey} {s : Subscription}
      (hkey : findExisting req.idempotencyKey w = some existing)
      (htenant : existing.tenantId = req.tenantId)
      (hs : ownSubscription req.tenantId w = some s) : Answered w (.ok s, w)
  | worked {w₁ : World} {out : Except HttpError Subscription × World}
      (hkey : findExisting req.idempotencyKey w = none)
      (hclaim : Claims req.idempotencyKey req.tenantId w w₁)
      (hout : Outcome planExists req.operation req.provider req.tenantId w₁ out) : Answered w out

theorem orchestrate_answered (w : World) :
    Answered planExists req w ((orchestrate planExists req).alone w) := by
  unfold orchestrate withIdempotency
  rw [Proc.alone_bind (Proc.alone_read (findExisting req.idempotencyKey) w)]
  cases hkey : findExisting req.idempotencyKey w with
  | some existing =>
      dsimp only
      split
      · next htenant => exact .foreign hkey htenant
      · next htenant =>
        cases hs : ownSubscription req.tenantId w with
        | none =>
            rw [getSubscriptionForTenant_missing hs]
            exact .missing hkey hs
        | some s =>
            rw [getSubscriptionForTenant_alone hs]
            exact .replayed hkey (not_not.mp htenant) hs
  | none =>
      obtain ⟨row, w₁, hclaim, hclaims⟩ := claim_free req.userId req.operation.endpoint
        req.tenantId hkey
      dsimp only
      rw [Proc.alone_bind (Proc.alone_transact_ok hclaim)]
      exact .worked hkey hclaims (run_outcome planExists req.operation req.provider req.tenantId w₁)

end Request

end PrintForge.Subscriptions
