import PrintForge.Concurrent.Process
import PrintForge.Entitlements.Service
import Mathlib.Logic.Relation

/-!
# What a resolution comes to

For each key the newest override in force decides, then the row of the plan in force, then the
default that grants nothing. An override of a feature is meant to carry a value. The check of
the request lets `null` pass for one, though, and such an override is passed over: an older one
decides, or the plan.
-/

namespace PrintForge.Entitlements

open Relational Concurrent Proc

/-! ## The specification -/

/-- The newest override of the tenant that is in force and satisfies the condition. -/
def latestOverride (w : World) (tenantId : Nat) (p : TenantEntitlementOverride → Bool) :
    Option TenantEntitlementOverride :=
  (w.overrides.findMany fun o => o.tenantId = tenantId && o.revokedAt = none && p o).argmax
    (·.createdAt)

/-- The subscribed plan where the subscription gives full access, else the free plan. -/
inductive EffectivePlan (w : World) (tenantId : Nat) : Option Nat → Prop
  | subscribed {s : Subscription} (hs : s ∈ w.subscriptions) (ht : s.tenantId = tenantId)
      (hfull : s.status = .trialing ∨ s.status = .active ∨ s.status = .pastDue) :
      EffectivePlan w tenantId (some s.planId)
  | free {p : Plan} (hp : p ∈ w.plans) (hkey : p.key = fallbackPlanKey)
      (hnone : ∀ s ∈ w.subscriptions, s.tenantId = tenantId →
        ¬ (s.status = .trialing ∨ s.status = .active ∨ s.status = .pastDue)) :
      EffectivePlan w tenantId (some p.id)
  | none (hp : ∀ p ∈ w.plans, p.key ≠ fallbackPlanKey)
      (hnone : ∀ s ∈ w.subscriptions, s.tenantId = tenantId →
        ¬ (s.status = .trialing ∨ s.status = .active ∨ s.status = .pastDue)) :
      EffectivePlan w tenantId none

/-- What the row of the plan says of a feature, and no without a row. -/
inductive PlanGrants (w : World) (planId : Option Nat) (key : FeatureKey) : Bool → Prop
  | row {r : PlanFeature} (hr : r ∈ w.planFeatures) (hp : planId = some r.planId)
      (hkey : r.featureKey = key.name) : PlanGrants w planId key r.enabled
  | none (hnone : ∀ r ∈ w.planFeatures, planId = some r.planId → r.featureKey ≠ key.name) :
      PlanGrants w planId key false

/-- What the row of the plan says of a limit, and nothing without a row. -/
inductive PlanAllows (w : World) (planId : Option Nat) (key : LimitKey) : Option Int → Prop
  | row {r : PlanLimit} (hr : r ∈ w.planLimits) (hp : planId = some r.planId)
      (hkey : r.limitKey = key.name) : PlanAllows w planId key r.limitValue
  | none (hnone : ∀ r ∈ w.planLimits, planId = some r.planId → r.limitKey ≠ key.name) :
      PlanAllows w planId key (some 0)

/-- The value a feature is to have. It is the value of the newest override, even where that
carries none. -/
inductive FeatureValue (w : World) (tenantId : Nat) (key : FeatureKey) : Option Bool → Prop
  | override {o : TenantEntitlementOverride}
      (ho : latestOverride w tenantId (·.featureKey = some key.name) = some o) :
      FeatureValue w tenantId key o.boolValue
  | plan {planId : Option Nat} {value : Bool}
      (hnone : latestOverride w tenantId (·.featureKey = some key.name) = none)
      (hplan : EffectivePlan w tenantId planId) (hvalue : PlanGrants w planId key value) :
      FeatureValue w tenantId key (some value)

/-- The value a limit is to have; none means unlimited. -/
inductive LimitValue (w : World) (tenantId : Nat) (key : LimitKey) : Option Int → Prop
  | override {o : TenantEntitlementOverride}
      (ho : latestOverride w tenantId (·.limitKey = some key.name) = some o) :
      LimitValue w tenantId key o.intValue
  | plan {planId : Option Nat} {value : Option Int}
      (hnone : latestOverride w tenantId (·.limitKey = some key.name) = none)
      (hplan : EffectivePlan w tenantId planId) (hvalue : PlanAllows w planId key value) :
      LimitValue w tenantId key value

/-- The rows of the tenant, and the catalogue of plans, are the same. -/
structure SameFor (tenantId : Nat) (w w' : World) : Prop where
  plans : w'.plans = w.plans
  planFeatures : w'.planFeatures = w.planFeatures
  planLimits : w'.planLimits = w.planLimits
  subscriptions : w'.subscriptions.findMany (·.tenantId = tenantId) =
    w.subscriptions.findMany (·.tenantId = tenantId)
  overrides : w'.overrides.findMany (·.tenantId = tenantId) =
    w.overrides.findMany (·.tenantId = tenantId)

/-- The resolution of a tenant is the specified one, and no row of another tenant plays a part
in it. -/
structure ResolvesAsSpecified (w : World) (tenantId : Nat) : Prop where
  features : ∀ key, FeatureValue w tenantId key (some ((resolve tenantId w).features key))
  limits : ∀ key, LimitValue w tenantId key ((resolve tenantId w).limits key).value ∧
    ((resolve tenantId w).limits key).billingPeriod = limitKeyPeriods key
  isolated : ∀ w', SameFor tenantId w w' → resolve tenantId w' = resolve tenantId w

variable {w w' : World} {tenantId : Nat}

/-! ## The plan in force -/

theorem fullPlanStatuses_iff {s : Subscriptions.SubscriptionStatus} :
    s ∈ fullPlanStatuses ↔ s = .trialing ∨ s = .active ∨ s = .pastDue := by
  simp [fullPlanStatuses]

theorem effectivePlan_resolve (tenantId : Nat) (w : World) :
    EffectivePlan w tenantId (resolveEffectivePlanId tenantId w) := by
  have hnone : ∀ {o}, w.subscriptions.findFirst (·.tenantId = tenantId) = o →
      o.filter (·.status ∈ fullPlanStatuses) = none → ∀ s ∈ w.subscriptions,
        s.tenantId = tenantId →
          ¬ (s.status = .trialing ∨ s.status = .active ∨ s.status = .pastDue) := by
    intro o ho hfilter s hs ht
    have hfound : w.subscriptions.findFirst (·.tenantId = tenantId) = some s :=
      Table.findFirst_eq_some hs (by simpa using ht) fun x hx hxt =>
        Table.eq_of_clash hx hs ((by simpa using hxt : x.tenantId = tenantId).trans ht.symm)
    obtain rfl := ho.symm.trans hfound
    rw [← fullPlanStatuses_iff]
    simpa using Option.filter_eq_none_iff.mp hfilter s rfl
  unfold resolveEffectivePlanId
  dsimp only
  cases hsub : (w.subscriptions.findFirst (·.tenantId = tenantId)).filter
      (·.status ∈ fullPlanStatuses) with
  | some s =>
      obtain ⟨hfound, hfull⟩ := Option.filter_eq_some_iff.mp hsub
      obtain ⟨hs, ht⟩ := Table.findFirst_some hfound
      exact .subscribed hs (by simpa using ht) (fullPlanStatuses_iff.mp (by simpa using hfull))
  | none =>
      cases hfree : w.plans.findFirst (·.key = fallbackPlanKey) with
      | some p =>
          obtain ⟨hp, hkey⟩ := Table.findFirst_some hfree
          exact .free hp (by simpa using hkey) (hnone rfl hsub)
      | none =>
          refine .none (fun p hp => ?_) (hnone rfl hsub)
          simpa using Table.findFirst_none hfree p hp

theorem assigned_planFeature (key : FeatureKey) (r : PlanFeature) :
    assigned PlanFeature.entry key r =
      if r.featureKey = key.name then some r.enabled else none := by
  unfold assigned PlanFeature.entry
  simp only [← isFeatureKey_eq_some]
  cases isFeatureKey r.featureKey <;> simp

theorem assigned_planLimit (key : LimitKey) (r : PlanLimit) :
    assigned PlanLimit.entry key r =
      if r.limitKey = key.name then some ⟨r.limitValue, limitKeyPeriods key⟩ else none := by
  unfold assigned PlanLimit.entry
  simp only [← isLimitKey_eq_some]
  cases isLimitKey r.limitKey with
  | none => simp
  | some k =>
      by_cases hk : k = key
      · simp [hk]
      · simp [hk]

theorem planGrants_resolve (planId : Option Nat) (w : World) (key : FeatureKey) :
    PlanGrants w planId key (resolvePlanFeatures planId w key) := by
  cases planId with
  | none => exact .none fun _ _ h => nomatch h
  | some planId =>
      unfold resolvePlanFeatures
      dsimp only
      obtain ⟨r, hr, hv⟩ | ⟨hnone, hv⟩ := foldl_assign_cases PlanFeature.entry
        (w.planFeatures.findMany (·.planId = planId)) denyByDefaultFeatures key
      · obtain ⟨hr, hp⟩ := List.mem_filter.mp hr
        rw [assigned_planFeature] at hv
        obtain ⟨hkey, hv⟩ := Option.ite_none_right_eq_some.mp hv
        rw [← Option.some.inj hv]
        exact .row hr (congrArg some (of_decide_eq_true hp).symm) hkey
      · rw [hv]
        refine .none fun r hr hp hkey => ?_
        have := hnone r (List.mem_filter.mpr ⟨hr, decide_eq_true (Option.some.inj hp).symm⟩)
        simp [assigned_planFeature, hkey] at this

theorem planAllows_resolve (planId : Option Nat) (w : World) (key : LimitKey) :
    PlanAllows w planId key (resolvePlanLimits planId w key).value ∧
      (resolvePlanLimits planId w key).billingPeriod = limitKeyPeriods key := by
  cases planId with
  | none => exact ⟨.none (fun _ _ h => nomatch h), rfl⟩
  | some planId =>
      unfold resolvePlanLimits
      dsimp only
      obtain ⟨r, hr, hv⟩ | ⟨hnone, hv⟩ := foldl_assign_cases PlanLimit.entry
        (w.planLimits.findMany (·.planId = planId)) denyByDefaultLimits key
      · obtain ⟨hr, hp⟩ := List.mem_filter.mp hr
        rw [assigned_planLimit] at hv
        obtain ⟨hkey, hv⟩ := Option.ite_none_right_eq_some.mp hv
        rw [← Option.some.inj hv]
        exact ⟨.row hr (congrArg some (of_decide_eq_true hp).symm) hkey, rfl⟩
      · rw [hv]
        refine ⟨.none fun r hr hp hkey => ?_, rfl⟩
        have := hnone r (List.mem_filter.mpr ⟨hr, decide_eq_true (Option.some.inj hp).symm⟩)
        simp [assigned_planLimit, hkey] at this

/-! ## The overrides -/

/-- What an override sets a feature to. -/
def TenantEntitlementOverride.featureEntry (o : TenantEntitlementOverride) :
    Option (FeatureKey × Bool) :=
  (o.featureKey.bind isFeatureKey).bind fun key => o.boolValue.map (key, ·)

/-- What an override sets a limit to. -/
def TenantEntitlementOverride.limitEntry (o : TenantEntitlementOverride) :
    Option (LimitKey × ResolvedLimit) :=
  if o.featureKey = none then
    (o.limitKey.bind isLimitKey).map fun key => (key, ⟨o.intValue, limitKeyPeriods key⟩)
  else
    none

/-- The loop over the overrides is one loop for the features and one for the limits. -/
theorem foldl_applyOverride (overrides : List TenantEntitlementOverride)
    (resolution : EntitlementResolution) :
    overrides.foldl applyOverride resolution =
      ⟨overrides.foldl (assign TenantEntitlementOverride.featureEntry) resolution.features,
        overrides.foldl (assign TenantEntitlementOverride.limitEntry) resolution.limits⟩ := by
  induction overrides generalizing resolution with
  | nil => rfl
  | cons o overrides ih =>
      rw [List.foldl_cons, ih, List.foldl_cons, List.foldl_cons]
      congr 2
      · unfold applyOverride assign TenantEntitlementOverride.featureEntry
        cases o.featureKey with
        | none =>
            dsimp only [Option.bind_none]
            split <;> rfl
        | some featureKey =>
            dsimp only [Option.bind_some]
            cases isFeatureKey featureKey with
            | none => rfl
            | some key => cases o.boolValue <;> rfl
      · unfold applyOverride assign TenantEntitlementOverride.limitEntry
        cases o.featureKey with
        | none =>
            dsimp only
            rw [if_pos rfl]
            cases o.limitKey.bind isLimitKey <;> rfl
        | some featureKey =>
            dsimp only
            rw [if_neg (by simp)]
            split <;> rfl

theorem assigned_override_feature (key : FeatureKey) (o : TenantEntitlementOverride) :
    assigned TenantEntitlementOverride.featureEntry key o =
      if o.featureKey = some key.name then o.boolValue else none := by
  unfold assigned TenantEntitlementOverride.featureEntry
  cases o.featureKey with
  | none => rfl
  | some featureKey =>
      simp only [Option.bind_some, Option.some.injEq, ← isFeatureKey_eq_some]
      cases isFeatureKey featureKey with
      | none => rfl
      | some k => cases o.boolValue <;> simp

theorem assigned_override_limit (key : LimitKey) (o : TenantEntitlementOverride) :
    assigned TenantEntitlementOverride.limitEntry key o =
      if o.featureKey = none ∧ o.limitKey = some key.name then
        some ⟨o.intValue, limitKeyPeriods key⟩
      else none := by
  unfold assigned TenantEntitlementOverride.limitEntry
  by_cases hfeature : o.featureKey = none
  · rw [if_pos hfeature]
    cases o.limitKey with
    | none => simp
    | some limitKey =>
        simp only [hfeature, Option.bind_some, Option.some.injEq, true_and, ← isLimitKey_eq_some]
        cases isLimitKey limitKey with
        | none => rfl
        | some k =>
            by_cases hk : k = key
            · simp [hk]
            · simp [hk]
  · simp [hfeature]

theorem mem_activeOverrides {o : TenantEntitlementOverride} :
    o ∈ activeOverrides tenantId w ↔
      o ∈ w.overrides ∧ o.tenantId = tenantId ∧ o.revokedAt = none := by
  rw [activeOverrides, List.mem_mergeSort, Table.findMany, List.mem_filter, Bool.and_eq_true,
    decide_eq_true_eq, decide_eq_true_eq]
  exact Iff.rfl

/-- Without an override, nothing in force satisfies the condition. -/
theorem latestOverride_none {p : TenantEntitlementOverride → Bool}
    (h : latestOverride w tenantId p = none) : ∀ o ∈ activeOverrides tenantId w, p o = false := by
  intro o ho
  obtain ⟨hrow, ht, hr⟩ := mem_activeOverrides.mp ho
  by_contra hp
  have hmem : o ∈ w.overrides.findMany fun o =>
      o.tenantId = tenantId && o.revokedAt = none && p o :=
    List.mem_filter.mpr ⟨hrow, by simpa [ht, hr] using hp⟩
  rw [List.argmax_eq_none.mp h] at hmem
  cases hmem

/-- An override names one key. -/
def OneKey (w : World) : Prop := ∀ o ∈ w.overrides, o.featureKey = none ∨ o.limitKey = none

/-- No two overrides were created at the same time. -/
def CreatedApart (w : World) : Prop :=
  ∀ a ∈ w.overrides, ∀ b ∈ w.overrides, a.createdAt = b.createdAt → a = b

instance (w : World) : Decidable (CreatedApart w) :=
  inferInstanceAs (Decidable (∀ a ∈ w.overrides.rows, ∀ b ∈ w.overrides.rows, _ → _))

section Overrides

variable {κ ν : Type} [DecidableEq κ] {target : TenantEntitlementOverride → Option (κ × ν)}
  {m : κ → ν} {k : κ} {p : TenantEntitlementOverride → Bool}

/-- The newest override that assigns to a key decides. -/
theorem foldl_activeOverrides (hapart : CreatedApart w)
    (hp : ∀ o ∈ w.overrides, assigned target k o ≠ none → p o = true)
    {o : TenantEntitlementOverride} {v : ν} (ho : latestOverride w tenantId p = some o)
    (hv : assigned target k o = some v) :
    (activeOverrides tenantId w).foldl (assign target) m k = v := by
  refine foldl_assign_sorted (fun a ha b hb => hapart a (List.mem_of_mem_filter ha) b
    (List.mem_of_mem_filter hb)) (fun a ha => hp a (List.mem_of_mem_filter ha)) (r := o) ?_ hv
  rw [Table.findMany, List.filter_filter]
  refine Option.mem_def.mpr (Eq.trans ?_ ho)
  unfold latestOverride Table.findMany
  congr 2
  funext o
  rw [Bool.and_comm]

theorem foldl_activeOverrides_none
    (hp : ∀ o ∈ w.overrides, assigned target k o ≠ none → p o = true)
    (hnone : latestOverride w tenantId p = none) :
    (activeOverrides tenantId w).foldl (assign target) m k = m k := by
  obtain ⟨o, ho, hv⟩ | ⟨-, hv⟩ := foldl_assign_cases target (activeOverrides tenantId w) m k
  · have hfalse := latestOverride_none hnone o ho
    rw [hp o (mem_activeOverrides.mp ho).1 (by simp [hv])] at hfalse
    cases hfalse
  · exact hv

end Overrides

/-! ## The resolution -/

/-- The newest override of each feature carries a value. -/
def OverridesCarryValues (w : World) (tenantId : Nat) : Prop :=
  ∀ key : FeatureKey, ∀ o ∈ latestOverride w tenantId (·.featureKey = some key.name),
    o.boolValue ≠ none

theorem resolve_features (hapart : CreatedApart w) (key : FeatureKey)
    (hcarry : ∀ o ∈ latestOverride w tenantId (·.featureKey = some key.name),
      o.boolValue ≠ none) :
    FeatureValue w tenantId key (some ((resolve tenantId w).features key)) := by
  have hp : ∀ o ∈ w.overrides, assigned TenantEntitlementOverride.featureEntry key o ≠ none →
      decide (o.featureKey = some key.name) = true := by
    intro o _ hne
    rw [assigned_override_feature] at hne
    exact decide_eq_true (ite_ne_right_iff.mp hne).1
  unfold resolve
  dsimp only
  rw [foldl_applyOverride]
  dsimp only
  cases ho : latestOverride w tenantId (·.featureKey = some key.name) with
  | none =>
      rw [foldl_activeOverrides_none hp ho]
      exact .plan ho (effectivePlan_resolve tenantId w) (planGrants_resolve _ w key)
  | some o =>
      obtain ⟨value, hvalue⟩ := Option.ne_none_iff_exists'.mp (hcarry o ho)
      have hkey : o.featureKey = some key.name := by
        have hmem := List.of_mem_filter (List.argmax_mem ho)
        simp only [Bool.and_eq_true, decide_eq_true_eq] at hmem
        exact hmem.2
      rw [foldl_activeOverrides hapart hp ho (v := value)
        (by rw [assigned_override_feature, if_pos hkey, hvalue]), ← hvalue]
      exact .override ho

theorem resolve_limits (hone : OneKey w) (hapart : CreatedApart w) (key : LimitKey) :
    LimitValue w tenantId key ((resolve tenantId w).limits key).value ∧
      ((resolve tenantId w).limits key).billingPeriod = limitKeyPeriods key := by
  have hp : ∀ o ∈ w.overrides, assigned TenantEntitlementOverride.limitEntry key o ≠ none →
      decide (o.limitKey = some key.name) = true := by
    intro o _ hne
    rw [assigned_override_limit] at hne
    exact decide_eq_true (ite_ne_right_iff.mp hne).1.2
  unfold resolve
  dsimp only
  rw [foldl_applyOverride]
  dsimp only
  cases ho : latestOverride w tenantId (·.limitKey = some key.name) with
  | none =>
      rw [foldl_activeOverrides_none hp ho]
      obtain ⟨hallows, hperiod⟩ := planAllows_resolve (resolveEffectivePlanId tenantId w) w key
      exact ⟨.plan ho (effectivePlan_resolve tenantId w) hallows, hperiod⟩
  | some o =>
      have hmem := List.argmax_mem ho
      have hkey : o.limitKey = some key.name := by
        have := List.of_mem_filter hmem
        simp only [Bool.and_eq_true, decide_eq_true_eq] at this
        exact this.2
      have hfeature : o.featureKey = none :=
        (hone o (List.mem_of_mem_filter hmem)).resolve_right (by simp [hkey])
      rw [foldl_activeOverrides hapart hp ho
        (by rw [assigned_override_limit, if_pos ⟨hfeature, hkey⟩])]
      exact ⟨.override ho, rfl⟩

/-- The resolution reads nothing but the plans and the rows of the tenant. -/
theorem resolve_isolated (h : SameFor tenantId w w') :
    resolve tenantId w' = resolve tenantId w := by
  have hplan : resolveEffectivePlanId tenantId w' = resolveEffectivePlanId tenantId w := by
    unfold resolveEffectivePlanId
    have hsub : w'.subscriptions.findFirst (·.tenantId = tenantId) =
        w.subscriptions.findFirst (·.tenantId = tenantId) := by
      have := congrArg List.head? h.subscriptions
      simpa [Table.findMany, Table.findFirst, List.head?_filter] using this
    rw [hsub, h.plans]
  have hactive : activeOverrides tenantId w' = activeOverrides tenantId w := by
    unfold activeOverrides
    have := congrArg (List.filter (·.revokedAt = none)) h.overrides
    simp only [Table.findMany, List.filter_filter] at this ⊢
    simp only [Bool.and_comm] at this ⊢
    rw [this]
  unfold resolve resolvePlanFeatures resolvePlanLimits
  rw [hplan, hactive, h.planFeatures, h.planLimits]

/-! ## Histories of overrides -/

/-- One change of the database. What is not an override may change in any way. -/
inductive Change : World → World → Prop
  | create (w : World) (now actorId tenantId : Nat) (dto : CreateEntitlementOverrideDto) :
      Change w (applied (createOverride now actorId tenantId dto) w)
  | revoke (w : World) (now actorId tenantId overrideId : Nat) :
      Change w (applied (revokeOverride now actorId tenantId overrideId) w)
  | other {w w' : World} (h : w'.overrides = w.overrides) : Change w w'

/-- The database after any history that started without overrides. -/
def Reachable (w : World) : Prop :=
  ∃ w₀ : World, w₀.overrides = .empty ∧ Relation.ReflTransGen Change w₀ w

theorem createOverride_oneKey {now actorId : Nat} {dto : CreateEntitlementOverrideDto}
    {o : TenantEntitlementOverride} (h : OneKey w)
    (hs : createOverride now actorId tenantId dto w = .ok (o, w')) : OneKey w' := by
  unfold createOverride at hs
  cases herror : dto.error with
  | some message =>
      rw [herror] at hs
      cases hs
  | none =>
      rw [herror] at hs
      dsimp only at hs
      rw [Tx.bind_read] at hs
      split at hs
      · cases hs
      · obtain ⟨t, ht, -, rfl⟩ := Slot.create_ok hs
        intro o ho
        obtain ho | rfl := (Table.mem_create ht).mp ho
        · exact h o ho
        · -- exactly one of the keys is given
          unfold CreateEntitlementOverrideDto.error at herror
          split at herror
          · cases herror
          · next hne =>
            cases hf : dto.featureKey with
            | value featureKey =>
                refine .inr ?_
                cases hl : dto.limitKey with
                | undefined => rfl
                | null => rfl
                | value limitKey => simp [hf, hl, Property.isDefined] at hne
            | undefined => exact .inl rfl
            | null => exact .inl rfl

theorem revokeOverride_oneKey {now actorId overrideId : Nat} {o : TenantEntitlementOverride}
    (h : OneKey w) (hs : revokeOverride now actorId tenantId overrideId w = .ok (o, w')) :
    OneKey w' := by
  unfold revokeOverride at hs
  rw [Tx.bind_read] at hs
  generalize (w.overrides.get overrideId).filter _ = found at hs
  cases found with
  | none => cases hs
  | some existing =>
      dsimp only at hs
      split at hs
      · cases hs
      · obtain ⟨r, t, -, ht, -, rfl⟩ := Slot.update_ok hs
        intro o ho
        obtain ⟨o₀, ho₀, rfl⟩ := (Table.mem_update ht).mp ho
        split
        · exact h o₀ ho₀
        · exact h o₀ ho₀

theorem Change.oneKey (hstep : Change w w') (h : OneKey w) : OneKey w' := by
  cases hstep with
  | create now actorId tenantId dto =>
      cases htx : createOverride now actorId tenantId dto w with
      | error e => rwa [applied_error htx]
      | ok result =>
          rw [applied_ok htx]
          exact createOverride_oneKey h htx
  | revoke now actorId tenantId overrideId =>
      cases htx : revokeOverride now actorId tenantId overrideId w with
      | error e => rwa [applied_error htx]
      | ok result =>
          rw [applied_ok htx]
          exact revokeOverride_oneKey h htx
  | other hsame =>
      unfold OneKey
      rwa [hsame]

theorem Reachable.oneKey (h : Reachable w) : OneKey w := by
  obtain ⟨w₀, hempty, hrun⟩ := h
  induction hrun with
  | refl =>
      intro o ho
      rw [hempty] at ho
      exact absurd ho (Table.not_mem_empty o)
  | tail _ hstep ih => exact hstep.oneKey ih

/-- A resolution is never without a value. -/
theorem ResolvesAsSpecified.overridesCarryValues (h : ResolvesAsSpecified w tenantId) :
    OverridesCarryValues w tenantId := by
  intro key o ho hvalue
  have hspec := h.features key
  generalize hresolved : some ((resolve tenantId w).features key) = value at hspec
  cases hspec with
  | override ho' =>
      obtain rfl := Option.some.inj ((Option.mem_def.mp ho).symm.trans ho')
      rw [hvalue] at hresolved
      cases hresolved
  | plan hnone _ _ =>
      rw [Option.mem_def.mp ho] at hnone
      cases hnone

/-- After any history of overrides that were created apart, and with any plans and
subscriptions, the resolution of a tenant is the specified one exactly if the newest override
in force of each feature carries a value. -/
theorem resolved_as_specified_iff (hrun : Reachable w) (hapart : CreatedApart w)
    (tenantId : Nat) : ResolvesAsSpecified w tenantId ↔ OverridesCarryValues w tenantId := by
  constructor
  · exact ResolvesAsSpecified.overridesCarryValues
  · intro hcarry
    exact ⟨fun key => resolve_features hapart key (hcarry key),
      resolve_limits hrun.oneKey hapart, fun _ => resolve_isolated⟩

/-! ## Examples -/

/-- A platform with the free plan, which grants no feature, and one tenant. -/
def exampleStart : World where
  tenants := ⟨[⟨0⟩], 1, by decide, by decide⟩
  plans := ⟨[⟨0, "free"⟩], 1, by decide, by decide⟩
  planFeatures := ⟨[⟨0, 0, "coupons", false⟩], 1, by decide, by decide⟩
  planLimits := ⟨[⟨0, 0, "products", some 10⟩], 1, by decide, by decide⟩
  subscriptions := .empty
  overrides := .empty

/-- The platform allows the tenant coupons, as a pilot. -/
def exampleGrant : CreateEntitlementOverrideDto :=
  ⟨.value "coupons", .undefined, .value true, .undefined, "pilot"⟩

/-- A later override of the same feature, with `null` for a value. -/
def exampleUnset : CreateEntitlementOverrideDto :=
  ⟨.value "coupons", .undefined, .null, .undefined, "end of the pilot"⟩

def exampleGranted : World := applied (createOverride 1 0 0 exampleGrant) exampleStart

def exampleUnsetLater : World := applied (createOverride 2 0 0 exampleUnset) exampleGranted

theorem reachable_exampleGranted : Reachable exampleGranted :=
  ⟨exampleStart, rfl, .single (.create exampleStart 1 0 0 exampleGrant)⟩

theorem reachable_exampleUnsetLater : Reachable exampleUnsetLater :=
  ⟨exampleStart, rfl, .tail (.single (.create exampleStart 1 0 0 exampleGrant))
    (.create exampleGranted 2 0 0 exampleUnset)⟩

/-- A tenant is granted a feature that the plan does not have. -/
theorem resolved_as_specified_granted : exampleGranted.overrides.rows.length = 1 ∧
    ResolvesAsSpecified exampleGranted 0 := by
  refine ⟨by decide, (resolved_as_specified_iff reachable_exampleGranted (by decide) 0).mpr ?_⟩
  intro key
  cases key <;> decide

/-- The newest override of a feature has no value, and an older one decides. -/
theorem override_without_value_passed_over :
    ¬ ∀ (w : World) (tenantId : Nat), Reachable w → CreatedApart w →
      ResolvesAsSpecified w tenantId := by
  intro hall
  have h := hall exampleUnsetLater 0 reachable_exampleUnsetLater (by decide)
  exact absurd (h.overridesCarryValues .coupons) (by decide)

end PrintForge.Entitlements
