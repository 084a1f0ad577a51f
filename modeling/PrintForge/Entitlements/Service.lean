import PrintForge.Common.Basic
import PrintForge.Relational.Assignments
import PrintForge.Subscriptions.Schema
import PrintForge.Usage.Service

/-!
# Entitlements

What a tenant may do and how much of it: the features and limits of the plan in force, with
the tenant's overrides applied in the order in which they were created. An override is created
and revoked on the platform and is never changed otherwise.
-/

namespace PrintForge.Entitlements

open Relational

/-! ## The catalogue of keys -/

inductive FeatureKey where
  | coupons
  | teamMembers
  | customDomain
  | customStorefront
  | customBranding
  | advancedAnalytics
  | apiAccess
deriving DecidableEq, Repr

def FeatureKey.name : FeatureKey → String
  | coupons => "coupons"
  | teamMembers => "team_members"
  | customDomain => "custom_domain"
  | customStorefront => "custom_storefront"
  | customBranding => "custom_branding"
  | advancedAnalytics => "advanced_analytics"
  | apiAccess => "api_access"

def featureKeys : List FeatureKey :=
  [.coupons, .teamMembers, .customDomain, .customStorefront, .customBranding,
    .advancedAnalytics, .apiAccess]

def limitKeys : List LimitKey :=
  [.products, .teamMembers, .ordersPerMonth, .storageMb, .customDomains]

/-- The key that is written so, if there is one. -/
def isFeatureKey (key : String) : Option FeatureKey := featureKeys.find? (·.name = key)

def isLimitKey (key : String) : Option LimitKey := limitKeys.find? (·.name = key)

/-- Whether a limit is counted by billing period. -/
def limitKeyPeriods : LimitKey → Bool
  | .ordersPerMonth => true
  | .products | .teamMembers | .storageMb | .customDomains => false

theorem isFeatureKey_eq_some {key : String} {k : FeatureKey} :
    isFeatureKey key = some k ↔ key = k.name := by
  constructor
  · intro h
    simpa [eq_comm] using List.find?_some h
  · rintro rfl
    cases k <;> rfl

theorem isLimitKey_eq_some {key : String} {k : LimitKey} :
    isLimitKey key = some k ↔ key = k.name := by
  constructor
  · intro h
    simpa [eq_comm] using List.find?_some h
  · rintro rfl
    cases k <;> rfl

/-! ## Tables -/

structure Tenant where
  id : Nat
deriving DecidableEq, Repr

instance : Schema Tenant where
  key t := t.id
  Clash _ _ := False
  clash_decidable _ _ := inferInstanceAs (Decidable False)
  clash_symm h := h

structure Plan where
  id : Nat
  key : String
deriving DecidableEq, Repr

instance : Schema Plan where
  key p := p.id
  Clash a b := a.key = b.key
  clash_decidable _ _ := inferInstanceAs (Decidable (_ = _))
  clash_symm h := h.symm

structure PlanFeature where
  id : Nat
  planId : Nat
  featureKey : String
  enabled : Bool
deriving DecidableEq, Repr

instance : Schema PlanFeature where
  key f := f.id
  Clash a b := a.planId = b.planId ∧ a.featureKey = b.featureKey
  clash_decidable _ _ := inferInstanceAs (Decidable (_ ∧ _))
  clash_symm h := ⟨h.1.symm, h.2.symm⟩

/-- A limit without a value is unlimited. -/
structure PlanLimit where
  id : Nat
  planId : Nat
  limitKey : String
  limitValue : Option Int
deriving DecidableEq, Repr

instance : Schema PlanLimit where
  key l := l.id
  Clash a b := a.planId = b.planId ∧ a.limitKey = b.limitKey
  clash_decidable _ _ := inferInstanceAs (Decidable (_ ∧ _))
  clash_symm h := ⟨h.1.symm, h.2.symm⟩

/-- The columns of a subscription that are read here. -/
structure Subscription where
  id : Nat
  tenantId : Nat
  planId : Nat
  status : Subscriptions.SubscriptionStatus
deriving DecidableEq, Repr

instance : Schema Subscription where
  key s := s.id
  Clash a b := a.tenantId = b.tenantId
  clash_decidable _ _ := inferInstanceAs (Decidable (_ = _))
  clash_symm h := h.symm

structure TenantEntitlementOverride where
  id : Nat
  tenantId : Nat
  featureKey : Option String
  limitKey : Option String
  boolValue : Option Bool
  intValue : Option Int
  reason : String
  createdByUserId : Nat
  revokedAt : Option Nat
  revokedByUserId : Option Nat
  createdAt : Nat
deriving DecidableEq, Repr

instance : Schema TenantEntitlementOverride where
  key o := o.id
  Clash _ _ := False
  clash_decidable _ _ := inferInstanceAs (Decidable False)
  clash_symm h := h

structure World where
  tenants : Table Tenant
  plans : Table Plan
  planFeatures : Table PlanFeature
  planLimits : Table PlanLimit
  subscriptions : Table Subscription
  overrides : Table TenantEntitlementOverride

def Db.overrides : Slot World TenantEntitlementOverride where
  get w := w.overrides
  set t w := { w with overrides := t }

abbrev Transaction := Tx World HttpError

/-! ## Resolution -/

def fallbackPlanKey : String := "free"

/-- `FULL_PLAN_STATUSES` -/
def fullPlanStatuses : List Subscriptions.SubscriptionStatus := [.trialing, .active, .pastDue]

structure EntitlementResolution where
  features : FeatureKey → Bool
  limits : LimitKey → ResolvedLimit

def resolveEffectivePlanId (tenantId : Nat) (w : World) : Option Nat :=
  let subscription := w.subscriptions.findFirst (·.tenantId = tenantId)
  match subscription.filter (·.status ∈ fullPlanStatuses) with
  | some subscription => some subscription.planId
  | none => (w.plans.findFirst (·.key = fallbackPlanKey)).map (·.id)

def denyByDefaultFeatures : FeatureKey → Bool := fun _ => false

/-- Nothing is allowed; no value would mean that everything is. -/
def denyByDefaultLimits : LimitKey → ResolvedLimit := fun key => ⟨some 0, limitKeyPeriods key⟩

/-- A row for a key that is in no catalogue is ignored. -/
def PlanFeature.entry (row : PlanFeature) : Option (FeatureKey × Bool) :=
  (isFeatureKey row.featureKey).map fun key => (key, row.enabled)

def PlanLimit.entry (row : PlanLimit) : Option (LimitKey × ResolvedLimit) :=
  (isLimitKey row.limitKey).map fun key => (key, ⟨row.limitValue, limitKeyPeriods key⟩)

def resolvePlanFeatures (planId : Option Nat) (w : World) : FeatureKey → Bool :=
  match planId with
  | none => denyByDefaultFeatures
  | some planId =>
      (w.planFeatures.findMany (·.planId = planId)).foldl (assign PlanFeature.entry)
        denyByDefaultFeatures

def resolvePlanLimits (planId : Option Nat) (w : World) : LimitKey → ResolvedLimit :=
  match planId with
  | none => denyByDefaultLimits
  | some planId =>
      (w.planLimits.findMany (·.planId = planId)).foldl (assign PlanLimit.entry)
        denyByDefaultLimits

/-- The body of the loop over the overrides. An override with a feature key is not looked at
for a limit. -/
def applyOverride (resolution : EntitlementResolution) (override : TenantEntitlementOverride) :
    EntitlementResolution :=
  match override.featureKey with
  | some featureKey =>
      match isFeatureKey featureKey, override.boolValue with
      | some key, some value =>
          { resolution with features := Function.update resolution.features key value }
      | _, _ => resolution
  | none =>
      match override.limitKey.bind isLimitKey with
      | some key =>
          { resolution with
            limits := Function.update resolution.limits key
              ⟨override.intValue, limitKeyPeriods key⟩ }
      | none => resolution

/-- The overrides in force, oldest first. -/
def activeOverrides (tenantId : Nat) (w : World) : List TenantEntitlementOverride :=
  (w.overrides.findMany fun o => o.tenantId = tenantId && o.revokedAt = none).mergeSort
    fun a b => a.createdAt ≤ b.createdAt

def resolve (tenantId : Nat) (w : World) : EntitlementResolution :=
  let planId := resolveEffectivePlanId tenantId w
  let features := resolvePlanFeatures planId w
  let limits := resolvePlanLimits planId w
  (activeOverrides tenantId w).foldl applyOverride ⟨features, limits⟩

/-! ## Overrides -/

structure CreateEntitlementOverrideDto where
  featureKey : Property String
  limitKey : Property String
  boolValue : Property Bool
  intValue : Property Int
  reason : String
deriving DecidableEq, Repr

/-- How a property is shown in a text. -/
def shown : Property String → String
  | .undefined => "undefined"
  | .null => "null"
  | .value text => text

/-- What is wrong with the request, if anything. -/
def CreateEntitlementOverrideDto.error (dto : CreateEntitlementOverrideDto) : Option String :=
  if dto.featureKey.isDefined = dto.limitKey.isDefined then
    some "Exactly one of featureKey or limitKey must be provided"
  else if dto.featureKey.isDefined then
    if (dto.featureKey.toOption.bind isFeatureKey).isNone then
      some s!"\"{shown dto.featureKey}\" is not a recognized feature key"
    else if dto.boolValue.isDefined = false then
      some "A feature override requires boolValue"
    else if dto.intValue.isDefined then
      some "A feature override must not set intValue"
    else
      none
  else if (dto.limitKey.toOption.bind isLimitKey).isNone then
    some s!"\"{shown dto.limitKey}\" is not a recognized limit key"
  else if dto.intValue.isDefined = false then
    some "A limit override requires intValue (or null for unlimited)"
  else if dto.boolValue.isDefined then
    some "A limit override must not set boolValue"
  else
    none

def createOverride (now actorId tenantId : Nat) (dto : CreateEntitlementOverrideDto) :
    Transaction TenantEntitlementOverride := do
  match dto.error with
  | some message => throw (.badRequest message)
  | none =>
      let tenant ← Tx.read (·.tenants.get tenantId)
      if tenant.isNone then
        throw (.notFound "Tenant not found")
      else
        Db.overrides.create fun id =>
          { id, tenantId, featureKey := dto.featureKey.toOption
            limitKey := dto.limitKey.toOption, boolValue := dto.boolValue.toOption
            intValue := dto.intValue.toOption, reason := dto.reason, createdByUserId := actorId
            revokedAt := none, revokedByUserId := none, createdAt := now }

def revokeOverride (now actorId tenantId overrideId : Nat) :
    Transaction TenantEntitlementOverride := do
  let found ← Tx.read (·.overrides.get overrideId)
  match found.filter (·.tenantId = tenantId) with
  | none => throw (.notFound "Override not found")
  | some existing =>
      if existing.revokedAt.isSome then
        throw (.conflict "This override has already been revoked")
      else
        Db.overrides.update overrideId fun o =>
          { o with revokedAt := some now, revokedByUserId := some actorId }

end PrintForge.Entitlements
