import PrintForge.Common.Basic

/-!
# Usage counters

A counter belongs to a tenant, a limit and a period. It is raised by a conditional update, never
above the limit in force, and lowered by one that stops at zero. Both are statements of the
caller's transaction, over whichever state holds the table.
-/

namespace PrintForge

open Relational

inductive LimitKey where
  | products
  | teamMembers
  | ordersPerMonth
  | storageMb
  | customDomains
deriving DecidableEq, Repr

def LimitKey.name : LimitKey → String
  | products => "products"
  | teamMembers => "team_members"
  | ordersPerMonth => "orders_per_month"
  | storageMb => "storage_mb"
  | customDomains => "custom_domains"

structure Usage where
  id : Nat
  tenantId : Nat
  limitKey : LimitKey
  period : String
  count : Int
deriving DecidableEq, Repr

instance : Schema Usage where
  key u := u.id
  Clash a b := a.tenantId = b.tenantId ∧ a.limitKey = b.limitKey ∧ a.period = b.period
  clash_decidable _ _ := inferInstanceAs (Decidable (_ ∧ _ ∧ _))
  clash_symm h := ⟨h.1.symm, h.2.1.symm, h.2.2.symm⟩

inductive ReservationOutcome where
  | reserved (count : Int)
  | limitExceeded (count limit : Int)
deriving DecidableEq, Repr

/-- The period of a counter that is never set back. -/
def persistentPeriod : String := "persistent"

/-- The greatest value of the column. -/
def maxCount : Int := 2147483647

/-- The row is the counter of these three. -/
def Usage.isFor (tenantId : Nat) (limitKey : LimitKey) (period : String) (u : Usage) : Bool :=
  u.tenantId = tenantId && u.limitKey = limitKey && u.period = period

section

variable {σ : Type} (usage : Slot σ Usage)

def validatePeriod (period : String) : Tx σ HttpError Unit :=
  if period = "" then
    throw (.other "Invalid usage period:  (must be a non-empty string)")
  else return ()

def validateAmount (amount : Int) : Tx σ HttpError Unit :=
  if amount < 0 then
    throw (.other s!"Invalid usage amount: {amount} (must be a non-negative integer)")
  else return ()

def validateLimit (limit : Option Int) : Tx σ HttpError Unit :=
  match limit with
  | none => return ()
  | some limit =>
      if limit < 0 then
        throw (.other s!"Invalid usage limit: {limit} (must be null or a non-negative integer)")
      else return ()

/-- The count of a counter, zero where there is no row. -/
def countOf (tenantId : Nat) (limitKey : LimitKey) (period : String) (s : σ) : Int :=
  (((usage.get s).findFirst (Usage.isFor tenantId limitKey period)).map (·.count)).getD 0

def getUsage (tenantId : Nat) (limitKey : LimitKey) (period : String) : Tx σ HttpError Int := do
  validatePeriod period
  Tx.read (countOf usage tenantId limitKey period)

/-- A sum that does not fit the column is an error of the database. -/
def checkRange (count amount : Int) : Tx σ HttpError Unit :=
  if maxCount < count + amount then throw (.other "integer out of range") else return ()

/-- The conditional update: whether the row was found below the limit. -/
def increment (tenantId : Nat) (limitKey : LimitKey) (period : String) (amount : Int)
    (limit : Option Int) : Tx σ HttpError Nat := do
  let count ← Tx.read (countOf usage tenantId limitKey period)
  checkRange count amount
  usage.updateMany
    (fun u => u.isFor tenantId limitKey period && limit.all fun limit =>
      decide (u.count + amount ≤ limit))
    fun u => { u with count := u.count + amount }

def reserve (tenantId : Nat) (limitKey : LimitKey) (period : String) (amount : Int)
    (limit : Option Int) : Tx σ HttpError ReservationOutcome := do
  validatePeriod period
  validateAmount amount
  validateLimit limit
  let _ ← usage.createOrIgnore fun id => { id, tenantId, limitKey, period, count := 0 }
  let rows ← increment usage tenantId limitKey period amount limit
  let current ← getUsage usage tenantId limitKey period
  if rows = 1 then
    return .reserved current
  else
    return .limitExceeded current (limit.getD 0)

def decrement (tenantId : Nat) (limitKey : LimitKey) (period : String) (amount : Int) :
    Tx σ HttpError Int := do
  validatePeriod period
  validateAmount amount
  let _ ← usage.updateMany (Usage.isFor tenantId limitKey period)
    fun u => { u with count := max (u.count - amount) 0 }
  getUsage usage tenantId limitKey period

/-! ## Limits -/

def limitExceededMessage : String := "limit_exceeded"

def billingPeriodUnresolved (limitKey : LimitKey) : String :=
  "assertLimit: \"" ++ limitKey.name ++ "\" is BILLING_PERIOD-classified, and no " ++
    "authoritative billing-period identifier exists yet (P6-D3 — a recorded Phase 7 " ++
    "dependency). This key must not be enforced until that is resolved."

/-- A tenant's limit, none where it is unlimited, and whether it is counted by billing period. -/
structure ResolvedLimit where
  value : Option Int
  billingPeriod : Bool
deriving DecidableEq, Repr

def resolvePeriod (limitKey : LimitKey) (limit : ResolvedLimit) (period : Option String) :
    Tx σ HttpError String :=
  if limit.billingPeriod then
    match period.filter (· ≠ "") with
    | none => throw (.other (billingPeriodUnresolved limitKey))
    | some period => return period
  else
    return persistentPeriod

/-- Count the amount against the limit that is in force, which the caller has resolved. -/
def assertLimit (tenantId : Nat) (limitKey : LimitKey) (amount : Int) (limit : ResolvedLimit)
    (period : Option String) : Tx σ HttpError Unit := do
  let resolvedPeriod ← resolvePeriod limitKey limit period
  let outcome ← reserve usage tenantId limitKey resolvedPeriod amount limit.value
  match outcome with
  | .reserved _ => return ()
  | .limitExceeded _ _ => throw (.forbidden limitExceededMessage)

def releaseLimit (tenantId : Nat) (limitKey : LimitKey) (amount : Int) : Tx σ HttpError Unit := do
  let _ ← decrement usage tenantId limitKey persistentPeriod amount
  return ()

/-! ## Frames -/

section Frames

variable {usage} {R : σ → σ → Prop} [Std.Refl R]

theorem within_validatePeriod (period : String) :
    Tx.Within R (validatePeriod period : Tx σ HttpError Unit) := by
  unfold validatePeriod
  split
  · exact Tx.within_throw _
  · exact Tx.within_pure _

theorem within_validateAmount (amount : Int) :
    Tx.Within R (validateAmount amount : Tx σ HttpError Unit) := by
  unfold validateAmount
  split
  · exact Tx.within_throw _
  · exact Tx.within_pure _

variable [IsTrans σ R]

theorem within_getUsage (tenantId : Nat) (limitKey : LimitKey) (period : String) :
    Tx.Within R (getUsage usage tenantId limitKey period) :=
  Tx.within_bind (within_validatePeriod period) fun _ => Tx.within_read _

/-- Whatever every write of the counters does, a release does. -/
theorem within_releaseLimit (hset : ∀ s t, R s (usage.set t s)) (tenantId : Nat)
    (limitKey : LimitKey) (amount : Int) :
    Tx.Within R (releaseLimit usage tenantId limitKey amount) := by
  refine Tx.within_bind ?_ fun _ => Tx.within_pure _
  refine Tx.within_bind (within_validatePeriod _) fun _ => ?_
  refine Tx.within_bind (within_validateAmount _) fun _ => ?_
  refine Tx.within_bind ?_ fun _ => within_getUsage _ _ _
  exact Slot.within_updateMany fun s t _ => hset s t

end Frames

end

end PrintForge
