import PrintForge.Access.Permissions
import PrintForge.Concurrent.Process
import PrintForge.Usage.Service

/-!
# The team of a tenant

A member's role is changed, or the member suspended, in a transaction at the isolation level
`READ COMMITTED`. Each of its reads sees what has been committed by then. Its first write locks
the row until the commit, at which what it wrote can be seen: from that write on the transaction
is one action.
-/

namespace PrintForge.Team

open Relational Concurrent

inductive MembershipStatus where
  | invited
  | active
  | suspended
deriving DecidableEq, Repr

structure TenantMembership where
  id : Nat
  userId : Nat
  tenantId : Nat
  role : TenantRole
  status : MembershipStatus
deriving DecidableEq, Repr

/-- A user is a member of a tenant once. -/
instance : Schema TenantMembership where
  key m := m.id
  Clash a b := a.userId = b.userId ∧ a.tenantId = b.tenantId
  clash_decidable _ _ := inferInstanceAs (Decidable (_ ∧ _))
  clash_symm h := ⟨h.1.symm, h.2.symm⟩

structure World where
  tenantMemberships : Table TenantMembership
  usage : Table Usage

namespace Db

def tenantMemberships : Slot World TenantMembership where
  get w := w.tenantMemberships
  set t w := { w with tenantMemberships := t }

def usage : Slot World Usage where
  get w := w.usage
  set t w := { w with usage := t }

end Db

/-- Commits carry the membership as it was read. -/
inductive Commit where
  | updateRole (target : TenantMembership)
  | suspendMember (target : TenantMembership)
deriving DecidableEq, Repr

abbrev Transaction := Tx World HttpError

abbrev Service := Proc World Commit HttpError

/-- The roles a member can be given: a tenant gets no further owner. -/
def assignableTenantRoles : List TenantRole := [.admin, .staff, .viewer]

def isActiveOwner (tenantId : Nat) (m : TenantMembership) : Bool :=
  m.tenantId = tenantId && m.role = .owner && m.status = .active

def countActiveOwners (tenantId : Nat) (w : World) : Nat :=
  w.tenantMemberships.count (isActiveOwner tenantId)

/-- An owner may go only where there is another. -/
def assertNotFinalOwner (tenantId : Nat) (target : TenantMembership) (message : String) :
    Service Unit :=
  if target.role = .owner then do
    let activeOwners ← Proc.read (countActiveOwners tenantId)
    if activeOwners ≤ 1 then throw (.conflict message) else return ()
  else return ()

/-- From the conditional update of `updateRole` on. -/
def changeRole (tenantId : Nat) (target : TenantMembership) (role : TenantRole) :
    Transaction TenantMembership := do
  let count ← Db.tenantMemberships.updateMany
    (fun m => m.id = target.id && m.tenantId = tenantId && m.role = target.role)
    fun m => { m with role }
  if count ≠ 1 then
    throw (.conflict "Membership role changed concurrently — retry")
  else
    let updated ← Tx.read fun w => w.tenantMemberships.get target.id
    match updated with
    | none => throw .recordNotFound
    | some updated => return updated

def updateRole (tenantId membershipId : Nat) (role : TenantRole) : Service TenantMembership := do
  let found ← Proc.read fun w => w.tenantMemberships.get membershipId
  let target ← assertObjectInTenant (·.tenantId) found tenantId
  assertNotFinalOwner tenantId target
    ("Cannot change the role of the tenant's final OWNER — OWNER transfer is not " ++
      "implemented (P5-GOV-02)")
  Proc.transact (.updateRole target) (changeRole tenantId target role)

/-- From the conditional update of `suspendMember` on. -/
def suspend (tenantId : Nat) (target : TenantMembership) : Transaction TenantMembership := do
  let count ← Db.tenantMemberships.updateMany
    (fun m => m.id = target.id && m.tenantId = tenantId && m.status ≠ .suspended)
    fun m => { m with status := .suspended }
  if count ≠ 1 then
    throw (.conflict "Membership status changed concurrently — retry")
  else
    releaseLimit Db.usage tenantId .teamMembers 1
    let updated ← Tx.read fun w => w.tenantMemberships.get target.id
    match updated with
    | none => throw .recordNotFound
    | some updated => return updated

def suspendMember (tenantId membershipId : Nat) : Service TenantMembership := do
  let found ← Proc.read fun w => w.tenantMemberships.get membershipId
  let target ← assertObjectInTenant (·.tenantId) found tenantId
  if target.status = .suspended then
    throw (.conflict "This membership is already suspended")
  else
    assertNotFinalOwner tenantId target "Cannot suspend the tenant's final OWNER"
    Proc.transact (.suspendMember target) (suspend tenantId target)

/-! ## Requests -/

inductive Request where
  | updateRole (tenantId membershipId : Nat) (role : TenantRole)
  | suspendMember (tenantId membershipId : Nat)
deriving DecidableEq, Repr

/-- The validated requests: a role is one of those that can be given. -/
def Request.Valid : Request → Prop
  | .updateRole _ _ role => role ∈ assignableTenantRoles
  | .suspendMember _ _ => True

instance : DecidablePred Request.Valid
  | .updateRole _ _ _ => inferInstanceAs (Decidable (_ ∈ _))
  | .suspendMember _ _ => inferInstanceAs (Decidable True)

def handle (_ : Nat) : Request → Service TenantMembership
  | .updateRole tenantId membershipId role => updateRole tenantId membershipId role
  | .suspendMember tenantId membershipId => suspendMember tenantId membershipId

abbrev TeamConfig := Config World Request Commit HttpError TenantMembership

end PrintForge.Team
