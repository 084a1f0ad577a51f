import PrintForge.Access.Guards
import PrintForge.Concurrent.Sessions
import PrintForge.StoreDomains.Resolver

/-!
# The control plane of the platform

An administrator of the platform suspends and resumes tenants, and opens and revokes support
sessions, through which a tenant may be entered without a membership. Each of these is a
transaction at the isolation level `READ COMMITTED` that writes to the audit log of the platform,
and, about a session, to that of the tenant.

A row is changed on a condition. It is read, locked and read again: another transaction may have
been quicker, and then the row is left alone and the call fails. The guards in front of a handler
read what is committed, one after the other.

Identifiers are random. `uuid i` stands for the one that the call with the number `i` draws for a
session. Those of entries are looked at by nobody, and stand for the call that has drawn them.
-/

namespace PrintForge

def TenantStatus.name : TenantStatus → String
  | active => "ACTIVE"
  | suspended => "SUSPENDED"
  | pendingDeletion => "PENDING_DELETION"
  | deleted => "DELETED"

end PrintForge

namespace PrintForge.ControlPlane

open Relational Concurrent Access JavaScript

/-! ## Tables -/

structure Tenant where
  id : String
  status : TenantStatus
deriving DecidableEq, Repr

/-- The columns that the guard reads, and the others. -/
structure SupportSession extends Access.SupportSession where
  justification : String
  revokedByUserId : Option String
deriving DecidableEq, Repr

/-- What is done here, and what other services write down. -/
inductive AuditAction where
  | tenantSuspend
  | tenantResume
  | supportSessionCreate
  | supportSessionRevoke
  | elsewhere (name : String)
deriving DecidableEq, Repr

def AuditAction.name : AuditAction → String
  | tenantSuspend => "tenant.suspend"
  | tenantResume => "tenant.resume"
  | supportSessionCreate => "support_session.create"
  | supportSessionRevoke => "support_session.revoke"
  | elsewhere name => name

inductive AuditMetadata where
  | empty
  | transition (fromStatus toStatus : TenantStatus)
  | grant (grantedPermissions : List String) (expiresAt : Nat)
deriving DecidableEq, Repr

structure PlatformAuditLog where
  id : Option Nat
  actorUserId : String
  action : AuditAction
  targetType : String
  targetId : String
  tenantId : Option String
  justification : Option String
  metadata : AuditMetadata
  ip : String
deriving DecidableEq, Repr

structure TenantAuditLog where
  id : Option Nat
  tenantId : String
  action : AuditAction
  targetType : String
  targetId : String
  metadata : AuditMetadata
  viaSupportSessionId : Option String
deriving DecidableEq, Repr

structure World where
  now : Nat
  tenants : List Tenant
  supportSessions : List SupportSession
  platformAuditLogs : List PlatformAuditLog
  tenantAuditLogs : List TenantAuditLog
  storeDomains : List StoreDomain
deriving DecidableEq, Repr

namespace World

def tenant (w : World) (id : String) : Option Tenant := w.tenants.find? (·.id = id)

def supportSession (w : World) (id : String) : Option SupportSession :=
  w.supportSessions.find? (·.id = id)

/-- What the guards read. -/
def database (w : World) : Database where
  supportSessions := w.supportSessions.map (·.toSupportSession)
  storeDomains := w.storeDomains

end World

/-! ## Statements -/

/-- The rows that are locked. -/
inductive Key where
  | tenant (id : String)
  | supportSession (id : String)
deriving DecidableEq, Repr

inductive Commit where
  | lock
  | transition (tenantId : String) (toStatus : TenantStatus)
  | createSession
  | revokeSession (sessionId : String)
  | elsewhere
  | tick
deriving DecidableEq, Repr

abbrev Statements := Txn World Key Commit HttpError

abbrev Service := Proc (Locked World Key) (Entry Key Commit) HttpError

/-- What a call fails with that is cut off. -/
def connectionLost : HttpError := .other "connection lost"

/-- An update of one row on a condition, and how many rows it has changed. The condition is looked
at again once the row is locked. -/
def updateRow (key : Key) (qualifies : World → Bool) (change : World → World) : Statements Nat := do
  let found ← Txn.read qualifies
  if found then
    let still ← Txn.lockAnd .lock key qualifies
    if still then
      let _ ← Txn.exec (modify change)
      return 1
    else
      return 0
  else
    return 0

def logPlatformAction (entry : PlatformAuditLog) : Tx World HttpError Unit :=
  modify fun w => { w with platformAuditLogs := w.platformAuditLogs ++ [entry] }

def logTenantAction (entry : TenantAuditLog) : Tx World HttpError Unit :=
  modify fun w => { w with tenantAuditLogs := w.tenantAuditLogs ++ [entry] }

/-! ## Tenants -/

def setStatus (tenantId : String) (source target : TenantStatus) (w : World) : World :=
  { w with tenants := w.tenants.map fun t =>
      if t.id = tenantId ∧ t.status = source then { t with status := target } else t }

section

variable (call : Nat) (actor ip : String)

def transitionEntry (tenantId : String) (source target : TenantStatus) (action : AuditAction)
    (justification : String) : PlatformAuditLog where
  id := some call
  actorUserId := actor
  action := action
  targetType := "Tenant"
  targetId := tenantId
  tenantId := some tenantId
  justification := some justification
  metadata := .transition source target
  ip := ip

def transitionTenantStatus (tenantId : String) (source target : TenantStatus)
    (action : AuditAction) (justification : String) : Statements Tenant := do
  let tenant ← Txn.read (·.tenant tenantId)
  match tenant with
  | none => throw (.notFound "Tenant not found")
  | some tenant =>
      if tenant.status ≠ source then
        throw (.conflict (s!"Tenant is not {source.name} (current status: {tenant.status.name})" ++
          s!" — cannot transition to {target.name}"))
      else
        let count ← updateRow (.tenant tenantId)
          (fun w => (w.tenant tenantId).any (·.status = source))
          (setStatus tenantId source target)
        if count ≠ 1 then
          throw (.conflict "Tenant status changed concurrently — retry")
        else
          let _ ← Txn.exec (logPlatformAction
            (transitionEntry call actor ip tenantId source target action justification))
          let updated ← Txn.read (·.tenant tenantId)
          match updated with
          | none => throw .recordNotFound
          | some updated => return updated

def suspendTenant (tenantId justification : String) : Statements Tenant :=
  transitionTenantStatus call actor ip tenantId .active .suspended .tenantSuspend justification

def resumeTenant (tenantId justification : String) : Statements Tenant :=
  transitionTenantStatus call actor ip tenantId .suspended .active .tenantResume justification

/-! ## Support sessions -/

inductive SessionStatus where
  | active
  | expired
  | revoked
deriving DecidableEq, Repr

def computeStatus (now : Nat) (session : SupportSession) : SessionStatus :=
  if session.revokedAt ≠ none then
    .revoked
  else if session.expiresAt ≤ now then
    .expired
  else
    .active

structure SupportSessionView where
  session : SupportSession
  status : SessionStatus
deriving DecidableEq, Repr

def toView (now : Nat) (session : SupportSession) : SupportSessionView :=
  ⟨session, computeStatus now session⟩

/-- A date that cannot be read is none. -/
structure CreateSupportSessionDto where
  tenantId : String
  justification : String
  expiresAt : Option Nat
  grantedPermissions : List Permission
deriving DecidableEq, Repr

def newSession (id tenantId justification : String) (permissions : List Permission)
    (expiresAt : Nat) : SupportSession where
  id := id
  tenantId := tenantId
  createdByUserId := actor
  grantedPermissions := permissions.map (·.name)
  expiresAt := expiresAt
  revokedAt := none
  justification := justification
  revokedByUserId := none

/-- A second row with the same key is refused. -/
def insertSession (session : SupportSession) : Tx World HttpError Unit := fun w =>
  if w.supportSession session.id = none then
    .ok ((), { w with supportSessions := w.supportSessions ++ [session] })
  else
    .error .uniqueViolation

def createEntry (session : SupportSession) : PlatformAuditLog where
  id := some call
  actorUserId := session.createdByUserId
  action := .supportSessionCreate
  targetType := "SupportSession"
  targetId := session.id
  tenantId := some session.tenantId
  justification := some session.justification
  metadata := .grant session.grantedPermissions session.expiresAt
  ip := ip

def revokeEntry (sessionId tenantId : String) : PlatformAuditLog where
  id := some call
  actorUserId := actor
  action := .supportSessionRevoke
  targetType := "SupportSession"
  targetId := sessionId
  tenantId := some tenantId
  justification := none
  metadata := .empty
  ip := ip

/-- What the tenant is told of an action on one of its sessions. -/
def tenantEntry (tenantId : String) (entry : PlatformAuditLog) : TenantAuditLog where
  id := entry.id
  tenantId := tenantId
  action := entry.action
  targetType := entry.targetType
  targetId := entry.targetId
  metadata := entry.metadata
  viaSupportSessionId := some entry.targetId

def createSession (id : String) (dto : CreateSupportSessionDto) (expiresAt : Nat) :
    Statements SupportSessionView := do
  let tenant ← Txn.read (·.tenant dto.tenantId)
  match tenant with
  | none => throw (.notFound "Tenant not found")
  | some tenant =>
      if tenant.status ≠ .active then
        throw (.conflict (s!"Tenant is not ACTIVE (current status: {tenant.status.name})" ++
          " — cannot open a support session"))
      else
        let session := newSession actor id dto.tenantId dto.justification dto.grantedPermissions
          expiresAt
        let _ ← Txn.exec (insertSession session)
        let _ ← Txn.exec (logPlatformAction (createEntry call ip session))
        let _ ← Txn.exec (logTenantAction (tenantEntry dto.tenantId (createEntry call ip session)))
        let now ← Txn.read (·.now)
        return toView now session

def setRevoked (sessionId actor : String) (now : Nat) (w : World) : World :=
  { w with supportSessions := w.supportSessions.map fun session =>
      if session.id = sessionId ∧ session.revokedAt = none then
        { session with revokedAt := some now, revokedByUserId := some actor }
      else
        session }

def revokeSession (sessionId : String) : Statements SupportSessionView := do
  let session ← Txn.read (·.supportSession sessionId)
  match session with
  | none => throw (.notFound "Support session not found")
  | some session =>
      if session.revokedAt ≠ none then
        throw (.conflict "Support session is already revoked")
      else
        let now ← Txn.read (·.now)
        let count ← updateRow (.supportSession sessionId)
          (fun w => (w.supportSession sessionId).any (·.revokedAt = none))
          (setRevoked sessionId actor now)
        if count ≠ 1 then
          throw (.conflict "Support session was revoked concurrently — retry")
        else
          let entry := revokeEntry call actor ip sessionId session.tenantId
          let _ ← Txn.exec (logPlatformAction entry)
          let _ ← Txn.exec (logTenantAction (tenantEntry session.tenantId entry))
          let updated ← Txn.read fun w => (w.supportSession sessionId).map (toView w.now)
          match updated with
          | none => throw .recordNotFound
          | some view => return view

end

/-! ## Guards -/

/-- Only a suspended tenant is refused. -/
def assertTenantActive (w : World) (tenantId message : String) : Except HttpError Unit :=
  if (w.tenant tenantId).map (·.status) = some .suspended then
    .error (.forbidden message)
  else
    .ok ()

def TenantLifecycleGuard.canActivate (w : World) (route : Route) (request : Access.Request) :
    Except HttpError Unit :=
  if route.withoutTenant then
    .ok ()
  else
    match truthy (request.tenantContext.map (·.tenantId)) with
    | none => .ok ()
    | some tenantId => assertTenantActive w tenantId "This tenant is currently suspended"

/-- What a guard makes of what is committed by then. -/
def guarded {α : Type} (f : World → Except HttpError α) : Service α :=
  .query fun s => .done (f s.db)

/-- The guards in their order. The time is looked at once the session has been read. -/
def enter (route : Route) (request : Access.Request) : Service Access.Request := do
  let db ← Proc.read fun s => s.db.database
  let request ← guarded fun w => SupportSessionContextGuard.canActivate db w.now route request
  let request ← guarded fun w => TenantContextGuard.canActivate w.database route request
  guarded fun w => TenantLifecycleGuard.canActivate w route request
  guarded fun _ => PermissionsGuard.canActivate route request
  return request

/-! ## Requests -/

inductive Request where
  | suspendTenant (actor ip tenantId justification : String) (failsAt : Option Nat)
  | resumeTenant (actor ip tenantId justification : String) (failsAt : Option Nat)
  | createSession (actor ip : String) (dto : CreateSupportSessionDto) (failsAt : Option Nat)
  | revokeSession (actor ip sessionId : String) (failsAt : Option Nat)
  | enter (route : Route) (request : Access.Request)
  | logElsewhere (name : String) (entry : PlatformAuditLog) (forTenant : Option TenantAuditLog)
  | setStoreDomains (storeDomains : List StoreDomain)
  | tick (milliseconds : Nat)

inductive Reply where
  | tenant (tenant : Tenant)
  | session (view : SupportSessionView)
  | entered (request : Access.Request)
  | done

/-- Other services sign what they write down, too, and write down other actions. -/
def logElsewhere (call : Nat) (name : String) (entry : PlatformAuditLog)
    (forTenant : Option TenantAuditLog) (w : World) : World :=
  { w with
    platformAuditLogs := w.platformAuditLogs ++
      [{ entry with id := some call, action := .elsewhere name }]
    tenantAuditLogs := w.tenantAuditLogs ++
      forTenant.toList.map fun e => { e with id := some call, action := .elsewhere name } }

/-- An action that is no transaction of the ones above. -/
def outside (ℓ : Commit) (change : World → World) : Service Reply :=
  .commit (.other ℓ) (fun s => { s with db := change s.db }) fun _ => .done (.ok .done)

def transact {α : Type} (i : Nat) (name : α → Commit) (reply : α → Reply) (p : Statements α)
    (failsAt : Option Nat) : Service Reply :=
  reply <$> inTransaction i name (p.cutAt connectionLost failsAt)

def openSession (uuid : Nat → String) (i : Nat) (actor ip : String)
    (dto : CreateSupportSessionDto) (failsAt : Option Nat) : Service Reply :=
  match dto.expiresAt with
  | none => throw (.badRequest "expiresAt is not a valid date")
  | some expiresAt => do
      let now ← Proc.read (·.db.now)
      if expiresAt ≤ now then
        throw (.badRequest "expiresAt must be in the future")
      else
        transact i (fun _ => .createSession) .session
          (createSession i actor ip (uuid i) dto expiresAt) failsAt

def handle (uuid : Nat → String) (i : Nat) : Request → Service Reply
  | .suspendTenant actor ip tenantId justification failsAt =>
      transact i (fun _ => .transition tenantId .suspended) .tenant
        (suspendTenant i actor ip tenantId justification) failsAt
  | .resumeTenant actor ip tenantId justification failsAt =>
      transact i (fun _ => .transition tenantId .active) .tenant
        (resumeTenant i actor ip tenantId justification) failsAt
  | .createSession actor ip dto failsAt => openSession uuid i actor ip dto failsAt
  | .revokeSession actor ip sessionId failsAt =>
      transact i (fun _ => .revokeSession sessionId) .session
        (revokeSession i actor ip sessionId) failsAt
  | .enter route request => .entered <$> enter route request
  | .logElsewhere name entry forTenant =>
      outside .elsewhere (logElsewhere i name entry forTenant)
  | .setStoreDomains storeDomains => outside .elsewhere fun w => { w with storeDomains }
  | .tick milliseconds => outside .tick fun w => { w with now := w.now + milliseconds }

abbrev PlatformConfig := Config (Locked World Key) Request (Entry Key Commit) HttpError Reply

/-- A run of any length, with any requests, under any schedule. -/
abbrev Reaches (uuid : Nat → String) : PlatformConfig → PlatformConfig → Prop :=
  Run (handle uuid) (fun _ _ => True) fun a s => Unblocked a s

end PrintForge.ControlPlane
