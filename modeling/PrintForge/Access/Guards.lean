import PrintForge.Access.Host
import PrintForge.Access.Permissions
import PrintForge.Common.Basic

/-!
# The guards in front of a handler

Three guards run one after the other. The first two may give the request a tenant, from a
support session or from a membership of the user; the third checks the permission that the
route requires. They share nothing but the tenant context of the request.
-/

namespace PrintForge.Access

open JavaScript

inductive PlatformRole where
  | superAdmin
deriving DecidableEq, Repr

structure AuthenticatedMembership where
  tenantId : String
  role : TenantRole
deriving DecidableEq, Repr

structure AuthenticatedUser where
  id : String
  platformRole : Option PlatformRole
  memberships : List AuthenticatedMembership
deriving DecidableEq, Repr

structure SupportSession where
  id : String
  tenantId : String
  createdByUserId : String
  grantedPermissions : List String
  expiresAt : Nat
  revokedAt : Option Nat
deriving DecidableEq, Repr

/-- A domain with the tenant of the store it belongs to. -/
structure StoreDomain where
  hostname : String
  storeTenantId : String
deriving DecidableEq, Repr

structure Database where
  supportSessions : List SupportSession
  storeDomains : List StoreDomain
deriving Repr

inductive TenantContextSource where
  | membershipHeader
  | membershipDefault
  | domain
  | supportSession
deriving DecidableEq, Repr

structure SupportSessionContext where
  id : String
  grantedPermissions : List String
deriving DecidableEq, Repr

structure TenantContext where
  tenantId : String
  source : TenantContextSource
  membership : Option TenantRole
  supportSession : Option SupportSessionContext
deriving DecidableEq, Repr

/-- A header may have come once or several times. -/
inductive HeaderValue where
  | single (value : String)
  | many (values : List String)
deriving DecidableEq, Repr

structure Request where
  headers : String → Option HeaderValue
  hostname : Option String
  user : Option AuthenticatedUser
  tenantContext : Option TenantContext

/-- The value of a header, the first one where there are several. -/
def Request.header (request : Request) (name : String) : Option String :=
  match request.headers name with
  | none => none
  | some (.single value) => some value
  | some (.many values) => values.head?

/-- Metadata of a handler and of its class. -/
structure Metadata (α : Type) where
  handler : Option α
  controller : Option α

/-- What is set on the handler comes first. -/
def Metadata.getAllAndOverride {α : Type} (metadata : Metadata α) : Option α :=
  metadata.handler <|> metadata.controller

structure Route where
  isPublic : Metadata Bool
  platformOnly : Metadata Bool
  requirePermission : Metadata Permission

/-- Public routes and those of the platform have no tenant. -/
def Route.withoutTenant (route : Route) : Bool :=
  route.isPublic.getAllAndOverride.getD false || route.platformOnly.getAllAndOverride.getD false

def supportSessionHeader : String := "x-support-session-id"

def activeTenantHeader : String := "x-active-tenant"

namespace SupportSessionContextGuard

def isUsable (session : SupportSession) (user : AuthenticatedUser) (now : Nat) : Bool :=
  session.createdByUserId = user.id && session.revokedAt = none && now < session.expiresAt

def contextOf (session : SupportSession) : TenantContext where
  tenantId := session.tenantId
  source := .supportSession
  membership := none
  supportSession := some ⟨session.id, session.grantedPermissions⟩

/-- The session named by the header, for whoever may have created it. -/
def canActivate (db : Database) (now : Nat) (route : Route) (request : Request) :
    Except HttpError Request :=
  if route.withoutTenant then
    .ok request
  else
    match truthy (request.header supportSessionHeader), request.user with
    | some sessionId, some user =>
        if user.platformRole ≠ some .superAdmin then
          .ok request
        else
          match db.supportSessions.find? (·.id = sessionId) with
          | none => .error (.forbidden "Invalid support session")
          | some session =>
              if isUsable session user now then
                .ok { request with tenantContext := some (contextOf session) }
              else
                .error (.forbidden "Invalid support session")
    | _, _ => .ok request

end SupportSessionContextGuard

namespace TenantContextGuard

/-- The context of a membership. -/
def contextOf (source : TenantContextSource) (membership : AuthenticatedMembership) :
    TenantContext where
  tenantId := membership.tenantId
  source := source
  membership := some membership.role
  supportSession := none

def resolveFromHost (db : Database) (hostname : Option String)
    (memberships : List AuthenticatedMembership) : Option TenantContext := do
  let hostname ← truthy hostname
  if memberships.length = 0 then
    none
  else
    let host ← normaliseHost (some hostname) true
    let domain ← db.storeDomains.find? (·.hostname = host)
    let membership ← memberships.find? (·.tenantId = domain.storeTenantId)
    return { contextOf .domain membership with tenantId := domain.storeTenantId }

/-- The tenant by header, by host, or the only one there is. -/
def canActivate (db : Database) (route : Route) (request : Request) : Except HttpError Request :=
  if request.tenantContext.isSome then
    .ok request
  else if route.withoutTenant then
    .ok request
  else
    match request.user with
    | none => .ok request
    | some user =>
        match truthy (request.header activeTenantHeader) with
        | some requestedTenantId =>
            match user.memberships.find? (·.tenantId = requestedTenantId) with
            | none => .error (.forbidden "The requested tenant does not match an active membership")
            | some membership =>
                .ok { request with tenantContext := some (contextOf .membershipHeader membership) }
        | none =>
            match resolveFromHost db request.hostname user.memberships with
            | some domainContext => .ok { request with tenantContext := some domainContext }
            | none =>
                match user.memberships with
                | [membership] =>
                    .ok { request with
                      tenantContext := some (contextOf .membershipDefault membership) }
                | _ => .ok request

end TenantContextGuard

namespace PermissionsGuard

def canActivate (route : Route) (request : Request) : Except HttpError Unit :=
  match route.requirePermission.getAllAndOverride with
  | none => .ok ()
  | some required =>
      match request.tenantContext with
      | none => .error (.forbidden "No active tenant context for this request")
      | some context =>
          if context.source = .supportSession then
            if (context.supportSession.any fun s => s.grantedPermissions.contains required.name)
                = false then
              .error (.forbidden "This support session is not scoped to the required permission")
            else
              .ok ()
          else
            match context.membership with
            | none => .error (.forbidden "No active tenant context for this request")
            | some role =>
                if can (some role) required = false then
                  .error (.forbidden "Insufficient permission for this resource")
                else
                  .ok ()

end PermissionsGuard

/-- The guards in their order. What passes is the request with its context. -/
def guardChain (db : Database) (now : Nat) (route : Route) (request : Request) :
    Except HttpError Request := do
  let request ← SupportSessionContextGuard.canActivate db now route request
  let request ← TenantContextGuard.canActivate db route request
  PermissionsGuard.canActivate route request
  return request

end PrintForge.Access
