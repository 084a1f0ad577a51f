import PrintForge.Access.Guards

/-!
# What passes the guards

A request that gets through to a route with a permission acts in a tenant in which it is
entitled to that permission, by a membership of its user or by a support session of theirs.
Whatever a request says about tenants only chooses among what it is entitled to.
-/

namespace PrintForge.Access

open JavaScript

variable {db : Database} {now : Nat} {route : Route} {request request' : Request}

/-- The user is a member of the tenant in a role that has the permission. -/
def ByMembership (request : Request) (tenantId : String) (permission : Permission) : Prop :=
  ∃ user ∈ request.user, ∃ m ∈ user.memberships,
    m.tenantId = tenantId ∧ can (some m.role) permission = true

/-- The request names a session that its user, a platform administrator, has created for the
tenant, that is neither revoked nor expired, and that has been granted the permission. -/
def BySupportSession (db : Database) (now : Nat) (request : Request) (tenantId : String)
    (permission : Permission) : Prop :=
  ∃ user ∈ request.user, user.platformRole = some .superAdmin ∧
    ∃ session ∈ db.supportSessions,
      request.header supportSessionHeader = some session.id ∧
        session.createdByUserId = user.id ∧ session.revokedAt = none ∧
          now < session.expiresAt ∧ session.tenantId = tenantId ∧
            permission.name ∈ session.grantedPermissions

def Entitled (db : Database) (now : Nat) (request : Request) (tenantId : String)
    (permission : Permission) : Prop :=
  ByMembership request tenantId permission ∨
    BySupportSession db now request tenantId permission

/-- The same request with another header, or another value of one. -/
def Request.setHeader (request : Request) (name : String) (value : HeaderValue) : Request :=
  { request with headers := fun n => if n = name then some value else request.headers n }

/-! ## Where a context comes from -/

/-- A context of a membership that the user has. -/
def FromMembership (request : Request) (context : TenantContext) : Prop :=
  context.source ≠ .supportSession ∧ ∃ user ∈ request.user, ∃ m ∈ user.memberships,
    m.tenantId = context.tenantId ∧ context.membership = some m.role

/-- A context of a support session that the user may use now. -/
def FromSession (db : Database) (now : Nat) (request : Request) (context : TenantContext) :
    Prop :=
  ∃ user ∈ request.user, user.platformRole = some .superAdmin ∧
    ∃ session ∈ db.supportSessions,
      request.header supportSessionHeader = some session.id ∧
        SupportSessionContextGuard.isUsable session user now = true ∧
          context = SupportSessionContextGuard.contextOf session

theorem truthy_some {s : Option String} {a : String} (h : truthy s = some a) : s = some a :=
  (Option.filter_eq_some_iff.mp h).1

/-- The first guard leaves the request as it is, or gives it a context of a session. -/
theorem supportSession_ok
    (h : SupportSessionContextGuard.canActivate db now route request = .ok request') :
    request' = request ∨ ∃ context, FromSession db now request context ∧
      request' = { request with tenantContext := some context } := by
  unfold SupportSessionContextGuard.canActivate at h
  split at h
  · cases h
    exact .inl rfl
  · split at h
    · next sessionId user hheader huser =>
      split at h
      · cases h
        exact .inl rfl
      · next hadmin =>
        split at h
        · cases h
        · next session hfound =>
          split at h
          · next husable =>
            cases h
            have hid : session.id = sessionId := by simpa using List.find?_some hfound
            refine .inr ⟨_, ⟨user, huser, not_not.mp hadmin, session,
              List.mem_of_find?_eq_some hfound, ?_, husable, rfl⟩, rfl⟩
            rw [hid]
            exact truthy_some hheader
          · cases h
    · cases h
      exact .inl rfl

theorem resolveFromHost_some {hostname : Option String}
    {memberships : List AuthenticatedMembership} {context : TenantContext}
    (h : TenantContextGuard.resolveFromHost db hostname memberships = some context) :
    context.source ≠ .supportSession ∧
      ∃ m ∈ memberships, m.tenantId = context.tenantId ∧ context.membership = some m.role := by
  unfold TenantContextGuard.resolveFromHost at h
  obtain ⟨name, -, h₁⟩ := Option.bind_eq_some_iff.mp h
  split at h₁
  · cases h₁
  · obtain ⟨host, -, h₂⟩ := Option.bind_eq_some_iff.mp h₁
    obtain ⟨domain, -, h₃⟩ := Option.bind_eq_some_iff.mp h₂
    obtain ⟨m, hm, h₄⟩ := Option.bind_eq_some_iff.mp h₃
    cases h₄
    refine ⟨by rintro ⟨⟩, m, List.mem_of_find?_eq_some hm, ?_, rfl⟩
    simpa using List.find?_some hm

/-- The second guard leaves a request with a context alone, and gives another one at most a
context of a membership. -/
theorem tenantContext_ok (h : TenantContextGuard.canActivate db route request = .ok request') :
    request' = request ∨ request.tenantContext = none ∧
      ∃ context, FromMembership request context ∧
        request' = { request with tenantContext := some context } := by
  unfold TenantContextGuard.canActivate at h
  split at h
  · cases h
    exact .inl rfl
  · next hnone =>
    have hnone : request.tenantContext = none := by simpa using hnone
    split at h
    · cases h
      exact .inl rfl
    · split at h
      · cases h
        exact .inl rfl
      · next user huser =>
        split at h
        · split at h
          · cases h
          · next m hm =>
            cases h
            exact .inr ⟨hnone, _, ⟨by rintro ⟨⟩, user, huser, m, List.mem_of_find?_eq_some hm,
              rfl, rfl⟩, rfl⟩
        · split at h
          · next context hcontext =>
            cases h
            obtain ⟨hsource, m, hm, htenant, hrole⟩ := resolveFromHost_some hcontext
            exact .inr ⟨hnone, _, ⟨hsource, user, huser, m, hm, htenant, hrole⟩, rfl⟩
          · split at h
            · next m hmemberships =>
              cases h
              exact .inr ⟨hnone, _, ⟨by rintro ⟨⟩, user, huser, m, by simp [hmemberships],
                rfl, rfl⟩, rfl⟩
            · cases h
              exact .inl rfl

/-- The third guard lets a route with a permission pass for a context that has it. -/
theorem permissions_ok {permission : Permission} {u : Unit}
    (hrequired : route.requirePermission.getAllAndOverride = some permission)
    (h : PermissionsGuard.canActivate route request = .ok u) :
    ∃ context, request.tenantContext = some context ∧
      (context.source = .supportSession ∧
          (∃ s ∈ context.supportSession, permission.name ∈ s.grantedPermissions) ∨
        context.source ≠ .supportSession ∧
          ∃ role ∈ context.membership, can (some role) permission = true) := by
  unfold PermissionsGuard.canActivate at h
  rw [hrequired] at h
  dsimp only at h
  split at h
  · cases h
  · next context hcontext =>
    refine ⟨context, hcontext, ?_⟩
    split at h
    · next hsource =>
      split at h
      · cases h
      · next hgranted =>
        left
        rw [Bool.not_eq_false, Option.any_eq_true] at hgranted
        obtain ⟨s, hs, hcontains⟩ := hgranted
        exact ⟨hsource, s, hs, List.contains_iff_mem.mp hcontains⟩
    · next hsource =>
      split at h
      · cases h
      · next role hrole =>
        split at h
        · cases h
        · next hcan => exact .inr ⟨hsource, role, hrole, by simpa using hcan⟩

/-! ## Soundness -/

theorem FromMembership.entitled {context : TenantContext} {permission : Permission}
    (h : FromMembership request context)
    (hrole : ∃ role ∈ context.membership, can (some role) permission = true) :
    Entitled db now request context.tenantId permission := by
  obtain ⟨-, user, huser, m, hm, htenant, hmembership⟩ := h
  obtain ⟨role, hr, hcan⟩ := hrole
  rw [hmembership] at hr
  cases hr
  exact .inl ⟨user, huser, m, hm, htenant, hcan⟩

theorem FromSession.entitled {context : TenantContext} {permission : Permission}
    (h : FromSession db now request context)
    (hgranted : ∃ s ∈ context.supportSession, permission.name ∈ s.grantedPermissions) :
    Entitled db now request context.tenantId permission := by
  obtain ⟨user, huser, hadmin, session, hsession, hheader, husable, rfl⟩ := h
  obtain ⟨s, hs, hmem⟩ := hgranted
  cases hs
  simp only [SupportSessionContextGuard.isUsable, Bool.and_eq_true, decide_eq_true_eq] at husable
  exact .inr ⟨user, huser, hadmin, session, hsession, hheader, husable.1.1, husable.1.2,
    husable.2, rfl, hmem⟩

theorem guardChain_ok (h : guardChain db now route request = .ok request') :
    ∃ r, SupportSessionContextGuard.canActivate db now route request = .ok r ∧
      TenantContextGuard.canActivate db route r = .ok request' ∧
        PermissionsGuard.canActivate route request' = .ok () := by
  unfold guardChain at h
  cases hfirst : SupportSessionContextGuard.canActivate db now route request with
  | error err =>
      rw [hfirst] at h
      cases h
  | ok r =>
      rw [hfirst] at h
      change (TenantContextGuard.canActivate db route r >>= _) = _ at h
      cases hsecond : TenantContextGuard.canActivate db route r with
      | error err =>
          rw [hsecond] at h
          cases h
      | ok r' =>
          rw [hsecond] at h
          change (PermissionsGuard.canActivate route r' >>= _) = _ at h
          cases hthird : PermissionsGuard.canActivate route r' with
          | error err =>
              rw [hthird] at h
              cases h
          | ok u =>
              rw [hthird] at h
              cases h
              exact ⟨r, rfl, hsecond, hthird⟩

/-- What the guards let through has a tenant in which it is entitled to the permission. -/
theorem guardChain_entitled {permission : Permission} (hinit : request.tenantContext = none)
    (hrequired : route.requirePermission.getAllAndOverride = some permission)
    (h : guardChain db now route request = .ok request') :
    ∃ context, request'.tenantContext = some context ∧
      Entitled db now request context.tenantId permission := by
  obtain ⟨r, hfirst, hsecond, hthird⟩ := guardChain_ok h
  obtain ⟨context, hcontext, hpermission⟩ := permissions_ok hrequired hthird
  refine ⟨context, hcontext, ?_⟩
  obtain rfl | ⟨c₁, hsession, rfl⟩ := supportSession_ok hfirst
  · -- no support session: the context, if any, is of a membership
    obtain rfl | ⟨-, c₂, hmember, rfl⟩ := tenantContext_ok hsecond
    · rw [hinit] at hcontext
      cases hcontext
    · cases hcontext
      obtain ⟨hsource, -⟩ | ⟨-, hrole⟩ := hpermission
      · exact absurd hsource hmember.1
      · exact hmember.entitled hrole
  · -- a support session: the second guard does not touch its context
    obtain rfl | ⟨hnone, -⟩ := tenantContext_ok hsecond
    · cases hcontext
      obtain ⟨-, hgranted⟩ | ⟨hsource, -⟩ := hpermission
      · exact hsession.entitled hgranted
      · obtain ⟨user, -, -, session, -, -, -, rfl⟩ := hsession
        exact absurd rfl hsource
    · cases hnone

/-- A request that passes all guards of a route with a permission acts in a tenant in which it
is entitled to it; and so it is with any header added or replaced. -/
theorem guards_sound (db : Database) (now : Nat) (route : Route) (request : Request)
    (permission : Permission) (hinit : request.tenantContext = none)
    (hrequired : route.requirePermission.getAllAndOverride = some permission) :
    (∀ request', guardChain db now route request = .ok request' →
      ∃ context, request'.tenantContext = some context ∧
        Entitled db now request context.tenantId permission) ∧
    ∀ name value request',
      guardChain db now route (request.setHeader name value) = .ok request' →
        ∃ context, request'.tenantContext = some context ∧
          Entitled db now (request.setHeader name value) context.tenantId permission :=
  ⟨fun _ h => guardChain_entitled hinit hrequired h,
    fun _ _ _ h => guardChain_entitled hinit hrequired h⟩

/-- A session for tenant `t2`, and a host of tenant `t1`. -/
def exampleDatabase : Database where
  supportSessions := [⟨"s1", "t2", "u1", ["orders:read"], 100, none⟩]
  storeDomains := [⟨"shop.example", "t1"⟩]

/-- A platform administrator who is a member of `t1` as well. -/
def exampleRequest : Request where
  headers _ := none
  hostname := some "Shop.example"
  user := some ⟨"u1", some .superAdmin, [⟨"t1", .viewer⟩, ⟨"t3", .owner⟩]⟩
  tenantContext := none

def exampleRoute : Route where
  isPublic := ⟨none, none⟩
  platformOnly := ⟨none, some false⟩
  requirePermission := ⟨some .ordersRead, none⟩

/-- The host leads to the tenant of a membership, and the header to that of the session. -/
theorem guards_sound_example :
    (∃ passed context, guardChain exampleDatabase 50 exampleRoute exampleRequest = .ok passed ∧
      passed.tenantContext = some context ∧ context.tenantId = "t1" ∧
        Entitled exampleDatabase 50 exampleRequest context.tenantId .ordersRead) ∧
    ∃ passed context, guardChain exampleDatabase 50 exampleRoute
        (exampleRequest.setHeader supportSessionHeader (.single "s1")) = .ok passed ∧
      passed.tenantContext = some context ∧ context.tenantId = "t2" ∧
        Entitled exampleDatabase 50 (exampleRequest.setHeader supportSessionHeader (.single "s1"))
          context.tenantId .ordersRead := by
  obtain ⟨hplain, hheader⟩ := guards_sound exampleDatabase 50 exampleRoute exampleRequest
    .ordersRead rfl rfl
  have h₁ : (guardChain exampleDatabase 50 exampleRoute exampleRequest).toOption.any
      (fun r => decide (r.tenantContext.map (·.tenantId) = some "t1")) = true := by
    decide +kernel
  have h₂ : (guardChain exampleDatabase 50 exampleRoute
      (exampleRequest.setHeader supportSessionHeader (.single "s1"))).toOption.any
      (fun r => decide (r.tenantContext.map (·.tenantId) = some "t2")) = true := by
    decide +kernel
  have passes {request : Request} {tenantId : String}
      (h : (guardChain exampleDatabase 50 exampleRoute request).toOption.any
        (fun r => decide (r.tenantContext.map (·.tenantId) = some tenantId)) = true) :
      ∃ passed, guardChain exampleDatabase 50 exampleRoute request = .ok passed ∧
        passed.tenantContext.map (·.tenantId) = some tenantId := by
    obtain ⟨passed, hpassed, htenant⟩ := Relational.Tx.exists_ok h
    exact ⟨passed, hpassed, of_decide_eq_true htenant⟩
  constructor
  · obtain ⟨passed, hpassed, htenant⟩ := passes h₁
    obtain ⟨context, hcontext, hentitled⟩ := hplain passed hpassed
    rw [hcontext] at htenant
    exact ⟨passed, context, hpassed, hcontext, Option.some.inj htenant, hentitled⟩
  · obtain ⟨passed, hpassed, htenant⟩ := passes h₂
    obtain ⟨context, hcontext, hentitled⟩ := hheader _ _ passed hpassed
    rw [hcontext] at htenant
    exact ⟨passed, context, hpassed, hcontext, Option.some.inj htenant, hentitled⟩

end PrintForge.Access
