import PrintForge.Concurrent.Signatures
import PrintForge.Platform.ControlPlane
import PrintForge.Relational.Journals

/-!
# What the audit log knows

The log of the platform is read as a journal of two machines: one for the status of every tenant,
the other for every support session with all its columns but the time at which it was revoked. A
state is on record since another one if what the log has come to say in between explains how the
one came from the other, and if the tenants' logs have been told the same of the sessions.

This is what every commit keeps, whatever it is interleaved with. A change of a row is explained
by its entry because the row is locked from the moment its condition is looked at to the commit.
-/

namespace PrintForge.ControlPlane

open Relational Concurrent Access

/-! ## Machines -/

def statusOf (w : World) (id : String) : Option TenantStatus := (w.tenant id).map (·.status)

def tenantMachine : Machine String PlatformAuditLog (Option TenantStatus) where
  about entry :=
    match entry.action with
    | .tenantSuspend | .tenantResume => some entry.targetId
    | .supportSessionCreate | .supportSessionRevoke | .elsewhere _ => none
  apply status entry :=
    match entry.action, entry.metadata with
    | .tenantSuspend, .transition .active .suspended =>
        if status = some .active then some (some .suspended) else none
    | .tenantResume, .transition .suspended .active =>
        if status = some .suspended then some (some .active) else none
    | _, _ => none

/-- What the log knows of a session. A session that is revoked was revoked by somebody, who need
not be known any more. -/
structure Grant where
  tenantId : String
  createdByUserId : String
  justification : String
  grantedPermissions : List String
  expiresAt : Nat
  revokedBy : Option (Option String)
deriving DecidableEq, Repr

def SupportSession.grant (session : SupportSession) : Grant where
  tenantId := session.tenantId
  createdByUserId := session.createdByUserId
  justification := session.justification
  grantedPermissions := session.grantedPermissions
  expiresAt := session.expiresAt
  revokedBy := session.revokedAt.map fun _ => session.revokedByUserId

def grantOf (w : World) (id : String) : Option Grant := (w.supportSession id).map (·.grant)

def sessionMachine : Machine String PlatformAuditLog (Option Grant) where
  about entry :=
    match entry.action with
    | .supportSessionCreate | .supportSessionRevoke => some entry.targetId
    | .tenantSuspend | .tenantResume | .elsewhere _ => none
  apply grant entry :=
    match grant, entry.action, entry.tenantId, entry.justification, entry.metadata with
    | none, .supportSessionCreate, some tenantId, some justification,
        .grant grantedPermissions expiresAt =>
          some (some ⟨tenantId, entry.actorUserId, justification, grantedPermissions, expiresAt,
            none⟩)
    | some grant, .supportSessionRevoke, some tenantId, none, .empty =>
        if grant.revokedBy = none ∧ tenantId = grant.tenantId then
          some (some { grant with revokedBy := some (some entry.actorUserId) })
        else
          none
    | _, _, _, _, _ => none

/-- What a tenant is told of. -/
def AuditAction.ofSession : AuditAction → Bool
  | supportSessionCreate | supportSessionRevoke => true
  | tenantSuspend | tenantResume | elsewhere _ => false

/-- The tenant's log has been told what the platform's log says. -/
def Tells (entry : PlatformAuditLog) (told : TenantAuditLog) : Prop :=
  ∃ tenantId, entry.tenantId = some tenantId ∧ told = tenantEntry tenantId entry

/-! ## Records -/

/-- What has been written down between two states explains how the one came from the other. -/
structure Recorded (w w' : World) (written : List PlatformAuditLog)
    (told : List TenantAuditLog) : Prop where
  platform : w'.platformAuditLogs = w.platformAuditLogs ++ written
  tenant : w'.tenantAuditLogs = w.tenantAuditLogs ++ told
  tenants : tenantMachine.Explains (statusOf w) (statusOf w') written
  sessions : sessionMachine.Explains (grantOf w) (grantOf w') written
  mirrored : List.Forall₂ Tells (written.filter (·.action.ofSession))
    (told.filter (·.action.ofSession))

theorem Recorded.refl (w : World) : Recorded w w [] [] where
  platform := (List.append_nil _).symm
  tenant := (List.append_nil _).symm
  tenants := Machine.explains_nil
  sessions := Machine.explains_nil
  mirrored := .nil

theorem Recorded.trans {w w' w'' : World} {written written' : List PlatformAuditLog}
    {told told' : List TenantAuditLog} (h : Recorded w w' written told)
    (h' : Recorded w' w'' written' told') :
    Recorded w w'' (written ++ written') (told ++ told') where
  platform := by rw [h'.platform, h.platform, List.append_assoc]
  tenant := by rw [h'.tenant, h.tenant, List.append_assoc]
  tenants := h.tenants.append h'.tenants
  sessions := h.sessions.append h'.sessions
  mirrored := by
    rw [List.filter_append, List.filter_append]
    exact List.rel_append h.mirrored h'.mirrored

/-- A session is revoked at most, and only once. -/
def Continues (session session' : SupportSession) : Prop :=
  session' = session ∨ session.revokedAt = none ∧ ∃ now actor,
    session' = { session with revokedAt := some now, revokedByUserId := some actor }

theorem Continues.trans {a b d : SupportSession} (h : Continues a b) (h' : Continues b d) :
    Continues a d := by
  obtain rfl | ⟨hnone, now, actor, rfl⟩ := h
  · exact h'
  · obtain rfl | ⟨hrevoked, -⟩ := h'
    · exact .inr ⟨hnone, now, actor, rfl⟩
    · cases hrevoked

/-- What every commit keeps. -/
structure Onward (w w' : World) : Prop where
  recorded : ∃ written told, Recorded w w' written told
  now : w.now ≤ w'.now
  sessions : ∀ id session, w.supportSession id = some session →
    ∃ session', w'.supportSession id = some session' ∧ Continues session session'

theorem onward_refl (w : World) : Onward w w where
  recorded := ⟨[], [], .refl w⟩
  now := le_rfl
  sessions _ session h := ⟨session, h, .inl rfl⟩

theorem Onward.trans {w w' w'' : World} (h : Onward w w') (h' : Onward w' w'') :
    Onward w w'' where
  recorded := by
    obtain ⟨written, told, hrecorded⟩ := h.recorded
    obtain ⟨written', told', hrecorded'⟩ := h'.recorded
    exact ⟨_, _, hrecorded.trans hrecorded'⟩
  now := h.now.trans h'.now
  sessions id session hsession := by
    obtain ⟨session', hsession', hcontinues⟩ := h.sessions id session hsession
    obtain ⟨session'', hsession'', hcontinues'⟩ := h'.sessions id session' hsession'
    exact ⟨session'', hsession'', hcontinues.trans hcontinues'⟩

/-! ## What keys protect -/

def Same : Key → World → World → Prop
  | .tenant id, w, w' => w'.tenant id = w.tenant id
  | .supportSession id, w, w' =>
      ∀ session, w.supportSession id = some session → w'.supportSession id = some session

theorem same_refl (k : Key) (w : World) : Same k w w := by
  cases k with
  | tenant id => rfl
  | supportSession id => exact fun _ h => h

theorem same_trans {k : Key} {w w' w'' : World} (h : Same k w w') (h' : Same k w' w'') :
    Same k w w'' := by
  cases k with
  | tenant id => exact Eq.trans h' h
  | supportSession id => exact fun session hsession => h' session (h session hsession)

def protocol : Protocol World Key Commit where
  Same := Same
  Onward := Onward
  Inv _ := True
  Good _ _ _ := True
  ok _ _ := True
  same_refl := same_refl
  same_trans := same_trans
  onward_refl := onward_refl
  onward_trans := Onward.trans

end PrintForge.ControlPlane
