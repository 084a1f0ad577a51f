import PrintForge.Access.Guarantees
import PrintForge.Concurrent.Readers
import PrintForge.Platform.Recording

/-!
# What is on record

The log of the platform explains, at any time of any run, how every tenant came to its status and
how every support session came to be what it is. Every call that has been answered with a result
has left its entry there, with the name of whoever made it, and no other call has left any: nothing
is done that is not written down, and nothing is written down that has not been done.

Whoever enters a tenant without a membership does so by a session that is on record. A session
that has been revoked, or has expired, lets nobody in again.
-/

namespace PrintForge.ControlPlane

open Relational Concurrent Access JavaScript

variable {uuid : Nat → String} {w₀ : World} {c c' : PlatformConfig} {i : Nat} {id : String}

/-! ## A run -/

def exampleUuid (i : Nat) : String := if i = 0 then "s0" else "s"

def exampleWorld : World where
  now := 0
  tenants := [⟨"t1", .active⟩]
  supportSessions := []
  platformAuditLogs := []
  tenantAuditLogs := []
  storeDomains := []

def opening : Request :=
  .createSession "u1" "ip" ⟨"t1", "help", some 10, [.ordersRead]⟩ none

/-- A request of an administrator, with the session in its header. -/
def supportRequest : Access.Request :=
  exampleRequest.setHeader supportSessionHeader (.single "s0")

def entering : Request := .enter exampleRoute supportRequest

def revoking : Request := .revokeSession "u1" "ip" "s0" none

/-- A session that is opened and entered, and revoked by two calls at once. -/
def exampleCalls : PlatformConfig :=
  ⟨⟨exampleWorld, []⟩, [(opening, handle exampleUuid 0 opening),
    (entering, handle exampleUuid 1 entering), (revoking, handle exampleUuid 2 revoking),
    (revoking, handle exampleUuid 3 revoking)]⟩

theorem exampleCalls_reached : Reaches exampleUuid ⟨⟨exampleWorld, []⟩, []⟩ exampleCalls := by
  have hexec : exec (handle exampleUuid) (fun _ _ => True) (fun a s => Unblocked a s)
      [.accept opening, .accept entering, .accept revoking, .accept revoking]
      ⟨⟨exampleWorld, []⟩, []⟩ = some exampleCalls := rfl
  exact exec_run hexec

/-- The second revocation has seen the session open, and waits for the first to commit. -/
def exampleSchedule : List (Action Request) :=
  List.replicate 7 (.advance 0) ++ List.replicate 5 (.advance 1) ++ List.replicate 3 (.advance 2) ++
    List.replicate 3 (.advance 3) ++ List.replicate 6 (.advance 2) ++ List.replicate 2 (.advance 3)

def Reply.tenantContext : Reply → Option TenantContext
  | entered request => request.tenantContext
  | tenant _ | session _ | done => none

theorem answered_ok {i : Nat} {req : Request} {q : Reply → Bool}
    (hi : ∃ p, c.flights[i]? = some (req, p))
    (h : (c.answer i).any (fun a => a.2.toOption.any q) = true) :
    ∃ reply, c.flights[i]? = some (req, .done (.ok reply)) ∧ q reply = true := by
  obtain ⟨⟨req', r⟩, hanswer, hok⟩ := (Option.any_eq_true ..).mp h
  obtain ⟨reply, rfl, hq⟩ := Tx.exists_ok hok
  have hflight := Config.flight_of_answer hanswer
  obtain ⟨p, hp⟩ := hi
  cases hflight.symm.trans hp
  exact ⟨reply, hflight, hq⟩

theorem accepted_later {req : Request} {acts : List (Action Request)}
    (h : exec (handle uuid) (fun _ _ => True) (fun a s => Unblocked a s) (.accept req :: acts) c =
      some c') : ∃ p, c'.flights[c.flights.length]? = some (req, p) := by
  have hserved : exec (handle uuid) (fun _ _ => True) (fun a s => Unblocked a s) acts
      ⟨c.state, c.flights ++ [(req, handle uuid c.flights.length req)]⟩ = some c' := h
  exact (exec_run hserved).flight_later List.getElem?_concat_length

theorem exampleSchedule_reaches : ∃ c, Reaches exampleUuid ⟨⟨exampleWorld, []⟩, []⟩ c ∧
    (∃ session, c.state.db.supportSession "s0" = some session ∧ session.revokedAt ≠ none) ∧
    (∃ reply, c.flights[0]? = some (opening, .done (.ok reply))) ∧
    (∃ request, c.flights[1]? = some (entering, .done (.ok (.entered request)))) ∧
    ∃ reply, c.flights[2]? = some (revoking, .done (.ok reply)) := by
  have hcalls : (exec (handle exampleUuid) (fun _ _ => True) (fun a s => Unblocked a s)
      exampleSchedule exampleCalls).any (fun c =>
        (c.state.db.supportSession "s0").any (fun session => decide (session.revokedAt ≠ none)) &&
        (c.answer 0).any (fun a => a.2.toOption.any fun _ => true) &&
        (c.answer 1).any (fun a => a.2.toOption.any fun reply => reply.tenantContext.isSome) &&
        (c.answer 2).any (fun a => a.2.toOption.any fun _ => true)) = true := by
    decide +kernel
  obtain ⟨c, hexec, h⟩ := (Option.any_eq_true ..).mp hcalls
  simp only [Bool.and_eq_true] at h
  obtain ⟨⟨⟨hrevoked, hopened⟩, hentered⟩, hclosed⟩ := h
  have hrun : Reaches exampleUuid exampleCalls c := exec_run hexec
  obtain ⟨session, hsession, hrevoked⟩ := (Option.any_eq_true ..).mp hrevoked
  obtain ⟨reply, hopening, -⟩ := answered_ok (hrun.flight_later rfl) hopened
  obtain ⟨entered, hentering, hcontext⟩ := answered_ok (hrun.flight_later rfl) hentered
  obtain ⟨reply', hrevoking, -⟩ := answered_ok (hrun.flight_later rfl) hclosed
  refine ⟨c, exampleCalls_reached.trans hrun, ⟨session, hsession, of_decide_eq_true hrevoked⟩,
    ⟨reply, hopening⟩, ?_, reply', hrevoking⟩
  cases entered with
  | entered request => exact ⟨request, hentering⟩
  | tenant t => cases hcontext
  | session view => cases hcontext
  | done => cases hcontext

/-! ## What is written down of a session -/

/-- The entry says how the session came to be. -/
structure Opens (entry : PlatformAuditLog) (session : SupportSession) : Prop where
  action : entry.action = .supportSessionCreate
  actor : entry.actorUserId = session.createdByUserId
  tenant : entry.tenantId = some session.tenantId
  justification : entry.justification = some session.justification
  metadata : entry.metadata = .grant session.grantedPermissions session.expiresAt

/-- The entry says how the session was revoked. -/
structure Closes (entry : PlatformAuditLog) (session : SupportSession) : Prop where
  action : entry.action = .supportSessionRevoke
  actor : session.revokedByUserId = some entry.actorUserId
  tenant : entry.tenantId = some session.tenantId
  revoked : session.revokedAt ≠ none

variable {entry : PlatformAuditLog} {entries : List PlatformAuditLog} {grant : Grant}
variable {state state' : Option Grant} {session : SupportSession}

/-- Where there is no session, only its creation may come next. -/
theorem apply_none (h : sessionMachine.apply none entry = some state) :
    ∃ grant, state = some grant ∧ grant.revokedBy = none ∧ entry.action = .supportSessionCreate ∧
      entry.actorUserId = grant.createdByUserId ∧ entry.tenantId = some grant.tenantId ∧
        entry.justification = some grant.justification ∧
          entry.metadata = .grant grant.grantedPermissions grant.expiresAt := by
  simp only [sessionMachine] at h
  split at h
  · next haction htenant hjustification hmetadata =>
    cases h
    exact ⟨_, rfl, rfl, haction, rfl, htenant, hjustification, hmetadata⟩
  · next hnone _ _ _ _ => cases hnone
  · cases h

/-- Where there is a session, only its revocation may come next, and only once. -/
theorem apply_some (h : sessionMachine.apply (some grant) entry = some state) :
    grant.revokedBy = none ∧ entry.action = .supportSessionRevoke ∧
      entry.tenantId = some grant.tenantId ∧
        state = some { grant with revokedBy := some (some entry.actorUserId) } := by
  simp only [sessionMachine] at h
  split at h
  · next hsome _ _ _ _ => cases hsome
  · next hsome haction htenant _ _ =>
    cases hsome
    split at h
    · next hopen =>
      cases h
      exact ⟨hopen.1, haction, htenant.trans (congrArg some hopen.2), rfl⟩
    · cases h
  · cases h

theorem replay_cons (h : sessionMachine.replay state (entry :: entries) = some state') :
    ∃ next, sessionMachine.apply state entry = some next ∧
      sessionMachine.replay next entries = some state' :=
  Option.bind_eq_some_iff.mp h

/-- Of a session that has been revoked nothing more is said. -/
theorem replay_revoked {actor : Option String}
    (h : sessionMachine.replay (some { grant with revokedBy := some actor }) entries =
      some state) : entries = [] := by
  cases entries with
  | nil => rfl
  | cons entry rest =>
      obtain ⟨next, happly, -⟩ := replay_cons h
      cases (apply_some happly).1

/-- What leads to a session from nothing is its creation, and its revocation if it has been
revoked. -/
theorem replay_session (h : sessionMachine.replay none entries = some (some session.grant)) :
    ∃ created, Opens created session ∧
      (session.revokedAt = none ∧ entries = [created] ∨
        ∃ revoked, Closes revoked session ∧ entries = [created, revoked]) := by
  cases entries with
  | nil => cases h
  | cons created rest =>
      obtain ⟨state, hcreated, hrest⟩ := replay_cons h
      obtain ⟨grant, rfl, hopen, haction, hactor, htenant, hjustification, hmetadata⟩ :=
        apply_none hcreated
      cases rest with
      | nil =>
          cases hrest
          refine ⟨created, ⟨haction, hactor, htenant, hjustification, hmetadata⟩, .inl ⟨?_, rfl⟩⟩
          exact Option.map_eq_none_iff.mp hopen
      | cons revoked more =>
          obtain ⟨state, hrevoked, hmore⟩ := replay_cons hrest
          obtain ⟨-, haction', htenant', rfl⟩ := apply_some hrevoked
          obtain rfl := replay_revoked hmore
          have hgrant : session.grant =
              { grant with revokedBy := some (some revoked.actorUserId) } :=
            (Option.some.inj (Option.some.inj hmore)).symm
          have hby : session.revokedAt.map (fun _ => session.revokedByUserId) =
              some (some revoked.actorUserId) := congrArg Grant.revokedBy hgrant
          obtain ⟨revokedAt, hat, hactor'⟩ := Option.map_eq_some_iff.mp hby
          have htenantOf : session.tenantId = grant.tenantId := congrArg Grant.tenantId hgrant
          refine ⟨created, ⟨haction, ?_, ?_, ?_, ?_⟩,
            .inr ⟨revoked, ⟨haction', hactor', ?_, ?_⟩, rfl⟩⟩
          · exact hactor.trans (congrArg Grant.createdByUserId hgrant).symm
          · exact htenant.trans (congrArg some htenantOf.symm)
          · exact hjustification.trans (congrArg (some ·.justification) hgrant).symm
          · exact hmetadata.trans
              (congrArg (fun g => AuditMetadata.grant g.grantedPermissions g.expiresAt) hgrant).symm
          · exact htenant'.trans (congrArg some htenantOf.symm)
          · rw [hat]
            exact Option.some_ne_none revokedAt

/-- What has been written down between two times of a run explains every tenant's status and every
session, and the tenants have been told the same of their sessions. Of a session that has come to
be in between it says who opened it, for whom, why and with what permissions, who revoked it if
anybody has, and nothing else. -/
theorem log_explains (hrun : Reaches uuid ⟨⟨w₀, []⟩, []⟩ c) (hafter : Reaches uuid c c') :
    ∃ written told, Recorded c.state.db c'.state.db written told ∧
      ∀ id session, c.state.db.supportSession id = none →
        c'.state.db.supportSession id = some session →
          ∃ created, Opens created session ∧
            (session.revokedAt = none ∧ sessionMachine.entries id written = [created] ∨
              ∃ revoked, Closes revoked session ∧
                sessionMachine.entries id written = [created, revoked]) := by
  obtain ⟨written, told, hrecorded⟩ := (onward_of_reaches hrun hafter).recorded
  refine ⟨written, told, hrecorded, fun id session hnew hsession => ?_⟩
  have hreplay := hrecorded.sessions id
  rw [grantOf, grantOf, hnew, hsession] at hreplay
  exact replay_session hreplay

/-- A session that has been opened and revoked. -/
theorem log_explains_closed : ∃ (c : PlatformConfig) (session : SupportSession)
    (created revoked : PlatformAuditLog), c.state.db.supportSession "s0" = some session ∧
      Opens created session ∧ Closes revoked session ∧
        sessionMachine.entries "s0" c.state.db.platformAuditLogs = [created, revoked] := by
  obtain ⟨c, hrun, ⟨session, hsession, hrevoked⟩, -⟩ := exampleSchedule_reaches
  obtain ⟨written, told, hrecorded, hsessions⟩ := log_explains .refl hrun
  have hwritten : c.state.db.platformAuditLogs = written := hrecorded.platform
  obtain ⟨created, hcreated, ⟨hopen, -⟩ | ⟨revoked, hcloses, hentries⟩⟩ :=
    hsessions "s0" session rfl hsession
  · exact absurd hopen hrevoked
  · exact ⟨c, session, created, revoked, hsession, hcreated, hcloses, hwritten ▸ hentries⟩

/-! ## Calls and their entries -/

section Calls

variable {pending : Tx World HttpError Unit} {actor ip tenantId sessionId : String}
variable {source target : TenantStatus}

/-- What a transaction adds to the log of the platform. -/
def Logs (entries : List PlatformAuditLog) (pending : Tx World HttpError Unit) : Prop :=
  ∀ w w', pending w = .ok ((), w') → w'.platformAuditLogs = w.platformAuditLogs ++ entries

theorem logs_nil : Logs [] (pure ()) := by
  intro w w' hw
  cases hw
  exact (List.append_nil _).symm

theorem Logs.platformAction (h : Logs entries pending) (entry : PlatformAuditLog) :
    Logs (entries ++ [entry]) (do pending; discard (logPlatformAction entry)) := by
  intro w w' hw
  obtain ⟨w₁, _, hfirst, hsecond⟩ := Tx.discard_ok.mp hw
  cases hsecond
  exact (congrArg (· ++ [entry]) (h w w₁ hfirst)).trans (List.append_assoc ..)

/-- A statement that leaves the log of the platform alone. -/
theorem Logs.other {α : Type} {tx : Tx World HttpError α} (h : Logs entries pending)
    (htx : ∀ w a w', tx w = .ok (a, w') → w'.platformAuditLogs = w.platformAuditLogs) :
    Logs entries (do pending; discard tx) := by
  intro w w' hw
  obtain ⟨w₁, a, hfirst, hsecond⟩ := Tx.discard_ok.mp hw
  rw [htx w₁ a w' hsecond, h w w₁ hfirst]

theorem Logs.tenantAction (h : Logs entries pending) (told : TenantAuditLog) :
    Logs entries (do pending; discard (logTenantAction told)) := by
  refine h.other fun w a w' hw => ?_
  cases hw
  rfl

theorem ends_updateRow {key : Key} {qualifies : World → Bool} {change : World → World}
    (h : Logs entries pending)
    (hchange : ∀ w, (change w).platformAuditLogs = w.platformAuditLogs) :
    (updateRow key qualifies change).Ends (fun _ => Logs entries) pending := by
  unfold updateRow
  refine Txn.ends_read fun w => ?_
  split
  · refine Txn.ends_lock fun w => ?_
    split
    · refine Txn.ends_exec fun _ _ _ _ => h.other fun w a w' hw => ?_
      cases hw
      exact hchange w
    · exact h
  · exact h

theorem ends_transition {action : AuditAction} {justification : String} :
    (transitionTenantStatus i actor ip tenantId source target action justification).Ends
      (fun _ pending => ∃ entry,
        entry = transitionEntry i actor ip tenantId source target action justification ∧
          Logs [entry] pending) (pure ()) := by
  unfold transitionTenantStatus
  refine Txn.ends_read fun w => ?_
  split
  · exact Txn.ends_throw _
  · split
    · exact Txn.ends_throw _
    · have hlog : ∀ w, (setStatus tenantId source target w).platformAuditLogs =
          w.platformAuditLogs := fun _ => rfl
      refine (ends_updateRow logs_nil hlog).bind fun count pending hlogs => ?_
      split
      · exact Txn.ends_throw _
      · refine Txn.ends_exec fun _ _ _ _ => ?_
        refine Txn.ends_read fun w => ?_
        split
        · exact Txn.ends_throw _
        · exact ⟨_, rfl, hlogs.platformAction _⟩

theorem ends_createSession {dto : CreateSupportSessionDto} {expiresAt : Nat} :
    (createSession i actor ip id dto expiresAt).Ends
      (fun _ pending => ∃ entry,
        entry = createEntry i ip (newSession actor id dto.tenantId dto.justification
          dto.grantedPermissions expiresAt) ∧ Logs [entry] pending) (pure ()) := by
  unfold createSession
  refine Txn.ends_read fun w => ?_
  split
  · exact Txn.ends_throw _
  · split
    · exact Txn.ends_throw _
    · refine Txn.ends_exec fun _ _ _ _ => Txn.ends_exec fun _ _ _ _ => ?_
      refine Txn.ends_exec fun _ _ _ _ => Txn.ends_read fun w => ?_
      refine ⟨_, rfl, ((logs_nil.other fun w a w' hw => ?_).platformAction _).tenantAction _⟩
      unfold insertSession at hw
      split at hw
      · cases hw
        rfl
      · cases hw

theorem ends_revokeSession :
    (revokeSession i actor ip sessionId).Ends
      (fun _ pending => ∃ entry,
        (∃ tenantId, entry = revokeEntry i actor ip sessionId tenantId) ∧ Logs [entry] pending)
      (pure ()) := by
  unfold revokeSession
  refine Txn.ends_read fun w => ?_
  split
  · exact Txn.ends_throw _
  · split
    · exact Txn.ends_throw _
    · refine Txn.ends_read fun now => ?_
      have hlog : ∀ w, (setRevoked sessionId actor now.now w).platformAuditLogs =
          w.platformAuditLogs := fun _ => rfl
      refine (ends_updateRow logs_nil hlog).bind fun count pending hlogs => ?_
      split
      · exact Txn.ends_throw _
      · refine Txn.ends_exec fun _ _ _ _ => Txn.ends_exec fun _ _ _ _ => ?_
        refine Txn.ends_read fun w => ?_
        split
        · exact Txn.ends_throw _
        · exact ⟨_, ⟨_, rfl⟩, (hlogs.platformAction _).tenantAction _⟩

/-- What stands in the log of the platform under the number of a call, or under none. -/
def entriesOf (number : Option Nat) (w : World) : List PlatformAuditLog :=
  w.platformAuditLogs.filter (·.id = number)

theorem entriesOf_append {w w' : World}
    (hlog : w'.platformAuditLogs = w.platformAuditLogs ++ [entry]) (hid : entry.id = some i) :
    (∀ j, j ≠ some i → entriesOf j w' = entriesOf j w) ∧
      (entriesOf (some i) w = [] → entriesOf (some i) w' = [entry]) := by
  have happend : ∀ j, entriesOf j w' = entriesOf j w ++ [entry].filter (·.id = j) := by
    intro j
    rw [entriesOf, hlog, List.filter_append]
    rfl
  refine ⟨fun j hj => ?_, fun hnil => ?_⟩
  · have hother : [entry].filter (·.id = j) = [] := by
      refine List.filter_eq_nil_iff.mpr fun x hx => ?_
      rw [List.mem_singleton.mp hx, hid, decide_eq_true_eq]
      exact Ne.symm hj
    rw [happend, hother, List.append_nil]
  · have hself : [entry].filter (·.id = some i) = [entry] :=
      List.filter_cons_of_pos (decide_eq_true hid)
    rw [happend, hnil, hself, List.nil_append]

/-- What stands in the log of a call that has been answered with a result. -/
def OnRecord (uuid : Nat → String) (i : Nat) : Request → List PlatformAuditLog → Prop
  | .suspendTenant actor ip tenantId justification _, entries => entries =
      [transitionEntry i actor ip tenantId .active .suspended .tenantSuspend justification]
  | .resumeTenant actor ip tenantId justification _, entries => entries =
      [transitionEntry i actor ip tenantId .suspended .active .tenantResume justification]
  | .createSession actor ip dto _, entries => ∃ expiresAt, dto.expiresAt = some expiresAt ∧
      entries = [createEntry i ip (newSession actor (uuid i) dto.tenantId dto.justification
        dto.grantedPermissions expiresAt)]
  | .revokeSession actor ip sessionId _, entries => ∃ tenantId,
      entries = [revokeEntry i actor ip sessionId tenantId]
  | .logElsewhere name entry _, entries =>
      entries = [{ entry with id := some i, action := .elsewhere name }]
  | .enter _ _, entries => entries = []
  | .setStoreDomains _, entries => entries = []
  | .tick _, entries => entries = []

theorem signs_transact {α : Type} {p : Statements α} {name : α → Commit} {reply : α → Reply}
    {failsAt : Option Nat} {R : PlatformAuditLog → Prop}
    {P : Reply → List PlatformAuditLog → Prop}
    (h : p.Ends (fun _ pending => ∃ entry, R entry ∧ Logs [entry] pending) (pure ()))
    (hR : ∀ entry, R entry → entry.id = some i ∧ ∀ a, P a [entry]) :
    (transact i name reply p failsAt).Signs (fun j s => entriesOf j s.db) i P := by
  have hsigns : (inTransaction i name (p.cutAt connectionLost failsAt)).Signs
      (fun j (s : Locked World Key) => entriesOf j s.db) i fun a => P (reply a) := by
    refine (h.cutAt connectionLost failsAt).signs fun a pending w w' hP hpending => ?_
    obtain ⟨entry, hentry, hlogs⟩ := hP
    obtain ⟨hid, hanswer⟩ := hR entry hentry
    obtain ⟨hothers, hself⟩ := entriesOf_append (hlogs w w' hpending) hid
    exact ⟨hothers, fun hnil => (hself hnil).symm ▸ hanswer (reply a)⟩
  exact hsigns.map fun _ _ h => h

theorem signs_outside {ℓ : Commit} {change : World → World}
    {P : Reply → List PlatformAuditLog → Prop}
    (hothers : ∀ w j, j ≠ some i → entriesOf j (change w) = entriesOf j w)
    (hself : ∀ w, entriesOf (some i) w = [] → P .done (entriesOf (some i) (change w))) :
    (outside ℓ change).Signs (fun j s => entriesOf j s.db) i P :=
  fun s => ⟨hothers s.db, .inr ⟨.done, rfl, hself s.db⟩⟩

theorem signs_openSession {dto : CreateSupportSessionDto} {failsAt : Option Nat} :
    (openSession uuid i actor ip dto failsAt).Signs (fun j s => entriesOf j s.db) i
      fun _ => OnRecord uuid i (.createSession actor ip dto failsAt) := by
  unfold openSession
  split
  · trivial
  · next expiresAt hexpires =>
    intro s
    show Proc.Signs _ _ _ (if _ then _ else _)
    split
    · trivial
    · refine signs_transact ends_createSession fun entry hentry => ?_
      subst hentry
      exact ⟨rfl, fun _ => ⟨expiresAt, hexpires, rfl⟩⟩

theorem signs_handle (uuid : Nat → String) (i : Nat) (req : Request) :
    (handle uuid i req).Signs (fun j s => entriesOf j s.db) i fun _ => OnRecord uuid i req := by
  cases req with
  | suspendTenant actor ip tenantId justification failsAt =>
      refine signs_transact ends_transition fun entry hentry => ?_
      subst hentry
      exact ⟨rfl, fun _ => rfl⟩
  | resumeTenant actor ip tenantId justification failsAt =>
      refine signs_transact ends_transition fun entry hentry => ?_
      subst hentry
      exact ⟨rfl, fun _ => rfl⟩
  | createSession actor ip dto failsAt => exact signs_openSession
  | revokeSession actor ip sessionId failsAt =>
      refine signs_transact ends_revokeSession fun entry hentry => ?_
      obtain ⟨tenantId, rfl⟩ := hentry
      exact ⟨rfl, fun _ => ⟨tenantId, rfl⟩⟩
  | enter route request => exact Proc.signs_of_reads (commits_enter.map _) fun _ => rfl
  | logElsewhere name entry forTenant =>
      have happend : ∀ w, (logElsewhere i name entry forTenant w).platformAuditLogs =
          w.platformAuditLogs ++ [{ entry with id := some i, action := .elsewhere name }] :=
        fun _ => rfl
      exact signs_outside (fun w => (entriesOf_append (happend w) rfl).1)
        fun w => (entriesOf_append (happend w) rfl).2
  | setStoreDomains storeDomains =>
      have hsame : ∀ w j, entriesOf j { w with storeDomains } = entriesOf j w := fun _ _ => rfl
      exact signs_outside (fun w j _ => hsame w j) fun w hnil => (hsame w _).trans hnil
  | tick milliseconds =>
      have hsame : ∀ w j, entriesOf j { w with now := w.now + milliseconds } = entriesOf j w :=
        fun _ _ => rfl
      exact signs_outside (fun w j _ => hsame w j) fun w hnil => (hsame w _).trans hnil

theorem allSigned_of_reaches (hstart : ∀ entry ∈ w₀.platformAuditLogs, entry.id = none)
    (hrun : Reaches uuid ⟨⟨w₀, []⟩, []⟩ c) :
    AllSigned (fun j s => entriesOf j s.db) (fun i req _ => OnRecord uuid i req)
      (entriesOf none w₀) c := by
  refine allSigned_of_run (signs_handle uuid) (fun i => ?_) hrun
  refine List.filter_eq_nil_iff.mpr fun entry hentry => ?_
  rw [hstart entry hentry]
  exact of_decide_eq_false rfl

/-- A call that has been answered with a result has left exactly its entry in the log. Whatever
has come into the log is the entry of such a call: one that has failed has left none, and nor has
one that has not been answered. -/
theorem calls_on_record (hstart : ∀ entry ∈ w₀.platformAuditLogs, entry.id = none)
    (hrun : Reaches uuid ⟨⟨w₀, []⟩, []⟩ c) :
    (∀ i req reply, c.flights[i]? = some (req, .done (.ok reply)) →
      OnRecord uuid i req (entriesOf (some i) c.state.db)) ∧
    ∀ entry ∈ c.state.db.platformAuditLogs, entry ∈ w₀.platformAuditLogs ∨
      ∃ i req reply, entry.id = some i ∧ c.flights[i]? = some (req, .done (.ok reply)) := by
  have hsigned := allSigned_of_reaches hstart hrun
  refine ⟨fun i req reply hi => hsigned.answered hi, fun entry hentry => ?_⟩
  have hmem : entry ∈ entriesOf entry.id c.state.db :=
    List.mem_filter.mpr ⟨hentry, decide_eq_true rfl⟩
  cases hid : entry.id with
  | none =>
      rw [hid, hsigned.foreign] at hmem
      exact .inl (List.mem_filter.mp hmem).1
  | some i =>
      rw [hid] at hmem
      obtain ⟨req, reply, hi, -⟩ := hsigned.signer (List.ne_nil_of_mem hmem)
      exact .inr ⟨i, req, reply, rfl, hi⟩

/-- Of two revocations at once one is on record, with the opening of the session. -/
theorem calls_on_record_two : ∃ c : PlatformConfig,
    OnRecord exampleUuid 0 opening (entriesOf (some 0) c.state.db) ∧
      OnRecord exampleUuid 2 revoking (entriesOf (some 2) c.state.db) ∧
        ∀ entry ∈ c.state.db.platformAuditLogs, ∃ i req reply,
          entry.id = some i ∧ c.flights[i]? = some (req, .done (.ok reply)) := by
  obtain ⟨c, hrun, -, ⟨reply, hopening⟩, -, reply', hrevoking⟩ := exampleSchedule_reaches
  obtain ⟨hanswered, hentries⟩ := calls_on_record (fun _ hentry => by cases hentry) hrun
  refine ⟨c, hanswered _ _ _ hopening, hanswered _ _ _ hrevoking, fun entry hentry => ?_⟩
  obtain hstart | hcall := hentries entry hentry
  · cases hstart
  · exact hcall

end Calls

/-! ## Support access -/

section Access

variable {w w' : World} {route : Route} {request request' : Access.Request}
variable {permission : Permission} {user : AuthenticatedUser}

theorem find_supportSession : w.database.supportSessions.find? (·.id = id) =
    (w.supportSession id).map (·.toSupportSession) := by
  unfold World.database World.supportSession
  rw [List.find?_map]
  rfl

/-- The first guard leaves the request as it is, or gives it the context of the session that it
names. -/
theorem supportSession_found {db : Database} {now : Nat}
    (h : SupportSessionContextGuard.canActivate db now route request = .ok request') :
    request' = request ∨ ∃ user ∈ request.user, user.platformRole = some .superAdmin ∧
      ∃ session : Access.SupportSession, request.header supportSessionHeader = some session.id ∧
        db.supportSessions.find? (·.id = session.id) = some session ∧
          SupportSessionContextGuard.isUsable session user now = true ∧
            request' = { request with
              tenantContext := some (SupportSessionContextGuard.contextOf session) } := by
  unfold SupportSessionContextGuard.canActivate at h
  split at h
  · cases h
    exact .inl rfl
  · split at h
    · next sessionId user hheader huser =>
      split at h
      · cases h
        exact .inl rfl
      · next hadmin =>
        split at h
        · cases h
        · next session hfound =>
          split at h
          · next husable =>
            cases h
            have hid : session.id = sessionId := by simpa using List.find?_some hfound
            subst hid
            exact .inr ⟨user, huser, not_not.mp hadmin, session, truthy_some hheader, hfound,
              husable, rfl⟩
          · cases h
    · cases h
      exact .inl rfl

/-- The session lets its creator, who makes the request, into the tenant with the permission. -/
structure Admits (w : World) (request : Access.Request) (session : SupportSession)
    (tenantId : String) (permission : Permission) : Prop where
  named : request.header supportSessionHeader = some session.id
  stored : w.supportSession session.id = some session
  creator : ∃ user ∈ request.user, user.platformRole = some .superAdmin ∧
    session.createdByUserId = user.id
  revokedAt : session.revokedAt = none
  expiresAt : w.now < session.expiresAt
  tenant : session.tenantId = tenantId
  granted : permission.name ∈ session.grantedPermissions

/-- What the guards have let through has passed each of them, in states of the run since it came
in. -/
theorem guards_of_entered (hrun : Reaches uuid c c') (hi : c.flights.length ≤ i)
    (hp : c'.flights[i]? = some (.enter route request, .done (.ok (.entered request')))) :
    ∃ c₁ c₂ c₃ c₄ r, Reaches uuid c c₁ ∧ Reaches uuid c₁ c₂ ∧ Reaches uuid c₂ c₃ ∧
      Reaches uuid c₃ c₄ ∧ Reaches uuid c₄ c' ∧
        SupportSessionContextGuard.canActivate c₁.state.db.database c₂.state.db.now route request =
          .ok r ∧
        TenantContextGuard.canActivate c₃.state.db.database route r = .ok request' ∧
        TenantLifecycleGuard.canActivate c₄.state.db route request' = .ok () ∧
        PermissionsGuard.canActivate route request' = .ok () := by
  have hreads : ∀ i req, (∃ route request, req = .enter route request) →
      (handle uuid i req).Commits fun _ _ => False := by
    rintro i req ⟨route, request, rfl⟩
    exact commits_enter.map _
  obtain ⟨b, hb, hanswers⟩ := answersAlong_of_run _ hreads hrun hi hp ⟨route, request, rfl⟩
  change AnswersAlong (handle uuid) _ _
    (enter route request >>= fun r => pure (Reply.entered r)) b _ c' at hanswers
  obtain ⟨r', d, henter, hentered, hlast⟩ := hanswers.of_bind
  cases hentered
  unfold enter at henter
  obtain ⟨db, b₁, ⟨c₁, h₁, hdb, hb₁⟩, hrest⟩ := henter.of_bind
  obtain ⟨r₁, b₂, ⟨c₂, h₂, hfirst, hb₂⟩, hrest⟩ := hrest.of_bind
  obtain ⟨r₂, b₃, ⟨c₃, h₃, hsecond, hb₃⟩, hrest⟩ := hrest.of_bind
  obtain ⟨_, b₄, ⟨c₄, h₄, hthird, hb₄⟩, hrest⟩ := hrest.of_bind
  obtain ⟨_, b₅, ⟨c₅, h₅, hfourth, hb₅⟩, hend, hd⟩ := hrest.of_bind
  cases hdb
  cases hend
  exact ⟨c₁, c₂, c₃, c₄, r₁, hb.trans h₁, hb₁.trans h₂, hb₂.trans h₃, hb₃.trans h₄,
    ((hb₄.trans h₅).trans (hb₅.trans hd)).trans hlast, hfirst, hsecond, hthird, hfourth⟩

/-- A route with a permission lets nobody pass without a tenant. -/
theorem route_hasTenant {db db' : Database} {now : Nat} {r : Access.Request}
    (hinit : request.tenantContext = none)
    (hrequired : route.requirePermission.getAllAndOverride = some permission)
    (hfirst : SupportSessionContextGuard.canActivate db now route request = .ok r)
    (hsecond : TenantContextGuard.canActivate db' route r = .ok request')
    (hthird : PermissionsGuard.canActivate route request' = .ok ()) :
    route.withoutTenant = false := by
  by_contra hroute
  have hroute : route.withoutTenant = true := by simpa using hroute
  have hfirst' : SupportSessionContextGuard.canActivate db now route request = .ok request :=
    if_pos hroute
  cases hfirst.symm.trans hfirst'
  have hsecond' : TenantContextGuard.canActivate db' route request = .ok request := by
    unfold TenantContextGuard.canActivate
    rw [hinit, hroute]
    rfl
  cases hsecond.symm.trans hsecond'
  obtain ⟨context, hcontext, -⟩ := permissions_ok hrequired hthird
  rw [hinit] at hcontext
  cases hcontext

theorem not_suspended {context : TenantContext} (hroute : route.withoutTenant = false)
    (hcontext : request.tenantContext = some context) (hid : context.tenantId ≠ "")
    (h : TenantLifecycleGuard.canActivate w route request = .ok ()) :
    statusOf w context.tenantId ≠ some .suspended := by
  intro hsuspended
  have htenant : truthy (request.tenantContext.map (·.tenantId)) = some context.tenantId := by
    rw [hcontext, Option.map_some]
    exact Option.filter_eq_some_iff.mpr ⟨rfl, by simpa using hid⟩
  rw [statusOf] at hsuspended
  unfold TenantLifecycleGuard.canActivate assertTenantActive at h
  rw [if_neg (by rw [hroute]; exact Bool.false_ne_true), htenant] at h
  dsimp only at h
  rw [if_pos hsuspended] at h
  cases h

/-- Whoever has entered a tenant is a member with the permission, or has entered by a session of
their own, which at some time of the run was open, was for that tenant and that permission, and
had nothing in the log about it but that it had been opened, unless it is older than the run. And
there was a time of the run at which the tenant was not suspended. -/
theorem entry_on_record (hrun : Reaches uuid ⟨⟨w₀, []⟩, []⟩ c)
    (hi : c.flights[i]? = some (.enter route request, .done (.ok (.entered request'))))
    (hinit : request.tenantContext = none)
    (hrequired : route.requirePermission.getAllAndOverride = some permission) :
    ∃ context, request'.tenantContext = some context ∧
      (context.tenantId ≠ "" → ∃ b, Reaches uuid ⟨⟨w₀, []⟩, []⟩ b ∧ Reaches uuid b c ∧
        statusOf b.state.db context.tenantId ≠ some .suspended) ∧
      (ByMembership request context.tenantId permission ∨
        ∃ b session, Reaches uuid ⟨⟨w₀, []⟩, []⟩ b ∧ Reaches uuid b c ∧
          Admits b.state.db request session context.tenantId permission ∧
            (w₀.supportSession session.id = none → ∃ written created,
              b.state.db.platformAuditLogs = w₀.platformAuditLogs ++ written ∧
                Opens created session ∧
                  sessionMachine.entries session.id written = [created])) := by
  obtain ⟨c₁, c₂, c₃, c₄, r, hstart₁, h₂, h₃, h₄, hend₄, hfirst, hsecond, hthird, hfourth⟩ :=
    guards_of_entered hrun (Nat.zero_le i) hi
  have hroute := route_hasTenant hinit hrequired hfirst hsecond hfourth
  obtain ⟨context, hcontext, hpermission⟩ := permissions_ok hrequired hfourth
  refine ⟨context, hcontext, fun hid => ⟨c₄, ((hstart₁.trans h₂).trans h₃).trans h₄, hend₄,
    not_suspended hroute hcontext hid hthird⟩, ?_⟩
  obtain rfl | ⟨user, huser, hadmin, found, hheader, hfound, husable, rfl⟩ :=
    supportSession_found hfirst
  · -- no support session: the context, if any, is of a membership
    obtain rfl | ⟨-, context', hmember, rfl⟩ := tenantContext_ok hsecond
    · rw [hinit] at hcontext
      cases hcontext
    · cases hcontext
      obtain ⟨hsource, user, huser, m, hm, htenant, hmembership⟩ := hmember
      obtain ⟨hsession, -⟩ | ⟨-, role, hrole, hcan⟩ := hpermission
      · exact absurd hsession hsource
      · rw [hmembership] at hrole
        cases hrole
        exact .inl ⟨user, huser, m, hm, htenant, hcan⟩
  · -- a support session: the second guard does not touch its context
    obtain rfl | ⟨hnone, -⟩ := tenantContext_ok hsecond
    · cases hcontext
      obtain ⟨-, s, hs, hgranted⟩ | ⟨hsource, -⟩ := hpermission
      · cases hs
        rw [find_supportSession] at hfound
        obtain ⟨session, hsession, rfl⟩ := Option.map_eq_some_iff.mp hfound
        simp only [SupportSessionContextGuard.isUsable, Bool.and_eq_true, decide_eq_true_eq]
          at husable
        obtain ⟨⟨hcreator, hopen⟩, hexpires⟩ := husable
        have hnow : c₁.state.db.now ≤ c₂.state.db.now := (onward_of_reaches hstart₁ h₂).now
        refine .inr ⟨c₁, session, hstart₁, (((h₂.trans h₃).trans h₄).trans hend₄),
          ⟨hheader, hsession, ⟨user, huser, hadmin, hcreator⟩, hopen,
            Nat.lt_of_le_of_lt hnow hexpires, rfl, hgranted⟩, fun hnew => ?_⟩
        obtain ⟨written, told, hrecorded, hsessions⟩ := log_explains .refl hstart₁
        obtain ⟨created, hcreated, ⟨-, hentries⟩ | ⟨revoked, hcloses, -⟩⟩ :=
          hsessions _ session hnew hsession
        · exact ⟨written, created, hrecorded.platform, hcreated, hentries⟩
        · exact absurd hopen hcloses.revoked
      · exact absurd rfl hsource
    · cases hnone

/-- The administrator who has opened the session enters by it. -/
theorem entry_on_record_once : ∃ (c : PlatformConfig) (request' : Access.Request)
    (context : TenantContext), c.flights[1]? = some (entering, .done (.ok (.entered request'))) ∧
      request'.tenantContext = some context ∧
      (ByMembership supportRequest context.tenantId .ordersRead ∨ ∃ b session,
        Admits b.state.db supportRequest session context.tenantId .ordersRead ∧
          Reaches exampleUuid b c) := by
  obtain ⟨c, hrun, -, -, ⟨request', hentering⟩, -⟩ := exampleSchedule_reaches
  obtain ⟨context, hcontext, -, hmember | ⟨b, session, -, hafter, hadmits, -⟩⟩ :=
    entry_on_record hrun hentering rfl rfl
  · exact ⟨c, request', context, hentering, hcontext, .inl hmember⟩
  · exact ⟨c, request', context, hentering, hcontext, .inr ⟨b, session, hadmits, hafter⟩⟩

/-- A session that has been revoked, or has expired, is refused by the guard ever after. -/
theorem closed_refused (hw : Onward w w') {now : Nat} (hnow : w.now ≤ now)
    (hsession : w.supportSession id = some session)
    (hclosed : session.revokedAt ≠ none ∨ session.expiresAt ≤ w.now)
    (hroute : route.withoutTenant = false)
    (hheader : truthy (request.header supportSessionHeader) = some id)
    (huser : request.user = some user) (hadmin : user.platformRole = some .superAdmin) :
    SupportSessionContextGuard.canActivate w'.database now route request =
      .error (.forbidden "Invalid support session") := by
  obtain ⟨session', hsession', hcontinues⟩ := hw.sessions id session hsession
  have hunusable :
      SupportSessionContextGuard.isUsable session'.toSupportSession user now = false := by
    obtain hrevoked | hexpired := hclosed
    · have hstill : session'.revokedAt ≠ none := by
        obtain rfl | ⟨hnone, -⟩ := hcontinues
        · exact hrevoked
        · exact absurd hnone hrevoked
      simp [SupportSessionContextGuard.isUsable, hstill]
    · have hsame : session'.expiresAt = session.expiresAt := by
        obtain rfl | ⟨-, _, _, rfl⟩ := hcontinues
        · rfl
        · rfl
      have hlate : ¬ now < session'.expiresAt := by omega
      simp [SupportSessionContextGuard.isUsable, hlate]
  unfold SupportSessionContextGuard.canActivate
  rw [hroute, hheader, huser]
  simp [hadmin, find_supportSession, hsession', hunusable]

/-- Once a session has been revoked or has expired, no later request of a platform administrator
that names it gets into any tenant. -/
theorem closed_session_lets_nobody_in {r : Except HttpError Reply}
    (hrun : Reaches uuid ⟨⟨w₀, []⟩, []⟩ c) (hsession : c.state.db.supportSession id = some session)
    (hclosed : session.revokedAt ≠ none ∨ session.expiresAt ≤ c.state.db.now)
    (hafter : Reaches uuid c c') (hi : c.flights.length ≤ i)
    (hp : c'.flights[i]? = some (.enter route request, .done r))
    (hroute : route.withoutTenant = false)
    (hheader : truthy (request.header supportSessionHeader) = some id)
    (huser : request.user = some user) (hadmin : user.platformRole = some .superAdmin) :
    r = .error (.forbidden "Invalid support session") := by
  have hserve : ∀ i req, req = .enter route request →
      (handle uuid i req).ReadsOnly (fun s => Onward c.state.db s.db)
        (· = .error (.forbidden "Invalid support session")) := by
    rintro i req rfl s hs s' hs'
    have hrefused := closed_refused hs hs'.now hsession hclosed hroute hheader huser hadmin
    show Proc.ReadsOnly _ _ (Proc.finish (Proc.finish (.done
      (SupportSessionContextGuard.canActivate s.db.database s'.db.now route request)) _) _)
    rw [hrefused]
    exact rfl
  have hreads := readsOnly_of_run (· = .enter route request)
    (fun _ r => r = .error (.forbidden "Invalid support session"))
    (fun b hb => onward_of_reaches hrun hb) hserve hafter hi hp rfl
  exact hreads

/-- The administrator who has opened the session tries again after it has been revoked. -/
theorem closed_session_lets_nobody_in_again : ∃ (c' : PlatformConfig) (r : Except HttpError Reply),
    c'.flights[4]? = some (entering, .done r) ∧
      r = .error (.forbidden "Invalid support session") := by
  have hcalls : (exec (handle exampleUuid) (fun _ _ => True) (fun a s => Unblocked a s)
      exampleSchedule exampleCalls).any (fun c =>
        decide (c.flights.length = 4) &&
        (c.state.db.supportSession "s0").any (fun session => decide (session.revokedAt ≠ none)) &&
        (exec (handle exampleUuid) (fun _ _ => True) (fun a s => Unblocked a s)
          [.accept entering, .advance 4, .advance 4] c).any fun c' => (c'.answer 4).isSome) =
        true := by
    decide +kernel
  obtain ⟨c, hexec, h⟩ := (Option.any_eq_true ..).mp hcalls
  simp only [Bool.and_eq_true, decide_eq_true_eq] at h
  obtain ⟨⟨hlength, hrevoked⟩, hlater⟩ := h
  obtain ⟨session, hsession, hrevoked⟩ := (Option.any_eq_true ..).mp hrevoked
  obtain ⟨c', hexec', hanswered⟩ := (Option.any_eq_true ..).mp hlater
  obtain ⟨⟨req, r⟩, hanswer⟩ := Option.isSome_iff_exists.mp hanswered
  have hflight := Config.flight_of_answer hanswer
  obtain ⟨p, hp⟩ := accepted_later hexec'
  rw [hlength] at hp
  cases hflight.symm.trans hp
  have hheader : truthy (supportRequest.header supportSessionHeader) = some "s0" := rfl
  exact ⟨c', r, hflight, closed_session_lets_nobody_in
    (exampleCalls_reached.trans (exec_run hexec)) hsession (.inl (of_decide_eq_true hrevoked))
    (exec_run hexec') hlength.le hflight rfl hheader rfl rfl⟩

/-- Of a tenant that is suspended nothing can be said next but that it has been resumed. -/
theorem apply_suspended {status : Option TenantStatus}
    (h : tenantMachine.apply (some .suspended) entry = some status) :
    entry.action = .tenantResume := by
  simp only [tenantMachine] at h
  split at h
  · rw [if_neg (by decide)] at h
    cases h
  · next haction _ => exact haction
  · cases h

/-- Where no resumption has been written down, a tenant that was suspended is so still. -/
theorem Recorded.suspended {written : List PlatformAuditLog} {told : List TenantAuditLog}
    {tenantId : String} (h : Recorded w w' written told)
    (hsuspended : statusOf w tenantId = some .suspended)
    (hnone : ∀ entry ∈ written, entry.action = .tenantResume → entry.targetId ≠ tenantId) :
    statusOf w' tenantId = some .suspended := by
  have hreplay := h.tenants tenantId
  rw [hsuspended] at hreplay
  cases hentries : tenantMachine.entries tenantId written with
  | nil =>
      rw [hentries] at hreplay
      exact (Option.some.inj hreplay).symm
  | cons entry rest =>
      rw [hentries] at hreplay
      obtain ⟨status, happly, -⟩ := Option.bind_eq_some_iff.mp hreplay
      have hresumed := apply_suspended happly
      have hmem : entry ∈ tenantMachine.entries tenantId written := by
        rw [hentries]
        exact List.mem_cons_self
      obtain ⟨hwritten, habout⟩ := List.mem_filter.mp hmem
      have htarget : tenantMachine.about entry = some entry.targetId := by
        simp only [tenantMachine, hresumed]
      rw [htarget, decide_eq_true_eq] at habout
      exact absurd (Option.some.inj habout) (hnone entry hwritten hresumed)

/-- From when a tenant has been suspended until the log says that it has been resumed, no request
that comes in gets into it, neither by a membership nor by a support session. -/
theorem suspended_tenant_is_closed {tenantId : String} {context : TenantContext}
    (hrun : Reaches uuid ⟨⟨w₀, []⟩, []⟩ c)
    (hsuspended : statusOf c.state.db tenantId = some .suspended) (hafter : Reaches uuid c c')
    (hnone : ∀ entry ∈ c'.state.db.platformAuditLogs.drop c.state.db.platformAuditLogs.length,
      entry.action = .tenantResume → entry.targetId ≠ tenantId)
    (hi : c.flights.length ≤ i)
    (hp : c'.flights[i]? = some (.enter route request, .done (.ok (.entered request'))))
    (hroute : route.withoutTenant = false) (hid : tenantId ≠ "")
    (hcontext : request'.tenantContext = some context) : context.tenantId ≠ tenantId := by
  obtain ⟨c₁, c₂, c₃, c₄, r, h₁, h₂, h₃, h₄, hend, -, -, hthird, -⟩ :=
    guards_of_entered hafter hi hp
  have hbefore : Reaches uuid c c₄ := ((h₁.trans h₂).trans h₃).trans h₄
  obtain ⟨written, told, hrecorded⟩ := (onward_of_reaches hrun hbefore).recorded
  obtain ⟨written', told', hrecorded'⟩ :=
    (onward_of_reaches (hrun.trans hbefore) hend).recorded
  have hdrop : c'.state.db.platformAuditLogs.drop c.state.db.platformAuditLogs.length =
      written ++ written' := by
    rw [hrecorded'.platform, hrecorded.platform, List.append_assoc, List.drop_left]
  have hstill : statusOf c₄.state.db tenantId = some .suspended := by
    refine hrecorded.suspended hsuspended fun entry hentry => hnone entry ?_
    rw [hdrop]
    exact List.mem_append_left written' hentry
  rintro rfl
  exact not_suspended hroute hcontext hid hthird hstill

def suspending : Request := .suspendTenant "u1" "ip" "t1" "unpaid" none

/-- A request of the same administrator, who is a member of two tenants, for the other one. -/
def otherTenant : Request :=
  .enter exampleRoute (exampleRequest.setHeader activeTenantHeader (.single "t3"))

/-- One tenant is suspended, and the other is entered. -/
theorem suspended_tenant_is_closed_other : ∃ (c' : PlatformConfig) (request' : Access.Request)
    (context : TenantContext),
    c'.flights[1]? = some (otherTenant, .done (.ok (.entered request'))) ∧
      request'.tenantContext = some context ∧ context.tenantId ≠ "t1" := by
  have hcalls : (exec (handle exampleUuid) (fun _ _ => True) (fun a s => Unblocked a s)
      (.accept suspending :: List.replicate 7 (.advance 0)) ⟨⟨exampleWorld, []⟩, []⟩).any (fun c =>
        decide (c.flights.length = 1) &&
        decide (statusOf c.state.db "t1" = some .suspended) &&
        (exec (handle exampleUuid) (fun _ _ => True) (fun a s => Unblocked a s)
          (.accept otherTenant :: List.replicate 5 (.advance 1)) c).any fun c' =>
            (c'.answer 1).any (fun a => a.2.toOption.any fun reply => reply.tenantContext.isSome) &&
            decide (c'.state.db.platformAuditLogs.length = c.state.db.platformAuditLogs.length)) =
        true := by
    decide +kernel
  obtain ⟨c, hexec, h⟩ := (Option.any_eq_true ..).mp hcalls
  simp only [Bool.and_eq_true, decide_eq_true_eq] at h
  obtain ⟨⟨hlength, hsuspended⟩, hlater⟩ := h
  obtain ⟨c', hexec', h⟩ := (Option.any_eq_true ..).mp hlater
  simp only [Bool.and_eq_true, decide_eq_true_eq] at h
  obtain ⟨hanswered, hlog⟩ := h
  obtain ⟨reply, hflight, hcontext⟩ :=
    answered_ok (hlength ▸ accepted_later hexec') hanswered
  have hnone : c'.state.db.platformAuditLogs.drop c.state.db.platformAuditLogs.length = [] :=
    List.drop_eq_nil_of_le hlog.le
  cases reply with
  | entered request' =>
      obtain ⟨context, hcontext⟩ := Option.isSome_iff_exists.mp hcontext
      refine ⟨c', request', context, hflight, hcontext, suspended_tenant_is_closed
        (exec_run hexec) hsuspended (exec_run hexec') ?_ hlength.le hflight rfl (by decide)
        hcontext⟩
      rw [hnone]
      exact fun _ hentry => by cases hentry
  | tenant t => cases hcontext
  | session view => cases hcontext
  | done => cases hcontext

end Access

/-! ## Concurrent revocations -/

theorem replay_revocation_last (h : sessionMachine.replay state entries = some state')
    (hmem : entry ∈ entries) (haction : entry.action = .supportSessionRevoke) :
    entries.getLast? = some entry := by
  induction entries generalizing state with
  | nil => cases hmem
  | cons first rest ih =>
      obtain ⟨next, hfirst, hrest⟩ := replay_cons h
      obtain rfl | hlater := List.mem_cons.mp hmem
      · cases state with
        | none =>
            obtain ⟨-, -, -, hcreate, -⟩ := apply_none hfirst
            rw [haction] at hcreate
            cases hcreate
        | some grant =>
            obtain ⟨-, -, -, rfl⟩ := apply_some hfirst
            obtain rfl := replay_revoked hrest
            rfl
      · rw [List.getLast?_cons, ih hrest hlater]
        rfl

/-- However many calls to revoke a session there are, and whoever makes them, at most one of them
succeeds. -/
theorem one_revocation {j : Nat} {actor ip actor' ip' : String} {failsAt failsAt' : Option Nat}
    {reply reply' : Reply} (hstart : ∀ entry ∈ w₀.platformAuditLogs, entry.id = none)
    (hrun : Reaches uuid ⟨⟨w₀, []⟩, []⟩ c)
    (hi : c.flights[i]? = some (.revokeSession actor ip id failsAt, .done (.ok reply)))
    (hj : c.flights[j]? = some (.revokeSession actor' ip' id failsAt', .done (.ok reply'))) :
    i = j := by
  have hsigned := allSigned_of_reaches hstart hrun
  obtain ⟨written, told, hrecorded, -⟩ := log_explains .refl hrun
  have hlast : ∀ k actor ip tenantId,
      entriesOf (some k) c.state.db = [revokeEntry k actor ip id tenantId] →
        (sessionMachine.entries id written).getLast? =
          some (revokeEntry k actor ip id tenantId) := by
    intro k actor ip tenantId hentries
    have hmem : revokeEntry k actor ip id tenantId ∈ entriesOf (some k) c.state.db := by
      rw [hentries]
      exact List.mem_singleton_self _
    have hlogged := (List.mem_filter.mp hmem).1
    rw [hrecorded.platform] at hlogged
    refine replay_revocation_last (hrecorded.sessions id) ?_ rfl
    obtain hbefore | hwritten := List.mem_append.mp hlogged
    · cases hstart _ hbefore
    · exact List.mem_filter.mpr ⟨hwritten, decide_eq_true rfl⟩
  obtain ⟨tenantId, hentries⟩ := hsigned.answered hi
  obtain ⟨tenantId', hentries'⟩ := hsigned.answered hj
  have hsame : revokeEntry i actor ip id tenantId = revokeEntry j actor' ip' id tenantId' :=
    Option.some.inj ((hlast i _ _ _ hentries).symm.trans (hlast j _ _ _ hentries'))
  exact Option.some.inj (congrArg PlatformAuditLog.id hsame)

/-- Of two revocations at once the one that was first succeeds. -/
theorem one_revocation_first : ∃ (c : PlatformConfig) (reply : Reply),
    c.flights[2]? = some (revoking, .done (.ok reply)) ∧
      ∀ j reply', c.flights[j]? = some (revoking, .done (.ok reply')) → 2 = j := by
  obtain ⟨c, hrun, -, -, -, reply, hrevoking⟩ := exampleSchedule_reaches
  exact ⟨c, reply, hrevoking, fun j reply' hj =>
    one_revocation (fun _ hentry => by cases hentry) hrun hrevoking hj⟩

end PrintForge.ControlPlane
