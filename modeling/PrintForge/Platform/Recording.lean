import PrintForge.Platform.OnRecord

/-!
# Every change is recorded

Each transaction of the control plane commits what its entries explain, and touches no row that
another transaction has locked. What other services write down is about no tenant's status and no
session.
-/

namespace PrintForge.ControlPlane

open Relational Concurrent Access

variable {w w' : World} {i : Nat} {s s' : Locked World Key} {pending : Tx World HttpError Unit}
variable {call : Nat} {id tenantId sessionId actor ip : String} {source target : TenantStatus}

/-! ## Rows -/

theorem tenant_setStatus : (setStatus tenantId source target w).tenant id =
    (w.tenant id).map fun t =>
      if t.id = tenantId ∧ t.status = source then { t with status := target } else t := by
  unfold World.tenant setStatus
  rw [List.find?_map]
  congr 2
  funext t
  simp only [Function.comp_apply]
  split <;> rfl

theorem supportSession_setRevoked {now : Nat} :
    (setRevoked sessionId actor now w).supportSession id = (w.supportSession id).map fun session =>
      if session.id = sessionId ∧ session.revokedAt = none then
        { session with revokedAt := some now, revokedByUserId := some actor }
      else
        session := by
  unfold World.supportSession setRevoked
  rw [List.find?_map]
  congr 2
  funext session
  simp only [Function.comp_apply]
  split <;> rfl

theorem tenant_id {t : Tenant} (h : w.tenant id = some t) : t.id = id := by
  simpa using List.find?_some h

theorem supportSession_id {session : SupportSession} (h : w.supportSession id = some session) :
    session.id = id := by
  simpa using List.find?_some h

theorem supportSession_insert {session : SupportSession}
    (h : w.supportSession session.id = none) :
    World.supportSession { w with supportSessions := w.supportSessions ++ [session] } id =
      if session.id = id then some session else w.supportSession id := by
  unfold World.supportSession at h ⊢
  rw [List.find?_append]
  by_cases hid : session.id = id
  · subst hid
    rw [h, if_pos rfl, Option.none_or]
    exact List.find?_cons_of_pos (decide_eq_true rfl)
  · rw [if_neg hid, List.find?_cons_of_neg (by simpa using hid), List.find?_nil, Option.or_none]

/-- Another tenant's row is left alone. -/
theorem tenant_setStatus_of_ne (h : id ≠ tenantId) :
    (setStatus tenantId source target w).tenant id = w.tenant id := by
  rw [tenant_setStatus]
  cases ht : w.tenant id with
  | none => rfl
  | some t => rw [Option.map_some, if_neg fun hself => h ((tenant_id ht).symm.trans hself.1)]

theorem statusOf_setStatus (h : statusOf w tenantId = some source) :
    statusOf (setStatus tenantId source target w) tenantId = some target := by
  obtain ⟨t, ht, hstatus⟩ := Option.map_eq_some_iff.mp h
  rw [statusOf, tenant_setStatus, ht, Option.map_some, if_pos ⟨tenant_id ht, hstatus⟩]
  rfl

/-! ## Records -/

/-- A transaction's end: a tenant in its new status, with the entry that says so. -/
def afterTransition (tenantId : String) (source target : TenantStatus) (entry : PlatformAuditLog)
    (w : World) : World :=
  { setStatus tenantId source target w with platformAuditLogs := w.platformAuditLogs ++ [entry] }

theorem recorded_transition {entry : PlatformAuditLog} (hstatus : statusOf w tenantId = some source)
    (habout : tenantMachine.about entry = some tenantId)
    (happly : tenantMachine.apply (some source) entry = some (some target))
    (hsession : entry.action.ofSession = false) (hunrelated : sessionMachine.about entry = none) :
    Recorded w (afterTransition tenantId source target entry w) [entry] [] where
  platform := rfl
  tenant := (List.append_nil _).symm
  tenants := by
    refine Machine.explains_entry habout ?_ fun j hj => ?_
    · rw [hstatus, happly]
      exact congrArg some (statusOf_setStatus hstatus).symm
    · exact congrArg (Option.map (·.status)) (tenant_setStatus_of_ne hj)
  sessions := Machine.explains_unrelated fun e he => by
    rw [List.mem_singleton.mp he]
    exact hunrelated
  mirrored := by
    rw [List.filter_cons_of_neg (by rw [hsession]; exact Bool.false_ne_true), List.filter_nil]
    exact .nil

/-- A transaction's end: a change of the sessions, with its entries in both logs. -/
def afterSession (entry : PlatformAuditLog) (tenantId : String)
    (sessions : List SupportSession) (w : World) : World :=
  { w with
    supportSessions := sessions
    platformAuditLogs := w.platformAuditLogs ++ [entry]
    tenantAuditLogs := w.tenantAuditLogs ++ [tenantEntry tenantId entry] }

theorem recorded_session {entry : PlatformAuditLog} {sessions : List SupportSession}
    (htenant : entry.tenantId = some tenantId) (haction : entry.action.ofSession = true)
    (habout : sessionMachine.about entry = some sessionId)
    (hunrelated : tenantMachine.about entry = none)
    (happly : sessionMachine.apply (grantOf w sessionId) entry =
      some (grantOf { w with supportSessions := sessions } sessionId))
    (hothers : ∀ j, j ≠ sessionId →
      World.supportSession { w with supportSessions := sessions } j = w.supportSession j) :
    Recorded w (afterSession entry tenantId sessions w) [entry] [tenantEntry tenantId entry] where
  platform := rfl
  tenant := rfl
  tenants := Machine.explains_unrelated fun e he => by
    rw [List.mem_singleton.mp he]
    exact hunrelated
  sessions := Machine.explains_entry habout happly fun j hj =>
    congrArg (Option.map SupportSession.grant) (hothers j hj)
  mirrored := by
    have htold : (tenantEntry tenantId entry).action.ofSession = true := haction
    have hkept : [entry].filter (·.action.ofSession) = [entry] := List.filter_cons_of_pos haction
    have htoldKept : [tenantEntry tenantId entry].filter (·.action.ofSession) =
        [tenantEntry tenantId entry] := List.filter_cons_of_pos htold
    rw [hkept, htoldKept]
    exact .cons ⟨tenantId, htenant, rfl⟩ .nil

theorem recorded_elsewhere {name : String} {entry : PlatformAuditLog}
    {forTenant : Option TenantAuditLog} : ∃ written told,
      Recorded w (logElsewhere call name entry forTenant w) written told := by
  refine ⟨_, _, rfl, rfl, ?_, ?_, ?_⟩
  · exact Machine.explains_unrelated fun e he => by
      rw [List.mem_singleton.mp he]
      rfl
  · exact Machine.explains_unrelated fun e he => by
      rw [List.mem_singleton.mp he]
      rfl
  · rw [List.filter_cons_of_neg Bool.false_ne_true]
    cases forTenant with
    | none => exact .nil
    | some e =>
        rw [Option.toList_some, List.map_cons, List.filter_cons_of_neg Bool.false_ne_true]
        exact .nil

/-! ## Statements -/

/-- The row that is locked still is as it was when it was looked at, and what has been written
since is known. -/
structure Changed (i : Nat) (key : Key) (qualifies : World → Bool) (change : World → World)
    (pending : Tx World HttpError Unit) (s : Locked World Key) : Prop where
  holds : s.Holds i key
  qualifies : qualifies s.db = true
  written : ∀ w w', pending w = .ok ((), w') → w' = change w

section Changed

variable {key : Key} {qualifies : World → Bool} {change more : World → World}

theorem Changed.later (h : Changed i key qualifies change pending s)
    (hkept : ∀ w w', Same key w w' → qualifies w = true → qualifies w' = true)
    (hrely : protocol.discipline.rely i s s') : Changed i key qualifies change pending s' := by
  obtain ⟨hholds, hsame⟩ := hrely.1 key h.holds
  exact ⟨hholds, hkept _ _ hsame h.qualifies, h.written⟩

theorem Changed.write {tx : Tx World HttpError Unit}
    (h : Changed i key qualifies change pending s)
    (htx : ∀ w, tx (change w) = .ok ((), more w)) :
    Changed i key qualifies more (do pending; discard tx) s := by
  refine ⟨h.holds, h.qualifies, fun w w' hw => ?_⟩
  obtain ⟨w₁, u, hfirst, hsecond⟩ := Tx.discard_ok.mp hw
  rw [h.written w w₁ hfirst, htx] at hsecond
  exact (congrArg Prod.snd (Except.ok.inj hsecond)).symm

/-- An update that has found its row has locked it, and the row is as it was looked for. What was
known before and stays so is known still. -/
theorem sound_updateRow {K : World → Prop}
    (hkept : ∀ w w', Same key w w' → qualifies w = true → qualifies w' = true)
    (hK : ∀ w w', Onward w w' → K w → K w') (hs : K s.db) :
    protocol.Sound i (fun n pending s => n = 1 → Changed i key qualifies change pending s ∧ K s.db)
      (updateRow key qualifies change) (pure ()) s := by
  unfold updateRow
  refine Protocol.sound_read fun s₁ hrely₁ _ => ?_
  split
  · refine Protocol.sound_lock fun s₂ hrely₂ _ _ => ?_
    split
    · next hstill =>
      refine Protocol.sound_exec fun s₃ _ _ hrely₃ _ _ => ?_
      refine Protocol.sound_pure fun s₄ hrely₄ _ _ => ?_
      have hlocked := protocol.discipline.rely_trans hrely₃ hrely₄
      obtain ⟨hholds, hsame⟩ := hlocked.1 key Locked.holds_acquire
      refine ⟨⟨hholds, hkept _ _ hsame hstill, fun w w' hw => ?_⟩, ?_⟩
      · cases hw
        rfl
      · exact hK _ _ ((hrely₁.2.trans hrely₂.2).trans hlocked.2) hs
    · exact Protocol.sound_pure fun _ _ _ hone => absurd hone Nat.zero_ne_one
  · exact Protocol.sound_pure fun _ _ _ hone => absurd hone Nat.zero_ne_one

end Changed

/-! ## Transactions -/

theorem qualifies_tenant {w w' : World} (h : Same (.tenant tenantId) w w')
    (hw : (w.tenant tenantId).any (·.status = source) = true) :
    (w'.tenant tenantId).any (·.status = source) = true := by
  rw [show w'.tenant tenantId = w.tenant tenantId from h]
  exact hw

theorem statusOf_of_qualifies (h : (w.tenant tenantId).any (·.status = source) = true) :
    statusOf w tenantId = some source := by
  obtain ⟨t, ht, hstatus⟩ := (Option.any_eq_true ..).mp h
  rw [statusOf, ht]
  exact congrArg some (of_decide_eq_true hstatus)

theorem sound_transition {action : AuditAction} {justification : String} :
    protocol.Sound i (fun _ pending s => Changed i (.tenant tenantId)
        (fun w => (w.tenant tenantId).any (·.status = source))
        (afterTransition tenantId source target
          (transitionEntry call actor ip tenantId source target action justification)) pending s)
      (transitionTenantStatus call actor ip tenantId source target action justification)
      (pure ()) s := by
  unfold transitionTenantStatus
  refine Protocol.sound_read fun s₁ _ hinv => ?_
  split
  · exact Protocol.sound_throw _
  · split
    · exact Protocol.sound_throw _
    · refine (sound_updateRow (K := fun _ => True) (fun _ _ => qualifies_tenant)
        (fun _ _ _ h => h) trivial).bind hinv fun n pending s₂ _ hchanged => ?_
      split
      · exact Protocol.sound_throw _
      · next hone =>
        refine Protocol.sound_exec fun s₃ _ _ hrely _ _ => ?_
        refine Protocol.sound_read fun s₄ hrely' _ => ?_
        split
        · exact Protocol.sound_throw _
        · refine Protocol.sound_pure fun s₅ hrely'' _ => ?_
          have hlast := protocol.discipline.rely_trans hrely
            (protocol.discipline.rely_trans hrely' hrely'')
          exact ((hchanged (not_not.mp hone)).1.later (fun _ _ => qualifies_tenant) hlast).write
            fun _ => rfl

/-- A session as it was read, but for its revocation. -/
def HasTenant (sessionId tenantId : String) (w : World) : Prop :=
  ∃ session, w.supportSession sessionId = some session ∧ session.tenantId = tenantId

theorem HasTenant.later (h : HasTenant sessionId tenantId w) (hw : Onward w w') :
    HasTenant sessionId tenantId w' := by
  obtain ⟨session, hsession, htenant⟩ := h
  obtain ⟨session', hsession', hcontinues⟩ := hw.sessions sessionId session hsession
  refine ⟨session', hsession', ?_⟩
  obtain rfl | ⟨-, now, actor, rfl⟩ := hcontinues
  · exact htenant
  · exact htenant

theorem qualifies_session {w w' : World} (h : Same (.supportSession sessionId) w w')
    (hw : (w.supportSession sessionId).any (·.revokedAt = none) = true) :
    (w'.supportSession sessionId).any (·.revokedAt = none) = true := by
  obtain ⟨session, hsession, hnone⟩ := (Option.any_eq_true ..).mp hw
  rw [h session hsession]
  exact hnone

theorem sound_revokeSession :
    protocol.Sound i (fun _ pending s => ∃ now tenantId, HasTenant sessionId tenantId s.db ∧
        Changed i (.supportSession sessionId)
          (fun w => (w.supportSession sessionId).any (·.revokedAt = none))
          (fun w => afterSession (revokeEntry call actor ip sessionId tenantId) tenantId
            (setRevoked sessionId actor now w).supportSessions w) pending s)
      (revokeSession call actor ip sessionId) (pure ()) s := by
  unfold revokeSession
  refine Protocol.sound_read fun s₁ _ _ => ?_
  split
  · exact Protocol.sound_throw _
  · next session hsession =>
    split
    · exact Protocol.sound_throw _
    · refine Protocol.sound_read fun s₂ hrely₂ hinv₂ => ?_
      have htenant : HasTenant sessionId session.tenantId s₂.db :=
        HasTenant.later ⟨session, hsession, rfl⟩ hrely₂.2
      refine (sound_updateRow (fun _ _ => qualifies_session) (fun _ _ hw h => h.later hw)
        htenant).bind hinv₂ fun n pending s₃ _ hchanged => ?_
      split
      · exact Protocol.sound_throw _
      · next hone =>
        obtain ⟨hchanged, htenant⟩ := hchanged (not_not.mp hone)
        refine Protocol.sound_exec fun s₄ _ _ hrely₄ _ _ => ?_
        refine Protocol.sound_exec fun s₅ _ _ hrely₅ _ _ => ?_
        refine Protocol.sound_read fun s₆ hrely₆ _ => ?_
        split
        · exact Protocol.sound_throw _
        · refine Protocol.sound_pure fun s₇ hrely₇ _ => ?_
          have hlast := protocol.discipline.rely_trans hrely₄ (protocol.discipline.rely_trans hrely₅
            (protocol.discipline.rely_trans hrely₆ hrely₇))
          let entry := revokeEntry call actor ip sessionId session.tenantId
          have hlogged : Changed i (.supportSession sessionId) _ (fun w =>
              { setRevoked sessionId actor s₂.db.now w with
                platformAuditLogs := w.platformAuditLogs ++ [entry] })
              (do pending; discard (logPlatformAction entry)) s₇ :=
            (hchanged.later (fun _ _ => qualifies_session) hlast).write fun _ => rfl
          exact ⟨s₂.db.now, session.tenantId, htenant.later hlast.2, hlogged.write fun _ => rfl⟩

theorem sound_createSession {dto : CreateSupportSessionDto} {expiresAt : Nat} :
    protocol.Sound i (fun _ pending _ => ∀ w w', pending w = .ok ((), w') →
        let session := newSession actor id dto.tenantId dto.justification dto.grantedPermissions
          expiresAt
        w.supportSession id = none ∧
          w' = afterSession (createEntry call ip session) dto.tenantId
            (w.supportSessions ++ [session]) w)
      (createSession call actor ip id dto expiresAt) (pure ()) s := by
  unfold createSession
  refine Protocol.sound_read fun s₁ _ _ => ?_
  split
  · exact Protocol.sound_throw _
  · split
    · exact Protocol.sound_throw _
    · refine Protocol.sound_exec fun s₂ _ _ _ _ _ => ?_
      refine Protocol.sound_exec fun s₃ _ _ _ _ _ => ?_
      refine Protocol.sound_exec fun s₄ _ _ _ _ _ => ?_
      refine Protocol.sound_read fun s₅ _ _ => ?_
      refine Protocol.sound_pure fun s₆ _ _ w w' hw => ?_
      obtain ⟨w₃, _, hlogged, htold⟩ := Tx.discard_ok.mp hw
      obtain ⟨w₂, _, hinserted, hentered⟩ := Tx.discard_ok.mp hlogged
      obtain ⟨w₁, _, hnothing, hsession⟩ := Tx.discard_ok.mp hinserted
      cases hnothing
      unfold insertSession at hsession
      split at hsession
      · next hfree =>
        cases hsession
        cases hentered
        cases htold
        exact ⟨hfree, rfl⟩
      · cases hsession

/-! ## Commits -/

/-- What may stand behind a transition. -/
structure Allowed (source target : TenantStatus) (action : AuditAction) : Prop where
  about : action = .tenantSuspend ∨ action = .tenantResume
  apply : ∀ entry : PlatformAuditLog, entry.action = action →
    entry.metadata = .transition source target →
      tenantMachine.apply (some source) entry = some (some target)

theorem allowed_suspend : Allowed .active .suspended .tenantSuspend := by
  refine ⟨.inl rfl, fun entry haction hmetadata => ?_⟩
  simp only [tenantMachine, haction, hmetadata, if_true]

theorem allowed_resume : Allowed .suspended .active .tenantResume := by
  refine ⟨.inr rfl, fun entry haction hmetadata => ?_⟩
  simp only [tenantMachine, haction, hmetadata, if_true]

theorem allows_transition {action : AuditAction} {justification : String}
    (hallowed : Allowed source target action) (hinv : protocol.discipline.inv s)
    (h : Changed i (.tenant tenantId) (fun w => (w.tenant tenantId).any (·.status = source))
      (afterTransition tenantId source target
        (transitionEntry call actor ip tenantId source target action justification)) pending s)
    (hpending : pending s.db = .ok ((), w')) : protocol.Allows i s w' := by
  obtain rfl := h.written _ _ hpending
  have hstatus : statusOf s.db tenantId = some source := statusOf_of_qualifies h.qualifies
  have habout : tenantMachine.about
      (transitionEntry call actor ip tenantId source target action justification) = some tenantId ∧
      action.ofSession = false ∧ sessionMachine.about
        (transitionEntry call actor ip tenantId source target action justification) = none := by
    obtain rfl | rfl := hallowed.about
    · exact ⟨rfl, rfl, rfl⟩
    · exact ⟨rfl, rfl, rfl⟩
  refine ⟨trivial, ⟨⟨_, _, recorded_transition hstatus habout.1 (hallowed.apply _ rfl rfl)
    habout.2.1 habout.2.2⟩, le_rfl, fun _ session hsession => ⟨session, hsession, .inl rfl⟩⟩,
    fun j k hji hk => ?_⟩
  cases k with
  | tenant other =>
      refine tenant_setStatus_of_ne fun he => hji ?_
      subst he
      exact hinv.1.eq hk h.holds
  | supportSession other => exact fun _ hsession => hsession

theorem allows_createSession {dto : CreateSupportSessionDto} {expiresAt : Nat}
    {session : SupportSession} (hsession : session = newSession actor id dto.tenantId
      dto.justification dto.grantedPermissions expiresAt)
    (hfree : s.db.supportSession id = none)
    (hw' : w' = afterSession (createEntry call ip session) dto.tenantId
      (s.db.supportSessions ++ [session]) s.db) : protocol.Allows i s w' := by
  subst hw'
  have hid : session.id = id := by rw [hsession]; rfl
  have hnew : ∀ j, World.supportSession
      { s.db with supportSessions := s.db.supportSessions ++ [session] } j =
        if session.id = j then some session else s.db.supportSession j :=
    fun j => supportSession_insert (hid ▸ hfree)
  have hkept : ∀ j found, s.db.supportSession j = some found → World.supportSession
      { s.db with supportSessions := s.db.supportSessions ++ [session] } j = some found := by
    intro j found hfound
    rw [hnew, if_neg, hfound]
    rintro rfl
    rw [hid, hfree] at hfound
    cases hfound
  have hrecorded : Recorded s.db (afterSession (createEntry call ip session) dto.tenantId
      (s.db.supportSessions ++ [session]) s.db) [createEntry call ip session]
      [tenantEntry dto.tenantId (createEntry call ip session)] := by
    have htenant : (createEntry call ip session).tenantId = some dto.tenantId := by
      rw [hsession]
      rfl
    have habout : sessionMachine.about (createEntry call ip session) = some session.id := rfl
    refine recorded_session htenant rfl habout rfl ?_ fun j hj => ?_
    · rw [grantOf, grantOf, hnew, if_pos rfl, hid, hfree, hsession]
      rfl
    · rw [hnew, if_neg (Ne.symm hj)]
  refine ⟨trivial, ⟨⟨_, _, hrecorded⟩, le_rfl,
    fun j found hfound => ⟨found, hkept j found hfound, .inl rfl⟩⟩, fun j k hji hk => ?_⟩
  cases k with
  | tenant other => rfl
  | supportSession other => exact hkept other

theorem allows_revokeSession {now : Nat} (hinv : protocol.discipline.inv s)
    (htenant : HasTenant sessionId tenantId s.db)
    (h : Changed i (.supportSession sessionId)
      (fun w => (w.supportSession sessionId).any (·.revokedAt = none))
      (fun w => afterSession (revokeEntry call actor ip sessionId tenantId) tenantId
        (setRevoked sessionId actor now w).supportSessions w) pending s)
    (hpending : pending s.db = .ok ((), w')) : protocol.Allows i s w' := by
  obtain rfl := h.written _ _ hpending
  obtain ⟨session, hsession, rfl⟩ := htenant
  have hnone : session.revokedAt = none := by
    have hqualifies := h.qualifies
    rw [hsession] at hqualifies
    exact of_decide_eq_true hqualifies
  have hself : (setRevoked sessionId actor now s.db).supportSession sessionId =
      some { session with revokedAt := some now, revokedByUserId := some actor } := by
    rw [supportSession_setRevoked, hsession, Option.map_some,
      if_pos ⟨supportSession_id hsession, hnone⟩]
  have hothers : ∀ j, j ≠ sessionId →
      (setRevoked sessionId actor now s.db).supportSession j = s.db.supportSession j := by
    intro j hj
    rw [supportSession_setRevoked]
    cases hfound : s.db.supportSession j with
    | none => rfl
    | some other =>
        rw [Option.map_some, if_neg fun hof => hj ((supportSession_id hfound).symm.trans hof.1)]
  have hrecorded : Recorded s.db
      (afterSession (revokeEntry call actor ip sessionId session.tenantId) session.tenantId
        (setRevoked sessionId actor now s.db).supportSessions s.db)
      [revokeEntry call actor ip sessionId session.tenantId]
      [tenantEntry session.tenantId (revokeEntry call actor ip sessionId session.tenantId)] := by
    have habout : sessionMachine.about
        (revokeEntry call actor ip sessionId session.tenantId) = some sessionId := rfl
    refine recorded_session rfl rfl habout rfl ?_ hothers
    have hgrant : grantOf (setRevoked sessionId actor now s.db) sessionId =
        some { session.grant with revokedBy := some (some actor) } :=
      congrArg (Option.map SupportSession.grant) hself
    have hbefore : grantOf s.db sessionId = some session.grant :=
      congrArg (Option.map SupportSession.grant) hsession
    have hopen : session.grant.revokedBy = none := by
      rw [SupportSession.grant, hnone]
      rfl
    refine Eq.trans ?_ (congrArg some hgrant).symm
    rw [hbefore]
    exact if_pos ⟨hopen, rfl⟩
  refine ⟨trivial, ⟨⟨_, _, hrecorded⟩, le_rfl, fun j found hfound => ?_⟩, fun j k hji hk => ?_⟩
  · by_cases hj : j = sessionId
    · subst hj
      cases hfound.symm.trans hsession
      exact ⟨_, hself, .inr ⟨hnone, now, actor, rfl⟩⟩
    · exact ⟨found, (hothers j hj).trans hfound, .inl rfl⟩
  · cases k with
    | tenant other => rfl
    | supportSession other =>
        refine fun found hfound => (hothers other fun he => hji ?_).trans hfound
        subst he
        exact hinv.1.eq hk h.holds

/-! ## Requests -/

theorem safe_transact {α : Type} {p : Statements α} {name : α → Commit} {reply : α → Reply}
    {failsAt : Option Nat} {Q : α → Tx World HttpError Unit → Locked World Key → Prop}
    (h : protocol.Sound i Q p (pure ()) s)
    (hcommit : ∀ a pending s w', protocol.discipline.inv s → Q a pending s →
      pending s.db = .ok ((), w') → protocol.Allows i s w') :
    protocol.discipline.Safe i (fun _ _ => True) (transact i name reply p failsAt) s := by
  have hsafe : protocol.discipline.Safe i (Discipline.Returns fun _ _ => True)
      (inTransaction i name (p.cutAt connectionLost failsAt)) s :=
    (h.cutAt connectionLost failsAt).safe
      (fun a pending s w' hi _ hQ hpending =>
        ⟨hcommit a pending s w' hi hQ hpending, trivial, trivial⟩)
      fun _ _ _ _ _ => trivial
  rw [transact, Proc.map_def]
  exact hsafe.map fun _ _ _ => trivial

theorem safe_outside {ℓ : Commit} {change : World → World} (honward : ∀ w, Onward w (change w))
    (hsame : ∀ k w, Same k w (change w)) :
    protocol.discipline.Safe i (fun _ _ => True) (outside ℓ change) s := by
  intro s' _ hinv _
  refine ⟨⟨hinv.1, ⟨trivial, honward _, fun _ k _ _ => hsame k _⟩, fun _ _ _ hk => hk, ?_⟩,
    fun _ _ _ => trivial⟩
  exact fun ℓ hℓ => by cases hℓ

theorem commits_enter {K : Entry Key Commit → (Locked World Key → Locked World Key) → Prop}
    {route : Route} {request : Access.Request} : (enter route request).Commits K := by
  unfold enter
  refine (Proc.commits_read _).bind fun db => ?_
  refine Proc.Commits.bind (fun s => trivial) fun r₁ => ?_
  refine Proc.Commits.bind (fun s => trivial) fun r₂ => ?_
  refine Proc.Commits.bind (fun s => trivial) fun _ => ?_
  exact Proc.Commits.bind (fun s => trivial) fun _ => Proc.commits_pure _

/-- Whatever other services write down, and whenever it is. -/
theorem onward_elsewhere {name : String} {entry : PlatformAuditLog}
    {forTenant : Option TenantAuditLog} : Onward w (logElsewhere call name entry forTenant w) where
  recorded := recorded_elsewhere
  now := le_rfl
  sessions _ session h := ⟨session, h, .inl rfl⟩

theorem onward_of_eq (hnow : w.now ≤ w'.now) (htenants : w'.tenants = w.tenants)
    (hsessions : w'.supportSessions = w.supportSessions)
    (hplatform : w'.platformAuditLogs = w.platformAuditLogs)
    (htenant : w'.tenantAuditLogs = w.tenantAuditLogs) : Onward w w' := by
  have hstatus : statusOf w' = statusOf w := by
    funext id
    rw [statusOf, statusOf, World.tenant, World.tenant, htenants]
  have hsession : w'.supportSession = w.supportSession := by
    funext id
    rw [World.supportSession, World.supportSession, hsessions]
  have hgrant : grantOf w' = grantOf w := by
    funext id
    rw [grantOf, grantOf, hsession]
  refine ⟨⟨[], [], ?_⟩, hnow, fun id session h => ⟨session, by rw [hsession, h], .inl rfl⟩⟩
  refine ⟨by rw [hplatform, List.append_nil], by rw [htenant, List.append_nil], ?_, ?_, .nil⟩
  · rw [hstatus]
    exact Machine.explains_nil
  · rw [hgrant]
    exact Machine.explains_nil

/-- A change of neither tenants nor sessions is of no row that is locked. -/
theorem same_of_eq {change : World → World} (htenants : ∀ w, (change w).tenants = w.tenants)
    (hsessions : ∀ w, (change w).supportSessions = w.supportSessions) (k : Key) (w : World) :
    Same k w (change w) := by
  cases k with
  | tenant id =>
      show (change w).tenants.find? _ = w.tenants.find? _
      rw [htenants]
  | supportSession id =>
      intro session hsession
      rwa [World.supportSession, hsessions]

theorem safe_openSession {uuid : Nat → String} {dto : CreateSupportSessionDto}
    {failsAt : Option Nat} : protocol.discipline.Safe i (fun _ _ => True)
      (openSession uuid i actor ip dto failsAt) s := by
  unfold openSession
  split
  · exact fun _ _ _ => trivial
  · intro s' _ _
    show protocol.discipline.Safe i _ (if _ then _ else _) s'
    split
    · exact fun _ _ _ => trivial
    · refine safe_transact sound_createSession fun _ _ _ w' _ hQ hpending => ?_
      obtain ⟨hfree, hw'⟩ := hQ _ w' hpending
      exact allows_createSession rfl hfree hw'

theorem safe_handle (uuid : Nat → String) (i : Nat) (req : Request) (s : Locked World Key) :
    protocol.discipline.Safe i (fun _ _ => True) (handle uuid i req) s := by
  cases req with
  | suspendTenant actor ip tenantId justification failsAt =>
      exact safe_transact sound_transition fun _ _ _ _ hi hQ hpending =>
        allows_transition allowed_suspend hi hQ hpending
  | resumeTenant actor ip tenantId justification failsAt =>
      exact safe_transact sound_transition fun _ _ _ _ hi hQ hpending =>
        allows_transition allowed_resume hi hQ hpending
  | createSession actor ip dto failsAt => exact safe_openSession
  | revokeSession actor ip sessionId failsAt =>
      refine safe_transact sound_revokeSession fun _ _ _ _ hi hQ hpending => ?_
      obtain ⟨now, tenantId, htenant, hchanged⟩ := hQ
      exact allows_revokeSession hi htenant hchanged hpending
  | enter route request =>
      have hcommits : (handle uuid i (.enter route request)).Commits fun _ _ => False :=
        commits_enter.map _
      have hwithin : (handle uuid i (.enter route request)).Within fun _ _ _ => False :=
        hcommits.within fun _ _ _ h => h
      exact Discipline.safe_of_within hwithin fun _ _ _ _ _ h => h.elim
  | logElsewhere name entry forTenant =>
      exact safe_outside (fun w => onward_elsewhere) (same_of_eq (fun _ => rfl) fun _ => rfl)
  | setStoreDomains storeDomains =>
      have honward : ∀ w, Onward w { w with storeDomains } :=
        fun w => onward_of_eq le_rfl rfl rfl rfl rfl
      exact safe_outside honward (same_of_eq (fun _ => rfl) fun _ => rfl)
  | tick milliseconds =>
      have honward : ∀ w, Onward w { w with now := w.now + milliseconds } :=
        fun w => onward_of_eq (Nat.le_add_right ..) rfl rfl rfl rfl
      exact safe_outside honward (same_of_eq (fun _ => rfl) fun _ => rfl)

/-! ## Runs -/

section Runs

variable {uuid : Nat → String} {c c' : PlatformConfig} {w₀ : World}

theorem holds_of_reaches (hrun : Reaches uuid ⟨⟨w₀, []⟩, []⟩ c) :
    protocol.discipline.Holds (fun _ _ _ _ => True) c := by
  have hstart : protocol.discipline.Holds (fun _ _ _ _ => True)
      (⟨⟨w₀, []⟩, []⟩ : PlatformConfig) :=
    Discipline.holds_idle ⟨Locked.exclusive_nil, trivial⟩
  exact hstart.run (Nat.zero_le _) (fun i req s _ _ _ => safe_handle uuid i req s)
    (hrun.mono (fun _ _ h => h) fun _ _ h => ⟨h, trivial⟩)

/-- Whatever a run does is on record. -/
theorem onward_of_reaches (hrun : Reaches uuid ⟨⟨w₀, []⟩, []⟩ c) (hafter : Reaches uuid c c') :
    Onward c.state.db c'.state.db := by
  induction hafter with
  | refl => exact onward_refl _
  | @tail b c' hbefore hstep ih =>
      have hb : protocol.discipline.Holds (fun _ _ _ _ => True) b :=
        holds_of_reaches (hrun.trans hbefore)
      have hlast : Step (handle uuid) (fun _ _ => True) protocol.discipline.ok b c' := by
        cases hstep with
        | accept req hadm => exact .accept req hadm
        | advance hi hp hok => exact .advance hi hp fun ℓ hℓ => ⟨hok ℓ hℓ, trivial⟩
      obtain hsame | ⟨i, ℓ, -, hguar⟩ := hb.commit hlast
      · rw [hsame]
        exact ih
      · exact ih.trans hguar.2.1.onward

end Runs

end PrintForge.ControlPlane
