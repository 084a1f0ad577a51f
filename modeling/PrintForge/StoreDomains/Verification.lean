import PrintForge.Concurrent.Process
import PrintForge.StoreDomains.Agreement

/-!
# A verification among the decisions of the platform

`Service` takes every transaction as one action. A verification is a transaction that waits for
DNS between its read of the row and its write, and its lock keeps out other verifications only.
Here each service is written by statements: inside a transaction it is what `Service` has, and
over the bare connection others act between its statements.

The platform compares and swaps the status. A merchant's write does not look at it again, and
turns a row that has been revoked meanwhile into a verified one.
-/

namespace PrintForge.StoreDomains.Verification

open Relational Concurrent

section Methods

variable {m : Type → Type} [Monad m] [MonadExceptOf HttpError m]
variable [Client World Commit HttpError m]

/-- The row of a domain under the lock of its verification. -/
def lockedRow (load : Transaction StoreDomain) (locked : Bool) : m StoreDomain :=
  Client.statement Commit.inspect do
    assertUnlocked locked
    load

/-- A check that has passed is listed as `passed`, and one that has failed writes nothing. -/
def record (passed : Commit) (row : StoreDomain) (outcome : VerificationOutcome) :
    m StoreDomain :=
  Client.statement (if outcome.isNone then passed else Commit.inspect) (recordCheck row outcome)

def verifyRow (settings : Settings) (tenantId domainId : Nat) (answer : DnsAnswer)
    (locked : Bool) : m (Option StoreDomain) := do
  let row ← lockedRow (loadOwnDomain tenantId domainId) locked
  if row.type = some .platformSubdomain then
    throw (.conflict "Platform subdomains are always-on and do not require verification")
  else if row.verificationStatus = .failed then
    return none
  else if row.verificationStatus = .verified then
    throw (.conflict "This domain is already verified")
  else
    some <$> record (.verify row.id) row (check settings row answer)

def revoke (domainId : Nat) : m StoreDomain := do
  let existing ← Client.statement Commit.inspect (Platform.loadCustomDomain domainId)
  if existing.verificationStatus ≠ .verified then
    throw (.conflict s!"Domain is not VERIFIED (current status: {existing.verificationStatus}) — only a VERIFIED domain can be revoked")
  else
    Client.statement (Commit.platformRevoke existing.id) (Platform.transition existing .failed)

def override (domainId : Nat) : m StoreDomain := do
  let existing ← Client.statement Commit.inspect (Platform.loadCustomDomain domainId)
  if existing.verificationStatus = .verified then
    throw (.conflict "This domain is already verified")
  else
    Client.statement (Commit.platform existing.id) (Platform.transition existing .verified)

def reverify (settings : Settings) (domainId : Nat) (answer : DnsAnswer) (locked : Bool) :
    m StoreDomain := do
  let existing ← lockedRow (Platform.loadCustomDomain domainId) locked
  if existing.verificationStatus = .verified then
    throw (.conflict "This domain is already verified")
  else
    record (.platform existing.id) existing (check settings existing answer)

end Methods

/-- In one transaction these are the services as they stand. -/
theorem verifyRow_transaction (settings : Settings) (tenantId domainId : Nat) (answer : DnsAnswer)
    (locked : Bool) :
    (verifyRow settings tenantId domainId answer locked : Transaction (Option StoreDomain))
      = StoreDomains.verifyRow settings tenantId domainId answer locked := by
  funext w
  simp only [verifyRow, StoreDomains.verifyRow, lockedRow, record, Client.statement_tx, bind_assoc]

theorem revoke_transaction (domainId : Nat) :
    (revoke domainId : Transaction StoreDomain) = Platform.revoke domainId := rfl

theorem override_transaction (domainId : Nat) :
    (override domainId : Transaction StoreDomain) = Platform.override domainId := rfl

theorem reverify_transaction (settings : Settings) (domainId : Nat) (answer : DnsAnswer)
    (locked : Bool) :
    (reverify settings domainId answer locked : Transaction StoreDomain)
      = Platform.reverify settings domainId answer locked := by
  funext w
  simp only [reverify, Platform.reverify, lockedRow, record, Client.statement_tx, bind_assoc]

/-- What follows a merchant's verification. -/
def verify (settings : Settings) (tenantId domainId : Nat) (answer : DnsAnswer) (locked : Bool)
    (hosting : HostingAnswer) : Service StoreDomain := do
  let updated ← verifyRow settings tenantId domainId answer locked
  match updated with
  | none => throw (.conflict revokedMessage)
  | some row =>
      if row.verificationStatus = .verified then
        attachToHostingProvider row hosting
      else
        return row

inductive Request where
  | verify (tenantId domainId : Nat) (answer : DnsAnswer) (locked : Bool)
      (hosting : HostingAnswer)
  | revoke (domainId : Nat)
  | override (domainId : Nat)
  | reverify (domainId : Nat) (answer : DnsAnswer) (locked : Bool)

def serve (settings : Settings) : Request → Service StoreDomain
  | .verify tenantId domainId answer locked hosting =>
      verify settings tenantId domainId answer locked hosting
  | .revoke domainId => revoke domainId
  | .override domainId => override domainId
  | .reverify domainId answer locked => reverify settings domainId answer locked

abbrev VerificationConfig := Config World Request Commit HttpError StoreDomain

abbrev Reaches (settings : Settings) (ok : Commit → World → Prop) :
    VerificationConfig → VerificationConfig → Prop :=
  Run (fun _ => serve settings) (fun _ _ => True) ok

/-! ## Whose change it is -/

/-- The changes of a status that a request may make. -/
def Request.May : Request → DomainVerificationStatus → DomainVerificationStatus → Prop
  | .verify .., status, status' => status = .pending ∧ status' = .verified
  | .revoke _, status, status' => status = .verified ∧ status' = .failed
  | .override _, status, status' => status ≠ .verified ∧ status' = .verified
  | .reverify .., _, status' => status' = .verified

/-- A merchant's verification that has passed does not write to a revoked row. -/
def SparesRevoked : Commit → World → Prop
  | .verify id, w => ∀ d ∈ w.storeDomains.get id, d.verificationStatus ≠ .failed
  | .inspect, _ | .add, _ | .platformSubdomain, _ | .setPrimary _, _ | .attach, _ | .detach _, _
  | .remove _ _, _ | .tls _ _, _ | .platform _, _ | .platformRevoke _, _
  | .platformRemove _ _, _ => True

instance : ∀ ℓ w, Decidable (SparesRevoked ℓ w)
  | .verify id, w => inferInstanceAs (Decidable (∀ d ∈ w.storeDomains.get id,
      d.verificationStatus ≠ .failed))
  | .inspect, _ | .add, _ | .platformSubdomain, _ | .setPrimary _, _ | .attach, _ | .detach _, _
  | .remove _ _, _ | .tls _ _, _ | .platform _, _ | .platformRevoke _, _
  | .platformRemove _ _, _ => inferInstanceAs (Decidable True)

/-- Every row keeps its status or has it changed as the request may. -/
def Turns (req : Request) (w w' : World) : Prop :=
  ∀ id d d', w.storeDomains.get id = some d → w'.storeDomains.get id = some d' →
    d'.verificationStatus = d.verificationStatus ∨
      req.May d.verificationStatus d'.verificationStatus

variable {settings : Settings} {req : Request} {ℓ : Commit} {w w' : World}

theorem turns_of_eq (h : w'.storeDomains = w.storeDomains) : Turns req w w' := by
  intro id d d' hd hd'
  rw [h, hd] at hd'
  cases hd'
  exact .inl rfl

theorem turns_rewrite {p : StoreDomain → Bool} {f : StoreDomain → StoreDomain} {hf}
    {t : Table StoreDomain} (h : w.storeDomains.update p f hf = some t)
    (hmay : ∀ d ∈ w.storeDomains, p d = true →
      (f d).verificationStatus = d.verificationStatus ∨
        req.May d.verificationStatus (f d).verificationStatus) :
    Turns req w { w with storeDomains := t } := by
  intro id d d' hd hd'
  have hafter : t.get id = some d' := hd'
  rw [Table.get_update h, hd] at hafter
  cases hafter
  dsimp only
  by_cases hp : p d = true
  · rw [if_pos hp]
    exact hmay d (Table.get_eq_some.mp hd).1 hp
  · rw [if_neg hp]
    exact .inl rfl

theorem turns_update {k : Nat} {f : StoreDomain → StoreDomain} {hf} {r : StoreDomain}
    (h : (Db.storeDomains.update k f hf : Transaction StoreDomain) w = .ok (r, w'))
    (hmay : ∀ d ∈ w.storeDomains.get k,
      (f d).verificationStatus = d.verificationStatus ∨
        req.May d.verificationStatus (f d).verificationStatus) : Turns req w w' := by
  obtain ⟨-, t, -, ht, -, rfl⟩ := Slot.update_ok h
  refine turns_rewrite ht fun d hd hp => hmay d ?_
  exact Table.get_eq_some.mpr ⟨hd, of_decide_eq_true hp⟩

theorem turns_recordCheck {row r : StoreDomain} {outcome : VerificationOutcome}
    (h : recordCheck row outcome w = .ok (r, w'))
    (hmay : outcome.isNone = true → ∀ d ∈ w.storeDomains.get row.id,
      d.verificationStatus = .verified ∨ req.May d.verificationStatus .verified) :
    Turns req w w' := by
  unfold recordCheck at h
  split at h
  · next hpassed =>
    refine turns_update h fun d hd => ?_
    exact (hmay hpassed d hd).imp_left Eq.symm
  · exact turns_update h fun _ _ => .inl rfl

theorem turns_transition {row r : StoreDomain} {target : DomainVerificationStatus}
    (h : Platform.transition row target w = .ok (r, w'))
    (hmay : req.May row.verificationStatus target) : Turns req w w' := by
  obtain ⟨t, ht, rfl⟩ := transition_ok h
  refine turns_rewrite ht fun d _ hp => .inr ?_
  rw [of_decide_eq_true (Bool.and_eq_true_iff.mp hp).2]
  exact hmay

/-! ## What a request commits -/

/-- Where the condition is met, a listed write turns statuses as the request may. -/
def Turning (req : Request) (ℓ : Commit) (upd : World → World) : Prop :=
  ∀ w, SparesRevoked ℓ w → Turns req w (upd w)

theorem commits_turning {α : Type} {tx : Transaction α}
    (h : ∀ w a w', SparesRevoked ℓ w → tx w = .ok (a, w') → Turns req w w') :
    Proc.Commits (Turning req) (Proc.transact ℓ tx : Service α) := by
  refine Proc.commits_transact fun w hw => ?_
  cases htx : tx w with
  | ok r =>
      rw [Proc.applied_ok htx]
      exact h w r.1 r.2 hw htx
  | error e =>
      rw [Proc.applied_error htx]
      exact turns_of_eq rfl

/-- A transaction that only reads. -/
theorem commits_inspect {α : Type} {tx : Transaction α}
    (h : ∀ w a w', tx w = .ok (a, w') → w' = w) :
    Proc.Commits (Turning req) (Proc.transact .inspect tx : Service α) := by
  refine commits_turning fun w a w' _ htx => ?_
  rw [h w a w' htx]
  exact turns_of_eq rfl

theorem commits_lockedRow {load : Transaction StoreDomain} {locked : Bool}
    (h : ∀ w row w', load w = .ok (row, w') → w' = w) :
    Proc.Commits (Turning req) (lockedRow load locked : Service StoreDomain) := by
  refine commits_inspect fun w row w' htx => ?_
  obtain ⟨_, w₁, hlock, hload⟩ := Tx.bind_ok.mp htx
  obtain rfl := assertUnlocked_ok hlock
  exact h w₁ row w' hload

theorem commits_record {passed : Commit} {row : StoreDomain} {outcome : VerificationOutcome}
    (hmay : ∀ w, SparesRevoked passed w → ∀ d ∈ w.storeDomains.get row.id,
      d.verificationStatus = .verified ∨ req.May d.verificationStatus .verified) :
    Proc.Commits (Turning req) (record passed row outcome : Service StoreDomain) := by
  refine commits_turning fun w r w' hw h => turns_recordCheck h fun hpassed => ?_
  rw [if_pos hpassed] at hw
  exact hmay w hw

theorem commits_attach (row : StoreDomain) (hosting : HostingAnswer) :
    Proc.Commits (Turning req) (attachToHostingProvider row hosting) := by
  refine Proc.Commits.bind ?_ fun _ => ?_
  · exact commits_turning fun w _ w' _ h => by
      cases h
      exact turns_of_eq rfl
  · split
    · exact Proc.commits_pure _
    · exact commits_turning fun w _ w' _ h => turns_update h fun _ _ => .inl rfl

theorem commits_verify (tenantId domainId : Nat) (answer : DnsAnswer) (locked : Bool)
    (hosting : HostingAnswer) :
    Proc.Commits (Turning (.verify tenantId domainId answer locked hosting))
      (verify settings tenantId domainId answer locked hosting) := by
  refine Proc.Commits.bind (Proc.Commits.bind ?_ fun row => ?_) fun updated => ?_
  · exact commits_lockedRow fun w row w' h => (loadOwnDomain_ok h).2
  · split
    · exact Proc.commits_throw _
    · split
      · exact Proc.commits_pure _
      · split
        · exact Proc.commits_throw _
        · refine Proc.Commits.map (commits_record fun w hw d hd => ?_) some
          -- a row that is not revoked is verified already, or pending
          have hnot : d.verificationStatus ≠ .failed := hw d hd
          cases hstatus : d.verificationStatus with
          | pending => exact .inr ⟨rfl, rfl⟩
          | verified => exact .inl rfl
          | failed => exact absurd hstatus hnot
  · split
    · exact Proc.commits_throw _
    · split
      · exact commits_attach _ _
      · exact Proc.commits_pure _

theorem commits_revoke (domainId : Nat) :
    Proc.Commits (Turning (.revoke domainId)) (revoke domainId : Service StoreDomain) := by
  refine Proc.Commits.bind ?_ fun existing => ?_
  · exact commits_inspect fun w row w' h => (loadCustomDomain_ok h).2.2
  · split
    · exact Proc.commits_throw _
    · next hverified =>
      have hstatus : existing.verificationStatus = .verified := Decidable.not_not.mp hverified
      exact commits_turning fun w r w' _ h => turns_transition h ⟨hstatus, rfl⟩

theorem commits_override (domainId : Nat) :
    Proc.Commits (Turning (.override domainId)) (override domainId : Service StoreDomain) := by
  refine Proc.Commits.bind ?_ fun existing => ?_
  · exact commits_inspect fun w row w' h => (loadCustomDomain_ok h).2.2
  · split
    · exact Proc.commits_throw _
    · next hnot => exact commits_turning fun w r w' _ h => turns_transition h ⟨hnot, rfl⟩

theorem commits_reverify (domainId : Nat) (answer : DnsAnswer) (locked : Bool) :
    Proc.Commits (Turning (.reverify domainId answer locked))
      (reverify settings domainId answer locked : Service StoreDomain) := by
  refine Proc.Commits.bind ?_ fun existing => ?_
  · exact commits_lockedRow fun w row w' h => (loadCustomDomain_ok h).2.2
  · split
    · exact Proc.commits_throw _
    · exact commits_record fun w _ d _ => .inr rfl

theorem commits_serve (req : Request) :
    Proc.Commits (Turning req) (serve settings req) := by
  cases req with
  | verify => exact commits_verify _ _ _ _ _
  | revoke => exact commits_revoke _
  | override => exact commits_override _
  | reverify => exact commits_reverify _ _ _

/-! ## Runs -/

/-- In every run in which no merchant's verification writes over a revocation, a step changes a
status only as its request may: a merchant verifies pending domains, and what the platform has
decided is changed by the platform alone. -/
theorem platform_decisions_stand {c c' : VerificationConfig} {i : Nat} {p : Service StoreDomain}
    (hrun : Reaches settings SparesRevoked ⟨w, []⟩ c) (hstep : Advances SparesRevoked i c c')
    (hreq : c.flights[i]? = some (req, p)) : Turns req c.state c'.state := by
  have hlisted : p.Commits (Turning req) := by
    refine Run.flights (P := fun _ req p => p.Commits (Turning req))
      (fun _ req => commits_serve req) (fun _ _ _ _ _ _ h hp => h.step hp) (fun j req p hj => ?_)
      hrun i req p hreq
    simp at hj
  obtain ⟨req', q, p', hi, hp, hok, -⟩ := hstep
  cases hreq.symm.trans hi
  obtain hsame | ⟨ℓ, upd, hℓ, hturning, hupd⟩ := hlisted.write_of_step hp
  · exact turns_of_eq (congrArg World.storeDomains hsame)
  · rw [hupd]
    exact hturning _ (hok ℓ hℓ)

/-! ### A domain that waits for its check -/

/-- A store with a custom domain whose record is `t0`. -/
def pendingDomain : World :=
  ⟨⟨[⟨0, 0, true⟩], 1, PaymentAccounts.key_lt_primaryStore,
    PaymentAccounts.consistent_primaryStore⟩,
    ⟨[⟨0, 0, 0, "shop.example", false, .pending, some "t0", some .custom, some .dnsTxt,
      some .issued⟩], 1, by decide, by decide⟩, []⟩

/-- The merchant's check of it, which passes. -/
def merchantCheck : Request := .verify 0 0 (.ok ["t0"]) true (some ⟨true, .issued⟩)

/-- The status of the domain, if it is there. -/
def statusOf (w : World) : Option DomainVerificationStatus :=
  (w.storeDomains.get 0).map (·.verificationStatus)

/-- The request of the flight at place `i`. -/
theorem exists_flight {c : VerificationConfig} {i : Nat}
    (h : (c.flights[i]?).any (fun f => f.1 matches .verify ..) = true) :
    ∃ tenantId domainId answer locked hosting p,
      c.flights[i]? = some (.verify tenantId domainId answer locked hosting, p) := by
  obtain ⟨⟨req, p⟩, hi, hreq⟩ := (Option.any_eq_true ..).mp h
  cases req with
  | verify tenantId domainId answer locked hosting =>
      exact ⟨tenantId, domainId, answer, locked, hosting, p, hi⟩
  | _ => cases hreq

/-- The check passes while an override is under way, whose own write then finds the domain
verified. -/
theorem platform_decisions_stand_pending :
    ∃ (c c' : VerificationConfig) (tenantId domainId : Nat) (answer : DnsAnswer) (locked : Bool)
      (hosting : HostingAnswer), c.flights.length = 2 ∧
      statusOf c.state = some .pending ∧ statusOf c'.state = some .verified ∧
      Turns (.verify tenantId domainId answer locked hosting) c.state c'.state := by
  have hrun : (exec (fun _ => serve plainSettings) (fun _ _ => True) SparesRevoked
      [.accept merchantCheck, .advance 0, .accept (.override 0), .advance 1]
      ⟨pendingDomain, []⟩).any (fun c => decide (c.flights.length = 2) &&
        decide (statusOf c.state = some .pending) &&
        (c.flights[0]?).any (fun f => f.1 matches .verify ..) &&
        (act (fun _ => serve plainSettings) (fun _ _ => True) SparesRevoked (.advance 0) c).any
          fun c' => decide (statusOf c'.state = some .verified)) = true := by
    decide +kernel
  obtain ⟨c, hc, h⟩ := exec_any hrun
  simp only [Bool.and_eq_true, decide_eq_true_eq] at h
  obtain ⟨⟨⟨hlength, hbefore⟩, hverify⟩, hact⟩ := h
  obtain ⟨c', hc', hafter⟩ := (Option.any_eq_true ..).mp hact
  obtain ⟨tenantId, domainId, answer, locked, hosting, p, hi⟩ := exists_flight hverify
  exact ⟨c, c', tenantId, domainId, answer, locked, hosting, hlength, hbefore,
    of_decide_eq_true hafter, platform_decisions_stand hc (act_advances hc') hi⟩

/-- While the check waits for DNS the platform overrides the domain and then revokes it. The write
of the check makes it verified again. -/
theorem revocation_overwritten :
    ¬ ∀ (settings : Settings) (w : World) (c c' : VerificationConfig) (i : Nat)
      (tenantId domainId : Nat) (answer : DnsAnswer) (locked : Bool) (hosting : HostingAnswer)
      (p : Service StoreDomain),
      Reaches settings (fun _ _ => True) ⟨w, []⟩ c → Advances (fun _ _ => True) i c c' →
        c.flights[i]? = some (.verify tenantId domainId answer locked hosting, p) →
          statusOf c.state = some .failed → statusOf c'.state = some .failed := by
  have hrun : (exec (fun _ => serve plainSettings) (fun _ _ => True) (fun _ _ => True)
      [.accept merchantCheck, .advance 0, .accept (.override 0), .advance 1, .advance 1,
        .accept (.revoke 0), .advance 2, .advance 2] ⟨pendingDomain, []⟩).any (fun c =>
        decide (statusOf c.state = some .failed) &&
        (c.flights[0]?).any (fun f => f.1 matches .verify ..) &&
        (act (fun _ => serve plainSettings) (fun _ _ => True) (fun _ _ => True) (.advance 0) c).any
          fun c' => decide (statusOf c'.state = some .verified)) = true := by
    decide +kernel
  obtain ⟨c, hc, h⟩ := exec_any hrun
  simp only [Bool.and_eq_true, decide_eq_true_eq] at h
  obtain ⟨⟨hbefore, hverify⟩, hact⟩ := h
  obtain ⟨c', hc', hafter⟩ := (Option.any_eq_true ..).mp hact
  obtain ⟨tenantId, domainId, answer, locked, hosting, p, hi⟩ := exists_flight hverify
  intro hall
  have hfailed := hall plainSettings pendingDomain c c' 0 tenantId domainId answer locked hosting p
    hc (act_advances hc') hi hbefore
  cases (of_decide_eq_true hafter).symm.trans hfailed

end PrintForge.StoreDomains.Verification
