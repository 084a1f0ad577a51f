import PrintForge.StoreDomains.Service

/-!
# A revoked hostname

Revocation lasts as long as the row does: no operation of a merchant takes the row out of its
status, and while it is there nobody else can add the hostname. A merchant may delete the row,
and with it goes the revocation.
-/

namespace PrintForge.StoreDomains

open Relational Concurrent Proc

variable {settings : Settings} {host : String} {w w' : World}

/-- The platform has revoked the hostname, and it has not been put back. -/
def Revoked (host : String) (w : World) : Prop :=
  ∃ d ∈ w.storeDomains, d.hostname = host ∧ d.verificationStatus = .failed ∧ isCustom d = true

/-- The platform leaves the hostname alone, and no merchant deletes its revoked row. -/
def Sticks (host : String) : Commit → World → Prop
  | .remove id _, w =>
      ∀ d ∈ w.storeDomains.get id, d.hostname = host → d.verificationStatus ≠ .failed
  | .platform id, w | .platformRevoke id, w | .platformRemove id _, w =>
      ∀ d ∈ w.storeDomains.get id, d.hostname ≠ host
  | .inspect, _ | .add, _ | .platformSubdomain, _ | .verify _, _ | .setPrimary _, _ | .attach, _
  | .detach _, _ | .tls _ _, _ => True

instance (host : String) : ∀ ℓ w, Decidable (Sticks host ℓ w)
  | .remove id _, w => inferInstanceAs (Decidable (∀ d ∈ w.storeDomains.get id,
      d.hostname = host → d.verificationStatus ≠ .failed))
  | .platform id, w | .platformRevoke id, w | .platformRemove id _, w =>
      inferInstanceAs (Decidable (∀ d ∈ w.storeDomains.get id, d.hostname ≠ host))
  | .inspect, _ | .add, _ | .platformSubdomain, _ | .verify _, _ | .setPrimary _, _ | .attach, _
  | .detach _, _ | .tls _ _, _ => inferInstanceAs (Decidable True)

/-! ## Revoked rows -/

/-- A hostname that has been revoked has no other row, so it is not verified. -/
theorem Revoked.not_verified (h : Revoked host w) :
    ∀ d ∈ w.storeDomains, d.hostname = host → d.verificationStatus ≠ .verified := by
  intro d hd hhost hverified
  obtain ⟨r, hr, hhost', hfailed, -⟩ := h
  have hsame : d = r := Table.eq_of_clash hd hr (.inl (hhost.trans hhost'.symm))
  rw [hsame, hfailed] at hverified
  cases hverified

theorem Revoked.not_served (h : Revoked host w) : serves host w = false := by
  unfold serves
  cases hfound : w.storeDomains.findFirst (·.hostname = host) with
  | none => rfl
  | some d =>
      obtain ⟨hd, hhost⟩ := Table.findFirst_some hfound
      obtain ⟨r, hr, hhost', hfailed, hcustom⟩ := h
      have hsame : d = r :=
        Table.eq_of_clash hd hr (.inl ((of_decide_eq_true hhost).trans hhost'.symm))
      show passesServingGate d = false
      rw [hsame, passesServingGate, hcustom, hfailed]
      rfl

theorem Revoked.create {row : Nat → StoreDomain} {hk} {t : Table StoreDomain}
    (h : Revoked host w) (ht : w.storeDomains.create row hk = some t) :
    Revoked host { w with storeDomains := t } := by
  obtain ⟨d, hd, hrest⟩ := h
  exact ⟨d, (Table.mem_create ht).mpr (.inl hd), hrest⟩

/-- An update that leaves revoked rows of the hostname revoked. -/
theorem Revoked.update {p : StoreDomain → Bool} {f : StoreDomain → StoreDomain} {hf}
    {t : Table StoreDomain} (h : Revoked host w) (ht : w.storeDomains.update p f hf = some t)
    (hkeep : ∀ d ∈ w.storeDomains, p d → d.hostname = host → d.verificationStatus = .failed →
      (f d).hostname = host ∧ (f d).verificationStatus = .failed ∧ isCustom (f d) = isCustom d) :
    Revoked host { w with storeDomains := t } := by
  obtain ⟨d, hd, hhost, hfailed, hcustom⟩ := h
  by_cases hp : p d
  · obtain ⟨hhost', hfailed', hcustom'⟩ := hkeep d hd hp hhost hfailed
    exact ⟨f d, Table.mem_of_update_true ht hd hp, hhost', hfailed', hcustom'.trans hcustom⟩
  · exact ⟨d, Table.mem_of_update_false ht hd (by simpa using hp), hhost, hfailed, hcustom⟩

theorem Revoked.delete {p : StoreDomain → Bool} (h : Revoked host w)
    (hkeep : ∀ d ∈ w.storeDomains, p d → d.hostname = host → d.verificationStatus ≠ .failed) :
    Revoked host { w with storeDomains := w.storeDomains.delete p } := by
  obtain ⟨d, hd, hhost, hfailed, hcustom⟩ := h
  have hp : p d = false := by
    by_contra hp
    exact hkeep d hd (by simpa using hp) hhost hfailed
  exact ⟨d, Table.mem_delete.mpr ⟨hd, hp⟩, hhost, hfailed, hcustom⟩

/-! ## Transactions -/

/-- A revocation outlives the step. -/
def Outlives (host : String) (w w' : World) : Prop := Revoked host w → Revoked host w'

instance : Std.Refl (Outlives host) := ⟨fun _ h => h⟩

instance : IsTrans World (Outlives host) := ⟨fun _ _ _ h h' hr => h' (h hr)⟩

/-- The transaction leaves revoked rows alone, whatever else it does. -/
abbrev Harmless {α : Type} (host : String) (tx : Transaction α) : Prop :=
  Tx.Within (Outlives host) tx

theorem harmless_update {id : Nat} {f : StoreDomain → StoreDomain}
    {hf : ∀ r, Schema.key (f r) = Schema.key r}
    (hkeep : ∀ d, (f d).hostname = d.hostname ∧
      (f d).verificationStatus = d.verificationStatus ∧ isCustom (f d) = isCustom d) :
    Harmless host (Db.storeDomains.update id f hf : Transaction StoreDomain) := by
  apply Slot.within_update
  intro w t ht h
  refine h.update ht fun d _ _ hhost hfailed => ?_
  obtain ⟨hhost', hstatus, hcustom⟩ := hkeep d
  exact ⟨hhost'.trans hhost, hstatus.trans hfailed, hcustom⟩

/-- What the provider holds says nothing of the rows. -/
theorem harmless_modify {f : World → World} (hf : ∀ w, (f w).storeDomains = w.storeDomains) :
    Harmless host (modify f : Transaction Unit) := by
  intro w _ w' h hr
  cases h
  obtain ⟨d, hd, hrest⟩ := hr
  exact ⟨d, by rw [hf w]; exact hd, hrest⟩

theorem harmless_create {row : Nat → StoreDomain} {hk : ∀ k, Schema.key (row k) = k} :
    Harmless host (Db.storeDomains.create row hk : Transaction StoreDomain) := by
  apply Slot.within_create
  exact fun w t ht h => h.create ht

theorem harmless_loadOwnDomain (tenantId domainId : Nat) :
    Harmless host (loadOwnDomain tenantId domainId) := by
  refine Tx.within_bind (Tx.within_read _) fun row => ?_
  cases row with
  | none => exact Tx.within_throw _
  | some row => exact Tx.within_pure _

theorem harmless_assertCustom (domain : StoreDomain) (message : String) :
    Harmless host (assertCustom domain message) := by
  unfold assertCustom
  split
  · exact Tx.within_pure _
  · exact Tx.within_throw _

theorem harmless_assertServeable (row : StoreDomain) : Harmless host (assertServeable row) := by
  unfold assertServeable
  split
  · exact Tx.within_pure _
  · split
    · exact Tx.within_throw _
    · split
      · exact Tx.within_throw _
      · exact Tx.within_pure _

theorem harmless_assertNotPrimary (row : StoreDomain) : Harmless host (assertNotPrimary row) := by
  unfold assertNotPrimary
  split
  · exact Tx.within_throw _
  · exact Tx.within_pure _

theorem harmless_clearPrimary (storeId : Nat) : Harmless host (clearPrimary storeId) := by
  refine Tx.within_bind (Tx.within_read _) fun previous => ?_
  cases previous with
  | none => exact Tx.within_pure _
  | some previous =>
      exact Tx.within_bind (harmless_update fun _ => ⟨rfl, rfl, rfl⟩) fun _ => Tx.within_pure _

theorem harmless_makePrimary (tenantId domainId : Nat) :
    Harmless host (makePrimary tenantId domainId) := by
  apply Tx.within_bind (harmless_loadOwnDomain _ _)
  intro row
  apply Tx.within_bind (harmless_assertServeable row)
  intro _
  apply Tx.within_bind (harmless_assertNotPrimary row)
  intro _
  apply Tx.within_bind (harmless_clearPrimary _)
  intro _
  exact harmless_update fun _ => ⟨rfl, rfl, rfl⟩

theorem harmless_promote (fallbackId : Option Nat) : Harmless host (promote fallbackId) := by
  cases fallbackId with
  | none => exact Tx.within_pure _
  | some fallbackId =>
      exact Tx.within_bind (harmless_update fun _ => ⟨rfl, rfl, rfl⟩) fun _ => Tx.within_pure _

theorem harmless_ensurePlatformSubdomain (storeId tenantId : Nat) (storeSlug : String) :
    Harmless host (ensurePlatformSubdomain settings storeId tenantId storeSlug) := by
  unfold ensurePlatformSubdomain
  split
  · exact Tx.within_pure _
  · split
    · exact Tx.within_throw _
    · refine Tx.within_bind (Tx.within_read _) fun existing => ?_
      cases existing with
      | some existing =>
          dsimp only
          split
          · exact Tx.within_throw _
          · exact Tx.within_pure _
      | none =>
          refine Tx.within_bind (Tx.within_read _) fun currentPrimary => ?_
          exact Tx.within_bind harmless_create fun _ => Tx.within_pure _

theorem harmless_fallbackOf (row : StoreDomain) (message : String) :
    Harmless host (fallbackOf row message) := by
  unfold fallbackOf
  split
  · refine Tx.within_bind (Tx.within_read _) fun fallback => ?_
    cases fallback with
    | none => exact Tx.within_throw _
    | some fallback => exact Tx.within_pure _
  · exact Tx.within_pure _

theorem loadOwnDomain_ok {tenantId domainId : Nat} {row : StoreDomain}
    (h : loadOwnDomain tenantId domainId w = .ok (row, w')) :
    w.storeDomains.get domainId = some row ∧ w' = w := by
  rw [loadOwnDomain, Tx.bind_read] at h
  cases hfound : (w.storeDomains.get domainId).filter (·.tenantId = tenantId) with
  | none =>
      rw [hfound] at h
      cases h
  | some found =>
      rw [hfound] at h
      cases h
      exact ⟨(Option.filter_eq_some_iff.mp hfound).1, rfl⟩

theorem assertUnlocked_ok {locked : Bool} {u : Unit}
    (h : assertUnlocked locked w = .ok (u, w')) : w' = w := by
  unfold assertUnlocked at h
  split at h
  · cases h
    rfl
  · cases h

theorem assertCustom_ok {domain : StoreDomain} {message : String} {u : Unit}
    (h : assertCustom domain message w = .ok (u, w')) : isCustom domain = true ∧ w' = w := by
  unfold assertCustom at h
  split at h
  · next hcustom =>
    cases h
    exact ⟨hcustom, rfl⟩
  · cases h

/-- What a check does to a row that has not been revoked, or is not the hostname's. -/
theorem recordCheck_outlives {row r : StoreDomain} {outcome : VerificationOutcome}
    (hget : w.storeDomains.get row.id = some row)
    (hother : row.hostname = host → row.verificationStatus ≠ .failed)
    (h : recordCheck row outcome w = .ok (r, w')) : Outlives host w w' := by
  intro hr
  have hsame : ∀ d ∈ w.storeDomains, decide (Schema.key d = row.id) = true → d = row := by
    intro d hd hp
    exact Table.eq_of_key hd (Table.get_eq_some.mp hget).1 (of_decide_eq_true hp)
  unfold recordCheck at h
  split at h
  · obtain ⟨-, t, -, ht, -, rfl⟩ := Slot.update_ok h
    refine hr.update ht fun d hd hp hhost hfailed => ?_
    rw [hsame d hd hp] at hhost hfailed
    exact absurd hfailed (hother hhost)
  · obtain ⟨-, t, -, ht, -, rfl⟩ := Slot.update_ok h
    exact hr.update ht fun d _ _ hhost hfailed => ⟨hhost, hfailed, rfl⟩

/-- A merchant's check refuses a revoked row. -/
theorem verifyRow_outlives {tenantId domainId : Nat} {answer : DnsAnswer} {locked : Bool}
    {r : Option StoreDomain}
    (h : verifyRow settings tenantId domainId answer locked w = .ok (r, w')) :
    Outlives host w w' := by
  obtain ⟨u, w₁, h₁, hload⟩ := Tx.bind_ok.mp h
  obtain rfl := assertUnlocked_ok h₁
  obtain ⟨row, w₂, h₂, hrest⟩ := Tx.bind_ok.mp hload
  obtain ⟨hget, rfl⟩ := loadOwnDomain_ok h₂
  split at hrest
  · cases hrest
  · split at hrest
    · cases hrest
      exact fun h => h
    · next hlive =>
      split at hrest
      · cases hrest
      · obtain ⟨r', hcheck, -⟩ := Tx.map_ok.mp hrest
        have hid : row.id = domainId := (Table.get_eq_some.mp hget).2
        exact recordCheck_outlives (by rw [hid]; exact hget) (fun _ => hlive) hcheck

/-- Deleting a row that is not the hostname's revoked one. -/
theorem deleteRow_outlives {load : Transaction StoreDomain} {domainId : Nat}
    {fallbackId : Option Nat} {r : StoreDomain}
    (hload : ∀ row w₁, load w = .ok (row, w₁) → w.storeDomains.get domainId = some row ∧ w₁ = w)
    (hother : ∀ d ∈ w.storeDomains.get domainId, d.hostname = host →
      d.verificationStatus ≠ .failed)
    (h : deleteRow load fallbackId w = .ok (r, w')) : Outlives host w w' := by
  obtain ⟨row, w₁, h₁, hdelete⟩ := Tx.bind_ok.mp h
  obtain ⟨hget, rfl⟩ := hload row w₁ h₁
  obtain ⟨n, w₂, h₂, hpromote⟩ := Tx.bind_ok.mp hdelete
  cases h₂
  obtain ⟨u, w₃, h₃, hdone⟩ := Tx.bind_ok.mp hpromote
  cases hdone
  intro hr
  refine harmless_promote fallbackId h₃ (hr.delete fun d hd hp => ?_)
  have hsame : d = r := Table.eq_of_key hd (Table.get_eq_some.mp hget).1 (of_decide_eq_true hp)
  rw [hsame]
  exact hother r hget

/-! ## The platform -/

theorem loadDomain_ok {domainId : Nat} {row : StoreDomain}
    (h : Platform.loadDomain domainId w = .ok (row, w')) :
    w.storeDomains.get domainId = some row ∧ w' = w := by
  rw [Platform.loadDomain, Tx.bind_read] at h
  cases hfound : w.storeDomains.get domainId with
  | none =>
      rw [hfound] at h
      cases h
  | some found =>
      rw [hfound] at h
      cases h
      exact ⟨rfl, rfl⟩

theorem loadCustomDomain_ok {domainId : Nat} {row : StoreDomain}
    (h : Platform.loadCustomDomain domainId w = .ok (row, w')) :
    w.storeDomains.get domainId = some row ∧ isCustom row = true ∧ w' = w := by
  obtain ⟨found, w₁, h₁, hassert⟩ := Tx.bind_ok.mp h
  obtain ⟨hget, rfl⟩ := loadDomain_ok h₁
  obtain ⟨u, w₂, h₂, hdone⟩ := Tx.bind_ok.mp hassert
  obtain ⟨hcustom, rfl⟩ := assertCustom_ok h₂
  cases hdone
  exact ⟨hget, hcustom, rfl⟩

theorem transition_ok {row r : StoreDomain} {target : DomainVerificationStatus}
    (h : Platform.transition row target w = .ok (r, w')) :
    ∃ t, w.storeDomains.update
        (fun d => d.id = row.id && d.verificationStatus = row.verificationStatus)
        (fun d => { d with verificationStatus := target }) (fun _ => rfl) = some t ∧
      w' = { w with storeDomains := t } := by
  obtain ⟨n, w₁, h₁, hcount⟩ := Tx.bind_ok.mp h
  obtain ⟨t, ht, -, rfl⟩ := Slot.updateMany_ok h₁
  split at hcount
  · cases hcount
  · obtain ⟨-, rfl⟩ := loadDomain_ok hcount
    exact ⟨t, ht, rfl⟩

theorem transition_outlives {row r : StoreDomain} {target : DomainVerificationStatus}
    (hget : w.storeDomains.get row.id = some row) (hother : row.hostname ≠ host)
    (h : Platform.transition row target w = .ok (r, w')) : Outlives host w w' := by
  obtain ⟨t, ht, rfl⟩ := transition_ok h
  intro hr
  refine hr.update ht fun d hd hp hhost _ => ?_
  have hsame : d = row := Table.eq_of_key hd (Table.get_eq_some.mp hget).1
    (of_decide_eq_true (Bool.and_eq_true_iff.mp hp).1)
  exact absurd (hsame ▸ hhost) hother

/-- What the platform has revoked is revoked. -/
theorem revoke_revoked {domainId : Nat} {row : StoreDomain}
    (h : Platform.revoke domainId w = .ok (row, w')) : Revoked row.hostname w' := by
  obtain ⟨existing, w₁, h₁, hcheck⟩ := Tx.bind_ok.mp h
  obtain ⟨hget, hcustom, rfl⟩ := loadCustomDomain_ok h₁
  split at hcheck
  · cases hcheck
  · obtain ⟨n, w₂, h₂, hcount⟩ := Tx.bind_ok.mp hcheck
    obtain ⟨t, ht, -, rfl⟩ := Slot.updateMany_ok h₂
    split at hcount
    · cases hcount
    · obtain ⟨hrow, rfl⟩ := loadDomain_ok hcount
      have hmem : existing ∈ w₁.storeDomains := (Table.get_eq_some.mp hget).1
      have hmoved := Table.mem_of_update_true ht hmem (by simp)
      have hsame : row = { existing with verificationStatus := .failed } :=
        Table.eq_of_key (Table.get_eq_some.mp hrow).1 hmoved (Table.get_eq_some.mp hrow).2
      rw [hsame]
      exact ⟨_, hmoved, rfl, rfl, hcustom⟩

/-! ## The processes -/

/-- A write that lets a revocation stand, where `Sticks` allows the write. -/
def Standing (host : String) (ℓ : Commit) (upd : World → World) : Prop :=
  ∀ w, Sticks host ℓ w → Outlives host w (upd w)

theorem commits_standing {α : Type} {ℓ : Commit} {tx : Transaction α}
    (htx : ∀ w a w', Sticks host ℓ w → tx w = .ok (a, w') → Outlives host w w') :
    Commits (Standing host) (Proc.transact ℓ tx : Service α) := by
  apply commits_transact
  intro w hsticks
  cases h : tx w with
  | ok r =>
      rw [applied_ok h]
      exact htx w r.1 r.2 hsticks h
  | error e =>
      rw [applied_error h]
      exact fun h => h

theorem commits_harmless {α : Type} {ℓ : Commit} {tx : Transaction α} (htx : Harmless host tx) :
    Commits (Standing host) (Proc.transact ℓ tx : Service α) :=
  commits_standing fun _ _ _ _ h => htx h

theorem commits_onConflict {α : Type} {K : Commit → (World → World) → Prop} {message : String}
    {p : Service α} (h : p.Commits K) : (onConflict message p).Commits K := by
  refine h.tryCatch fun err => ?_
  split
  · exact commits_throw _
  · exact commits_throw _

theorem commits_updateTls (id domainId : Nat) (tlsStatus tlsStatus' : TlsStatus) :
    Commits (Standing host) (Proc.transact (.tls id tlsStatus) (updateTls domainId tlsStatus')) :=
  commits_harmless (harmless_update fun _ => ⟨rfl, rfl, rfl⟩)

theorem commits_addDomain (hostname : String) (hosting : HostingAnswer) :
    Commits (Standing host) (addDomain hostname hosting) :=
  commits_harmless (harmless_modify fun _ => rfl)

theorem commits_removeDomain (hostname : String) (answer : ReleaseAnswer) :
    Commits (Standing host) (removeDomain hostname answer) := by
  apply Commits.bind (commits_harmless (harmless_modify fun _ => rfl))
  intro _
  split
  · exact commits_pure _
  · exact commits_throw _

theorem commits_validateNewHostname {K : Commit → (World → World) → Prop} (raw : String) :
    Commits K (validateNewHostname settings raw) := by
  unfold validateNewHostname
  split
  · exact commits_throw _
  · split
    · exact commits_throw _
    · split
      · exact commits_throw _
      · exact commits_pure _

theorem commits_assertMethodAvailable {K : Commit → (World → World) → Prop}
    (method : DomainVerificationMethod) : Commits K (assertMethodAvailable settings method) := by
  unfold assertMethodAvailable
  split
  · exact commits_throw _
  · exact commits_pure _

theorem commits_resolvePrimaryStoreId {K : Commit → (World → World) → Prop} (tenantId : Nat) :
    Commits K (resolvePrimaryStoreId tenantId) := by
  apply (commits_read _).bind
  intro store
  cases store with
  | none => exact commits_throw _
  | some store => exact commits_pure _

theorem commits_add (tenantId : Nat) (dto : AddStoreDomainDto) (token : String) :
    Commits (Standing host) (add settings tenantId dto token) := by
  apply Commits.bind (commits_validateNewHostname dto.hostname)
  intro hostname
  apply Commits.bind (commits_assertMethodAvailable dto.verificationMethod)
  intro _
  apply Commits.bind (commits_resolvePrimaryStoreId tenantId)
  intro storeId
  apply commits_onConflict
  exact commits_harmless harmless_create

theorem commits_verify (tenantId domainId : Nat) (answer : DnsAnswer) (locked : Bool)
    (hosting : HostingAnswer) :
    Commits (Standing host) (verify settings tenantId domainId answer locked hosting) := by
  refine Commits.bind (commits_standing fun _ _ _ _ h => verifyRow_outlives h) fun updated => ?_
  cases updated with
  | none => exact commits_throw _
  | some row =>
      dsimp only
      split
      · apply Commits.bind (commits_addDomain _ _)
        intro _
        split
        · exact commits_pure _
        · exact commits_updateTls _ _ _ _
      · exact commits_pure _

theorem harmless_planRemoval (tenantId domainId : Nat) :
    Harmless host (planRemoval tenantId domainId) :=
  Tx.within_bind (harmless_loadOwnDomain _ _) fun _ =>
    Tx.within_bind (harmless_assertCustom _ _) fun _ =>
      Tx.within_bind (harmless_fallbackOf _ _) fun _ => Tx.within_pure _

theorem commits_remove (tenantId domainId : Nat) (answer : ReleaseAnswer) :
    Commits (Standing host) (remove tenantId domainId answer) := by
  apply Commits.bind (commits_harmless (harmless_planRemoval _ _))
  intro plan
  apply Commits.bind (commits_removeDomain _ _)
  intro _
  apply commits_onConflict
  apply commits_standing
  intro w row w' hsticks h
  exact deleteRow_outlives (fun _ _ hload => loadOwnDomain_ok hload) hsticks h

theorem commits_refreshTls (tenantId domainId : Nat) (hosting : HostingAnswer) :
    Commits (Standing host) (refreshTls tenantId domainId hosting) := by
  refine Commits.bind (commits_harmless ?_) fun row => commits_updateTls _ _ _ _
  exact Tx.within_bind (harmless_loadOwnDomain _ _) fun row =>
    Tx.within_bind (harmless_assertCustom _ _) fun _ => Tx.within_pure _

theorem harmless_loadCustomDomain (domainId : Nat) :
    Harmless host (Platform.loadCustomDomain domainId) := by
  intro w row w' h
  obtain ⟨-, -, rfl⟩ := loadCustomDomain_ok h
  exact fun h => h

theorem commits_platformRemove (domainId : Nat) (answer : ReleaseAnswer) :
    Commits (Standing host) (Platform.remove domainId answer) := by
  refine Commits.bind (commits_harmless ?_) fun plan => ?_
  · exact Tx.within_bind (harmless_loadCustomDomain _) fun row =>
      Tx.within_bind (harmless_fallbackOf _ _) fun _ => Tx.within_pure _
  · apply Commits.bind (commits_removeDomain _ _)
    intro _
    apply commits_standing
    intro w row w' hsticks h
    exact deleteRow_outlives (fun _ _ hload => loadDomain_ok hload)
      (fun d hd hhost => absurd hhost (hsticks d hd)) h

/-- The platform leaves other hostnames alone when it works on one. -/
theorem commits_platform {domainId : Nat} {ℓ : Commit}
    {tx : StoreDomain → Transaction StoreDomain}
    (hℓ : ∀ w, Sticks host ℓ w → ∀ d ∈ w.storeDomains.get domainId, d.hostname ≠ host)
    (htx : ∀ w row r w', w.storeDomains.get row.id = some row → row.hostname ≠ host →
      tx row w = .ok (r, w') → Outlives host w w') :
    Commits (Standing host) (Proc.transact ℓ (do
      let existing ← Platform.loadCustomDomain domainId
      tx existing) : Service StoreDomain) := by
  apply commits_standing
  intro w r w' hsticks h
  obtain ⟨existing, w₁, h₁, hrest⟩ := Tx.bind_ok.mp h
  obtain ⟨hget, -, rfl⟩ := loadCustomDomain_ok h₁
  have hid : existing.id = domainId := (Table.get_eq_some.mp hget).2
  exact htx w₁ existing r w' (by rw [hid]; exact hget) (hℓ w₁ hsticks existing hget) hrest

/-- Every operation lets a revocation stand, where `Sticks` allows its writes. -/
theorem commits_handle (req : Request) : Commits (Standing host) (handle settings req) := by
  cases req <;> apply Commits.map
  case ensurePlatformSubdomain =>
      exact commits_harmless (harmless_ensurePlatformSubdomain _ _ _)
  case add tenantId dto token => apply commits_add
  case verify => exact commits_verify _ _ _ _ _
  case setPrimary => exact commits_onConflict (commits_harmless (harmless_makePrimary _ _))
  case remove => exact commits_remove _ _ _
  case refreshTls => exact commits_refreshTls _ _ _
  case platformRevoke domainId =>
      have hℓ : ∀ w, Sticks host (.platformRevoke domainId) w →
          ∀ d ∈ w.storeDomains.get domainId, d.hostname ≠ host := fun _ h => h
      apply commits_platform hℓ
      intro w row r w' hget hother h
      split at h
      · cases h
      · exact transition_outlives hget hother h
  case platformOverride domainId =>
      have hℓ : ∀ w, Sticks host (.platform domainId) w →
          ∀ d ∈ w.storeDomains.get domainId, d.hostname ≠ host := fun _ h => h
      apply commits_platform hℓ
      intro w row r w' hget hother h
      split at h
      · cases h
      · exact transition_outlives hget hother h
  case platformReverify domainId answer locked =>
      apply commits_standing
      intro w r w' hsticks h
      obtain ⟨u, w₁, h₁, hrest⟩ := Tx.bind_ok.mp h
      obtain rfl := assertUnlocked_ok h₁
      obtain ⟨existing, w₂, h₂, hcheck⟩ := Tx.bind_ok.mp hrest
      obtain ⟨hget, -, rfl⟩ := loadCustomDomain_ok h₂
      have hid : existing.id = domainId := (Table.get_eq_some.mp hget).2
      split at hcheck
      · cases hcheck
      · exact recordCheck_outlives (by rw [hid]; exact hget)
          (fun hhost => absurd hhost (hsticks existing hget)) hcheck
  case platformRemove => exact commits_platformRemove _ _

/-! ## Runs -/

/-- After a revocation the hostname is verified and served no more, in every run in which the
platform leaves it alone and no merchant deletes the revoked row. -/
theorem revocation_sticks {domainId : Nat} {row : StoreDomain} {c : DomainConfig}
    (hrevoke : Platform.revoke domainId w = .ok (row, w'))
    (hrun : Reaches settings (Sticks row.hostname) ⟨w', []⟩ c) :
    (∀ d ∈ c.state.storeDomains, d.hostname = row.hostname →
      d.verificationStatus ≠ .verified) ∧
    serves row.hostname c.state = false := by
  have hrevoked : Revoked row.hostname c.state := by
    refine listed_idle.invariant (K := Standing row.hostname) (fun _ req => commits_handle req)
      (revoke_revoked hrevoke) (fun ℓ upd s hstands hok hr => ?_) hrun
    exact hstands s hok hr
  exact ⟨hrevoked.not_verified, hrevoked.not_served⟩

/-! ### A shop under a hostname of its own -/

def plainSettings : Settings := ⟨none, [], none⟩

/-- Two tenants with a store each. -/
def twoStores : World :=
  ⟨⟨[⟨0, 0, true⟩, ⟨1, 1, true⟩], 2, by decide, by decide⟩, .empty, []⟩

/-- Request `i` adds the hostname and the next one verifies it as domain `id`, with the record
that was asked for. -/
def addAndVerify (i tenantId id : Nat) (token : String) : List (Action Request) :=
  [.accept (.add tenantId ⟨"shop.example", .dnsTxt⟩ token), .advance i, .advance i,
    .accept (.verify tenantId id (.ok [token]) true (some ⟨true, .issued⟩)),
    .advance (i + 1), .advance (i + 1), .advance (i + 1)]

/-- The hostname is served, and then the platform revokes it. -/
def revokedShop (then_ : StoreDomain → World → Bool) : Bool :=
  (exec (fun _ => handle plainSettings) (fun _ _ => True) (fun _ _ => True)
    (addAndVerify 0 0 0 "t0") ⟨twoStores, []⟩).any fun c =>
      serves "shop.example" c.state &&
        (Platform.revoke 0 c.state).toOption.any fun (row, w') =>
          row.hostname = "shop.example" && then_ row w'

theorem revokedShop_reached {then_ : StoreDomain → World → Bool} (h : revokedShop then_ = true) :
    ∃ (c : DomainConfig) (row : StoreDomain) (w' : World),
      Reaches plainSettings (fun _ _ => True) ⟨twoStores, []⟩ c ∧
      serves "shop.example" c.state = true ∧ Platform.revoke 0 c.state = .ok (row, w') ∧
      row.hostname = "shop.example" ∧ then_ row w' = true := by
  obtain ⟨c, hc, h⟩ := exec_any h
  obtain ⟨hserved, h⟩ := Bool.and_eq_true_iff.mp h
  obtain ⟨⟨row, w'⟩, hrevoke, h⟩ := Tx.exists_ok h
  obtain ⟨hhost, hthen⟩ := Bool.and_eq_true_iff.mp h
  exact ⟨c, row, w', hc, hserved, hrevoke, of_decide_eq_true hhost, hthen⟩

/-- The merchant has the row checked again, and another merchant adds the hostname: neither
brings it back. -/
theorem revocation_sticks_checked :
    ∃ (c₀ c : DomainConfig) (row : StoreDomain) (w' : World),
      serves row.hostname c₀.state = true ∧ Platform.revoke 0 c₀.state = .ok (row, w') ∧
      Reaches plainSettings (Sticks row.hostname) ⟨w', []⟩ c ∧ c.flights.length = 2 ∧
      serves row.hostname c.state = false := by
  have hrun : revokedShop (fun _ w' =>
      (exec (fun _ => handle plainSettings) (fun _ _ => True) (Sticks "shop.example")
        [.accept (.verify 0 0 (.ok ["t0"]) true (some ⟨true, .issued⟩)), .advance 0,
          .accept (.add 1 ⟨"shop.example", .dnsTxt⟩ "t1"), .advance 1, .advance 1]
        ⟨w', []⟩).any fun c => decide (c.flights.length = 2)) = true := by decide +kernel
  obtain ⟨c₀, row, w', -, hserved, hrevoke, hhost, h⟩ := revokedShop_reached hrun
  obtain ⟨c, hc, hlength⟩ := exec_any h
  rw [← hhost] at hserved hc
  exact ⟨c₀, c, row, w', hserved, hrevoke, hc, of_decide_eq_true hlength,
    (revocation_sticks hrevoke hc).2⟩

/-- A request of a merchant. -/
def Request.isMerchant : Request → Bool
  | .add .. | .verify .. | .setPrimary .. | .remove .. | .refreshTls .. => true
  | .ensurePlatformSubdomain .. | .platformRevoke _ | .platformOverride _
  | .platformReverify .. | .platformRemove .. => false

/-- The merchant removes the revoked domain, adds the hostname again and verifies it. -/
theorem revoked_hostname_served :
    ∃ (c₀ c : DomainConfig) (row : StoreDomain) (w' : World),
      Reaches plainSettings (fun _ _ => True) ⟨twoStores, []⟩ c₀ ∧
      Platform.revoke 0 c₀.state = .ok (row, w') ∧
      Run (fun _ => handle plainSettings) (fun req _ => req.isMerchant = true) (fun _ _ => True)
        ⟨w', []⟩ c ∧
      (∃ d ∈ c.state.storeDomains, d.hostname = row.hostname ∧
        d.verificationStatus = .verified) ∧
      serves row.hostname c.state = true := by
  have hrun : revokedShop (fun _ w' =>
      (exec (fun _ => handle plainSettings) (fun req _ => req.isMerchant = true) (fun _ _ => True)
        ([.accept (.remove 0 0 .released), .advance 0, .advance 0, .advance 0] ++
          addAndVerify 1 0 1 "t1") ⟨w', []⟩).any fun c =>
          decide (∃ d ∈ c.state.storeDomains.rows, d.hostname = "shop.example" ∧
            d.verificationStatus = .verified) && serves "shop.example" c.state) = true := by
    decide +kernel
  obtain ⟨c₀, row, w', hc₀, -, hrevoke, hhost, h⟩ := revokedShop_reached hrun
  obtain ⟨c, hc, h⟩ := exec_any h
  obtain ⟨hverified, hserved⟩ := Bool.and_eq_true_iff.mp h
  obtain ⟨d, hd, hdhost, hstatus⟩ := of_decide_eq_true hverified
  refine ⟨c₀, c, row, w', hc₀, hrevoke, hc, ⟨d, hd, hdhost.trans hhost.symm, hstatus⟩, ?_⟩
  rw [hhost]
  exact hserved

end PrintForge.StoreDomains
