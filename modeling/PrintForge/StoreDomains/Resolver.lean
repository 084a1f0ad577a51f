import PrintForge.StoreDomains.Agreement
import PrintForge.Subscriptions.Schema

/-!
# Resolving a host

A request to a storefront names a host. The resolver looks the row of the host up, together with
the hostname of the store's primary domain, and refuses a custom domain that is not verified or
has no certificate. What it serves comes with a canonical origin: that of the primary domain, if
the store has one.

A custom domain has to pass the same gate before it is made primary. It stays primary when the
platform revokes it or its certificate is lost, and then the canonical origin of every other host
of the store is one that is refused.
-/

namespace PrintForge

inductive TenantStatus where
  | active
  | suspended
  | pendingDeletion
  | deleted
deriving DecidableEq, Repr

inductive StoreStatus where
  | active
  | disabled
  | draft
deriving DecidableEq, Repr

end PrintForge

namespace PrintForge.StoreDomains

open Relational Concurrent Subscriptions

variable {settings : Settings} {ℓ : Commit} {w w' : World} {host : String}

/-- What is kept of a row for its lookup, with the hostname of the store's primary domain. -/
structure StoreDomainLookupRow where
  id : Nat
  hostname : String
  storeId : Nat
  tenantId : Nat
  type : Option StoreDomainType
  verificationStatus : DomainVerificationStatus
  tlsStatus : Option TlsStatus
  isPrimary : Bool
  primaryHostname : Option String
deriving DecidableEq, Repr

def lookupRow (w : World) (found : StoreDomain) : StoreDomainLookupRow where
  id := found.id
  hostname := found.hostname
  storeId := found.storeId
  tenantId := found.tenantId
  type := found.type
  verificationStatus := found.verificationStatus
  tlsStatus := found.tlsStatus
  isPrimary := found.isPrimary
  primaryHostname := (w.storeDomains.findFirst fun d =>
    d.storeId = found.storeId && d.isPrimary).map (·.hostname)

def lookup (host : String) (w : World) : Option StoreDomainLookupRow :=
  (w.storeDomains.findFirst (·.hostname = host)).map (lookupRow w)

structure StoreContext where
  storeId : Nat
  tenantId : Nat
  storeDomainId : Nat
  isPrimary : Bool
  canonicalOrigin : String
deriving DecidableEq, Repr

/-- What is read afresh of the store and the tenant of a row. -/
structure Liveness where
  store : Option StoreStatus
  tenant : Option TenantStatus
  subscription : Option SubscriptionStatus
deriving DecidableEq, Repr

def storeNotFound : HttpError := .notFound "Store not found"

def assertLive (live : Liveness) : Except HttpError Unit :=
  if live.store ≠ some .active || live.tenant ≠ some .active ||
      live.subscription = some .expired then
    throw (.other "This store is currently unavailable")
  else
    return ()

/-- A custom domain, which a row without a type is too, has to be verified and to have its
certificate. -/
def assertServed (row : StoreDomainLookupRow) : Except HttpError Unit :=
  if row.type.getD .custom = .custom then
    if row.verificationStatus = .verified && row.tlsStatus.getD .pending = .issued then
      return ()
    else
      throw storeNotFound
  else
    return ()

def resolveHost (live : StoreDomainLookupRow → Liveness) (host : String) (scheme : Scheme)
    (w : World) : Except HttpError StoreContext :=
  match lookup host w with
  | none => throw storeNotFound
  | some row => do
      assertServed row
      assertLive (live row)
      return {
        storeId := row.storeId, tenantId := row.tenantId, storeDomainId := row.id
        isPrimary := row.isPrimary
        canonicalOrigin := originOf scheme (row.primaryHostname.getD row.hostname) }

/-- The gate is the same for the row and for what is kept of it. -/
theorem assertServed_ok {found : StoreDomain} {u : Unit}
    (h : assertServed (lookupRow w found) = .ok u) : passesServingGate found = true := by
  unfold assertServed at h
  by_cases hcustom : (lookupRow w found).type.getD .custom = .custom
  · rw [if_pos hcustom] at h
    split at h
    · next hserved =>
      rw [passesServingGate]
      exact Bool.or_eq_true_iff.mpr (.inr hserved)
    · cases h
  · have hplatform : isCustom found = false := decide_eq_false hcustom
    rw [passesServingGate, hplatform]
    rfl

/-- The hostname of the canonical origin is that of the store's primary domain, or there is no
such domain and it is the row's own. -/
theorem primaryHostname_getD (w : World) (found : StoreDomain) :
    (lookupRow w found).primaryHostname.getD found.hostname = found.hostname ∨
      ∃ d ∈ w.storeDomains, d.isPrimary = true ∧
        (lookupRow w found).primaryHostname.getD found.hostname = d.hostname := by
  unfold lookupRow
  cases hprimary : w.storeDomains.findFirst fun d => d.storeId = found.storeId && d.isPrimary with
  | none => exact .inl rfl
  | some d =>
      obtain ⟨hmem, hp⟩ := Table.findFirst_some hprimary
      exact .inr ⟨d, hmem, (Bool.and_eq_true_iff.mp hp).2, rfl⟩

/-- What is resolved passes the gate, and its canonical origin is as the row says. -/
theorem resolveHost_ok {live : StoreDomainLookupRow → Liveness} {scheme : Scheme}
    {context : StoreContext} (h : resolveHost live host scheme w = .ok context) :
    ∃ found ∈ w.storeDomains, passesServingGate found = true ∧ context.canonicalOrigin =
      originOf scheme ((lookupRow w found).primaryHostname.getD found.hostname) := by
  unfold resolveHost lookup at h
  cases hfound : w.storeDomains.findFirst (·.hostname = host) with
  | none =>
      rw [hfound] at h
      cases h
  | some found =>
      rw [hfound] at h
      dsimp only [Option.map_some] at h
      refine ⟨found, (Table.findFirst_some hfound).1, ?_⟩
      cases hserved : assertServed (lookupRow w found) with
      | error e =>
          rw [hserved] at h
          cases h
      | ok u =>
          rw [hserved] at h
          cases hlive : assertLive (live (lookupRow w found)) with
          | error e =>
              rw [hlive] at h
              cases h
          | ok u' =>
              rw [hlive] at h
              cases h
              exact ⟨assertServed_ok hserved, rfl⟩

/-- A row that passes the gate has its hostname served. -/
theorem serves_of_mem {d : StoreDomain} (hd : d ∈ w.storeDomains)
    (hgate : passesServingGate d = true) : serves d.hostname w = true := by
  unfold serves
  cases hfound : w.storeDomains.findFirst (·.hostname = d.hostname) with
  | none =>
      have hnone := Table.findFirst_none hfound d hd
      simp at hnone
  | some found =>
      obtain ⟨hmem, hhost⟩ := Table.findFirst_some hfound
      have hsame : found = d := Table.eq_of_clash hmem hd (.inl (of_decide_eq_true hhost))
      rw [hsame]
      exact hgate

theorem exists_of_serves (h : serves host w = true) :
    ∃ d ∈ w.storeDomains, d.hostname = host ∧ passesServingGate d = true := by
  obtain ⟨d, hd, hgate⟩ := (Option.any_eq_true ..).mp h
  obtain ⟨hmem, hhost⟩ := Table.findFirst_some hd
  exact ⟨d, hmem, of_decide_eq_true hhost, hgate⟩

/-! ## Primary domains that are served -/

/-- Every primary domain passes the gate. -/
def PrimariesServed (w : World) : Prop :=
  ∀ d ∈ w.storeDomains, d.isPrimary = true → passesServingGate d = true

/-- A primary domain is not revoked, and does not lose its certificate. -/
def SparesPrimary : Commit → World → Prop
  | .platformRevoke id, w => ∀ d ∈ w.storeDomains.get id, d.isPrimary = false
  | .tls id tlsStatus, w =>
      ∀ d ∈ w.storeDomains.get id, d.isPrimary = true → tlsStatus = .issued
  | .inspect, _ | .add, _ | .platformSubdomain, _ | .verify _, _ | .setPrimary _, _ | .attach, _
  | .detach _, _ | .remove _ _, _ | .platform _, _ | .platformRemove _ _, _ => True

instance : ∀ ℓ w, Decidable (SparesPrimary ℓ w)
  | .platformRevoke id, w =>
      inferInstanceAs (Decidable (∀ d ∈ w.storeDomains.get id, d.isPrimary = false))
  | .tls id tlsStatus, w => inferInstanceAs (Decidable (∀ d ∈ w.storeDomains.get id,
      d.isPrimary = true → tlsStatus = .issued))
  | .inspect, _ | .add, _ | .platformSubdomain, _ | .verify _, _ | .setPrimary _, _ | .attach, _
  | .detach _, _ | .remove _ _, _ | .platform _, _ | .platformRemove _ _, _ =>
      inferInstanceAs (Decidable True)

theorem passesServingGate_iff {d : StoreDomain} : passesServingGate d = true ↔
    isCustom d = false ∨
      d.verificationStatus = .verified ∧ d.tlsStatus.getD .pending = .issued := by
  simp [passesServingGate]

theorem passesServingGate_platform {d : StoreDomain} (h : isCustom d = false) :
    passesServingGate d = true := by
  rw [passesServingGate, h]
  rfl

/-- A rewrite that makes no row primary leaves the primary rows served, or makes one primary that
is served. -/
theorem Rewrites.served {f : StoreDomain → StoreDomain} (h : Rewrites ℓ w f)
    (hok : SparesPrimary ℓ w) (hw : PrimariesServed w) {d : StoreDomain}
    (hd : d ∈ w.storeDomains) (hprimary : (f d).isPrimary = true) :
    passesServingGate (f d) = true := by
  cases h with
  | @status k status hf hℓ =>
      obtain hsame | ⟨hk, hchanged⟩ := hf d
      · rw [hsame] at hprimary ⊢
        exact hw d hd hprimary
      · have hbefore : d.isPrimary = true := by rw [hchanged] at hprimary; exact hprimary
        obtain rfl | rfl := hℓ
        · have hgate := passesServingGate_iff.mp (hw d hd hbefore)
          rw [hchanged]
          exact passesServingGate_iff.mpr (hgate.imp_right fun hserved => ⟨rfl, hserved.2⟩)
        · have hget : w.storeDomains.get k = some d := Table.get_eq_some.mpr ⟨hd, hk⟩
          have hnot := hok d hget
          rw [hbefore] at hnot
          cases hnot
  | @tls k tlsStatus hf hℓ =>
      rw [hf] at hprimary ⊢
      subst hℓ
      split at hprimary
      · next hk =>
        have hbefore : d.isPrimary = true := hprimary
        have hget : w.storeDomains.get k = some d := Table.get_eq_some.mpr ⟨hd, hk⟩
        have hissued : tlsStatus = .issued := hok d hget hbefore
        have hgate := passesServingGate_iff.mp (hw d hd hbefore)
        rw [if_pos hk, hissued]
        exact passesServingGate_iff.mpr (hgate.imp_right fun hserved => ⟨hserved.1, rfl⟩)
      · next hk =>
        rw [if_neg hk]
        exact hw d hd hprimary
  | @primary row hrow hgate hf =>
      rw [hf] at hprimary ⊢
      split at hprimary
      · next hstore =>
        have hsame : d = row :=
          Table.eq_of_key hd (Table.get_eq_some.mp hrow).1 (of_decide_eq_true hprimary)
        rw [if_pos hstore, hsame]
        exact hgate
      · next hstore =>
        rw [if_neg hstore]
        exact hw d hd hprimary

theorem Change.primariesServed (h : Change ℓ w w') (hok : SparesPrimary ℓ w)
    (hw : PrimariesServed w) : PrimariesServed w' := by
  intro d hd hprimary
  have hget : w'.storeDomains.get d.id = some d := Table.get_key hd
  cases h with
  | none h =>
      rw [h] at hd
      exact hw d hd hprimary
  | create hnext hrows hnew =>
      rw [hrows] at hget
      split at hget
      · cases hget
        exact passesServingGate_platform (hnew hprimary)
      · exact hw d (Table.get_eq_some.mp hget).1 hprimary
  | rewrite hnext hrows hf =>
      rw [hrows] at hget
      obtain ⟨d₀, hd₀, rfl⟩ := Option.map_eq_some_iff.mp hget
      exact hf.served hok hw (Table.get_eq_some.mp hd₀).1 hprimary
  | delete hℓ hdeleted hcustom hnext hrows hfallback =>
      rw [hrows] at hget
      split at hget
      · cases hget
      · obtain ⟨e, he, hmarked⟩ := Option.map_eq_some_iff.mp hget
        split at hmarked
        · next hk =>
          obtain ⟨-, e', he', hplatform, -⟩ := hfallback _ hk
          obtain rfl : e = e' := Option.some.inj (he.symm.trans he')
          subst hmarked
          exact passesServingGate_platform hplatform
        · subst hmarked
          exact hw e (Table.get_eq_some.mp he).1 hprimary

/-- In every run that spares primary domains, whatever is resolved comes with a canonical origin
whose host is served. -/
theorem canonical_origin_served (hw : PrimariesServed w) {c : DomainConfig}
    (hrun : Reaches settings SparesPrimary ⟨w, []⟩ c) {live : StoreDomainLookupRow → Liveness}
    {scheme : Scheme} {context : StoreContext}
    (h : resolveHost live host scheme c.state = .ok context) :
    ∃ canonical, context.canonicalOrigin = originOf scheme canonical ∧
      serves canonical c.state = true := by
  have hserved : PrimariesServed c.state :=
    reaches_invariant (fun ℓ w w' hw hok hchange => hchange.primariesServed hok hw) hw hrun
  obtain ⟨found, hmem, hgate, horigin⟩ := resolveHost_ok h
  refine ⟨_, horigin, ?_⟩
  obtain hown | ⟨d, hd, hprimary, hother⟩ := primaryHostname_getD c.state found
  · rw [hown]
    exact serves_of_mem hmem hgate
  · rw [hother]
    exact serves_of_mem hd (hserved d hd hprimary)

/-! ### A shop that moves to a hostname of its own -/

def storefrontSettings : Settings := ⟨some "stores.example", [], none⟩

def allLive (_ : StoreDomainLookupRow) : Liveness := ⟨some .active, some .active, none⟩

/-- A store, its tenant, and no domain yet. -/
def newStore : World :=
  ⟨⟨[⟨0, 0, true⟩], 1, PaymentAccounts.key_lt_primaryStore,
    PaymentAccounts.consistent_primaryStore⟩, .empty, []⟩

/-- The store gets a platform subdomain; its merchant adds a hostname, verifies it and makes it
primary. -/
def moves : List (Action Request) :=
  [.accept (.ensurePlatformSubdomain 0 0 "shop"), .advance 0,
    .accept (.add 0 ⟨"shop.example", .dnsTxt⟩ "t0"), .advance 1, .advance 1,
    .accept (.verify 0 1 (.ok ["t0"]) true (some ⟨true, .issued⟩)), .advance 2, .advance 2,
    .advance 2, .accept (.setPrimary 0 1), .advance 3]

theorem newStore_primaries : PrimariesServed newStore :=
  fun d hd => absurd hd (Table.not_mem_empty d)

/-- The platform subdomain then has the new hostname as its canonical origin. -/
theorem canonical_origin_served_moved :
    ∃ (c : DomainConfig) (context : StoreContext),
      resolveHost allLive "shop.stores.example" .https c.state = .ok context ∧
      context.canonicalOrigin = "https://shop.example" ∧
      ∃ canonical, context.canonicalOrigin = originOf .https canonical ∧
        serves canonical c.state = true := by
  have hrun : (exec (fun _ => handle storefrontSettings) (fun _ _ => True) SparesPrimary moves
      ⟨newStore, []⟩).any (fun c =>
        (resolveHost allLive "shop.stores.example" .https c.state).toOption.any fun context =>
          decide (context.canonicalOrigin = "https://shop.example")) = true := by decide +kernel
  obtain ⟨c, hc, h⟩ := exec_any hrun
  obtain ⟨context, hcontext, horigin⟩ := Tx.exists_ok h
  exact ⟨c, context, hcontext, of_decide_eq_true horigin,
    canonical_origin_served newStore_primaries hc hcontext⟩

theorem originOf_injective {scheme : Scheme} {a b : String}
    (h : originOf scheme a = originOf scheme b) : a = b :=
  (String.append_right_inj _).mp h

/-- The platform revokes the new hostname: it stays primary, and the canonical origin of the
platform subdomain is refused. -/
theorem canonical_origin_refused :
    ¬ ∀ (settings : Settings) (stores : Table PaymentAccounts.Store) (c : DomainConfig)
      (live : StoreDomainLookupRow → Liveness) (host : String) (scheme : Scheme)
      (context : StoreContext),
      Reaches settings (fun _ _ => True) ⟨⟨stores, .empty, []⟩, []⟩ c →
      resolveHost live host scheme c.state = .ok context →
      ∃ canonical, context.canonicalOrigin = originOf scheme canonical ∧
        serves canonical c.state = true := by
  have hrun : (exec (fun _ => handle storefrontSettings) (fun _ _ => True) (fun _ _ => True)
      (moves ++ [.accept (.platformRevoke 1), .advance 4]) ⟨newStore, []⟩).any (fun c =>
        (resolveHost allLive "shop.stores.example" .https c.state).toOption.any fun context =>
          decide (context.canonicalOrigin = "https://shop.example") &&
            !serves "shop.example" c.state) = true := by decide +kernel
  obtain ⟨c, hc, h⟩ := exec_any hrun
  obtain ⟨context, hcontext, h⟩ := Tx.exists_ok h
  obtain ⟨horigin, hrefused⟩ := Bool.and_eq_true_iff.mp h
  intro hall
  obtain ⟨canonical, hcanonical, hserved⟩ := hall _ _ c _ _ _ context hc hcontext
  have hsame : originOf .https canonical = originOf .https "shop.example" :=
    hcanonical.symm.trans (of_decide_eq_true horigin)
  rw [originOf_injective hsame] at hserved
  rw [hserved] at hrefused
  cases hrefused

end PrintForge.StoreDomains
