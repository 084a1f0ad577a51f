import PrintForge.Concurrent.Discipline
import PrintForge.StoreDomains.Resolver

/-!
# The cache of hosts

The resolver keeps the row of a host, or that there is none, for a while. Whoever writes to the
domains removes the hosts it has touched from the cache once the write has committed. A look-up
that misses reads the row and stores it in a later action, and a removal may come in between: what
is stored then is the row of before the write.

The cache, the clock and the tables are one state. What is read of the store and the tenant of a
row is never cached and comes with the request.
-/

namespace PrintForge.StoreDomains

open Relational Concurrent

/-- What is cached for a host: its row, or that it has none. -/
structure CacheEntry where
  row : Option StoreDomainLookupRow
  expiresAt : Int
deriving DecidableEq, Repr

structure CachedWorld where
  world : World
  entries : String → Option CacheEntry
  now : Int

/-- The actions. A write to the tables is listed with what it makes of them. -/
inductive CacheCommit where
  | get (host : String)
  | store (host : String) (row : Option StoreDomainLookupRow)
  | bust (host : Option String)
  | tables (upd : World → World)
  | tick

abbrev CacheTransaction := Tx CachedWorld HttpError

abbrev CacheService := Proc CachedWorld CacheCommit HttpError

def storeDomainLookupCacheTtlMs : Int := 15000

namespace LookupCache

/-- What is cached for the host. An entry that has expired is removed. -/
def get (host : String) : CacheTransaction (Option (Option StoreDomainLookupRow)) := fun s =>
  match s.entries host with
  | none => .ok (none, s)
  | some entry =>
      if entry.expiresAt ≤ s.now then
        .ok (none, { s with entries := Function.update s.entries host none })
      else
        .ok (some entry.row, s)

def set (host : String) (row : Option StoreDomainLookupRow) : CacheTransaction Unit :=
  modify fun s => { s with
    entries := Function.update s.entries host
      (some ⟨row, s.now + storeDomainLookupCacheTtlMs⟩) }

/-- Remove one host, or all. -/
def bust (host : Option String) : CacheTransaction Unit :=
  match host with
  | some host => modify fun s => { s with entries := Function.update s.entries host none }
  | none => modify fun s => { s with entries := fun _ => none }

end LookupCache

/-! ## The processes -/

def lookupCached (host : String) : CacheService (Option StoreDomainLookupRow) := do
  let cached ← Proc.transact (.get host) (LookupCache.get host)
  match cached with
  | some row => return row
  | none => do
      let row ← Proc.read fun s : CachedWorld => lookup host s.world
      Proc.transact (.store host row) (LookupCache.set host row)
      return row

/-- What is made of the row of a host. -/
def respond (live : StoreDomainLookupRow → Liveness) (scheme : Scheme) :
    Option StoreDomainLookupRow → Except HttpError StoreContext
  | none => throw storeNotFound
  | some row => do
      assertServed row
      assertLive (live row)
      return {
        storeId := row.storeId, tenantId := row.tenantId, storeDomainId := row.id
        isPrimary := row.isPrimary
        canonicalOrigin := originOf scheme (row.primaryHostname.getD row.hostname) }

/-- Without a cache this is the resolver. -/
theorem respond_lookup (live : StoreDomainLookupRow → Liveness) (host : String) (scheme : Scheme)
    (w : World) : respond live scheme (lookup host w) = resolveHost live host scheme w := by
  unfold resolveHost
  cases lookup host w <;> rfl

def resolveHostCached (live : StoreDomainLookupRow → Liveness) (host : String) (scheme : Scheme) :
    CacheService (Option StoreContext) := do
  let row ← lookupCached host
  .done ((respond live scheme row).map some)

/-- A transaction over the tables. -/
def onTables {α : Type} (tx : Transaction α) : CacheService α :=
  Proc.transact (.tables (Proc.applied tx)) fun s =>
    (tx s.world).map fun (a, w) => (a, { s with world := w })

def bustAll : List String → CacheService Unit
  | [] => return ()
  | host :: hosts => do
      Proc.transact (.bust (some host)) (LookupCache.bust (some host))
      bustAll hosts

/-- The platform's revocation, with its removal from the cache. -/
def revokeCached (domainId : Nat) : CacheService Unit := do
  let row ← onTables (Platform.revoke domainId)
  bustAll [row.hostname]

/-- Any other write to the domains, with what it removes from the cache. -/
inductive CacheRequest where
  | resolveHost (live : StoreDomainLookupRow → Liveness) (host : String) (scheme : Scheme)
  | platformRevoke (domainId : Nat)
  | write (upd : World → World) (hosts : List String)
  | bust
  | tick (elapsed : Nat)

def serveCached : CacheRequest → CacheService (Option StoreContext)
  | .resolveHost live host scheme => resolveHostCached live host scheme
  | .platformRevoke domainId => do
      revokeCached domainId
      return none
  | .write upd hosts => do
      onTables (modify upd)
      bustAll hosts
      return none
  | .bust => do
      Proc.transact (.bust none) (LookupCache.bust none)
      return none
  | .tick elapsed => do
      Proc.transact .tick (modify fun s : CachedWorld => { s with now := s.now + elapsed })
      return none

abbrev CacheConfig := Config CachedWorld CacheRequest CacheCommit HttpError (Option StoreContext)

abbrev CacheRun (ok : CacheCommit → CachedWorld → Prop) : CacheConfig → CacheConfig → Prop :=
  Run (fun _ => serveCached) (fun _ _ => True) ok

/-! ## Hosts that are not served -/

/-- A row of the host that passes the gate is stored only while the host is served. -/
def StoresFresh (host : String) : CacheCommit → CachedWorld → Prop
  | .store host' row, s => host' = host → ∀ r ∈ row, assertServed r = .ok () →
      serves host s.world = true
  | .get _, _ | .bust _, _ | .tables _, _ | .tick, _ => True

/-- No write to the tables makes the host served. -/
def Unrestored (host : String) : CacheCommit → CachedWorld → Prop
  | .tables upd, s => serves host (upd s.world) = false
  | .get _, _ | .store _ _, _ | .bust _, _ | .tick, _ => True

/-- The host is not served, and the cache does not say that it is. -/
structure Closed (host : String) (s : CachedWorld) : Prop where
  unserved : serves host s.world = false
  cached : ∀ entry ∈ s.entries host, ∀ row ∈ entry.row, assertServed row ≠ .ok ()

variable {host : String} {s s' : CachedWorld} {ℓ : CacheCommit}

/-- A row that is read of an unserved host does not pass the gate. -/
theorem lookup_unserved {w : World} (h : serves host w = false) :
    ∀ row ∈ lookup host w, assertServed row ≠ .ok () := by
  intro row hrow hserved
  obtain ⟨found, hfound, rfl⟩ := Option.map_eq_some_iff.mp hrow
  have hgate := assertServed_ok hserved
  rw [serves, hfound, Option.any_some, hgate] at h
  cases h

theorem respond_unserved {live : StoreDomainLookupRow → Liveness} {scheme : Scheme}
    {row : Option StoreDomainLookupRow} (h : ∀ r ∈ row, assertServed r ≠ .ok ())
    (context : StoreContext) : respond live scheme row ≠ .ok context := by
  intro hok
  cases row with
  | none => cases hok
  | some r =>
      cases hserved : assertServed r with
      | ok u => exact h r rfl hserved
      | error e =>
          rw [respond, hserved] at hok
          cases hok

/-! ## What the actions do -/

/-- What an action does. -/
def Effect : CacheCommit → CachedWorld → CachedWorld → Prop
  | .get host, s, s' => s'.world = s.world ∧
      (s'.entries = s.entries ∨ s'.entries = Function.update s.entries host none)
  | .store host row, s, s' => s'.world = s.world ∧
      ∃ expiresAt, s'.entries = Function.update s.entries host (some ⟨row, expiresAt⟩)
  | .bust host, s, s' => s'.world = s.world ∧
      s'.entries = fun h => if host.all (· = h) then none else s.entries h
  | .tables upd, s, s' => s'.world = upd s.world ∧ s'.entries = s.entries
  | .tick, s, s' => s'.world = s.world ∧ s'.entries = s.entries

/-- A listed action does what its label says. -/
def Acts (ℓ : CacheCommit) (upd : CachedWorld → CachedWorld) : Prop := ∀ s, Effect ℓ s (upd s)

/-- What comes of looking into the cache. -/
theorem get_cases (host : String) (s : CachedWorld) :
    (∃ s', LookupCache.get host s = .ok (none, s') ∧ Effect (.get host) s s') ∨
      ∃ entry, s.entries host = some entry ∧ LookupCache.get host s = .ok (some entry.row, s) := by
  unfold LookupCache.get
  split
  · exact .inl ⟨s, rfl, rfl, .inl rfl⟩
  · next entry hentry =>
    split
    · exact .inl ⟨_, rfl, rfl, .inr rfl⟩
    · exact .inr ⟨entry, hentry, rfl⟩

theorem acts_get (host : String) :
    Proc.Commits Acts (Proc.transact (.get host) (LookupCache.get host) : CacheService _) := by
  refine Proc.commits_transact fun s => ?_
  obtain ⟨s', hget, heffect⟩ | ⟨entry, -, hget⟩ := get_cases host s
  · rw [Proc.applied_ok hget]
    exact heffect
  · rw [Proc.applied_ok hget]
    exact ⟨rfl, .inl rfl⟩

theorem acts_set (host : String) (row : Option StoreDomainLookupRow) :
    Proc.Commits Acts
      (Proc.transact (.store host row) (LookupCache.set host row) : CacheService _) :=
  Proc.commits_transact fun _ => ⟨rfl, _, rfl⟩

theorem acts_bust (host : Option String) :
    Proc.Commits Acts (Proc.transact (.bust host) (LookupCache.bust host) : CacheService _) := by
  refine Proc.commits_transact fun s => ?_
  cases host with
  | none => exact ⟨rfl, rfl⟩
  | some host =>
      refine ⟨rfl, funext fun h => ?_⟩
      show Function.update s.entries host none h = _
      by_cases hh : host = h
      · subst hh
        simp
      · rw [Function.update_of_ne (Ne.symm hh)]
        simp [hh]

theorem acts_onTables {α : Type} (tx : Transaction α) :
    Proc.Commits Acts (onTables tx : CacheService α) := by
  refine Proc.commits_transact fun s => ?_
  cases htx : tx s.world with
  | ok r =>
      obtain ⟨a, w⟩ := r
      rw [Proc.applied, htx]
      exact ⟨(Proc.applied_ok htx).symm, rfl⟩
  | error e =>
      rw [Proc.applied, htx]
      exact ⟨(Proc.applied_error htx).symm, rfl⟩

theorem acts_bustAll (hosts : List String) : Proc.Commits Acts (bustAll hosts) := by
  induction hosts with
  | nil => exact Proc.commits_pure _
  | cons host hosts ih => exact Proc.Commits.bind (acts_bust _) fun _ => ih

theorem acts_serve (req : CacheRequest) : Proc.Commits Acts (serveCached req) := by
  cases req with
  | resolveHost live host scheme =>
      refine Proc.Commits.bind (Proc.Commits.bind (acts_get host) fun cached => ?_) fun row => ?_
      · cases cached with
        | some row => exact Proc.commits_pure _
        | none =>
            refine Proc.Commits.bind (Proc.commits_read _) fun row => ?_
            exact Proc.Commits.bind (acts_set host row) fun _ => Proc.commits_pure _
      · trivial
  | platformRevoke domainId =>
      refine Proc.Commits.bind ?_ fun _ => Proc.commits_pure _
      exact Proc.Commits.bind (acts_onTables _) fun _ => acts_bustAll _
  | write upd hosts =>
      refine Proc.Commits.bind (acts_onTables _) fun _ => ?_
      exact Proc.Commits.bind (acts_bustAll _) fun _ => Proc.commits_pure _
  | bust => exact Proc.Commits.bind (acts_bust none) fun _ => Proc.commits_pure _
  | tick elapsed =>
      refine Proc.Commits.bind ?_ fun _ => Proc.commits_pure _
      exact Proc.commits_transact fun _ => ⟨rfl, rfl⟩

/-- Where nothing stale is stored and the host is not restored, a closed host stays closed. -/
theorem Closed.act (h : Closed host s) (hact : Effect ℓ s s') (hfresh : StoresFresh host ℓ s)
    (hunrestored : Unrestored host ℓ s) : Closed host s' := by
  cases ℓ with
  | get host' =>
      obtain ⟨hworld, hentries⟩ := hact
      refine ⟨by rw [hworld]; exact h.unserved, fun entry hentry => ?_⟩
      obtain hsame | hremoved := hentries
      · exact h.cached entry (by rw [← hsame]; exact hentry)
      · rw [hremoved] at hentry
        by_cases hh : host = host'
        · simp [hh] at hentry
        · rw [Function.update_of_ne hh] at hentry
          exact h.cached entry hentry
  | store host' row =>
      obtain ⟨hworld, expiresAt, hentries⟩ := hact
      refine ⟨by rw [hworld]; exact h.unserved, fun entry hentry => ?_⟩
      rw [hentries] at hentry
      by_cases hh : host = host'
      · subst hh
        rw [Function.update_self] at hentry
        cases hentry
        intro r hr hserved
        have hnow := hfresh rfl r hr hserved
        rw [h.unserved] at hnow
        cases hnow
      · rw [Function.update_of_ne hh] at hentry
        exact h.cached entry hentry
  | bust host' =>
      obtain ⟨hworld, hentries⟩ := hact
      refine ⟨by rw [hworld]; exact h.unserved, fun entry hentry => ?_⟩
      rw [hentries] at hentry
      dsimp only at hentry
      split at hentry
      · cases hentry
      · exact h.cached entry hentry
  | tables f =>
      obtain ⟨hworld, hentries⟩ := hact
      exact ⟨by rw [hworld]; exact hunrestored, by rw [hentries]; exact h.cached⟩
  | tick =>
      obtain ⟨hworld, hentries⟩ := hact
      exact ⟨by rw [hworld]; exact h.unserved, by rw [hentries]; exact h.cached⟩

/-! ## Look-ups of a closed host -/

/-- The host is closed, and every action of every process keeps it so. -/
def closedDiscipline (host : String) : Discipline CachedWorld CacheCommit where
  inv := Closed host
  ok ℓ s := StoresFresh host ℓ s ∧ Unrestored host ℓ s
  rely _ _ _ := True
  guar _ _ _ s' := Closed host s'
  rely_refl _ _ := trivial
  rely_trans _ _ := trivial
  inv_guar _ _ h := h
  rely_guar _ _ _ _ := trivial

/-- What only acts as listed keeps the host closed. -/
theorem safe_of_acts {α : Type} {i : Nat} {p : CacheService α} (h : p.Commits Acts)
    (s : CachedWorld) : (closedDiscipline host).Safe i (fun _ _ => True) p s := by
  have hwithin : p.Within Effect := h.within fun _ _ s hacts => hacts s
  exact Discipline.safe_of_within hwithin fun _ _ _ hclosed hok h =>
    Closed.act hclosed h hok.1 hok.2

/-- A look-up that starts while the host is closed finds no row that passes the gate. -/
theorem safe_lookupCached {i : Nat} (s : CachedWorld) :
    (closedDiscipline host).Safe i
      (fun _ r => ∀ found, r = .ok found → ∀ row ∈ found, assertServed row ≠ .ok ())
      (lookupCached host) s := by
  refine Discipline.safe_transact (fun s₁ cached s₂ _ hclosed hok hget => ?_)
    fun s₁ e _ _ _ herr => ?_
  · obtain ⟨s', hmiss, heffect⟩ | ⟨entry, hentry, hhit⟩ := get_cases host s₁
    · cases hmiss.symm.trans hget
      refine ⟨hclosed.act heffect hok.1 hok.2, fun _ s₃ _ hclosed₃ => ?_⟩
      have hrow := lookup_unserved hclosed₃.unserved
      intro s₄ _ hclosed₄ hok₄
      have hstore : Effect (.store host (lookup host s₃.world)) s₄
          (Proc.applied (LookupCache.set host (lookup host s₃.world)) s₄) := ⟨rfl, _, rfl⟩
      refine ⟨hclosed₄.act hstore hok₄.1 hok₄.2, ?_⟩
      refine Discipline.safe_done fun _ _ _ found hfound => ?_
      cases hfound
      exact hrow
    · cases hhit.symm.trans hget
      refine ⟨hclosed, fun _ => Discipline.safe_done fun _ _ _ found hfound => ?_⟩
      cases hfound
      exact hclosed.cached entry hentry
  · obtain ⟨s', hmiss, -⟩ | ⟨entry, -, hhit⟩ := get_cases host s₁
    · cases hmiss.symm.trans herr
    · cases hhit.symm.trans herr

/-- It is refused. -/
def Refused (host : String) (req : CacheRequest) (r : Except HttpError (Option StoreContext)) :
    Prop :=
  ∀ live scheme, req = .resolveHost live host scheme → ∀ context, r ≠ .ok context

theorem safe_serve {i : Nat} (req : CacheRequest) (s : CachedWorld) (hs : Closed host s) :
    (closedDiscipline host).Safe i (fun _ r => Refused host req r) (serveCached req) s := by
  by_cases hreq : ∃ live scheme, req = .resolveHost live host scheme
  · obtain ⟨live, scheme, rfl⟩ := hreq
    refine Discipline.Safe.finish (safe_lookupCached s) hs fun s₁ r _ hr => ?_
    cases r with
    | error e =>
        exact Discipline.safe_done fun _ _ _ _ _ _ context h => by cases h
    | ok row =>
        refine Discipline.safe_done fun _ _ _ _ _ _ context h => ?_
        have hrefused : ∀ context, respond live scheme row ≠ .ok context :=
          respond_unserved (hr row rfl)
        cases hrespond : respond live scheme row with
        | ok context' => exact hrefused context' hrespond
        | error e =>
            rw [hrespond] at h
            cases h
  · refine (safe_of_acts (acts_serve req) s).mono_post fun _ _ _ live scheme h => ?_
    exact absurd ⟨live, scheme, h⟩ hreq

/-- The process at place `i` is about to remove the host from the cache. -/
def Busts (host : String) (i : Nat) (c : CacheConfig) : Prop :=
  ∃ req p h, c.flights[i]? = some (req, p) ∧ p.label = some (.bust h) ∧ h.all (· = host) = true

/-- A host that is not served when it is removed from the cache, and is not served again, is
refused to every look-up that starts after the removal, where no look-up of the host stores a row
that passes the gate once the host is not served. -/
theorem busted_host_refused {c c' c'' : CacheConfig} {i j : Nat} {w : CachedWorld}
    {req : CacheRequest} {r : Except HttpError (Option StoreContext)}
    (hbefore : CacheRun (fun _ _ => True) ⟨w, []⟩ c) (hbusts : Busts host i c)
    (hbust : Advances (fun _ _ => True) i c c') (hunserved : serves host c'.state.world = false)
    (hafter : CacheRun (fun ℓ s => StoresFresh host ℓ s ∧ Unrestored host ℓ s) c' c'')
    (hj : c'.flights.length ≤ j) (hanswer : c''.flights[j]? = some (req, .done r)) :
    Refused host req r := by
  have hlisted : Listed Acts c := listed_idle.run (fun _ req => acts_serve req) hbefore
  have hstep : Step (fun _ => serveCached) (fun _ _ => True) (fun _ _ => True) c c' := hbust.step
  have hlisted' : Listed Acts c' := (hlisted.step (fun _ req => acts_serve req) hstep).1
  have hclosed : Closed host c'.state := by
    obtain ⟨req', p, h, hi, hlabel, hhost⟩ := hbusts
    obtain ⟨req₂, p₂, p', hi₂, hp, -, -⟩ := hbust
    cases hi.symm.trans hi₂
    have hacts := hlisted _ (List.mem_of_getElem? hi)
    cases p with
    | done r => cases hlabel
    | query next => cases hlabel
    | commit ℓ upd next =>
        cases hlabel
        obtain ⟨-, hentries⟩ := hacts.1 c.state
        refine ⟨hunserved, fun entry hentry => ?_⟩
        simp only [Proc.step, Option.some.injEq, Prod.mk.injEq] at hp
        rw [← hp.2, hentries] at hentry
        dsimp only at hentry
        rw [if_pos hhost] at hentry
        cases hentry
  have hholds : (closedDiscipline host).Holds
      (fun k req _ r => c'.flights.length ≤ k → Refused host req r) c' := by
    refine ⟨hclosed, fun k req p hk => ?_⟩
    have hsafe : (closedDiscipline host).Safe k (fun _ _ => True) p c'.state :=
      safe_of_acts (hlisted' _ (List.mem_of_getElem? hk)) c'.state
    refine hsafe.mono_post fun _ _ _ hle => ?_
    exact absurd (List.getElem?_eq_some_iff.mp hk).1 (Nat.not_lt.mpr hle)
  have hserve : ∀ k req s, c'.flights.length ≤ k → Closed host s → True →
      (closedDiscipline host).Safe k (fun _ r => c'.flights.length ≤ k → Refused host req r)
        (serveCached req) s :=
    fun k req s _ hs _ => (safe_serve req s hs).mono_post fun _ _ h _ => h
  exact (hholds.run (Nat.le_refl _) hserve hafter).outcome hanswer hj

/-! ### A look-up across a revocation -/

instance (host : String) : ∀ ℓ s, Decidable (StoresFresh host ℓ s)
  | .store host' row, s => inferInstanceAs (Decidable (host' = host → ∀ r ∈ row,
      assertServed r = .ok () → serves host s.world = true))
  | .get _, _ | .bust _, _ | .tables _, _ | .tick, _ => inferInstanceAs (Decidable True)

instance (host : String) : ∀ ℓ s, Decidable (Unrestored host ℓ s)
  | .tables upd, s => inferInstanceAs (Decidable (serves host (upd s.world) = false))
  | .get _, _ | .store _ _, _ | .bust _, _ | .tick, _ => inferInstanceAs (Decidable True)

/-- A store that is served under one hostname, which nobody has looked up yet. -/
def uncachedShop : CachedWorld where
  world := ⟨⟨[⟨0, 0, true⟩], 1, PaymentAccounts.key_lt_primaryStore,
    PaymentAccounts.consistent_primaryStore⟩,
    ⟨[servedDomain 0 "shop.example" .custom true], 1, by decide, by decide⟩, []⟩
  entries _ := none
  now := 0

def lookUp : CacheRequest := .resolveHost allLive "shop.example" .https

/-- The next action at place `i` removes the hostname. -/
def bustsShop (i : Nat) (c : CacheConfig) : Bool :=
  (c.flights[i]?).any fun f =>
    match f.2.label with
    | some (.bust h) => h.all (· = "shop.example")
    | _ => false

theorem busts_of_bustsShop {i : Nat} {c : CacheConfig} (h : bustsShop i c = true) :
    Busts "shop.example" i c := by
  obtain ⟨⟨req, p⟩, hi, h⟩ := (Option.any_eq_true ..).mp h
  cases hlabel : p.label with
  | none =>
      rw [hlabel] at h
      cases h
  | some ℓ =>
      rw [hlabel] at h
      cases ℓ with
      | bust host => exact ⟨req, p, host, hi, hlabel, h⟩
      | _ => cases h

/-- The look-up at place `i` has been answered, with a store if `served` says so. -/
def answeredShop (served : Bool) (i : Nat) (c : CacheConfig) : Bool :=
  (c.answer i).any fun a =>
    (match a.1 with
      | .resolveHost _ host _ => decide (host = "shop.example")
      | _ => false) && (a.2.toOption.any Option.isSome == served)

theorem exists_of_answeredShop {served : Bool} {i : Nat} {c : CacheConfig}
    (h : answeredShop served i c = true) :
    ∃ live scheme r, c.flights[i]? = some (.resolveHost live "shop.example" scheme, .done r) ∧
      r.toOption.any Option.isSome = served := by
  obtain ⟨⟨req, r⟩, ha, h⟩ := (Option.any_eq_true ..).mp h
  obtain ⟨hreq, hserved⟩ := Bool.and_eq_true_iff.mp h
  cases req with
  | resolveHost live host scheme =>
      obtain rfl : host = "shop.example" := of_decide_eq_true hreq
      exact ⟨live, scheme, r, Config.flight_of_answer ha, by simpa using hserved⟩
  | _ => cases hreq

/-- Up to the removal that follows the revocation, of a shop that somebody is looking up if
`reading` says so. -/
def untilBust (reading : Bool) : List (Action CacheRequest) :=
  [.accept lookUp, .advance 0] ++ (if reading then [.advance 0] else []) ++
    [.accept (.platformRevoke 0), .advance 1]

/-- A look-up that begins after the removal finds the domain revoked. -/
theorem busted_host_refused_revoked :
    ∃ (c' c'' : CacheConfig) (req : CacheRequest) (r : Except HttpError (Option StoreContext)),
      serves "shop.example" c'.state.world = false ∧ c''.flights[2]? = some (req, .done r) ∧
      Refused "shop.example" req r := by
  have hrun : (exec (fun _ => serveCached) (fun _ _ => True) (fun _ _ => True) (untilBust false)
      ⟨uncachedShop, []⟩).any (fun c => bustsShop 1 c &&
        (act (fun _ => serveCached) (fun _ _ => True) (fun _ _ => True) (.advance 1) c).any
          fun c' => decide (c'.flights.length = 2) &&
            decide (serves "shop.example" c'.state.world = false) &&
            (exec (fun _ => serveCached) (fun _ _ => True)
              (fun ℓ s => StoresFresh "shop.example" ℓ s ∧ Unrestored "shop.example" ℓ s)
              [.accept lookUp, .advance 2, .advance 2, .advance 2, .advance 0, .advance 0] c').any
                fun c'' => answeredShop false 2 c'') = true := by
    decide +kernel
  obtain ⟨c, hc, h⟩ := exec_any hrun
  obtain ⟨hbusts, hact⟩ := Bool.and_eq_true_iff.mp h
  obtain ⟨c', hc', h⟩ := (Option.any_eq_true ..).mp hact
  simp only [Bool.and_eq_true, decide_eq_true_eq] at h
  obtain ⟨⟨hlength, hunserved⟩, hexec⟩ := h
  obtain ⟨c'', hc'', hanswer⟩ := exec_any hexec
  obtain ⟨live, scheme, r, hr, -⟩ := exists_of_answeredShop hanswer
  exact ⟨c', c'', _, r, hunserved, hr, busted_host_refused hc (busts_of_bustsShop hbusts)
    (act_advances hc') hunserved hc'' (Nat.le_of_eq hlength) hr⟩

/-- A look-up reads the row, the platform revokes the domain and removes it from the cache, and
the look-up stores what it has read. The next look-up is answered from the cache. -/
theorem revoked_host_served :
    ¬ ∀ (host : String) (w : CachedWorld) (c c' c'' : CacheConfig) (i j : Nat)
      (req : CacheRequest) (r : Except HttpError (Option StoreContext)),
      CacheRun (fun _ _ => True) ⟨w, []⟩ c → Busts host i c → Advances (fun _ _ => True) i c c' →
        serves host c'.state.world = false → CacheRun (Unrestored host) c' c'' →
          c'.flights.length ≤ j → c''.flights[j]? = some (req, .done r) → Refused host req r := by
  have hrun : (exec (fun _ => serveCached) (fun _ _ => True) (fun _ _ => True) (untilBust true)
      ⟨uncachedShop, []⟩).any (fun c => bustsShop 1 c &&
        (act (fun _ => serveCached) (fun _ _ => True) (fun _ _ => True) (.advance 1) c).any
          fun c' => decide (c'.flights.length = 2) &&
            decide (serves "shop.example" c'.state.world = false) &&
            (exec (fun _ => serveCached) (fun _ _ => True) (Unrestored "shop.example")
              [.advance 0, .accept lookUp, .advance 2] c').any
                fun c'' => answeredShop true 2 c'') = true := by
    decide +kernel
  obtain ⟨c, hc, h⟩ := exec_any hrun
  obtain ⟨hbusts, hact⟩ := Bool.and_eq_true_iff.mp h
  obtain ⟨c', hc', h⟩ := (Option.any_eq_true ..).mp hact
  simp only [Bool.and_eq_true, decide_eq_true_eq] at h
  obtain ⟨⟨hlength, hunserved⟩, hexec⟩ := h
  obtain ⟨c'', hc'', hanswer⟩ := exec_any hexec
  obtain ⟨live, scheme, r, hr, hserved⟩ := exists_of_answeredShop hanswer
  intro hall
  have hrefused := hall "shop.example" uncachedShop c c' c'' 1 2 _ r hc (busts_of_bustsShop hbusts)
    (act_advances hc') hunserved hc'' (Nat.le_of_eq hlength) hr live scheme rfl
  cases r with
  | error e => cases hserved
  | ok context =>
      cases context with
      | none => cases hserved
      | some context => exact hrefused context rfl

end PrintForge.StoreDomains
