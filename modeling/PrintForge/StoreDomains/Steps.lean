import PrintForge.Concurrent.Atomicity
import PrintForge.StoreDomains.Guarantees

/-!
# What an operation does to the domains

Every write leaves the rows as they are, adds one, rewrites one or two of their columns, or
deletes a custom domain. Which of these it is follows from the write alone, except for a removal:
what it deletes and what it makes primary was decided in an earlier transaction. A removal
relies on the others for what was decided then: they keep platform subdomains, and no other row
ever gets the key of a row that is gone.
-/

namespace PrintForge.StoreDomains

open Relational Concurrent Discipline

variable {settings : Settings} {ok : Commit → World → Prop} {ℓ : Commit} {w w' w'' : World}

/-! ## Rows that stay -/

/-- The columns that no operation changes are the same. -/
structure Renews (d d' : StoreDomain) : Prop where
  id : d'.id = d.id
  storeId : d'.storeId = d.storeId
  tenantId : d'.tenantId = d.tenantId
  hostname : d'.hostname = d.hostname
  type : d'.type = d.type

theorem Renews.refl (d : StoreDomain) : Renews d d := ⟨rfl, rfl, rfl, rfl, rfl⟩

theorem Renews.trans {d d' d'' : StoreDomain} (h : Renews d d') (h' : Renews d' d'') :
    Renews d d'' :=
  ⟨h'.id.trans h.id, h'.storeId.trans h.storeId, h'.tenantId.trans h.tenantId,
    h'.hostname.trans h.hostname, h'.type.trans h.type⟩

theorem Renews.isCustom {d d' : StoreDomain} (h : Renews d d') : isCustom d' = isCustom d := by
  rw [StoreDomains.isCustom, h.type, StoreDomains.isCustom]

/-- Platform subdomains stay, and what is found under a key is what was there before. -/
structure Kept (w w' : World) : Prop where
  stays : ∀ {k : Nat} {d : StoreDomain}, w.storeDomains.get k = some d → isCustom d = false →
    ∃ d', w'.storeDomains.get k = some d' ∧ Renews d d'
  known : ∀ {k : Nat} {d' : StoreDomain}, w'.storeDomains.get k = some d' →
    k < w.storeDomains.nextKey → ∃ d, w.storeDomains.get k = some d ∧ Renews d d'
  grows : w.storeDomains.nextKey ≤ w'.storeDomains.nextKey

theorem kept_of_eq (h : w'.storeDomains = w.storeDomains) : Kept w w' where
  stays {k d} hd _ := ⟨d, by rw [h]; exact hd, .refl d⟩
  known {k d'} hd' _ := ⟨d', by rw [← h]; exact hd', .refl d'⟩
  grows := by rw [h]

theorem Kept.trans (h : Kept w w') (h' : Kept w' w'') : Kept w w'' where
  stays {k d} hd hplatform := by
    obtain ⟨d', hd', hrenews⟩ := h.stays hd hplatform
    obtain ⟨d'', hd'', hrenews'⟩ := h'.stays hd' (hrenews.isCustom.trans hplatform)
    exact ⟨d'', hd'', hrenews.trans hrenews'⟩
  known {k d''} hd'' hk := by
    obtain ⟨d', hd', hrenews'⟩ := h'.known hd'' (Nat.lt_of_lt_of_le hk h.grows)
    obtain ⟨d, hd, hrenews⟩ := h.known hd' hk
    exact ⟨d, hd, hrenews.trans hrenews'⟩
  grows := Nat.le_trans h.grows h'.grows

/-! ## Changes -/

/-- What a write may do to the columns of the rows. -/
inductive Rewrites (ℓ : Commit) (w : World) (f : StoreDomain → StoreDomain) : Prop
  | status {k : Nat} {status : DomainVerificationStatus}
      (hf : ∀ d, f d = d ∨ d.id = k ∧ f d = { d with verificationStatus := status })
      (hℓ : status = .verified ∨ ℓ = .platformRevoke k)
  | tls {id : Nat} {tlsStatus : TlsStatus}
      (hf : ∀ d, f d = if d.id = id then { d with tlsStatus := some tlsStatus } else d)
      (hℓ : ℓ = .tls id tlsStatus)
  | primary {row : StoreDomain} (hrow : w.storeDomains.get row.id = some row)
      (hgate : passesServingGate row = true)
      (hf : ∀ d, f d =
        if d.storeId = row.storeId then { d with isPrimary := decide (d.id = row.id) } else d)

/-- The row that a removal deletes, and the one it makes primary. -/
def Commit.removal : Commit → Option (Nat × Option Nat)
  | .remove id fallbackId | .platformRemove id fallbackId => some (id, fallbackId)
  | _ => none

/-- What a write does to the domains. -/
inductive Change (ℓ : Commit) (w w' : World) : Prop
  | none (h : w'.storeDomains = w.storeDomains)
  | create {d : StoreDomain} (hnext : w'.storeDomains.nextKey = w.storeDomains.nextKey + 1)
      (hget : ∀ k, w'.storeDomains.get k =
        if k = w.storeDomains.nextKey then some d else w.storeDomains.get k)
      (hprimary : d.isPrimary = true → isCustom d = false)
  | rewrite {f : StoreDomain → StoreDomain}
      (hnext : w'.storeDomains.nextKey = w.storeDomains.nextKey)
      (hget : ∀ k, w'.storeDomains.get k = (w.storeDomains.get k).map f)
      (hf : Rewrites ℓ w f)
  | delete {id : Nat} {fallbackId : Option Nat} {d : StoreDomain}
      (hℓ : ℓ.removal = some (id, fallbackId)) (hd : w.storeDomains.get id = some d)
      (hcustom : isCustom d = true)
      (hnext : w'.storeDomains.nextKey = w.storeDomains.nextKey)
      (hget : ∀ k, w'.storeDomains.get k = if k = id then Option.none else
        (w.storeDomains.get k).map fun e =>
          if fallbackId = some k then { e with isPrimary := true } else e)
      (hfallback : ∀ k ∈ fallbackId, k ≠ id ∧ ∃ e, w.storeDomains.get k = some e ∧
        isCustom e = false ∧ e.storeId = d.storeId)

theorem Rewrites.renews {f : StoreDomain → StoreDomain} (h : Rewrites ℓ w f) (d : StoreDomain) :
    Renews d (f d) := by
  cases h with
  | status hf hℓ =>
      obtain hd | ⟨-, hd⟩ := hf d <;> rw [hd] <;> exact ⟨rfl, rfl, rfl, rfl, rfl⟩
  | tls hf hℓ => rw [hf d]; split <;> exact ⟨rfl, rfl, rfl, rfl, rfl⟩
  | primary hrow hgate hf => rw [hf d]; split <;> exact ⟨rfl, rfl, rfl, rfl, rfl⟩

theorem Change.kept (h : Change ℓ w w') : Kept w w' := by
  cases h with
  | none h => exact kept_of_eq h
  | create hnext hget hprimary =>
      refine ⟨fun {k d} hd _ => ⟨d, ?_, .refl d⟩, fun {k d'} hd' hk => ⟨d', ?_, .refl d'⟩, ?_⟩
      · have hk : k < w.storeDomains.nextKey := by
          by_contra hge
          rw [Table.get_eq_none_of_le (Nat.le_of_not_lt hge)] at hd
          cases hd
        rw [hget, if_neg (Nat.ne_of_lt hk)]
        exact hd
      · rw [hget, if_neg (Nat.ne_of_lt hk)] at hd'
        exact hd'
      · rw [hnext]
        exact Nat.le_succ _
  | @rewrite f hnext hget hf =>
      refine ⟨fun {k d} hd _ => ⟨f d, ?_, hf.renews d⟩, fun {k d'} hd' _ => ?_, ?_⟩
      · rw [hget, hd]
        rfl
      · rw [hget] at hd'
        obtain ⟨d, hd, rfl⟩ := Option.map_eq_some_iff.mp hd'
        exact ⟨d, hd, hf.renews d⟩
      · exact Nat.le_of_eq hnext.symm
  | @delete id fallbackId d hℓ hd hcustom hnext hget hfallback =>
      refine ⟨fun {k e} he hplatform => ?_, fun {k e'} he' _ => ?_, Nat.le_of_eq hnext.symm⟩
      · have hk : k ≠ id := by
          rintro rfl
          cases hd.symm.trans he
          rw [hcustom] at hplatform
          cases hplatform
        refine ⟨_, by rw [hget, if_neg hk, he]; rfl, ?_⟩
        split <;> exact ⟨rfl, rfl, rfl, rfl, rfl⟩
      · rw [hget] at he'
        split at he'
        · cases he'
        · obtain ⟨e, he, rfl⟩ := Option.map_eq_some_iff.mp he'
          refine ⟨e, he, ?_⟩
          split <;> exact ⟨rfl, rfl, rfl, rfl, rfl⟩

/-- What a process may rely on, and what each write of it amounts to. -/
def domains (ok : Commit → World → Prop) : Discipline World Commit where
  inv _ := True
  ok := ok
  rely _ w w' := Kept w w'
  guar _ ℓ w w' := Change ℓ w w'
  rely_refl _ _ := kept_of_eq rfl
  rely_trans h h' := h.trans h'
  inv_guar _ _ _ := trivial
  rely_guar _ _ _ h := h.kept

/-! ## Statements -/

theorem change_update {id : Nat} {f : StoreDomain → StoreDomain} {hf} {r : StoreDomain}
    (h : (Db.storeDomains.update id f hf : Transaction StoreDomain) w = .ok (r, w'))
    (hrewrites : Rewrites ℓ w fun d => if d.id = id then f d else d) : Change ℓ w w' := by
  obtain ⟨-, t, -, ht, -, rfl⟩ := Slot.update_ok h
  refine .rewrite (Table.nextKey_update ht) (fun k => ?_) hrewrites
  show t.get k = _
  rw [Table.get_update ht]
  simp only [decide_eq_true_eq]
  rfl

theorem change_create {row : Nat → StoreDomain} {hk} {r : StoreDomain}
    (h : (Db.storeDomains.create row hk : Transaction StoreDomain) w = .ok (r, w'))
    (hprimary : ∀ k, (row k).isPrimary = true → isCustom (row k) = false) : Change ℓ w w' := by
  obtain ⟨t, ht, -, rfl⟩ := Slot.create_ok h
  refine .create (d := row w.storeDomains.nextKey) (Table.nextKey_create ht) (fun k => ?_)
    (hprimary _)
  refine (Table.get_create ht k).trans ?_
  by_cases hk : k = w.storeDomains.nextKey
  · subst hk
    rfl
  · rw [if_neg hk]
    exact if_neg hk

theorem change_recordCheck {row r : StoreDomain} {outcome : VerificationOutcome}
    (h : recordCheck row outcome w = .ok (r, w')) : Change ℓ w w' := by
  unfold recordCheck at h
  split at h
  · refine change_update h (.status (k := row.id) (fun d => ?_) (.inl rfl))
    by_cases hd : d.id = row.id
    · exact .inr ⟨hd, if_pos hd⟩
    · exact .inl (if_neg hd)
  · refine change_update h (.status (k := row.id) (fun d => .inl ?_) (.inl rfl))
    exact ite_self d

theorem change_transition {row r : StoreDomain} {target : DomainVerificationStatus}
    (h : Platform.transition row target w = .ok (r, w'))
    (hℓ : target = .verified ∨ ℓ = .platformRevoke row.id) : Change ℓ w w' := by
  obtain ⟨t, ht, rfl⟩ := transition_ok h
  refine .rewrite (Table.nextKey_update ht) (Table.get_update ht) (.status (fun d => ?_) hℓ)
  by_cases hd : (decide (d.id = row.id) &&
      decide (d.verificationStatus = row.verificationStatus)) = true
  · exact .inr ⟨of_decide_eq_true (Bool.and_eq_true_iff.mp hd).1, if_pos hd⟩
  · exact .inl (if_neg hd)

theorem assertServeable_ok {row : StoreDomain} {u : Unit}
    (h : assertServeable row w = .ok (u, w')) : passesServingGate row = true ∧ w' = w := by
  unfold assertServeable at h
  split at h
  · next hplatform =>
    cases h
    exact ⟨by rw [passesServingGate, hplatform]; rfl, rfl⟩
  · split at h
    · cases h
    · next hverified =>
      split at h
      · cases h
      · next hissued =>
        cases h
        refine ⟨?_, rfl⟩
        simp only [ne_eq, Decidable.not_not] at hverified hissued
        simp [passesServingGate, hverified, hissued]

theorem assertNotPrimary_ok {row : StoreDomain} {u : Unit}
    (h : assertNotPrimary row w = .ok (u, w')) : row.isPrimary = false ∧ w' = w := by
  unfold assertNotPrimary at h
  split at h
  · cases h
  · next hprimary =>
    cases h
    exact ⟨by simpa using hprimary, rfl⟩

theorem unmark_eq {d : StoreDomain} (h : d.isPrimary = false) :
    { d with isPrimary := false } = d := by
  rw [← h]

/-- No row of the store is primary afterwards, and that is all. -/
theorem clearPrimary_ok {storeId : Nat} {u : Unit} (h : clearPrimary storeId w = .ok (u, w')) :
    w'.storeDomains.nextKey = w.storeDomains.nextKey ∧
      ∀ k, w'.storeDomains.get k = (w.storeDomains.get k).map fun d =>
        if d.storeId = storeId then { d with isPrimary := false } else d := by
  rw [clearPrimary, Tx.bind_read] at h
  cases hprevious : w.storeDomains.findFirst fun d => d.storeId = storeId && d.isPrimary with
  | none =>
      rw [hprevious] at h
      cases h
      refine ⟨rfl, fun k => ?_⟩
      cases hd : w.storeDomains.get k with
      | none => rfl
      | some d =>
          have hnot := Table.findFirst_none hprevious d (Table.get_eq_some.mp hd).1
          by_cases hstore : d.storeId = storeId
          · have hprimary : d.isPrimary = false := by simpa [hstore] using hnot
            rw [Option.map_some, if_pos hstore, unmark_eq hprimary]
          · rw [Option.map_some, if_neg hstore]
  | some previous =>
      rw [hprevious] at h
      obtain ⟨r, w₁, hupdate, hdone⟩ := Tx.bind_ok.mp h
      cases hdone
      obtain ⟨-, t, -, ht, -, rfl⟩ := Slot.update_ok hupdate
      refine ⟨Table.nextKey_update ht, fun k => ?_⟩
      show t.get k = _
      rw [Table.get_update ht]
      obtain ⟨hmem, hp⟩ := Table.findFirst_some hprevious
      simp only [Bool.and_eq_true, decide_eq_true_eq] at hp
      show (w.storeDomains.get k).map _ = _
      cases hd : w.storeDomains.get k with
      | none => rfl
      | some d =>
          have hmem' := (Table.get_eq_some.mp hd).1
          simp only [Option.map_some, Option.some.injEq, decide_eq_true_eq]
          by_cases hid : d.id = previous.id
          · obtain rfl := Table.eq_of_key hmem' hmem hid
            rw [if_pos (show Schema.key d = d.id from rfl), if_pos hp.1]
          · rw [if_neg (show ¬ Schema.key d = previous.id from hid)]
            split
            · next hstore =>
              -- a second primary domain would clash with the one that was found
              have hprimary : d.isPrimary = false := by
                by_contra hyes
                have hclash : Schema.Clash d previous :=
                  .inr ⟨hstore.trans hp.1.symm, by simpa using hyes, hp.2⟩
                exact hid (congrArg StoreDomain.id (Table.eq_of_clash hmem' hmem hclash))
              exact (unmark_eq hprimary).symm
            · rfl

theorem change_makePrimary {tenantId domainId : Nat} {r : StoreDomain}
    (h : makePrimary tenantId domainId w = .ok (r, w')) : Change ℓ w w' := by
  obtain ⟨row, w₁, hload, h₁⟩ := Tx.bind_ok.mp h
  obtain ⟨hget, rfl⟩ := loadOwnDomain_ok hload
  obtain ⟨_, w₂, hserve, h₂⟩ := Tx.bind_ok.mp h₁
  obtain ⟨hgate, rfl⟩ := assertServeable_ok hserve
  obtain ⟨_, w₃, hnot, h₃⟩ := Tx.bind_ok.mp h₂
  obtain ⟨-, rfl⟩ := assertNotPrimary_ok hnot
  obtain ⟨_, w₄, hclear, hupdate⟩ := Tx.bind_ok.mp h₃
  obtain ⟨hnext, hcleared⟩ := clearPrimary_ok hclear
  obtain ⟨-, t, -, ht, -, rfl⟩ := Slot.update_ok hupdate
  have hid : row.id = domainId := (Table.get_eq_some.mp hget).2
  refine .rewrite ((Table.nextKey_update ht).trans hnext) (fun k => ?_)
    (.primary (by rw [hid]; exact hget) hgate fun d => rfl)
  show t.get k = _
  rw [Table.get_update ht]
  show (w₄.storeDomains.get k).map _ = _
  rw [hcleared, Option.map_map]
  cases hd : w₃.storeDomains.get k with
  | none => rfl
  | some d =>
      simp only [Option.map_some, Function.comp, Option.some.injEq, decide_eq_true_eq]
      by_cases hkey : d.id = row.id
      · obtain rfl := Table.eq_of_key (Table.get_eq_some.mp hd).1 (Table.get_eq_some.mp hget).1 hkey
        simp [Schema.key]
      · by_cases hstore : d.storeId = row.storeId <;> simp [Schema.key, hstore, hkey]

theorem change_claimSubdomain {storeId tenantId : Nat} {hostname : String}
    {r : EnsurePlatformSubdomainResult}
    (h : claimSubdomain storeId tenantId hostname w = .ok (r, w')) : Change ℓ w w' := by
  rw [claimSubdomain, Tx.bind_read] at h
  cases hexisting : w.storeDomains.findFirst (·.hostname = hostname) with
  | some existing =>
      rw [hexisting] at h
      dsimp only at h
      split at h
      · cases h
      · cases h
        exact .none rfl
  | none =>
      rw [hexisting] at h
      dsimp only at h
      rw [createSubdomain, Tx.bind_read] at h
      obtain ⟨d, hcreate, -⟩ := Tx.map_ok.mp h
      exact change_create hcreate fun k _ => rfl

theorem change_ensurePlatformSubdomain {storeId tenantId : Nat} {storeSlug : String}
    {r : EnsurePlatformSubdomainResult}
    (h : ensurePlatformSubdomain settings storeId tenantId storeSlug w = .ok (r, w')) :
    Change ℓ w w' := by
  unfold ensurePlatformSubdomain at h
  cases hdomain : JavaScript.truthy settings.platformStorefrontDomain with
  | none =>
      rw [hdomain] at h
      cases h
      exact .none rfl
  | some domain =>
      rw [hdomain] at h
      dsimp only at h
      cases hderive : derivePlatformSubdomain storeSlug domain with
      | none =>
          rw [hderive] at h
          cases h
      | some hostname =>
          rw [hderive] at h
          exact change_claimSubdomain h

theorem change_verifyRow {tenantId domainId : Nat} {answer : DnsAnswer} {locked : Bool}
    {r : Option StoreDomain}
    (h : verifyRow settings tenantId domainId answer locked w = .ok (r, w')) :
    Change ℓ w w' := by
  obtain ⟨u, w₁, h₁, hload⟩ := Tx.bind_ok.mp h
  obtain rfl := assertUnlocked_ok h₁
  obtain ⟨row, w₂, h₂, hrest⟩ := Tx.bind_ok.mp hload
  obtain ⟨-, rfl⟩ := loadOwnDomain_ok h₂
  split at hrest
  · cases hrest
  · split at hrest
    · cases hrest
      exact .none rfl
    · split at hrest
      · cases hrest
      · obtain ⟨r', hcheck, -⟩ := Tx.map_ok.mp hrest
        exact change_recordCheck hcheck

/-! ## Removals -/

/-- What a removal has found out, in a form that the writes of others leave true. -/
structure Planned (plan : RemovalPlan) (w : World) : Prop where
  known : plan.row.id < w.storeDomains.nextKey
  row : ∀ d, w.storeDomains.get plan.row.id = some d → Renews plan.row d
  custom : isCustom plan.row = true
  fallback : ∀ k ∈ plan.fallbackId, k ≠ plan.row.id ∧ ∃ e, w.storeDomains.get k = some e ∧
    isCustom e = false ∧ e.storeId = plan.row.storeId

theorem Planned.later {plan : RemovalPlan} (h : Planned plan w) (hk : Kept w w') :
    Planned plan w' where
  known := Nat.lt_of_lt_of_le h.known hk.grows
  row d' hd' := by
    obtain ⟨d, hd, hrenews⟩ := hk.known hd' h.known
    exact (h.row d hd).trans hrenews
  custom := h.custom
  fallback k hfallback := by
    obtain ⟨hne, e, he, hplatform, hstore⟩ := h.fallback k hfallback
    obtain ⟨e', he', hrenews⟩ := hk.stays he hplatform
    exact ⟨hne, e', he', hrenews.isCustom.trans hplatform, hrenews.storeId.trans hstore⟩

theorem loadOwnDomain_owner {tenantId domainId : Nat} {row : StoreDomain}
    (h : loadOwnDomain tenantId domainId w = .ok (row, w')) : row.tenantId = tenantId := by
  rw [loadOwnDomain, Tx.bind_read] at h
  cases hfound : (w.storeDomains.get domainId).filter (·.tenantId = tenantId) with
  | none =>
      rw [hfound] at h
      cases h
  | some found =>
      rw [hfound] at h
      cases h
      exact of_decide_eq_true (Option.filter_eq_some_iff.mp hfound).2

theorem loadOwnDomain_eq {tenantId domainId : Nat} {row : StoreDomain}
    (hget : w.storeDomains.get domainId = some row) (howner : row.tenantId = tenantId) :
    loadOwnDomain tenantId domainId w = .ok (row, w) := by
  have hfound : (w.storeDomains.get domainId).filter (·.tenantId = tenantId) = some row := by
    rw [hget, Option.filter_some, if_pos (decide_eq_true howner)]
  rw [loadOwnDomain, Tx.bind_read, hfound]
  rfl

theorem loadDomain_eq {domainId : Nat} {row : StoreDomain}
    (hget : w.storeDomains.get domainId = some row) :
    Platform.loadDomain domainId w = .ok (row, w) := by
  rw [Platform.loadDomain, Tx.bind_read, hget]
  rfl

/-- The row that takes over is a platform subdomain of the same store. -/
theorem fallbackOf_ok {row : StoreDomain} {message : String} {fallbackId : Option Nat}
    (h : fallbackOf row message w = .ok (fallbackId, w')) :
    w' = w ∧ ∀ k ∈ fallbackId, k ≠ row.id ∧ ∃ e, w.storeDomains.get k = some e ∧
      isCustom e = false ∧ e.storeId = row.storeId := by
  unfold fallbackOf at h
  split at h
  · rw [Tx.bind_read] at h
    cases hfound : w.storeDomains.findFirst fun d =>
        d.storeId = row.storeId && d.type = some .platformSubdomain && d.id ≠ row.id with
    | none =>
        rw [hfound] at h
        cases h
    | some e =>
        rw [hfound] at h
        cases h
        obtain ⟨hmem, hp⟩ := Table.findFirst_some hfound
        simp only [Bool.and_eq_true, decide_eq_true_eq] at hp
        obtain ⟨⟨hstore, htype⟩, hne⟩ := hp
        refine ⟨rfl, fun k hk => ?_⟩
        obtain rfl := Option.mem_some_iff.mp hk
        exact ⟨hne, e, Table.get_key hmem, by rw [isCustom, htype]; rfl, hstore⟩
  · cases h
    exact ⟨rfl, fun k hk => by cases hk⟩

theorem planned_of_loaded {row : StoreDomain} {message : String} {fallbackId : Option Nat}
    (hget : w.storeDomains.get row.id = some row) (hcustom : isCustom row = true)
    (h : fallbackOf row message w = .ok (fallbackId, w')) :
    w' = w ∧ Planned ⟨row, fallbackId⟩ w := by
  obtain ⟨rfl, hfallback⟩ := fallbackOf_ok h
  refine ⟨rfl, ?_, fun d hd => ?_, hcustom, hfallback⟩
  · exact Table.key_lt_nextKey (Table.get_eq_some.mp hget).1
  · obtain rfl := Option.some.inj (hget.symm.trans hd)
    exact .refl row

theorem planRemoval_ok {tenantId domainId : Nat} {plan : RemovalPlan}
    (h : planRemoval tenantId domainId w = .ok (plan, w')) :
    w' = w ∧ plan.row.id = domainId ∧ plan.row.tenantId = tenantId ∧ Planned plan w := by
  obtain ⟨row, w₁, hload, h₁⟩ := Tx.bind_ok.mp h
  obtain ⟨hget, rfl⟩ := loadOwnDomain_ok hload
  obtain ⟨_, w₂, hassert, h₂⟩ := Tx.bind_ok.mp h₁
  obtain ⟨hcustom, rfl⟩ := assertCustom_ok hassert
  obtain ⟨fallbackId, w₃, hfallback, hdone⟩ := Tx.bind_ok.mp h₂
  cases hdone
  have hid : row.id = domainId := (Table.get_eq_some.mp hget).2
  obtain ⟨rfl, hplanned⟩ := planned_of_loaded (by rw [hid]; exact hget) hcustom hfallback
  exact ⟨rfl, hid, loadOwnDomain_owner hload, hplanned⟩

theorem platformPlanRemoval_ok {domainId : Nat} {plan : RemovalPlan}
    (h : Platform.planRemoval domainId w = .ok (plan, w')) :
    w' = w ∧ plan.row.id = domainId ∧ Planned plan w := by
  obtain ⟨row, w₁, hload, h₁⟩ := Tx.bind_ok.mp h
  obtain ⟨hget, hcustom, rfl⟩ := loadCustomDomain_ok hload
  obtain ⟨fallbackId, w₂, hfallback, hdone⟩ := Tx.bind_ok.mp h₁
  cases hdone
  have hid : row.id = domainId := (Table.get_eq_some.mp hget).2
  obtain ⟨rfl, hplanned⟩ := planned_of_loaded (by rw [hid]; exact hget) hcustom hfallback
  exact ⟨rfl, hid, hplanned⟩

theorem promote_ok {fallbackId : Option Nat} {u : Unit} (h : promote fallbackId w = .ok (u, w')) :
    w'.storeDomains.nextKey = w.storeDomains.nextKey ∧
      ∀ k, w'.storeDomains.get k = (w.storeDomains.get k).map fun e =>
        if fallbackId = some k then { e with isPrimary := true } else e := by
  cases fallbackId with
  | none =>
      cases h
      refine ⟨rfl, fun k => ?_⟩
      simp
  | some fallbackId =>
      obtain ⟨r, w₁, hupdate, hdone⟩ := Tx.bind_ok.mp h
      cases hdone
      obtain ⟨-, t, -, ht, -, rfl⟩ := Slot.update_ok hupdate
      refine ⟨Table.nextKey_update ht, fun k => ?_⟩
      show t.get k = _
      rw [Table.get_update ht]
      refine Option.map_congr fun e he => ?_
      have hid : Schema.key e = k := (Table.get_eq_some.mp he).2
      simp [hid, eq_comm]

theorem change_deleteRow {plan : RemovalPlan} {load : Transaction StoreDomain} {r : StoreDomain}
    (hplan : Planned plan w)
    (hload : ∀ row w₁, load w = .ok (row, w₁) →
      w.storeDomains.get plan.row.id = some row ∧ w₁ = w)
    (h : deleteRow load plan.fallbackId w = .ok (r, w'))
    (hℓ : ℓ.removal = some (plan.row.id, plan.fallbackId)) : Change ℓ w w' := by
  obtain ⟨row, w₁, h₁, h₂⟩ := Tx.bind_ok.mp h
  obtain ⟨hget, rfl⟩ := hload row w₁ h₁
  obtain ⟨n, w₂, hdelete, h₃⟩ := Tx.bind_ok.mp h₂
  cases hdelete
  obtain ⟨u, w₃, hpromote, hdone⟩ := Tx.bind_ok.mp h₃
  cases hdone
  obtain ⟨hnext, hrows⟩ := promote_ok hpromote
  have hid : r.id = plan.row.id := (Table.get_eq_some.mp hget).2
  have hrenews := hplan.row r hget
  refine .delete hℓ hget (hrenews.isCustom.trans hplan.custom) hnext (fun k => ?_) fun k hk => ?_
  · rw [hrows]
    show ((w₁.storeDomains.delete (·.id = r.id)).get k).map _ = _
    have hdeleted := Table.get_delete_key w₁.storeDomains r.id k
    rw [hid] at hdeleted ⊢
    refine (congrArg (Option.map _) hdeleted).trans ?_
    by_cases hk : k = plan.row.id
    · rw [if_pos hk, if_pos hk]
      rfl
    · rw [if_neg hk, if_neg hk]
  · obtain ⟨hne, e, he, hplatform, hstore⟩ := hplan.fallback k hk
    exact ⟨hne, e, he, hplatform, hstore.trans hrenews.storeId.symm⟩

/-- A row of a store without a primary domain may become primary. -/
theorem unclashed_mark {t : Table StoreDomain} {k storeId : Nat}
    (hstore : ∀ a ∈ t, a.id = k → a.storeId = storeId)
    (hnone : ∀ b ∈ t, b.storeId = storeId → b.isPrimary = false) :
    ∀ a ∈ t, ∀ b ∈ t, Schema.Clash (if Schema.key a = k then { a with isPrimary := true } else a)
      (if Schema.key b = k then { b with isPrimary := true } else b) → Schema.Clash a b := by
  intro a ha b hb hclash
  by_cases hka : a.id = k <;> by_cases hkb : b.id = k
  · have hsame : a = b := Table.eq_of_key ha hb (hka.trans hkb.symm)
    exact .inl (congrArg StoreDomain.hostname hsame)
  · rw [if_pos (show Schema.key a = k from hka),
      if_neg (show ¬ Schema.key b = k from hkb)] at hclash
    obtain hhost | ⟨hsame, -, hprimary⟩ := hclash
    · exact .inl hhost
    · have hnot := hnone b hb (hsame.symm.trans (hstore a ha hka))
      rw [hnot] at hprimary
      cases hprimary
  · rw [if_neg (show ¬ Schema.key a = k from hka),
      if_pos (show Schema.key b = k from hkb)] at hclash
    obtain hhost | ⟨hsame, hprimary, -⟩ := hclash
    · exact .inl hhost
    · have hnot := hnone a ha (hsame.trans (hstore b hb hkb))
      rw [hnot] at hprimary
      cases hprimary
  · rw [if_neg (show ¬ Schema.key a = k from hka),
      if_neg (show ¬ Schema.key b = k from hkb)] at hclash
    exact hclash

/-- A deletion that finds the row as it was planned goes through: nothing but the row itself could
clash with the one that takes over. -/
theorem exists_deleteRow_ok {plan : RemovalPlan} {load : Transaction StoreDomain}
    {row : StoreDomain} (hplan : Planned plan w) (hload : load w = .ok (row, w))
    (hget : w.storeDomains.get plan.row.id = some row)
    (hprimary : row.isPrimary = plan.fallbackId.isSome) :
    ∃ w', deleteRow load plan.fallbackId w = .ok (row, w') := by
  have hid : row.id = plan.row.id := (Table.get_eq_some.mp hget).2
  let w₁ : World := { w with storeDomains := w.storeDomains.delete (·.id = row.id) }
  obtain ⟨w', hpromote⟩ : ∃ w', promote plan.fallbackId w₁ = .ok ((), w') := by
    cases hfallback : plan.fallbackId with
    | none => exact ⟨w₁, rfl⟩
    | some k =>
        obtain ⟨hne, e, he, -, hstore⟩ := hplan.fallback k hfallback
        have he₁ : (Db.storeDomains.get w₁).get k = some e := by
          refine (Table.get_delete_key w.storeDomains row.id k).trans ?_
          rw [if_neg (by rw [hid]; exact hne), he]
        have hprimary' : row.isPrimary = true := by rw [hprimary, hfallback]; rfl
        -- the deleted row was the primary domain of the store, so there is no other
        have hnone : ∀ b ∈ w₁.storeDomains, b.storeId = plan.row.storeId → b.isPrimary = false := by
          intro b hb hsame
          by_contra hyes
          obtain ⟨hb₀, hkept⟩ := Table.mem_delete.mp hb
          have hclash : Schema.Clash b row :=
            .inr ⟨hsame.trans (hplan.row row hget).storeId.symm, by simpa using hyes, hprimary'⟩
          obtain rfl := Table.eq_of_clash hb₀ (Table.get_eq_some.mp hget).1 hclash
          simp at hkept
        have hstores : ∀ a ∈ w₁.storeDomains, a.id = k → a.storeId = plan.row.storeId := by
          intro a ha hk
          have hsame : a = e :=
            Table.eq_of_key ha (Table.get_eq_some.mp he₁).1
              (hk.trans (Table.get_eq_some.mp he₁).2.symm)
          rw [hsame, hstore]
        have hexists : ∃ t, (Db.storeDomains.update k (fun d => { d with isPrimary := true })
            (fun _ => rfl) : Transaction StoreDomain) w₁ =
              .ok ({ e with isPrimary := true }, Db.storeDomains.set t w₁) ∧
            ∀ k', t.get k' = if k' = k then some { e with isPrimary := true }
              else w₁.storeDomains.get k' :=
          Slot.exists_update_ok he₁ (unclashed_mark hstores hnone)
        obtain ⟨t, ht, -⟩ := hexists
        exact ⟨_, Tx.bind_ok.mpr ⟨_, _, ht, rfl⟩⟩
  exact ⟨w', Tx.bind_ok.mpr ⟨_, _, hload, Tx.bind_ok.mpr ⟨_, w₁, rfl,
    Tx.bind_ok.mpr ⟨_, _, hpromote, rfl⟩⟩⟩⟩

/-! ## Requests -/

/-- Each write of the process is a change of the domains. -/
abbrev Changes {α : Type} (p : Service α) : Prop := p.Within Change

theorem changes_transact {α : Type} {tx : Transaction α}
    (h : ∀ w a w', tx w = .ok (a, w') → Change ℓ w w') :
    Changes (Proc.transact ℓ tx : Service α) :=
  Proc.within_transact (fun _ => .none rfl) h

theorem changes_of_silent {α : Type} {p : Service α} (h : p.Commits fun _ _ => False) :
    Changes p :=
  h.within fun _ _ _ hnever => hnever.elim

theorem changes_modify {f : World → World} (hf : ∀ w, (f w).storeDomains = w.storeDomains) :
    Changes (Proc.transact ℓ (modify f) : Service Unit) := by
  refine changes_transact fun w _ w' h => ?_
  cases h
  exact .none (hf w)

theorem changes_addDomain (hostname : String) (hosting : HostingAnswer) :
    Changes (addDomain hostname hosting) :=
  changes_modify fun _ => rfl

theorem changes_removeDomain (hostname : String) (answer : ReleaseAnswer) :
    Changes (removeDomain hostname answer) := by
  unfold removeDomain
  refine Proc.Within.bind (changes_modify ?_) fun _ => ?_
  · exact fun _ => rfl
  · split
    · exact Proc.within_pure _
    · exact Proc.within_throw _

theorem changes_onConflict {α : Type} {message : String} {p : Service α} (h : Changes p) :
    Changes (onConflict message p) := by
  refine h.tryCatch fun err => ?_
  split
  · exact Proc.within_throw _
  · exact Proc.within_throw _

theorem changes_updateTls (id : Nat) (tlsStatus : TlsStatus) :
    Changes (Proc.transact (.tls id tlsStatus) (updateTls id tlsStatus)) :=
  changes_transact fun _ _ _ h => change_update h (.tls (fun _ => rfl) rfl)

theorem changes_add (tenantId : Nat) (dto : AddStoreDomainDto) (token : String) :
    Changes (add settings tenantId dto token) := by
  apply Proc.Within.bind (changes_of_silent (commits_validateNewHostname dto.hostname))
  intro hostname
  apply Proc.Within.bind (changes_of_silent (commits_assertMethodAvailable dto.verificationMethod))
  intro _
  apply Proc.Within.bind (changes_of_silent (commits_resolvePrimaryStoreId tenantId))
  intro storeId
  apply changes_onConflict
  apply changes_transact
  intro w r w' h
  exact change_create h fun _ hprimary => by cases hprimary

theorem changes_verify (tenantId domainId : Nat) (answer : DnsAnswer) (locked : Bool)
    (hosting : HostingAnswer) :
    Changes (verify settings tenantId domainId answer locked hosting) := by
  refine Proc.Within.bind (changes_transact fun _ _ _ h => change_verifyRow h) fun updated => ?_
  cases updated with
  | none => exact Proc.within_throw _
  | some row =>
      dsimp only
      split
      · refine Proc.Within.bind (changes_addDomain row.hostname hosting) fun _ => ?_
        split
        · exact Proc.within_pure _
        · exact changes_updateTls _ _
      · exact Proc.within_pure _

theorem changes_refreshTls (tenantId domainId : Nat) (hosting : HostingAnswer) :
    Changes (refreshTls tenantId domainId hosting) := by
  refine Proc.Within.bind (changes_transact fun w row w' h => ?_) fun row => changes_updateTls _ _
  obtain ⟨found, w₁, hload, hassert⟩ := Tx.bind_ok.mp h
  obtain ⟨-, rfl⟩ := loadOwnDomain_ok hload
  obtain ⟨_, w₂, hcustom, hdone⟩ := Tx.bind_ok.mp hassert
  obtain ⟨-, rfl⟩ := assertCustom_ok hcustom
  cases hdone
  exact .none rfl

theorem changes_revoke (domainId : Nat) :
    Changes (Proc.transact (.platformRevoke domainId) (Platform.revoke domainId)) := by
  refine changes_transact fun w r w' h => ?_
  obtain ⟨existing, w₁, hload, hcheck⟩ := Tx.bind_ok.mp h
  obtain ⟨hget, -, rfl⟩ := loadCustomDomain_ok hload
  split at hcheck
  · cases hcheck
  · refine change_transition hcheck (.inr ?_)
    rw [show existing.id = domainId from (Table.get_eq_some.mp hget).2]

theorem changes_override (domainId : Nat) :
    Changes (Proc.transact (.platform domainId) (Platform.override domainId)) := by
  refine changes_transact fun w r w' h => ?_
  obtain ⟨existing, w₁, hload, hcheck⟩ := Tx.bind_ok.mp h
  obtain ⟨-, -, rfl⟩ := loadCustomDomain_ok hload
  split at hcheck
  · cases hcheck
  · exact change_transition hcheck (.inl rfl)

theorem changes_reverify (domainId : Nat) (answer : DnsAnswer) (locked : Bool) :
    Changes (Proc.transact (.platform domainId)
      (Platform.reverify settings domainId answer locked)) := by
  refine changes_transact fun w r w' h => ?_
  obtain ⟨u, w₁, h₁, hrest⟩ := Tx.bind_ok.mp h
  obtain rfl := assertUnlocked_ok h₁
  obtain ⟨existing, w₂, h₂, hcheck⟩ := Tx.bind_ok.mp hrest
  obtain ⟨-, -, rfl⟩ := loadCustomDomain_ok h₂
  split at hcheck
  · cases hcheck
  · exact change_recordCheck hcheck

theorem safe_of_changes {α : Type} {i : Nat} {p : Service α} (h : Changes p) :
    (domains ok).Safe i (fun _ _ => True) p w :=
  safe_of_within h fun _ _ _ _ _ hchange => hchange

/-! ### Removals -/

section Removal

variable {i : Nat} {planTx : Transaction RemovalPlan} {finish : RemovalPlan → Service StoreDomain}
variable {P : RemovalPlan → Prop} {Q : World → Except HttpError StoreDomain → Prop}
variable (answer : ReleaseAnswer)

/-- A removal in three parts: what it plans, what it asks of the provider, and how it ends. -/
theorem safe_removal
    (hplan : ∀ w plan w', planTx w = .ok (plan, w') → w' = w ∧ P plan ∧ Planned plan w)
    (hfinish : ∀ plan w, P plan → Planned plan w →
      (domains ok).Safe i (fun _ _ => True) (finish plan) w) :
    (domains ok).Safe i (fun _ _ => True) (do
      let plan ← Proc.transact .inspect planTx
      removeDomain plan.row.hostname answer
      finish plan) w := by
  refine safe_transact (fun w₁ plan w₂ _ _ _ htx => ?_) fun w₁ e _ _ _ _ => ?_
  · obtain ⟨rfl, hknown, hplanned⟩ := hplan w₁ plan w₂ htx
    refine ⟨.none rfl, fun _ => ?_⟩
    have hdetach : (domains ok).Safe i (fun w _ => Planned plan w)
        (removeDomain plan.row.hostname answer) w₂ := by
      refine safe_keeping (changes_removeDomain _ _) ?_ ?_ hplanned
      · exact fun ℓ w w' _ _ h => ⟨h, fun hplanned => hplanned.later h.kept⟩
      · exact fun w w' hrely hplanned => hplanned.later hrely
    exact hdetach.bind trivial fun w₃ _ _ hlater => hfinish plan w₃ hknown hlater
  · exact ⟨.none rfl, safe_done fun _ _ _ => trivial⟩

/-- The last transaction deletes what was planned, or nothing. -/
theorem safe_deletion {plan : RemovalPlan} {load : Transaction StoreDomain}
    {k : Except HttpError StoreDomain → Service StoreDomain} (hplan : Planned plan w)
    (hload : ∀ w row w₁, load w = .ok (row, w₁) →
      w.storeDomains.get plan.row.id = some row ∧ w₁ = w)
    (hℓ : ℓ.removal = some (plan.row.id, plan.fallbackId))
    (hdone : ∀ r w, (domains ok).Safe i Q (k (.ok r)) w)
    (herror : ∀ w e, Planned plan w → ok ℓ w → deleteRow load plan.fallbackId w = .error e →
      (domains ok).Safe i Q (k (.error e)) w) :
    (domains ok).Safe i Q
      ((Proc.transact ℓ (deleteRow load plan.fallbackId)).finish k) w := by
  refine safe_transact (fun w₁ r w₂ hrely _ hok htx => ?_) fun w₁ e hrely _ hok htx => ?_
  · exact ⟨change_deleteRow (hplan.later hrely) (hload w₁) htx hℓ, fun _ => hdone r w₂⟩
  · exact ⟨.none rfl, herror w₁ e (hplan.later hrely) hok htx⟩

end Removal

theorem safe_remove (i tenantId domainId : Nat) (answer : ReleaseAnswer) :
    (domains ok).Safe i (fun _ _ => True) (remove tenantId domainId answer) w := by
  refine safe_removal (P := fun plan => plan.row.id = domainId) answer ?_ ?_
  · intro w plan w' h
    obtain ⟨rfl, hid, -, hplanned⟩ := planRemoval_ok h
    exact ⟨rfl, hid, hplanned⟩
  · rintro plan w rfl hplanned
    refine safe_deletion hplanned (fun w row w₁ h => loadOwnDomain_ok h) rfl ?_ ?_
    · exact fun r w => safe_done fun _ _ _ => trivial
    · intro w e _ _ _
      dsimp only [Proc.onError]
      split <;> exact safe_done fun _ _ _ => trivial

theorem safe_platformRemove (i domainId : Nat) (answer : ReleaseAnswer) :
    (domains ok).Safe i (fun _ _ => True) (Platform.remove domainId answer) w := by
  refine safe_removal (P := fun plan => plan.row.id = domainId) answer ?_ ?_
  · exact fun w plan w' h => platformPlanRemoval_ok h
  · rintro plan w rfl hplanned
    rw [← Proc.finish_done (Proc.transact _ _)]
    refine safe_deletion hplanned (fun w row w₁ h => loadDomain_ok h) rfl ?_ ?_
    · exact fun r w => safe_done fun _ _ _ => trivial
    · exact fun w e _ _ _ => safe_done fun _ _ _ => trivial

theorem safe_map {α β : Type} {i : Nat} {p : Service α} (f : α → β)
    (h : (domains ok).Safe i (fun _ _ => True) p w) :
    (domains ok).Safe i (fun _ _ => True) (f <$> p) w :=
  h.bind (K := fun _ => True) trivial fun _ _ _ _ => safe_done fun _ _ _ => trivial

/-- Whatever is asked for, each write of it is a change of the domains. -/
theorem safe_handle (i : Nat) (req : Request) (w : World) :
    (domains ok).Safe i (fun _ _ => True) (handle settings req) w := by
  cases req <;> apply safe_map
  case ensurePlatformSubdomain =>
      exact safe_of_changes (changes_transact fun _ _ _ h => change_ensurePlatformSubdomain h)
  case add => exact safe_of_changes (changes_add _ _ _)
  case verify => exact safe_of_changes (changes_verify _ _ _ _ _)
  case setPrimary =>
      apply safe_of_changes
      exact changes_onConflict (changes_transact fun _ _ _ h => change_makePrimary h)
  case remove => exact safe_remove _ _ _ _
  case refreshTls => exact safe_of_changes (changes_refreshTls _ _ _)
  case platformRevoke => exact safe_of_changes (changes_revoke _)
  case platformOverride => exact safe_of_changes (changes_override _)
  case platformReverify => exact safe_of_changes (changes_reverify _ _ _)
  case platformRemove => exact safe_platformRemove _ _ _

/-! ## Runs -/

section Runs

variable {c c' : DomainConfig}

theorem holds_reaches (hrun : Reaches settings ok ⟨w, []⟩ c) :
    (domains ok).Holds (fun _ _ _ _ => True) c := by
  have hserve : ∀ i req w, 0 ≤ i → (domains ok).inv w → True →
      (domains ok).Safe i (fun _ _ => True) (handle settings req) w :=
    fun i req w _ _ _ => safe_handle i req w
  have hidle : (domains ok).Holds (fun _ _ _ _ => True) (⟨w, []⟩ : DomainConfig) :=
    holds_idle trivial
  exact hidle.run (Nat.zero_le _) hserve hrun

/-- What a step of a run does to the domains. -/
theorem step_change (hrun : Reaches settings ok ⟨w, []⟩ c)
    (hstep : Step (fun _ => handle settings) (fun _ _ => True) ok c c') :
    c'.state = c.state ∨ ∃ ℓ, ok ℓ c.state ∧ Change ℓ c.state c'.state := by
  obtain hsame | ⟨_, ℓ, hok, hchange⟩ := (holds_reaches hrun).commit hstep
  · exact .inl hsame
  · exact .inr ⟨ℓ, hok, hchange⟩

/-- What every change keeps holds in every state that is reached. -/
theorem reaches_invariant {J : World → Prop}
    (hJ : ∀ ℓ w w', J w → ok ℓ w → Change ℓ w w' → J w') (hw : J w)
    (hrun : Reaches settings ok ⟨w, []⟩ c) : J c.state := by
  induction hrun with
  | refl => exact hw
  | @tail b c hbefore hstep ih =>
      obtain hsame | ⟨ℓ, hok, hchange⟩ := step_change hbefore hstep
      · rw [hsame]
        exact ih
      · exact hJ ℓ _ _ ih hok hchange

end Runs

end PrintForge.StoreDomains
