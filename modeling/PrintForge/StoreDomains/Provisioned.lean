import Mathlib.Data.List.Find
import PrintForge.StoreDomains.Provisioning

/-!
# What the store-domain backfill reaches

Each step is taken by itself: what it does to the rows, and when it finds nothing to do. The loop
over the stores carries along which of the stores are the first to derive their hostnames, for the
others are reported.
-/

namespace PrintForge.StoreDomains.Provisioning

open Relational JavaScript

/-! ## Rows -/

/-- The store has a row for its platform subdomain. -/
def provisioned (t : Table StoreDomain) (store : Store) : Bool := t.rows.any (isPlatformRowOf store)

theorem provisioned_iff {t : Table StoreDomain} {store : Store} :
    provisioned t store = true ↔ ∃ d ∈ t, isPlatformRowOf store d = true :=
  List.any_eq_true

theorem isPlatformRowOf_iff {store : Store} {d : StoreDomain} :
    isPlatformRowOf store d = true ↔ d.storeId = store.id ∧ d.type = some .platformSubdomain := by
  rw [isPlatformRowOf, Bool.and_eq_true, decide_eq_true_eq, decide_eq_true_eq]

theorem findFirst_platformRow {t : Table StoreDomain} {store : Store}
    (h : provisioned t store = false) : t.findFirst (isPlatformRowOf store) = none := by
  refine List.find?_eq_none.mpr fun d hd hrow => ?_
  rw [provisioned_iff.mpr ⟨d, hd, hrow⟩] at h
  cases h

theorem findFirst_hostname {t : Table StoreDomain} {d : StoreDomain} (hd : d ∈ t) :
    t.findFirst (·.hostname = d.hostname) = some d :=
  Table.findFirst_eq_some hd (decide_eq_true rfl) fun _ he hehost =>
    Table.eq_of_clash he hd (.inl (of_decide_eq_true hehost))

/-- A row of the store has the hostname. -/
def Holds (t : Table StoreDomain) (hostname : String) (storeId : Nat) : Prop :=
  ∃ d ∈ t, d.hostname = hostname ∧ d.storeId = storeId

/-- A hostname has one holder. -/
theorem Holds.unique {t : Table StoreDomain} {hostname : String} {a b : Nat}
    (ha : Holds t hostname a) (hb : Holds t hostname b) : a = b := by
  obtain ⟨d, hd, rfl, rfl⟩ := ha
  obtain ⟨e, he, heq, rfl⟩ := hb
  rw [Table.eq_of_clash hd he (.inl heq.symm)]

variable [LowerCasing]

/-! ## Types -/

/-- A row with its type. -/
def typed (platformDomain : String) (d : StoreDomain) : StoreDomain :=
  { d with type := some (d.type.getD (classify platformDomain d.hostname)) }

theorem typed_of_type {platformDomain : String} {d : StoreDomain} (h : d.type ≠ none) :
    typed platformDomain d = d := by
  obtain ⟨id, storeId, tenantId, hostname, isPrimary, status, token, type, method, tls⟩ := d
  cases type with
  | none => exact absurd rfl h
  | some type => rfl

/-- One row after the others makes one row more. -/
theorem typed_twice (platformDomain : String) (row : StoreDomain) (rows : List StoreDomain)
    (d : StoreDomain) :
    let first := if d.id = row.id then typed platformDomain d else d
    (if first.id ∈ rows.map (·.id) then typed platformDomain first else first) =
      if d.id ∈ (row :: rows).map (·.id) then typed platformDomain d else d := by
  intro first
  have htwice : typed platformDomain (typed platformDomain d) = typed platformDomain d :=
    typed_of_type nofun
  by_cases hid : d.id = row.id
  · have hfirst : first = typed platformDomain d := if_pos hid
    have hin : d.id ∈ (row :: rows).map (·.id) := by simp [hid]
    rw [hfirst, if_pos hin, htwice, ite_self]
  · have hfirst : first = d := if_neg hid
    rw [hfirst, List.map_cons]
    simp only [List.mem_cons, hid, false_or]

section Types

variable {platformDomain : String}

/-- A statement of the loop types the row that it is about. -/
theorem exists_typeRow (row : StoreDomain) (w : World)
    (hrow : ∀ d ∈ w.storeDomains, d.id = row.id → d.hostname = row.hostname) : ∃ n t,
    (Db.storeDomains.updateMany (fun d => d.id = row.id && d.type = none)
        fun d => { d with type := some (classify platformDomain row.hostname) } :
      Transaction Nat) w = .ok (n, { w with storeDomains := t }) ∧
    t.nextKey = w.storeDomains.nextKey ∧
    ∀ d', d' ∈ t ↔ ∃ d ∈ w.storeDomains,
      d' = if d.id = row.id then typed platformDomain d else d := by
  let p : StoreDomain → Bool := fun d => d.id = row.id && d.type = none
  let f : StoreDomain → StoreDomain :=
    fun d => { d with type := some (classify platformDomain row.hostname) }
  obtain ⟨t, ht⟩ : ∃ t, w.storeDomains.update p f (fun _ => rfl) = some t := by
    refine Table.exists_update fun a ha b hb hclash => ?_
    by_cases hpa : p a <;> by_cases hpb : p b <;> simpa [hpa, hpb, f, Schema.Clash] using hclash
  refine ⟨w.storeDomains.count p, t, ?_, Table.nextKey_update ht, fun d' => ?_⟩
  · simp only [Slot.updateMany, Db.storeDomains]
    rw [ht]
  · rw [Table.mem_update ht]
    refine exists_congr fun d => and_congr_right fun hd => ?_
    by_cases hid : d.id = row.id
    · by_cases htype : d.type = none
      · have hp : p d = true := by simp [p, hid, htype]
        rw [if_pos hp, if_pos hid]
        simp [f, typed, htype, hrow d hd hid]
      · have hp : ¬ p d = true := by simp [p, htype]
        rw [if_neg hp, if_pos hid, typed_of_type htype]
    · have hp : ¬ p d = true := by simp [p, hid]
      rw [if_neg hp, if_neg hid]

/-- The loop types the rows that it goes through. -/
theorem exists_classifyRows (platformDomain : String) (rows : List StoreDomain) (w : World)
    (hrows : ∀ row ∈ rows, ∀ d ∈ w.storeDomains, d.id = row.id → d.hostname = row.hostname) :
    ∃ n t, classifyRows platformDomain rows w = .ok (n, { w with storeDomains := t }) ∧
      t.nextKey = w.storeDomains.nextKey ∧
      ∀ d', d' ∈ t ↔ ∃ d ∈ w.storeDomains,
        d' = if d.id ∈ rows.map (·.id) then typed platformDomain d else d := by
  induction rows generalizing w with
  | nil => exact ⟨0, w.storeDomains, rfl, rfl, fun d' => by simp⟩
  | cons row rows ih =>
      obtain ⟨hrow, hrows⟩ := List.forall_mem_cons.mp hrows
      obtain ⟨n, t, hstep, hkey, hmem⟩ := exists_typeRow row w hrow
      have hsame : ∀ d' ∈ t, ∃ d ∈ w.storeDomains, d'.id = d.id ∧ d'.hostname = d.hostname := by
        intro d' hd'
        obtain ⟨d, hd, rfl⟩ := (hmem d').mp hd'
        exact ⟨d, hd, by split <;> exact ⟨rfl, rfl⟩⟩
      obtain ⟨m, t', hrest, hkey', hmem'⟩ := ih { w with storeDomains := t } (by
        intro other hother d' hd' hid
        obtain ⟨d, hd, hdid, hhost⟩ := hsame d' hd'
        rw [hhost]
        exact hrows other hother d hd (hdid.symm.trans hid))
      refine ⟨n + m, t', ?_, hkey'.trans hkey, fun d' => ?_⟩
      · rw [classifyRows, Tx.bind_apply, hstep]
        dsimp only
        rw [Tx.bind_apply, hrest]
        rfl
      · rw [hmem']
        constructor
        · rintro ⟨d₁, hd₁, rfl⟩
          obtain ⟨d, hd, rfl⟩ := (hmem d₁).mp hd₁
          exact ⟨d, hd, typed_twice platformDomain row rows d⟩
        · rintro ⟨d, hd, rfl⟩
          exact ⟨_, (hmem _).mpr ⟨d, hd, rfl⟩, (typed_twice platformDomain row rows d).symm⟩

/-- The first step types every row, and does nothing else. -/
theorem exists_backfillDomainTypes (platformDomain : String) (w : World) :
    ∃ r t, backfillDomainTypes platformDomain w = .ok (r, { w with storeDomains := t }) ∧
      r.anomalies = [] ∧ t.nextKey = w.storeDomains.nextKey ∧
      ∀ d', d' ∈ t ↔ ∃ d ∈ w.storeDomains, d' = typed platformDomain d := by
  obtain ⟨n, t, hrun, hkey, hmem⟩ := exists_classifyRows platformDomain
    (w.storeDomains.findMany (·.type = none)) w fun row hrow d hd hid => by
      rw [Table.eq_of_key hd (List.mem_of_mem_filter hrow) hid]
  refine ⟨⟨"B-1", "classify store_domains.type (CUSTOM unless under the platform domain)", n, []⟩,
    t, ?_, rfl, hkey, fun d' => ?_⟩
  · rw [backfillDomainTypes, Tx.bind_read, Tx.bind_apply, hrun]
    rfl
  · rw [hmem]
    refine exists_congr fun d => and_congr_right fun hd => ?_
    by_cases htype : d.type = none
    · have hin : d.id ∈ (w.storeDomains.findMany (·.type = none)).map (·.id) :=
        List.mem_map_of_mem (List.mem_filter.mpr ⟨hd, by simp [htype]⟩)
      rw [if_pos hin]
    · rw [typed_of_type htype, ite_self]

/-- It does nothing where every row has a type. -/
theorem backfillDomainTypes_typed {w : World} (h : ∀ d ∈ w.storeDomains, d.type ≠ none) :
    ∃ r, backfillDomainTypes platformDomain w = .ok (r, w) := by
  have hnone : w.storeDomains.findMany (·.type = none) = [] :=
    List.filter_eq_nil_iff.mpr fun d hd => by simp [h d hd]
  rw [backfillDomainTypes, Tx.bind_read, hnone]
  exact ⟨_, rfl⟩

end Types

/-! ## Platform subdomains -/

/-- What one turn of the loop does with a store: it has its row, or another store holds its
hostname, or it gets a row. -/
inductive Provision (platformDomain : String) (store : Store) (t : Table StoreDomain) :
    List Anomaly → Table StoreDomain → Prop where
  | present (h : provisioned t store = true) : Provision platformDomain store t [] t
  | held {holderId : Nat} (h : provisioned t store = false)
      (holds : Holds t (derivePlatformHostname store.slug platformDomain) holderId)
      (other : holderId ≠ store.id) : Provision platformDomain store t
        [.collision store.id store.slug (derivePlatformHostname store.slug platformDomain) holderId]
        t
  | inserted {t' : Table StoreDomain} (isPrimary : Bool) (h : provisioned t store = false)
      (free : ∀ d ∈ t, d.hostname ≠ derivePlatformHostname store.slug platformDomain)
      (primary : isPrimary = false → ∃ d ∈ t, d.storeId = store.id ∧ d.isPrimary = true)
      (nextKey_eq : t'.nextKey = t.nextKey + 1)
      (mem_iff : ∀ d, d ∈ t' ↔ d ∈ t ∨ d = platformRow store
        (derivePlatformHostname store.slug platformDomain) isPrimary t.nextKey) :
      Provision platformDomain store t [] t'

section Turn

variable {platformDomain : String} {store : Store} {w : World}

/-- A hostname that nobody holds is the store's. -/
theorem exists_provisionStore_free (h : provisioned w.storeDomains store = false)
    (hfree : ∀ d ∈ w.storeDomains,
      d.hostname ≠ derivePlatformHostname store.slug platformDomain) :
    ∃ t, provisionStore platformDomain store w = .ok ((1, []), { w with storeDomains := t }) ∧
      Provision platformDomain store w.storeDomains [] t := by
  have hholder : w.storeDomains.findFirst
      (·.hostname = derivePlatformHostname store.slug platformDomain) = none :=
    List.find?_eq_none.mpr fun d hd hhost => hfree d hd (of_decide_eq_true hhost)
  generalize hprimary : w.storeDomains.findFirst (fun d => d.storeId = store.id && d.isPrimary) =
    primary
  have hapart : ∀ d ∈ w.storeDomains, ¬ Schema.Clash d
      (platformRow store (derivePlatformHostname store.slug platformDomain) primary.isNone
        w.storeDomains.nextKey) := by
    rintro d hd (hhost | ⟨hstore, hd', hnew⟩)
    · exact hfree d hd hhost
    · rw [Option.isNone_iff_eq_none.mp hnew] at hprimary
      have hnot := Table.findFirst_none hprimary d hd
      rw [show d.storeId = store.id from hstore, hd'] at hnot
      simp at hnot
  obtain ⟨t, ht⟩ : ∃ t, w.storeDomains.create (platformRow store
      (derivePlatformHostname store.slug platformDomain) primary.isNone) (fun _ => rfl) = some t :=
    Table.exists_create hapart
  refine ⟨t, ?_, .inserted primary.isNone h hfree (fun hsome => ?_) (Table.nextKey_create ht)
    fun d => Table.mem_create ht⟩
  · rw [provisionStore, Tx.bind_read, findFirst_platformRow h]
    dsimp only
    rw [Tx.bind_read, hholder]
    dsimp only [Option.filter]
    rw [Tx.bind_read, hprimary, Tx.bind_apply]
    simp only [Slot.create, Db.storeDomains]
    rw [ht]
    rfl
  · cases primary with
    | none => cases hsome
    | some d =>
        obtain ⟨hd, hcondition⟩ := Table.findFirst_some hprimary
        rw [Bool.and_eq_true, decide_eq_true_eq] at hcondition
        exact ⟨d, hd, hcondition⟩

/-- A hostname that the store's own row has under another type is inserted all the same, and the
backfill ends there. -/
theorem provisionStore_own (h : provisioned w.storeDomains store = false)
    (hholds : Holds w.storeDomains (derivePlatformHostname store.slug platformDomain) store.id) :
    provisionStore platformDomain store w = .error .uniqueViolation := by
  obtain ⟨d, hd, hhost, hstore⟩ := hholds
  rw [provisionStore, Tx.bind_read, findFirst_platformRow h]
  dsimp only
  rw [Tx.bind_read, ← hhost, findFirst_hostname hd, Option.filter_some_neg (by simp [hstore])]
  dsimp only
  rw [Tx.bind_read, Tx.bind_apply]
  generalize w.storeDomains.findFirst (fun d => d.storeId = store.id && d.isPrimary) = primary
  have hcreate : w.storeDomains.create (platformRow store d.hostname primary.isNone)
      (fun _ => rfl) = none := by
    by_contra hsome
    obtain ⟨t, ht⟩ := Option.ne_none_iff_exists'.mp hsome
    exact Table.create_apart ht d hd (.inl rfl)
  simp only [Slot.create, Db.storeDomains]
  rw [hcreate]
  rfl

/-- A turn that leaves the rows as they are. -/
theorem exists_provisionStore_idle
    (h : provisioned w.storeDomains store = true ∨ ∃ holderId ≠ store.id,
      Holds w.storeDomains (derivePlatformHostname store.slug platformDomain) holderId) :
    ∃ anomalies, provisionStore platformDomain store w = .ok ((0, anomalies), w) ∧
      Provision platformDomain store w.storeDomains anomalies w.storeDomains := by
  by_cases hrow : provisioned w.storeDomains store = true
  · refine ⟨[], ?_, .present hrow⟩
    rw [provisionStore, Tx.bind_read]
    cases hfind : w.storeDomains.findFirst (isPlatformRowOf store) with
    | some d => rfl
    | none =>
        obtain ⟨d, hd, hplatform⟩ := provisioned_iff.mp hrow
        rw [Table.findFirst_none hfind d hd] at hplatform
        cases hplatform
  · obtain ⟨holderId, hother, hholds⟩ := h.resolve_left hrow
    have hrow : provisioned w.storeDomains store = false := Bool.eq_false_iff.mpr hrow
    refine ⟨_, ?_, .held hrow hholds hother⟩
    obtain ⟨d, hd, hhost, rfl⟩ := hholds
    rw [provisionStore, Tx.bind_read, findFirst_platformRow hrow]
    dsimp only
    rw [Tx.bind_read, ← hhost, findFirst_hostname hd, Option.filter_some_pos (by simp [hother])]
    rfl

/-- A turn ends unless the store holds its own hostname under another type. -/
theorem exists_provisionStore (hfree : provisioned w.storeDomains store = false →
      ¬ Holds w.storeDomains (derivePlatformHostname store.slug platformDomain) store.id) :
    ∃ n anomalies t, provisionStore platformDomain store w =
        .ok ((n, anomalies), { w with storeDomains := t }) ∧
      Provision platformDomain store w.storeDomains anomalies t := by
  by_cases hidle : provisioned w.storeDomains store = true ∨ ∃ holderId ≠ store.id,
      Holds w.storeDomains (derivePlatformHostname store.slug platformDomain) holderId
  · obtain ⟨anomalies, hrun, hturn⟩ := exists_provisionStore_idle hidle
    exact ⟨0, anomalies, w.storeDomains, hrun, hturn⟩
  · obtain ⟨hrow, hothers⟩ := not_or.mp hidle
    have hrow : provisioned w.storeDomains store = false := Bool.eq_false_iff.mpr hrow
    obtain ⟨t, hrun, hturn⟩ := exists_provisionStore_free hrow fun d hd hhost => by
      by_cases hstore : d.storeId = store.id
      · exact hfree hrow ⟨d, hd, hhost, hstore⟩
      · exact hothers ⟨d.storeId, hstore, d, hd, hhost, rfl⟩
    exact ⟨1, [], t, hrun, hturn⟩

end Turn

/-- Afterwards nothing is left for the store: it has its row, and a primary row if it had none of
either before, or the holder of its hostname has been reported. -/
def Settled (platformDomain : String) (t t' : Table StoreDomain) (anomalies : List Anomaly)
    (store : Store) : Prop :=
  (provisioned t' store = true ∧ (provisioned t store = false →
    ∃ d ∈ t', d.storeId = store.id ∧ d.isPrimary = true)) ∨
  ∃ holderId ≠ store.id,
    Holds t' (derivePlatformHostname store.slug platformDomain) holderId ∧
    .collision store.id store.slug (derivePlatformHostname store.slug platformDomain) holderId ∈
      anomalies

/-- The first of the stores that lack a row and make the same hostname as this one. -/
def claimant (platformDomain : String) (present : Store → Bool) (stores : List Store)
    (store : Store) : Option Store :=
  stores.find? fun other => !present other &&
    derivePlatformHostname other.slug platformDomain =
      derivePlatformHostname store.slug platformDomain

/-- What the loop does: rows are kept, each new one belongs to the first store that makes its
hostname, which nobody held, and each report is about a store that lacked a row. -/
structure Provisions (platformDomain : String) (stores : List Store) (t : Table StoreDomain)
    (anomalies : List Anomaly) (t' : Table StoreDomain) : Prop where
  kept : ∀ d ∈ t, d ∈ t'
  nextKey_le : t.nextKey ≤ t'.nextKey
  new : ∀ d ∈ t', d ∉ t → t.nextKey ≤ d.id ∧ ∃ store ∈ stores, provisioned t store = false ∧
    (∀ e ∈ t, e.hostname ≠ derivePlatformHostname store.slug platformDomain) ∧
    claimant platformDomain (provisioned t) stores store = some store ∧
    ∃ isPrimary, d = platformRow store (derivePlatformHostname store.slug platformDomain)
      isPrimary d.id
  settled : ∀ store ∈ stores, Settled platformDomain t t' anomalies store
  reported : ∀ a ∈ anomalies, ∃ store ∈ stores, provisioned t store = false ∧ ∃ holderId,
    a = .collision store.id store.slug (derivePlatformHostname store.slug platformDomain)
      holderId ∧
    (Holds t (derivePlatformHostname store.slug platformDomain) holderId ∨
      ∃ other ∈ stores, other.id = holderId ∧ provisioned t other = false)

section Loop

variable {platformDomain : String} {store : Store} {stores : List Store}
  {t t₁ t' : Table StoreDomain} {anomalies others : List Anomaly}

omit [LowerCasing] in
theorem provisioned_mono (h : ∀ d ∈ t, d ∈ t') (hrow : provisioned t store = true) :
    provisioned t' store = true := by
  obtain ⟨d, hd, hplatform⟩ := provisioned_iff.mp hrow
  exact provisioned_iff.mpr ⟨d, h d hd, hplatform⟩

omit [LowerCasing] in
theorem provisioned_anti (h : ∀ d ∈ t, d ∈ t') (hrow : provisioned t' store = false) :
    provisioned t store = false := by
  by_contra hsome
  rw [provisioned_mono h (Bool.not_eq_false _ ▸ hsome)] at hrow
  cases hrow

omit [LowerCasing] in
theorem Holds.mono {hostname : String} {storeId : Nat} (h : ∀ d ∈ t, d ∈ t')
    (hholds : Holds t hostname storeId) : Holds t' hostname storeId := by
  obtain ⟨d, hd, hrow⟩ := hholds
  exact ⟨d, h d hd, hrow⟩

namespace Provision

variable (hturn : Provision platformDomain store t anomalies t₁)

include hturn

theorem kept : ∀ d ∈ t, d ∈ t₁ := by
  cases hturn with
  | present h => exact fun d hd => hd
  | held h holds other => exact fun d hd => hd
  | inserted isPrimary h free primary nextKey_eq mem_iff =>
      exact fun d hd => (mem_iff d).mpr (.inl hd)

theorem nextKey_le : t.nextKey ≤ t₁.nextKey := by
  cases hturn with
  | present h => exact Nat.le_refl _
  | held h holds other => exact Nat.le_refl _
  | inserted isPrimary h free primary nextKey_eq mem_iff => omega

/-- The rows of other stores are not touched. -/
theorem mem_of_ne {d : StoreDomain} (hd : d ∈ t₁) (hne : d.storeId ≠ store.id) : d ∈ t := by
  cases hturn with
  | present h => exact hd
  | held h holds other => exact hd
  | inserted isPrimary h free primary nextKey_eq mem_iff =>
      obtain hold | rfl := (mem_iff d).mp hd
      · exact hold
      · exact absurd rfl hne

theorem provisioned_of_ne {other : Store} (hne : other.id ≠ store.id) :
    provisioned t₁ other = provisioned t other := by
  rw [Bool.eq_iff_iff]
  refine ⟨fun hrow => ?_, provisioned_mono hturn.kept⟩
  obtain ⟨d, hd, hplatform⟩ := provisioned_iff.mp hrow
  have hstore := (isPlatformRowOf_iff.mp hplatform).1
  exact provisioned_iff.mpr ⟨d, hturn.mem_of_ne hd (hstore.trans_ne hne), hplatform⟩

/-- After its turn a store that lacked a row has its hostname held. -/
theorem holds (hrow : provisioned t store = false) : ∃ storeId,
    Holds t₁ (derivePlatformHostname store.slug platformDomain) storeId := by
  cases hturn with
  | present h => exact absurd (h.symm.trans hrow) (by decide)
  | held h holds other => exact ⟨_, holds⟩
  | inserted isPrimary h free primary nextKey_eq mem_iff =>
      exact ⟨store.id, _, (mem_iff _).mpr (.inr rfl), rfl, rfl⟩

theorem settled : Settled platformDomain t t₁ anomalies store := by
  cases hturn with
  | present h => exact .inl ⟨h, fun hrow => absurd (h.symm.trans hrow) (by decide)⟩
  | held h holds other => exact .inr ⟨_, other, holds, List.mem_singleton_self _⟩
  | inserted isPrimary h free primary nextKey_eq mem_iff =>
      have hnew := (mem_iff _).mpr (.inr rfl)
      refine .inl ⟨provisioned_iff.mpr ⟨_, hnew, isPlatformRowOf_iff.mpr ⟨rfl, rfl⟩⟩, fun _ => ?_⟩
      cases isPrimary with
      | true => exact ⟨_, hnew, rfl, rfl⟩
      | false =>
          obtain ⟨d, hd, hprimary⟩ := primary rfl
          exact ⟨d, (mem_iff d).mpr (.inl hd), hprimary⟩

end Provision

theorem Settled.mono {t₂ : Table StoreDomain} (h : Settled platformDomain t t₁ anomalies store)
    (hkept : ∀ d ∈ t₁, d ∈ t₂) (others : List Anomaly) :
    Settled platformDomain t t₂ (anomalies ++ others) store := by
  obtain ⟨hrow, hprimary⟩ | ⟨holderId, hother, hholds, hreport⟩ := h
  · refine .inl ⟨provisioned_mono hkept hrow, fun hnone => ?_⟩
    obtain ⟨d, hd, hstore⟩ := hprimary hnone
    exact ⟨d, hkept d hd, hstore⟩
  · exact .inr ⟨holderId, hother, hholds.mono hkept, List.mem_append_left _ hreport⟩

theorem Provisions.nil : Provisions platformDomain [] t [] t where
  kept _ hd := hd
  nextKey_le := Nat.le_refl _
  new _ hd hnew := absurd hd hnew
  settled _ hstore := absurd hstore List.not_mem_nil
  reported _ ha := absurd ha List.not_mem_nil

/-- A new row of the first turn. -/
theorem Provision.new (hturn : Provision platformDomain store t anomalies t₁) {d : StoreDomain}
    (hd : d ∈ t₁) (hnew : d ∉ t) : provisioned t store = false ∧
      (∀ e ∈ t, e.hostname ≠ derivePlatformHostname store.slug platformDomain) ∧
      ∃ isPrimary, d = platformRow store (derivePlatformHostname store.slug platformDomain)
        isPrimary t.nextKey := by
  cases hturn with
  | present h => exact absurd hd hnew
  | held h holds other => exact absurd hd hnew
  | inserted isPrimary h free primary nextKey_eq mem_iff =>
      exact ⟨h, free, isPrimary, ((mem_iff d).mp hd).resolve_left hnew⟩

/-- A store that is first among the rest is first of all, where the turn before was not about its
hostname. -/
theorem Provision.claimant_cons (hturn : Provision platformDomain store t anomalies t₁)
    (hdistinct : ∀ other ∈ stores, other.id ≠ store.id) {other : Store}
    (hfree : ∀ e ∈ t₁, e.hostname ≠ derivePlatformHostname other.slug platformDomain)
    (hfirst : claimant platformDomain (provisioned t₁) stores other = some other) :
    claimant platformDomain (provisioned t) (store :: stores) other = some other := by
  have hnot : ¬ (!provisioned t store && decide (derivePlatformHostname store.slug platformDomain =
      derivePlatformHostname other.slug platformDomain)) = true := by
    intro hclaims
    rw [Bool.and_eq_true, Bool.not_eq_true', decide_eq_true_eq] at hclaims
    obtain ⟨storeId, d, hd, hhost, -⟩ := hturn.holds hclaims.1
    exact hfree d hd (hhost.trans hclaims.2)
  have hskip : claimant platformDomain (provisioned t) (store :: stores) other =
      claimant platformDomain (provisioned t) stores other := List.find?_cons_of_neg hnot
  rw [hskip, ← hfirst]
  refine List.find?_congr fun s hs => ?_
  rw [hturn.provisioned_of_ne (hdistinct s hs)]

/-- One turn and the loop over the rest make the loop. -/
theorem Provisions.cons (hturn : Provision platformDomain store t anomalies t₁)
    (hrest : Provisions platformDomain stores t₁ others t')
    (hdistinct : ∀ other ∈ stores, other.id ≠ store.id) :
    Provisions platformDomain (store :: stores) t (anomalies ++ others) t' where
  kept d hd := hrest.kept d (hturn.kept d hd)
  nextKey_le := hturn.nextKey_le.trans hrest.nextKey_le
  new d hd hnew := by
    by_cases hd₁ : d ∈ t₁
    · obtain ⟨hrow, hfree, isPrimary, rfl⟩ := hturn.new hd₁ hnew
      refine ⟨Nat.le_refl _, store, List.mem_cons_self, hrow, hfree, ?_, isPrimary, rfl⟩
      exact List.find?_cons_of_pos (by simp [hrow])
    · obtain ⟨hkey, other, hother, hrow, hfree, hfirst, hshape⟩ := hrest.new d hd hd₁
      refine ⟨hturn.nextKey_le.trans hkey, other, List.mem_cons_of_mem _ hother,
        provisioned_anti hturn.kept hrow, fun e he => hfree e (hturn.kept e he),
        hturn.claimant_cons hdistinct hfree hfirst, hshape⟩
  settled := by
    refine List.forall_mem_cons.mpr ⟨hturn.settled.mono hrest.kept others, fun other hother => ?_⟩
    obtain ⟨hrow, hprimary⟩ | ⟨holderId, hne, hholds, hreport⟩ := hrest.settled other hother
    · rw [hturn.provisioned_of_ne (hdistinct other hother)] at hprimary
      exact .inl ⟨hrow, hprimary⟩
    · exact .inr ⟨holderId, hne, hholds, List.mem_append_right _ hreport⟩
  reported a ha := by
    obtain hfirst | hlater := List.mem_append.mp ha
    · cases hturn with
      | present h => exact absurd hfirst List.not_mem_nil
      | held h holds other =>
          rw [List.mem_singleton.mp hfirst]
          exact ⟨store, List.mem_cons_self, h, _, rfl, .inl holds⟩
      | inserted isPrimary h free primary nextKey_eq mem_iff =>
          exact absurd hfirst List.not_mem_nil
    · obtain ⟨other, hother, hrow, holderId, rfl, hholder⟩ := hrest.reported a hlater
      refine ⟨other, List.mem_cons_of_mem _ hother, provisioned_anti hturn.kept hrow, holderId, rfl,
        ?_⟩
      obtain ⟨d, hd, hhost, rfl⟩ | ⟨s, hs, hid, hsrow⟩ := hholder
      · by_cases hold : d ∈ t
        · exact .inl ⟨d, hold, hhost, rfl⟩
        · obtain ⟨hstore, -, isPrimary, rfl⟩ := hturn.new hd hold
          exact .inr ⟨store, List.mem_cons_self, rfl, hstore⟩
      · exact .inr ⟨s, List.mem_cons_of_mem _ hs, hid, provisioned_anti hturn.kept hsrow⟩

section Distinct

variable (h : Provisions platformDomain stores t anomalies t')
  (hids : ∀ a ∈ stores, ∀ b ∈ stores, a.id = b.id → a = b)

include h hids

/-- A new row is that of its store. -/
theorem Provisions.new_of_storeId (hstore : store ∈ stores) {d : StoreDomain} (hd : d ∈ t')
    (hnew : d ∉ t) (hown : d.storeId = store.id) : t.nextKey ≤ d.id ∧ provisioned t store = false ∧
      (∀ e ∈ t, e.hostname ≠ derivePlatformHostname store.slug platformDomain) ∧
      ∃ isPrimary, d = platformRow store (derivePlatformHostname store.slug platformDomain)
        isPrimary d.id := by
  obtain ⟨hkey, other, hother, hrow, hfree, -, isPrimary, hshape⟩ := h.new d hd hnew
  have hid : other.id = store.id := by
    rw [← hown, hshape]
    rfl
  rw [← hids other hother store hstore hid]
  exact ⟨hkey, hrow, hfree, isPrimary, hshape⟩

/-- The first of the stores that make a hostname nobody holds gets it. -/
theorem Provisions.inserted (hstore : store ∈ stores) (hrow : provisioned t store = false)
    (hfree : ∀ e ∈ t, e.hostname ≠ derivePlatformHostname store.slug platformDomain)
    (hfirst : claimant platformDomain (provisioned t) stores store = some store) :
    ∃ d ∈ t', t.nextKey ≤ d.id ∧ ∃ isPrimary, d = platformRow store
      (derivePlatformHostname store.slug platformDomain) isPrimary d.id := by
  obtain ⟨hpresent, -⟩ | ⟨holderId, hother, ⟨d, hd, hhost, hholder⟩, -⟩ := h.settled store hstore
  · obtain ⟨d, hd, hplatform⟩ := provisioned_iff.mp hpresent
    have hnew : d ∉ t := by
      intro hold
      rw [provisioned_iff.mpr ⟨d, hold, hplatform⟩] at hrow
      cases hrow
    obtain ⟨hkey, -, -, hshape⟩ :=
      h.new_of_storeId hids hstore hd hnew (isPlatformRowOf_iff.mp hplatform).1
    exact ⟨d, hd, hkey, hshape⟩
  · -- another store that makes the hostname would come first
    obtain ⟨-, other, -, -, -, hclaims, isPrimary, hshape⟩ :=
      h.new d hd fun hold => hfree d hold hhost
    have hsame : derivePlatformHostname other.slug platformDomain =
        derivePlatformHostname store.slug platformDomain := by
      rw [← hhost, hshape]
      rfl
    rw [claimant, hsame, ← claimant, hfirst, Option.some_inj] at hclaims
    refine absurd ?_ hother
    rw [← hholder, hshape, hclaims]
    rfl

/-- A store that lacks a row and whose hostname another one holds is reported. -/
theorem Provisions.collision (hstore : store ∈ stores) (hrow : provisioned t store = false)
    {holderId : Nat}
    (hholds : Holds t (derivePlatformHostname store.slug platformDomain) holderId) :
    .collision store.id store.slug (derivePlatformHostname store.slug platformDomain) holderId ∈
      anomalies := by
  obtain ⟨hpresent, -⟩ | ⟨other, hother, hholds', hreport⟩ := h.settled store hstore
  · obtain ⟨d, hd, hplatform⟩ := provisioned_iff.mp hpresent
    have hnew : d ∉ t := by
      intro hold
      rw [provisioned_iff.mpr ⟨d, hold, hplatform⟩] at hrow
      cases hrow
    obtain ⟨-, -, hfree, -⟩ :=
      h.new_of_storeId hids hstore hd hnew (isPlatformRowOf_iff.mp hplatform).1
    obtain ⟨e, he, hhost, -⟩ := hholds
    exact absurd hhost (hfree e he)
  · rw [(hholds.mono h.kept).unique hholds']
    exact hreport

end Distinct

end Loop

section Run

variable {platformDomain : String} {w : World}

theorem exists_provisionStores {stores : List Store} (hids : stores.Pairwise (·.id ≠ ·.id))
    (hfree : ∀ store ∈ stores, provisioned w.storeDomains store = false →
      ¬ Holds w.storeDomains (derivePlatformHostname store.slug platformDomain) store.id) :
    ∃ n anomalies t, provisionStores platformDomain stores w =
        .ok ((n, anomalies), { w with storeDomains := t }) ∧
      Provisions platformDomain stores w.storeDomains anomalies t := by
  induction stores generalizing w with
  | nil => exact ⟨0, [], w.storeDomains, rfl, .nil⟩
  | cons store stores ih =>
      obtain ⟨hstore, hids⟩ := List.pairwise_cons.mp hids
      obtain ⟨hfirst, hrest⟩ := List.forall_mem_cons.mp hfree
      obtain ⟨n, anomalies, t, hrun, hturn⟩ := exists_provisionStore hfirst
      have hdistinct : ∀ other ∈ stores, other.id ≠ store.id := fun other hother =>
        (hstore other hother).symm
      obtain ⟨m, others, t', hruns, hturns⟩ := @ih { w with storeDomains := t } hids (by
        intro other hother hrow
        rw [hturn.provisioned_of_ne (hdistinct other hother)] at hrow
        rintro ⟨d, hd, hhost, hown⟩
        have hold := hturn.mem_of_ne hd (hown.trans_ne (hdistinct other hother))
        exact hrest other hother hrow ⟨d, hold, hhost, hown⟩)
      refine ⟨n + m, anomalies ++ others, t', ?_, hturns.cons hturn hdistinct⟩
      rw [provisionStores, Tx.bind_apply, hrun]
      dsimp only
      rw [Tx.bind_apply, hruns]
      rfl

/-- One store that holds its own hostname under another type ends the loop. -/
theorem provisionStores_own {stores : List Store} (hids : stores.Pairwise (·.id ≠ ·.id))
    (hown : ∃ store ∈ stores, provisioned w.storeDomains store = false ∧
      Holds w.storeDomains (derivePlatformHostname store.slug platformDomain) store.id) :
    provisionStores platformDomain stores w = .error .uniqueViolation := by
  induction stores generalizing w with
  | nil =>
      obtain ⟨store, hstore, -⟩ := hown
      cases hstore
  | cons store stores ih =>
      obtain ⟨hstore, hids⟩ := List.pairwise_cons.mp hids
      by_cases hfirst : provisioned w.storeDomains store = false ∧
          Holds w.storeDomains (derivePlatformHostname store.slug platformDomain) store.id
      · rw [provisionStores, Tx.bind_apply, provisionStore_own hfirst.1 hfirst.2]
      · obtain ⟨n, anomalies, t, hrun, hturn⟩ := exists_provisionStore (not_and.mp hfirst)
        have hrest : provisionStores platformDomain stores { w with storeDomains := t } =
            .error .uniqueViolation := by
          refine ih hids ?_
          obtain ⟨other, hother, hrow, hholds⟩ := hown
          obtain rfl | hlater := List.mem_cons.mp hother
          · exact absurd ⟨hrow, hholds⟩ hfirst
          · refine ⟨other, hlater, ?_, hholds.mono hturn.kept⟩
            rw [← hrow]
            exact hturn.provisioned_of_ne (hstore other hlater).symm
        rw [provisionStores, Tx.bind_apply, hrun]
        dsimp only
        rw [Tx.bind_apply, hrest]

/-- Where every store has its row, or another store holds its hostname, the loop changes nothing. -/
theorem exists_provisionStores_idle {stores : List Store}
    (h : ∀ store ∈ stores, provisioned w.storeDomains store = true ∨ ∃ holderId ≠ store.id,
      Holds w.storeDomains (derivePlatformHostname store.slug platformDomain) holderId) :
    ∃ r, provisionStores platformDomain stores w = .ok (r, w) := by
  induction stores with
  | nil => exact ⟨(0, []), rfl⟩
  | cons store stores ih =>
      obtain ⟨hfirst, hrest⟩ := List.forall_mem_cons.mp h
      obtain ⟨anomalies, hrun, -⟩ := exists_provisionStore_idle hfirst
      obtain ⟨⟨m, others⟩, hruns⟩ := ih hrest
      refine ⟨(0 + m, anomalies ++ others), ?_⟩
      rw [provisionStores, Tx.bind_apply, hrun]
      dsimp only
      rw [Tx.bind_apply, hruns]
      rfl

end Run

end PrintForge.StoreDomains.Provisioning
