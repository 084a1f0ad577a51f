import PrintForge.StoreDomains.Registered

/-!
# What the backfill reaches

The backfill ends, and every store has its platform subdomain and its primary row or is named in a
report, exactly where no store holds its own hostname under another type, no store has a platform
row and nothing that could be its primary row, and the hostnames to be inserted are host names in
their normal form.
-/

namespace PrintForge.StoreDomains.Provisioning

open Relational JavaScript

/-- The stores are told apart by their ids. -/
theorem stores_distinct (w : World) : w.stores.rows.Pairwise (·.id ≠ ·.id) :=
  w.stores.consistent.imp And.left

theorem eq_of_storeId (w : World) : ∀ a ∈ w.stores.rows, ∀ b ∈ w.stores.rows, a.id = b.id → a = b :=
  fun _ ha _ hb h => Table.eq_of_key ha hb h

variable [LowerCasing]

/-- Once the types are known, the store has a row for its platform subdomain. -/
def present (platformDomain : String) (t : Table StoreDomain) (store : Store) : Bool :=
  t.rows.any fun d => isPlatformRowOf store (typed platformDomain d)

/-- How many primary rows the store has. -/
def primaries (t : Table StoreDomain) (store : Store) : Nat :=
  t.count fun d => d.storeId = store.id && d.isPrimary

/-! ## The whole run -/

/-- The four steps, one after the other. -/
inductive Backfilled (tenantId : Nat) (platformDomain : String) (w : World) :
    List StepResult → World → Prop where
  | run {t₁ t₂ t₃ : Table StoreDomain} {c : Table PlatformConfig}
      {types subdomains custom mode : StepResult}
      (nextKey_eq : t₁.nextKey = w.storeDomains.nextKey)
      (typed_iff : ∀ d', d' ∈ t₁ ↔ ∃ d ∈ w.storeDomains, d' = typed platformDomain d)
      (quiet : types.anomalies = [])
      (provisions : Provisions platformDomain w.stores.rows t₁ subdomains.anomalies t₂)
      (registers : Registers tenantId (target tenantId w) t₂ custom.anomalies t₃)
      (silent : ∀ a ∈ mode.anomalies, a.names = [])
      (moded : ∃ row ∈ c, row.key = storefrontResolutionModeKey) :
      Backfilled tenantId platformDomain w [types, subdomains, custom, mode]
        { w with storeDomains := t₃, platformConfig := c }

section Run

variable {tenantId : Nat} {platformDomain : String} {w w' : World} {results : List StepResult}

section Typed

variable {t t₁ : Table StoreDomain}
  (htyped : ∀ d', d' ∈ t₁ ↔ ∃ d ∈ t, d' = typed platformDomain d)

include htyped

theorem provisioned_typed (store : Store) :
    provisioned t₁ store = present platformDomain t store := by
  rw [Bool.eq_iff_iff, provisioned_iff, present, List.any_eq_true]
  constructor
  · rintro ⟨d', hd', hplatform⟩
    obtain ⟨d, hd, rfl⟩ := (htyped d').mp hd'
    exact ⟨d, hd, hplatform⟩
  · rintro ⟨d, hd, hplatform⟩
    exact ⟨_, (htyped _).mpr ⟨d, hd, rfl⟩, hplatform⟩

theorem holds_typed {hostname : String} {storeId : Nat} :
    Holds t₁ hostname storeId ↔ Holds t hostname storeId := by
  constructor
  · rintro ⟨d', hd', hrow⟩
    obtain ⟨d, hd, rfl⟩ := (htyped d').mp hd'
    exact ⟨d, hd, hrow⟩
  · rintro ⟨d, hd, hrow⟩
    exact ⟨_, (htyped _).mpr ⟨d, hd, rfl⟩, hrow⟩

end Typed

/-- No store holds its own hostname under another type. -/
def Free (platformDomain : String) (w : World) : Prop :=
  ∀ store ∈ w.stores, present platformDomain w.storeDomains store = false →
    ¬ Holds w.storeDomains (derivePlatformHostname store.slug platformDomain) store.id

theorem exists_runAllSteps (tenantId : Nat) (hfree : Free platformDomain w) : ∃ results w',
    runAllSteps tenantId platformDomain w = .ok (results, w') ∧
    Backfilled tenantId platformDomain w results w' := by
  obtain ⟨types, t₁, htypes, hquiet, hkey, htyped⟩ := exists_backfillDomainTypes platformDomain w
  have hfree₁ : ∀ store ∈ w.stores.rows, provisioned t₁ store = false →
      ¬ Holds t₁ (derivePlatformHostname store.slug platformDomain) store.id := by
    intro store hstore hrow hholds
    rw [provisioned_typed htyped] at hrow
    exact hfree store hstore hrow ((holds_typed htyped).mp hholds)
  obtain ⟨n, anomalies, t₂, hsubdomains, hprovisions⟩ :=
    exists_provisionStores (w := { w with storeDomains := t₁ }) (stores_distinct w) hfree₁
  obtain ⟨custom, t₃, hcustom, hregisters⟩ :=
    exists_backfillTenant1CustomDomain tenantId { w with storeDomains := t₂ }
  obtain ⟨mode, c, hmode, hsilent, hmoded⟩ :=
    exists_backfillResolutionModeRow { w with storeDomains := t₃ }
  let subdomains : StepResult :=
    ⟨"B-2", "insert a PLATFORM_SUBDOMAIN row for every store lacking one", n, anomalies⟩
  have hprovisions : Provisions platformDomain w.stores.rows t₁ subdomains.anomalies t₂ :=
    hprovisions
  have hregisters : Registers tenantId (target tenantId w) t₂ custom.anomalies t₃ := hregisters
  refine ⟨_, _, ?_, .run hkey htyped hquiet hprovisions hregisters hsilent hmoded⟩
  rw [runAllSteps, Tx.bind_apply, htypes]
  dsimp only
  rw [backfillPlatformSubdomains, Tx.bind_apply, Tx.bind_read, Tx.bind_apply, hsubdomains]
  dsimp only [Tx.pure_apply]
  rw [Tx.bind_apply, hcustom]
  dsimp only
  rw [Tx.bind_apply, hmode]
  rfl

/-- A store that holds its own hostname under another type ends the backfill. -/
theorem runAllSteps_own (tenantId : Nat) (hown : ¬ Free platformDomain w) :
    runAllSteps tenantId platformDomain w = .error .uniqueViolation := by
  obtain ⟨types, t₁, htypes, hquiet, hkey, htyped⟩ := exists_backfillDomainTypes platformDomain w
  have hloop : provisionStores platformDomain w.stores.rows { w with storeDomains := t₁ } =
      .error .uniqueViolation := by
    refine provisionStores_own (stores_distinct w) ?_
    by_contra hnone
    refine hown fun store hstore hrow hholds => hnone ⟨store, hstore, ?_⟩
    exact ⟨(provisioned_typed htyped store).trans hrow, (holds_typed htyped).mpr hholds⟩
  rw [runAllSteps, Tx.bind_apply, htypes]
  dsimp only
  rw [backfillPlatformSubdomains, Tx.bind_apply, Tx.bind_read, Tx.bind_apply, hloop]

/-- Where nothing is left to do, the backfill changes nothing. -/
theorem exists_runAllSteps_idle (htyped : ∀ d ∈ w.storeDomains, d.type ≠ none)
    (hsettled : ∀ store ∈ w.stores, provisioned w.storeDomains store = true ∨
      ∃ holderId ≠ store.id,
        Holds w.storeDomains (derivePlatformHostname store.slug platformDomain) holderId)
    (hregistered : Registered (target tenantId w) w.storeDomains)
    (hmoded : ∃ row ∈ w.platformConfig, row.key = storefrontResolutionModeKey) :
    ∃ results, runAllSteps tenantId platformDomain w = .ok (results, w) := by
  obtain ⟨types, htypes⟩ : ∃ r, backfillDomainTypes platformDomain w = .ok (r, w) :=
    backfillDomainTypes_typed htyped
  obtain ⟨r, hloop⟩ := exists_provisionStores_idle hsettled
  obtain ⟨custom, hcustom⟩ := exists_backfillTenant1CustomDomain_idle hregistered
  obtain ⟨mode, hmode⟩ := exists_backfillResolutionModeRow_idle hmoded
  refine ⟨[types, ⟨"B-2", "insert a PLATFORM_SUBDOMAIN row for every store lacking one", r.1, r.2⟩,
    custom, mode], ?_⟩
  rw [runAllSteps, Tx.bind_apply, htypes]
  dsimp only
  rw [backfillPlatformSubdomains, Tx.bind_apply, Tx.bind_read, Tx.bind_apply, hloop]
  dsimp only [Tx.pure_apply]
  rw [Tx.bind_apply, hcustom]
  dsimp only
  rw [Tx.bind_apply, hmode]
  rfl

namespace Backfilled

variable (h : Backfilled tenantId platformDomain w results w')

include h

theorem stores_eq : w'.stores = w.stores := by
  cases h
  rfl

/-- Every row has a type. -/
theorem typed_all : ∀ d ∈ w'.storeDomains, d.type ≠ none := by
  cases h with
  | @run t₁ t₂ t₃ c types subdomains custom mode nextKey_eq typed_iff quiet provisions registers
      silent moded =>
      intro d' hd'
      obtain ⟨d, hd, -, -, -, htype⟩ | ⟨store, rfl⟩ := registers.origin_of hd'
      · rw [htype]
        by_cases hold : d ∈ t₁
        · obtain ⟨e, -, rfl⟩ := (typed_iff d).mp hold
          exact nofun
        · obtain ⟨-, store, -, -, -, -, isPrimary, hshape⟩ := provisions.new d hd hold
          rw [hshape]
          exact nofun
      · exact nofun

/-- Another run changes nothing. -/
theorem again : ∃ again, runAllSteps tenantId platformDomain w' = .ok (again, w') := by
  refine exists_runAllSteps_idle h.typed_all ?_ ?_ ?_
  all_goals
    cases h with
    | run nextKey_eq typed_iff quiet provisions registers silent moded => ?_
  · intro store hstore
    obtain ⟨hrow, -⟩ | ⟨holderId, hother, hholds, -⟩ := provisions.settled store hstore
    · exact .inl (registers.provisioned hrow)
    · exact .inr ⟨holderId, hother, registers.holds hholds⟩
  · exact registers.done
  · exact moded

end Backfilled

end Run

/-! ## What is reached, and when -/

section Reach

variable (tenantId : Nat) (platformDomain : String) (w : World)

/-- One of the reports names the store. -/
def Named (results : List StepResult) (storeId : Nat) : Prop :=
  ∃ r ∈ results, ∃ a ∈ r.anomalies, storeId ∈ a.names

/-- The hostname is a lookup key, and under the platform domain it is the one of the row's store. -/
def Derived (d : StoreDomain) : Prop :=
  (∃ slug domain, derivePlatformSubdomain slug domain = some d.hostname) ∧
  (d.type = some .platformSubdomain → ∃ store ∈ w.stores, store.id = d.storeId ∧
    derivePlatformSubdomain store.slug platformDomain = some d.hostname)

/-- The backfill ends with every row typed and every store provisioned or named in a report, has
inserted nothing but lookup keys, and has nothing left to do. -/
def Reached : Prop :=
  ∃ results w', runAllSteps tenantId platformDomain w = .ok (results, w') ∧
    (∀ d ∈ w'.storeDomains, d.type ≠ none) ∧
    (∀ store ∈ w'.stores, Named results store.id ∨
      provisioned w'.storeDomains store = true ∧ primaries w'.storeDomains store = 1) ∧
    (∀ d ∈ w'.storeDomains, (∀ e ∈ w.storeDomains, e.id ≠ d.id) → Derived platformDomain w d) ∧
    ∃ again, runAllSteps tenantId platformDomain w' = .ok (again, w')

/-- No store holds its own hostname under another type. A store that has a platform row has a
primary row as well, or gets one as the tenant's primary store, or is named in a report for the
hostname that it holds. The slug of the first store to make a hostname nobody holds makes a host
name in its normal form, and does not end in white space. -/
structure Attainable : Prop where
  free : Free platformDomain w
  primary : ∀ store ∈ w.stores, present platformDomain w.storeDomains store = true →
    (∃ d ∈ w.storeDomains, d.storeId = store.id ∧ d.isPrimary = true) ∨
    (∃ goal, target tenantId w = some goal ∧
      (goal = store ∨ Holds w.storeDomains tenant1CustomHostname store.id)) ∨
    ∃ other ∈ w.stores, present platformDomain w.storeDomains other = false ∧
      Holds w.storeDomains (derivePlatformHostname other.slug platformDomain) store.id
  normal : ∀ store ∈ w.stores, present platformDomain w.storeDomains store = false →
    (∀ d ∈ w.storeDomains, d.hostname ≠ derivePlatformHostname store.slug platformDomain) →
    claimant platformDomain (present platformDomain w.storeDomains) w.stores.rows store =
      some store →
    endsInSpace store.slug = false ∧
      normaliseHost (some (derivePlatformHostname store.slug platformDomain)) false =
        some (derivePlatformHostname store.slug platformDomain)

end Reach

instance (t : Table StoreDomain) (hostname : String) (storeId : Nat) :
    Decidable (Holds t hostname storeId) :=
  inferInstanceAs (Decidable (∃ d ∈ t.rows, _ ∧ _))

instance (platformDomain : String) (w : World) : Decidable (Free platformDomain w) :=
  inferInstanceAs (Decidable (∀ store ∈ w.stores.rows, _ → ¬ Holds _ _ _))

/-- A store with a platform row has, gets or is reported for what it needs. -/
def primaryAttainable (tenantId : Nat) (platformDomain : String) (w : World) (store : Store) :
    Bool :=
  (w.storeDomains.rows.any fun d => d.storeId = store.id && d.isPrimary) ||
    ((target tenantId w).any fun goal => goal = store ||
      decide (Holds w.storeDomains tenant1CustomHostname store.id)) ||
    w.stores.rows.any fun other => !present platformDomain w.storeDomains other &&
      decide (Holds w.storeDomains (derivePlatformHostname other.slug platformDomain) store.id)

theorem primaryAttainable_iff {tenantId : Nat} {platformDomain : String} {w : World}
    {store : Store} : primaryAttainable tenantId platformDomain w store = true ↔
      (∃ d ∈ w.storeDomains, d.storeId = store.id ∧ d.isPrimary = true) ∨
      (∃ goal, target tenantId w = some goal ∧
        (goal = store ∨ Holds w.storeDomains tenant1CustomHostname store.id)) ∨
      ∃ other ∈ w.stores, present platformDomain w.storeDomains other = false ∧
        Holds w.storeDomains (derivePlatformHostname other.slug platformDomain) store.id := by
  simp only [primaryAttainable, Bool.or_eq_true, List.any_eq_true, Option.any_eq_true,
    Bool.and_eq_true, decide_eq_true_eq, Bool.not_eq_true', or_assoc, Table.mem_rows]

instance (tenantId : Nat) (platformDomain : String) (w : World) :
    Decidable (Attainable tenantId platformDomain w) :=
  decidable_of_iff (Free platformDomain w ∧
    (∀ store ∈ w.stores.rows, present platformDomain w.storeDomains store = true →
      primaryAttainable tenantId platformDomain w store = true) ∧
    ∀ store ∈ w.stores.rows, present platformDomain w.storeDomains store = false →
      (∀ d ∈ w.storeDomains.rows,
        d.hostname ≠ derivePlatformHostname store.slug platformDomain) →
      claimant platformDomain (present platformDomain w.storeDomains) w.stores.rows store =
        some store →
      endsInSpace store.slug = false ∧
        normaliseHost (some (derivePlatformHostname store.slug platformDomain)) false =
          some (derivePlatformHostname store.slug platformDomain))
    ⟨fun h => ⟨h.1, fun store hstore hrow =>
        primaryAttainable_iff.mp (h.2.1 store hstore hrow), h.2.2⟩,
      fun h => ⟨h.free, fun store hstore hrow =>
        primaryAttainable_iff.mpr (h.primary store hstore hrow), h.normal⟩⟩

section Run

variable {tenantId : Nat} {platformDomain : String} {w w' : World} {results : List StepResult}

omit [LowerCasing] in
theorem primaries_eq_one {t : Table StoreDomain} {store : Store} :
    primaries t store = 1 ↔ ∃ d ∈ t, d.storeId = store.id ∧ d.isPrimary = true := by
  rw [primaries, Table.count_eq_one_of_unique]
  · simp only [Bool.and_eq_true, decide_eq_true_eq]
  · intro a ha b hb hpa hpb
    simp only [Bool.and_eq_true, decide_eq_true_eq] at hpa hpb
    exact Table.eq_of_clash ha hb (.inr ⟨hpa.1.trans hpb.1.symm, hpa.2, hpb.2⟩)

omit [LowerCasing] in
theorem target_mem {goal : Store} (h : target tenantId w = some goal) : goal ∈ w.stores.rows :=
  (Table.findFirst_some h).1

theorem typed_mem {t₁ : Table StoreDomain} {d : StoreDomain}
    (htyped : ∀ d', d' ∈ t₁ ↔ ∃ d ∈ w.storeDomains, d' = typed platformDomain d) (hd : d ∈ t₁) :
    ∃ e ∈ w.storeDomains, e.id = d.id ∧ e.storeId = d.storeId ∧ e.hostname = d.hostname ∧
      e.isPrimary = d.isPrimary := by
  obtain ⟨e, he, rfl⟩ := (htyped d).mp hd
  exact ⟨e, he, rfl, rfl, rfl, rfl⟩

namespace Backfilled

variable (h : Backfilled tenantId platformDomain w results w')

include h

/-- A store without a platform row gets one and a primary row, or it is reported. -/
theorem reached_of_absent {store : Store} (hstore : store ∈ w.stores)
    (hrow : present platformDomain w.storeDomains store = false) : Named results store.id ∨
      provisioned w'.storeDomains store = true ∧ primaries w'.storeDomains store = 1 := by
  cases h with
  | run nextKey_eq typed_iff quiet provisions registers silent moded =>
      rw [← provisioned_typed typed_iff] at hrow
      obtain ⟨hplatform, hprimary⟩ | ⟨holderId, -, -, hreport⟩ := provisions.settled store hstore
      · exact .inr ⟨registers.provisioned hplatform,
          primaries_eq_one.mpr (registers.keepsPrimary (hprimary hrow))⟩
      · exact .inl ⟨_, List.mem_cons_of_mem _ List.mem_cons_self, _, hreport, List.mem_cons_self⟩

/-- A store that has its platform row keeps it. -/
theorem provisioned_of_present {store : Store}
    (hrow : present platformDomain w.storeDomains store = true) :
    provisioned w'.storeDomains store = true := by
  cases h with
  | run nextKey_eq typed_iff quiet provisions registers silent moded =>
      rw [← provisioned_typed typed_iff] at hrow
      exact registers.provisioned (provisioned_mono provisions.kept hrow)

/-- A store that had its platform row before has no more rows than before, but for the custom domain
of the tenant's store. -/
theorem primary_of_present {store : Store} (hstore : store ∈ w.stores)
    (hrow : present platformDomain w.storeDomains store = true)
    (hprimary : ∃ d ∈ w'.storeDomains, d.storeId = store.id ∧ d.isPrimary = true) :
    (∃ d ∈ w.storeDomains, d.storeId = store.id ∧ d.isPrimary = true) ∨
      target tenantId w = some store := by
  cases h with
  | @run t₁ t₂ t₃ c types subdomains custom mode nextKey_eq typed_iff quiet provisions registers
      silent moded =>
      rw [← provisioned_typed typed_iff] at hrow
      obtain ⟨d, hd, hown, hmain⟩ | ⟨goal, hgoal, hid⟩ := registers.primary_of hprimary
      · by_cases hold : d ∈ t₁
        · obtain ⟨e, he, -, heown, -, hemain⟩ := typed_mem typed_iff hold
          exact .inl ⟨e, he, heown.trans hown, hemain.trans hmain⟩
        · obtain ⟨-, hnot, -⟩ :=
            provisions.new_of_storeId (eq_of_storeId w) hstore hd hold hown
          rw [hrow] at hnot
          cases hnot
      · rw [← eq_of_storeId w goal (target_mem hgoal) store hstore hid]
        exact .inr hgoal

/-- A store that has its platform row is reported for a hostname that it holds. -/
theorem named_of_present {store : Store} (hstore : store ∈ w.stores)
    (hrow : present platformDomain w.storeDomains store = true) (hnamed : Named results store.id) :
    (∃ goal, target tenantId w = some goal ∧
      (goal = store ∨ Holds w.storeDomains tenant1CustomHostname store.id)) ∨
    ∃ other ∈ w.stores, present platformDomain w.storeDomains other = false ∧
      Holds w.storeDomains (derivePlatformHostname other.slug platformDomain) store.id := by
  cases h with
  | @run t₁ t₂ t₃ c types subdomains custom mode nextKey_eq typed_iff quiet provisions registers
      silent moded =>
      rw [← provisioned_typed typed_iff] at hrow
      obtain ⟨r, hr, a, ha, hname⟩ := hnamed
      simp only [List.mem_cons, List.not_mem_nil, or_false] at hr
      obtain rfl | rfl | rfl | rfl := hr
      · rw [quiet] at ha
        cases ha
      · obtain ⟨other, hother, hnone, holderId, rfl, hholder⟩ := provisions.reported a ha
        rw [Anomaly.names, List.mem_cons, List.mem_singleton] at hname
        obtain hid | rfl := hname
        · rw [eq_of_storeId w store hstore other hother hid, hnone] at hrow
          cases hrow
        · obtain hholds | ⟨s, hs, hid, hsrow⟩ := hholder
          · refine .inr ⟨other, hother, ?_, (holds_typed typed_iff).mp hholds⟩
            rw [← provisioned_typed typed_iff, hnone]
          · rw [← eq_of_storeId w s hs store hstore hid, hsrow] at hrow
            cases hrow
      · obtain ⟨goal, hgoal, hid | hholds⟩ := registers.reported ha hname
        · exact .inl ⟨goal, hgoal, .inl (eq_of_storeId w goal (target_mem hgoal) store hstore hid)⟩
        · refine .inl ⟨goal, hgoal, .inr ?_⟩
          obtain ⟨d, hd, hhost, hown⟩ := hholds
          by_cases hold : d ∈ t₁
          · exact (holds_typed typed_iff).mp ⟨d, hold, hhost, hown⟩
          · obtain ⟨-, hnot, -⟩ :=
              provisions.new_of_storeId (eq_of_storeId w) hstore hd hold hown
            rw [hrow] at hnot
            cases hnot
      · rw [silent a ha] at hname
        cases hname

/-- A store with a platform row that could have a primary row gets it, or is reported. -/
theorem reached_of_present {store : Store}
    (hprimary : (∃ d ∈ w.storeDomains, d.storeId = store.id ∧ d.isPrimary = true) ∨
      (∃ goal, target tenantId w = some goal ∧
        (goal = store ∨ Holds w.storeDomains tenant1CustomHostname store.id)) ∨
      ∃ other ∈ w.stores, present platformDomain w.storeDomains other = false ∧
        Holds w.storeDomains (derivePlatformHostname other.slug platformDomain) store.id) :
    Named results store.id ∨ ∃ d ∈ w'.storeDomains, d.storeId = store.id ∧ d.isPrimary = true := by
  cases h with
  | @run t₁ t₂ t₃ c types subdomains custom mode nextKey_eq typed_iff quiet provisions registers
      silent moded =>
      have hcustom : custom ∈ [types, subdomains, custom, mode] := by simp
      obtain ⟨d, hd, hown, hmain⟩ | ⟨goal, hgoal, hstore⟩ | ⟨other, hother, hnone, hholds⟩ :=
        hprimary
      · have hd₁ := (typed_iff _).mpr ⟨d, hd, rfl⟩
        exact .inr (registers.keepsPrimary ⟨_, provisions.kept _ hd₁, hown, hmain⟩)
      · obtain ⟨a, ha, hgoalId, hholder⟩ | ⟨hgoalPrimary, hholder⟩ := registers.settled hgoal
        · obtain rfl | hholds := hstore
          · exact .inl ⟨custom, hcustom, a, ha, hgoalId⟩
          · have hholds₁ := ((holds_typed typed_iff).mpr hholds).mono provisions.kept
            exact .inl ⟨custom, hcustom, a, ha, hholder store.id hholds₁⟩
        · obtain rfl | hholds := hstore
          · exact .inr hgoalPrimary
          · have hholds₁ := ((holds_typed typed_iff).mpr hholds).mono provisions.kept
            rw [hholder store.id hholds₁]
            exact .inr hgoalPrimary
      · rw [← provisioned_typed typed_iff] at hnone
        have hreport := provisions.collision (eq_of_storeId w) hother hnone
          ((holds_typed typed_iff).mpr hholds)
        exact .inl ⟨_, List.mem_cons_of_mem _ List.mem_cons_self, _, hreport,
          List.mem_cons_of_mem _ List.mem_cons_self⟩

/-- What has been inserted is the custom domain, or the platform row of the first store that makes
its hostname. -/
theorem inserted {d : StoreDomain} (hd : d ∈ w'.storeDomains)
    (hnew : ∀ e ∈ w.storeDomains, e.id ≠ d.id) :
    (d.hostname = tenant1CustomHostname ∧ d.type = some .custom) ∨
    ∃ store ∈ w.stores, store.id = d.storeId ∧
      d.hostname = derivePlatformHostname store.slug platformDomain ∧
      present platformDomain w.storeDomains store = false ∧
      (∀ e ∈ w.storeDomains, e.hostname ≠ derivePlatformHostname store.slug platformDomain) ∧
      claimant platformDomain (present platformDomain w.storeDomains) w.stores.rows store =
        some store := by
  cases h with
  | @run t₁ t₂ t₃ c types subdomains custom mode nextKey_eq typed_iff quiet provisions registers
      silent moded =>
      obtain ⟨d₂, hd₂, hid, hown, hhost, htype⟩ | ⟨goal, rfl⟩ := registers.origin_of hd
      · have hnew₂ : d₂ ∉ t₁ := by
          intro hold
          obtain ⟨e, he, heid, -⟩ := typed_mem typed_iff hold
          exact hnew e he (heid.trans hid.symm)
        obtain ⟨-, store, hstore, hrow, hfree, hfirst, isPrimary, hshape⟩ :=
          provisions.new d₂ hd₂ hnew₂
        have hpresent : provisioned t₁ = present platformDomain w.storeDomains :=
          funext (provisioned_typed typed_iff)
        rw [hpresent] at hrow hfirst
        refine .inr ⟨store, hstore, ?_, ?_, hrow, fun e he => ?_, hfirst⟩
        · rw [hown, hshape]
          rfl
        · rw [hhost, hshape]
          rfl
        · exact hfree (typed platformDomain e) ((typed_iff _).mpr ⟨e, he, rfl⟩)
      · exact .inl ⟨rfl, rfl⟩

/-- The first store that makes a hostname nobody holds has it inserted. -/
theorem exists_inserted {store : Store} (hstore : store ∈ w.stores)
    (hrow : present platformDomain w.storeDomains store = false)
    (hfree : ∀ d ∈ w.storeDomains, d.hostname ≠ derivePlatformHostname store.slug platformDomain)
    (hfirst : claimant platformDomain (present platformDomain w.storeDomains) w.stores.rows store =
      some store) : ∃ d ∈ w'.storeDomains, (∀ e ∈ w.storeDomains, e.id ≠ d.id) ∧
        d.storeId = store.id ∧ d.type = some .platformSubdomain ∧
        d.hostname = derivePlatformHostname store.slug platformDomain := by
  cases h with
  | @run t₁ t₂ t₃ c types subdomains custom mode nextKey_eq typed_iff quiet provisions registers
      silent moded =>
      have hpresent : provisioned t₁ = present platformDomain w.storeDomains :=
        funext (provisioned_typed typed_iff)
      rw [← hpresent] at hrow hfirst
      have hfree₁ : ∀ d ∈ t₁,
          d.hostname ≠ derivePlatformHostname store.slug platformDomain := by
        intro d hd hhost
        obtain ⟨e, he, -, -, hehost, -⟩ := typed_mem typed_iff hd
        exact hfree e he (hehost.trans hhost)
      obtain ⟨d₂, hd₂, hkey, isPrimary, hshape⟩ :=
        provisions.inserted (eq_of_storeId w) hstore hrow hfree₁ hfirst
      obtain ⟨d, hd, hid, hown, hhost, htype⟩ := registers.keeps hd₂
      refine ⟨d, hd, fun e he heid => ?_, ?_, ?_, ?_⟩
      · have hlt : e.id < w.storeDomains.nextKey := Table.key_lt_nextKey he
        rw [nextKey_eq] at hkey
        omega
      · rw [hown, hshape]
        rfl
      · rw [htype, hshape]
        rfl
      · rw [hhost, hshape]
        rfl

end Backfilled

omit [LowerCasing] in
theorem derivePlatformSubdomain_custom :
    derivePlatformSubdomain "www" "printforge.world" = some tenant1CustomHostname := by
  decide +kernel

/-- The condition is enough. -/
theorem Attainable.reached (h : Attainable tenantId platformDomain w) :
    Reached tenantId platformDomain w := by
  obtain ⟨results, w', hrun, hdone⟩ := exists_runAllSteps tenantId h.free
  refine ⟨results, w', hrun, hdone.typed_all, fun store hstore => ?_, fun d hd hnew => ?_,
    hdone.again⟩
  · rw [hdone.stores_eq] at hstore
    cases hrow : present platformDomain w.storeDomains store with
    | false => exact hdone.reached_of_absent hstore hrow
    | true =>
        obtain hnamed | hprimary := hdone.reached_of_present (h.primary store hstore hrow)
        · exact .inl hnamed
        · exact .inr ⟨hdone.provisioned_of_present hrow, primaries_eq_one.mpr hprimary⟩
  · obtain ⟨hhost, htype⟩ | ⟨store, hstore, hid, hhost, hrow, hfree, hfirst⟩ :=
      hdone.inserted hd hnew
    · refine ⟨⟨"www", "printforge.world", ?_⟩, fun hplatform => ?_⟩
      · rw [hhost, derivePlatformSubdomain_custom]
      · rw [htype] at hplatform
        cases hplatform
    · have hderived := derivePlatformSubdomain_eq_iff.mpr (h.normal store hstore hrow hfree hfirst)
      rw [← hhost] at hderived
      exact ⟨⟨_, _, hderived⟩, fun _ => ⟨store, hstore, hid, hderived⟩⟩

/-- The condition is needed. -/
theorem Reached.attainable (h : Reached tenantId platformDomain w) :
    Attainable tenantId platformDomain w := by
  obtain ⟨results, w', hrun, -, hstores, hderived, -⟩ := h
  have hfree : Free platformDomain w := by
    by_contra hown
    rw [runAllSteps_own tenantId hown] at hrun
    cases hrun
  have hdone : Backfilled tenantId platformDomain w results w' := by
    obtain ⟨results', w₁, hrun', hdone⟩ := exists_runAllSteps tenantId hfree
    rw [hrun] at hrun'
    cases hrun'
    exact hdone
  refine ⟨hfree, fun store hstore hrow => ?_, fun store hstore hrow hheld hfirst => ?_⟩
  · rw [hdone.stores_eq] at hstores
    obtain hnamed | ⟨-, hone⟩ := hstores store hstore
    · exact .inr (hdone.named_of_present hstore hrow hnamed)
    · obtain hprimary | hgoal :=
        hdone.primary_of_present hstore hrow (primaries_eq_one.mp hone)
      · exact .inl hprimary
      · exact .inr (.inl ⟨store, hgoal, .inl rfl⟩)
  · obtain ⟨d, hd, hnew, hown, htype, hhost⟩ := hdone.exists_inserted hstore hrow hheld hfirst
    obtain ⟨-, hplatform⟩ := hderived d hd hnew
    obtain ⟨other, hother, hid, hsub⟩ := hplatform htype
    rw [eq_of_storeId w other hother store hstore (hid.trans hown), hhost] at hsub
    exact derivePlatformSubdomain_eq_iff.mp hsub

/-- The backfill reaches its goal or says so, where the condition is met and nowhere else. -/
theorem backfill_reaches_iff (tenantId : Nat) (platformDomain : String) (w : World) :
    Reached tenantId platformDomain w ↔ Attainable tenantId platformDomain w :=
  ⟨Reached.attainable, Attainable.reached⟩

end Run

/-! ## Two databases -/

/-- Lower case of each character. -/
@[reducible] def plainCasing : LowerCasing where
  toLowerCase text := text.map lowerCase
  toLowerCase_host _ _ := rfl

/-- One tenant, with its primary store and another one. -/
def twoStores : Table Store :=
  ⟨[⟨1, 1, "shop", true⟩, ⟨2, 1, "Outlet", false⟩], 3, by decide, by decide⟩

def domainRow (id storeId : Nat) (hostname : String) (type : Option StoreDomainType)
    (isPrimary : Bool) : StoreDomain :=
  { id, storeId, tenantId := 1, hostname, isPrimary, verificationStatus := .verified
    verificationToken := none, type, verificationMethod := none, tlsStatus := none }

/-- The one store has the custom domain already, and the other has nothing. -/
def launched : World where
  stores := twoStores
  storeDomains := ⟨[domainRow 1 1 "www.printforge.world" none true], 2, by decide, by decide⟩
  platformConfig := ⟨[], 1, by decide, List.Pairwise.nil⟩

omit [LowerCasing] in
theorem launched_reached : @Reached plainCasing 1 "stores.printforge.world" launched :=
  (@backfill_reaches_iff plainCasing 1 "stores.printforge.world" launched).mpr (by decide +kernel)

omit [LowerCasing] in
/-- A store whose row has its platform hostname and another type ends the backfill. A store that has
its platform row and no primary one is passed over without a word. A slug with a space in it makes a
hostname that nobody can look up. -/
theorem shortfalls :
    ¬ @Reached plainCasing 1 "stores.printforge.world" { launched with
      storeDomains := ⟨[domainRow 1 1 "shop.stores.printforge.world" (some .custom) true], 2,
        by decide, by decide⟩ } ∧
    ¬ @Reached plainCasing 1 "stores.printforge.world" { launched with
      storeDomains := ⟨[domainRow 1 2 "outlet.stores.printforge.world" (some .platformSubdomain)
        false], 2, by decide, by decide⟩ } ∧
    ¬ @Reached plainCasing 1 "stores.printforge.world" { launched with
      stores := ⟨[⟨1, 1, "my shop", true⟩], 2, by decide, by decide⟩ } := by
  refine ⟨fun h => absurd (@Reached.attainable plainCasing _ _ _ h) ?_,
    fun h => absurd (@Reached.attainable plainCasing _ _ _ h) ?_,
    fun h => absurd (@Reached.attainable plainCasing _ _ _ h) ?_⟩ <;> decide +kernel

end PrintForge.StoreDomains.Provisioning
