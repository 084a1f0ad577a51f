import PrintForge.Backfill.Owners

/-!
# Rows that are well assigned

A run overwrites no owner, gives every row that hangs on another one the tenant of that one, and
names customers of the row's own store and tenant, just if every row it starts from can be assigned
so.
-/

namespace PrintForge.Backfill

def rootTables : List TableName := [.categories, .products, .coupons, .carts, .orders, .reviews]

/-- The tables with a column for a store. -/
def TableName.hasStore : TableName → Bool
  | .uploadedFiles | .orderItemCustomizations | .invoices | .paymentAttempts | .refunds
  | .orderStatusHistory | .idempotencyKeys | .outboxEvents => false
  | _ => true

/-- What a run must make of a row. -/
structure RowAssigned (d' : Database) (table : TableName) (row row' : Row) : Prop where
  tenant_kept : ∀ t, row.tenantId = some t → row'.tenantId = some t
  store_kept : ∀ s, row.storeId = some s → row'.storeId = some s
  customer_kept : ∀ column id, row.customerIds column = some id → row'.customerIds column = some id
  tenant_copied : row.tenantId = none → ∀ t, row'.tenantId = some t →
    ∀ par, d'.parentRow table row' = some par → par.tenantId = some t
  customer_owned : ∀ column id, row.customerIds column = none → row'.customerIds column = some id →
    ∃ c ∈ d'.customers, c.id = id ∧ row'.tenantId = some c.tenantId ∧
      (table.hasStore = true → row'.storeId = some c.storeId)

/-- Every row is made of the row in its place what it must be. -/
def WellAssigned (d d' : Database) : Prop :=
  ∀ table, List.Forall₂ (RowAssigned d' table) (d.rows table) (d'.rows table)

/-- The owner of a root, or else the operator's. -/
def ownerOrTarget (tenantId storeId : Nat) (row : Row) : Option Nat × Option Nat :=
  if row.tenantId = none then (some tenantId, some storeId) else (row.tenantId, row.storeId)

/-- The owner of a row with a customer: its own, or else that of the order that it hangs on, or else
the operator's. -/
def expectedOwner (tenantId storeId : Nat) (d : Database) (table : TableName) (row : Row) :
    Option Nat × Option Nat :=
  if row.tenantId = none then
    match d.parentRow table row with
    | some order =>
        ((ownerOrTarget tenantId storeId order).1,
          if table = .couponUsages then (ownerOrTarget tenantId storeId order).2 else row.storeId)
    | none =>
        if table ∈ rootTables then (some tenantId, some storeId)
        else if table = .uploadedFiles ∨ table = .idempotencyKeys then (some tenantId, row.storeId)
        else (none, row.storeId)
  else (row.tenantId, row.storeId)

/-- A root without a tenant has no store but the operator's; a coupon's use without a tenant has no
store but its order's; and a shopper's customer in the operator's store is one of the row's tenant
and store. -/
structure RowAssignable (tenantId storeId : Nat) (d : Database) (table : TableName) (row : Row) :
    Prop where
  root : table ∈ rootTables → row.tenantId = none → ∀ s, row.storeId = some s → s = storeId
  usage : table = .couponUsages → row.tenantId = none → ∀ s, row.storeId = some s →
    ∀ order, d.parentRow table row = some order →
      (ownerOrTarget tenantId storeId order).2 = some s
  customer : ∀ user column, (table, user, column) ∈ joins → row.customerIds column = none →
    ∀ u, d.shopper row user = some u → ∀ c, d.customerOf storeId u = some c →
      (expectedOwner tenantId storeId d table row).1 = some c.tenantId ∧
        (table.hasStore = true → (expectedOwner tenantId storeId d table row).2 = some storeId)

def Assignable (tenantId storeId : Nat) (d : Database) : Prop :=
  ∀ table, ∀ row ∈ d.rows table, RowAssignable tenantId storeId d table row

/-! ## What a row ends as -/

/-- A row of a database that there is nothing more to do about. -/
structure FinalRow (tenantId storeId : Nat) (e : Database) (table : TableName) (row₀ row : Row) :
    Prop where
  traced : TracedRow (assignments tenantId storeId) e table row₀ row
  idle : ∀ a ∈ assignments tenantId storeId, a.table = table → a.set e row = none

/-- A database that is the end of a run. -/
structure Final (tenantId storeId : Nat) (d e : Database) : Prop where
  users : e.users = d.users
  customers : e.customers = d.customers
  rows : ∀ table, List.Forall₂ (FinalRow tenantId storeId e table) (d.rows table) (e.rows table)

theorem final_assignments (tenantId storeId : Nat) (d : Database) :
    Final tenantId storeId d (applyAll (assignments tenantId storeId) d) where
  users := (traced_assignments tenantId storeId d).users
  customers := (traced_assignments tenantId storeId d).customers
  rows table := by
    have htraced := (traced_assignments tenantId storeId d).rows table
    refine List.forall₂_iff_zip.mpr ⟨htraced.length_eq, fun hzip => ?_⟩
    refine ⟨List.forall₂_zip htraced hzip, fun a ha htable => ?_⟩
    subst htable
    exact idle_applyAll (assignments_ordered tenantId storeId) d a ha _ (List.of_mem_zip hzip).2

section

variable {tenantId storeId : Nat} {d e : Database} {table : TableName} {row₀ row : Row}

/-- A row without a tenant has got one from a source of its table, or none of them gives one. -/
theorem FinalRow.owner_cases (h : FinalRow tenantId storeId e table row₀ row)
    (hnone : row₀.tenantId = none) :
    ((∀ source ∈ ownerSources tenantId storeId table, source.1.owner e row = none) ∧
        row.tenantId = none ∧ row.storeId = row₀.storeId) ∨
      ∃ source ∈ ownerSources tenantId storeId table, ∃ o, source.1.owner e row = some o ∧
        row.tenantId = some o.1 ∧ row.storeId = (if source.2 then o.2 else row₀.storeId) ∧
        ∀ par, e.parentRow table row = some par → par.tenantId = some o.1 := by
  obtain ⟨htenant, hstore⟩ | ⟨-, source, withStore, o, hmem, ho, htenant, hstore, hparent⟩ :=
    h.traced.owner
  · have hrow := htenant.trans hnone
    refine .inl ⟨fun source hsource => ?_, hrow, hstore⟩
    have hidle := h.idle _ (owner_mem_assignments.mpr hsource) rfl
    rw [Assignment.set, if_pos hrow] at hidle
    exact Option.map_eq_none_iff.mp hidle
  · exact .inr ⟨_, owner_mem_assignments.mp hmem, o, ho, htenant, hstore, hparent⟩

/-- A row with a tenant is left alone. -/
theorem FinalRow.owner_of_tenant (h : FinalRow tenantId storeId e table row₀ row)
    (hsome : row₀.tenantId ≠ none) : row.tenantId = row₀.tenantId ∧ row.storeId = row₀.storeId := by
  obtain hsame | ⟨hnone, -⟩ := h.traced.owner
  · exact hsame
  · exact absurd hnone hsome

theorem FinalRow.owner_root (h : FinalRow tenantId storeId e table row₀ row)
    (htable : table ∈ rootTables) :
    (row.tenantId, row.storeId) = ownerOrTarget tenantId storeId row₀ := by
  rw [ownerOrTarget]
  split
  case isFalse hsome =>
    obtain ⟨htenant, hstore⟩ := h.owner_of_tenant hsome
    rw [htenant, hstore]
  case isTrue hnone =>
    have hsources : ownerSources tenantId storeId table = [(.target tenantId storeId, true)] := by
      simp only [rootTables, List.mem_cons, List.not_mem_nil, or_false] at htable
      obtain rfl | rfl | rfl | rfl | rfl | rfl := htable <;> rfl
    obtain ⟨hnothing, -⟩ | ⟨source, hmem, o, ho, htenant, hstore, -⟩ := h.owner_cases hnone
    · rw [hsources] at hnothing
      cases hnothing _ List.mem_cons_self
    · rw [hsources, List.mem_singleton] at hmem
      subst hmem
      cases ho
      rw [htenant, hstore]
      rfl

theorem ownerOrTarget_tenant (tenantId storeId : Nat) (row : Row) :
    (ownerOrTarget tenantId storeId row).1 ≠ none := by
  rw [ownerOrTarget]
  split
  · exact Option.some_ne_none _
  · assumption

/-- A link leads to what has become of the row that it led to. -/
theorem Final.parentRow (h : Final tenantId storeId d e)
    (hrow : FinalRow tenantId storeId e table row₀ row) {link : Link} {parentTable : TableName}
    {kind : Option String} (hlink : parentLink table = some (link, parentTable, kind)) :
    Option.Rel (FinalRow tenantId storeId e parentTable) (d.parentRow table row₀)
      (e.parentRow table row) := by
  rw [Database.parentRow, Database.parentRow, hlink, hrow.traced.texts]
  dsimp only
  split
  case isFalse => exact .none
  case isTrue =>
    rw [Database.linked, Database.linked, hrow.traced.links]
    cases row₀.links link with
    | none => exact .none
    | some id =>
        change Option.Rel _ ((d.rows parentTable).find? _) ((e.rows parentTable).find? _)
        have hrows := h.rows parentTable
        generalize d.rows parentTable = pars₀ at hrows ⊢
        generalize e.rows parentTable = pars at hrows ⊢
        induction hrows with
        | nil => exact .none
        | @cons par₀ par pars₀ pars hpar _ ih =>
            rw [List.find?_cons, List.find?_cons, hpar.traced.id]
            split
            · exact .some hpar
            · exact ih

theorem owner_parent {link : Link} {parentTable : TableName} {kind : Option String}
    (hlink : parentLink table = some (link, parentTable, kind)) :
    (OwnerSource.parent link parentTable kind).owner d row =
      (d.parentRow table row).bind Row.owner := by
  rw [Database.parentRow, hlink, OwnerSource.owner]
  dsimp only
  split <;> rfl

/-- What a row without a tenant gets where no row that it hangs on gives one. -/
theorem FinalRow.owner_of_target (hrow : FinalRow tenantId storeId e table row₀ row)
    (storeId' : Nat) (hnone : row₀.tenantId = none)
    (htarget : (.target tenantId storeId', false) ∈ ownerSources tenantId storeId table)
    (hothers : ∀ source ∈ ownerSources tenantId storeId table,
      source ≠ (.target tenantId storeId', false) → source.1.owner e row = none) :
    row.tenantId = some tenantId ∧ row.storeId = row₀.storeId := by
  obtain ⟨hnothing, -⟩ | ⟨source, hmem, o, ho, htenant, hstore, -⟩ := hrow.owner_cases hnone
  · cases hnothing _ htarget
  · by_cases hsource : source = (.target tenantId storeId', false)
    · subst hsource
      cases ho
      exact ⟨htenant, hstore⟩
    · rw [hothers source hmem hsource] at ho
      cases ho

/-- What a row without a tenant gets from the order that it hangs on. -/
theorem Final.owner_of_order (h : Final tenantId storeId d e)
    (hrow : FinalRow tenantId storeId e table row₀ row) (hnone : row₀.tenantId = none)
    {link : Link} {withStore : Bool} (hlink : parentLink table = some (link, .orders, none))
    (hsource : (.parent link .orders none, withStore) ∈ ownerSources tenantId storeId table)
    {order₀ : Row} (horder₀ : d.parentRow table row₀ = some order₀) :
    ∃ source ∈ ownerSources tenantId storeId table, ∃ o, source.1.owner e row = some o ∧
      row.tenantId = (ownerOrTarget tenantId storeId order₀).1 ∧
      row.storeId = (if source.2 then o.2 else row₀.storeId) ∧
      (source.1 = .parent link .orders none →
        o.2 = (ownerOrTarget tenantId storeId order₀).2) := by
  have hparent := h.parentRow hrow hlink
  rw [horder₀] at hparent
  generalize hpar : e.parentRow table row = parent at hparent
  cases hparent with
  | some horder =>
      have howner := horder.owner_root (by decide)
      have htenant := congrArg Prod.fst howner
      dsimp only at htenant
      obtain ⟨hnothing, -⟩ | ⟨source, hmem, o, ho, hrowTenant, hstore, hfollows⟩ :=
        hrow.owner_cases hnone
      · have hgives := hnothing _ hsource
        rw [owner_parent hlink, hpar, Option.bind_some, Row.owner, Option.map_eq_none_iff,
          htenant] at hgives
        exact absurd hgives (ownerOrTarget_tenant _ _ _)
      · refine ⟨source, hmem, o, ho, ?_, hstore, fun hsame => ?_⟩
        · rw [hrowTenant, ← htenant, hfollows _ hpar]
        · rw [hsame, owner_parent hlink, hpar, Option.bind_some, Row.owner] at ho
          obtain ⟨t, -, rfl⟩ := Option.map_eq_some_iff.mp ho
          exact congrArg Prod.snd howner

/-- What a row without a tenant is left with where it hangs on nothing. -/
theorem Final.owner_of_none (h : Final tenantId storeId d e)
    (hrow : FinalRow tenantId storeId e table row₀ row) {link : Link}
    (hlink : parentLink table = some (link, .orders, none))
    (hnothing : d.parentRow table row₀ = none) :
    (OwnerSource.parent link .orders none).owner e row = none := by
  have hparent := h.parentRow hrow hlink
  rw [hnothing] at hparent
  generalize hpar : e.parentRow table row = parent at hparent
  cases hparent with
  | none => rw [owner_parent hlink, hpar, Option.bind_none]

theorem Final.owner_history (h : Final tenantId storeId d e)
    (hrow : FinalRow tenantId storeId e .orderStatusHistory row₀ row)
    (hnone : row₀.tenantId = none) : (row.tenantId, row.storeId) =
      match d.parentRow .orderStatusHistory row₀ with
      | some order => ((ownerOrTarget tenantId storeId order).1, row₀.storeId)
      | none => (none, row₀.storeId) := by
  cases horder : d.parentRow .orderStatusHistory row₀ with
  | none =>
      have hsource := h.owner_of_none hrow rfl horder
      obtain ⟨-, htenant, hstore⟩ | ⟨source, hmem, o, ho, -⟩ := hrow.owner_cases hnone
      · rw [htenant, hstore]
      · rw [List.mem_singleton.mp hmem, hsource] at ho
        cases ho
  | some order =>
      obtain ⟨source, hmem, o, -, htenant, hstore, -⟩ :=
        h.owner_of_order hrow hnone rfl List.mem_cons_self horder
      rw [htenant, hstore, List.mem_singleton.mp hmem]
      rfl

theorem Final.owner_usage (h : Final tenantId storeId d e)
    (hrow : FinalRow tenantId storeId e .couponUsages row₀ row)
    (hnone : row₀.tenantId = none) : (row.tenantId, row.storeId) =
      match d.parentRow .couponUsages row₀ with
      | some order => ownerOrTarget tenantId storeId order
      | none => (none, row₀.storeId) := by
  cases horder : d.parentRow .couponUsages row₀ with
  | none =>
      have hsource := h.owner_of_none hrow rfl horder
      obtain ⟨-, htenant, hstore⟩ | ⟨source, hmem, o, ho, -⟩ := hrow.owner_cases hnone
      · rw [htenant, hstore]
      · rw [List.mem_singleton.mp hmem, hsource] at ho
        cases ho
  | some order =>
      obtain ⟨source, hmem, o, -, htenant, hstore, hcopied⟩ :=
        h.owner_of_order hrow hnone rfl List.mem_cons_self horder
      have hsource := List.mem_singleton.mp hmem
      subst hsource
      rw [htenant, hstore, if_pos rfl, hcopied rfl]

theorem Final.owner_key (h : Final tenantId storeId d e)
    (hrow : FinalRow tenantId storeId e .idempotencyKeys row₀ row)
    (hnone : row₀.tenantId = none) : (row.tenantId, row.storeId) =
      match d.parentRow .idempotencyKeys row₀ with
      | some order => ((ownerOrTarget tenantId storeId order).1, row₀.storeId)
      | none => (some tenantId, row₀.storeId) := by
  cases horder : d.parentRow .idempotencyKeys row₀ with
  | none =>
      have hsource := h.owner_of_none hrow rfl horder
      obtain ⟨htenant, hstore⟩ := hrow.owner_of_target 0 hnone
        (List.mem_cons_of_mem _ List.mem_cons_self) fun source hmem hne => by
          obtain rfl | hmem := List.mem_cons.mp hmem
          · exact hsource
          · exact absurd (List.mem_singleton.mp hmem) hne
      rw [htenant, hstore]
  | some order =>
      obtain ⟨source, hmem, o, -, htenant, hstore, -⟩ :=
        h.owner_of_order hrow hnone rfl List.mem_cons_self horder
      have hwithStore : source.2 = false := by
        simp only [ownerSources, List.mem_cons, List.not_mem_nil, or_false] at hmem
        obtain rfl | rfl := hmem <;> rfl
      rw [htenant, hstore, hwithStore]
      rfl

/-- Rows of the shoppers end up with the owners that are expected. -/
theorem Final.owner (h : Final tenantId storeId d e)
    (hrow : FinalRow tenantId storeId e table row₀ row) {user : Link} {column : CustomerColumn}
    (hjoin : (table, user, column) ∈ joins) :
    (row.tenantId, row.storeId) = expectedOwner tenantId storeId d table row₀ := by
  rw [expectedOwner]
  split
  case isFalse hsome =>
    obtain ⟨htenant, hstore⟩ := hrow.owner_of_tenant hsome
    rw [htenant, hstore]
  case isTrue hnone =>
    by_cases hroot : table ∈ rootTables
    · have hlink : parentLink table = none := by
        simp only [rootTables, List.mem_cons, List.not_mem_nil, or_false] at hroot
        obtain rfl | rfl | rfl | rfl | rfl | rfl := hroot <;> rfl
      have hparent : d.parentRow table row₀ = none := by
        rw [Database.parentRow, hlink]
      rw [hparent, hrow.owner_root hroot, ownerOrTarget, if_pos hnone]
      dsimp only
      rw [if_pos hroot]
    · simp only [joins, List.mem_cons, List.not_mem_nil, or_false, Prod.mk.injEq] at hjoin
      obtain ⟨rfl, -⟩ | ⟨rfl, -⟩ | ⟨rfl, -⟩ | ⟨rfl, -⟩ | ⟨rfl, -⟩ | ⟨rfl, -⟩ | ⟨rfl, -⟩ := hjoin
      case inl =>
        obtain ⟨htenant, hstore⟩ := hrow.owner_of_target 0 hnone List.mem_cons_self
          fun source hsource hne => absurd (List.mem_singleton.mp hsource) hne
        rw [htenant, hstore]
        rfl
      case inr.inl => exact absurd (by decide) hroot
      case inr.inr.inl => exact absurd (by decide) hroot
      case inr.inr.inr.inl => exact h.owner_history hrow hnone
      case inr.inr.inr.inr.inl => exact h.owner_usage hrow hnone
      case inr.inr.inr.inr.inr.inl => exact absurd (by decide) hroot
      case inr.inr.inr.inr.inr.inr => exact h.owner_key hrow hnone

/-- A table names its customers by one column, and by way of one user. -/
theorem joins_functional : ∀ join ∈ joins, ∀ join' ∈ joins, join.1 = join'.1 → join = join' := by
  decide

theorem Final.shopper (h : Final tenantId storeId d e)
    (hrow : FinalRow tenantId storeId e table row₀ row) (user : Link) :
    e.shopper row user = d.shopper row₀ user := by
  rw [Database.shopper, Database.shopper, h.users, hrow.traced.links]

theorem Final.customerOf (h : Final tenantId storeId d e) (u : User) :
    e.customerOf storeId u = d.customerOf storeId u := by
  rw [Database.customerOf, Database.customerOf, h.customers]

/-- A row gets the customer of its shopper. -/
theorem Final.customer_of_shopper (h : Final tenantId storeId d e)
    (hrow : FinalRow tenantId storeId e table row₀ row) {user : Link} {column : CustomerColumn}
    (hjoin : (table, user, column) ∈ joins) (hnone : row₀.customerIds column = none) {u : User}
    (hu : d.shopper row₀ user = some u) {c : Customer} (hc : d.customerOf storeId u = some c) :
    row.customerIds column = some c.id := by
  obtain hsame | ⟨-, user', storeId', u', c', hmem, hu', hc', hid⟩ := hrow.traced.customer column
  · have hidle := hrow.idle _ (customer_mem_assignments.mpr ⟨hjoin, rfl⟩) rfl
    rw [Assignment.set, if_pos (hsame.trans hnone), h.shopper hrow, hu, Option.bind_some,
      h.customerOf, hc] at hidle
    cases hidle
  · obtain ⟨hjoin', rfl⟩ := customer_mem_assignments.mp hmem
    cases joins_functional _ hjoin _ hjoin' rfl
    rw [h.shopper hrow, hu] at hu'
    cases hu'
    rw [h.customerOf, hc] at hc'
    cases hc'
    exact hid

/-- And no other. -/
theorem Final.shopper_of_customer (h : Final tenantId storeId d e)
    (hrow : FinalRow tenantId storeId e table row₀ row) {column : CustomerColumn} {id : Nat}
    (hnone : row₀.customerIds column = none) (hid : row.customerIds column = some id) :
    ∃ user u c, (table, user, column) ∈ joins ∧ d.shopper row₀ user = some u ∧
      d.customerOf storeId u = some c ∧ c.id = id := by
  obtain hsame | ⟨-, user, storeId', u, c, hmem, hu, hc, hc'⟩ := hrow.traced.customer column
  · rw [hsame, hnone] at hid
    cases hid
  · obtain ⟨hjoin, rfl⟩ := customer_mem_assignments.mp hmem
    rw [h.shopper hrow] at hu
    rw [h.customerOf] at hc
    exact ⟨user, u, c, hjoin, hu, hc, Option.some.inj (hc'.symm.trans hid)⟩

/-- The two tables that get stores along with their tenants. -/
theorem withStore_cases {source : OwnerSource}
    (h : (source, true) ∈ ownerSources tenantId storeId table) :
    (table ∈ rootTables ∧ source = .target tenantId storeId) ∨
      (table = .couponUsages ∧ source = .parent .orderId .orders none) := by
  cases table <;> simp_all [ownerSources, rootTables]

theorem storeId_of_customerOf {u : User} {c : Customer} (h : d.customerOf storeId u = some c) :
    c ∈ d.customers ∧ c.storeId = storeId := by
  have hfound := List.find?_some h
  rw [Bool.and_eq_true, decide_eq_true_eq] at hfound
  exact ⟨List.mem_of_find?_eq_some h, hfound.1⟩

/-- A customer is known by its id. -/
theorem customer_eq {c c' : Customer} (hc : c ∈ d.customers) (hc' : c' ∈ d.customers)
    (h : c.id = c'.id) : c = c' :=
  List.inj_on_of_nodup_map d.customers_distinct hc hc' h

/-- A row ends up well assigned just if it can be. -/
theorem Final.rowAssigned_iff (h : Final tenantId storeId d e)
    (hrow : FinalRow tenantId storeId e table row₀ row) :
    RowAssigned e table row₀ row ↔ RowAssignable tenantId storeId d table row₀ := by
  constructor
  · intro hassigned
    refine ⟨fun hroot hnone s hs => ?_, fun htable hnone s hs order horder => ?_,
      fun user column hjoin hnone u hu c hc => ?_⟩
    · have howner := hrow.owner_root hroot
      rw [ownerOrTarget, if_pos hnone, hassigned.store_kept s hs] at howner
      exact Option.some.inj (congrArg Prod.snd howner)
    · subst htable
      have howner := h.owner_usage hrow hnone
      rw [horder, hassigned.store_kept s hs] at howner
      exact (congrArg Prod.snd howner).symm
    · have hid := h.customer_of_shopper hrow hjoin hnone hu hc
      obtain ⟨c', hc', hsame, htenant, hstore⟩ := hassigned.customer_owned column c.id hnone hid
      obtain ⟨hmem, hcstore⟩ := storeId_of_customerOf hc
      rw [h.customers] at hc'
      cases customer_eq hc' hmem hsame
      rw [← h.owner hrow hjoin, ← hcstore]
      exact ⟨htenant, hstore⟩
  · intro hassignable
    refine ⟨fun t ht => ?_, fun s hs => ?_, fun column id hid => ?_,
      fun hnone t ht par hpar => ?_, fun column id hnone hid => ?_⟩
    · rw [(hrow.owner_of_tenant (by rw [ht]; exact nofun)).1, ht]
    · by_cases hnone : row₀.tenantId = none
      · obtain ⟨-, -, hstore⟩ | ⟨⟨source, withStore⟩, hmem, o, ho, -, hstore, -⟩ :=
          hrow.owner_cases hnone
        · rw [hstore, hs]
        · cases withStore with
          | false => exact hstore.trans hs
          | true =>
              obtain ⟨hroot, rfl⟩ | ⟨rfl, rfl⟩ := withStore_cases hmem
              · cases ho
                rw [hassignable.root hroot hnone s hs]
                exact hstore
              · have howner := h.owner_usage hrow hnone
                cases horder : d.parentRow .couponUsages row₀ with
                | none =>
                    rw [horder] at howner
                    exact (congrArg Prod.snd howner).trans hs
                | some order =>
                    rw [horder] at howner
                    exact (congrArg Prod.snd howner).trans
                      (hassignable.usage rfl hnone s hs order horder)
      · rw [(hrow.owner_of_tenant hnone).2, hs]
    · obtain hsame | ⟨hnone, -⟩ := hrow.traced.customer column
      · rw [hsame, hid]
      · rw [hnone] at hid
        cases hid
    · obtain ⟨-, hrowNone, -⟩ | ⟨_, _, o, -, htenant, -, hparent⟩ := hrow.owner_cases hnone
      · rw [hrowNone] at ht
        cases ht
      · rw [hparent par hpar, ← htenant, ht]
    · obtain ⟨user, u, c, hjoin, hu, hc, rfl⟩ := h.shopper_of_customer hrow hnone hid
      obtain ⟨htenant, hstore⟩ := hassignable.customer user column hjoin hnone u hu c hc
      obtain ⟨hmem, hcstore⟩ := storeId_of_customerOf hc
      rw [← h.owner hrow hjoin] at htenant hstore
      refine ⟨c, by rw [h.customers]; exact hmem, rfl, htenant, fun hhas => ?_⟩
      rw [hcstore]
      exact hstore hhas

theorem rowAssigned_counters (e : Database) (counters : List TenantCounter) (table : TableName)
    (row row' : Row) : RowAssigned { e with tenantCounters := counters } table row row' ↔
      RowAssigned e table row row' :=
  ⟨fun ⟨tenant, store, customer, copied, owned⟩ => ⟨tenant, store, customer, copied, owned⟩,
    fun ⟨tenant, store, customer, copied, owned⟩ => ⟨tenant, store, customer, copied, owned⟩⟩

/-- **A run assigns well just if every row can be assigned well.** -/
theorem well_assigned_iff (htarget : validateTarget tenantId storeId d = .ok ()) :
    WellAssigned d (main tenantId storeId false d).2 ↔ Assignable tenantId storeId d := by
  obtain ⟨counters, hrun⟩ := main_assignments htarget
  rw [hrun]
  have hfinal := final_assignments tenantId storeId d
  generalize applyAll (assignments tenantId storeId) d = e at hfinal ⊢
  refine forall_congr' fun table => ?_
  rw [show RowAssigned { e with tenantCounters := counters } table = RowAssigned e table from
    funext fun row => funext fun row' => propext (rowAssigned_counters ..)]
  have hrows := hfinal.rows table
  generalize d.rows table = rows₀ at hrows ⊢
  generalize e.rows table = rows at hrows ⊢
  induction hrows with
  | nil => simp
  | cons hrow _ ih =>
      rw [List.forall₂_cons, List.forall_mem_cons]
      exact and_congr (hfinal.rowAssigned_iff hrow) ih

theorem unowned_well_assigned : WellAssigned unowned (main 1 1 false unowned).2 :=
  (well_assigned_iff (by decide)).mpr fun table row hrow => by
    cases table
    case orders =>
      obtain rfl := List.mem_singleton.mp hrow
      refine ⟨fun _ _ _ hs => (nomatch hs), fun htable => absurd htable (by decide),
        fun user column hjoin _ u hu c hc => ?_⟩
      obtain ⟨rfl, rfl⟩ : user = .userId ∧ column = .customerId := by simpa [joins] using hjoin
      obtain rfl : ⟨1, "shopper@example.com", .customer⟩ = u := Option.some.inj hu
      have hfound : unowned.customerOf 1 ⟨1, "shopper@example.com", .customer⟩ =
          some ⟨5, 1, 1, "shopper@example.com"⟩ := by decide
      cases hfound.symm.trans hc
      exact ⟨rfl, fun _ => rfl⟩
    case invoices =>
      obtain rfl := List.mem_singleton.mp hrow
      exact ⟨fun hroot => absurd hroot (by decide), fun htable => absurd htable (by decide),
        fun user column hjoin => absurd hjoin (by simp [joins])⟩
    all_goals cases hrow

end

/-- A category of another store, without a tenant. -/
def misplaced : Database where
  tenants := [1]
  stores := [⟨1, 1, true⟩, ⟨2, 1, false⟩]
  users := []
  customers := []
  appSettings := []
  tenantCounters := []
  rows table :=
    match table with
    | .categories => [⟨1, none, some 2, fun _ => none, fun _ => none, fun _ => ""⟩]
    | _ => []
  customers_distinct := List.nodup_nil

/-- The category is moved to the operator's store. -/
theorem store_overwritten : validateTarget 1 1 misplaced = .ok () ∧
    (misplaced.rows .categories).map (·.storeId) = [some 2] ∧
    ((main 1 1 false misplaced).2.rows .categories).map (·.storeId) = [some 1] ∧
    ¬ WellAssigned misplaced (main 1 1 false misplaced).2 := by
  have hstores : ((main 1 1 false misplaced).2.rows .categories).map (·.storeId) = [some 1] := by
    decide +kernel
  refine ⟨by decide, rfl, hstores, fun h => ?_⟩
  have hrows := h .categories
  generalize (main 1 1 false misplaced).2 = d' at hstores hrows
  generalize d'.rows .categories = rows at hstores hrows
  cases hrows with
  | cons hrow hrest =>
      have hkept := hrow.store_kept 2 rfl
      rw [List.map_cons, hkept] at hstores
      exact absurd hstores (by simp)

end PrintForge.Backfill
