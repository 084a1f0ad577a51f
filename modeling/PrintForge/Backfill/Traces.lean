import PrintForge.Backfill.Restart

/-!
# Where owners come from

Every owner that a run has written is traced to what it was taken from: the operator, the row that
the row hangs on, or the customer with the shopper's address. As no owner is ever replaced, the
traces stay good while the run goes on.
-/

namespace PrintForge.Backfill

/-- The link to the row whose owner a row copies, and the kind of rows that do. -/
def parentLink : TableName → Option (Link × TableName × Option String)
  | .productImages | .productVariants | .customizationFields => some (.productId, .products, none)
  | .cartItems => some (.cartId, .carts, none)
  | .cartItemCustomizations => some (.cartItemId, .cartItems, none)
  | .orderItems | .invoices | .paymentAttempts | .orderStatusHistory | .couponUsages =>
      some (.orderId, .orders, none)
  | .orderItemCustomizations => some (.orderItemId, .orderItems, none)
  | .refunds => some (.paymentAttemptId, .paymentAttempts, none)
  | .idempotencyKeys => some (.resultOrderId, .orders, none)
  | .outboxEvents => some (.aggregateId, .orders, some "Order")
  | .categories | .products | .coupons | .uploadedFiles | .carts | .orders | .reviews => none

/-- The row that a row hangs on. -/
def Database.parentRow (d : Database) (table : TableName) (row : Row) : Option Row :=
  match parentLink table with
  | none => none
  | some (link, parentTable, kind) =>
      if kind.all (row.texts .aggregateType = ·) then d.linked row link parentTable else none

/-- What has become of a row, and where that comes from. -/
structure TracedRow (assignments : List Assignment) (d : Database) (table : TableName)
    (row₀ row : Row) : Prop where
  id : row.id = row₀.id
  links : row.links = row₀.links
  texts : row.texts = row₀.texts
  owner : (row.tenantId = row₀.tenantId ∧ row.storeId = row₀.storeId) ∨
    (row₀.tenantId = none ∧ ∃ source withStore o, .owner table source withStore ∈ assignments ∧
      source.owner d row = some o ∧ row.tenantId = some o.1 ∧
      row.storeId = (if withStore then o.2 else row₀.storeId) ∧
      ∀ par, d.parentRow table row = some par → par.tenantId = some o.1)
  customer : ∀ column, row.customerIds column = row₀.customerIds column ∨
    (row₀.customerIds column = none ∧ ∃ user storeId u c,
      .customer table user column storeId ∈ assignments ∧ d.shopper row user = some u ∧
        d.customerOf storeId u = some c ∧ row.customerIds column = some c.id)

/-- What has become of a database. -/
structure Traced (assignments : List Assignment) (d₀ d : Database) : Prop where
  users : d.users = d₀.users
  customers : d.customers = d₀.customers
  rows : ∀ table, List.Forall₂ (TracedRow assignments d table) (d₀.rows table) (d.rows table)

/-- An assignment may run: it copies from the row that a row hangs on, or else there is none where
there is no tenant. -/
def Ready (d : Database) : Assignment → Prop
  | .owner table (.target _ _) _ =>
      ∀ row ∈ d.rows table, row.tenantId = none → d.parentRow table row = none
  | .owner table (.parent link parentTable kind) _ =>
      parentLink table = some (link, parentTable, kind)
  | .customer _ _ _ _ => True

section

variable {all : List Assignment} {a : Assignment} {d₀ d : Database} {table : TableName}
  {row₀ row row' : Row}

theorem traced_refl (all : List Assignment) (d : Database) : Traced all d d where
  users := rfl
  customers := rfl
  rows _ := List.forall₂_same.mpr fun _ _ => ⟨rfl, rfl, rfl, .inl ⟨rfl, rfl⟩, fun _ => .inl rfl⟩

theorem parentRow_apply (hlinks : row'.links = row.links) (htexts : row'.texts = row.texts)
    {par' : Row} (h : (a.apply d).parentRow table row' = some par') :
    ∃ par parentTable, d.parentRow table row = some par ∧ par' = a.rowAfter d parentTable par := by
  rw [Database.parentRow] at h ⊢
  cases hlink : parentLink table with
  | none =>
      rw [hlink] at h
      cases h
  | some hook =>
      obtain ⟨link, parentTable, kind⟩ := hook
      rw [hlink] at h
      dsimp only at h ⊢
      rw [htexts] at h
      split at h
      case isFalse => cases h
      case isTrue hkind =>
        rw [Assignment.linked_apply hlinks] at h
        obtain ⟨par, hpar, rfl⟩ := Option.map_eq_some_iff.mp h
        exact ⟨par, parentTable, by rw [if_pos hkind, hpar], rfl⟩

/-- The tenant of the row that a row hangs on stays. -/
theorem parent_tenant_apply (hlinks : row'.links = row.links) (htexts : row'.texts = row.texts)
    {t : Nat} (h : ∀ par, d.parentRow table row = some par → par.tenantId = some t) :
    ∀ par, (a.apply d).parentRow table row' = some par → par.tenantId = some t := by
  intro par' hpar'
  obtain ⟨par, parentTable, hpar, rfl⟩ := parentRow_apply hlinks htexts hpar'
  have htenant := h par hpar
  have hsome : par.tenantId ≠ none := by
    rw [htenant]
    exact Option.some_ne_none _
  rw [(Assignment.rowAfter_of_tenant a d parentTable hsome).1]
  exact htenant

/-- A row whose owner is written has the tenant of the row that it hangs on. -/
theorem parent_tenant_of_ready {source : OwnerSource} {withStore : Bool} {o : Nat × Option Nat}
    (hready : Ready d (.owner table source withStore)) (hrow : row ∈ d.rows table)
    (hnone : row.tenantId = none) (ho : source.owner d row = some o) :
    ∀ par, d.parentRow table row = some par → par.tenantId = some o.1 := by
  intro par hpar
  cases source with
  | target tenantId storeId =>
      rw [hready row hrow hnone] at hpar
      cases hpar
  | parent link parentTable kind =>
      rw [Database.parentRow, show parentLink table = _ from hready] at hpar
      dsimp only at hpar
      split at hpar
      case isFalse => cases hpar
      case isTrue hkind =>
        rw [OwnerSource.owner, if_pos hkind, hpar, Option.bind_some, Row.owner] at ho
        obtain ⟨t, ht, rfl⟩ := Option.map_eq_some_iff.mp ho
        exact ht

theorem TracedRow.rowAfter (h : TracedRow all d table row₀ row) (hrow : row ∈ d.rows table)
    (ha : a ∈ all) (hready : Ready d a) :
    TracedRow all (a.apply d) table row₀ (a.rowAfter d table row) where
  id := Assignment.rowAfter_id.trans h.id
  links := Assignment.rowAfter_links.trans h.links
  texts := Assignment.rowAfter_texts.trans h.texts
  owner := by
    have hlinks : (a.rowAfter d table row).links = row.links := Assignment.rowAfter_links
    have htexts : (a.rowAfter d table row).texts = row.texts := Assignment.rowAfter_texts
    obtain ⟨htenant, hstore⟩ | ⟨hnone, source, withStore, o, hmem, ho, htenant, hstore, hparent⟩ :=
      h.owner
    · obtain heq | ⟨source, withStore, o, rfl, hnone, ho, heq⟩ |
          ⟨_, _, _, _, _, _, _, _, _, heq⟩ := Assignment.rowAfter_cases a d table row
      · rw [heq]
        exact .inl ⟨htenant, hstore⟩
      · -- The owner is being written.
        refine .inr ⟨htenant.symm.trans hnone, source, withStore, o, ha,
          Assignment.owner_apply hlinks htexts ho, ?_, ?_, ?_⟩
        · rw [heq]
        · rw [heq, ← hstore]
        · exact parent_tenant_apply hlinks htexts (parent_tenant_of_ready hready hrow hnone ho)
      · rw [heq]
        exact .inl ⟨htenant, hstore⟩
    · -- The owner has been written before.
      have hkept : row.tenantId ≠ none := by
        rw [htenant]
        exact Option.some_ne_none _
      obtain ⟨hsame, hsameStore⟩ := Assignment.rowAfter_of_tenant a d table hkept
      exact .inr ⟨hnone, source, withStore, o, hmem, Assignment.owner_apply hlinks htexts ho,
        hsame.trans htenant, hsameStore.trans hstore, parent_tenant_apply hlinks htexts hparent⟩
  customer := by
    intro column
    have hshopper (user : Link) : (a.apply d).shopper (a.rowAfter d table row) user =
        d.shopper row user := Assignment.shopper_apply Assignment.rowAfter_links user
    obtain hsame | ⟨hnone, user, storeId, u, c, hmem, hu, hc, hid⟩ := h.customer column
    · obtain heq | ⟨_, _, _, _, _, _, heq⟩ |
          ⟨user, column', storeId, u, c, rfl, hnone, hu, hc, heq⟩ :=
        Assignment.rowAfter_cases a d table row
      · rw [heq]
        exact .inl hsame
      · rw [heq]
        exact .inl hsame
      · by_cases hcolumn : column = column'
        · subst hcolumn
          refine .inr ⟨hsame.symm.trans hnone, user, storeId, u, c, ha, (hshopper user).trans hu,
            hc, ?_⟩
          rw [heq, Row.setCustomer]
          exact Function.update_self ..
        · rw [heq, Row.setCustomer]
          exact .inl ((Function.update_of_ne hcolumn ..).trans hsame)
    · refine .inr ⟨hnone, user, storeId, u, c, hmem, (hshopper user).trans hu, hc, ?_⟩
      rw [Assignment.rowAfter_of_customer (by rw [hid]; exact Option.some_ne_none _), hid]

theorem Traced.apply (h : Traced all d₀ d) (ha : a ∈ all) (hready : Ready d a) :
    Traced all d₀ (a.apply d) where
  users := h.users
  customers := h.customers
  rows table := by
    rw [Assignment.rows_apply, List.forall₂_map_right_iff]
    refine List.forall₂_iff_zip.mpr ⟨(h.rows table).length_eq, fun hzip => ?_⟩
    exact (List.forall₂_zip (h.rows table) hzip).rowAfter (List.of_mem_zip hzip).2 ha hready

/-- An assignment that may run whatever there is. -/
def AlwaysReady (a : Assignment) : Prop := ∀ d, Ready d a

theorem Traced.applyAll {later : List Assignment} (h : Traced all d₀ d)
    (hlater : ∀ a ∈ later, a ∈ all ∧ AlwaysReady a) : Traced all d₀ (applyAll later d) := by
  induction later generalizing d with
  | nil => exact h
  | cons a later ih =>
      obtain ⟨⟨ha, hready⟩, hlater⟩ := List.forall_mem_cons.mp hlater
      exact ih (h.apply ha (hready d)) hlater

end

end PrintForge.Backfill
