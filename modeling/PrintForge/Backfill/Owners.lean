import PrintForge.Backfill.Traces

/-!
# Whom the rows belong to

A run fills what is empty. A row that hangs on another one gets that row's tenant. But a step asks
for one column and writes two: a root without a tenant gets the operator's store, whatever store it
had, and a coupon's use gets that of its order, which may have none. And the customer of a row is
looked for in the operator's store, whatever store and tenant the row belongs to.
-/

namespace PrintForge.Backfill

/-- Where the owners of a table come from, in the order of the run. -/
def ownerSources (tenantId storeId : Nat) : TableName → List (OwnerSource × Bool)
  | .categories | .products | .coupons | .carts | .orders | .reviews =>
      [(.target tenantId storeId, true)]
  | .uploadedFiles => [(.target tenantId 0, false)]
  | .couponUsages => [(.parent .orderId .orders none, true)]
  | .idempotencyKeys => [(.parent .resultOrderId .orders none, false), (.target tenantId 0, false)]
  | .outboxEvents => [(.parent .aggregateId .orders (some "Order"), false)]
  | .productImages | .productVariants | .customizationFields =>
      [(.parent .productId .products none, false)]
  | .cartItems => [(.parent .cartId .carts none, false)]
  | .cartItemCustomizations => [(.parent .cartItemId .cartItems none, false)]
  | .orderItems | .invoices | .paymentAttempts | .orderStatusHistory =>
      [(.parent .orderId .orders none, false)]
  | .orderItemCustomizations => [(.parent .orderItemId .orderItems none, false)]
  | .refunds => [(.parent .paymentAttemptId .paymentAttempts none, false)]

/-- The tables whose rows get customers, by way of which users. -/
def joins : List (TableName × Link × CustomerColumn) :=
  [(.uploadedFiles, .uploadedByUserId, .uploadedByCustomerId),
    (.carts, .userId, .customerId),
    (.orders, .userId, .customerId),
    (.orderStatusHistory, .changedByUserId, .changedByCustomerId),
    (.couponUsages, .userId, .customerId),
    (.reviews, .userId, .customerId),
    (.idempotencyKeys, .userId, .customerId)]

section

variable {tenantId storeId : Nat} {table : TableName}

theorem owner_mem_assignments {source : OwnerSource} {withStore : Bool} :
    .owner table source withStore ∈ assignments tenantId storeId ↔
      (source, withStore) ∈ ownerSources tenantId storeId table := by
  cases table <;>
    simp [assignments, updates, ownerSources, Update.directAssign, Update.copyTenant,
      Update.copyTenantAndStore, Update.join, Update.uploadedFiles, Update.outboxEvents,
      Update.idempotencyKeys, Update.ofSingle]

theorem customer_mem_assignments {user : Link} {column : CustomerColumn} {storeId' : Nat} :
    .customer table user column storeId' ∈ assignments tenantId storeId ↔
      (table, user, column) ∈ joins ∧ storeId' = storeId := by
  cases table <;>
    simp [assignments, updates, joins, Update.directAssign, Update.copyTenant,
      Update.copyTenantAndStore, Update.join, Update.uploadedFiles, Update.outboxEvents,
      Update.idempotencyKeys, Update.ofSingle, and_assoc]

end

/-! ## A whole run -/

theorem applyAll_cons (a : Assignment) (later : List Assignment) (d : Database) :
    applyAll (a :: later) d = applyAll later (a.apply d) :=
  List.foldl_cons ..

theorem applyAll_append (first later : List Assignment) (d : Database) :
    applyAll (first ++ later) d = applyAll later (applyAll first d) :=
  List.foldl_append ..

theorem assignments_ordered (tenantId storeId : Nat) : Ordered (assignments tenantId storeId) := by
  have heq : (assignments tenantId storeId).map (·.footprint) =
      (assignments 0 0).map (·.footprint) := rfl
  have hpairs : ((assignments 0 0).map (·.footprint)).Pairwise
      fun a b => ∀ table ∈ a.1, b.2 ≠ some table := by decide
  have hself : ∀ a ∈ (assignments 0 0).map (·.footprint), ∀ table ∈ a.1, a.2 ≠ some table := by
    decide
  rw [← heq] at hpairs hself
  rw [List.pairwise_map] at hpairs
  exact ⟨hpairs.imp unaffected_of_footprint,
    fun a ha => unaffected_of_footprint (hself _ (List.mem_map_of_mem ha))⟩

theorem runCommitted_updates (us : List Update) (rest : List (Step (List StepResult)))
    (d : Database) : (Stages.runCommitted (us.map (·.stage) ++ rest) d).2 =
      (Stages.runCommitted rest (applyAll (us.flatMap (·.assignments)) d)).2 := by
  induction us generalizing d with
  | nil => rfl
  | cons u us ih =>
      rw [List.map_cons, List.cons_append, Stages.runCommitted_ok (u.runs d), List.flatMap_cons,
        applyAll_append, ← ih]

theorem runCommitted_counters (tenantId : Nat) (d : Database) : ∃ counters,
    (Stages.runCommitted [seedTenantCounters tenantId] d).2 =
      { d with tenantCounters := counters } := by
  cases hseed : seedTenantCounters tenantId d with
  | error e => exact ⟨d.tenantCounters, by rw [Stages.runCommitted_error hseed]⟩
  | ok r =>
      obtain ⟨⟨counters, hcounters⟩, -⟩ := seedTenantCounters_grows hseed
      refine ⟨counters, ?_⟩
      rw [Stages.runCommitted_ok hseed, ← hcounters]
      rfl

/-- Apart from the counters, a real run does the assignments. -/
theorem main_assignments {tenantId storeId : Nat} {d : Database}
    (h : validateTarget tenantId storeId d = .ok ()) : ∃ counters,
    (main tenantId storeId false d).2 =
      { applyAll (assignments tenantId storeId) d with tenantCounters := counters } := by
  have hrun : (main tenantId storeId false d).2 = (Stages.runCommitted
      [seedTenantCounters tenantId] (applyAll (assignments tenantId storeId) d)).2 := by
    rw [main_real_state h, ← realSteps_eq, realSteps, realUpdates_eq, runCommitted_updates,
      assignments]
  rw [hrun]
  exact runCommitted_counters ..

/-- The one assignment that gives the operator's tenant to rows that may hang on others. -/
def directKeys (tenantId : Nat) : Assignment := .owner .idempotencyKeys (.target tenantId 0) false

theorem alwaysReady_or {tenantId storeId : Nat} {a : Assignment}
    (ha : a ∈ assignments tenantId storeId) : AlwaysReady a ∨ a = directKeys tenantId := by
  cases a with
  | customer => exact .inl fun _ => trivial
  | owner table source withStore =>
      have hsource := owner_mem_assignments.mp ha
      cases table
      case idempotencyKeys =>
        simp only [ownerSources, List.mem_cons, List.not_mem_nil, or_false,
          Prod.mk.injEq] at hsource
        obtain ⟨rfl, rfl⟩ | ⟨rfl, rfl⟩ := hsource
        · exact .inl fun _ => rfl
        · exact .inr rfl
      all_goals
        obtain ⟨rfl, rfl⟩ := Prod.mk.inj (List.mem_singleton.mp hsource)
        first
          | exact .inl fun _ => rfl
          | exact .inl fun _ _ _ _ => rfl

/-- When the operator's tenant is given to keys, the orders have theirs, and keys that stand for
orders have these. -/
theorem ready_directKeys (tenantId storeId : Nat) (d : Database) :
    Ready (applyAll ((assignments tenantId storeId).take 26) d) (directKeys tenantId) := by
  obtain ⟨hpairs, hself⟩ := assignments_ordered tenantId storeId
  have hordered : Ordered ((assignments tenantId storeId).take 26) :=
    ⟨hpairs.sublist (List.take_sublist ..), fun a ha => hself a (List.mem_of_mem_take ha)⟩
  have hidle := idle_applyAll hordered d
  have horders := hidle (.owner .orders (.target tenantId storeId) true)
    (List.mem_iff_getElem?.mpr ⟨12, rfl⟩)
  have hkeys := hidle (.owner .idempotencyKeys (.parent .resultOrderId .orders none) false)
    (List.mem_iff_getElem?.mpr ⟨25, rfl⟩)
  generalize applyAll ((assignments tenantId storeId).take 26) d = d' at horders hkeys ⊢
  intro row hrow hnone
  cases hpar : d'.parentRow .idempotencyKeys row with
  | none => rfl
  | some par =>
      have hlinked : d'.linked row .resultOrderId .orders = some par := hpar
      have hkey := hkeys row hrow
      rw [Assignment.set, if_pos hnone, Option.map_eq_none_iff] at hkey
      change (d'.linked row .resultOrderId .orders).bind Row.owner = none at hkey
      rw [hlinked, Option.bind_some, Row.owner, Option.map_eq_none_iff] at hkey
      have hmem : par ∈ d'.rows .orders := by
        obtain ⟨id, -, hfind⟩ := Option.bind_eq_some_iff.mp hlinked
        exact List.mem_of_find?_eq_some hfind
      have horder := horders par hmem
      rw [Assignment.set, if_pos hkey] at horder
      cases horder

/-- A run's owners are all traced. -/
theorem traced_assignments (tenantId storeId : Nat) (d : Database) :
    Traced (assignments tenantId storeId) d (applyAll (assignments tenantId storeId) d) := by
  have hsplit : assignments tenantId storeId = (assignments tenantId storeId).take 26 ++
      directKeys tenantId :: (assignments tenantId storeId).drop 27 := rfl
  have hothers : ∀ a ∈ (assignments tenantId storeId).take 26 ++
      (assignments tenantId storeId).drop 27, a ≠ directKeys tenantId := by
    simp [assignments, updates, directKeys, Update.directAssign, Update.copyTenant,
      Update.copyTenantAndStore, Update.join, Update.uploadedFiles, Update.outboxEvents,
      Update.idempotencyKeys, Update.ofSingle]
  have hready : ∀ a ∈ (assignments tenantId storeId).take 26 ++
      (assignments tenantId storeId).drop 27,
      a ∈ assignments tenantId storeId ∧ AlwaysReady a := by
    intro a ha
    have hmem : a ∈ assignments tenantId storeId :=
      (List.mem_append.mp ha).elim List.mem_of_mem_take List.mem_of_mem_drop
    exact ⟨hmem, (alwaysReady_or hmem).resolve_right (hothers a ha)⟩
  have hdirect : directKeys tenantId ∈ assignments tenantId storeId :=
    owner_mem_assignments.mpr (List.mem_cons_of_mem _ List.mem_cons_self)
  have hfirst := (traced_refl (assignments tenantId storeId) d).applyAll
    fun a ha => hready a (List.mem_append_left _ ha)
  have hthen := hfirst.apply hdirect (ready_directKeys tenantId storeId d)
  have hall := hthen.applyAll fun a ha => hready a (List.mem_append_right _ ha)
  rw [← applyAll_cons, ← applyAll_append, ← hsplit] at hall
  exact hall

end PrintForge.Backfill
