import PrintForge.Backfill.Assignments

/-!
# The backfill can be stopped and run again

Every step but the last is a list of assignments, in an order in which none writes owners that an
earlier one has read. So a step settles what it does and no later one unsettles it, and the last
one settles the counters that it inserts.
-/

namespace PrintForge.Backfill

open Stages

/-- No row has been affected. -/
def Unchanged (results : List StepResult) : Prop := ∀ r ∈ results, r.affected = 0

/-- None of the assignments writes owners that it or an earlier one has read. -/
def Ordered (assignments : List Assignment) : Prop :=
  assignments.Pairwise Assignment.Unaffected ∧ ∀ a ∈ assignments, a.Unaffected a

theorem Assignment.Idle.applyAll {a : Assignment} {later : List Assignment} {d : Database}
    (h : a.Idle d) (hlater : ∀ b ∈ later, a.Unaffected b) :
    a.Idle (applyAll later d) := by
  induction later generalizing d with
  | nil => exact h
  | cons b later ih =>
      exact ih (h.apply (hlater b List.mem_cons_self))
        fun c hc => hlater c (List.mem_cons_of_mem b hc)

theorem idle_applyAll {assignments : List Assignment} (hordered : Ordered assignments)
    (d : Database) : ∀ a ∈ assignments, a.Idle (applyAll assignments d) := by
  obtain ⟨hpairs, hself⟩ := hordered
  induction assignments generalizing d with
  | nil => exact fun a ha => absurd ha List.not_mem_nil
  | cons a assignments ih =>
      obtain ⟨hlater, hpairs⟩ := List.pairwise_cons.mp hpairs
      refine List.forall_mem_cons.mpr ⟨?_, ?_⟩
      · exact (Assignment.idle_apply (hself a List.mem_cons_self)).applyAll hlater
      · exact ih _ hpairs (fun b hb => hself b (List.mem_cons_of_mem a hb))

theorem applyAll_of_idle {assignments : List Assignment} {d : Database}
    (h : ∀ a ∈ assignments, a.Idle d) : applyAll assignments d = d := by
  induction assignments with
  | nil => rfl
  | cons a assignments ih =>
      obtain ⟨ha, h⟩ := List.forall_mem_cons.mp h
      exact (congrArg (applyAll assignments) (Assignment.apply_of_idle ha)).trans (ih h)

/-- A step that does nothing but assignments, what it reports, and their order. -/
structure Update where
  stage : Step (List StepResult)
  assignments : List Assignment
  report : Database → List StepResult
  runs : ∀ d, stage d = .ok (report d, applyAll assignments d)
  reports : ∀ d, (∀ a ∈ assignments, a.Idle d) → Unchanged (report d)
  ordered : Ordered assignments

namespace Update

/-- A step with one assignment. -/
def ofSingle (step : Step StepResult) (a : Assignment) (result : Database → StepResult)
    (hruns : ∀ d, step d = .ok (result d, a.apply d))
    (hresult : ∀ d, (result d).affected = a.affected d) (hself : a.Unaffected a) : Update where
  stage := single step
  assignments := [a]
  report d := [result d]
  runs d := by
    rw [single]
    simp only [bind, StateT.bind, Except.bind, hruns]
    rfl
  reports d h := by
    intro r hr
    rw [List.mem_singleton.mp hr, hresult, Assignment.affected_of_idle (h a List.mem_cons_self)]
  ordered := ⟨List.pairwise_singleton .., fun b hb => by rwa [List.mem_singleton.mp hb]⟩

end Update

/-- A step that is one statement. -/
theorem runs_update {step : Step StepResult} {set : Database → Row → Option Row} (a : Assignment)
    (result : Nat → StepResult)
    (hstep : step = do return result (← executeUpdate a.table set))
    (hset : ∀ d row, set d row = a.set d row) (d : Database) :
    step d = .ok (result (a.affected d), a.apply d) := by
  rw [hstep]
  simp only [bind, StateT.bind, Except.bind, Assignment.executeUpdate_eq a hset]
  rfl

theorem unaffected_target (table : TableName) (tenantId storeId : Nat) (withStore : Bool)
    (b : Assignment) : (Assignment.owner table (.target tenantId storeId) withStore).Unaffected b :=
  fun _ h => nomatch h

theorem unaffected_customer (table : TableName) (user : Link) (column : CustomerColumn)
    (storeId : Nat) (b : Assignment) :
    (Assignment.customer table user column storeId).Unaffected b :=
  fun _ h => nomatch h

theorem unaffected_parent {table parentTable : TableName} (h : table ≠ parentTable) (link : Link)
    (kind : Option String) (withStore : Bool) (source : OwnerSource) (withStore' : Bool) :
    (Assignment.owner table (.parent link parentTable kind) withStore).Unaffected
      (.owner table source withStore') := by
  rintro read hread howns
  cases hread
  exact h (Option.some.inj howns)

theorem set_congr {condition : Prop} [Decidable condition] {row row' : Option Row}
    (h : row = row') :
    (if condition then row else none) = if condition then row' else none := by
  rw [h]

/-- What is copied from the row that a link leads to. -/
theorem map_linked_owner (d : Database) (row : Row) (link : Link) (table : TableName)
    (write : Nat × Option Nat → Row) :
    ((d.linked row link table).bind Row.owner).map write = (do
      let par ← d.linked row link table
      let tenantId ← par.tenantId
      return write (tenantId, par.storeId)) := by
  cases d.linked row link table with
  | none => rfl
  | some par =>
      simp only [Option.bind_some, Option.bind_eq_bind]
      rw [Row.owner]
      cases par.tenantId <;> rfl

namespace Update

def directAssign (table : TableName) (tenantId storeId : Nat) : Update :=
  let a := Assignment.owner table (.target tenantId storeId) true
  let result n := ⟨table.name, table.name, "tenantId,storeId", n, [], none⟩
  ofSingle (directAssignTenantStore table tenantId storeId) a (fun d => result (a.affected d))
    (runs_update a result rfl fun _ _ => rfl) (fun _ => rfl) (unaffected_target _ _ _ _ a)

def copyTenant (table : TableName) (fkColumn : Link) (parentTable : TableName)
    (h : table ≠ parentTable) : Update :=
  let a := Assignment.owner table (.parent fkColumn parentTable none) false
  let result n := ⟨table.name, table.name, "tenantId", n, [], none⟩
  ofSingle (copyTenantFromParent table fkColumn parentTable) a (fun d => result (a.affected d))
    (runs_update a result rfl fun _ _ => set_congr (map_linked_owner ..).symm)
    (fun _ => rfl) (unaffected_parent h _ _ _ _ _)

def copyTenantAndStore (table : TableName) (fkColumn : Link) (parentTable : TableName)
    (h : table ≠ parentTable) : Update :=
  let a := Assignment.owner table (.parent fkColumn parentTable none) true
  let result n := ⟨table.name, table.name, "tenantId,storeId", n, [], none⟩
  ofSingle (copyTenantAndStoreFromParent table fkColumn parentTable) a
    (fun d => result (a.affected d))
    (runs_update a result rfl fun _ _ => set_congr (map_linked_owner ..).symm)
    (fun _ => rfl) (unaffected_parent h _ _ _ _ _)

/-- What a join with the customers reports. -/
def joinResult (table : TableName) (userIdColumn : Link) (customerIdColumn : CustomerColumn)
    (storeId affected : Nat) (d : Database) : StepResult :=
  let unresolved := (d.rows table).countP fun x =>
    x.customerIds customerIdColumn = none &&
      (d.shopper x userIdColumn).any fun u => (d.customerOf storeId u).isNone
  ⟨table.name ++ "." ++ customerIdColumn.name, table.name, customerIdColumn.name, affected,
    if 0 < unresolved then [("customer_role_user_with_no_matching_customer_row", unresolved)]
    else [], none⟩

def join (table : TableName) (userIdColumn : Link) (customerIdColumn : CustomerColumn)
    (storeId : Nat) : Update :=
  let a := Assignment.customer table userIdColumn customerIdColumn storeId
  ofSingle (customerIdFromUserJoin table userIdColumn customerIdColumn storeId) a
    (fun d => joinResult table userIdColumn customerIdColumn storeId (a.affected d) d)
    (fun d => by
      have hset (d : Database) (x : Row) : (if x.customerIds customerIdColumn = none then do
            let u ← d.shopper x userIdColumn
            let c ← d.customerOf storeId u
            return x.setCustomer customerIdColumn c.id
          else none) = a.set d x := by
        refine set_congr ?_
        cases d.shopper x userIdColumn with
        | none => rfl
        | some u =>
            simp only [Option.bind_some, Option.bind_eq_bind]
            cases d.customerOf storeId u <;> rfl
      have hupdate := Assignment.executeUpdate_eq a hset d
      change executeUpdate table _ d = _ at hupdate
      rw [customerIdFromUserJoin]
      simp only [bind, StateT.bind, Except.bind, get, getThe, MonadStateOf.get, StateT.get, pure,
        Except.pure] at hupdate ⊢
      rw [hupdate]
      rfl)
    (fun _ => rfl) (unaffected_customer _ _ _ _ a)

def uploadedFiles (tenantId : Nat) : Update :=
  let a := Assignment.owner .uploadedFiles (.target tenantId 0) false
  let result n := ⟨"uploaded_files.tenantId", "uploaded_files", "tenantId", n, [], none⟩
  ofSingle (uploadedFileTenantId tenantId) a (fun d => result (a.affected d))
    (runs_update a result rfl fun _ _ => rfl) (fun _ => rfl) (unaffected_target _ _ _ _ a)

def outboxEvents : Update :=
  let a := Assignment.owner .outboxEvents (.parent .aggregateId .orders (some "Order")) false
  let result n := ⟨"outbox_events.tenantId", "outbox_events", "tenantId", n, [], none⟩
  ofSingle outboxEventTenantId a (fun d => result (a.affected d))
    (runs_update a result rfl fun d row => by
      refine set_congr ?_
      rw [OwnerSource.owner, ← map_linked_owner d row .aggregateId .orders fun o =>
        { row with tenantId := some o.1 }]
      by_cases hkind : row.texts .aggregateType = "Order"
      · rw [if_pos hkind, if_pos (by simp [hkind])]
        rfl
      · rw [if_neg hkind, if_neg (by simp [hkind])]
        rfl)
    (fun _ => rfl) (unaffected_parent (by decide) _ _ _ _ _)

/-- The order's owner, and then the operator's. -/
def idempotencyKeys (tenantId : Nat) : Update :=
  let fromOrder := Assignment.owner .idempotencyKeys (.parent .resultOrderId .orders none) false
  let direct := Assignment.owner .idempotencyKeys (.target tenantId 0) false
  { stage := idempotencyKeyTenantId tenantId
    assignments := [fromOrder, direct]
    report := fun d =>
      [⟨"idempotency_keys.tenantId (via resultOrder)", "idempotency_keys", "tenantId",
          fromOrder.affected d, [], none⟩,
        ⟨"idempotency_keys.tenantId (direct, no resultOrder)", "idempotency_keys", "tenantId",
          direct.affected (fromOrder.apply d), [], none⟩]
    runs := fun d => by
      have hset (d : Database) (ik : Row) : (if ik.tenantId = none then do
            let o ← d.linked ik .resultOrderId .orders
            let tenantId ← o.tenantId
            return { ik with tenantId := some tenantId }
          else none) = fromOrder.set d ik :=
        set_congr (map_linked_owner d ik .resultOrderId .orders fun o =>
          { ik with tenantId := some o.1 }).symm
      have hfirst := Assignment.executeUpdate_eq fromOrder hset d
      change executeUpdate .idempotencyKeys _ d = _ at hfirst
      have hsecond : assignTenant .idempotencyKeys tenantId (fromOrder.apply d) =
          .ok (direct.affected (fromOrder.apply d), direct.apply (fromOrder.apply d)) :=
        Assignment.executeUpdate_eq direct (fun _ _ => rfl) _
      rw [idempotencyKeyTenantId]
      simp only [bind, StateT.bind, Except.bind, pure] at hfirst ⊢
      rw [hfirst]
      dsimp only
      rw [hsecond]
      rfl
    reports := fun d h => by
      have hfirst := h fromOrder List.mem_cons_self
      have hsecond := h direct (List.mem_cons_of_mem _ List.mem_cons_self)
      intro r hr
      rw [Assignment.apply_of_idle hfirst] at hr
      simp only [List.mem_cons, List.not_mem_nil, or_false] at hr
      obtain rfl | rfl := hr
      · exact Assignment.affected_of_idle hfirst
      · exact Assignment.affected_of_idle hsecond
    ordered := by
      refine ⟨List.pairwise_pair.mpr (unaffected_parent (by decide) _ _ _ _ _), ?_⟩
      refine List.forall_mem_cons.mpr ⟨unaffected_parent (by decide) _ _ _ _ _, ?_⟩
      exact List.forall_mem_singleton.mpr (unaffected_target _ _ _ _ _) }

end Update

/-- The steps up to the counters. -/
def updates (tenantId storeId : Nat) : List Update :=
  [.directAssign .categories tenantId storeId,
    .directAssign .products tenantId storeId,
    .copyTenant .productImages .productId .products (by decide),
    .copyTenant .productVariants .productId .products (by decide),
    .copyTenant .customizationFields .productId .products (by decide),
    .directAssign .coupons tenantId storeId,
    .uploadedFiles tenantId,
    .join .uploadedFiles .uploadedByUserId .uploadedByCustomerId storeId,
    .directAssign .carts tenantId storeId,
    .join .carts .userId .customerId storeId,
    .copyTenant .cartItems .cartId .carts (by decide),
    .copyTenant .cartItemCustomizations .cartItemId .cartItems (by decide),
    .directAssign .orders tenantId storeId,
    .join .orders .userId .customerId storeId,
    .copyTenant .orderItems .orderId .orders (by decide),
    .copyTenant .orderItemCustomizations .orderItemId .orderItems (by decide),
    .copyTenant .invoices .orderId .orders (by decide),
    .copyTenant .paymentAttempts .orderId .orders (by decide),
    .copyTenant .refunds .paymentAttemptId .paymentAttempts (by decide),
    .copyTenant .orderStatusHistory .orderId .orders (by decide),
    .join .orderStatusHistory .changedByUserId .changedByCustomerId storeId,
    .copyTenantAndStore .couponUsages .orderId .orders (by decide),
    .join .couponUsages .userId .customerId storeId,
    .directAssign .reviews tenantId storeId,
    .join .reviews .userId .customerId storeId,
    .idempotencyKeys tenantId,
    .join .idempotencyKeys .userId .customerId storeId,
    .outboxEvents]

theorem realUpdates_eq (tenantId storeId : Nat) :
    realUpdates tenantId storeId = (updates tenantId storeId).map (·.stage) := rfl

/-- All assignments of a run, in their order. -/
def assignments (tenantId storeId : Nat) : List Assignment :=
  (updates tenantId storeId).flatMap (·.assignments)

/-- What an assignment reads and what it owns. -/
def Assignment.footprint (a : Assignment) : Option TableName × Option TableName := (a.reads, a.owns)

theorem unaffected_of_footprint {a b : Assignment}
    (h : ∀ table ∈ a.footprint.1, b.footprint.2 ≠ some table) : a.Unaffected b :=
  fun table hreads => h table (Option.mem_def.mpr hreads)

/-- The footprints do not depend on the target. -/
theorem footprints_eq (tenantId storeId : Nat) :
    (updates tenantId storeId).map (fun u => u.assignments.map (·.footprint)) =
      (updates 0 0).map (fun u => u.assignments.map (·.footprint)) := rfl

theorem updates_ordered (tenantId storeId : Nat) : (updates tenantId storeId).Pairwise
    fun u v => ∀ a ∈ u.assignments, ∀ b ∈ v.assignments, a.Unaffected b := by
  have hfootprints : ((updates 0 0).map (fun u => u.assignments.map (·.footprint))).Pairwise
      fun u v => ∀ a ∈ u, ∀ b ∈ v, ∀ table ∈ a.1, b.2 ≠ some table := by decide
  rw [← footprints_eq tenantId storeId, List.pairwise_map] at hfootprints
  refine hfootprints.imp fun h a ha b hb => ?_
  exact unaffected_of_footprint (h _ (List.mem_map_of_mem ha) _ (List.mem_map_of_mem hb))

/-! ## The counters -/

/-- What is seen and done by seeding a counter changes nothing but the counters, and adds to
these. -/
structure Grows (d d' : Database) : Prop where
  same : ∃ counters, d' = { d with tenantCounters := counters }
  kept : ∀ c ∈ d.tenantCounters, c ∈ d'.tenantCounters

theorem Grows.refl (d : Database) : Grows d d := ⟨⟨d.tenantCounters, rfl⟩, fun _ hc => hc⟩

theorem Grows.trans {d d' d'' : Database} (h : Grows d d') (h' : Grows d' d'') : Grows d d'' := by
  obtain ⟨⟨counters, rfl⟩, hkept⟩ := h
  obtain ⟨⟨counters', rfl⟩, hkept'⟩ := h'
  exact ⟨⟨counters', rfl⟩, fun c hc => hkept' c (hkept c hc)⟩

section

variable {tenantId : Nat} {spec : CounterSpec} {d d' : Database}

theorem insertCounter_ok {key : String} {value : Int} {n : Nat}
    (h : insertCounter tenantId key value d = .ok (n, d')) :
    Grows d d' ∧ ∀ e, Grows d' e → insertCounter tenantId key value e = .ok (0, e) := by
  rw [insertCounter] at h
  split at h
  case isFalse => cases h
  case isTrue hrange =>
    have hagain (hthere : ∃ c ∈ d'.tenantCounters, c.tenantId = tenantId ∧ c.key = key)
        (e : Database) (he : Grows d' e) : insertCounter tenantId key value e = .ok (0, e) := by
      obtain ⟨c, hc, htenant, hkey⟩ := hthere
      rw [insertCounter, if_pos hrange, if_pos]
      rw [List.any_eq_true]
      exact ⟨c, he.kept c hc, by simp [htenant, hkey]⟩
    split at h
    case isTrue hconflict =>
      cases h
      obtain ⟨c, hc, hmatch⟩ := List.any_eq_true.mp hconflict
      rw [Bool.and_eq_true, decide_eq_true_eq, decide_eq_true_eq] at hmatch
      exact ⟨.refl d, hagain ⟨c, hc, hmatch⟩⟩
    case isFalse =>
      cases h
      exact ⟨⟨⟨_, rfl⟩, fun c hc => List.mem_append_left _ hc⟩,
        hagain ⟨_, List.mem_append_right _ List.mem_cons_self, rfl, rfl⟩⟩

/-- Nothing is done, or a value is inserted. -/
theorem seedValidated_cases (tenantId : Nat) (spec : CounterSpec) (v : CounterValidation) :
    (∃ r, r.affected = 0 ∧ ∀ d, seedValidated tenantId spec v d = .ok (r, d)) ∨
      ∃ value, seedValidated tenantId spec v = (do
        let affected ← insertCounter tenantId spec.key value
        return counterResult spec affected [] none) := by
  obtain ⟨key, sourceValue, actualMax, malformedCount, status⟩ := v
  cases status with
  | pass =>
      cases sourceValue with
      | none => exact .inl ⟨_, rfl, fun _ => rfl⟩
      | some value => exact .inr ⟨value, rfl⟩
  | _ => exact .inl ⟨_, rfl, fun _ => rfl⟩

theorem seedCounter_settles {r : StepResult} (h : seedCounter tenantId spec d = .ok (r, d')) :
    Grows d d' ∧ ∀ e, Grows d' e →
      ∃ r', seedCounter tenantId spec e = .ok (r', e) ∧ r'.affected = 0 := by
  have hseed (e : Database) : seedCounter tenantId spec e =
      seedValidated tenantId spec (validateCounterAgainstMax spec.key spec.table spec.column e) e :=
    rfl
  have hsame (e : Database) (he : Grows d e) :
      validateCounterAgainstMax spec.key spec.table spec.column e =
        validateCounterAgainstMax spec.key spec.table spec.column d := by
    obtain ⟨⟨counters, rfl⟩, -⟩ := he
    rfl
  rw [hseed] at h
  -- What is found out about the numbers does not depend on the counters.
  suffices hvalidated : Grows d d' ∧ ∀ e, Grows d' e → ∃ r', seedValidated tenantId spec
      (validateCounterAgainstMax spec.key spec.table spec.column d) e = .ok (r', e) ∧
        r'.affected = 0 by
    refine ⟨hvalidated.1, fun e he => ?_⟩
    rw [hseed, hsame e (hvalidated.1.trans he)]
    exact hvalidated.2 e he
  generalize validateCounterAgainstMax spec.key spec.table spec.column d = v at h ⊢
  obtain ⟨r', hnone, hreturn⟩ | ⟨value, hinsert⟩ := seedValidated_cases tenantId spec v
  · rw [hreturn] at h
    cases h
    exact ⟨.refl d, fun e _ => ⟨r, hreturn e, hnone⟩⟩
  · rw [hinsert] at h
    obtain ⟨n, d₁, hinserted, h⟩ := ok_bind h
    cases h
    obtain ⟨hgrows, hagain⟩ := insertCounter_ok hinserted
    refine ⟨hgrows, fun e he => ⟨counterResult spec 0 [] none, ?_, rfl⟩⟩
    rw [hinsert]
    simp only [bind, StateT.bind, Except.bind, hagain e he]
    rfl

theorem seedTenantCounters_grows {results : List StepResult}
    (h : seedTenantCounters tenantId d = .ok (results, d')) : Grows d d' := by
  rw [seedTenantCounters_eq] at h
  obtain ⟨order, d₁, hfirst, h⟩ := ok_bind h
  obtain ⟨invoice, d₂, hsecond, h⟩ := ok_bind h
  cases h
  exact (seedCounter_settles hfirst).1.trans (seedCounter_settles hsecond).1

/-- Seeding the counters finds nothing to do once it has been done. -/
theorem seedTenantCounters_settles {results : List StepResult}
    (h : seedTenantCounters tenantId d = .ok (results, d')) :
    ∃ results', seedTenantCounters tenantId d' = .ok (results', d') ∧ Unchanged results' := by
  rw [seedTenantCounters_eq] at h
  obtain ⟨order, d₁, hfirst, h⟩ := ok_bind h
  obtain ⟨invoice, d₂, hsecond, h⟩ := ok_bind h
  cases h
  obtain ⟨hgrows, horder⟩ := seedCounter_settles hfirst
  obtain ⟨hgrows', hinvoice⟩ := seedCounter_settles hsecond
  obtain ⟨order', horder', hnone⟩ := horder d' hgrows'
  obtain ⟨invoice', hinvoice', hnone'⟩ := hinvoice d' (.refl d')
  refine ⟨[order', invoice'], ?_, ?_⟩
  · rw [seedTenantCounters_eq]
    simp only [bind, StateT.bind, Except.bind, horder', hinvoice']
    rfl
  · exact List.forall_mem_cons.mpr ⟨hnone, List.forall_mem_singleton.mpr hnone'⟩

end

/-! ## Runs -/

/-- A step, and that it has nothing to do. -/
abbrev Settled := Settling Database BackfillError (List StepResult) Unchanged

def Update.settling (u : Update) : Settled where
  stage := u.stage
  settled d := ∀ a ∈ u.assignments, a.Idle d
  rests d h := ⟨u.report d, by rw [u.runs, applyAll_of_idle h], u.reports d h⟩
  settles d r d' h := by
    rw [u.runs] at h
    cases h
    exact idle_applyAll u.ordered d

def countersSettling (tenantId : Nat) : Settled where
  stage := seedTenantCounters tenantId
  settled d := ∃ results, seedTenantCounters tenantId d = .ok (results, d) ∧ Unchanged results
  rests _ h := h
  settles _ _ _ h := seedTenantCounters_settles h

def settlings (tenantId storeId : Nat) : List Settled :=
  (updates tenantId storeId).map (·.settling) ++ [countersSettling tenantId]

theorem realSteps_eq (tenantId storeId : Nat) :
    realSteps tenantId storeId = stagesOf (settlings tenantId storeId) := rfl

theorem settlings_kept (tenantId storeId : Nat) :
    (settlings tenantId storeId).Pairwise Settling.KeptBy := by
  refine List.pairwise_append.mpr ⟨?_, List.pairwise_singleton .., ?_⟩
  · rw [List.pairwise_map]
    refine (updates_ordered tenantId storeId).imp ?_
    intro u v huv d r d' h hrun a ha
    change v.stage d = .ok (r, d') at hrun
    rw [v.runs] at hrun
    cases hrun
    exact (h a ha).applyAll fun b hb => huv a ha b hb
  · intro s hs c hc
    obtain ⟨u, -, rfl⟩ := List.mem_map.mp hs
    rw [List.mem_singleton.mp hc]
    intro d r d' h hrun a ha row hrow
    obtain ⟨⟨counters, rfl⟩, -⟩ := seedTenantCounters_grows hrun
    rw [Assignment.set_counters]
    exact h a ha row hrow

/-! ## The two lists of steps -/

theorem runAllSteps_eq (tenantId storeId : Nat) : runAllSteps tenantId storeId = (do
    return (← runTogether (realSteps tenantId storeId)).flatten) := by
  simp only [runAllSteps, runTogether, realSteps, realUpdates, single, List.cons_append,
    List.nil_append, List.mapM_cons, List.mapM_nil, bind_assoc, pure_bind, id_eq,
    List.flatten_cons, List.flatten_nil, List.append_assoc, List.append_nil]

section

variable {tenantId storeId : Nat} {d : Database}

/-- No step touches what the target is checked against. -/
theorem realSteps_target {stage : Step (List StepResult)}
    (hstage : stage ∈ realSteps tenantId storeId) (d : Database) (results : List StepResult)
    (d' : Database) (h : validateTarget tenantId storeId d = .ok ())
    (hrun : stage d = .ok (results, d')) : validateTarget tenantId storeId d' = .ok () := by
  obtain hupdate | hcounters := List.mem_append.mp hstage
  · rw [realUpdates_eq] at hupdate
    obtain ⟨u, -, rfl⟩ := List.mem_map.mp hupdate
    rw [u.runs] at hrun
    cases hrun
    generalize u.assignments = assignments
    induction assignments generalizing d with
    | nil => exact h
    | cons a assignments ih => exact ih _ h
  · rw [List.mem_singleton.mp hcounters] at hrun
    obtain ⟨⟨counters, rfl⟩, -⟩ := seedTenantCounters_grows hrun
    exact h

theorem interrupted_eq (h : validateTarget tenantId storeId d = .ok ()) (n : Nat) :
    interrupted tenantId storeId n d =
        (runCommitted ((stagesOf (settlings tenantId storeId)).take n) d).2 ∧
      validateTarget tenantId storeId (interrupted tenantId storeId n d) = .ok () := by
  have heq : interrupted tenantId storeId n d =
      (runCommitted ((stagesOf (settlings tenantId storeId)).take n) d).2 := by
    rw [interrupted, h, realSteps_eq]
  refine ⟨heq, ?_⟩
  rw [heq]
  refine runCommitted_keeps (fun d => validateTarget tenantId storeId d = .ok ())
    (fun stage hstage => realSteps_target ?_) h
  rw [realSteps_eq]
  exact List.mem_of_mem_take hstage

theorem main_real (h : validateTarget tenantId storeId d = .ok ()) :
    main tenantId storeId false d =
      ((runCommitted (stagesOf (settlings tenantId storeId)) d).1.map List.flatten,
        (runCommitted (stagesOf (settlings tenantId storeId)) d).2) := by
  rw [← realSteps_eq, main, h]
  generalize runCommitted (realSteps tenantId storeId) d = result
  rfl

theorem main_real_state (h : validateTarget tenantId storeId d = .ok ()) :
    (main tenantId storeId false d).2 =
      (runCommitted (stagesOf (settlings tenantId storeId)) d).2 := by
  simp only [main_real h]

theorem main_real_target (h : validateTarget tenantId storeId d = .ok ()) :
    validateTarget tenantId storeId (main tenantId storeId false d).2 = .ok () := by
  rw [main_real_state h]
  refine runCommitted_keeps (fun d => validateTarget tenantId storeId d = .ok ())
    (fun stage hstage => realSteps_target ?_) h
  rwa [realSteps_eq]

theorem seedTenantCounters_error {e : BackfillError}
    (h : seedTenantCounters tenantId d = .error e) : e = .outOfRange := by
  have hseed {spec : CounterSpec} {d : Database} {e : BackfillError}
      (h : seedCounter tenantId spec d = .error e) : e = .outOfRange := by
    change seedValidated tenantId spec _ d = .error e at h
    obtain ⟨r, -, hreturn⟩ | ⟨value, hinsert⟩ := seedValidated_cases tenantId spec
      (validateCounterAgainstMax spec.key spec.table spec.column d)
    · rw [hreturn] at h
      cases h
    · rw [hinsert] at h
      obtain hinserted | ⟨n, d', -, hreturn⟩ := error_bind h
      · rw [insertCounter] at hinserted
        split at hinserted
        case isTrue => split at hinserted <;> cases hinserted
        case isFalse =>
          cases hinserted
          rfl
      · cases hreturn
  rw [seedTenantCounters_eq] at h
  obtain hfirst | ⟨_, _, -, h⟩ := error_bind h
  · exact hseed hfirst
  · obtain hsecond | ⟨_, _, -, h⟩ := error_bind h
    · exact hseed hsecond
    · cases h

/-- The only failure is a counter that its column cannot hold. -/
theorem realSteps_error {e : BackfillError}
    (h : (runCommitted (stagesOf (settlings tenantId storeId)) d).1 = .error e) :
    e = .outOfRange := by
  rw [← realSteps_eq] at h
  obtain ⟨stage, hstage, d', hd'⟩ := exists_of_runCommitted_error h
  obtain hupdate | hcounters := List.mem_append.mp hstage
  · rw [realUpdates_eq] at hupdate
    obtain ⟨u, -, rfl⟩ := List.mem_map.mp hupdate
    rw [u.runs] at hd'
    cases hd'
  · rw [List.mem_singleton.mp hcounters] at hd'
    exact seedTenantCounters_error hd'

/-- A dry run reports what the real run does, and changes nothing. -/
theorem main_dry (h : validateTarget tenantId storeId d = .ok ()) :
    main tenantId storeId true d = ((main tenantId storeId false d).1, d) := by
  have hrun : runAllSteps tenantId storeId d =
      (runCommitted (stagesOf (settlings tenantId storeId)) d).1.map fun results =>
        (results.flatten, (runCommitted (stagesOf (settlings tenantId storeId)) d).2) := by
    rw [runAllSteps_eq, realSteps_eq]
    simp only [bind, StateT.bind, Except.bind, runTogether_eq]
    generalize runCommitted (stagesOf (settlings tenantId storeId)) d = result
    cases result.1 <;> rfl
  rw [main_real h, main, h]
  dsimp only
  rw [if_pos rfl, dryRunAllSteps, transaction]
  simp only [bind, StateT.bind, Except.bind, hrun]
  cases hresult : (runCommitted (stagesOf (settlings tenantId storeId)) d).1 with
  | ok results => rfl
  | error e =>
      rw [realSteps_error hresult]
      rfl

/-- Runs that are stopped, one after the other. -/
theorem foldl_interrupted (h : validateTarget tenantId storeId d = .ok ()) (stops : List Nat) :
    validateTarget tenantId storeId
        (stops.foldl (fun d n => interrupted tenantId storeId n d) d) = .ok () ∧
      stops.foldl (fun d n => interrupted tenantId storeId n d) d = stops.foldl
        (fun d n => (runCommitted ((stagesOf (settlings tenantId storeId)).take n) d).2) d := by
  induction stops generalizing d with
  | nil => exact ⟨h, rfl⟩
  | cons n stops ih =>
      obtain ⟨heq, htarget⟩ := interrupted_eq h n
      rw [List.foldl_cons, List.foldl_cons, ← heq]
      exact ih htarget

/-- **The backfill can be stopped anywhere, and its dry run tells what it does.** Real runs that are
stopped, any number of times, end in the state of one that is not; another one after it affects
nothing; a dry run reports the same as a real run and changes nothing. -/
theorem backfill_restartable (h : validateTarget tenantId storeId d = .ok ()) (stops : List Nat) :
    let resumed := stops.foldl (fun d n => interrupted tenantId storeId n d) d
    let ended := (main tenantId storeId false d).2
    (main tenantId storeId false resumed).2 = ended ∧
      (main tenantId storeId false ended).2 = ended ∧
      (∀ results, (main tenantId storeId false ended).1 = .ok results → Unchanged results) ∧
      main tenantId storeId true d = ((main tenantId storeId false d).1, d) := by
  intro resumed ended
  have hkept := settlings_kept tenantId storeId
  obtain ⟨hstate, hidle⟩ := runCommitted_again hkept (main_real_state h)
  refine ⟨?_, ?_, fun results hresults => ?_, main_dry h⟩
  · obtain ⟨htarget, heq⟩ := foldl_interrupted h stops
    have hresumed := main_real_state htarget
    rw [heq, runCommitted_stops hkept, ← main_real_state h, ← heq] at hresumed
    exact hresumed
  · have hagain := main_real_state (main_real_target h)
    rw [hstate] at hagain
    exact hagain
  · have hagain := main_real (main_real_target h)
    rw [hagain] at hresults
    dsimp only at hresults
    cases hrun : (runCommitted (stagesOf (settlings tenantId storeId))
        (main tenantId storeId false d).2).1 with
    | error e =>
        rw [hrun] at hresults
        cases hresults
    | ok reports =>
        rw [hrun] at hresults
        cases hresults
        intro r hr
        obtain ⟨report, hreport, hmem⟩ := List.mem_flatten.mp hr
        exact hidle reports hrun report hreport r hmem

/-- A shopper's order and its invoice, from before there were tenants. -/
def unowned : Database where
  tenants := [1]
  stores := [⟨1, 1, true⟩]
  users := [⟨1, "shopper@example.com", .customer⟩]
  customers := [⟨5, 1, 1, "shopper@example.com"⟩]
  appSettings := [⟨"order_number_counter", "1"⟩, ⟨"invoice_number_counter", "1"⟩]
  tenantCounters := []
  rows table :=
    match table with
    | .orders => [⟨1, none, none, fun _ => none, fun link =>
        if link = .userId then some 1 else none, fun _ => "PF-000001"⟩]
    | .invoices => [⟨1, none, none, fun _ => none, fun link =>
        if link = .orderId then some 1 else none, fun _ => "INV-000001"⟩]
    | _ => []
  customers_distinct := List.nodup_singleton 5

theorem unowned_restartable :
    let resumed := [2, 14].foldl (fun d n => interrupted 1 1 n d) unowned
    let ended := (main 1 1 false unowned).2
    (main 1 1 false resumed).2 = ended ∧
      (main 1 1 false ended).2 = ended ∧
      (∀ results, (main 1 1 false ended).1 = .ok results → Unchanged results) ∧
      main 1 1 true unowned = ((main 1 1 false unowned).1, unowned) :=
  backfill_restartable (by decide) [2, 14]

end

end PrintForge.Backfill
