import PrintForge.Backfill.Counters
import PrintForge.Relational.Stages

/-!
# The ownership backfill

Rows that were written before there were tenants get their owners: the roots of the data get the
tenant and the store that the operator names, what hangs on a root copies the tenant of the row
that it hangs on, and rows of shoppers get the customer with the shopper's e-mail address.

The steps are listed twice. A dry run takes all of them in one transaction, which it rolls back; a
real run commits each by itself.
-/

namespace PrintForge.Backfill

/-! ## Statements -/

def Database.findRow (d : Database) (table : TableName) (id : Nat) : Option Row :=
  (d.rows table).find? (·.id = id)

/-- The row that a link leads to. -/
def Database.linked (d : Database) (row : Row) (link : Link) (table : TableName) : Option Row :=
  (row.links link).bind (d.findRow table)

/-- The user that a link leads to, where that is a shopper. -/
def Database.shopper (d : Database) (row : Row) (link : Link) : Option User :=
  ((row.links link).bind fun id => d.users.find? (·.id = id)).filter (·.role = .customer)

/-- The customer of a store with a user's address. A store has one at most. -/
def Database.customerOf (d : Database) (storeId : Nat) (u : User) : Option Customer :=
  d.customers.find? fun c => c.storeId = storeId && c.email = u.email

def Row.setCustomer (row : Row) (column : CustomerColumn) (id : Nat) : Row :=
  { row with customerIds := Function.update row.customerIds column (some id) }

/-- `UPDATE`, with the number of rows: a row stays as it is unless something becomes of it. -/
def executeUpdate (table : TableName) (set : Database → Row → Option Row) : Step Nat := fun d =>
  .ok ((d.rows table).countP fun row => (set d row).isSome,
    { d with
      rows := Function.update d.rows table
        ((d.rows table).map fun row => (set d row).getD row) })

/-! ## Steps -/

def directAssignTenantStore (table : TableName) (tenantId storeId : Nat) : Step StepResult := do
  let affected ← executeUpdate table fun _ row =>
    if row.tenantId = none then
      some { row with tenantId := some tenantId, storeId := some storeId }
    else none
  return ⟨table.name, table.name, "tenantId,storeId", affected, [], none⟩

def copyTenantFromParent (table : TableName) (fkColumn : Link) (parentTable : TableName) :
    Step StepResult := do
  let affected ← executeUpdate table fun d c =>
    if c.tenantId = none then do
      let par ← d.linked c fkColumn parentTable
      let tenantId ← par.tenantId
      return { c with tenantId := some tenantId }
    else none
  return ⟨table.name, table.name, "tenantId", affected, [], none⟩

def copyTenantAndStoreFromParent (table : TableName) (fkColumn : Link)
    (parentTable : TableName) : Step StepResult := do
  let affected ← executeUpdate table fun d c =>
    if c.tenantId = none then do
      let par ← d.linked c fkColumn parentTable
      let tenantId ← par.tenantId
      return { c with tenantId := some tenantId, storeId := par.storeId }
    else none
  return ⟨table.name, table.name, "tenantId,storeId", affected, [], none⟩

/-- The shoppers without a customer of their own are counted before the rest get theirs. -/
def customerIdFromUserJoin (table : TableName) (userIdColumn : Link)
    (customerIdColumn : CustomerColumn) (storeId : Nat) : Step StepResult := do
  let d ← get
  let unresolved := (d.rows table).countP fun x =>
    x.customerIds customerIdColumn = none &&
      (d.shopper x userIdColumn).any fun u => (d.customerOf storeId u).isNone
  let affected ← executeUpdate table fun d x =>
    if x.customerIds customerIdColumn = none then do
      let u ← d.shopper x userIdColumn
      let c ← d.customerOf storeId u
      return x.setCustomer customerIdColumn c.id
    else none
  return ⟨table.name ++ "." ++ customerIdColumn.name, table.name, customerIdColumn.name, affected,
    if 0 < unresolved then [("customer_role_user_with_no_matching_customer_row", unresolved)]
    else [], none⟩

/-- A tenant for every row that has none yet. -/
def assignTenant (table : TableName) (tenantId : Nat) : Step Nat :=
  executeUpdate table fun _ row =>
    if row.tenantId = none then some { row with tenantId := some tenantId } else none

def uploadedFileTenantId (tenantId : Nat) : Step StepResult := do
  let affected ← assignTenant .uploadedFiles tenantId
  return ⟨"uploaded_files.tenantId", "uploaded_files", "tenantId", affected, [], none⟩

def uploadedFileCustomerId (storeId : Nat) : Step StepResult :=
  customerIdFromUserJoin .uploadedFiles .uploadedByUserId .uploadedByCustomerId storeId

/-- The tenant of the order that a key stands for, and the operator's where there is none. -/
def idempotencyKeyTenantId (tenantId : Nat) : Step (List StepResult) := do
  let fromOrder ← executeUpdate .idempotencyKeys fun d ik =>
    if ik.tenantId = none then do
      let o ← d.linked ik .resultOrderId .orders
      let tenantId ← o.tenantId
      return { ik with tenantId := some tenantId }
    else none
  let direct ← assignTenant .idempotencyKeys tenantId
  return [⟨"idempotency_keys.tenantId (via resultOrder)", "idempotency_keys", "tenantId", fromOrder,
      [], none⟩,
    ⟨"idempotency_keys.tenantId (direct, no resultOrder)", "idempotency_keys", "tenantId", direct,
      [], none⟩]

def outboxEventTenantId : Step StepResult := do
  let affected ← executeUpdate .outboxEvents fun d oe =>
    if oe.tenantId = none then
      if oe.texts .aggregateType = "Order" then do
        let o ← d.linked oe .aggregateId .orders
        let tenantId ← o.tenantId
        return { oe with tenantId := some tenantId }
      else none
    else none
  return ⟨"outbox_events.tenantId", "outbox_events", "tenantId", affected, [], none⟩

def orderStatusHistoryChangedByCustomerId (storeId : Nat) : Step StepResult :=
  customerIdFromUserJoin .orderStatusHistory .changedByUserId .changedByCustomerId storeId

/-! ## Runs -/

def runAllSteps (tenantId storeId : Nat) : Step (List StepResult) := do
  let mut results : List StepResult := []
  results := results ++ [← directAssignTenantStore .categories tenantId storeId]
  results := results ++ [← directAssignTenantStore .products tenantId storeId]
  results := results ++ [← copyTenantFromParent .productImages .productId .products]
  results := results ++ [← copyTenantFromParent .productVariants .productId .products]
  results := results ++ [← copyTenantFromParent .customizationFields .productId .products]

  results := results ++ [← directAssignTenantStore .coupons tenantId storeId]

  results := results ++ [← uploadedFileTenantId tenantId]
  results := results ++ [← uploadedFileCustomerId storeId]

  results := results ++ [← directAssignTenantStore .carts tenantId storeId]
  results := results ++ [← customerIdFromUserJoin .carts .userId .customerId storeId]
  results := results ++ [← copyTenantFromParent .cartItems .cartId .carts]
  results := results ++ [← copyTenantFromParent .cartItemCustomizations .cartItemId .cartItems]

  results := results ++ [← directAssignTenantStore .orders tenantId storeId]
  results := results ++ [← customerIdFromUserJoin .orders .userId .customerId storeId]
  results := results ++ [← copyTenantFromParent .orderItems .orderId .orders]
  results := results ++ [← copyTenantFromParent .orderItemCustomizations .orderItemId .orderItems]
  results := results ++ [← copyTenantFromParent .invoices .orderId .orders]
  results := results ++ [← copyTenantFromParent .paymentAttempts .orderId .orders]
  results := results ++ [← copyTenantFromParent .refunds .paymentAttemptId .paymentAttempts]
  results := results ++ [← copyTenantFromParent .orderStatusHistory .orderId .orders]
  results := results ++ [← orderStatusHistoryChangedByCustomerId storeId]

  results := results ++ [← copyTenantAndStoreFromParent .couponUsages .orderId .orders]
  results := results ++ [← customerIdFromUserJoin .couponUsages .userId .customerId storeId]

  results := results ++ [← directAssignTenantStore .reviews tenantId storeId]
  results := results ++ [← customerIdFromUserJoin .reviews .userId .customerId storeId]

  results := results ++ (← idempotencyKeyTenantId tenantId)
  results := results ++ [← customerIdFromUserJoin .idempotencyKeys .userId .customerId storeId]

  results := results ++ [← outboxEventTenantId]

  results := results ++ (← seedTenantCounters tenantId)

  return results

/-- A step with one result. -/
def single (step : Step StepResult) : Step (List StepResult) := do
  return [← step]

/-- The steps up to the counters, each in a transaction of its own. -/
def realUpdates (tenantId storeId : Nat) : List (Step (List StepResult)) :=
  [single (directAssignTenantStore .categories tenantId storeId),
    single (directAssignTenantStore .products tenantId storeId),
    single (copyTenantFromParent .productImages .productId .products),
    single (copyTenantFromParent .productVariants .productId .products),
    single (copyTenantFromParent .customizationFields .productId .products),
    single (directAssignTenantStore .coupons tenantId storeId),
    single (uploadedFileTenantId tenantId),
    single (uploadedFileCustomerId storeId),
    single (directAssignTenantStore .carts tenantId storeId),
    single (customerIdFromUserJoin .carts .userId .customerId storeId),
    single (copyTenantFromParent .cartItems .cartId .carts),
    single (copyTenantFromParent .cartItemCustomizations .cartItemId .cartItems),
    single (directAssignTenantStore .orders tenantId storeId),
    single (customerIdFromUserJoin .orders .userId .customerId storeId),
    single (copyTenantFromParent .orderItems .orderId .orders),
    single (copyTenantFromParent .orderItemCustomizations .orderItemId .orderItems),
    single (copyTenantFromParent .invoices .orderId .orders),
    single (copyTenantFromParent .paymentAttempts .orderId .orders),
    single (copyTenantFromParent .refunds .paymentAttemptId .paymentAttempts),
    single (copyTenantFromParent .orderStatusHistory .orderId .orders),
    single (orderStatusHistoryChangedByCustomerId storeId),
    single (copyTenantAndStoreFromParent .couponUsages .orderId .orders),
    single (customerIdFromUserJoin .couponUsages .userId .customerId storeId),
    single (directAssignTenantStore .reviews tenantId storeId),
    single (customerIdFromUserJoin .reviews .userId .customerId storeId),
    idempotencyKeyTenantId tenantId,
    single (customerIdFromUserJoin .idempotencyKeys .userId .customerId storeId),
    single outboxEventTenantId]

/-- The transactions of a real run, in their order. -/
def realSteps (tenantId storeId : Nat) : List (Step (List StepResult)) :=
  realUpdates tenantId storeId ++ [seedTenantCounters tenantId]

def validateTarget (tenantId storeId : Nat) (d : Database) : Except BackfillError Unit := do
  if tenantId ∉ d.tenants then
    throw (.refused ("--tenant-id " ++ toString tenantId ++ " does not exist."))
  match d.stores.find? (·.id = storeId) with
  | none => throw (.refused ("--store-id " ++ toString storeId ++ " does not exist."))
  | some store =>
      if store.tenantId ≠ tenantId then
        throw (.refused ("--store-id " ++ toString storeId ++ " belongs to tenant " ++
          toString store.tenantId ++ ", not " ++ toString tenantId ++ "."))
      if !store.isPrimary then
        throw (.refused ("--store-id " ++ toString storeId ++
          " is not the primary store for tenant " ++ toString tenantId ++
          ". Refusing: Phase 4 W4/W5 targets the tenant's primary store only (spec §3)."))

/-- What throws is rolled back. -/
def transaction {α : Type} (body : Step α) (d : Database) : Except BackfillError α × Database :=
  match body d with
  | .ok (a, d') => (.ok a, d')
  | .error e => (.error e, d)

/-- A dry run throws what it has found out, and catches it behind the transaction. -/
def dryRunAllSteps (tenantId storeId : Nat) (d : Database) :
    Except BackfillError (List StepResult) × Database :=
  let body : Step Unit := do
    let results ← runAllSteps tenantId storeId
    throw (.dryRunRollback results)
  match transaction body d with
  | (.error (.dryRunRollback results), d') => (.ok results, d')
  | (.error e, d') => (.error e, d')
  | (.ok (), d') => (.ok [], d')

def main (tenantId storeId : Nat) (dryRun : Bool) (d : Database) :
    Except BackfillError (List StepResult) × Database :=
  match validateTarget tenantId storeId d with
  | .error e => (.error e, d)
  | .ok () =>
      if dryRun then dryRunAllSteps tenantId storeId d
      else
        let (results, d') := Stages.runCommitted (realSteps tenantId storeId) d
        (results.map List.flatten, d')

/-- A real run that is stopped after so many of its transactions. -/
def interrupted (tenantId storeId : Nat) (transactions : Nat) (d : Database) : Database :=
  match validateTarget tenantId storeId d with
  | .error _ => d
  | .ok () => (Stages.runCommitted ((realSteps tenantId storeId).take transactions) d).2

end PrintForge.Backfill
