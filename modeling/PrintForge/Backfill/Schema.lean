import PrintForge.Text.Integers

/-!
# The database that the ownership backfill works on

The rows of every table that gets owners have the same shape: a column that a table does not have
is one that no statement names for it. The columns that say whom a row belongs to are kept apart
from the links to other rows, which no statement changes.
-/

namespace PrintForge.Backfill

inductive TableName where
  | categories
  | products
  | productImages
  | productVariants
  | customizationFields
  | coupons
  | uploadedFiles
  | carts
  | cartItems
  | cartItemCustomizations
  | orders
  | orderItems
  | orderItemCustomizations
  | invoices
  | paymentAttempts
  | refunds
  | orderStatusHistory
  | couponUsages
  | reviews
  | idempotencyKeys
  | outboxEvents
deriving DecidableEq, Repr

def TableName.name : TableName → String
  | categories => "categories"
  | products => "products"
  | productImages => "product_images"
  | productVariants => "product_variants"
  | customizationFields => "customization_fields"
  | coupons => "coupons"
  | uploadedFiles => "uploaded_files"
  | carts => "carts"
  | cartItems => "cart_items"
  | cartItemCustomizations => "cart_item_customizations"
  | orders => "orders"
  | orderItems => "order_items"
  | orderItemCustomizations => "order_item_customizations"
  | invoices => "invoices"
  | paymentAttempts => "payment_attempts"
  | refunds => "refunds"
  | orderStatusHistory => "order_status_history"
  | couponUsages => "coupon_usages"
  | reviews => "reviews"
  | idempotencyKeys => "idempotency_keys"
  | outboxEvents => "outbox_events"

/-- A column that holds the id of another row. -/
inductive Link where
  | userId
  | uploadedByUserId
  | changedByUserId
  | productId
  | cartId
  | cartItemId
  | orderId
  | orderItemId
  | paymentAttemptId
  | resultOrderId
  | aggregateId
deriving DecidableEq, Repr

/-- A column that names the customer whom a row belongs to. -/
inductive CustomerColumn where
  | customerId
  | uploadedByCustomerId
  | changedByCustomerId
deriving DecidableEq, Repr

def CustomerColumn.name : CustomerColumn → String
  | customerId => "customerId"
  | uploadedByCustomerId => "uploadedByCustomerId"
  | changedByCustomerId => "changedByCustomerId"

inductive TextColumn where
  | orderNumber
  | invoiceNumber
  | aggregateType
deriving DecidableEq, Repr

structure Row where
  id : Nat
  tenantId : Option Nat
  storeId : Option Nat
  customerIds : CustomerColumn → Option Nat
  links : Link → Option Nat
  texts : TextColumn → String

inductive Role where
  | customer
  | admin
deriving DecidableEq, Repr

structure User where
  id : Nat
  email : String
  role : Role
deriving DecidableEq, Repr

structure Customer where
  id : Nat
  tenantId : Nat
  storeId : Nat
  email : String
deriving DecidableEq, Repr

structure Store where
  id : Nat
  tenantId : Nat
  isPrimary : Bool
deriving DecidableEq, Repr

structure AppSetting where
  key : String
  value : String
deriving DecidableEq, Repr

structure TenantCounter where
  tenantId : Nat
  key : String
  value : Int
deriving DecidableEq, Repr

/-- Rows are found by their ids, and by no other row's. -/
structure Database where
  tenants : List Nat
  stores : List Store
  users : List User
  customers : List Customer
  appSettings : List AppSetting
  tenantCounters : List TenantCounter
  rows : TableName → List Row
  customers_distinct : (customers.map (·.id)).Nodup

structure StepResult where
  step : String
  table : String
  column : String
  affected : Nat
  anomalies : List (String × Nat)
  detail : Option String
deriving DecidableEq, Repr

/-- What a transaction is rolled back with. -/
inductive BackfillError where
  | refused (message : String)
  | outOfRange
  | dryRunRollback (results : List StepResult)
deriving DecidableEq, Repr

/-- A step runs in a transaction. -/
abbrev Step (α : Type) := StateT Database (Except BackfillError) α

end PrintForge.Backfill
