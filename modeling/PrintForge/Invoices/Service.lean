import PrintForge.Checkout.Schema
import PrintForge.Text.Strings

/-!
# Invoices

An order that has been paid for has one invoice, made when it is first asked for. Its number is the
prefix that its tenant has chosen and the next value of the tenant's counter, which is raised in
the transaction that inserts the invoice. A statement of that transaction may also fail for
reasons of its own. Two requests for one order come to the same invoice: the one that is refused by
the index reads what the other has written.
-/

namespace PrintForge.Invoices

open Relational Concurrent Numeric

/-! ## Tables -/

/-- The columns that an invoice is made of. -/
structure Order where
  id : Nat
  tenantId : Nat
  userId : Nat
  status : OrderStatus
  currency : String
  subtotal : Decimal
  discountAmount : Decimal
  shippingFee : Decimal
  taxableAmount : Decimal
  taxAmount : Decimal
  total : Decimal
  taxMode : String
  taxRateSnapshot : Option Decimal
  taxBreakdown : Option String
deriving DecidableEq, Repr

instance : Schema Order where
  key o := o.id
  Clash _ _ := False
  clash_decidable _ _ := inferInstanceAs (Decidable False)
  clash_symm h := h

structure TenantCounter where
  id : Nat
  tenantId : Nat
  name : String
  value : Nat
deriving DecidableEq, Repr

instance : Schema TenantCounter where
  key c := c.id
  Clash a b := a.tenantId = b.tenantId ∧ a.name = b.name
  clash_decidable _ _ := inferInstanceAs (Decidable (_ ∧ _))
  clash_symm h := ⟨h.1.symm, h.2.symm⟩

/-- An invoice number and what it is put together from. The database knows its text alone. -/
structure InvoiceNumber where
  lead : String
  value : Nat
deriving DecidableEq, Repr

def InvoiceNumber.text (number : InvoiceNumber) : String :=
  number.lead ++ JavaScript.padStart (toString number.value) 6 '0'

structure SellerSnapshot where
  legalName : String
  address : String
  gstin : String
  state : String
deriving DecidableEq, Repr

structure Invoice where
  id : Nat
  invoiceNumber : InvoiceNumber
  orderId : Nat
  tenantId : Nat
  currency : String
  subtotal : Decimal
  discountAmount : Decimal
  shippingFee : Decimal
  taxableAmount : Decimal
  taxAmount : Decimal
  grandTotal : Decimal
  taxMode : String
  taxRateSnapshot : Option Decimal
  taxBreakdown : Option String
  sellerSnapshot : SellerSnapshot
deriving DecidableEq, Repr

instance : Schema Invoice where
  key i := i.id
  Clash a b := a.orderId = b.orderId ∨
    a.tenantId = b.tenantId ∧ a.invoiceNumber.text = b.invoiceNumber.text
  clash_decidable _ _ := inferInstanceAs (Decidable (_ ∨ _ ∧ _))
  clash_symm h := h.imp Eq.symm fun ⟨ht, hn⟩ => ⟨ht.symm, hn.symm⟩

structure World where
  orders : Table Order
  tenantSettings : Table Checkout.Setting
  tenantCounters : Table TenantCounter
  invoices : Table Invoice

/-- No invoice has been asked for yet. -/
def World.initial (orders : Table Order) (tenantSettings : Table Checkout.Setting) : World :=
  ⟨orders, tenantSettings, .empty, .empty⟩

namespace Db

def tenantSettings : Slot World Checkout.Setting where
  get w := w.tenantSettings
  set t w := { w with tenantSettings := t }

def tenantCounters : Slot World TenantCounter where
  get w := w.tenantCounters
  set t w := { w with tenantCounters := t }

def invoices : Slot World Invoice where
  get w := w.invoices
  set t w := { w with invoices := t }

end Db

/-- Commits carry what the service had read by then. -/
inductive Commit where
  | createInvoice (order : Order) (lead : String)
  | updateSetting (tenantId : Nat) (name value : String)
  | writeOrders
deriving DecidableEq, Repr

abbrev Transaction := Tx World HttpError

abbrev Operation := Proc World Commit HttpError

/-! ## Settings -/

def getTenantValue (tenantId : Nat) (name : String) (w : World) : Option String :=
  (w.tenantSettings.findFirst fun s => s.ownerId = tenantId && s.name = name).map (·.value)

def numberPrefixKey : String := "invoice.numberPrefix"

/-- A capital letter, a digit, a slash or a hyphen. -/
def isPrefixCharacter (c : Char) : Bool := c.isUpper || c.isDigit || c = '/' || c = '-'

@[irreducible] def normalizeInvoicePrefix (raw : String) : Except HttpError String :=
  let v := JavaScript.toUpperCase (JavaScript.trim raw)
  if v.toList.all isPrefixCharacter && 1 ≤ v.toList.length && v.toList.length ≤ 16 then
    .ok v
  else
    .error (.badRequest
      "Invoice prefix must be 1–16 characters using A–Z, 0–9, \"-\" or \"/\"")

def upsertSetting (tenantId : Nat) (name value : String) : Transaction Checkout.Setting := do
  let stored ← Tx.read fun w =>
    w.tenantSettings.findFirst fun s => s.ownerId = tenantId && s.name = name
  match stored with
  | none => Db.tenantSettings.create fun id => { id, ownerId := tenantId, name, value }
  | some setting => Db.tenantSettings.update setting.id fun s => { s with value }

/-- `updateConfigurable` for the prefix of the invoice numbers. -/
def updateInvoicePrefix (tenantId : Nat) (raw : String) : Operation Unit := do
  match normalizeInvoicePrefix raw with
  | .error err => throw err
  | .ok value =>
      let _ ← Proc.transact (.updateSetting tenantId numberPrefixKey value)
        (upsertSetting tenantId numberPrefixKey value)
      return ()

/-! ## Numbers -/

def invoiceNumberCounterKey : String := "invoice_number_counter"

/-- The greatest value of the column. -/
def maxValue : Nat := 2147483647

def counterRow (tenantId : Nat) (w : World) : Option TenantCounter :=
  w.tenantCounters.findFirst fun c => c.tenantId = tenantId && c.name = invoiceNumberCounterKey

/-- How far a tenant's counter has come. -/
def counterValue (tenantId : Nat) (w : World) : Nat :=
  ((counterRow tenantId w).map (·.value)).getD 0

/-- Insert the tenant's counter, or raise the one that is there. -/
def allocate (tenantId : Nat) (lead : String) : Transaction InvoiceNumber := do
  let stored ← Tx.read (counterRow tenantId)
  match stored with
  | none =>
      let row ← Db.tenantCounters.create fun id =>
        { id, tenantId, name := invoiceNumberCounterKey, value := 1 }
      return ⟨lead, row.value⟩
  | some counter =>
      if maxValue < counter.value + 1 then
        throw (.other "integer out of range")
      else
        let row ← Db.tenantCounters.update counter.id fun c => { c with value := c.value + 1 }
        return ⟨lead, row.value⟩

/-! ## Making an invoice -/

def invoiceableStatuses : List OrderStatus :=
  [.paid, .confirmed, .inProduction, .shipped, .delivered, .refunded]

/-- What the transaction asks of the database. -/
inductive Statement where
  | allocate
  | create
  | commit
deriving DecidableEq, Repr

/-- A statement that fails, with its error, for a reason outside the tables. -/
abbrev Fault := Option (Statement × HttpError)

def reach (fault : Fault) (statement : Statement) : Transaction Unit :=
  match fault with
  | none => return ()
  | some (failing, err) => if failing = statement then throw err else return ()

def issueInvoice (order : Order) (lead : String) (seller : SellerSnapshot) (fault : Fault) :
    Transaction Invoice := do
  reach fault .allocate
  let invoiceNumber ← allocate order.tenantId lead
  reach fault .create
  let invoice ← Db.invoices.create fun id =>
    { id
      invoiceNumber
      orderId := order.id
      tenantId := order.tenantId
      currency := order.currency
      subtotal := order.subtotal
      discountAmount := order.discountAmount
      shippingFee := order.shippingFee
      taxableAmount := order.taxableAmount
      taxAmount := order.taxAmount
      grandTotal := order.total
      taxMode := order.taxMode
      taxRateSnapshot := order.taxRateSnapshot
      taxBreakdown := order.taxBreakdown
      sellerSnapshot := seller }
  reach fault .commit
  return invoice

def buildSellerSnapshot (tenantId : Nat) (w : World) : SellerSnapshot :=
  { legalName := (getTenantValue tenantId "invoice.sellerLegalName" w).getD ""
    address := (getTenantValue tenantId "invoice.sellerAddress" w).getD ""
    gstin := (getTenantValue tenantId "invoice.sellerGstin" w).getD ""
    state := (getTenantValue tenantId "invoice.sellerState" w).getD "" }

/-- The prefix of the next number: the setting, unless it is missing or blank. -/
def numberPrefix (tenantId : Nat) (w : World) : String :=
  (JavaScript.truthy ((getTenantValue tenantId numberPrefixKey w).map JavaScript.trim)).getD "INV-"

def createInvoice (order : Order) (fault : Fault) : Operation Invoice := do
  let lead ← Proc.read (numberPrefix order.tenantId)
  let seller ← Proc.read (buildSellerSnapshot order.tenantId)
  tryCatch (Proc.transact (.createInvoice order lead) (issueInvoice order lead seller fault))
    fun err => do
      if err.isUniqueConstraintViolation then
        let existing ← Proc.read fun w => w.invoices.findFirst (·.orderId = order.id)
        match existing with
        | some invoice => return invoice
        | none => throw err
      else throw err

/-- The customer or administrator who asks. -/
structure InvoiceActor where
  userId : Nat
  isAdmin : Bool
  tenantId : Option Nat
deriving DecidableEq, Repr

def InvoiceActor.maySee (actor : InvoiceActor) (order : Order) : Bool :=
  if actor.isAdmin then actor.tenantId = some order.tenantId else order.userId = actor.userId

def getInvoiceForOrder (orderId : Nat) (actor : InvoiceActor) (fault : Fault) :
    Operation Invoice := do
  let found ← Proc.read fun w =>
    (w.orders.get orderId).map fun order =>
      (order, w.invoices.findFirst (·.orderId = orderId))
  match found with
  | none => throw (.notFound "Order not found")
  | some (order, existing) =>
      if !actor.maySee order then
        throw (.notFound "Order not found")
      else match existing with
        | some invoice => return invoice
        | none =>
            if order.status ∉ invoiceableStatuses then
              throw (.conflict "An invoice is only available once the order has been paid")
            else
              createInvoice order fault

/-! ## Requests -/

/-- What is asked of the service. Orders belong to other services, which may write them as they
like, and so do the settings other than the prefix. -/
inductive Request where
  | getInvoiceForOrder (orderId : Nat) (actor : InvoiceActor) (fault : Fault)
  | updateInvoicePrefix (tenantId : Nat) (raw : String)
  | updateSetting (tenantId : Nat) (name value : String) (h : name ≠ numberPrefixKey)
  | writeOrders (orders : Table Order)

def overwriteOrders (orders : Table Order) : Transaction (Option Invoice) := do
  modify fun w : World => { w with orders }
  return none

def serve (_ : Nat) : Request → Operation (Option Invoice)
  | .getInvoiceForOrder orderId actor fault => some <$> getInvoiceForOrder orderId actor fault
  | .updateInvoicePrefix tenantId raw => (fun _ => none) <$> updateInvoicePrefix tenantId raw
  | .updateSetting tenantId name value _ =>
      (fun _ => none) <$> Proc.transact (.updateSetting tenantId name value)
        (upsertSetting tenantId name value)
  | .writeOrders orders => Proc.transact .writeOrders (overwriteOrders orders)

/-- Any process may act at any time. -/
abbrev InvoiceRun : Config World Request Commit HttpError (Option Invoice) →
    Config World Request Commit HttpError (Option Invoice) → Prop :=
  Run serve (fun _ _ => True) (fun _ _ => True)

end PrintForge.Invoices
