import PrintForge.Access.Host
import PrintForge.Checkout.Service
import PrintForge.Checkout.Tax
import PrintForge.Invoices.Service

/-!
# Settings

An administrator may change twelve settings, each of which belongs either to the tenant or to its
primary store, and has a check of its own. What passes the check is stored in the form that the
check has given it; what has not been set has a default. Two tables hold them, and the service that
places orders reads them there.

Reading decimal numbers belongs to a library, and is a parameter.
-/

namespace PrintForge.Settings

open Relational Concurrent Numeric JavaScript Checkout

/-! ## Definitions -/

inductive AdminSettingKind where
  | money
  | text
  | boolean
  | enum
  | percent
deriving DecidableEq, Repr

inductive SettingOwnership where
  | tenant
  | store
deriving DecidableEq, Repr

structure AdminSettingDefinition where
  key : String
  kind : AdminSettingKind
  ownership : SettingOwnership
  default : String
  options : Option (List String)
  pendingClientInput : Bool
deriving DecidableEq, Repr

def adminSettableTaxModes : List String := ["INCLUSIVE"]

def adminSettingDefinitions : List AdminSettingDefinition :=
  [⟨"storeName", .text, .store, "PrintForge", none, false⟩,
    ⟨"storeAdminName", .text, .store, "", none, false⟩,
    ⟨shippingFeeSettingKey, .money, .store, "0.00", none, false⟩,
    ⟨"announcement_text", .text, .store, "", none, false⟩,
    ⟨"tax.enabled", .boolean, .tenant, "false", none, false⟩,
    ⟨"tax.pricingMode", .enum, .tenant, "INCLUSIVE", some adminSettableTaxModes, false⟩,
    ⟨"tax.ratePercent", .percent, .tenant, "0.00", none, true⟩,
    ⟨Invoices.numberPrefixKey, .text, .tenant, "INV-", none, true⟩,
    ⟨"invoice.sellerLegalName", .text, .tenant, "", none, true⟩,
    ⟨"invoice.sellerAddress", .text, .tenant, "", none, true⟩,
    ⟨"invoice.sellerGstin", .text, .tenant, "", none, true⟩,
    ⟨"invoice.sellerState", .text, .tenant, "", none, true⟩]

def getAdminSettingDefinition (key : String) : Option AdminSettingDefinition :=
  adminSettingDefinitions.find? (·.key = key)

/-! ## Checks -/

abbrev Normalize := String → Except HttpError String

def maxShippingFeeRupees : Nat := 100000

def maxAnnouncementLength : Nat := 200

def maxNameLength : Nat := 200

def maxAddressLength : Nat := 500

def maxStoreNameLength : Nat := 60

def maxStoreAdminNameLength : Nat := 120

section

variable (decimalOf : String → DecimalText)

def normalizeMoney : Normalize := fun raw =>
  let trimmed := trim raw
  if trimmed = "" then
    throw (.badRequest "A shipping fee is required (use 0 for free shipping)")
  else if (percentPattern trimmed.toList).isNone then
    throw (.badRequest "Shipping fee must be a non-negative amount with at most 2 decimal places")
  else
    match decimalOf trimmed with
    | .invalid => throw (.badRequest "Shipping fee is not a valid amount")
    | .notFinite => throw (.badRequest s!"Shipping fee cannot exceed {maxShippingFeeRupees}")
    | .finite decimal =>
        if decimal.isNegative then
          throw (.badRequest "Shipping fee cannot be negative")
        else if decimal.greaterThan maxShippingFeeRupees then
          throw (.badRequest s!"Shipping fee cannot exceed {maxShippingFeeRupees}")
        else
          return paiseToDecimalString (decimal.toDecimalPlaces 2)

def boundedText (max : Nat) (label : String) : Normalize := fun raw =>
  let trimmed := trim raw
  if max < length trimmed then
    throw (.badRequest s!"{label} cannot exceed {max} characters")
  else
    return trimmed

def normalizeStoreName : Normalize := fun raw =>
  let trimmed := trim raw
  if trimmed = "" then
    throw (.badRequest "Store name is required")
  else if maxStoreNameLength < length trimmed then
    throw (.badRequest s!"Store name cannot exceed {maxStoreNameLength} characters")
  else
    return trimmed

/-- Only letters of ASCII become one of those in question. -/
def normalizeBoolean : Normalize := fun raw =>
  let v := String.ofList ((trim raw).toList.map lowerCase)
  if v ≠ "true" ∧ v ≠ "false" then
    throw (.badRequest "Value must be \"true\" or \"false\"")
  else
    return v

/-- The characters of a text, one by one. -/
def matchesClasses : List (Char → Bool) → List Char → Bool
  | [], [] => true
  | p :: ps, c :: cs => p c && matchesClasses ps cs
  | _, _ => false

def isCapitalOrDigit (c : Char) : Bool := c.isUpper || c.isDigit

/-- `^[0-9]{2}[A-Z]{5}[0-9]{4}[A-Z][A-Z0-9]Z[A-Z0-9]$` -/
def gstinPattern : List (Char → Bool) :=
  List.replicate 2 Char.isDigit ++ List.replicate 5 Char.isUpper ++ List.replicate 4 Char.isDigit ++
    [Char.isUpper, isCapitalOrDigit, (· = 'Z'), isCapitalOrDigit]

def normalizeGstin : Normalize := fun raw =>
  let v := toUpperCase (trim raw)
  if v = "" then
    return ""
  else if matchesClasses gstinPattern v.toList = false then
    throw (.badRequest
      "GSTIN must be 15 characters in the standard format (e.g. 22AAAAA0000A1Z5)")
  else
    return v

def normalizeTaxPricingMode : Normalize := fun raw =>
  let v := trim raw
  if v ∈ adminSettableTaxModes then
    return v
  else if v = "EXCLUSIVE" then
    throw (.badRequest ("Tax-exclusive pricing is not available: it would increase customer and " ++
      "Razorpay totals and requires explicit business confirmation of inclusive-vs-exclusive " ++
      "pricing. Contact engineering to enable it."))
  else
    throw (.badRequest ("Value must be one of: " ++ String.intercalate ", " adminSettableTaxModes))

def normalizers : List (String × Normalize) :=
  [(shippingFeeSettingKey, normalizeMoney decimalOf),
    ("announcement_text", boundedText maxAnnouncementLength "Announcement text"),
    ("storeName", normalizeStoreName),
    ("storeAdminName", boundedText maxStoreAdminNameLength "Store admin name"),
    ("tax.enabled", normalizeBoolean),
    ("tax.pricingMode", normalizeTaxPricingMode),
    ("tax.ratePercent", normalizePercent decimalOf),
    (Invoices.numberPrefixKey, Invoices.normalizeInvoicePrefix),
    ("invoice.sellerLegalName", boundedText maxNameLength "Legal name"),
    ("invoice.sellerAddress", boundedText maxAddressLength "Address"),
    ("invoice.sellerGstin", normalizeGstin),
    ("invoice.sellerState", boundedText maxNameLength "State")]

def notAdministrable (key : String) : HttpError :=
  .badRequest s!"\"{key}\" is not an administrable setting"

/-- Only keys that have a definition are asked for. -/
def normalizeAdminSettingValue (key raw : String) : Except HttpError String :=
  match (normalizers decimalOf).lookup key with
  | none => throw (notAdministrable key)
  | some normalize => normalize raw

end

/-! ## Tables -/

structure World where
  stores : Table PaymentAccounts.Store
  storeSettings : Table Setting
  tenantSettings : Table Setting

namespace Db

def storeSettings : Slot World Setting where
  get w := w.storeSettings
  set t w := { w with storeSettings := t }

def tenantSettings : Slot World Setting where
  get w := w.tenantSettings
  set t w := { w with tenantSettings := t }

end Db

inductive Commit where
  | updateTenantSetting (tenantId : Nat) (key value : String)
  | updateStoreSetting (storeId : Nat) (key value : String)
  | writeStores
deriving DecidableEq, Repr

abbrev Transaction := Tx World HttpError

abbrev Operation := Proc World Commit HttpError

/-! ## The service -/

structure AdminSettingView where
  definition : AdminSettingDefinition
  value : String
deriving DecidableEq, Repr

def newSetting (ownerId : Nat) (name value : String) (id : Nat) : Setting :=
  { id, ownerId, name, value }

def setValue (value : String) (setting : Setting) : Setting := { setting with value }

def upsert (T : Slot World Setting) (ownerId : Nat) (name value : String) :
    Transaction Setting := do
  let stored ← Tx.read fun w => (T.get w).findFirst fun s => s.ownerId = ownerId && s.name = name
  stored.elim (T.create (newSetting ownerId name value))
    fun setting => T.update setting.id (setValue value)

def resolvePrimaryStoreId (tenantId : Nat) : Operation Nat := do
  let store ← Proc.read fun w => w.stores.findFirst fun s => s.tenantId = tenantId && s.isPrimary
  match store with
  | none => throw (.notFound "This tenant has no primary store configured")
  | some store => return store.id

/-- The values of these settings that an owner has stored. -/
def manyValues (settings : Table Setting) (ownerId : Nat) (keys : List String) :
    List (String × String) :=
  (settings.findMany fun s => s.ownerId = ownerId && keys.contains s.name).map
    fun s => (s.name, s.value)

def getManyTenantValues (tenantId : Nat) (keys : List String) :
    Operation (List (String × String)) :=
  Proc.read fun w => manyValues w.tenantSettings tenantId keys

def getManyStoreValuesForTenant (tenantId : Nat) (keys : List String) :
    Operation (List (String × String)) := do
  let storeId ← resolvePrimaryStoreId tenantId
  Proc.read fun w => manyValues w.storeSettings storeId keys

def keysOf (ownership : SettingOwnership) : List String :=
  (adminSettingDefinitions.filter (·.ownership = ownership)).map (·.key)

/-- The two tables are read one after the other, where the code waits for both at once. -/
def listConfigurable (tenantId : Nat) : Operation (List AdminSettingView) := do
  let tenantValues ← getManyTenantValues tenantId (keysOf .tenant)
  let storeValues ← getManyStoreValuesForTenant tenantId (keysOf .store)
  return adminSettingDefinitions.map fun definition =>
    ⟨definition, ((storeValues ++ tenantValues).lookup definition.key).getD definition.default⟩

def updateConfigurable (decimalOf : String → DecimalText) (tenantId : Nat) (key rawValue : String) :
    Operation AdminSettingView :=
  match getAdminSettingDefinition key with
  | none => throw (notAdministrable key)
  | some definition =>
      match normalizeAdminSettingValue decimalOf key rawValue with
      | .error err => throw err
      | .ok value =>
          match definition.ownership with
          | .tenant => do
              let _ ← Proc.transact (.updateTenantSetting tenantId key value)
                (upsert Db.tenantSettings tenantId key value)
              return ⟨definition, value⟩
          | .store => do
              let storeId ← resolvePrimaryStoreId tenantId
              let _ ← Proc.transact (.updateStoreSetting storeId key value)
                (upsert Db.storeSettings storeId key value)
              return ⟨definition, value⟩

/-! ## Requests -/

/-- Stores belong to another service, which may write them as it likes. -/
inductive Request where
  | listConfigurable (tenantId : Nat)
  | updateConfigurable (tenantId : Nat) (key rawValue : String)
  | writeStores (stores : Table PaymentAccounts.Store)

def overwriteStores (stores : Table PaymentAccounts.Store) :
    Transaction (List AdminSettingView) := do
  modify fun w : World => { w with stores }
  return []

def serve (decimalOf : String → DecimalText) (_ : Nat) :
    Request → Operation (List AdminSettingView)
  | .listConfigurable tenantId => listConfigurable tenantId
  | .updateConfigurable tenantId key rawValue =>
      (fun view => [view]) <$> updateConfigurable decimalOf tenantId key rawValue
  | .writeStores stores => Proc.transact .writeStores (overwriteStores stores)

abbrev SettingsConfig := Config World Request Commit HttpError (List AdminSettingView)

/-- Any process may act at any time. -/
abbrev Reaches (decimalOf : String → DecimalText) : SettingsConfig → SettingsConfig → Prop :=
  Run (serve decimalOf) (fun _ _ => True) fun _ _ => True

end PrintForge.Settings
