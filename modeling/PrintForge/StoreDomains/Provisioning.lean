import PrintForge.StoreDomains.Service

/-!
# The store-domain backfill

Rows of store domains that have no type yet get one, every store gets its platform subdomain, and
one tenant's primary store gets a custom domain. What the backfill cannot do for a store it reports:
a hostname belongs to one store, and slugs of different tenants may make the same one.
-/

namespace PrintForge.StoreDomains.Provisioning

open Relational JavaScript

structure Store where
  id : Nat
  tenantId : Nat
  slug : String
  isPrimary : Bool
deriving DecidableEq, Repr

/-- A tenant has a slug once, and at most one primary store. -/
instance : Schema Store where
  key s := s.id
  Clash a b := a.tenantId = b.tenantId ∧ (a.slug = b.slug ∨ a.isPrimary ∧ b.isPrimary)
  clash_decidable _ _ := inferInstanceAs (Decidable (_ ∧ (_ ∨ _ ∧ _)))
  clash_symm
    | ⟨htenant, .inl h⟩ => ⟨htenant.symm, .inl h.symm⟩
    | ⟨htenant, .inr h⟩ => ⟨htenant.symm, .inr h.symm⟩

structure PlatformConfig where
  id : Nat
  key : String
  value : String
deriving DecidableEq, Repr

instance : Schema PlatformConfig where
  key c := c.id
  Clash a b := a.key = b.key
  clash_decidable _ _ := inferInstanceAs (Decidable (_ = _))
  clash_symm := Eq.symm

structure World where
  stores : Table Store
  storeDomains : Table StoreDomain
  platformConfig : Table PlatformConfig

namespace Db

def storeDomains : Slot World StoreDomain where
  get w := w.storeDomains
  set t w := { w with storeDomains := t }

def platformConfig : Slot World PlatformConfig where
  get w := w.platformConfig
  set t w := { w with platformConfig := t }

end Db

abbrev Transaction (α : Type) := Tx World HttpError α

def tenant1CustomHostname : String := "www.printforge.world"

def storefrontResolutionModeKey : String := "storefront.domain_resolution_mode"

def defaultStorefrontResolutionMode : String := "legacy_single_store"

/-- What is reported and left as it is. -/
inductive Anomaly where
  | collision (storeId : Nat) (slug hostname : String) (holderId : Nat)
  | noPrimaryStore (tenantId : Nat)
  | hostnameHeld (holderId tenantId storeId : Nat)
  | otherMode (value : String)
deriving DecidableEq, Repr

def Anomaly.message : Anomaly → String
  | collision storeId slug hostname holderId =>
      "B-2 collision: store " ++ toString storeId ++ " (slug \"" ++ slug ++ "\") derives \"" ++
        hostname ++ "\", already held by store " ++ toString holderId ++
        " — not inserted, resolve the slug conflict manually (S-5)"
  | noPrimaryStore tenantId =>
      "B-3: tenant " ++ toString tenantId ++
        " has no primary Store — nothing registered (D11 expects exactly one)"
  | hostnameHeld holderId tenantId storeId =>
      "B-3: \"" ++ tenant1CustomHostname ++ "\" is already held by store " ++ toString holderId ++
        ", not tenant " ++ toString tenantId ++ "'s store " ++ toString storeId ++ " — not modified"
  | otherMode value =>
      "B-4: the row already exists with value \"" ++ value ++ "\" (not the expected \"" ++
        defaultStorefrontResolutionMode ++ "\") — left untouched"

/-- The stores that a report names. -/
def Anomaly.names : Anomaly → List Nat
  | collision storeId _ _ holderId => [storeId, holderId]
  | hostnameHeld holderId _ storeId => [holderId, storeId]
  | noPrimaryStore _ | otherMode _ => []

structure StepResult where
  step : String
  action : String
  affected : Nat
  anomalies : List Anomaly
deriving DecidableEq, Repr

/-! ## Hostnames -/

/-- Lower case, of any text. Where it is a host name, or the lower case of each character may stand
in one, it is the lower case of each character. -/
class LowerCasing where
  toLowerCase : List Char → List Char
  toLowerCase_host : ∀ text,
    (∀ c ∈ toLowerCase text, isHostChar c = true) ∨ (∀ c ∈ text, isHostChar (lowerCase c) = true) →
      toLowerCase text = text.map lowerCase

open LowerCasing

variable [LowerCasing]

def isUnderPlatformDomain (hostname platformDomain : String) : Bool :=
  let h := toLowerCase (trim hostname).toList
  let h := if h.getLast? = some '.' then h.dropLast else h
  h = platformDomain.toList || decide ('.' :: platformDomain.toList <:+ h)

def derivePlatformHostname (storeSlug platformDomain : String) : String :=
  String.ofList (toLowerCase (trim storeSlug).toList) ++ "." ++ platformDomain

def derivePlatformSubdomain (storeSlug platformStorefrontDomain : String) : Option String :=
  normaliseHost (some (storeSlug ++ "." ++ platformStorefrontDomain)) false

/-! ## Types -/

/-- The type that a hostname stands for. -/
def classify (platformDomain hostname : String) : StoreDomainType :=
  if isUnderPlatformDomain hostname platformDomain then .platformSubdomain else .custom

def classifyRows (platformDomain : String) : List StoreDomain → Transaction Nat
  | [] => return 0
  | row :: rows => do
      let count ← Db.storeDomains.updateMany (fun d => d.id = row.id && d.type = none)
        fun d => { d with type := some (classify platformDomain row.hostname) }
      let affected ← classifyRows platformDomain rows
      return count + affected

def backfillDomainTypes (platformDomain : String) : Transaction StepResult := do
  let rows ← Tx.read fun w => w.storeDomains.findMany (·.type = none)
  let affected ← classifyRows platformDomain rows
  return ⟨"B-1", "classify store_domains.type (CUSTOM unless under the platform domain)", affected,
    []⟩

/-! ## Platform subdomains -/

def isPlatformRowOf (store : Store) (d : StoreDomain) : Bool :=
  d.storeId = store.id && d.type = some .platformSubdomain

/-- The row that a store gets. -/
def platformRow (store : Store) (hostname : String) (isPrimary : Bool) (id : Nat) : StoreDomain :=
  { id
    storeId := store.id
    tenantId := store.tenantId
    hostname
    isPrimary
    verificationStatus := .verified
    verificationToken := none
    type := some .platformSubdomain
    verificationMethod := none
    tlsStatus := none }

/-- One turn of the loop: the number of rows inserted, and what is reported. -/
def provisionStore (platformDomain : String) (store : Store) :
    Transaction (Nat × List Anomaly) := do
  let existing ← Tx.read fun w => w.storeDomains.findFirst (isPlatformRowOf store)
  match existing with
  | some _ => return (0, [])
  | none =>
      let hostname := derivePlatformHostname store.slug platformDomain
      let holder ← Tx.read fun w => w.storeDomains.findFirst (·.hostname = hostname)
      match holder.filter (·.storeId ≠ store.id) with
      | some holder => return (0, [.collision store.id store.slug hostname holder.storeId])
      | none =>
          let primary ← Tx.read fun w => w.storeDomains.findFirst fun d =>
            d.storeId = store.id && d.isPrimary
          let _ ← Db.storeDomains.create (platformRow store hostname primary.isNone)
          return (1, [])

def provisionStores (platformDomain : String) : List Store → Transaction (Nat × List Anomaly)
  | [] => return (0, [])
  | store :: stores => do
      let (inserted, anomalies) ← provisionStore platformDomain store
      let (affected, others) ← provisionStores platformDomain stores
      return (inserted + affected, anomalies ++ others)

def backfillPlatformSubdomains (platformDomain : String) : Transaction StepResult := do
  let stores ← Tx.read fun w => w.stores.rows
  let (affected, anomalies) ← provisionStores platformDomain stores
  return ⟨"B-2", "insert a PLATFORM_SUBDOMAIN row for every store lacking one", affected, anomalies⟩

/-! ## The custom domain of one tenant -/

def registerAction : String :=
  "register " ++ tenant1CustomHostname ++ " as Tenant #1's primary custom domain"

def demoteAll (storeId : Nat) : Transaction Nat :=
  Db.storeDomains.updateMany (fun d => d.storeId = storeId && d.isPrimary)
    (fun d => { d with isPrimary := false }) (StoreDomain.key_mark false)

def customRow (tenantId storeId id : Nat) : StoreDomain :=
  { id
    storeId
    tenantId
    hostname := tenant1CustomHostname
    isPrimary := true
    verificationStatus := .verified
    verificationToken := none
    type := some .custom
    verificationMethod := none
    tlsStatus := some .issued }

def backfillTenant1CustomDomain (tenantId : Nat) : Transaction StepResult := do
  let store ← Tx.read fun w => w.stores.findFirst fun s => s.tenantId = tenantId && s.isPrimary
  match store with
  | none => return ⟨"B-3", registerAction, 0, [.noPrimaryStore tenantId]⟩
  | some store =>
      let existing ← Tx.read fun w =>
        w.storeDomains.findFirst (·.hostname = tenant1CustomHostname)
      match existing with
      | none =>
          let _ ← demoteAll store.id
          let _ ← Db.storeDomains.create (customRow tenantId store.id)
          return ⟨"B-3", registerAction, 1, []⟩
      | some existing =>
          if existing.storeId ≠ store.id then
            return ⟨"B-3", registerAction, 0, [.hostnameHeld existing.storeId tenantId store.id]⟩
          else if existing.isPrimary then
            return ⟨"B-3", registerAction, 0, []⟩
          else do
            let _ ← demoteAll store.id
            let affected ← Db.storeDomains.updateMany
              (fun d => d.id = existing.id && !d.isPrimary) (fun d => { d with isPrimary := true })
              (StoreDomain.key_mark true)
            return ⟨"B-3", registerAction, affected, []⟩

/-! ## The resolution mode -/

def backfillResolutionModeRow : Transaction StepResult := do
  let action := "insert " ++ storefrontResolutionModeKey ++ " = " ++ defaultStorefrontResolutionMode
  let existing ← Tx.read fun w =>
    w.platformConfig.findFirst (·.key = storefrontResolutionModeKey)
  match existing with
  | some existing =>
      return ⟨"B-4", action, 0, if existing.value = defaultStorefrontResolutionMode then []
        else [.otherMode existing.value]⟩
  | none =>
      let _ ← Db.platformConfig.create fun id =>
        { id, key := storefrontResolutionModeKey, value := defaultStorefrontResolutionMode }
      return ⟨"B-4", action, 1, []⟩

def runAllSteps (tenantId : Nat) (platformDomain : String) : Transaction (List StepResult) := do
  let types ← backfillDomainTypes platformDomain
  let subdomains ← backfillPlatformSubdomains platformDomain
  let custom ← backfillTenant1CustomDomain tenantId
  let mode ← backfillResolutionModeRow
  return [types, subdomains, custom, mode]

end PrintForge.StoreDomains.Provisioning
