import PrintForge.Access.Host
import PrintForge.Common.Basic
import PrintForge.Concurrent.Process
import PrintForge.PaymentAccounts.Service

/-!
# Store domains

A merchant adds a hostname, proves by a DNS record that it is theirs and may then be served
under it. The platform may revoke a verified hostname, and may put it back by an override or by
a check of its own. Revocation is a status of the row.

Answers of DNS and of the hosting provider are part of the request. Whether the lock of a
verification is free is too, since a transaction here is one action. Which hostnames the
provider holds is part of the state: it changes by calls that lie outside every transaction.
-/

namespace PrintForge.StoreDomains

open Relational Concurrent JavaScript

inductive DomainVerificationStatus where
  | pending
  | verified
  | failed
deriving DecidableEq, Repr

namespace DomainVerificationStatus

def name : DomainVerificationStatus → String
  | pending => "PENDING"
  | verified => "VERIFIED"
  | failed => "FAILED"

instance : ToString DomainVerificationStatus := ⟨name⟩

end DomainVerificationStatus

inductive StoreDomainType where
  | platformSubdomain
  | custom
deriving DecidableEq, Repr

inductive DomainVerificationMethod where
  | dnsTxt
  | cname
deriving DecidableEq, Repr

inductive TlsStatus where
  | pending
  | issued
  | error
deriving DecidableEq, Repr

namespace TlsStatus

def name : TlsStatus → String
  | pending => "PENDING"
  | issued => "ISSUED"
  | error => "ERROR"

instance : ToString TlsStatus := ⟨name⟩

end TlsStatus

structure StoreDomain where
  id : Nat
  storeId : Nat
  tenantId : Nat
  hostname : String
  isPrimary : Bool
  verificationStatus : DomainVerificationStatus
  verificationToken : Option String
  type : Option StoreDomainType
  verificationMethod : Option DomainVerificationMethod
  tlsStatus : Option TlsStatus
deriving DecidableEq, Repr

/-- A hostname is in use once, and a store has at most one primary domain. -/
instance : Schema StoreDomain where
  key d := d.id
  Clash a b := a.hostname = b.hostname ∨ a.storeId = b.storeId ∧ a.isPrimary ∧ b.isPrimary
  clash_decidable _ _ := inferInstanceAs (Decidable (_ ∨ _ ∧ _ ∧ _))
  clash_symm
    | .inl h => .inl h.symm
    | .inr h => .inr ⟨h.1.symm, h.2.2, h.2.1⟩

/-- The tables, and the hostnames that are attached at the hosting provider. -/
structure World where
  stores : Table PaymentAccounts.Store
  storeDomains : Table StoreDomain
  hosted : List String

namespace Db

def storeDomains : Slot World StoreDomain where
  get w := w.storeDomains
  set t w := { w with storeDomains := t }

end Db

/-- What comes of asking the provider to let a hostname go: it does, it does not, or it does and
the answer is lost. -/
inductive ReleaseAnswer where
  | released
  | refused
  | unanswered
deriving DecidableEq, Repr

/-- The writes. A removal is listed with the platform subdomain it means to make primary. -/
inductive Commit where
  | inspect
  | add
  | platformSubdomain
  | verify (id : Nat)
  | setPrimary (id : Nat)
  | attach
  | detach (answer : ReleaseAnswer)
  | remove (id : Nat) (fallbackId : Option Nat)
  | tls (id : Nat) (tlsStatus : TlsStatus)
  | platform (id : Nat)
  | platformRevoke (id : Nat)
  | platformRemove (id : Nat) (fallbackId : Option Nat)
deriving DecidableEq, Repr

abbrev Transaction := Tx World HttpError

abbrev Service := Proc World Commit HttpError

/-- What the process is configured with. -/
structure Settings where
  platformStorefrontDomain : Option String
  reservedHosts : List String
  customDomainCnameTarget : Option String
deriving DecidableEq, Repr

/-! ## The DNS check -/

inductive DnsLookupError where
  | timeout
  | other
deriving DecidableEq, Repr

abbrev DnsAnswer := Except DnsLookupError (List String)

inductive VerificationFailureReason where
  | txtRecordNotFound
  | txtValueMismatch
  | cnameRecordNotFound
  | cnameTargetMismatch
  | cnameTargetNotConfigured
  | dnsTimeout
  | dnsError
deriving DecidableEq, Repr

/-- Nothing, where the check has passed. -/
abbrev VerificationOutcome := Option VerificationFailureReason

def normaliseDnsTarget (value : String) : String :=
  let name := (trim value).toList.map lowerCase
  .ofList (if name.getLast? = some '.' then name.dropLast else name)

def evaluateTxt (records : List String) (token : String) : VerificationOutcome :=
  if records.isEmpty then
    some .txtRecordNotFound
  else if records.any fun r => trim r = token then
    none
  else
    some .txtValueMismatch

def evaluateCname (records : List String) (target : String) : VerificationOutcome :=
  if records.isEmpty then
    some .cnameRecordNotFound
  else if records.any fun r => normaliseDnsTarget r = normaliseDnsTarget target then
    none
  else
    some .cnameTargetMismatch

def lookupFailure : DnsLookupError → VerificationFailureReason
  | .timeout => .dnsTimeout
  | .other => .dnsError

/-- `StoreDomainVerificationCheck.check`, of what DNS answers. -/
def check (settings : Settings) (domain : StoreDomain) (answer : DnsAnswer) :
    VerificationOutcome :=
  match domain.verificationMethod, settings.customDomainCnameTarget, answer with
  | some .cname, none, _ => some .cnameTargetNotConfigured
  | some .cname, some _, .error e => some (lookupFailure e)
  | some .cname, some target, .ok records => evaluateCname records target
  | some .dnsTxt, _, .error e | none, _, .error e => some (lookupFailure e)
  | some .dnsTxt, _, .ok records | none, _, .ok records =>
      evaluateTxt records (domain.verificationToken.getD "")

/-! ## The hosting provider -/

inductive DomainCertificateState where
  | none
  | pending
  | issued
  | error
deriving DecidableEq, Repr

structure DomainHostingStatus where
  configured : Bool
  certificate : DomainCertificateState
deriving DecidableEq, Repr

/-- Nothing, where the provider refuses. -/
abbrev HostingAnswer := Option DomainHostingStatus

def mapCertificateToTlsStatus (status : DomainHostingStatus) : TlsStatus :=
  if status.certificate = .error then
    .error
  else if status.configured && status.certificate = .issued then
    .issued
  else
    .pending

def tlsStatusOf (answer : HostingAnswer) : TlsStatus :=
  match answer with
  | none => .error
  | some status => mapCertificateToTlsStatus status

/-! ## What is served -/

def isCustom (domain : StoreDomain) : Bool := domain.type.getD .custom = .custom

/-- The gate of the resolver: a custom domain has to be verified and to have its
certificate. -/
def passesServingGate (domain : StoreDomain) : Bool :=
  !isCustom domain ||
    (domain.verificationStatus = .verified && domain.tlsStatus.getD .pending = .issued)

/-- The resolver finds a row for the host and serves it. -/
def serves (host : String) (w : World) : Bool :=
  (w.storeDomains.findFirst (·.hostname = host)).any passesServingGate

/-! ## Adding a domain -/

structure AddStoreDomainDto where
  hostname : String
  verificationMethod : DomainVerificationMethod
deriving DecidableEq, Repr

@[irreducible] def validateNewHostname (settings : Settings) (raw : String) : Service String :=
  match normaliseHost (some raw) false with
  | none => throw (.badRequest "hostname is not a valid domain name")
  | some hostname =>
      if settings.platformStorefrontDomain.any fun domain =>
          hostname = domain || hostname.endsWith ("." ++ domain) then
        throw (.badRequest "hostname may not be under the platform storefront domain")
      else if settings.reservedHosts.contains hostname then
        throw (.badRequest "hostname is reserved")
      else
        return hostname

def assertMethodAvailable (settings : Settings) (method : DomainVerificationMethod) :
    Service Unit :=
  if method = .cname && settings.customDomainCnameTarget.isNone then
    throw (.badRequest "CNAME verification is not available on this platform — use DNS_TXT")
  else
    return ()

def resolvePrimaryStoreId (tenantId : Nat) : Service Nat := do
  let store ← Proc.read fun w => w.stores.findFirst fun s => s.tenantId = tenantId && s.isPrimary
  match store with
  | none => throw (.notFound "This tenant has no primary store configured")
  | some store => return store.id

/-- What a lost race for a unique index is turned into. -/
def onConflict {α : Type} (message : String) (p : Service α) : Service α :=
  tryCatch p fun err =>
    if err.isUniqueConstraintViolation then throw (.conflict message) else throw err

def add (settings : Settings) (tenantId : Nat) (dto : AddStoreDomainDto)
    (verificationToken : String) : Service StoreDomain := do
  let hostname ← validateNewHostname settings dto.hostname
  assertMethodAvailable settings dto.verificationMethod
  let storeId ← resolvePrimaryStoreId tenantId
  onConflict "This hostname is already in use"
    (Proc.transact .add (Db.storeDomains.create fun id =>
      { id, storeId, tenantId, hostname, isPrimary := false, verificationStatus := .pending
        verificationToken := some verificationToken, type := some .custom
        verificationMethod := some dto.verificationMethod, tlsStatus := some .pending }))

/-! ## Verifying a domain -/

def domainNotFound : HttpError := .notFound "Domain not found"

def loadOwnDomain (tenantId domainId : Nat) : Transaction StoreDomain := do
  let row ← Tx.read fun w => (w.storeDomains.get domainId).filter (·.tenantId = tenantId)
  match row with
  | none => throw domainNotFound
  | some row => return row

def assertUnlocked (locked : Bool) : Transaction Unit :=
  if locked then return ()
  else throw (.conflict "A verification for this domain is already in progress")

def assertCustom (domain : StoreDomain) (message : String) : Transaction Unit :=
  if isCustom domain then return () else throw (.conflict message)

/-- A check that has passed verifies the row; one that has failed leaves it as it is. -/
def recordCheck (row : StoreDomain) (outcome : VerificationOutcome) : Transaction StoreDomain :=
  if outcome.isNone then
    Db.storeDomains.update row.id fun d => { d with verificationStatus := .verified }
  else
    Db.storeDomains.update row.id fun d => d

/-- The transaction of `verify`. There is no row where the platform has revoked the domain:
that refusal is recorded before it is reported. -/
def verifyRow (settings : Settings) (tenantId domainId : Nat) (answer : DnsAnswer)
    (locked : Bool) : Transaction (Option StoreDomain) := do
  assertUnlocked locked
  let row ← loadOwnDomain tenantId domainId
  if row.type = some .platformSubdomain then
    throw (.conflict "Platform subdomains are always-on and do not require verification")
  else if row.verificationStatus = .failed then
    return none
  else if row.verificationStatus = .verified then
    throw (.conflict "This domain is already verified")
  else
    some <$> recordCheck row (check settings row answer)

def updateTls (domainId : Nat) (tlsStatus : TlsStatus) : Transaction StoreDomain :=
  Db.storeDomains.update domainId fun d => { d with tlsStatus := some tlsStatus }

/-- The provider attaches the hostname, unless it refuses. -/
def addDomain (hostname : String) (hosting : HostingAnswer) : Service Unit :=
  Proc.transact .attach <| modify fun w =>
    { w with hosted := if hosting.isSome then hostname :: w.hosted else w.hosted }

/-- Attach a verified domain and note the certificate down. -/
def attachToHostingProvider (row : StoreDomain) (hosting : HostingAnswer) :
    Service StoreDomain := do
  addDomain row.hostname hosting
  if some (tlsStatusOf hosting) = row.tlsStatus then
    return row
  else
    Proc.transact (.tls row.id (tlsStatusOf hosting)) (updateTls row.id (tlsStatusOf hosting))

def revokedMessage : String :=
  "DOMAIN_REVOKED_BY_PLATFORM: this domain was revoked by the platform and cannot be " ++
    "re-verified by the merchant — contact support"

def verify (settings : Settings) (tenantId domainId : Nat) (answer : DnsAnswer) (locked : Bool)
    (hosting : HostingAnswer) : Service StoreDomain := do
  let updated ← Proc.transact (.verify domainId)
    (verifyRow settings tenantId domainId answer locked)
  match updated with
  | none => throw (.conflict revokedMessage)
  | some row =>
      if row.verificationStatus = .verified then
        attachToHostingProvider row hosting
      else
        return row

/-! ## Primary domain, removal and certificates -/

def assertServeable (row : StoreDomain) : Transaction Unit :=
  if !isCustom row then
    return ()
  else if row.verificationStatus ≠ .verified then
    throw (.conflict s!"This domain is not verified (status: {row.verificationStatus}) — verify it before making it primary")
  else if row.tlsStatus.getD .pending ≠ .issued then
    throw (.conflict s!"This domain has no issued certificate (TLS status: {row.tlsStatus.getD .pending}) — refresh its TLS status once DNS has propagated")
  else
    return ()

def assertNotPrimary (row : StoreDomain) : Transaction Unit :=
  if row.isPrimary then
    throw (.conflict "This domain is already the primary domain")
  else
    return ()

theorem StoreDomain.key_mark (isPrimary : Bool) (d : StoreDomain) :
    Schema.key { d with isPrimary } = Schema.key d := rfl

/-- Take the mark off the store's primary domain, if there is one. -/
def clearPrimary (storeId : Nat) : Transaction Unit := do
  let previous ← Tx.read fun w =>
    w.storeDomains.findFirst fun d => d.storeId = storeId && d.isPrimary
  match previous with
  | none => return ()
  | some previous =>
      let _ ← Db.storeDomains.update previous.id fun d => { d with isPrimary := false }
      return ()

def makePrimary (tenantId domainId : Nat) : Transaction StoreDomain := do
  let row ← loadOwnDomain tenantId domainId
  assertServeable row
  assertNotPrimary row
  clearPrimary row.storeId
  Db.storeDomains.update row.id fun d => { d with isPrimary := true }

def primaryConflict : String := "Another domain became primary concurrently — retry"

def setPrimary (tenantId domainId : Nat) : Service StoreDomain :=
  onConflict primaryConflict (Proc.transact (.setPrimary domainId) (makePrimary tenantId domainId))

/-- The platform subdomain that takes over from a primary domain. -/
def fallbackOf (row : StoreDomain) (message : String) : Transaction (Option Nat) :=
  if row.isPrimary then do
    let fallback ← Tx.read fun w => w.storeDomains.findFirst fun d =>
      d.storeId = row.storeId && d.type = some .platformSubdomain && d.id ≠ row.id
    match fallback with
    | none => throw (.conflict message)
    | some fallback => return some fallback.id
  else
    return none

def onlyPrimaryMessage : String :=
  "This is the store's only primary domain and it has no platform subdomain to fall back to — set another verified domain as primary first"

/-- What a removal sets out to do: delete this row, and make that one primary. -/
structure RemovalPlan where
  row : StoreDomain
  fallbackId : Option Nat
deriving DecidableEq, Repr

def planRemoval (tenantId domainId : Nat) : Transaction RemovalPlan := do
  let row ← loadOwnDomain tenantId domainId
  assertCustom row "Platform subdomains cannot be removed"
  let fallbackId ← fallbackOf row onlyPrimaryMessage
  return { row, fallbackId }

def promote (fallbackId : Option Nat) : Transaction Unit :=
  match fallbackId with
  | none => return ()
  | some fallbackId => do
      let _ ← Db.storeDomains.update fallbackId fun d => { d with isPrimary := true }
      return ()

/-- The transaction that deletes the row, once it is found again by `load`. -/
def deleteRow (load : Transaction StoreDomain) (fallbackId : Option Nat) :
    Transaction StoreDomain := do
  let row ← load
  let _ ← Db.storeDomains.deleteMany (·.id = row.id)
  promote fallbackId
  return row

def providerRefused : HttpError :=
  .other "The hosting provider could not release this domain right now — nothing was changed; try again"

/-- The provider detaches the hostname, unless it refuses. -/
def removeDomain (hostname : String) (answer : ReleaseAnswer) : Service Unit := do
  Proc.transact (.detach answer) <| modify fun w =>
    { w with hosted := if answer = .refused then w.hosted else w.hosted.filter (· ≠ hostname) }
  if answer = .released then return () else throw providerRefused

def remove (tenantId domainId : Nat) (answer : ReleaseAnswer) : Service StoreDomain := do
  let plan ← Proc.transact .inspect (planRemoval tenantId domainId)
  removeDomain plan.row.hostname answer
  onConflict primaryConflict (Proc.transact (.remove domainId plan.fallbackId)
    (deleteRow (loadOwnDomain tenantId domainId) plan.fallbackId))

def loadForTls (tenantId domainId : Nat) : Transaction StoreDomain := do
  let row ← loadOwnDomain tenantId domainId
  assertCustom row "Platform subdomains are covered by the platform wildcard certificate and have no TLS status to refresh"
  return row

def refreshTls (tenantId domainId : Nat) (hosting : HostingAnswer) : Service StoreDomain := do
  let row ← Proc.transact .inspect (loadForTls tenantId domainId)
  Proc.transact (.tls row.id (tlsStatusOf hosting)) (updateTls row.id (tlsStatusOf hosting))

/-! ## The platform -/

namespace Platform

def loadDomain (domainId : Nat) : Transaction StoreDomain := do
  let row ← Tx.read (·.storeDomains.get domainId)
  match row with
  | none => throw domainNotFound
  | some row => return row

def loadCustomDomain (domainId : Nat) : Transaction StoreDomain := do
  let row ← loadDomain domainId
  assertCustom row "Platform subdomains are always-on and carry no verification state"
  return row

/-- Change the status, unless it has changed meanwhile. -/
def transition (row : StoreDomain) (target : DomainVerificationStatus) :
    Transaction StoreDomain := do
  let count ← Db.storeDomains.updateMany
    (fun d => d.id = row.id && d.verificationStatus = row.verificationStatus)
    fun d => { d with verificationStatus := target }
  if count ≠ 1 then
    throw (.conflict "Domain verification status changed concurrently — retry")
  else
    loadDomain row.id

def revoke (domainId : Nat) : Transaction StoreDomain := do
  let existing ← loadCustomDomain domainId
  if existing.verificationStatus ≠ .verified then
    throw (.conflict s!"Domain is not VERIFIED (current status: {existing.verificationStatus}) — only a VERIFIED domain can be revoked")
  else
    transition existing .failed

def override (domainId : Nat) : Transaction StoreDomain := do
  let existing ← loadCustomDomain domainId
  if existing.verificationStatus = .verified then
    throw (.conflict "This domain is already verified")
  else
    transition existing .verified

def reverify (settings : Settings) (domainId : Nat) (answer : DnsAnswer) (locked : Bool) :
    Transaction StoreDomain := do
  assertUnlocked locked
  let existing ← loadCustomDomain domainId
  if existing.verificationStatus = .verified then
    throw (.conflict "This domain is already verified")
  else
    recordCheck existing (check settings existing answer)

def planRemoval (domainId : Nat) : Transaction RemovalPlan := do
  let row ← loadCustomDomain domainId
  let fallbackId ← fallbackOf row "This is the store's only primary domain and it has no platform subdomain to fall back to — removing it would leave the store with no canonical domain"
  return { row, fallbackId }

def remove (domainId : Nat) (answer : ReleaseAnswer) : Service StoreDomain := do
  let plan ← Proc.transact .inspect (planRemoval domainId)
  removeDomain plan.row.hostname answer
  Proc.transact (.platformRemove domainId plan.fallbackId)
    (deleteRow (loadDomain domainId) plan.fallbackId)

end Platform

/-! ## Platform subdomains -/

def derivePlatformSubdomain (storeSlug platformStorefrontDomain : String) : Option String :=
  normaliseHost (some (storeSlug ++ "." ++ platformStorefrontDomain)) false

inductive EnsurePlatformSubdomainResult where
  | created (row : StoreDomain)
  | existing (row : StoreDomain)
  | skipped
deriving DecidableEq, Repr

def EnsurePlatformSubdomainResult.row : EnsurePlatformSubdomainResult → Option StoreDomain
  | created row | existing row => some row
  | skipped => none

/-- The row of a new platform subdomain: verified, and primary unless the store has a primary
domain. -/
def createSubdomain (storeId tenantId : Nat) (hostname : String) :
    Transaction EnsurePlatformSubdomainResult := do
  let currentPrimary ← Tx.read fun w =>
    w.storeDomains.findFirst fun d => d.storeId = storeId && d.isPrimary
  .created <$> Db.storeDomains.create fun id =>
    { id, storeId, tenantId, hostname, isPrimary := currentPrimary.isNone
      verificationStatus := .verified, verificationToken := none
      type := some .platformSubdomain, verificationMethod := none, tlsStatus := none }

/-- Give the hostname to the store, unless it has it already or another store does. -/
def claimSubdomain (storeId tenantId : Nat) (hostname : String) :
    Transaction EnsurePlatformSubdomainResult := do
  let existing ← Tx.read fun w => w.storeDomains.findFirst (·.hostname = hostname)
  match existing with
  | some existing =>
      if existing.storeId ≠ storeId then
        throw (.other s!"Platform subdomain \"{hostname}\" is already taken by another store — refusing to create a second store under the same derived hostname (Phase 9 spec S-5). Choose a different store slug.")
      else
        return .existing existing
  | none => createSubdomain storeId tenantId hostname

def ensurePlatformSubdomain (settings : Settings) (storeId tenantId : Nat) (storeSlug : String) :
    Transaction EnsurePlatformSubdomainResult :=
  match truthy settings.platformStorefrontDomain with
  | none => return .skipped
  | some domain =>
      match derivePlatformSubdomain storeSlug domain with
      | none => throw (.other s!"Derived platform subdomain \"{storeSlug}.{domain}\" is not a valid hostname — check the store slug and PLATFORM_STOREFRONT_DOMAIN.")
      | some hostname => claimSubdomain storeId tenantId hostname

/-! ## Requests -/

inductive Request where
  | ensurePlatformSubdomain (storeId tenantId : Nat) (storeSlug : String)
  | add (tenantId : Nat) (dto : AddStoreDomainDto) (verificationToken : String)
  | verify (tenantId domainId : Nat) (answer : DnsAnswer) (locked : Bool)
      (hosting : HostingAnswer)
  | setPrimary (tenantId domainId : Nat)
  | remove (tenantId domainId : Nat) (answer : ReleaseAnswer)
  | refreshTls (tenantId domainId : Nat) (hosting : HostingAnswer)
  | platformRevoke (domainId : Nat)
  | platformOverride (domainId : Nat)
  | platformReverify (domainId : Nat) (answer : DnsAnswer) (locked : Bool)
  | platformRemove (domainId : Nat) (answer : ReleaseAnswer)

def handle (settings : Settings) : Request → Service (Option StoreDomain)
  | .ensurePlatformSubdomain storeId tenantId storeSlug =>
      EnsurePlatformSubdomainResult.row <$> Proc.transact .platformSubdomain
        (ensurePlatformSubdomain settings storeId tenantId storeSlug)
  | .add tenantId dto verificationToken => some <$> add settings tenantId dto verificationToken
  | .verify tenantId domainId answer locked hosting =>
      some <$> verify settings tenantId domainId answer locked hosting
  | .setPrimary tenantId domainId => some <$> setPrimary tenantId domainId
  | .remove tenantId domainId answer => some <$> remove tenantId domainId answer
  | .refreshTls tenantId domainId hosting => some <$> refreshTls tenantId domainId hosting
  | .platformRevoke domainId =>
      some <$> Proc.transact (.platformRevoke domainId) (Platform.revoke domainId)
  | .platformOverride domainId =>
      some <$> Proc.transact (.platform domainId) (Platform.override domainId)
  | .platformReverify domainId answer locked => some <$> Proc.transact (.platform domainId)
      (Platform.reverify settings domainId answer locked)
  | .platformRemove domainId answer => some <$> Platform.remove domainId answer

abbrev DomainConfig := Config World Request Commit HttpError (Option StoreDomain)

/-- A run of any length, with any requests, whose commits are `ok`. -/
abbrev Reaches (settings : Settings) (ok : Commit → World → Prop) :
    DomainConfig → DomainConfig → Prop :=
  Run (fun _ => handle settings) (fun _ _ => True) ok

end PrintForge.StoreDomains
