import PrintForge.Common.Basic
import PrintForge.Concurrent.Process
import PrintForge.Payments.Schema
import PrintForge.Text.Strings

/-!
# Payment accounts

An account is created without credentials. `connect` asks the provider whether a pair of keys
is good, stores it and activates the account; `activate` and `disable` move the status along
its table of transitions. Every statement group of `connect` is a step of its own, and its
call to the provider is one too.

Two components of the state are not stored anywhere: the pairs the provider has accepted, and
the accounts that were disabled, one after the other.
-/

namespace PrintForge.PaymentAccounts

open Relational Concurrent JavaScript

def paymentAccountStateTransitions : PaymentAccountStatus → List PaymentAccountStatus
  | .pending => [.active, .disabled]
  | .active => [.disabled]
  | .disabled => [.active]

def isPaymentAccountTransitionAllowed (source target : PaymentAccountStatus) : Bool :=
  target ∈ paymentAccountStateTransitions source

structure Store where
  id : Nat
  tenantId : Nat
  isPrimary : Bool
deriving DecidableEq, Repr

/-- A tenant has at most one primary store. -/
instance : Schema Store where
  key s := s.id
  Clash a b := a.tenantId = b.tenantId ∧ a.isPrimary ∧ b.isPrimary
  clash_decidable _ _ := inferInstanceAs (Decidable (_ ∧ _ ∧ _))
  clash_symm h := ⟨h.1.symm, h.2.2, h.2.1⟩

theorem key_lt_primaryStore : ∀ s ∈ [(⟨0, 0, true⟩ : Store)], Schema.key s < 1 := by decide

theorem consistent_primaryStore : Consistent [(⟨0, 0, true⟩ : Store)] :=
  List.pairwise_singleton ..

structure RazorpayAccountCredentials where
  keyId : String
  keySecret : String
  webhookSecret : Option String
deriving DecidableEq, Repr

/-- The encryption of credentials, with the random bytes that every call draws. Reading a blob
back includes the check of its shape. -/
structure CredentialEncryption where
  encrypt : RazorpayAccountCredentials → Nat → String
  decrypt : String → Option RazorpayAccountCredentials
  decrypt_encrypt : ∀ credentials iv, decrypt (encrypt credentials iv) = some credentials

structure World where
  paymentAccounts : Table PaymentAccount
  stores : Table Store
  accepted : List RazorpayAccountCredentials
  disabled : List Nat

namespace Db

def paymentAccounts : Slot World PaymentAccount where
  get w := w.paymentAccounts
  set t w := { w with paymentAccounts := t }

end Db

/-- `began` is how many accounts had been disabled when the call that makes the transition
began, if the call has read anything before. -/
inductive Commit where
  | create
  | verify
  | configureCredentials (id : Nat)
  | transition (id : Nat) (target : PaymentAccountStatus) (began : Option Nat)
deriving DecidableEq, Repr

abbrev Transaction := Tx World HttpError

abbrev Service := Proc World Commit HttpError

structure CreatePaymentAccountDto where
  storeId : Option Nat
  provider : PaymentProviderType
deriving DecidableEq, Repr

structure ConnectRazorpayAccountDto where
  keyId : Property String
  keySecret : Property String
  webhookSecret : Option String
deriving DecidableEq, Repr

/-! ## Accounts -/

def assertStoreInTenant (tenantId storeId : Nat) : Service Nat := do
  let store ← Proc.read fun w => (w.stores.get storeId).filter (·.tenantId = tenantId)
  match store with
  | none => throw (.notFound "Store not found for this tenant")
  | some store => return store.id

def resolvePrimaryStoreId (tenantId : Nat) : Service Nat := do
  let store ← Proc.read fun w => w.stores.findFirst fun s => s.tenantId = tenantId && s.isPrimary
  match store with
  | none => throw (.notFound "This tenant has no primary store configured")
  | some store => return store.id

/-- The store that is named, or the primary one. -/
def storeFor (tenantId : Nat) : Option Nat → Service Nat
  | some storeId => assertStoreInTenant tenantId storeId
  | none => resolvePrimaryStoreId tenantId

def duplicateMessage (provider : PaymentProviderType) : String :=
  s!"This store already has a {provider} payment account"

def create (tenantId : Nat) (dto : CreatePaymentAccountDto) : Service PaymentAccount := do
  let storeId ← storeFor tenantId dto.storeId
  let existing ← Proc.read fun w => w.paymentAccounts.findFirst fun a =>
    a.storeId = storeId && a.provider = dto.provider
  match existing with
  | some _ => throw (.conflict (duplicateMessage dto.provider))
  | none =>
      tryCatch
        (Proc.transact .create (Db.paymentAccounts.create fun id =>
          { id, tenantId, storeId, provider := dto.provider, status := .pending
            credentialsEncrypted := none }))
        fun err =>
          if err.isUniqueConstraintViolation then
            throw (.conflict (duplicateMessage dto.provider))
          else
            throw err

def getOne (tenantId id : Nat) : Service PaymentAccount := do
  let row ← Proc.read (·.paymentAccounts.get id)
  assertObjectInTenant (·.tenantId) row tenantId

def getEncryptedCredentials (tenantId id : Nat) : Service (Option String) := do
  let row ← Proc.read (·.paymentAccounts.get id)
  let row ← assertObjectInTenant (·.tenantId) row tenantId
  return row.credentialsEncrypted

/-- Note down that an account has been disabled. -/
def World.note (id : Nat) (target : PaymentAccountStatus) (w : World) : World :=
  { w with disabled := if target = .disabled then w.disabled ++ [id] else w.disabled }

/-- The transaction of `transition`, which also notes down who was disabled. -/
def moveAccount (tenantId id : Nat) (target : PaymentAccountStatus) :
    Transaction PaymentAccount := do
  let found ← Tx.read (·.paymentAccounts.get id)
  let account ← assertObjectInTenant (·.tenantId) found tenantId
  if isPaymentAccountTransitionAllowed account.status target = false then
    throw (.conflict s!"Cannot transition a {account.status} payment account to {target}")
  else
    let count ← Db.paymentAccounts.updateMany (fun a => a.id = id && a.status = account.status)
      fun a => { a with status := target }
    if count ≠ 1 then
      throw (.conflict "Payment account status changed concurrently — retry")
    else
      modify (World.note id target)
      let updated ← Tx.read (·.paymentAccounts.get id)
      match updated with
      | none => throw .recordNotFound
      | some updated => return updated

def transition (tenantId id : Nat) (target : PaymentAccountStatus) (began : Option Nat) :
    Service PaymentAccount :=
  Proc.transact (.transition id target began) (moveAccount tenantId id target)

def activate (tenantId id : Nat) (began : Option Nat := none) : Service PaymentAccount :=
  transition tenantId id .active began

def disable (tenantId id : Nat) : Service PaymentAccount :=
  transition tenantId id .disabled none

/-- The transaction of `configureCredentials`. -/
def storeCredentials (tenantId id : Nat) (encryptedCredentials : String) : Transaction Unit := do
  let found ← Tx.read (·.paymentAccounts.get id)
  let _ ← assertObjectInTenant (·.tenantId) found tenantId
  let _ ← Db.paymentAccounts.update id fun a =>
    { a with credentialsEncrypted := some encryptedCredentials }
  return ()

def configureCredentials (tenantId id : Nat) (encryptedCredentials : String) : Service Unit :=
  Proc.transact (.configureCredentials id) (storeCredentials tenantId id encryptedCredentials)

/-! ## Connecting an account -/

def verificationFailedMessage : String :=
  "Razorpay credential verification failed — check the key id and secret."

/-- One call to the provider, which answers as it likes. -/
def verifyCredentials (credentials : RazorpayAccountCredentials) (accepts : Bool) : Service Unit :=
  Proc.transact .verify do
    if accepts then
      modify fun w => { w with accepted := credentials :: w.accepted }
    else
      throw (.unprocessableEntity verificationFailedMessage)

def verifyStoredCredentials (encryption : CredentialEncryption) (stored : String)
    (accepts : Bool) : Service Unit :=
  match encryption.decrypt stored with
  | none => throw (.unprocessableEntity verificationFailedMessage)
  | some credentials => verifyCredentials credentials accepts

/-- Check a submitted pair and store it. -/
def submitCredentials (encryption : CredentialEncryption) (tenantId id : Nat)
    (dto : ConnectRazorpayAccountDto) (iv : Nat) (accepts : Bool) : Service Unit :=
  match truthy dto.keyId.toOption, truthy dto.keySecret.toOption with
  | some keyId, some keySecret => do
      let credentials := { keyId, keySecret, webhookSecret := dto.webhookSecret }
      verifyCredentials credentials accepts
      configureCredentials tenantId id (encryption.encrypt credentials iv)
  | _, _ => throw (.badRequest "keyId and keySecret must both be provided together")

/-- Check the pair that is stored already. -/
def testConnection (encryption : CredentialEncryption) (tenantId id : Nat) (accepts : Bool) :
    Service Unit := do
  let stored ← getEncryptedCredentials tenantId id
  match stored with
  | none =>
      throw (.badRequest
        "No Razorpay credentials configured for this payment account yet — submit keyId and keySecret to connect.")
  | some stored => verifyStoredCredentials encryption stored accepts

/-- Have the provider check the submitted pair, or without one the stored pair. -/
def checkCredentials (encryption : CredentialEncryption) (tenantId id : Nat)
    (dto : ConnectRazorpayAccountDto) (iv : Nat) (accepts : Bool) : Service Unit :=
  if dto.keyId.isDefined || dto.keySecret.isDefined then
    submitCredentials encryption tenantId id dto iv accepts
  else
    testConnection encryption tenantId id accepts

def connect (encryption : CredentialEncryption) (tenantId id : Nat)
    (dto : ConnectRazorpayAccountDto) (iv : Nat) (accepts : Bool) : Service PaymentAccount := do
  let began ← Proc.read (·.disabled.length)
  let account ← getOne tenantId id
  checkCredentials encryption tenantId id dto iv accepts
  if account.status ≠ .active then
    let _ ← activate tenantId id (some began)
    getOne tenantId id
  else
    getOne tenantId id

/-! ## Requests -/

inductive Request where
  | create (tenantId : Nat) (dto : CreatePaymentAccountDto)
  | connect (tenantId id : Nat) (dto : ConnectRazorpayAccountDto) (iv : Nat) (accepts : Bool)
  | activate (tenantId id : Nat)
  | disable (tenantId id : Nat)
deriving DecidableEq, Repr

def handle (encryption : CredentialEncryption) : Request → Service PaymentAccount
  | .create tenantId dto => create tenantId dto
  | .connect tenantId id dto iv accepts => connect encryption tenantId id dto iv accepts
  | .activate tenantId id => activate tenantId id
  | .disable tenantId id => disable tenantId id

abbrev AccountConfig := Config World Request Commit HttpError PaymentAccount

/-- A run of any length, with any requests, whose commits are `ok`. -/
abbrev Reaches (encryption : CredentialEncryption) (ok : Commit → World → Prop) :
    AccountConfig → AccountConfig → Prop :=
  Run (fun _ => handle encryption) (fun _ _ => True) ok

/-- No account has been created yet. -/
def AccountConfig.initial (stores : Table Store) : AccountConfig :=
  ⟨⟨.empty, stores, [], []⟩, []⟩

end PrintForge.PaymentAccounts
