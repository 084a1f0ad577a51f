import PrintForge.Payments.Schema

/-!
# Resolving a payment account

`resolveForStore` picks the account of a store for a new payment and wants it active.
`resolveForBoundAccount` finds the account an order is bound to and takes it in any
status. Neither ever falls back to another account.
-/

namespace PrintForge

open Relational Concurrent

/-- What Razorpay computes from an account's credentials, and to which Razorpay order
each Razorpay payment belongs. Whatever Razorpay signs names a payment together with the
order it belongs to. `parse` is what `JSON.parse` makes of a body. -/
structure Gateway where
  publicKeyId : String → String
  paymentSignatureValid : (credentials orderId paymentId signature : String) → Bool
  webhookSignatureValid : (credentials rawBody signature : String) → Bool
  globalWebhookSignatureValid : (rawBody signature : String) → Bool
  parse : String → Option RazorpayWebhookPayload
  orderOf : String → String
  orderOf_eq : ∀ {credentials orderId paymentId signature},
    paymentSignatureValid credentials orderId paymentId signature = true →
      orderOf paymentId = orderId
  parse_genuine : ∀ {credentials rawBody signature payload payment},
    webhookSignatureValid credentials rawBody signature = true →
      parse rawBody = some payload → payload.payment = some payment →
        orderOf payment.id = payment.orderId
  parse_genuine_global : ∀ {rawBody signature payload payment},
    globalWebhookSignatureValid rawBody signature = true →
      parse rawBody = some payload → payload.payment = some payment →
        orderOf payment.id = payment.orderId

structure ResolvedPaymentAccount where
  paymentAccountId : Nat
  provider : PaymentProviderType

section

variable {m : Type → Type} [Monad m] [MonadExceptOf ServiceError m] [PrismaClient m]

def toResolved (account : PaymentAccount) : ResolvedPaymentAccount :=
  ⟨account.id, account.provider⟩

def assertStoreInTenant (tenantId storeId : Nat) : m Unit := do
  let store ← query fun w => (w.stores.get storeId).filter (·.tenantId = tenantId)
  if store.isNone then
    throw (.paymentAccountResolution (.storeNotFound storeId))

def resolveForStore (tenantId storeId : Nat) (provider : PaymentProviderType) :
    m ResolvedPaymentAccount := do
  assertStoreInTenant tenantId storeId
  let account ← query (·.paymentAccounts.findFirst fun a =>
    a.storeId = storeId && a.provider = provider)
  match account with
  | none => throw (.paymentAccountResolution (.noActivePaymentAccount storeId provider))
  | some account =>
      if account.tenantId ≠ tenantId then
        throw (.paymentAccountResolution (.paymentAccountTenantMismatch account.id))
      else if account.status ≠ .active then
        throw (.paymentAccountResolution (.inactivePaymentAccount account.id account.status))
      else
        return toResolved account

def resolveForBoundAccount (tenantId paymentAccountId : Nat) : m ResolvedPaymentAccount := do
  let account ← query (·.paymentAccounts.get paymentAccountId)
  match account with
  | none => throw (.paymentAccountResolution (.paymentAccountTenantMismatch paymentAccountId))
  | some account =>
      if account.tenantId ≠ tenantId then
        throw (.paymentAccountResolution (.paymentAccountTenantMismatch paymentAccountId))
      else
        return toResolved account

def resolveForWebhook (paymentAccountId : Nat) : m (ResolvedPaymentAccount × Nat) := do
  let account ← query (·.paymentAccounts.get paymentAccountId)
  match account with
  | none => throw (.paymentAccountResolution (.unknownPaymentAccount paymentAccountId))
  | some account => return (toResolved account, account.tenantId)

/-- The credentials of an account, which has to belong to the tenant. -/
def getEncryptedCredentials (tenantId id : Nat) : m (Option String) := do
  let row ← query (·.paymentAccounts.get id)
  match row with
  | none => throw (.notFound "Not Found")
  | some row =>
      if row.tenantId ≠ tenantId then
        throw (.notFound "Not Found")
      else
        return row.credentialsEncrypted

/-- Resolution failures reach the customer as one stable error. -/
def resolveBoundAccountOrFail (tenantId paymentAccountId : Nat) : m ResolvedPaymentAccount :=
  tryCatch (resolveForBoundAccount tenantId paymentAccountId) fun
    | .paymentAccountResolution _ => throw .merchantPaymentUnavailable
    | err => throw err

end

end PrintForge
