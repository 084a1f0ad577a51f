import PrintForge.Orders.Service
import PrintForge.Team.Service

/-!
# Order changes with their audit rows

What an administrator does to an order is written to the tenant's audit log, in the same
transaction as the change itself. The transactions of the orders service are lifted to a state
that has the log and the memberships as well; the audit row follows them.

A transition of an order that has moved on in the meantime is left out without an error. The
statements around it are not told.
-/

namespace PrintForge.Orders

open Relational Concurrent Proc

/-! ## The audit log -/

inductive TenantContextSource where
  | membershipHeader
  | membershipDefault
  | domain
  | supportSession
deriving DecidableEq, Repr

structure TenantContext where
  tenantId : Nat
  source : TenantContextSource
  supportSession : Option Nat
deriving DecidableEq, Repr

/-- Present where an administrator acts, absent where a customer does. -/
structure TenantAuditContext where
  tenantContext : TenantContext
  actorId : Nat
deriving DecidableEq, Repr

inductive AuditMetadata where
  | statusChange (fromStatus toStatus : OrderStatus) (orderTenantId : Nat)
  | cancel (reason : Option String) (needsManualRefund : Bool) (orderTenantId : Nat)
  | refundRecord (reason : Option String) (orderTenantId : Nat)
deriving DecidableEq, Repr

structure TenantAuditLog where
  id : Nat
  tenantId : Nat
  actorMembershipId : Option Nat
  action : String
  targetType : String
  targetId : Nat
  metadata : AuditMetadata
  viaSupportSessionId : Option Nat
deriving DecidableEq, Repr

instance : Schema TenantAuditLog where
  key a := a.id
  Clash _ _ := False
  clash_decidable _ _ := inferInstanceAs (Decidable False)
  clash_symm h := h

/-- The tables of the shop with the tenants' memberships and their audit log. -/
structure AuditedWorld extends World where
  tenantMemberships : Table Team.TenantMembership
  tenantAuditLogs : Table TenantAuditLog

namespace Db

def tenantAuditLogs : Slot AuditedWorld TenantAuditLog where
  get w := w.tenantAuditLogs
  set t w := { w with tenantAuditLogs := t }

end Db

/-- Commits carry the order, and the attempt, as they were read. -/
inductive AuditedCommit where
  | performCancellation (order : Order) (capturedAttempt : Option PaymentAttempt)
      (tenantAudit : Option TenantAuditContext)
  | performRefundRecording (order : Order) (tenantAudit : Option TenantAuditContext)
  | adminTransitionStatus (order : Order) (status : OrderStatus)
deriving DecidableEq, Repr

abbrev AuditedTransaction := Tx AuditedWorld ServiceError

abbrev AuditedService := Proc AuditedWorld AuditedCommit ServiceError

/-- A transaction of the shop's tables alone. -/
def onShop {α : Type} (tx : Transaction α) : AuditedTransaction α := fun w =>
  (tx w.toWorld).map fun r => (r.1, { w with toWorld := r.2 })

/-- Who acted: a member, or a support session. -/
structure Attribution where
  actorMembershipId : Option Nat
  viaSupportSessionId : Option Nat
deriving DecidableEq, Repr

def resolveTenantAuditActor (tenantContext : TenantContext) (actorId : Nat) :
    AuditedTransaction Attribution :=
  if tenantContext.source = .supportSession then
    return ⟨none, tenantContext.supportSession⟩
  else do
    let actorMembership ← Tx.read (·.tenantMemberships.findFirst fun m =>
      m.userId = actorId && m.tenantId = tenantContext.tenantId)
    return ⟨actorMembership.map (·.id), none⟩

/-- The attribution and the audit row of a change to an order. -/
def logOrderAction (order : Order) (action : String) (metadata : AuditMetadata)
    (tenantAudit : TenantAuditContext) : AuditedTransaction Unit := do
  let attribution ← resolveTenantAuditActor tenantAudit.tenantContext tenantAudit.actorId
  let _ ← Db.tenantAuditLogs.create fun id =>
    { id, tenantId := tenantAudit.tenantContext.tenantId
      actorMembershipId := attribution.actorMembershipId
      action, targetType := "Order", targetId := order.id, metadata
      viaSupportSessionId := attribution.viaSupportSessionId }
  return ()

/-- The audit row is written only where there is somebody to name in it. -/
def audit (order : Order) (action : String) (metadata : AuditMetadata) :
    Option TenantAuditContext → AuditedTransaction Unit
  | none => return ()
  | some tenantAudit => logOrderAction order action metadata tenantAudit

/-! ## The orders service -/

/-- The transaction of `performCancellation`. -/
def cancelAudited (order : Order) (capturedAttempt : Option PaymentAttempt) (actor : Actor)
    (reason : Option String) (tenantAudit : Option TenantAuditContext) :
    AuditedTransaction Unit := do
  onShop (recordCancellation order capturedAttempt actor reason)
  audit order "order.cancel"
    (.cancel reason (orderNeedsRefund capturedAttempt) order.tenantId) tenantAudit

def performCancellation (order : Order) (actor : Actor) (reason : Option String)
    (tenantAudit : Option TenantAuditContext) : AuditedService Unit := do
  let capturedAttempt ← Proc.read (·.paymentAttempts.findFirst fun a =>
    a.orderId = order.id && a.status = .captured)
  Proc.transact (.performCancellation order capturedAttempt tenantAudit)
    (cancelAudited order capturedAttempt actor reason tenantAudit)

/-- The transaction of `performRefundRecording`. -/
def recordRefundAudited (order : Order) (actor : Actor) (reason : Option String)
    (tenantAudit : Option TenantAuditContext) : AuditedTransaction Unit := do
  onShop (recordRefund order actor reason)
  audit order "order.refund_record" (.refundRecord reason order.tenantId) tenantAudit

def performRefundRecording (order : Order) (actor : Actor) (reason : Option String)
    (tenantAudit : Option TenantAuditContext) : AuditedService Unit :=
  Proc.transact (.performRefundRecording order tenantAudit)
    (recordRefundAudited order actor reason tenantAudit)

/-- The transaction of any other change of an order's status. -/
def transitionAudited (order : Order) (status : OrderStatus) (actor : Actor)
    (reason : Option String) (tenantAudit : TenantAuditContext) : AuditedTransaction Unit := do
  onShop (transitionOrderWithHistory order status actor reason false)
  logOrderAction order "order.status_change"
    (.statusChange order.status status order.tenantId) tenantAudit

def findOrderOrThrow (orderId : Nat) : AuditedService Order := do
  let found ← Proc.read (·.orders.get orderId)
  match found with
  | some order => return order
  | none => throw (.notFound "Order not found")

def cancelOrder (userId orderId : Nat) (reason : Option String) : AuditedService Unit := do
  let order ← findOrderOrThrow orderId
  if order.userId ≠ userId then
    throw (.forbidden "You do not have access to this order")
  else if order.status = .cancelled then
    return ()
  else
    assertTransitionAllowed order.status .cancelled
    performCancellation order ⟨.customer, userId⟩ reason none

def adminTransitionStatus (tenantContext : TenantContext) (adminId orderId : Nat)
    (status : OrderStatus) (reason : Option String) : AuditedService Unit := do
  let order ← findOrderOrThrow orderId
  if order.tenantId ≠ tenantContext.tenantId then
    throw (.notFound "Not Found")
  else if order.status = status then
    return ()
  else
    assertTransitionAllowed order.status status
    let actor : Actor := ⟨.admin, adminId⟩
    let tenantAudit : TenantAuditContext := ⟨tenantContext, adminId⟩
    match status with
    | .cancelled => performCancellation order actor reason (some tenantAudit)
    | .refunded => performRefundRecording order actor reason (some tenantAudit)
    | status =>
        Proc.transact (.adminTransitionStatus order status)
          (transitionAudited order status actor reason tenantAudit)

inductive Call where
  | performCancellation (order : Order) (actor : Actor) (reason : Option String)
      (tenantAudit : Option TenantAuditContext)
  | performRefundRecording (order : Order) (actor : Actor) (reason : Option String)
      (tenantAudit : Option TenantAuditContext)
  | cancelOrder (userId orderId : Nat) (reason : Option String)
  | adminTransitionStatus (tenantContext : TenantContext) (adminId orderId : Nat)
      (status : OrderStatus) (reason : Option String)
deriving DecidableEq, Repr

def serve (_ : Nat) : Call → AuditedService Unit
  | .performCancellation order actor reason tenantAudit =>
      performCancellation order actor reason tenantAudit
  | .performRefundRecording order actor reason tenantAudit =>
      performRefundRecording order actor reason tenantAudit
  | .cancelOrder userId orderId reason => cancelOrder userId orderId reason
  | .adminTransitionStatus tenantContext adminId orderId status reason =>
      adminTransitionStatus tenantContext adminId orderId status reason

/-! ## Losing the race -/

namespace AuditedCommit

/-- The order as it was read. -/
def order : AuditedCommit → Order
  | performCancellation order _ _ => order
  | performRefundRecording order _ => order
  | adminTransitionStatus order _ => order

/-- The status the order is to have. -/
def target : AuditedCommit → OrderStatus
  | performCancellation _ _ _ => .cancelled
  | performRefundRecording _ _ => .refunded
  | adminTransitionStatus _ status => status

end AuditedCommit

/-- The row of the order still has the status it was read with: the compare-and-swap finds it. -/
def Stands (order : Order) (w : AuditedWorld) : Prop :=
  ∃ o ∈ w.orders.rows, o.id = order.id ∧ o.status = order.status

instance (order : Order) (w : AuditedWorld) : Decidable (Stands order w) :=
  inferInstanceAs (Decidable (∃ o ∈ w.orders.rows, o.id = order.id ∧ o.status = order.status))

/-- No refund is inserted or changed, and nothing is added to the history, to the audit log or
to the outbox. -/
structure Quiet (w w' : AuditedWorld) : Prop where
  refunds : w'.refunds = w.refunds
  orderStatusHistory : w'.orderStatusHistory = w.orderStatusHistory
  tenantAuditLogs : w'.tenantAuditLogs = w.tenantAuditLogs
  outboxEvents : w'.outboxEvents = w.outboxEvents

/-- Nothing is written around the transition: no refund is owed or closed, and nobody is named
in the audit log. -/
def Bare : AuditedCommit → AuditedWorld → Prop
  | .performCancellation _ capturedAttempt tenantAudit, _ =>
      orderNeedsRefund capturedAttempt = false ∧ tenantAudit = none
  | .performRefundRecording order tenantAudit, w =>
      (∀ r ∈ w.refunds.rows, r.status = .pending → ∀ a ∈ w.paymentAttempts.rows,
        a.orderId = order.id → a.id ≠ r.paymentAttemptId) ∧ tenantAudit = none
  | .adminTransitionStatus _ _, _ => False

end PrintForge.Orders
