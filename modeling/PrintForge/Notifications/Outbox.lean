import Mathlib.Data.List.Sort
import PrintForge.Common.Basic
import PrintForge.Concurrent.Process
import PrintForge.Text.Strings

/-!
# The outbox

Events are stored by the transactions they announce, and a poller sends the e-mails. It claims an
event in one transaction, calls the mail provider, and settles the event in another. Whether the
provider takes an e-mail is an argument of the poll, by event.
-/

namespace PrintForge.Notifications

open Relational Concurrent JavaScript

inductive OutboxEventType where
  | orderPaid
  | orderStatusChanged
  | passwordResetRequested
deriving DecidableEq, Repr

inductive OutboxEventStatus where
  | pending
  | processing
  | sent
  | failed
deriving DecidableEq, Repr

/-- The properties of the payload that are read. One that is no string is as good as none. -/
structure Payload where
  email : Option String
  userId : Option Nat
  resetLink : Option String
  orderNumber : Option String
  toStatus : Option String
  refundPending : Bool
deriving DecidableEq, Repr

structure OutboxEvent where
  id : Nat
  eventType : OutboxEventType
  eventKey : String
  payload : Payload
  status : OutboxEventStatus
  attempts : Nat
  availableAt : Int
  lastError : Option String
  processedAt : Option Int
deriving DecidableEq, Repr

/-- An event is stored once under its key. -/
instance : Schema OutboxEvent where
  key e := e.id
  Clash a b := a.eventKey = b.eventKey
  clash_decidable _ _ := inferInstanceAs (Decidable (_ = _))
  clash_symm h := h.symm

structure User where
  id : Nat
  email : String
deriving DecidableEq, Repr

instance : Schema User where
  key u := u.id
  Clash a b := a.email = b.email
  clash_decidable _ _ := inferInstanceAs (Decidable (_ = _))
  clash_symm h := h.symm

structure SendEmailParams where
  recipient : String
  subject : String
  html : String
deriving DecidableEq, Repr

/-- The database, the clock, and what the mail provider has taken. -/
structure World where
  outboxEvents : Table OutboxEvent
  users : Table User
  now : Int
  delivered : List SendEmailParams

namespace Db

def outboxEvents : Slot World OutboxEvent where
  get w := w.outboxEvents
  set t w := { w with outboxEvents := t }

end Db

inductive Commit where
  | enqueue
  | claim (id : Nat)
  | send
  | settle (id : Nat)
  | wait
deriving DecidableEq, Repr

abbrev Transaction := Tx World HttpError

abbrev Service := Proc World Commit HttpError

/-! ## What is sent -/

structure EmailContent where
  subject : String
  html : String
deriving DecidableEq, Repr

def asString (value : Option String) : String := value.getD ""

def buildPasswordResetEmail (payload : Payload) : EmailContent where
  subject := "Reset your PrintForge password"
  html := "<p>We received a request to reset your PrintForge password.</p>\n" ++
    "      <p><a href=\"" ++ asString payload.resetLink ++
    "\">Click here to reset your password</a>. This link expires in 30 minutes.</p>\n" ++
    "      <p>If you didn't request this, you can safely ignore this email.</p>"

def buildOrderPaidEmail (payload : Payload) : EmailContent where
  subject := "Order " ++ asString payload.orderNumber ++ " confirmed"
  html := "<p>Thanks for your order! We've received your payment for order <strong>" ++
    asString payload.orderNumber ++ "</strong>.</p>\n" ++
    "      <p>We'll let you know as your order moves through production.</p>"

def formatStatus (status : String) : String :=
  " ".intercalate ((status.toLower.splitOn "_").map String.capitalize)

def refundNote : String :=
  "<p>A refund for this order is being processed by our team and will be completed shortly — " ++
    "no action is needed from you.</p>"

def buildOrderStatusChangedEmail (payload : Payload) : EmailContent where
  subject := "Order " ++ asString payload.orderNumber ++ " update: " ++
    formatStatus (asString payload.toStatus)
  html := trim ("<p>Your order <strong>" ++ asString payload.orderNumber ++
    "</strong> is now <strong>" ++ formatStatus (asString payload.toStatus) ++
    "</strong>.</p>\n      " ++ if payload.refundPending then refundNote else "")

/-- There is no content for a type that nothing is sent for. -/
def buildEmailContent (eventType : OutboxEventType) (payload : Payload) : Option EmailContent :=
  match eventType with
  | .passwordResetRequested => some (buildPasswordResetEmail payload)
  | .orderPaid => some (buildOrderPaidEmail payload)
  | .orderStatusChanged => some (buildOrderStatusChangedEmail payload)

def resolveRecipientEmail (payload : Payload) : Service (Option String) :=
  match truthy payload.email, payload.userId with
  | some email, _ => return some email
  | none, some userId => do
      let user ← Proc.read fun w : World => w.users.get userId
      return user.map (·.email)
  | none, none => return none

/-! ## The poller -/

def batchSize : Nat := 20

def maxAttempts : Nat := 5

/-- In milliseconds, by the attempts made before, the last for all further ones. -/
def backoffMs : List Int := [60000, 300000, 1800000, 7200000]

/-- The poll selects the event. -/
def due (now : Int) (e : OutboxEvent) : Bool := e.status = .pending && e.availableAt ≤ now

def findDue (w : World) : List Nat :=
  (((w.outboxEvents.findMany (due w.now)).insertionSort fun a b =>
    a.availableAt ≤ b.availableAt).take batchSize).map (·.id)

/-- Lock the row and take it. There is no result where it is not pending any more. -/
def claim (id : Nat) : Transaction (Option OutboxEvent) := do
  let row ← Tx.read fun w : World => (w.outboxEvents.get id).filter (·.status = .pending)
  match row with
  | none => return none
  | some row =>
      let _ ← Db.outboxEvents.update row.id fun e => { e with status := .processing }
      return some row

/-- The last update of an event, at an instant that was read before. -/
def settle (id : Nat) (f : Int → OutboxEvent → OutboxEvent)
    (hf : ∀ now e, (f now e).id = e.id := by intros; rfl) : Service Unit := do
  let now ← Proc.read fun w : World => w.now
  Proc.transact (.settle id) do
    let _ ← Db.outboxEvents.update id (f now) (hf now)
    return ()

def markSent (id : Nat) : Service Unit :=
  settle id fun now e => { e with status := .sent, processedAt := some now }

def markUndeliverable (id : Nat) : Service Unit :=
  settle id fun now e => { e with
    status := .failed
    lastError := some "No recipient email in payload and no matching user"
    processedAt := some now }

def markFailedOrRetry (claimed : OutboxEvent) (err : HttpError) : Service Unit :=
  let attempts := claimed.attempts + 1
  let lastError := some err.message
  if maxAttempts ≤ attempts then
    settle claimed.id fun now e => { e with
      status := .failed, attempts, lastError, processedAt := some now }
  else
    let delay := (backoffMs[min (attempts - 1) (backoffMs.length - 1)]?).getD 0
    settle claimed.id fun now e => { e with
      status := .pending, attempts, lastError, availableAt := now + delay }

/-- The provider takes the e-mail, or the call fails with a message. -/
def send (params : SendEmailParams) (failure : Option String) : Service Unit :=
  match failure with
  | some message => throw (.other message)
  | none => Proc.transact .send (modify fun w => { w with delivered := w.delivered ++ [params] })

/-- Send what has been claimed and settle it. -/
def deliver (failure : Option String) (claimed : OutboxEvent) : Service Unit := do
  match buildEmailContent claimed.eventType claimed.payload with
  | none => markSent claimed.id
  | some emailContent =>
      let recipient ← resolveRecipientEmail claimed.payload
      match truthy recipient with
      | none => markUndeliverable claimed.id
      | some recipient =>
          send ⟨recipient, emailContent.subject, emailContent.html⟩ failure
          markSent claimed.id

/-- `failures` are the provider's refusals, by event. -/
def processOne (failures : Nat → Option String) (id : Nat) : Service Unit := do
  let claimed ← Proc.transact (.claim id) (claim id)
  match claimed with
  | none => return ()
  | some claimed =>
      tryCatch (deliver (failures claimed.id) claimed) (markFailedOrRetry claimed)

def processAll (failures : Nat → Option String) : List Nat → Service Unit
  | [] => return ()
  | id :: ids => do
      processOne failures id
      processAll failures ids

def processPendingEvents (failures : Nat → Option String) : Service Unit := do
  let ids ← Proc.read findDue
  processAll failures ids

/-! ## Requests -/

structure OutboxEventInput where
  eventType : OutboxEventType
  eventKey : String
  payload : Payload
deriving DecidableEq, Repr

/-- The insert every other transaction makes. -/
def enqueueOutboxEvent (event : OutboxEventInput) : Transaction Unit := do
  let now ← Tx.read fun w : World => w.now
  let _ ← Db.outboxEvents.create fun id =>
    { id, eventType := event.eventType, eventKey := event.eventKey, payload := event.payload
      status := .pending, attempts := 0, availableAt := now, lastError := none
      processedAt := none }
  return ()

/-- The ticks of any number of pollers, the events of other transactions, and time. -/
inductive Request where
  | processPendingEvents (failures : Nat → Option String)
  | enqueueOutboxEvent (event : OutboxEventInput)
  | wait (elapsed : Nat)

def handle (_ : Nat) : Request → Service Unit
  | .processPendingEvents failures => processPendingEvents failures
  | .enqueueOutboxEvent event => Proc.transact .enqueue (enqueueOutboxEvent event)
  | .wait elapsed => Proc.transact .wait (modify fun w => { w with now := w.now + elapsed })

abbrev OutboxConfig := Config World Request Commit HttpError Unit

end PrintForge.Notifications
