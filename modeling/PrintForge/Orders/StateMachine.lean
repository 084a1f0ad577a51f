import Mathlib.Tactic.Common

/-!
# The order state machine

The compare-and-swap transition table of `Order.status`. A transition that is not in
the table is rejected by every caller.
-/

namespace PrintForge

inductive OrderStatus where
  | pendingPayment
  | paid
  | paymentFailed
  | confirmed
  | inProduction
  | shipped
  | delivered
  | cancelled
  | refunded
deriving DecidableEq, Repr

namespace OrderStatus

/-- The status as the database and the error messages spell it. -/
def name : OrderStatus → String
  | pendingPayment => "PENDING_PAYMENT"
  | paid => "PAID"
  | paymentFailed => "PAYMENT_FAILED"
  | confirmed => "CONFIRMED"
  | inProduction => "IN_PRODUCTION"
  | shipped => "SHIPPED"
  | delivered => "DELIVERED"
  | cancelled => "CANCELLED"
  | refunded => "REFUNDED"

instance : ToString OrderStatus := ⟨name⟩

/-- Not paid for yet: the order waits for a payment or the last one failed. -/
def Unpaid (s : OrderStatus) : Prop := s = pendingPayment ∨ s = paymentFailed

instance (s : OrderStatus) : Decidable s.Unpaid := inferInstanceAs (Decidable (_ ∨ _))

end OrderStatus

def orderStateTransitions : OrderStatus → List OrderStatus
  | .pendingPayment => [.paid, .paymentFailed]
  | .paymentFailed => [.pendingPayment]
  | .paid => [.cancelled, .confirmed, .refunded]
  | .confirmed => [.cancelled, .inProduction, .refunded]
  | .inProduction => [.shipped, .refunded]
  | .shipped => [.delivered, .refunded]
  | .delivered => [.refunded]
  | .cancelled => [.refunded]
  | .refunded => []

def isTransitionAllowed (source target : OrderStatus) : Bool :=
  target ∈ orderStateTransitions source

/-- Only a pending order can be paid. -/
@[simp] theorem isTransitionAllowed_paid {s : OrderStatus} :
    isTransitionAllowed s .paid = true ↔ s = .pendingPayment := by
  cases s <;> decide

@[simp] theorem isTransitionAllowed_paymentFailed {s : OrderStatus} :
    isTransitionAllowed s .paymentFailed = true ↔ s = .pendingPayment := by
  cases s <;> decide

/-- Only a failed payment puts an order back to pending. -/
@[simp] theorem isTransitionAllowed_pendingPayment {s : OrderStatus} :
    isTransitionAllowed s .pendingPayment = true ↔ s = .paymentFailed := by
  cases s <;> decide

/-- Once paid, an order is never unpaid again. -/
theorem isTransitionAllowed_unpaid {s t : OrderStatus} (h : isTransitionAllowed s t = true)
    (hs : ¬ s.Unpaid) : ¬ t.Unpaid := by
  revert h hs
  cases s <;> cases t <;> decide

/-- The only way out of the unpaid statuses is to be paid. -/
theorem eq_paid_of_isTransitionAllowed {s t : OrderStatus}
    (h : isTransitionAllowed s t = true) (hs : s.Unpaid) (ht : ¬ t.Unpaid) : t = .paid := by
  revert h hs ht
  cases s <;> cases t <;> decide

/-- How far an order has come. The statuses before the payment count as one. -/
def OrderStatus.rank : OrderStatus → Nat
  | .pendingPayment => 0
  | .paymentFailed => 0
  | .paid => 1
  | .confirmed => 2
  | .inProduction => 3
  | .shipped => 4
  | .delivered => 5
  | .cancelled => 6
  | .refunded => 7

theorem OrderStatus.rank_eq_zero {s : OrderStatus} : s.rank = 0 ↔ s.Unpaid := by
  cases s <;> decide

/-- The table leads back only among the statuses before the payment. -/
theorem isTransitionAllowed_rank {s t : OrderStatus} (h : isTransitionAllowed s t = true) :
    s.rank < t.rank ∨ s.Unpaid ∧ t.Unpaid := by
  revert h
  cases s <;> cases t <;> decide

/-! ## Histories

A history is a list of transitions, each from one status to another. It leads from where it
starts to where it ends when every transition starts where the one before has ended and is
allowed there. -/

section

variable {α : Type} (edge : Option α → α → Prop)

/-- The transitions are a path of allowed ones. A path that is empty leads nowhere else. -/
def Leads : Option α → List (Option α × α) → Option α → Prop
  | source, [], target => target = source
  | source, (a, b) :: rest, target => a = source ∧ edge source b ∧ Leads (some b) rest target

variable {edge} {source middle target : Option α} {xs ys : List (Option α × α)}

theorem Leads.append (h : Leads edge source xs middle) (h' : Leads edge middle ys target) :
    Leads edge source (xs ++ ys) target := by
  induction xs generalizing source with
  | nil =>
      obtain rfl : middle = source := h
      exact h'
  | cons x xs ih =>
      obtain ⟨hfrom, hedge, hrest⟩ := h
      exact ⟨hfrom, hedge, ih hrest⟩

theorem leads_single {b : α} (h : edge source b) : Leads edge source [(source, b)] (some b) :=
  ⟨rfl, h, rfl⟩

/-- Where a history leads is determined by it. -/
theorem Leads.unique (h : Leads edge source xs middle) (h' : Leads edge source xs target) :
    middle = target := by
  induction xs generalizing source with
  | nil => exact Eq.trans h (Eq.symm h')
  | cons x xs ih => exact ih h.2.2 h'.2.2

instance decidableLeads [DecidableEq α] [∀ s t, Decidable (edge s t)] :
    ∀ source xs target, Decidable (Leads edge source xs target)
  | _, [], _ => inferInstanceAs (Decidable (_ = _))
  | source, (_, b) :: rest, target =>
      have : Decidable (Leads edge (some b) rest target) := decidableLeads (some b) rest target
      inferInstanceAs (Decidable (_ = _ ∧ edge source b ∧ Leads edge (some b) rest target))

end

/-- An order starts as pending, and moves on as the table says. -/
def orderEdge : Option OrderStatus → OrderStatus → Prop
  | none, target => target = .pendingPayment
  | some source, target => isTransitionAllowed source target = true

instance : ∀ source target, Decidable (orderEdge source target)
  | none, _ => inferInstanceAs (Decidable (_ = _))
  | some _, _ => inferInstanceAs (Decidable (_ = true))

end PrintForge
