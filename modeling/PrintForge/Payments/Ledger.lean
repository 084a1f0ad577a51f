import PrintForge.Payments.Schema
import Mathlib.Data.Set.Insert

/-!
# The ledger of one order

What the payment services keep about one order, without tables: its status, the payment
attempts recorded as captured, the transitions in its history, and the notices put in the
outbox. Each step says what one atomic action of any service may do to it.

A payment is meant to move the status, the capture, the history and the notice together
(`pay`). Two further steps record a capture of an order that is not pending: `lateCapture`
records it alone, and `lostCapture` also announces the order as paid.
-/

namespace PrintForge

structure Ledger where
  status : Option OrderStatus
  captured : Set Nat
  history : List (Option OrderStatus × OrderStatus)
  notices : Set OutboxEventType

namespace Ledger

/-- The ledger of an order that has not been placed. -/
def blank : Ledger := ⟨none, ∅, [], ∅⟩

inductive Kind where
  | still
  | place
  | reopen
  | log
  | pay
  | lateCapture
  | lostCapture
  | move (target : OrderStatus)
deriving DecidableEq

inductive Step : Kind → Ledger → Ledger → Prop
  | still {L} : Step .still L L
  | place : Step .place blank
      { blank with
        status := some .pendingPayment
        history := [(none, .pendingPayment)] }
  | reopen {L : Ledger} (h : L.status = some .paymentFailed) :
      Step .reopen L { L with status := some .pendingPayment }
  | log {L : Ledger} (h : L.status ≠ none) :
      Step .log L
        { L with history := L.history ++ [(some .paymentFailed, .pendingPayment)] }
  | pay {L : Ledger} (k : Nat) (h : L.status = some .pendingPayment) (hc : L.captured = ∅)
      (hn : .orderPaid ∉ L.notices) :
      Step .pay L
        { status := some .paid
          captured := {k}
          history := L.history ++ [(some .pendingPayment, .paid)]
          notices := insert .orderPaid L.notices }
  | lateCapture {L : Ledger} (k : Nat) {s : OrderStatus} (h : L.status = some s)
      (hs : s ≠ .pendingPayment) (hc : L.captured = ∅) :
      Step .lateCapture L { L with captured := {k} }
  | lostCapture {L : Ledger} (k : Nat) {s : OrderStatus} (h : L.status = some s)
      (hs : s ≠ .pendingPayment) (hc : L.captured = ∅) (hn : .orderPaid ∉ L.notices) :
      Step .lostCapture L
        { L with
          captured := {k}
          notices := insert .orderPaid L.notices }
  | move {L : Ledger} {s t : OrderStatus} (h : L.status = some s)
      (ht : isTransitionAllowed s t = true) (hn : .orderStatusChanged t ∉ L.notices) :
      Step (.move t) L
        { L with
          status := some t
          history := L.history ++ [(some s, t)]
          notices := insert (.orderStatusChanged t) L.notices }

variable {k : Kind} {L L' : Ledger}

/-- An order stays placed, and what is not placed has an empty ledger. -/
theorem Step.blank (h : Step k L L') (hb : L.status = none → L = Ledger.blank) :
    L'.status = none → L' = Ledger.blank := by
  cases h with
  | still => exact hb
  | log h => exact fun h' => absurd h' h
  | lateCapture k h _ _ => exact fun h' => by simp_all
  | lostCapture k h _ _ _ => exact fun h' => by simp_all
  | _ => exact fun h' => by cases h'

/-! ## Paid orders have a captured payment -/

/-- Every status a paid order can have comes with a captured attempt. -/
def PaidCaptured (L : Ledger) : Prop :=
  ∀ s, L.status = some s → ¬ s.Unpaid → L.captured.Nonempty

/-- Only a status change to paid by hand, of an order without a captured attempt, can break
it. -/
theorem Step.paidCaptured (h : Step k L L') (hk : k = .move .paid → L.captured.Nonempty)
    (hp : L.PaidCaptured) : L'.PaidCaptured := by
  cases h with
  | still => exact hp
  | place => exact fun s hs hu => absurd (by simpa using hs.symm) fun h => hu (.inl h)
  | reopen h => exact fun s hs hu => absurd (by simpa using hs.symm) fun h => hu (.inl h)
  | log h => exact hp
  | pay k _ _ _ => exact fun _ _ _ => Set.singleton_nonempty k
  | lateCapture k _ _ _ => exact fun _ _ _ => Set.singleton_nonempty k
  | lostCapture k _ _ _ _ => exact fun _ _ _ => Set.singleton_nonempty k
  | @move L s t h ht _ =>
      intro s' hs' hu
      obtain rfl : t = s' := by simpa using hs'
      by_cases hs : s.Unpaid
      · have htarget : t = .paid := eq_paid_of_isTransitionAllowed ht hs hu
        exact hk (by rw [htarget])
      · exact hp s h hs

/-! ## A captured order is not payable -/

/-! ## The paid notice and the paid transition go together -/

/-- How often the history says that the order became paid. -/
def paidTransitions (L : Ledger) : Nat := L.history.countP (·.2 = .paid)

/-- The notice is out exactly when the history has the transition, which it has at most
once, and only of an order that has been paid. -/
structure Announced (L : Ledger) : Prop where
  notice_iff : .orderPaid ∈ L.notices ↔ L.paidTransitions = 1
  le_one : L.paidTransitions ≤ 1
  paid : L.paidTransitions = 1 → ∀ s, L.status = some s → ¬ s.Unpaid

/-- Only a lost capture and a status change to paid by hand can break it. -/
theorem Step.announced (h : Step k L L') (hl : k ≠ .lostCapture) (hm : k ≠ .move .paid)
    (ha : L.Announced) : L'.Announced := by
  cases h with
  | still => exact ha
  | place => exact ⟨by simp [paidTransitions, Ledger.blank], by simp [paidTransitions],
      by simp [paidTransitions]⟩
  | reopen h =>
      refine ⟨ha.notice_iff, ha.le_one, fun h1 => ?_⟩
      exact absurd (.inr rfl) (ha.paid h1 _ h)
  | log h =>
      have hcount : paidTransitions
          { L with history := L.history ++ [(some .paymentFailed, .pendingPayment)] } =
            L.paidTransitions := by simp [paidTransitions]
      exact ⟨by rw [hcount]; exact ha.notice_iff, by rw [hcount]; exact ha.le_one,
        by rw [hcount]; exact ha.paid⟩
  | pay k h _ hn =>
      have hzero : L.paidTransitions = 0 := by
        have := ha.le_one
        have : L.paidTransitions ≠ 1 := fun h1 => hn (ha.notice_iff.mpr h1)
        omega
      refine ⟨?_, ?_, ?_⟩
      · simpa [paidTransitions] using hzero
      · simpa [paidTransitions] using Nat.le_of_eq hzero
      · rintro _ s hs
        obtain rfl : .paid = s := by simpa using hs
        decide
  | lateCapture k _ _ _ => exact ⟨ha.notice_iff, ha.le_one, ha.paid⟩
  | lostCapture k _ _ _ _ => exact absurd rfl hl
  | @move L s t h ht _ =>
      have hne : t ≠ .paid := fun he => hm (by rw [he])
      have hcount : paidTransitions
          { L with
            status := some t
            history := L.history ++ [(some s, t)]
            notices := insert (.orderStatusChanged t) L.notices } = L.paidTransitions := by
        simp [paidTransitions, hne]
      refine ⟨?_, by rw [hcount]; exact ha.le_one, ?_⟩
      · rw [hcount, ← ha.notice_iff]
        simp
      · rw [hcount]
        intro h1 s' hs'
        obtain rfl : t = s' := by simpa using hs'
        exact isTransitionAllowed_unpaid ht (ha.paid h1 s h)

/-- An order has come at least as far as the notices of its later statuses say. -/
def Ranked (L : Ledger) : Prop :=
  ∀ t, .orderStatusChanged t ∈ L.notices → ¬ t.Unpaid → ∀ s, L.status = some s →
    t.rank ≤ s.rank

theorem Step.ranked (h : Step k L L') (hr : L.Ranked) : L'.Ranked := by
  have paid : ∀ {t : OrderStatus}, ¬ t.Unpaid → ¬ t.rank ≤ 0 := fun ht hle =>
    ht (OrderStatus.rank_eq_zero.mp (Nat.le_zero.mp hle))
  cases h with
  | still => exact hr
  | place => exact fun t hn => absurd hn (by simp [Ledger.blank])
  | reopen h => exact fun t hn ht => absurd (hr t hn ht _ h) (paid ht)
  | log _ => exact hr
  | pay k h _ _ =>
      intro t hn ht
      have hn : .orderStatusChanged t ∈ L.notices := by simpa using hn
      exact absurd (hr t hn ht _ h) (paid ht)
  | lateCapture k _ _ _ => exact hr
  | lostCapture k _ _ _ _ =>
      intro t hn
      exact hr t (by simpa using hn)
  | @move L s target h hallowed _ =>
      intro t hn ht s' hs'
      obtain rfl : target = s' := by simpa using hs'
      obtain hnew | hold : t = target ∨ .orderStatusChanged t ∈ L.notices := by simpa using hn
      · rw [hnew]
      · have hle : t.rank ≤ s.rank := hr t hold ht s h
        obtain hlt | ⟨hs, -⟩ := isTransitionAllowed_rank hallowed
        · omega
        · rw [OrderStatus.rank_eq_zero.mpr hs] at hle
          exact absurd hle (paid ht)

/-- A step sends one notice at most: that the order is paid, which captures it, or that it has
moved to a status. -/
theorem Step.notice_sent {n : OutboxEventType} (h : Step k { L with notices := ∅ } L')
    (hn : n ∈ L'.notices) :
    (n = .orderPaid ∧ L.captured = ∅) ∨
      ∃ s t, k = .move t ∧ L.status = some s ∧ isTransitionAllowed s t = true ∧
        n = .orderStatusChanged t := by
  generalize hblank : ({ L with notices := ∅ } : Ledger) = M at h
  have hnone : n ∉ M.notices := by simp [← hblank]
  have hcaptured : M.captured = L.captured := by rw [← hblank]
  have hstatus : M.status = L.status := by rw [← hblank]
  cases h with
  | pay k _ hc _ =>
      obtain hpaid | hold : n = .orderPaid ∨ n ∈ M.notices := by simpa using hn
      · exact .inl ⟨hpaid, hcaptured ▸ hc⟩
      · exact absurd hold hnone
  | lostCapture k _ _ hc _ =>
      obtain hpaid | hold : n = .orderPaid ∨ n ∈ M.notices := by simpa using hn
      · exact .inl ⟨hpaid, hcaptured ▸ hc⟩
      · exact absurd hold hnone
  | @move _ s t hs hallowed _ =>
      obtain hmoved | hold : n = .orderStatusChanged t ∨ n ∈ M.notices := by simpa using hn
      · exact .inr ⟨s, t, rfl, hstatus ▸ hs, hallowed, hmoved⟩
      · exact absurd hold hnone
  | place => exact absurd hn (by simp [Ledger.blank])
  | _ => exact absurd hn hnone

/-- The paid notice is only ever sent for an order with a captured attempt. -/
theorem Step.notice_captured (h : Step k L L')
    (hc : .orderPaid ∈ L.notices → L.captured.Nonempty) :
    .orderPaid ∈ L'.notices → L'.captured.Nonempty := by
  cases h with
  | pay k _ _ _ => exact fun _ => Set.singleton_nonempty k
  | lateCapture k _ _ _ => exact fun _ => Set.singleton_nonempty k
  | lostCapture k _ _ _ _ => exact fun _ => Set.singleton_nonempty k
  | move h ht _ => simpa using hc
  | _ => exact hc

end Ledger

end PrintForge
