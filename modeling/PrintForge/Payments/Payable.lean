import PrintForge.Payments.Captures

/-!
# A captured order is not payable again

A customer who pays for an order is handed a payment attempt, after the order has been found
payable. What keeps a captured order from being paid a second time is its status, and a capture
does not always move it: an order whose payment has failed stays as it is, and so does an order
that is captured by an event about another one. A call that has read the order before the capture
is not stopped at all.
-/

namespace PrintForge

open Relational Concurrent Proc

variable {gateway : Gateway} {w w' : World} {c c' : HostileConfig} {o : Nat}
variable {paymentAccounts : Table PaymentAccount} {stores : Table Store} {users : Table User}

/-- The order is past the statuses in which it can be paid for. -/
def PastPayment (w : World) (o : Nat) : Prop := ∃ s ∈ statusOf w o, ¬ s.Unpaid

instance (w : World) (o : Nat) : Decidable (PastPayment w o) :=
  inferInstanceAs (Decidable (∃ s ∈ statusOf w o, _))

/-- A capture is only recorded for an order that is past the payment, or for the pending order
that the commit is about. -/
def CapturesPaid (ℓ : Commit) (w : World) : Prop :=
  ∀ c ∈ captureOf w ℓ, PastPayment w c.owner ∨
    statusOf w c.owner = some .pendingPayment ∧ c.order.id = c.owner

instance (ℓ : Commit) (w : World) : Decidable (CapturesPaid ℓ w) :=
  inferInstanceAs (Decidable (∀ c ∈ captureOf w ℓ, _))

/-- A call to pay for the order has begun and not ended yet. -/
def UnderWay (gateway : Gateway) (o : Nat) (c : HostileConfig) : Prop :=
  ∃ i userId created p, c.flights[i]? = some (.service (.initiatePayment userId o created), p) ∧
    p.ended = false ∧ p ≠ handle gateway i (.initiatePayment userId o created)

/-- An order is first captured while no call to pay for it is under way. -/
def Uncrossed (gateway : Gateway) (c c' : HostileConfig) : Prop :=
  ∀ o, OrderCaptured c'.state o → OrderCaptured c.state o ∨ ¬ UnderWay gateway o c

/-- A run, with any requests and any payloads, in which the captures are of orders that they pay
or that are paid, and cross no call to pay for the order. -/
abbrev ReachesUncrossed (gateway : Gateway) : HostileConfig → HostileConfig → Prop :=
  Relation.ReflTransGen fun c c' =>
    Step (handleAny gateway) (fun _ _ => True) CapturesPaid c c' ∧ Uncrossed gateway c c'

/-- The request at place `i` has been answered with a payment attempt for the order. -/
def HandedOut (o i : Nat) (c : HostileConfig) : Prop :=
  ∃ userId created view,
    c.answer i = some (.service (.initiatePayment userId o created), .ok view)

/-- No attempt for the order is handed out after `c` that was not before, whenever it was asked
for. -/
def NotPayable (o : Nat) (c c' : HostileConfig) : Prop := ∀ i, HandedOut o i c' → HandedOut o i c

/-! ## Orders that are past the payment -/

/-- A commit leaves an order past the payment where it is. -/
theorem Course.pastPayment {ℓ : Commit} (h : Course w ℓ w') (hp : PastPayment w o) :
    PastPayment w' o := by
  obtain ⟨s, hs, hnot⟩ := hp
  cases h with
  | recorded c hc h =>
      refine ⟨s, ?_, hnot⟩
      rw [Option.mem_def, h.status, if_neg]
      · exact hs
      · rintro ⟨-, hpending⟩
        obtain rfl : s = .pendingPayment := Option.some.inj (hs.symm.trans hpending)
        exact hnot (.inl rfl)
  | moved hcaptured hstatus =>
      have hmove := hstatus o
      rw [Option.mem_def.mp hs] at hmove
      generalize hs' : statusOf w' o = after at hmove
      cases hmove with
      | same => exact ⟨s, hs', hnot⟩
      | @edge _ t hallowed _ => exact ⟨t, hs', isTransitionAllowed_unpaid hallowed hnot⟩

/-- So a captured order is past the payment, as long as captures are of paid orders. -/
theorem Course.capturedPast {ℓ : Commit} (h : Course w ℓ w') (hok : CapturesPaid ℓ w)
    (hpast : ∀ o, OrderCaptured w o → PastPayment w o) (hc : OrderCaptured w' o) :
    PastPayment w' o := by
  by_cases hbefore : OrderCaptured w o
  · exact h.pastPayment (hpast o hbefore)
  · cases h with
    | moved hcaptured hstatus => exact absurd ((hcaptured o).mp hc) hbefore
    | recorded c hcapture h =>
        obtain rfl : o = c.owner := ((h.captured o).mp hc).resolve_left hbefore
        obtain hp | ⟨hpending, hown⟩ := hok c hcapture
        · exact (Course.recorded c hcapture h).pastPayment hp
        · refine ⟨.paid, ?_, by decide⟩
          rw [Option.mem_def, h.status, if_pos ⟨hown.symm, hpending⟩]

/-! ## Calls that find such an order -/

/-- A call that finds the order past the payment is refused at once. -/
theorem refuses_initiatePayment (i : Nat) {userId : Nat} {created : Except ServiceError String} :
    (handle gateway i (.initiatePayment userId o created)).Refuses fun w => PastPayment w o := by
  change (initiatePayment gateway userId o created >>= fun view =>
    pure (Response.initiated view)).Refuses _
  unfold initiatePayment
  refine Refuses.bind (refuses_read_bind fun w hpast => ?_)
  obtain ⟨s, hs, hnot⟩ := hpast
  obtain ⟨order, hget, rfl⟩ := Option.map_eq_some_iff.mp (Option.mem_def.mp hs)
  rw [hget]
  by_cases hown : order.userId = userId
  · have hfailed : order.status ≠ .paymentFailed := fun h => hnot (.inr h)
    have hpending : order.status ≠ .pendingPayment := fun h => hnot (.inl h)
    simp only [Option.filter_some, hown, decide_true, if_true, reopenOrder, if_neg hfailed,
      Proc.pure_bind, ne_eq, hpending, not_false_eq_true]
    exact refuses_throw _
  · simp only [Option.filter_some, hown, decide_false]
    exact refuses_throw _

/-- The first action of a call only reads. -/
theorem initiatePayment_reads {i userId : Nat} {created : Except ServiceError String}
    {p : Service Response}
    (h : (handle gateway i (.initiatePayment userId o created)).step w = some (p, w')) :
    w' = w := by
  cases h
  rfl

/-- Captured orders are past the payment, and what is still to come of calls to pay for them is
a refusal. -/
structure Refused (c : HostileConfig) : Prop where
  past : ∀ o, OrderCaptured c.state o → PastPayment c.state o
  calls : ∀ o, OrderCaptured c.state o → ∀ (i userId : Nat)
    (created : Except ServiceError String) (p : Service Response),
      c.flights[i]? = some (.service (.initiatePayment userId o created), p) →
        p.ended = true ∨ p.Refuses fun w => PastPayment w o

theorem Refused.step (h : Refused c) (hlisted : Listed Written c)
    (hstep : Step (handleAny gateway) (fun _ _ => True) CapturesPaid c c')
    (hcross : Uncrossed gateway c c') : Refused c' := by
  refine ⟨fun o hc => ?_, fun o hc i userId created p hi => ?_⟩
  · obtain ⟨-, hsame | ⟨ℓ, upd, hℓ, hok, hs⟩⟩ := hlisted.step commits_handleAny hstep
    · rw [hsame] at hc ⊢
      exact h.past o hc
    · rw [hs] at hc ⊢
      exact (hℓ.course _).capturedPast hok h.past hc
  · have hcalls : ∀ p : Service Response,
        c.flights[i]? = some (.service (.initiatePayment userId o created), p) →
        p.ended = true ∨ p = handle gateway i (.initiatePayment userId o created) ∨
          OrderCaptured c.state o ∧ p.Refuses fun w => PastPayment w o := by
      intro p hi
      by_cases hbefore : OrderCaptured c.state o
      · exact (h.calls o hbefore i userId created p hi).imp_right fun hp => .inr ⟨hbefore, hp⟩
      · by_contra hnot
        simp only [not_or, Bool.not_eq_true] at hnot
        exact (hcross o hc).elim hbefore fun hway =>
          hway ⟨i, userId, created, p, hi, hnot.1, hnot.2.1⟩
    obtain hi | rfl | ⟨p₀, hi, hp⟩ := hstep.flight hi
    · obtain hended | rfl | ⟨-, hp⟩ := hcalls p hi
      · exact .inl hended
      · exact .inr (refuses_initiatePayment i)
      · exact .inr hp
    · exact .inr (refuses_initiatePayment i)
    · obtain hended | rfl | ⟨hbefore, hp₀⟩ := hcalls p₀ hi
      · cases p₀ with
        | done r => cases hp
        | query next => cases hended
        | commit ℓ upd next => cases hended
      · -- the first action captures nothing, so the order was captured before it
        have hbefore : OrderCaptured c.state o := by rwa [initiatePayment_reads hp] at hc
        exact .inr ((refuses_initiatePayment i).step (h.past o hbefore) hp)
      · exact .inr (hp₀.step (h.past o hbefore) hp)

/-! ## Runs -/

theorem ReachesUncrossed.reaches (h : ReachesUncrossed gateway c c') :
    ReachesWhen gateway CapturesPaid c c' :=
  Relation.ReflTransGen.mono (fun _ _ => And.left) _ _ h

theorem refused_of_reaches
    (h : ReachesUncrossed gateway (.initial paymentAccounts stores users) c) : Refused c := by
  have hidle : Refused (HostileConfig.initial paymentAccounts stores users) := by
    refine ⟨fun o hc => ?_, fun o hc => ?_⟩
    · obtain ⟨a, ha, -⟩ := hc
      cases ha
    · obtain ⟨a, ha, -⟩ := hc
      cases ha
  induction h with
  | refl => exact hidle
  | tail hbefore hstep ih =>
      exact ih.step (listed_idle.run commits_handleAny (ReachesUncrossed.reaches hbefore)) hstep.1
        hstep.2

/-- As long as captures are of orders that they pay or that are paid, and cross no call to pay
for the order, an order with a captured attempt never gets a new one: no call to pay for it has a
result after the capture, whatever is stored and whenever the call was made. -/
theorem captured_not_payable
    (hrun : ReachesUncrossed gateway (.initial paymentAccounts stores users) c)
    (hcaptured : OrderCaptured c.state o) (hlater : ReachesUncrossed gateway c c') :
    NotPayable o c c' := by
  induction hlater with
  | refl => exact fun i h => h
  | @tail b c' hbefore hstep ih =>
      rintro i ⟨userId, created, view, hanswer⟩
      have hb : OrderCaptured b.state o := by
        refine Listed.invariant (J := fun w => OrderCaptured w o) commits_handleAny
          (listed_idle.run commits_handleAny (ReachesUncrossed.reaches hrun)) hcaptured
          (fun ℓ upd w hℓ _ hc => hc.later (hℓ.persist w)) (ReachesUncrossed.reaches hbefore)
      have hrefused := refused_of_reaches (hrun.trans hbefore)
      obtain hi | hp | ⟨p, hi, hp⟩ := hstep.1.flight (Config.flight_of_answer hanswer)
      · refine ih i ⟨userId, created, view, ?_⟩
        rw [Config.answer, hi]
      · cases hp
      · obtain hended | hrefuses := hrefused.calls o hb i userId created p hi
        · cases p with
          | done r => cases hp
          | query next => cases hended
          | commit ℓ upd next => cases hended
        · obtain ⟨e, he⟩ := hrefuses.step (hrefused.past o hb) hp
          cases he

/-! ### Concrete runs -/

/-- Every call to pay for an order has ended, or nothing is captured by the step. -/
def uncrossedStep (c c' : HostileConfig) : Bool :=
  c'.state.paymentAttempts.rows.all (fun a =>
      decide (a.status = .captured → OrderCaptured c.state a.orderId)) ||
    c.flights.all fun f =>
      match f.1 with
      | .service (.initiatePayment _ _ _) => f.2.ended
      | _ => true

theorem uncrossed_of_step (h : uncrossedStep c c' = true) : Uncrossed gateway c c' := by
  rintro o ⟨a, ha, rfl, hs⟩
  obtain hall | hall := Bool.or_eq_true_iff.mp h
  · exact .inl (of_decide_eq_true (List.all_eq_true.mp hall a ha) hs)
  · refine .inr ?_
    rintro ⟨i, userId, created, p, hi, hended, -⟩
    have hcall := List.all_eq_true.mp hall _ (List.mem_of_getElem? hi)
    exact Bool.false_ne_true (hended.symm.trans hcall)

/-- Follow a schedule whose captures cross no call. -/
def followUncrossed (acts : List (Action AnyRequest)) (c : HostileConfig) :
    Option HostileConfig :=
  execTested (handleAny exampleGateway) (fun _ _ => True) CapturesPaid uncrossedStep acts c

theorem followUncrossed_any {acts : List (Action AnyRequest)} {P : HostileConfig → Bool}
    (h : (followUncrossed acts c).any P = true) :
    ∃ c', ReachesUncrossed exampleGateway c c' ∧ P c' = true := by
  obtain ⟨c', hc', hP⟩ := execTested_any h
  refine ⟨c', Relation.ReflTransGen.mono (fun a b hstep => ?_) _ _ hc', hP⟩
  exact ⟨hstep.1, uncrossed_of_step hstep.2⟩

/-- The request at place `i` has an attempt for the order as its answer. -/
def handedOut (o i : Nat) (c : HostileConfig) : Bool :=
  match c.answer i with
  | some (.service (.initiatePayment _ orderId _), .ok _) => orderId = o
  | _ => false

theorem handedOut_iff {i : Nat} : handedOut o i c = true ↔ HandedOut o i c := by
  constructor
  · intro h
    unfold handedOut at h
    split at h
    · next userId orderId created view hanswer =>
      exact ⟨userId, created, view, of_decide_eq_true h ▸ hanswer⟩
    · cases h
  · rintro ⟨userId, created, view, hanswer⟩
    unfold handedOut
    rw [hanswer]
    exact decide_eq_true rfl

theorem not_notPayable {i : Nat} (hbefore : (!handedOut o i c) = true)
    (hafter : handedOut o i c' = true) : ¬ NotPayable o c c' := by
  intro h
  rw [handedOut_iff.mpr (h i (handedOut_iff.mp hafter))] at hbefore
  cases hbefore

/-- The condition is met by a shop in which the only payment is captured. -/
theorem captured_not_payable_paid :
    ∃ c c' : HostileConfig, OrderCaptured c.state 0 ∧ c.answer 4 = none ∧
      (c'.answer 4).isSome ∧ NotPayable 0 c c' := by
  have hrun : (followUncrossed (services examplePaid) exampleOpening).any (fun c =>
      decide (OrderCaptured c.state 0) && (c.answer 4).isNone &&
        (followUncrossed (services (serve 4 (.initiatePayment 0 0 (.ok "order_2")) 1)) c).any
          fun c' => (c'.answer 4).isSome) = true := by
    decide +kernel
  obtain ⟨c, hc, h⟩ := followUncrossed_any hrun
  obtain ⟨h, hlater⟩ := Bool.and_eq_true_iff.mp h
  obtain ⟨hcaptured, hnone⟩ := Bool.and_eq_true_iff.mp h
  obtain ⟨c', hc', hsome⟩ := followUncrossed_any hlater
  exact ⟨c, c', of_decide_eq_true hcaptured, Option.isNone_iff_eq_none.mp hnone, hsome,
    captured_not_payable hc (of_decide_eq_true hcaptured) hc'⟩

/-- A capture that arrives after a failed payment is recorded without the order being paid,
and the customer can then open a second payment. -/
theorem captured_payable_after_failure :
    ¬ ∀ (gateway : Gateway) (paymentAccounts : Table PaymentAccount) (stores : Table Store)
      (users : Table User) (c c' : HostileConfig) (o : Nat),
        ReachesAny gateway (.initial paymentAccounts stores users) c →
          OrderCaptured c.state o → ReachesAny gateway c c' → NotPayable o c c' := by
  have hrun : (followAny (fun _ _ => True) (services (exampleOrder ++
      deliver 2 0 "failed pay_1" ++ deliver 4 1 "captured pay_2")) exampleOpening).any (fun c =>
        decide (OrderCaptured c.state 0) && !handedOut 0 6 c &&
          (followAny (fun _ _ => True)
            (services (serve 6 (.initiatePayment 0 0 (.ok "order_2")) 6)) c).any
              fun c' => handedOut 0 6 c') = true := by
    decide +kernel
  obtain ⟨c, hc, h⟩ := exec_any hrun
  obtain ⟨h, hlater⟩ := Bool.and_eq_true_iff.mp h
  obtain ⟨hcaptured, hbefore⟩ := Bool.and_eq_true_iff.mp h
  obtain ⟨c', hc', hafter⟩ := exec_any hlater
  exact fun hall => not_notPayable hbefore hafter
    (hall _ _ _ _ c c' 0 hc (of_decide_eq_true hcaptured) hc')

/-- Nor does it help that the order is paid by the capture: a call that has found it pending goes
on and hands out an attempt. -/
theorem captured_payable_in_flight :
    ¬ ∀ (gateway : Gateway) (paymentAccounts : Table PaymentAccount) (stores : Table Store)
      (users : Table User) (c c' : HostileConfig) (o : Nat),
        ReachesWhen gateway CapturesPaid (.initial paymentAccounts stores users) c →
          OrderCaptured c.state o → ReachesWhen gateway CapturesPaid c c' → NotPayable o c c' := by
  have hrun : (followAny CapturesPaid (services (exampleOrder ++
      serve 2 (.initiatePayment 0 0 (.ok "order_2")) 3 ++ deliver 3 0 "captured pay_1"))
        exampleOpening).any (fun c => decide (OrderCaptured c.state 0) && !handedOut 0 2 c &&
          (followAny CapturesPaid (services [.advance 2]) c).any fun c' => handedOut 0 2 c') =
            true := by
    decide +kernel
  obtain ⟨c, hc, h⟩ := exec_any hrun
  obtain ⟨h, hlater⟩ := Bool.and_eq_true_iff.mp h
  obtain ⟨hcaptured, hbefore⟩ := Bool.and_eq_true_iff.mp h
  obtain ⟨c', hc', hafter⟩ := exec_any hlater
  exact fun hall => not_notPayable hbefore hafter
    (hall _ _ _ _ c c' 0 hc (of_decide_eq_true hcaptured) hc')

end PrintForge
