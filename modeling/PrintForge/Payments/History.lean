import PrintForge.Orders.StateMachine
import PrintForge.Payments.Evolution
import PrintForge.Payments.OrderGuarantees

/-!
# The history of an order

Every transaction that changes the status of an order writes the history row of the change. The
retry of a failed payment does not: it puts the order back to pending in one statement and writes
the row in another, and between the two the history says something else than the order. `Reopens`
is that first statement, made where it finds a failed order. Until one is made, in a run of
whichever requests, the history of every order leads from its creation to the status it has.
-/

namespace PrintForge

open Relational Concurrent Proc Function

variable {gateway : Gateway} {w w' : World} {α β : Type}

def statusOf (w : World) (o : Nat) : Option OrderStatus := (w.orders.get o).map (·.status)

/-- The history rows of an order, oldest first. -/
def historyOf (w : World) (o : Nat) : List (Option OrderStatus × OrderStatus) :=
  (w.orderStatusHistory.findMany (·.orderId = o)).map fun h => (h.fromStatus, h.toStatus)

/-- The history leads from nothing to the status of the order. -/
def Faithful (w : World) (order : Order) : Prop :=
  Leads orderEdge none (historyOf w order.id) (some order.status)

instance (w : World) : DecidablePred (Faithful w) :=
  fun order => inferInstanceAs (Decidable (Leads orderEdge none (historyOf w order.id) _))

/-! ## What transactions add to the histories -/

/-- What the histories have gained leads from the old statuses to the new ones. -/
def Moves (w w' : World) : Prop :=
  ∀ o, ∃ more, historyOf w' o = historyOf w o ++ more ∧
    Leads orderEdge (statusOf w o) more (statusOf w' o)

instance : Std.Refl Moves := ⟨fun _ _ => ⟨[], (List.append_nil _).symm, rfl⟩⟩

instance : IsTrans World Moves := by
  refine ⟨fun w w₁ w' h h' o => ?_⟩
  obtain ⟨more, hmore, hleads⟩ := h o
  obtain ⟨more', hmore', hleads'⟩ := h' o
  refine ⟨more ++ more', ?_, hleads.append hleads'⟩
  rw [hmore', hmore, List.append_assoc]

theorem SameCourse.moves (h : SameCourse w w') : Moves w w' := by
  refine fun o => ⟨[], ?_, h.1 o⟩
  rw [historyOf, h.2, List.append_nil]
  rfl

theorem moves_of_eq (ho : w'.orders = w.orders)
    (hh : w'.orderStatusHistory = w.orderStatusHistory) : Moves w w' :=
  (sameCourse_of_eq ho hh).moves

/-- One order is moved along an edge, with the row that says so. -/
theorem moves_of_edge {o : Nat} {target : OrderStatus} (hedge : orderEdge (statusOf w o) target)
    (hstatus : statusOf w' o = some target)
    (hhistory : historyOf w' o = historyOf w o ++ [(statusOf w o, target)])
    (hother : ∀ o', o' ≠ o → statusOf w' o' = statusOf w o' ∧ historyOf w' o' = historyOf w o') :
    Moves w w' := by
  intro o'
  by_cases ho : o' = o
  · subst ho
    refine ⟨_, hhistory, ?_⟩
    rw [hstatus]
    exact leads_single hedge
  · refine ⟨[], ?_, (hother o' ho).1⟩
    rw [(hother o' ho).2, List.append_nil]

theorem moves_of_update {o : Nat} {target : OrderStatus} {L : Ledger}
    (hedge : orderEdge (statusOf w o) target) (h : ledger w' = update (ledger w) o L)
    (hstatus : L.status = some target)
    (hhistory : L.history = historyOf w o ++ [(statusOf w o, target)]) : Moves w w' := by
  refine moves_of_edge hedge ?_ ?_ fun o' ho => ?_
  · change (ledger w' o).status = _
    rw [h, update_self, hstatus]
  · change (ledger w' o).history = _
    rw [h, update_self, hhistory]
  · have hsame : ledger w' o' = ledger w o' := by rw [h, update_of_ne ho]
    exact ⟨congrArg Ledger.status hsame, congrArg Ledger.history hsame⟩

theorem moves_transitionOrder (order : Order) (target : OrderStatus)
    (changedByUserId : Option Nat) (note : String) :
    Tx.Within Moves (transitionOrder order target changedByUserId note :
      Transaction (Option Order)) := by
  intro w r w' h
  obtain ⟨hallowed, ⟨-, hs, hw'⟩ | ⟨-, -, rfl⟩⟩ := transitionOrder_ok h
  · have hstatus : statusOf w order.id = some order.status := hs
    refine moves_of_update ?_ hw' rfl ?_
    · rw [hstatus]
      exact hallowed
    · rw [hstatus]
      rfl
  · exact Std.Refl.refl w'

theorem moves_transitionOrderWithHistory (order : Order) (target : OrderStatus) (actor : Actor)
    (reason : Option String) (refundPending : Bool) :
    Tx.Within Moves (transitionOrderWithHistory order target actor reason refundPending) := by
  intro w _ w' h
  have hmoved : ∀ {k : Ledger.Kind}, k = .still ∨ k = .move target →
      Posts k order.id w w' → Moves w w' := by
    rintro k hk ⟨hstep, hframe⟩
    have hother : ∀ o', o' ≠ order.id →
        statusOf w' o' = statusOf w o' ∧ historyOf w' o' = historyOf w o' :=
      fun o' ho => ⟨congrArg Ledger.status (hframe o' ho), congrArg Ledger.history (hframe o' ho)⟩
    generalize hL : ledger w order.id = L at hstep
    generalize hL' : ledger w' order.id = L' at hstep
    have hs : statusOf w order.id = L.status := congrArg Ledger.status hL
    have hs' : statusOf w' order.id = L'.status := congrArg Ledger.status hL'
    have hh : historyOf w order.id = L.history := congrArg Ledger.history hL
    have hh' : historyOf w' order.id = L'.history := congrArg Ledger.history hL'
    cases hstep with
    | still =>
        intro o'
        by_cases ho : o' = order.id
        · subst ho
          exact ⟨[], by rw [hh', hh, List.append_nil], hs'.trans hs.symm⟩
        · exact ⟨[], by rw [(hother o' ho).2, List.append_nil], (hother o' ho).1⟩
    | move hstatus hallowed hfresh =>
        refine moves_of_edge (o := order.id) ?_ hs' ?_ hother
        · rw [hs, hstatus]
          exact hallowed
        · rw [hh', hh, hs, hstatus]
    | _ => simp at hk
  obtain hstill | ⟨-, hmove⟩ := transitionOrderWithHistory_ok h
  · exact hmoved (.inl rfl) hstill
  · exact hmoved (.inr rfl) hmove

/-- A new order is pending, and its first row says so. -/
theorem moves_createOrder (data : CheckoutOrder) : Tx.Within Moves (createOrder data) := by
  intro w _ w' h
  unfold createOrder at h
  obtain ⟨order, w₁, hcreate, h₁⟩ := Tx.bind_ok.mp h
  obtain ⟨row, w₂, hhist, hret⟩ := Tx.bind_ok.mp h₁
  cases hret
  obtain ⟨t, ht, horder, rfl⟩ := Slot.create_ok hcreate
  obtain ⟨t', ht', hrow, rfl⟩ := Slot.create_ok hhist
  have hid : order.id = w.orders.nextKey := by
    rw [horder]
    rfl
  have hnone : statusOf w order.id = none := by
    rw [statusOf, hid, Table.get_eq_none_of_le (Nat.le_refl _)]
    rfl
  have hget : ∀ o, t.get o = if o = w.orders.nextKey then _ else w.orders.get o :=
    Table.get_create ht
  have hrows : t'.rows = w.orderStatusHistory.rows ++ [_] := Table.rows_create ht'
  refine moves_of_edge (?_ : orderEdge (statusOf w order.id) .pendingPayment) ?_ ?_ fun o ho => ?_
  · rw [hnone]
    rfl
  · change (t.get order.id).map _ = _
    rw [hget, if_pos hid]
    rfl
  · rw [hnone]
    simp [historyOf, Db.orderStatusHistory, Table.findMany, hrows]
  · refine ⟨?_, ?_⟩
    · change (t.get o).map _ = _
      rw [hget, if_neg fun he => ho (he.trans hid.symm)]
      rfl
    · simp [historyOf, Db.orderStatusHistory, Table.findMany, hrows, Ne.symm ho]

theorem moves_system : SystemFrame Moves where
  refl := inferInstance
  trans := inferInstance
  transition := moves_transitionOrder
  outbox _ _ := moves_of_eq rfl rfl
  attempts _ _ := moves_of_eq rfl rfl
  newAttempt _ _ := moves_of_eq rfl rfl
  transitionWithHistory := moves_transitionOrderWithHistory
  place := moves_createOrder
  findOrCreate := within_findOrCreateAttemptFor fun _ _ => moves_of_eq rfl rfl
  refunds _ _ := moves_of_eq rfl rfl
  events _ := moves_of_eq rfl rfl
  books _ _ _ := moves_of_eq rfl rfl

theorem Plain.moves {ℓ : Commit} {upd : World → World} (h : Plain ℓ upd) (w : World) :
    Moves w (upd w) := by
  by_cases hℓ : ℓ = .statement
  · exact (h.course hℓ w).moves
  · exact h.written.transaction moves_system hℓ w

/-! ## Reopening a failed order -/

/-- The conditional update that puts a failed order back to pending. -/
def reopenWrite (order : Order) : World → World :=
  applied (Db.orders.updateMany (fun o => o.id = order.id && o.status = order.status)
    fun o => { o with status := .pendingPayment } : Transaction Nat)

/-- The process is about to make that update, and there is a failed order for it. -/
def AboutToReopen (p : Service α) (w : World) : Prop :=
  ∃ order row, p.write = some (.statement, reopenWrite order) ∧ order.status = .paymentFailed ∧
    w.orders.get order.id = some row ∧ row.status = .paymentFailed

/-- Where there is a failed order for it, the update changes its status and no history. -/
theorem reopenWrite_ledger {order row : Order} (hfailed : order.status = .paymentFailed)
    (hrow : w.orders.get order.id = some row) (hstatus : row.status = .paymentFailed) :
    ledger (reopenWrite order w) = update (ledger w) order.id
      { ledger w order.id with status := some .pendingPayment } := by
  unfold reopenWrite
  cases hcas : (Db.orders.updateMany (fun o => o.id = order.id && o.status = order.status)
      (fun o => { o with status := .pendingPayment }) : Transaction Nat) w with
  | ok r =>
      rw [applied_ok hcas]
      obtain ⟨-, -, hledger⟩ | ⟨-, hs, -⟩ := casStatus_ok hcas
      · exact hledger
      · refine absurd ?_ hs
        rw [ledger_status_of_get hrow, hstatus, hfailed]
  | error e =>
      refine absurd hcas (Slot.updateMany_ne_error fun a _ b _ hclash => ?_)
      have hsame : ∀ o : Order, (if (decide (o.id = order.id) && decide (o.status = order.status))
          then { o with status := .pendingPayment } else o).razorpayOrderId =
            o.razorpayOrderId := by
        intro o
        split
        · rfl
        · rfl
      obtain ⟨heq, hne⟩ := hclash
      rw [hsame] at hne
      rw [hsame, hsame] at heq
      exact ⟨heq, hne⟩

/-- Until it reopens an order, the process moves orders with their histories. -/
def Straight : Service α → Prop
  | .done _ => True
  | .query next => ∀ w, Straight (next w)
  | .commit ℓ upd next => ∀ w,
      ¬ AboutToReopen (.commit ℓ upd next : Service α) w → Moves w (upd w) ∧ Straight (next w)

theorem Straight.finish {p : Service α} {k : Except ServiceError α → Service β} (h : Straight p)
    (hk : ∀ r, Straight (k r)) : Straight (p.finish k) := by
  induction p with
  | done r => exact hk r
  | query next ih => exact fun w => ih w (h w)
  | commit ℓ upd next ih => exact fun w hnot => ⟨(h w hnot).1, ih w (h w hnot).2⟩

theorem Straight.bind {p : Service α} {f : α → Service β} (h : Straight p)
    (hf : ∀ a, Straight (f a)) : Straight (p >>= f) := by
  refine h.finish fun r => ?_
  cases r with
  | ok a => exact hf a
  | error e => trivial

theorem straight_of_plain {p : Service α} (h : p.Commits Plain) : Straight p := by
  induction p with
  | done r => trivial
  | query next ih => exact fun w => ih w (h w)
  | commit ℓ upd next ih => exact fun w _ => ⟨h.1.moves w, ih w (h.2 w)⟩

/-- Where there is no failed order the update finds nothing, and the row is not written. -/
theorem straight_reopen {order : Order} (hfailed : order.status = .paymentFailed)
    {k : Except ServiceError Nat → Service α} (hmiss : ∀ n, n ≠ 1 → Straight (k (.ok n)))
    (herr : ∀ e, Straight (k (.error e))) :
    Straight ((execute (Db.orders.updateMany
      (fun o => o.id = order.id && o.status = order.status)
      fun o => { o with status := .pendingPayment } : Transaction Nat) :
        Service Nat).finish k) := by
  intro w hnot
  cases hcas : (Db.orders.updateMany (fun o => o.id = order.id && o.status = order.status)
      (fun o => { o with status := .pendingPayment }) : Transaction Nat) w with
  | ok r =>
      obtain ⟨n, w'⟩ := r
      simp only [hcas]
      obtain ⟨-, hs, -⟩ | ⟨hn, -, rfl⟩ := casStatus_ok hcas
      · obtain ⟨row, hrow, hstatus⟩ := Option.map_eq_some_iff.mp hs
        exact absurd ⟨order, row, rfl, hfailed, hrow, hstatus.trans hfailed⟩ hnot
      · exact ⟨Std.Refl.refl _, hmiss n hn⟩
  | error e =>
      simp only [hcas]
      exact ⟨Std.Refl.refl _, herr e⟩

theorem straight_reopenOrder (order : Order) (userId : Nat) :
    Straight (reopenOrder order userId) := by
  unfold reopenOrder
  split
  · next hfailed =>
    refine Straight.bind ?_ fun transitioned => ?_
    · unfold transitionOrder
      split
      · trivial
      · refine straight_reopen hfailed (fun n hn => ?_) fun e => trivial
        simp only [onResult, ne_eq, hn, not_false_eq_true, if_true]
        trivial
    · cases transitioned with
      | none => exact straight_of_plain (commits_findUniqueOrderOrThrow _)
      | some reopened => trivial
  · trivial

theorem straight_handle (n : Nat) (req : Request) : Straight (handle gateway n req) := by
  by_cases hreq : ∃ userId orderId created, req = .initiatePayment userId orderId created
  · obtain ⟨userId, orderId, created, rfl⟩ := hreq
    have hinitiate : Straight (initiatePayment gateway userId orderId created) := by
      refine Straight.bind (straight_of_plain (commits_query _)) fun found => ?_
      cases found with
      | none => trivial
      | some order =>
          refine Straight.bind (straight_reopenOrder _ _) fun order => ?_
          split
          · trivial
          · exact straight_of_plain (commits_payable payableWrites_plain gateway order created)
    exact hinitiate.bind fun _ => trivial
  · refine straight_of_plain (commits_handle_plain n req fun userId orderId created he => ?_)
    exact hreq ⟨userId, orderId, created, he⟩

/-! ## Runs -/

/-- The step puts an order back to pending that is failed. -/
def Reopens (c c' : PaymentConfig) : Prop :=
  ∃ i req p, c.flights[i]? = some (req, p) ∧ AboutToReopen p c.state ∧
    Advances (fun _ _ => True) i c c'

/-- A step of the payment system, whatever is asked for. -/
abbrev Steps (gateway : Gateway) : PaymentConfig → PaymentConfig → Prop :=
  Step (handle gateway) (fun _ _ => True) (fun _ _ => True)

/-- A run in which no failed order is reopened. -/
abbrev RunsStraight (gateway : Gateway) : PaymentConfig → PaymentConfig → Prop :=
  Relation.ReflTransGen fun c c' => Steps gateway c c' ∧ ¬ Reopens c c'

/-- Every history leads to the status of its order, and will until an order is reopened. -/
structure OnCourse (c : PaymentConfig) : Prop where
  leads : ∀ o, Leads orderEdge none (historyOf c.state o) (statusOf c.state o)
  straight : ∀ (i : Nat) (req : Request) (p : Service Response),
    c.flights[i]? = some (req, p) → Straight p

variable {c c' : PaymentConfig}

theorem OnCourse.faithful (h : OnCourse c) : ∀ order ∈ c.state.orders, Faithful c.state order := by
  intro order horder
  have hstatus : statusOf c.state order.id = some order.status := ledger_status_of_mem horder
  have hleads := h.leads order.id
  rwa [hstatus] at hleads

theorem onCourse_initial (paymentAccounts : Table PaymentAccount) (stores : Table Store)
    (users : Table User) : OnCourse (.initial paymentAccounts stores users) :=
  ⟨fun _ => rfl, fun i req p hi => by simp [PaymentConfig.initial] at hi⟩

/-- An action that does not reopen an order moves orders with their histories. -/
theorem Straight.step {p p' : Service Response} {w w' : World} (h : Straight p)
    (hnot : ¬ AboutToReopen p w) (hp : p.step w = some (p', w')) :
    Moves w w' ∧ Straight p' := by
  cases p with
  | done r => cases hp
  | query next =>
      cases hp
      exact ⟨Std.Refl.refl w, h w⟩
  | commit ℓ upd next =>
      cases hp
      exact h w hnot

theorem OnCourse.step (h : OnCourse c) (hstep : Steps gateway c c') (hnot : ¬ Reopens c c') :
    OnCourse c' := by
  cases hstep with
  | accept req hadm =>
      refine ⟨h.leads, fun i req' p hi => ?_⟩
      obtain hi | hi := List.mem_append.mp (List.mem_of_getElem? hi)
      · obtain ⟨j, hj⟩ := List.getElem?_of_mem hi
        exact h.straight j req' p hj
      · cases List.mem_singleton.mp hi
        exact straight_handle _ req
  | @advance i req p p' s' hi hp hok =>
      have hmine : ¬ AboutToReopen p c.state := fun habout =>
        hnot ⟨i, req, p, hi, habout, req, p, p', hi, hp, hok, rfl⟩
      obtain ⟨hmoves, hp'⟩ := (h.straight i req p hi).step hmine hp
      refine ⟨fun o => ?_, fun j req' q hj => ?_⟩
      · obtain ⟨more, hmore, hleads⟩ := hmoves o
        rw [hmore]
        exact (h.leads o).append hleads
      · by_cases hij : i = j
        · subst hij
          rw [List.getElem?_set_self (List.getElem?_eq_some_iff.mp hi).1] at hj
          cases hj
          exact hp'
        · rw [List.getElem?_set_ne hij] at hj
          exact h.straight j req' q hj

theorem OnCourse.run (h : OnCourse c) (hrun : RunsStraight gateway c c') : OnCourse c' := by
  induction hrun with
  | refl => exact h
  | tail _ hstep ih => exact ih.step hstep.1 hstep.2

/-- What the update leaves behind: an order that is pending, with the history of one that has
failed. -/
theorem OnCourse.reopens (h : OnCourse c) (hreopens : Reopens c c') :
    ∃ order ∈ c'.state.orders, ¬ Faithful c'.state order := by
  obtain ⟨i, req, p, hi, ⟨order, row, hwrite, hfailed, hrow, hstatus⟩, hadvances⟩ := hreopens
  obtain ⟨req', q, q', hi', hq, -, -⟩ := hadvances
  cases hi.symm.trans hi'
  have hstate : c'.state = reopenWrite order c.state := by
    cases p with
    | done r => cases hwrite
    | query next => cases hwrite
    | commit ℓ upd next =>
        cases hwrite
        exact (Prod.mk.inj (Option.some.inj hq)).2.symm
  have hbefore : statusOf c.state order.id = some .paymentFailed := by
    rw [statusOf, hrow, ← hstatus]
    rfl
  have hledger : ledger c'.state = update (ledger c.state) order.id
      { ledger c.state order.id with status := some .pendingPayment } := by
    rw [hstate]
    exact reopenWrite_ledger hfailed hrow hstatus
  have hafter : statusOf c'.state order.id = some .pendingPayment := by
    change (ledger c'.state order.id).status = _
    rw [hledger, update_self]
  have hhistory : historyOf c'.state order.id = historyOf c.state order.id := by
    change (ledger c'.state order.id).history = _
    rw [hledger, update_self]
    rfl
  obtain ⟨order', horder', hpending⟩ := Option.map_eq_some_iff.mp hafter
  obtain ⟨hmem, hid⟩ := Table.get_eq_some.mp horder'
  have hid : order'.id = order.id := hid
  refine ⟨order', hmem, fun hfaithful => ?_⟩
  have hleads : Leads orderEdge none (historyOf c.state order.id) (some .pendingPayment) := by
    rw [← hhistory, ← hid, ← hpending]
    exact hfaithful
  have hsame := (h.leads order.id).unique hleads
  rw [hbefore] at hsame
  cases hsame

/-- In a run in which no failed order has been reopened, the history of every order is a path to
its status, and so it is after one more step exactly if that step does not reopen one. -/
theorem history_is_path {paymentAccounts : Table PaymentAccount} {stores : Table Store}
    {users : Table User}
    (hrun : RunsStraight gateway (.initial paymentAccounts stores users) c) :
    (∀ order ∈ c.state.orders, Faithful c.state order) ∧
      ∀ c', Steps gateway c c' →
        ((∀ order ∈ c'.state.orders, Faithful c'.state order) ↔ ¬ Reopens c c') := by
  have hc : OnCourse c := (onCourse_initial paymentAccounts stores users).run hrun
  refine ⟨hc.faithful, fun c' hstep => ⟨fun hfaithful hreopens => ?_, fun hnot => ?_⟩⟩
  · obtain ⟨order, horder, hunfaithful⟩ := hc.reopens hreopens
    exact hunfaithful (hfaithful order horder)
  · exact (hc.step hstep hnot).faithful

/-! ### Two runs -/

/-- An order is placed, and its history is its creation. -/
theorem history_is_path_placed :
    ∃ c : PaymentConfig, c.state.orders.rows.length = 1 ∧
      ∀ order ∈ c.state.orders, Faithful c.state order := by
  let req : Request := .checkout ⟨"PF-1", 0, 0, some 0, ⟨10000, -2⟩⟩
  let c : PaymentConfig := ⟨exampleStart.state, [(req, handle exampleGateway 0 req)]⟩
  -- there is no order to reopen before the first is placed
  have hnone : ∀ c' : PaymentConfig, ¬ Reopens c c' := by
    rintro c' ⟨i, req', p, -, ⟨order, row, -, -, hrow, -⟩, -⟩
    exact Table.not_mem_empty row (Table.get_eq_some.mp hrow).1
  have hfirst : ¬ Reopens exampleStart c := by
    rintro ⟨i, req', p, hi, -⟩
    cases hi
  have hrun : RunsStraight exampleGateway exampleStart c :=
    .tail .refl ⟨.accept req trivial, hfirst⟩
  have hplaced : (act (handle exampleGateway) (fun _ _ => True) (fun _ _ => True)
      (.advance 0) c).any (fun c' => decide (c'.state.orders.rows.length = 1)) = true := by
    decide +kernel
  obtain ⟨c', hstep, hone⟩ := act_any hplaced
  exact ⟨c', of_decide_eq_true hone, ((history_is_path hrun).2 c' hstep).mpr (hnone c')⟩

/-- The customer retries a failed payment, and nothing more is heard of the request once it has
put the order back to pending. The payment is then captured. -/
theorem history_broken_by_retry :
    ¬ ∀ (gateway : Gateway) (paymentAccounts : Table PaymentAccount) (stores : Table Store)
      (users : Table User) (c : PaymentConfig),
        Run (handle gateway) (fun _ _ => True) (fun _ _ => True)
          (PaymentConfig.initial paymentAccounts stores users) c →
            ∀ order ∈ c.state.orders, Faithful c.state order := by
  have hrun : (follow (fun _ _ => True) (exampleOrder ++ deliver 2 0 "failed pay_1" ++
      serve 4 (.initiatePayment 0 0 (.ok "order_2")) 2 ++ deliver 5 1 "captured pay_2")
      exampleStart).any (fun c => decide (∃ order ∈ c.state.orders.rows,
        order.status = .paid ∧ ¬ Faithful c.state order)) = true := by
    decide +kernel
  obtain ⟨c, hc, hbroken⟩ := exec_any hrun
  obtain ⟨order, horder, -, hunfaithful⟩ := of_decide_eq_true hbroken
  intro hall
  have hrun' : Run (handle exampleGateway) (fun _ _ => True) (fun _ _ => True) exampleStart c :=
    Run.mono hc (fun _ _ _ => trivial) fun _ _ => id
  exact hunfaithful (hall exampleGateway _ _ _ c hrun' order horder)

end PrintForge
