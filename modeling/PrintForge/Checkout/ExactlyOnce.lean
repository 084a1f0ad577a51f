import PrintForge.Checkout.Served
import PrintForge.Concurrent.Readers

/-!
# Checkout is exactly once

Whatever calls there are, with whichever keys, in whatever order their statements come and
wherever they fail: what has been ordered since the start is a list of placements. No two have a
key in common, or an order, or an item of a cart. Every reply names the order of its key, and a
call with the key of an order that is there does nothing but read.
-/

namespace PrintForge.Checkout

open Relational Concurrent JavaScript Numeric Catalogue

variable {decimalOf : String → DecimalText} {w₀ : World} {c c' : CheckoutConfig}

/-! ## Runs -/

/-- Any requests at all. -/
def Terms.any (start : World) : Terms := ⟨start, False, fun _ => none⟩

theorem admits_any (start : World) (req : Request) : (Terms.any start).Admits req := by
  cases req with
  | checkout limit userId dto key fault => exact fun _ _ n hn => by cases hn
  | updateCoupon tenantId id dto failsAt => trivial
  | reserve tenantId limitKey period amount limit failsAt =>
      exact ⟨fun h => h.elim, fun n hn => by cases hn⟩
  | decrement tenantId limitKey period amount failsAt => exact fun h => h.elim
  | cart change => trivial
  | elsewhere edit => trivial
  | tick milliseconds => trivial

theorem holds_of_run {T : Terms} {adm : Request → Locked World Key → Prop}
    (hadm : ∀ req s, adm req s → T.Admits req) (hfresh : Fresh T.start)
    (hrun : Run (handle decimalOf) adm (fun a s => Unblocked a s ∧ True) ⟨⟨T.start, []⟩, []⟩ c) :
    (protocol T).discipline.Holds (fun _ => Replies) c := by
  have hstart : (protocol T).discipline.Holds (fun _ => Replies)
      (⟨⟨T.start, []⟩, []⟩ : CheckoutConfig) :=
    Discipline.holds_idle ⟨Locked.exclusive_nil, hfresh.books⟩
  exact hstart.run (Nat.zero_le _)
    (fun i req s _ _ h => safe_handle decimalOf i req (hadm req s h)) hrun

theorem holds_of_reaches (hfresh : Fresh w₀)
    (hrun : Reaches decimalOf (fun _ _ => True) ⟨⟨w₀, []⟩, []⟩ c) :
    (protocol (.any w₀)).discipline.Holds (fun _ => Replies) c :=
  holds_of_run (T := .any w₀) (fun req _ _ => admits_any w₀ req) hfresh hrun

/-! ## Exactly once -/

theorem History.pairwise {placements : List Placement} (h : History w₀ placements) :
    placements.Pairwise fun p q => p.key ≠ q.key ∧ p.orderId ≠ q.orderId ∧
      p.items.Disjoint q.items := by
  induction placements with
  | nil => exact .nil
  | cons p earlier ih =>
      refine .cons (fun q hq => ?_) (ih h.2)
      exact ⟨(h.1.key q hq).symm, (h.1.orderId q hq).symm, fun item hp hq' =>
        h.1.items q hq item hp hq'⟩

theorem History.follows {placements earlier : List Placement} {p : Placement}
    (h : History w₀ placements) (hp : p :: earlier <:+ placements) : Follows w₀ earlier p := by
  induction placements with
  | nil => cases List.suffix_nil.mp hp
  | cons q rest ih =>
      obtain hq | hq := List.suffix_cons_iff.mp hp
      · obtain ⟨rfl, rfl⟩ := List.cons.inj hq
        exact h.1
      · exact ih h.2 hq

theorem History.of_mem {placements : List Placement} {p : Placement} (h : History w₀ placements)
    (hp : p ∈ placements) : ∃ earlier, Follows w₀ earlier p := by
  obtain ⟨front, earlier, rfl⟩ := List.append_of_mem hp
  exact ⟨earlier, h.follows (List.suffix_append _ _)⟩

/-- What has been ordered since the start is what has been placed. -/
structure ExactlyOnce (start w : World) : Prop where
  apart : w.placements.Pairwise fun p q => p.key ≠ q.key ∧ p.orderId ≠ q.orderId ∧
    p.items.Disjoint q.items
  orders : ∀ order ∈ w.orders, order ∈ start.orders ∨ ∃ p ∈ w.placements, p.orderId = order.id
  keys : ∀ row ∈ w.idempotencyKeys, row ∈ start.idempotencyKeys ∨
    ∃ p ∈ w.placements, p.key = row.key
  keyed : ∀ row ∈ w.idempotencyKeys, ∃ order ∈ w.orders, row.resultOrderId = some order.id ∧
    order.userId = row.userId
  new : ∀ p ∈ w.placements, (∀ order ∈ start.orders, order.id ≠ p.orderId) ∧
    ∀ row ∈ start.idempotencyKeys, row.key ≠ p.key
  row : ∀ p ∈ w.placements, ∃ row ∈ w.idempotencyKeys, row.key = p.key ∧ row.userId = p.userId ∧
    row.resultOrderId = some p.orderId
  order : ∀ p ∈ w.placements, ∃ order ∈ w.orders, order.id = p.orderId ∧
    order.userId = p.userId ∧ order.tenantId = p.tenantId
  consumed : ∀ p ∈ w.placements, p.items ≠ [] ∧ ∀ item ∈ p.items,
    w.shop.cartItems.get item.1 = none

theorem Books.exactlyOnce {T : Terms} {w : World} (h : Books T w) : ExactlyOnce T.start w where
  apart := h.history.pairwise
  orders := h.orders
  keys := h.keys
  keyed := h.keyed
  new p hp := by
    obtain ⟨earlier, hfollows⟩ := h.history.of_mem hp
    exact ⟨hfollows.newOrder, hfollows.newKey⟩
  row p hp := (h.placed p hp).row
  order p hp := by
    obtain ⟨order, horder, hid, huser, htenant, -⟩ := (h.placed p hp).order
    exact ⟨order, horder, hid, huser, htenant⟩
  consumed p hp := by
    obtain ⟨earlier, hfollows⟩ := h.history.of_mem hp
    exact ⟨hfollows.items_ne_nil, fun item hitem => ((h.placed p hp).consumed item hitem).2⟩

/-- In every run orders are placed exactly once, and answers name the order of their key. -/
theorem checkout_exactly_once (hfresh : Fresh w₀)
    (hrun : Reaches decimalOf (fun _ _ => True) ⟨⟨w₀, []⟩, []⟩ c) :
    ExactlyOnce w₀ c.state.db ∧
      ∀ i limit userId dto key fault reply,
        c.answer i = some (Request.checkout limit userId dto key fault, .ok (some reply)) →
          Answered userId key reply c.state.db := by
  have hholds := holds_of_reaches hfresh hrun
  refine ⟨hholds.inv.2.exactlyOnce, fun i limit userId dto key fault reply hi => ?_⟩
  exact hholds.outcome (Config.flight_of_answer hi) limit userId dto key fault reply rfl rfl

theorem fresh_exampleWorld : Fresh exampleWorld where
  placements := rfl
  keyed row hrow := absurd hrow List.not_mem_nil
  lines line hline := absurd hline List.not_mem_nil
  usedCount := by
    decide
  reduces coupon hcoupon := by
    obtain rfl := List.mem_singleton.mp hcoupon
    exact ⟨by decide, fun amount hamount => by cases hamount⟩

def exampleCheckout : Request := .checkout ⟨some 5, true⟩ 0 exampleDto "key" none

/-- Of two calls with one key the second looks for the key before the first has begun. -/
def exampleCalls : List (Action Request) :=
  [.accept exampleCheckout, .accept exampleCheckout, .advance 1] ++
    List.replicate 23 (.advance 0) ++ List.replicate 7 (.advance 1)

/-- Both calls are answered with the one order. -/
theorem checkout_exactly_once_twice : ∃ c : CheckoutConfig,
    c.state.db.placements.length = 1 ∧ (c.answer 0).any (·.2.toOption = some (some ⟨0, true⟩)) ∧
      (c.answer 1).any (·.2.toOption = some (some ⟨0, false⟩)) ∧
      ExactlyOnce exampleWorld c.state.db := by
  have hcalls : (exec (handle exampleDecimalOf) (fun _ _ => True)
      (fun a s => Unblocked a s ∧ True) exampleCalls ⟨⟨exampleWorld, []⟩, []⟩).any (fun c =>
        decide (c.state.db.placements.length = 1) &&
        ((c.answer 0).any (·.2.toOption = some (some ⟨0, true⟩)) &&
          (c.answer 1).any (·.2.toOption = some (some ⟨0, false⟩)))) = true := by
    decide +kernel
  obtain ⟨c, hexec, h⟩ := (Option.any_eq_true ..).mp hcalls
  simp only [Bool.and_eq_true, decide_eq_true_eq] at h
  exact ⟨c, h.1, h.2.1, h.2.2, (checkout_exactly_once fresh_exampleWorld (exec_run hexec)).1⟩

/-! ## A key that has its order -/

/-- What a call with the key of an order is answered. -/
def replayedAnswer (row : IdempotencyKey) (orderId userId : Nat) (fault : Option Fault) :
    Except HttpError (Option OrderReply) :=
  if fault = some .lookup then
    .error connectionLost
  else if row.userId ≠ userId then
    .error (.conflict "Idempotency key already in use")
  else if fault = some .view then
    .error connectionLost
  else
    .ok (some ⟨orderId, false⟩)

/-- The key has its order. -/
structure HasOrder (row : IdempotencyKey) (orderId : Nat) (w : World) : Prop where
  mem : row ∈ w.idempotencyKeys
  order : ∃ order ∈ w.orders, order.id = orderId ∧ order.userId = row.userId
  result : row.resultOrderId = some orderId

section Replay

variable {row : IdempotencyKey} {orderId i userId : Nat} {limit : ResolvedLimit}
variable {dto : CreateOrderDto} {fault : Option Fault}

theorem HasOrder.later {w w' : World} (h : HasOrder row orderId w) (hw : Onward w w') :
    HasOrder row orderId w' where
  mem := hw.keys row h.mem
  order := by
    obtain ⟨order, horder, hfields⟩ := h.order
    exact ⟨order, hw.orders order horder, hfields⟩
  result := h.result

theorem HasOrder.findFirst {w : World} (h : HasOrder row orderId w) :
    w.idempotencyKeys.findFirst (·.key = row.key) = some row :=
  Table.findFirst_eq_some h.mem (decide_eq_true rfl) fun _ hr hkey =>
    Table.eq_of_clash hr h.mem (.inl (of_decide_eq_true hkey))

theorem readsOnly_viewUnless (huser : row.userId = userId) :
    (viewUnless fault orderId userId false).ReadsOnly
      (fun s => HasOrder row orderId s.db)
      (Eq (if fault = some .view then .error connectionLost else .ok ⟨orderId, false⟩)) := by
  unfold viewUnless
  split
  · exact rfl
  · intro s hs
    obtain ⟨order, horder, rfl, howner⟩ := hs.order
    have hfound : (s.db.orders.get order.id).filter (·.userId = userId) = some order :=
      Option.filter_eq_some_iff.mpr ⟨Table.get_key horder, decide_eq_true (howner.trans huser)⟩
    dsimp only
    rw [hfound]
    exact rfl

theorem readsOnly_checkout :
    (handle decimalOf i (.checkout limit userId dto row.key fault)).ReadsOnly
      (fun s => HasOrder row orderId s.db) (· = replayedAnswer row orderId userId fault) := by
  rw [handle, Proc.map_def]
  refine Proc.ReadsOnly.finish (P := fun r => r.map some = replayedAnswer row orderId userId fault)
    ?_ fun _ hr => hr
  unfold checkout replayedAnswer
  split
  · exact rfl
  · intro s hs
    dsimp only
    rw [hs.findFirst]
    show Proc.ReadsOnly _ _ (replay row userId fault)
    unfold replay
    split
    · exact rfl
    · next huser =>
      rw [hs.result]
      refine (readsOnly_viewUnless (not_not.mp huser)).mono fun r hr => ?_
      subst hr
      split <;> rfl

/-- Once a key has its order, no later call with the key writes anything. It is answered with the
order if it is a call of the same user, and refused if it is not. -/
theorem later_call_reads_only {j : Nat}
    {p : Proc (Locked World Key) (Entry Key Commit) HttpError (Option OrderReply)}
    (hfresh : Fresh w₀) (hrun : Reaches decimalOf (fun _ _ => True) ⟨⟨w₀, []⟩, []⟩ c)
    (hrow : row ∈ c.state.db.idempotencyKeys)
    (hafter : Reaches decimalOf (fun _ _ => True) c c') (hj : c.flights.length ≤ j)
    (hp : c'.flights[j]? = some (.checkout limit userId dto row.key fault, p)) :
    p.label = none ∧ ∃ orderId, row.resultOrderId = some orderId ∧
      ∀ r, p = .done r → r = replayedAnswer row orderId userId fault := by
  have hholds := holds_of_reaches hfresh hrun
  obtain ⟨order, horder, hresult, howner⟩ := hholds.inv.2.keyed row hrow
  have hhas : HasOrder row order.id c.state.db := ⟨hrow, ⟨order, horder, rfl, howner⟩, hresult⟩
  have hkept : ∀ b, Reaches decimalOf (fun _ _ => True) c b →
      HasOrder row order.id b.state.db := by
    intro b hb
    induction hb with
    | refl => exact hhas
    | @tail b b' hbefore hstep ih =>
        obtain hsame | ⟨i, ℓ, -, hguar⟩ := (hholds.run (Nat.le_refl _)
          (fun i req s _ _ _ => safe_handle decimalOf i req (admits_any w₀ req))
          hbefore).commit hstep
        · rw [hsame]
          exact ih
        · exact ih.later hguar.2.1.onward
  have hreads : p.ReadsOnly (fun s => HasOrder row order.id s.db)
      (· = replayedAnswer row order.id userId fault) := by
    refine readsOnly_of_run (fun req => ∃ limit dto, req = .checkout limit userId dto row.key fault)
      (fun _ r => r = replayedAnswer row order.id userId fault) hkept ?_ hafter hj hp
      ⟨limit, dto, rfl⟩
    rintro i req ⟨limit, dto, rfl⟩
    exact readsOnly_checkout
  refine ⟨hreads.label, order.id, hresult, fun r hr => ?_⟩
  subst hr
  exact hreads

/-- A call that comes after the order is answered with the order. -/
theorem later_call_reads_only_again : ∃ (c' : CheckoutConfig)
    (p : Proc (Locked World Key) (Entry Key Commit) HttpError (Option OrderReply)),
    c'.flights[1]? = some (exampleCheckout, p) ∧ p.ended = true ∧ p.label = none ∧
      ∀ r, p = .done r → r = .ok (some ⟨0, false⟩) := by
  have hcalls : (exec (handle exampleDecimalOf) (fun _ _ => True)
      (fun a s => Unblocked a s ∧ True) (.accept exampleCheckout :: List.replicate 23 (.advance 0))
      ⟨⟨exampleWorld, []⟩, []⟩).any (fun c =>
        decide (c.flights.length = 1) &&
        (c.state.db.idempotencyKeys.findFirst (·.key = "key")).any (fun row =>
          decide (row.userId = 0 ∧ row.resultOrderId = some 0)) &&
        (exec (handle exampleDecimalOf) (fun _ _ => True) (fun a s => Unblocked a s ∧ True)
          [.accept exampleCheckout, .advance 1, .advance 1] c).any fun c' =>
            c'.flights[1]?.any (·.2.ended)) = true := by
    decide +kernel
  obtain ⟨c, hexec, h⟩ := (Option.any_eq_true ..).mp hcalls
  simp only [Bool.and_eq_true, decide_eq_true_eq] at h
  obtain ⟨⟨hlength, hrow⟩, hlater⟩ := h
  obtain ⟨row, hfound, hrow⟩ := (Option.any_eq_true ..).mp hrow
  obtain ⟨huser, hresult⟩ := of_decide_eq_true hrow
  obtain ⟨hmem, hkey⟩ := Table.findFirst_some hfound
  obtain ⟨c', hexec', hended⟩ := (Option.any_eq_true ..).mp hlater
  obtain ⟨⟨req, p⟩, hp, hended⟩ := (Option.any_eq_true ..).mp hended
  have haccepted : (c.flights ++ [(exampleCheckout, handle exampleDecimalOf c.flights.length
      exampleCheckout)])[1]? = some (exampleCheckout, _) :=
    hlength ▸ List.getElem?_concat_length
  have hserved : exec (handle exampleDecimalOf) (fun _ _ => True) (fun a s => Unblocked a s ∧ True)
      [.advance 1, .advance 1] ⟨c.state, c.flights ++ [(exampleCheckout,
        handle exampleDecimalOf c.flights.length exampleCheckout)]⟩ = some c' := hexec'
  obtain ⟨p', hp'⟩ := (exec_run hserved).flight_later haccepted
  cases hp.symm.trans hp'
  have hcall : exampleCheckout = .checkout ⟨some 5, true⟩ 0 exampleDto row.key none := by
    rw [of_decide_eq_true hkey]
    rfl
  have hanswered : replayedAnswer row 0 0 none = .ok (some ⟨0, false⟩) := by
    simp [replayedAnswer, huser]
  obtain ⟨hlabel, orderId, hid, hanswer⟩ := later_call_reads_only fresh_exampleWorld
    (exec_run hexec) hmem (exec_run hexec') hlength.le (hcall ▸ hp)
  cases hid.symm.trans hresult
  exact ⟨c', p, hp, hended, hlabel, fun r hr => (hanswer r hr).trans hanswered⟩

end Replay

end PrintForge.Checkout
