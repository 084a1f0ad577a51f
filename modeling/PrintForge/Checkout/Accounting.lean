import PrintForge.Checkout.ExactlyOnce
import PrintForge.Checkout.Tax

/-!
# The accounts of a run

What the books say of the orders that a run has made: what each is charged, which coupons were
redeemed for them, how many a tenant has been counted for and how they are numbered.
-/

namespace PrintForge.Checkout

open Relational Concurrent JavaScript Numeric Catalogue

variable {decimalOf : String → DecimalText} {w₀ w : World} {c : CheckoutConfig}
variable {placements earlier : List Placement} {p : Placement}

/-! ## Money -/

/-- An order that was not there at the start was priced when it was placed. -/
theorem Books.priced {T : Terms} {order : Order} (h : Books T w) (horder : order ∈ w.orders)
    (hnew : order ∉ T.start.orders) :
    Priced order (w.orderItems.findMany (·.orderId = order.id)) := by
  obtain hold | ⟨p, hp, hid⟩ := h.orders order horder
  · exact absurd hold hnew
  · obtain ⟨placed, hplaced, hplacedId, -, -, -, hpriced⟩ := (h.placed p hp).order
    obtain rfl : placed = order := Table.eq_of_key hplaced horder (hplacedId.trans hid)
    rwa [hid] at hpriced

/-- Every order that a run has made adds up, and what the provider is asked for is its total. -/
theorem orders_add_up {order : Order} (hfresh : Fresh w₀)
    (hrun : Reaches decimalOf (fun _ _ => True) ⟨⟨w₀, []⟩, []⟩ c)
    (horder : order ∈ c.state.db.orders) (hnew : order ∉ w₀.orders) :
    Priced order (c.state.db.orderItems.findMany (·.orderId = order.id)) ∧
      decimalToPaise order.total.toDecimal = order.total.paise :=
  ⟨(holds_of_reaches hfresh hrun).inv.2.priced horder hnew, decimalToPaise_toDecimal _⟩

/-- Orders are made at all. -/
theorem orders_add_up_once : ∃ (c : CheckoutConfig) (order : Order),
    order ∈ c.state.db.orders ∧ order ∉ exampleWorld.orders ∧
      Priced order (c.state.db.orderItems.findMany (·.orderId = order.id)) := by
  have hcall : (exec (handle exampleDecimalOf) (fun _ _ => True)
      (fun a s => Unblocked a s ∧ True) exampleCalls ⟨⟨exampleWorld, []⟩, []⟩).any (fun c =>
        (c.state.db.orders.get 0).isSome) = true := by
    decide +kernel
  obtain ⟨c, hexec, hsome⟩ := (Option.any_eq_true ..).mp hcall
  obtain ⟨order, hget⟩ := Option.isSome_iff_exists.mp hsome
  have horder : order ∈ c.state.db.orders := (Table.get_eq_some.mp hget).1
  have hnew : order ∉ exampleWorld.orders := List.not_mem_nil
  exact ⟨c, order, horder, hnew,
    (orders_add_up fresh_exampleWorld (exec_run hexec) horder hnew).1⟩

/-! ## Coupons -/

/-- A redemption that the coupon allowed, after those of earlier orders. -/
structure Allowed (start : World) (earlier : List Placement) (p : Placement) (r : Redemption) :
    Prop where
  redeemable : assertRedeemable r.read r.readAt = .ok ()
  claimed : r.claimed.id = r.read.id ∧ r.readAt ≤ r.claimedAt
  tenant : r.read.tenantId = p.tenantId
  total : ∀ limit ∈ r.claimed.usageLimitTotal,
    timesUsed r.read.id start + earlier.countP (·.uses r.read.id) < limit
  perUser : ∀ limit ∈ r.read.usageLimitPerUser,
    usageCount r.read.id p.userId start + earlier.countP (·.redeems r.read.id p.userId) < limit
  firstOrder : r.read.firstOrderOnly = true →
    orderCount p.userId start = 0 ∧ ∀ q ∈ earlier, q.userId ≠ p.userId

theorem Follows.allowed (h : Follows w₀ earlier p) {r : Redemption} (hr : r ∈ p.redemption) :
    Allowed w₀ earlier p r where
  redeemable := (h.redeemed r hr).redeemable
  claimed := ⟨(h.redeemed r hr).claimed, (h.redeemed r hr).readAt_le⟩
  tenant := (h.redeemed r hr).tenantId
  total limit hlimit := by
    have hhasUse := (h.redeemed r hr).hasUse
    rw [Coupon.hasUse, Option.all_eq_true] at hhasUse
    have hlt := of_decide_eq_true (hhasUse limit hlimit)
    rwa [h.usedCount r hr] at hlt
  perUser := h.perUser r hr
  firstOrder := h.firstOrder r hr

/-- In every run the counter of a coupon counts its redemptions, every redemption has its row, and
at its turn each was one that the coupon allowed. -/
theorem coupons_accounted (hfresh : Fresh w₀)
    (hrun : Reaches decimalOf (fun _ _ => True) ⟨⟨w₀, []⟩, []⟩ c) :
    (∀ coupon ∈ c.state.db.coupons, coupon.usedCount = timesUsed coupon.id c.state.db) ∧
    (∀ couponId, timesUsed couponId c.state.db =
      timesUsed couponId w₀ + c.state.db.placements.countP (·.uses couponId)) ∧
    ∀ p earlier, p :: earlier <:+ c.state.db.placements → ∀ r ∈ p.redemption,
      Allowed w₀ earlier p r ∧ ∃ u ∈ c.state.db.couponUsages,
        u.couponId = r.read.id ∧ u.userId = p.userId ∧ u.orderId = p.orderId := by
  have hbooks := (holds_of_reaches hfresh hrun).inv.2
  refine ⟨hbooks.usedCount, hbooks.timesUsed, fun p earlier hsuffix r hr => ⟨?_, ?_⟩⟩
  · exact (hbooks.history.follows hsuffix).allowed hr
  · exact (hbooks.placed p (hsuffix.subset List.mem_cons_self)).usage r hr

/-- Of two calls with one key, one redeems. -/
theorem coupons_accounted_once : ∃ (c : CheckoutConfig) (p : Placement) (r : Redemption),
    c.state.db.placements = [p] ∧ r ∈ p.redemption ∧ Allowed exampleWorld [] p r ∧
      ∀ coupon ∈ c.state.db.coupons, coupon.usedCount = timesUsed coupon.id c.state.db := by
  have hcalls : (exec (handle exampleDecimalOf) (fun _ _ => True)
      (fun a s => Unblocked a s ∧ True) exampleCalls ⟨⟨exampleWorld, []⟩, []⟩).any (fun c =>
        decide (c.state.db.placements.length = 1) &&
          c.state.db.placements.all (·.redemption.isSome)) = true := by
    decide +kernel
  obtain ⟨c, hexec, h⟩ := (Option.any_eq_true ..).mp hcalls
  obtain ⟨hlength, hall⟩ := Bool.and_eq_true_iff.mp h
  obtain ⟨p, hp⟩ := List.length_eq_one_iff.mp (of_decide_eq_true hlength)
  obtain ⟨r, hr⟩ := Option.isSome_iff_exists.mp
    (List.all_eq_true.mp hall p (hp ▸ List.mem_cons_self))
  obtain ⟨hcounts, -, hallowed⟩ := coupons_accounted fresh_exampleWorld (exec_run hexec)
  exact ⟨c, p, r, hp, hr, (hallowed p [] (hp ▸ List.suffix_rfl) r hr).1, hcounts⟩

/-! ## Counters -/

/-- A run whose requests are admitted on these terms. -/
abbrev ReachesUnder (decimalOf : String → DecimalText) (T : Terms) : CheckoutConfig → Prop :=
  Run (handle decimalOf) (fun req _ => T.Admits req) (fun a s => Unblocked a s ∧ True)
    ⟨⟨T.start, []⟩, []⟩

/-- However checkouts, reservations and decrements are interleaved, a counter that is raised
against limits of at most `n` does not rise above `n`, and none falls below zero. -/
theorem usage_within_limits {bound : Counter → Option Nat} (hfresh : Fresh w₀)
    (hrun : ReachesUnder decimalOf ⟨w₀, False, bound⟩ c) (counter : Counter) :
    (∀ n ∈ bound counter, countIn c.state.db.usage counter ≤ max (countIn w₀.usage counter) n) ∧
      (0 ≤ countIn w₀.usage counter → 0 ≤ countIn c.state.db.usage counter) := by
  have hbooks : Books ⟨w₀, False, bound⟩ c.state.db :=
    (holds_of_run (T := ⟨w₀, False, bound⟩) (fun _ _ h => h) hfresh hrun).inv.2
  exact ⟨hbooks.bounded counter, hbooks.nonneg counter⟩

/-- A request that raises no counter against a limit above `n`, and does not touch the counters of
orders unless it is a checkout. -/
def Request.countsWithin (n : Nat) : Request → Bool
  | .checkout limit _ _ _ _ => limit.value.any (· ≤ (n : Int))
  | .reserve _ limitKey _ _ limit _ => limitKey ≠ .ordersPerMonth && limit.any (· ≤ (n : Int))
  | .decrement _ limitKey _ _ _ => limitKey ≠ .ordersPerMonth
  | .updateCoupon .. | .cart _ | .elsewhere _ | .tick _ => true

theorem exists_le_of_any {n : Nat} {limit : Option Int} (h : limit.any (· ≤ (n : Int)) = true) :
    ∃ l ∈ limit, l ≤ n := by
  obtain ⟨l, hl, hle⟩ := (Option.any_eq_true ..).mp h
  exact ⟨l, hl, of_decide_eq_true hle⟩

theorem Request.admits_of_countsWithin {alone : Prop} {req : Request} {n : Nat}
    (h : req.countsWithin n = true) : Terms.Admits ⟨w₀, alone, fun _ => some n⟩ req := by
  cases req with
  | checkout limit userId dto key fault =>
      intro tenantId period m hm
      cases hm
      exact exists_le_of_any h
  | reserve tenantId limitKey period amount limit failsAt =>
      obtain ⟨hkey, hlimit⟩ := Bool.and_eq_true_iff.mp h
      refine ⟨fun _ => of_decide_eq_true hkey, fun m hm => ?_⟩
      cases hm
      exact exists_le_of_any hlimit
  | decrement tenantId limitKey period amount failsAt => exact fun _ => of_decide_eq_true h
  | updateCoupon tenantId id dto failsAt => trivial
  | cart change => trivial
  | elsewhere edit => trivial
  | tick milliseconds => trivial

def exampleReserve : Request := .reserve 0 .products "persistent" 3 (some 5) none

/-- Of two reservations of three, one fits into five. -/
theorem usage_within_limits_five : ∃ c : CheckoutConfig,
    (c.answer 0).isSome ∧ (c.answer 1).isSome ∧
      countIn c.state.db.usage ⟨0, .products, "persistent"⟩ = 3 ∧
      countIn c.state.db.usage ⟨0, .products, "persistent"⟩ ≤ max 0 (5 : Nat) := by
  have hcalls : (exec (handle exampleDecimalOf)
      (fun req _ => req.countsWithin 5 = true) (fun a s => Unblocked a s ∧ True)
      ([.accept exampleReserve, .accept exampleReserve] ++ List.replicate 3 (.advance 0) ++
        List.replicate 3 (.advance 1)) ⟨⟨exampleWorld, []⟩, []⟩).any (fun c =>
          (c.answer 0).isSome && (c.answer 1).isSome &&
            decide (countIn c.state.db.usage ⟨0, .products, "persistent"⟩ = 3)) = true := by
    decide +kernel
  obtain ⟨c, hexec, h⟩ := (Option.any_eq_true ..).mp hcalls
  simp only [Bool.and_eq_true, decide_eq_true_eq] at h
  have hrun : ReachesUnder exampleDecimalOf ⟨exampleWorld, False, fun _ => some 5⟩ c :=
    (exec_run hexec).mono (fun _ _ => Request.admits_of_countsWithin) fun _ _ => id
  exact ⟨c, h.1.1, h.1.2, h.2, (usage_within_limits fresh_exampleWorld hrun _).1 5 rfl⟩

/-- Where only checkouts count orders, a tenant is counted for what has been placed in the period,
and for no more than the limit unless it was more at the start. -/
theorem orders_counted_within_limit {bound : Counter → Option Nat} (hfresh : Fresh w₀)
    (hrun : ReachesUnder decimalOf ⟨w₀, True, bound⟩ c) (tenantId : Nat) (period : String) :
    countIn c.state.db.usage (orderCounter tenantId period) =
      countIn w₀.usage (orderCounter tenantId period) +
        c.state.db.placements.countP (·.countsFor tenantId period) ∧
    ∀ n ∈ bound (orderCounter tenantId period),
      countIn c.state.db.usage (orderCounter tenantId period) ≤
        max (countIn w₀.usage (orderCounter tenantId period)) n := by
  have hbooks : Books ⟨w₀, True, bound⟩ c.state.db :=
    (holds_of_run (T := ⟨w₀, True, bound⟩) (fun _ _ h => h) hfresh hrun).inv.2
  exact ⟨hbooks.counted trivial tenantId period, hbooks.bounded _⟩

/-- The limit of five leaves four. -/
theorem orders_counted_within_limit_once : ∃ c : CheckoutConfig,
    c.state.db.placements.countP (·.countsFor 0 "0") = 1 ∧
      countIn c.state.db.usage (orderCounter 0 "0") =
        0 + c.state.db.placements.countP (·.countsFor 0 "0") ∧
      countIn c.state.db.usage (orderCounter 0 "0") ≤ max 0 (5 : Nat) := by
  have hcalls : (exec (handle exampleDecimalOf) (fun req _ => req.countsWithin 5 = true)
      (fun a s => Unblocked a s ∧ True) exampleCalls ⟨⟨exampleWorld, []⟩, []⟩).any (fun c =>
        decide (c.state.db.placements.countP (·.countsFor 0 "0") = 1)) = true := by
    decide +kernel
  obtain ⟨c, hexec, h⟩ := (Option.any_eq_true ..).mp hcalls
  have hrun : ReachesUnder exampleDecimalOf ⟨exampleWorld, True, fun _ => some 5⟩ c :=
    (exec_run hexec).mono (fun _ _ => Request.admits_of_countsWithin) fun _ _ => id
  obtain ⟨hcount, hbound⟩ := orders_counted_within_limit fresh_exampleWorld hrun 0 "0"
  exact ⟨c, of_decide_eq_true h, hcount, hbound 5 rfl⟩

/-! ## Numbers -/

theorem orderNumberOf_injective : Function.Injective orderNumberOf := by
  intro m n h
  have hlist := congrArg String.toList h
  rw [toList_orderNumberOf, toList_orderNumberOf] at hlist
  exact numeral_injective 6 (List.append_cancel_left hlist)

/-- Each place in the order of the placements is taken. -/
theorem exists_placement {k : Nat} (h : k < placements.length) :
    ∃ p earlier, p :: earlier <:+ placements ∧ earlier.length = k := by
  have hlt : placements.length - 1 - k < placements.length := by omega
  refine ⟨_, _, (List.drop_eq_getElem_cons hlt) ▸ List.drop_suffix .., ?_⟩
  rw [List.length_drop]
  omega

/-- The order of a placement, which is the only new one with its number. -/
structure Numbered (start w : World) (number : Nat) (order : Order) : Prop where
  mem : order ∈ w.orders
  new : order ∉ start.orders
  orderNumber : order.orderNumber = orderNumberOf number

theorem Books.numbered_of_suffix {T : Terms} (h : Books T w)
    (hsuffix : p :: earlier <:+ w.placements) : ∃ order, order.id = p.orderId ∧
      Numbered T.start w (T.start.orderNumberCounter.getD 0 + earlier.length + 1) order := by
  obtain ⟨order, horder, hid, hnumber⟩ := h.numbered p earlier hsuffix
  refine ⟨order, hid, horder, fun hold => ?_, hnumber⟩
  exact (h.history.follows hsuffix).newOrder order hold hid

/-- The new orders have the next numbers, in the order in which they were placed. -/
theorem Books.numbered_of_new {T : Terms} {order : Order} (h : Books T w)
    (horder : order ∈ w.orders) (hnew : order ∉ T.start.orders) :
    ∃ p earlier, p :: earlier <:+ w.placements ∧ order.id = p.orderId ∧
      Numbered T.start w (T.start.orderNumberCounter.getD 0 + earlier.length + 1) order := by
  obtain hold | ⟨p, hp, hid⟩ := h.orders order horder
  · exact absurd hold hnew
  · obtain ⟨front, earlier, happend⟩ := List.append_of_mem hp
    have hsuffix : p :: earlier <:+ w.placements := ⟨front, happend.symm⟩
    obtain ⟨numbered, hnumberedId, hnumbered⟩ := h.numbered_of_suffix hsuffix
    obtain rfl : numbered = order :=
      Table.eq_of_key hnumbered.mem horder (hnumberedId.trans hid)
    exact ⟨p, earlier, hsuffix, hnumberedId, hnumbered⟩

/-- The new orders have the numbers that come after the counter of the start: none is left out,
and none is given twice, whichever calls fail on the way. -/
theorem orders_numbered_without_gaps (hfresh : Fresh w₀)
    (hrun : Reaches decimalOf (fun _ _ => True) ⟨⟨w₀, []⟩, []⟩ c) :
    (∀ order ∈ c.state.db.orders, order ∉ w₀.orders →
      ∃ number, w₀.orderNumberCounter.getD 0 < number ∧
        number ≤ c.state.db.orderNumberCounter.getD 0 ∧
        order.orderNumber = orderNumberOf number) ∧
    ∀ number, w₀.orderNumberCounter.getD 0 < number →
      number ≤ c.state.db.orderNumberCounter.getD 0 →
      ∃! order, Numbered w₀ c.state.db number order := by
  have hbooks : Books (.any w₀) c.state.db := (holds_of_reaches hfresh hrun).inv.2
  have hcounter : c.state.db.orderNumberCounter.getD 0 =
      w₀.orderNumberCounter.getD 0 + c.state.db.placements.length := hbooks.numbers
  refine ⟨fun order horder hnew => ?_, fun number hlt hle => ?_⟩
  · obtain ⟨p, earlier, hsuffix, -, hnumbered⟩ := hbooks.numbered_of_new horder hnew
    have hlength := hsuffix.length_le
    rw [List.length_cons] at hlength
    refine ⟨w₀.orderNumberCounter.getD 0 + earlier.length + 1, by omega, by omega, ?_⟩
    exact hnumbered.orderNumber
  · obtain ⟨p, earlier, hsuffix, hlength⟩ : ∃ p earlier, p :: earlier <:+ c.state.db.placements ∧
        earlier.length = number - w₀.orderNumberCounter.getD 0 - 1 :=
      exists_placement (by omega)
    obtain rfl : number = w₀.orderNumberCounter.getD 0 + earlier.length + 1 := by omega
    obtain ⟨order, hid, hnumbered⟩ := hbooks.numbered_of_suffix hsuffix
    refine ⟨order, hnumbered, fun other hother => ?_⟩
    obtain ⟨p', earlier', hsuffix', hid', hnumbered'⟩ :=
      hbooks.numbered_of_new hother.mem hother.new
    have hsame : w₀.orderNumberCounter.getD 0 + earlier'.length + 1 =
        w₀.orderNumberCounter.getD 0 + earlier.length + 1 :=
      orderNumberOf_injective (hnumbered'.orderNumber.symm.trans hother.orderNumber)
    have hlengths : earlier'.length = earlier.length := by omega
    obtain ⟨rfl, rfl⟩ : p' = p ∧ earlier' = earlier :=
      List.cons.inj (List.IsSuffix.eq_of_length
        (List.suffix_of_suffix_length_le hsuffix' hsuffix (by simp [hlengths]))
        (by simp [hlengths]))
    exact Table.eq_of_key hother.mem hnumbered.mem (hid'.trans hid.symm)

/-- The first order is the only one with the first number. -/
theorem orders_numbered_without_gaps_once : ∃ c : CheckoutConfig,
    c.state.db.orderNumberCounter = some 1 ∧
      ∃! order, Numbered exampleWorld c.state.db 1 order := by
  have hcalls : (exec (handle exampleDecimalOf) (fun _ _ => True)
      (fun a s => Unblocked a s ∧ True) exampleCalls ⟨⟨exampleWorld, []⟩, []⟩).any (fun c =>
        decide (c.state.db.orderNumberCounter = some 1)) = true := by
    decide +kernel
  obtain ⟨c, hexec, h⟩ := (Option.any_eq_true ..).mp hcalls
  have hcounter : c.state.db.orderNumberCounter = some 1 := of_decide_eq_true h
  refine ⟨c, hcounter, (orders_numbered_without_gaps fresh_exampleWorld (exec_run hexec)).2 1
    Nat.zero_lt_one ?_⟩
  rw [hcounter]
  exact Nat.le_refl 1

end PrintForge.Checkout
