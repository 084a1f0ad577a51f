import PrintForge.Checkout.Effects

/-!
# What the keys of a checkout protect

`Placement` is all that is remembered of an order. `History` says which placements may follow one
another, and names no table. `Books` says that the tables are those of the start with what has
been placed since, and nothing else: this is the invariant of every run, whatever other services
do to the shop.

The keys are what lets one checkout at a time add to the part of the books it looks at. While the
cart of a user is locked nobody else places an order for the user, while an idempotency key is
locked nobody else claims it, and so on. What no key protects, the books only add to.
-/

namespace PrintForge.Checkout

open Relational Concurrent JavaScript Numeric Catalogue

/-! ## Histories -/

/-- The coupon was redeemed. -/
def Placement.uses (couponId : Nat) (p : Placement) : Bool :=
  p.redemption.any (·.read.id = couponId)

/-- The user redeemed the coupon. -/
def Placement.redeems (couponId userId : Nat) (p : Placement) : Bool :=
  p.uses couponId && p.userId = userId

def Placement.countsFor (tenantId : Nat) (period : String) (p : Placement) : Bool :=
  p.tenantId = tenantId && p.period = period

/-- Redemptions of a coupon, by whichever user. -/
def timesUsed (couponId : Nat) (w : World) : Nat := w.couponUsages.count (·.couponId = couponId)

/-- A coupon that could be redeemed when it was read, and had a use left when it was claimed. -/
structure Redeemed (p : Placement) (r : Redemption) : Prop where
  userId : r.userId = p.userId
  tenantId : r.read.tenantId = p.tenantId
  redeemable : assertRedeemable r.read r.readAt = .ok ()
  claimed : r.claimed.id = r.read.id
  hasUse : r.claimed.hasUse = true
  readAt_le : r.readAt ≤ r.claimedAt

/-- A placement that may come after others, the latest of which is the first. -/
structure Follows (start : World) (earlier : List Placement) (p : Placement) : Prop where
  key : ∀ q ∈ earlier, q.key ≠ p.key
  newKey : ∀ row ∈ start.idempotencyKeys, row.key ≠ p.key
  orderId : ∀ q ∈ earlier, q.orderId ≠ p.orderId
  newOrder : ∀ order ∈ start.orders, order.id ≠ p.orderId
  items_ne_nil : p.items ≠ []
  items : ∀ q ∈ earlier, ∀ item ∈ p.items, item ∉ q.items
  redeemed : ∀ r ∈ p.redemption, Redeemed p r
  usedCount : ∀ r ∈ p.redemption,
    r.claimed.usedCount = timesUsed r.read.id start + earlier.countP (·.uses r.read.id)
  perUser : ∀ r ∈ p.redemption, ∀ limit ∈ r.read.usageLimitPerUser,
    usageCount r.read.id p.userId start + earlier.countP (·.redeems r.read.id p.userId) < limit
  firstOrder : ∀ r ∈ p.redemption, r.read.firstOrderOnly = true →
    orderCount p.userId start = 0 ∧ ∀ q ∈ earlier, q.userId ≠ p.userId

def History (start : World) : List Placement → Prop
  | [] => True
  | p :: earlier => Follows start earlier p ∧ History start earlier

/-! ## What is kept -/

/-- What every commit keeps. -/
structure Onward (w w' : World) : Prop where
  now : w.now ≤ w'.now
  keys : ∀ row ∈ w.idempotencyKeys, row ∈ w'.idempotencyKeys
  orders : ∀ order ∈ w.orders, order ∈ w'.orders
  nextOrder : w.orders.nextKey ≤ w'.orders.nextKey
  lines : ∀ id < w.orders.nextKey,
    w'.orderItems.findMany (·.orderId = id) = w.orderItems.findMany (·.orderId = id)
  usages : ∀ u ∈ w.couponUsages, u ∈ w'.couponUsages
  placements : w.placements <:+ w'.placements
  carts : ∀ cart ∈ w.shop.carts, cart ∈ w'.shop.carts
  nextItem : w.shop.cartItems.nextKey ≤ w'.shop.cartItems.nextKey
  gone : ∀ id < w.shop.cartItems.nextKey, w.shop.cartItems.get id = none →
    w'.shop.cartItems.get id = none

theorem onward_refl (w : World) : Onward w w where
  now := le_rfl
  keys _ h := h
  orders _ h := h
  nextOrder := le_rfl
  lines _ _ := rfl
  usages _ h := h
  placements := List.suffix_rfl
  carts _ h := h
  nextItem := le_rfl
  gone _ _ h := h

theorem Onward.trans {w w' w'' : World} (h : Onward w w') (h' : Onward w' w'') :
    Onward w w'' where
  now := h.now.trans h'.now
  keys row hrow := h'.keys row (h.keys row hrow)
  orders order horder := h'.orders order (h.orders order horder)
  nextOrder := h.nextOrder.trans h'.nextOrder
  lines id hid := (h'.lines id (hid.trans_le h.nextOrder)).trans (h.lines id hid)
  usages u hu := h'.usages u (h.usages u hu)
  placements := h.placements.trans h'.placements
  carts cart hcart := h'.carts cart (h.carts cart hcart)
  nextItem := h.nextItem.trans h'.nextItem
  gone id hid hgone := h'.gone id (hid.trans_le h.nextItem) (h.gone id hid hgone)

/-! ## Books -/

/-- What a run starts from, whether nobody but checkouts counts orders in it, and what the limits
that a counter is raised against stay within. -/
structure Terms where
  start : World
  alone : Prop
  bound : Counter → Option Nat

/-- The counter of a tenant's orders. -/
def orderCounter (tenantId : Nat) (period : String) : Counter := ⟨tenantId, .ordersPerMonth, period⟩

/-- The rows of a placement, and the cart items that are gone. -/
structure Placed (w : World) (p : Placement) : Prop where
  row : ∃ row ∈ w.idempotencyKeys, row.key = p.key ∧ row.userId = p.userId ∧
    row.resultOrderId = some p.orderId
  order : ∃ order ∈ w.orders, order.id = p.orderId ∧ order.userId = p.userId ∧
    order.tenantId = p.tenantId ∧ order.couponId = p.redemption.map (·.read.id) ∧
    Priced order (w.orderItems.findMany (·.orderId = p.orderId))
  usage : ∀ r ∈ p.redemption, ∃ u ∈ w.couponUsages, u.couponId = r.read.id ∧
    u.userId = p.userId ∧ u.orderId = p.orderId
  cart : ∀ item ∈ p.items, ∃ cart ∈ w.shop.carts, cart.id = item.2 ∧ cart.userId = p.userId
  consumed : ∀ item ∈ p.items, item.1 < w.shop.cartItems.nextKey ∧
    w.shop.cartItems.get item.1 = none

/-- The tables are those of the start with what has been placed since. -/
structure Books (T : Terms) (w : World) : Prop where
  since : Onward T.start w
  history : History T.start w.placements
  placed : ∀ p ∈ w.placements, Placed w p
  keys : ∀ row ∈ w.idempotencyKeys, row ∈ T.start.idempotencyKeys ∨
    ∃ p ∈ w.placements, p.key = row.key
  keyed : ∀ row ∈ w.idempotencyKeys, ∃ order ∈ w.orders, row.resultOrderId = some order.id ∧
    order.userId = row.userId
  orders : ∀ order ∈ w.orders, order ∈ T.start.orders ∨ ∃ p ∈ w.placements, p.orderId = order.id
  lines : ∀ line ∈ w.orderItems, line.orderId < w.orders.nextKey
  orderCount : ∀ userId, orderCount userId w =
    Checkout.orderCount userId T.start + w.placements.countP (·.userId = userId)
  timesUsed : ∀ couponId, timesUsed couponId w =
    Checkout.timesUsed couponId T.start + w.placements.countP (·.uses couponId)
  usageCount : ∀ couponId userId, usageCount couponId userId w =
    Checkout.usageCount couponId userId T.start + w.placements.countP (·.redeems couponId userId)
  usedCount : ∀ coupon ∈ w.coupons, coupon.usedCount = Checkout.timesUsed coupon.id w
  reduces : ∀ coupon ∈ w.coupons, coupon.Reduces
  numbers : w.orderNumberCounter.getD 0 =
    T.start.orderNumberCounter.getD 0 + w.placements.length
  numbered : ∀ p earlier, p :: earlier <:+ w.placements → ∃ order ∈ w.orders,
    order.id = p.orderId ∧ order.orderNumber =
      orderNumberOf (T.start.orderNumberCounter.getD 0 + earlier.length + 1)
  counted : T.alone → ∀ tenantId period, countIn w.usage (orderCounter tenantId period) =
    countIn T.start.usage (orderCounter tenantId period) +
      w.placements.countP (·.countsFor tenantId period)
  bounded : ∀ c, ∀ n ∈ T.bound c, countIn w.usage c ≤ max (countIn T.start.usage c) n
  nonneg : ∀ c, 0 ≤ countIn T.start.usage c → 0 ≤ countIn w.usage c

/-- What may be started from: every row that refers to an order has it, the counters of the
coupons are right, and nothing has been placed yet. -/
structure Fresh (w : World) : Prop where
  placements : w.placements = []
  keyed : ∀ row ∈ w.idempotencyKeys, ∃ order ∈ w.orders, row.resultOrderId = some order.id ∧
    order.userId = row.userId
  lines : ∀ line ∈ w.orderItems, line.orderId < w.orders.nextKey
  usedCount : ∀ coupon ∈ w.coupons, coupon.usedCount = timesUsed coupon.id w
  reduces : ∀ coupon ∈ w.coupons, coupon.Reduces

theorem Fresh.books {T : Terms} (h : Fresh T.start) : Books T T.start where
  since := onward_refl _
  history := by
    rw [h.placements]
    trivial
  placed p hp := by
    rw [h.placements] at hp
    cases hp
  keys row hrow := .inl hrow
  keyed := h.keyed
  orders order horder := .inl horder
  lines := h.lines
  orderCount userId := by simp [h.placements]
  timesUsed couponId := by simp [h.placements]
  usageCount couponId userId := by simp [h.placements]
  usedCount := h.usedCount
  reduces := h.reduces
  numbers := by simp [h.placements]
  numbered p earlier hp := by
    rw [h.placements, List.suffix_nil] at hp
    cases hp
  counted _ tenantId period := by simp [h.placements]
  bounded _ _ _ := le_max_left _ _
  nonneg _ hstart := hstart

/-! ## What keys protect -/

/-- A placement stays placed. -/
theorem Placed.onward {w w' : World} {p : Placement} (h : Placed w p) (hw : Onward w w') :
    Placed w' p where
  row := by
    obtain ⟨row, hrow, hfields⟩ := h.row
    exact ⟨row, hw.keys row hrow, hfields⟩
  order := by
    obtain ⟨order, horder, hid, huser, htenant, hcoupon, hpriced⟩ := h.order
    refine ⟨order, hw.orders order horder, hid, huser, htenant, hcoupon, ?_⟩
    rwa [hw.lines p.orderId (hid ▸ Table.key_lt_nextKey horder)]
  usage r hr := by
    obtain ⟨u, hu, hfields⟩ := h.usage r hr
    exact ⟨u, hw.usages u hu, hfields⟩
  cart item hitem := by
    obtain ⟨cart, hcart, hfields⟩ := h.cart item hitem
    exact ⟨cart, hw.carts cart hcart, hfields⟩
  consumed item hitem := by
    obtain ⟨hlt, hgone⟩ := h.consumed item hitem
    exact ⟨hlt.trans_le hw.nextItem, hw.gone item.1 hlt hgone⟩

/-- What a key protects is the same in both states. -/
def Same : Key → World → World → Prop
  | .cart userId, w, w' =>
      (∀ p ∈ w'.placements, p.userId = userId → p ∈ w.placements) ∧
        orderCount userId w' = orderCount userId w ∧
        ∀ couponId, usageCount couponId userId w' = usageCount couponId userId w
  | .idempotencyKey key, w, w' =>
      ∀ row ∈ w'.idempotencyKeys, row.key = key → row ∈ w.idempotencyKeys
  | .coupon id, w, w' => w'.coupons.get id = w.coupons.get id
  | .orderNumber, w, w' => w'.orders = w.orders ∧ w'.orderNumberCounter = w.orderNumberCounter
  | .usage tenantId limitKey period, w, w' =>
      countIn w'.usage ⟨tenantId, limitKey, period⟩ = countIn w.usage ⟨tenantId, limitKey, period⟩

theorem same_refl (k : Key) (w : World) : Same k w w := by
  cases k with
  | cart userId => exact ⟨fun _ hp _ => hp, rfl, fun _ => rfl⟩
  | idempotencyKey key => exact fun _ hrow _ => hrow
  | coupon id => rfl
  | orderNumber => exact ⟨rfl, rfl⟩
  | usage tenantId limitKey period => rfl

theorem same_trans {k : Key} {w w' w'' : World} (h : Same k w w') (h' : Same k w' w'') :
    Same k w w'' := by
  cases k with
  | cart userId =>
      exact ⟨fun p hp hu => h.1 p (h'.1 p hp hu) hu, h'.2.1.trans h.2.1,
        fun couponId => (h'.2.2 couponId).trans (h.2.2 couponId)⟩
  | idempotencyKey key => exact fun row hrow hkey => h row (h' row hrow hkey) hkey
  | coupon id => exact Eq.trans h' h
  | orderNumber => exact ⟨h'.1.trans h.1, h'.2.trans h.2⟩
  | usage tenantId limitKey period => exact Eq.trans h' h

def protocol (T : Terms) : Protocol World Key Commit where
  Same := Same
  Onward := Onward
  Inv := Books T
  Good _ _ _ := True
  ok _ _ := True
  same_refl := same_refl
  same_trans := same_trans
  onward_refl := onward_refl
  onward_trans := Onward.trans

/-! ## Actions beside the orders -/

/-- An action that places nothing. -/
structure Beside (T : Terms) (w w' : World) : Prop where
  now : w.now ≤ w'.now
  keys : w'.idempotencyKeys = w.idempotencyKeys
  orders : w'.orders = w.orders
  orderItems : w'.orderItems = w.orderItems
  couponUsages : w'.couponUsages = w.couponUsages
  orderNumberCounter : w'.orderNumberCounter = w.orderNumberCounter
  placements : w'.placements = w.placements
  carts : ∀ cart ∈ w.shop.carts, cart ∈ w'.shop.carts
  nextItem : w.shop.cartItems.nextKey ≤ w'.shop.cartItems.nextKey
  gone : ∀ id < w.shop.cartItems.nextKey, w.shop.cartItems.get id = none →
    w'.shop.cartItems.get id = none
  coupons : ∀ coupon' ∈ w'.coupons, ∃ coupon ∈ w.coupons, coupon'.id = coupon.id ∧
    coupon'.usedCount = coupon.usedCount ∧ (coupon.Reduces → coupon'.Reduces)
  counted : T.alone → ∀ tenantId period,
    countIn w'.usage (orderCounter tenantId period) = countIn w.usage (orderCounter tenantId period)
  bounded : ∀ c, ∀ n ∈ T.bound c, countIn w'.usage c ≤ max (countIn w.usage c) n
  nonneg : ∀ c, 0 ≤ countIn w.usage c → 0 ≤ countIn w'.usage c

section Beside

variable {T : Terms} {w w' : World}

theorem Beside.onward (h : Beside T w w') : Onward w w' where
  now := h.now
  keys _ hrow := h.keys ▸ hrow
  orders _ horder := h.orders ▸ horder
  nextOrder := h.orders ▸ le_rfl
  lines _ _ := by rw [h.orderItems]
  usages _ hu := h.couponUsages ▸ hu
  placements := h.placements ▸ List.suffix_rfl
  carts := h.carts
  nextItem := h.nextItem
  gone := h.gone

theorem Beside.books (h : Beside T w w') (hw : Books T w) : Books T w' where
  since := hw.since.trans h.onward
  history := h.placements ▸ hw.history
  placed p hp := (hw.placed p (h.placements ▸ hp)).onward h.onward
  keys := by
    rw [h.keys, h.placements]
    exact hw.keys
  keyed := by
    rw [h.keys, h.orders]
    exact hw.keyed
  orders := by
    rw [h.orders, h.placements]
    exact hw.orders
  lines := by
    rw [h.orderItems, h.orders]
    exact hw.lines
  orderCount userId := by
    rw [Checkout.orderCount, h.orders, h.placements]
    exact hw.orderCount userId
  timesUsed couponId := by
    rw [Checkout.timesUsed, h.couponUsages, h.placements]
    exact hw.timesUsed couponId
  usageCount couponId userId := by
    rw [Checkout.usageCount, h.couponUsages, h.placements]
    exact hw.usageCount couponId userId
  usedCount coupon' hcoupon' := by
    obtain ⟨coupon, hcoupon, hid, hused, -⟩ := h.coupons coupon' hcoupon'
    rw [hused, hid, hw.usedCount coupon hcoupon, Checkout.timesUsed, Checkout.timesUsed,
      h.couponUsages]
  reduces coupon' hcoupon' := by
    obtain ⟨coupon, hcoupon, -, -, hreduces⟩ := h.coupons coupon' hcoupon'
    exact hreduces (hw.reduces coupon hcoupon)
  numbers := by
    rw [h.orderNumberCounter, h.placements]
    exact hw.numbers
  numbered := by
    rw [h.orders, h.placements]
    exact hw.numbered
  counted halone tenantId period := by
    rw [h.counted halone, h.placements]
    exact hw.counted halone tenantId period
  bounded c n hn := (h.bounded c n hn).trans (max_le (hw.bounded c n hn) (le_max_right _ _))
  nonneg c hstart := h.nonneg c (hw.nonneg c hstart)

/-- What a key protects is none of this, unless it protects a coupon or a counter. -/
theorem Beside.same (h : Beside T w w') {k : Key}
    (hcoupon : ∀ id, k = .coupon id → w'.coupons.get id = w.coupons.get id)
    (husage : ∀ tenantId limitKey period, k = .usage tenantId limitKey period →
      countIn w'.usage ⟨tenantId, limitKey, period⟩ =
        countIn w.usage ⟨tenantId, limitKey, period⟩) : Same k w w' := by
  cases k with
  | cart userId =>
      refine ⟨fun p hp _ => h.placements ▸ hp, ?_, fun couponId => ?_⟩
      · rw [orderCount, orderCount, h.orders]
      · rw [usageCount, usageCount, h.couponUsages]
  | idempotencyKey key => exact fun row hrow _ => h.keys ▸ hrow
  | coupon id => exact hcoupon id rfl
  | orderNumber => exact ⟨h.orders, h.orderNumberCounter⟩
  | usage tenantId limitKey period => exact husage tenantId limitKey period rfl

end Beside

end PrintForge.Checkout
