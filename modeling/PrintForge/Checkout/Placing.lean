import PrintForge.Checkout.Protocol

/-!
# Placing an order

What a checkout has found out by the time it commits is still so then, because of the keys that it
holds: `Ready` lists it. What is committed is a placement and nothing else: `Places`. The two give
books again, and a placement leaves alone what is protected by keys of others.
-/

namespace PrintForge.Checkout

open Relational Concurrent JavaScript Numeric Catalogue

variable {T : Terms} {w w' : World} {i userId tenantId : Nat} {key : String}
variable {items : List CheckoutCartItem} {redemption : Option Redemption} {draft : OrderDraft}

/-- The limit on orders stays within what bounds their counters. -/
def LimitWithin (T : Terms) (limit : ResolvedLimit) : Prop :=
  ∀ tenantId period, ∀ n ∈ T.bound (orderCounter tenantId period), ∃ l ∈ limit.value, l ≤ n

/-! ## What a checkout has found out -/

/-- An item of a cart of the user that no order of the user has taken. -/
structure InCart (userId : Nat) (item : CartItem) (w : World) : Prop where
  lt : item.id < w.shop.cartItems.nextKey
  cart : ∃ cart ∈ w.shop.carts, cart.id = item.cartId ∧ cart.userId = userId
  free : ∀ p ∈ w.placements, p.userId = userId → (item.id, item.cartId) ∉ p.items

structure Ready (userId tenantId : Nat) (key : String) (items : List CheckoutCartItem)
    (redemption : Option Redemption) (w : World) : Prop where
  key : ∀ row ∈ w.idempotencyKeys, row.key ≠ key
  items : ∀ item ∈ items, InCart userId item.item w
  user : ∀ r ∈ redemption, r.userId = userId
  tenant : ∀ r ∈ redemption, r.read.tenantId = tenantId
  redeemable : ∀ r ∈ redemption, assertRedeemable r.read r.readAt = .ok ()
  claimed : ∀ r ∈ redemption, w.coupons.get r.read.id = some r.claimed
  hasUse : ∀ r ∈ redemption, r.claimed.hasUse = true
  readAt_le : ∀ r ∈ redemption, r.readAt ≤ r.claimedAt
  perUser : ∀ r ∈ redemption, ∀ limit ∈ r.read.usageLimitPerUser,
    usageCount r.read.id userId w < limit
  firstOrder : ∀ r ∈ redemption, r.read.firstOrderOnly = true → orderCount userId w = 0

theorem InCart.later {item : CartItem} (h : InCart userId item w) (honward : Onward w w')
    (hsame : Same (.cart userId) w w') : InCart userId item w' where
  lt := h.lt.trans_le honward.nextItem
  cart := by
    obtain ⟨cart, hcart, hfields⟩ := h.cart
    exact ⟨cart, honward.carts cart hcart, hfields⟩
  free p hp hu := h.free p (hsame.1 p hp hu) hu

/-- The keys in hand keep what has been found out. -/
theorem Ready.later (h : Ready userId tenantId key items redemption w) (honward : Onward w w')
    (hcart : Same (.cart userId) w w') (hkey : Same (.idempotencyKey key) w w')
    (hcoupon : ∀ r ∈ redemption, Same (.coupon r.read.id) w w') :
    Ready userId tenantId key items redemption w' where
  key row hrow he := h.key row (hkey row hrow he) he
  items item hitem := (h.items item hitem).later honward hcart
  user := h.user
  tenant := h.tenant
  redeemable := h.redeemable
  claimed r hr := Eq.trans (hcoupon r hr) (h.claimed r hr)
  hasUse := h.hasUse
  readAt_le := h.readAt_le
  perUser r hr limit hlimit := by
    rw [hcart.2.2]
    exact h.perUser r hr limit hlimit
  firstOrder r hr hfirst := hcart.2.1.trans (h.firstOrder r hr hfirst)

/-! ## What is committed -/

structure Places (limit : ResolvedLimit) (draft : OrderDraft) (w w' : World) (p : Placement)
    (order : Order) (lines : List OrderItem) (usages : List CouponUsage)
    (row : IdempotencyKey) : Prop where
  drafted : Drafted draft order
  linesOf : List.Forall₂ (LineOf order) draft.items lines
  id : order.id = w.orders.nextKey
  placement : p = draft.placement p.period order.id
  orderNumber : draft.orderNumber = orderNumberOf (w.orderNumberCounter.getD 0 + 1)
  rowOf : row.key = draft.key ∧ row.userId = draft.userId ∧ row.resultOrderId = some order.id
  now : w'.now = w.now
  carts : w'.shop.carts = w.shop.carts
  cartItems : w'.shop.cartItems = w.shop.cartItems.delete (draft.itemIds.contains ·.id)
  keys : w'.idempotencyKeys.rows = w.idempotencyKeys.rows ++ [row]
  coupons : w'.coupons.rows = w.coupons.rows.map fun coupon =>
    if draft.redemption.any (·.read.id = coupon.id) then coupon.use else coupon
  orders : w'.orders.rows = w.orders.rows ++ [order]
  nextOrder : w'.orders.nextKey = w.orders.nextKey + 1
  orderItems : w'.orderItems.rows = w.orderItems.rows ++ lines
  couponUsages : w'.couponUsages.rows = w.couponUsages.rows ++ usages
  usagesOf : usages.map (fun u => (u.couponId, u.userId, u.orderId)) =
    draft.redemption.toList.map fun r => (r.read.id, draft.userId, order.id)
  orderNumberCounter : w'.orderNumberCounter = some (w.orderNumberCounter.getD 0 + 1)
  raised : countIn w'.usage (orderCounter draft.tenantId p.period) =
    countIn w.usage (orderCounter draft.tenantId p.period) + 1
  fits : ∀ l ∈ limit.value, countIn w'.usage (orderCounter draft.tenantId p.period) ≤ l
  others : ∀ c, c ≠ orderCounter draft.tenantId p.period → countIn w'.usage c = countIn w.usage c
  placements : w'.placements = p :: w.placements

namespace Places

variable {limit : ResolvedLimit} {p : Placement} {order : Order} {lines : List OrderItem}
variable {usages : List CouponUsage} {row : IdempotencyKey}
variable (h : Places limit draft w w' p order lines usages row)

include h

theorem fields : p.userId = draft.userId ∧ p.tenantId = draft.tenantId ∧ p.key = draft.key ∧
    p.orderId = order.id ∧ p.items = draft.items.map (fun i => (i.item.id, i.item.cartId)) ∧
    p.redemption = draft.redemption := by
  rw [h.placement]
  exact ⟨rfl, rfl, rfl, rfl, rfl, rfl⟩

theorem mem_keys {r : IdempotencyKey} :
    r ∈ w'.idempotencyKeys ↔ r ∈ w.idempotencyKeys ∨ r = row := by
  rw [← Table.mem_rows, h.keys, List.mem_append, List.mem_singleton, Table.mem_rows]

theorem mem_orders {o : Order} : o ∈ w'.orders ↔ o ∈ w.orders ∨ o = order := by
  rw [← Table.mem_rows, h.orders, List.mem_append, List.mem_singleton, Table.mem_rows]

theorem mem_usages {u : CouponUsage} : u ∈ w'.couponUsages ↔ u ∈ w.couponUsages ∨ u ∈ usages := by
  rw [← Table.mem_rows, h.couponUsages, List.mem_append, Table.mem_rows]

theorem orderId_of_line {line : OrderItem} (hline : line ∈ lines) : line.orderId = order.id := by
  obtain ⟨item, -, hof⟩ := Trees.exists_left_of_mem h.linesOf hline
  exact hof.orderId

/-- The lines of an order are those of before and, for the new order, the new ones. -/
theorem linesWith (id : Nat) : w'.orderItems.findMany (·.orderId = id) =
    w.orderItems.findMany (·.orderId = id) ++ if order.id = id then lines else [] := by
  rw [Table.findMany, h.orderItems, List.filter_append, ← Table.findMany]
  congr 1
  split
  · next hid =>
    exact List.filter_eq_self.mpr fun line hline =>
      decide_eq_true ((h.orderId_of_line hline).trans hid)
  · next hid =>
    refine List.filter_eq_nil_iff.mpr fun line hline hof => hid ?_
    exact (h.orderId_of_line hline).symm.trans (of_decide_eq_true hof)

theorem onward : Onward w w' where
  now := h.now.ge
  keys r hr := h.mem_keys.mpr (.inl hr)
  orders o ho := h.mem_orders.mpr (.inl ho)
  nextOrder := by
    rw [h.nextOrder]
    exact Nat.le_succ _
  lines id hid := by
    rw [h.linesWith, if_neg (by rw [h.id]; omega), List.append_nil]
  usages u hu := h.mem_usages.mpr (.inl hu)
  placements := h.placements ▸ List.suffix_cons p w.placements
  carts cart hcart := h.carts ▸ hcart
  nextItem := by
    rw [h.cartItems, Table.nextKey_delete]
  gone id _ hgone := by
    rw [Table.get_eq_none] at hgone ⊢
    intro item hitem
    rw [h.cartItems, Table.mem_delete] at hitem
    exact hgone item hitem.1

/-- How often the new redemption counts. -/
theorem countP_usages (q : Nat → Nat → Bool) : usages.countP (fun u => q u.couponId u.userId) =
    if draft.redemption.any (fun r => q r.read.id draft.userId) then 1 else 0 := by
  calc usages.countP (fun u => q u.couponId u.userId)
      = (usages.map fun u => (u.couponId, u.userId, u.orderId)).countP
          (fun t => q t.1 t.2.1) := by
        rw [List.countP_map]
        rfl
    _ = (draft.redemption.toList.map fun r => (r.read.id, draft.userId, order.id)).countP
          (fun t => q t.1 t.2.1) := by
        rw [h.usagesOf]
    _ = _ := by
        cases draft.redemption with
        | none => rfl
        | some r => simp [List.countP_cons]

theorem orderCount_eq (user : Nat) :
    orderCount user w' = orderCount user w + if p.userId = user then 1 else 0 := by
  rw [orderCount, Table.count, h.orders, List.countP_append, List.countP_singleton, h.fields.1,
    h.drafted.userId]
  simp only [decide_eq_true_eq]
  rfl

theorem timesUsed_eq (couponId : Nat) :
    timesUsed couponId w' = timesUsed couponId w + if p.uses couponId then 1 else 0 := by
  rw [timesUsed, Table.count, h.couponUsages, List.countP_append, Placement.uses,
    h.fields.2.2.2.2.2, h.countP_usages fun id _ => id = couponId]
  rfl

theorem usageCount_eq (couponId user : Nat) : usageCount couponId user w' =
    usageCount couponId user w + if p.redeems couponId user then 1 else 0 := by
  have hredeems : p.redeems couponId user =
      draft.redemption.any (fun r => r.read.id = couponId && draft.userId = user) := by
    rw [Placement.redeems, Placement.uses, h.fields.1, h.fields.2.2.2.2.2]
    cases draft.redemption <;> rfl
  rw [usageCount, Table.count, h.couponUsages, List.countP_append, hredeems,
    h.countP_usages fun id u => id = couponId && u = user]
  rfl

theorem numberCounter : w'.orderNumberCounter.getD 0 = w.orderNumberCounter.getD 0 + 1 := by
  rw [h.orderNumberCounter]
  rfl

theorem mem_coupons {coupon' : Coupon} (hcoupon' : coupon' ∈ w'.coupons) :
    ∃ coupon ∈ w.coupons, coupon' = if p.uses coupon.id then coupon.use else coupon := by
  rw [← Table.mem_rows, h.coupons] at hcoupon'
  obtain ⟨coupon, hcoupon, rfl⟩ := List.mem_map.mp hcoupon'
  refine ⟨coupon, hcoupon, ?_⟩
  rw [Placement.uses, h.fields.2.2.2.2.2]

/-- Everything that was placed is there, with its rows. -/
theorem placed (hlines : ∀ line ∈ w.orderItems, line.orderId < w.orders.nextKey)
    (hsound : draft.Sound) (hready : ∀ item ∈ draft.items, InCart draft.userId item.item w) :
    Placed w' p where
  row := ⟨row, h.mem_keys.mpr (.inr rfl), h.rowOf.1.trans h.fields.2.2.1.symm,
    h.rowOf.2.1.trans h.fields.1.symm, h.rowOf.2.2.trans (congrArg some h.fields.2.2.2.1.symm)⟩
  order := by
    refine ⟨order, h.mem_orders.mpr (.inr rfl), h.fields.2.2.2.1.symm,
      h.drafted.userId.trans h.fields.1.symm, h.drafted.tenantId.trans h.fields.2.1.symm, ?_, ?_⟩
    · rw [h.drafted.couponId, h.fields.2.2.2.2.2]
    · have hold : w.orderItems.findMany (·.orderId = p.orderId) = [] := by
        refine List.filter_eq_nil_iff.mpr fun line hline hof => ?_
        have hlt := hlines line hline
        rw [of_decide_eq_true hof, h.fields.2.2.2.1, h.id] at hlt
        exact absurd hlt (lt_irrefl _)
      rw [h.linesWith, hold, if_pos h.fields.2.2.2.1.symm, List.nil_append]
      exact h.drafted.priced hsound h.linesOf
  usage r hr := by
    rw [h.fields.2.2.2.2.2] at hr
    have hmem : (r.read.id, draft.userId, order.id) ∈
        usages.map fun u => (u.couponId, u.userId, u.orderId) := by
      rw [h.usagesOf]
      exact List.mem_map_of_mem (Option.mem_toList.mpr hr)
    obtain ⟨u, hu, heq⟩ := List.mem_map.mp hmem
    simp only [Prod.mk.injEq] at heq
    refine ⟨u, h.mem_usages.mpr (.inr hu), heq.1, ?_, ?_⟩
    · rw [heq.2.1, h.fields.1]
    · rw [heq.2.2, h.fields.2.2.2.1]
  cart item hitem := by
    rw [h.fields.2.2.2.2.1] at hitem
    obtain ⟨found, hfound, rfl⟩ := List.mem_map.mp hitem
    rw [h.carts, h.fields.1]
    exact (hready found hfound).cart
  consumed item hitem := by
    rw [h.fields.2.2.2.2.1] at hitem
    obtain ⟨found, hfound, rfl⟩ := List.mem_map.mp hitem
    rw [h.cartItems, Table.nextKey_delete, Table.get_eq_none]
    refine ⟨(hready found hfound).lt, fun other hother hid => ?_⟩
    obtain ⟨-, hkept⟩ := Table.mem_delete.mp hother
    have hdeleted : draft.itemIds.contains other.id = true := by
      rw [show other.id = found.item.id from hid]
      exact List.contains_iff_mem.mpr (List.mem_map_of_mem hfound)
    rw [hdeleted] at hkept
    cases hkept

/-- It may come after what was placed before. -/
theorem follows (hbooks : Books T w) (hitems : draft.items ≠ [])
    (hready : Ready draft.userId draft.tenantId draft.key draft.items draft.redemption w) :
    Follows T.start w.placements p where
  key q hq he := by
    obtain ⟨r, hr, hkey, -⟩ := (hbooks.placed q hq).row
    exact hready.key r hr (hkey.trans (he.trans h.fields.2.2.1))
  newKey row hrow he := hready.key row (hbooks.since.keys row hrow) (he.trans h.fields.2.2.1)
  orderId q hq he := by
    obtain ⟨o, ho, hid, -⟩ := (hbooks.placed q hq).order
    have hlt : o.id < w.orders.nextKey := Table.key_lt_nextKey ho
    rw [hid, he, h.fields.2.2.2.1, h.id] at hlt
    exact absurd hlt (lt_irrefl _)
  newOrder o ho he := by
    have hlt : o.id < w.orders.nextKey := Table.key_lt_nextKey (hbooks.since.orders o ho)
    rw [he, h.fields.2.2.2.1, h.id] at hlt
    exact absurd hlt (lt_irrefl _)
  items_ne_nil := by
    rw [h.fields.2.2.2.2.1]
    exact fun hnil => hitems (List.map_eq_nil_iff.mp hnil)
  items q hq item hitem hmem := by
    rw [h.fields.2.2.2.2.1] at hitem
    obtain ⟨found, hfound, rfl⟩ := List.mem_map.mp hitem
    have hin := hready.items found hfound
    obtain ⟨cart, hcart, hid, huser⟩ := hin.cart
    obtain ⟨cart', hcart', hid', huser'⟩ := (hbooks.placed q hq).cart _ hmem
    have hsame : cart = cart' := Table.eq_of_key hcart hcart' (hid.trans hid'.symm)
    subst hsame
    exact hin.free q hq (huser'.symm.trans huser) hmem
  redeemed r hr := by
    rw [h.fields.2.2.2.2.2] at hr
    have hclaimed := (Table.get_eq_some.mp (hready.claimed r hr)).2
    exact ⟨(hready.user r hr).trans h.fields.1.symm,
      (hready.tenant r hr).trans h.fields.2.1.symm, hready.redeemable r hr, hclaimed,
      hready.hasUse r hr, hready.readAt_le r hr⟩
  usedCount r hr := by
    rw [h.fields.2.2.2.2.2] at hr
    obtain ⟨hmem, hid⟩ := Table.get_eq_some.mp (hready.claimed r hr)
    rw [hbooks.usedCount r.claimed hmem, show r.claimed.id = r.read.id from hid,
      hbooks.timesUsed]
    exact Nat.cast_add _ _
  perUser r hr limit hlimit := by
    rw [h.fields.2.2.2.2.2] at hr
    have hlt := hready.perUser r hr limit hlimit
    rw [hbooks.usageCount] at hlt
    rw [h.fields.1]
    exact_mod_cast hlt
  firstOrder r hr hfirst := by
    rw [h.fields.2.2.2.2.2] at hr
    have hzero := hready.firstOrder r hr hfirst
    rw [hbooks.orderCount, Nat.add_eq_zero_iff, List.countP_eq_zero] at hzero
    refine ⟨h.fields.1 ▸ hzero.1, fun q hq hu => hzero.2 q hq ?_⟩
    exact decide_eq_true (hu.trans h.fields.1)

theorem books (hbooks : Books T w) (hsound : draft.Sound) (hitems : draft.items ≠ [])
    (hready : Ready draft.userId draft.tenantId draft.key draft.items draft.redemption w)
    (hlimit : LimitWithin T limit) : Books T w' where
  since := hbooks.since.trans h.onward
  history := by
    rw [h.placements]
    exact ⟨h.follows hbooks hitems hready, hbooks.history⟩
  placed q hq := by
    rw [h.placements] at hq
    obtain rfl | hq := List.mem_cons.mp hq
    · exact h.placed hbooks.lines hsound hready.items
    · exact (hbooks.placed q hq).onward h.onward
  keys r hr := by
    rw [h.placements]
    obtain hr | rfl := h.mem_keys.mp hr
    · obtain hstart | ⟨q, hq, hkey⟩ := hbooks.keys r hr
      · exact .inl hstart
      · exact .inr ⟨q, List.mem_cons_of_mem p hq, hkey⟩
    · exact .inr ⟨p, List.mem_cons_self, h.fields.2.2.1.trans h.rowOf.1.symm⟩
  keyed r hr := by
    obtain hr | rfl := h.mem_keys.mp hr
    · obtain ⟨o, ho, hfields⟩ := hbooks.keyed r hr
      exact ⟨o, h.mem_orders.mpr (.inl ho), hfields⟩
    · exact ⟨order, h.mem_orders.mpr (.inr rfl), h.rowOf.2.2,
        h.drafted.userId.trans h.rowOf.2.1.symm⟩
  orders o ho := by
    rw [h.placements]
    obtain ho | rfl := h.mem_orders.mp ho
    · obtain hstart | ⟨q, hq, hid⟩ := hbooks.orders o ho
      · exact .inl hstart
      · exact .inr ⟨q, List.mem_cons_of_mem p hq, hid⟩
    · exact .inr ⟨p, List.mem_cons_self, h.fields.2.2.2.1⟩
  lines line hline := by
    rw [h.nextOrder]
    rw [← Table.mem_rows, h.orderItems, List.mem_append] at hline
    obtain hline | hline := hline
    · exact (hbooks.lines line hline).trans (Nat.lt_succ_self _)
    · rw [h.orderId_of_line hline, h.id]
      exact Nat.lt_succ_self _
  orderCount user := by
    rw [h.orderCount_eq, hbooks.orderCount, h.placements, List.countP_cons, Nat.add_assoc]
    simp only [decide_eq_true_eq]
  timesUsed couponId := by
    rw [h.timesUsed_eq, hbooks.timesUsed, h.placements, List.countP_cons, Nat.add_assoc]
  usageCount couponId user := by
    rw [h.usageCount_eq, hbooks.usageCount, h.placements, List.countP_cons, Nat.add_assoc]
  usedCount coupon' hcoupon' := by
    obtain ⟨coupon, hcoupon, rfl⟩ := h.mem_coupons hcoupon'
    have hused := hbooks.usedCount coupon hcoupon
    split
    · next huses =>
      rw [show coupon.use.id = coupon.id from rfl, h.timesUsed_eq, if_pos huses, Nat.cast_add,
        ← hused]
      rfl
    · next huses => rw [h.timesUsed_eq, if_neg huses, Nat.add_zero, ← hused]
  reduces coupon' hcoupon' := by
    obtain ⟨coupon, hcoupon, rfl⟩ := h.mem_coupons hcoupon'
    have hreduces := hbooks.reduces coupon hcoupon
    split
    · exact ⟨hreduces.percentage, hreduces.flatAmount⟩
    · exact hreduces
  numbers := by
    rw [h.numberCounter, hbooks.numbers, h.placements, List.length_cons]
    rfl
  numbered q earlier hq := by
    rw [h.placements] at hq
    obtain hq | hq := List.suffix_cons_iff.mp hq
    · obtain ⟨rfl, rfl⟩ := List.cons.inj hq
      refine ⟨order, h.mem_orders.mpr (.inr rfl), h.fields.2.2.2.1.symm, ?_⟩
      rw [h.drafted.orderNumber, h.orderNumber, hbooks.numbers]
    · obtain ⟨o, ho, hfields⟩ := hbooks.numbered q earlier hq
      exact ⟨o, h.mem_orders.mpr (.inl ho), hfields⟩
  counted halone tenant period := by
    have hcounts : p.countsFor tenant period = true ↔
        orderCounter tenant period = orderCounter draft.tenantId p.period := by
      rw [Placement.countsFor, h.fields.2.1]
      simp only [orderCounter, Counter.mk.injEq, Bool.and_eq_true, decide_eq_true_eq, true_and]
      rw [@eq_comm _ draft.tenantId, @eq_comm _ p.period]
    rw [h.placements, List.countP_cons]
    by_cases hc : orderCounter tenant period = orderCounter draft.tenantId p.period
    · rw [if_pos (hcounts.mpr hc), hc, h.raised, ← hc, hbooks.counted halone, Nat.cast_add,
        Int.add_assoc]
      rfl
    · rw [if_neg (mt hcounts.mp hc), Nat.add_zero, h.others _ hc, hbooks.counted halone]
  bounded c n hn := by
    by_cases hc : c = orderCounter draft.tenantId p.period
    · subst hc
      obtain ⟨l, hl, hle⟩ := hlimit _ _ n hn
      exact (h.fits l hl).trans (hle.trans (le_max_right _ _))
    · rw [h.others _ hc]
      exact hbooks.bounded c n hn
  nonneg c hstart := by
    by_cases hc : c = orderCounter draft.tenantId p.period
    · subst hc
      rw [h.raised]
      exact (hbooks.nonneg _ hstart).trans (Int.le_add_one le_rfl)
    · rw [h.others _ hc]
      exact hbooks.nonneg c hstart

/-- The keys that are not locked for it protect nothing it touches. -/
theorem same {k : Key} (hcart : k ≠ .cart draft.userId)
    (hkey : k ≠ .idempotencyKey draft.key) (hnumber : k ≠ .orderNumber)
    (husage : k ≠ .usage draft.tenantId .ordersPerMonth p.period)
    (hcoupon : ∀ r ∈ draft.redemption, k ≠ .coupon r.read.id) : Same k w w' := by
  cases k with
  | cart user =>
      have huser : p.userId ≠ user := fun he => hcart (by rw [← he, h.fields.1])
      refine ⟨fun q hq hu => ?_, ?_, fun couponId => ?_⟩
      · rw [h.placements] at hq
        obtain rfl | hq := List.mem_cons.mp hq
        · exact absurd hu huser
        · exact hq
      · rw [h.orderCount_eq, if_neg huser]
        rfl
      · rw [h.usageCount_eq, Placement.redeems, decide_eq_false huser, Bool.and_false]
        rfl
  | idempotencyKey other =>
      intro r hr he
      obtain hr | rfl := h.mem_keys.mp hr
      · exact hr
      · exact absurd (by rw [← he, h.rowOf.1]) hkey
  | coupon id =>
      show w'.coupons.get id = w.coupons.get id
      have hunused : ∀ coupon ∈ w.coupons, coupon.id = id → p.uses coupon.id = false := by
        intro coupon _ hid
        rw [hid, Placement.uses, h.fields.2.2.2.2.2]
        cases hredemption : draft.redemption with
        | none => rfl
        | some r => exact decide_eq_false fun he => hcoupon r hredemption (by rw [he])
      cases hget : w.coupons.get id with
      | none =>
          refine Table.get_eq_none.mpr fun coupon' hcoupon' hid => ?_
          obtain ⟨coupon, hmem, rfl⟩ := h.mem_coupons hcoupon'
          refine Table.get_eq_none.mp hget coupon hmem (Eq.trans ?_ hid)
          split <;> rfl
      | some coupon =>
          obtain ⟨hmem, hid⟩ := Table.get_eq_some.mp hget
          refine Table.get_eq_some.mpr ⟨?_, hid⟩
          rw [← Table.mem_rows, h.coupons]
          refine List.mem_map.mpr ⟨coupon, hmem, ?_⟩
          have huses := hunused coupon hmem hid
          rw [Placement.uses, h.fields.2.2.2.2.2] at huses
          rw [huses]
          rfl
  | orderNumber => exact absurd rfl hnumber
  | usage tenant limitKey period =>
      refine h.others _ fun he => husage ?_
      obtain ⟨rfl, rfl, rfl⟩ := Counter.mk.inj he
      rfl

end Places

end PrintForge.Checkout
