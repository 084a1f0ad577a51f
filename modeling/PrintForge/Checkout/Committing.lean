import PrintForge.Checkout.Placing

/-!
# The statements of a checkout

Statement by statement, the transaction finds out what `Ready` asks for and locks the keys that
keep it so. What it has written by then is described by what it will do to any state: it claims
the key, uses the coupon, and so on. At the end it holds all that is needed for the commit to be a
placement, whatever has been committed by others in between.
-/

namespace PrintForge.Checkout

open Relational Concurrent JavaScript Numeric Catalogue

variable {T : Terms} {w w' : World} {i userId tenantId : Nat} {key : String}
variable {items : List CheckoutCartItem} {redemption : Option Redemption}
variable {s s' : Locked World Key} {pending : Tx World HttpError Unit}

/-! ## What is in hand -/

structure Prepared (i userId tenantId : Nat) (key : String) (items : List CheckoutCartItem)
    (redemption : Option Redemption) (s : Locked World Key) : Prop where
  holdsCart : s.Holds i (.cart userId)
  holdsKey : s.Holds i (.idempotencyKey key)
  holdsCoupon : ∀ r ∈ redemption, s.Holds i (.coupon r.read.id)
  ready : Ready userId tenantId key items redemption s.db

theorem Prepared.later (h : Prepared i userId tenantId key items redemption s)
    (hs : (protocol T).discipline.rely i s s') :
    Prepared i userId tenantId key items redemption s' where
  holdsCart := (hs.1 _ h.holdsCart).1
  holdsKey := (hs.1 _ h.holdsKey).1
  holdsCoupon r hr := (hs.1 _ (h.holdsCoupon r hr)).1
  ready := h.ready.later hs.2 (hs.1 _ h.holdsCart).2 (hs.1 _ h.holdsKey).2
    fun r hr => (hs.1 _ (h.holdsCoupon r hr)).2

theorem Coupon.key_use (coupon : Coupon) : Schema.key coupon.use = Schema.key coupon := rfl

/-- What the redemption does to the coupons. -/
def Uses (redemption : Option Redemption) (t t' : Table Coupon) : Prop :=
  match redemption with
  | none => t' = t
  | some r => t.update (Schema.key · = r.read.id) Coupon.use Coupon.key_use = some t'

theorem Uses.rows {t t' : Table Coupon} (h : Uses redemption t t') :
    t'.rows = t.rows.map fun coupon =>
      if redemption.any (·.read.id = coupon.id) then coupon.use else coupon := by
  cases redemption with
  | none =>
      rw [show t' = t from h]
      exact (List.map_id _).symm
  | some r =>
      rw [Table.rows_update h]
      refine List.map_congr_left fun coupon _ => ?_
      simp only [Option.any_some, decide_eq_true_eq, eq_comm (a := r.read.id)]
      rfl

/-- What has been written before the order: the row of the key, where it is free, and the use of
the coupon. -/
structure Claims (userId : Nat) (key : String) (redemption : Option Redemption)
    (w w' : World) : Prop where
  row : (∀ r ∈ w.idempotencyKeys, r.key ≠ key) → ∃ row : IdempotencyKey, row.key = key ∧
    row.userId = userId ∧ w'.idempotencyKeys.rows = w.idempotencyKeys.rows ++ [row]
  coupons : Uses redemption w.coupons w'.coupons
  rest : ∃ t t', w' = { w with idempotencyKeys := t, coupons := t' }

/-- The pending writes come to that. -/
def Pends (userId : Nat) (key : String) (redemption : Option Redemption)
    (pending : Tx World HttpError Unit) : Prop :=
  ∀ w w', pending w = .ok ((), w') → Claims userId key redemption w w'

/-- What a transaction sees of the rest is what is committed. -/
theorem Pends.applied (h : Pends userId key redemption pending) (w : World) :
    ∃ t t', Proc.applied pending w = { w with idempotencyKeys := t, coupons := t' } := by
  cases hpending : pending w with
  | ok r =>
      obtain ⟨u, w'⟩ := r
      rw [Proc.applied_ok hpending]
      exact (h w w' hpending).rest
  | error e =>
      rw [Proc.applied_error hpending]
      exact ⟨_, _, rfl⟩

theorem Pends.coupons (h : Pends userId key none pending) (w : World) :
    (Proc.applied pending w).coupons = w.coupons := by
  cases hpending : pending w with
  | ok r =>
      obtain ⟨u, w'⟩ := r
      rw [Proc.applied_ok hpending]
      exact (h w w' hpending).coupons
  | error e => rw [Proc.applied_error hpending]

/-! ## Statements that read -/

/-- Nothing has been written, and the keys in hand are still in hand. -/
def Reads (T : Terms) (i : Nat) (s : Locked World Key) (pending : Tx World HttpError Unit)
    (pending' : Tx World HttpError Unit) (s' : Locked World Key) : Prop :=
  pending' = pending ∧ (protocol T).discipline.rely i s s'

section Reads

theorem sound_return {α : Type} {a : α} {s₁ : Locked World Key}
    (h : (protocol T).discipline.rely i s s₁) :
    (protocol T).Sound i (fun _ => Reads T i s pending) (pure a) pending s₁ :=
  Protocol.sound_pure fun _ hl _ => ⟨rfl, (protocol T).discipline.rely_trans h hl⟩

theorem sound_assertTenantActive (message : String) :
    (protocol T).Sound i (fun _ => Reads T i s pending) (assertTenantActive tenantId message)
      pending s := by
  refine Protocol.sound_read fun s₁ hs₁ _ => ?_
  split
  · exact Protocol.sound_throw _
  · exact sound_return hs₁

theorem sound_resolvePrimaryStoreId :
    (protocol T).Sound i (fun _ => Reads T i s pending) (resolvePrimaryStoreId tenantId)
      pending s := by
  refine Protocol.sound_read fun s₁ hs₁ _ => ?_
  split
  · exact Protocol.sound_throw _
  · exact sound_return hs₁

theorem sound_getShippingFeePaise (decimalOf : String → DecimalText) (storeId : Nat) :
    (protocol T).Sound i (fun _ => Reads T i s pending) (getShippingFeePaise decimalOf storeId)
      pending s := by
  refine Protocol.sound_read fun s₁ hs₁ _ => ?_
  split
  · exact sound_return hs₁
  · exact sound_return hs₁
  · exact Protocol.sound_throw _

theorem sound_getConfig :
    (protocol T).Sound i (fun _ => Reads T i s pending) (getConfig tenantId) pending s :=
  fun _ hs₁ _ => sound_return hs₁

theorem sound_resolveBillingPeriod :
    (protocol T).Sound i (fun _ => Reads T i s pending) (resolveBillingPeriod tenantId)
      pending s := by
  refine Protocol.sound_read fun s₁ hs₁ _ => ?_
  split
  · exact Protocol.sound_throw _
  · exact sound_return hs₁

end Reads

/-! ## The cart -/

theorem loadItem_item {item : CartItem} {found : CheckoutCartItem}
    (h : loadItem w item = some found) : found.item = item := by
  unfold loadItem at h
  obtain ⟨product, -, h₁⟩ := Option.bind_eq_some_iff.mp h
  obtain ⟨customizations, -, h₂⟩ := Option.bind_eq_some_iff.mp h₁
  cases h₂
  rfl

/-- What is loaded are items of the cart. -/
theorem mem_of_loadItems {cartId : Nat} (h : loadItems cartId w = some items)
    {found : CheckoutCartItem} (hfound : found ∈ items) :
    found.item ∈ w.shop.cartItems ∧ found.item.cartId = cartId := by
  have hall := Trees.forall_of_mapM (P := fun item found => found.item = item)
    (fun item _ found h => loadItem_item h) h
  obtain ⟨item, hitem, rfl⟩ := Trees.exists_left_of_mem hall hfound
  obtain ⟨hmem, hcart⟩ := List.mem_filter.mp hitem
  exact ⟨hmem, of_decide_eq_true hcart⟩

/-- An item that is in a cart has been taken by no order. -/
theorem inCart_of_mem {item : CartItem} (hbooks : Books T w) (hitem : item ∈ w.shop.cartItems)
    (hcart : ∃ cart ∈ w.shop.carts, cart.id = item.cartId ∧ cart.userId = userId) :
    InCart userId item w where
  lt := Table.key_lt_nextKey hitem
  cart := hcart
  free p hp _ hmem := by
    obtain ⟨-, hgone⟩ := (hbooks.placed p hp).consumed _ hmem
    exact Table.get_eq_none.mp hgone item hitem rfl

/-- The cart that was locked is the one that is loaded, with what is in it. -/
theorem sound_loadCart {locked : Cart} (hlocked : locked ∈ s.db.shop.carts)
    (huser : locked.userId = userId)
    (hprepared : Prepared i userId locked.tenantId key [] none s)
    (hpends : Pends userId key none pending) :
    (protocol T).Sound i (fun r pending' s' => pending' = pending ∧ r.1 = locked ∧ r.2 ≠ [] ∧
      Prepared i userId locked.tenantId key r.2 none s') (loadCart locked.id) pending s := by
  refine Protocol.sound_read fun s₁ hs₁ hi₁ => ?_
  obtain ⟨t, t', happlied⟩ := hpends.applied s₁.db
  have hlocked₁ : locked ∈ s₁.db.shop.carts := hs₁.2.carts locked hlocked
  have hget : s₁.db.shop.carts.get locked.id = some locked := Table.get_key hlocked₁
  have hprepared₁ := hprepared.later hs₁
  rw [happlied]
  dsimp only
  rw [hget]
  cases hitems : loadItems locked.id { s₁.db with idempotencyKeys := t, coupons := t' } with
  | none => exact Protocol.sound_throw _
  | some items =>
      cases items with
      | nil => exact Protocol.sound_throw _
      | cons item rest =>
          have hloaded : Prepared i userId locked.tenantId key (item :: rest) none s₁ :=
            { hprepared₁ with
              ready := { hprepared₁.ready with
                items := fun found hfound => by
                  obtain ⟨hmem, hcart⟩ := mem_of_loadItems hitems hfound
                  exact inCart_of_mem hi₁.2 hmem ⟨locked, hlocked₁, hcart.symm, huser⟩ } }
          exact Protocol.sound_pure fun s₂ hs₂ _ =>
            ⟨rfl, rfl, List.cons_ne_nil _ _, hloaded.later hs₂⟩

/-! ## The coupon -/

/-- A coupon that has passed the checks. -/
structure Validated (params : ValidateCouponParams) (validated : ValidatedCoupon)
    (w : World) : Prop where
  reduces : validated.coupon.Reduces
  tenant : validated.coupon.tenantId = params.tenantId
  redeemable : assertRedeemable validated.coupon validated.readAt = .ok ()
  readAt_le : validated.readAt ≤ w.now
  amount : validated.scopedSubtotalPaise =
    scopedSubtotalPaise validated.coupon params.subtotalPaise params.lineItems
  perUser : ∀ limit ∈ validated.coupon.usageLimitPerUser,
    usageCount validated.coupon.id params.userId w < limit
  firstOrder : validated.coupon.firstOrderOnly = true → orderCount params.userId w = 0

theorem Validated.later {params : ValidateCouponParams} {validated : ValidatedCoupon}
    (h : Validated params validated w) (honward : Onward w w')
    (hcart : Same (.cart params.userId) w w') : Validated params validated w' where
  reduces := h.reduces
  tenant := h.tenant
  redeemable := h.redeemable
  readAt_le := h.readAt_le.trans honward.now
  amount := h.amount
  perUser limit hlimit := by
    rw [hcart.2.2]
    exact h.perUser limit hlimit
  firstOrder hfirst := hcart.2.1.trans (h.firstOrder hfirst)

section Coupon

variable {coupon : Coupon} {params : ValidateCouponParams}

theorem sound_assertFirstOrder (hpends : Pends userId key none pending)
    (hholds : s.Holds i (.cart userId)) :
    (protocol T).Sound i (fun _ pending' s' => Reads T i s pending pending' s' ∧
      (coupon.firstOrderOnly = true → orderCount userId s'.db = 0))
      (assertFirstOrder coupon userId) pending s := by
  unfold assertFirstOrder
  split
  · refine Protocol.sound_read fun s₁ hs₁ _ => ?_
    obtain ⟨t, t', happlied⟩ := hpends.applied s₁.db
    rw [happlied]
    split
    · exact Protocol.sound_throw _
    · next hzero =>
      have hnone : orderCount userId s₁.db = 0 := Nat.eq_zero_of_not_pos hzero
      refine Protocol.sound_pure fun s₂ hs₂ _ => ⟨⟨rfl, ?_⟩, fun _ => ?_⟩
      · exact (protocol T).discipline.rely_trans hs₁ hs₂
      · exact ((hs₂.1 _ (hs₁.1 _ hholds).1).2.2.1).trans hnone
  · next hfirst =>
    exact Protocol.sound_pure fun s₁ hs₁ _ => ⟨⟨rfl, hs₁⟩, fun h => absurd h hfirst⟩

theorem sound_assertUsageLimitPerUser (hpends : Pends userId key none pending)
    (hholds : s.Holds i (.cart userId)) :
    (protocol T).Sound i (fun _ pending' s' => Reads T i s pending pending' s' ∧
      ∀ limit ∈ coupon.usageLimitPerUser, usageCount coupon.id userId s'.db < limit)
      (assertUsageLimitPerUser coupon userId) pending s := by
  unfold assertUsageLimitPerUser
  split
  · next hnone =>
    refine Protocol.sound_pure fun s₁ hs₁ _ => ⟨⟨rfl, hs₁⟩, fun limit hlimit => ?_⟩
    rw [hnone] at hlimit
    cases hlimit
  · next usageLimitPerUser hsome =>
    refine Protocol.sound_read fun s₁ hs₁ _ => ?_
    obtain ⟨t, t', happlied⟩ := hpends.applied s₁.db
    rw [happlied]
    split
    · exact Protocol.sound_throw _
    · next hbelow =>
      have hlt : (usageCount coupon.id userId s₁.db : Int) < usageLimitPerUser :=
        Int.not_le.mp hbelow
      refine Protocol.sound_pure fun s₂ hs₂ _ => ⟨⟨rfl, ?_⟩, fun limit hlimit => ?_⟩
      · exact (protocol T).discipline.rely_trans hs₁ hs₂
      · rw [hsome] at hlimit
        cases hlimit
        rw [(hs₂.1 _ (hs₁.1 _ hholds).1).2.2.2]
        exact hlt

/-- A coupon of the books is found, and passes the checks while the cart is locked. -/
theorem sound_validateCouponCore (hpends : Pends params.userId key none pending)
    (hholds : s.Holds i (.cart params.userId)) :
    (protocol T).Sound i (fun validated pending' s' => Reads T i s pending pending' s' ∧
      Validated params validated s'.db) (validateCouponCore params) pending s := by
  refine Protocol.sound_read fun s₁ hs₁ hi₁ => ?_
  rw [hpends.coupons]
  split
  · exact Protocol.sound_throw _
  · next coupon hfound =>
    obtain ⟨hmem, hmatch⟩ := Table.findFirst_some hfound
    have htenant : coupon.tenantId = params.tenantId :=
      of_decide_eq_true (Bool.and_eq_true_iff.mp hmatch).2
    have hreduces : coupon.Reduces := hi₁.2.reduces coupon hmem
    refine Protocol.sound_read fun s₂ hs₂ hi₂ => ?_
    obtain ⟨t, t', happlied⟩ := hpends.applied s₂.db
    rw [happlied]
    refine Protocol.sound_done fun _ hredeemable => ?_
    refine Protocol.sound_done fun amount hscope => ?_
    have h₂ : (protocol T).discipline.rely i s s₂ := (protocol T).discipline.rely_trans hs₁ hs₂
    refine (sound_assertFirstOrder hpends (h₂.1 _ hholds).1).bind hi₂ ?_
    rintro _ _ s₃ hi₃ ⟨⟨rfl, hs₃⟩, hfirst⟩
    have h₃ : (protocol T).discipline.rely i s s₃ := (protocol T).discipline.rely_trans h₂ hs₃
    refine (sound_assertUsageLimitPerUser hpends (h₃.1 _ hholds).1).bind hi₃ ?_
    rintro _ _ s₄ - ⟨⟨rfl, hs₄⟩, hlimit⟩
    have h₄ : (protocol T).discipline.rely i s s₄ := (protocol T).discipline.rely_trans h₃ hs₄
    refine Protocol.sound_pure fun s₅ hs₅ _ =>
      ⟨⟨rfl, (protocol T).discipline.rely_trans h₄ hs₅⟩, ?_⟩
    have hvalid : Validated params ⟨coupon, s₂.db.now, amount⟩ s₄.db :=
      { reduces := hreduces
        tenant := htenant
        redeemable := hredeemable
        readAt_le := hs₃.2.now.trans hs₄.2.now
        amount := assertScope_ok hscope
        perUser := hlimit
        firstOrder := fun h => ((hs₄.1 _ (h₃.1 _ hholds).1).2.2.1).trans (hfirst h) }
    exact hvalid.later hs₅.2 (hs₅.1 _ (h₄.1 _ hholds).1).2

/-- The use is claimed of the row as it is, and the row stays so. -/
theorem sound_claimUse {validated : ValidatedCoupon}
    (hvalid : Validated params validated s.db)
    (hprepared : Prepared i params.userId params.tenantId key items none s)
    (hpends : Pends params.userId key none pending) :
    (protocol T).Sound i (fun r pending' s' => r.read = validated.coupon ∧
      Prepared i params.userId params.tenantId key items (some r) s' ∧
      Pends params.userId key (some r) pending') (claimUse validated params.userId) pending s := by
  refine Protocol.sound_lock fun s₁ hs₁ _ _ => ?_
  rw [hpends.coupons]
  obtain ⟨t, t', happlied⟩ := hpends.applied s₁.db
  rw [happlied]
  split
  · exact Protocol.sound_throw _
  · next claimed now hfound =>
    obtain ⟨hclaimed, rfl⟩ := Prod.mk.inj hfound
    rw [Option.filter_eq_some_iff] at hclaimed
    obtain ⟨hget, huse⟩ := hclaimed
    have hprepared₁ := hprepared.later hs₁
    have hvalid₁ := hvalid.later hs₁.2 (hs₁.1 _ hprepared.holdsCart).2
    have hready : Prepared i params.userId params.tenantId key items
        (some ⟨params.userId, validated.coupon, validated.readAt, claimed, s₁.db.now⟩)
        (s₁.acquire i (.coupon validated.coupon.id)) :=
      { holdsCart := hprepared₁.holdsCart.acquire
        holdsKey := hprepared₁.holdsKey.acquire
        holdsCoupon := fun r hr => by
          cases hr
          exact Locked.holds_acquire
        ready := { hprepared₁.ready with
          user := fun r hr => by cases hr; rfl
          tenant := fun r hr => by cases hr; exact hvalid.tenant
          redeemable := fun r hr => by cases hr; exact hvalid.redeemable
          claimed := fun r hr => by cases hr; exact hget
          hasUse := fun r hr => by cases hr; exact huse
          readAt_le := fun r hr => by cases hr; exact hvalid₁.readAt_le
          perUser := fun r hr => by cases hr; exact hvalid₁.perUser
          firstOrder := fun r hr => by cases hr; exact hvalid₁.firstOrder } }
    refine Protocol.sound_exec fun s₂ updated w₂ hs₂ _ _ => ?_
    refine Protocol.sound_pure fun s₃ hs₃ _ =>
      ⟨rfl, hready.later ((protocol T).discipline.rely_trans hs₂ hs₃), ?_⟩
    intro w w' hcommit
    obtain ⟨w₁, updated', hpending, hupdate⟩ := Tx.discard_ok.mp hcommit
    obtain ⟨_, t, -, ht, -, rfl⟩ := Slot.update_ok hupdate
    have hclaims := hpends w w₁ hpending
    obtain ⟨keys, coupons, rfl⟩ := hclaims.rest
    have hcoupons : coupons = w.coupons := hclaims.coupons
    subst hcoupons
    exact ⟨hclaims.row, ht, ⟨keys, t, rfl⟩⟩

end Coupon

section Redeem

variable {dto : CreateOrderDto} {subtotalPaise feePaise : Int}

/-- The discount goes with the redemption. -/
structure Discounted (items : List CheckoutCartItem) (redemption : Option Redemption)
    (discount : Discount) : Prop where
  undiscounted : redemption = none → discount.discountPaise = 0
  discounted : ∀ r ∈ redemption, r.read.Reduces ∧ ∃ feePaise,
    discount = computeDiscount r.read (scopedSubtotalPaise r.read (subtotalOf items)
      (couponLines items)) feePaise

theorem sound_redeem (hprepared : Prepared i userId tenantId key items none s)
    (hpends : Pends userId key none pending) (hi : (protocol T).discipline.inv s) :
    (protocol T).Sound i (fun r pending' s' => Discounted items r.1 r.2 ∧
      Prepared i userId tenantId key items r.1 s' ∧ Pends userId key r.1 pending')
      (redeem userId dto tenantId items (subtotalOf items) feePaise) pending s := by
  unfold redeem
  split
  · refine Protocol.sound_pure fun s₁ hs₁ _ =>
      ⟨⟨fun _ => rfl, fun r hr => by cases hr⟩, hprepared.later hs₁, hpends⟩
  · next code _ =>
    refine Protocol.Sound.bind (Q := fun r pending' s' => Discounted items (some r.redemption)
      r.discount ∧ Prepared i userId tenantId key items (some r.redemption) s' ∧
      Pends userId key (some r.redemption) pending') ?_ hi ?_
    · refine (sound_validateCouponCore hpends hprepared.holdsCart).bind hi ?_
      rintro validated _ s₁ hi₁ ⟨⟨rfl, hs₁⟩, hvalid⟩
      refine (sound_claimUse hvalid (hprepared.later hs₁) hpends).bind hi₁ ?_
      rintro r pending' s₂ - ⟨hread, hprepared₂, hpends₂⟩
      refine Protocol.sound_pure fun s₃ hs₃ _ => ⟨⟨(fun h => by cases h), ?_⟩,
        hprepared₂.later hs₃, hpends₂⟩
      intro r' hr'
      cases hr'
      rw [hread]
      exact ⟨hvalid.reduces, feePaise, by rw [hvalid.amount]; rfl⟩
    · rintro claim pending' s₁ - ⟨hdiscounted, hprepared₁, hpends₁⟩
      exact Protocol.sound_pure fun s₂ hs₂ _ => ⟨hdiscounted, hprepared₁.later hs₂, hpends₁⟩

end Redeem

/-! ## The counters and the order -/

/-- What has been found out and locked by the time of the commit. -/
structure Drawn (T : Terms) (i : Nat) (limit : ResolvedLimit) (draft : OrderDraft)
    (p : Placement) (pending : Tx World HttpError Unit) (s : Locked World Key) : Prop
    extends Prepared i draft.userId draft.tenantId draft.key draft.items draft.redemption s where
  holdsNumber : s.Holds i .orderNumber
  holdsUsage : s.Holds i (.usage draft.tenantId .ordersPerMonth p.period)
  sound : draft.Sound
  items_ne_nil : draft.items ≠ []
  placement : p = draft.placement p.period s.db.orders.nextKey
  orderNumber : draft.orderNumber = orderNumberOf (s.db.orderNumberCounter.getD 0 + 1)
  writes : ∀ w w', pending w = .ok ((), w') →
    ∃ w₁ w₂ w₃ u a q, Claims draft.userId draft.key draft.redemption w w₁ ∧
      nextOrderNumber w₁ = .ok (u, w₂) ∧
      assertLimit Db.usage draft.tenantId .ordersPerMonth 1 limit (some a) w₂ = .ok ((), w₃) ∧
      limitPeriod limit a = p.period ∧ writeOrder draft p.period w₃ = .ok (q, w')

theorem Drawn.later {limit : ResolvedLimit} {draft : OrderDraft} {p : Placement}
    (h : Drawn T i limit draft p pending s) (hs : (protocol T).discipline.rely i s s') :
    Drawn T i limit draft p pending s' where
  toPrepared := h.toPrepared.later hs
  holdsNumber := (hs.1 _ h.holdsNumber).1
  holdsUsage := (hs.1 _ h.holdsUsage).1
  sound := h.sound
  items_ne_nil := h.items_ne_nil
  placement := by
    rw [(hs.1 _ h.holdsNumber).2.1]
    exact h.placement
  orderNumber := by
    rw [(hs.1 _ h.holdsNumber).2.2]
    exact h.orderNumber
  writes := h.writes

/-- The number is drawn from the counter as it is, and the counter stays so. -/
theorem sound_generateOrderNumber (hpends : Pends userId key redemption pending) :
    (protocol T).Sound i (fun n pending' s' => (protocol T).discipline.rely i s s' ∧
      s'.Holds i .orderNumber ∧ n = orderNumberOf (s'.db.orderNumberCounter.getD 0 + 1) ∧
      pending' = (do pending; discard nextOrderNumber)) generateOrderNumber pending s := by
  refine Protocol.sound_lock fun s₁ hs₁ _ _ => ?_
  refine Protocol.sound_execLast fun s₂ n w₂ hs₂ _ hnext s₃ hs₃ _ => ?_
  obtain ⟨t, t', happlied⟩ := hpends.applied s₂.db
  rw [happlied] at hnext
  obtain ⟨counter, hn, hcounter, -⟩ := nextOrderNumber_writes hnext
  have hholds : (s₁.acquire i .orderNumber).Holds i .orderNumber := Locked.holds_acquire
  have hholds₂ := (hs₂.1 _ hholds).1
  have hrely : (protocol T).discipline.rely i s s₃ :=
    (protocol T).discipline.rely_trans (Protocol.rely_acquire hs₁)
      ((protocol T).discipline.rely_trans hs₂ hs₃)
  refine ⟨hrely, (hs₃.1 _ hholds₂).1, ?_, rfl⟩
  rw [(hs₃.1 _ hholds₂).2.2, hn, hcounter]

/-- The counter that is counted is the one that is locked. -/
theorem resolvePeriod_limitPeriod {σ : Type} {v v' : σ} {limitKey : LimitKey}
    {limit : ResolvedLimit} {named period : String}
    (h : (resolvePeriod limitKey limit (some named) : Tx σ HttpError String) v =
      .ok (period, v')) : period = limitPeriod limit named := by
  unfold resolvePeriod at h
  unfold limitPeriod
  split at h
  · next hbilling =>
    rw [if_pos hbilling]
    by_cases hnamed : named = ""
    · rw [hnamed] at h
      cases h
    · rw [Option.filter_some, if_pos (decide_eq_true hnamed)] at h
      cases h
      rfl
  · next hbilling =>
    rw [if_neg hbilling]
    cases h
    rfl

section Counters

variable {limit : ResolvedLimit} {period : String}

theorem sound_countAgainst :
    (protocol T).Sound i (fun _ pending' s' => (protocol T).discipline.rely i s s' ∧
      s'.Holds i (.usage tenantId .ordersPerMonth (limitPeriod limit period)) ∧
      pending' = (do
        pending
        discard (assertLimit Db.usage tenantId .ordersPerMonth 1 limit (some period))))
      (countAgainst tenantId .ordersPerMonth 1 limit period) pending s := by
  refine Protocol.sound_lock fun s₁ hs₁ _ _ => ?_
  refine Protocol.sound_execLast fun s₂ u w₂ hs₂ _ _ s₃ hs₃ _ => ?_
  have hlate := (protocol T).discipline.rely_trans hs₂ hs₃
  exact ⟨(protocol T).discipline.rely_trans (Protocol.rely_acquire hs₁) hlate,
    (hlate.1 _ Locked.holds_acquire).1, rfl⟩

/-- The counters leave the orders alone. -/
theorem Pends.orders (hpends : Pends userId key redemption pending) (w : World) :
    (Proc.applied (do
      (do pending; discard nextOrderNumber)
      discard (assertLimit Db.usage tenantId .ordersPerMonth 1 limit (some period))) w).orders =
      w.orders := by
  cases hrun : (do
      (do pending; discard nextOrderNumber)
      discard (assertLimit Db.usage tenantId .ordersPerMonth 1 limit (some period)) :
        Tx World HttpError Unit) w with
  | error e => rw [Proc.applied_error hrun]
  | ok r =>
      obtain ⟨u, w'⟩ := r
      rw [Proc.applied_ok hrun]
      obtain ⟨w₂, u, hcounter, hassert⟩ := Tx.discard_ok.mp hrun
      obtain ⟨w₁, n, hpending, hnext⟩ := Tx.discard_ok.mp hcounter
      obtain ⟨t, t', rfl⟩ := (hpends w w₁ hpending).rest
      obtain ⟨counter, -, -, rfl⟩ := nextOrderNumber_writes hnext
      obtain ⟨-, -, -, t₂, hw₂, -⟩ := assertLimit_ok (fun _ _ => rfl) (fun _ _ _ => rfl) hassert
      rw [hw₂]
      rfl

theorem sound_finishOrder {storeId : Nat} {bill : Bill} {shipping : ShippingAddress}
    (hprepared : Prepared i userId tenantId key items redemption s)
    (hpends : Pends userId key redemption pending) (hi : (protocol T).discipline.inv s)
    (hitems : items ≠ [])
    (hsound : ∀ orderNumber, OrderDraft.Sound
      { orderNumber, userId, tenantId, storeId, key, items, bill, redemption := redemption
        shipping }) :
    (protocol T).Sound i (fun outcome pending' s' => ∃ p draft, outcome = .placed p ∧
      draft.userId = userId ∧ draft.key = key ∧ Drawn T i limit draft p pending' s')
      (finishOrder limit fun orderNumber =>
        { orderNumber, userId, tenantId, storeId, key, items, bill, redemption := redemption
          shipping }) pending s := by
  refine (sound_generateOrderNumber hpends).bind hi ?_
  rintro n _ s₁ hi₁ ⟨hs₁, hnumber, hn, rfl⟩
  refine sound_resolveBillingPeriod.bind hi₁ ?_
  rintro period _ s₂ hi₂ ⟨rfl, hs₂⟩
  refine sound_countAgainst.bind hi₂ ?_
  rintro ⟨⟩ _ s₃ hi₃ ⟨hs₃, husage, rfl⟩
  refine Protocol.sound_exec fun s₄ p w₄ hs₄ _ hwrite => ?_
  refine Protocol.sound_pure fun s₅ hs₅ _ => ?_
  have h₁₅ := (protocol T).discipline.rely_trans hs₂ ((protocol T).discipline.rely_trans hs₃
    ((protocol T).discipline.rely_trans hs₄ hs₅))
  have h₃₅ := (protocol T).discipline.rely_trans hs₄ hs₅
  have hnumber₄ := (hs₄.1 _ (hs₃.1 _ (hs₂.1 _ hnumber).1).1).1
  have hprepared₅ := hprepared.later ((protocol T).discipline.rely_trans hs₁ h₁₅)
  obtain ⟨order, lines, usages, hwritten⟩ := writeOrder_writes hwrite
  have hid := hwritten.id
  rw [hpends.orders] at hid
  have hplacement := hwritten.placement
  refine ⟨p, _, rfl, rfl, rfl, { hprepared₅ with
    holdsNumber := (hs₅.1 _ hnumber₄).1
    holdsUsage := ?_
    sound := hsound n
    items_ne_nil := hitems
    placement := ?_
    orderNumber := ?_
    writes := ?_ }⟩
  · rw [hplacement]
    exact (h₃₅.1 _ husage).1
  · rw [(hs₅.1 _ hnumber₄).2.1, ← hid, hplacement]
    rfl
  · rw [(h₁₅.1 _ hnumber).2.2]
    exact hn
  · intro w w' hcommit
    obtain ⟨w₃, q, hrun, hplaced⟩ := Tx.discard_ok.mp hcommit
    obtain ⟨w₂, ⟨⟩, hrun, hassert⟩ := Tx.discard_ok.mp hrun
    obtain ⟨w₁, m, hpending, hnext⟩ := Tx.discard_ok.mp hrun
    refine ⟨w₁, w₂, w₃, m, period, q, hpends w w₁ hpending, hnext, hassert, ?_, ?_⟩
    · rw [hplacement]
      rfl
    · rw [hplacement]
      exact hplaced

end Counters

/-- The commit is a placement. -/
theorem Drawn.places {limit : ResolvedLimit} {draft : OrderDraft} {p : Placement}
    (h : Drawn T i limit draft p pending s) (hcommit : pending s.db = .ok ((), w')) :
    ∃ order lines usages row, Places limit draft s.db w' p order lines usages row := by
  obtain ⟨w₁, w₂, w₃, u, a, q, hclaims, hnext, hassert, hperiod, hwrite⟩ := h.writes _ _ hcommit
  obtain ⟨row, hrowKey, hrowUser, hkeys⟩ := hclaims.row h.ready.key
  have hcoupons := hclaims.coupons.rows
  obtain ⟨keys, coupons, rfl⟩ := hclaims.rest
  obtain ⟨counter, -, hcounter, rfl⟩ := nextOrderNumber_writes hnext
  obtain ⟨period, hresolve, -, t, rfl, hothers, hraised, hfits⟩ :=
    assertLimit_ok (fun _ _ => rfl) (fun _ _ _ => rfl) hassert
  obtain rfl := (resolvePeriod_limitPeriod hresolve).trans hperiod
  obtain ⟨order, lines, usages, hw⟩ := writeOrder_writes hwrite
  have hplacement : p = draft.placement p.period order.id := by
    rw [hw.id]
    exact h.placement
  refine ⟨order, lines, usages, { row with resultOrderId := some order.id }, {
    drafted := hw.drafted, linesOf := hw.linesOf, id := hw.id, placement := hplacement
    orderNumber := h.orderNumber, rowOf := ⟨hrowKey, hrowUser, rfl⟩, now := hw.now
    carts := hw.carts, cartItems := hw.cartItems, keys := ?_, coupons := ?_, orders := hw.orders
    nextOrder := hw.nextOrder, orderItems := hw.orderItems, couponUsages := hw.couponUsages
    usagesOf := hw.usagesOf, orderNumberCounter := ?_, raised := ?_, fits := ?_, others := ?_
    placements := ?_ }⟩
  · have hold : ∀ r ∈ s.db.idempotencyKeys.rows,
        (if r.key = draft.key then { r with resultOrderId := some order.id } else r) = r :=
      fun r hr => if_neg (h.ready.key r hr)
    rw [hw.keys]
    show keys.rows.map _ = _
    rw [hkeys, List.map_append, List.map_congr_left hold, List.map_id', List.map_singleton,
      if_pos hrowKey]
  · rw [hw.coupons]
    exact hcoupons
  · rw [hw.orderNumberCounter]
    exact congrArg some hcounter
  · rw [hw.usage]
    exact hraised
  · rw [hw.usage]
    exact hfits
  · rw [hw.usage]
    exact hothers
  · have hq : q = p := hw.placement.trans hplacement.symm
    exact hw.placements.trans (congrArg (· :: s.db.placements) hq)

/-! ## The transaction -/

/-- What a transaction comes to: it has found an order under its key and writes nothing, or it is
ready to place one. -/
inductive Settles (T : Terms) (i : Nat) (limit : ResolvedLimit) (userId : Nat) (key : String) :
    CheckoutOutcome → Tx World HttpError Unit → Locked World Key → Prop
  | raced {orderId : Nat} {pending : Tx World HttpError Unit} {s : Locked World Key}
      (idle : ∀ w', pending s.db = .ok ((), w') → w' = s.db)
      (row : ∃ row ∈ s.db.idempotencyKeys, row.key = key ∧ row.userId = userId ∧
        row.resultOrderId = some orderId) : Settles T i limit userId key (.raced orderId) pending s
  | placed {p : Placement} {draft : OrderDraft} {pending : Tx World HttpError Unit}
      {s : Locked World Key} (drawn : Drawn T i limit draft p pending s)
      (hu : draft.userId = userId) (hk : draft.key = key) :
      Settles T i limit userId key (.placed p) pending s

section Transaction

variable {limit : ResolvedLimit} {dto : CreateOrderDto} {decimalOf : String → DecimalText}

/-- What is left to do for a key once it is known whether it was free. -/
structure Claimed (userId : Nat) (key : String) (claimed : Bool)
    (pending : Tx World HttpError Unit) (w : World) : Prop where
  free : claimed = true → Pends userId key none pending ∧ ∀ r ∈ w.idempotencyKeys, r.key ≠ key
  taken : claimed = false → (∃ r ∈ w.idempotencyKeys, r.key = key) ∧
    ∀ w w', (∃ r ∈ w.idempotencyKeys, r.key = key) → pending w = .ok ((), w') → w' = w

/-- The row of the key is written where the key is free, and nothing is elsewhere. -/
theorem sound_claim :
    (protocol T).Sound i (fun claimed pending' s' => (protocol T).discipline.rely i s s' ∧
      s'.Holds i (.idempotencyKey key) ∧ Claimed userId key claimed pending' s'.db)
      (claim key userId tenantId) (pure ()) s := by
  refine Protocol.sound_lock fun s₁ hs₁ _ _ => ?_
  refine Protocol.sound_exec fun s₂ row w₂ hs₂ _ hcreate => ?_
  refine Protocol.sound_pure fun s₃ hs₃ _ => ?_
  have hlate := (protocol T).discipline.rely_trans hs₂ hs₃
  have hholds := hlate.1 _ (Locked.holds_acquire (s := s₁) (i := i) (k := .idempotencyKey key))
  have hsame := hs₃.1 _ (hs₂.1 _ (Locked.holds_acquire (s := s₁) (i := i)
    (k := .idempotencyKey key))).1
  refine ⟨(protocol T).discipline.rely_trans (Protocol.rely_acquire hs₁) hlate, hholds.1, ?_⟩
  obtain ⟨r, t, rfl, hkey, -, -, -, -, hfree⟩ | ⟨rfl, -, r, hr, hkey⟩ := claimKey_writes hcreate
  · refine ⟨fun _ => ⟨fun w w' hcommit => ?_, ?_⟩, fun h => by cases h⟩
    · obtain ⟨w₁, found, hpure, hfound⟩ := Tx.discard_ok.mp hcommit
      cases hpure
      obtain ⟨r', t', -, hkey', huser', -, rfl, hrows, -⟩ | ⟨-, rfl, r', hr', hkey'⟩ :=
        claimKey_writes hfound
      · exact ⟨fun _ => ⟨r', hkey', huser', hrows⟩, rfl, ⟨t', _, rfl⟩⟩
      · exact ⟨fun hnone => absurd hkey' (hnone r' hr'), rfl, ⟨_, _, rfl⟩⟩
    · exact fun row hrow he => hfree row (hsame.2 row hrow he) he
  · refine ⟨(fun h => by cases h), fun _ => ⟨⟨r, hs₃.2.keys r hr, hkey⟩,
      fun w w' hthere hcommit => ?_⟩⟩
    obtain ⟨w₁, found, hpure, hfound⟩ := Tx.discard_ok.mp hcommit
    cases hpure
    obtain ⟨-, -, -, -, -, -, -, -, hnone⟩ | ⟨-, rfl, -⟩ := claimKey_writes hfound
    · obtain ⟨r', hr', hkey'⟩ := hthere
      exact absurd hkey' (hnone r' hr')
    · rfl

theorem sound_resolveRaced (hclaimed : Claimed userId key false pending s.db) :
    (protocol T).Sound i (Settles T i limit userId key) (resolveRaced key userId) pending s := by
  obtain ⟨⟨r, hr, hkey⟩, hidle⟩ := hclaimed.taken rfl
  have hthere : ∀ {s'}, (protocol T).discipline.rely i s s' →
      ∃ r ∈ s'.db.idempotencyKeys, r.key = key := fun hs' => ⟨r, hs'.2.keys r hr, hkey⟩
  refine Protocol.sound_read fun s₁ hs₁ _ => ?_
  have happlied : Proc.applied pending s₁.db = s₁.db := by
    cases hrun : pending s₁.db with
    | error e => exact Proc.applied_error hrun
    | ok r =>
        obtain ⟨u, w'⟩ := r
        rw [Proc.applied_ok hrun]
        exact hidle s₁.db w' (hthere hs₁) hrun
  rw [happlied]
  split
  · next orderId hfound =>
    obtain ⟨row, hrow, hresult⟩ := Option.bind_eq_some_iff.mp hfound
    obtain ⟨hmem, hrowKey⟩ := Table.findFirst_some hrow
    rw [Option.filter_eq_some_iff] at hresult
    refine Protocol.sound_pure fun s₂ hs₂ _ => .raced (fun w' hrun => ?_) ?_
    · exact hidle s₂.db w' (hthere ((protocol T).discipline.rely_trans hs₁ hs₂)) hrun
    · exact ⟨row, hs₂.2.keys row hmem, of_decide_eq_true hrowKey, of_decide_eq_true hresult.2,
        hresult.1⟩
  · exact Protocol.sound_throw _

theorem sound_placeOrder {locked : Cart} (hlocked : locked ∈ s.db.shop.carts)
    (huser : locked.userId = userId)
    (hprepared : Prepared i userId locked.tenantId key [] none s)
    (hpends : Pends userId key none pending) (hi : (protocol T).discipline.inv s) :
    (protocol T).Sound i (Settles T i limit userId key)
      (placeOrder decimalOf limit userId dto key locked.id) pending s := by
  refine (sound_loadCart hlocked huser hprepared hpends).bind hi ?_
  rintro ⟨cart, items⟩ _ s₁ hi₁ ⟨rfl, rfl, hitems, hprepared₁⟩
  refine Protocol.sound_done fun _ _ => ?_
  refine sound_resolvePrimaryStoreId.bind hi₁ ?_
  rintro storeId _ s₂ hi₂ ⟨rfl, hs₂⟩
  refine (sound_getShippingFeePaise decimalOf storeId).bind hi₂ ?_
  rintro feePaise _ s₃ hi₃ ⟨rfl, hs₃⟩
  have hprepared₃ := hprepared₁.later ((protocol T).discipline.rely_trans hs₂ hs₃)
  refine (sound_redeem hprepared₃ hpends hi₃).bind hi₃ ?_
  rintro ⟨redemption, discount⟩ pending₄ s₄ hi₄ ⟨hdiscounted, hprepared₄, hpends₄⟩
  refine sound_getConfig.bind hi₄ ?_
  rintro config _ s₅ hi₅ ⟨rfl, hs₅⟩
  refine Protocol.sound_done fun bill hbill => ?_
  obtain ⟨hsound, hsubtotal, hdiscount⟩ := computeBill_sound hbill
  refine (sound_finishOrder (hprepared₄.later hs₅) hpends₄ hi₅ hitems fun n =>
    ⟨hsound, hsubtotal, fun hnone => ?_, fun r hr => ?_⟩).mono ?_
  · exact hdiscount ▸ hdiscounted.undiscounted hnone
  · exact hdiscount ▸ hdiscounted.discounted r hr
  · rintro _ pending₆ s₆ ⟨p, draft, rfl, hu, hk, hdrawn⟩
    exact .placed hdrawn hu hk

theorem sound_checkoutTransaction :
    (protocol T).Sound i (Settles T i limit userId key)
      (checkoutTransaction decimalOf limit userId dto key) (pure ()) s := by
  refine Protocol.sound_lock fun s₁ hs₁ hi₁ hok₁ => ?_
  rw [show Proc.applied (pure ()) s₁.db = s₁.db from rfl]
  split
  · exact Protocol.sound_throw _
  · next cart hfound =>
    obtain ⟨hcart, huser⟩ := Table.findFirst_some hfound
    have hi₁ : (protocol T).discipline.inv (s₁.acquire i (.cart userId)) :=
      ⟨hi₁.1.acquire hok₁.1, hi₁.2⟩
    refine (sound_assertTenantActive _).bind hi₁ ?_
    rintro _ _ s₂ hi₂ ⟨rfl, hs₂⟩
    refine sound_claim.bind hi₂ ?_
    rintro claimed pending s₃ hi₃ ⟨hs₃, hholds, hclaimed⟩
    have hlate := (protocol T).discipline.rely_trans hs₂ hs₃
    cases claimed with
    | false => exact sound_resolveRaced hclaimed
    | true =>
        obtain ⟨hpends, hfree⟩ := hclaimed.free rfl
        refine sound_placeOrder (hlate.2.carts cart hcart) (of_decide_eq_true huser) ?_ hpends hi₃
        exact {
          holdsCart := (hlate.1 _ Locked.holds_acquire).1
          holdsKey := hholds
          holdsCoupon := fun r hr => by cases hr
          ready := {
            key := hfree
            items := fun item hitem => by cases hitem
            user := fun r hr => by cases hr
            tenant := fun r hr => by cases hr
            redeemable := fun r hr => by cases hr
            claimed := fun r hr => by cases hr
            hasUse := fun r hr => by cases hr
            readAt_le := fun r hr => by cases hr
            perUser := fun r hr => by cases hr
            firstOrder := fun r hr => by cases hr } }

end Transaction

end PrintForge.Checkout
