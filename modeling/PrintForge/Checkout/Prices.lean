import PrintForge.Checkout.Preview

/-!
# The price shown and the price charged

`quote` says what the cart of a user costs in a state: it looks up the items, the fee of the
store, the coupon and the tax, and checks nothing. Wherever the preview or the checkout succeeds
it has computed this quote, and the subtotal of the cart is that of the quote.
-/

namespace PrintForge.Checkout

open Relational Concurrent JavaScript Numeric Catalogue

variable {decimalOf : String → DecimalText} {limit : ResolvedLimit} {dto : CreateOrderDto}
variable {key : String} {userId tenantId storeId : Nat} {couponCode : Option String}
variable {items : List CheckoutCartItem} {subtotalPaise feePaise : Int} {w w' : World}

/-! ## The quote -/

def subtotalOf (items : List CheckoutCartItem) : Int := sumLineTotals (items.map priceItem)

def shippingFeeAt (decimalOf : String → DecimalText) (storeId : Nat) (w : World) : Option Int :=
  let setting := w.shop.storeSettings.findFirst fun s =>
    s.ownerId = storeId && s.name = shippingFeeSettingKey
  match setting.map fun setting => decimalOf setting.value with
  | none => some 0
  | some (.finite fee) => some (decimalToPaise fee)
  | some _ => none

def couponLines (items : List CheckoutCartItem) : List CouponLineItem :=
  items.map fun item => ⟨item.product.categoryId, (priceItem item).lineTotalPaise⟩

/-- The code of the coupon and its discount, if a coupon is given. -/
def discountAt (couponCode : Option String) (tenantId : Nat) (items : List CheckoutCartItem)
    (subtotalPaise feePaise : Int) (w : World) : Option (Option String × Discount) :=
  match truthy couponCode with
  | none => some (none, ⟨0, feePaise⟩)
  | some code =>
      let coupon := w.coupons.findFirst fun c =>
        c.code = toUpperCase (trim code) && c.tenantId = tenantId
      coupon.map fun coupon => (some coupon.code,
        computeDiscount coupon (scopedSubtotalPaise coupon subtotalPaise (couponLines items))
          feePaise)

def configAt (tenantId : Nat) (w : World) : TaxConfig where
  enabled := tenantSetting tenantId "tax.enabled" w = some "true"
  mode :=
    if tenantSetting tenantId "tax.pricingMode" w = some "EXCLUSIVE" then .exclusive
    else .inclusive
  ratePercent := (tenantSetting tenantId "tax.ratePercent" w).getD "0"

theorem configAt_congr (h : w'.shop = w.shop) : configAt tenantId w' = configAt tenantId w := by
  have hsetting : ∀ name, tenantSetting tenantId name w' = tenantSetting tenantId name w := by
    intro name
    rw [tenantSetting, h, tenantSetting]
  simp only [configAt, hsetting]

/-- What the cart of the user costs, with the code of the coupon. -/
def quote (decimalOf : String → DecimalText) (userId : Nat) (couponCode : Option String)
    (w : World) : Option (Bill × Option String) := do
  let cart ← w.shop.carts.findFirst (·.userId = userId)
  let items ← loadItems cart.id w
  let store ← w.shop.stores.findFirst fun s => s.tenantId = cart.tenantId && s.isPrimary
  let feePaise ← shippingFeeAt decimalOf store.id w
  let (code, discount) ←
    discountAt couponCode cart.tenantId items (subtotalOf items) feePaise w
  let bill ← (computeBill decimalOf (subtotalOf items) discount
    (configAt cart.tenantId w)).toOption
  return (bill, code)

theorem quote_eq_some {cart : Cart} {store : PaymentAccounts.Store} {code : Option String}
    {discount : Discount} {bill : Bill}
    (hcart : w.shop.carts.findFirst (·.userId = userId) = some cart)
    (hitems : loadItems cart.id w = some items)
    (hstore : (w.shop.stores.findFirst fun s => s.tenantId = cart.tenantId && s.isPrimary) =
      some store)
    (hfee : shippingFeeAt decimalOf store.id w = some feePaise)
    (hdiscount : discountAt couponCode cart.tenantId items (subtotalOf items) feePaise w =
      some (code, discount))
    (hbill : computeBill decimalOf (subtotalOf items) discount (configAt cart.tenantId w) =
      .ok bill) :
    quote decimalOf userId couponCode w = some (bill, code) := by
  simp only [quote, hcart, hitems, hstore, hfee, hdiscount, hbill, Option.bind_eq_bind,
    Option.bind_some, Except.toOption, Option.pure_def]

theorem computeBill_subtotalPaise {discount : Discount} {config : TaxConfig} {bill : Bill}
    (h : computeBill decimalOf subtotalPaise discount config = .ok bill) :
    bill.subtotalPaise = subtotalPaise := by
  unfold computeBill at h
  cases htax : computeTax decimalOf (subtotalPaise - discount.discountPaise) config with
  | error e =>
      rw [htax] at h
      cases h
  | ok tax =>
      rw [htax] at h
      cases h
      rfl

/-! ## The cart -/

/-- The arithmetic of the cart comes to that of the checkout. -/
theorem computeItemPricing_lineTotalPaise (item : CheckoutCartItem) :
    (computeItemPricing item).lineTotalPaise = (priceItem item).lineTotalPaise := by
  obtain ⟨item, product, variant, customizations⟩ := item
  have hsurcharge : ((customizations.map priceCustomization).map (·.surchargePaise)).sum =
      surchargePaise customizations := by
    rw [List.map_map]
    rfl
  cases variant with
  | none => simp only [computeItemPricing, priceItem, computeLine, hsurcharge]; rfl
  | some variant => simp only [computeItemPricing, priceItem, computeLine, hsurcharge]; rfl

theorem toCartView_subtotal (cart : Cart) (items : List CheckoutCartItem) :
    (toCartView cart items).subtotal = paiseToDecimalString (subtotalOf items) := by
  have hsum : ∀ start : Int, items.foldl
      (fun sum item => sum + (computeItemPricing item).lineTotalPaise) start =
      start + subtotalOf items := by
    induction items with
    | nil => simp [subtotalOf, sumLineTotals]
    | cons item items ih =>
        intro start
        rw [List.foldl_cons, ih, computeItemPricing_lineTotalPaise]
        simp only [subtotalOf, sumLineTotals, List.map_cons, List.sum_cons, Int.add_assoc]
  rw [toCartView, hsum, Int.zero_add]

/-- A cart that is there is found, and its items are listed. -/
theorem getCart_ok {view : CartView} {cart : Cart}
    (h : (getCart userId tenantId).run w = .ok (view, w'))
    (hcart : w.shop.carts.findFirst (·.userId = userId) = some cart)
    (hitems : loadItems cart.id w = some items) :
    view.subtotal = paiseToDecimalString (subtotalOf items) := by
  have hget : w.shop.carts.get cart.id = some cart := Table.get_key (Table.findFirst_some hcart).1
  have hupsert : upsertCart Db.carts userId tenantId w = .ok (cart, w) := by
    have hfound : (Db.carts.get w).findFirst (·.userId = userId) = some cart := hcart
    rw [upsertCart, Tx.bind_read, hfound]
    rfl
  rw [getCart, Txn.run_bind, Txn.run_exec] at h
  obtain ⟨found, w₁, hfound, h⟩ := Tx.bind_ok.mp h
  rw [hupsert] at hfound
  cases hfound
  rw [Txn.run_bind, Txn.run_read, Tx.bind_read, hget, hitems] at h
  cases h
  exact toCartView_subtotal cart items

/-! ## What both calls read -/

theorem resolvePrimaryStoreId_ok (h : (resolvePrimaryStoreId tenantId).run w = .ok (storeId, w')) :
    (∃ store, (w.shop.stores.findFirst fun s => s.tenantId = tenantId && s.isPrimary) =
      some store ∧ storeId = store.id) ∧ w' = w := by
  rw [resolvePrimaryStoreId, Txn.run_bind, Txn.run_read, Tx.bind_read] at h
  cases hstore : w.shop.stores.findFirst fun s => s.tenantId = tenantId && s.isPrimary with
  | none =>
      rw [hstore] at h
      cases h
  | some store =>
      rw [hstore] at h
      cases h
      exact ⟨⟨store, rfl, rfl⟩, rfl⟩

theorem getShippingFeePaise_ok
    (h : (getShippingFeePaise decimalOf storeId).run w = .ok (feePaise, w')) :
    shippingFeeAt decimalOf storeId w = some feePaise ∧ w' = w := by
  rw [getShippingFeePaise, Txn.run_bind, Txn.run_read, Tx.bind_read] at h
  cases hfee : (w.shop.storeSettings.findFirst fun s =>
      s.ownerId = storeId && s.name = shippingFeeSettingKey).map
        fun setting => decimalOf setting.value with
  | none =>
      rw [hfee] at h
      cases h
      exact ⟨by simp only [shippingFeeAt, hfee], rfl⟩
  | some value =>
      rw [hfee] at h
      cases value with
      | finite fee =>
          cases h
          exact ⟨by simp only [shippingFeeAt, hfee], rfl⟩
      | invalid => cases h
      | notFinite => cases h

theorem assertTenantActive_ok {message : String} {u : Unit}
    (h : (assertTenantActive tenantId message).run w = .ok (u, w')) : w' = w := by
  rw [assertTenantActive, Txn.run_bind, Txn.run_read, Tx.bind_read] at h
  split at h
  · cases h
  · cases h
    rfl

theorem getConfig_ok {config : TaxConfig} (h : (getConfig tenantId).run w = .ok (config, w')) :
    config = configAt tenantId w ∧ w' = w := by
  cases h
  exact ⟨rfl, rfl⟩

theorem assertScope_ok {coupon : Coupon} {params : ValidateCouponParams} {amount : Int}
    (h : assertScope coupon params = .ok amount) :
    amount = scopedSubtotalPaise coupon params.subtotalPaise params.lineItems := by
  unfold assertScope at h
  dsimp only at h
  split at h
  · cases h
  · split at h
    · cases h
    · cases h
      rfl

theorem assertFirstOrder_ok {coupon : Coupon} {u : Unit}
    (h : (assertFirstOrder coupon userId).run w = .ok (u, w')) : w' = w := by
  unfold assertFirstOrder at h
  split at h
  · rw [Txn.run_bind, Txn.run_read, Tx.bind_read] at h
    split at h
    · cases h
    · cases h
      rfl
  · cases h
    rfl

theorem assertUsageLimitPerUser_ok {coupon : Coupon} {u : Unit}
    (h : (assertUsageLimitPerUser coupon userId).run w = .ok (u, w')) : w' = w := by
  unfold assertUsageLimitPerUser at h
  split at h
  · cases h
    rfl
  · rw [Txn.run_bind, Txn.run_read, Tx.bind_read] at h
    split at h
    · cases h
    · cases h
      rfl

/-- A coupon that passes is the one with the code, and is looked at for its own part. -/
theorem validateCouponCore_ok {params : ValidateCouponParams} {validated : ValidatedCoupon}
    (h : (validateCouponCore params).run w = .ok (validated, w')) :
    (w.coupons.findFirst fun c => c.code = toUpperCase (trim params.code) &&
      c.tenantId = params.tenantId) = some validated.coupon ∧
    validated.scopedSubtotalPaise =
      scopedSubtotalPaise validated.coupon params.subtotalPaise params.lineItems ∧ w' = w := by
  simp only [validateCouponCore] at h
  rw [Txn.run_bind, Txn.run_read, Tx.bind_read] at h
  cases hcoupon : w.coupons.findFirst fun c => c.code = toUpperCase (trim params.code) &&
      c.tenantId = params.tenantId with
  | none =>
      rw [hcoupon] at h
      cases h
  | some coupon =>
      rw [hcoupon] at h
      simp only [validateFound, Txn.run_bind, Txn.run_read, Txn.run_done, Tx.bind_read] at h
      obtain ⟨u₁, w₁, hredeemable, h⟩ := Tx.bind_ok.mp h
      obtain ⟨amount, w₂, hscope, h⟩ := Tx.bind_ok.mp h
      obtain ⟨u₃, w₃, hfirst, h⟩ := Tx.bind_ok.mp h
      obtain ⟨u₄, w₄, hper, h⟩ := Tx.bind_ok.mp h
      obtain ⟨-, rfl⟩ := Tx.ofExcept_ok.mp hredeemable
      obtain ⟨hamount, rfl⟩ := Tx.ofExcept_ok.mp hscope
      obtain rfl := assertFirstOrder_ok hfirst
      obtain rfl := assertUsageLimitPerUser_ok hper
      cases h
      exact ⟨rfl, assertScope_ok hamount, rfl⟩

/-! ## The preview -/

theorem previewRedeem_ok {code : Option String} {discount : Discount}
    (h : (previewRedeem userId couponCode tenantId items subtotalPaise feePaise).run w =
      .ok ((code, discount), w')) :
    discountAt couponCode tenantId items subtotalPaise feePaise w = some (code, discount) ∧
      w' = w := by
  unfold previewRedeem at h
  unfold discountAt
  cases hcode : truthy couponCode with
  | none =>
      rw [hcode] at h
      cases h
      exact ⟨rfl, rfl⟩
  | some code =>
      rw [hcode] at h
      simp only [previewDiscount, Txn.run_bind, Txn.run_pure] at h
      obtain ⟨preview, w₁, hpreview, h⟩ := Tx.bind_ok.mp h
      obtain ⟨validated, w₂, hvalidated, hpreview⟩ := Tx.bind_ok.mp hpreview
      cases hpreview
      cases h
      obtain ⟨hcoupon, hscoped, rfl⟩ := validateCouponCore_ok hvalidated
      dsimp only at hcoupon hscoped ⊢
      rw [hcoupon, hscoped]
      exact ⟨rfl, rfl⟩

/-- A preview shows the quote. -/
theorem previewCheckout_ok {view : CheckoutPreviewView}
    (h : (previewCheckout decimalOf userId couponCode).run w = .ok (view, w')) :
    ∃ cart items bill code, w.shop.carts.findFirst (·.userId = userId) = some cart ∧
      loadItems cart.id w = some items ∧ bill.subtotalPaise = subtotalOf items ∧
      quote decimalOf userId couponCode w = some (bill, code) ∧ view = toPreviewView bill code := by
  rw [previewCheckout, Txn.run_bind, Txn.run_read, Tx.bind_read] at h
  cases hcart : w.shop.carts.findFirst (·.userId = userId) with
  | none =>
      rw [hcart] at h
      cases h
  | some cart =>
      rw [hcart, Option.map_some] at h
      cases hitems : loadItems cart.id w with
      | none =>
          rw [hitems] at h
          cases h
      | some items =>
          rw [hitems] at h
          cases items with
          | nil => cases h
          | cons item items =>
              dsimp only at h
              simp only [previewCart, Txn.run_bind, Txn.run_done, Txn.run_pure] at h
              obtain ⟨u, w₁, hactive, h₁⟩ := Tx.bind_ok.mp h
              obtain ⟨storeId, w₂, hstore, h₂⟩ := Tx.bind_ok.mp h₁
              obtain ⟨feePaise, w₃, hfee, h₃⟩ := Tx.bind_ok.mp h₂
              obtain ⟨⟨code, discount⟩, w₄, hdiscount, h₄⟩ := Tx.bind_ok.mp h₃
              obtain ⟨config, w₅, hconfig, h₅⟩ := Tx.bind_ok.mp h₄
              obtain ⟨bill, w₆, hbill, h₆⟩ := Tx.bind_ok.mp h₅
              obtain rfl := assertTenantActive_ok hactive
              obtain ⟨⟨store, hprimary, rfl⟩, rfl⟩ := resolvePrimaryStoreId_ok hstore
              obtain ⟨hfeeAt, rfl⟩ := getShippingFeePaise_ok hfee
              obtain ⟨hdiscountAt, rfl⟩ := previewRedeem_ok hdiscount
              obtain ⟨rfl, rfl⟩ := getConfig_ok hconfig
              obtain ⟨hcompute, rfl⟩ := Tx.ofExcept_ok.mp hbill
              cases h₆
              refine ⟨cart, _, bill, code, rfl, hitems, ?_,
                quote_eq_some hcart hitems hprimary hfeeAt hdiscountAt hcompute, rfl⟩
              exact computeBill_subtotalPaise hcompute

/-! ## The order -/

/-- The prices of an order that has been written, in the words of the preview. -/
def Order.prices (order : Order) : CheckoutPreviewView where
  subtotal := paiseToDecimalString order.subtotal.paise
  shippingFee := paiseToDecimalString order.shippingFee.paise
  discountAmount := paiseToDecimalString order.discountAmount.paise
  taxableAmount := paiseToDecimalString order.taxableAmount.paise
  taxAmount := paiseToDecimalString order.taxAmount.paise
  taxMode := order.taxMode
  total := paiseToDecimalString order.total.paise
  couponCode := order.couponCode

theorem toAmount_ok {paise : Int} {amount : Amount} (h : toAmount paise = .ok amount) :
    amount.paise = paise := by
  unfold toAmount Amount.ofPaise? at h
  split at h
  · cases h
  · next hfits =>
    split at hfits
    · cases hfits
      cases h
      rfl
    · cases hfits

/-- The order is written with the bill it was drafted with. -/
theorem createOrder_ok {draft : OrderDraft} {order : Order}
    (h : createOrder draft w = .ok (order, w')) :
    w'.orders.get order.id = some order ∧
      order.prices = toPreviewView draft.bill (draft.redemption.map (·.read.code)) := by
  obtain ⟨subtotal, w₁, hsubtotal, h₁⟩ := Tx.bind_ok.mp h
  obtain ⟨shippingFee, w₂, hshippingFee, h₂⟩ := Tx.bind_ok.mp h₁
  obtain ⟨total, w₃, htotal, h₃⟩ := Tx.bind_ok.mp h₂
  obtain ⟨discountAmount, w₄, hdiscountAmount, h₄⟩ := Tx.bind_ok.mp h₃
  obtain ⟨taxableAmount, w₅, htaxableAmount, h₅⟩ := Tx.bind_ok.mp h₄
  obtain ⟨taxAmount, w₆, htaxAmount, h₆⟩ := Tx.bind_ok.mp h₅
  obtain ⟨t, ht, rfl, rfl⟩ := Slot.create_ok h₆
  refine ⟨?_, ?_⟩
  · refine (Table.get_create ht _).trans ?_
    simp
  · simp only [Order.prices, toPreviewView, toAmount_ok (Tx.ofExcept_ok.mp hsubtotal).1,
      toAmount_ok (Tx.ofExcept_ok.mp hshippingFee).1, toAmount_ok (Tx.ofExcept_ok.mp htotal).1,
      toAmount_ok (Tx.ofExcept_ok.mp hdiscountAmount).1,
      toAmount_ok (Tx.ofExcept_ok.mp htaxableAmount).1,
      toAmount_ok (Tx.ofExcept_ok.mp htaxAmount).1]

/-- What follows the order leaves the orders alone. -/
abbrev KeepsOrders : World → World → Prop := Tx.Same World.orders

theorem keepsOrders_ofExcept {α : Type} (x : Except HttpError α) :
    Tx.Within KeepsOrders (Tx.ofExcept x) := by
  intro w a w' h
  obtain ⟨-, rfl⟩ := Tx.ofExcept_ok.mp h
  rfl

theorem keepsOrders_recordUsage (draft : OrderDraft) (order : Order) :
    Tx.Within KeepsOrders (recordUsage draft order) := by
  unfold recordUsage
  split
  · exact Tx.within_pure _
  · exact Tx.within_bind (keepsOrders_ofExcept _) fun _ => Tx.within_bind
      (Slot.within_create fun _ _ _ => rfl) fun _ => Tx.within_pure _

theorem keepsOrders_createItemCustomizations (item : OrderItem)
    (customizations : List (CartItemCustomization × CustomizationField)) :
    Tx.Within KeepsOrders (createItemCustomizations item customizations) := by
  induction customizations with
  | nil => exact Tx.within_pure _
  | cons c rest ih =>
      exact Tx.within_bind (Slot.within_create fun _ _ _ => rfl) fun _ => ih

theorem keepsOrders_createItems (order : Order) (items : List CheckoutCartItem) :
    Tx.Within KeepsOrders (createItems order items) := by
  induction items with
  | nil => exact Tx.within_pure _
  | cons item rest ih =>
      refine Tx.within_bind (keepsOrders_ofExcept _) fun _ => ?_
      refine Tx.within_bind (keepsOrders_ofExcept _) fun _ => ?_
      refine Tx.within_bind (Slot.within_create fun _ _ _ => rfl) fun orderItem => ?_
      exact Tx.within_bind (keepsOrders_createItemCustomizations orderItem _) fun _ => ih

theorem keepsOrders_recordResult (key : String) (orderId : Nat) :
    Tx.Within KeepsOrders (recordResult key orderId) :=
  Tx.within_bind (Slot.within_updateMany fun _ _ _ => rfl) fun _ => Tx.within_pure _

theorem keepsOrders_emptyCart (draft : OrderDraft) : Tx.Within KeepsOrders (emptyCart draft) := by
  intro w u w' h
  cases h
  rfl

theorem writeOrder_ok {draft : OrderDraft} {period : String} {placement : Placement}
    (h : writeOrder draft period w = .ok (placement, w')) :
    ∃ order, w'.orders.get placement.orderId = some order ∧
      order.prices = toPreviewView draft.bill (draft.redemption.map (·.read.code)) := by
  obtain ⟨order, w₁, horder, h₁⟩ := Tx.bind_ok.mp h
  obtain ⟨u₂, w₂, husage, h₂⟩ := Tx.bind_ok.mp h₁
  obtain ⟨u₃, w₃, hitems, h₃⟩ := Tx.bind_ok.mp h₂
  obtain ⟨row, w₄, hhistory, h₄⟩ := Tx.bind_ok.mp h₃
  obtain ⟨u₅, w₅, hresult, h₅⟩ := Tx.bind_ok.mp h₄
  obtain ⟨u₆, w₆, hempty, h₆⟩ := Tx.bind_ok.mp h₅
  cases h₆
  obtain ⟨t, -, -, rfl⟩ := Slot.create_ok hhistory
  obtain ⟨hget, hprices⟩ := createOrder_ok horder
  have hrecorded : w₅.orders = (Db.orderStatusHistory.set t w₃).orders :=
    keepsOrders_recordResult _ _ hresult
  have hkept : w₆.orders = w₁.orders :=
    calc w₆.orders = w₅.orders := keepsOrders_emptyCart draft hempty
      _ = w₃.orders := hrecorded
      _ = w₂.orders := keepsOrders_createItems order _ hitems
      _ = w₁.orders := keepsOrders_recordUsage draft order husage
  exact ⟨order, (congrArg (Table.get · order.id) hkept).trans hget, hprices⟩

/-! ## The checkout -/

theorem claimUse_ok {validated : ValidatedCoupon} {redemption : Redemption}
    (h : (claimUse validated userId).run w = .ok (redemption, w')) :
    redemption.read = validated.coupon ∧ w'.shop = w.shop := by
  simp only [claimUse] at h
  rw [Txn.run_bind, Txn.run_lockAnd, Tx.bind_read] at h
  cases hfound : (w.coupons.get validated.coupon.id).filter (·.hasUse) with
  | none =>
      rw [hfound] at h
      cases h
  | some claimed =>
      rw [hfound] at h
      dsimp only at h
      rw [Txn.run_bind, Txn.run_exec] at h
      obtain ⟨coupon, w₁, hupdate, h₁⟩ := Tx.bind_ok.mp h
      cases h₁
      obtain ⟨-, t, -, -, -, rfl⟩ := Slot.update_ok hupdate
      exact ⟨rfl, rfl⟩

/-- The discount of a claim is the one a preview shows. -/
theorem redeem_ok {redemption : Option Redemption} {discount : Discount}
    (h : (redeem userId dto tenantId items subtotalPaise feePaise).run w =
      .ok ((redemption, discount), w')) :
    discountAt dto.couponCode tenantId items subtotalPaise feePaise w =
      some (redemption.map (·.read.code), discount) ∧ w'.shop = w.shop := by
  unfold redeem at h
  unfold discountAt
  cases hcode : truthy dto.couponCode with
  | none =>
      rw [hcode] at h
      cases h
      exact ⟨rfl, rfl⟩
  | some code =>
      rw [hcode] at h
      simp only [validateAndClaim, Txn.run_bind, Txn.run_pure] at h
      obtain ⟨claim, w₁, hclaim, h₁⟩ := Tx.bind_ok.mp h
      obtain ⟨validated, w₂, hvalidated, hclaim₁⟩ := Tx.bind_ok.mp hclaim
      obtain ⟨redemption, w₃, hredemption, hclaim₂⟩ := Tx.bind_ok.mp hclaim₁
      cases hclaim₂
      cases h₁
      obtain ⟨hcoupon, hscoped, rfl⟩ := validateCouponCore_ok hvalidated
      obtain ⟨hread, hshop⟩ := claimUse_ok hredemption
      dsimp only at hcoupon hscoped ⊢
      rw [hcoupon, hscoped, Option.map_some, Option.map_some, hread]
      exact ⟨rfl, hshop⟩

theorem claim_ok {claimed : Bool} (h : (claim key userId tenantId).run w = .ok (claimed, w')) :
    ∃ t, w' = { w with idempotencyKeys := t } := by
  simp only [claim, Txn.run_bind, Txn.run_lockAnd, Txn.run_exec, Txn.run_pure, Tx.bind_read] at h
  obtain ⟨row, w₁, hcreate, h₁⟩ := Tx.bind_ok.mp h
  cases h₁
  unfold Slot.createOrIgnore at hcreate
  split at hcreate
  · next t _ =>
    cases hcreate
    exact ⟨t, rfl⟩
  · cases hcreate
    exact ⟨w.idempotencyKeys, rfl⟩

theorem finishOrder_ok {draft : String → OrderDraft} {outcome : CheckoutOutcome}
    (h : (finishOrder limit draft).run w = .ok (outcome, w')) :
    ∃ orderNumber order, w'.orders.get outcome.orderId = some order ∧
      order.prices = toPreviewView (draft orderNumber).bill
        ((draft orderNumber).redemption.map (·.read.code)) := by
  simp only [finishOrder, Txn.run_bind, Txn.run_exec, Txn.run_pure] at h
  obtain ⟨orderNumber, w₁, -, h₁⟩ := Tx.bind_ok.mp h
  obtain ⟨period, w₂, -, h₂⟩ := Tx.bind_ok.mp h₁
  obtain ⟨u, w₃, -, h₃⟩ := Tx.bind_ok.mp h₂
  obtain ⟨placement, w₄, hwrite, h₄⟩ := Tx.bind_ok.mp h₃
  cases h₄
  obtain ⟨order, hget, hprices⟩ := writeOrder_ok hwrite
  exact ⟨orderNumber, order, hget, hprices⟩

theorem loadCart_ok {cartId : Nat} {cart : Cart}
    (h : (loadCart cartId).run w = .ok ((cart, items), w')) :
    w.shop.carts.get cartId = some cart ∧ loadItems cartId w = some items ∧ w' = w := by
  rw [loadCart, Txn.run_bind, Txn.run_read, Tx.bind_read] at h
  cases hcart : w.shop.carts.get cartId with
  | none =>
      rw [hcart] at h
      cases h
  | some found =>
      rw [hcart] at h
      cases hitems : loadItems cartId w with
      | none =>
          rw [hitems] at h
          cases h
      | some found =>
          rw [hitems] at h
          cases found with
          | nil => cases h
          | cons item rest =>
              cases h
              exact ⟨rfl, rfl, rfl⟩

/-- The order is written at the quote. -/
theorem placeOrder_ok {cart : Cart} {outcome : CheckoutOutcome}
    (h : (placeOrder decimalOf limit userId dto key cart.id).run w = .ok (outcome, w'))
    (hcart : w.shop.carts.findFirst (·.userId = userId) = some cart) :
    ∃ bill code order, quote decimalOf userId dto.couponCode w = some (bill, code) ∧
      w'.orders.get outcome.orderId = some order ∧ order.prices = toPreviewView bill code := by
  simp only [placeOrder, Txn.run_bind, Txn.run_done] at h
  obtain ⟨⟨cart', items⟩, w₁, hload, h₁⟩ := Tx.bind_ok.mp h
  obtain ⟨u, w₂, hcheckoutable, h₂⟩ := Tx.bind_ok.mp h₁
  obtain ⟨storeId, w₃, hstore, h₃⟩ := Tx.bind_ok.mp h₂
  obtain ⟨feePaise, w₄, hfee, h₄⟩ := Tx.bind_ok.mp h₃
  obtain ⟨⟨redemption, discount⟩, w₅, hredeem, h₅⟩ := Tx.bind_ok.mp h₄
  obtain ⟨config, w₆, hconfig, h₆⟩ := Tx.bind_ok.mp h₅
  obtain ⟨bill, w₇, hbill, h₇⟩ := Tx.bind_ok.mp h₆
  have hget : w.shop.carts.get cart.id = some cart := Table.get_key (Table.findFirst_some hcart).1
  obtain ⟨hfound, hitems, rfl⟩ := loadCart_ok hload
  obtain rfl : cart = cart' := Option.some.inj (hget.symm.trans hfound)
  obtain ⟨-, rfl⟩ := Tx.ofExcept_ok.mp hcheckoutable
  obtain ⟨⟨store, hprimary, rfl⟩, rfl⟩ := resolvePrimaryStoreId_ok hstore
  obtain ⟨hfeeAt, rfl⟩ := getShippingFeePaise_ok hfee
  obtain ⟨hdiscountAt, hshop⟩ := redeem_ok hredeem
  obtain ⟨rfl, rfl⟩ := getConfig_ok hconfig
  obtain ⟨hcompute, rfl⟩ := Tx.ofExcept_ok.mp hbill
  obtain ⟨orderNumber, order, horder, hprices⟩ := finishOrder_ok h₇
  rw [configAt_congr hshop] at hcompute
  exact ⟨bill, _, order, quote_eq_some hcart hitems hprimary hfeeAt hdiscountAt hcompute, horder,
    hprices⟩

/-- The key is claimed before the reading, and takes no part in the quote. -/
theorem quote_claimed (t : Table IdempotencyKey) :
    quote decimalOf userId couponCode { w with idempotencyKeys := t } =
      quote decimalOf userId couponCode w := rfl

/-- A transaction that has made an order has made it at the quote. -/
theorem checkoutTransaction_ok {outcome : CheckoutOutcome}
    (h : (checkoutTransaction decimalOf limit userId dto key).run w = .ok (outcome, w'))
    (hcreated : outcome.created = true) :
    ∃ bill code order, quote decimalOf userId dto.couponCode w = some (bill, code) ∧
      w'.orders.get outcome.orderId = some order ∧ order.prices = toPreviewView bill code := by
  rw [checkoutTransaction, Txn.run_bind, Txn.run_lockAnd, Tx.bind_read] at h
  cases hcart : w.shop.carts.findFirst (·.userId = userId) with
  | none =>
      rw [hcart] at h
      cases h
  | some cart =>
      rw [hcart] at h
      simp only [checkoutCart, Txn.run_bind] at h
      obtain ⟨u, w₁, hactive, h₁⟩ := Tx.bind_ok.mp h
      obtain ⟨claimed, w₂, hclaim, h₂⟩ := Tx.bind_ok.mp h₁
      obtain rfl := assertTenantActive_ok hactive
      obtain ⟨t, rfl⟩ := claim_ok hclaim
      cases claimed with
      | true =>
          obtain ⟨bill, code, order, hquote, horder⟩ := placeOrder_ok h₂ hcart
          exact ⟨bill, code, order, (quote_claimed t).symm.trans hquote, horder⟩
      | false =>
          rw [if_neg (by decide), resolveRaced, Txn.run_bind, Txn.run_read, Tx.bind_read] at h₂
          split at h₂
          · cases h₂
            cases hcreated
          · cases h₂

theorem viewUnless_ok {fault : Option Fault} {orderId : Nat} {created : Bool}
    {s s' : Locked World Key} {reply : OrderReply}
    (h : (viewUnless fault orderId userId created).alone s = (.ok reply, s')) :
    reply = ⟨orderId, created⟩ ∧ s' = s := by
  unfold viewUnless at h
  split at h
  · cases h
  · obtain ⟨order, s₁, hread, h₁⟩ := Proc.alone_bind_ok h
    cases hread
    dsimp only at h₁
    cases horder : (s.db.orders.get orderId).filter (·.userId = userId) with
    | none =>
        rw [horder] at h₁
        cases h₁
    | some order =>
        rw [horder] at h₁
        cases h₁
        have hid := (Table.get_eq_some.mp (Option.filter_eq_some_iff.mp horder).1).2
        exact ⟨congrArg (OrderReply.mk · created) hid, rfl⟩

/-- A call that answers with an order of its own has made it at the quote. -/
theorem checkout_ok {i : Nat} {fault : Option Fault} {s s' : Locked World Key}
    {reply : OrderReply}
    (h : (checkout decimalOf limit i userId dto key fault).alone s = (.ok reply, s'))
    (hcreated : reply.created = true) :
    ∃ bill code order, quote decimalOf userId dto.couponCode s.db = some (bill, code) ∧
      s'.db.orders.get reply.orderId = some order ∧ order.prices = toPreviewView bill code := by
  unfold checkout at h
  split at h
  · cases h
  · obtain ⟨existing, s₁, hread, h₁⟩ := Proc.alone_bind_ok h
    cases hread
    dsimp only at h₁
    cases hexisting : s.db.idempotencyKeys.findFirst (·.key = key) with
    | some row =>
        rw [hexisting] at h₁
        dsimp only [replay] at h₁
        split at h₁
        · cases h₁
        · split at h₁
          · obtain ⟨rfl, -⟩ := viewUnless_ok h₁
            cases hcreated
          · cases h₁
    | none =>
        rw [hexisting] at h₁
        obtain ⟨outcome, s₂, htransaction, h₂⟩ := Proc.alone_bind_ok h₁
        obtain ⟨rfl, rfl⟩ := viewUnless_ok h₂
        exact checkoutTransaction_ok (Txn.run_cutAt (alone_inTransaction htransaction)) hcreated

/-- In every state in which the cart is viewed, an order of it previewed and the order made, the
order is written with the prices of the preview, and the cart shows its subtotal. -/
theorem price_shown_is_price_charged {i : Nat} {fault : Option Fault}
    {s s₁ s₂ s₃ : Locked World Key} {view : CartView} {preview : CheckoutPreviewView}
    {reply : OrderReply} (hview : (viewCart userId tenantId).alone s = (.ok view, s₁))
    (hpreview :
      (validateCheckout decimalOf userId dto.couponCode).alone s = (.ok preview, s₂))
    (hcheckout : (checkout decimalOf limit i userId dto key fault).alone s = (.ok reply, s₃))
    (hcreated : reply.created = true) :
    ∃ order, s₃.db.orders.get reply.orderId = some order ∧ order.prices = preview ∧
      view.subtotal = preview.subtotal := by
  obtain ⟨cart, items, bill, code, hcart, hitems, hsubtotal, hquote, rfl⟩ :=
    previewCheckout_ok (Txn.alone_overConnection hpreview)
  obtain ⟨bill', code', order, hquote', horder, hprices⟩ := checkout_ok hcheckout hcreated
  cases hquote.symm.trans hquote'
  refine ⟨order, horder, hprices, ?_⟩
  rw [getCart_ok (Txn.alone_overConnection hview) hcart hitems, toPreviewView, hsubtotal]

theorem fits_basePrice : (19950 : Int).natAbs < 10 ^ 10 := by
  decide

theorem fits_priceDelta : (5000 : Int).natAbs < 10 ^ 10 := by
  decide

theorem key_lt_exampleCart : ∀ cart ∈ [(⟨0, 0, 0⟩ : Cart)], Schema.key cart < 1 := by
  decide

theorem consistent_exampleCart : Consistent [(⟨0, 0, 0⟩ : Cart)] := by
  decide

/-- A variant with an engraving that is paid by the letter, in a cart of two of them. -/
def exampleShop : Shop where
  tenants := ⟨[⟨0, .active⟩], 1, by decide, by decide⟩
  stores := ⟨[⟨0, 0, true⟩], 1, PaymentAccounts.key_lt_primaryStore,
    PaymentAccounts.consistent_primaryStore⟩
  storeSettings := ⟨[⟨0, 0, shippingFeeSettingKey, "50"⟩], 1, by decide, by decide⟩
  tenantSettings := ⟨[⟨0, 0, "tax.enabled", "true"⟩, ⟨1, 0, "tax.pricingMode", "EXCLUSIVE"⟩,
    ⟨2, 0, "tax.ratePercent", "18"⟩], 3, by decide, by decide⟩
  subscriptions := ⟨[{
    id := 0, tenantId := 0, providerSubscriptionId := none, providerCustomerId := none
    planId := "plan", pendingPlanId := none, status := .active, currentPeriodStart := some 0
    currentPeriodEnd := none, cancelAtPeriodEnd := none, graceEndsAt := none
    retentionEndsAt := none, updatedAt := none }], 1, by decide, by decide⟩
  products := ⟨[{
    id := 0, categoryId := 7, name := "Mug", slug := "mug", basePrice := ⟨19950, fits_basePrice⟩
    minQuantity := 1, maxQuantity := none, isActive := true, tenantId := 0
    storeId := none }], 1, by decide, by decide⟩
  productVariants := ⟨[⟨0, 0, "Large", ⟨5000, fits_priceDelta⟩, true, 0⟩], 1, by decide, by decide⟩
  customizationFields := ⟨[{
    id := 0, productId := 0, label := "Name", type := .text, isRequired := true, sortOrder := 0
    helpText := none, constraints := none, surchargeType := .perCharacter
    surchargeAmount := ⟨250, by decide⟩, tenantId := 0 }], 1, by decide, by decide⟩
  carts := ⟨[⟨0, 0, 0⟩], 1, key_lt_exampleCart, consistent_exampleCart⟩
  cartItems := ⟨[⟨0, 0, 0, some 0, 2, 0⟩], 1, by decide, by decide⟩
  cartItemCustomizations := ⟨[⟨0, 0, 0, some "Asha", none, 0⟩], 1, by decide, by decide⟩

/-- A tenth off everything in a category. -/
def exampleCoupon : Coupon where
  id := 0
  code := "TENTH"
  type := .percentage
  percentageOff := some 10
  flatAmountOff := none
  scopeType := .category
  categoryId := some 7
  minOrderValue := none
  usageLimitTotal := some 1
  usageLimitPerUser := some 1
  usedCount := 0
  firstOrderOnly := true
  startsAt := none
  expiresAt := none
  isActive := true
  description := none
  tenantId := 0
  storeId := none

def exampleWorld : World where
  now := 0
  shop := exampleShop
  idempotencyKeys := .empty
  coupons := ⟨[exampleCoupon], 1, by decide, by decide⟩
  couponUsages := .empty
  usage := .empty
  orderNumberCounter := none
  orders := .empty
  orderItems := .empty
  orderItemCustomizations := .empty
  orderStatusHistory := .empty
  placements := []

def exampleDecimalOf : String → DecimalText
  | "50" => .finite ⟨50, 0⟩
  | "18" => .finite ⟨18, 0⟩
  | _ => .invalid

def exampleDto : CreateOrderDto where
  shipping := ⟨"Asha", "9999999999", "1 Road", none, "Pune", "MH", "411001", "IN"⟩
  couponCode := some " tenth "

/-- A call that has the outcome `r`, with the state it leaves. -/
theorem eq_of_outcome {α : Type} {outcome : Except HttpError α × Locked World Key}
    {r : Except HttpError α} (h : outcome.1 = r) : outcome = (r, outcome.2) := by
  subst h
  rfl

/-- Two at 259.50, a tenth off, with a fee of 50 and a tax of 18 percent on top. -/
theorem price_shown_is_price_charged_once : ∃ (s : Locked World Key) (order : Order),
    s.db.orders.get 0 = some order ∧ order.prices =
      ⟨"519.00", "50.00", "51.90", "467.10", "84.08", .exclusive, "601.18", some "TENTH"⟩ := by
  have hview : ((viewCart 0 0).alone ⟨exampleWorld, []⟩).1.toOption.isSome = true := by
    decide +kernel
  have hpreview : ((validateCheckout exampleDecimalOf 0 exampleDto.couponCode).alone
      ⟨exampleWorld, []⟩).1 = .ok
        ⟨"519.00", "50.00", "51.90", "467.10", "84.08", .exclusive, "601.18", some "TENTH"⟩ := by
    decide +kernel
  have hcheckout : ((checkout exampleDecimalOf ⟨some 5, true⟩ 0 0 exampleDto "key" none).alone
      ⟨exampleWorld, []⟩).1 = .ok ⟨0, true⟩ := by
    decide +kernel
  obtain ⟨view, hok⟩ : ∃ view, ((viewCart 0 0).alone ⟨exampleWorld, []⟩).1 = .ok view := by
    cases h : ((viewCart 0 0).alone ⟨exampleWorld, []⟩).1 with
    | ok view => exact ⟨view, rfl⟩
    | error e =>
        rw [h] at hview
        cases hview
  obtain ⟨order, horder, hprices, -⟩ := price_shown_is_price_charged (eq_of_outcome hok)
    (eq_of_outcome hpreview) (eq_of_outcome hcheckout) rfl
  exact ⟨_, order, horder, hprices⟩

end PrintForge.Checkout
