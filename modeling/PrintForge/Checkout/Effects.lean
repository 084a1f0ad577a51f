import PrintForge.Checkout.Prices
import PrintForge.Numeric.Exact
import PrintForge.Trees.Forest
import PrintForge.Usage.Counters

/-!
# What a checkout writes

Each statement of a checkout is described by the rows that it adds or changes and by the rest of
the state, which it leaves as it is. `Written` puts together what follows the counters: the order
with its lines, the redemption, the result of the key and the cart.

`Priced` is what the rows of an order say about money. It holds of the rows as they are written,
whatever the cart, the coupon and the settings of the tenant were.
-/

namespace PrintForge.Checkout

open Relational Concurrent JavaScript Numeric Catalogue

variable {decimalOf : String → DecimalText} {w w' : World} {draft : OrderDraft} {order : Order}
variable {items : List CheckoutCartItem} {lines : List OrderItem} {period : String}

/-! ## Money -/

/-- Writing an amount and reading it again for the provider gives the same number of paise. -/
theorem decimalToPaise_toDecimal (a : Amount) : decimalToPaise a.toDecimal = a.paise := by
  have hlt : (a.paise * 100).natAbs < 10 ^ Decimal.precision := by
    have hfits := a.fits
    have hprecision : Decimal.precision = 20 := rfl
    rw [hprecision]
    omega
  have hdigits : Decimal.digits (a.paise * 100) ≤ Decimal.precision :=
    (Decimal.digits_le_iff (by decide)).mpr hlt
  have htimes : a.toDecimal.times (.ofInt 100) = ⟨a.paise * 100, -2⟩ :=
    Decimal.roundSig_of_digits_le hdigits
  rw [decimalToPaise, htimes, Decimal.toDecimalPlacesZero]
  exact roundHalfUp_mul a.paise (by decide : 0 < 100)

/-- The tax that is charged on top of the goods. -/
def Order.addedTax (order : Order) : Int :=
  match order.taxMode with
  | .inclusive => 0
  | .exclusive => order.taxAmount.paise

/-- What an order is charged, line by line and as a whole. -/
structure Priced (order : Order) (lines : List OrderItem) : Prop where
  line : ∀ line ∈ lines, line.lineTotal.paise = line.unitPriceSnapshot.paise * line.quantity
  subtotal : order.subtotal.paise = (lines.map (·.lineTotal.paise)).sum
  discount_le : order.discountAmount.paise ≤ order.subtotal.paise
  discount_nonneg : (∀ line ∈ lines, 0 ≤ line.lineTotal.paise) → 0 ≤ order.discountAmount.paise
  split : order.taxableAmount.paise + order.taxAmount.paise =
    order.subtotal.paise - order.discountAmount.paise + order.addedTax
  total : order.total.paise = order.taxableAmount.paise + order.taxAmount.paise +
    order.shippingFee.paise
  fee_le : order.shippingFee.paise ≤ order.total.paise

/-- A coupon that takes off neither a negative part nor a negative amount. -/
structure Coupon.Reduces (coupon : Coupon) : Prop where
  percentage : 0 ≤ coupon.percentageOff.getD 0
  flatAmount : ∀ amount ∈ coupon.flatAmountOff, 0 ≤ amount.paise

theorem Coupon.Reduces.discountPaise_nonneg {coupon : Coupon} {scopedPaise feePaise : Int}
    (h : coupon.Reduces) (hscoped : 0 ≤ scopedPaise) :
    0 ≤ (computeDiscount coupon scopedPaise feePaise).discountPaise := by
  unfold computeDiscount
  cases coupon.type with
  | percentage => exact Int.tdiv_nonneg (Int.mul_nonneg hscoped h.percentage) (by decide)
  | flatAmount =>
      have hflat : 0 ≤ (coupon.flatAmountOff.map fun a => decimalToPaise a.toDecimal).getD 0 := by
        cases hamount : coupon.flatAmountOff with
        | none => exact le_rfl
        | some amount =>
            rw [Option.map_some, Option.getD_some, decimalToPaise_toDecimal]
            exact h.flatAmount amount hamount
      dsimp only
      split
      · exact hflat
      · exact hscoped
  | freeShipping => exact le_rfl

theorem scopedSubtotalPaise_nonneg {coupon : Coupon}
    (h : ∀ item ∈ items, 0 ≤ (priceItem item).lineTotalPaise) :
    0 ≤ scopedSubtotalPaise coupon (subtotalOf items) (couponLines items) := by
  unfold scopedSubtotalPaise
  cases coupon.scopeType with
  | storeWide =>
      refine List.sum_nonneg fun x hx => ?_
      obtain ⟨pricing, hpricing, rfl⟩ := List.mem_map.mp hx
      obtain ⟨item, hitem, rfl⟩ := List.mem_map.mp hpricing
      exact h item hitem
  | category =>
      refine List.sum_nonneg fun x hx => ?_
      obtain ⟨line, hline, rfl⟩ := List.mem_map.mp hx
      obtain ⟨item, hitem, rfl⟩ := List.mem_map.mp (List.mem_of_mem_filter hline)
      exact h item hitem

/-- What a bill comes to, before it is written. -/
structure Bill.Sound (bill : Bill) : Prop where
  discount_le : bill.discount.discountPaise ≤ bill.subtotalPaise
  split : bill.tax.taxableAmountPaise + bill.tax.taxAmountPaise =
    bill.subtotalPaise - bill.discount.discountPaise + (match bill.tax.mode with
      | .inclusive => 0
      | .exclusive => bill.tax.taxAmountPaise)
  total : bill.totalPaise = bill.tax.taxableAmountPaise + bill.tax.taxAmountPaise +
    bill.discount.shippingFeePaise
  fee_le : bill.discount.shippingFeePaise ≤ bill.totalPaise

section Tax

variable {x y rate : Decimal} {config : TaxConfig} {tax : TaxComputation} {bill : Bill}
variable {basePaise subtotalPaise : Int} {discount : Discount}

theorem times_coeff_nonneg (hx : 0 ≤ x.coeff) (hy : 0 ≤ y.coeff) : 0 ≤ (x.times y).coeff := by
  have hproduct : 0 ≤ x.coeff * y.coeff := Int.mul_nonneg hx hy
  simp only [Decimal.times, Decimal.roundSig]
  split
  · exact hproduct
  · exact roundHalfUp_nonneg hproduct _

theorem div_coeff_nonneg (hx : 0 ≤ x.coeff) (hy : 0 ≤ y.coeff) : 0 ≤ (x.div y).coeff :=
  roundHalfUp_nonneg
    (Int.mul_nonneg (Int.mul_nonneg hx (Int.sign_nonneg_iff.mpr hy)) (pow_nonneg (by decide) _)) _

theorem toDecimalPlacesZero_nonneg (hx : 0 ≤ x.coeff) : 0 ≤ x.toDecimalPlacesZero := by
  unfold Decimal.toDecimalPlacesZero
  split
  · exact Int.mul_nonneg hx (pow_nonneg (by decide) _)
  · exact roundHalfUp_nonneg hx _

theorem parseRate_ok (h : parseRate decimalOf config = .ok rate) : 0 ≤ rate.coeff := by
  unfold parseRate at h
  cases hvalue : decimalOf config.ratePercent with
  | invalid =>
      rw [hvalue] at h
      cases h
  | notFinite =>
      rw [hvalue] at h
      cases h
  | finite value =>
      rw [hvalue] at h
      dsimp only at h
      split at h
      · cases h
      · next hrange =>
        cases h
        simp only [Decimal.isNegative, Bool.or_eq_true, decide_eq_true_eq, not_or] at hrange
        omega

/-- The parts of a split come to the base, or to the base and the tax on top of it. -/
theorem splitTax_sum (basePaise : Int) (rate : Decimal) (mode : TaxPricingMode) :
    (splitTax basePaise rate mode).1 + (splitTax basePaise rate mode).2 =
      basePaise + (match mode with
        | .inclusive => 0
        | .exclusive => (splitTax basePaise rate mode).2) := by
  cases mode with
  | inclusive =>
      simp only [splitTax]
      omega
  | exclusive => rfl

theorem computeTax_sound (h : computeTax decimalOf basePaise config = .ok tax) :
    0 ≤ basePaise ∧
      tax.taxableAmountPaise + tax.taxAmountPaise = basePaise + taxToAddPaise tax ∧
      taxToAddPaise tax = (match tax.mode with
        | .inclusive => 0
        | .exclusive => tax.taxAmountPaise) ∧
      0 ≤ taxToAddPaise tax := by
  unfold computeTax at h
  split at h
  · cases h
  · next hbase =>
    cases hrate : parseRate decimalOf config with
    | error e =>
        rw [hrate] at h
        cases h
    | ok rate =>
        rw [hrate] at h
        have hcoeff : 0 ≤ rate.coeff := parseRate_ok hrate
        dsimp only [Bind.bind, Except.bind] at h
        split at h
        · cases h
          refine ⟨by omega, ?_⟩
          cases config.mode <;> simp [taxToAddPaise]
        · cases h
          refine ⟨by omega, ?_⟩
          have hsum := splitTax_sum basePaise rate config.mode
          cases hmode : config.mode with
          | inclusive =>
              rw [hmode] at hsum
              simpa [taxToAddPaise] using hsum
          | exclusive =>
              rw [hmode] at hsum
              have htax : 0 ≤ (splitTax basePaise rate .exclusive).2 :=
                toDecimalPlacesZero_nonneg (div_coeff_nonneg
                  (times_coeff_nonneg (x := .ofInt basePaise) (not_lt.mp hbase) hcoeff)
                  (by decide))
              simpa [taxToAddPaise, htax] using hsum

theorem computeBill_sound (h : computeBill decimalOf subtotalPaise discount config = .ok bill) :
    bill.Sound ∧ bill.subtotalPaise = subtotalPaise ∧ bill.discount = discount := by
  unfold computeBill at h
  cases htax : computeTax decimalOf (subtotalPaise - discount.discountPaise) config with
  | error e =>
      rw [htax] at h
      cases h
  | ok tax =>
      rw [htax] at h
      cases h
      obtain ⟨hbase, hsum, hadded, hnonneg⟩ := computeTax_sound htax
      refine ⟨⟨?_, ?_, ?_, ?_⟩, rfl, rfl⟩
      · dsimp only
        omega
      · dsimp only
        rw [← hadded, hsum]
      · simp only [computeOrderTotal]
        omega
      · simp only [computeOrderTotal]
        omega

end Tax

/-! ## The order and its lines -/

/-- The order carries what it was drafted with. -/
structure Drafted (draft : OrderDraft) (order : Order) : Prop where
  orderNumber : order.orderNumber = draft.orderNumber
  userId : order.userId = draft.userId
  tenantId : order.tenantId = draft.tenantId
  couponId : order.couponId = draft.redemption.map (·.read.id)
  taxMode : order.taxMode = draft.bill.tax.mode
  subtotal : order.subtotal.paise = draft.bill.subtotalPaise
  shippingFee : order.shippingFee.paise = draft.bill.discount.shippingFeePaise
  total : order.total.paise = draft.bill.totalPaise
  discountAmount : order.discountAmount.paise = draft.bill.discount.discountPaise
  taxableAmount : order.taxableAmount.paise = draft.bill.tax.taxableAmountPaise
  taxAmount : order.taxAmount.paise = draft.bill.tax.taxAmountPaise

theorem createOrder_writes (h : createOrder draft w = .ok (order, w')) :
    Drafted draft order ∧ order.id = w.orders.nextKey ∧
      ∃ t, w' = { w with orders := t } ∧ t.rows = w.orders.rows ++ [order] ∧
        t.nextKey = w.orders.nextKey + 1 := by
  obtain ⟨subtotal, w₁, hsubtotal, h₁⟩ := Tx.bind_ok.mp h
  obtain ⟨shippingFee, w₂, hshippingFee, h₂⟩ := Tx.bind_ok.mp h₁
  obtain ⟨total, w₃, htotal, h₃⟩ := Tx.bind_ok.mp h₂
  obtain ⟨discountAmount, w₄, hdiscountAmount, h₄⟩ := Tx.bind_ok.mp h₃
  obtain ⟨taxableAmount, w₅, htaxableAmount, h₅⟩ := Tx.bind_ok.mp h₄
  obtain ⟨taxAmount, w₆, htaxAmount, h₆⟩ := Tx.bind_ok.mp h₅
  obtain ⟨-, rfl⟩ := Tx.ofExcept_ok.mp hsubtotal
  obtain ⟨-, rfl⟩ := Tx.ofExcept_ok.mp hshippingFee
  obtain ⟨-, rfl⟩ := Tx.ofExcept_ok.mp htotal
  obtain ⟨-, rfl⟩ := Tx.ofExcept_ok.mp hdiscountAmount
  obtain ⟨-, rfl⟩ := Tx.ofExcept_ok.mp htaxableAmount
  obtain ⟨-, rfl⟩ := Tx.ofExcept_ok.mp htaxAmount
  obtain ⟨t, ht, rfl, rfl⟩ := Slot.create_ok h₆
  refine ⟨⟨rfl, rfl, rfl, rfl, rfl, ?_, ?_, ?_, ?_, ?_, ?_⟩, rfl, t, rfl, Table.rows_create ht,
    Table.nextKey_create ht⟩
  · exact toAmount_ok (Tx.ofExcept_ok.mp hsubtotal).1
  · exact toAmount_ok (Tx.ofExcept_ok.mp hshippingFee).1
  · exact toAmount_ok (Tx.ofExcept_ok.mp htotal).1
  · exact toAmount_ok (Tx.ofExcept_ok.mp hdiscountAmount).1
  · exact toAmount_ok (Tx.ofExcept_ok.mp htaxableAmount).1
  · exact toAmount_ok (Tx.ofExcept_ok.mp htaxAmount).1

/-- The line of an order that an item of the cart becomes. -/
structure LineOf (order : Order) (item : CheckoutCartItem) (line : OrderItem) : Prop where
  orderId : line.orderId = order.id
  productId : line.productId = item.product.id
  quantity : line.quantity = item.item.quantity
  tenantId : line.tenantId = order.tenantId
  unitPrice : line.unitPriceSnapshot.paise = (priceItem item).unitPricePaise
  lineTotal : line.lineTotal.paise = (priceItem item).lineTotalPaise

theorem createItemCustomizations_writes {line : OrderItem}
    {customizations : List (CartItemCustomization × CustomizationField)} {u : Unit}
    (h : createItemCustomizations line customizations w = .ok (u, w')) :
    ∃ t, w' = { w with orderItemCustomizations := t } := by
  induction customizations generalizing w with
  | nil =>
      cases h
      exact ⟨_, rfl⟩
  | cons c rest ih =>
      obtain ⟨row, w₁, hcreate, h₁⟩ := Tx.bind_ok.mp h
      obtain ⟨t, -, -, rfl⟩ := Slot.create_ok hcreate
      obtain ⟨t', rfl⟩ := ih h₁
      exact ⟨t', rfl⟩

theorem createItems_writes {u : Unit} (h : createItems order items w = .ok (u, w')) :
    ∃ lines t t', w' = { w with orderItems := t, orderItemCustomizations := t' } ∧
      t.rows = w.orderItems.rows ++ lines ∧ List.Forall₂ (LineOf order) items lines := by
  induction items generalizing w with
  | nil =>
      cases h
      exact ⟨[], _, _, rfl, (List.append_nil _).symm, .nil⟩
  | cons item rest ih =>
      obtain ⟨unitPrice, w₁, hunitPrice, h₁⟩ := Tx.bind_ok.mp h
      obtain ⟨lineTotal, w₂, hlineTotal, h₂⟩ := Tx.bind_ok.mp h₁
      obtain ⟨line, w₃, hline, h₃⟩ := Tx.bind_ok.mp h₂
      obtain ⟨u', w₄, hcustomizations, h₄⟩ := Tx.bind_ok.mp h₃
      obtain ⟨-, rfl⟩ := Tx.ofExcept_ok.mp hunitPrice
      obtain ⟨-, rfl⟩ := Tx.ofExcept_ok.mp hlineTotal
      obtain ⟨t₁, ht₁, hrow, rfl⟩ := Slot.create_ok hline
      have hof : LineOf order item line := by
        rw [hrow]
        exact ⟨rfl, rfl, rfl, rfl, toAmount_ok (Tx.ofExcept_ok.mp hunitPrice).1,
          toAmount_ok (Tx.ofExcept_ok.mp hlineTotal).1⟩
      obtain ⟨t₂, rfl⟩ := createItemCustomizations_writes hcustomizations
      obtain ⟨lines, t, t', rfl, hrows, hlines⟩ := ih h₄
      refine ⟨line :: lines, t, t', rfl, ?_, .cons hof hlines⟩
      rw [hrows, hrow]
      exact (congrArg (· ++ lines) (Table.rows_create ht₁)).trans (List.append_assoc _ _ _)

/-- The bill of a draft is that of its items, with the discount of the coupon that is redeemed. -/
structure OrderDraft.Sound (draft : OrderDraft) : Prop where
  bill : draft.bill.Sound
  subtotal : draft.bill.subtotalPaise = subtotalOf draft.items
  undiscounted : draft.redemption = none → draft.bill.discount.discountPaise = 0
  discounted : ∀ redemption ∈ draft.redemption, redemption.read.Reduces ∧ ∃ feePaise,
    draft.bill.discount = computeDiscount redemption.read (scopedSubtotalPaise redemption.read
      (subtotalOf draft.items) (couponLines draft.items)) feePaise

theorem OrderDraft.Sound.discountPaise_nonneg (h : draft.Sound)
    (hitems : ∀ item ∈ draft.items, 0 ≤ (priceItem item).lineTotalPaise) :
    0 ≤ draft.bill.discount.discountPaise := by
  cases hredemption : draft.redemption with
  | none => exact (h.undiscounted hredemption).ge
  | some redemption =>
      obtain ⟨hreduces, feePaise, hdiscount⟩ := h.discounted redemption hredemption
      rw [hdiscount]
      exact hreduces.discountPaise_nonneg (scopedSubtotalPaise_nonneg hitems)

theorem sum_lineTotals (h : List.Forall₂ (LineOf order) items lines) :
    (lines.map (·.lineTotal.paise)).sum = subtotalOf items := by
  induction h with
  | nil => rfl
  | cons hline _ ih =>
      rw [List.map_cons, List.sum_cons, ih, hline.lineTotal]
      rfl

/-- An order that is written from a sound draft is priced as it should be. -/
theorem Drafted.priced (h : Drafted draft order) (hdraft : draft.Sound)
    (hlines : List.Forall₂ (LineOf order) draft.items lines) : Priced order lines where
  line line hline := by
    obtain ⟨item, -, hof⟩ := Trees.exists_left_of_mem hlines hline
    rw [hof.lineTotal, hof.unitPrice, hof.quantity]
    rfl
  subtotal := by rw [h.subtotal, hdraft.subtotal, sum_lineTotals hlines]
  discount_le := by
    rw [h.discountAmount, h.subtotal]
    exact hdraft.bill.discount_le
  discount_nonneg hnonneg := by
    rw [h.discountAmount]
    refine hdraft.discountPaise_nonneg fun item hitem => ?_
    obtain ⟨line, hline, hof⟩ := Trees.exists_left_of_mem hlines.flip hitem
    exact LineOf.lineTotal hof ▸ hnonneg line hline
  split := by
    rw [Order.addedTax, h.taxMode, h.taxableAmount, h.taxAmount, h.subtotal, h.discountAmount]
    exact hdraft.bill.split
  total := by
    rw [h.total, h.taxableAmount, h.taxAmount, h.shippingFee]
    exact hdraft.bill.total
  fee_le := by
    rw [h.shippingFee, h.total]
    exact hdraft.bill.fee_le

/-! ## The rest of the order -/

theorem recordUsage_writes {u : Unit} (h : recordUsage draft order w = .ok (u, w')) :
    ∃ usages t, w' = { w with couponUsages := t } ∧ t.rows = w.couponUsages.rows ++ usages ∧
      usages.map (fun u => (u.couponId, u.userId, u.orderId)) =
        draft.redemption.toList.map fun r => (r.read.id, draft.userId, order.id) := by
  unfold recordUsage at h
  cases hredemption : draft.redemption with
  | none =>
      rw [hredemption] at h
      cases h
      exact ⟨[], w.couponUsages, rfl, (List.append_nil _).symm, rfl⟩
  | some redemption =>
      rw [hredemption] at h
      obtain ⟨amount, w₁, hamount, h₁⟩ := Tx.bind_ok.mp h
      obtain ⟨usage, w₂, hcreate, h₂⟩ := Tx.bind_ok.mp h₁
      obtain ⟨-, rfl⟩ := Tx.ofExcept_ok.mp hamount
      cases h₂
      obtain ⟨t, ht, -, rfl⟩ := Slot.create_ok hcreate
      exact ⟨_, t, rfl, Table.rows_create ht, rfl⟩

theorem recordResult_writes {key : String} {orderId : Nat} {u : Unit}
    (h : recordResult key orderId w = .ok (u, w')) :
    ∃ t, w' = { w with idempotencyKeys := t } ∧
      t.rows = w.idempotencyKeys.rows.map fun row =>
        if row.key = key then { row with resultOrderId := some orderId } else row := by
  obtain ⟨n, w₁, hupdate, h₁⟩ := Tx.bind_ok.mp h
  cases h₁
  obtain ⟨t, ht, -, rfl⟩ := Slot.updateMany_ok hupdate
  refine ⟨t, rfl, (Table.rows_update ht).trans ?_⟩
  simp only [decide_eq_true_eq]
  rfl

/-- What is written once the counters have been. -/
structure Written (draft : OrderDraft) (period : String) (w w' : World) (p : Placement)
    (order : Order) (lines : List OrderItem) (usages : List CouponUsage) : Prop where
  drafted : Drafted draft order
  linesOf : List.Forall₂ (LineOf order) draft.items lines
  id : order.id = w.orders.nextKey
  placement : p = draft.placement period order.id
  now : w'.now = w.now
  coupons : w'.coupons = w.coupons
  usage : w'.usage = w.usage
  orderNumberCounter : w'.orderNumberCounter = w.orderNumberCounter
  carts : w'.shop.carts = w.shop.carts
  cartItems : w'.shop.cartItems = w.shop.cartItems.delete (draft.itemIds.contains ·.id)
  keys : w'.idempotencyKeys.rows = w.idempotencyKeys.rows.map fun row =>
    if row.key = draft.key then { row with resultOrderId := some order.id } else row
  orders : w'.orders.rows = w.orders.rows ++ [order]
  nextOrder : w'.orders.nextKey = w.orders.nextKey + 1
  orderItems : w'.orderItems.rows = w.orderItems.rows ++ lines
  couponUsages : w'.couponUsages.rows = w.couponUsages.rows ++ usages
  usagesOf : usages.map (fun u => (u.couponId, u.userId, u.orderId)) =
    draft.redemption.toList.map fun r => (r.read.id, draft.userId, order.id)
  placements : w'.placements = p :: w.placements

theorem writeOrder_writes {p : Placement} (h : writeOrder draft period w = .ok (p, w')) :
    ∃ order lines usages, Written draft period w w' p order lines usages := by
  obtain ⟨order, w₁, horder, h₁⟩ := Tx.bind_ok.mp h
  obtain ⟨u₂, w₂, husage, h₂⟩ := Tx.bind_ok.mp h₁
  obtain ⟨u₃, w₃, hitems, h₃⟩ := Tx.bind_ok.mp h₂
  obtain ⟨row, w₄, hhistory, h₄⟩ := Tx.bind_ok.mp h₃
  obtain ⟨u₅, w₅, hresult, h₅⟩ := Tx.bind_ok.mp h₄
  obtain ⟨u₆, w₆, hempty, h₆⟩ := Tx.bind_ok.mp h₅
  obtain ⟨hdrafted, hid, t₁, rfl, horders, hnext⟩ := createOrder_writes horder
  obtain ⟨usages, t₂, rfl, husages, husagesOf⟩ := recordUsage_writes husage
  obtain ⟨lines, t₃, t₃', rfl, hlines, hlinesOf⟩ := createItems_writes hitems
  obtain ⟨t₄, -, -, rfl⟩ := Slot.create_ok hhistory
  obtain ⟨t₅, rfl, hkeys⟩ := recordResult_writes hresult
  cases hempty
  cases h₆
  exact ⟨order, lines, usages, {
    drafted := hdrafted, linesOf := hlinesOf, id := hid, placement := rfl, now := rfl
    coupons := rfl, usage := rfl, orderNumberCounter := rfl, carts := rfl, cartItems := rfl
    keys := hkeys, orders := horders, nextOrder := hnext, orderItems := hlines
    couponUsages := husages, usagesOf := husagesOf, placements := rfl }⟩

/-! ## The counters -/

theorem nextOrderNumber_writes {orderNumber : String}
    (h : nextOrderNumber w = .ok (orderNumber, w')) :
    ∃ counter, orderNumber = orderNumberOf counter ∧
      counter = w.orderNumberCounter.getD 0 + 1 ∧
      w' = { w with orderNumberCounter := some counter } := by
  rw [nextOrderNumber, Tx.bind_read] at h
  cases h
  refine ⟨_, rfl, ?_, rfl⟩
  cases w.orderNumberCounter <;> rfl

/-- A key that is free is claimed by a row without a result. -/
theorem claimKey_writes {key : String} {userId tenantId : Nat} {row : Option IdempotencyKey}
    (h : Db.idempotencyKeys.createOrIgnore (ε := HttpError) (fun id =>
      { id, key, userId, endpoint := checkoutEndpointId, resultOrderId := none, tenantId })
      (fun _ => rfl) w = .ok (row, w')) :
    (∃ r t, row = some r ∧ r.key = key ∧ r.userId = userId ∧ r.tenantId = tenantId ∧
        w' = { w with idempotencyKeys := t } ∧ t.rows = w.idempotencyKeys.rows ++ [r] ∧
        ∀ r ∈ w.idempotencyKeys, r.key ≠ key) ∨
      row = none ∧ w' = w ∧ ∃ r ∈ w.idempotencyKeys, r.key = key := by
  unfold Slot.createOrIgnore at h
  split at h
  · next t ht =>
    cases h
    refine .inl ⟨_, t, rfl, rfl, rfl, rfl, rfl, Table.rows_create ht, fun r hr hkey => ?_⟩
    exact Table.create_apart ht r hr (.inl hkey)
  · next ht =>
    cases h
    obtain ⟨r, hr, hkey | ⟨hresult, hsome⟩⟩ := Table.create_none ht
    · exact .inr ⟨rfl, rfl, r, hr, hkey⟩
    · exact absurd hresult hsome

end PrintForge.Checkout
