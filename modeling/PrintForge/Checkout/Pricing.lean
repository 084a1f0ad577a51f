import PrintForge.Checkout.Schema

/-!
# What an order costs

Lines, discounts, tax and the total, in whole paise. Nothing here looks at the database: rows and
settings are given.
-/

namespace PrintForge.Checkout

open Numeric Catalogue

/-! ## Lines -/

structure OrderLineInput where
  basePricePaise : Int
  variantDeltaPaise : Int
  surchargePaise : Int
  quantity : Nat
deriving DecidableEq, Repr

structure OrderLinePricing where
  unitPricePaise : Int
  lineTotalPaise : Int
deriving DecidableEq, Repr

def computeLine (input : OrderLineInput) : OrderLinePricing where
  unitPricePaise := input.basePricePaise + input.variantDeltaPaise + input.surchargePaise
  lineTotalPaise :=
    (input.basePricePaise + input.variantDeltaPaise + input.surchargePaise) * input.quantity

def sumLineTotals (lines : List OrderLinePricing) : Int := (lines.map (·.lineTotalPaise)).sum

def computeOrderTotal (subtotalPaise shippingFeePaise discountPaise taxToAddPaise : Int) : Int :=
  subtotalPaise - discountPaise + shippingFeePaise + taxToAddPaise

/-- A cart item with the rows it refers to. -/
structure CheckoutCartItem where
  item : CartItem
  product : Product
  variant : Option ProductVariant
  customizations : List (CartItemCustomization × CustomizationField)
deriving DecidableEq, Repr

def submissionOf (c : CartItemCustomization) : CustomizationSubmission :=
  ⟨c.textValue, c.uploadedFileId⟩

/-- An invalid value costs nothing. -/
def surchargePaise (customizations : List (CartItemCustomization × CustomizationField)) : Int :=
  (customizations.map fun (c, field) =>
    (validateCustomizationFieldShape field (submissionOf c)).toOption.getD 0).sum

def priceItem (item : CheckoutCartItem) : OrderLinePricing :=
  computeLine {
    basePricePaise := decimalToPaise item.product.basePrice.toDecimal
    variantDeltaPaise := (item.variant.map fun v => decimalToPaise v.priceDelta.toDecimal).getD 0
    surchargePaise := surchargePaise item.customizations
    quantity := item.item.quantity }

/-- The first error among the values of an item. -/
def assertCustomizationsValid :
    List (CartItemCustomization × CustomizationField) → Except HttpError Unit
  | [] => return ()
  | (c, field) :: rest =>
      match validateCustomizationFieldShape field (submissionOf c) with
      | .ok _ => assertCustomizationsValid rest
      | .error e => throw (.badRequest e)

def assertItemCheckoutable (item : CheckoutCartItem) : Except HttpError Unit :=
  let max := item.product.maxQuantity.getD platformDefaultMaxQuantity
  if !item.product.isActive then
    throw (.conflict s!"\"{item.product.name}\" is no longer available — remove it from your cart before checking out")
  else if item.variant.any (!·.isAvailable) then
    throw (.conflict s!"The selected option for \"{item.product.name}\" is no longer available — remove it from your cart before checking out")
  else if item.item.quantity < item.product.minQuantity || max < item.item.quantity then
    throw (.badRequest s!"Quantity for \"{item.product.name}\" is no longer valid (must be between {item.product.minQuantity} and {max})")
  else
    assertCustomizationsValid item.customizations

def assertItemsCheckoutable : List CheckoutCartItem → Except HttpError Unit
  | [] => return ()
  | item :: rest => do
      assertItemCheckoutable item
      assertItemsCheckoutable rest

/-! ## Discounts -/

structure CouponLineItem where
  categoryId : Nat
  lineTotalPaise : Int
deriving DecidableEq, Repr

structure Discount where
  discountPaise : Int
  shippingFeePaise : Int
deriving DecidableEq, Repr

/-- The part of the subtotal that a coupon is about. -/
def scopedSubtotalPaise (coupon : Coupon) (subtotalPaise : Int) (lineItems : List CouponLineItem) :
    Int :=
  match coupon.scopeType with
  | .storeWide => subtotalPaise
  | .category =>
      ((lineItems.filter fun l => some l.categoryId = coupon.categoryId).map
        (·.lineTotalPaise)).sum

/-- Division of big integers drops the fraction. -/
def computeDiscount (coupon : Coupon) (scopedSubtotalPaise shippingFeePaise : Int) : Discount :=
  match coupon.type with
  | .percentage =>
      ⟨(scopedSubtotalPaise * coupon.percentageOff.getD 0).tdiv 100, shippingFeePaise⟩
  | .flatAmount =>
      let flatPaise := (coupon.flatAmountOff.map fun a => decimalToPaise a.toDecimal).getD 0
      ⟨if flatPaise < scopedSubtotalPaise then flatPaise else scopedSubtotalPaise,
        shippingFeePaise⟩
  | .freeShipping => ⟨0, 0⟩

/-! ## Tax -/

structure TaxConfig where
  enabled : Bool
  mode : TaxPricingMode
  ratePercent : String
deriving DecidableEq, Repr

structure TaxComputation where
  taxableAmountPaise : Int
  taxAmountPaise : Int
  applied : Bool
  mode : TaxPricingMode
  taxRateSnapshot : Option Int
deriving DecidableEq, Repr

section Tax

variable (decimalOf : String → DecimalText)

def parseRate (config : TaxConfig) : Except HttpError Decimal :=
  let outOfRange := HttpError.badRequest
    s!"Tax rate must be between 0 and 100 (got \"{config.ratePercent}\")"
  match decimalOf config.ratePercent with
  | .invalid => throw (.badRequest s!"Invalid tax rate \"{config.ratePercent}\"")
  | .notFinite => throw outOfRange
  | .finite rate =>
      if rate.isNegative || rate.greaterThan 100 then throw outOfRange else return rate

/-- The split of an amount at a rate that applies. -/
def splitTax (baseGoodsPaise : Int) (rate : Decimal) : TaxPricingMode → Int × Int
  | .inclusive =>
      let net := (((Decimal.ofInt baseGoodsPaise).times (.ofInt 100)).div
        ((Decimal.ofInt 100).plus rate)).toDecimalPlacesZero
      (net, baseGoodsPaise - net)
  | .exclusive =>
      (baseGoodsPaise,
        (((Decimal.ofInt baseGoodsPaise).times rate).div (.ofInt 100)).toDecimalPlacesZero)

def computeTax (baseGoodsPaise : Int) (config : TaxConfig) : Except HttpError TaxComputation :=
  if baseGoodsPaise < 0 then
    throw (.badRequest "Tax base cannot be negative")
  else do
    let rate ← parseRate decimalOf config
    if !config.enabled || rate.isZero then
      return ⟨baseGoodsPaise, 0, false, config.mode, none⟩
    else
      let split := splitTax baseGoodsPaise rate config.mode
      return ⟨split.1, split.2, true, config.mode, some ((rate.div (.ofInt 100)).toDecimalPlaces 4)⟩

/-- What a tax that is not included adds to the total. -/
def taxToAddPaise (computation : TaxComputation) : Int :=
  if computation.mode = .exclusive ∧ computation.applied = true then computation.taxAmountPaise
  else 0

end Tax

end PrintForge.Checkout
