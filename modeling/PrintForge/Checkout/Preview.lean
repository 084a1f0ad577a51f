import PrintForge.Checkout.Service
import PrintForge.Concurrent.Solo

/-!
# Prices before the order

The cart shows the subtotal of what is in it, and a preview shows what an order of it would cost
with a coupon. Neither takes part in a transaction: every read is a statement of its own, and the
preview claims no use of the coupon. The cart prices its items with arithmetic of its own, the
preview with that of the checkout.
-/

namespace PrintForge.Checkout

open Relational Concurrent JavaScript Numeric Catalogue

/-! ## The cart -/

inductive UnavailableReason where
  | productInactive
  | variantUnavailable
deriving DecidableEq, Repr

structure PricedCustomization where
  fieldId : Nat
  label : String
  textValue : Option String
  uploadedFileId : Option Nat
  surchargePaise : Int
deriving DecidableEq, Repr

structure ItemPricing where
  unitPricePaise : Int
  lineTotalPaise : Int
  isAvailable : Bool
  unavailableReason : Option UnavailableReason
  customizations : List PricedCustomization
deriving DecidableEq, Repr

def priceCustomization : CartItemCustomization × CustomizationField → PricedCustomization
  | (c, field) =>
      { fieldId := c.customizationFieldId, label := field.label, textValue := c.textValue
        uploadedFileId := c.uploadedFileId
        surchargePaise :=
          (validateCustomizationFieldShape field (submissionOf c)).toOption.getD 0 }

def computeItemPricing (item : CheckoutCartItem) : ItemPricing :=
  let basePaise := decimalToPaise item.product.basePrice.toDecimal
  let deltaPaise := match item.variant with
    | some variant => decimalToPaise variant.priceDelta.toDecimal
    | none => 0
  let customizations := item.customizations.map priceCustomization
  let surchargeTotalPaise := (customizations.map (·.surchargePaise)).sum
  let unitPricePaise := basePaise + deltaPaise + surchargeTotalPaise
  let isProductInactive := !item.product.isActive
  let isVariantUnavailable := item.variant.any (!·.isAvailable)
  { unitPricePaise
    lineTotalPaise := unitPricePaise * item.item.quantity
    isAvailable := !isProductInactive && !isVariantUnavailable
    unavailableReason :=
      if isProductInactive then some .productInactive
      else if isVariantUnavailable then some .variantUnavailable
      else none
    customizations }

structure CartItemCustomizationView where
  fieldId : Nat
  label : String
  textValue : Option String
  uploadedFileId : Option Nat
  surcharge : String
deriving DecidableEq, Repr

structure CartItemView where
  id : Nat
  productId : Nat
  productName : String
  variantId : Option Nat
  variantLabel : Option String
  quantity : Nat
  unitPrice : String
  lineTotal : String
  isAvailable : Bool
  unavailableReason : Option UnavailableReason
  customizations : List CartItemCustomizationView
deriving DecidableEq, Repr

structure CartView where
  id : Nat
  items : List CartItemView
  itemCount : Nat
  subtotal : String
deriving DecidableEq, Repr

def buildItemView (item : CheckoutCartItem) (pricing : ItemPricing) : CartItemView where
  id := item.item.id
  productId := item.item.productId
  productName := item.product.name
  variantId := item.item.variantId
  variantLabel := item.variant.map (·.label)
  quantity := item.item.quantity
  unitPrice := paiseToDecimalString pricing.unitPricePaise
  lineTotal := paiseToDecimalString pricing.lineTotalPaise
  isAvailable := pricing.isAvailable
  unavailableReason := pricing.unavailableReason
  customizations := pricing.customizations.map fun c =>
    { fieldId := c.fieldId, label := c.label, textValue := c.textValue
      uploadedFileId := c.uploadedFileId, surcharge := paiseToDecimalString c.surchargePaise }

def toCartView (cart : Cart) (items : List CheckoutCartItem) : CartView where
  id := cart.id
  items := items.map fun item => buildItemView item (computeItemPricing item)
  itemCount := (items.map (·.item.quantity)).sum
  subtotal := paiseToDecimalString
    (items.foldl (fun sum item => sum + (computeItemPricing item).lineTotalPaise) 0)

def getCart (userId tenantId : Nat) : Session CartView := do
  let cart ← Txn.exec (upsertCart Db.carts userId tenantId)
  let full ← Txn.read fun w => (w.shop.carts.get cart.id, loadItems cart.id w)
  match full with
  | (some cart, some items) => return toCartView cart items
  | (some _, none) => throw (.other "Inconsistent query result")
  | (none, _) => throw .recordNotFound

/-! ## The preview -/

structure CouponPreviewResult where
  couponCode : String
  discount : Discount
deriving DecidableEq, Repr

def previewDiscount (params : ValidateCouponParams) : Session CouponPreviewResult := do
  let validated ← validateCouponCore params
  return ⟨validated.coupon.code,
    computeDiscount validated.coupon validated.scopedSubtotalPaise params.shippingFeePaise⟩

structure CheckoutPreviewView where
  subtotal : String
  shippingFee : String
  discountAmount : String
  taxableAmount : String
  taxAmount : String
  taxMode : TaxPricingMode
  total : String
  couponCode : Option String
deriving DecidableEq, Repr

def toPreviewView (bill : Bill) (couponCode : Option String) : CheckoutPreviewView where
  subtotal := paiseToDecimalString bill.subtotalPaise
  shippingFee := paiseToDecimalString bill.discount.shippingFeePaise
  discountAmount := paiseToDecimalString bill.discount.discountPaise
  taxableAmount := paiseToDecimalString bill.tax.taxableAmountPaise
  taxAmount := paiseToDecimalString bill.tax.taxAmountPaise
  taxMode := bill.tax.mode
  total := paiseToDecimalString bill.totalPaise
  couponCode := couponCode

/-- The discount of the coupon, if one is given, without a claim. -/
def previewRedeem (userId : Nat) (couponCode : Option String) (tenantId : Nat)
    (items : List CheckoutCartItem) (subtotalPaise shippingFeePaise : Int) :
    Session (Option String × Discount) :=
  match truthy couponCode with
  | none => return (none, ⟨0, shippingFeePaise⟩)
  | some code => do
      let preview ← previewDiscount {
        code, userId, subtotalPaise, shippingFeePaise, tenantId
        lineItems := items.map fun item =>
          ⟨item.product.categoryId, (priceItem item).lineTotalPaise⟩ }
      return (some preview.couponCode, preview.discount)

section

variable (decimalOf : String → DecimalText)

/-- The preview of a cart that has been found with its items. -/
def previewCart (userId : Nat) (couponCode : Option String) (cart : Cart)
    (items : List CheckoutCartItem) : Session CheckoutPreviewView := do
  assertTenantActive cart.tenantId "This store is currently unavailable"
  let storeId ← resolvePrimaryStoreId cart.tenantId
  let shippingFeePaise ← getShippingFeePaise decimalOf storeId
  let subtotalPaise := sumLineTotals (items.map priceItem)
  let (normalizedCouponCode, discount) ←
    previewRedeem userId couponCode cart.tenantId items subtotalPaise shippingFeePaise
  let config ← getConfig cart.tenantId
  let bill ← Txn.done (computeBill decimalOf subtotalPaise discount config)
  return toPreviewView bill normalizedCouponCode

def previewCheckout (userId : Nat) (couponCode : Option String) :
    Session CheckoutPreviewView := do
  let found ← Txn.read fun w =>
    (w.shop.carts.findFirst (·.userId = userId)).map fun cart => (cart, loadItems cart.id w)
  match found with
  | none | some (_, some []) => throw (.badRequest "Your cart is empty")
  | some (_, none) => throw (.other "Inconsistent query result")
  | some (cart, some items) => previewCart decimalOf userId couponCode cart items

end

/-! ## Calls -/

/-- Neither call begins a transaction. -/
def viewCart (userId tenantId : Nat) : Service CartView :=
  (getCart userId tenantId).overConnection .cart

def validateCheckout (decimalOf : String → DecimalText) (userId : Nat)
    (couponCode : Option String) : Service CheckoutPreviewView :=
  (previewCheckout decimalOf userId couponCode).overConnection .elsewhere

end PrintForge.Checkout
