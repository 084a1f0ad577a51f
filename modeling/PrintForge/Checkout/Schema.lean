import PrintForge.Catalogue.Cart
import PrintForge.Concurrent.Sessions
import PrintForge.Orders.StateMachine
import PrintForge.PaymentAccounts.Service
import PrintForge.StoreDomains.Resolver
import PrintForge.Usage.Service

/-!
# The tables behind a checkout

What a checkout reads of a shop, and the books it writes. The rows of the shop are also written by
other services at any time; the books are written by checkouts, by the administrators of coupons
and by whoever counts usage.

A checkout locks the cart of its user, its idempotency key, the coupon it redeems, the counter of
the order numbers and the counter of its tenant's orders.
-/

namespace PrintForge.Checkout

open Relational Concurrent Catalogue

/-! ## The shop -/

structure Tenant where
  id : Nat
  status : TenantStatus
deriving DecidableEq, Repr

instance : Schema Tenant where
  key t := t.id
  Clash _ _ := False
  clash_decidable _ _ := inferInstanceAs (Decidable False)
  clash_symm h := h

/-- A setting of a store or of a tenant, which is its `ownerId`. -/
structure Setting where
  id : Nat
  ownerId : Nat
  name : String
  value : String
deriving DecidableEq, Repr

instance : Schema Setting where
  key s := s.id
  Clash a b := a.ownerId = b.ownerId ∧ a.name = b.name
  clash_decidable _ _ := inferInstanceAs (Decidable (_ ∧ _))
  clash_symm h := ⟨h.1.symm, h.2.symm⟩

structure Shop where
  tenants : Table Tenant
  stores : Table PaymentAccounts.Store
  storeSettings : Table Setting
  tenantSettings : Table Setting
  subscriptions : Table Subscriptions.Subscription
  products : Table Product
  productVariants : Table ProductVariant
  customizationFields : Table CustomizationField
  carts : Table Cart
  cartItems : Table CartItem
  cartItemCustomizations : Table CartItemCustomization

/-! ## The books -/

structure IdempotencyKey where
  id : Nat
  key : String
  userId : Nat
  endpoint : String
  resultOrderId : Option Nat
  tenantId : Nat
deriving DecidableEq, Repr

instance : Schema IdempotencyKey where
  key k := k.id
  Clash a b := a.key = b.key ∨ a.resultOrderId = b.resultOrderId ∧ a.resultOrderId ≠ none
  clash_decidable _ _ := inferInstanceAs (Decidable (_ ∨ _ ∧ _))
  clash_symm h := h.imp Eq.symm fun ⟨he, hne⟩ => ⟨he.symm, he ▸ hne⟩

inductive CouponType where
  | percentage
  | flatAmount
  | freeShipping
deriving DecidableEq, Repr

inductive CouponScopeType where
  | storeWide
  | category
deriving DecidableEq, Repr

structure Coupon where
  id : Nat
  code : String
  type : CouponType
  percentageOff : Option Int
  flatAmountOff : Option Amount
  scopeType : CouponScopeType
  categoryId : Option Nat
  minOrderValue : Option Amount
  usageLimitTotal : Option Int
  usageLimitPerUser : Option Int
  usedCount : Int
  firstOrderOnly : Bool
  startsAt : Option Nat
  expiresAt : Option Nat
  isActive : Bool
  description : Option String
  tenantId : Nat
  storeId : Option Nat
deriving DecidableEq, Repr

instance : Schema Coupon where
  key c := c.id
  Clash a b := a.storeId = b.storeId ∧ a.storeId ≠ none ∧ a.code = b.code
  clash_decidable _ _ := inferInstanceAs (Decidable (_ ∧ _ ∧ _))
  clash_symm h := ⟨h.1.symm, h.1 ▸ h.2.1, h.2.2.symm⟩

structure CouponUsage where
  id : Nat
  couponId : Nat
  userId : Nat
  orderId : Nat
  discountAppliedAmount : Amount
  tenantId : Nat
deriving DecidableEq, Repr

instance : Schema CouponUsage where
  key u := u.id
  Clash a b := a.orderId = b.orderId
  clash_decidable _ _ := inferInstanceAs (Decidable (_ = _))
  clash_symm h := h.symm

/-- The address of an order, as it is given at checkout. -/
structure ShippingAddress where
  recipientName : String
  phone : String
  addressLine1 : String
  addressLine2 : Option String
  city : String
  state : String
  postalCode : String
  country : String
deriving DecidableEq, Repr

inductive TaxPricingMode where
  | inclusive
  | exclusive
deriving DecidableEq, Repr

/-- The tax rate is in units of a ten-thousandth. -/
structure Order where
  id : Nat
  orderNumber : String
  userId : Nat
  tenantId : Nat
  storeId : Nat
  status : OrderStatus
  subtotal : Amount
  shippingFee : Amount
  total : Amount
  discountAmount : Amount
  taxMode : TaxPricingMode
  taxableAmount : Amount
  taxAmount : Amount
  taxRateSnapshot : Option Int
  couponId : Option Nat
  couponCode : Option String
  shipping : ShippingAddress
deriving DecidableEq, Repr

instance : Schema Order where
  key o := o.id
  Clash a b := a.tenantId = b.tenantId ∧ a.orderNumber = b.orderNumber
  clash_decidable _ _ := inferInstanceAs (Decidable (_ ∧ _))
  clash_symm h := ⟨h.1.symm, h.2.symm⟩

structure OrderItem where
  id : Nat
  orderId : Nat
  productId : Nat
  productNameSnapshot : String
  variantLabelSnapshot : Option String
  unitPriceSnapshot : Amount
  quantity : Nat
  lineTotal : Amount
  tenantId : Nat
deriving DecidableEq, Repr

instance : Schema OrderItem where
  key i := i.id
  Clash _ _ := False
  clash_decidable _ _ := inferInstanceAs (Decidable False)
  clash_symm h := h

structure OrderItemCustomization where
  id : Nat
  orderItemId : Nat
  fieldLabelSnapshot : String
  textValue : Option String
  uploadedFileId : Option Nat
  tenantId : Nat
deriving DecidableEq, Repr

instance : Schema OrderItemCustomization where
  key c := c.id
  Clash _ _ := False
  clash_decidable _ _ := inferInstanceAs (Decidable False)
  clash_symm h := h

structure OrderStatusHistory where
  id : Nat
  orderId : Nat
  fromStatus : Option OrderStatus
  toStatus : OrderStatus
  changedByUserId : Option Nat
  note : String
  tenantId : Nat
deriving DecidableEq, Repr

instance : Schema OrderStatusHistory where
  key h := h.id
  Clash _ _ := False
  clash_decidable _ _ := inferInstanceAs (Decidable False)
  clash_symm h := h

/-! ## The shared state -/

/-- The coupon as it was read, and as it was when it was claimed, each with the time. -/
structure Redemption where
  userId : Nat
  read : Coupon
  readAt : Nat
  claimed : Coupon
  claimedAt : Nat
deriving DecidableEq, Repr

/-- What a checkout that makes an order has come to. The cart items come with their carts. -/
structure Placement where
  userId : Nat
  tenantId : Nat
  key : String
  orderId : Nat
  period : String
  items : List (Nat × Nat)
  redemption : Option Redemption
deriving DecidableEq, Repr

/-- `placements` is no table: it remembers what has been placed, the latest first. -/
structure World where
  now : Nat
  shop : Shop
  idempotencyKeys : Table IdempotencyKey
  coupons : Table Coupon
  couponUsages : Table CouponUsage
  usage : Table Usage
  orderNumberCounter : Option Nat
  orders : Table Order
  orderItems : Table OrderItem
  orderItemCustomizations : Table OrderItemCustomization
  orderStatusHistory : Table OrderStatusHistory
  placements : List Placement

namespace Db

def idempotencyKeys : Slot World IdempotencyKey where
  get w := w.idempotencyKeys
  set t w := { w with idempotencyKeys := t }

def coupons : Slot World Coupon where
  get w := w.coupons
  set t w := { w with coupons := t }

def couponUsages : Slot World CouponUsage where
  get w := w.couponUsages
  set t w := { w with couponUsages := t }

def usage : Slot World Usage where
  get w := w.usage
  set t w := { w with usage := t }

def orders : Slot World Order where
  get w := w.orders
  set t w := { w with orders := t }

def orderItems : Slot World OrderItem where
  get w := w.orderItems
  set t w := { w with orderItems := t }

def orderItemCustomizations : Slot World OrderItemCustomization where
  get w := w.orderItemCustomizations
  set t w := { w with orderItemCustomizations := t }

def orderStatusHistory : Slot World OrderStatusHistory where
  get w := w.orderStatusHistory
  set t w := { w with orderStatusHistory := t }

def carts : Slot World Cart where
  get w := w.shop.carts
  set t w := { w with shop := { w.shop with carts := t } }

def cartItems : Slot World CartItem where
  get w := w.shop.cartItems
  set t w := { w with shop := { w.shop with cartItems := t } }

def cartItemCustomizations : Slot World CartItemCustomization where
  get w := w.shop.cartItemCustomizations
  set t w := { w with shop := { w.shop with cartItemCustomizations := t } }

end Db

/-- The rows that are locked: the cart of a user, an idempotency key, a coupon, the counter of the
order numbers, and a counter of usage. -/
inductive Key where
  | cart (userId : Nat)
  | idempotencyKey (key : String)
  | coupon (id : Nat)
  | orderNumber
  | usage (tenantId : Nat) (limitKey : LimitKey) (period : String)
deriving DecidableEq, Repr

inductive CheckoutOutcome where
  | raced (orderId : Nat)
  | placed (placement : Placement)
deriving DecidableEq, Repr

/-- The statements that lock, the transactions, and what else happens. -/
inductive Commit where
  | lockCart
  | claimKey
  | claimCoupon (read : Coupon) (readAt : Nat)
  | nextOrderNumber
  | countUsage
  | lockCoupon
  | checkout (outcome : CheckoutOutcome)
  | updateCoupon
  | reserved (tenantId : Nat) (limitKey : LimitKey) (period : String) (amount : Int)
      (outcome : ReservationOutcome)
  | decremented (tenantId : Nat) (limitKey : LimitKey) (period : String) (amount : Int)
  | cart
  | elsewhere
  | tick
deriving DecidableEq, Repr

abbrev Transaction := Tx World HttpError

/-- A transaction whose statements are interleaved with those of others. -/
abbrev Session := Txn World Key Commit HttpError

end PrintForge.Checkout
