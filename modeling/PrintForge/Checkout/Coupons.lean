import PrintForge.Checkout.Pricing

/-!
# Coupons

A checkout reads the coupon, looks at the clock, counts the orders and the redemptions of its
user, and then claims one use: an update of the row that the limit on the total still allows. The
claim looks at nothing but that limit. The row of the redemption is written when the order is
there.
-/

namespace PrintForge.Checkout

open Relational Concurrent JavaScript Numeric

structure ValidateCouponParams where
  code : String
  userId : Nat
  subtotalPaise : Int
  shippingFeePaise : Int
  lineItems : List CouponLineItem
  tenantId : Nat
deriving DecidableEq, Repr

/-- Orders of the user, of whichever tenant and status. -/
def orderCount (userId : Nat) (w : World) : Nat := w.orders.count (·.userId = userId)

def usageCount (couponId userId : Nat) (w : World) : Nat :=
  w.couponUsages.count fun u => u.couponId = couponId && u.userId = userId

/-- The checks that look at the row and the clock only. -/
def assertRedeemable (coupon : Coupon) (now : Nat) : Except HttpError Unit :=
  if !coupon.isActive then
    throw (.badRequest "This coupon is no longer active")
  else if coupon.startsAt.any (now < ·) then
    throw (.badRequest "This coupon is not active yet")
  else if coupon.expiresAt.any (· < now) then
    throw (.badRequest "This coupon has expired")
  else
    return ()

/-- The checks of the amount that the coupon is about, which they return. -/
def assertScope (coupon : Coupon) (params : ValidateCouponParams) : Except HttpError Int :=
  let amount := scopedSubtotalPaise coupon params.subtotalPaise params.lineItems
  let minOrderValuePaise := coupon.minOrderValue.map fun a => decimalToPaise a.toDecimal
  if coupon.scopeType = .category && amount = 0 then
    throw (.badRequest "This coupon does not apply to any items in your cart")
  else if minOrderValuePaise.any (amount < ·) then
    throw (.badRequest s!"This coupon requires a minimum order of {paiseToDecimalString (minOrderValuePaise.getD 0)}")
  else
    return amount

def assertFirstOrder (coupon : Coupon) (userId : Nat) : Session Unit :=
  if coupon.firstOrderOnly then do
    let priorOrderCount ← Txn.read (orderCount userId)
    if 0 < priorOrderCount then
      throw (.badRequest "This coupon is only valid on your first order")
    else
      return ()
  else
    return ()

def assertUsageLimitPerUser (coupon : Coupon) (userId : Nat) : Session Unit :=
  match coupon.usageLimitPerUser with
  | none => return ()
  | some usageLimitPerUser => do
      let priorUsageCount ← Txn.read (usageCount coupon.id userId)
      if usageLimitPerUser ≤ priorUsageCount then
        throw (.badRequest "You have already used this coupon the maximum number of times")
      else
        return ()

structure ValidatedCoupon where
  coupon : Coupon
  readAt : Nat
  scopedSubtotalPaise : Int
deriving DecidableEq, Repr

/-- The checks of a coupon that has been found. -/
def validateFound (coupon : Coupon) (params : ValidateCouponParams) : Session ValidatedCoupon := do
  let now ← Txn.read (·.now)
  Txn.done (assertRedeemable coupon now)
  let scopedSubtotalPaise ← Txn.done (assertScope coupon params)
  assertFirstOrder coupon params.userId
  assertUsageLimitPerUser coupon params.userId
  return ⟨coupon, now, scopedSubtotalPaise⟩

def validateCouponCore (params : ValidateCouponParams) : Session ValidatedCoupon := do
  let normalizedCode := toUpperCase (trim params.code)
  let coupon ← Txn.read fun w =>
    w.coupons.findFirst fun c => c.code = normalizedCode && c.tenantId = params.tenantId
  match coupon with
  | none => throw (.badRequest "This coupon code is not valid")
  | some coupon => validateFound coupon params

/-- The limit on the total leaves a use. -/
def Coupon.hasUse (coupon : Coupon) : Bool := coupon.usageLimitTotal.all (coupon.usedCount < ·)

def Coupon.use (coupon : Coupon) : Coupon := { coupon with usedCount := coupon.usedCount + 1 }

/-- The conditional update: it waits for the row, and then looks at it as it is. -/
def claimUse (validated : ValidatedCoupon) (userId : Nat) : Session Redemption := do
  let coupon := validated.coupon
  let found ← Txn.lockAnd (.claimCoupon coupon validated.readAt) (.coupon coupon.id) fun w =>
    ((w.coupons.get coupon.id).filter (·.hasUse), w.now)
  match found with
  | (none, _) =>
      throw (.conflict "This coupon just reached its usage limit — try again without it, or with a different code")
  | (some claimed, now) => do
      let _ ← Txn.exec (Db.coupons.update coupon.id Coupon.use)
      return ⟨userId, coupon, validated.readAt, claimed, now⟩

structure CouponClaim where
  redemption : Redemption
  discount : Discount
deriving DecidableEq, Repr

def validateAndClaim (params : ValidateCouponParams) : Session CouponClaim := do
  let validated ← validateCouponCore params
  let redemption ← claimUse validated params.userId
  return ⟨redemption,
    computeDiscount validated.coupon validated.scopedSubtotalPaise params.shippingFeePaise⟩

/-- A value for a column of type `Decimal(10, 2)`. -/
def toAmount (paise : Int) : Except HttpError Amount :=
  match Amount.ofPaise? paise with
  | none => throw (.other "numeric field overflow")
  | some amount => return amount

/-! ## Administration -/

structure UpdateCouponDto where
  minOrderValue : Property Amount
  usageLimitTotal : Property Int
  usageLimitPerUser : Property Int
  firstOrderOnly : Option Bool
  startsAt : Property Nat
  expiresAt : Property Nat
  isActive : Option Bool
  description : Property String
deriving DecidableEq, Repr

/-- A property that is not there leaves the column as it is. -/
def overwrite {α : Type} (p : Property α) (old : Option α) : Option α :=
  if p.isDefined then p.toOption else old

def UpdateCouponDto.apply (dto : UpdateCouponDto) (coupon : Coupon) : Coupon :=
  { coupon with
    minOrderValue := overwrite dto.minOrderValue coupon.minOrderValue
    usageLimitTotal := overwrite dto.usageLimitTotal coupon.usageLimitTotal
    usageLimitPerUser := overwrite dto.usageLimitPerUser coupon.usageLimitPerUser
    firstOrderOnly := dto.firstOrderOnly.getD coupon.firstOrderOnly
    startsAt := overwrite dto.startsAt coupon.startsAt
    expiresAt := overwrite dto.expiresAt coupon.expiresAt
    isActive := dto.isActive.getD coupon.isActive
    description := overwrite dto.description coupon.description }

def updateCoupon (tenantId id : Nat) (dto : UpdateCouponDto) : Session Unit := do
  let existing ← Txn.read fun w => w.coupons.get id
  match existing with
  | none => throw (.notFound "Coupon not found")
  | some existing => do
      let _ ← assertObjectInTenant (·.tenantId) (some existing) tenantId
      let _ ← Txn.lockAnd .lockCoupon (.coupon id) fun _ => ()
      let _ ← Txn.exec (Db.coupons.update id dto.apply)
      return ()

end PrintForge.Checkout
