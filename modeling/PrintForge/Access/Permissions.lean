import Mathlib.Tactic.Common

/-!
# Permissions of the roles of a tenant
-/

namespace PrintForge

inductive TenantRole where
  | owner
  | admin
  | staff
  | viewer
deriving DecidableEq, Repr

inductive Permission where
  | dashboardRead
  | ordersRead
  | ordersTransition
  | customersRead
  | reviewsModerate
  | couponsRead
  | couponsWrite
  | settingsRead
  | settingsWrite
  | productsRead
  | productsWrite
  | membersManage
  | paymentAccountManage
  | billingManage
  | storeDomainManage
deriving DecidableEq, Repr

namespace Permission

def name : Permission → String
  | dashboardRead => "dashboard:read"
  | ordersRead => "orders:read"
  | ordersTransition => "orders:transition"
  | customersRead => "customers:read"
  | reviewsModerate => "reviews:moderate"
  | couponsRead => "coupons:read"
  | couponsWrite => "coupons:write"
  | settingsRead => "settings:read"
  | settingsWrite => "settings:write"
  | productsRead => "products:read"
  | productsWrite => "products:write"
  | membersManage => "members:manage"
  | paymentAccountManage => "payment-account:manage"
  | billingManage => "billing:manage"
  | storeDomainManage => "store-domain:manage"

end Permission

def permissions : List Permission :=
  [.dashboardRead, .ordersRead, .ordersTransition, .customersRead, .reviewsModerate,
    .couponsRead, .couponsWrite, .settingsRead, .settingsWrite, .productsRead, .productsWrite,
    .membersManage, .paymentAccountManage, .billingManage, .storeDomainManage]

def adminPermissions : List Permission :=
  permissions.filter fun p =>
    p ≠ .membersManage && p ≠ .paymentAccountManage && p ≠ .storeDomainManage

def staffPermissions : List Permission :=
  [.dashboardRead, .ordersRead, .ordersTransition, .customersRead, .reviewsModerate,
    .couponsRead, .settingsRead, .productsRead, .productsWrite]

def viewerPermissions : List Permission :=
  [.dashboardRead, .ordersRead, .customersRead, .couponsRead, .settingsRead, .productsRead]

def rolePermissions : TenantRole → List Permission
  | .owner => permissions
  | .admin => adminPermissions
  | .staff => staffPermissions
  | .viewer => viewerPermissions

/-- Without a role there is no permission. -/
def can (role : Option TenantRole) (permission : Permission) : Bool :=
  match role with
  | none => false
  | some role => permission ∈ rolePermissions role

end PrintForge
