import PrintForge.Common.Basic
import PrintForge.Concurrent.Process

/-!
# The tables of the catalogue

Categories, products with their variants, fields and images, uploaded files and carts. Every
row names the tenant it belongs to; no foreign key compares the tenants of two rows. The
columns `storeId` are written by none of the services here.
-/

namespace PrintForge.Catalogue

open Relational Concurrent

inductive Role where
  | customer
  | admin
deriving DecidableEq, Repr

inductive CustomizationFieldType where
  | text
  | logoUpload
  | imageUpload
  | designFileUpload
  | colorSelect
  | instructions
deriving DecidableEq, Repr

inductive SurchargeType where
  | none
  | flat
  | perCharacter
deriving DecidableEq, Repr

structure FieldConstraints where
  maxLength : Option Nat := none
  allowedFormats : Option (List String) := none
  maxFileSizeMb : Option Nat := none
  options : Option (List String) := none
deriving DecidableEq, Repr

/-! ## Rows -/

structure User where
  id : Nat
  role : Role
deriving DecidableEq, Repr

instance : Schema User where
  key u := u.id
  Clash _ _ := False
  clash_decidable _ _ := inferInstanceAs (Decidable False)
  clash_symm h := h

structure Category where
  id : Nat
  name : String
  slug : String
  parentCategoryId : Option Nat
  isActive : Bool
  tenantId : Nat
  storeId : Option Nat
deriving DecidableEq, Repr

/-- Slugs are unique within a store, and a row without a store is compared with none. -/
instance : Schema Category where
  key c := c.id
  Clash a b := a.storeId = b.storeId ∧ a.storeId ≠ none ∧ a.slug = b.slug
  clash_decidable _ _ := inferInstanceAs (Decidable (_ ∧ _ ∧ _))
  clash_symm h := ⟨h.1.symm, h.1 ▸ h.2.1, h.2.2.symm⟩

structure Product where
  id : Nat
  categoryId : Nat
  name : String
  slug : String
  basePrice : Amount
  minQuantity : Nat
  maxQuantity : Option Nat
  isActive : Bool
  tenantId : Nat
  storeId : Option Nat
deriving DecidableEq, Repr

instance : Schema Product where
  key p := p.id
  Clash a b := a.storeId = b.storeId ∧ a.storeId ≠ none ∧ a.slug = b.slug
  clash_decidable _ _ := inferInstanceAs (Decidable (_ ∧ _ ∧ _))
  clash_symm h := ⟨h.1.symm, h.1 ▸ h.2.1, h.2.2.symm⟩

structure ProductVariant where
  id : Nat
  productId : Nat
  label : String
  priceDelta : Amount
  isAvailable : Bool
  tenantId : Nat
deriving DecidableEq, Repr

instance : Schema ProductVariant where
  key v := v.id
  Clash a b := a.productId = b.productId ∧ a.label = b.label
  clash_decidable _ _ := inferInstanceAs (Decidable (_ ∧ _))
  clash_symm h := ⟨h.1.symm, h.2.symm⟩

structure CustomizationField where
  id : Nat
  productId : Nat
  label : String
  type : CustomizationFieldType
  isRequired : Bool
  sortOrder : Nat
  helpText : Option String
  constraints : Option FieldConstraints
  surchargeType : SurchargeType
  surchargeAmount : Amount
  tenantId : Nat
deriving DecidableEq, Repr

instance : Schema CustomizationField where
  key f := f.id
  Clash _ _ := False
  clash_decidable _ _ := inferInstanceAs (Decidable False)
  clash_symm h := h

/-- What the file store needs to find an object. -/
structure StoredObject where
  cloudinaryPublicId : String
  resourceType : String
  deliveryType : String
deriving DecidableEq, Repr

structure ProductImage where
  id : Nat
  productId : Nat
  object : StoredObject
  sortOrder : Nat
  isPrimary : Bool
  tenantId : Nat
deriving DecidableEq, Repr

instance : Schema ProductImage where
  key i := i.id
  Clash _ _ := False
  clash_decidable _ _ := inferInstanceAs (Decidable False)
  clash_symm h := h

structure UploadedFile where
  id : Nat
  object : StoredObject
  uploadedByUserId : Nat
  format : String
  bytes : Nat
  tenantId : Nat
deriving DecidableEq, Repr

instance : Schema UploadedFile where
  key f := f.id
  Clash a b := a.object.cloudinaryPublicId = b.object.cloudinaryPublicId
  clash_decidable _ _ := inferInstanceAs (Decidable (_ = _))
  clash_symm h := h.symm

/-- A user has one cart. -/
structure Cart where
  id : Nat
  userId : Nat
  tenantId : Nat
deriving DecidableEq, Repr

instance : Schema Cart where
  key c := c.id
  Clash a b := a.userId = b.userId
  clash_decidable _ _ := inferInstanceAs (Decidable (_ = _))
  clash_symm h := h.symm

structure CartItem where
  id : Nat
  cartId : Nat
  productId : Nat
  variantId : Option Nat
  quantity : Nat
  tenantId : Nat
deriving DecidableEq, Repr

instance : Schema CartItem where
  key i := i.id
  Clash _ _ := False
  clash_decidable _ _ := inferInstanceAs (Decidable False)
  clash_symm h := h

structure CartItemCustomization where
  id : Nat
  cartItemId : Nat
  customizationFieldId : Nat
  textValue : Option String
  uploadedFileId : Option Nat
  tenantId : Nat
deriving DecidableEq, Repr

instance : Schema CartItemCustomization where
  key c := c.id
  Clash _ _ := False
  clash_decidable _ _ := inferInstanceAs (Decidable False)
  clash_symm h := h

/-! ## The shared state -/

structure World where
  users : Table User
  categories : Table Category
  products : Table Product
  productVariants : Table ProductVariant
  customizationFields : Table CustomizationField
  productImages : Table ProductImage
  uploadedFiles : Table UploadedFile
  carts : Table Cart
  cartItems : Table CartItem
  cartItemCustomizations : Table CartItemCustomization

/-- Nothing but users. -/
def World.initial (users : Table User) : World :=
  ⟨users, .empty, .empty, .empty, .empty, .empty, .empty, .empty, .empty, .empty⟩

namespace Db

def categories : Slot World Category where
  get w := w.categories
  set t w := { w with categories := t }

def products : Slot World Product where
  get w := w.products
  set t w := { w with products := t }

def productVariants : Slot World ProductVariant where
  get w := w.productVariants
  set t w := { w with productVariants := t }

def customizationFields : Slot World CustomizationField where
  get w := w.customizationFields
  set t w := { w with customizationFields := t }

def productImages : Slot World ProductImage where
  get w := w.productImages
  set t w := { w with productImages := t }

def uploadedFiles : Slot World UploadedFile where
  get w := w.uploadedFiles
  set t w := { w with uploadedFiles := t }

def carts : Slot World Cart where
  get w := w.carts
  set t w := { w with carts := t }

def cartItems : Slot World CartItem where
  get w := w.cartItems
  set t w := { w with cartItems := t }

def cartItemCustomizations : Slot World CartItemCustomization where
  get w := w.cartItemCustomizations
  set t w := { w with cartItemCustomizations := t }

end Db

/-- Adding an image is told apart by the tenant and the file it names. -/
inductive Commit where
  | catalogue
  | image (tenantId uploadedFileId : Nat)
  | upload
  | cart
deriving DecidableEq, Repr

abbrev Transaction := Tx World HttpError

abbrev Service := Proc World Commit HttpError

end PrintForge.Catalogue
