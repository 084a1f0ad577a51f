import PrintForge.Catalogue.Customizations
import PrintForge.Catalogue.Products

/-!
# Carts

A cart belongs to the tenant it was first made in. What is put into it is looked up in that
tenant, one query after the other, and then written in a transaction of its own.
-/

namespace PrintForge.Catalogue

open Relational Concurrent

structure CustomizationValueDto where
  fieldId : Nat
  textValue : Option String
  uploadedFileId : Option Nat
deriving DecidableEq, Repr

structure AddCartItemDto where
  productId : Nat
  variantId : Option Nat
  quantity : Nat
  customizations : List CustomizationValueDto
deriving DecidableEq, Repr

structure AddCartItemOptions where
  requireCartInResolvedTenant : Bool := false
deriving DecidableEq, Repr

def platformDefaultMaxQuantity : Nat := 1000

theorem Cart.key_row (userId tenantId id : Nat) :
    Schema.key ({ id, userId, tenantId } : Cart) = id := rfl

/-- The tenant is used only where the user has no cart yet. -/
def upsertCart {σ : Type} (carts : Slot σ Cart) (userId tenantId : Nat) :
    Tx σ HttpError Cart := do
  let found ← Tx.read fun s => (carts.get s).findFirst (·.userId = userId)
  match found with
  | some cart => return cart
  | none => carts.create (fun id => { id, userId, tenantId }) (Cart.key_row userId tenantId)

def getOrCreateCart (userId tenantId : Nat) : Service Cart :=
  Proc.transact .cart (upsertCart Db.carts userId tenantId)

def getActiveProductOrThrow (productId tenantId : Nat) : Service Product := do
  let product ← Proc.read fun w => (w.products.get productId).filter (·.tenantId = tenantId)
  match product with
  | none => throw (.notFound "Product not found")
  | some product =>
      if product.isActive then
        return product
      else
        throw (.conflict "This product is no longer available")

/-- The variant that is named, which has to be one of the product's. -/
def findActiveVariant (product : Product) (variantId tenantId : Nat) :
    Service ProductVariant := do
  let variant ← Proc.read fun w =>
    (w.productVariants.get variantId).filter fun v =>
      v.productId = product.id && v.tenantId = tenantId
  match variant with
  | none => throw (.notFound "Variant not found for this product")
  | some variant =>
      if variant.isAvailable then
        return variant
      else
        throw (.conflict "This variant is no longer available")

def getActiveVariantOrThrow (product : Product) (variantId : Option Nat) (tenantId : Nat) :
    Service (Option ProductVariant) :=
  match variantId with
  | none => return none
  | some variantId => some <$> findActiveVariant product variantId tenantId

def assertQuantityInBounds (product : Product) (quantity : Nat) : Service Unit :=
  let max := product.maxQuantity.getD platformDefaultMaxQuantity
  if quantity < product.minQuantity || max < quantity then
    throw (.badRequest
      s!"Quantity must be between {product.minQuantity} and {max} for this product")
  else
    return ()

/-- The first value that names none of the fields. -/
def assertFieldsKnown (fields : List CustomizationField)
    (submissions : List CustomizationValueDto) : Service Unit :=
  match submissions.find? fun s => !fields.any (·.id = s.fieldId) with
  | some s =>
      throw (.badRequest s!"Unknown customization field for this product: {s.fieldId}")
  | none => return ()

/-- The value for a field: the first one that names it. -/
def submissionFor (submissions : List CustomizationValueDto) (fieldId : Nat) :
    CustomizationSubmission :=
  let submission := submissions.find? (·.fieldId = fieldId)
  ⟨submission.bind (·.textValue), submission.bind (·.uploadedFileId)⟩

/-- The fields in turn, up to the first that refuses its value. -/
def validateFields (submissions : List CustomizationValueDto) (userId tenantId : Nat) :
    List CustomizationField → Service Unit
  | [] => return ()
  | field :: fields => do
      let result ← validate field (submissionFor submissions field.id) userId tenantId
      match result with
      | .error e => throw (.badRequest e)
      | .ok _ => validateFields submissions userId tenantId fields

def validateCustomizationsForWrite (productId : Nat) (submissions : List CustomizationValueDto)
    (userId tenantId : Nat) : Service Unit := do
  let fields ← Proc.read fun w =>
    w.customizationFields.findMany fun f => f.productId = productId && f.tenantId = tenantId
  assertFieldsKnown fields submissions
  validateFields submissions userId tenantId fields

/-- One row for each value that was submitted. -/
def createCustomizations (item : CartItem) : List CustomizationValueDto → Transaction Unit
  | [] => return ()
  | c :: rest => do
      let _ ← Db.cartItemCustomizations.create fun id =>
        { id, cartItemId := item.id, customizationFieldId := c.fieldId
          textValue := c.textValue, uploadedFileId := c.uploadedFileId
          tenantId := item.tenantId }
      createCustomizations item rest

/-- The transaction of `addItem`, with the rows as they were read before. -/
def createItem (cart : Cart) (product : Product) (variant : Option ProductVariant)
    (quantity : Nat) (customizations : List CustomizationValueDto) : Transaction CartItem := do
  let item ← Db.cartItems.create fun id =>
    { id, cartId := cart.id, productId := product.id, variantId := variant.map (·.id), quantity
      tenantId := cart.tenantId }
  createCustomizations item customizations
  return item

/-- Fill a cart that has been found. -/
def addToCart (userId : Nat) (cart : Cart) (dto : AddCartItemDto) : Service CartItem := do
  let product ← getActiveProductOrThrow dto.productId cart.tenantId
  let variant ← getActiveVariantOrThrow product dto.variantId cart.tenantId
  assertQuantityInBounds product dto.quantity
  validateCustomizationsForWrite product.id dto.customizations userId cart.tenantId
  Proc.transact .cart (createItem cart product variant dto.quantity dto.customizations)

def addItem (userId tenantId : Nat) (dto : AddCartItemDto) (options : AddCartItemOptions) :
    Service CartItem := do
  let cart ← getOrCreateCart userId tenantId
  if options.requireCartInResolvedTenant && cart.tenantId ≠ tenantId then
    throw (.notFound "Product not found")
  else
    addToCart userId cart dto

/-! ## Requests -/

inductive Request where
  | createCategory (tenantId : Nat) (dto : CreateCategoryDto)
  | updateCategory (tenantId id : Nat) (dto : UpdateCategoryDto)
  | setCategoryActive (tenantId id : Nat) (isActive : Bool)
  | createProduct (tenantId : Nat) (dto : CreateProductDto) (within : Bool)
  | updateProduct (tenantId id : Nat) (dto : UpdateProductDto)
  | setProductActive (tenantId id : Nat) (isActive : Bool)
  | createVariant (tenantId productId : Nat) (dto : CreateVariantDto)
  | updateVariant (tenantId productId variantId : Nat) (dto : UpdateVariantDto)
  | createCustomizationField (tenantId productId : Nat) (label : String)
      (type : CustomizationFieldType) (dto : CustomizationFieldDto)
  | updateCustomizationField (tenantId productId fieldId : Nat) (dto : CustomizationFieldDto)
  | addImage (tenantId productId : Nat) (dto : CreateProductImageDto)
  | removeImage (tenantId productId imageId : Nat)
  | upload (userId tenantId : Nat) (file : MulterFile) (result : UploadApiResponse)
      (within : Bool)
  | addItem (userId tenantId : Nat) (dto : AddCartItemDto) (options : AddCartItemOptions)
deriving DecidableEq, Repr

/-- A service that is one transaction. -/
def inTransaction {α : Type} (tx : Transaction α) : Service Unit := do
  let _ ← Proc.transact .catalogue tx
  return ()

def handle : Request → Service Unit
  | .createCategory tenantId dto => inTransaction (createCategory tenantId dto)
  | .updateCategory tenantId id dto => inTransaction (updateCategory tenantId id dto)
  | .setCategoryActive tenantId id isActive =>
      inTransaction (setCategoryActive tenantId id isActive)
  | .createProduct tenantId dto within => inTransaction (createProduct tenantId dto within)
  | .updateProduct tenantId id dto => inTransaction (updateProduct tenantId id dto)
  | .setProductActive tenantId id isActive =>
      inTransaction (setProductActive tenantId id isActive)
  | .createVariant tenantId productId dto => inTransaction (createVariant tenantId productId dto)
  | .updateVariant tenantId productId variantId dto =>
      inTransaction (updateVariant tenantId productId variantId dto)
  | .createCustomizationField tenantId productId label type dto =>
      inTransaction (createCustomizationField tenantId productId label type dto)
  | .updateCustomizationField tenantId productId fieldId dto =>
      inTransaction (updateCustomizationField tenantId productId fieldId dto)
  | .addImage tenantId productId dto => do
      let _ ← addImage tenantId productId dto
      return ()
  | .removeImage tenantId productId imageId =>
      inTransaction (removeImage tenantId productId imageId)
  | .upload userId tenantId file result within => do
      let _ ← uploadFile userId tenantId file result within
      return ()
  | .addItem userId tenantId dto options => do
      let _ ← addItem userId tenantId dto options
      return ()

abbrev CatalogueConfig := Config World Request Commit HttpError Unit

/-- A run of any length, with any requests, whose commits are `ok`. -/
abbrev Reaches (ok : Commit → World → Prop) : CatalogueConfig → CatalogueConfig → Prop :=
  Run (fun _ => handle) (fun _ _ => True) ok

/-- No request has been accepted yet. -/
def CatalogueConfig.initial (users : Table User) : CatalogueConfig := ⟨World.initial users, []⟩

end PrintForge.Catalogue
