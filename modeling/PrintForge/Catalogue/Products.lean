import PrintForge.Catalogue.Uploads

/-!
# Categories and products

Every write is one transaction that loads the rows it is about, compares their tenant with the
caller's and then writes. `addImage` reads the uploaded file before its transaction.
-/

namespace PrintForge.Catalogue

open Relational Concurrent

structure CreateCategoryDto where
  name : String
  slug : String
  parentCategoryId : Option Nat
deriving DecidableEq, Repr

structure UpdateCategoryDto where
  name : Property String
  slug : Property String
  parentCategoryId : Property Nat
deriving DecidableEq, Repr

/-- Prices are given in paise. -/
structure CreateProductDto where
  categoryId : Nat
  name : String
  slug : String
  basePrice : Int
  minQuantity : Nat
  maxQuantity : Option Nat
deriving DecidableEq, Repr

structure UpdateProductDto where
  categoryId : Property Nat
  name : Property String
  slug : Property String
  basePrice : Property Int
  minQuantity : Property Nat
  maxQuantity : Property Nat
deriving DecidableEq, Repr

structure CreateVariantDto where
  label : String
  priceDelta : Property Int
  isAvailable : Property Bool
deriving DecidableEq, Repr

structure UpdateVariantDto where
  label : Property String
  priceDelta : Property Int
  isAvailable : Property Bool
deriving DecidableEq, Repr

structure CustomizationFieldDto where
  label : Property String
  type : Property CustomizationFieldType
  isRequired : Property Bool
  sortOrder : Property Nat
  helpText : Property String
  constraints : Property FieldConstraints
  surchargeType : Property SurchargeType
  surchargeAmount : Property Int
deriving DecidableEq, Repr

structure CreateProductImageDto where
  uploadedFileId : Nat
  sortOrder : Property Nat
  isPrimary : Property Bool
deriving DecidableEq, Repr

/-! ## Columns -/

/-- What a column that cannot be null is set to. -/
def required {α : Type} (current : α) : Property α → Transaction α
  | .undefined => return current
  | .null => throw (.other "Argument must not be null")
  | .value a => return a

/-- What a column that can be null is set to. -/
def nullable {α : Type} (current : Option α) : Property α → Option α
  | .undefined => current
  | .null => none
  | .value a => some a

def price (paise : Int) : Transaction Amount :=
  match Amount.ofPaise? paise with
  | none => throw (.other "numeric field overflow")
  | some amount => return amount

/-- A price that cannot be null. -/
def requiredPrice (current : Amount) : Property Int → Transaction Amount
  | .undefined => return current
  | .null => throw (.other "Argument must not be null")
  | .value paise => price paise

def mapUniqueConstraintError {α : Type} (message : String) (tx : Transaction α) :
    Transaction α :=
  tryCatch tx fun err =>
    if err.isUniqueConstraintViolation then throw (.conflict message) else throw err

/-- Load a row and compare its tenant with the caller's. -/
def loadInTenant {α : Type} (tenantOf : α → Nat) (find : World → Option α) (message : String)
    (tenantId : Nat) : Transaction α := do
  let found ← Tx.read find
  match found with
  | none => throw (.notFound message)
  | some row => assertObjectInTenant tenantOf (some row) tenantId

def loadCategory (tenantId id : Nat) : Transaction Category :=
  loadInTenant (·.tenantId) (·.categories.get id) "Category not found" tenantId

def loadProduct (tenantId id : Nat) : Transaction Product :=
  loadInTenant (·.tenantId) (·.products.get id) "Product not found" tenantId

/-- Load a row that has to hang on a product that has been loaded. -/
def loadOfProduct {α : Type} (productOf : α → Nat) (find : World → Option α) (message : String)
    (productId : Nat) : Transaction α := do
  let found ← Tx.read find
  match found with
  | none => throw (.notFound message)
  | some row => if productOf row ≠ productId then throw (.notFound message) else return row

/-! ## Categories -/

def createCategory (tenantId : Nat) (dto : CreateCategoryDto) : Transaction Category := do
  let _ ← dto.parentCategoryId.mapM (loadCategory tenantId)
  mapUniqueConstraintError "A category with this slug already exists"
    (Db.categories.create fun id =>
      { id, name := dto.name, slug := dto.slug, parentCategoryId := dto.parentCategoryId
        isActive := true, tenantId, storeId := none })

def updateCategory (tenantId id : Nat) (dto : UpdateCategoryDto) : Transaction Category := do
  let existing ← loadCategory tenantId id
  let _ ← dto.parentCategoryId.toOption.mapM (loadCategory tenantId)
  let name ← required existing.name dto.name
  let slug ← required existing.slug dto.slug
  mapUniqueConstraintError "A category with this slug already exists"
    (Db.categories.update id fun c =>
      { c with name, slug, parentCategoryId := nullable c.parentCategoryId dto.parentCategoryId })

def setCategoryActive (tenantId id : Nat) (isActive : Bool) : Transaction Category := do
  let _ ← loadCategory tenantId id
  Db.categories.update id fun c => { c with isActive }

/-! ## Products -/

def createProduct (tenantId : Nat) (dto : CreateProductDto) (within : Bool) :
    Transaction Product := do
  let _ ← loadCategory tenantId dto.categoryId
  assertLimit within
  let basePrice ← price dto.basePrice
  mapUniqueConstraintError "A product with this slug already exists"
    (Db.products.create fun id =>
      { id, categoryId := dto.categoryId, name := dto.name, slug := dto.slug, basePrice
        minQuantity := dto.minQuantity, maxQuantity := dto.maxQuantity, isActive := true
        tenantId, storeId := none })

def updateProduct (tenantId id : Nat) (dto : UpdateProductDto) : Transaction Product := do
  let existing ← loadProduct tenantId id
  let _ ← dto.categoryId.toOption.mapM (loadCategory tenantId)
  let categoryId ← required existing.categoryId dto.categoryId
  let name ← required existing.name dto.name
  let slug ← required existing.slug dto.slug
  let basePrice ← requiredPrice existing.basePrice dto.basePrice
  let minQuantity ← required existing.minQuantity dto.minQuantity
  mapUniqueConstraintError "A product with this slug already exists"
    (Db.products.update id fun p =>
      { p with
        categoryId, name, slug, basePrice, minQuantity
        maxQuantity := nullable p.maxQuantity dto.maxQuantity })

def setProductActive (tenantId id : Nat) (isActive : Bool) : Transaction Product := do
  let _ ← loadProduct tenantId id
  Db.products.update id fun p => { p with isActive }

/-! ## Variants -/

def createVariant (tenantId productId : Nat) (dto : CreateVariantDto) :
    Transaction ProductVariant := do
  let _ ← loadProduct tenantId productId
  let priceDelta ← requiredPrice .zero dto.priceDelta
  let isAvailable ← required true dto.isAvailable
  mapUniqueConstraintError "A variant with this label already exists for this product"
    (Db.productVariants.create fun id =>
      { id, productId, label := dto.label, priceDelta, isAvailable, tenantId })

def updateVariant (tenantId productId variantId : Nat) (dto : UpdateVariantDto) :
    Transaction ProductVariant := do
  let _ ← loadProduct tenantId productId
  let variant ← loadOfProduct (·.productId) (·.productVariants.get variantId)
    "Variant not found for this product" productId
  let label ← required variant.label dto.label
  let priceDelta ← requiredPrice variant.priceDelta dto.priceDelta
  let isAvailable ← required variant.isAvailable dto.isAvailable
  mapUniqueConstraintError "A variant with this label already exists for this product"
    (Db.productVariants.update variant.id fun v => { v with label, priceDelta, isAvailable })

/-! ## Customization fields -/

/-- The label and the type of a new field are always given. -/
def createCustomizationField (tenantId productId : Nat) (label : String)
    (type : CustomizationFieldType) (dto : CustomizationFieldDto) :
    Transaction CustomizationField := do
  let _ ← loadProduct tenantId productId
  let isRequired ← required false dto.isRequired
  let sortOrder ← required 0 dto.sortOrder
  let surchargeType ← required SurchargeType.none dto.surchargeType
  let surchargeAmount ← requiredPrice .zero dto.surchargeAmount
  Db.customizationFields.create fun id =>
    { id, productId, label, type, isRequired, sortOrder, helpText := dto.helpText.toOption
      constraints := dto.constraints.toOption, surchargeType, surchargeAmount, tenantId }

def updateCustomizationField (tenantId productId fieldId : Nat) (dto : CustomizationFieldDto) :
    Transaction CustomizationField := do
  let _ ← loadProduct tenantId productId
  let field ← loadOfProduct (·.productId) (·.customizationFields.get fieldId)
    "Customization field not found for this product" productId
  let label ← required field.label dto.label
  let type ← required field.type dto.type
  let isRequired ← required field.isRequired dto.isRequired
  let sortOrder ← required field.sortOrder dto.sortOrder
  let surchargeType ← required field.surchargeType dto.surchargeType
  let surchargeAmount ← requiredPrice field.surchargeAmount dto.surchargeAmount
  Db.customizationFields.update field.id fun f =>
    { f with
      label, type, isRequired, sortOrder, surchargeType, surchargeAmount
      helpText := nullable f.helpText dto.helpText
      constraints := nullable f.constraints dto.constraints }

/-! ## Images -/

/-- The transaction of `addImage`, with the file as it was read before. -/
def createImage (tenantId productId : Nat) (dto : CreateProductImageDto)
    (uploadedFile : UploadedFile) : Transaction ProductImage := do
  let _ ← loadProduct tenantId productId
  Db.productImages.create fun id =>
    { id, productId, object := uploadedFile.object, sortOrder := dto.sortOrder.toOption.getD 0
      isPrimary := dto.isPrimary.toOption.getD false, tenantId }

def addImage (tenantId productId : Nat) (dto : CreateProductImageDto) : Service ProductImage := do
  let uploadedFile ← findById dto.uploadedFileId
  match uploadedFile with
  | none => throw (.notFound "Uploaded file not found")
  | some uploadedFile =>
      Proc.transact (.image tenantId dto.uploadedFileId)
        (createImage tenantId productId dto uploadedFile)

def removeImage (tenantId productId imageId : Nat) : Transaction Unit := do
  let _ ← loadProduct tenantId productId
  let image ← loadOfProduct (·.productId) (·.productImages.get imageId)
    "Image not found for this product" productId
  let _ ← Db.productImages.deleteMany (·.id = image.id)
  return ()

/-! ## Reads -/

structure ProductImageWithUrl where
  image : ProductImage
  url : String
deriving DecidableEq, Repr

structure ProductWithRelations where
  product : Product
  variants : List ProductVariant
  images : List ProductImageWithUrl
  customizationFields : List CustomizationField
deriving DecidableEq, Repr

def withImageUrl (cloudinary : Cloudinary) (image : ProductImage) : ProductImageWithUrl :=
  ⟨image, resolveUrl cloudinary image.object⟩

/-- A product with its relations, as one query reads it. -/
def withImageUrls (cloudinary : Cloudinary) (product : Product) (w : World) :
    ProductWithRelations where
  product := product
  variants := w.productVariants.findMany (·.productId = product.id)
  images := ((w.productImages.findMany (·.productId = product.id)).mergeSort
    fun a b => a.sortOrder ≤ b.sortOrder).map (withImageUrl cloudinary)
  customizationFields := (w.customizationFields.findMany (·.productId = product.id)).mergeSort
    fun a b => a.sortOrder ≤ b.sortOrder

/-- A product as its tenant manages it. -/
def adminGetProduct (cloudinary : Cloudinary) (tenantId id : Nat) :
    Transaction ProductWithRelations := do
  let product ← loadProduct tenantId id
  Tx.read (withImageUrls cloudinary product)

/-- An active product on the storefront of a tenant. -/
def getProductBySlug (cloudinary : Cloudinary) (slug : String) (tenantId : Nat) :
    Transaction ProductWithRelations := do
  let found ← Tx.read fun w =>
    w.products.findFirst fun p => p.slug = slug && p.isActive && p.tenantId = tenantId
  match found with
  | none => throw (.notFound "Product not found")
  | some product => Tx.read (withImageUrls cloudinary product)

end PrintForge.Catalogue
