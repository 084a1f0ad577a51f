import PrintForge.Catalogue.Cart
import PrintForge.Concurrent.Discipline
import PrintForge.Relational.References

/-!
# References within a tenant

No row refers to a row of another tenant, and the object of an image is that of a file of the
image's tenant. What is loaded and compared in the transaction that writes is settled there;
what is read before stays true because rows are not deleted and do not change their tenant.
The file of an image is read before and compared with nothing, so the runs considered are
those that name a file of the caller's tenant.
-/

namespace PrintForge.Catalogue

open Relational Concurrent Proc

variable {w w' : World} {tenantId : Nat}

/-- Every reference stays within the tenant of the row that makes it. -/
structure TenantsMatch (w : World) : Prop where
  parents : w.categories.Refers (·.parentCategoryId) (·.tenantId) w.categories (·.tenantId)
  categories : w.products.Refers (some ·.categoryId) (·.tenantId) w.categories (·.tenantId)
  variants : w.productVariants.Refers (some ·.productId) (·.tenantId) w.products (·.tenantId)
  fields : w.customizationFields.Refers (some ·.productId) (·.tenantId) w.products (·.tenantId)
  images : w.productImages.Refers (some ·.productId) (·.tenantId) w.products (·.tenantId)
  files : ∀ i ∈ w.productImages, ∃ f ∈ w.uploadedFiles,
    f.object = i.object ∧ f.tenantId = i.tenantId
  itemCarts : w.cartItems.Refers (some ·.cartId) (·.tenantId) w.carts (·.tenantId)
  itemProducts : w.cartItems.Refers (some ·.productId) (·.tenantId) w.products (·.tenantId)
  itemVariants : w.cartItems.Refers (·.variantId) (·.tenantId) w.productVariants (·.tenantId)

/-- Rows that others refer to stay with their tenant. -/
structure Lasting (w w' : World) : Prop where
  categories : Table.Keeps (·.tenantId) w.categories w'.categories
  products : Table.Keeps (·.tenantId) w.products w'.products
  productVariants : Table.Keeps (·.tenantId) w.productVariants w'.productVariants
  carts : Table.Keeps (·.tenantId) w.carts w'.carts
  uploadedFiles : Table.Keeps (fun f => (f.object, f.tenantId)) w.uploadedFiles w'.uploadedFiles

theorem Lasting.refl (w : World) : Lasting w w :=
  ⟨Table.evolves_refl _, Table.evolves_refl _, Table.evolves_refl _, Table.evolves_refl _,
    Table.evolves_refl _⟩

theorem Lasting.trans {w'' : World} (h : Lasting w w') (h' : Lasting w' w'') :
    Lasting w w'' where
  categories := h.categories.trans h'.categories
  products := h.products.trans h'.products
  productVariants := h.productVariants.trans h'.productVariants
  carts := h.carts.trans h'.carts
  uploadedFiles := h.uploadedFiles.trans h'.uploadedFiles

theorem tenantsMatch_initial (users : Table User) : TenantsMatch (World.initial users) where
  parents := Table.refers_empty
  categories := Table.refers_empty
  variants := Table.refers_empty
  fields := Table.refers_empty
  images := Table.refers_empty
  files i hi := absurd hi (Table.not_mem_empty i)
  itemCarts := Table.refers_empty
  itemProducts := Table.refers_empty
  itemVariants := Table.refers_empty

/-! ## Writes to one table -/

/-- What a step is to do. -/
def Kept (w w' : World) : Prop := Lasting w w' ∧ TenantsMatch w'

theorem categories_kept {t : Table Category} (h : TenantsMatch w)
    (hk : Table.Keeps (·.tenantId) w.categories t)
    (hparents : t.Refers (·.parentCategoryId) (·.tenantId) t (·.tenantId)) :
    Kept w { w with categories := t } :=
  ⟨{ Lasting.refl w with categories := hk },
    { h with parents := hparents, categories := h.categories.later hk }⟩

theorem products_kept {t : Table Product} (h : TenantsMatch w)
    (hk : Table.Keeps (·.tenantId) w.products t)
    (hcategories : t.Refers (some ·.categoryId) (·.tenantId) w.categories (·.tenantId)) :
    Kept w { w with products := t } :=
  ⟨{ Lasting.refl w with products := hk },
    { h with
      categories := hcategories
      variants := h.variants.later hk
      fields := h.fields.later hk
      images := h.images.later hk
      itemProducts := h.itemProducts.later hk }⟩

theorem productVariants_kept {t : Table ProductVariant} (h : TenantsMatch w)
    (hk : Table.Keeps (·.tenantId) w.productVariants t)
    (hvariants : t.Refers (some ·.productId) (·.tenantId) w.products (·.tenantId)) :
    Kept w { w with productVariants := t } :=
  ⟨{ Lasting.refl w with productVariants := hk },
    { h with variants := hvariants, itemVariants := h.itemVariants.later hk }⟩

theorem customizationFields_kept {t : Table CustomizationField} (h : TenantsMatch w)
    (hfields : t.Refers (some ·.productId) (·.tenantId) w.products (·.tenantId)) :
    Kept w { w with customizationFields := t } :=
  ⟨{ Lasting.refl w with }, { h with fields := hfields }⟩

theorem productImages_kept {t : Table ProductImage} (h : TenantsMatch w)
    (himages : t.Refers (some ·.productId) (·.tenantId) w.products (·.tenantId))
    (hfiles : ∀ i ∈ t, ∃ f ∈ w.uploadedFiles, f.object = i.object ∧ f.tenantId = i.tenantId) :
    Kept w { w with productImages := t } :=
  ⟨{ Lasting.refl w with }, { h with images := himages, files := hfiles }⟩

theorem uploadedFiles_kept {t : Table UploadedFile} (h : TenantsMatch w)
    (hk : Table.Keeps (fun f => (f.object, f.tenantId)) w.uploadedFiles t) :
    Kept w { w with uploadedFiles := t } := by
  refine ⟨{ Lasting.refl w with uploadedFiles := hk }, { h with files := fun i hi => ?_ }⟩
  obtain ⟨f, hf, hobject, htenant⟩ := h.files i hi
  obtain ⟨f', hf', -, hsame⟩ := hk f hf
  obtain ⟨hobject', htenant'⟩ := Prod.mk.inj hsame
  exact ⟨f', hf', hobject'.trans hobject, htenant'.trans htenant⟩

theorem carts_kept {t : Table Cart} (h : TenantsMatch w)
    (hk : Table.Keeps (·.tenantId) w.carts t) : Kept w { w with carts := t } :=
  ⟨{ Lasting.refl w with carts := hk }, { h with itemCarts := h.itemCarts.later hk }⟩

/-! ## Statements that write nothing -/

/-- The statement leaves the state alone. -/
abbrev Silent {α : Type} (tx : Transaction α) : Prop := Tx.Within (Tx.Same id) tx

theorem Silent.bind_ok {α β : Type} {x : Transaction α} {f : α → Transaction β} {b : β}
    (hx : Silent x) (h : (x >>= f) w = .ok (b, w')) :
    ∃ a, x w = .ok (a, w) ∧ f a w = .ok (b, w') := by
  obtain ⟨a, w₁, h₁, h₂⟩ := Tx.bind_ok.mp h
  cases hx h₁
  exact ⟨a, h₁, h₂⟩

theorem silent_required {α : Type} (current : α) (p : Property α) :
    Silent (required current p) := by
  cases p with
  | undefined => exact Tx.within_pure _
  | null => exact Tx.within_throw _
  | value a => exact Tx.within_pure _

theorem silent_price (paise : Int) : Silent (price paise) := by
  unfold price
  split
  · exact Tx.within_throw _
  · exact Tx.within_pure _

theorem silent_requiredPrice (current : Amount) (p : Property Int) :
    Silent (requiredPrice current p) := by
  cases p with
  | undefined => exact Tx.within_pure _
  | null => exact Tx.within_throw _
  | value paise => exact silent_price paise

theorem silent_assertLimit (within : Bool) : Silent (assertLimit within) := by
  unfold assertLimit
  split
  · exact Tx.within_pure _
  · exact Tx.within_throw _

theorem mapUniqueConstraintError_ok {α : Type} {message : String} {tx : Transaction α} {a : α}
    (h : mapUniqueConstraintError message tx w = .ok (a, w')) : tx w = .ok (a, w') := by
  rw [mapUniqueConstraintError, Tx.tryCatch_apply] at h
  cases htx : tx w with
  | ok r =>
      rw [htx] at h
      exact h
  | error e =>
      rw [htx] at h
      dsimp only at h
      split at h
      · cases h
      · cases h

theorem loadInTenant_ok {α : Type} {tenantOf : α → Nat} {find : World → Option α}
    {message : String} {a : α}
    (h : loadInTenant tenantOf find message tenantId w = .ok (a, w')) :
    find w = some a ∧ tenantOf a = tenantId ∧ w' = w := by
  rw [loadInTenant, Tx.bind_read] at h
  cases hfind : find w with
  | none =>
      rw [hfind] at h
      cases h
  | some row =>
      rw [hfind] at h
      dsimp only [assertObjectInTenant] at h
      split at h
      · cases h
      · next hne =>
        cases h
        exact ⟨rfl, not_not.mp hne, rfl⟩

theorem loadOfProduct_ok {α : Type} {productOf : α → Nat} {find : World → Option α}
    {message : String} {productId : Nat} {a : α}
    (h : loadOfProduct productOf find message productId w = .ok (a, w')) :
    find w = some a ∧ productOf a = productId ∧ w' = w := by
  rw [loadOfProduct, Tx.bind_read] at h
  cases hfind : find w with
  | none =>
      rw [hfind] at h
      cases h
  | some row =>
      rw [hfind] at h
      dsimp only at h
      split at h
      · cases h
      · next hne =>
        cases h
        exact ⟨rfl, not_not.mp hne, rfl⟩

/-- A category that may be named and is named belongs to the tenant. -/
theorem loadCategories_ok {named : Option Nat} {cs : Option Category}
    (h : (named.mapM (loadCategory tenantId) : Transaction (Option Category)) w = .ok (cs, w')) :
    (∀ k ∈ named, Table.Labelled w.categories (·.tenantId) k tenantId) ∧ w' = w := by
  cases named with
  | none =>
      cases h
      exact ⟨fun k hk => (Option.not_mem_none k hk).elim, rfl⟩
  | some k =>
      obtain ⟨c, h₁, -⟩ := Tx.map_ok.mp h
      obtain ⟨hget, htenant, rfl⟩ := loadInTenant_ok h₁
      refine ⟨fun k' hk' => ?_, rfl⟩
      cases hk'
      exact Table.labelled_of_get hget htenant

/-! ## The transactions -/

theorem createCategory_kept {dto : CreateCategoryDto} {c : Category} (h : TenantsMatch w)
    (hs : createCategory tenantId dto w = .ok (c, w')) : Kept w w' := by
  obtain ⟨parent, w₁, h₁, hcreate⟩ := Tx.bind_ok.mp hs
  obtain ⟨hparent, rfl⟩ := loadCategories_ok h₁
  obtain ⟨t, ht, -, rfl⟩ := Slot.create_ok (mapUniqueConstraintError_ok hcreate)
  have hk : Table.Keeps (·.tenantId) w₁.categories t := Table.evolves_create ht
  apply categories_kept h hk
  exact (h.parents.create ht fun k hk => hparent k hk).later hk

/-- The new parent is the old one or the one that was loaded. -/
theorem updateCategory_kept {id : Nat} {dto : UpdateCategoryDto} {c : Category}
    (h : TenantsMatch w) (hs : updateCategory tenantId id dto w = .ok (c, w')) : Kept w w' := by
  obtain ⟨existing, w₁, h₁, hparent⟩ := Tx.bind_ok.mp hs
  obtain ⟨hget, htenant, rfl⟩ := loadInTenant_ok h₁
  obtain ⟨parent, w₂, h₂, hname⟩ := Tx.bind_ok.mp hparent
  obtain ⟨hlabels, rfl⟩ := loadCategories_ok h₂
  obtain ⟨name, -, hslug⟩ := (silent_required _ _).bind_ok hname
  obtain ⟨slug, -, hwrite⟩ := (silent_required _ _).bind_ok hslug
  obtain ⟨r, t, -, ht, -, rfl⟩ := Slot.update_ok (mapUniqueConstraintError_ok hwrite)
  have hk : Table.Keeps (·.tenantId) w₂.categories t := Table.evolves_update ht fun _ _ _ => rfl
  apply categories_kept h hk
  refine (h.parents.update ht fun r hr hp => ⟨rfl, fun k hmem => ?_⟩).later hk
  have hr : r = existing := Table.eq_of_key hr (Table.get_eq_some.mp hget).1
    ((of_decide_eq_true hp).trans (Table.get_eq_some.mp hget).2.symm)
  subst hr
  cases hdto : dto.parentCategoryId with
  | undefined =>
      rw [hdto] at hmem
      exact .inl hmem
  | null =>
      rw [hdto] at hmem
      cases hmem
  | value k' =>
      rw [hdto] at hmem hlabels
      cases hmem
      rw [htenant]
      exact .inr (hlabels k rfl)

theorem setCategoryActive_kept {id : Nat} {isActive : Bool} {c : Category} (h : TenantsMatch w)
    (hs : setCategoryActive tenantId id isActive w = .ok (c, w')) : Kept w w' := by
  obtain ⟨existing, w₁, h₁, hwrite⟩ := Tx.bind_ok.mp hs
  obtain ⟨-, -, rfl⟩ := loadInTenant_ok h₁
  obtain ⟨r, t, -, ht, -, rfl⟩ := Slot.update_ok hwrite
  have hk : Table.Keeps (·.tenantId) w₁.categories t := Table.evolves_update ht fun _ _ _ => rfl
  apply categories_kept h hk
  exact (h.parents.update ht fun _ _ _ => ⟨rfl, fun _ hmem => .inl hmem⟩).later hk

theorem createProduct_kept {dto : CreateProductDto} {within : Bool} {p : Product}
    (h : TenantsMatch w) (hs : createProduct tenantId dto within w = .ok (p, w')) :
    Kept w w' := by
  obtain ⟨category, w₁, h₁, hlimit⟩ := Tx.bind_ok.mp hs
  obtain ⟨hget, htenant, rfl⟩ := loadInTenant_ok h₁
  obtain ⟨-, -, hprice⟩ := (silent_assertLimit _).bind_ok hlimit
  obtain ⟨basePrice, -, hcreate⟩ := (silent_price _).bind_ok hprice
  obtain ⟨t, ht, -, rfl⟩ := Slot.create_ok (mapUniqueConstraintError_ok hcreate)
  apply products_kept h (Table.evolves_create ht)
  refine h.categories.create ht fun k hk => ?_
  cases hk
  exact Table.labelled_of_get hget htenant

/-- The new category is the old one or the one that was loaded. -/
theorem updateProduct_kept {id : Nat} {dto : UpdateProductDto} {p : Product}
    (h : TenantsMatch w) (hs : updateProduct tenantId id dto w = .ok (p, w')) : Kept w w' := by
  obtain ⟨existing, w₁, h₁, hcategory⟩ := Tx.bind_ok.mp hs
  obtain ⟨hget, htenant, rfl⟩ := loadInTenant_ok h₁
  obtain ⟨category, w₂, h₂, hrequired⟩ := Tx.bind_ok.mp hcategory
  obtain ⟨hlabels, rfl⟩ := loadCategories_ok h₂
  obtain ⟨categoryId, hcategoryId, hname⟩ := (silent_required _ _).bind_ok hrequired
  obtain ⟨name, -, hslug⟩ := (silent_required _ _).bind_ok hname
  obtain ⟨slug, -, hprice⟩ := (silent_required _ _).bind_ok hslug
  obtain ⟨basePrice, -, hmin⟩ := (silent_requiredPrice _ _).bind_ok hprice
  obtain ⟨minQuantity, -, hwrite⟩ := (silent_required _ _).bind_ok hmin
  obtain ⟨r, t, -, ht, -, rfl⟩ := Slot.update_ok (mapUniqueConstraintError_ok hwrite)
  apply products_kept h (Table.evolves_update ht fun _ _ _ => rfl)
  refine h.categories.update ht fun r hr hp => ⟨rfl, fun k hmem => ?_⟩
  have hr : r = existing := Table.eq_of_key hr (Table.get_eq_some.mp hget).1
    ((of_decide_eq_true hp).trans (Table.get_eq_some.mp hget).2.symm)
  subst hr
  cases hmem
  cases hdto : dto.categoryId with
  | undefined =>
      rw [hdto] at hcategoryId
      cases hcategoryId
      exact .inl rfl
  | null =>
      rw [hdto] at hcategoryId
      cases hcategoryId
  | value k =>
      rw [hdto] at hcategoryId hlabels
      cases hcategoryId
      rw [htenant]
      exact .inr (hlabels _ rfl)

theorem setProductActive_kept {id : Nat} {isActive : Bool} {p : Product} (h : TenantsMatch w)
    (hs : setProductActive tenantId id isActive w = .ok (p, w')) : Kept w w' := by
  obtain ⟨existing, w₁, h₁, hwrite⟩ := Tx.bind_ok.mp hs
  obtain ⟨-, -, rfl⟩ := loadInTenant_ok h₁
  obtain ⟨r, t, -, ht, -, rfl⟩ := Slot.update_ok hwrite
  apply products_kept h (Table.evolves_update ht fun _ _ _ => rfl)
  exact h.categories.update ht fun _ _ _ => ⟨rfl, fun _ hmem => .inl hmem⟩

theorem createVariant_kept {productId : Nat} {dto : CreateVariantDto} {v : ProductVariant}
    (h : TenantsMatch w) (hs : createVariant tenantId productId dto w = .ok (v, w')) :
    Kept w w' := by
  obtain ⟨product, w₁, h₁, hprice⟩ := Tx.bind_ok.mp hs
  obtain ⟨hget, htenant, rfl⟩ := loadInTenant_ok h₁
  obtain ⟨priceDelta, -, havailable⟩ := (silent_requiredPrice _ _).bind_ok hprice
  obtain ⟨isAvailable, -, hcreate⟩ := (silent_required _ _).bind_ok havailable
  obtain ⟨t, ht, -, rfl⟩ := Slot.create_ok (mapUniqueConstraintError_ok hcreate)
  apply productVariants_kept h (Table.evolves_create ht)
  refine h.variants.create ht fun k hk => ?_
  cases hk
  exact Table.labelled_of_get hget htenant

theorem updateVariant_kept {productId variantId : Nat} {dto : UpdateVariantDto}
    {v : ProductVariant} (h : TenantsMatch w)
    (hs : updateVariant tenantId productId variantId dto w = .ok (v, w')) : Kept w w' := by
  obtain ⟨product, w₁, h₁, hvariant⟩ := Tx.bind_ok.mp hs
  obtain ⟨-, -, rfl⟩ := loadInTenant_ok h₁
  obtain ⟨variant, w₂, h₂, hlabel⟩ := Tx.bind_ok.mp hvariant
  obtain ⟨-, -, rfl⟩ := loadOfProduct_ok h₂
  obtain ⟨label, -, hprice⟩ := (silent_required _ _).bind_ok hlabel
  obtain ⟨priceDelta, -, havailable⟩ := (silent_requiredPrice _ _).bind_ok hprice
  obtain ⟨isAvailable, -, hwrite⟩ := (silent_required _ _).bind_ok havailable
  obtain ⟨r, t, -, ht, -, rfl⟩ := Slot.update_ok (mapUniqueConstraintError_ok hwrite)
  apply productVariants_kept h (Table.evolves_update ht fun _ _ _ => rfl)
  exact h.variants.update ht fun _ _ _ => ⟨rfl, fun _ hmem => .inl hmem⟩

theorem createCustomizationField_kept {productId : Nat} {label : String}
    {type : CustomizationFieldType} {dto : CustomizationFieldDto} {f : CustomizationField}
    (h : TenantsMatch w)
    (hs : createCustomizationField tenantId productId label type dto w = .ok (f, w')) :
    Kept w w' := by
  obtain ⟨product, w₁, h₁, hrequired⟩ := Tx.bind_ok.mp hs
  obtain ⟨hget, htenant, rfl⟩ := loadInTenant_ok h₁
  obtain ⟨isRequired, -, horder⟩ := (silent_required _ _).bind_ok hrequired
  obtain ⟨sortOrder, -, htype⟩ := (silent_required _ _).bind_ok horder
  obtain ⟨surchargeType, -, hamount⟩ := (silent_required _ _).bind_ok htype
  obtain ⟨surchargeAmount, -, hcreate⟩ := (silent_requiredPrice _ _).bind_ok hamount
  obtain ⟨t, ht, -, rfl⟩ := Slot.create_ok hcreate
  apply customizationFields_kept h
  refine h.fields.create ht fun k hk => ?_
  cases hk
  exact Table.labelled_of_get hget htenant

theorem updateCustomizationField_kept {productId fieldId : Nat} {dto : CustomizationFieldDto}
    {f : CustomizationField} (h : TenantsMatch w)
    (hs : updateCustomizationField tenantId productId fieldId dto w = .ok (f, w')) :
    Kept w w' := by
  obtain ⟨product, w₁, h₁, hfield⟩ := Tx.bind_ok.mp hs
  obtain ⟨-, -, rfl⟩ := loadInTenant_ok h₁
  obtain ⟨field, w₂, h₂, hlabel⟩ := Tx.bind_ok.mp hfield
  obtain ⟨-, -, rfl⟩ := loadOfProduct_ok h₂
  obtain ⟨label, -, htype⟩ := (silent_required _ _).bind_ok hlabel
  obtain ⟨type, -, hrequired⟩ := (silent_required _ _).bind_ok htype
  obtain ⟨isRequired, -, horder⟩ := (silent_required _ _).bind_ok hrequired
  obtain ⟨sortOrder, -, hsurcharge⟩ := (silent_required _ _).bind_ok horder
  obtain ⟨surchargeType, -, hamount⟩ := (silent_required _ _).bind_ok hsurcharge
  obtain ⟨surchargeAmount, -, hwrite⟩ := (silent_requiredPrice _ _).bind_ok hamount
  obtain ⟨r, t, -, ht, -, rfl⟩ := Slot.update_ok hwrite
  apply customizationFields_kept h
  exact h.fields.update ht fun _ _ _ => ⟨rfl, fun _ hmem => .inl hmem⟩

/-- An image is good when its file is one of the caller's. -/
theorem createImage_kept {productId : Nat} {dto : CreateProductImageDto} {file : UploadedFile}
    {i : ProductImage} (h : TenantsMatch w)
    (hfile : ∃ f ∈ w.uploadedFiles, f.object = file.object ∧ f.tenantId = tenantId)
    (hs : createImage tenantId productId dto file w = .ok (i, w')) : Kept w w' := by
  obtain ⟨product, w₁, h₁, hcreate⟩ := Tx.bind_ok.mp hs
  obtain ⟨hget, htenant, rfl⟩ := loadInTenant_ok h₁
  obtain ⟨t, ht, -, rfl⟩ := Slot.create_ok hcreate
  apply productImages_kept h
  · refine h.images.create ht fun k hk => ?_
    cases hk
    exact Table.labelled_of_get hget htenant
  · intro i hi
    obtain hi | rfl := (Table.mem_create ht).mp hi
    · exact h.files i hi
    · exact hfile

theorem removeImage_kept {productId imageId : Nat} {u : Unit} (h : TenantsMatch w)
    (hs : removeImage tenantId productId imageId w = .ok (u, w')) : Kept w w' := by
  obtain ⟨product, w₁, h₁, himage⟩ := Tx.bind_ok.mp hs
  obtain ⟨-, -, rfl⟩ := loadInTenant_ok h₁
  obtain ⟨image, w₂, h₂, hdelete⟩ := Tx.bind_ok.mp himage
  obtain ⟨-, -, rfl⟩ := loadOfProduct_ok h₂
  cases hdelete
  apply productImages_kept h
  · exact h.images.delete
  · exact fun i hi => h.files i (Table.mem_delete.mp hi).1

theorem recordUpload_kept {userId : Nat} {file : MulterFile} {mime deliveryType : String}
    {result : UploadApiResponse} {within : Bool} {f : UploadedFile} (h : TenantsMatch w)
    (hs : recordUpload userId tenantId file mime deliveryType result within w = .ok (f, w')) :
    Kept w w' := by
  obtain ⟨-, -, hcreate⟩ := (silent_assertLimit _).bind_ok hs
  obtain ⟨t, ht, -, rfl⟩ := Slot.create_ok hcreate
  exact uploadedFiles_kept h (Table.evolves_create ht)

/-! ## Carts -/

/-- The cart of the user is there, in the tenant it was made in. -/
theorem upsertCart_kept {userId : Nat} {cart : Cart} (h : TenantsMatch w)
    (hs : upsertCart Db.carts userId tenantId w = .ok (cart, w')) :
    Kept w w' ∧ Table.Labelled w'.carts (·.tenantId) cart.id cart.tenantId := by
  rw [upsertCart, Tx.bind_read] at hs
  cases hfound : (Db.carts.get w).findFirst (·.userId = userId) with
  | some found =>
      rw [hfound] at hs
      cases hs
      exact ⟨⟨Lasting.refl _, h⟩, cart, (Table.findFirst_some hfound).1, rfl, rfl⟩
  | none =>
      rw [hfound] at hs
      obtain ⟨t, ht, rfl, rfl⟩ := Slot.create_ok hs
      refine ⟨carts_kept h (Table.evolves_create ht), _, ?_, rfl, rfl⟩
      exact (Table.mem_create ht).mpr (.inr rfl)

theorem createCustomizations_same {item : CartItem} {cs : List CustomizationValueDto} {u : Unit}
    (hs : createCustomizations item cs w = .ok (u, w')) :
    ∃ t, w' = { w with cartItemCustomizations := t } := by
  induction cs generalizing w with
  | nil =>
      cases hs
      exact ⟨_, rfl⟩
  | cons c cs ih =>
      obtain ⟨row, w₁, h₁, hrest⟩ := Tx.bind_ok.mp hs
      obtain ⟨t, -, -, rfl⟩ := Slot.create_ok h₁
      obtain ⟨t', rfl⟩ := ih hrest
      exact ⟨t', rfl⟩

/-- What an item is made from, as it was read, is all in the tenant of the cart. -/
structure Found (cart : Cart) (product : Product) (variant : Option ProductVariant) (w : World) :
    Prop where
  hasCart : Table.Labelled w.carts (·.tenantId) cart.id cart.tenantId
  hasProduct : Table.Labelled w.products (·.tenantId) product.id cart.tenantId
  hasVariant : ∀ v ∈ variant, Table.Labelled w.productVariants (·.tenantId) v.id cart.tenantId

theorem Found.later {cart : Cart} {product : Product} {variant : Option ProductVariant}
    (h : Found cart product variant w) (hl : Lasting w w') : Found cart product variant w' :=
  ⟨h.hasCart.later hl.carts, h.hasProduct.later hl.products,
    fun v hv => (h.hasVariant v hv).later hl.productVariants⟩

theorem createItem_kept {cart : Cart} {product : Product} {variant : Option ProductVariant}
    {quantity : Nat} {cs : List CustomizationValueDto} {item : CartItem} (h : TenantsMatch w)
    (hfound : Found cart product variant w)
    (hs : createItem cart product variant quantity cs w = .ok (item, w')) : Kept w w' := by
  obtain ⟨row, w₁, h₁, hcustomizations⟩ := Tx.bind_ok.mp hs
  obtain ⟨t, ht, -, rfl⟩ := Slot.create_ok h₁
  obtain ⟨u, w₂, h₂, hdone⟩ := Tx.bind_ok.mp hcustomizations
  obtain ⟨t', rfl⟩ := createCustomizations_same h₂
  cases hdone
  refine ⟨{ Lasting.refl w with },
    { h with itemCarts := ?_, itemProducts := ?_, itemVariants := ?_ }⟩
  · refine h.itemCarts.create ht fun k hk => ?_
    cases hk
    exact hfound.hasCart
  · refine h.itemProducts.create ht fun k hk => ?_
    cases hk
    exact hfound.hasProduct
  · refine h.itemVariants.create ht fun k hk => ?_
    obtain ⟨v, hv, rfl⟩ := Option.map_eq_some_iff.mp hk
    exact hfound.hasVariant v hv

/-! ## The processes -/

/-- The file that an image is made from belongs to the tenant that adds the image. -/
def OwnFile : Commit → World → Prop
  | .image tenantId uploadedFileId, w =>
      ∀ f ∈ w.uploadedFiles.get uploadedFileId, f.tenantId = tenantId
  | .catalogue, _ | .upload, _ | .cart, _ => True

instance : ∀ ℓ w, Decidable (OwnFile ℓ w)
  | .image tenantId uploadedFileId, w =>
      inferInstanceAs (Decidable (∀ f ∈ w.uploadedFiles.get uploadedFileId, f.tenantId = tenantId))
  | .catalogue, _ | .upload, _ | .cart, _ => inferInstanceAs (Decidable True)

/-- References stay within a tenant, and what they lead to lasts. -/
def catalogue : Discipline World Commit where
  inv := TenantsMatch
  ok := OwnFile
  rely _ := Lasting
  guar _ _ := Kept
  rely_refl _ := Lasting.refl
  rely_trans h h' := h.trans h'
  inv_guar _ _ h := h.2
  rely_guar _ _ _ h := h.1

section Safe

open Discipline

variable {α : Type} {i : Nat} {K : World → Prop}

/-- A transaction that does its part, as the last action of a process. -/
theorem safe_last {ℓ : Commit} {tx : Transaction α} {P : α → World → Prop} {s : World}
    (htx : ∀ w a w', Lasting s w → TenantsMatch w → OwnFile ℓ w → tx w = .ok (a, w') →
      Kept w w' ∧ ∀ w'', Lasting w' w'' → P a w'') :
    catalogue.Safe i (Returns P) (Proc.transact ℓ tx : Service α) s := by
  rw [← Proc.finish_done (Proc.transact ℓ tx : Service α)]
  apply safe_transact
  · intro w a w' hl hi hok hs
    obtain ⟨hkept, hpost⟩ := htx w a w' hl hi hok hs
    exact ⟨hkept, fun _ => safe_pure hpost⟩
  · intro w e hl hi hok hs
    exact ⟨⟨Lasting.refl w, hi⟩, safe_throw e⟩

theorem safe_inTransaction {tx : Transaction α}
    (htx : ∀ w a w', TenantsMatch w → tx w = .ok (a, w') → Kept w w') (s : World)
    (hs : TenantsMatch s) : catalogue.Safe i (Returns fun _ _ => True) (inTransaction tx) s := by
  refine Safe.bind_returns (P := fun _ _ => True) ?_ hs fun s a _ _ => safe_pure fun _ _ => trivial
  exact safe_last fun w a w' _ hi _ h => ⟨htx w a w' hi h, fun _ _ => trivial⟩

/-- The process makes no writes. -/
abbrev ReadOnly (p : Service α) : Prop := p.Within fun _ _ _ => False

theorem readOnly_validate (field : CustomizationField) (submission : CustomizationSubmission)
    (userId tenantId : Nat) : ReadOnly (validate field submission userId tenantId) := by
  unfold validate
  split
  · exact within_pure _
  · exact within_pure _
  · split
    · refine (within_read _).bind fun file => ?_
      cases file with
      | none => exact within_pure _
      | some file => exact within_pure _
    · exact within_pure _

theorem readOnly_validateFields (submissions : List CustomizationValueDto) (userId tenantId : Nat)
    (fields : List CustomizationField) :
    ReadOnly (validateFields submissions userId tenantId fields) := by
  induction fields with
  | nil => exact within_pure _
  | cons field fields ih =>
      refine (readOnly_validate _ _ _ _).bind fun result => ?_
      cases result with
      | error e => exact within_throw _
      | ok surcharge => exact ih

theorem readOnly_validateCustomizationsForWrite (productId : Nat)
    (submissions : List CustomizationValueDto) (userId tenantId : Nat) :
    ReadOnly (validateCustomizationsForWrite productId submissions userId tenantId) := by
  refine (within_read _).bind fun fields => ?_
  refine Within.bind ?_ fun _ => readOnly_validateFields _ _ _ _
  unfold assertFieldsKnown
  split
  · exact within_throw _
  · exact within_pure _

theorem readOnly_assertQuantityInBounds (product : Product) (quantity : Nat) :
    ReadOnly (assertQuantityInBounds product quantity) := by
  unfold assertQuantityInBounds
  dsimp only
  split
  · exact within_throw _
  · exact within_pure _

/-- A check that makes no writes keeps what lasts. -/
theorem safe_check {p : Service α} (h : ReadOnly p) (hK : ∀ s s', Lasting s s' → K s → K s')
    {s : World} (hs : K s) : catalogue.Safe i (Returns fun _ => K) p s :=
  (safe_of_readOnly h hK hs).mono_post fun _ _ hk _ _ => hk

theorem safe_getActiveProductOrThrow {productId : Nat}
    (hK : ∀ s s', Lasting s s' → K s → K s') {s : World} (hs : K s) :
    catalogue.Safe i
      (Returns fun p s => K s ∧ Table.Labelled s.products (·.tenantId) p.id tenantId)
      (getActiveProductOrThrow productId tenantId) s := by
  refine safe_read fun w hl _ => ?_
  cases hfound : (w.products.get productId).filter (·.tenantId = tenantId) with
  | none => exact safe_throw _
  | some p =>
      obtain ⟨hget, htenant⟩ := Option.filter_eq_some_iff.mp hfound
      have hp : Table.Labelled w.products (·.tenantId) p.id tenantId :=
        ⟨p, (Table.get_eq_some.mp hget).1, rfl, of_decide_eq_true htenant⟩
      simp only [onResult]
      split
      · exact safe_pure fun w' hl' => ⟨hK w w' hl' (hK s w hl hs), hp.later hl'.products⟩
      · exact safe_throw _

theorem safe_findActiveVariant {product : Product} {variantId : Nat}
    (hK : ∀ s s', Lasting s s' → K s → K s') {s : World} (hs : K s) :
    catalogue.Safe i
      (Returns fun v s => K s ∧ Table.Labelled s.productVariants (·.tenantId) v.id tenantId)
      (findActiveVariant product variantId tenantId) s := by
  refine safe_read fun w hl _ => ?_
  cases hfound : (w.productVariants.get variantId).filter fun v =>
      v.productId = product.id && v.tenantId = tenantId with
  | none => exact safe_throw _
  | some v =>
      obtain ⟨hget, hmatch⟩ := Option.filter_eq_some_iff.mp hfound
      simp only [Bool.and_eq_true, decide_eq_true_eq] at hmatch
      have hv : Table.Labelled w.productVariants (·.tenantId) v.id tenantId :=
        ⟨v, (Table.get_eq_some.mp hget).1, rfl, hmatch.2⟩
      simp only [onResult]
      split
      · exact safe_pure fun w' hl' => ⟨hK w w' hl' (hK s w hl hs), hv.later hl'.productVariants⟩
      · exact safe_throw _

theorem safe_getActiveVariantOrThrow {product : Product} {variantId : Option Nat}
    (hK : ∀ s s', Lasting s s' → K s → K s') {s : World} (hi : TenantsMatch s) (hs : K s) :
    catalogue.Safe i
      (Returns fun found s => K s ∧
        ∀ v ∈ found, Table.Labelled s.productVariants (·.tenantId) v.id tenantId)
      (getActiveVariantOrThrow product variantId tenantId) s := by
  cases variantId with
  | none =>
      refine safe_pure fun w hl => ⟨hK s w hl hs, fun v hv => ?_⟩
      exact (Option.not_mem_none v hv).elim
  | some variantId =>
      refine (safe_findActiveVariant hK hs).bind_returns hi fun w v _ hv => ?_
      refine safe_pure fun w' hl => ⟨hK w w' hl hv.1, fun v' hv' => ?_⟩
      cases hv'
      exact hv.2.later hl.productVariants

/-- What has been found for an item is still there when the item is written. -/
theorem safe_addToCart {userId : Nat} {cart : Cart} {dto : AddCartItemDto} {s : World}
    (hi : TenantsMatch s) (hcart : Table.Labelled s.carts (·.tenantId) cart.id cart.tenantId) :
    catalogue.Safe i (Returns fun _ _ => True) (addToCart userId cart dto) s := by
  refine (safe_getActiveProductOrThrow
    (K := fun w => Table.Labelled w.carts (·.tenantId) cart.id cart.tenantId)
    (fun _ _ hl h => h.later hl.carts) hcart).bind_returns hi fun s product hi hp => ?_
  refine (safe_getActiveVariantOrThrow
    (K := fun w => Table.Labelled w.carts (·.tenantId) cart.id cart.tenantId ∧
      Table.Labelled w.products (·.tenantId) product.id cart.tenantId)
    (fun _ _ hl h => ⟨h.1.later hl.carts, h.2.later hl.products⟩) hi hp).bind_returns hi
    fun s variant hi hv => ?_
  have hfound : Found cart product variant s := ⟨hv.1.1, hv.1.2, hv.2⟩
  refine (safe_check (readOnly_assertQuantityInBounds _ _) (fun _ _ hl h => Found.later h hl)
    hfound).bind_returns hi fun s _ hi hfound => ?_
  refine (safe_check (readOnly_validateCustomizationsForWrite _ _ _ _)
    (fun _ _ hl h => Found.later h hl) hfound).bind_returns hi fun s _ hi hfound => ?_
  apply safe_last
  intro w item w' hl hi _ hs
  exact ⟨createItem_kept hi (hfound.later hl) hs, fun _ _ => trivial⟩

theorem safe_addItem {userId : Nat} {dto : AddCartItemDto} {options : AddCartItemOptions}
    {s : World} (hi : TenantsMatch s) :
    catalogue.Safe i (Returns fun _ _ => True) (addItem userId tenantId dto options) s := by
  refine Safe.bind_returns
    (P := fun cart w => Table.Labelled w.carts (·.tenantId) cart.id cart.tenantId) ?_ hi
    fun s cart hi hcart => ?_
  · apply safe_last
    intro w cart w' _ hi _ hs
    obtain ⟨hkept, hcart⟩ := upsertCart_kept hi hs
    exact ⟨hkept, fun w'' hl => hcart.later hl.carts⟩
  · split
    · exact safe_throw _
    · exact safe_addToCart hi hcart

/-- The file that was read still has its object and its tenant when the image is written. -/
theorem safe_addImage {productId : Nat} {dto : CreateProductImageDto} {s : World} :
    catalogue.Safe i (Returns fun _ _ => True) (addImage tenantId productId dto) s := by
  refine safe_read fun w hl _ => ?_
  cases hfound : w.uploadedFiles.get dto.uploadedFileId with
  | none => exact safe_throw _
  | some file =>
      apply safe_last
      intro w' image w'' hl' hi hown hs
      obtain ⟨f, hget, hsame⟩ := hl'.uploadedFiles.get hfound
      obtain ⟨hobject, -⟩ := Prod.mk.inj hsame
      refine ⟨createImage_kept hi ⟨f, (Table.get_eq_some.mp hget).1, hobject, ?_⟩ hs,
        fun _ _ => trivial⟩
      exact hown f hget

theorem safe_uploadFile {userId : Nat} {file : MulterFile} {result : UploadApiResponse}
    {within : Bool} {s : World} (hi : TenantsMatch s) :
    catalogue.Safe i (Returns fun _ _ => True)
      (uploadFile userId tenantId file result within) s := by
  have hread : ReadOnly (acceptedMime file) := by
    unfold acceptedMime
    split
    · exact within_throw _
    · split
      · exact within_throw _
      · exact within_pure _
  refine (safe_check (K := fun _ => True) hread (fun _ _ _ h => h) trivial).bind_returns hi
    fun s mime hi _ => ?_
  refine safe_read fun w _ _ => ?_
  apply safe_last
  intro w f w' _ hi _ hs
  exact ⟨recordUpload_kept hi hs, fun _ _ => trivial⟩

theorem safe_discard {p : Service α} {s : World} (hi : TenantsMatch s)
    (h : catalogue.Safe i (Returns fun _ _ => True) p s) :
    catalogue.Safe i (Returns fun _ _ => True) (p >>= fun _ => pure ()) s :=
  h.bind_returns hi fun _ _ _ _ => safe_pure fun _ _ => trivial

theorem safe_handle (req : Request) {s : World} (hi : TenantsMatch s) :
    catalogue.Safe i (Returns fun _ _ => True) (handle req) s := by
  cases req with
  | createCategory => exact safe_inTransaction (fun _ _ _ => createCategory_kept) s hi
  | updateCategory => exact safe_inTransaction (fun _ _ _ => updateCategory_kept) s hi
  | setCategoryActive => exact safe_inTransaction (fun _ _ _ => setCategoryActive_kept) s hi
  | createProduct => exact safe_inTransaction (fun _ _ _ => createProduct_kept) s hi
  | updateProduct => exact safe_inTransaction (fun _ _ _ => updateProduct_kept) s hi
  | setProductActive => exact safe_inTransaction (fun _ _ _ => setProductActive_kept) s hi
  | createVariant => exact safe_inTransaction (fun _ _ _ => createVariant_kept) s hi
  | updateVariant => exact safe_inTransaction (fun _ _ _ => updateVariant_kept) s hi
  | createCustomizationField =>
      exact safe_inTransaction (fun _ _ _ => createCustomizationField_kept) s hi
  | updateCustomizationField =>
      exact safe_inTransaction (fun _ _ _ => updateCustomizationField_kept) s hi
  | addImage => exact safe_discard hi safe_addImage
  | removeImage => exact safe_inTransaction (fun _ _ _ => removeImage_kept) s hi
  | upload => exact safe_discard hi (safe_uploadFile hi)
  | addItem => exact safe_discard hi (safe_addItem hi)

end Safe

/-! ## What is served -/

/-- The link of the image leads to a file of the tenant, and to none of another tenant. -/
def ServesOwn (cloudinary : Cloudinary) (tenantId : Nat) (w : World)
    (image : ProductImageWithUrl) : Prop :=
  (∃ f ∈ w.uploadedFiles, f.tenantId = tenantId ∧ f.object = image.image.object ∧
    image.url = getSignedUrl cloudinary f) ∧
  ∀ f ∈ w.uploadedFiles, f.tenantId ≠ tenantId →
    f.object.cloudinaryPublicId ≠ image.image.object.cloudinaryPublicId

variable {cloudinary : Cloudinary}

theorem servesOwn_of_match (h : TenantsMatch w) {product : Product} (hp : product ∈ w.products) :
    ∀ image ∈ (withImageUrls cloudinary product w).images,
      ServesOwn cloudinary product.tenantId w image := by
  intro image himage
  obtain ⟨row, hrow, rfl⟩ := List.mem_map.mp himage
  have hrow : row ∈ w.productImages ∧ row.productId = product.id := by
    rw [List.mem_mergeSort, Table.findMany, List.mem_filter] at hrow
    exact ⟨hrow.1, of_decide_eq_true hrow.2⟩
  obtain ⟨hmem, hproduct⟩ := hrow
  have htenant : row.tenantId = product.tenantId := by
    obtain ⟨p, hpmem, hkey, hlabel⟩ := h.images row hmem row.productId rfl
    rw [Table.eq_of_key hpmem hp (hkey.trans hproduct)] at hlabel
    exact hlabel.symm
  obtain ⟨f, hf, hobject, howner⟩ := h.files row hmem
  refine ⟨⟨f, hf, howner.trans htenant, hobject, ?_⟩, fun g hg hother hclash => ?_⟩
  · rw [getSignedUrl, hobject]
    rfl
  · -- public ids are unique, so the other file would be the same one
    have hsame : g = f := Table.eq_of_clash hg hf
      (hclash.trans (congrArg StoredObject.cloudinaryPublicId hobject.symm))
    exact hother (by rw [hsame, howner, htenant])

theorem adminGetProduct_ok {id : Nat} {view : ProductWithRelations}
    (h : adminGetProduct cloudinary tenantId id w = .ok (view, w')) :
    ∃ product ∈ w.products, product.tenantId = tenantId ∧
      view = withImageUrls cloudinary product w := by
  obtain ⟨product, w₁, h₁, hread⟩ := Tx.bind_ok.mp h
  obtain ⟨hget, htenant, rfl⟩ := loadInTenant_ok h₁
  cases hread
  exact ⟨product, (Table.get_eq_some.mp hget).1, htenant, rfl⟩

theorem getProductBySlug_ok {slug : String} {view : ProductWithRelations}
    (h : getProductBySlug cloudinary slug tenantId w = .ok (view, w')) :
    ∃ product ∈ w.products, product.tenantId = tenantId ∧
      view = withImageUrls cloudinary product w := by
  rw [getProductBySlug, Tx.bind_read] at h
  cases hfound : w.products.findFirst
      fun p => p.slug = slug && p.isActive && p.tenantId = tenantId with
  | none =>
      rw [hfound] at h
      cases h
  | some product =>
      rw [hfound] at h
      cases h
      obtain ⟨hmem, hmatch⟩ := Table.findFirst_some hfound
      simp only [Bool.and_eq_true, decide_eq_true_eq] at hmatch
      exact ⟨product, hmem, hmatch.2, rfl⟩

/-- In every run that adds images only from files of the caller's tenant, no reference crosses
tenants, and no product view of a tenant links to another tenant's file. -/
theorem references_kept_apart {users : Table User} {c : CatalogueConfig}
    (hrun : Reaches OwnFile (.initial users) c) :
    TenantsMatch c.state ∧
    (∀ tenantId id view w', adminGetProduct cloudinary tenantId id c.state = .ok (view, w') →
      ∀ image ∈ view.images, ServesOwn cloudinary tenantId c.state image) ∧
    (∀ slug tenantId view w',
      getProductBySlug cloudinary slug tenantId c.state = .ok (view, w') →
      ∀ image ∈ view.images, ServesOwn cloudinary tenantId c.state image) := by
  have hidle : catalogue.Holds (fun _ _ => Discipline.Returns fun _ _ => True)
      (CatalogueConfig.initial users) := Discipline.holds_idle (tenantsMatch_initial users)
  have hmatch : TenantsMatch c.state :=
    (hidle.run (Nat.zero_le _) (fun _ req _ _ hi _ => safe_handle req hi) hrun).inv
  refine ⟨hmatch, ?_, ?_⟩
  · intro tenantId id view w' hview
    obtain ⟨product, hp, rfl, rfl⟩ := adminGetProduct_ok hview
    exact servesOwn_of_match hmatch hp
  · intro slug tenantId view w' hview
    obtain ⟨product, hp, rfl, rfl⟩ := getProductBySlug_ok hview
    exact servesOwn_of_match hmatch hp

/-! ## Two runs -/

/-- The links of the runs. -/
def plainLinks : Cloudinary :=
  ⟨fun publicId resourceType deliveryType signed =>
    publicId ++ "/" ++ resourceType ++ "/" ++ deliveryType ++ (if signed then "?s" else "")⟩

def customers : Table User := ⟨[⟨0, .customer⟩], 1, by decide, by decide⟩

def png : MulterFile := ⟨8, [0x89, 0x50, 0x4e, 0x47, 0x0d, 0x0a, 0x1a, 0x0a]⟩

/-- Tenant 0 lists a product and adds as its image a file that a customer has uploaded at the
tenant `owner`. -/
def addImageSchedule (owner : Nat) : List (Action Request) :=
  [.accept (.upload 0 owner png ⟨"logo", "image", some "png", none⟩ true), .advance 0, .advance 0,
    .accept (.createCategory 0 ⟨"Mugs", "mugs", none⟩), .advance 1,
    .accept (.createProduct 0 ⟨0, "Mug", "mug", 25000, 1, none⟩ true), .advance 2,
    .accept (.addImage 0 0 ⟨0, .undefined, .undefined⟩), .advance 3, .advance 3]

/-- The run of `addImageSchedule` with a file of the caller's own tenant. -/
theorem references_kept_apart_own_file :
    ∃ c, Reaches OwnFile (.initial customers) c ∧ c.state.productImages.rows ≠ [] ∧
      TenantsMatch c.state := by
  have hrun : (exec (fun _ => handle) (fun _ _ => True) OwnFile (addImageSchedule 0)
      (CatalogueConfig.initial customers)).any
        (fun c => decide (c.state.productImages.rows ≠ [])) = true := by decide +kernel
  obtain ⟨c, hreach, himages⟩ := exec_any hrun
  exact ⟨c, hreach, of_decide_eq_true himages,
    (@references_kept_apart plainLinks customers c hreach).1⟩

/-! ## A borrowed file -/

/-- An image made from a private file of another tenant. -/
def Borrowed (w : World) (row : ProductImage) (f : UploadedFile) : Prop :=
  f.object = row.object ∧ f.tenantId ≠ row.tenantId ∧ f.object.deliveryType = "authenticated" ∧
    (w.products.get row.productId).any (·.tenantId = row.tenantId)

instance (w : World) (row : ProductImage) (f : UploadedFile) : Decidable (Borrowed w row f) :=
  inferInstanceAs (Decidable (_ ∧ _ ∧ _ ∧ _))

theorem not_match_of_borrowed {row : ProductImage} {f : UploadedFile} (hr : row ∈ w.productImages)
    (hf : f ∈ w.uploadedFiles) (h : Borrowed w row f) : ¬ TenantsMatch w := by
  intro hmatch
  obtain ⟨g, hg, hobject, htenant⟩ := hmatch.files row hr
  have hsame : g = f := Table.eq_of_clash hg hf
    (congrArg StoredObject.cloudinaryPublicId (hobject.trans h.1.symm))
  exact h.2.1 (hsame ▸ htenant)

/-- The tenant that borrowed the file is served its link. -/
theorem served_of_borrowed {row : ProductImage} {f : UploadedFile} (hr : row ∈ w.productImages)
    (h : Borrowed w row f) :
    ∃ view, adminGetProduct cloudinary row.tenantId row.productId w = .ok (view, w) ∧
      ∃ image ∈ view.images, image.url = getSignedUrl cloudinary f := by
  obtain ⟨p, hget, hp⟩ := (Option.any_eq_true ..).mp h.2.2.2
  have htenant : p.tenantId = row.tenantId := of_decide_eq_true hp
  refine ⟨withImageUrls cloudinary p w, ?_, withImageUrl cloudinary row, ?_, ?_⟩
  · have hload : loadProduct row.tenantId row.productId w = .ok (p, w) := by
      rw [loadProduct, loadInTenant, Tx.bind_read, hget]
      simp only [assertObjectInTenant, htenant, ne_eq, not_true_eq_false, if_false]
      rfl
    rw [adminGetProduct, Tx.bind_apply, hload]
    rfl
  · refine List.mem_map.mpr ⟨row, ?_, rfl⟩
    rw [List.mem_mergeSort, Table.findMany, List.mem_filter]
    exact ⟨hr, decide_eq_true (Table.get_eq_some.mp hget).2.symm⟩
  · rw [getSignedUrl, h.1]
    rfl

/-- Tenant 0 adds as an image the private file that a customer has uploaded at tenant 1, and is
served its link. -/
theorem foreign_file_served :
    ∃ c, Reaches (fun _ _ => True) (.initial customers) c ∧ ¬ TenantsMatch c.state ∧
      ∃ view, adminGetProduct plainLinks 0 0 c.state = .ok (view, c.state) ∧
        ∃ image ∈ view.images, ∃ f ∈ c.state.uploadedFiles, f.tenantId = 1 ∧
          f.object.deliveryType = "authenticated" ∧ image.url = getSignedUrl plainLinks f := by
  have hrun : (exec (fun _ => handle) (fun _ _ => True) (fun _ _ => True) (addImageSchedule 1)
      (CatalogueConfig.initial customers)).any
        (fun c => decide (∃ row ∈ c.state.productImages.rows, ∃ f ∈ c.state.uploadedFiles.rows,
          row.tenantId = 0 ∧ row.productId = 0 ∧ f.tenantId = 1 ∧ Borrowed c.state row f)) =
      true := by decide +kernel
  obtain ⟨c, hreach, hborrowed⟩ := exec_any hrun
  obtain ⟨row, hr, f, hf, htenant, hproduct, howner, h⟩ := of_decide_eq_true hborrowed
  obtain ⟨view, hview, image, himage, hurl⟩ := @served_of_borrowed _ plainLinks _ _ hr h
  rw [htenant, hproduct] at hview
  exact ⟨c, hreach, not_match_of_borrowed hr hf h, view, hview, image, himage, f, hf, howner,
    h.2.2.1, hurl⟩

end PrintForge.Catalogue
