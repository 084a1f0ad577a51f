import PrintForge.Concurrent.Interference
import PrintForge.Catalogue.Guarantees

/-!
# What is stored was validated

`addItem` validates one value for each field of the product, the first that the request has for
it, and stores every value of the request. Where the request names no field twice the two are the
same values, whatever the other requests do between the validation and the write. A second value
for a field is stored as it came: its text, its file and its surcharge have been looked at by
nobody.
-/

namespace PrintForge.Catalogue

open Relational Concurrent Proc

variable {w w' : World} {userId tenantId : Nat}

/-! ## The rows that are written -/

/-- A row of the last action. -/
def Written (w w' : World) (row : CartItemCustomization) : Prop :=
  row ∈ w'.cartItemCustomizations ∧ row ∉ w.cartItemCustomizations

/-- A row that holds a value of the request. -/
structure Stores (item : CartItem) (c : CustomizationValueDto) (row : CartItemCustomization) :
    Prop where
  ofItem : row.cartItemId = item.id
  named : row.customizationFieldId = c.fieldId
  text : row.textValue = c.textValue
  file : row.uploadedFileId = c.uploadedFileId
  tenant : row.tenantId = item.tenantId

theorem createCustomizations_rows {item : CartItem} {cs : List CustomizationValueDto} {u : Unit}
    (hs : createCustomizations item cs w = .ok (u, w')) :
    ∃ rows, w'.cartItemCustomizations.rows = w.cartItemCustomizations.rows ++ rows ∧
      List.Forall₂ (Stores item) cs rows := by
  induction cs generalizing w with
  | nil =>
      cases hs
      exact ⟨[], (List.append_nil _).symm, .nil⟩
  | cons c cs ih =>
      obtain ⟨row, w₁, h₁, hrest⟩ := Tx.bind_ok.mp hs
      obtain ⟨t, ht, hrow, rfl⟩ := Slot.create_ok h₁
      obtain ⟨rows, hrows, hstores⟩ := ih hrest
      have hnew : (Db.cartItemCustomizations.set t w).cartItemCustomizations.rows =
          w.cartItemCustomizations.rows ++ [row] := by
        rw [hrow]
        exact Table.rows_create ht
      refine ⟨row :: rows, ?_, .cons ?_ hstores⟩
      · rw [hrows, hnew, List.append_assoc]
        rfl
      · rw [hrow]
        exact ⟨rfl, rfl, rfl, rfl, rfl⟩

theorem exists_stored {item : CartItem} {cs : List CustomizationValueDto}
    {rows : List CartItemCustomization} (h : List.Forall₂ (Stores item) cs rows)
    {row : CartItemCustomization} (hrow : row ∈ rows) : ∃ c ∈ cs, Stores item c row := by
  induction h with
  | nil => cases hrow
  | cons hstores _ ih =>
      obtain rfl | hrow := List.mem_cons.mp hrow
      · exact ⟨_, List.mem_cons_self .., hstores⟩
      · obtain ⟨c, hc, hstored⟩ := ih hrow
        exact ⟨c, List.mem_cons_of_mem _ hc, hstored⟩

/-- The item and a row for each value, in the order of the request. -/
theorem createItem_rows {cart : Cart} {product : Product} {variant : Option ProductVariant}
    {quantity : Nat} {cs : List CustomizationValueDto} {item : CartItem}
    (hs : createItem cart product variant quantity cs w = .ok (item, w')) :
    item.cartId = cart.id ∧ item.productId = product.id ∧ item.tenantId = cart.tenantId ∧
      ∃ rows : List CartItemCustomization, List.Forall₂ (Stores item) cs rows ∧ rows.Nodup ∧
        ∀ row, Written w w' row ↔ row ∈ rows := by
  obtain ⟨made, w₁, h₁, hcustomizations⟩ := Tx.bind_ok.mp hs
  obtain ⟨t, -, hmade, rfl⟩ := Slot.create_ok h₁
  obtain ⟨u, w₂, h₂, hdone⟩ := Tx.bind_ok.mp hcustomizations
  cases hdone
  obtain ⟨rows, hrows, hstores⟩ := createCustomizations_rows h₂
  have hall : (w.cartItemCustomizations.rows ++ rows).Nodup := by
    have hrows' : w'.cartItemCustomizations.rows = w.cartItemCustomizations.rows ++ rows := hrows
    rw [← hrows']
    exact w'.cartItemCustomizations.consistent.imp fun h heq => h.1 (congrArg Schema.key heq)
  rw [List.nodup_append] at hall
  refine ⟨by rw [hmade], by rw [hmade], by rw [hmade], rows, hstores, hall.2.1, fun row => ?_⟩
  rw [Written, ← Table.mem_rows, ← Table.mem_rows, hrows]
  constructor
  · rintro ⟨hmem, hold⟩
    exact (List.mem_append.mp hmem).resolve_left hold
  · exact fun hmem => ⟨List.mem_append_right _ hmem, fun hold => hall.2.2 row hold row hmem rfl⟩

/-! ## What validation has seen -/

/-- The value was found valid for the field in the state. -/
def Valid (field : CustomizationField) (submission : CustomizationSubmission)
    (userId tenantId : Nat) (s : World) : Prop :=
  ∃ surchargePaise, (validate field submission userId tenantId).alone s =
    (.ok (.ok surchargePaise), s)

theorem validate_against {field : CustomizationField} {submission : CustomizationSubmission}
    {s s' : World} {seen : List World} {surchargePaise : Int}
    (h : (validate field submission userId tenantId).against s seen =
      some (.ok (.ok surchargePaise), s')) :
    (∃ x ∈ seen, Valid field submission userId tenantId x) ∨
      ∀ x, Valid field submission userId tenantId x := by
  unfold Valid
  unfold validate at h ⊢
  cases hshape : validateCustomizationFieldShape field submission with
  | error e =>
      rw [hshape] at h
      cases (against_done h).2.1
  | ok surcharge =>
      rw [hshape] at h
      cases hfile : submission.uploadedFileId with
      | none => exact .inr fun x => ⟨surcharge, rfl⟩
      | some uploadedFileId =>
          rw [hfile] at h
          dsimp only at h ⊢
          split at h
          · next hfiles =>
            obtain ⟨before, after, file, s₁, rfl, hread, hrest⟩ := against_bind_ok h
            obtain ⟨rfl, hfound⟩ := against_read hread
            refine .inl ⟨s₁, List.mem_append_left _ (List.mem_singleton_self _), surchargePaise, ?_⟩
            have hread : (findByIdInTenant uploadedFileId tenantId).alone s₁ = (.ok file, s₁) := by
              rw [hfound]
              rfl
            rw [if_pos hfiles, alone_bind hread]
            cases file with
            | none => cases (against_done hrest).2.1
            | some file =>
                rw [(against_done hrest).2.1]
                rfl
          · next hfiles => exact .inr fun x => ⟨surcharge, by rw [if_neg hfiles]; rfl⟩

/-- Every field has its value accepted in a state that the validation has seen, if any state can
refuse it. -/
theorem validateFields_against {submissions : List CustomizationValueDto}
    {fields : List CustomizationField} {s s' : World} {seen : List World} {u : Unit}
    (h : (validateFields submissions userId tenantId fields).against s seen =
      some (.ok u, s')) :
    ∀ field ∈ fields,
      (∃ x ∈ seen, Valid field (submissionFor submissions field.id) userId tenantId x) ∨
        ∀ x, Valid field (submissionFor submissions field.id) userId tenantId x := by
  induction fields generalizing s seen with
  | nil => exact fun field hfield => by cases hfield
  | cons first fields ih =>
      obtain ⟨before, after, result, s₁, rfl, hvalidate, hrest⟩ := against_bind_ok h
      cases result with
      | error e => cases (against_done hrest).2.1
      | ok surchargePaise =>
          intro field hfield
          obtain rfl | hfield := List.mem_cons.mp hfield
          · exact (validate_against hvalidate).imp_left fun ⟨x, hx, hvalid⟩ =>
              ⟨x, List.mem_append_left _ hx, hvalid⟩
          · exact (ih hrest field hfield).imp_left fun ⟨x, hx, hvalid⟩ =>
              ⟨x, List.mem_append_right _ hx, hvalid⟩

/-- The value of the request was found valid for a field of the product, as it was read. -/
def Validated (productId userId tenantId : Nat) (seen : List World) (fieldId : Nat)
    (submission : CustomizationSubmission) : Prop :=
  ∃ x ∈ seen, ∃ field ∈ x.customizationFields, field.id = fieldId ∧ field.productId = productId ∧
    field.tenantId = tenantId ∧ ∃ y ∈ seen, Valid field submission userId tenantId y

theorem validateCustomizationsForWrite_against {productId : Nat}
    {submissions : List CustomizationValueDto} {s s' : World} {seen : List World} {u : Unit}
    (h : (validateCustomizationsForWrite productId submissions userId tenantId).against s seen =
      some (.ok u, s')) :
    ∀ c ∈ submissions, Validated productId userId tenantId seen c.fieldId
      (submissionFor submissions c.fieldId) := by
  obtain ⟨before, rest, fields, s₁, rfl, hread, hchecks⟩ := against_bind_ok h
  obtain ⟨rfl, hfields⟩ := against_read hread
  obtain ⟨known, after, u', s₂, rfl, hknown, hvalidate⟩ := against_bind_ok hchecks
  intro c hc
  obtain ⟨field, hfield, hid⟩ : ∃ field ∈ fields, field.id = c.fieldId := by
    unfold assertFieldsKnown at hknown
    split at hknown
    · cases (against_done hknown).2.1
    · next hnone =>
      have hknown := List.find?_eq_none.mp hnone c hc
      simpa using hknown
  have hmem := hfields ▸ hfield
  rw [Table.findMany, List.mem_filter, Bool.and_eq_true, decide_eq_true_eq, decide_eq_true_eq]
    at hmem
  have hs₁ : s₁ ∈ [s₁] ++ (known ++ after) := List.mem_append_left _ (List.mem_singleton_self _)
  refine ⟨s₁, hs₁, field, hmem.1, hid, hmem.2.1, hmem.2.2, ?_⟩
  rw [← hid]
  obtain ⟨x, hx, hvalid⟩ | hvalid := validateFields_against hvalidate field hfield
  · exact ⟨x, List.mem_append_right _ (List.mem_append_right _ hx), hvalid⟩
  · exact ⟨s₁, hs₁, hvalid s₁⟩

theorem Validated.mono {productId fieldId : Nat} {submission : CustomizationSubmission}
    {seen seen' : List World} (h : Validated productId userId tenantId seen fieldId submission)
    (hseen : ∀ x ∈ seen, x ∈ seen') :
    Validated productId userId tenantId seen' fieldId submission := by
  obtain ⟨x, hx, field, hfield, hid, hproduct, htenant, y, hy, hvalid⟩ := h
  exact ⟨x, hseen x hx, field, hfield, hid, hproduct, htenant, y, hseen y hy, hvalid⟩

/-! ## The whole request -/

theorem upsertCart_owner {cart : Cart}
    (hs : upsertCart Db.carts userId tenantId w = .ok (cart, w')) : cart.userId = userId := by
  rw [upsertCart, Tx.bind_read] at hs
  cases hfound : (Db.carts.get w).findFirst (·.userId = userId) with
  | some found =>
      rw [hfound] at hs
      cases hs
      exact of_decide_eq_true (Table.findFirst_some hfound).2
  | none =>
      rw [hfound] at hs
      obtain ⟨t, -, rfl, -⟩ := Slot.create_ok hs
      rfl

/-- The last action of a successful request writes what was validated before. -/
theorem addItem_against {dto : AddCartItemDto} {options : AddCartItemOptions} {item : CartItem}
    {s w' : World} {seen : List World}
    (h : (addItem userId tenantId dto options).against s seen = some (.ok item, w')) :
    ∃ (cart : Cart) (product : Product) (variant : Option ProductVariant) (before : List World)
      (x : World), cart.userId = userId ∧ seen = before ++ [x] ∧
        (∀ c ∈ dto.customizations, Validated product.id userId cart.tenantId seen c.fieldId
          (submissionFor dto.customizations c.fieldId)) ∧
        createItem cart product variant dto.quantity dto.customizations x = .ok (item, w') := by
  obtain ⟨first, rest₁, cart, s₁, rfl, hcart, h₁⟩ := against_bind_ok h
  obtain ⟨x₀, rfl, hupsert⟩ := against_transact hcart
  split at h₁
  · cases (against_done h₁).2.1
  · obtain ⟨b₂, rest₂, product, s₂, rfl, -, h₂⟩ := against_bind_ok h₁
    obtain ⟨b₃, rest₃, variant, s₃, rfl, -, h₃⟩ := against_bind_ok h₂
    obtain ⟨b₄, rest₄, u, s₄, rfl, -, h₄⟩ := against_bind_ok h₃
    obtain ⟨b₅, last, u', s₅, rfl, hvalidated, h₅⟩ := against_bind_ok h₄
    obtain ⟨x, rfl, hcreate⟩ := against_transact h₅
    refine ⟨cart, product, variant, [x₀] ++ (b₂ ++ (b₃ ++ (b₄ ++ b₅))), x,
      upsertCart_owner hupsert, by simp, fun c hc => ?_, hcreate⟩
    refine (validateCustomizationsForWrite_against hvalidated c hc).mono fun y hy => ?_
    simp [hy]

/-- Every row that the request has written holds a value that the request has found valid, for the
user and in the tenant of the cart, and the sum of the surcharges has one row at most for each
field. -/
def RowsValidated (userId : Nat) (item : CartItem) (seen : List World) (w w' : World) : Prop :=
  (∃ cart : Cart, cart.userId = userId ∧ item.cartId = cart.id ∧
    ∀ row, Written w w' row → row.cartItemId = item.id ∧ row.tenantId = cart.tenantId ∧
      Validated item.productId userId cart.tenantId seen row.customizationFieldId
        ⟨row.textValue, row.uploadedFileId⟩) ∧
  ∀ row row', Written w w' row → Written w w' row' →
    row.customizationFieldId = row'.customizationFieldId → row = row'

/-- The value that is validated for a field is the only one that names it. -/
theorem submissionFor_eq {cs : List CustomizationValueDto} {c : CustomizationValueDto}
    (hcs : (cs.map (·.fieldId)).Nodup) (hc : c ∈ cs) :
    submissionFor cs c.fieldId = ⟨c.textValue, c.uploadedFileId⟩ := by
  have hfind : cs.find? (·.fieldId = c.fieldId) = some c := by
    cases hfound : cs.find? (·.fieldId = c.fieldId) with
    | none => simpa using List.find?_eq_none.mp hfound c hc
    | some d =>
        have hsame : d.fieldId = c.fieldId := by simpa using List.find?_some hfound
        rw [List.inj_on_of_nodup_map hcs (List.mem_of_find?_eq_some hfound) hc hsame]
  simp only [submissionFor, hfind, Option.bind_some]

/-- What a successful request stores was validated exactly if the request names no field twice,
whatever happens around its actions. -/
theorem stored_customizations_validated_iff {dto : AddCartItemDto} {options : AddCartItemOptions}
    {item : CartItem} {s w w' : World} {seen : List World}
    (h : (addItem userId tenantId dto options).against s seen = some (.ok item, w'))
    (hlast : seen.getLast? = some w) :
    RowsValidated userId item seen w w' ↔ (dto.customizations.map (·.fieldId)).Nodup := by
  obtain ⟨cart, product, variant, before, x, howner, hseen, hvalidated, hcreate⟩ :=
    addItem_against h
  obtain rfl : x = w := by
    rw [hseen, List.getLast?_append, List.getLast?_singleton] at hlast
    exact Option.some.inj hlast
  obtain ⟨hcart, hproduct, htenant, rows, hstores, hrows, hwritten⟩ := createItem_rows hcreate
  have hfields : dto.customizations.map (·.fieldId) = rows.map (·.customizationFieldId) := by
    rw [← List.forall₂_eq_eq_eq, List.forall₂_map_left_iff, List.forall₂_map_right_iff]
    exact hstores.imp fun c row hc => hc.named.symm
  constructor
  · rintro ⟨-, honce⟩
    rw [hfields]
    exact hrows.map_on fun row hrow row' hrow' hsame =>
      honce row row' ((hwritten row).mpr hrow) ((hwritten row').mpr hrow') hsame
  · intro hnodup
    refine ⟨⟨cart, howner, hcart, fun row hrow => ?_⟩, fun row row' hrow hrow' hsame => ?_⟩
    · obtain ⟨c, hc, hstored⟩ := exists_stored hstores ((hwritten row).mp hrow)
      have hvalid := hvalidated c hc
      rw [submissionFor_eq hnodup hc] at hvalid
      rw [hstored.text, hstored.file, hstored.named, hproduct]
      exact ⟨hstored.ofItem, hstored.tenant.trans htenant, hvalid⟩
    · rw [hfields] at hnodup
      exact List.inj_on_of_nodup_map hnodup ((hwritten row).mp hrow) ((hwritten row').mp hrow')
        hsame

/-- A mug with a logo, the cart of the first customer, and a file of each of two customers. -/
def mugShop : World where
  users := ⟨[⟨0, .customer⟩, ⟨1, .customer⟩], 2, by decide, by decide⟩
  categories := .empty
  products := ⟨[{
    id := 0, categoryId := 0, name := "Mug", slug := "mug", basePrice := ⟨19950, by decide⟩
    minQuantity := 1, maxQuantity := none, isActive := true, tenantId := 0
    storeId := none }], 1, by decide, by decide⟩
  productVariants := .empty
  customizationFields := ⟨[{
    id := 0, productId := 0, label := "Logo", type := .logoUpload, isRequired := true
    sortOrder := 0, helpText := none, constraints := none, surchargeType := .flat
    surchargeAmount := ⟨5000, by decide⟩, tenantId := 0 }], 1, by decide, by decide⟩
  productImages := .empty
  uploadedFiles := ⟨[⟨0, ⟨"mine", "image", "authenticated"⟩, 0, "png", 100, 0⟩,
    ⟨1, ⟨"theirs", "image", "authenticated"⟩, 1, "png", 100, 0⟩], 2, by decide, by decide⟩
  carts := ⟨[⟨0, 0, 0⟩], 1, by decide, by decide⟩
  cartItems := .empty
  cartItemCustomizations := .empty

/-- A mug with these values. -/
def orderMug (customizations : List CustomizationValueDto) : AddCartItemDto :=
  ⟨0, none, 1, customizations⟩

/-- One value for the one field. -/
theorem stored_customizations_validated_single : ∃ (item : CartItem) (w' : World),
    (addItem 0 0 (orderMug [⟨0, none, some 0⟩]) {}).against mugShop (List.replicate 5 mugShop) =
      some (.ok item, w') ∧
    RowsValidated 0 item (List.replicate 5 mugShop) mugShop w' := by
  have hrun : ((addItem 0 0 (orderMug [⟨0, none, some 0⟩]) {}).against mugShop
      (List.replicate 5 mugShop)).any (fun out => out.1.toOption.isSome) = true := by
    decide +kernel
  obtain ⟨⟨r, w'⟩, hagainst, hok⟩ := (Option.any_eq_true ..).mp hrun
  cases r with
  | error e => cases hok
  | ok item =>
      exact ⟨item, w', hagainst,
        (stored_customizations_validated_iff hagainst rfl).mpr (by decide)⟩

/-- The second value for the field is another customer's file. -/
theorem second_value_unchecked :
    ¬ ∀ (userId tenantId : Nat) (dto : AddCartItemDto) (options : AddCartItemOptions)
      (item : CartItem) (s w w' : World) (seen : List World),
      (addItem userId tenantId dto options).against s seen = some (.ok item, w') →
      seen.getLast? = some w → RowsValidated userId item seen w w' := by
  intro hall
  have hrun : ((addItem 0 0 (orderMug [⟨0, none, some 0⟩, ⟨0, none, some 1⟩]) {}).against mugShop
      (List.replicate 5 mugShop)).any (fun out => out.1.toOption.isSome &&
        out.2.cartItemCustomizations.rows.any fun row => decide (row.tenantId = 0 ∧
          row.textValue = none ∧ row.uploadedFileId = some 1)) = true := by decide +kernel
  obtain ⟨⟨r, w'⟩, hagainst, h⟩ := (Option.any_eq_true ..).mp hrun
  obtain ⟨hok, hrows⟩ := Bool.and_eq_true_iff.mp h
  obtain ⟨row, hmem, hstored⟩ := List.any_eq_true.mp hrows
  obtain ⟨hzero, htext, hfile⟩ := of_decide_eq_true hstored
  have hrefused : ∀ field ∈ mugShop.customizationFields,
      ((validate field ⟨none, some 1⟩ 0 0).alone mugShop).1 =
        .ok (.error "You do not own this uploaded file") := by
    intro field hfield
    obtain rfl := List.mem_singleton.mp hfield
    decide +kernel
  cases r with
  | error e => cases hok
  | ok item =>
      obtain ⟨⟨cart, -, -, hvalidated⟩, -⟩ := hall 0 0 _ {} item mugShop mugShop w' _ hagainst rfl
      obtain ⟨-, htenant, x, hx, field, hfield, -, -, -, y, hy, surchargePaise, hvalid⟩ :=
        hvalidated row ⟨hmem, List.not_mem_nil⟩
      rw [List.eq_of_mem_replicate hx] at hfield
      rw [List.eq_of_mem_replicate hy, htext, hfile, ← htenant, hzero] at hvalid
      have hclash := (hrefused field hfield).symm.trans (congrArg Prod.fst hvalid)
      cases hclash

end PrintForge.Catalogue
