import PrintForge.Catalogue.Guarantees
import PrintForge.Trees.Forest

/-!
# The category tree

The storefront shows the active categories as a tree. Each is hung under its parent where that
is shown, too, and is a root otherwise. A parent may be changed to any category of the tenant,
the category itself and those below it included; from then on neither the category nor what
hangs on it is under a root, and the tree shows none of them.
-/

namespace PrintForge.Catalogue

open Relational Concurrent Proc Trees

/-- How names are ordered: by the database, and by `localeCompare`. -/
structure Collation where
  database : String → String → Bool
  localeCompare : String → String → Int

structure CategoryNode where
  id : Nat
  name : String
  slug : String
deriving DecidableEq, Repr

abbrev CategoryTreeNode := Rose CategoryNode

def CategoryNode.ofCategory (c : Category) : CategoryNode := ⟨c.id, c.name, c.slug⟩

/-! ## Building the tree -/

/-- The roots, and the children that have been pushed to each node. -/
structure LinkedCategories where
  roots : List Category
  children : Nat → List Category

/-- The id of the parent, where `map` has a node for it. -/
def mappedParent (map : Nat → Bool) (cat : Category) : Option Nat :=
  cat.parentCategoryId.filter map

/-- The body of the second pass. -/
def linkCategory (map : Nat → Bool) (linked : LinkedCategories) (cat : Category) :
    LinkedCategories :=
  match mappedParent map cat with
  | some parent =>
      { linked with
        children := Function.update linked.children parent (linked.children parent ++ [cat]) }
  | none => { linked with roots := linked.roots ++ [cat] }

def linkCategories (categories : List Category) : LinkedCategories :=
  categories.foldl (linkCategory fun id => categories.any (·.id = id)) ⟨[], fun _ => []⟩

/-- Every list of siblings is sorted, and then those below. The recursion has no result when it
goes deeper than `depth`. -/
def sortRecursive (collation : Collation) (children : Nat → List Category) (depth : Nat)
    (nodes : List Category) : Option (List CategoryTreeNode) :=
  grow .ofCategory (·.mergeSort fun a b => collation.localeCompare a.name b.name ≤ 0)
    (fun cat => children cat.id) depth nodes

/-- The active categories of a tenant, or of all. -/
def activeCategories (collation : Collation) (scope : Option Nat) (w : World) : List Category :=
  (w.categories.findMany fun c => c.isActive && scope.all (c.tenantId = ·)).mergeSort
    fun a b => collation.database a.name b.name

def getCategoryTree (collation : Collation) (scope : Option Nat) (w : World) :
    Option (List CategoryTreeNode) :=
  let categories := activeCategories collation scope w
  let linked := linkCategories categories
  sortRecursive collation linked.children (categories.length + 1) linked.roots

variable {collation : Collation} {scope : Option Nat} {w w' : World}

theorem mem_activeCategories {c : Category} :
    c ∈ activeCategories collation scope w ↔
      c ∈ w.categories ∧ c.isActive = true ∧ ∀ t ∈ scope, c.tenantId = t := by
  rw [activeCategories, List.mem_mergeSort, Table.findMany, List.mem_filter, Bool.and_eq_true,
    Option.all_eq_true]
  simp only [decide_eq_true_eq]
  exact Iff.rfl

/-! ## The links it is built from -/

/-- The second pass puts each category where its parent is, in the order of the query. -/
theorem foldl_linkCategory (map : Nat → Bool) (categories : List Category)
    (linked : LinkedCategories) :
    (categories.foldl (linkCategory map) linked).roots = linked.roots ++
      categories.filter (fun c => mappedParent map c = none) ∧
    ∀ id, (categories.foldl (linkCategory map) linked).children id = linked.children id ++
      categories.filter (fun c => mappedParent map c = some id) := by
  induction categories generalizing linked with
  | nil => simp
  | cons c categories ih =>
      rw [List.foldl_cons]
      obtain ⟨hroots, hchildren⟩ := ih (linkCategory map linked c)
      rw [hroots]
      simp only [hchildren]
      unfold linkCategory
      cases hp : mappedParent map c with
      | none => simp [hp]
      | some p =>
          refine ⟨by simp [hp], fun id => ?_⟩
          by_cases hid : id = p
          · subst hid
            simp [hp]
          · simp [hp, hid, Ne.symm hid]

section Links

variable {categories : List Category}

/-- The parent of a category, where that is shown. -/
def shownParent (categories : List Category) (c : Category) : Option Category :=
  c.parentCategoryId.bind fun id => categories.find? (·.id = id)

theorem shownParent_eq_some (hnodup : (categories.map (·.id)).Nodup) {c p : Category} :
    shownParent categories c = some p ↔ p ∈ categories ∧ c.parentCategoryId = some p.id := by
  unfold shownParent
  rw [Option.bind_eq_some_iff]
  constructor
  · rintro ⟨id, hid, hfind⟩
    have hp : p.id = id := by simpa using List.find?_some hfind
    exact ⟨List.mem_of_find?_eq_some hfind, hp ▸ hid⟩
  · rintro ⟨hp, hid⟩
    refine ⟨p.id, hid, ?_⟩
    cases hfind : categories.find? (·.id = p.id) with
    | none => simpa using List.find?_eq_none.mp hfind p hp
    | some q =>
        have hq : q.id = p.id := by simpa using List.find?_some hfind
        rw [List.inj_on_of_nodup_map hnodup (List.mem_of_find?_eq_some hfind) hp hq]

theorem mappedParent_eq (hnodup : (categories.map (·.id)).Nodup) (c : Category) :
    mappedParent (fun id => categories.any (·.id = id)) c =
      (shownParent categories c).map (·.id) := by
  ext id
  rw [mappedParent, Option.filter_eq_some_iff, Option.map_eq_some_iff]
  simp only [shownParent_eq_some hnodup, List.any_eq_true, decide_eq_true_eq]
  constructor
  · rintro ⟨hid, p, hp, rfl⟩
    exact ⟨p, ⟨hp, hid⟩, rfl⟩
  · rintro ⟨p, ⟨hp, hid⟩, rfl⟩
    exact ⟨hid, p, hp, rfl⟩

/-- The second pass has linked the categories as their parents have it. -/
theorem linkCategories_linked (hnodup : (categories.map (·.id)).Nodup) :
    (linkCategories categories).roots = roots categories (shownParent categories) ∧
      Linked categories (shownParent categories) fun c =>
        (linkCategories categories).children c.id := by
  obtain ⟨hroots, hchildren⟩ := foldl_linkCategory (fun id => categories.any (·.id = id))
    categories ⟨[], fun _ => []⟩
  refine ⟨?_, hnodup.of_map, fun c _ p hp => ((shownParent_eq_some hnodup).mp hp).1,
    fun x hx => ?_⟩
  · refine hroots.trans (List.filter_congr fun c _ => ?_)
    simp [mappedParent_eq hnodup]
  · refine (hchildren x.id).trans (List.filter_congr fun c _ => ?_)
    rw [decide_eq_decide, mappedParent_eq hnodup, Option.map_eq_some_iff]
    constructor
    · rintro ⟨p, hp, hid⟩
      rw [hp, List.inj_on_of_nodup_map hnodup ((shownParent_eq_some hnodup).mp hp).1 hx hid]
    · intro hp
      exact ⟨x, hp, rfl⟩

end Links

theorem activeCategories_nodup :
    ((activeCategories collation scope w).map (·.id)).Nodup := by
  refine (((List.mergeSort_perm _ _).map Category.id).nodup_iff).mpr ?_
  refine List.Nodup.sublist (List.filter_sublist.map _) ?_
  exact List.pairwise_map.mpr (w.categories.consistent.imp And.left)

/-! ## The whole tree -/

/-- Where a node of the tree comes from. -/
def Shows (collation : Collation) (scope : Option Nat) (w : World) (n : CategoryNode)
    (parentCategoryId : Option Nat) : Prop :=
  ∃ c ∈ activeCategories collation scope w, n = .ofCategory c ∧
    mappedParent (fun id => (activeCategories collation scope w).any (·.id = id)) c =
      parentCategoryId

/-- The tree is built and shows every active category exactly once, under its parent where that
is active, too, and as a root otherwise. -/
def TreeComplete (collation : Collation) (scope : Option Nat) (w : World) : Prop :=
  ∃ ts, getCategoryTree collation scope w = some ts ∧
    (forestValues ts).Perm ((activeCategories collation scope w).map .ofCategory) ∧
    (∀ t ∈ ts, Shows collation scope w t.value none) ∧
    ∀ e ∈ forestEdges ts, Shows collation scope w e.2 (some e.1.id)

/-- The tree is complete exactly if every active category is below a root. It is built in any
case. -/
theorem treeComplete_iff : TreeComplete collation scope w ↔
    ∀ c ∈ activeCategories collation scope w,
      Rooted (shownParent (activeCategories collation scope w)) c := by
  have hnodup : ((activeCategories collation scope w).map (·.id)).Nodup := activeCategories_nodup
  unfold TreeComplete Shows getCategoryTree sortRecursive
  generalize activeCategories collation scope w = categories at hnodup ⊢
  dsimp only
  obtain ⟨hroots, hlinked⟩ := linkCategories_linked hnodup
  have hsort : ∀ cats : List Category,
      (cats.mergeSort fun a b => collation.localeCompare a.name b.name ≤ 0).Perm cats :=
    fun cats => List.mergeSort_perm cats _
  rw [hroots]
  constructor
  · rintro ⟨ts, hts, hperm, -, -⟩ c hc
    have hmem : CategoryNode.ofCategory c ∈ forestValues ts :=
      hperm.mem_iff.mpr (List.mem_map_of_mem hc)
    rw [grow_values hsort hts] at hmem
    obtain ⟨x, hx, hnode⟩ := List.mem_map.mp hmem
    obtain ⟨hx, hrooted⟩ := hlinked.rooted_of_mem_visit hsort hx
    rw [← List.inj_on_of_nodup_map hnodup hx hc (congrArg CategoryNode.id hnode)]
    exact hrooted
  · intro hrooted
    obtain ⟨ts, hts⟩ := hlinked.exists_grow hsort CategoryNode.ofCategory
    refine ⟨ts, hts, ?_, fun t ht => ?_, fun e he => ?_⟩
    · rw [grow_values hsort hts]
      exact (hlinked.visit_perm hsort hrooted).map _
    · have hroot := (grow_roots hsort hts).mem_iff.mp (List.mem_map_of_mem ht)
      obtain ⟨c, hc, hnode⟩ := List.mem_map.mp hroot
      refine ⟨c, roots_subset hc, hnode.symm, ?_⟩
      have hnone : shownParent categories c = none := by simpa using List.of_mem_filter hc
      simp [mappedParent_eq hnodup, hnone]
    · obtain ⟨x, y, hx, hy, rfl⟩ := grow_edges hsort
        (fun x hx y hy => hlinked.children_subset hx hy) (fun x hx => roots_subset hx) hts e he
      have hy' := hy
      rw [hlinked.children x hx] at hy'
      have hparent : shownParent categories y = some x := by simpa using List.of_mem_filter hy'
      refine ⟨y, hlinked.children_subset hx hy, rfl, ?_⟩
      simp [mappedParent_eq hnodup, hparent, CategoryNode.ofCategory]

/-! ## Loops -/

/-- What a category that is active names as its parent. -/
def namedParent (w : World) (id : Nat) : Option Nat :=
  ((w.categories.get id).filter (·.isActive)).bind (·.parentCategoryId)

/-- A link both ends of which are active. -/
def activeParent (w : World) (id : Nat) : Option Nat :=
  (namedParent w id).filter fun p => (w.categories.get p).any (·.isActive)

/-- No active category is below itself. -/
def LoopFree (w : World) : Prop := ∀ id, Rooted (activeParent w) id

theorem namedParent_eq_some {id p : Nat} : namedParent w id = some p ↔
    ∃ c, w.categories.get id = some c ∧ c.isActive = true ∧ c.parentCategoryId = some p := by
  unfold namedParent
  rw [Option.bind_eq_some_iff]
  simp only [Option.filter_eq_some_iff, and_assoc]

theorem activeParent_eq_some {id p : Nat} : activeParent w id = some p ↔
    namedParent w id = some p ∧ ∃ c, w.categories.get p = some c ∧ c.isActive = true := by
  unfold activeParent
  rw [Option.filter_eq_some_iff, Option.any_eq_true]

/-- The links of a tree are among those of the table. -/
theorem rooted_shownParent {c : Category} (hc : c ∈ activeCategories collation scope w)
    (h : Rooted (activeParent w) c.id) :
    Rooted (shownParent (activeCategories collation scope w)) c := by
  refine Rooted.of_map (f := Category.id) (P := (· ∈ activeCategories collation scope w)) ?_ hc h
  intro x p hx hp
  obtain ⟨hmem, hid⟩ := (shownParent_eq_some activeCategories_nodup).mp hp
  obtain ⟨hxrow, hxactive, -⟩ := mem_activeCategories.mp hx
  obtain ⟨hprow, hpactive, -⟩ := mem_activeCategories.mp hmem
  refine ⟨hmem, activeParent_eq_some.mpr ⟨namedParent_eq_some.mpr ?_, ?_⟩⟩
  · exact ⟨x, Table.get_key hxrow, hxactive, hid⟩
  · exact ⟨p, Table.get_key hprow, hpactive⟩

theorem LoopFree.treeComplete (h : LoopFree w) : TreeComplete collation scope w :=
  treeComplete_iff.mpr fun c hc => rooted_shownParent hc (h c.id)

/-! ## Changes -/

inductive CategoryChange where
  | create (tenantId : Nat) (dto : CreateCategoryDto)
  | update (tenantId id : Nat) (dto : UpdateCategoryDto)
  | setActive (tenantId id : Nat) (isActive : Bool)
deriving DecidableEq, Repr

def CategoryChange.transaction : CategoryChange → Transaction Category
  | create tenantId dto => createCategory tenantId dto
  | update tenantId id dto => updateCategory tenantId id dto
  | setActive tenantId id isActive => setCategoryActive tenantId id isActive

def applyChanges (w : World) (changes : List CategoryChange) : World :=
  changes.foldl (fun w change => applied change.transaction w) w

/-- The change puts an active category under itself, or under one that is below it. -/
inductive ClosesLoop (w : World) : CategoryChange → Prop
  | update {tenantId id parent : Nat} {dto : UpdateCategoryDto} {c : Category}
      (hget : w.categories.get id = some c) (hactive : c.isActive = true)
      (htenant : c.tenantId = tenantId) (hname : dto.name ≠ .null) (hslug : dto.slug ≠ .null)
      (hparent : dto.parentCategoryId = .value parent)
      (hbelow : Ascends (namedParent w) id parent) : ClosesLoop w (.update tenantId id dto)
  | setActive {tenantId id parent : Nat} {c : Category}
      (hget : w.categories.get id = some c) (htenant : c.tenantId = tenantId)
      (hparent : c.parentCategoryId = some parent)
      (hbelow : Ascends (namedParent w) id parent) : ClosesLoop w (.setActive tenantId id true)

/-- No change of the sequence closes a loop in the state it comes to. -/
def NeverClosesLoop : World → List CategoryChange → Prop
  | _, [] => True
  | w, change :: changes =>
      ¬ ClosesLoop w change ∧ NeverClosesLoop (applied change.transaction w) changes

/-! ## One change -/

/-- One category is written, and put under nothing that is below it. -/
theorem LoopFree.written {c : Category} (h : LoopFree w)
    (hw : ∀ k, w'.categories.get k = if k = c.id then some c else w.categories.get k)
    (hloop : c.isActive = true → ∀ p, c.parentCategoryId = some p →
      ¬ Ascends (namedParent w) c.id p) : LoopFree w' := by
  have hnamed : ∀ x, x ≠ c.id → namedParent w' x = namedParent w x := by
    intro x hx
    rw [namedParent, namedParent, hw, if_neg hx]
  refine rooted_of_relinked (c := c.id) h (fun x hx => ?_) (fun p hp hascends => ?_)
  · unfold activeParent
    rw [hnamed x hx]
    cases namedParent w x with
    | none => exact .inl rfl
    | some p =>
        by_cases hp : p = c.id
        · subst hp
          by_cases hactive : c.isActive = true
          · exact .inr (.inr (by simp [hw, hactive]))
          · exact .inr (.inl (by simp [hw, hactive]))
        · exact .inl (by simp [Option.filter, hw, hp])
  · obtain ⟨c', hget, hactive, hparent⟩ := namedParent_eq_some.mp (activeParent_eq_some.mp hp).1
    rw [hw, if_pos rfl] at hget
    obtain rfl := Option.some.inj hget
    refine hloop hactive p hparent ?_
    clear hp hparent
    induction hascends with
    | refl => exact .refl
    | @step x q hq _ ih =>
        by_cases hx : x = c.id
        · exact hx ▸ .refl
        · exact .step ((hnamed x hx).symm.trans (activeParent_eq_some.mp hq).1) ih

/-- Where the links stay below roots, an active category does not lead to itself. -/
theorem LoopFree.not_ascends {c : Category} {id p : Nat} (h : LoopFree w)
    (hget : w.categories.get id = some c) (hactive : c.isActive = true)
    (hparent : c.parentCategoryId = some p) : ¬ Ascends (namedParent w) id p := by
  have hnamed : namedParent w id = some p := namedParent_eq_some.mpr ⟨c, hget, hactive, hparent⟩
  -- all that lead to an active category are active themselves
  have hactives : ∀ x, Ascends (namedParent w) id x → Ascends (activeParent w) id x ∧
      ∃ c, w.categories.get x = some c ∧ c.isActive = true := by
    intro x hl
    induction hl with
    | refl => exact ⟨.refl, c, hget, hactive⟩
    | @step x q hq _ ih =>
        obtain ⟨cx, hx, hxactive, -⟩ := namedParent_eq_some.mp hq
        exact ⟨.step (activeParent_eq_some.mpr ⟨hq, ih.2⟩) ih.1, cx, hx, hxactive⟩
  intro hl
  obtain ⟨hascends, hp⟩ := hactives p hl
  exact (h id).not_ascends (activeParent_eq_some.mpr ⟨hnamed, hp⟩) hascends

/-- Nothing leads to a category that is not there. -/
theorem TenantsMatch.eq_of_ascends (h : TenantsMatch w) {id x : Nat}
    (hid : w.categories.get id = none) (hl : Ascends (namedParent w) id x) : x = id := by
  induction hl with
  | refl => rfl
  | step hq _ ih =>
      obtain ⟨c, hget, -, hparent⟩ := namedParent_eq_some.mp hq
      subst ih
      obtain ⟨r, hr, hkey, -⟩ := h.parents c (Table.get_eq_some.mp hget).1 _ hparent
      exact absurd hkey (Table.get_eq_none.mp hid r hr)

theorem createCategory_loopFree {tenantId : Nat} {dto : CreateCategoryDto} {c : Category}
    (h : LoopFree w) (hmatch : TenantsMatch w)
    (hs : createCategory tenantId dto w = .ok (c, w')) : LoopFree w' := by
  obtain ⟨parent, w₁, h₁, hcreate⟩ := Tx.bind_ok.mp hs
  obtain ⟨hparent, rfl⟩ := loadCategories_ok h₁
  obtain ⟨t, ht, hc, rfl⟩ := Slot.create_ok (mapUniqueConstraintError_ok hcreate)
  have hid : c.id = w₁.categories.nextKey := congrArg Category.id hc
  refine h.written (c := c) (fun k => (Table.get_create ht k).trans ?_) fun _ p hp hascends => ?_
  · rw [hid]
    by_cases hk : k = w₁.categories.nextKey
    · subst hk
      exact (if_pos rfl).trans ((if_pos rfl).trans (congrArg some hc)).symm
    · exact (if_neg hk).trans (if_neg hk).symm
  · rw [hid] at hascends
    have hnew : w₁.categories.get w₁.categories.nextKey = none :=
      Table.get_eq_none_of_le (Nat.le_refl _)
    obtain rfl := hmatch.eq_of_ascends hnew hascends
    rw [hc] at hp
    obtain ⟨r, hr, hkey, -⟩ := hparent _ hp
    exact Table.get_eq_none.mp hnew r hr hkey

theorem updateCategory_loopFree {tenantId id : Nat} {dto : UpdateCategoryDto} {c : Category}
    (h : LoopFree w) (hloop : ¬ ClosesLoop w (.update tenantId id dto))
    (hs : updateCategory tenantId id dto w = .ok (c, w')) : LoopFree w' := by
  obtain ⟨existing, w₁, h₁, hparent⟩ := Tx.bind_ok.mp hs
  obtain ⟨hget, htenant, rfl⟩ := loadInTenant_ok h₁
  obtain ⟨parent, w₂, h₂, hname⟩ := Tx.bind_ok.mp hparent
  obtain ⟨-, rfl⟩ := loadCategories_ok h₂
  obtain ⟨name, hreqname, hslug⟩ := (silent_required _ _).bind_ok hname
  obtain ⟨slug, hreqslug, hwrite⟩ := (silent_required _ _).bind_ok hslug
  obtain ⟨r, t, hr, ht, rfl, rfl⟩ := Slot.update_ok (mapUniqueConstraintError_ok hwrite)
  obtain rfl : existing = r := Option.some.inj (hget.symm.trans hr)
  have hkey : existing.id = id := (Table.get_eq_some.mp hget).2
  subst hkey
  refine h.written (Table.get_update_key ht (fun x hx => by simpa using hx) hr
    (decide_eq_true rfl))
      fun hactive p hp => ?_
  cases hdto : dto.parentCategoryId with
  | undefined =>
      rw [hdto] at hp
      exact h.not_ascends hget hactive hp
  | null =>
      rw [hdto] at hp
      cases hp
  | value k =>
      rw [hdto] at hp
      cases hp
      refine fun hascends => hloop (.update hget hactive htenant (fun hnull => ?_)
        (fun hnull => ?_) hdto hascends)
      · rw [hnull] at hreqname
        cases hreqname
      · rw [hnull] at hreqslug
        cases hreqslug

theorem setCategoryActive_loopFree {tenantId id : Nat} {isActive : Bool} {c : Category}
    (h : LoopFree w) (hloop : ¬ ClosesLoop w (.setActive tenantId id isActive))
    (hs : setCategoryActive tenantId id isActive w = .ok (c, w')) : LoopFree w' := by
  obtain ⟨existing, w₁, h₁, hwrite⟩ := Tx.bind_ok.mp hs
  obtain ⟨hget, htenant, rfl⟩ := loadInTenant_ok h₁
  obtain ⟨r, t, hr, ht, rfl, rfl⟩ := Slot.update_ok hwrite
  obtain rfl : existing = r := Option.some.inj (hget.symm.trans hr)
  have hkey : existing.id = id := (Table.get_eq_some.mp hget).2
  subst hkey
  refine h.written (Table.get_update_key ht (fun x hx => by simpa using hx) hr
    (decide_eq_true rfl))
    fun hactive p hp hascends => hloop ?_
  have hactive : isActive = true := hactive
  subst hactive
  exact .setActive hget htenant hp hascends

/-! ## Every sequence of changes -/

/-- A change that closes no loop keeps the links below their roots. -/
theorem CategoryChange.loopFree (change : CategoryChange) (h : LoopFree w)
    (hmatch : TenantsMatch w) (hloop : ¬ ClosesLoop w change) :
    LoopFree (applied change.transaction w) ∧ TenantsMatch (applied change.transaction w) := by
  cases htx : change.transaction w with
  | error e =>
      rw [applied_error htx]
      exact ⟨h, hmatch⟩
  | ok result =>
      obtain ⟨c, w'⟩ := result
      rw [applied_ok htx]
      cases change with
      | create tenantId dto =>
          exact ⟨createCategory_loopFree h hmatch htx, (createCategory_kept hmatch htx).2⟩
      | update tenantId id dto =>
          exact ⟨updateCategory_loopFree h hloop htx, (updateCategory_kept hmatch htx).2⟩
      | setActive tenantId id isActive =>
          exact ⟨setCategoryActive_loopFree h hloop htx, (setCategoryActive_kept hmatch htx).2⟩

theorem loopFree_applyChanges {changes : List CategoryChange} (h : LoopFree w)
    (hmatch : TenantsMatch w) (hloop : NeverClosesLoop w changes) :
    LoopFree (applyChanges w changes) := by
  induction changes generalizing w with
  | nil => exact h
  | cons change changes ih =>
      obtain ⟨hfree, hmatch⟩ := change.loopFree h hmatch hloop.1
      exact ih hfree hmatch hloop.2

theorem loopFree_initial (users : Table User) : LoopFree (World.initial users) :=
  fun _ => rooted_root rfl

/-- After any sequence of changes none of which closes a loop, the tree of every tenant shows
every active category exactly once, under its own parent. -/
theorem category_tree_complete (collation : Collation) (scope : Option Nat) (users : Table User)
    (changes : List CategoryChange) (h : NeverClosesLoop (World.initial users) changes) :
    TreeComplete collation scope (applyChanges (World.initial users) changes) :=
  (loopFree_applyChanges (loopFree_initial users) (tenantsMatch_initial users) h).treeComplete

/-- Three categories are created, the third is moved under the second, and the first is hidden
and shown again. -/
theorem category_tree_complete_moved : ∃ changes : List CategoryChange,
    (applyChanges (World.initial .empty) changes).categories.rows.map (·.parentCategoryId) =
      [none, some 0, some 1] ∧
    ∀ collation scope, TreeComplete collation scope
      (applyChanges (World.initial .empty) changes) := by
  refine ⟨[.create 0 ⟨"Home", "home", none⟩, .create 0 ⟨"Mugs", "mugs", some 0⟩,
    .create 0 ⟨"Large", "large", none⟩, .update 0 2 ⟨.undefined, .undefined, .value 1⟩,
    .setActive 0 0 false, .setActive 0 0 true], by decide,
    fun collation scope => category_tree_complete collation scope .empty _ ?_⟩
  refine ⟨nofun, nofun, nofun, ?_, nofun, ?_, trivial⟩
  · -- the way up from the second category ends at the first
    rintro (⟨-, -, -, -, -, hparent, hbelow⟩)
    cases hparent
    cases hbelow with
    | step h hbelow =>
        cases h
        cases hbelow with
        | step h _ => cases h
  · rintro (_ | ⟨hget, -, hparent, -⟩)
    cases hget
    cases hparent

/-- A category is moved under its only child: neither of the two is shown again. -/
theorem category_tree_loses_loop :
    ¬ ∀ (collation : Collation) (scope : Option Nat) (users : Table User)
      (changes : List CategoryChange),
        TreeComplete collation scope (applyChanges (World.initial users) changes) := by
  intro hall
  have h := hall ⟨fun _ _ => true, fun _ _ => 0⟩ none .empty [.create 0 ⟨"Home", "home", none⟩,
    .create 0 ⟨"Mugs", "mugs", some 0⟩, .update 0 0 ⟨.undefined, .undefined, .value 1⟩]
  rw [treeComplete_iff] at h
  generalize hw : applyChanges _ _ = w at h
  let home : Category := ⟨0, "Home", "home", some 1, true, 0, none⟩
  let mugs : Category := ⟨1, "Mugs", "mugs", some 0, true, 0, none⟩
  have hrows : w.categories.rows = [home, mugs] := by
    rw [← hw]
    decide
  have hmem : ∀ c ∈ [home, mugs], c ∈ activeCategories ⟨fun _ _ => true, fun _ _ => 0⟩ none w := by
    intro c hc
    rw [mem_activeCategories, ← Table.mem_rows, hrows]
    refine ⟨hc, ?_, nofun⟩
    revert c
    decide
  have hhome := hmem home (by decide)
  have hmugs := hmem mugs (by decide)
  refine (h home hhome).not_ascends (p := mugs) ?_ (.step (p := home) ?_ .refl)
  · exact (shownParent_eq_some activeCategories_nodup).mpr ⟨hmugs, rfl⟩
  · exact (shownParent_eq_some activeCategories_nodup).mpr ⟨hhome, rfl⟩

end PrintForge.Catalogue
