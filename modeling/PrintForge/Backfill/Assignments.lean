import PrintForge.Backfill.Ownership

/-!
# Assignments

What the updates of the backfill have in common: each fills one column of one table where that is
empty, and takes what it writes from the operator, from another row's owner or from the customers.
It finds nothing more to do once it has run, and neither does it after another update, unless that
one gives owners to the rows that it takes them from.
-/

namespace PrintForge.Backfill

/-- The tenant that a row belongs to, and its store. -/
def Row.owner (row : Row) : Option (Nat × Option Nat) := row.tenantId.map (·, row.storeId)

/-- Where owners are taken from: from the operator, or from the row that a link leads to, it may be
of rows of one kind only. -/
inductive OwnerSource where
  | target (tenantId storeId : Nat)
  | parent (link : Link) (table : TableName) (kind : Option String)
deriving DecidableEq

def OwnerSource.owner : OwnerSource → Database → Row → Option (Nat × Option Nat)
  | target tenantId storeId, _, _ => some (tenantId, some storeId)
  | parent link table kind, d, row =>
      if kind.all (row.texts .aggregateType = ·) then (d.linked row link table).bind Row.owner
      else none

inductive Assignment where
  | owner (table : TableName) (source : OwnerSource) (withStore : Bool)
  | customer (table : TableName) (user : Link) (column : CustomerColumn) (storeId : Nat)
deriving DecidableEq

namespace Assignment

def table : Assignment → TableName
  | owner table _ _ => table
  | customer table _ _ _ => table

/-- What becomes of a row. -/
def set : Assignment → Database → Row → Option Row
  | owner _ source withStore, d, row =>
      if row.tenantId = none then
        (source.owner d row).map fun o =>
          { row with tenantId := some o.1, storeId := if withStore then o.2 else row.storeId }
      else none
  | customer _ user column storeId, d, row =>
      if row.customerIds column = none then
        ((d.shopper row user).bind (d.customerOf storeId)).map fun c => row.setCustomer column c.id
      else none

def apply (a : Assignment) (d : Database) : Database :=
  { d with
    rows := Function.update d.rows a.table
      ((d.rows a.table).map fun row => (a.set d row).getD row) }

def affected (a : Assignment) (d : Database) : Nat :=
  (d.rows a.table).countP fun row => (a.set d row).isSome

/-- There is nothing to do. -/
def Idle (a : Assignment) (d : Database) : Prop := ∀ row ∈ d.rows a.table, a.set d row = none

/-- The table whose owners are read. -/
def reads : Assignment → Option TableName
  | owner _ (.parent _ table _) _ => some table
  | _ => none

/-- The table that gets owners. -/
def owns : Assignment → Option TableName
  | owner table _ _ => some table
  | customer .. => none

/-- The other assignment writes no owner that this one reads. -/
def Unaffected (a b : Assignment) : Prop := ∀ table, a.reads = some table → b.owns ≠ some table

/-! ## A row and its tables -/

/-- What becomes of a row of a table. -/
def rowAfter (a : Assignment) (d : Database) (table : TableName) (row : Row) : Row :=
  if table = a.table then (a.set d row).getD row else row

section

variable {a b : Assignment} {d : Database} {table : TableName} {row row' : Row}

theorem rows_apply (a : Assignment) (d : Database) (table : TableName) :
    (a.apply d).rows table = (d.rows table).map (a.rowAfter d table) := by
  by_cases h : table = a.table
  · subst h
    simp [apply, rowAfter]
  · have hrow : a.rowAfter d table = id := by
      funext row
      rw [rowAfter, if_neg h, id]
    rw [hrow, List.map_id]
    exact Function.update_of_ne h ..

/-- An update leaves a row alone, or writes an owner where there was no tenant, or a customer where
there was none. -/
theorem rowAfter_cases (a : Assignment) (d : Database) (table : TableName) (row : Row) :
    a.rowAfter d table row = row ∨
      (∃ source withStore o, a = owner table source withStore ∧ row.tenantId = none ∧
        source.owner d row = some o ∧ a.rowAfter d table row = { row with
          tenantId := some o.1, storeId := if withStore then o.2 else row.storeId }) ∨
      ∃ user column storeId u c, a = customer table user column storeId ∧
        row.customerIds column = none ∧ d.shopper row user = some u ∧
        d.customerOf storeId u = some c ∧ a.rowAfter d table row = row.setCustomer column c.id := by
  rw [rowAfter]
  split
  case isFalse => exact .inl rfl
  case isTrue h =>
    subst h
    cases a with
    | owner table source withStore =>
        rw [set]
        split
        case isFalse => exact .inl rfl
        case isTrue hnone =>
          cases ho : source.owner d row with
          | none => exact .inl rfl
          | some o => exact .inr (.inl ⟨source, withStore, o, rfl, hnone, ho, rfl⟩)
    | customer table user column storeId =>
        rw [set]
        split
        case isFalse => exact .inl rfl
        case isTrue hnone =>
          cases hc : (d.shopper row user).bind (d.customerOf storeId) with
          | none => exact .inl rfl
          | some c =>
              obtain ⟨u, hu, hc⟩ := Option.bind_eq_some_iff.mp hc
              exact .inr (.inr ⟨user, column, storeId, u, c, rfl, hnone, hu, hc, rfl⟩)

@[simp] theorem rowAfter_id : (a.rowAfter d table row).id = row.id := by
  obtain h | ⟨_, _, _, _, _, _, h⟩ | ⟨_, _, _, _, _, _, _, _, _, h⟩ := rowAfter_cases a d table row
  all_goals rw [h]
  rfl

@[simp] theorem rowAfter_links : (a.rowAfter d table row).links = row.links := by
  obtain h | ⟨_, _, _, _, _, _, h⟩ | ⟨_, _, _, _, _, _, _, _, _, h⟩ := rowAfter_cases a d table row
  all_goals rw [h]
  rfl

@[simp] theorem rowAfter_texts : (a.rowAfter d table row).texts = row.texts := by
  obtain h | ⟨_, _, _, _, _, _, h⟩ | ⟨_, _, _, _, _, _, _, _, _, h⟩ := rowAfter_cases a d table row
  all_goals rw [h]
  rfl

/-- A row that has a tenant keeps it, and its store. -/
theorem rowAfter_of_tenant (a : Assignment) (d : Database) (table : TableName)
    (h : row.tenantId ≠ none) :
    (a.rowAfter d table row).tenantId = row.tenantId ∧
      (a.rowAfter d table row).storeId = row.storeId := by
  obtain heq | ⟨_, _, _, _, hnone, _, _⟩ | ⟨_, _, _, _, _, _, _, _, _, heq⟩ :=
    rowAfter_cases a d table row
  · rw [heq]
    exact ⟨rfl, rfl⟩
  · exact absurd hnone h
  · rw [heq]
    exact ⟨rfl, rfl⟩

/-- Other assignments leave the owner alone. -/
theorem rowAfter_of_owns (d : Database) (row : Row) (h : a.owns ≠ some table) :
    (a.rowAfter d table row).tenantId = row.tenantId ∧
      (a.rowAfter d table row).storeId = row.storeId := by
  obtain heq | ⟨_, _, _, rfl, _⟩ | ⟨_, _, _, _, _, _, _, _, _, heq⟩ := rowAfter_cases a d table row
  · rw [heq]
    exact ⟨rfl, rfl⟩
  · exact absurd rfl h
  · rw [heq]
    exact ⟨rfl, rfl⟩

/-- A customer that a row has stays. -/
theorem rowAfter_of_customer {column : CustomerColumn} (h : row.customerIds column ≠ none) :
    (a.rowAfter d table row).customerIds column = row.customerIds column := by
  obtain heq | ⟨_, _, _, _, _, _, heq⟩ | ⟨_, column', _, _, _, _, hnone, _, _, heq⟩ :=
    rowAfter_cases a d table row
  · rw [heq]
  · rw [heq]
  · have hne : column ≠ column' := by
      rintro rfl
      exact h hnone
    rw [heq, Row.setCustomer]
    exact Function.update_of_ne hne ..

theorem findRow_apply (a : Assignment) (d : Database) (table : TableName) (id : Nat) :
    (a.apply d).findRow table id = (d.findRow table id).map (a.rowAfter d table) := by
  have hid : (fun row : Row => decide (row.id = id)) ∘ a.rowAfter d table =
      fun row => decide (row.id = id) := by
    funext row
    simp
  rw [Database.findRow, rows_apply, List.find?_map, hid, Database.findRow]

/-- A link leads to the same row, or what has become of it. -/
theorem linked_apply (h : row'.links = row.links) (link : Link) :
    (a.apply d).linked row' link table = (d.linked row link table).map (a.rowAfter d table) := by
  rw [Database.linked, h, Database.linked]
  cases row.links link with
  | none => rfl
  | some id => exact findRow_apply a d table id

theorem shopper_apply (h : row'.links = row.links) (link : Link) :
    (a.apply d).shopper row' link = d.shopper row link := by
  rw [Database.shopper, h]
  rfl

/-- An owner that can be taken stays the same. -/
theorem owner_apply {source : OwnerSource} {o : Nat × Option Nat} (hlinks : row'.links = row.links)
    (htexts : row'.texts = row.texts) (h : source.owner d row = some o) :
    source.owner (a.apply d) row' = some o := by
  cases source with
  | target => exact h
  | parent link parentTable kind =>
      rw [OwnerSource.owner] at h ⊢
      rw [htexts]
      split at h
      case isFalse => cases h
      case isTrue hkind =>
        obtain ⟨par, hpar, ho⟩ := Option.bind_eq_some_iff.mp h
        rw [if_pos hkind, linked_apply hlinks, hpar]
        have htenant : par.tenantId ≠ none := by
          intro hnone
          rw [Row.owner, hnone] at ho
          cases ho
        obtain ⟨hsame, hstore⟩ := rowAfter_of_tenant a d parentTable htenant
        rw [Option.map_some, Option.bind_some, Row.owner, hsame, hstore]
        exact ho

/-- An owner that cannot be taken cannot be taken then either, unless it is just being written. -/
theorem owner_apply_none {source : OwnerSource} {withStore : Bool}
    (hunaffected : (owner table source withStore).Unaffected b) (hlinks : row'.links = row.links)
    (htexts : row'.texts = row.texts) (h : source.owner d row = none) :
    source.owner (b.apply d) row' = none := by
  cases source with
  | target => cases h
  | parent link parentTable kind =>
      rw [OwnerSource.owner] at h ⊢
      rw [htexts]
      split at h
      case isFalse hkind => rw [if_neg hkind]
      case isTrue hkind =>
        rw [if_pos hkind, linked_apply hlinks]
        cases hpar : d.linked row link parentTable with
        | none => rfl
        | some par =>
            rw [hpar] at h
            obtain ⟨hsame, hstore⟩ := rowAfter_of_owns d par
              (hunaffected parentTable rfl)
            rw [Option.map_some, Option.bind_some, Row.owner, hsame, hstore]
            exact h

/-- Assignments do not read the counters. -/
theorem set_counters (a : Assignment) (d : Database) (counters : List TenantCounter) (row : Row) :
    a.set { d with tenantCounters := counters } row = a.set d row := by
  cases a with
  | owner table source withStore => cases source <;> rfl
  | customer => rfl

/-- A row that has been written is not written again. -/
theorem set_of_set (h : a.set d row = some row') (d' : Database) : a.set d' row' = none := by
  cases a with
  | owner table source withStore =>
      rw [set] at h
      split at h
      case isFalse => cases h
      case isTrue =>
        obtain ⟨o, -, rfl⟩ := Option.map_eq_some_iff.mp h
        rfl
  | customer table user column storeId =>
      rw [set] at h
      split at h
      case isFalse => cases h
      case isTrue =>
        obtain ⟨c, -, rfl⟩ := Option.map_eq_some_iff.mp h
        rw [set, if_neg]
        rw [Row.setCustomer]
        dsimp only
        rw [Function.update_self]
        exact Option.some_ne_none _

/-- A row that there is nothing to do about stays so. -/
theorem set_apply (hunaffected : a.Unaffected b) (h : a.set d row = none) :
    a.set (b.apply d) (b.rowAfter d a.table row) = none := by
  cases a with
  | owner table source withStore =>
      rw [set] at h ⊢
      split
      case isFalse => rfl
      case isTrue hafter =>
        have hnone : row.tenantId = none := by
          by_contra hsome
          exact hsome ((rowAfter_of_tenant b d table hsome).1.symm.trans hafter)
        rw [if_pos hnone] at h
        have hsource := Option.map_eq_none_iff.mp h
        rw [owner_apply_none hunaffected rowAfter_links rowAfter_texts hsource, Option.map_none]
  | customer table user column storeId =>
      rw [set] at h ⊢
      split
      case isFalse => rfl
      case isTrue hafter =>
        have hnone : row.customerIds column = none := by
          by_contra hsome
          exact hsome ((rowAfter_of_customer hsome).symm.trans hafter)
        rw [if_pos hnone] at h
        rw [shopper_apply rowAfter_links]
        exact congrArg _ (Option.map_eq_none_iff.mp h)

theorem Idle.apply (hunaffected : a.Unaffected b) (h : a.Idle d) : a.Idle (b.apply d) := by
  intro row hrow
  rw [rows_apply] at hrow
  obtain ⟨before, hbefore, rfl⟩ := List.mem_map.mp hrow
  exact set_apply hunaffected (h before hbefore)

/-- An assignment finds nothing to do once it has run. -/
theorem idle_apply (hunaffected : a.Unaffected a) : a.Idle (a.apply d) := by
  intro row hrow
  rw [rows_apply] at hrow
  obtain ⟨before, -, rfl⟩ := List.mem_map.mp hrow
  cases hset : a.set d before with
  | none => exact set_apply hunaffected hset
  | some after =>
      have hafter : a.rowAfter d a.table before = after := by
        rw [rowAfter, if_pos rfl, hset, Option.getD_some]
      rw [hafter]
      exact set_of_set hset _

theorem apply_of_idle (h : a.Idle d) : a.apply d = d := by
  have hrows : (d.rows a.table).map (fun row => (a.set d row).getD row) = d.rows a.table := by
    refine (List.map_congr_left fun row hrow => ?_).trans (List.map_id _)
    rw [h row hrow]
    rfl
  rw [Assignment.apply, hrows, Function.update_eq_self]

theorem affected_of_idle (h : a.Idle d) : a.affected d = 0 :=
  List.countP_eq_zero.mpr fun row hrow => by rw [h row hrow]; exact Bool.false_ne_true

/-- What an update does, and how many rows it says it has written. -/
theorem executeUpdate_eq (a : Assignment) {set : Database → Row → Option Row}
    (h : ∀ d row, set d row = a.set d row) (d : Database) :
    executeUpdate a.table set d = .ok (a.affected d, a.apply d) := by
  have hset : set = a.set := funext fun d => funext fun row => h d row
  rw [hset]
  rfl

end

end Assignment

/-- Assignments one after the other. -/
def applyAll (assignments : List Assignment) (d : Database) : Database :=
  assignments.foldl (fun d a => a.apply d) d

end PrintForge.Backfill
