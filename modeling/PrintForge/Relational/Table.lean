import Mathlib.Algebra.Order.BigOperators.Group.List
import Mathlib.Algebra.Order.Ring.Int
import Mathlib.Data.List.Basic
import Mathlib.Data.List.Nodup
import Mathlib.Data.List.Pairwise
import Mathlib.Order.Defs.Unbundled
import Mathlib.Tactic.Common

/-!
# Tables with a primary key and unique indexes

A `Schema` names the primary key of a row and says which two rows a unique index
forbids together. A `Table` is a list of rows in insertion order that carries the
proof that no two of them are forbidden, so a table that breaks an index cannot be
built. A write that would break one has no result, which is how a database reports
a unique violation.

Primary keys are drawn from a counter that only grows. A key is therefore never
used twice, even after its row has been deleted, as with random identifiers.
-/

namespace Relational

/-- The primary key and the further unique indexes of a row type. `Clash a b` holds
of two rows that some index other than the primary key forbids together. -/
class Schema (α : Type*) where
  key : α → Nat
  Clash : α → α → Prop
  clash_decidable : DecidableRel Clash
  clash_symm : ∀ {a b : α}, Clash a b → Clash b a

open Schema

instance {α : Type*} [Schema α] : DecidableRel (Clash (α := α)) := clash_decidable

/-- No two rows share a primary key or clash. -/
def Consistent {α : Type*} [Schema α] (rows : List α) : Prop :=
  rows.Pairwise fun a b => key a ≠ key b ∧ ¬ Clash a b

instance {α : Type*} [Schema α] (rows : List α) : Decidable (Consistent rows) :=
  inferInstanceAs (Decidable (rows.Pairwise _))

@[ext]
structure Table (α : Type*) [Schema α] where
  rows : List α
  nextKey : Nat
  key_lt : ∀ r ∈ rows, key r < nextKey
  consistent : Consistent rows

namespace Table

variable {α : Type*} [Schema α]

instance : Membership α (Table α) := ⟨fun t r => r ∈ t.rows⟩

theorem mem_rows {t : Table α} {r : α} : r ∈ t.rows ↔ r ∈ t := Iff.rfl

theorem key_lt_nextKey {t : Table α} {r : α} (h : r ∈ t) : key r < t.nextKey := t.key_lt r h

def empty : Table α := ⟨[], 0, by simp, List.Pairwise.nil⟩

instance : Inhabited (Table α) := ⟨empty⟩

@[simp] theorem not_mem_empty (r : α) : r ∉ (empty : Table α) := List.not_mem_nil

/-- Distinct rows of a table have distinct keys and do not clash. -/
theorem apart {t : Table α} {a b : α} (ha : a ∈ t) (hb : b ∈ t) (hne : a ≠ b) :
    key a ≠ key b ∧ ¬ Clash a b := by
  have symm : Std.Symm fun a b : α => key a ≠ key b ∧ ¬ Clash a b :=
    ⟨fun _ _ h => ⟨h.1.symm, fun hc => h.2 (clash_symm hc)⟩⟩
  exact t.consistent.forall ha hb hne

theorem eq_of_key {t : Table α} {a b : α} (ha : a ∈ t) (hb : b ∈ t) (h : key a = key b) :
    a = b := by
  by_contra hne
  exact (apart ha hb hne).1 h

theorem eq_of_clash {t : Table α} {a b : α} (ha : a ∈ t) (hb : b ∈ t) (h : Clash a b) :
    a = b := by
  by_contra hne
  exact (apart ha hb hne).2 h

/-! ## Queries -/

/-- The row with a primary key. -/
def get (t : Table α) (k : Nat) : Option α := t.rows.find? (key · = k)

/-- The oldest row that satisfies a condition. -/
def findFirst (t : Table α) (p : α → Bool) : Option α := t.rows.find? p

/-- The newest row that satisfies a condition. -/
def findLast (t : Table α) (p : α → Bool) : Option α := t.rows.reverse.find? p

/-- The rows that satisfy a condition, oldest first. -/
def findMany (t : Table α) (p : α → Bool) : List α := t.rows.filter p

/-- How many rows satisfy a condition. -/
def count (t : Table α) (p : α → Bool) : Nat := t.rows.countP p

theorem get_eq_some {t : Table α} {k : Nat} {r : α} :
    t.get k = some r ↔ r ∈ t ∧ key r = k := by
  constructor
  · intro h
    exact ⟨List.mem_of_find?_eq_some h, by simpa using List.find?_some h⟩
  · rintro ⟨hr, rfl⟩
    cases hg : t.rows.find? (key · = key r) with
    | none => simpa using List.find?_eq_none.mp hg r hr
    | some r' =>
        have hk : key r' = key r := by simpa using List.find?_some hg
        rw [get, hg, eq_of_key (List.mem_of_find?_eq_some hg) hr hk]

theorem get_key {t : Table α} {r : α} (h : r ∈ t) : t.get (key r) = some r :=
  get_eq_some.mpr ⟨h, rfl⟩

theorem get_eq_none {t : Table α} {k : Nat} : t.get k = none ↔ ∀ r ∈ t, key r ≠ k := by
  simp [get, List.find?_eq_none, mem_rows]

theorem get_eq_none_of_le {t : Table α} {k : Nat} (h : t.nextKey ≤ k) : t.get k = none :=
  get_eq_none.mpr fun _ hr he => absurd (key_lt_nextKey hr) (by omega)

theorem findFirst_some {t : Table α} {p : α → Bool} {r : α} (h : t.findFirst p = some r) :
    r ∈ t ∧ p r = true :=
  ⟨List.mem_of_find?_eq_some h, List.find?_some h⟩

theorem findFirst_none {t : Table α} {p : α → Bool} (h : t.findFirst p = none) :
    ∀ r ∈ t, p r = false := by
  simpa [findFirst, List.find?_eq_none, mem_rows] using h

/-- A condition that singles out a row finds it. -/
theorem findFirst_eq_some {t : Table α} {p : α → Bool} {r : α} (hr : r ∈ t) (hp : p r = true)
    (h : ∀ x ∈ t, p x = true → x = r) : t.findFirst p = some r := by
  cases hfind : t.findFirst p with
  | none => simpa [hp] using findFirst_none hfind r hr
  | some x => rw [h x (findFirst_some hfind).1 (findFirst_some hfind).2]

theorem findLast_some {t : Table α} {p : α → Bool} {r : α} (h : t.findLast p = some r) :
    r ∈ t ∧ p r = true :=
  ⟨List.mem_reverse.mp (List.mem_of_find?_eq_some h), List.find?_some h⟩

theorem findLast_none {t : Table α} {p : α → Bool} (h : t.findLast p = none) :
    ∀ r ∈ t, p r = false := by
  simpa [findLast, List.find?_eq_none, mem_rows] using h

/-- `a` was created before `b`. Rows stand in the order of their creation. -/
def Older (t : Table α) (a b : α) : Prop :=
  ∃ older newer, t.rows = older ++ newer ∧ a ∈ older ∧ b ∈ newer

theorem Older.asymm {t : Table α} {a b : α} (h : t.Older a b) : ¬ t.Older b a := by
  rintro ⟨l, r, hrows, hb, ha⟩
  obtain ⟨l', r', hrows', ha', hb'⟩ := h
  have hnodup : ∀ {l r : List α}, t.rows = l ++ r → ∀ x ∈ l, x ∉ r := by
    intro l r hrows x hx hx'
    have hpair := t.consistent
    rw [hrows, Consistent, List.pairwise_append] at hpair
    exact (hpair.2.2 x hx x hx').1 rfl
  -- of two ways to cut the rows, one cuts later
  obtain ⟨m, rfl, -⟩ | ⟨m, rfl, -⟩ := List.append_eq_append_iff.mp (hrows.symm.trans hrows')
  · exact hnodup hrows' b (List.mem_append_left _ hb) hb'
  · exact hnodup hrows a (List.mem_append_left _ ha') ha

/-- The last row that qualifies is newer than all others. -/
theorem older_findLast {t : Table α} {p : α → Bool} {r b : α} (h : t.findLast p = some r)
    (hb : b ∈ t) (hp : p b = true) : b = r ∨ t.Older b r := by
  obtain ⟨-, newer, older, hrows, hnone⟩ := List.find?_eq_some_iff_append.mp h
  have hrows' : t.rows = older.reverse ++ r :: newer.reverse := by
    rw [← List.reverse_reverse t.rows, hrows]
    simp
  have hmem : b ∈ t.rows := hb
  rw [hrows', List.mem_append, List.mem_cons, List.mem_reverse, List.mem_reverse] at hmem
  obtain hold | rfl | hnew := hmem
  · exact .inr ⟨_, _, hrows', List.mem_reverse.mpr hold, List.mem_cons_self⟩
  · exact .inl rfl
  · have := hnone b hnew
    simp [hp] at this

theorem count_eq_zero {t : Table α} {p : α → Bool} : t.count p = 0 ↔ ∀ r ∈ t, p r = false := by
  simp [count, List.countP_eq_zero, mem_rows]

theorem filter_key (t : Table α) (k : Nat) :
    t.rows.filter (key · = k) = (t.get k).toList := by
  have hpair : t.rows.Pairwise fun a b => key a ≠ key b := t.consistent.imp And.left
  unfold get
  generalize t.rows = rows at hpair ⊢
  induction rows with
  | nil => rfl
  | cons r rows ih =>
      obtain ⟨hr, hrows⟩ := List.pairwise_cons.mp hpair
      by_cases hk : key r = k
      · have hnone : rows.filter (key · = k) = [] := by
          refine List.filter_eq_nil_iff.mpr fun b hb => ?_
          simpa using fun he : key b = k => hr b hb (hk.trans he.symm)
        simp [hk, hnone]
      · simp [hk, ih hrows]

/-- A condition that fixes the primary key holds of at most one row. -/
theorem count_eq_one {t : Table α} {k : Nat} {p : α → Bool} (hp : ∀ r, p r → key r = k) :
    t.count p = 1 ↔ ∃ r, t.get k = some r ∧ p r := by
  have hsplit : t.count p = (t.get k).toList.countP p := by
    rw [← filter_key, List.countP_filter, count]
    refine List.countP_congr fun r _ => ?_
    simpa using hp r
  rw [hsplit]
  cases t.get k with
  | none => simp
  | some r => by_cases h : p r <;> simp [h]

theorem count_ne_one {t : Table α} {k : Nat} {p : α → Bool} (hp : ∀ r, p r → key r = k)
    (h : t.count p ≠ 1) : ∀ r ∈ t, p r = false := by
  intro r hr
  by_contra hpr
  have hpr : p r = true := by simpa using hpr
  exact h ((count_eq_one hp).mpr ⟨r, get_eq_some.mpr ⟨hr, hp r hpr⟩, hpr⟩)

/-- A condition that two rows never satisfy is counted once where it is satisfied at all. -/
theorem count_eq_one_of_unique {t : Table α} {p : α → Bool}
    (h : ∀ a ∈ t, ∀ b ∈ t, p a = true → p b = true → a = b) :
    t.count p = 1 ↔ ∃ a ∈ t, p a = true := by
  constructor
  · intro hone
    by_contra hnone
    have hzero : t.count p = 0 := by
      refine count_eq_zero.mpr fun r hr => ?_
      by_contra hp
      exact hnone ⟨r, hr, by simpa using hp⟩
    omega
  · rintro ⟨a, ha, hp⟩
    have hcount : t.count p = t.count fun r => p r && decide (key r = key a) := by
      refine List.countP_congr fun r hr => ?_
      simp only [Bool.and_eq_true, decide_eq_true_eq, iff_self_and]
      exact fun hpr => congrArg key (h r hr a ha hpr hp)
    rw [hcount, count_eq_one (k := key a) fun r hr => by simpa using (Bool.and_eq_true_iff.mp hr).2]
    exact ⟨a, get_key ha, by simp [hp]⟩

/-- Of two rows that satisfy a condition, one has another key. -/
theorem exists_of_one_lt_count {t : Table α} {p : α → Bool} (h : 1 < t.count p) (k : Nat) :
    ∃ r ∈ t, p r = true ∧ key r ≠ k := by
  by_contra hnone
  have hkey : ∀ r ∈ t, p r = true → key r = k := by
    intro r hr hp
    by_contra hne
    exact hnone ⟨r, hr, hp, hne⟩
  have hcount : t.count p = t.count fun r => p r && decide (key r = k) := by
    refine List.countP_congr fun r hr => ?_
    simpa using hkey r hr
  have hone : t.count (fun r => p r && decide (key r = k)) ≤ 1 := by
    rw [count, ← List.countP_filter, filter_key]
    refine Nat.le_trans List.countP_le_length ?_
    cases t.get k with
    | none => exact Nat.zero_le 1
    | some r => exact Nat.le_refl 1
  omega

/-! ## Writes -/

/-- Insert the row built from the next primary key. -/
def create (t : Table α) (row : Nat → α) (hk : ∀ k, key (row k) = k := by intro; rfl) :
    Option (Table α) :=
  if h : ∀ r ∈ t.rows, ¬ Clash r (row t.nextKey) then
    some
      { rows := t.rows ++ [row t.nextKey]
        nextKey := t.nextKey + 1
        key_lt := by
          intro r hr
          rcases List.mem_append.mp hr with hr | hr
          · exact Nat.lt_succ_of_lt (t.key_lt r hr)
          · rw [List.mem_singleton.mp hr, hk]
            exact Nat.lt_succ_self _
        consistent := by
          refine List.pairwise_append.mpr ⟨t.consistent, List.pairwise_singleton _ _, ?_⟩
          intro a ha b hb
          rw [List.mem_singleton.mp hb]
          exact ⟨by rw [hk]; exact Nat.ne_of_lt (t.key_lt a ha), h a ha⟩ }
  else none

/-- Rewrite every row that satisfies a condition. -/
def update (t : Table α) (p : α → Bool) (f : α → α)
    (hf : ∀ r, key (f r) = key r := by intro; rfl) : Option (Table α) :=
  if h : Consistent (t.rows.map fun r => if p r then f r else r) then
    some
      { rows := t.rows.map fun r => if p r then f r else r
        nextKey := t.nextKey
        key_lt := by
          intro r hr
          obtain ⟨r', hr', rfl⟩ := List.mem_map.mp hr
          split
          · rw [hf]; exact t.key_lt r' hr'
          · exact t.key_lt r' hr'
        consistent := h }
  else none

/-- Delete every row that satisfies a condition. -/
def delete (t : Table α) (p : α → Bool) : Table α where
  rows := t.rows.filter fun r => !p r
  nextKey := t.nextKey
  key_lt r hr := t.key_lt r (List.mem_of_mem_filter hr)
  consistent := t.consistent.filter _

section Create

variable {t t' : Table α} {row : Nat → α} {hk : ∀ k, key (row k) = k}

theorem mem_create (h : t.create row hk = some t') {r : α} :
    r ∈ t' ↔ r ∈ t ∨ r = row t.nextKey := by
  unfold create at h
  split at h
  · cases h
    exact List.mem_append.trans (or_congr Iff.rfl List.mem_singleton)
  · cases h

theorem rows_create (h : t.create row hk = some t') : t'.rows = t.rows ++ [row t.nextKey] := by
  unfold create at h
  split at h <;> cases h
  rfl

theorem nextKey_create (h : t.create row hk = some t') : t'.nextKey = t.nextKey + 1 := by
  unfold create at h
  split at h <;> cases h
  rfl

theorem get_create (h : t.create row hk = some t') (k : Nat) :
    t'.get k = if k = t.nextKey then some (row k) else t.get k := by
  have hn : key (row t.nextKey) = t.nextKey := hk _
  split
  · next he =>
    subst he
    exact get_eq_some.mpr ⟨(mem_create h).mpr (.inr rfl), hn⟩
  · next hne =>
    ext r
    rw [get_eq_some, get_eq_some, mem_create h]
    constructor
    · rintro ⟨hr | rfl, he⟩
      · exact ⟨hr, he⟩
      · exact absurd (he.symm.trans hn) hne
    · rintro ⟨hr, he⟩
      exact ⟨.inl hr, he⟩

/-- What has been inserted clashes with nothing that was there. -/
theorem create_apart (h : t.create row hk = some t') :
    ∀ r ∈ t, ¬ Clash r (row t.nextKey) := by
  unfold create at h
  split at h
  · next hfree => exact hfree
  · cases h

/-- An insert fails only because the new row clashes with a row already there. -/
theorem create_none (h : t.create row hk = none) : ∃ r ∈ t, Clash r (row t.nextKey) := by
  unfold create at h
  split at h
  · cases h
  · next hn =>
    push Not at hn
    exact hn

theorem exists_create (h : ∀ r ∈ t, ¬ Clash r (row t.nextKey)) :
    ∃ t', t.create row hk = some t' := by
  cases hc : t.create row hk with
  | some t' => exact ⟨t', rfl⟩
  | none =>
      obtain ⟨r, hr, hclash⟩ := create_none hc
      exact absurd hclash (h r hr)

end Create

section Update

variable {t t' : Table α} {p : α → Bool} {f : α → α} {hf : ∀ r, key (f r) = key r}

theorem rows_update (h : t.update p f hf = some t') :
    t'.rows = t.rows.map fun r => if p r then f r else r := by
  unfold update at h
  split at h <;> cases h
  rfl

theorem nextKey_update (h : t.update p f hf = some t') : t'.nextKey = t.nextKey := by
  unfold update at h
  split at h <;> cases h
  rfl

theorem mem_update (h : t.update p f hf = some t') {r : α} :
    r ∈ t' ↔ ∃ r₀ ∈ t, r = if p r₀ then f r₀ else r₀ := by
  rw [← mem_rows, rows_update h, List.mem_map]
  simp only [mem_rows, eq_comm]

theorem get_update (h : t.update p f hf = some t') (k : Nat) :
    t'.get k = (t.get k).map fun r => if p r then f r else r := by
  rw [get, rows_update h, List.find?_map]
  congr 2
  funext r
  by_cases hp : p r <;> simp [hp, hf]

/-- An update whose condition fixes the primary key touches that key alone. -/
theorem get_update_key {k : Nat} {r : α} (h : t.update p f hf = some t')
    (hp : ∀ r, p r → key r = k) (hr : t.get k = some r) (hpr : p r) (k' : Nat) :
    t'.get k' = if k' = k then some (f r) else t.get k' := by
  rw [get_update h]
  split
  · next he =>
    rw [he, hr]
    simp [hpr]
  · next hne =>
    cases hg : t.get k' with
    | none => rfl
    | some r' =>
        have hp' : p r' = false := by
          by_contra hcon
          exact hne ((get_eq_some.mp hg).2.symm.trans (hp r' (by simpa using hcon)))
        simp [hp']

theorem mem_of_update_false (h : t.update p f hf = some t') {r : α} (hr : r ∈ t)
    (hp : p r = false) : r ∈ t' :=
  (mem_update h).mpr ⟨r, hr, by simp [hp]⟩

theorem mem_of_update_true (h : t.update p f hf = some t') {r : α} (hr : r ∈ t)
    (hp : p r = true) : f r ∈ t' :=
  (mem_update h).mpr ⟨r, hr, by simp [hp]⟩

/-- An update fails only because two of the rewritten rows clash. -/
theorem update_none (h : t.update p f hf = none) :
    ∃ a ∈ t, ∃ b ∈ t, a ≠ b ∧
      Clash (if p a then f a else a) (if p b then f b else b) := by
  unfold update at h
  split at h
  · cases h
  · next hn =>
    by_contra hall
    push Not at hall
    refine hn (List.pairwise_map.mpr (t.consistent.imp_of_mem ?_))
    intro a b ha hb hab
    refine ⟨?_, hall a ha b hb fun he => hab.1 (he ▸ rfl)⟩
    have hkey : ∀ r, key (if p r then f r else r) = key r := by
      intro r
      split
      · exact hf r
      · rfl
    rw [hkey, hkey]
    exact hab.1

/-- An update that leaves the indexed columns alone never fails. -/
theorem exists_update (h : ∀ a ∈ t, ∀ b ∈ t,
      Clash (if p a then f a else a) (if p b then f b else b) → Clash a b) :
    ∃ t', t.update p f hf = some t' := by
  cases hu : t.update p f hf with
  | some t' => exact ⟨t', rfl⟩
  | none =>
      obtain ⟨a, ha, b, hb, hne, hclash⟩ := update_none hu
      exact absurd (h a ha b hb hclash) (apart ha hb hne).2

/-- An update that no row qualifies for changes nothing. -/
theorem update_eq_self (h : t.update p f hf = some t') (hp : ∀ r ∈ t, p r = false) :
    t' = t := by
  refine Table.ext ?_ (nextKey_update h)
  rw [rows_update h]
  calc t.rows.map (fun r => if p r then f r else r)
      = t.rows.map id := List.map_congr_left fun r hr => by simp [hp r hr]
    _ = t.rows := List.map_id _

end Update

section Delete

variable {t : Table α} {p : α → Bool}

theorem mem_delete {r : α} : r ∈ t.delete p ↔ r ∈ t ∧ p r = false := by
  simp [← mem_rows, delete]

@[simp] theorem nextKey_delete : (t.delete p).nextKey = t.nextKey := rfl

/-- A deletion by primary key takes that key out and leaves the others. -/
theorem get_delete_key (t : Table α) (k k' : Nat) :
    (t.delete (key · = k)).get k' = if k' = k then none else t.get k' := by
  split
  · next he =>
    refine get_eq_none.mpr fun r hr hk => ?_
    have hp := (mem_delete.mp hr).2
    simp [hk.trans he] at hp
  · next hne =>
    show (t.rows.filter fun r => !decide (key r = k)).find? (fun r => key r = k') = _
    rw [List.find?_filter]
    refine congrArg (fun p => t.rows.find? p) (funext fun r => ?_)
    by_cases hk : key r = k'
    · simp [hk, hne]
    · simp [hk]

end Delete

/-! ## Sums -/

/-- The sum of what every row weighs. -/
def total (t : Table α) (weight : α → Int) : Int := (t.rows.map weight).sum

section Sums

variable {t t' : Table α} {weight : α → Int}

theorem sum_findMany (t : Table α) (p : α → Bool) :
    ((t.findMany p).map weight).sum = t.total fun r => if p r then weight r else 0 := by
  unfold findMany total
  induction t.rows with
  | nil => rfl
  | cons r rows ih => by_cases hp : p r <;> simp [hp, ih]

theorem total_create {row : Nat → α} {hk} (h : t.create row hk = some t') :
    t'.total weight = t.total weight + weight (row t.nextKey) := by
  simp [total, rows_create h]

theorem total_congr {weight' : α → Int} (h : ∀ r ∈ t, weight r = weight' r) :
    t.total weight = t.total weight' := by
  rw [total, total, List.map_congr_left h]

theorem total_mono {weight' : α → Int} (h : ∀ r ∈ t, weight r ≤ weight' r) :
    t.total weight ≤ t.total weight' :=
  List.sum_le_sum h

/-- An update that makes no row heavier does not raise the sum. -/
theorem total_update_le {p : α → Bool} {f : α → α} {hf} (h : t.update p f hf = some t')
    (hle : ∀ r ∈ t, p r → weight (f r) ≤ weight r) : t'.total weight ≤ t.total weight := by
  rw [total, rows_update h, List.map_map]
  refine List.sum_le_sum fun r hr => ?_
  by_cases hp : p r
  · simpa [hp] using hle r hr hp
  · simp [hp]

/-- What is charged to different rows, each for no more than it weighs, adds up to no more
than the sum. -/
theorem sum_le_total {β : Type} {xs : List β} {charge : β → Int} {target : β → Nat}
    (hw : ∀ r ∈ t, 0 ≤ weight r) (hdistinct : (xs.map target).Nodup)
    (hx : ∀ x ∈ xs, ∃ r, t.get (target x) = some r ∧ charge x ≤ weight r) :
    (xs.map charge).sum ≤ t.total weight := by
  -- the rows that are charged, in the order of the charges
  let rows := xs.filterMap fun x => t.get (target x)
  have hrows : rows.map key = xs.map target ∧ (xs.map charge).sum ≤ (rows.map weight).sum := by
    have hall := hx
    clear hdistinct hx
    simp only [rows]
    induction xs with
    | nil => simp
    | cons x xs ih =>
        obtain ⟨r, hr, hle⟩ := hall x (List.mem_cons_self ..)
        obtain ⟨hkeys, hsum⟩ := ih fun y hy => hall y (List.mem_cons_of_mem _ hy)
        refine ⟨?_, ?_⟩
        · simp [hr, hkeys, (get_eq_some.mp hr).2]
        · simp only [List.filterMap_cons, hr, List.map_cons, List.sum_cons]
          omega
  have hsub : rows.Subperm t.rows := by
    refine List.subperm_of_subset ?_ fun r hr => ?_
    · exact List.Nodup.of_map key (by rw [hrows.1]; exact hdistinct)
    · obtain ⟨x, -, hget⟩ := List.mem_filterMap.mp hr
      exact (get_eq_some.mp hget).1
  obtain ⟨l, hperm, hl⟩ := hsub
  have hle : (l.map weight).sum ≤ t.total weight := by
    refine (hl.map weight).sum_le_sum fun x hmem => ?_
    obtain ⟨r, hr, rfl⟩ := List.mem_map.mp hmem
    exact hw r hr
  rw [(hperm.map weight).sum_eq] at hle
  exact Int.le_trans hrows.2 hle

end Sums

/-! ## Growth -/

/-- Every row is still there, under its key, and has only changed as `R` allows. -/
def Evolves (R : α → α → Prop) (t t' : Table α) : Prop :=
  ∀ r ∈ t, ∃ r' ∈ t', key r' = key r ∧ R r r'

section Evolves

variable {R : α → α → Prop} {t t' t'' : Table α}

theorem evolves_refl [Std.Refl R] (t : Table α) : Evolves R t t :=
  fun r hr => ⟨r, hr, rfl, Std.Refl.refl r⟩

theorem Evolves.trans [IsTrans α R] (h : Evolves R t t') (h' : Evolves R t' t'') :
    Evolves R t t'' := by
  intro r hr
  obtain ⟨r₁, hr₁, hk₁, hR₁⟩ := h r hr
  obtain ⟨r₂, hr₂, hk₂, hR₂⟩ := h' r₁ hr₁
  exact ⟨r₂, hr₂, hk₂.trans hk₁, IsTrans.trans _ _ _ hR₁ hR₂⟩

theorem Evolves.get {k : Nat} {r : α} (h : Evolves R t t') (hr : t.get k = some r) :
    ∃ r', t'.get k = some r' ∧ R r r' := by
  obtain ⟨hmem, hk⟩ := get_eq_some.mp hr
  obtain ⟨r', hr', hk', hR⟩ := h r hmem
  exact ⟨r', get_eq_some.mpr ⟨hr', hk'.trans hk⟩, hR⟩

theorem evolves_create [Std.Refl R] {row : Nat → α} {hk} (h : t.create row hk = some t') :
    Evolves R t t' :=
  fun r hr => ⟨r, (mem_create h).mpr (.inl hr), rfl, Std.Refl.refl r⟩

theorem evolves_update [Std.Refl R] {p : α → Bool} {f : α → α} {hf}
    (h : t.update p f hf = some t') (hR : ∀ r ∈ t, p r → R r (f r)) : Evolves R t t' := by
  intro r hr
  by_cases hp : p r
  · exact ⟨f r, mem_of_update_true h hr hp, hf r, hR r hr hp⟩
  · exact ⟨r, mem_of_update_false h hr (by simpa using hp), rfl, Std.Refl.refl r⟩

end Evolves

end Table

end Relational
