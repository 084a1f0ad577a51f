import PrintForge.Relational.Table
import Mathlib.Order.Defs.Unbundled

/-!
# Transactions over tables

A transaction either commits, with a result and a new state, or is rolled back with
an error, in which case the state it started from is kept. It is therefore a state
transformer over `Except`: there is no way to keep the writes of a statement and
lose the ones after it.

The inversion lemmas take a committed or rolled back transaction apart into its
statements. `Within R` is the frame condition: whatever the transaction does when
it commits, its start and its end are related by the preorder `R`.
-/

namespace Relational

/-- A computation that commits a result and a new state, or is rolled back. -/
abbrev Tx (σ ε : Type) := StateT σ (Except ε)

/-- The errors a database raises by itself. -/
class DatabaseError (ε : Type) where
  uniqueViolation : ε
  recordNotFound : ε

namespace Tx

variable {σ ε α β : Type} {s s' : σ}

/-- A query: the result is read off the state, which stays as it is. -/
def read (f : σ → α) : Tx σ ε α := fun s => .ok (f s, s)

/-- A computation that does not look at the state. -/
def ofExcept (x : Except ε α) : Tx σ ε α := fun s => x.map fun a => (a, s)

@[simp] theorem read_apply (f : σ → α) : (read f : Tx σ ε α) s = .ok (f s, s) := rfl

@[simp] theorem pure_apply (a : α) : (pure a : Tx σ ε α) s = .ok (a, s) := rfl

@[simp] theorem modify_apply (f : σ → σ) : (modify f : Tx σ ε PUnit) s = .ok ((), f s) := rfl

@[simp] theorem throw_apply (e : ε) : (throw e : Tx σ ε α) s = .error e := rfl

theorem bind_apply (x : Tx σ ε α) (f : α → Tx σ ε β) :
    (x >>= f) s = (match x s with
      | .ok (a, s₁) => f a s₁
      | .error e => .error e) := by
  change Except.bind (x s) _ = _
  cases x s <;> rfl

theorem tryCatch_apply (x : Tx σ ε α) (h : ε → Tx σ ε α) :
    (tryCatch x h : Tx σ ε α) s = (match x s with
      | .ok r => .ok r
      | .error e => h e s) := by
  change Except.tryCatch (x s) _ = _
  cases x s <;> rfl

/-- What is found in a result is a result. -/
theorem exists_ok {x : Except ε α} {p : α → Bool} (h : x.toOption.any p = true) :
    ∃ a, x = .ok a ∧ p a = true := by
  cases x with
  | error e => cases h
  | ok a => exact ⟨a, rfl, h⟩

/-- A committed sequence committed both of its halves. -/
theorem bind_of_ok {x : Tx σ ε α} {f : α → Tx σ ε β} {a : α} {s₁ : σ} (h : x s = .ok (a, s₁)) :
    (x >>= f) s = f a s₁ := by
  rw [bind_apply, h]

theorem bind_ok {x : Tx σ ε α} {f : α → Tx σ ε β} {b : β} :
    (x >>= f) s = .ok (b, s') ↔ ∃ a s₁, x s = .ok (a, s₁) ∧ f a s₁ = .ok (b, s') := by
  rw [bind_apply]
  cases h : x s with
  | ok r =>
      obtain ⟨a, s₁⟩ := r
      simp
  | error e => simp

theorem ofExcept_ok {x : Except ε α} {a : α} :
    (ofExcept x : Tx σ ε α) s = .ok (a, s') ↔ x = .ok a ∧ s' = s := by
  unfold ofExcept
  cases x with
  | ok b =>
      constructor
      · intro h
        cases h
        exact ⟨rfl, rfl⟩
      · rintro ⟨h, rfl⟩
        cases h
        rfl
  | error e =>
      constructor
      · intro h
        cases h
      · rintro ⟨h, -⟩
        cases h

/-- A committed map committed what it maps. -/
theorem map_ok {f : α → β} {x : Tx σ ε α} {b : β} :
    (f <$> x) s = .ok (b, s') ↔ ∃ a, x s = .ok (a, s') ∧ b = f a := by
  change Except.bind (x s) _ = _ ↔ _
  cases h : x s with
  | ok r =>
      obtain ⟨a, s₁⟩ := r
      constructor
      · intro hf
        cases hf
        exact ⟨a, rfl, rfl⟩
      · rintro ⟨a', ha, rfl⟩
        cases ha
        rfl
  | error e =>
      constructor
      · intro hf
        cases hf
      · rintro ⟨a', ha, -⟩
        cases ha

/-- A statement that is run for what it writes, after others. -/
theorem discard_ok {x : Tx σ ε Unit} {y : Tx σ ε α} :
    (do x; discard y : Tx σ ε Unit) s = .ok ((), s') ↔
      ∃ s₁ a, x s = .ok ((), s₁) ∧ y s₁ = .ok (a, s') := by
  constructor
  · intro h
    obtain ⟨⟨⟩, s₁, hx, hy⟩ := bind_ok.mp h
    obtain ⟨a, ha, -⟩ := map_ok.mp hy
    exact ⟨s₁, a, hx, ha⟩
  · rintro ⟨s₁, a, hx, hy⟩
    exact bind_ok.mpr ⟨(), s₁, hx, map_ok.mpr ⟨a, hy, rfl⟩⟩

/-- A sequence is rolled back by its first half or by its second. -/
theorem bind_error {x : Tx σ ε α} {f : α → Tx σ ε β} {e : ε} :
    (x >>= f) s = .error e ↔
      x s = .error e ∨ ∃ a s₁, x s = .ok (a, s₁) ∧ f a s₁ = .error e := by
  rw [bind_apply]
  cases h : x s with
  | ok r =>
      obtain ⟨a, s₁⟩ := r
      simp
  | error e => simp

@[simp] theorem bind_read (f : σ → α) (g : α → Tx σ ε β) :
    ((read f : Tx σ ε α) >>= g) s = g (f s) s := rfl

@[simp] theorem bind_pure' (a : α) (g : α → Tx σ ε β) :
    ((pure a : Tx σ ε α) >>= g) s = g a s := rfl

@[simp] theorem bind_throw (e : ε) (g : α → Tx σ ε β) :
    ((throw e : Tx σ ε α) >>= g) s = .error e := rfl

/-! ## Frame conditions -/

/-- Every commit of the transaction relates its start and its end by `R`. -/
def Within (R : σ → σ → Prop) (x : Tx σ ε α) : Prop :=
  ∀ ⦃s a s'⦄, x s = .ok (a, s') → R s s'

section Within

variable {R : σ → σ → Prop}

theorem within_read [Std.Refl R] (f : σ → α) : Within R (read f : Tx σ ε α) := by
  intro s a s' h
  cases h
  exact Std.Refl.refl s

theorem within_pure [Std.Refl R] (a : α) : Within R (pure a : Tx σ ε α) := by
  intro s b s' h
  cases h
  exact Std.Refl.refl s

theorem within_throw (e : ε) : Within R (throw e : Tx σ ε α) := by
  intro s b s' h
  cases h

theorem within_bind [IsTrans σ R] {x : Tx σ ε α} {f : α → Tx σ ε β} (hx : Within R x)
    (hf : ∀ a, Within R (f a)) : Within R (x >>= f) := by
  intro s b s' h
  obtain ⟨a, s₁, h₁, h₂⟩ := bind_ok.mp h
  exact IsTrans.trans _ _ _ (hx h₁) (hf a h₂)

/-- The part of the state that `f` reads is left alone. -/
def Same (f : σ → β) (s s' : σ) : Prop := f s' = f s

instance (f : σ → β) : Std.Refl (Same f) := ⟨fun _ => rfl⟩

instance (f : σ → β) : IsTrans σ (Same f) := ⟨fun _ _ _ h h' => h'.trans h⟩

end Within

end Tx

/-! ## Statements -/

/-- The place of one table in a larger state. -/
structure Slot (σ : Type) (α : Type) [Schema α] where
  get : σ → Table α
  set : Table α → σ → σ
  set_get : ∀ s, set (get s) s = s := by intro; rfl

namespace Slot

open Schema

variable {σ ε α : Type} [Schema α] [DatabaseError ε] (T : Slot σ α)

/-- Insert one row and return it. -/
def create (row : Nat → α) (hk : ∀ k, key (row k) = k := by intro; rfl) : Tx σ ε α := fun s =>
  match (T.get s).create row hk with
  | some t => .ok (row (T.get s).nextKey, T.set t s)
  | none => .error DatabaseError.uniqueViolation

/-- Insert one row unless it would break an index; there is no result in that case. -/
def createOrIgnore (row : Nat → α) (hk : ∀ k, key (row k) = k := by intro; rfl) :
    Tx σ ε (Option α) := fun s =>
  match (T.get s).create row hk with
  | some t => .ok (some (row (T.get s).nextKey), T.set t s)
  | none => .ok (none, s)

/-- Rewrite the rows that satisfy a condition and return how many there were. -/
def updateMany (p : α → Bool) (f : α → α) (hf : ∀ r, key (f r) = key r := by intro; rfl) :
    Tx σ ε Nat := fun s =>
  match (T.get s).update p f hf with
  | some t => .ok ((T.get s).count p, T.set t s)
  | none => .error DatabaseError.uniqueViolation

/-- Rewrite the row with a primary key and return it as it then stands. -/
def update (k : Nat) (f : α → α) (hf : ∀ r, key (f r) = key r := by intro; rfl) :
    Tx σ ε α := fun s =>
  match (T.get s).get k, (T.get s).update (key · = k) f hf with
  | none, _ => .error DatabaseError.recordNotFound
  | some _, none => .error DatabaseError.uniqueViolation
  | some r, some t => .ok (f r, T.set t s)

/-- Delete the rows that satisfy a condition and return how many there were. -/
def deleteMany (p : α → Bool) : Tx σ ε Nat := fun s =>
  .ok ((T.get s).count p, T.set ((T.get s).delete p) s)

variable {T} {s s' : σ}

section Within

variable {R : σ → σ → Prop}

theorem within_create {row : Nat → α} {hk : ∀ k, key (row k) = k}
    (h : ∀ s t, (T.get s).create row hk = some t → R s (T.set t s)) :
    Tx.Within R (T.create row hk : Tx σ ε α) := by
  intro s r s' hs
  unfold create at hs
  split at hs
  · next t ht =>
    cases hs
    exact h s t ht
  · cases hs

omit [DatabaseError ε] in
theorem within_createOrIgnore [Std.Refl R] {row : Nat → α} {hk : ∀ k, key (row k) = k}
    (h : ∀ s t, (T.get s).create row hk = some t → R s (T.set t s)) :
    Tx.Within R (T.createOrIgnore row hk : Tx σ ε (Option α)) := by
  intro s r s' hs
  unfold createOrIgnore at hs
  split at hs
  · next t ht =>
    cases hs
    exact h s t ht
  · cases hs
    exact Std.Refl.refl s

theorem within_updateMany {p : α → Bool} {f : α → α} {hf : ∀ r, key (f r) = key r}
    (h : ∀ s t, (T.get s).update p f hf = some t → R s (T.set t s)) :
    Tx.Within R (T.updateMany p f hf : Tx σ ε Nat) := by
  intro s r s' hs
  unfold updateMany at hs
  split at hs
  · next t ht =>
    cases hs
    exact h s t ht
  · cases hs

theorem within_update {k : Nat} {f : α → α} {hf : ∀ r, key (f r) = key r}
    (h : ∀ s t, (T.get s).update (key · = k) f hf = some t → R s (T.set t s)) :
    Tx.Within R (T.update k f hf : Tx σ ε α) := by
  intro s r s' hs
  unfold update at hs
  split at hs
  · cases hs
  · cases hs
  · next ht =>
    cases hs
    exact h s _ ht

end Within

/-- A statement that cannot break an index is never rolled back. -/
theorem create_ne_error {row : Nat → α} {hk : ∀ k, key (row k) = k} {e : ε}
    (h : ∀ r ∈ T.get s, ¬ Clash r (row (T.get s).nextKey)) :
    (T.create row hk : Tx σ ε α) s ≠ .error e := by
  obtain ⟨t, ht⟩ : ∃ t, (T.get s).create row hk = some t := Table.exists_create h
  simp [create, ht]

theorem updateMany_ne_error {p : α → Bool} {f : α → α} {hf : ∀ r, key (f r) = key r} {e : ε}
    (h : ∀ a ∈ T.get s, ∀ b ∈ T.get s,
      Clash (if p a then f a else a) (if p b then f b else b) → Clash a b) :
    (T.updateMany p f hf : Tx σ ε Nat) s ≠ .error e := by
  obtain ⟨t, ht⟩ : ∃ t, (T.get s).update p f hf = some t := Table.exists_update h
  simp [updateMany, ht]

section Create

variable {row : Nat → α} {hk : ∀ k, key (row k) = k} {r : α} {e : ε}

/-- An insert that breaks no index succeeds. -/
theorem exists_create_ok (row : Nat → α) (hk : ∀ k, key (row k) = k)
    (h : ∀ r ∈ T.get s, ¬ Clash r (row (T.get s).nextKey)) :
    ∃ t, (T.get s).create row hk = some t ∧
      (T.create row hk : Tx σ ε α) s = .ok (row (T.get s).nextKey, T.set t s) := by
  obtain ⟨t, ht⟩ : ∃ t, (T.get s).create row hk = some t := Table.exists_create h
  exact ⟨t, ht, by simp [create, ht]⟩

theorem create_ok (h : (T.create row hk : Tx σ ε α) s = .ok (r, s')) :
    ∃ t, (T.get s).create row hk = some t ∧ r = row (T.get s).nextKey ∧ s' = T.set t s := by
  unfold create at h
  split at h
  · next t ht =>
    cases h
    exact ⟨t, ht, rfl, rfl⟩
  · cases h

theorem create_error (h : (T.create row hk : Tx σ ε α) s = .error e) :
    e = DatabaseError.uniqueViolation ∧
      ∃ r ∈ T.get s, Clash r (row (T.get s).nextKey) := by
  unfold create at h
  split at h
  · cases h
  · next ht =>
    cases h
    exact ⟨rfl, Table.create_none ht⟩

end Create

section Update

variable {p : α → Bool} {f : α → α} {hf : ∀ r, key (f r) = key r} {r : α} {e : ε}

theorem updateMany_ok {n : Nat} (h : (T.updateMany p f hf : Tx σ ε Nat) s = .ok (n, s')) :
    ∃ t, (T.get s).update p f hf = some t ∧ n = (T.get s).count p ∧ s' = T.set t s := by
  unfold updateMany at h
  split at h
  · next t ht =>
    cases h
    exact ⟨t, ht, rfl, rfl⟩
  · cases h

/-- An update that no row qualifies for goes through and changes nothing. -/
theorem updateMany_none (h : ∀ r ∈ T.get s, p r = false) :
    (T.updateMany p f hf : Tx σ ε Nat) s = .ok (0, s) := by
  obtain ⟨t, ht⟩ : ∃ t, (T.get s).update p f hf = some t :=
    Table.exists_update fun a ha b hb hclash => by simpa [h a ha, h b hb] using hclash
  have hcount : (T.get s).count p = 0 := Table.count_eq_zero.mpr h
  simp only [updateMany, ht, hcount, Table.update_eq_self ht h, T.set_get]

/-- An update whose condition fixes the primary key either rewrites one row or changes
nothing. -/
theorem updateMany_key_ok {n k : Nat} (hp : ∀ r, p r → key r = k)
    (h : (T.updateMany p f hf : Tx σ ε Nat) s = .ok (n, s')) :
    (n = 1 ∧ ∃ r t, (T.get s).get k = some r ∧ p r ∧ (T.get s).update p f hf = some t ∧
      s' = T.set t s) ∨
    (n ≠ 1 ∧ (∀ r ∈ T.get s, p r = false) ∧ s' = s) := by
  obtain ⟨t, ht, hn, rfl⟩ := updateMany_ok h
  by_cases h1 : n = 1
  · obtain ⟨r, hr, hpr⟩ := (Table.count_eq_one hp).mp (hn ▸ h1)
    exact .inl ⟨h1, r, t, hr, hpr, ht, rfl⟩
  · have hnone := Table.count_ne_one hp (hn ▸ h1)
    refine .inr ⟨h1, hnone, ?_⟩
    rw [Table.update_eq_self ht hnone, T.set_get]

theorem updateMany_error (h : (T.updateMany p f hf : Tx σ ε Nat) s = .error e) :
    e = DatabaseError.uniqueViolation ∧
      ∃ a ∈ T.get s, ∃ b ∈ T.get s, a ≠ b ∧
        Clash (if p a then f a else a) (if p b then f b else b) := by
  unfold updateMany at h
  split at h
  · cases h
  · next ht =>
    cases h
    exact ⟨rfl, Table.update_none ht⟩

/-- An update whose condition fixes the primary key clashes with another row. -/
theorem updateMany_key_error {k : Nat} (hp : ∀ r, p r → key r = k)
    (h : (T.updateMany p f hf : Tx σ ε Nat) s = .error e) :
    e = DatabaseError.uniqueViolation ∧
      ∃ a ∈ T.get s, p a ∧ ∃ b ∈ T.get s, key b ≠ k ∧ Clash (f a) b := by
  obtain ⟨he, a, ha, b, hb, hne, hclash⟩ := updateMany_error h
  have other : ∀ {a b}, a ∈ T.get s → b ∈ T.get s → a ≠ b → p a → key b ≠ k :=
    fun ha hb hne hpa hk => hne (Table.eq_of_key ha hb ((hp _ hpa).trans hk.symm))
  refine ⟨he, ?_⟩
  by_cases hpa : p a
  · have hbk := other ha hb hne hpa
    rw [if_pos hpa, if_neg fun hpb => hbk (hp b hpb)] at hclash
    exact ⟨a, ha, hpa, b, hb, hbk, hclash⟩
  · rw [if_neg hpa] at hclash
    split at hclash
    · next hpb =>
      exact ⟨b, hb, hpb, a, ha, other hb ha hne.symm hpb, clash_symm hclash⟩
    · exact absurd hclash (Table.apart ha hb hne).2

theorem update_ok {k : Nat} (h : (T.update k f hf : Tx σ ε α) s = .ok (r, s')) :
    ∃ r₀ t, (T.get s).get k = some r₀ ∧ (T.get s).update (key · = k) f hf = some t ∧
      r = f r₀ ∧ s' = T.set t s := by
  unfold update at h
  split at h
  · cases h
  · cases h
  · next r₀ t hr ht =>
    cases h
    exact ⟨r₀, t, hr, ht, rfl, rfl⟩

/-- An update of a row that is there and breaks no index succeeds. -/
theorem exists_update_ok {k : Nat} (hr : (T.get s).get k = some r)
    (h : ∀ a ∈ T.get s, ∀ b ∈ T.get s,
      Clash (if key a = k then f a else a) (if key b = k then f b else b) → Clash a b) :
    ∃ t, (T.update k f hf : Tx σ ε α) s = .ok (f r, T.set t s) ∧
      ∀ k', t.get k' = if k' = k then some (f r) else (T.get s).get k' := by
  obtain ⟨t, ht⟩ : ∃ t, (T.get s).update (key · = k) f hf = some t :=
    Table.exists_update fun a ha b hb hclash => h a ha b hb (by simpa using hclash)
  refine ⟨t, by simp [update, hr, ht], fun k' => ?_⟩
  exact Table.get_update_key ht (fun x hx => by simpa using hx) hr
    (by simpa using (Table.get_eq_some.mp hr).2) k'

theorem update_error {k : Nat} (h : (T.update k f hf : Tx σ ε α) s = .error e) :
    (T.get s).get k = none ∧ e = DatabaseError.recordNotFound ∨
      e = DatabaseError.uniqueViolation ∧
        ∃ a ∈ T.get s, ∃ b ∈ T.get s, a ≠ b ∧
          Clash (if key a = k then f a else a) (if key b = k then f b else b) := by
  unfold update at h
  split at h
  · next hr =>
    cases h
    exact .inl ⟨hr, rfl⟩
  · next ht =>
    cases h
    exact .inr ⟨rfl, by simpa using Table.update_none ht⟩
  · cases h

end Update

end Slot

end Relational
