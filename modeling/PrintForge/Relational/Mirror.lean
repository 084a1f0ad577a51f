import PrintForge.Relational.Transaction

/-!
# Transactions run from two states

`Mirrors R Bad x` compares the run of a transaction `x` from a state `s` with its run from a
state `q` that is related to `s` by `R`. Where the run from `s` commits, the run from `q`
commits the same result and the ends are related again. Where the run from `s` is rolled back
and the one from `q` commits all the same, the end of the latter is `Bad`.

With `q` as `s` without some of its rows and `Bad` as the presence of a row that clashes with
one of those left out, this says that the rows left out can do nothing but forbid an insert.
-/

namespace Relational

open Schema

namespace Tx

variable {σ ε α β : Type} {R : σ → σ → Prop} {Bad : σ → Prop}

structure Mirrors (R : σ → σ → Prop) (Bad : σ → Prop) (x : Tx σ ε α) : Prop where
  ok : ∀ {s q a s'}, R s q → x s = .ok (a, s') → ∃ q', x q = .ok (a, q') ∧ R s' q'
  error : ∀ {s q e b q'}, R s q → x s = .error e → x q = .ok (b, q') → Bad q'
  bad : ∀ {s a s'}, x s = .ok (a, s') → Bad s → Bad s'

theorem mirrors_read {f : σ → α} (h : ∀ s q, R s q → f s = f q) :
    Mirrors R Bad (read f : Tx σ ε α) where
  ok := by
    intro s q a s' hR hx
    cases hx
    exact ⟨q, by rw [read_apply, h s q hR], hR⟩
  error := by
    intro s q e b q' _ hx _
    cases hx
  bad := by
    intro s a s' hx hs
    cases hx
    exact hs

theorem mirrors_pure (a : α) : Mirrors R Bad (pure a : Tx σ ε α) where
  ok := by
    intro s q b s' hR hx
    cases hx
    exact ⟨q, rfl, hR⟩
  error := by
    intro s q e b q' _ hx _
    cases hx
  bad := by
    intro s b s' hx hs
    cases hx
    exact hs

theorem mirrors_throw (e : ε) : Mirrors R Bad (throw e : Tx σ ε α) where
  ok := by
    intro s q b s' _ hx
    cases hx
  error := by
    intro s q e b q' _ _ hx
    cases hx
  bad := by
    intro s b s' hx
    cases hx

theorem mirrors_modify {f : σ → σ} (h : ∀ s q, R s q → R (f s) (f q))
    (hbad : ∀ s, Bad s → Bad (f s)) : Mirrors R Bad (modify f : Tx σ ε PUnit) where
  ok := by
    intro s q b s' hR hx
    cases hx
    exact ⟨f q, rfl, h s q hR⟩
  error := by
    intro s q e b q' _ hx _
    cases hx
  bad := by
    intro s b s' hx hs
    cases hx
    exact hbad s hs

/-- A sequence goes wrong in its first half, which the second half does not undo, or in its
second. -/
theorem Mirrors.bind {x : Tx σ ε α} {f : α → Tx σ ε β} (hx : Mirrors R Bad x)
    (hf : ∀ a, Mirrors R Bad (f a)) : Mirrors R Bad (x >>= f) where
  ok := by
    intro s q b s' hR h
    obtain ⟨a, s₁, h₁, h₂⟩ := bind_ok.mp h
    obtain ⟨q₁, hq₁, hR₁⟩ := hx.ok hR h₁
    obtain ⟨q', hq', hR'⟩ := (hf a).ok hR₁ h₂
    exact ⟨q', bind_ok.mpr ⟨a, q₁, hq₁, hq'⟩, hR'⟩
  error := by
    intro s q e b q' hR h hq
    obtain ⟨a, q₁, hq₁, hq₂⟩ := bind_ok.mp hq
    obtain h₁ | ⟨a', s₁, h₁, h₂⟩ := bind_error.mp h
    · exact (hf a).bad hq₂ (hx.error hR h₁ hq₁)
    · obtain ⟨q₁', hq₁', hR₁⟩ := hx.ok hR h₁
      obtain ⟨rfl, rfl⟩ : a' = a ∧ q₁' = q₁ := by
        rw [hq₁'] at hq₁
        cases hq₁
        exact ⟨rfl, rfl⟩
      exact (hf a').error hR₁ h₂ hq₂
  bad := by
    intro s b s' h hs
    obtain ⟨a, s₁, h₁, h₂⟩ := bind_ok.mp h
    exact (hf a).bad h₂ (hx.bad h₁ hs)

/-- A computation that writes nothing, and reads only what both states share. -/
theorem mirrors_of_reader {x : Tx σ ε α} {f : σ → Except ε α}
    (hx : ∀ s, x s = (f s).map fun a => (a, s)) (hf : ∀ s q, R s q → f s = f q) :
    Mirrors R Bad x where
  ok := by
    intro s q a s' hR h
    rw [hx] at h
    obtain ⟨b, hb, he⟩ : ∃ b, f s = .ok b ∧ (b, s) = (a, s') := by
      cases hfs : f s with
      | ok b => exact ⟨b, rfl, by simpa [hfs, Except.map] using h⟩
      | error e => simp [hfs, Except.map] at h
    cases he
    refine ⟨q, ?_, hR⟩
    rw [hx, ← hf s q hR, hb]
    rfl
  error := by
    intro s q e b q' hR h hq
    rw [hx] at h hq
    rw [← hf s q hR] at hq
    cases hfs : f s with
    | ok b => simp [hfs, Except.map] at h
    | error e => simp [hfs, Except.map] at hq
  bad := by
    intro s a s' h hs
    rw [hx] at h
    cases hfs : f s with
    | ok b =>
        obtain ⟨-, rfl⟩ : b = a ∧ s = s' := by simpa [hfs, Except.map] using h
        exact hs
    | error e => simp [hfs, Except.map] at h

end Tx

namespace Slot

variable {σ ε α : Type} [Schema α] [DatabaseError ε] {T : Slot σ α}
variable {R : σ → σ → Prop} {Bad : σ → Prop}

/-- A table that both states share, and whose writes do not look at what they differ in. -/
structure Shared (T : Slot σ α) (R : σ → σ → Prop) (Bad : σ → Prop) : Prop where
  get : ∀ {s q}, R s q → T.get s = T.get q
  set : ∀ {s q} (t : Table α), R s q → R (T.set t s) (T.set t q)
  bad : ∀ {s} (t : Table α), Bad s → Bad (T.set t s)

section Shared

variable {p : α → Bool} {f : α → α} {hf : ∀ r, key (f r) = key r}

theorem Shared.create (h : T.Shared R Bad) (row : Nat → α) (hk : ∀ k, key (row k) = k) :
    Tx.Mirrors R Bad (T.create row hk : Tx σ ε α) where
  ok := by
    intro s q a s' hR hx
    obtain ⟨t, ht, rfl, rfl⟩ := create_ok hx
    refine ⟨T.set t q, ?_, h.set t hR⟩
    rw [h.get hR] at ht ⊢
    simp [Slot.create, ht]
  error := by
    intro s q e b q' hR hx hq
    obtain ⟨t, ht, -⟩ := create_ok hq
    rw [← h.get hR] at ht
    simp [Slot.create, ht] at hx
  bad := by
    intro s a s' hx hs
    obtain ⟨t, -, -, rfl⟩ := create_ok hx
    exact h.bad t hs

theorem Shared.updateMany (h : T.Shared R Bad) :
    Tx.Mirrors R Bad (T.updateMany p f hf : Tx σ ε Nat) where
  ok := by
    intro s q a s' hR hx
    obtain ⟨t, ht, rfl, rfl⟩ := updateMany_ok hx
    refine ⟨T.set t q, ?_, h.set t hR⟩
    rw [h.get hR] at ht ⊢
    simp [Slot.updateMany, ht]
  error := by
    intro s q e b q' hR hx hq
    obtain ⟨t, ht, -⟩ := updateMany_ok hq
    rw [← h.get hR] at ht
    simp [Slot.updateMany, ht] at hx
  bad := by
    intro s a s' hx hs
    obtain ⟨t, -, -, rfl⟩ := updateMany_ok hx
    exact h.bad t hs

theorem Shared.update (h : T.Shared R Bad) (k : Nat) :
    Tx.Mirrors R Bad (T.update k f hf : Tx σ ε α) where
  ok := by
    intro s q a s' hR hx
    obtain ⟨r, t, hr, ht, rfl, rfl⟩ := update_ok hx
    refine ⟨T.set t q, ?_, h.set t hR⟩
    rw [h.get hR] at hr ht
    simp [Slot.update, hr, ht]
  error := by
    intro s q e b q' hR hx hq
    obtain ⟨r, t, hr, ht, -⟩ := update_ok hq
    rw [← h.get hR] at hr ht
    simp [Slot.update, hr, ht] at hx
  bad := by
    intro s a s' hx hs
    obtain ⟨r, t, -, -, -, rfl⟩ := update_ok hx
    exact h.bad t hs

omit [DatabaseError ε] in
theorem Shared.createOrIgnore (h : T.Shared R Bad) (row : Nat → α)
    (hk : ∀ k, key (row k) = k) :
    Tx.Mirrors R Bad (T.createOrIgnore row hk : Tx σ ε (Option α)) where
  ok := by
    intro s q a s' hR hx
    unfold Slot.createOrIgnore at hx ⊢
    rw [← h.get hR]
    split at hx
    · next t ht =>
      cases hx
      exact ⟨T.set t q, rfl, h.set t hR⟩
    · next ht =>
      cases hx
      exact ⟨q, rfl, hR⟩
  error := by
    intro s q e b q' hR hx _
    unfold Slot.createOrIgnore at hx
    split at hx <;> cases hx
  bad := by
    intro s a s' hx hs
    unfold Slot.createOrIgnore at hx
    split at hx
    · next t _ =>
      cases hx
      exact h.bad t hs
    · cases hx
      exact hs

end Shared

end Slot

end Relational
