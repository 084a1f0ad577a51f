import PrintForge.Relational.Transaction

/-!
# References between tables

A row may name rows of other tables by their primary keys. `Refers t ref tag u label` says
more than that the rows named are there: each carries the label its referrer expects. The
label is a column that never changes, such as the owner of a row, so a reference that was good
when it was written stays good while the table it leads to only evolves.
-/

namespace Relational

open Schema

namespace Table

variable {α β γ : Type} [Schema α] [Schema β]

/-- The row with this key and this label is there. -/
def Labelled (u : Table β) (label : β → γ) (k : Nat) (c : γ) : Prop :=
  ∃ r ∈ u, key r = k ∧ label r = c

/-- Every reference from `t` leads to a row of `u` with the label it expects. -/
def Refers (t : Table α) (ref : α → Option Nat) (tag : α → γ) (u : Table β) (label : β → γ) :
    Prop :=
  ∀ r ∈ t, ∀ k ∈ ref r, Labelled u label k (tag r)

/-- Rows stay and keep their labels. -/
abbrev Keeps (label : β → γ) : Table β → Table β → Prop := Evolves (Tx.Same label)

variable {t t' : Table α} {u u' : Table β} {ref : α → Option Nat} {tag : α → γ} {label : β → γ}

theorem labelled_of_get {k : Nat} {c : γ} {r : β} (h : u.get k = some r) (hc : label r = c) :
    Labelled u label k c :=
  ⟨r, (get_eq_some.mp h).1, (get_eq_some.mp h).2, hc⟩

theorem Labelled.later {k : Nat} {c : γ} (h : Labelled u label k c) (hu : Keeps label u u') :
    Labelled u' label k c := by
  obtain ⟨r, hr, hk, hc⟩ := h
  obtain ⟨r', hr', hk', hlabel⟩ := hu r hr
  exact ⟨r', hr', hk'.trans hk, hlabel.trans hc⟩

theorem refers_empty : Refers (empty : Table α) ref tag u label :=
  fun r hr => absurd hr (not_mem_empty r)

/-- The table referred to may evolve. -/
theorem Refers.later (h : Refers t ref tag u label) (hu : Keeps label u u') :
    Refers t ref tag u' label :=
  fun r hr k hk => (h r hr k hk).later hu

theorem Refers.create {row : Nat → α} {hk} (h : Refers t ref tag u label)
    (ht : t.create row hk = some t')
    (hrow : ∀ k ∈ ref (row t.nextKey), Labelled u label k (tag (row t.nextKey))) :
    Refers t' ref tag u label := by
  intro r hr k hk
  obtain hr | rfl := (mem_create ht).mp hr
  · exact h r hr k hk
  · exact hrow k hk

/-- An update that keeps the tags and moves references to labelled rows only. -/
theorem Refers.update {p : α → Bool} {f : α → α} {hf} (h : Refers t ref tag u label)
    (ht : t.update p f hf = some t')
    (hrow : ∀ r ∈ t, p r → tag (f r) = tag r ∧
      ∀ k ∈ ref (f r), k ∈ ref r ∨ Labelled u label k (tag r)) :
    Refers t' ref tag u label := by
  intro r hr k hk
  obtain ⟨r₀, hr₀, rfl⟩ := (mem_update ht).mp hr
  split at hk
  · next hp =>
    obtain ⟨htag, hmoved⟩ := hrow r₀ hr₀ hp
    rw [if_pos hp, htag]
    obtain hkept | hnew := hmoved k hk
    · exact h r₀ hr₀ k hkept
    · exact hnew
  · next hp =>
    rw [if_neg hp]
    exact h r₀ hr₀ k hk

theorem Refers.delete {p : α → Bool} (h : Refers t ref tag u label) :
    Refers (t.delete p) ref tag u label :=
  fun r hr => h r (mem_delete.mp hr).1

end Table

end Relational
