import Mathlib.Data.Set.Insert
import Mathlib.Logic.Function.Basic
import Mathlib.Logic.Relation

/-!
# Lineages

An item that can be renewed is a root or the renewal of an earlier item. Renewing an item ends
it and makes a new one in its place. `Step` has the three ways a lineage changes; `may` restricts
which items may be renewed.

Where only live items are renewed, an item is renewed once, and what descends from an item that
has ended together with its descendants never lives again.
-/

namespace Concurrent

/-- Where an item comes from. A root carries a label. -/
inductive Source (ι α : Type) where
  | root (a : α)
  | renewal (p : ι)
deriving DecidableEq, Repr

@[ext]
structure Lineage (ι α : Type) where
  source : ι → Option (Source ι α)
  live : Set ι

namespace Lineage

variable {ι α : Type}

section

variable (L : Lineage ι α)

def Renews (x p : ι) : Prop := L.source x = some (.renewal p)

def Descends : ι → ι → Prop := Relation.ReflTransGen L.Renews

/-- The item goes back to a root with the label. -/
def Obtained (x : ι) (a : α) : Prop := ∃ r, L.Descends x r ∧ L.source r = some (.root a)

/-- Every item there is has a source. -/
structure Grown : Prop where
  live_known : ∀ x ∈ L.live, (L.source x).isSome
  renewed_known : ∀ x p, L.Renews x p → (L.source p).isSome

/-- Nothing that descends from the items lives. -/
def Dead (K : Set ι) : Prop := ∀ s ∈ K, ∀ x, L.Descends x s → x ∉ L.live

/-- An item that has been renewed does not live, and was renewed once. -/
structure Once : Prop where
  ended : ∀ x p, L.Renews x p → p ∉ L.live
  unique : ∀ x y p, L.Renews x p → L.Renews y p → x = y

/-- What lives was obtained as `G` says. -/
def Vouched (G : ι → α → Prop) : Prop := ∀ x ∈ L.live, ∀ a, L.Obtained x a → G x a

def kill (K : Set ι) : Lineage ι α := { L with live := L.live \ K }

variable [DecidableEq ι]

def add (x : ι) (s : Source ι α) : Lineage ι α :=
  ⟨Function.update L.source x (some s), insert x L.live⟩

inductive Step (may : Lineage ι α → ι → Prop) (L : Lineage ι α) : Lineage ι α → Prop
  | root {x : ι} {a : α} (hx : L.source x = none) : Step may L (L.add x (.root a))
  | renew {x p : ι} (hx : L.source x = none) (hp : (L.source p).isSome) (hmay : may L p) :
      Step may L ((L.add x (.renewal p)).kill {p})
  | kill (K : Set ι) : Step may L (L.kill K)

end

/-- Only live items are renewed. -/
def Live (L : Lineage ι α) (p : ι) : Prop := p ∈ L.live

variable {L L' : Lineage ι α} {x p s : ι} {K : Set ι}

@[simp] theorem source_kill : (L.kill K).source = L.source := rfl

@[simp] theorem mem_live_kill : x ∈ (L.kill K).live ↔ x ∈ L.live ∧ x ∉ K := Iff.rfl

@[simp] theorem kill_empty : L.kill ∅ = L := by
  ext <;> simp [kill]

theorem Grown.kill (hg : L.Grown) (K : Set ι) : (L.kill K).Grown :=
  ⟨fun y hy => hg.live_known y hy.1, hg.renewed_known⟩

theorem Dead.kill (h : L.Dead K) (K' : Set ι) : (L.kill K').Dead K :=
  fun s hs x hx hlive => h s hs x hx hlive.1

section Add

variable [DecidableEq ι] {src : Source ι α}

@[simp] theorem source_add_self : (L.add x src).source x = some src := by simp [add]

theorem source_add_of_ne {y : ι} (h : y ≠ x) : (L.add x src).source y = L.source y := by
  simp [add, h]

@[simp] theorem mem_live_add {y : ι} : y ∈ (L.add x src).live ↔ y = x ∨ y ∈ L.live := Iff.rfl

/-- What was there before has the source it had. -/
theorem source_add_known {y : ι} (hx : L.source x = none) (hy : (L.source y).isSome) :
    (L.add x src).source y = L.source y := by
  refine source_add_of_ne fun he => ?_
  rw [he, hx] at hy
  cases hy

/-- The ancestors of what was there before are those it had. -/
theorem descends_add_known (hg : L.Grown) (hx : L.source x = none) {y : ι}
    (hy : (L.source y).isSome) (h : (L.add x src).Descends y s) :
    L.Descends y s := by
  induction h using Relation.ReflTransGen.head_induction_on with
  | refl => exact .refl
  | @head y p hyp _ ih =>
      have hold : L.Renews y p := (source_add_known hx hy).symm.trans hyp
      exact .head hold (ih (hg.renewed_known y p hold))

/-- The new item comes from its source. -/
theorem descends_add_new (hg : L.Grown) (hx : L.source x = none)
    (h : (L.add x src).Descends x s) (hp : ∀ p, src = .renewal p → (L.source p).isSome) :
    x = s ∨ ∃ p, src = .renewal p ∧ L.Descends p s := by
  obtain rfl | ⟨p, hxp, hps⟩ := Relation.ReflTransGen.cases_head h
  · exact .inl rfl
  · have hsrc : src = .renewal p := Option.some.inj (source_add_self.symm.trans hxp)
    exact .inr ⟨p, hsrc, descends_add_known hg hx (hp p hsrc) hps⟩

end Add

variable [DecidableEq ι] {may : Lineage ι α → ι → Prop}

theorem Grown.add (hg : L.Grown) {src : Source ι α} (hx : L.source x = none)
    (hp : ∀ p, src = .renewal p → (L.source p).isSome) : (L.add x src).Grown := by
  have hknown : ∀ y, (L.source y).isSome → ((L.add x src).source y).isSome := fun y hy =>
    (source_add_known hx hy).symm ▸ hy
  refine ⟨fun y hy => ?_, fun y p hyp => ?_⟩
  · obtain rfl | hy := hy
    · simp
    · exact hknown y (hg.live_known y hy)
  · by_cases hyx : y = x
    · subst hyx
      exact hknown p (hp p (Option.some.inj (source_add_self.symm.trans hyp)))
    · exact hknown p (hg.renewed_known y p ((source_add_of_ne hyx).symm.trans hyp))

theorem Step.mono {may' : Lineage ι α → ι → Prop} (h : Step may L L')
    (hmay : ∀ p, may L p → may' L p) : Step may' L L' := by
  cases h with
  | root hx => exact .root hx
  | renew hx hp hp' => exact .renew hx hp (hmay _ hp')
  | kill K => exact .kill K

/-- A new renewal is one that may be made. -/
theorem Step.renewed (h : Step may L L') (hx : L.source x = none) (hxp : L'.Renews x p) :
    may L p := by
  have hnot : ¬ L.Renews x p := fun hold => by cases hx.symm.trans hold
  cases h with
  | @root y a hy =>
      by_cases hyx : x = y
      · subst hyx
        cases source_add_self.symm.trans hxp
      · exact absurd ((source_add_of_ne hyx).symm.trans hxp) hnot
  | @renew y q hy hq hmay =>
      by_cases hyx : x = y
      · subst hyx
        cases source_add_self.symm.trans hxp
        exact hmay
      · exact absurd ((source_add_of_ne hyx).symm.trans hxp) hnot
  | kill K => exact absurd hxp hnot

/-- Nothing happens. -/
theorem Step.refl (may : Lineage ι α → ι → Prop) (L : Lineage ι α) : Step may L L := by
  have h : Step may L (L.kill ∅) := .kill ∅
  rwa [kill_empty] at h

theorem Grown.step (hg : L.Grown) (h : Step may L L') : L'.Grown := by
  cases h with
  | root hx => exact hg.add hx fun p hp => by cases hp
  | @renew x p hx hp hmay =>
      refine (hg.add hx fun q hq => ?_).kill _
      cases hq
      exact hp
  | kill K => exact hg.kill K

/-- No step takes a source away. -/
theorem Step.known (h : Step may L L') {y : ι} (hy : (L.source y).isSome) :
    L'.source y = L.source y := by
  cases h with
  | root hx => exact source_add_known hx hy
  | renew hx hp hmay => exact source_add_known hx hy
  | kill K => rfl

/-- What has ended with its descendants stays so. -/
theorem Dead.step (hg : L.Grown) (hK : ∀ s ∈ K, (L.source s).isSome) (h : L.Dead K)
    (hstep : Step Live L L') : L'.Dead K := by
  -- the new item descends from no item of `K` through a live one
  have hadd : ∀ {x : ι} {src : Source ι α}, L.source x = none →
      (∀ p, src = .renewal p → p ∈ L.live) → (L.add x src).Dead K := by
    intro x src hx hsrc s hs y hy hlive
    have hp : ∀ p, src = .renewal p → (L.source p).isSome := fun p hp =>
      hg.live_known p (hsrc p hp)
    obtain rfl | hylive := hlive
    · obtain rfl | ⟨p, hsrcp, hps⟩ := descends_add_new hg hx hy hp
      · have hknown := hK y hs
        rw [hx] at hknown
        cases hknown
      · exact h s hs p hps (hsrc p hsrcp)
    · exact h s hs y (descends_add_known hg hx (hg.live_known y hylive) hy) hylive
  cases hstep with
  | root hx => exact hadd hx fun p hp => by cases hp
  | renew hx hp hmay =>
      refine (hadd hx fun q hq => ?_).kill _
      cases hq
      exact hmay
  | kill K' => exact h.kill K'

theorem Once.step (hg : L.Grown) (h : L.Once) (hstep : Step Live L L') : L'.Once := by
  cases hstep with
  | @root x a hx =>
      have hold : ∀ y p, (L.add x (.root a)).Renews y p → L.Renews y p := by
        intro y p hyp
        by_cases hyx : y = x
        · subst hyx
          cases source_add_self.symm.trans hyp
        · exact (source_add_of_ne hyx).symm.trans hyp
      refine ⟨fun y p hyp hlive => ?_,
        fun y z p hy hz => h.unique y z p (hold y p hy) (hold z p hz)⟩
      obtain rfl | hlive := hlive
      · have hknown := hg.renewed_known y p (hold y p hyp)
        rw [hx] at hknown
        cases hknown
      · exact h.ended y p (hold y p hyp) hlive
  | @renew x q hx hq hmay =>
      -- a renewal is one there was, or the new one
      have hcases : ∀ y p, (L.add x (.renewal q)).Renews y p → L.Renews y p ∨ (y = x ∧ p = q) := by
        intro y p hyp
        by_cases hyx : y = x
        · subst hyx
          cases source_add_self.symm.trans hyp
          exact .inr ⟨rfl, rfl⟩
        · exact .inl ((source_add_of_ne hyx).symm.trans hyp)
      refine ⟨fun y p hyp hlive => ?_, fun y z p hy hz => ?_⟩
      · obtain ⟨hlive, hne⟩ := hlive
        obtain hold | ⟨-, rfl⟩ := hcases y p hyp
        · obtain rfl | hlive := hlive
          · have hknown := hg.renewed_known y p hold
            rw [hx] at hknown
            cases hknown
          · exact h.ended y p hold hlive
        · exact hne rfl
      · obtain hy₁ | ⟨rfl, rfl⟩ := hcases y p hy
        · obtain hz₁ | ⟨rfl, rfl⟩ := hcases z p hz
          · exact h.unique y z p hy₁ hz₁
          · exact absurd hmay (h.ended y p hy₁)
        · obtain hz₁ | ⟨rfl, -⟩ := hcases z p hz
          · exact absurd hmay (h.ended z p hz₁)
          · rfl
  | kill K => exact ⟨fun y p hyp hlive => h.ended y p hyp hlive.1, h.unique⟩

/-- What is asked of a step that what lives stays vouched for: a new root is, and the renewal of
an item is where the item was. -/
theorem Vouched.step {G G' : ι → α → Prop} (hg : L.Grown) (h : L.Vouched G)
    (hstep : Step Live L L')
    (hroot : ∀ x a, L.source x = none → L'.source x = some (.root a) → G' x a)
    (hrenew : ∀ x p a, L.source x = none → L'.Renews x p → p ∈ L.live → G p a → G' x a)
    (hkeep : ∀ x ∈ L.live, x ∈ L'.live → ∀ a, G x a → G' x a) : L'.Vouched G' := by
  have hold : ∀ x a, (L.source x).isSome → L'.Obtained x a → L.Obtained x a := by
    intro x a hx ⟨r, hxr, hr⟩
    have hdesc : L.Descends x r ∧ (L.source r).isSome := by
      induction hxr using Relation.ReflTransGen.head_induction_on with
      | refl => exact ⟨.refl, hx⟩
      | @head y q hyq _ ih =>
          have hyq' : L.Renews y q := (hstep.known hx).symm.trans hyq
          obtain ⟨hqr, hknown⟩ := ih (hg.renewed_known y q hyq')
          exact ⟨.head hyq' hqr, hknown⟩
    exact ⟨r, hdesc.1, (hstep.known hdesc.2).symm.trans hr⟩
  intro x hx a hobtained
  cases hsource : L.source x with
  | some src =>
      have hlive : x ∈ L.live := by
        cases hstep with
        | root hnew =>
            obtain rfl | hx := hx
            · rw [hnew] at hsource
              cases hsource
            · exact hx
        | renew hnew hp hmay =>
            obtain ⟨rfl | hx, -⟩ := hx
            · rw [hnew] at hsource
              cases hsource
            · exact hx
        | kill K => exact hx.1
      exact hkeep x hlive hx a (h x hlive a (hold x a (by rw [hsource]; rfl) hobtained))
  | none =>
      obtain ⟨r, hxr, hr⟩ := hobtained
      obtain rfl | ⟨p, hxp, hpr⟩ := Relation.ReflTransGen.cases_head hxr
      · exact hroot x a hsource hr
      · have hp : p ∈ L.live := hstep.renewed hsource hxp
        exact hrenew x p a hsource hxp hp
          (h p hp a (hold p a (hg.live_known p hp) ⟨r, hpr, hr⟩))

/-! ## Any number of steps -/

theorem Grown.steps (hg : L.Grown) (h : Relation.ReflTransGen (Step may) L L') : L'.Grown := by
  induction h with
  | refl => exact hg
  | tail _ hstep ih => exact ih.step hstep

theorem known_steps (h : Relation.ReflTransGen (Step may) L L') (hs : (L.source s).isSome) :
    L'.source s = L.source s := by
  induction h with
  | refl => rfl
  | @tail M M' _ hstep ih => exact (hstep.known (ih ▸ hs)).trans ih

theorem Dead.steps (hg : L.Grown) (hK : ∀ s ∈ K, (L.source s).isSome) (h : L.Dead K)
    (hsteps : Relation.ReflTransGen (Step Live) L L') : L'.Dead K := by
  induction hsteps with
  | refl => exact h
  | tail hbefore hstep ih =>
      refine ih.step (hg.steps hbefore) (fun s hs => ?_) hstep
      rw [known_steps hbefore (hK s hs)]
      exact hK s hs

theorem Once.steps (hg : L.Grown) (h : L.Once)
    (hsteps : Relation.ReflTransGen (Step Live) L L') : L'.Once := by
  induction hsteps with
  | refl => exact h
  | tail hbefore hstep ih => exact ih.step (hg.steps hbefore) hstep

end Lineage

end Concurrent
