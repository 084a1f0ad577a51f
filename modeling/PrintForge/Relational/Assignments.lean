import Mathlib.Data.List.MinMax
import Mathlib.Data.List.Sort
import Mathlib.Logic.Function.Basic
import Mathlib.Tactic.Common

/-!
# Assignments in order

A loop over rows that sets the entry of a map which each row names leaves, at every key, what
the last row for that key has assigned. Over rows in the order of a rank, the last one is the
one with the greatest rank.
-/

namespace Relational

variable {ρ κ ν : Type} [DecidableEq κ]

/-- Set the entry that the row names, if it names one. -/
def assign (target : ρ → Option (κ × ν)) (m : κ → ν) (r : ρ) : κ → ν :=
  match target r with
  | some (k, v) => Function.update m k v
  | none => m

/-- What a row assigns to one key. -/
def assigned (target : ρ → Option (κ × ν)) (k : κ) (r : ρ) : Option ν :=
  (target r).bind fun p => if p.1 = k then some p.2 else none

variable {target : ρ → Option (κ × ν)} {m : κ → ν} {k : κ} {rows : List ρ}

theorem assign_apply (r : ρ) : assign target m r k = (assigned target k r).getD (m k) := by
  unfold assign assigned
  cases target r with
  | none => rfl
  | some p =>
      by_cases hk : p.1 = k
      · subst hk
        simp
      · simp [hk, Function.update_of_ne (Ne.symm hk)]

/-- The last row that assigns to a key decides. -/
theorem foldl_assign (rows : List ρ) (m : κ → ν) :
    rows.foldl (assign target) m k =
      (rows.reverse.findSome? (assigned target k)).getD (m k) := by
  induction rows generalizing m with
  | nil => rfl
  | cons r rows ih =>
      rw [List.foldl_cons, ih, List.reverse_cons, List.findSome?_append, assign_apply]
      cases rows.reverse.findSome? (assigned target k) with
      | some v => rfl
      | none =>
          rw [List.findSome?_cons, Option.none_or]
          cases assigned target k r with
          | none => rfl
          | some v => rfl

/-- What stands at a key has been assigned by a row, or has been there before. -/
theorem foldl_assign_cases (target : ρ → Option (κ × ν)) (rows : List ρ) (m : κ → ν) (k : κ) :
    (∃ r ∈ rows, assigned target k r = some (rows.foldl (assign target) m k)) ∨
      ((∀ r ∈ rows, assigned target k r = none) ∧ rows.foldl (assign target) m k = m k) := by
  rw [foldl_assign]
  cases hfind : rows.reverse.findSome? (assigned target k) with
  | none =>
      refine .inr ⟨fun r hr => ?_, rfl⟩
      exact List.findSome?_eq_none_iff.mp hfind r (List.mem_reverse.mpr hr)
  | some v =>
      obtain ⟨r, hr, hv⟩ := List.exists_of_findSome?_eq_some hfind
      exact .inl ⟨r, List.mem_reverse.mp hr, hv⟩

/-- Over rows sorted by a rank without ties, the row with the greatest rank decides, provided
that it assigns anything. -/
theorem foldl_assign_sorted {rank : ρ → Nat} {p : ρ → Bool} {r : ρ} {v : ν}
    (hinj : ∀ a ∈ rows, ∀ b ∈ rows, rank a = rank b → a = b)
    (hp : ∀ a ∈ rows, assigned target k a ≠ none → p a = true)
    (hr : r ∈ (rows.filter p).argmax rank) (hv : assigned target k r = some v) :
    (rows.mergeSort fun a b => rank a ≤ rank b).foldl (assign target) m k = v := by
  have hmem : r ∈ rows.filter p := List.argmax_mem hr
  have hrank : ((rows.mergeSort fun a b => rank a ≤ rank b).reverse).Pairwise
      fun a b => rank b ≤ rank a := by
    refine List.pairwise_reverse.mpr (List.Pairwise.imp (fun h => of_decide_eq_true h)
      (List.pairwise_mergeSort (fun a b c hab hbc => ?_) (fun a b => ?_) rows))
    · simp only [decide_eq_true_eq] at hab hbc ⊢
      exact hab.trans hbc
    · simpa using Nat.le_total (rank a) (rank b)
  have hrows : ∀ a, a ∈ (rows.mergeSort fun a b => rank a ≤ rank b).reverse ↔ a ∈ rows := by
    intro a
    rw [List.mem_reverse, List.mem_mergeSort]
  have hrmem := (hrows r).mpr (List.mem_of_mem_filter hmem)
  rw [foldl_assign]
  generalize (rows.mergeSort fun a b => rank a ≤ rank b).reverse = sorted at hrank hrows hrmem ⊢
  cases hfind : sorted.findSome? (assigned target k) with
  | none =>
      have := List.findSome?_eq_none_iff.mp hfind r hrmem
      simp [hv] at this
  | some v' =>
      obtain ⟨before, a, after, rfl, ha, hbefore⟩ := List.findSome?_eq_some_iff.mp hfind
      have harows : a ∈ rows := (hrows a).mp (by simp)
      have hpa : a ∈ rows.filter p := List.mem_filter.mpr ⟨harows, hp a harows (by simp [ha])⟩
      have hle : rank a ≤ rank r := List.le_of_mem_argmax hpa hr
      -- the last row that assigns stands where the one with the greatest rank does
      obtain hr | rfl | hr : r ∈ before ∨ r = a ∨ r ∈ after := by simpa using hrmem
      · simp [hbefore r hr] at hv
      · exact Option.some.inj (ha.symm.trans hv)
      · have hge : rank r ≤ rank a :=
          (List.pairwise_cons.mp (List.pairwise_append.mp hrank).2.1).1 r hr
        obtain rfl := hinj a harows r ((hrows r).mp hrmem) (Nat.le_antisymm hle hge)
        exact Option.some.inj (ha.symm.trans hv)

end Relational
