import Mathlib.Data.List.Basic
import Mathlib.Tactic.Common

/-!
# Journals

A journal lists what has been done to items, each entry with the item that it is about. A machine
says what an entry makes of the state of its item, and which entries may not come next. A journal
explains how the items came to be as they are if the entries about each of them, one after the
other, lead from what it was to what it is.

What a journal explains it determines. It explains no entry about an item that nothing more can be
done to.
-/

namespace Relational

/-- Which item an entry is about, and what it makes of the item's state. -/
structure Machine (ι E S : Type) where
  about : E → Option ι
  apply : S → E → Option S

namespace Machine

variable {ι E S : Type} [DecidableEq ι] (M : Machine ι E S)

def entries (i : ι) (journal : List E) : List E := journal.filter (M.about · = some i)

def replay : S → List E → Option S
  | s, [] => some s
  | s, e :: rest => (M.apply s e).bind fun s' => replay s' rest

/-- The entries about every item lead from what it was to what it is. -/
def Explains (was is : ι → S) (journal : List E) : Prop :=
  ∀ i, M.replay (was i) (M.entries i journal) = some (is i)

variable {M} {was is is' : ι → S} {journal more : List E} {i : ι} {e : E}

theorem entries_append : M.entries i (journal ++ more) = M.entries i journal ++ M.entries i more :=
  List.filter_append ..

theorem entries_about (h : M.about e = some i) : M.entries i [e] = [e] :=
  List.filter_eq_self.mpr fun x hx => by
    rw [List.mem_singleton.mp hx, h, decide_eq_true_eq]

theorem entries_other (h : M.about e ≠ some i) : M.entries i [e] = [] :=
  List.filter_eq_nil_iff.mpr fun x hx => by
    rw [List.mem_singleton.mp hx, decide_eq_true_eq]
    exact h

omit [DecidableEq ι] in
theorem replay_append (s : S) (xs ys : List E) :
    M.replay s (xs ++ ys) = (M.replay s xs).bind fun s' => M.replay s' ys := by
  induction xs generalizing s with
  | nil => rfl
  | cons x xs ih =>
      rw [List.cons_append, replay, replay, Option.bind_assoc]
      congr 1
      funext s'
      exact ih s'

theorem explains_nil : M.Explains was was [] := fun _ => rfl

/-- A journal that is continued. -/
theorem Explains.append (h : M.Explains was is journal) (h' : M.Explains is is' more) :
    M.Explains was is' (journal ++ more) := by
  intro i
  rw [entries_append, replay_append, h i]
  exact h' i

/-- An entry about no item explains that nothing has changed. -/
theorem explains_unrelated (h : ∀ e ∈ journal, M.about e = none) : M.Explains was was journal := by
  intro i
  have hnone : M.entries i journal = [] := by
    refine List.filter_eq_nil_iff.mpr fun e he => ?_
    rw [h e he]
    simp
  rw [hnone]
  rfl

/-- An entry about an item explains that this item has changed and no other. -/
theorem explains_entry (habout : M.about e = some i) (hself : M.apply (was i) e = some (is i))
    (hothers : ∀ j, j ≠ i → is j = was j) : M.Explains was is [e] := by
  intro j
  by_cases hj : j = i
  · subst hj
    rw [entries_about habout, replay, hself]
    rfl
  · rw [entries_other fun he => hj (Option.some.inj (he.symm.trans habout)), hothers j hj]
    rfl

/-- What a journal explains it determines. -/
theorem Explains.unique (h : M.Explains was is journal) (h' : M.Explains was is' journal) :
    is = is' := by
  funext i
  exact Option.some.inj ((h i).symm.trans (h' i))

/-- Where nothing more can be done to an item, nothing more is said of it. -/
theorem Explains.settled (h : M.Explains was is journal) (h' : M.Explains was is' (journal ++ more))
    (hsettled : ∀ e, M.apply (is i) e = none) : M.entries i more = [] ∧ is' i = is i := by
  have hmore : M.replay (is i) (M.entries i more) = some (is' i) := by
    have hall := h' i
    rwa [entries_append, replay_append, h i] at hall
  cases hentries : M.entries i more with
  | nil =>
      rw [hentries] at hmore
      exact ⟨rfl, (Option.some.inj hmore).symm⟩
  | cons e rest =>
      rw [hentries, replay, hsettled] at hmore
      cases hmore

end Machine

end Relational
