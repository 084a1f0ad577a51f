import Mathlib.Data.List.Sort

/-!
# The first rows of a sorted selection

A query may sort the rows it selects and take only the first of them. When more rows come to be
selected later, and all of these sort after the others, what was among the first stays there.
-/

namespace Relational

variable {α : Type} {r : α → α → Prop} [DecidableRel r]

/-- What sorts before everything behind goes in front. -/
theorem orderedInsert_append_left {a : α} {front back : List α} (h : ∀ b ∈ back, r a b) :
    (front ++ back).orderedInsert r a = front.orderedInsert r a ++ back := by
  induction front with
  | nil =>
      cases back with
      | nil => rfl
      | cons b back => exact List.orderedInsert_cons_of_le r back (h b List.mem_cons_self)
  | cons x front ih =>
      rw [List.cons_append, List.orderedInsert_cons, List.orderedInsert_cons]
      split
      · rfl
      · rw [ih, List.cons_append]

/-- What sorts before nothing in front goes behind. -/
theorem orderedInsert_append_right {a : α} {front back : List α} (h : ∀ x ∈ front, ¬ r a x) :
    (front ++ back).orderedInsert r a = front ++ back.orderedInsert r a := by
  induction front with
  | nil => rfl
  | cons x front ih =>
      rw [List.cons_append, List.orderedInsert_of_not_le r (front ++ back) (h x List.mem_cons_self),
        ih fun y hy => h y (List.mem_cons_of_mem x hy), List.cons_append]

/-- The rows that join a selection sort after those that were selected before. -/
theorem insertionSort_filter {p q : α → Bool} (hpq : ∀ a, p a = true → q a = true) {rows : List α}
    (h : ∀ a ∈ rows, ∀ b ∈ rows, p a = true → p b = false → q b = true → r a b ∧ ¬ r b a) :
    (rows.filter q).insertionSort r
      = (rows.filter p).insertionSort r
        ++ (rows.filter fun a => q a && !p a).insertionSort r := by
  induction rows with
  | nil => rfl
  | cons a rows ih =>
      have hrest := ih fun x hx y hy =>
        h x (List.mem_cons_of_mem a hx) y (List.mem_cons_of_mem a hy)
      cases hp : p a with
      | true =>
          have hq := hpq a hp
          rw [List.filter_cons_of_pos hq, List.filter_cons_of_pos hp,
            List.filter_cons_of_neg (by simp [hp]), List.insertionSort_cons,
            List.insertionSort_cons, hrest]
          refine orderedInsert_append_left fun b hb => ?_
          have hmem := List.mem_filter.mp ((List.mem_insertionSort r).mp hb)
          simp only [Bool.and_eq_true, Bool.not_eq_true'] at hmem
          exact (h a List.mem_cons_self b (List.mem_cons_of_mem a hmem.1) hp hmem.2.2 hmem.2.1).1
      | false =>
          cases hq : q a with
          | true =>
              rw [List.filter_cons_of_pos hq, List.filter_cons_of_neg (by simp [hp]),
                List.filter_cons_of_pos (by simp [hp, hq]), List.insertionSort_cons,
                List.insertionSort_cons, hrest]
              refine orderedInsert_append_right fun x hx => ?_
              have hmem := List.mem_filter.mp ((List.mem_insertionSort r).mp hx)
              exact (h x (List.mem_cons_of_mem a hmem.1) a List.mem_cons_self hmem.2 hp hq).2
          | false =>
              rw [List.filter_cons_of_neg (by simp [hq]), List.filter_cons_of_neg (by simp [hp]),
                List.filter_cons_of_neg (by simp [hq]), hrest]

/-- What is among the first stays among the first. -/
theorem mem_first_of_mem {p q : α → Bool} (hpq : ∀ a, p a = true → q a = true) {rows : List α}
    (h : ∀ a ∈ rows, ∀ b ∈ rows, p a = true → p b = false → q b = true → r a b ∧ ¬ r b a)
    {n : Nat} {x : α} (hx : x ∈ ((rows.filter p).insertionSort r).take n) :
    x ∈ ((rows.filter q).insertionSort r).take n := by
  rw [insertionSort_filter hpq h, List.take_append]
  exact List.mem_append_left _ hx

end Relational
