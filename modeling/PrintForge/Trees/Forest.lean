import Mathlib.Algebra.BigOperators.Group.List.Basic
import Mathlib.Algebra.Order.Ring.Int
import Mathlib.Data.List.Nodup
import Mathlib.Data.List.Perm.Basic
import Mathlib.Tactic.Common

/-!
# Forests from parent links

Nodes that name their parent are unfolded from the roots down to trees. The unfolding ends for
any finite set of links, as a loop is never entered from a root, and it shows every node from
which the links lead up to a root exactly once. What is lost are the nodes on a loop and those
below one.
-/

namespace Trees

/-- A node with its children in order. -/
inductive Rose (α : Type) where
  | node (value : α) (children : List (Rose α))
deriving Repr

variable {α β : Type}

def Rose.value : Rose α → α
  | .node a _ => a

mutual

/-- The nodes of a tree, each before its children. -/
def Rose.values : Rose α → List α
  | .node a ts => a :: forestValues ts

def forestValues : List (Rose α) → List α
  | [] => []
  | t :: ts => t.values ++ forestValues ts

end

mutual

/-- Every node but the root, behind the node it is shown under. -/
def Rose.edges : Rose α → List (α × α)
  | .node a ts => ts.map (fun t => (a, t.value)) ++ forestEdges ts

def forestEdges : List (Rose α) → List (α × α)
  | [] => []
  | t :: ts => t.edges ++ forestEdges ts

end

/-! ## Unfolding -/

/-- The trees below the given nodes, the siblings put in order by `arrange` and each node shown
as its label. There is no result when the fuel does not last. -/
def grow (label : α → β) (arrange : List α → List α) (children : α → List α) :
    Nat → List α → Option (List (Rose β))
  | 0, _ => none
  | n + 1, xs => (arrange xs).mapM fun x =>
      if children x = [] then some (.node (label x) []) else
        (grow label arrange children n (children x)).map (.node (label x))

/-- The order in which the unfolding comes to the nodes. -/
def visit (arrange : List α → List α) (children : α → List α) : Nat → List α → List α
  | 0, _ => []
  | n + 1, xs => (arrange xs).flatMap fun x => x :: visit arrange children n (children x)

section Unfolding

variable {label : α → β} {arrange : List α → List α} {children : α → List α} {n : Nat}
variable {xs : List α} {ts : List (Rose β)}

/-- What holds of the image of every element holds of the images of all. -/
theorem forall_of_mapM {γ : Type} {f : α → Option γ} {P : α → γ → Prop} {ts : List γ}
    (hP : ∀ x ∈ xs, ∀ t, f x = some t → P x t) (h : xs.mapM f = some ts) :
    List.Forall₂ P xs ts := by
  induction xs generalizing ts with
  | nil =>
      simp only [List.mapM_nil, pure, Option.some.injEq] at h
      rw [← h]
      exact .nil
  | cons x xs ih =>
      simp only [List.mapM_cons, bind, Option.bind_eq_some_iff] at h
      obtain ⟨t, ht, ts', hts, hret⟩ := h
      cases hret
      exact .cons (hP x (List.mem_cons_self ..) t ht)
        (ih (fun y hy => hP y (List.mem_cons_of_mem _ hy)) hts)

/-- Each of the results comes from a member. -/
theorem exists_left_of_mem {β γ : Type} {P : β → γ → Prop} {bs : List β} {cs : List γ} {c : γ}
    (h : List.Forall₂ P bs cs) (hc : c ∈ cs) : ∃ b ∈ bs, P b c := by
  induction h with
  | nil => cases hc
  | cons hfirst _ ih =>
      obtain rfl | hrest := List.mem_cons.mp hc
      · exact ⟨_, List.mem_cons_self, hfirst⟩
      · obtain ⟨b, hb, hP⟩ := ih hrest
        exact ⟨b, List.mem_cons_of_mem _ hb, hP⟩

theorem exists_mapM {γ : Type} {f : α → Option γ} (h : ∀ x ∈ xs, ∃ t, f x = some t) :
    ∃ ts, xs.mapM f = some ts := by
  induction xs with
  | nil => exact ⟨[], rfl⟩
  | cons x xs ih =>
      obtain ⟨t, ht⟩ := h x (List.mem_cons_self ..)
      obtain ⟨ts, hts⟩ := ih fun y hy => h y (List.mem_cons_of_mem _ hy)
      exact ⟨t :: ts, by simp [List.mapM_cons, ht, hts]⟩

/-- Each tree of the unfolding is rooted at its node and shows the unfolding of the children. -/
theorem grow_succ (h : grow label arrange children (n + 1) xs = some ts) :
    List.Forall₂ (fun x t => ∃ below, t = .node (label x) below ∧ (children x = [] ∧ below = [] ∨
      grow label arrange children n (children x) = some below)) (arrange xs) ts := by
  refine forall_of_mapM (fun x _ t ht => ?_) h
  split at ht
  · next hnone => exact ⟨[], (Option.some.inj ht).symm, .inl ⟨hnone, rfl⟩⟩
  · obtain ⟨below, hbelow, rfl⟩ := Option.map_eq_some_iff.mp ht
    exact ⟨below, rfl, .inr hbelow⟩

theorem visit_succ : visit arrange children (n + 1) xs =
    (arrange xs).flatMap fun x => x :: visit arrange children n (children x) := rfl

variable (harrange : ∀ xs, (arrange xs).Perm xs)
include harrange

@[simp] theorem visit_nil : visit arrange children n [] = [] := by
  cases n with
  | zero => rfl
  | succ n => simp [visit, (harrange []).eq_nil]

theorem grow_values (h : grow label arrange children n xs = some ts) :
    forestValues ts = (visit arrange children n xs).map label := by
  induction n generalizing xs ts with
  | zero => cases h
  | succ n ih =>
      have hforall := grow_succ h
      clear h
      unfold visit
      generalize arrange xs = ys at hforall
      induction hforall with
      | nil => rfl
      | @cons x t ys ts hx _ ihys =>
          obtain ⟨below, rfl, ⟨hnone, rfl⟩ | hbelow⟩ := hx
          · rw [List.flatMap_cons, List.map_append, ← ihys, hnone, visit_nil harrange]
            rfl
          · rw [List.flatMap_cons, List.map_append, ← ihys, List.map_cons, ← ih hbelow]
            rfl

/-- The unfolding shows nothing but the nodes it started from and what is below them. -/
theorem mem_visit {P : α → Prop} (hP : ∀ x, P x → ∀ y ∈ children x, P y) (hxs : ∀ x ∈ xs, P x)
    {y : α} (h : y ∈ visit arrange children n xs) : P y := by
  induction n generalizing xs with
  | zero => cases h
  | succ n ih =>
      obtain ⟨x, hx, hy⟩ := List.mem_flatMap.mp h
      have hx := hxs x ((harrange xs).mem_iff.mp hx)
      obtain rfl | hy := List.mem_cons.mp hy
      · exact hx
      · exact ih (hP x hx) hy

/-- The trees stand for the nodes they were grown from. -/
theorem grow_roots (h : grow label arrange children n xs = some ts) :
    (ts.map Rose.value).Perm (xs.map label) := by
  cases n with
  | zero => cases h
  | succ n =>
      have hforall := grow_succ h
      refine List.Perm.trans (.of_eq ?_) ((harrange xs).map label)
      clear h
      generalize arrange xs = ys at hforall
      induction hforall with
      | nil => rfl
      | cons hx _ ih =>
          obtain ⟨below, rfl, -⟩ := hx
          rw [List.map_cons, List.map_cons, ih]
          rfl

/-- Every node is shown under the one it is a child of. -/
theorem grow_edges {P : α → Prop} (hP : ∀ x, P x → ∀ y ∈ children x, P y) (hxs : ∀ x ∈ xs, P x)
    (h : grow label arrange children n xs = some ts) :
    ∀ e ∈ forestEdges ts, ∃ x y, P x ∧ y ∈ children x ∧ e = (label x, label y) := by
  induction n generalizing xs ts with
  | zero => cases h
  | succ n ih =>
      have hforall := grow_succ h
      clear h
      have hys : ∀ x ∈ arrange xs, P x := fun x hx => hxs x ((harrange xs).mem_iff.mp hx)
      generalize arrange xs = ys at hforall hys
      induction hforall with
      | nil => exact fun e he => absurd he List.not_mem_nil
      | @cons x t ys ts hx _ ihys =>
          have hPx : P x := hys x (List.mem_cons_self ..)
          intro e he
          obtain he | he := List.mem_append.mp he
          · obtain ⟨below, rfl, ⟨-, rfl⟩ | hbelow⟩ := hx
            · cases he
            · obtain he | he := List.mem_append.mp he
              · obtain ⟨t, ht, rfl⟩ := List.mem_map.mp he
                have hroot := (grow_roots harrange hbelow).mem_iff.mp (List.mem_map_of_mem ht)
                obtain ⟨y, hy, hlabel⟩ := List.mem_map.mp hroot
                exact ⟨x, y, hPx, hy, by rw [hlabel]⟩
              · exact ih (hP x hPx) hbelow e he
          · exact ihys (fun y hy => hys y (List.mem_cons_of_mem _ hy)) e he

end Unfolding

/-! ## Parent links -/

/-- The nodes and their children, as the parent links have them. -/
structure Linked [DecidableEq α] (nodes : List α) (parent : α → Option α) (children : α → List α) :
    Prop where
  nodup : nodes.Nodup
  parent_mem : ∀ x ∈ nodes, ∀ p ∈ parent x, p ∈ nodes
  children : ∀ x ∈ nodes, children x = nodes.filter (parent · = some x)

/-- The links lead from the node up to a root in so many steps. -/
inductive Depth (parent : α → Option α) : α → Nat → Prop
  | root {x : α} (h : parent x = none) : Depth parent x 0
  | child {x p : α} {d : Nat} (h : parent x = some p) (hp : Depth parent p d) :
      Depth parent x (d + 1)

def Rooted (parent : α → Option α) (x : α) : Prop := ∃ d, Depth parent x d

/-- The links lead from one node up to another. -/
inductive Ascends (parent : α → Option α) (a : α) : α → Prop
  | refl : Ascends parent a a
  | step {x p : α} (h : parent x = some p) (hp : Ascends parent a p) : Ascends parent a x

def roots (nodes : List α) (parent : α → Option α) : List α := nodes.filter (parent · = none)

section Links

variable {parent parent' : α → Option α}

theorem roots_subset {nodes : List α} : roots nodes parent ⊆ nodes :=
  fun _ hx => List.mem_of_mem_filter hx

theorem Depth.unique {x : α} {d d' : Nat} (h : Depth parent x d) (h' : Depth parent x d') :
    d = d' := by
  induction h generalizing d' with
  | root h =>
      cases h' with
      | root => rfl
      | child hp => simp [h] at hp
  | child h _ ih =>
      cases h' with
      | root hn => simp [h] at hn
      | child hp h' =>
          obtain rfl := Option.some.inj (h.symm.trans hp)
          rw [ih h']

theorem rooted_root {x : α} (h : parent x = none) : Rooted parent x := ⟨0, .root h⟩

theorem Rooted.child {x p : α} (hp : Rooted parent p) (h : parent x = some p) :
    Rooted parent x := by
  obtain ⟨d, hd⟩ := hp
  exact ⟨d + 1, .child h hd⟩

theorem Ascends.rooted {a x : α} (h : Ascends parent a x) (ha : Rooted parent a) :
    Rooted parent x := by
  induction h with
  | refl => exact ha
  | step h _ ih => exact ih.child h

/-- Links that are found again among others lead up to a root where those do. -/
theorem Rooted.of_map {up : β → Option β} {f : α → β} {P : α → Prop}
    (hf : ∀ x p, P x → parent x = some p → P p ∧ up (f x) = some (f p)) {x : α} (hx : P x)
    (h : Rooted up (f x)) : Rooted parent x := by
  obtain ⟨d, hd⟩ := h
  induction d generalizing x with
  | zero =>
      cases hp : parent x with
      | none => exact rooted_root hp
      | some p =>
          obtain ⟨-, hup⟩ := hf x p hx hp
          cases hd with
          | root hnone => simp [hup] at hnone
  | succ d ih =>
      cases hp : parent x with
      | none => exact rooted_root hp
      | some p =>
          obtain ⟨hPp, hup⟩ := hf x p hx hp
          cases hd with
          | child hq hd =>
              obtain rfl := Option.some.inj (hup.symm.trans hq)
              exact (ih hPp hd).child hp

/-- A node from which a root is reached is on no loop. -/
theorem Rooted.not_ascends {x p : α} (hx : Rooted parent x) (h : parent x = some p) :
    ¬ Ascends parent x p := by
  have hdepth : ∀ {y d}, Ascends parent x y → Depth parent x d → ∃ e, d ≤ e ∧ Depth parent y e := by
    intro y d hl hd
    induction hl with
    | refl => exact ⟨d, Nat.le_refl d, hd⟩
    | step h _ ih =>
        obtain ⟨e, hle, he⟩ := ih
        exact ⟨e + 1, Nat.le_succ_of_le hle, .child h he⟩
  intro hl
  obtain ⟨d, hd⟩ := hx
  obtain ⟨e, hle, he⟩ := hdepth hl hd
  have := hd.unique (.child h he)
  omega

/-- Where the links of one node are set anew and others may only be cut, or be made to lead to
that node, every node stays below a root, unless the new link closes a loop. -/
theorem rooted_of_relinked {c : α} (hrooted : ∀ x, Rooted parent x)
    (hlinks : ∀ x, x ≠ c → parent' x = parent x ∨ parent' x = none ∨ parent' x = some c)
    (hloop : ∀ p, parent' c = some p → ¬ Ascends parent' c p) (x : α) : Rooted parent' x := by
  have hsplit : ∀ x, Rooted parent' x ∨ Ascends parent' c x := by
    intro x
    obtain ⟨d, hd⟩ := hrooted x
    induction hd with
    | @root x h =>
        by_cases hx : x = c
        · exact .inr (hx ▸ .refl)
        · obtain hsame | hnone | hto := hlinks x hx
          · exact .inl (rooted_root (hsame.trans h))
          · exact .inl (rooted_root hnone)
          · exact .inr (.step hto .refl)
    | @child x p d h _ ih =>
        by_cases hx : x = c
        · exact .inr (hx ▸ .refl)
        · obtain hsame | hnone | hto := hlinks x hx
          · exact ih.imp (fun hp => hp.child (hsame.trans h)) fun hp => .step (hsame.trans h) hp
          · exact .inl (rooted_root hnone)
          · exact .inr (.step hto .refl)
  have hc : Rooted parent' c := by
    cases hp : parent' c with
    | none => exact rooted_root hp
    | some p => exact ((hsplit p).resolve_right (hloop p hp)).child hp
  exact (hsplit x).elim id fun h => h.rooted hc

end Links

/-! ## What is shown -/

section Shown

variable [DecidableEq α] {nodes : List α} {parent : α → Option α} {children : α → List α}
variable {arrange : List α → List α}

/-- How often the way up from a node passes one of the given ones, in so many steps. -/
def passes (parent : α → Option α) (xs : List α) : Nat → α → Nat
  | 0, _ => 0
  | n + 1, y => xs.count y + (parent y).elim 0 (passes parent xs n)

theorem sum_map_ite_eq (xs : List α) (a : α) :
    (xs.map fun x => if x = a then 1 else 0).sum = xs.count a := by
  induction xs with
  | nil => rfl
  | cons x xs ih =>
      rw [List.map_cons, List.sum_cons, ih, List.count_cons, Nat.add_comm]
      simp only [beq_iff_eq]

theorem Linked.children_subset (h : Linked nodes parent children) {x : α} (hx : x ∈ nodes) :
    children x ⊆ nodes := by
  rw [h.children x hx]
  exact fun y hy => List.mem_of_mem_filter hy

theorem Linked.count_children (h : Linked nodes parent children) {x y : α} (hx : x ∈ nodes)
    (hy : y ∈ nodes) : (children x).count y = if parent y = some x then 1 else 0 := by
  rw [h.children x hx]
  split
  · next hp => rw [List.count_filter (by simpa using hp), List.count_eq_one_of_mem h.nodup hy]
  · next hp => exact List.count_eq_zero.mpr fun hmem => hp (by simpa using List.of_mem_filter hmem)

/-- The children of the nodes in a list are passed when a parent in the list is. -/
theorem Linked.sum_passes (h : Linked nodes parent children) {xs : List α} (hxs : xs ⊆ nodes)
    (n : Nat) {y : α} (hy : y ∈ nodes) :
    (xs.map fun x => passes parent (children x) n y).sum =
      (parent y).elim 0 (passes parent xs n) := by
  induction n generalizing y with
  | zero => cases parent y <;> simp [passes]
  | succ n ih =>
      have hcount : (xs.map fun x => (children x).count y).sum = (parent y).elim 0 xs.count := by
        rw [List.map_congr_left fun x hx => h.count_children (hxs hx) hy]
        cases parent y with
        | none => simp
        | some p => simpa [eq_comm] using sum_map_ite_eq xs p
      have hup : (xs.map fun x => (parent y).elim 0 (passes parent (children x) n)).sum =
          (parent y).elim 0 fun p => (parent p).elim 0 (passes parent xs n) := by
        cases hp : parent y with
        | none => simp
        | some p => exact ih (h.parent_mem y hy p hp)
      simp only [passes, List.sum_map_add, hcount, hup]
      cases parent y with
      | none => rfl
      | some p => rfl

variable (harrange : ∀ xs, (arrange xs).Perm xs)
include harrange

theorem Linked.count_visit (h : Linked nodes parent children) {xs : List α} (hxs : xs ⊆ nodes)
    (n : Nat) {y : α} (hy : y ∈ nodes) :
    (visit arrange children n xs).count y = passes parent xs n y := by
  induction n generalizing xs with
  | zero => rfl
  | succ n ih =>
      calc (visit arrange children (n + 1) xs).count y
          = (xs.map fun x => (if x = y then 1 else 0) +
              (visit arrange children n (children x)).count y).sum := by
            rw [visit_succ, ((harrange xs).flatMap_right _).count_eq, List.count_flatMap]
            refine congrArg List.sum (List.map_congr_left fun x _ => ?_)
            simp [List.count_cons, Nat.add_comm]
        _ = (xs.map fun x => (if x = y then 1 else 0) + passes parent (children x) n y).sum := by
            refine congrArg List.sum (List.map_congr_left fun x hx => ?_)
            rw [ih (h.children_subset (hxs hx))]
        _ = xs.count y + (parent y).elim 0 (passes parent xs n) := by
            rw [List.sum_map_add, h.sum_passes hxs n hy, sum_map_ite_eq]

omit harrange in
/-- From a node below a root, the way up passes the roots once. -/
theorem Linked.passes_roots (h : Linked nodes parent children) {y : α} {d n : Nat}
    (hy : y ∈ nodes) (hd : Depth parent y d) (hn : d < n) :
    passes parent (roots nodes parent) n y = 1 := by
  have hcount : ∀ y ∈ nodes, (roots nodes parent).count y = if parent y = none then 1 else 0 := by
    intro y hy
    split
    · next hp =>
      rw [roots, List.count_filter (by simpa using hp), List.count_eq_one_of_mem h.nodup hy]
    · next hp =>
      refine List.count_eq_zero.mpr fun hmem => hp ?_
      simpa using List.of_mem_filter hmem
  induction hd generalizing n with
  | root hp =>
      cases n with
      | zero => omega
      | succ n => simp [passes, hcount _ hy, hp]
  | child hp _ ih =>
      cases n with
      | zero => omega
      | succ n =>
          have hup := ih (h.parent_mem _ hy _ hp) (Nat.lt_of_succ_lt_succ hn)
          simp [passes, hcount _ hy, hp, hup]

omit harrange in
/-- The way up is not longer than there are nodes. -/
theorem Linked.depth_lt (h : Linked nodes parent children) {y : α} {d : Nat} (hy : y ∈ nodes)
    (hd : Depth parent y d) : d < nodes.length := by
  have hchain : ∃ l : List α, l.length = d + 1 ∧ l.Nodup ∧ l ⊆ nodes ∧
      ∀ x ∈ l, ∃ e ≤ d, Depth parent x e := by
    induction hd with
    | @root x hp =>
        refine ⟨[x], rfl, List.nodup_singleton x, by simpa using hy, fun z hz => ?_⟩
        exact ⟨0, Nat.le_refl 0, List.mem_singleton.mp hz ▸ .root hp⟩
    | @child x p d hp hdp ih =>
        obtain ⟨l, hlen, hnodup, hsub, hdepth⟩ := ih (h.parent_mem x hy p hp)
        have hx : Depth parent x (d + 1) := .child hp hdp
        refine ⟨x :: l, by simp [hlen], List.nodup_cons.mpr ⟨fun hmem => ?_, hnodup⟩,
          List.cons_subset.mpr ⟨hy, hsub⟩, ?_⟩
        · obtain ⟨e, hle, he⟩ := hdepth x hmem
          have := he.unique hx
          omega
        · intro z hz
          obtain rfl | hz := List.mem_cons.mp hz
          · exact ⟨d + 1, Nat.le_refl _, hx⟩
          · obtain ⟨e, hle, he⟩ := hdepth z hz
            exact ⟨e, Nat.le_succ_of_le hle, he⟩
  obtain ⟨l, hlen, hnodup, hsub, -⟩ := hchain
  have := (List.subperm_of_subset hnodup hsub).length_le
  omega

/-- The unfolding from the roots ends, whatever the links. -/
theorem Linked.exists_grow (h : Linked nodes parent children) (label : α → β) :
    ∃ ts, grow label arrange children (nodes.length + 1) (roots nodes parent) = some ts := by
  have hgrow : ∀ n d xs, (∀ x ∈ xs, x ∈ nodes ∧ Depth parent x d) → nodes.length ≤ d + n →
      ∃ ts, grow label arrange children (n + 1) xs = some ts := by
    intro n
    induction n with
    | zero =>
        intro d xs hxs hle
        refine exists_mapM fun x hx => ?_
        obtain ⟨hx, hd⟩ := hxs x ((harrange xs).mem_iff.mp hx)
        have := h.depth_lt hx hd
        omega
    | succ n ih =>
        intro d xs hxs hle
        refine exists_mapM fun x hx => ?_
        obtain ⟨hx, hd⟩ := hxs x ((harrange xs).mem_iff.mp hx)
        have hchildren : ∀ y ∈ children x, y ∈ nodes ∧ Depth parent y (d + 1) := by
          intro y hy
          rw [h.children x hx] at hy
          exact ⟨List.mem_of_mem_filter hy, .child (by simpa using List.of_mem_filter hy) hd⟩
        obtain ⟨ts, hts⟩ := ih (d + 1) (children x) hchildren (by omega)
        split
        · exact ⟨_, rfl⟩
        · exact ⟨_, by rw [hts]; rfl⟩
  refine hgrow nodes.length 0 _ (fun x hx => ?_) (by omega)
  exact ⟨List.mem_of_mem_filter hx, .root (by simpa using List.of_mem_filter hx)⟩

/-- What the unfolding from the roots shows is below a root. -/
theorem Linked.rooted_of_mem_visit (h : Linked nodes parent children) {n : Nat} {y : α}
    (hy : y ∈ visit arrange children n (roots nodes parent)) : y ∈ nodes ∧ Rooted parent y := by
  refine mem_visit harrange (P := fun x => x ∈ nodes ∧ Rooted parent x) ?_ ?_ hy
  · rintro x ⟨hx, hrooted⟩ z hz
    refine ⟨h.children_subset hx hz, hrooted.child ?_⟩
    rw [h.children x hx] at hz
    simpa using List.of_mem_filter hz
  · intro x hx
    exact ⟨roots_subset hx, rooted_root (by simpa using List.of_mem_filter hx)⟩

/-- Where every node is below a root, the unfolding from the roots shows each exactly once. -/
theorem Linked.visit_perm (h : Linked nodes parent children)
    (hrooted : ∀ x ∈ nodes, Rooted parent x) :
    (visit arrange children (nodes.length + 1) (roots nodes parent)).Perm nodes := by
  refine List.perm_iff_count.mpr fun y => ?_
  by_cases hy : y ∈ nodes
  · obtain ⟨d, hd⟩ := hrooted y hy
    rw [h.count_visit harrange roots_subset _ hy, List.count_eq_one_of_mem h.nodup hy]
    exact h.passes_roots hy hd (Nat.lt_succ_of_lt (h.depth_lt hy hd))
  · rw [List.count_eq_zero.mpr hy]
    exact List.count_eq_zero.mpr fun hmem => hy (h.rooted_of_mem_visit harrange hmem).1

end Shown

end Trees
