import PrintForge.Concurrent.Discipline
import PrintForge.Relational.Transaction

/-!
# Transactions that are interleaved

A transaction that is not atomic is a sequence of statements. Each statement sees what has been
committed by then, together with what the transaction has written itself; what it writes is kept
back until the commit, or dropped. A statement that locks waits until no other transaction holds
the key, and then sees what there is. Keys are held until the end.

What a key protects is a part of the state, given by the states between which it is the same. A
transaction may rely on the parts it holds the keys of, from the statement that locks them to the
commit, and must keep to the parts that no other holds.

`Sound` is the weakest condition under which a transaction does so: it goes through the statements
of the transaction, and asks for the postcondition at the end. A transaction may fail at any of
its statements, by itself or by `cut`, and is then rolled back.
-/

namespace Concurrent

open Relational

/-- The committed state, and the keys that are held, each with the place of its holder. -/
structure Locked (σ K : Type) where
  db : σ
  locks : List (K × Nat)

namespace Locked

variable {σ K : Type} {s : Locked σ K} {i j : Nat} {k : K}

def Holds (i : Nat) (k : K) (s : Locked σ K) : Prop := (k, i) ∈ s.locks

/-- No other holds the key. -/
def Free (i : Nat) (k : K) (s : Locked σ K) : Prop := ∀ h ∈ s.locks, h.1 = k → h.2 = i

instance [DecidableEq K] (i : Nat) (k : K) (s : Locked σ K) : Decidable (Free i k s) :=
  inferInstanceAs (Decidable (∀ h ∈ s.locks, h.1 = k → h.2 = i))

def acquire (i : Nat) (k : K) (s : Locked σ K) : Locked σ K := ⟨s.db, (k, i) :: s.locks⟩

def release (i : Nat) (s : Locked σ K) : Locked σ K := ⟨s.db, s.locks.filter (·.2 ≠ i)⟩

/-- No key is held by two. -/
def Exclusive (s : Locked σ K) : Prop := ∀ h ∈ s.locks, ∀ h' ∈ s.locks, h.1 = h'.1 → h.2 = h'.2

@[simp] theorem acquire_db : (s.acquire i k).db = s.db := rfl

@[simp] theorem release_db : (s.release i).db = s.db := rfl

theorem holds_acquire : (s.acquire i k).Holds i k := List.mem_cons_self ..

theorem Holds.acquire {k' : K} (h : s.Holds j k') : (s.acquire i k).Holds j k' :=
  List.mem_cons_of_mem _ h

theorem Holds.release (h : s.Holds j k) (hij : j ≠ i) : (s.release i).Holds j k :=
  List.mem_filter.mpr ⟨h, decide_eq_true hij⟩

theorem exclusive_nil {w : σ} : Exclusive (⟨w, []⟩ : Locked σ K) :=
  fun _ hh => absurd hh List.not_mem_nil

theorem Exclusive.acquire (h : s.Exclusive) (hfree : s.Free i k) : (s.acquire i k).Exclusive := by
  intro a ha b hb hab
  obtain rfl | ha := List.mem_cons.mp ha
  · obtain rfl | hb := List.mem_cons.mp hb
    · rfl
    · exact (hfree b hb hab.symm).symm
  · obtain rfl | hb := List.mem_cons.mp hb
    · exact hfree a ha hab
    · exact h a ha b hb hab

theorem Exclusive.release (h : s.Exclusive) (i : Nat) : (s.release i).Exclusive :=
  fun a ha b hb => h a (List.mem_of_mem_filter ha) b (List.mem_of_mem_filter hb)

theorem Exclusive.eq (h : s.Exclusive) (hi : s.Holds i k) (hj : s.Holds j k) : i = j :=
  h _ hi _ hj rfl

end Locked

/-- A transaction in statements over a state `σ`, with keys of type `K`. The statements that lock
and the transaction as a whole are named by labels of type `L`. -/
inductive Txn (σ K L ε α : Type) where
  | done (r : Except ε α)
  | query (next : σ → Txn σ K L ε α)
  | lock (ℓ : L) (k : K) (next : σ → Txn σ K L ε α)
  | write (tx : Tx σ ε Unit) (next : Txn σ K L ε α)

namespace Txn

variable {σ K L ε α β : Type}

def andThen : Txn σ K L ε α → (α → Txn σ K L ε β) → Txn σ K L ε β
  | done (.ok a), f => f a
  | done (.error e), _ => done (.error e)
  | query next, f => query fun v => andThen (next v) f
  | lock ℓ k next, f => lock ℓ k fun v => andThen (next v) f
  | write tx next, f => write tx (andThen next f)

instance : Monad (Txn σ K L ε) where
  pure a := done (.ok a)
  bind := andThen

instance : MonadExceptOf ε (Txn σ K L ε) where
  throw e := done (.error e)
  tryCatch p _ := p

/-- Read what the transaction sees. -/
def read (f : σ → α) : Txn σ K L ε α := query fun v => done (.ok (f v))

/-- Wait for the key, and read what the transaction sees then. -/
def lockAnd (ℓ : L) (k : K) (f : σ → α) : Txn σ K L ε α := lock ℓ k fun v => done (.ok (f v))

/-- A statement that reads and writes, or fails. Its writes are those it will make of any state. -/
def exec (tx : Tx σ ε α) : Txn σ K L ε α := query fun v =>
  match tx v with
  | .ok (a, _) => write (discard tx) (done (.ok a))
  | .error e => done (.error e)

/-- Fail with `e` after `n` statements. -/
def cut (e : ε) : Nat → Txn σ K L ε α → Txn σ K L ε α
  | 0, _ => done (.error e)
  | _ + 1, done r => done r
  | n + 1, query next => query fun v => cut e n (next v)
  | n + 1, lock ℓ k next => lock ℓ k fun v => cut e n (next v)
  | n + 1, write tx next => write tx (cut e n next)

/-- Fail with `e` at the given statement, if there is one. -/
def cutAt (e : ε) (failsAt : Option Nat) (p : Txn σ K L ε α) : Txn σ K L ε α :=
  match failsAt with
  | none => p
  | some n => p.cut e n

end Txn

/-- The actions on the shared state: of a transaction at a place, or of other processes. -/
inductive Entry (K L : Type) where
  | lock (i : Nat) (k : K) (ℓ : L)
  | commit (i : Nat) (ℓ : L)
  | rollback (i : Nat)
  | other (ℓ : L)
deriving DecidableEq, Repr

/-- Only a statement that locks may have to wait. -/
def Unblocked {σ K L : Type} : Entry K L → Locked σ K → Prop
  | .lock i k _, s => s.Free i k
  | .commit _ _, _ | .rollback _, _ | .other _, _ => True

instance {σ K L : Type} [DecidableEq K] : ∀ (a : Entry K L) (s : Locked σ K),
    Decidable (Unblocked a s)
  | .lock i k _, s => inferInstanceAs (Decidable (s.Free i k))
  | .commit _ _, _ | .rollback _, _ | .other _, _ => inferInstanceAs (Decidable True)

/-- A process that runs a transaction at place `i`, after it has written `pending`. -/
def session {σ K L ε α : Type} (i : Nat) (name : α → L) :
    Txn σ K L ε α → Tx σ ε Unit → Proc (Locked σ K) (Entry K L) ε α
  | .done (.ok a), pending => .commit (.commit i (name a))
      (fun s => Locked.release i ⟨Proc.applied pending s.db, s.locks⟩)
      fun s => .done ((pending s.db).map fun _ => a)
  | .done (.error e), _ => .commit (.rollback i) (Locked.release i) fun _ => .done (.error e)
  | .query next, pending =>
      .query fun s => session i name (next (Proc.applied pending s.db)) pending
  | .lock ℓ k next, pending => .commit (.lock i k ℓ) (Locked.acquire i k) fun s =>
      session i name (next (Proc.applied pending s.db)) pending
  | .write tx next, pending => session i name next (do pending; tx)

/-- Run a transaction. -/
def inTransaction {σ K L ε α : Type} (i : Nat) (name : α → L) (p : Txn σ K L ε α) :
    Proc (Locked σ K) (Entry K L) ε α :=
  session i name p (pure ())

/-! ## What keys protect -/

/-- What the transactions over a state agree on: the states between which what a key protects is
the same, what may be relied on without a key, what every commit keeps, and what is asked of the
commits that carry a label. `ok` restricts the runs under discussion. -/
structure Protocol (σ K L : Type) where
  Same : K → σ → σ → Prop
  Onward : σ → σ → Prop
  Inv : σ → Prop
  Good : L → σ → σ → Prop
  ok : Entry K L → Locked σ K → Prop
  same_refl : ∀ k w, Same k w w
  same_trans : ∀ {k w w' w''}, Same k w w' → Same k w' w'' → Same k w w''
  onward_refl : ∀ w, Onward w w
  onward_trans : ∀ {w w' w''}, Onward w w' → Onward w' w'' → Onward w w''

namespace Protocol

variable {σ K L ε α β : Type} (P : Protocol σ K L)

/-- A write that the process at place `i` may make. -/
structure Allows (i : Nat) (s : Locked σ K) (w' : σ) : Prop where
  inv : P.Inv w'
  onward : P.Onward s.db w'
  same : ∀ j k, j ≠ i → s.Holds j k → P.Same k s.db w'

def discipline : Discipline (Locked σ K) (Entry K L) where
  inv s := s.Exclusive ∧ P.Inv s.db
  ok a s := Unblocked a s ∧ P.ok a s
  rely i s s' := (∀ k, s.Holds i k → s'.Holds i k ∧ P.Same k s.db s'.db) ∧ P.Onward s.db s'.db
  guar i a s s' := s'.Exclusive ∧ P.Allows i s s'.db ∧
    (∀ j k, j ≠ i → s.Holds j k → s'.Holds j k) ∧
    ∀ ℓ, a = .commit i ℓ → s'.db = s.db ∨ P.Good ℓ s.db s'.db
  rely_refl _ s := ⟨fun k h => ⟨h, P.same_refl k s.db⟩, P.onward_refl s.db⟩
  rely_trans h h' := ⟨fun k hk => ⟨(h'.1 k (h.1 k hk).1).1,
    P.same_trans (h.1 k hk).2 (h'.1 k (h.1 k hk).1).2⟩, P.onward_trans h.2 h'.2⟩
  inv_guar _ _ h := ⟨h.1, h.2.1.inv⟩
  rely_guar hij _ _ h :=
    ⟨fun k hk => ⟨h.2.2.1 _ k (Ne.symm hij) hk, h.2.1.same _ k (Ne.symm hij) hk⟩, h.2.1.onward⟩

variable {P} {i : Nat} {s s' : Locked σ K} {pending : Tx σ ε Unit}
variable {Q Q' : α → Tx σ ε Unit → Locked σ K → Prop}

/-- What is relied on stays so when a key is locked. -/
theorem rely_acquire {k : K} (h : P.discipline.rely i s s') :
    P.discipline.rely i s (s'.acquire i k) :=
  ⟨fun k' hk => ⟨(h.1 k' hk).1.acquire, (h.1 k' hk).2⟩, h.2⟩

theorem allows_same (h : P.Inv s.db) : P.Allows i s s.db where
  inv := h
  onward := P.onward_refl s.db
  same _ k _ _ := P.same_refl k s.db

variable (P) in
/-- Wherever the transaction ends with a result, having written `pending`, the postcondition
holds. -/
def Sound (i : Nat) (Q : α → Tx σ ε Unit → Locked σ K → Prop) :
    Txn σ K L ε α → Tx σ ε Unit → Locked σ K → Prop
  | .done (.ok a), pending, s =>
      ∀ s', P.discipline.rely i s s' → P.discipline.inv s' → Q a pending s'
  | .done (.error _), _, _ => True
  | .query next, pending, s => ∀ s', P.discipline.rely i s s' → P.discipline.inv s' →
      Sound i Q (next (Proc.applied pending s'.db)) pending s'
  | .lock ℓ k next, pending, s => ∀ s', P.discipline.rely i s s' → P.discipline.inv s' →
      P.discipline.ok (.lock i k ℓ) s' →
      Sound i Q (next (Proc.applied pending s'.db)) pending (s'.acquire i k)
  | .write tx next, pending, s => Sound i Q next (do pending; tx) s

theorem Sound.later {p : Txn σ K L ε α} (h : P.Sound i Q p pending s)
    (hs : P.discipline.rely i s s') : P.Sound i Q p pending s' := by
  induction p generalizing pending with
  | done r =>
      cases r with
      | ok a => exact fun s'' h' => h s'' (P.discipline.rely_trans hs h')
      | error e => trivial
  | query next ih => exact fun s'' h' => h s'' (P.discipline.rely_trans hs h')
  | lock ℓ k next ih => exact fun s'' h' => h s'' (P.discipline.rely_trans hs h')
  | write tx next ih => exact ih h

theorem Sound.mono {p : Txn σ K L ε α} (h : P.Sound i Q p pending s)
    (hQ : ∀ a pending s, Q a pending s → Q' a pending s) : P.Sound i Q' p pending s := by
  induction p generalizing pending s with
  | done r =>
      cases r with
      | ok a => exact fun s' hl hi => hQ a pending s' (h s' hl hi)
      | error e => trivial
  | query next ih => exact fun s' hl hi => ih _ (h s' hl hi)
  | lock ℓ k next ih => exact fun s' hl hi hok => ih _ (h s' hl hi hok)
  | write tx next ih => exact ih h

theorem sound_pure {a : α} (h : ∀ s', P.discipline.rely i s s' → P.discipline.inv s' →
    Q a pending s') : P.Sound i Q (pure a) pending s := h

theorem sound_throw (e : ε) : P.Sound i Q (throw e) pending s := trivial

/-- The rule for sequencing. -/
theorem Sound.bind {p : Txn σ K L ε α} {f : α → Txn σ K L ε β}
    {R : β → Tx σ ε Unit → Locked σ K → Prop} (h : P.Sound i Q p pending s)
    (hs : P.discipline.inv s)
    (hf : ∀ a pending s, P.discipline.inv s → Q a pending s → P.Sound i R (f a) pending s) :
    P.Sound i R (p >>= f) pending s := by
  show P.Sound i R (p.andThen f) pending s
  induction p generalizing pending s with
  | done r =>
      cases r with
      | ok a => exact hf a pending s hs (h s (P.discipline.rely_refl i s) hs)
      | error e => trivial
  | query next ih => exact fun s' hl hi => ih _ (h s' hl hi) hi
  | lock ℓ k next ih =>
      intro s' hl hi hok
      exact ih _ (h s' hl hi hok) ⟨hi.1.acquire hok.1, hi.2⟩
  | write tx next ih => exact ih h hs

/-- A computation that looks at nothing, and what follows it. -/
theorem sound_done {γ : Type} {r : Except ε γ} {g : γ → Txn σ K L ε α}
    (h : ∀ a, r = .ok a → P.Sound i Q (g a) pending s) :
    P.Sound i Q (Txn.done r >>= g) pending s := by
  cases r with
  | ok a => exact h a rfl
  | error e => trivial

/-- A statement that reads, and what follows it. -/
theorem sound_read {γ : Type} {f : σ → γ} {g : γ → Txn σ K L ε α}
    (h : ∀ s', P.discipline.rely i s s' → P.discipline.inv s' →
      P.Sound i Q (g (f (Proc.applied pending s'.db))) pending s') :
    P.Sound i Q (Txn.read f >>= g) pending s := h

/-- A statement that locks, and what follows it. -/
theorem sound_lock {γ : Type} {ℓ : L} {k : K} {f : σ → γ} {g : γ → Txn σ K L ε α}
    (h : ∀ s', P.discipline.rely i s s' → P.discipline.inv s' →
      P.discipline.ok (.lock i k ℓ) s' →
      P.Sound i Q (g (f (Proc.applied pending s'.db))) pending (s'.acquire i k)) :
    P.Sound i Q (Txn.lockAnd ℓ k f >>= g) pending s := h

/-- A statement that writes, and what follows it. -/
theorem sound_exec {γ : Type} {tx : Tx σ ε γ} {g : γ → Txn σ K L ε α}
    (h : ∀ s' a w, P.discipline.rely i s s' → P.discipline.inv s' →
      tx (Proc.applied pending s'.db) = .ok (a, w) →
      P.Sound i Q (g a) (do pending; discard tx) s') :
    P.Sound i Q (Txn.exec tx >>= g) pending s := by
  intro s' hl hi
  show P.Sound i Q (Txn.andThen (match tx (Proc.applied pending s'.db) with
    | .ok (a, _) => .write (discard tx) (.done (.ok a))
    | .error e => .done (.error e)) g) pending s'
  cases htx : tx (Proc.applied pending s'.db) with
  | ok r => exact h s' r.1 r.2 hl hi htx
  | error e => trivial

/-- A statement that writes, at the end. -/
theorem sound_execLast {tx : Tx σ ε α}
    (h : ∀ s' a w, P.discipline.rely i s s' → P.discipline.inv s' →
      tx (Proc.applied pending s'.db) = .ok (a, w) →
      ∀ s'', P.discipline.rely i s' s'' → P.discipline.inv s'' →
        Q a (do pending; discard tx) s'') :
    P.Sound i Q (Txn.exec tx) pending s := by
  intro s' hl hi
  show P.Sound i Q (match tx (Proc.applied pending s'.db) with
    | .ok (a, _) => .write (discard tx) (.done (.ok a))
    | .error e => .done (.error e)) pending s'
  cases htx : tx (Proc.applied pending s'.db) with
  | ok r => exact h s' r.1 r.2 hl hi htx
  | error e => trivial

/-- A transaction that fails on the way is as sound as one that does not. -/
theorem Sound.cut {p : Txn σ K L ε α} (h : P.Sound i Q p pending s) (e : ε) (n : Nat) :
    P.Sound i Q (p.cut e n) pending s := by
  induction p generalizing pending s n with
  | done r =>
      cases n with
      | zero => trivial
      | succ n => exact h
  | query next ih =>
      cases n with
      | zero => trivial
      | succ n => exact fun s' hl hi => ih _ (h s' hl hi) n
  | lock ℓ k next ih =>
      cases n with
      | zero => trivial
      | succ n => exact fun s' hl hi hok => ih _ (h s' hl hi hok) n
  | write tx next ih =>
      cases n with
      | zero => trivial
      | succ n => exact ih h n

theorem Sound.cutAt {p : Txn σ K L ε α} (h : P.Sound i Q p pending s) (e : ε)
    (failsAt : Option Nat) : P.Sound i Q (p.cutAt e failsAt) pending s := by
  cases failsAt with
  | none => exact h
  | some n => exact h.cut e n

/-- A write that is allowed gives the guarantee, also when the keys are given back with it. -/
theorem guar_release {a : Entry K L} {w' : σ} (hs : P.discipline.inv s) (h : P.Allows i s w')
    (hgood : ∀ ℓ, a = .commit i ℓ → w' = s.db ∨ P.Good ℓ s.db w') :
    P.discipline.guar i a s (Locked.release i ⟨w', s.locks⟩) :=
  ⟨hs.1.release i, h, fun _ _ hj hk => Locked.Holds.release hk hj, hgood⟩

/-- The process that runs a sound transaction keeps to its part. -/
theorem Sound.safe {p : Txn σ K L ε α} {name : α → L} {Post : α → σ → Prop}
    (h : P.Sound i Q p pending s)
    (hcommit : ∀ a pending s w', P.discipline.inv s → P.ok (.commit i (name a)) s →
      Q a pending s → pending s.db = .ok ((), w') →
      P.Allows i s w' ∧ P.Good (name a) s.db w' ∧ Post a w')
    (hpost : ∀ a w w', P.Onward w w' → Post a w → Post a w') :
    P.discipline.Safe i (Discipline.Returns fun a s => Post a s.db) (session i name p pending)
      s := by
  induction p generalizing pending s with
  | done r =>
      cases r with
      | ok a =>
          intro s' hl hi hok
          have hQ : Q a pending s' := h s' hl hi
          cases hpending : pending s'.db with
          | ok r =>
              obtain ⟨⟨⟩, w'⟩ := r
              obtain ⟨hallows, hgood, ha⟩ := hcommit a pending s' w' hi hok.2 hQ hpending
              dsimp only
              rw [Proc.applied_ok hpending, hpending]
              refine ⟨guar_release hi hallows fun ℓ hℓ => ?_, fun s'' hl' _ b hb => ?_⟩
              · cases hℓ
                exact .inr hgood
              · cases hb
                exact hpost a w' s''.db hl'.2 ha
          | error e =>
              dsimp only
              rw [Proc.applied_error hpending, hpending]
              exact ⟨guar_release hi (allows_same hi.2) fun _ _ => .inl rfl,
                fun s'' _ _ b hb => by cases hb⟩
      | error e =>
          intro s' hl hi hok
          exact ⟨guar_release hi (allows_same hi.2) fun _ _ => .inl rfl,
            fun s'' _ _ b hb => by cases hb⟩
  | query next ih => exact fun s' hl hi => ih _ (h s' hl hi)
  | lock ℓ k next ih =>
      intro s' hl hi hok
      refine ⟨⟨hi.1.acquire hok.1, allows_same hi.2, fun _ _ _ hk => hk.acquire, ?_⟩,
        ih _ (h s' hl hi hok)⟩
      exact fun _ _ => .inl rfl
  | write tx next ih => exact ih h

end Protocol

end Concurrent
