import PrintForge.Concurrent.Sessions

/-!
# Transactions that nothing comes between

`run` takes the statements of a transaction as one atomic transaction, and respects sequencing.
It is what the transaction comes to where no other process acts meanwhile, however the
transaction is carried out: between a beginning and a commit, or over the bare connection, where
every statement stands for itself.
-/

namespace Concurrent

open Relational

namespace Txn

variable {σ K L ε α β : Type}

/-- The statements of the transaction, one after the other. -/
def run : Txn σ K L ε α → Tx σ ε α
  | done r => Tx.ofExcept r
  | query next => fun w => run (next w) w
  | lock _ _ next => fun w => run (next w) w
  | write tx next => tx >>= fun _ => run next

/-- The statements over the bare connection: each commits by itself, and a key is given back with
the statement that took it. -/
def overConnection (ℓ : L) : Txn σ K L ε α → Proc (Locked σ K) (Entry K L) ε α
  | done r => .done r
  | query next => .query fun s => overConnection ℓ (next s.db)
  | lock _ _ next => .query fun s => overConnection ℓ (next s.db)
  | write tx next => .commit (.other ℓ) (fun s => ⟨Proc.applied tx s.db, s.locks⟩) fun s =>
      match tx s.db with
      | .ok _ => overConnection ℓ next
      | .error e => .done (.error e)

@[simp] theorem run_pure (a : α) : (pure a : Txn σ K L ε α).run = pure a := rfl

@[simp] theorem run_throw (e : ε) : (throw e : Txn σ K L ε α).run = throw e := rfl

@[simp] theorem run_done (r : Except ε α) : (done r : Txn σ K L ε α).run = Tx.ofExcept r := rfl

@[simp] theorem run_read (f : σ → α) : (read f : Txn σ K L ε α).run = Tx.read f := rfl

@[simp] theorem run_lockAnd (ℓ : L) (k : K) (f : σ → α) :
    (lockAnd ℓ k f : Txn σ K L ε α).run = Tx.read f := rfl

@[simp] theorem run_exec (tx : Tx σ ε α) : (exec tx : Txn σ K L ε α).run = tx := by
  funext w
  rw [exec, run]
  dsimp only
  cases htx : tx w with
  | error e => rfl
  | ok r =>
      have hdiscard : (discard tx : Tx σ ε Unit) w = .ok ((), r.2) := Tx.map_ok.mpr ⟨r.1, htx, rfl⟩
      exact Tx.bind_ok.mpr ⟨(), r.2, hdiscard, rfl⟩

@[simp] theorem run_bind (p : Txn σ K L ε α) (f : α → Txn σ K L ε β) :
    (p >>= f).run = p.run >>= fun a => (f a).run := by
  show (p.andThen f).run = _
  induction p with
  | done r =>
      cases r with
      | ok a => rfl
      | error e => rfl
  | query next ih =>
      funext w
      exact congrFun (ih w) w
  | lock ℓ k next ih =>
      funext w
      exact congrFun (ih w) w
  | write tx next ih =>
      rw [andThen, run, ih, run, LawfulMonad.bind_assoc]

/-- A transaction that is not cut off after all comes to what it comes to. -/
theorem run_cut {p : Txn σ K L ε α} {e : ε} {n : Nat} {w w' : σ} {a : α}
    (h : (p.cut e n).run w = .ok (a, w')) : p.run w = .ok (a, w') := by
  induction p generalizing n w with
  | done r =>
      cases n with
      | zero => cases h
      | succ n => exact h
  | query next ih =>
      cases n with
      | zero => cases h
      | succ n => exact ih w h
  | lock ℓ k next ih =>
      cases n with
      | zero => cases h
      | succ n => exact ih w h
  | write tx next ih =>
      cases n with
      | zero => cases h
      | succ n =>
          obtain ⟨u, w₁, htx, hnext⟩ := Tx.bind_ok.mp h
          exact Tx.bind_ok.mpr ⟨u, w₁, htx, ih hnext⟩

theorem run_cutAt {p : Txn σ K L ε α} {e : ε} {failsAt : Option Nat} {w w' : σ} {a : α}
    (h : (p.cutAt e failsAt).run w = .ok (a, w')) : p.run w = .ok (a, w') := by
  cases failsAt with
  | none => exact h
  | some n => exact run_cut h

/-- Over the bare connection, with nothing in between. -/
theorem alone_overConnection {ℓ : L} {p : Txn σ K L ε α} {s s' : Locked σ K} {a : α}
    (h : (p.overConnection ℓ).alone s = (.ok a, s')) : p.run s.db = .ok (a, s'.db) := by
  induction p generalizing s with
  | done r =>
      cases h
      rfl
  | query next ih => exact ih s.db h
  | lock ℓ' k next ih => exact ih s.db h
  | write tx next ih =>
      simp only [overConnection, Proc.alone] at h
      cases htx : tx s.db with
      | error e =>
          rw [htx] at h
          cases h
      | ok r =>
          rw [htx, Proc.applied_ok htx] at h
          exact Tx.bind_ok.mpr ⟨r.1, r.2, htx, ih h⟩

end Txn

variable {σ K L ε α : Type}

/-- Between a beginning and a commit, after some writes, with nothing in between. -/
theorem alone_session {i : Nat} {name : α → L} {p : Txn σ K L ε α} {pending : Tx σ ε Unit}
    {s s' : Locked σ K} {a : α} (h : (session i name p pending).alone s = (.ok a, s')) :
    (pending >>= fun _ => p.run) s.db = .ok (a, s'.db) := by
  induction p generalizing pending s with
  | done r =>
      cases r with
      | error e => cases h
      | ok b =>
          simp only [session, Proc.alone] at h
          cases hpending : pending s.db with
          | error e =>
              rw [hpending] at h
              cases h
          | ok r =>
              rw [hpending, Proc.applied_ok hpending] at h
              cases h
              exact Tx.bind_ok.mpr ⟨(), r.2, hpending, rfl⟩
  | query next ih =>
      have hnext := ih _ (s := s) h
      obtain ⟨⟨⟩, w, hpending, hrun⟩ := Tx.bind_ok.mp hnext
      rw [Proc.applied_ok hpending] at hrun
      exact Tx.bind_ok.mpr ⟨(), w, hpending, hrun⟩
  | lock ℓ k next ih =>
      have hnext := ih _ (s := s.acquire i k) h
      obtain ⟨⟨⟩, w, hpending, hrun⟩ := Tx.bind_ok.mp hnext
      rw [Locked.acquire_db] at hpending
      rw [Proc.applied_ok hpending] at hrun
      exact Tx.bind_ok.mpr ⟨(), w, hpending, hrun⟩
  | write tx next ih =>
      have hnext := ih (s := s) h
      rwa [LawfulMonad.bind_assoc] at hnext

theorem alone_inTransaction {i : Nat} {name : α → L} {p : Txn σ K L ε α} {s s' : Locked σ K}
    {a : α} (h : (inTransaction i name p).alone s = (.ok a, s')) :
    p.run s.db = .ok (a, s'.db) := by
  have hrun := alone_session (s := s) h
  rwa [LawfulMonad.pure_bind] at hrun

end Concurrent
