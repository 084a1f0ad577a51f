import PrintForge.Relational.Transaction
import Mathlib.Logic.Relation
import Mathlib.Tactic.Common

/-!
# Processes that share a state

A process serves one request. Between two of its atomic actions any other process
may act, so whatever a process has read may be stale by the time it writes. An
action is either a query, which only reads, or a commit, which rewrites the shared
state at once. A commit carries a label that names it together with the values the
process closed over; conditions on runs are stated about labels.

`transact` turns a transaction into one commit: when the transaction fails the
shared state stays as it is and the process goes on with the error. A process that
crashes is one that is never advanced again.
-/

namespace Concurrent

/-- A process over a shared state `σ` that ends with an error or a result. -/
inductive Proc (σ L ε α : Type) where
  | done (r : Except ε α)
  | query (next : σ → Proc σ L ε α)
  | commit (ℓ : L) (upd : σ → σ) (next : σ → Proc σ L ε α)

namespace Proc

variable {σ L ε α β γ : Type}

/-- Run a process and continue with its outcome, an error included. -/
def finish : Proc σ L ε α → (Except ε α → Proc σ L ε β) → Proc σ L ε β
  | done r, k => k r
  | query next, k => query fun s => finish (next s) k
  | commit ℓ upd next, k => commit ℓ upd fun s => finish (next s) k

/-- Continue with a result and let an error through. -/
def onResult (f : α → Proc σ L ε β) : Except ε α → Proc σ L ε β
  | .ok a => f a
  | .error e => done (.error e)

/-- Let a result through and continue with an error. -/
def onError (h : ε → Proc σ L ε α) : Except ε α → Proc σ L ε α
  | .ok a => done (.ok a)
  | .error e => h e

instance : Monad (Proc σ L ε) where
  pure a := done (.ok a)
  bind p f := p.finish (onResult f)

instance : MonadExceptOf ε (Proc σ L ε) where
  throw e := done (.error e)
  tryCatch p h := p.finish (onError h)

/-- Read the shared state. -/
def read (f : σ → α) : Proc σ L ε α := query fun s => done (.ok (f s))

/-- Run a transaction as one atomic action. -/
def transact (ℓ : L) (tx : StateT σ (Except ε) α) : Proc σ L ε α :=
  commit ℓ
    (fun s => match tx s with
      | .ok (_, s') => s'
      | .error _ => s)
    (fun s => match tx s with
      | .ok (a, _) => done (.ok a)
      | .error e => done (.error e))

/-- Run a transaction as one atomic action and keep its error as a value, together with
something seen in the same action. -/
def attempt (ℓ : L) (seen : σ → β) (tx : StateT σ (Except ε) α) :
    Proc σ L ε (β × Except ε α) :=
  commit ℓ
    (fun s => match tx s with
      | .ok (_, s') => s'
      | .error _ => s)
    (fun s => match tx s with
      | .ok (a, _) => done (.ok (seen s, .ok a))
      | .error e => done (.ok (seen s, .error e)))

theorem pure_def (a : α) : (pure a : Proc σ L ε α) = done (.ok a) := rfl

theorem bind_def (p : Proc σ L ε α) (f : α → Proc σ L ε β) :
    p >>= f = p.finish (onResult f) := rfl

theorem pure_bind (a : α) (f : α → Proc σ L ε β) : (pure a : Proc σ L ε α) >>= f = f a := rfl

theorem map_def (f : α → β) (p : Proc σ L ε α) :
    f <$> p = p.finish fun r => .done (r.map f) := by
  refine congrArg p.finish (funext fun r => ?_)
  cases r <;> rfl

theorem tryCatch_def (p : Proc σ L ε α) (h : ε → Proc σ L ε α) :
    tryCatch p h = p.finish (onError h) := rfl

theorem finish_assoc (p : Proc σ L ε α) (k : Except ε α → Proc σ L ε β)
    (k' : Except ε β → Proc σ L ε γ) :
    (p.finish k).finish k' = p.finish fun r => (k r).finish k' := by
  induction p with
  | done r => rfl
  | query next ih =>
      simp only [finish]
      congr 1
      funext s
      exact ih s
  | commit ℓ upd next ih =>
      simp only [finish]
      congr 1
      funext s
      exact ih s

theorem finish_done (p : Proc σ L ε α) : p.finish done = p := by
  induction p with
  | done r => rfl
  | query next ih =>
      simp only [finish]
      congr 1
      funext s
      exact ih s
  | commit ℓ upd next ih =>
      simp only [finish]
      congr 1
      funext s
      exact ih s

/-- The label of the action a process is about to commit. -/
def label : Proc σ L ε α → Option L
  | commit ℓ _ _ => some ℓ
  | _ => none

/-- The write a process is about to commit, with its label. -/
def write : Proc σ L ε α → Option (L × (σ → σ))
  | commit ℓ upd _ => some (ℓ, upd)
  | _ => none

/-- There is nothing left to do. -/
def ended : Proc σ L ε α → Bool
  | done _ => true
  | _ => false

/-- One atomic action, unless the process has ended. -/
def step : Proc σ L ε α → σ → Option (Proc σ L ε α × σ)
  | done _, _ => none
  | query next, s => some (next s, s)
  | commit _ upd next, s => some (next s, upd s)

/-- A sequence takes the actions of its first half first. -/
theorem bind_step {p p' : Proc σ L ε α} {f : α → Proc σ L ε β} {s s' : σ}
    (h : p.step s = some (p', s')) : (p >>= f).step s = some (p' >>= f, s') := by
  cases p with
  | done r => cases h
  | query next =>
      cases h
      rfl
  | commit ℓ upd next =>
      cases h
      rfl

theorem transact_bind_step {ℓ : L} {tx : StateT σ (Except ε) α} {f : α → Proc σ L ε β} {s s' : σ}
    {a : α} (h : tx s = .ok (a, s')) :
    ((transact ℓ tx : Proc σ L ε α) >>= f).step s = some (f a, s') := by
  have hstep : (transact ℓ tx : Proc σ L ε α).step s = some (done (.ok a), s') := by
    simp only [transact, step, h]
  exact bind_step hstep

/-! ## A process by itself -/

/-- What a process comes to when nothing else acts meanwhile. -/
def alone : Proc σ L ε α → σ → Except ε α × σ
  | done r, s => (r, s)
  | query next, s => alone (next s) s
  | commit _ upd next, s => alone (next s) (upd s)

@[simp] theorem alone_done (r : Except ε α) (s : σ) : (done r : Proc σ L ε α).alone s = (r, s) :=
  rfl

theorem alone_finish (p : Proc σ L ε α) (k : Except ε α → Proc σ L ε β) (s : σ) :
    (p.finish k).alone s = (k (p.alone s).1).alone (p.alone s).2 := by
  induction p generalizing s with
  | done r => rfl
  | query next ih => exact ih s s
  | commit ℓ upd next ih => exact ih s (upd s)

@[simp] theorem alone_read {γ : Type} (f : σ → γ) (s : σ) :
    (read f : Proc σ L ε γ).alone s = (.ok (f s), s) := rfl

theorem alone_map (f : α → β) (p : Proc σ L ε α) (s : σ) :
    (f <$> p).alone s = ((p.alone s).1.map f, (p.alone s).2) := by
  rw [map_def, alone_finish, alone_done]

/-- A sequence whose first half has a result goes on with it. -/
theorem alone_bind {p : Proc σ L ε α} {f : α → Proc σ L ε β} {s s' : σ} {a : α}
    (h : p.alone s = (.ok a, s')) : (p >>= f).alone s = (f a).alone s' := by
  rw [bind_def, alone_finish, h]
  rfl

/-- A sequence that has a result has one of its first half. -/
theorem alone_bind_ok {p : Proc σ L ε α} {f : α → Proc σ L ε β} {s s' : σ} {b : β}
    (h : (p >>= f).alone s = (.ok b, s')) :
    ∃ a s₁, p.alone s = (.ok a, s₁) ∧ (f a).alone s₁ = (.ok b, s') := by
  rw [bind_def, alone_finish] at h
  cases hp : p.alone s with
  | mk r s₁ =>
      rw [hp] at h
      cases r with
      | error e => cases h
      | ok a => exact ⟨a, s₁, rfl, h⟩

theorem alone_transact_ok {ℓ : L} {tx : StateT σ (Except ε) α} {s s' : σ} {a : α}
    (h : tx s = .ok (a, s')) : (transact ℓ tx : Proc σ L ε α).alone s = (.ok a, s') := by
  simp only [transact, alone, h]

/-- What has a result needs no handler. -/
theorem alone_tryCatch_ok {p : Proc σ L ε α} {h : ε → Proc σ L ε α} {s s' : σ} {a : α}
    (hp : p.alone s = (.ok a, s')) : (tryCatch p h).alone s = (.ok a, s') := by
  rw [tryCatch_def, alone_finish, hp]
  rfl

theorem alone_attempt_ok {ℓ : L} {seen : σ → β} {tx : StateT σ (Except ε) α} {s s' : σ} {a : α}
    (h : tx s = .ok (a, s')) :
    (attempt ℓ seen tx : Proc σ L ε (β × Except ε α)).alone s = (.ok (seen s, .ok a), s') := by
  simp only [attempt, alone, h]

theorem alone_attempt_error {ℓ : L} {seen : σ → β} {tx : StateT σ (Except ε) α} {s : σ} {e : ε}
    (h : tx s = .error e) :
    (attempt ℓ seen tx : Proc σ L ε (β × Except ε α)).alone s = (.ok (seen s, .error e), s) := by
  simp only [attempt, alone, h]

/-- What a process comes to that is cut off after `n` actions: its outcome, if it has ended by
then, and the state it leaves. -/
def upTo : Nat → Proc σ L ε α → σ → Option (Except ε α) × σ
  | _, done r, s => (some r, s)
  | 0, query _, s => (none, s)
  | 0, commit _ _ _, s => (none, s)
  | n + 1, query next, s => upTo n (next s) s
  | n + 1, commit _ upd next, s => upTo n (next s) (upd s)

/-- How many actions it takes by itself. -/
def actions : Proc σ L ε α → σ → Nat
  | done _, _ => 0
  | query next, s => actions (next s) s + 1
  | commit _ upd next, s => actions (next s) (upd s) + 1

theorem upTo_of_le {n : Nat} {p : Proc σ L ε α} {s : σ} (h : p.actions s ≤ n) :
    p.upTo n s = (some (p.alone s).1, (p.alone s).2) := by
  induction p generalizing n s with
  | done r => cases n <;> rfl
  | query next ih =>
      cases n with
      | zero => cases h
      | succ n => exact ih s (Nat.le_of_succ_le_succ h)
  | commit ℓ upd next ih =>
      cases n with
      | zero => cases h
      | succ n => exact ih s (Nat.le_of_succ_le_succ h)

theorem le_of_upTo {n : Nat} {p : Proc σ L ε α} {s : σ} {r : Except ε α}
    (h : (p.upTo n s).1 = some r) : p.actions s ≤ n := by
  induction p generalizing n s with
  | done r => exact Nat.zero_le n
  | query next ih =>
      cases n with
      | zero => cases h
      | succ n => exact Nat.succ_le_succ (ih s h)
  | commit ℓ upd next ih =>
      cases n with
      | zero => cases h
      | succ n => exact Nat.succ_le_succ (ih s h)

/-! ## Refusals -/

/-- Whatever the process finds while `J` holds, it ends with an error. -/
def Refuses (J : σ → Prop) : Proc σ L ε α → Prop
  | .done r => ∃ e, r = .error e
  | .query next => ∀ s, J s → Refuses J (next s)
  | .commit _ _ next => ∀ s, J s → Refuses J (next s)

section Refuses

variable {J : σ → Prop}

theorem Refuses.step {p p' : Proc σ L ε α} {s s' : σ} (h : p.Refuses J) (hs : J s)
    (hp : p.step s = some (p', s')) : p'.Refuses J := by
  cases p with
  | done r => cases hp
  | query next =>
      cases hp
      exact h s hs
  | commit ℓ upd next =>
      cases hp
      exact h s hs

theorem refuses_throw (e : ε) : Refuses J (throw e : Proc σ L ε α) := ⟨e, rfl⟩

/-- An error ends a sequence. -/
theorem Refuses.bind {p : Proc σ L ε α} {f : α → Proc σ L ε β} (h : p.Refuses J) :
    (p >>= f).Refuses J := by
  induction p with
  | done r =>
      obtain ⟨e, rfl⟩ := h
      exact ⟨e, rfl⟩
  | query next ih => exact fun s hs => ih s (h s hs)
  | commit ℓ upd next ih => exact fun s hs => ih s (h s hs)

theorem refuses_read_bind {γ : Type} {f : σ → γ} {k : γ → Proc σ L ε α}
    (h : ∀ s, J s → (k (f s)).Refuses J) : ((read f : Proc σ L ε γ) >>= k).Refuses J := h

end Refuses

/-! ## Frames

A property of single commits that needs no knowledge of what the process has read is
shown of the process's text, part by part, and then added to the guarantee. -/

/-- Every commit of the process, made in any state, is as `G` says. -/
def Within (G : L → σ → σ → Prop) : Proc σ L ε α → Prop
  | .done _ => True
  | .query next => ∀ s, Within G (next s)
  | .commit ℓ upd next => ∀ s, G ℓ s (upd s) ∧ Within G (next s)

section Within

variable {G G' : L → σ → σ → Prop}

theorem Within.finish {p : Proc σ L ε α} {k : Except ε α → Proc σ L ε β} (h : p.Within G)
    (hk : ∀ r, (k r).Within G) : (p.finish k).Within G := by
  induction p with
  | done r => exact hk r
  | query next ih => exact fun s => ih s (h s)
  | commit ℓ upd next ih => exact fun s => ⟨(h s).1, ih s (h s).2⟩

theorem Within.and {p : Proc σ L ε α} (h : p.Within G) (h' : p.Within G') :
    Within (fun ℓ s s' => G ℓ s s' ∧ G' ℓ s s') p := by
  induction p with
  | done r => trivial
  | query next ih => exact fun s => ih s (h s) (h' s)
  | commit ℓ upd next ih =>
      exact fun s => ⟨⟨(h s).1, (h' s).1⟩, ih s (h s).2 (h' s).2⟩

theorem Within.mono {p : Proc σ L ε α} (h : p.Within G)
    (hG : ∀ ℓ s s', G ℓ s s' → G' ℓ s s') : Within G' p := by
  induction p with
  | done r => trivial
  | query next ih => exact fun s => ih s (h s)
  | commit ℓ upd next ih => exact fun s => ⟨hG _ _ _ (h s).1, ih s (h s).2⟩

theorem within_pure (a : α) : Within G (pure a : Proc σ L ε α) := trivial

theorem within_throw (e : ε) : Within G (throw e : Proc σ L ε α) := trivial

theorem Within.bind {p : Proc σ L ε α} {f : α → Proc σ L ε β} (h : p.Within G)
    (hf : ∀ a, (f a).Within G) : (p >>= f).Within G := by
  refine h.finish fun r => ?_
  cases r with
  | ok a => exact hf a
  | error e => trivial

theorem Within.tryCatch {p : Proc σ L ε α} {f : ε → Proc σ L ε α} (h : p.Within G)
    (hf : ∀ e, (f e).Within G) : (tryCatch p f).Within G := by
  refine h.finish fun r => ?_
  cases r with
  | ok a => trivial
  | error e => exact hf e

theorem within_read {γ : Type} (f : σ → γ) : Within G (read f : Proc σ L ε γ) :=
  fun _ => trivial

theorem within_transact {γ : Type} {ℓ : L} {tx : StateT σ (Except ε) γ}
    (hrefl : ∀ s, G ℓ s s) (htx : ∀ s a s', tx s = .ok (a, s') → G ℓ s s') :
    Within G (transact ℓ tx : Proc σ L ε γ) := by
  intro s
  cases h : tx s with
  | ok r =>
      simp only [h]
      exact ⟨htx s r.1 r.2 h, trivial⟩
  | error e =>
      simp only [h]
      exact ⟨hrefl s, trivial⟩

theorem within_attempt {γ δ : Type} {ℓ : L} {seen : σ → δ} {tx : StateT σ (Except ε) γ}
    (hrefl : ∀ s, G ℓ s s) (htx : ∀ s a s', tx s = .ok (a, s') → G ℓ s s') :
    Within G (attempt ℓ seen tx : Proc σ L ε (δ × Except ε γ)) := by
  intro s
  cases h : tx s with
  | ok r =>
      simp only [h]
      exact ⟨htx s r.1 r.2 h, trivial⟩
  | error e =>
      simp only [h]
      exact ⟨hrefl s, trivial⟩

end Within

/-- Whatever holds of a state and survives every commit of the process survives the process. -/
theorem Within.alone {G : L → σ → σ → Prop} {J : σ → Prop} {p : Proc σ L ε α} {s : σ}
    (h : p.Within G) (hG : ∀ ℓ s s', G ℓ s s' → J s → J s') (hs : J s) : J (p.alone s).2 := by
  induction p generalizing s with
  | done r => exact hs
  | query next ih => exact ih s (h s) hs
  | commit ℓ upd next ih => exact ih s (h s).2 (hG ℓ s (upd s) (h s).1 hs)

/-- So it does wherever the process is cut off. -/
theorem Within.upTo {G : L → σ → σ → Prop} {J : σ → Prop} {p : Proc σ L ε α} {s : σ}
    (h : p.Within G) (hG : ∀ ℓ s s', G ℓ s s' → J s → J s') (n : Nat) (hs : J s) :
    J (p.upTo n s).2 := by
  induction p generalizing n s with
  | done r => cases n <;> exact hs
  | query next ih =>
      cases n with
      | zero => exact hs
      | succ n => exact ih s (h s) n hs
  | commit ℓ upd next ih =>
      cases n with
      | zero => exact hs
      | succ n => exact ih s (h s).2 n (hG ℓ s (upd s) (h s).1 hs)

/-- An action of the process is a read, or does what its commits do. -/
theorem Within.step {G : L → σ → σ → Prop} {p p' : Proc σ L ε α} {s s' : σ} (h : p.Within G)
    (hp : p.step s = some (p', s')) :
    p'.Within G ∧ (s' = s ∨ ∃ ℓ, p.label = some ℓ ∧ G ℓ s s') := by
  cases p with
  | done r => cases hp
  | query next =>
      cases hp
      exact ⟨h s, .inl rfl⟩
  | commit ℓ upd next =>
      cases hp
      exact ⟨(h s).2, .inr ⟨ℓ, rfl, (h s).1⟩⟩

/-! ## Processes that end with an error

What follows such a process in a sequence is never reached. -/

/-- Every commit of the process is as `G` says, and the process has no result. -/
def Fails (G : L → σ → σ → Prop) : Proc σ L ε α → Prop
  | .done (.ok _) => False
  | .done (.error _) => True
  | .query next => ∀ s, Fails G (next s)
  | .commit ℓ upd next => ∀ s, G ℓ s (upd s) ∧ Fails G (next s)

section Fails

variable {G : L → σ → σ → Prop}

theorem Fails.within {p : Proc σ L ε α} (h : p.Fails G) : p.Within G := by
  induction p with
  | done r => trivial
  | query next ih => exact fun s => ih s (h s)
  | commit ℓ upd next ih => exact fun s => ⟨(h s).1, ih s (h s).2⟩

theorem Fails.bind {p : Proc σ L ε α} (h : p.Fails G) (f : α → Proc σ L ε β) :
    (p >>= f).Fails G := by
  change (p.finish (onResult f)).Fails G
  induction p with
  | done r =>
      cases r with
      | ok a => exact h.elim
      | error e => trivial
  | query next ih => exact fun s => ih s (h s)
  | commit ℓ upd next ih => exact fun s => ⟨(h s).1, ih s (h s).2⟩

theorem Within.bind_fails {p : Proc σ L ε α} {f : α → Proc σ L ε β} (h : p.Within G)
    (hf : ∀ a, (f a).Fails G) : (p >>= f).Fails G := by
  change (p.finish (onResult f)).Fails G
  induction p with
  | done r =>
      cases r with
      | ok a => exact hf a
      | error e => trivial
  | query next ih => exact fun s => ih s (h s)
  | commit ℓ upd next ih => exact fun s => ⟨(h s).1, ih s (h s).2⟩

theorem fails_throw (e : ε) : Fails G (throw e : Proc σ L ε α) := trivial

end Fails

/-! ## What a process may commit

`Commits` lists the writes a process may make, each with its label, before they are applied to
any state. A run then consists of listed writes only. -/

/-- What a transaction leaves behind: its end, or the state it started from. -/
def applied (tx : StateT σ (Except ε) α) (s : σ) : σ :=
  match tx s with
  | .ok (_, s') => s'
  | .error _ => s

theorem applied_ok {tx : StateT σ (Except ε) α} {s s' : σ} {a : α} (h : tx s = .ok (a, s')) :
    applied tx s = s' := by
  rw [applied, h]

theorem applied_error {tx : StateT σ (Except ε) α} {s : σ} {e : ε} (h : tx s = .error e) :
    applied tx s = s := by
  rw [applied, h]

/-- A transaction that nothing comes between. -/
theorem alone_transact (ℓ : L) (tx : StateT σ (Except ε) α) (s : σ) :
    (transact ℓ tx : Proc σ L ε α).alone s = ((tx s).map Prod.fst, applied tx s) := by
  unfold transact applied
  rw [alone]
  cases tx s with
  | ok r => rfl
  | error e => rfl

/-- A transaction on its own is done after its one action. -/
theorem transact_step {ℓ : L} {tx : StateT σ (Except ε) α} {p' : Proc σ L ε α} {s s' : σ}
    (h : (transact ℓ tx : Proc σ L ε α).step s = some (p', s')) :
    (∃ r, p' = done r) ∧ s' = applied tx s := by
  cases h
  refine ⟨?_, rfl⟩
  dsimp only
  cases tx s with
  | ok r => exact ⟨_, rfl⟩
  | error e => exact ⟨_, rfl⟩

/-- Every write of the process is listed. -/
def Commits (K : L → (σ → σ) → Prop) : Proc σ L ε α → Prop
  | .done _ => True
  | .query next => ∀ s, Commits K (next s)
  | .commit ℓ upd next => K ℓ upd ∧ ∀ s, Commits K (next s)

section Commits

variable {K : L → (σ → σ) → Prop}

theorem Commits.finish {p : Proc σ L ε α} {k : Except ε α → Proc σ L ε β} (h : p.Commits K)
    (hk : ∀ r, (k r).Commits K) : (p.finish k).Commits K := by
  induction p with
  | done r => exact hk r
  | query next ih => exact fun s => ih s (h s)
  | commit ℓ upd next ih => exact ⟨h.1, fun s => ih s (h.2 s)⟩

theorem commits_pure (a : α) : Commits K (pure a : Proc σ L ε α) := trivial

theorem commits_throw (e : ε) : Commits K (throw e : Proc σ L ε α) := trivial

theorem commits_read {γ : Type} (f : σ → γ) : Commits K (read f : Proc σ L ε γ) :=
  fun _ => trivial

theorem Commits.bind {p : Proc σ L ε α} {f : α → Proc σ L ε β} (h : p.Commits K)
    (hf : ∀ a, (f a).Commits K) : (p >>= f).Commits K := by
  refine h.finish fun r => ?_
  cases r with
  | ok a => exact hf a
  | error e => trivial

/-- What follows a read knows where the value came from. -/
theorem commits_read_bind {γ : Type} {f : σ → γ} {k : γ → Proc σ L ε α}
    (h : ∀ s, (k (f s)).Commits K) : (read f >>= k).Commits K := h

/-- Every result of the process is as `P` says. -/
def Answers (P : α → Prop) : Proc σ L ε α → Prop
  | .done (.ok a) => P a
  | .done (.error _) => True
  | .query next => ∀ s, Answers P (next s)
  | .commit _ _ next => ∀ s, Answers P (next s)

theorem answers_transact {P : α → Prop} {ℓ : L} {tx : StateT σ (Except ε) α}
    (h : ∀ s a s', tx s = .ok (a, s') → P a) : (transact ℓ tx : Proc σ L ε α).Answers P := by
  intro s
  dsimp only
  cases htx : tx s with
  | ok r => exact h s r.1 r.2 htx
  | error e => trivial

theorem Answers.bind {P : β → Prop} (p : Proc σ L ε α) {f : α → Proc σ L ε β}
    (hf : ∀ a, (f a).Answers P) : (p >>= f).Answers P := by
  change (p.finish (onResult f)).Answers P
  induction p with
  | done r =>
      cases r with
      | ok a => exact hf a
      | error e => trivial
  | query next ih => exact fun s => ih s
  | commit ℓ upd next ih => exact fun s => ih s

theorem Answers.bind_answers {P : α → Prop} {Q : β → Prop} {p : Proc σ L ε α}
    {f : α → Proc σ L ε β} (h : p.Answers P) (hf : ∀ a, P a → (f a).Answers Q) :
    (p >>= f).Answers Q := by
  change (p.finish (onResult f)).Answers Q
  induction p with
  | done r =>
      cases r with
      | ok a => exact hf a h
      | error e => trivial
  | query next ih => exact fun s => ih s (h s)
  | commit ℓ upd next ih => exact fun s => ih s (h s)

/-- The rule for a bind whose first half says something of its result. -/
theorem Commits.bind_answers {P : α → Prop} {p : Proc σ L ε α} {f : α → Proc σ L ε β}
    (h : p.Commits K) (ha : p.Answers P) (hf : ∀ a, P a → (f a).Commits K) :
    (p >>= f).Commits K := by
  change (p.finish (onResult f)).Commits K
  induction p with
  | done r =>
      cases r with
      | ok a => exact hf a ha
      | error e => trivial
  | query next ih => exact fun s => ih s (h s) (ha s)
  | commit ℓ upd next ih => exact ⟨h.1, fun s => ih s (h.2 s) (ha s)⟩

theorem Commits.map {p : Proc σ L ε α} (h : p.Commits K) (f : α → β) : (f <$> p).Commits K :=
  h.bind fun _ => commits_pure _

theorem Commits.tryCatch {p : Proc σ L ε α} {f : ε → Proc σ L ε α} (h : p.Commits K)
    (hf : ∀ e, (f e).Commits K) : (tryCatch p f).Commits K := by
  refine h.finish fun r => ?_
  cases r with
  | ok a => trivial
  | error e => exact hf e

theorem Commits.listed {p : Proc σ L ε α} {ℓ : L} {upd : σ → σ} (h : p.Commits K)
    (hw : p.write = some (ℓ, upd)) : K ℓ upd := by
  cases p with
  | done r => cases hw
  | query next => cases hw
  | commit ℓ' upd' next =>
      cases hw
      exact h.1

/-- What every listed write does, the process does. -/
theorem Commits.within {G : L → σ → σ → Prop} {p : Proc σ L ε α} (h : p.Commits K)
    (hG : ∀ ℓ upd s, K ℓ upd → G ℓ s (upd s)) : p.Within G := by
  induction p with
  | done r => trivial
  | query next ih => exact fun s => ih s (h s)
  | commit ℓ upd next ih => exact fun s => ⟨hG ℓ upd s h.1, ih s (h.2 s)⟩

/-- What is left of a process after an action makes no other writes. -/
theorem Commits.step {p p' : Proc σ L ε α} {s s' : σ} (h : p.Commits K)
    (hp : p.step s = some (p', s')) : p'.Commits K := by
  cases p with
  | done r => cases hp
  | query next =>
      cases hp
      exact h _
  | commit ℓ upd next =>
      cases hp
      exact h.2 _

/-- An action is a read or a listed write. -/
theorem Commits.write_of_step {p p' : Proc σ L ε α} {s s' : σ} (h : p.Commits K)
    (hp : p.step s = some (p', s')) :
    s' = s ∨ ∃ ℓ upd, p.label = some ℓ ∧ K ℓ upd ∧ s' = upd s := by
  cases p with
  | done r => cases hp
  | query next =>
      cases hp
      exact .inl rfl
  | commit ℓ upd next =>
      cases hp
      exact .inr ⟨ℓ, upd, rfl, h.1, rfl⟩

theorem Commits.mono {K' : L → (σ → σ) → Prop} {p : Proc σ L ε α} (h : p.Commits K)
    (hK : ∀ ℓ upd, K ℓ upd → K' ℓ upd) : p.Commits K' := by
  induction p with
  | done r => trivial
  | query next ih => exact fun s => ih s (h s)
  | commit ℓ upd next ih => exact ⟨hK ℓ upd h.1, fun s => ih s (h.2 s)⟩

theorem commits_transact {ℓ : L} {tx : StateT σ (Except ε) α} (h : K ℓ (applied tx)) :
    Commits K (transact ℓ tx : Proc σ L ε α) := by
  refine ⟨h, fun s => ?_⟩
  dsimp only
  cases tx s with
  | ok r => trivial
  | error e => trivial

theorem commits_attempt {γ : Type} {ℓ : L} {seen : σ → γ} {tx : StateT σ (Except ε) α}
    (h : K ℓ (applied tx)) : Commits K (attempt ℓ seen tx : Proc σ L ε (γ × Except ε α)) := by
  refine ⟨h, fun s => ?_⟩
  dsimp only
  cases tx s with
  | ok r => trivial
  | error e => trivial

end Commits

end Proc

/-! ## Configurations and runs -/

/-- The shared state and the requests accepted so far, each with what is left of the
process that serves it. A request keeps its place in the list for ever. -/
structure Config (σ Req L ε α : Type) where
  state : σ
  flights : List (Req × Proc σ L ε α)

/-- What a scheduler may do next. -/
inductive Action (Req : Type) where
  | accept (req : Req)
  | advance (i : Nat)

section Runs

variable {σ Req L ε α : Type}

/-- One step of a configuration. Requests are admitted by `adm`, and a commit is made
only where its label is `ok`; both are how a theorem states which runs it is about. -/
inductive Step (handle : Nat → Req → Proc σ L ε α) (adm : Req → σ → Prop)
    (ok : L → σ → Prop) : Config σ Req L ε α → Config σ Req L ε α → Prop
  | accept {c} (req : Req) (h : adm req c.state) :
      Step handle adm ok c
        ⟨c.state, c.flights ++ [(req, handle c.flights.length req)]⟩
  | advance {c} {i : Nat} {req : Req} {p p' : Proc σ L ε α} {s' : σ}
      (hi : c.flights[i]? = some (req, p)) (hp : p.step c.state = some (p', s'))
      (hok : ∀ ℓ, p.label = some ℓ → ok ℓ c.state) :
      Step handle adm ok c ⟨s', c.flights.set i (req, p')⟩

/-- A run of any length under any schedule. -/
abbrev Run (handle : Nat → Req → Proc σ L ε α) (adm : Req → σ → Prop)
    (ok : L → σ → Prop) : Config σ Req L ε α → Config σ Req L ε α → Prop :=
  Relation.ReflTransGen (Step handle adm ok)

/-- Take one action. There is no result where it is not possible or not allowed. -/
def act (handle : Nat → Req → Proc σ L ε α) (adm : Req → σ → Prop) (ok : L → σ → Prop)
    [∀ req s, Decidable (adm req s)] [∀ ℓ s, Decidable (ok ℓ s)] :
    Action Req → Config σ Req L ε α → Option (Config σ Req L ε α)
  | .accept req, c =>
      if adm req c.state then
        some ⟨c.state, c.flights ++ [(req, handle c.flights.length req)]⟩
      else none
  | .advance i, c =>
      match c.flights[i]? with
      | none => none
      | some (req, p) =>
          if p.label.all fun ℓ => ok ℓ c.state then
            (p.step c.state).map fun (p', s') => ⟨s', c.flights.set i (req, p')⟩
          else none

/-- Follow a schedule. -/
def exec (handle : Nat → Req → Proc σ L ε α) (adm : Req → σ → Prop) (ok : L → σ → Prop)
    [∀ req s, Decidable (adm req s)] [∀ ℓ s, Decidable (ok ℓ s)] :
    List (Action Req) → Config σ Req L ε α → Option (Config σ Req L ε α)
  | [], c => some c
  | a :: acts, c => (act handle adm ok a c).bind (exec handle adm ok acts)

section Exec

variable {handle : Nat → Req → Proc σ L ε α} {adm : Req → σ → Prop} {ok : L → σ → Prop}
variable [∀ req s, Decidable (adm req s)] [∀ ℓ s, Decidable (ok ℓ s)]
variable {c c' : Config σ Req L ε α} {P : Config σ Req L ε α → Bool}

theorem act_step {a : Action Req} (h : act handle adm ok a c = some c') :
    Step handle adm ok c c' := by
  cases a with
  | accept req =>
      simp only [act] at h
      split at h
      · next hadm =>
        cases h
        exact .accept req hadm
      · cases h
  | advance i =>
      simp only [act] at h
      split at h
      · cases h
      · next req p hi =>
        split at h
        · next hok =>
          obtain ⟨⟨p', s'⟩, hp, rfl⟩ := Option.map_eq_some_iff.mp h
          exact .advance hi hp fun ℓ hℓ => by simpa [hℓ] using hok
        · cases h

/-- A schedule that can be followed is a run. -/
theorem exec_run {acts : List (Action Req)} (h : exec handle adm ok acts c = some c') :
    Run handle adm ok c c' := by
  induction acts generalizing c with
  | nil =>
      cases h
      exact .refl
  | cons a acts ih =>
      obtain ⟨b, hb, hrest⟩ := Option.bind_eq_some_iff.mp h
      exact .head (act_step hb) (ih hrest)

theorem act_any {a : Action Req} (h : (act handle adm ok a c).any P = true) :
    ∃ c', Step handle adm ok c c' ∧ P c' = true := by
  obtain ⟨c', hc', hP⟩ := (Option.any_eq_true ..).mp h
  exact ⟨c', act_step hc', hP⟩

theorem exec_any {acts : List (Action Req)} (h : (exec handle adm ok acts c).any P = true) :
    ∃ c', Run handle adm ok c c' ∧ P c' = true := by
  obtain ⟨c', hc', hP⟩ := (Option.any_eq_true ..).mp h
  exact ⟨c', exec_run hc', hP⟩

/-- Follow a schedule as long as every step passes a test. -/
def execTested (handle : Nat → Req → Proc σ L ε α) (adm : Req → σ → Prop) (ok : L → σ → Prop)
    [∀ req s, Decidable (adm req s)] [∀ ℓ s, Decidable (ok ℓ s)]
    (test : Config σ Req L ε α → Config σ Req L ε α → Bool) :
    List (Action Req) → Config σ Req L ε α → Option (Config σ Req L ε α)
  | [], c => some c
  | a :: acts, c =>
      ((act handle adm ok a c).filter (test c)).bind (execTested handle adm ok test acts)

theorem execTested_any {test : Config σ Req L ε α → Config σ Req L ε α → Bool}
    {acts : List (Action Req)} (h : (execTested handle adm ok test acts c).any P = true) :
    ∃ c', Relation.ReflTransGen (fun b b' => Step handle adm ok b b' ∧ test b b' = true) c c' ∧
      P c' = true := by
  induction acts generalizing c with
  | nil => exact ⟨c, .refl, h⟩
  | cons a acts ih =>
      obtain ⟨c', hc', hP⟩ := (Option.any_eq_true ..).mp h
      obtain ⟨b, hb, hrest⟩ := Option.bind_eq_some_iff.mp hc'
      obtain ⟨hact, htest⟩ := Option.filter_eq_some_iff.mp hb
      obtain ⟨d, hd, hPd⟩ := ih (c := b) (by rw [Option.any_eq_true]; exact ⟨c', hrest, hP⟩)
      exact ⟨d, .head ⟨act_step hact, htest⟩ hd, hPd⟩

end Exec

/-- A run under stricter conditions is one under weaker ones. -/
theorem Run.mono {handle : Nat → Req → Proc σ L ε α} {adm adm' : Req → σ → Prop}
    {ok ok' : L → σ → Prop} {c c' : Config σ Req L ε α} (h : Run handle adm ok c c')
    (hadm : ∀ req s, adm req s → adm' req s) (hok : ∀ ℓ s, ok ℓ s → ok' ℓ s) :
    Run handle adm' ok' c c' := by
  refine Relation.ReflTransGen.mono (fun a b hstep => ?_) c c' h
  cases hstep with
  | accept req h => exact .accept req (hadm _ _ h)
  | advance hi hp hlabel => exact .advance hi hp fun ℓ hℓ => hok _ _ (hlabel ℓ hℓ)

section Flights

variable {handle : Nat → Req → Proc σ L ε α} {adm : Req → σ → Prop} {ok : L → σ → Prop}
variable {c c' : Config σ Req L ε α} {i : Nat} {req : Req} {p : Proc σ L ε α}

/-- The process at place `i` takes its next action. -/
def Advances (ok : L → σ → Prop) (i : Nat) (c c' : Config σ Req L ε α) : Prop :=
  ∃ req p p', c.flights[i]? = some (req, p) ∧ p.step c.state = some (p', c'.state) ∧
    (∀ ℓ, p.label = some ℓ → ok ℓ c.state) ∧ c'.flights = c.flights.set i (req, p')

theorem Advances.step (h : Advances ok i c c') : Step handle adm ok c c' := by
  obtain ⟨req, p, p', hi, hp, hok, hflights⟩ := h
  obtain ⟨s', flights⟩ := c'
  dsimp only at hp hflights
  subst hflights
  exact .advance hi hp hok

theorem act_advances [∀ req s, Decidable (adm req s)] [∀ ℓ s, Decidable (ok ℓ s)]
    (h : act handle adm ok (.advance i) c = some c') : Advances ok i c c' := by
  simp only [act] at h
  split at h
  · cases h
  · next req p hi =>
    split at h
    · next hok =>
      obtain ⟨⟨p', s'⟩, hp, rfl⟩ := Option.map_eq_some_iff.mp h
      exact ⟨req, p, p', hi, hp, fun ℓ hℓ => by simpa [hℓ] using hok, rfl⟩
    · cases h

/-- The request at place `i` and its answer, once it has been answered. -/
def Config.answer (c : Config σ Req L ε α) (i : Nat) : Option (Req × Except ε α) :=
  match c.flights[i]? with
  | some (req, .done r) => some (req, r)
  | _ => none

theorem Config.flight_of_answer {r : Except ε α} (h : c.answer i = some (req, r)) :
    c.flights[i]? = some (req, .done r) := by
  unfold Config.answer at h
  split at h
  · next hi =>
    cases h
    exact hi
  · cases h

/-- What is in flight after a step was there before, has just been accepted, or has moved. -/
theorem Step.flight (h : Step handle adm ok c c') (hi : c'.flights[i]? = some (req, p)) :
    c.flights[i]? = some (req, p) ∨ p = handle i req ∨
      ∃ p₀, c.flights[i]? = some (req, p₀) ∧ p₀.step c.state = some (p, c'.state) := by
  cases h with
  | accept req' hadm =>
      rcases Nat.lt_trichotomy i c.flights.length with hlt | rfl | hgt
      · rw [List.getElem?_append_left hlt] at hi
        exact .inl hi
      · rw [List.getElem?_concat_length] at hi
        cases hi
        exact .inr (.inl rfl)
      · rw [List.getElem?_eq_none (by simp; omega)] at hi
        cases hi
  | @advance j req' p₀ p' s' hj hp hok =>
      by_cases hij : j = i
      · subst hij
        rw [List.getElem?_set_self (List.getElem?_eq_some_iff.mp hj).1] at hi
        cases hi
        exact .inr (.inr ⟨p₀, hj, hp⟩)
      · rw [List.getElem?_set_ne hij] at hi
        exact .inl hi

/-- What is in flight stays in flight, where it was or a step further. -/
theorem Step.flight_later (h : Step handle adm ok c c') (hi : c.flights[i]? = some (req, p)) :
    ∃ p', c'.flights[i]? = some (req, p') ∧
      (p' = p ∨ p.step c.state = some (p', c'.state)) := by
  have hlt : i < c.flights.length := (List.getElem?_eq_some_iff.mp hi).1
  cases h with
  | accept req' hadm => exact ⟨p, by rw [List.getElem?_append_left hlt]; exact hi, .inl rfl⟩
  | @advance j req' p₀ p' s' hj hp hok =>
      by_cases hij : j = i
      · subst hij
        cases hi.symm.trans hj
        exact ⟨p', List.getElem?_set_self hlt, .inr hp⟩
      · exact ⟨p, by rw [List.getElem?_set_ne hij]; exact hi, .inl rfl⟩

/-- So it does in a run. -/
theorem Run.flight_later (hrun : Run handle adm ok c c') (hi : c.flights[i]? = some (req, p)) :
    ∃ p', c'.flights[i]? = some (req, p') := by
  induction hrun with
  | refl => exact ⟨p, hi⟩
  | tail _ hstep ih =>
      obtain ⟨q, hq⟩ := ih
      obtain ⟨p', hp', -⟩ := hstep.flight_later hq
      exact ⟨p', hp'⟩

/-- What every fresh process has, and keeps by its own steps, everything in flight has. -/
theorem Run.flights {P : Nat → Req → Proc σ L ε α → Prop}
    (hserve : ∀ i req, P i req (handle i req))
    (hkeep : ∀ i req p p' s s', P i req p → p.step s = some (p', s') → P i req p')
    (h : ∀ i req p, c.flights[i]? = some (req, p) → P i req p) (hrun : Run handle adm ok c c') :
    ∀ i req p, c'.flights[i]? = some (req, p) → P i req p := by
  induction hrun with
  | refl => exact h
  | tail _ hstep ih =>
      intro i req p hi
      obtain hi | rfl | ⟨p₀, hi, hp⟩ := hstep.flight hi
      · exact ih i req p hi
      · exact hserve i req
      · exact hkeep i req p₀ p _ _ (ih i req p₀ hi) hp

end Flights

section Alone

variable {handle : Nat → Req → Proc σ L ε α} {adm : Req → σ → Prop} {ok : L → σ → Prop}
variable {i : Nat} {req : Req}

/-- One process may be advanced to its end before any other acts. -/
theorem run_alone (hok : ∀ ℓ s, ok ℓ s) (p : Proc σ L ε α) {s : σ}
    {flights : List (Req × Proc σ L ε α)} (hi : flights[i]? = some (req, p)) :
    Run handle adm ok ⟨s, flights⟩
      ⟨(p.alone s).2, flights.set i (req, .done (p.alone s).1)⟩ := by
  induction p generalizing s flights with
  | done r =>
      obtain ⟨hlt, hget⟩ := List.getElem?_eq_some_iff.mp hi
      have hset : flights.set i (req, .done r) = flights := by
        rw [← hget]
        exact List.set_getElem_self hlt
      rw [Proc.alone_done, hset]
  | query next ih =>
      have hstep : Step handle adm ok ⟨s, flights⟩ ⟨s, flights.set i (req, next s)⟩ :=
        .advance hi rfl fun ℓ hℓ => by cases hℓ
      have hset : (flights.set i (req, next s))[i]? = some (req, next s) :=
        List.getElem?_set_self (List.getElem?_eq_some_iff.mp hi).1
      have hrest := ih s (s := s) hset
      rw [List.set_set] at hrest
      exact .head hstep hrest
  | commit ℓ upd next ih =>
      have hstep : Step handle adm ok ⟨s, flights⟩ ⟨upd s, flights.set i (req, next s)⟩ :=
        .advance hi rfl fun ℓ' _ => hok ℓ' s
      have hset : (flights.set i (req, next s))[i]? = some (req, next s) :=
        List.getElem?_set_self (List.getElem?_eq_some_iff.mp hi).1
      have hrest := ih s (s := upd s) hset
      rw [List.set_set] at hrest
      exact .head hstep hrest

end Alone

section Commits

variable {handle : Nat → Req → Proc σ L ε α} {adm : Req → σ → Prop} {ok : L → σ → Prop}
variable {K : L → (σ → σ) → Prop} {c c' : Config σ Req L ε α}

/-- What is in flight makes listed writes only. -/
def Listed (K : L → (σ → σ) → Prop) (c : Config σ Req L ε α) : Prop :=
  ∀ f ∈ c.flights, f.2.Commits K

theorem listed_idle {s : σ} : Listed K (⟨s, []⟩ : Config σ Req L ε α) :=
  fun _ hf => absurd hf List.not_mem_nil

theorem Listed.step (hserve : ∀ i req, (handle i req).Commits K) (h : Listed K c)
    (hstep : Step handle adm ok c c') :
    Listed K c' ∧ (c'.state = c.state ∨ ∃ ℓ upd, K ℓ upd ∧ ok ℓ c.state ∧
      c'.state = upd c.state) := by
  cases hstep with
  | accept req hadm =>
      refine ⟨fun f hf => ?_, .inl rfl⟩
      obtain hf | hf := List.mem_append.mp hf
      · exact h f hf
      · rw [List.mem_singleton.mp hf]
        exact hserve _ req
  | @advance i req p p' s' hi hp hok =>
      have hlisted : p.Commits K := h _ (List.mem_of_getElem? hi)
      have hrest : p'.Commits K → Listed K ⟨s', c.flights.set i (req, p')⟩ := by
        intro hp' f hf
        obtain hf | rfl := List.mem_or_eq_of_mem_set hf
        · exact h f hf
        · exact hp'
      cases p with
      | done r => cases hp
      | query next =>
          cases hp
          exact ⟨hrest (hlisted _), .inl rfl⟩
      | commit ℓ upd next =>
          cases hp
          exact ⟨hrest (hlisted.2 _), .inr ⟨ℓ, upd, hlisted.1, hok ℓ rfl, rfl⟩⟩

theorem Listed.run (hserve : ∀ i req, (handle i req).Commits K) (h : Listed K c)
    (hrun : Run handle adm ok c c') : Listed K c' := by
  induction hrun with
  | refl => exact h
  | tail _ hstep ih => exact (ih.step hserve hstep).1

/-- What every listed write keeps, a run keeps. -/
theorem Listed.invariant {J : σ → Prop} (hserve : ∀ i req, (handle i req).Commits K)
    (h : Listed K c) (hJ : J c.state)
    (hwrite : ∀ ℓ upd s, K ℓ upd → ok ℓ s → J s → J (upd s))
    (hrun : Run handle adm ok c c') : J c'.state := by
  induction hrun with
  | refl => exact hJ
  | tail hbefore hstep ih =>
      obtain ⟨-, hsame | ⟨ℓ, upd, hK, hok, hs⟩⟩ := (h.run hserve hbefore).step hserve hstep
      · rw [hsame]
        exact ih
      · rw [hs]
        exact hwrite ℓ upd _ hK hok ih

end Commits

/-- Requests keep their places, so their number never goes down. -/
theorem Step.length_le {handle : Nat → Req → Proc σ L ε α} {adm : Req → σ → Prop}
    {ok : L → σ → Prop} {c c' : Config σ Req L ε α} (h : Step handle adm ok c c') :
    c.flights.length ≤ c'.flights.length := by
  cases h with
  | accept req _ => simp
  | advance hi hp _ => simp

end Runs

/-! ## Database clients

A service method takes the client it works with: a transaction in progress, whose statements
commit together, or the bare connection, which commits every statement by itself. A method is
written once, over any monad with a `Client`, and is then a transaction or a process. -/

section Clients

open Relational

/-- What a method may do with its client: read, or have a statement executed. -/
class Client (σ L ε : Type) (m : Type → Type) where
  query {α : Type} (f : σ → α) : m α
  statement {α : Type} (ℓ : L) (tx : Tx σ ε α) : m α

namespace Client

variable {σ L ε α : Type}

/-- Inside a transaction a statement is a part of it. -/
instance : Client σ L ε (Tx σ ε) where
  query := Tx.read
  statement _ tx := tx

/-- Over the bare connection a statement is a transaction of its own. -/
instance : Client σ L ε (Proc σ L ε) where
  query := Proc.read
  statement := Proc.transact

@[simp] theorem query_tx (f : σ → α) : (query L ε f : Tx σ ε α) = Tx.read f := rfl

@[simp] theorem statement_tx (ℓ : L) (tx : Tx σ ε α) : (statement ℓ tx : Tx σ ε α) = tx := rfl

@[simp] theorem query_proc (f : σ → α) : (query L ε f : Proc σ L ε α) = Proc.read f := rfl

@[simp] theorem statement_proc (ℓ : L) (tx : Tx σ ε α) :
    (statement ℓ tx : Proc σ L ε α) = Proc.transact ℓ tx := rfl

end Client

end Clients

end Concurrent
