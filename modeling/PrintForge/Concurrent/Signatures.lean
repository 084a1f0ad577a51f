import PrintForge.Concurrent.Sessions

/-!
# Writes that are signed

What a call writes may carry the number of the call: `signed (some i) s` is what stands in the
state under the number `i`, and `signed none s` what stands there under no number. A process signs
if it touches nothing but what is under its own number, and that with no write but the last, after
which it ends at once with a result that goes with it. In a run what stands under the number of a
call is what its answer says, and nothing stands there of a call that has failed or has not been
answered.

`Ends` says of a transaction what it has written when it comes to its end, whatever it has read.
-/

namespace Concurrent

open Relational

variable {σ K Req L ε α β E : Type}

namespace Proc

variable (signed : Option Nat → σ → List E) (i : Nat)

/-- Nothing is signed before the last write, and what is signed there goes with the result. -/
def Signs (P : α → List E → Prop) : Proc σ L ε α → Prop
  | .done (.ok a) => P a []
  | .done (.error _) => True
  | .query next => ∀ s, Signs P (next s)
  | .commit _ upd next => ∀ s, (∀ j, j ≠ some i → signed j (upd s) = signed j s) ∧
      (signed (some i) (upd s) = signed (some i) s ∧ Signs P (next s) ∨
        ∃ a, next s = .done (.ok a) ∧ (signed (some i) s = [] → P a (signed (some i) (upd s))))

variable {signed i} {P : α → List E → Prop} {Q : β → List E → Prop} {s s' : σ}

/-- A result may be turned into another. -/
theorem Signs.map {f : α → β} {p : Proc σ L ε α} (h : p.Signs signed i P)
    (hf : ∀ a es, P a es → Q (f a) es) : (f <$> p).Signs signed i Q := by
  rw [map_def]
  induction p with
  | done r =>
      cases r with
      | ok a => exact hf a [] h
      | error e => trivial
  | query next ih => exact fun s => ih s (h s)
  | commit ℓ upd next ih =>
      intro s
      obtain ⟨hothers, hself⟩ := h s
      refine ⟨hothers, ?_⟩
      obtain ⟨hsame, hnext⟩ | ⟨a, ha, hP⟩ := hself
      · exact .inl ⟨hsame, ih s hnext⟩
      · refine .inr ⟨f a, ?_, fun hnil => hf a _ (hP hnil)⟩
        exact congrArg (Proc.finish · fun r => .done (r.map f)) ha

/-- A process that writes nothing signs nothing. -/
theorem signs_of_reads {p : Proc σ L ε α} (h : p.Commits fun _ _ => False) (hP : ∀ a, P a []) :
    p.Signs signed i P := by
  induction p with
  | done r =>
      cases r with
      | ok a => exact hP a
      | error e => trivial
  | query next ih => exact fun s => ih s (h s)
  | commit ℓ upd next ih => exact h.1.elim

/-- What a process in flight has signed: all that goes with its result, or nothing yet. -/
def Signed (signed : Option Nat → σ → List E) (i : Nat) (P : α → List E → Prop) (p : Proc σ L ε α)
    (s : σ) : Prop :=
  (∃ a, p = .done (.ok a) ∧ P a (signed (some i) s)) ∨ signed (some i) s = [] ∧ p.Signs signed i P

theorem Signed.later {p : Proc σ L ε α} (h : Signed signed i P p s)
    (hs : signed (some i) s' = signed (some i) s) : Signed signed i P p s' := by
  unfold Signed
  rw [hs]
  exact h

theorem Signed.step {p p' : Proc σ L ε α} (h : Signed signed i P p s)
    (hp : p.step s = some (p', s')) :
    Signed signed i P p' s' ∧ ∀ j, j ≠ some i → signed j s' = signed j s := by
  obtain ⟨a, rfl, -⟩ | ⟨hnil, hsigns⟩ := h
  · cases hp
  · cases p with
    | done r => cases hp
    | query next =>
        cases hp
        exact ⟨.inr ⟨hnil, hsigns s⟩, fun _ _ => rfl⟩
    | commit ℓ upd next =>
        cases hp
        obtain ⟨hothers, hself⟩ := hsigns s
        refine ⟨?_, hothers⟩
        obtain ⟨hsame, hnext⟩ | ⟨a, ha, hP⟩ := hself
        · exact .inr ⟨hsame.trans hnil, hnext⟩
        · exact .inl ⟨a, ha, hP hnil⟩

end Proc

/-! ## Runs -/

section Runs

variable {signed : Option Nat → σ → List E} {handle : Nat → Req → Proc σ L ε α}
variable {adm : Req → σ → Prop} {ok : L → σ → Prop} {P : Nat → Req → α → List E → Prop}
variable {c c' : Config σ Req L ε α} {s₀ : σ}

/-- Every request has signed what it should have by now, nothing is signed for a request that is
still to come, and what is signed by no request is what it was at the start. -/
structure AllSigned (signed : Option Nat → σ → List E) (P : Nat → Req → α → List E → Prop)
    (foreign : List E) (c : Config σ Req L ε α) : Prop where
  flights : ∀ i req p, c.flights[i]? = some (req, p) →
    Proc.Signed signed i (P i req) p c.state
  toCome : ∀ i, c.flights.length ≤ i → signed (some i) c.state = []
  foreign : signed none c.state = foreign

variable {foreign : List E}

theorem AllSigned.step (hserve : ∀ i req, (handle i req).Signs signed i (P i req))
    (h : AllSigned signed P foreign c) (hstep : Step handle adm ok c c') :
    AllSigned signed P foreign c' := by
  cases hstep with
  | accept req hadm =>
      refine ⟨fun i req' p hi => ?_, fun i hi => ?_, h.foreign⟩
      · rcases Nat.lt_trichotomy i c.flights.length with hlt | rfl | hgt
        · rw [List.getElem?_append_left hlt] at hi
          exact h.flights i req' p hi
        · rw [List.getElem?_concat_length] at hi
          cases hi
          exact .inr ⟨h.toCome _ (Nat.le_refl _), hserve _ req⟩
        · rw [List.getElem?_eq_none (by simp; omega)] at hi
          cases hi
      · rw [List.length_append] at hi
        exact h.toCome i (by omega)
  | @advance j req p p' s' hj hp hok =>
      have hlt : j < c.flights.length := (List.getElem?_eq_some_iff.mp hj).1
      obtain ⟨hself, hothers⟩ := (h.flights j req p hj).step hp
      have hother : ∀ i, j ≠ i → signed (some i) s' = signed (some i) c.state := fun i hij =>
        hothers (some i) fun heq => hij (Option.some.inj heq).symm
      refine ⟨fun i req' q hi => ?_, fun i hi => ?_, ?_⟩
      · by_cases hij : j = i
        · subst hij
          rw [List.getElem?_set_self hlt] at hi
          cases hi
          exact hself
        · rw [List.getElem?_set_ne hij] at hi
          exact (h.flights i req' q hi).later (hother i hij)
      · rw [List.length_set] at hi
        exact (hother i (by omega)).trans (h.toCome i hi)
      · exact (hothers none fun heq => by cases heq).trans h.foreign

theorem allSigned_of_run (hserve : ∀ i req, (handle i req).Signs signed i (P i req))
    (hstart : ∀ i, signed (some i) s₀ = []) (hrun : Run handle adm ok ⟨s₀, []⟩ c) :
    AllSigned signed P (signed none s₀) c := by
  induction hrun with
  | refl => exact ⟨fun i req p hi => by simp at hi, fun i _ => hstart i, rfl⟩
  | tail _ hstep ih => exact ih.step hserve hstep

/-- What stands under the number of a call that has a result goes with the result. -/
theorem AllSigned.answered {i : Nat} {req : Req} {a : α} (h : AllSigned signed P foreign c)
    (hi : c.flights[i]? = some (req, .done (.ok a))) : P i req a (signed (some i) c.state) := by
  obtain ⟨b, hb, hP⟩ | ⟨hnil, hsigns⟩ := h.flights i req _ hi
  · cases hb
    exact hP
  · rw [hnil]
    exact hsigns

/-- Whatever is signed was signed by a call that has been answered with a result. -/
theorem AllSigned.signer {i : Nat} (h : AllSigned signed P foreign c)
    (hi : signed (some i) c.state ≠ []) :
    ∃ req a, c.flights[i]? = some (req, .done (.ok a)) ∧
      P i req a (signed (some i) c.state) := by
  have hlt : i < c.flights.length := by
    by_contra hle
    exact hi (h.toCome i (by omega))
  have hget : c.flights[i]? = some (c.flights[i].1, c.flights[i].2) :=
    List.getElem?_eq_getElem hlt
  obtain ⟨a, ha, hP⟩ | ⟨hnil, -⟩ := h.flights i _ _ hget
  · exact ⟨_, a, hget.trans (by rw [ha]), hP⟩
  · exact absurd hnil hi

end Runs

/-! ## Transactions -/

namespace Txn

variable {P : α → Tx σ ε Unit → Prop} {Q : β → Tx σ ε Unit → Prop} {pending : Tx σ ε Unit}

/-- What the transaction has written when it ends with a result. -/
def Ends (P : α → Tx σ ε Unit → Prop) : Txn σ K L ε α → Tx σ ε Unit → Prop
  | .done (.ok a), pending => P a pending
  | .done (.error _), _ => True
  | .query next, pending => ∀ v, Ends P (next v) pending
  | .lock _ _ next, pending => ∀ v, Ends P (next v) pending
  | .write tx next, pending => Ends P next (do pending; tx)

theorem ends_throw (e : ε) : (throw e : Txn σ K L ε α).Ends P pending := trivial

theorem Ends.bind {p : Txn σ K L ε α} {f : α → Txn σ K L ε β} (h : p.Ends P pending)
    (hf : ∀ a pending, P a pending → (f a).Ends Q pending) : (p >>= f).Ends Q pending := by
  show (p.andThen f).Ends Q pending
  induction p generalizing pending with
  | done r =>
      cases r with
      | ok a => exact hf a pending h
      | error e => trivial
  | query next ih => exact fun v => ih v (h v)
  | lock ℓ k next ih => exact fun v => ih v (h v)
  | write tx next ih => exact ih h

/-- A statement that reads, and what follows it. -/
theorem ends_read {γ : Type} {f : σ → γ} {g : γ → Txn σ K L ε α}
    (h : ∀ v, (g (f v)).Ends P pending) : (Txn.read f >>= g).Ends P pending := h

/-- A statement that locks, and what follows it. -/
theorem ends_lock {γ : Type} {ℓ : L} {k : K} {f : σ → γ} {g : γ → Txn σ K L ε α}
    (h : ∀ v, (g (f v)).Ends P pending) : (Txn.lockAnd ℓ k f >>= g).Ends P pending := h

/-- A statement that writes, and what follows it. -/
theorem ends_exec {γ : Type} {tx : Tx σ ε γ} {g : γ → Txn σ K L ε α}
    (h : ∀ v a w, tx v = .ok (a, w) → (g a).Ends P (do pending; discard tx)) :
    (Txn.exec tx >>= g).Ends P pending := by
  have hwrites : (Txn.exec tx : Txn σ K L ε γ).Ends
      (fun a q => (∃ v w, tx v = .ok (a, w)) ∧ q = do pending; discard tx) pending := by
    unfold Txn.exec
    intro v
    beta_reduce
    split
    · next a w htx => exact ⟨⟨v, w, htx⟩, rfl⟩
    · trivial
  refine hwrites.bind fun a q ha => ?_
  obtain ⟨⟨v, w, htx⟩, rfl⟩ := ha
  exact h v a w htx

theorem Ends.cut {p : Txn σ K L ε α} (h : p.Ends P pending) (e : ε) (n : Nat) :
    (p.cut e n).Ends P pending := by
  induction p generalizing pending n with
  | done r =>
      cases n with
      | zero => trivial
      | succ n => exact h
  | query next ih =>
      cases n with
      | zero => trivial
      | succ n => exact fun v => ih v (h v) n
  | lock ℓ k next ih =>
      cases n with
      | zero => trivial
      | succ n => exact fun v => ih v (h v) n
  | write tx next ih =>
      cases n with
      | zero => trivial
      | succ n => exact ih h n

theorem Ends.cutAt {p : Txn σ K L ε α} (h : p.Ends P pending) (e : ε) (failsAt : Option Nat) :
    (p.cutAt e failsAt).Ends P pending := by
  cases failsAt with
  | none => exact h
  | some n => exact h.cut e n

/-- The process that runs a transaction signs what the transaction has written at its end. -/
theorem Ends.signs {p : Txn σ K L ε α} {signed : Option Nat → σ → List E} {i : Nat} {name : α → L}
    {R : α → List E → Prop} (h : p.Ends P pending)
    (hP : ∀ a pending w w', P a pending → pending w = .ok ((), w') →
      (∀ j, j ≠ some i → signed j w' = signed j w) ∧
        (signed (some i) w = [] → R a (signed (some i) w'))) :
    (session i name p pending).Signs (fun j (s : Locked σ K) => signed j s.db) i R := by
  induction p generalizing pending with
  | done r =>
      cases r with
      | ok a =>
          intro s
          cases hpending : pending s.db with
          | ok r =>
              obtain ⟨⟨⟩, w'⟩ := r
              obtain ⟨hothers, hself⟩ := hP a pending s.db w' h hpending
              dsimp only
              rw [Proc.applied_ok hpending, hpending]
              exact ⟨hothers, .inr ⟨a, rfl, hself⟩⟩
          | error e =>
              dsimp only
              rw [Proc.applied_error hpending, hpending]
              exact ⟨fun _ _ => rfl, .inl ⟨rfl, trivial⟩⟩
      | error e => exact fun s => ⟨fun _ _ => rfl, .inl ⟨rfl, trivial⟩⟩
  | query next ih => exact fun s => ih _ (h _)
  | lock ℓ k next ih => exact fun s => ⟨fun _ _ => rfl, .inl ⟨rfl, ih _ (h _)⟩⟩
  | write tx next ih => exact ih h

end Txn

end Concurrent
