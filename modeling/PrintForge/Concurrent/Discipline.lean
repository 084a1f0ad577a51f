import PrintForge.Concurrent.Process

/-!
# Rely–guarantee reasoning for processes

A `Discipline` says what every commit guarantees and what a process may rely on
between two of its own actions. `Safe` holds of a process that keeps its side: each
of its commits, made in any state the others may have left, gives the guarantee,
and its outcome satisfies a postcondition. A run whose requests are all served by
safe processes keeps the invariant, and every commit of it gives the guarantee.

`ok` restricts the runs under discussion. A result about every run takes it to be
true; a result about the runs that avoid some step says so there.
-/

namespace Concurrent

/-- What commits guarantee, what processes rely on, and the invariant both keep.
Guarantees and relies are indexed by the place of the process among the requests. -/
structure Discipline (σ L : Type) where
  inv : σ → Prop
  ok : L → σ → Prop
  rely : Nat → σ → σ → Prop
  guar : Nat → L → σ → σ → Prop
  rely_refl : ∀ i s, rely i s s
  rely_trans : ∀ {i s s' s''}, rely i s s' → rely i s' s'' → rely i s s''
  inv_guar : ∀ {i ℓ s s'}, inv s → ok ℓ s → guar i ℓ s s' → inv s'
  rely_guar : ∀ {i j ℓ s s'}, i ≠ j → inv s → ok ℓ s → guar i ℓ s s' → rely j s s'

namespace Discipline

variable {σ L ε α β : Type} (D : Discipline σ L)

/-- The process at place `i` gives the guarantee with every commit, and ends as the
postcondition says, whatever the other processes do meanwhile. -/
def Safe (i : Nat) (Q : σ → Except ε α → Prop) : Proc σ L ε α → σ → Prop
  | .done r, s => ∀ s', D.rely i s s' → D.inv s' → Q s' r
  | .query next, s => ∀ s', D.rely i s s' → D.inv s' → Safe i Q (next s') s'
  | .commit ℓ upd next, s => ∀ s', D.rely i s s' → D.inv s' → D.ok ℓ s' →
      D.guar i ℓ s' (upd s') ∧ Safe i Q (next s') (upd s')

variable {D} {i : Nat} {Q Q' : σ → Except ε α → Prop} {s s' : σ}

/-- What is safe now is safe after any steps of the others. -/
theorem Safe.later {p : Proc σ L ε α} (h : D.Safe i Q p s) (hs : D.rely i s s') :
    D.Safe i Q p s' := by
  cases p with
  | done r => exact fun s'' h' => h s'' (D.rely_trans hs h')
  | query next => exact fun s'' h' => h s'' (D.rely_trans hs h')
  | commit ℓ upd next => exact fun s'' h' => h s'' (D.rely_trans hs h')

/-- A write that is due gives the guarantee in any state the others may leave. -/
theorem Safe.write {p : Proc σ L ε α} {ℓ : L} {upd : σ → σ} (h : D.Safe i Q p s)
    (hw : p.write = some (ℓ, upd)) (hs : D.rely i s s') (hinv : D.inv s') (hok : D.ok ℓ s') :
    D.guar i ℓ s' (upd s') := by
  cases p with
  | done r => cases hw
  | query next => cases hw
  | commit ℓ' upd' next =>
      cases hw
      exact (h s' hs hinv hok).1

theorem Safe.mono_post {p : Proc σ L ε α} (h : D.Safe i Q p s)
    (post : ∀ s r, Q s r → Q' s r) : D.Safe i Q' p s := by
  induction p generalizing s with
  | done r => exact fun s' hl hi => post s' r (h s' hl hi)
  | query next ih => exact fun s' hl hi => ih s' (h s' hl hi)
  | commit ℓ upd next ih =>
      intro s' hl hi hok
      obtain ⟨hg, hn⟩ := h s' hl hi hok
      exact ⟨hg, ih s' hn⟩

/-- The rule for sequencing: the continuation starts from the outcome of the first
part, in a state that satisfies its postcondition. -/
theorem Safe.finish {p : Proc σ L ε α} {k : Except ε α → Proc σ L ε β}
    {R : σ → Except ε β → Prop} (h : D.Safe i Q p s) (hs : D.inv s)
    (hk : ∀ s r, D.inv s → Q s r → D.Safe i R (k r) s) : D.Safe i R (p.finish k) s := by
  induction p generalizing s with
  | done r => exact hk s r hs (h s (D.rely_refl i s) hs)
  | query next ih => exact fun s' hl hi => ih s' (h s' hl hi) hi
  | commit ℓ upd next ih =>
      intro s' hl hi hok
      obtain ⟨hg, hn⟩ := h s' hl hi hok
      exact ⟨hg, ih s' hn (D.inv_guar hi hok hg)⟩

/-- The outcome may be turned into another. -/
theorem Safe.map {p : Proc σ L ε α} {g : Except ε α → Except ε β} {R : σ → Except ε β → Prop}
    (h : D.Safe i Q p s) (hg : ∀ s r, Q s r → R s (g r)) :
    D.Safe i R (p.finish fun r => .done (g r)) s := by
  induction p generalizing s with
  | done r => exact fun s' hl hi => hg s' r (h s' hl hi)
  | query next ih => exact fun s' hl hi => ih s' (h s' hl hi)
  | commit ℓ upd next ih =>
      intro s' hl hi hok
      obtain ⟨hguar, hn⟩ := h s' hl hi hok
      exact ⟨hguar, ih s' hn⟩

theorem safe_done {r : Except ε α} (h : ∀ s', D.rely i s s' → D.inv s' → Q s' r) :
    D.Safe i Q (.done r) s := h

theorem safe_read {γ : Type} {f : σ → γ} {k : Except ε γ → Proc σ L ε α}
    (h : ∀ s', D.rely i s s' → D.inv s' → D.Safe i Q (k (.ok (f s'))) s') :
    D.Safe i Q ((Proc.read f).finish k) s := h

/-- A transaction followed by the rest of a process. A transaction that is rolled back
leaves the state alone, and the guarantee then speaks of its label only. -/
theorem safe_transact {γ : Type} {ℓ : L} {tx : StateT σ (Except ε) γ}
    {k : Except ε γ → Proc σ L ε α}
    (hok : ∀ s' a s'', D.rely i s s' → D.inv s' → D.ok ℓ s' → tx s' = .ok (a, s'') →
      D.guar i ℓ s' s'' ∧ (D.inv s'' → D.Safe i Q (k (.ok a)) s''))
    (herr : ∀ s' e, D.rely i s s' → D.inv s' → D.ok ℓ s' → tx s' = .error e →
      D.guar i ℓ s' s' ∧ D.Safe i Q (k (.error e)) s') :
    D.Safe i Q ((Proc.transact ℓ tx).finish k) s := by
  intro s' hl hi hℓ
  cases htx : tx s' with
  | ok r =>
      obtain ⟨a, s''⟩ := r
      obtain ⟨hg, hk⟩ := hok s' a s'' hl hi hℓ htx
      simp only [htx]
      exact ⟨hg, hk (D.inv_guar hi hℓ hg)⟩
  | error e =>
      simp only [htx]
      exact herr s' e hl hi hℓ htx

theorem safe_attempt {γ δ : Type} {ℓ : L} {seen : σ → δ} {tx : StateT σ (Except ε) γ}
    {k : Except ε (δ × Except ε γ) → Proc σ L ε α}
    (hok : ∀ s' a s'', D.rely i s s' → D.inv s' → D.ok ℓ s' → tx s' = .ok (a, s'') →
      D.guar i ℓ s' s'' ∧ (D.inv s'' → D.Safe i Q (k (.ok (seen s', .ok a))) s''))
    (herr : ∀ s' e, D.rely i s s' → D.inv s' → D.ok ℓ s' → tx s' = .error e →
      D.guar i ℓ s' s' ∧ D.Safe i Q (k (.ok (seen s', .error e))) s') :
    D.Safe i Q ((Proc.attempt ℓ seen tx).finish k) s := by
  intro s' hl hi hℓ
  cases htx : tx s' with
  | ok r =>
      obtain ⟨a, s''⟩ := r
      obtain ⟨hg, hk⟩ := hok s' a s'' hl hi hℓ htx
      simp only [htx]
      exact ⟨hg, hk (D.inv_guar hi hℓ hg)⟩
  | error e =>
      simp only [htx]
      exact herr s' e hl hi hℓ htx

/-- What is safe keeps the invariant, and ends by itself as its postcondition says. -/
theorem Safe.alone {p : Proc σ L ε α} (h : D.Safe i Q p s) (hok : ∀ ℓ s, D.ok ℓ s)
    (hs : D.inv s) : D.inv (p.alone s).2 ∧ Q (p.alone s).2 (p.alone s).1 := by
  induction p generalizing s with
  | done r => exact ⟨hs, h s (D.rely_refl i s) hs⟩
  | query next ih => exact ih s (h s (D.rely_refl i s) hs) hs
  | commit ℓ upd next ih =>
      obtain ⟨hg, hn⟩ := h s (D.rely_refl i s) hs (hok ℓ s)
      exact ih s hn (D.inv_guar hs (hok ℓ s) hg)

/-! ## Runs -/

section Runs

variable {Req : Type} {handle : Nat → Req → Proc σ L ε α} {adm : Req → σ → Prop}
variable {post : Nat → Req → σ → Except ε α → Prop} {c c' : Config σ Req L ε α}

/-- The invariant holds and every request is being served by a safe process. -/
structure Holds (D : Discipline σ L) (post : Nat → Req → σ → Except ε α → Prop)
    (c : Config σ Req L ε α) : Prop where
  inv : D.inv c.state
  safe : ∀ i req p, c.flights[i]? = some (req, p) → D.Safe i (post i req) p c.state

theorem holds_idle (h : D.inv s) : D.Holds post (⟨s, []⟩ : Config σ Req L ε α) :=
  ⟨h, fun i req p hi => by simp at hi⟩

/-- A step of a configuration either leaves the shared state alone or is a commit. -/
theorem Holds.commit (h : D.Holds post c) (hstep : Step handle adm D.ok c c') :
    c'.state = c.state ∨ ∃ i ℓ, D.ok ℓ c.state ∧ D.guar i ℓ c.state c'.state := by
  cases hstep with
  | accept req _ => exact .inl rfl
  | @advance i req p p' s' hi hp hok =>
      cases p with
      | done r => cases hp
      | query next =>
          cases hp
          exact .inl rfl
      | commit ℓ upd next =>
          cases hp
          have hℓ := hok ℓ rfl
          exact .inr ⟨i, ℓ, hℓ, (h.safe i req _ hi _ (D.rely_refl i _) h.inv hℓ).1⟩

/-- One step keeps the invariant and the safety of every process. Only requests
accepted from place `n` on have to be served safely. -/
theorem Holds.step {n : Nat} (hn : n ≤ c.flights.length)
    (hserve : ∀ i req s, n ≤ i → D.inv s → adm req s → D.Safe i (post i req) (handle i req) s)
    (h : D.Holds post c) (hstep : Step handle adm D.ok c c') : D.Holds post c' := by
  cases hstep with
  | accept req hadm =>
      refine ⟨h.inv, fun i req' p hi => ?_⟩
      rcases Nat.lt_trichotomy i c.flights.length with hlt | rfl | hgt
      · rw [List.getElem?_append_left hlt] at hi
        exact h.safe i req' p hi
      · rw [List.getElem?_concat_length] at hi
        cases hi
        exact hserve _ req _ hn h.inv hadm
      · rw [List.getElem?_eq_none (by simp; omega)] at hi
        cases hi
  | @advance i req p p' s' hi hp hok =>
      have hlt : i < c.flights.length := by
        rw [List.getElem?_eq_some_iff] at hi
        exact hi.1
      -- the process that moved is safe by its own clause, the others by their rely
      have hmove : D.inv s' ∧ D.Safe i (post i req) p' s' ∧
          ∀ j, i ≠ j → D.rely j c.state s' := by
        have hp₀ := h.safe i req p hi
        cases p with
        | done r => cases hp
        | query next =>
            cases hp
            exact ⟨h.inv, hp₀ _ (D.rely_refl i _) h.inv, fun j _ => D.rely_refl j _⟩
        | commit ℓ upd next =>
            cases hp
            have hℓ := hok ℓ rfl
            obtain ⟨hg, hn⟩ := hp₀ _ (D.rely_refl i _) h.inv hℓ
            exact ⟨D.inv_guar h.inv hℓ hg, hn, fun j hj => D.rely_guar hj h.inv hℓ hg⟩
      obtain ⟨hinv, hsafe, hrely⟩ := hmove
      refine ⟨hinv, fun j req' q hj => ?_⟩
      by_cases hij : i = j
      · subst hij
        rw [List.getElem?_set_self hlt] at hj
        cases hj
        exact hsafe
      · rw [List.getElem?_set_ne hij] at hj
        exact (h.safe j req' q hj).later (hrely j hij)

theorem Holds.run {n : Nat} (hn : n ≤ c.flights.length)
    (hserve : ∀ i req s, n ≤ i → D.inv s → adm req s → D.Safe i (post i req) (handle i req) s)
    (h : D.Holds post c) (hrun : Run handle adm D.ok c c') : D.Holds post c' := by
  have key : n ≤ c'.flights.length ∧ D.Holds post c' := by
    induction hrun with
    | refl => exact ⟨hn, h⟩
    | tail _ hstep ih => exact ⟨Nat.le_trans ih.1 hstep.length_le, ih.2.step ih.1 hserve hstep⟩
  exact key.2

/-- What every commit does to the state, a run does. -/
theorem Holds.related {n : Nat} {R : σ → σ → Prop} [Std.Refl R] [IsTrans σ R]
    (hn : n ≤ c.flights.length)
    (hserve : ∀ i req s, n ≤ i → D.inv s → adm req s → D.Safe i (post i req) (handle i req) s)
    (hR : ∀ i ℓ s s', D.guar i ℓ s s' → R s s') (h : D.Holds post c)
    (hrun : Run handle adm D.ok c c') : R c.state c'.state := by
  induction hrun with
  | refl => exact Std.Refl.refl _
  | @tail b c' hbefore hstep ih =>
      have hb : D.Holds post b := h.run hn hserve hbefore
      obtain hsame | ⟨i, ℓ, -, hguar⟩ := hb.commit hstep
      · rw [hsame]
        exact ih
      · exact IsTrans.trans _ _ _ ih (hR i ℓ _ _ hguar)

/-- A request that has been answered was answered as its postcondition says. -/
theorem Holds.outcome {req : Req} {r : Except ε α} (h : D.Holds post c)
    (hi : c.flights[i]? = some (req, .done r)) : post i req c.state r :=
  h.safe i req _ hi _ (D.rely_refl i _) h.inv

end Runs

/-- A process whose commits give the guarantee wherever they are made is safe. -/
theorem safe_of_within {G : L → σ → σ → Prop} {p : Proc σ L ε α} (h : p.Within G)
    (hG : ∀ ℓ s s', D.inv s → D.ok ℓ s → G ℓ s s' → D.guar i ℓ s s') :
    D.Safe i (fun _ _ => True) p s := by
  induction p generalizing s with
  | done r => exact fun _ _ _ => trivial
  | query next ih => exact fun s' _ _ => ih s' (h s')
  | commit ℓ upd next ih =>
      exact fun s' _ hi hok => ⟨hG ℓ s' _ hi hok (h s').1, ih s' (h s').2⟩

/-- A process that commits nothing keeps whatever the others keep. -/
theorem safe_of_readOnly {p : Proc σ L ε α} {K : σ → Prop} (h : p.Within fun _ _ _ => False)
    (hK : ∀ s s', D.rely i s s' → K s → K s') (hs : K s) :
    D.Safe i (fun s _ => K s) p s := by
  induction p generalizing s with
  | done r => exact fun s' hl _ => hK s s' hl hs
  | query next ih => exact fun s' hl _ => ih s' (h s') (hK s s' hl hs)
  | commit ℓ upd next ih => exact (h s).1.elim

/-- A process whose commits, made where `K` holds, give the guarantee and keep `K`, which the
others keep too. -/
theorem safe_while {G : L → σ → σ → Prop} {p : Proc σ L ε α} {K : σ → Prop} (h : p.Within G)
    (hG : ∀ ℓ s s', D.inv s → D.ok ℓ s → K s → G ℓ s s' → D.guar i ℓ s s' ∧ K s')
    (hK : ∀ s s', D.rely i s s' → K s → K s') (hs : K s) :
    D.Safe i (fun s _ => K s) p s := by
  induction p generalizing s with
  | done r => exact fun s' hl _ => hK s s' hl hs
  | query next ih => exact fun s' hl _ => ih s' (h s') (hK s s' hl hs)
  | commit ℓ upd next ih =>
      intro s' hl hi hok
      obtain ⟨hguar, hkeep⟩ := hG ℓ s' (upd s') hi hok (hK s s' hl hs) (h s').1
      exact ⟨hguar, ih s' (h s').2 hkeep⟩

/-- A process whose commits give the guarantee and keep what the others keep. -/
theorem safe_keeping {G : L → σ → σ → Prop} {p : Proc σ L ε α} {K : σ → Prop} (h : p.Within G)
    (hG : ∀ ℓ s s', D.inv s → D.ok ℓ s → G ℓ s s' → D.guar i ℓ s s' ∧ (K s → K s'))
    (hK : ∀ s s', D.rely i s s' → K s → K s') (hs : K s) :
    D.Safe i (fun s _ => K s) p s := by
  refine safe_while h (fun ℓ s s' hi hok hk hg => ?_) hK hs
  obtain ⟨hguar, hkeep⟩ := hG ℓ s s' hi hok hg
  exact ⟨hguar, hkeep hk⟩

/-- The rule for a bind whose first half may end in any way. -/
theorem Safe.bind {p : Proc σ L ε α} {f : α → Proc σ L ε β} {K : σ → Prop}
    (h : D.Safe i (fun s _ => K s) p s) (hs : D.inv s)
    (hf : ∀ s a, D.inv s → K s → D.Safe i (fun _ _ => True) (f a) s) :
    D.Safe i (fun _ _ => True) (p >>= f) s := by
  refine h.finish hs fun s r hi hk => ?_
  cases r with
  | ok a => exact hf s a hi hk
  | error e => exact safe_done fun _ _ _ => trivial

/-- What the others keep outlives the step that turns the result into another. -/
theorem Safe.bind_pure {p : Proc σ L ε α} {f : α → β} {K : σ → Prop}
    (h : D.Safe i (fun s _ => K s) p s) (hs : D.inv s)
    (hK : ∀ s s', D.rely i s s' → K s → K s') :
    D.Safe i (fun s _ => K s) (p >>= fun a => pure (f a)) s := by
  refine h.finish hs fun s₁ r _ hk => ?_
  cases r with
  | ok a => exact safe_done fun s₂ hl _ => hK s₁ s₂ hl hk
  | error e => exact safe_done fun s₂ hl _ => hK s₁ s₂ hl hk

/-! ## What an answer says -/

/-- Nothing is asked of an error. -/
def Returns (P : α → σ → Prop) (s : σ) (r : Except ε α) : Prop := ∀ a, r = .ok a → P a s

section Returns

variable {P : α → σ → Prop} {R : β → σ → Prop}

theorem safe_throw (e : ε) : D.Safe i (Returns P) (throw e : Proc σ L ε α) s :=
  safe_done fun _ _ _ _ h => by cases h

theorem safe_pure {a : α} (h : ∀ s', D.rely i s s' → P a s') :
    D.Safe i (Returns P) (pure a : Proc σ L ε α) s := by
  refine safe_done fun s' hl _ b hb => ?_
  cases hb
  exact h s' hl

/-- The rule for a bind whose first half says something of its result. -/
theorem Safe.bind_returns {p : Proc σ L ε α} {f : α → Proc σ L ε β}
    (h : D.Safe i (Returns P) p s) (hs : D.inv s)
    (hf : ∀ s a, D.inv s → P a s → D.Safe i (Returns R) (f a) s) :
    D.Safe i (Returns R) (p >>= f) s := by
  refine h.finish hs fun s r hi hr => ?_
  cases r with
  | ok a => exact hf s a hi (hr a rfl)
  | error e => exact safe_throw e

/-- The rule for a handler that answers with errors only, or as the body would. -/
theorem Safe.tryCatch_returns {p : Proc σ L ε α} {f : ε → Proc σ L ε α}
    (h : D.Safe i (Returns P) p s) (hs : D.inv s)
    (hP : ∀ a s s', D.rely i s s' → P a s → P a s')
    (hf : ∀ s e, D.inv s → D.Safe i (Returns P) (f e) s) :
    D.Safe i (Returns P) (tryCatch p f) s := by
  refine h.finish hs fun s r hi hr => ?_
  cases r with
  | ok a => exact safe_pure fun s' hl => hP a s s' hl (hr a rfl)
  | error e => exact hf s e hi

end Returns

/-- There is a result, and it is as `P` says. -/
def Yields (P : α → σ → Prop) (s : σ) (r : Except ε α) : Prop := ∃ a, r = .ok a ∧ P a s

/-- The rule for a bind whose first half cannot fail. -/
theorem Safe.bind_yields {p : Proc σ L ε α} {f : α → Proc σ L ε β} {P : α → σ → Prop}
    {R : σ → Except ε β → Prop} (h : D.Safe i (Yields P) p s) (hs : D.inv s)
    (hf : ∀ s a, D.inv s → P a s → D.Safe i R (f a) s) : D.Safe i R (p >>= f) s := by
  refine h.finish hs fun s r hi hr => ?_
  obtain ⟨a, rfl, ha⟩ := hr
  exact hf s a hi ha

/-! ## Disciplines of single requests

What is asked of a process may depend on the request it serves. Every request then has a
discipline of its own, and relies on no more than what every step of a run does. -/

section Requests

variable {Req : Type} {handle : Nat → Req → Proc σ L ε α} {adm : Req → σ → Prop}
variable {ok : L → σ → Prop} {R : Req → Discipline σ L} {c : Config σ Req L ε α} {req : Req}
variable {p p' : Proc σ L ε α}

/-- A step of a safe process is a read, or gives the guarantee, and what is left is safe. -/
theorem Safe.step (h : D.Safe i Q p s) (hinv : D.inv s) (hok : ∀ ℓ, D.ok ℓ s)
    (hp : p.step s = some (p', s')) :
    D.Safe i Q p' s' ∧ (s' = s ∨ ∃ ℓ, D.guar i ℓ s s') := by
  cases p with
  | done r => cases hp
  | query next =>
      cases hp
      exact ⟨h s (D.rely_refl i s) hinv, .inl rfl⟩
  | commit ℓ upd next =>
      cases hp
      obtain ⟨hg, hn⟩ := h s (D.rely_refl i s) hinv (hok ℓ)
      exact ⟨hn, .inr ⟨ℓ, hg⟩⟩

theorem safe_of_run (hok : ∀ req ℓ s, (R req).ok ℓ s)
    (hinv : ∀ c, Run handle adm ok ⟨s, []⟩ c → ∀ req, (R req).inv c.state)
    (hrely : ∀ c c', Run handle adm ok ⟨s, []⟩ c → Step handle adm ok c c' →
      ∀ i req, (R req).rely i c.state c'.state)
    (hserve : ∀ i req s, (R req).inv s → (R req).Safe i (fun _ _ => True) (handle i req) s)
    (hrun : Run handle adm ok ⟨s, []⟩ c) (hi : c.flights[i]? = some (req, p)) :
    (R req).Safe i (fun _ _ => True) p c.state := by
  induction hrun generalizing i req p with
  | refl => simp at hi
  | tail hbefore hstep ih =>
      obtain hold | rfl | ⟨p₀, hold, hp⟩ := hstep.flight hi
      · exact (ih hold).later (hrely _ _ hbefore hstep i req)
      · exact hserve i req _ (hinv _ (hbefore.tail hstep) req)
      · exact ((ih hold).step (hinv _ hbefore req) (fun ℓ => hok req ℓ _) hp).1

end Requests

/-! ## Stronger disciplines -/

section Strengthen

variable (D) (J : σ → Prop) (ok' : L → σ → Prop)

/-- The same guarantees, restricted to fewer runs, keep a further invariant. -/
def strengthen (hJ : ∀ i ℓ s s', D.inv s → J s → D.ok ℓ s → ok' ℓ s → D.guar i ℓ s s' → J s') :
    Discipline σ L where
  inv s := D.inv s ∧ J s
  ok ℓ s := D.ok ℓ s ∧ ok' ℓ s
  rely := D.rely
  guar := D.guar
  rely_refl := D.rely_refl
  rely_trans := D.rely_trans
  inv_guar h hok hg := ⟨D.inv_guar h.1 hok.1 hg, hJ _ _ _ _ h.1 h.2 hok.1 hok.2 hg⟩
  rely_guar hij h hok hg := D.rely_guar hij h.1 hok.1 hg

variable {D J ok'}

/-- A process stays safe when fewer runs are considered. -/
theorem Safe.strengthen {hJ} {p : Proc σ L ε α} (h : D.Safe i Q p s) :
    (D.strengthen J ok' hJ).Safe i Q p s := by
  induction p generalizing s with
  | done r => exact fun s' hl hi => h s' hl hi.1
  | query next ih => exact fun s' hl hi => ih s' (h s' hl hi.1)
  | commit ℓ upd next ih =>
      intro s' hl hi hok
      obtain ⟨hg, hn⟩ := h s' hl hi.1 hok.1
      exact ⟨hg, ih s' hn⟩

end Strengthen

end Discipline

end Concurrent
