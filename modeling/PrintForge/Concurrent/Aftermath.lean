import PrintForge.Concurrent.Discipline

/-!
# What follows a write

Once a process has made a write, it may be known how it ends: that it can only succeed, say, or
that it brings a row to where the answer it has just heard says. `Heeds` says so of every write a
process may make. In a run, a request that has made such a write and has been answered was answered
as the write says, whatever the others have done since.
-/

namespace Concurrent

namespace Discipline

variable {σ L ε α β : Type} {D : Discipline σ L} {i : Nat} {s s' : σ}
variable {Q : L → σ → σ → σ → Except ε α → Prop}

variable (D) in
/-- After a write from one state to another, the process ends as `Q` says of the two. -/
def Heeds (i : Nat) (Q : L → σ → σ → σ → Except ε α → Prop) : Proc σ L ε α → σ → Prop
  | .done _, _ => True
  | .query next, s => ∀ s', D.rely i s s' → D.inv s' → Heeds i Q (next s') s'
  | .commit ℓ upd next, s => ∀ s', D.rely i s s' → D.inv s' → D.ok ℓ s' →
      ((∀ t r, Q ℓ s' (upd s') t r) ∨ D.Safe i (Q ℓ s' (upd s')) (next s') (upd s')) ∧
        Heeds i Q (next s') (upd s')

theorem Heeds.later {p : Proc σ L ε α} (h : D.Heeds i Q p s) (hs : D.rely i s s') :
    D.Heeds i Q p s' := by
  cases p with
  | done r => trivial
  | query next => exact fun s'' h' => h s'' (D.rely_trans hs h')
  | commit ℓ upd next => exact fun s'' h' => h s'' (D.rely_trans hs h')

/-- What is left after a write is safe as the write says, and heeds what is still to come. -/
theorem Heeds.step {p p' : Proc σ L ε α} (h : D.Heeds i Q p s) (hinv : D.inv s)
    (hp : p.step s = some (p', s')) (hok : ∀ ℓ, p.label = some ℓ → D.ok ℓ s) :
    D.Heeds i Q p' s' ∧ ∀ ℓ, p.label = some ℓ →
      (∀ t r, Q ℓ s s' t r) ∨ D.Safe i (Q ℓ s s') p' s' := by
  cases p with
  | done r => cases hp
  | query next =>
      cases hp
      exact ⟨h s (D.rely_refl i s) hinv, fun ℓ hℓ => by cases hℓ⟩
  | commit ℓ upd next =>
      cases hp
      obtain ⟨hrest, hnext⟩ := h s (D.rely_refl i s) hinv (hok ℓ rfl)
      refine ⟨hnext, fun ℓ' hℓ' => ?_⟩
      cases hℓ'
      exact hrest

/-- The rule for a first half whose writes are nothing to heed. -/
theorem Safe.finish_heeds {p : Proc σ L ε β} {k : Except ε β → Proc σ L ε α}
    {R : σ → Except ε β → Prop} (h : D.Safe i R p s) (hs : D.inv s)
    (hp : p.Within fun ℓ _ _ => ∀ s s' t r, Q ℓ s s' t r)
    (hk : ∀ s r, D.inv s → R s r → D.Heeds i Q (k r) s) : D.Heeds i Q (p.finish k) s := by
  induction p generalizing s with
  | done r => exact hk s r hs (h s (D.rely_refl i s) hs)
  | query next ih => exact fun s' hl hi => ih s' (h s' hl hi) hi (hp s')
  | commit ℓ upd next ih =>
      intro s' hl hi hok
      obtain ⟨hg, hn⟩ := h s' hl hi hok
      exact ⟨.inl ((hp s').1 s' (upd s')), ih s' hn (D.inv_guar hi hok hg) (hp s').2⟩

/-- The outcome may be turned into another, as far as `Q` allows. -/
theorem Heeds.map {T : L → σ → σ → σ → Except ε β → Prop} {g : Except ε α → Except ε β}
    {p : Proc σ L ε α} (h : D.Heeds i Q p s)
    (htrivial : ∀ ℓ s s', (∀ t r, Q ℓ s s' t r) → ∀ t r, T ℓ s s' t r)
    (hg : ∀ ℓ s s' t r, Q ℓ s s' t r → T ℓ s s' t (g r)) :
    D.Heeds i T (p.finish fun r => .done (g r)) s := by
  induction p generalizing s with
  | done r => trivial
  | query next ih => exact fun s' hl hi => ih s' (h s' hl hi)
  | commit ℓ upd next ih =>
      intro s' hl hi hok
      obtain ⟨hwrite, hnext⟩ := h s' hl hi hok
      refine ⟨?_, ih s' hnext⟩
      obtain hall | hsafe := hwrite
      · exact .inl (htrivial ℓ _ _ hall)
      · exact .inr (hsafe.map fun t r => hg ℓ _ _ t r)

/-- Where no write is to be heeded, nothing has to be known. -/
theorem heeds_of_within {p : Proc σ L ε α}
    (h : p.Within fun ℓ _ _ => ∀ s s' t r, Q ℓ s s' t r) : D.Heeds i Q p s := by
  induction p generalizing s with
  | done r => trivial
  | query next ih => exact fun s' _ _ => ih s' (h s')
  | commit ℓ upd next ih =>
      exact fun s' _ _ _ => ⟨.inl ((h s').1 s' (upd s')), ih s' (h s').2⟩

/-- The rule for a transaction that is to be heeded. -/
theorem heeds_transact {ℓ : L} {tx : StateT σ (Except ε) β} {k : Except ε β → Proc σ L ε α}
    (hok : ∀ s' a s'', D.rely i s s' → D.inv s' → D.ok ℓ s' → tx s' = .ok (a, s'') →
      D.Safe i (Q ℓ s' s'') (k (.ok a)) s'' ∧ D.Heeds i Q (k (.ok a)) s'')
    (herr : ∀ s' e, D.rely i s s' → D.inv s' → D.ok ℓ s' → tx s' = .error e →
      D.Safe i (Q ℓ s' s') (k (.error e)) s' ∧ D.Heeds i Q (k (.error e)) s') :
    D.Heeds i Q ((Proc.transact ℓ tx).finish k) s := by
  intro s' hl hi hℓ
  cases htx : tx s' with
  | ok r =>
      obtain ⟨a, s''⟩ := r
      obtain ⟨hsafe, hnext⟩ := hok s' a s'' hl hi hℓ htx
      simp only [htx]
      exact ⟨.inr hsafe, hnext⟩
  | error e =>
      obtain ⟨hsafe, hnext⟩ := herr s' e hl hi hℓ htx
      simp only [htx]
      exact ⟨.inr hsafe, hnext⟩

/-! ## Runs -/

section Runs

variable {Req : Type} {handle : Nat → Req → Proc σ L ε α} {adm : Req → σ → Prop}
variable {post : Nat → Req → σ → Except ε α → Prop} {c c' c'' : Config σ Req L ε α}
variable {P : Req → Prop}

/-- What a fresh process has, and keeps by its own steps and those of the others, every process
in flight has. -/
theorem Holds.flight {Φ : Nat → Req → Proc σ L ε α → σ → Prop}
    (hsafe : ∀ i req s, D.inv s → adm req s → D.Safe i (post i req) (handle i req) s)
    (hserve : ∀ i req s, D.inv s → adm req s → Φ i req (handle i req) s)
    (hlater : ∀ i req p s s', D.rely i s s' → Φ i req p s → Φ i req p s')
    (hstep : ∀ i req p p' s s', D.inv s → Φ i req p s → p.step s = some (p', s') →
      (∀ ℓ, p.label = some ℓ → D.ok ℓ s) → Φ i req p' s')
    (hold : D.Holds post c) (h : ∀ i req p, c.flights[i]? = some (req, p) → Φ i req p c.state)
    (hrun : Run handle adm D.ok c c') :
    ∀ i req p, c'.flights[i]? = some (req, p) → Φ i req p c'.state := by
  induction hrun with
  | refl => exact h
  | @tail b c' hbefore hlast ih =>
      have hb : D.Holds post b :=
        hold.run (Nat.zero_le _) (fun i req s _ => hsafe i req s) hbefore
      cases hlast with
      | accept req hadm =>
          intro i req' p hi
          rcases Nat.lt_trichotomy i b.flights.length with hlt | rfl | hgt
          · rw [List.getElem?_append_left hlt] at hi
            exact ih i req' p hi
          · rw [List.getElem?_concat_length] at hi
            cases hi
            exact hserve _ req _ hb.inv hadm
          · rw [List.getElem?_eq_none (by simp; omega)] at hi
            cases hi
      | @advance j req p p' s' hj hp hlabel =>
          intro i req' q hi
          by_cases hij : j = i
          · subst hij
            rw [List.getElem?_set_self (List.getElem?_eq_some_iff.mp hj).1] at hi
            cases hi
            exact hstep j req p p' _ _ hb.inv (ih j req p hj) hp hlabel
          · rw [List.getElem?_set_ne hij] at hi
            have hrely : D.rely i b.state s' := by
              cases p with
              | done r => cases hp
              | query next =>
                  cases hp
                  exact D.rely_refl i _
              | commit ℓ upd next =>
                  cases hp
                  have hℓ := hlabel ℓ rfl
                  have hguar := (hb.safe j req _ hj _ (D.rely_refl j _) hb.inv hℓ).1
                  exact D.rely_guar hij hb.inv hℓ hguar
            exact hlater i req' q _ _ hrely (ih i req' q hi)

/-- A request that makes a write and is answered is answered as the write says. -/
theorem Heeds.outcome {s₀ : σ} {req : Req} {p : Proc σ L ε α} {ℓ : L} {r : Except ε α}
    (hsafe : ∀ i req s, D.inv s → adm req s →
      D.Safe i (fun _ _ => True) (handle i req) s)
    (hheeds : ∀ i req s, P req → D.inv s → adm req s → D.Heeds i Q (handle i req) s)
    (hs₀ : D.inv s₀) (hbefore : Run handle adm D.ok ⟨s₀, []⟩ c)
    (hi : c.flights[i]? = some (req, p)) (hℓ : p.label = some ℓ) (hP : P req)
    (hstep : Advances D.ok i c c') (hafter : Run handle adm D.ok c' c'')
    (hend : c''.flights[i]? = some (req, .done r)) :
    Q ℓ c.state c'.state c''.state r := by
  have hserve : ∀ i req s, 0 ≤ i → D.inv s → adm req s →
      D.Safe i (fun _ _ => True) (handle i req) s := fun i req s _ => hsafe i req s
  have hidle : D.Holds (fun _ _ _ _ => True) (⟨s₀, []⟩ : Config σ Req L ε α) := holds_idle hs₀
  have hc : D.Holds (fun _ _ _ _ => True) c := hidle.run (Nat.zero_le _) hserve hbefore
  have hc' : D.Holds (fun _ _ _ _ => True) c' := hc.step (Nat.zero_le _) hserve hstep.step
  have hflying : D.Heeds i Q p c.state := by
    refine Holds.flight (Φ := fun i req p s => P req → D.Heeds i Q p s) hsafe ?_ ?_ ?_ hidle ?_
      hbefore i req p hi hP
    · exact fun i req s hinv hadm hP => hheeds i req s hP hinv hadm
    · exact fun i req p s s' hrely h hP => (h hP).later hrely
    · exact fun i req p p' s s' hinv h hp hok hP => ((h hP).step hinv hp hok).1
    · exact fun i req p hi => by simp at hi
  obtain ⟨req', p₀, p', hi₀, hp, hok, hflights⟩ := hstep
  cases hi.symm.trans hi₀
  have hi' : c'.flights[i]? = some (req, p') := by
    rw [hflights]
    exact List.getElem?_set_self (List.getElem?_eq_some_iff.mp hi).1
  obtain htrivial | hrest := (hflying.step hc.inv hp hok).2 ℓ hℓ
  · exact htrivial _ _
  · -- the outcome of this one process is settled, whatever the others come to
    have hsettled : D.Holds (fun j _ s r => j = i → Q ℓ c.state c'.state s r) c' := by
      refine ⟨hc'.inv, fun j req q hj => ?_⟩
      by_cases hji : j = i
      · subst hji
        cases hj.symm.trans hi'
        exact hrest.mono_post fun s r h _ => h
      · exact (hc'.safe j req q hj).mono_post fun s r _ h => absurd h hji
    have hlast : D.Holds (fun j _ s r => j = i → Q ℓ c.state c'.state s r) c'' := by
      refine hsettled.run (Nat.le_refl _) (fun j req s hj hinv hadm => ?_) hafter
      have hlt : i < c'.flights.length := (List.getElem?_eq_some_iff.mp hi').1
      exact (hsafe j req s hinv hadm).mono_post fun s r _ h => absurd h (by omega)
    exact hlast.outcome hend rfl

end Runs

end Discipline

end Concurrent
