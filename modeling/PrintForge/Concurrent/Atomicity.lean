import PrintForge.Concurrent.Aftermath

/-!
# Failures that leave nothing behind

A process is clean when each write of it that changes the state is one after which it can only
succeed. What a clean process has written is there to stay, or it was nothing: a request whose
answer is an error has not changed the state by any of its own steps, whatever the others have
done between them.
-/

namespace Concurrent

namespace Discipline

variable {σ L ε α β γ : Type} {D : Discipline σ L} {i : Nat} {s s' : σ}

/-- The answer is not an error. -/
def Succeeds (_ : σ) (r : Except ε α) : Prop := ∃ a, r = .ok a

variable (D) in
/-- After a write that changes the state, only success is left. -/
def Clean (i : Nat) : Proc σ L ε α → σ → Prop
  | .done _, _ => True
  | .query next, s => ∀ s', D.rely i s s' → D.inv s' → Clean i (next s') s'
  | .commit ℓ upd next, s => ∀ s', D.rely i s s' → D.inv s' → D.ok ℓ s' →
      (upd s' = s' ∨ D.Safe i Succeeds (next s') (upd s')) ∧ Clean i (next s') (upd s')

/-- A clean process heeds its writes: one that is followed by a failure has changed nothing. -/
theorem Clean.heeds {p : Proc σ L ε α} (h : D.Clean i p s) :
    D.Heeds i (fun _ s s' t r => s' = s ∨ Succeeds t r) p s := by
  induction p generalizing s with
  | done r => trivial
  | query next ih => exact fun s' hl hi => ih s' (h s' hl hi)
  | commit ℓ upd next ih =>
      intro s' hl hi hok
      obtain ⟨hwrite, hnext⟩ := h s' hl hi hok
      refine ⟨?_, ih s' hnext⟩
      obtain hsame | hsafe := hwrite
      · exact .inl fun t r => .inl hsame
      · exact .inr (hsafe.mono_post fun t r hr => .inr hr)

theorem clean_done (r : Except ε α) : D.Clean i (.done r) s := trivial

/-- The rule for a transaction: either it changes nothing, or what follows it succeeds. -/
theorem clean_transact {ℓ : L} {tx : StateT σ (Except ε) γ} {k : Except ε γ → Proc σ L ε α}
    (hok : ∀ s' a s'', D.rely i s s' → D.inv s' → D.ok ℓ s' → tx s' = .ok (a, s'') →
      (s'' = s' ∨ D.Safe i Succeeds (k (.ok a)) s'') ∧ D.Clean i (k (.ok a)) s'')
    (herr : ∀ s' e, D.rely i s s' → D.inv s' → D.ok ℓ s' → tx s' = .error e →
      D.Clean i (k (.error e)) s') :
    D.Clean i ((Proc.transact ℓ tx).finish k) s := by
  intro s' hl hi hℓ
  cases htx : tx s' with
  | ok r =>
      simp only [htx]
      exact hok s' r.1 r.2 hl hi hℓ htx
  | error e =>
      simp only [htx, true_or, true_and]
      exact herr s' e hl hi hℓ htx

theorem Clean.map {p : Proc σ L ε α} (h : D.Clean i p s) (f : α → β) :
    D.Clean i (f <$> p) s := by
  rw [Proc.map_def]
  induction p generalizing s with
  | done r => trivial
  | query next ih => exact fun s' hl hi => ih s' (h s' hl hi)
  | commit ℓ upd next ih =>
      intro s' hl hi hok
      obtain ⟨hkind, hnext⟩ := h s' hl hi hok
      refine ⟨hkind.imp_right fun hsuccess => hsuccess.map fun s r hr => ?_, ih s' hnext⟩
      obtain ⟨a, rfl⟩ := hr
      exact ⟨f a, rfl⟩

/-- A transaction and nothing more. -/
theorem clean_only {ℓ : L} {tx : StateT σ (Except ε) γ} {k : Except ε γ → Proc σ L ε α}
    {f : γ → α} {g : ε → ε} (hok : ∀ a, k (.ok a) = .done (.ok (f a)))
    (herr : ∀ e, k (.error e) = .done (.error (g e))) :
    D.Clean i ((Proc.transact ℓ tx).finish k) s := by
  refine clean_transact (fun s' a s'' _ _ _ _ => ?_) fun s' e _ _ _ _ => ?_
  · rw [hok a]
    exact ⟨.inr (safe_done fun _ _ _ => ⟨f a, rfl⟩), clean_done _⟩
  · rw [herr e]
    exact clean_done _

/-! ## Runs -/

section Runs

variable {Req : Type} {handle : Nat → Req → Proc σ L ε α} {adm : Req → σ → Prop}
variable {post : Nat → Req → σ → Except ε α → Prop} {c c' c'' : Config σ Req L ε α}
variable {P : Req → Prop}

/-- A step of a clean request that goes on to fail has left the state alone. -/
theorem failure_leaves_nothing {s₀ : σ} {e : ε} {req : Req}
    (hsafe : ∀ i req s, D.inv s → adm req s →
      D.Safe i (fun _ _ => True) (handle i req) s)
    (hclean : ∀ i req s, P req → D.inv s → adm req s → D.Clean i (handle i req) s)
    (hs₀ : D.inv s₀) (hbefore : Run handle adm D.ok ⟨s₀, []⟩ c) (hstep : Advances D.ok i c c')
    (hafter : Run handle adm D.ok c' c'') (hP : P req)
    (hend : c''.flights[i]? = some (req, .done (.error e))) : c'.state = c.state := by
  obtain ⟨req', p, p', hi, hp, hok, hflights⟩ := hstep
  have hlater : c'.flights[i]? = some (req', p') := by
    rw [hflights]
    exact List.getElem?_set_self (List.getElem?_eq_some_iff.mp hi).1
  obtain ⟨q, hq⟩ := hafter.flight_later hlater
  obtain rfl : req' = req := congrArg Prod.fst (Option.some.inj (hq.symm.trans hend))
  cases hℓ : p.label with
  | none =>
      cases p with
      | done r => cases hp
      | query next => exact (congrArg Prod.snd (Option.some.inj hp)).symm
      | commit ℓ upd next => cases hℓ
  | some ℓ =>
      have houtcome : c'.state = c.state ∨ Succeeds c''.state (.error e : Except ε α) :=
        Heeds.outcome (Q := fun _ s s' t r => s' = s ∨ Succeeds t r) hsafe
          (fun i req s hP hinv hadm => (hclean i req s hP hinv hadm).heeds) hs₀ hbefore hi hℓ hP
          ⟨req', p, p', hi, hp, hok, hflights⟩ hafter hend
      exact houtcome.resolve_right fun ⟨a, ha⟩ => by cases ha

end Runs

end Discipline

end Concurrent
