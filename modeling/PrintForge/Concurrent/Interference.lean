import PrintForge.Concurrent.Process

/-!
# A process against any interference

A process is run against the list of the states in which it takes its actions. Nothing is said
about how one of them comes about from the one before, so whatever holds of all lists holds in
every run, whatever the others do.
-/

namespace Concurrent.Proc

variable {σ L ε α β : Type}

/-- What the process comes to if it takes its actions in the states of the list, and the state that
the last of them leaves. -/
def against : Proc σ L ε α → σ → List σ → Option (Except ε α × σ)
  | done r, s, [] => some (r, s)
  | done _, _, _ :: _ => none
  | query _, _, [] => none
  | query next, _, s :: seen => (next s).against s seen
  | commit _ _ _, _, [] => none
  | commit _ upd next, _, s :: seen => (next s).against (upd s) seen

variable {s s' : σ} {seen : List σ}

theorem against_done {r r' : Except ε α} (h : (done r : Proc σ L ε α).against s seen =
    some (r', s')) : seen = [] ∧ r' = r ∧ s' = s := by
  cases seen with
  | nil =>
      cases h
      exact ⟨rfl, rfl, rfl⟩
  | cons x seen => cases h

/-- The states of a sequence are those of its first half and then those of the second. -/
theorem against_finish {p : Proc σ L ε α} {k : Except ε α → Proc σ L ε β} {r' : Except ε β}
    (h : (p.finish k).against s seen = some (r', s')) :
    ∃ before after r s₁, seen = before ++ after ∧ p.against s before = some (r, s₁) ∧
      (k r).against s₁ after = some (r', s') := by
  induction p generalizing s seen with
  | done r => exact ⟨[], seen, r, s, rfl, rfl, h⟩
  | query next ih =>
      cases seen with
      | nil => cases h
      | cons x seen =>
          obtain ⟨before, after, r, s₁, rfl, hbefore, hafter⟩ := ih x h
          exact ⟨x :: before, after, r, s₁, rfl, hbefore, hafter⟩
  | commit ℓ upd next ih =>
      cases seen with
      | nil => cases h
      | cons x seen =>
          obtain ⟨before, after, r, s₁, rfl, hbefore, hafter⟩ := ih x h
          exact ⟨x :: before, after, r, s₁, rfl, hbefore, hafter⟩

theorem against_bind_ok {p : Proc σ L ε α} {f : α → Proc σ L ε β} {b : β}
    (h : (p >>= f).against s seen = some (.ok b, s')) :
    ∃ before after a s₁, seen = before ++ after ∧ p.against s before = some (.ok a, s₁) ∧
      (f a).against s₁ after = some (.ok b, s') := by
  obtain ⟨before, after, r, s₁, rfl, hbefore, hafter⟩ := against_finish h
  cases r with
  | ok a => exact ⟨before, after, a, s₁, rfl, hbefore, hafter⟩
  | error e => cases (against_done hafter).2.1

theorem against_read {f : σ → α} {a : α}
    (h : (read f : Proc σ L ε α).against s seen = some (.ok a, s')) :
    seen = [s'] ∧ a = f s' := by
  cases seen with
  | nil => cases h
  | cons x seen =>
      obtain ⟨rfl, hr, rfl⟩ := against_done h
      exact ⟨rfl, Except.ok.inj hr⟩

theorem against_transact {ℓ : L} {tx : StateT σ (Except ε) α} {a : α}
    (h : (transact ℓ tx : Proc σ L ε α).against s seen = some (.ok a, s')) :
    ∃ x, seen = [x] ∧ tx x = .ok (a, s') := by
  cases seen with
  | nil => cases h
  | cons x seen =>
      simp only [transact, against] at h
      cases htx : tx x with
      | ok r =>
          rw [htx] at h
          dsimp only at h
          obtain ⟨rfl, hr, rfl⟩ := against_done h
          cases hr
          exact ⟨x, rfl, htx⟩
      | error e =>
          rw [htx] at h
          cases (against_done h).2.1

end Concurrent.Proc
