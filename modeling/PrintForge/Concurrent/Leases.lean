import PrintForge.Concurrent.Moments

/-!
# Leases

A process takes something, works on it, and gives it back. The taking is one commit, on the
condition that nobody else has it, and the giving back is another. `Leases` lists the writes by
what they do to a lease, and says what a lease in force guarantees. A process `Leads` with a lease
if it keeps to it on every path.

What each request has in hand is noted along the run, from the labels of its commits and the states
they are made in. No two requests have the same thing in hand at once, and every write is made by a
process whose lease, if it has one, is in force.
-/

namespace Concurrent

variable {σ Req L ε α β ρ κ : Type}

/-- The writes of processes that take something, keep it for a while and give it back. -/
structure Leases (σ L ρ κ : Type) where
  takes : L → (σ → σ) → (σ → Option ρ) → Prop
  keeps : ρ → L → (σ → σ) → Prop
  gives : ρ → L → (σ → σ) → Prop
  about : ρ → κ
  valid : ρ → σ → Prop
  inv : σ → Prop
  note : L → σ → Option κ → Option κ
  inv_takes : ∀ {ℓ upd taken s}, takes ℓ upd taken → inv s → inv (upd s)
  valid_takes : ∀ {ℓ upd taken s r}, takes ℓ upd taken → inv s → taken s = some r →
    valid r (upd s)
  apart : ∀ {ℓ upd taken s r r'}, takes ℓ upd taken → inv s → taken s = some r → valid r' s →
    about r' ≠ about r
  kept_takes : ∀ {ℓ upd taken s r}, takes ℓ upd taken → inv s → valid r s → valid r (upd s)
  note_takes : ∀ {ℓ upd taken s}, takes ℓ upd taken → note ℓ s none = (taken s).map about
  inv_keeps : ∀ {r ℓ upd s}, keeps r ℓ upd → inv s → valid r s → inv (upd s)
  kept_keeps : ∀ {r r' ℓ upd s}, keeps r ℓ upd → valid r' s → valid r' (upd s)
  note_keeps : ∀ {r ℓ upd s}, keeps r ℓ upd → note ℓ s (some (about r)) = some (about r)
  inv_gives : ∀ {r ℓ upd s}, gives r ℓ upd → inv s → valid r s → inv (upd s)
  kept_gives : ∀ {r r' ℓ upd s}, gives r ℓ upd → valid r s → valid r' s → about r' ≠ about r →
    valid r' (upd s)
  note_gives : ∀ {r ℓ upd s}, gives r ℓ upd → note ℓ s (some (about r)) = none

namespace Leases

variable (D : Leases σ L ρ κ)

/-- With the lease `o`, the process keeps to it on every path that is left to it, as long as the
lease is in force, and ends with what `Q` says. -/
def Leads (Q : Except ε α → Option ρ → Prop) : Option ρ → Proc σ L ε α → Prop
  | o, .done r => Q r o
  | o, .query next => ∀ s, (∀ r ∈ o, D.valid r s) → Leads Q o (next s)
  | none, .commit ℓ upd next => ∃ taken, D.takes ℓ upd taken ∧ ∀ s, Leads Q (taken s) (next s)
  | some r, .commit ℓ upd next =>
      (D.keeps r ℓ upd ∧ ∀ s, D.valid r s → Leads Q (some r) (next s)) ∨
        (D.gives r ℓ upd ∧ ∀ s, D.valid r s → Leads Q none (next s))

/-- The process ends with nothing in hand. -/
def Returns (p : Proc σ L ε α) (o : Option ρ) : Prop := D.Leads (fun _ o => o = none) o p

variable {D}

section Rules

variable {Q : Except ε α → Option ρ → Prop} {Q' : Except ε β → Option ρ → Prop} {o : Option ρ}

theorem Leads.finish {p : Proc σ L ε α} {k : Except ε α → Proc σ L ε β} (h : D.Leads Q o p)
    (hk : ∀ r o, Q r o → D.Leads Q' o (k r)) : D.Leads Q' o (p.finish k) := by
  induction p generalizing o with
  | done r => exact hk r o h
  | query next ih =>
      cases o with
      | none => exact fun s hs => ih s (h s hs)
      | some r => exact fun s hs => ih s (h s hs)
  | commit ℓ upd next ih =>
      cases o with
      | none =>
          obtain ⟨taken, htakes, hnext⟩ := h
          exact ⟨taken, htakes, fun s => ih s (hnext s)⟩
      | some r =>
          obtain ⟨hkeeps, hnext⟩ | ⟨hgives, hnext⟩ := h
          · exact .inl ⟨hkeeps, fun s hs => ih s (hnext s hs)⟩
          · exact .inr ⟨hgives, fun s hs => ih s (hnext s hs)⟩

theorem Leads.mono {R : Except ε α → Option ρ → Prop} {p : Proc σ L ε α} (h : D.Leads Q o p)
    (hQ : ∀ r o, Q r o → R r o) : D.Leads R o p := by
  induction p generalizing o with
  | done r => exact hQ r o h
  | query next ih =>
      cases o with
      | none => exact fun s hs => ih s (h s hs)
      | some r => exact fun s hs => ih s (h s hs)
  | commit ℓ upd next ih =>
      cases o with
      | none =>
          obtain ⟨taken, htakes, hnext⟩ := h
          exact ⟨taken, htakes, fun s => ih s (hnext s)⟩
      | some r =>
          obtain ⟨hkeeps, hnext⟩ | ⟨hgives, hnext⟩ := h
          · exact .inl ⟨hkeeps, fun s hs => ih s (hnext s hs)⟩
          · exact .inr ⟨hgives, fun s hs => ih s (hnext s hs)⟩

theorem leads_pure {a : α} (h : Q (.ok a) o) : D.Leads Q o (pure a : Proc σ L ε α) := by
  cases o with
  | none => exact h
  | some r => exact h

theorem leads_throw {e : ε} (h : Q (.error e) o) : D.Leads Q o (throw e : Proc σ L ε α) := by
  cases o with
  | none => exact h
  | some r => exact h

theorem leads_read {γ : Type} {R : Except ε γ → Option ρ → Prop} (f : σ → γ)
    (h : ∀ s, R (.ok (f s)) o) : D.Leads R o (Proc.read f : Proc σ L ε γ) := by
  cases o with
  | none => exact fun s _ => h s
  | some r => exact fun s _ => h s

/-- The rule for sequencing where errors end the whole. -/
theorem Leads.bind {R : α → Option ρ → Prop} {p : Proc σ L ε α} {f : α → Proc σ L ε β}
    (h : D.Leads (fun r o => match r with | .ok a => R a o | .error e => Q' (.error e) o) o p)
    (hf : ∀ a o, R a o → D.Leads Q' o (f a)) : D.Leads Q' o (p >>= f) := by
  refine Leads.finish h fun r o hr => ?_
  cases r with
  | ok a => exact hf a o hr
  | error e => exact leads_throw hr

theorem Leads.tryCatch {R : ε → Option ρ → Prop} {p : Proc σ L ε α} {f : ε → Proc σ L ε α}
    (h : D.Leads (fun r o => match r with | .ok a => Q (.ok a) o | .error e => R e o) o p)
    (hf : ∀ e o, R e o → D.Leads Q o (f e)) : D.Leads Q o (tryCatch p f) := by
  refine Leads.finish h fun r o hr => ?_
  cases r with
  | ok a => exact leads_pure hr
  | error e => exact hf e o hr

/-- A transaction that may take a lease. -/
theorem leads_takes {ℓ : L} {tx : StateT σ (Except ε) α} (taken : σ → Option ρ)
    (h : D.takes ℓ (Proc.applied tx) taken)
    (hok : ∀ s a s', tx s = .ok (a, s') → Q (.ok a) (taken s))
    (herr : ∀ s e, tx s = .error e → Q (.error e) (taken s)) :
    D.Leads Q none (Proc.transact ℓ tx : Proc σ L ε α) := by
  refine ⟨taken, h, fun s => ?_⟩
  dsimp only
  cases htx : tx s with
  | ok r => exact leads_pure (hok s r.1 r.2 htx)
  | error e => exact leads_throw (herr s e htx)

/-- A transaction that leaves the lease as it is. -/
theorem leads_keeps {r : ρ} {ℓ : L} {tx : StateT σ (Except ε) α}
    (h : D.keeps r ℓ (Proc.applied tx))
    (hok : ∀ s a s', D.valid r s → tx s = .ok (a, s') → Q (.ok a) (some r))
    (herr : ∀ s e, D.valid r s → tx s = .error e → Q (.error e) (some r)) :
    D.Leads Q (some r) (Proc.transact ℓ tx : Proc σ L ε α) := by
  refine .inl ⟨h, fun s hs => ?_⟩
  dsimp only
  cases htx : tx s with
  | ok result => exact leads_pure (hok s result.1 result.2 hs htx)
  | error e => exact leads_throw (herr s e hs htx)

/-- A transaction that ends the lease. -/
theorem leads_gives {r : ρ} {ℓ : L} {tx : StateT σ (Except ε) α}
    (h : D.gives r ℓ (Proc.applied tx))
    (hok : ∀ s a s', D.valid r s → tx s = .ok (a, s') → Q (.ok a) none)
    (herr : ∀ s e, D.valid r s → tx s = .error e → Q (.error e) none) :
    D.Leads Q (some r) (Proc.transact ℓ tx : Proc σ L ε α) := by
  refine .inr ⟨h, fun s hs => ?_⟩
  dsimp only
  cases htx : tx s with
  | ok result => exact leads_pure (hok s result.1 result.2 hs htx)
  | error e => exact leads_throw (herr s e hs htx)

end Rules

/-! ## Runs -/

section Runs

variable {handle : Nat → Req → Proc σ L ε α} {adm : Req → σ → Prop} {ok : L → σ → Prop}
variable {c c' : Config σ Req L ε α} {hands : Nat → Option κ}

/-- What each place has in hand after the next action at place `i`. -/
def noted (D : Leases σ L ρ κ) (c : Config σ Req L ε α) (hands : Nat → Option κ) (i : Nat) :
    Nat → Option κ :=
  match c.nextLabel i with
  | some ℓ => Function.update hands i (D.note ℓ c.state (hands i))
  | none => hands

/-- A run, with what each request has in hand after it. -/
inductive Noted (D : Leases σ L ρ κ) (handle : Nat → Req → Proc σ L ε α) (adm : Req → σ → Prop)
    (ok : L → σ → Prop) (c₀ : Config σ Req L ε α) :
    Config σ Req L ε α → (Nat → Option κ) → Prop
  | start : Noted D handle adm ok c₀ c₀ fun _ => none
  | accept {b : Config σ Req L ε α} {held : Nat → Option κ} (h : Noted D handle adm ok c₀ b held)
      (req : Req) (hadm : adm req b.state) :
      Noted D handle adm ok c₀ ⟨b.state, b.flights ++ [(req, handle b.flights.length req)]⟩ held
  | advance {b b' : Config σ Req L ε α} {held : Nat → Option κ} {i : Nat}
      (h : Noted D handle adm ok c₀ b held) (hmove : Advances ok i b b') :
      Noted D handle adm ok c₀ b' (D.noted b held i)

/-- Every request is being served by a process that keeps to its lease, the leases are in force,
and no two are about the same. -/
structure Kept (D : Leases σ L ρ κ) (c : Config σ Req L ε α) (held : Nat → Option ρ) : Prop where
  inv : D.inv c.state
  leads : ∀ (i : Nat) (req : Req) (p : Proc σ L ε α), c.flights[i]? = some (req, p) →
    D.Returns p (held i)
  idle : ∀ i, c.flights.length ≤ i → held i = none
  valid : ∀ i r, held i = some r → D.valid r c.state
  apart : ∀ i j r r', held i = some r → held j = some r' → D.about r = D.about r' → i = j

/-- What a write is, and under which lease. -/
inductive Leased (D : Leases σ L ρ κ) (s s' : σ) (ℓ : Option L) : Option ρ → Prop
  | rests {o : Option ρ} (hℓ : ℓ = none) (hs : s' = s) : Leased D s s' ℓ o
  | takes {ℓ' : L} {upd : σ → σ} {taken : σ → Option ρ} (h : D.takes ℓ' upd taken)
      (hℓ : ℓ = some ℓ') (hs : s' = upd s) : Leased D s s' ℓ none
  | keeps {r : ρ} {ℓ' : L} {upd : σ → σ} (h : D.keeps r ℓ' upd) (hr : D.valid r s)
      (hℓ : ℓ = some ℓ') (hs : s' = upd s) : Leased D s s' ℓ (some r)
  | gives {r : ρ} {ℓ' : L} {upd : σ → σ} (h : D.gives r ℓ' upd) (hr : D.valid r s)
      (hℓ : ℓ = some ℓ') (hs : s' = upd s) : Leased D s s' ℓ (some r)

variable {held : Nat → Option ρ}

theorem kept_idle {s : σ} (h : D.inv s) :
    D.Kept (⟨s, []⟩ : Config σ Req L ε α) fun _ => none where
  inv := h
  leads i req p hi := by simp at hi
  idle _ _ := rfl
  valid i r hi := by cases hi
  apart i j r r' hi := by cases hi

theorem Kept.accept (h : D.Kept c held) (req : Req) {p : Proc σ L ε α} (hp : D.Returns p none) :
    D.Kept ⟨c.state, c.flights ++ [(req, p)]⟩ held where
  inv := h.inv
  leads i req' q hi := by
    rcases Nat.lt_trichotomy i c.flights.length with hlt | rfl | hgt
    · rw [List.getElem?_append_left hlt] at hi
      exact h.leads i req' q hi
    · rw [List.getElem?_concat_length] at hi
      cases hi
      rw [h.idle _ (Nat.le_refl _)]
      exact hp
    · rw [List.getElem?_eq_none (by simp; omega)] at hi
      cases hi
  idle i hi := by
    rw [List.length_append] at hi
    exact h.idle i (by omega)
  valid := h.valid
  apart := h.apart

/-- The processes after an action of place `i` that leaves it the lease `o`. -/
theorem Kept.update {i : Nat} {req : Req} {p p' : Proc σ L ε α} {s' : σ} {o : Option ρ}
    (h : D.Kept c held) (hi : c.flights[i]? = some (req, p)) (hp' : D.Returns p' o)
    (hinv : D.inv s') (hvalid : ∀ r ∈ o, D.valid r s')
    (hothers : ∀ j r, j ≠ i → held j = some r → D.valid r s')
    (hapart : ∀ j r r', j ≠ i → held j = some r → o = some r' → D.about r ≠ D.about r') :
    D.Kept ⟨s', c.flights.set i (req, p')⟩ (Function.update held i o) where
  inv := hinv
  leads j req' q hj := by
    have hlt := (List.getElem?_eq_some_iff.mp hi).1
    by_cases hji : j = i
    · subst hji
      rw [List.getElem?_set_self hlt] at hj
      cases hj
      rw [Function.update_self]
      exact hp'
    · rw [List.getElem?_set_ne (Ne.symm hji)] at hj
      rw [Function.update_of_ne hji]
      exact h.leads j req' q hj
  idle j hj := by
    have hlt := (List.getElem?_eq_some_iff.mp hi).1
    rw [List.length_set] at hj
    rw [Function.update_of_ne (by omega)]
    exact h.idle j hj
  valid j r hj := by
    by_cases hji : j = i
    · subst hji
      rw [Function.update_self] at hj
      exact hvalid r hj
    · rw [Function.update_of_ne hji] at hj
      exact hothers j r hji hj
  apart j k r r' hj hk habout := by
    by_cases hji : j = i
    · by_cases hki : k = i
      · exact hji.trans hki.symm
      · subst hji
        rw [Function.update_self] at hj
        rw [Function.update_of_ne hki] at hk
        exact absurd habout.symm (hapart k r' r hki hk hj)
    · rw [Function.update_of_ne hji] at hj
      by_cases hki : k = i
      · subst hki
        rw [Function.update_self] at hk
        exact absurd habout (hapart j r r' hji hj hk)
      · rw [Function.update_of_ne hki] at hk
        exact h.apart j k r r' hj hk habout

/-- An action is made under the lease of its process, and leaves the leases in force. -/
theorem Kept.move {i : Nat} (h : D.Kept c held) (hmove : Advances ok i c c') :
    D.Leased c.state c'.state (c.nextLabel i) (held i) ∧
      ∃ held', D.Kept c' held' ∧
        (fun j => (held' j).map D.about) = D.noted c (fun j => (held j).map D.about) i := by
  obtain ⟨req, p, p', hi, hp, -, hflights⟩ := hmove
  have hleads := h.leads i req p hi
  have hlabel : c.nextLabel i = p.label := by
    rw [Config.nextLabel, hi]
    rfl
  have hself : ∀ s' held', c'.state = s' →
      D.Kept ⟨s', c.flights.set i (req, p')⟩ held' → D.Kept c' held' := by
    intro s' held' hs' hkept
    subst hs'
    rw [← hflights] at hkept
    exact hkept
  have hsame : ∀ o, held i = o → Function.update held i o = held := by
    intro o ho
    rw [← ho]
    exact Function.update_eq_self i held
  cases p with
  | done r => cases hp
  | query next =>
      obtain ⟨rfl, hstate⟩ := Prod.mk.inj (Option.some.inj hp)
      have hnext : D.Returns (next c.state) (held i) := by
        revert hleads
        cases hheld : held i with
        | none => exact fun hleads => hleads c.state fun r hr => by cases hr
        | some r =>
            intro hleads
            refine hleads c.state fun r' hr' => ?_
            cases hr'
            exact h.valid i r hheld
      refine ⟨.rests hlabel hstate.symm, held, hself _ _ hstate.symm ?_, ?_⟩
      · have hkept := h.update hi hnext h.inv (fun r hr => h.valid i r hr)
          (fun j r _ hj => h.valid j r hj) fun j r r' hji hj ho habout =>
            hji (h.apart j i r r' hj ho habout)
        rw [hsame _ rfl] at hkept
        exact hkept
      · simp only [noted, hlabel, Proc.label]
  | commit ℓ upd next =>
      obtain ⟨rfl, hstate⟩ := Prod.mk.inj (Option.some.inj hp)
      have hnoted : ∀ hands, D.noted c hands i
          = Function.update hands i (D.note ℓ c.state (hands i)) := by
        intro hands
        simp only [noted, hlabel, Proc.label]
      -- what is noted is what the new lease is about
      have hmap : ∀ o, D.note ℓ c.state ((held i).map D.about) = o.map D.about →
          (fun j => (Function.update held i o j).map D.about)
            = D.noted c (fun j => (held j).map D.about) i := by
        intro o ho
        rw [hnoted]
        funext j
        by_cases hji : j = i
        · subst hji
          rw [Function.update_self, Function.update_self, ho]
        · rw [Function.update_of_ne hji, Function.update_of_ne hji]
      cases hheld : held i with
      | none =>
          rw [hheld] at hleads
          obtain ⟨taken, htakes, hnext⟩ := hleads
          refine ⟨.takes htakes hlabel hstate.symm, Function.update held i (taken c.state),
            hself _ _ hstate.symm ?_, hmap _ ?_⟩
          · refine h.update hi (hnext c.state) (D.inv_takes htakes h.inv) ?_ ?_ ?_
            · exact fun r hr => D.valid_takes htakes h.inv hr
            · exact fun j r _ hj => D.kept_takes htakes h.inv (h.valid j r hj)
            · exact fun j r r' _ hj ho => D.apart htakes h.inv ho (h.valid j r hj)
          · rw [hheld]
            exact D.note_takes htakes
      | some r =>
          rw [hheld] at hleads
          have hr := h.valid i r hheld
          obtain ⟨hkeeps, hnext⟩ | ⟨hgives, hnext⟩ := hleads
          · refine ⟨.keeps hkeeps hr hlabel hstate.symm, Function.update held i (some r),
              hself _ _ hstate.symm ?_, hmap _ ?_⟩
            · refine h.update hi (hnext c.state hr) (D.inv_keeps hkeeps h.inv hr) ?_ ?_ ?_
              · intro r' hr'
                cases hr'
                exact D.kept_keeps hkeeps hr
              · exact fun j r' _ hj => D.kept_keeps hkeeps (h.valid j r' hj)
              · intro j r₁ r₂ hji hj ho habout
                cases ho
                exact hji (h.apart j i r₁ r hj hheld habout)
            · rw [hheld]
              exact D.note_keeps hkeeps
          · refine ⟨.gives hgives hr hlabel hstate.symm, Function.update held i none,
              hself _ _ hstate.symm ?_, hmap _ ?_⟩
            · refine h.update hi (hnext c.state hr) (D.inv_gives hgives h.inv hr) ?_ ?_ ?_
              · intro r' hr'
                cases hr'
              · intro j r' hji hj
                refine D.kept_gives hgives hr (h.valid j r' hj) fun habout => ?_
                exact hji (h.apart j i r' r hj hheld habout)
              · intro j r₁ r₂ _ _ ho
                cases ho
            · rw [hheld]
              exact D.note_gives hgives

/-- What is noted along a run is what the leases are about. -/
theorem Noted.kept (hserve : ∀ i req, D.Returns (handle i req) none) {s : σ} (hs : D.inv s)
    (h : D.Noted handle adm ok ⟨s, []⟩ c hands) :
    ∃ held, D.Kept c held ∧ hands = fun i => (held i).map D.about := by
  induction h with
  | start => exact ⟨fun _ => none, kept_idle hs, rfl⟩
  | accept _ req hadm ih =>
      obtain ⟨held, hkept, rfl⟩ := ih
      exact ⟨held, hkept.accept req (hserve _ req), rfl⟩
  | advance _ hmove ih =>
      obtain ⟨held, hkept, rfl⟩ := ih
      obtain ⟨-, held', hkept', hnoted⟩ := hkept.move hmove
      exact ⟨held', hkept', hnoted.symm⟩

/-- No two requests have the same thing in hand. -/
theorem Noted.unique (hserve : ∀ i req, D.Returns (handle i req) none) {s : σ} (hs : D.inv s)
    (h : D.Noted handle adm ok ⟨s, []⟩ c hands) {i j : Nat} {k : κ} (hi : hands i = some k)
    (hj : hands j = some k) : i = j := by
  obtain ⟨held, hkept, rfl⟩ := h.kept hserve hs
  obtain ⟨r, hr, rfl⟩ := Option.map_eq_some_iff.mp hi
  obtain ⟨r', hr', habout⟩ := Option.map_eq_some_iff.mp hj
  exact hkept.apart i j r r' hr hr' habout.symm

/-- Every run can be followed with notes. -/
theorem exists_noted (h : Run handle adm ok c c') : ∃ hands, D.Noted handle adm ok c c' hands := by
  induction h with
  | refl => exact ⟨_, .start⟩
  | tail _ hstep ih =>
      obtain ⟨hands, hnoted⟩ := ih
      cases hstep with
      | accept req hadm => exact ⟨hands, hnoted.accept req hadm⟩
      | @advance i req p p' s' hi hp hok =>
          exact ⟨_, hnoted.advance ⟨req, p, p', hi, hp, hok, rfl⟩⟩

end Runs

end Leases

end Concurrent
