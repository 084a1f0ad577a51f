import PrintForge.Concurrent.Moments

/-!
# Writes that a second write completes

A write may leave something outstanding: an update is followed by the entry that records it, and
in between the state is not in order. `Debts` lists the writes with what they leave outstanding,
and the writes that settle it. A process is `Solvent` if the very next action after a write settles
what it has left outstanding, and nothing else is ever settled.

What is outstanding can be read off the labels of what comes next. As long as nobody else touches a
matter between the two writes, it is in order whenever nothing is outstanding about it. A process
that is never advanced again leaves its debt outstanding for ever.
-/

namespace Concurrent

variable {σ Req L ε α β δ κ ν : Type}

/-- Which writes leave something outstanding, and which settle it. A matter is in order or not,
once a debt about it, if there is one, has been settled. -/
structure Debts (σ L δ κ ν : Type) where
  incurs : L → (σ → σ) → (σ → Option δ) → Prop
  pays : δ → L → (σ → σ) → Prop
  owed : L → Option δ
  about : δ → κ
  seen : κ → σ → ν
  inOrder : κ → σ → Option δ → Prop
  owed_incurs : ∀ {ℓ upd debt}, incurs ℓ upd debt → owed ℓ = none
  owed_pays : ∀ {e ℓ upd}, pays e ℓ upd → owed ℓ = some e
  inOrder_congr : ∀ {d s s' o}, seen d s' = seen d s → inOrder d s o → inOrder d s' o
  inOrder_incurs : ∀ {ℓ upd debt d s}, incurs ℓ upd debt → inOrder d s none →
    (∀ e, debt s = some e → about e = d → inOrder d (upd s) (some e)) ∧
      ((∀ e, debt s = some e → about e ≠ d) → inOrder d (upd s) none)
  inOrder_pays : ∀ {e ℓ upd s}, pays e ℓ upd → inOrder (about e) s (some e) →
    inOrder (about e) (upd s) none
  seen_pays : ∀ {e ℓ upd d s}, pays e ℓ upd → about e ≠ d → seen d (upd s) = seen d s

namespace Debts

variable (D : Debts σ L δ κ ν)

/-- With `o` outstanding, the process settles it at once and keeps settling what it incurs. -/
def Solvent : Option δ → Proc σ L ε α → Prop
  | none, .done _ => True
  | some _, .done _ => False
  | none, .query next => ∀ s, Solvent none (next s)
  | some _, .query _ => False
  | none, .commit ℓ upd next => ∃ debt, D.incurs ℓ upd debt ∧ ∀ s, Solvent (debt s) (next s)
  | some e, .commit ℓ upd next => D.pays e ℓ upd ∧ ∀ s, Solvent none (next s)

variable {D}

/-- What is outstanding shows in the label of what comes next. -/
theorem Solvent.owed {o : Option δ} {p : Proc σ L ε α} (h : D.Solvent o p) :
    p.label.bind D.owed = o := by
  cases p with
  | done r =>
      cases o with
      | none => rfl
      | some e => exact h.elim
  | query next =>
      cases o with
      | none => rfl
      | some e => exact h.elim
  | commit ℓ upd next =>
      cases o with
      | none =>
          obtain ⟨debt, hincurs, -⟩ := h
          exact D.owed_incurs hincurs
      | some e => exact D.owed_pays h.1

/-- A solvent process stays one, and with something to settle after it an action has incurred
just that. -/
theorem Solvent.step {o : Option δ} {p p' : Proc σ L ε α} {s s' : σ} (h : D.Solvent o p)
    (hp : p.step s = some (p', s')) :
    D.Solvent none p' ∨ ∃ ℓ upd debt e, p.label = some ℓ ∧ D.incurs ℓ upd debt ∧
      debt s = some e ∧ s' = upd s ∧ D.Solvent (some e) p' := by
  cases p with
  | done r => cases hp
  | query next =>
      cases hp
      cases o with
      | none => exact .inl (h s)
      | some e => exact h.elim
  | commit ℓ upd next =>
      cases hp
      cases o with
      | none =>
          obtain ⟨debt, hincurs, hnext⟩ := h
          cases hdebt : debt s with
          | none => exact .inl (hdebt ▸ hnext s)
          | some e => exact .inr ⟨ℓ, upd, debt, e, rfl, hincurs, hdebt, rfl, hdebt ▸ hnext s⟩
      | some e => exact .inl (h.2 s)

section Rules

variable {o : Option δ}

theorem Solvent.finish {p : Proc σ L ε α} {k : Except ε α → Proc σ L ε β} (h : D.Solvent o p)
    (hk : ∀ r, D.Solvent none (k r)) : D.Solvent o (p.finish k) := by
  induction p generalizing o with
  | done r =>
      cases o with
      | none => exact hk r
      | some e => exact h.elim
  | query next ih =>
      cases o with
      | none => exact fun s => ih s (h s)
      | some e => exact h.elim
  | commit ℓ upd next ih =>
      cases o with
      | none =>
          obtain ⟨debt, hincurs, hnext⟩ := h
          exact ⟨debt, hincurs, fun s => ih s (hnext s)⟩
      | some e => exact ⟨h.1, fun s => ih s (h.2 s)⟩

theorem solvent_pure (a : α) : D.Solvent none (pure a : Proc σ L ε α) := trivial

theorem solvent_throw (e : ε) : D.Solvent none (throw e : Proc σ L ε α) := trivial

theorem solvent_read {γ : Type} (f : σ → γ) : D.Solvent none (Proc.read f : Proc σ L ε γ) :=
  fun _ => trivial

theorem Solvent.bind {p : Proc σ L ε α} {f : α → Proc σ L ε β} (h : D.Solvent o p)
    (hf : ∀ a, D.Solvent none (f a)) : D.Solvent o (p >>= f) := by
  refine h.finish fun r => ?_
  cases r with
  | ok a => exact hf a
  | error e => trivial

theorem Solvent.tryCatch {p : Proc σ L ε α} {f : ε → Proc σ L ε α} (h : D.Solvent none p)
    (hf : ∀ e, D.Solvent none (f e)) : D.Solvent none (tryCatch p f) := by
  refine h.finish fun r => ?_
  cases r with
  | ok a => trivial
  | error e => exact hf e

/-- A transaction that leaves outstanding what its result says, and a continuation that settles
it. -/
theorem solvent_transact {ℓ : L} {tx : StateT σ (Except ε) α} {f : α → Proc σ L ε β}
    (due : α → Option δ)
    (h : D.incurs ℓ (Proc.applied tx) fun s => (tx s).toOption.bind fun r => due r.1)
    (hf : ∀ a, D.Solvent (due a) (f a)) :
    D.Solvent none ((Proc.transact ℓ tx : Proc σ L ε α) >>= f) := by
  refine ⟨_, h, fun s => ?_⟩
  dsimp only
  cases tx s with
  | ok r => exact hf r.1
  | error e => trivial

/-- A transaction that leaves nothing outstanding. -/
theorem solvent_whole {ℓ : L} {tx : StateT σ (Except ε) α}
    (h : D.incurs ℓ (Proc.applied tx) fun _ => none) :
    D.Solvent none (Proc.transact ℓ tx : Proc σ L ε α) := by
  refine ⟨_, h, fun s => ?_⟩
  dsimp only
  cases tx s with
  | ok r => trivial
  | error e => trivial

theorem solvent_attempt {γ : Type} {ℓ : L} {seen : σ → γ} {tx : StateT σ (Except ε) α}
    (h : D.incurs ℓ (Proc.applied tx) fun _ => none) :
    D.Solvent none (Proc.attempt ℓ seen tx : Proc σ L ε (γ × Except ε α)) := by
  refine ⟨_, h, fun s => ?_⟩
  dsimp only
  cases tx s with
  | ok r => trivial
  | error e => trivial

/-- The transaction that settles. -/
theorem solvent_settling {e : δ} {ℓ : L} {tx : StateT σ (Except ε) α}
    (h : D.pays e ℓ (Proc.applied tx)) :
    D.Solvent (some e) (Proc.transact ℓ tx : Proc σ L ε α) := by
  refine ⟨h, fun s => ?_⟩
  dsimp only
  cases tx s with
  | ok r => trivial
  | error e => trivial

end Rules

/-! ## Runs -/

section Runs

variable {handle : Nat → Req → Proc σ L ε α} {adm : Req → σ → Prop} {ok : L → σ → Prop}

variable (D) in
/-- What the request at place `i` has left outstanding. -/
def owes (c : Config σ Req L ε α) (i : Nat) : Option δ := (c.nextLabel i).bind D.owed

variable (D) in
/-- A matter about which something stays outstanding is left alone, and nothing else about it
comes to be outstanding. -/
def Undisturbed (c c' : Config σ Req L ε α) : Prop :=
  ∀ j e, D.owes c j = some e → D.owes c' j = some e →
    D.seen (D.about e) c'.state = D.seen (D.about e) c.state ∧
      ∀ k e', D.owes c' k = some e' → D.about e' = D.about e → k = j

variable (D) in
/-- Every request is being served by a solvent process, and every matter is in order but for what
one request has left outstanding. -/
structure Kept (c : Config σ Req L ε α) : Prop where
  solvent : ∀ (i : Nat) (req : Req) (p : Proc σ L ε α), c.flights[i]? = some (req, p) →
    ∃ o, D.Solvent o p
  one : ∀ j k e e', D.owes c j = some e → D.owes c k = some e' → D.about e = D.about e' → j = k
  outstanding : ∀ j e, D.owes c j = some e → D.inOrder (D.about e) c.state (some e)
  settled : ∀ d, (∀ j e, D.owes c j = some e → D.about e ≠ d) → D.inOrder d c.state none

variable {c c' : Config σ Req L ε α}

theorem owes_flight {i : Nat} {req : Req} {p : Proc σ L ε α} {o : Option δ}
    (hi : c.flights[i]? = some (req, p)) (hp : D.Solvent o p) : D.owes c i = o := by
  rw [owes, Config.nextLabel, hi]
  exact hp.owed

theorem owes_of_flights {c₁ c₂ : Config σ Req L ε α} {j : Nat}
    (h : c₁.flights[j]? = c₂.flights[j]?) : D.owes c₁ j = D.owes c₂ j := by
  rw [owes, owes, Config.nextLabel, Config.nextLabel, h]

theorem kept_idle {s : σ} (h : ∀ d, D.inOrder d s none) :
    D.Kept (⟨s, []⟩ : Config σ Req L ε α) where
  solvent i req p hi := by simp at hi
  one j k e e' hj := by simp [owes, Config.nextLabel] at hj
  outstanding j e hj := by simp [owes, Config.nextLabel] at hj
  settled d _ := h d

theorem Kept.accept (h : D.Kept c) (req : Req) (p : Proc σ L ε α) (hp : D.Solvent none p) :
    D.Kept ⟨c.state, c.flights ++ [(req, p)]⟩ := by
  -- nothing is outstanding at the new place
  have howes : ∀ j, D.owes ⟨c.state, c.flights ++ [(req, p)]⟩ j = D.owes c j := by
    intro j
    rcases Nat.lt_trichotomy j c.flights.length with hlt | rfl | hgt
    · exact owes_of_flights (List.getElem?_append_left hlt)
    · have hnone : D.owes c c.flights.length = none := by
        simp [owes, Config.nextLabel]
      rw [hnone]
      exact owes_flight List.getElem?_concat_length hp
    · refine owes_of_flights ?_
      rw [List.getElem?_eq_none (by simp; omega), List.getElem?_eq_none (by omega)]
  refine ⟨fun i req' q hi => ?_, ?_, ?_, ?_⟩
  · rcases Nat.lt_trichotomy i c.flights.length with hlt | rfl | hgt
    · rw [List.getElem?_append_left hlt] at hi
      exact h.solvent i req' q hi
    · rw [List.getElem?_concat_length] at hi
      cases hi
      exact ⟨none, hp⟩
    · rw [List.getElem?_eq_none (by simp; omega)] at hi
      cases hi
  · intro j k e e' hj hk
    rw [howes] at hj hk
    exact h.one j k e e' hj hk
  · intro j e hj
    rw [howes] at hj
    exact h.outstanding j e hj
  · intro d hd
    refine h.settled d fun j e hj => hd j e ?_
    rw [howes]
    exact hj

/-- An action of the request at place `i`, by what was outstanding before it. -/
theorem Kept.move {i : Nat} (h : D.Kept c) (hmove : Advances ok i c c')
    (hcalm : D.Undisturbed c c') : D.Kept c' := by
  obtain ⟨req, p, p', hi, hp, -, hflights⟩ := hmove
  obtain ⟨o, hsolvent⟩ := h.solvent i req p hi
  have hself : c'.flights[i]? = some (req, p') := by
    rw [hflights]
    exact List.getElem?_set_self (List.getElem?_eq_some_iff.mp hi).1
  have hothers : ∀ j, j ≠ i → D.owes c' j = D.owes c j := by
    intro j hj
    refine owes_of_flights ?_
    rw [hflights, List.getElem?_set_ne (Ne.symm hj)]
  have howes : D.owes c i = o := owes_flight hi hsolvent
  -- every process but the one that moved is as solvent as it was
  have hkeep : ∀ o', D.Solvent o' p' → ∀ (j : Nat) (req' : Req) (q : Proc σ L ε α),
      c'.flights[j]? = some (req', q) → ∃ o, D.Solvent o q := by
    intro o' hp' j req' q hj
    by_cases hij : j = i
    · subst hij
      cases hself.symm.trans hj
      exact ⟨o', hp'⟩
    · rw [hflights, List.getElem?_set_ne (Ne.symm hij)] at hj
      exact h.solvent j req' q hj
  cases p with
  | done r => cases hp
  | query next =>
      obtain ⟨rfl, hstate⟩ := Prod.mk.inj (Option.some.inj hp)
      cases o with
      | some e => exact hsolvent.elim
      | none =>
          have hnext : D.Solvent none (next c.state) := hsolvent c.state
          have hsame : ∀ j, D.owes c' j = D.owes c j := by
            intro j
            by_cases hij : j = i
            · rw [hij, howes]
              exact owes_flight hself hnext
            · exact hothers j hij
          refine ⟨hkeep none hnext, ?_, ?_, ?_⟩
          · intro j k e e' hj hk
            exact h.one j k e e' ((hsame j).symm.trans hj) ((hsame k).symm.trans hk)
          · intro j e hj
            rw [← hstate]
            exact h.outstanding j e ((hsame j).symm.trans hj)
          · intro d hd
            rw [← hstate]
            exact h.settled d fun j e hj => hd j e ((hsame j).trans hj)
  | commit ℓ upd next =>
      obtain ⟨rfl, hstate⟩ := Prod.mk.inj (Option.some.inj hp)
      cases o with
      | none =>
          obtain ⟨debt, hincurs, hnext⟩ := hsolvent
          have howes' : D.owes c' i = debt c.state := owes_flight hself (hnext c.state)
          -- what is outstanding elsewhere stays so, and excludes more about it
          have hstay : ∀ {j e}, D.owes c j = some e → D.owes c' j = some e := by
            intro j e hj
            have hij : j ≠ i := by
              rintro rfl
              cases howes.symm.trans hj
            exact (hothers j hij).trans hj
          have hclear : ∀ {e}, debt c.state = some e →
              ∀ j e', D.owes c j = some e' → D.about e' ≠ D.about e := by
            intro e he j e' hj habout
            have hij := (hcalm j e' hj (hstay hj)).2 i e (howes'.trans he) habout.symm
            subst hij
            cases howes.symm.trans hj
          refine ⟨hkeep _ (hnext c.state), ?_, ?_, ?_⟩
          · intro j k e e' hj hk habout
            by_cases hji : j = i
            · by_cases hki : k = i
              · exact hji.trans hki.symm
              · subst hji
                exact absurd habout.symm
                  (hclear (howes'.symm.trans hj) k e' ((hothers k hki).symm.trans hk))
            · exact ((hcalm j e ((hothers j hji).symm.trans hj) hj).2 k e' hk habout.symm).symm
          · intro j e hj
            by_cases hji : j = i
            · subst hji
              have he : debt c.state = some e := howes'.symm.trans hj
              rw [← hstate]
              exact (D.inOrder_incurs hincurs (h.settled _ (hclear he))).1 e he rfl
            · have hj' := (hothers j hji).symm.trans hj
              exact D.inOrder_congr (hcalm j e hj' hj).1 (h.outstanding j e hj')
          · intro d hd
            rw [← hstate]
            refine (D.inOrder_incurs hincurs (h.settled d fun j e hj => hd j e (hstay hj))).2 ?_
            exact fun e he => hd i e (howes'.trans he)
      | some e =>
          obtain ⟨hpays, hnext⟩ := hsolvent
          have howes' : D.owes c' i = none := owes_flight hself (hnext c.state)
          have hbefore : ∀ {j e'}, D.owes c' j = some e' → D.owes c j = some e' := by
            intro j e' hj
            have hij : j ≠ i := by
              rintro rfl
              cases howes'.symm.trans hj
            exact (hothers j hij).symm.trans hj
          refine ⟨hkeep none (hnext c.state), ?_, ?_, ?_⟩
          · exact fun j k e₁ e₂ hj hk => h.one j k e₁ e₂ (hbefore hj) (hbefore hk)
          · intro j e' hj
            have hne : D.about e ≠ D.about e' := by
              intro habout
              have hij := h.one i j e e' howes (hbefore hj) habout
              subst hij
              cases howes'.symm.trans hj
            rw [← hstate]
            exact D.inOrder_congr (D.seen_pays hpays hne) (h.outstanding j e' (hbefore hj))
          · intro d hd
            rw [← hstate]
            by_cases hde : D.about e = d
            · subst hde
              exact D.inOrder_pays hpays (h.outstanding i e howes)
            · refine D.inOrder_congr (D.seen_pays hpays hde) (h.settled d fun j e' hj => ?_)
              by_cases hij : j = i
              · subst hij
                cases howes.symm.trans hj
                exact hde
              · exact hd j e' ((hothers j hij).trans hj)

theorem Kept.step (hserve : ∀ i req, D.Solvent none (handle i req)) (h : D.Kept c)
    (hstep : Step handle adm ok c c') (hcalm : D.Undisturbed c c') : D.Kept c' := by
  cases hstep with
  | accept req hadm => exact h.accept req _ (hserve _ req)
  | @advance i req p p' s' hi hp hok => exact h.move ⟨req, p, p', hi, hp, hok, rfl⟩ hcalm

variable (D handle adm ok) in
/-- On the way to `c` an action at place `i` has left `e` outstanding. -/
def Incurred (s : σ) (c : Config σ Req L ε α) (i : Nat) (e : δ) : Prop :=
  ∃ b b' ℓ upd debt, Run handle adm ok ⟨s, []⟩ b ∧ Advances ok i b b' ∧
    Run handle adm ok b' c ∧ b.nextLabel i = some ℓ ∧ D.incurs ℓ upd debt ∧
    debt b.state = some e ∧ b'.state = upd b.state

/-- What a request has left outstanding, an action of its own has incurred. -/
theorem owes_incurred (hserve : ∀ i req, D.Solvent none (handle i req)) {s : σ} {i : Nat} {e : δ}
    (hrun : Run handle adm ok ⟨s, []⟩ c) (howes : D.owes c i = some e) :
    D.Incurred handle adm ok s c i e := by
  induction hrun with
  | refl => cases howes
  | @tail b c hbefore hstep ih =>
      have hsolvent := Run.flights (P := fun _ _ p => ∃ o, D.Solvent o p)
        (fun i req => ⟨none, hserve i req⟩)
        (fun i req p p' s s' ⟨o, h⟩ hp => by
          obtain h | ⟨-, -, -, e, -, -, -, -, h⟩ := h.step hp
          · exact ⟨none, h⟩
          · exact ⟨some e, h⟩)
        (fun i req p hi => by simp at hi) hbefore
      -- where the request was left alone, it owed this before
      have hkept : D.owes b i = some e → D.Incurred handle adm ok s _ i e := fun hb => by
        obtain ⟨b₀, b', ℓ, upd, debt, hb₀, hmove, hrest, h⟩ := ih hb
        exact ⟨b₀, b', ℓ, upd, debt, hb₀, hmove, hrest.tail hstep, h⟩
      cases hstep with
      | accept req hadm =>
          refine hkept ?_
          rcases Nat.lt_trichotomy i b.flights.length with hlt | rfl | hgt
          · exact (owes_of_flights (List.getElem?_append_left hlt)).symm.trans howes
          · cases (owes_flight List.getElem?_concat_length (hserve _ req)).symm.trans howes
          · rw [owes, Config.nextLabel, List.getElem?_eq_none (by simp; omega)] at howes
            cases howes
      | @advance j req p p' s' hj hp hok =>
          by_cases hij : j = i
          · subst hij
            have hself : (b.flights.set j (req, p'))[j]? = some (req, p') :=
              List.getElem?_set_self (List.getElem?_eq_some_iff.mp hj).1
            obtain ⟨o, ho⟩ := hsolvent j req p hj
            obtain hnone | ⟨ℓ, upd, debt, e', hℓ, hincurs, hdebt, hs', hsome⟩ := ho.step hp
            · cases (owes_flight hself hnone).symm.trans howes
            · cases (owes_flight hself hsome).symm.trans howes
              refine ⟨b, _, ℓ, upd, debt, hbefore, ⟨req, p, p', hj, hp, hok, rfl⟩, .refl, ?_,
                hincurs, hdebt, hs'⟩
              rw [Config.nextLabel, hj]
              exact hℓ
          · exact hkept ((owes_of_flights (List.getElem?_set_ne hij)).symm.trans howes)

variable (D) in
/-- A run in which nothing that is outstanding is interfered with. -/
def CalmRun (handle : Nat → Req → Proc σ L ε α) (adm : Req → σ → Prop) (ok : L → σ → Prop) :
    Config σ Req L ε α → Config σ Req L ε α → Prop :=
  Relation.ReflTransGen fun c c' => Step handle adm ok c c' ∧ D.Undisturbed c c'

/-- An action interferes with nothing where no other request has left anything outstanding. -/
theorem Kept.undisturbed {i : Nat} (h : D.Kept c) (hmove : Advances ok i c c')
    (hrest : ∀ j, j ≠ i → D.owes c j = none) : D.Undisturbed c c' := by
  obtain ⟨req, p, p', hi, hp, -, hflights⟩ := hmove
  obtain ⟨o, hsolvent⟩ := h.solvent i req p hi
  intro j e hj hj'
  by_cases hji : j = i
  · -- what is its own to settle it settles at once
    subst hji
    have ho : o = some e := (owes_flight hi hsolvent).symm.trans hj
    subst ho
    have hself : c'.flights[j]? = some (req, p') := by
      rw [hflights]
      exact List.getElem?_set_self (List.getElem?_eq_some_iff.mp hi).1
    cases p with
    | done r => exact hsolvent.elim
    | query next => exact hsolvent.elim
    | commit ℓ upd next =>
        obtain ⟨rfl, -⟩ := Prod.mk.inj (Option.some.inj hp)
        cases (owes_flight hself (hsolvent.2 c.state)).symm.trans hj'
  · cases (hrest j hji).symm.trans hj

/-- A run in which one request is served by itself is without interference. -/
theorem calmRun_alone [∀ req s, Decidable (adm req s)] [∀ ℓ s, Decidable (ok ℓ s)]
    (h : D.Kept c) (hone : c.flights.length = 1) {n : Nat}
    (hexec : exec handle adm ok (List.replicate n (.advance 0)) c = some c') :
    D.CalmRun handle adm ok c c' := by
  induction n generalizing c with
  | zero =>
      cases hexec
      exact .refl
  | succ n ih =>
      obtain ⟨b, hact, hrest⟩ := Option.bind_eq_some_iff.mp hexec
      have hmove : Advances ok 0 c b := act_advances hact
      have hcalm : D.Undisturbed c b := by
        refine h.undisturbed hmove fun j hj => ?_
        have hnone : c.flights[j]? = none := List.getElem?_eq_none (by omega)
        rw [owes, Config.nextLabel, hnone]
        rfl
      have hlength : b.flights.length = 1 := by
        obtain ⟨req, p, p', -, -, -, hflights⟩ := hmove
        rw [hflights, List.length_set, hone]
      exact .head ⟨hmove.step, hcalm⟩
        (ih (h.move hmove hcalm) hlength hrest)

/-- The same, from the moment the request is accepted. -/
theorem calmRun_single [∀ req s, Decidable (adm req s)] [∀ ℓ s, Decidable (ok ℓ s)] {s : σ}
    {req : Req} (h : ∀ d, D.inOrder d s none) (hp : D.Solvent none (handle 0 req)) {n : Nat}
    (hexec : exec handle adm ok (.accept req :: List.replicate n (.advance 0)) ⟨s, []⟩ = some c') :
    D.CalmRun handle adm ok ⟨s, []⟩ c' := by
  obtain ⟨b, hact, hrest⟩ := Option.bind_eq_some_iff.mp hexec
  have hidle : D.Undisturbed (⟨s, []⟩ : Config σ Req L ε α) b := by
    intro j e hj
    cases hj
  simp only [act] at hact
  split at hact
  · next hadm =>
    cases hact
    have hkept : D.Kept (⟨s, [] ++ [(req, handle 0 req)]⟩ : Config σ Req L ε α) :=
      (kept_idle h).accept req _ hp
    exact .head ⟨.accept req hadm, hidle⟩ (calmRun_alone hkept rfl hrest)
  · cases hact

/-- In a run without interference every matter is in order about which nothing is outstanding. -/
theorem Kept.run (hserve : ∀ i req, D.Solvent none (handle i req)) (h : D.Kept c)
    (hrun : D.CalmRun handle adm ok c c') : D.Kept c' := by
  induction hrun with
  | refl => exact h
  | tail _ hstep ih => exact ih.step hserve hstep.1 hstep.2

end Runs

end Debts

end Concurrent
