import PrintForge.Concurrent.Discipline

/-!
# What a process has seen or done on its way

A result may say of a request that has been answered that something was the case at one of its
actions, while the state has moved on since. `Along` says it of a schedule. `Awaits` says it of a
process whose moment is still to come: whatever the others do, the process comes to such an action
or ends with an error.
-/

namespace Concurrent

variable {σ Req L ε α β : Type}

/-- The label of what is done next at place `i`. -/
def Config.nextLabel (c : Config σ Req L ε α) (i : Nat) : Option L :=
  c.flights[i]?.bind fun f => f.2.label

def Action.isAdvance (i : Nat) : Action Req → Bool
  | .accept _ => false
  | .advance j => j = i

section Along

variable (handle : Nat → Req → Proc σ L ε α) (adm : Req → σ → Prop) (ok : L → σ → Prop)
variable [∀ req s, Decidable (adm req s)] [∀ ℓ s, Decidable (ok ℓ s)]

/-- At some action at place `i` along the schedule, `E` holds of the configurations before and
after it. -/
def Along (i : Nat) (E : Config σ Req L ε α → Config σ Req L ε α → Prop) :
    List (Action Req) → Config σ Req L ε α → Prop
  | [], _ => False
  | a :: acts, c => ∃ c' ∈ act handle adm ok a c,
      (a.isAdvance i = true ∧ E c c') ∨ Along i E acts c'

instance Along.decidable (i : Nat) (E : Config σ Req L ε α → Config σ Req L ε α → Prop)
    [∀ c c', Decidable (E c c')] :
    ∀ (acts : List (Action Req)) (c : Config σ Req L ε α),
      Decidable (Along handle adm ok i E acts c)
  | [], _ => inferInstanceAs (Decidable False)
  | a :: acts, c =>
      have := Along.decidable i E acts
      inferInstanceAs (Decidable (∃ c' ∈ act handle adm ok a c, _))

end Along

/-! ## Schedules and runs -/

section Exec

variable {handle : Nat → Req → Proc σ L ε α} {adm : Req → σ → Prop} {ok : L → σ → Prop}
variable [∀ req s, Decidable (adm req s)] [∀ ℓ s, Decidable (ok ℓ s)]
variable {c c' : Config σ Req L ε α}

theorem Step.exists_act (h : Step handle adm ok c c') : ∃ a, act handle adm ok a c = some c' := by
  cases h with
  | accept req hadm => exact ⟨.accept req, if_pos hadm⟩
  | @advance i req p p' s' hi hp hok =>
      refine ⟨.advance i, ?_⟩
      have hlabel : (p.label.all fun ℓ => decide (ok ℓ c.state)) = true := by
        cases hℓ : p.label with
        | none => rfl
        | some ℓ => exact decide_eq_true (hok ℓ hℓ)
      simp only [act, hi, hp, Option.map_some]
      exact if_pos hlabel

/-- Every run follows a schedule, so that what is said of schedules is said of runs. -/
theorem Run.exists_exec (h : Run handle adm ok c c') :
    ∃ acts, exec handle adm ok acts c = some c' := by
  induction h using Relation.ReflTransGen.head_induction_on with
  | refl => exact ⟨[], rfl⟩
  | @head c b hstep _ ih =>
      obtain ⟨a, ha⟩ := hstep.exists_act
      obtain ⟨acts, hacts⟩ := ih
      exact ⟨a :: acts, by rw [exec, ha]; exact hacts⟩

end Exec

namespace Discipline

variable {D : Discipline σ L} {i : Nat} {s s' : σ}

/-- Before the process at place `i` ends with a result, it takes an action at which `E` holds of
the label, of whether the process has then ended, and of the state. -/
def Awaits (D : Discipline σ L) (i : Nat) (E : Option L → Bool → σ → Prop) :
    Proc σ L ε α → σ → Prop
  | .done (.ok _), _ => False
  | .done (.error _), _ => True
  | .query next, s => ∀ s', D.rely i s s' → D.inv s' →
      E none (next s').ended s' ∨ Awaits D i E (next s') s'
  | .commit ℓ upd next, s => ∀ s', D.rely i s s' → D.inv s' → D.ok ℓ s' →
      E (some ℓ) (next s').ended (upd s') ∨ Awaits D i E (next s') (upd s')

variable {E : Option L → Bool → σ → Prop}

/-- What is to come is still to come after any steps of the others. -/
theorem Awaits.later {p : Proc σ L ε α} (h : D.Awaits i E p s) (hs : D.rely i s s') :
    D.Awaits i E p s' := by
  cases p with
  | done r =>
      cases r with
      | ok a => exact h
      | error e => trivial
  | query next => exact fun s'' h' => h s'' (D.rely_trans hs h')
  | commit ℓ upd next => exact fun s'' h' => h s'' (D.rely_trans hs h')

theorem awaits_throw (e : ε) : D.Awaits i E (throw e : Proc σ L ε α) s := trivial

/-- A result that is only turned into another ends the process where it ended. -/
theorem Awaits.map {p : Proc σ L ε α} (h : D.Awaits i E p s) (b : β) :
    D.Awaits i E (p >>= fun _ => pure b) s := by
  have hended : ∀ q : Proc σ L ε α, (q >>= fun _ => (pure b : Proc σ L ε β)).ended = q.ended := by
    intro q
    cases q with
    | done r => cases r <;> rfl
    | query next => rfl
    | commit ℓ upd next => rfl
  induction p generalizing s with
  | done r =>
      cases r with
      | ok a => exact h.elim
      | error e => trivial
  | query next ih =>
      intro s' hl hi
      obtain hE | hn := h s' hl hi
      · exact .inl ((hended (next s')).symm ▸ hE)
      · exact .inr (ih s' hn)
  | commit ℓ upd next ih =>
      intro s' hl hi hok
      obtain hE | hn := h s' hl hi hok
      · exact .inl ((hended (next s')).symm ▸ hE)
      · exact .inr (ih s' hn)

/-- The rule for a moment that comes in the second half. -/
theorem Safe.bind_awaits {P : α → σ → Prop} {p : Proc σ L ε α} {f : α → Proc σ L ε β}
    (h : D.Safe i (Returns P) p s) (hs : D.inv s)
    (hf : ∀ s a, D.inv s → P a s → D.Awaits i E (f a) s) : D.Awaits i E (p >>= f) s := by
  change D.Awaits i E (p.finish (Proc.onResult f)) s
  induction p generalizing s with
  | done r =>
      cases r with
      | ok a => exact hf s a hs (h s (D.rely_refl i s) hs a rfl)
      | error e => trivial
  | query next ih => exact fun s' hl hi => .inr (ih s' (h s' hl hi) hi)
  | commit ℓ upd next ih =>
      intro s' hl hi hok
      obtain ⟨hg, hn⟩ := h s' hl hi hok
      exact .inr (ih s' hn (D.inv_guar hi hok hg))

/-! ## Schedules -/

section Schedule

variable {handle : Nat → Req → Proc σ L ε α} {adm : Req → σ → Prop}
variable [∀ req s, Decidable (adm req s)] [∀ ℓ s, Decidable (D.ok ℓ s)]
variable {post : Nat → Req → σ → Except ε α → Prop} {c c' : Config σ Req L ε α}

omit [∀ ℓ s, Decidable (D.ok ℓ s)] in
/-- What another process does may be relied on. -/
theorem Holds.rely {j : Nat} (h : D.Holds post c) (hmove : Advances D.ok j c c') (hij : j ≠ i) :
    D.rely i c.state c'.state := by
  obtain ⟨req, p, p', hj, hp, hok, -⟩ := hmove
  cases p with
  | done r => cases hp
  | query next =>
      have hstate : c.state = c'.state := congrArg Prod.snd (Option.some.inj hp)
      rw [← hstate]
      exact D.rely_refl i _
  | commit ℓ upd next =>
      have hstate : upd c.state = c'.state := congrArg Prod.snd (Option.some.inj hp)
      rw [← hstate]
      have hℓ := hok ℓ rfl
      have hguar := (h.safe j req _ hj).write rfl (D.rely_refl j _) h.inv hℓ
      exact D.rely_guar hij h.inv hℓ hguar

omit [∀ ℓ s, Decidable (D.ok ℓ s)] in
/-- What is awaited comes with the next action, or is awaited still. -/
theorem Awaits.move {req : Req} {p : Proc σ L ε α} (hinv : D.inv c.state)
    (hi : c.flights[i]? = some (req, p)) (hp : D.Awaits i E p c.state)
    (hmove : Advances D.ok i c c') :
    E (c.nextLabel i) (c'.answer i).isSome c'.state ∨
      ∃ p', c'.flights[i]? = some (req, p') ∧ D.Awaits i E p' c'.state := by
  obtain ⟨req', p₀, p', hi', hstep, hok, hflights⟩ := hmove
  cases hi.symm.trans hi'
  have hlt : i < c.flights.length := (List.getElem?_eq_some_iff.mp hi).1
  have hnext : c'.flights[i]? = some (req, p') := by
    rw [hflights]
    exact List.getElem?_set_self hlt
  have hlabel : c.nextLabel i = p.label := by simp [Config.nextLabel, hi]
  have hended : (c'.answer i).isSome = p'.ended := by
    rw [Config.answer, hnext]
    cases p' <;> rfl
  rw [hlabel, hended]
  cases p with
  | done r => cases hstep
  | query next =>
      obtain ⟨rfl, hstate⟩ := Prod.mk.inj (Option.some.inj hstep)
      rw [← hstate]
      obtain hE | hn := hp c.state (D.rely_refl i _) hinv
      · exact .inl hE
      · exact .inr ⟨_, hnext, hn⟩
  | commit ℓ upd next =>
      obtain ⟨rfl, hstate⟩ := Prod.mk.inj (Option.some.inj hstep)
      rw [← hstate]
      obtain hE | hn := hp c.state (D.rely_refl i _) hinv (hok ℓ rfl)
      · exact .inl hE
      · exact .inr ⟨_, hnext, hn⟩

/-- A process that has been answered with a result has had its moment. -/
theorem Awaits.along {n : Nat} {req : Req} {p : Proc σ L ε α} {acts : List (Action Req)}
    {answered : Req × Except ε α} {a : α} (hn : n ≤ c.flights.length)
    (hserve : ∀ i req s, n ≤ i → D.inv s → adm req s → D.Safe i (post i req) (handle i req) s)
    (h : D.Holds post c) (hi : c.flights[i]? = some (req, p)) (hp : D.Awaits i E p c.state)
    (hexec : exec handle adm D.ok acts c = some c')
    (hanswer : c'.answer i = some answered) (hresult : answered.2 = .ok a) :
    Along handle adm D.ok i (fun c c' => E (c.nextLabel i) (c'.answer i).isSome c'.state)
      acts c := by
  induction acts generalizing c p with
  | nil =>
      cases hexec
      obtain ⟨req', r⟩ := answered
      cases hresult
      cases hi.symm.trans (Config.flight_of_answer hanswer)
      exact hp.elim
  | cons act₀ acts ih =>
      obtain ⟨b, hact, hrest⟩ := Option.bind_eq_some_iff.mp hexec
      have hstep : Step handle adm D.ok c b := act_step hact
      have hb : D.Holds post b := h.step hn hserve hstep
      have hnb : n ≤ b.flights.length := Nat.le_trans hn hstep.length_le
      refine ⟨b, hact, ?_⟩
      have hlt : i < c.flights.length := (List.getElem?_eq_some_iff.mp hi).1
      cases act₀ with
      | accept req' =>
          right
          simp only [act] at hact
          split at hact
          · cases hact
            refine ih hnb hb ?_ hp hrest
            rw [List.getElem?_append_left hlt]
            exact hi
          · cases hact
      | advance j =>
          have hmove : Advances D.ok j c b := act_advances hact
          by_cases hij : j = i
          · subst hij
            obtain hE | ⟨p', hnext, hp'⟩ := hp.move h.inv hi hmove
            · exact .inl ⟨decide_eq_true rfl, hE⟩
            · exact .inr (ih hnb hb hnext hp' hrest)
          · right
            have hlater := hp.later (h.rely hmove hij)
            obtain ⟨req', p₀, p', -, -, -, hflights⟩ := hmove
            refine ih hnb hb ?_ hlater hrest
            rw [hflights, List.getElem?_set_ne hij]
            exact hi

end Schedule

end Discipline

end Concurrent
