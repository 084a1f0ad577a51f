import PrintForge.Concurrent.Process

/-!
# Obligations and crashes

A commit may leave something half done that a later commit of the same process is to finish. An
obligation is a condition on the shared state, and a process holds one when it comes to a commit
that ends it on every path that is left to it. A careful process opens an obligation only where
what is left of it ends it again.

A process may crash between any two of its actions and is then never advanced. As long as only
processes that hold nothing crash, every open obligation is held by a process that is alive.
-/

namespace Concurrent

namespace Proc

variable {σ L ε α β O : Type} (owed : O → σ → Prop)

/-- Every path of the process commits something that ends the obligation, in whichever state it is
made, or ends as `E` says. -/
def Settles (o : O) (E : Except ε α → Prop) : Proc σ L ε α → Prop
  | .done r => E r
  | .query next => ∀ s, Settles o E (next s)
  | .commit _ upd next => (∀ s, ¬ owed o (upd s)) ∨ ∀ s, Settles o E (next s)

/-- Every path of the process ends the obligation. -/
def Discharges (o : O) (p : Proc σ L ε α) : Prop := p.Settles owed o fun _ => False

/-- What a commit leaves owed was owed before, or the rest of the process ends it. -/
def Careful : Proc σ L ε α → Prop
  | .done _ => True
  | .query next => ∀ s, Careful (next s)
  | .commit _ upd next => ∀ s,
      (∀ o, owed o (upd s) → owed o s ∨ (next s).Discharges owed o) ∧ Careful (next s)

variable {owed} {o : O}

theorem Settles.finish {E : Except ε α → Prop} {F : Except ε β → Prop} {p : Proc σ L ε α}
    {k : Except ε α → Proc σ L ε β} (h : p.Settles owed o E)
    (hk : ∀ r, E r → (k r).Settles owed o F) : (p.finish k).Settles owed o F := by
  induction p with
  | done r => exact hk r h
  | query next ih => exact fun s => ih s (h s)
  | commit ℓ upd next ih =>
      obtain hends | hnext := h
      · exact .inl hends
      · exact .inr fun s => ih s (hnext s)

theorem Discharges.finish {p : Proc σ L ε α} (h : p.Discharges owed o)
    (k : Except ε α → Proc σ L ε β) : (p.finish k).Discharges owed o :=
  Settles.finish h fun _ hr => hr.elim

/-- What may end in any way settles everything, up to its end. -/
theorem settles_true (p : Proc σ L ε α) : p.Settles owed o fun _ => True := by
  induction p with
  | done r => trivial
  | query next ih => exact fun s => ih s
  | commit ℓ upd next ih => exact .inr fun s => ih s

/-- The rule for sequencing when the second half settles, and only errors come past the first. -/
theorem settles_bind {F : Except ε β → Prop} (p : Proc σ L ε α) {f : α → Proc σ L ε β}
    (hf : ∀ a, (f a).Settles owed o F) (herr : ∀ e, F (.error e)) :
    (p >>= f).Settles owed o F := by
  refine (settles_true p).finish fun r _ => ?_
  cases r with
  | ok a => exact hf a
  | error e => exact herr e

/-- A handler that discharges completes a body that discharges unless it fails. -/
theorem Settles.tryCatch {p : Proc σ L ε α} {h : ε → Proc σ L ε α}
    (hp : p.Settles owed o fun r => ∃ e, r = .error e) (hh : ∀ e, (h e).Discharges owed o) :
    (tryCatch p h : Proc σ L ε α).Discharges owed o := by
  refine Settles.finish hp fun r hr => ?_
  obtain ⟨e, rfl⟩ := hr
  exact hh e

theorem settles_transact {γ : Type} {ℓ : L} {tx : StateT σ (Except ε) γ} {E : Except ε γ → Prop}
    (h : ∀ s, ¬ owed o (applied tx s)) : (transact ℓ tx : Proc σ L ε γ).Settles owed o E :=
  .inl h

/-! ## Careful processes -/

theorem Careful.finish {p : Proc σ L ε α} {k : Except ε α → Proc σ L ε β} (h : p.Careful owed)
    (hk : ∀ r, (k r).Careful owed) : (p.finish k).Careful owed := by
  induction p with
  | done r => exact hk r
  | query next ih => exact fun s => ih s (h s)
  | commit ℓ upd next ih =>
      refine fun s => ⟨fun o ho => ?_, ih s (h s).2⟩
      exact ((h s).1 o ho).imp_right fun hnext => hnext.finish k

theorem Careful.bind {p : Proc σ L ε α} {f : α → Proc σ L ε β} (h : p.Careful owed)
    (hf : ∀ a, (f a).Careful owed) : (p >>= f).Careful owed := by
  refine h.finish fun r => ?_
  cases r with
  | ok a => exact hf a
  | error e => trivial

/-- A process that opens nothing is careful. -/
theorem careful_of_within {p : Proc σ L ε α}
    (h : p.Within fun _ s s' => ∀ o, owed o s' → owed o s) : p.Careful owed := by
  induction p with
  | done r => trivial
  | query next ih => exact fun s => ih s (h s)
  | commit ℓ upd next ih => exact fun s => ⟨fun o ho => .inl ((h s).1 o ho), ih s (h s).2⟩

/-- What a transaction opens is left to what follows it. -/
theorem careful_transact {γ : Type} {ℓ : L} {tx : StateT σ (Except ε) γ}
    {k : Except ε γ → Proc σ L ε α}
    (hok : ∀ s a s', tx s = .ok (a, s') →
      (∀ o, owed o s' → owed o s ∨ (k (.ok a)).Discharges owed o) ∧ (k (.ok a)).Careful owed)
    (herr : ∀ e, (k (.error e)).Careful owed) : ((transact ℓ tx).finish k).Careful owed := by
  intro s
  cases htx : tx s with
  | ok r =>
      simp only [htx]
      exact hok s r.1 r.2 htx
  | error e =>
      simp only [htx]
      exact ⟨fun o ho => .inl ho, herr e⟩

end Proc

/-! ## Runs with crashes -/

variable {σ Req L ε α O : Type}

/-- A configuration, and the places of the processes that have crashed. -/
structure Mortal (σ Req L ε α : Type) where
  config : Config σ Req L ε α
  crashed : List Nat

namespace Mortal

/-- A step of the processes that are alive, or a crash of one that may. -/
inductive Step (handle : Nat → Req → Proc σ L ε α) (adm : Req → σ → Prop) (ok : L → σ → Prop)
    (mayCrash : Proc σ L ε α → Prop) : Mortal σ Req L ε α → Mortal σ Req L ε α → Prop
  | accept {m} (req : Req) (h : adm req m.config.state) :
      Step handle adm ok mayCrash m
        ⟨⟨m.config.state, m.config.flights ++ [(req, handle m.config.flights.length req)]⟩,
          m.crashed⟩
  | advance {m} {i : Nat} {c' : Config σ Req L ε α} (hlive : i ∉ m.crashed)
      (h : Advances ok i m.config c') : Step handle adm ok mayCrash m ⟨c', m.crashed⟩
  | crash {m} {i : Nat} {req : Req} {p : Proc σ L ε α} (hi : m.config.flights[i]? = some (req, p))
      (h : mayCrash p) : Step handle adm ok mayCrash m ⟨m.config, i :: m.crashed⟩

/-- A run of any length under any schedule, with crashes. -/
abbrev Run (handle : Nat → Req → Proc σ L ε α) (adm : Req → σ → Prop) (ok : L → σ → Prop)
    (mayCrash : Proc σ L ε α → Prop) : Mortal σ Req L ε α → Mortal σ Req L ε α → Prop :=
  Relation.ReflTransGen (Step handle adm ok mayCrash)

/-- The obligation is held by a process that is alive. -/
def Held (owed : O → σ → Prop) (o : O) (m : Mortal σ Req L ε α) : Prop :=
  ∃ (i : Nat) (req : Req) (p : Proc σ L ε α),
    m.config.flights[i]? = some (req, p) ∧ i ∉ m.crashed ∧ p.Discharges owed o

/-- The process holds nothing. -/
def Unburdened (owed : O → σ → Prop) (p : Proc σ L ε α) : Prop := ∀ o, ¬ p.Discharges owed o

section

variable {handle : Nat → Req → Proc σ L ε α} {adm : Req → σ → Prop} {ok : L → σ → Prop}
variable {mayCrash : Proc σ L ε α → Prop} {owed : O → σ → Prop} {m m' : Mortal σ Req L ε α}

/-- Where nothing crashes, a run is one of the processes by themselves. -/
theorem run_of_run {c c' : Config σ Req L ε α} {crashed : List Nat}
    (h : Concurrent.Run handle adm ok c c') (hnone : ∀ i, i < c'.flights.length → i ∉ crashed) :
    Run handle adm ok mayCrash ⟨c, crashed⟩ ⟨c', crashed⟩ := by
  induction h with
  | refl => exact .refl
  | @tail b c' _ hstep ih =>
      have hb : ∀ i, i < b.flights.length → i ∉ crashed :=
        fun i hi => hnone i (Nat.lt_of_lt_of_le hi hstep.length_le)
      refine (ih hb).tail ?_
      cases hstep with
      | accept req hadm => exact .accept req hadm
      | @advance i req p p' s' hi hp hok =>
          exact .advance (hb i (List.getElem?_eq_some_iff.mp hi).1) ⟨req, p, p', hi, hp, hok, rfl⟩

/-- Every process is careful, and what is owed is held by one that is alive. -/
structure Accounted (owed : O → σ → Prop) (m : Mortal σ Req L ε α) : Prop where
  careful : ∀ (i : Nat) (req : Req) (p : Proc σ L ε α),
    m.config.flights[i]? = some (req, p) → p.Careful owed
  held : ∀ o, owed o m.config.state → m.Held owed o

theorem accounted_idle {s : σ} (h : ∀ o, ¬ owed o s) :
    Accounted owed (⟨⟨s, []⟩, []⟩ : Mortal σ Req L ε α) :=
  ⟨fun i req p hi => by simp at hi, fun o ho => absurd ho (h o)⟩

theorem Accounted.accept (h : Accounted owed m) {req : Req} {p : Proc σ L ε α}
    (hp : p.Careful owed) :
    Accounted owed ⟨⟨m.config.state, m.config.flights ++ [(req, p)]⟩, m.crashed⟩ := by
  refine ⟨fun i req' q hi => ?_, fun o ho => ?_⟩
  · obtain hi | hi := List.mem_append.mp (List.mem_of_getElem? hi)
    · obtain ⟨j, hj⟩ := List.getElem?_of_mem hi
      exact h.careful j req' q hj
    · cases List.mem_singleton.mp hi
      exact hp
  · obtain ⟨i, req', q, hi, hlive, hq⟩ := h.held o ho
    have hlt : i < m.config.flights.length := (List.getElem?_eq_some_iff.mp hi).1
    exact ⟨i, req', q, by rw [List.getElem?_append_left hlt]; exact hi, hlive, hq⟩

/-- What an action leaves owed is held by the process that has acted, or by another as before. -/
theorem Accounted.advance (h : Accounted owed m) {i : Nat} {c' : Config σ Req L ε α}
    (hlive : i ∉ m.crashed) (hadv : Advances ok i m.config c') :
    Accounted owed ⟨c', m.crashed⟩ := by
  obtain ⟨req, p, p', hi, hp, -, hflights⟩ := hadv
  have hlt : i < m.config.flights.length := (List.getElem?_eq_some_iff.mp hi).1
  have hself : c'.flights[i]? = some (req, p') := by
    rw [hflights]
    exact List.getElem?_set_self hlt
  have hother : ∀ j, i ≠ j → c'.flights[j]? = m.config.flights[j]? := by
    intro j hj
    rw [hflights, List.getElem?_set_ne hj]
  have hcareful := h.careful i req p hi
  -- the process that has acted
  have hmove : p'.Careful owed ∧ ∀ o, owed o c'.state →
      p'.Discharges owed o ∨ owed o m.config.state ∧ ¬ p.Discharges owed o := by
    cases p with
    | done r => cases hp
    | query next =>
        obtain ⟨rfl, hs⟩ := Prod.mk.inj (Option.some.inj hp)
        refine ⟨hcareful _, fun o ho => ?_⟩
        by_cases hd : (Proc.query next).Discharges owed o
        · exact .inl (hd _)
        · exact .inr ⟨hs ▸ ho, hd⟩
    | commit ℓ upd next =>
        obtain ⟨rfl, hs⟩ := Prod.mk.inj (Option.some.inj hp)
        refine ⟨(hcareful _).2, fun o ho => ?_⟩
        have ho' : owed o (upd m.config.state) := hs ▸ ho
        by_cases hd : (Proc.commit ℓ upd next).Discharges owed o
        · obtain hends | hnext := hd
          · exact absurd ho' (hends _)
          · exact .inl (hnext _)
        · obtain hbefore | hnext := (hcareful _).1 o ho'
          · exact .inr ⟨hbefore, hd⟩
          · exact .inl hnext
  refine ⟨fun j req' q hj => ?_, fun o ho => ?_⟩
  · by_cases hij : i = j
    · subst hij
      cases hself.symm.trans hj
      exact hmove.1
    · exact h.careful j req' q ((hother j hij).symm.trans hj)
  · obtain hd | ⟨hbefore, hnot⟩ := hmove.2 o ho
    · exact ⟨i, req, p', hself, hlive, hd⟩
    · obtain ⟨j, req', q, hj, hjlive, hq⟩ := h.held o hbefore
      have hij : i ≠ j := by
        rintro rfl
        cases hi.symm.trans hj
        exact hnot hq
      exact ⟨j, req', q, (hother j hij).trans hj, hjlive, hq⟩

/-- A process that holds nothing takes nothing with it. -/
theorem Accounted.crash (h : Accounted owed m) {i : Nat} {req : Req} {p : Proc σ L ε α}
    (hi : m.config.flights[i]? = some (req, p)) (hp : Unburdened owed p) :
    Accounted owed ⟨m.config, i :: m.crashed⟩ := by
  refine ⟨h.careful, fun o ho => ?_⟩
  obtain ⟨j, req', q, hj, hlive, hq⟩ := h.held o ho
  refine ⟨j, req', q, hj, fun hmem => ?_, hq⟩
  obtain rfl | hmem := List.mem_cons.mp hmem
  · cases hi.symm.trans hj
    exact hp o hq
  · exact hlive hmem

/-- While only processes that hold nothing crash, whatever is owed is held. -/
theorem Accounted.run (hserve : ∀ i req, (handle i req).Careful owed)
    (hcrash : ∀ p, mayCrash p → Unburdened owed p) (h : Accounted owed m)
    (hrun : Run handle adm ok mayCrash m m') : Accounted owed m' := by
  induction hrun with
  | refl => exact h
  | tail _ hstep ih =>
      cases hstep with
      | accept req hadm => exact ih.accept (hserve _ req)
      | advance hlive hadv => exact ih.advance hlive hadv
      | crash hi hmay => exact ih.crash hi (hcrash _ hmay)

end

end Mortal

end Concurrent
