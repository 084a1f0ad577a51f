import PrintForge.Concurrent.Discipline

/-!
# Processes that only read

A process may come to a write in some states only. As long as it sees none of these it reads, and
what it answers follows from what it has seen.

What a process has seen that never writes are states of the run, each of them later than the one
before, and all of them between the request and the answer.
-/

namespace Concurrent

variable {σ Req L ε α β : Type} {K : σ → Prop}

namespace Proc

/-- Where every state it sees is as `K` says, the process writes nothing and answers as `P` says. -/
def ReadsOnly (K : σ → Prop) (P : Except ε α → Prop) : Proc σ L ε α → Prop
  | .done r => P r
  | .query next => ∀ s, K s → ReadsOnly K P (next s)
  | .commit _ _ _ => False

variable {P : Except ε α → Prop} {Q : Except ε β → Prop}

theorem ReadsOnly.finish {p : Proc σ L ε α} {k : Except ε α → Proc σ L ε β}
    (h : p.ReadsOnly K P) (hk : ∀ r, P r → (k r).ReadsOnly K Q) : (p.finish k).ReadsOnly K Q := by
  induction p with
  | done r => exact hk r h
  | query next ih => exact fun s hs => ih s (h s hs)
  | commit ℓ upd next ih => exact h.elim

theorem ReadsOnly.mono {P' : Except ε α → Prop} {p : Proc σ L ε α} (h : p.ReadsOnly K P)
    (hP : ∀ r, P r → P' r) : p.ReadsOnly K P' := by
  induction p with
  | done r => exact hP r h
  | query next ih => exact fun s hs => ih s (h s hs)
  | commit ℓ upd next ih => exact h.elim

theorem ReadsOnly.step {p p' : Proc σ L ε α} {s s' : σ} (h : p.ReadsOnly K P) (hs : K s)
    (hp : p.step s = some (p', s')) : p'.ReadsOnly K P := by
  cases p with
  | done r => cases hp
  | query next =>
      cases hp
      exact h s hs
  | commit ℓ upd next => exact h.elim

theorem ReadsOnly.label {p : Proc σ L ε α} (h : p.ReadsOnly K P) : p.label = none := by
  cases p with
  | done r => rfl
  | query next => rfl
  | commit ℓ upd next => exact h.elim

end Proc

section Runs

variable {handle : Nat → Req → Proc σ L ε α} {adm : Req → σ → Prop} {ok : L → σ → Prop}
variable {c c' : Config σ Req L ε α}

/-- In a run through states as `K` says, the requests that are then served by reading alone are
served so, if they come after the start of the run. -/
theorem readsOnly_of_run (hit : Req → Prop) (post : Req → Except ε α → Prop)
    (hK : ∀ c', Run handle adm ok c c' → K c'.state)
    (hserve : ∀ i req, hit req → (handle i req).ReadsOnly K (post req))
    (hrun : Run handle adm ok c c') {i : Nat} {req : Req} {p : Proc σ L ε α}
    (hi : c.flights.length ≤ i) (hp : c'.flights[i]? = some (req, p)) (hreq : hit req) :
    p.ReadsOnly K (post req) := by
  induction hrun generalizing p with
  | refl =>
      rw [List.getElem?_eq_none hi] at hp
      cases hp
  | @tail b c' hbefore hstep ih =>
      obtain hold | rfl | ⟨p₀, hold, hmove⟩ := hstep.flight hp
      · exact ih hold
      · exact hserve _ req hreq
      · exact (ih hold).step (hK b hbefore) hmove

variable (handle adm ok) in
/-- Reading in configurations of a run from `c`, the process comes to an answer by the time of
`c'`. -/
def AnswersAlong {γ : Type} :
    Proc σ L ε γ → Config σ Req L ε α → Except ε γ → Config σ Req L ε α → Prop
  | .done r', c, r, c' => r' = r ∧ Run handle adm ok c c'
  | .query next, c, r, c' => ∃ b, Run handle adm ok c b ∧ AnswersAlong (next b.state) b r c'
  | .commit _ _ _, _, _, _ => False

theorem AnswersAlong.earlier {p : Proc σ L ε β} {b : Config σ Req L ε α} {r : Except ε β}
    (h : AnswersAlong handle adm ok p b r c') (hrun : Run handle adm ok c b) :
    AnswersAlong handle adm ok p c r c' := by
  cases p with
  | done r' => exact ⟨h.1, hrun.trans h.2⟩
  | query next =>
      obtain ⟨d, hd, hrest⟩ := h
      exact ⟨d, hrun.trans hd, hrest⟩
  | commit ℓ upd next => exact h.elim

/-- The rule for a bind that has a result. -/
theorem AnswersAlong.of_bind {γ : Type} {p : Proc σ L ε β} {f : β → Proc σ L ε γ} {a : γ}
    (h : AnswersAlong handle adm ok (p >>= f) c (.ok a) c') :
    ∃ b b', AnswersAlong handle adm ok p c (.ok b) b' ∧
      AnswersAlong handle adm ok (f b) b' (.ok a) c' := by
  change AnswersAlong handle adm ok (p.finish (Proc.onResult f)) c (.ok a) c' at h
  induction p generalizing c with
  | done r =>
      cases r with
      | ok b => exact ⟨b, c, ⟨rfl, .refl⟩, h⟩
      | error e => cases h.1
  | query next ih =>
      obtain ⟨d, hd, hrest⟩ := h
      obtain ⟨b, b', hfirst, hsecond⟩ := ih d.state hrest
      exact ⟨b, b', ⟨d, hd, hfirst⟩, hsecond⟩
  | commit ℓ upd next ih => exact h.elim

/-- A request that is served by reading alone, and comes after the start of the run, is answered
from what the run has come to between. -/
theorem answersAlong_of_run (hit : Req → Prop)
    (hserve : ∀ i req, hit req → (handle i req).Commits fun _ _ => False)
    (hrun : Run handle adm ok c c') {i : Nat} {req : Req} {r : Except ε α}
    (hi : c.flights.length ≤ i) (hp : c'.flights[i]? = some (req, .done r)) (hreq : hit req) :
    ∃ b, Run handle adm ok c b ∧ AnswersAlong handle adm ok (handle i req) b r c' := by
  have key : ∀ {p}, c'.flights[i]? = some (req, p) → p.Commits (fun _ _ => False) ∧
      ∃ b, Run handle adm ok c b ∧ ∀ r d, AnswersAlong handle adm ok p c' r d →
        AnswersAlong handle adm ok (handle i req) b r d := by
    clear hp
    induction hrun with
    | refl =>
        intro p hp
        rw [List.getElem?_eq_none hi] at hp
        cases hp
    | @tail b c' hbefore hstep ih =>
        intro p hp
        have hlast : Run handle adm ok b c' := .single hstep
        obtain hold | rfl | ⟨p₀, hold, hmove⟩ := hstep.flight hp
        · obtain ⟨hreads, d, hd, hfrom⟩ := ih hold
          exact ⟨hreads, d, hd, fun r e h => hfrom r e (h.earlier hlast)⟩
        · exact ⟨hserve i req hreq, c', hbefore.tail hstep, fun r e h => h⟩
        · obtain ⟨hreads, d, hd, hfrom⟩ := ih hold
          refine ⟨hreads.step hmove, d, hd, fun r e h => hfrom r e ?_⟩
          cases p₀ with
          | done r => cases hmove
          | query next =>
              obtain ⟨rfl, -⟩ := Prod.mk.inj (Option.some.inj hmove)
              exact ⟨b, .refl, h.earlier hlast⟩
          | commit ℓ upd next => exact hreads.1.elim
  obtain ⟨-, b, hb, hfrom⟩ := key hp
  exact ⟨b, hb, hfrom r c' ⟨rfl, .refl⟩⟩

end Runs

end Concurrent
