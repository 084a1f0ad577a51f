import Mathlib.Data.List.Basic

/-!
# Stages that are committed one by one

A stage is a transaction: it ends in a state with a report, or fails and leaves the state as it
was. Stages may run one after the other in one transaction, or each be committed before the next
one starts, so that what stops them leaves behind what the first of them have done.

A stage settles something: once it has ended, another run of it finds nothing to do. Where no later
stage unsettles what an earlier one has settled, stages that were stopped anywhere, any number of
times, end where they would have ended at once.
-/

namespace Stages

variable {σ ε ρ : Type}

/-- Each stage is committed before the next one starts, and the first failure is the last of it. -/
def runCommitted : List (StateT σ (Except ε) ρ) → σ → Except ε (List ρ) × σ
  | [], s => (.ok [], s)
  | stage :: stages, s =>
      match stage s with
      | .error e => (.error e, s)
      | .ok (r, s') => ((runCommitted stages s').1.map (r :: ·), (runCommitted stages s').2)

theorem runCommitted_error {stage : StateT σ (Except ε) ρ} {s : σ} {e : ε}
    (h : stage s = .error e) (stages : List (StateT σ (Except ε) ρ)) :
    runCommitted (stage :: stages) s = (.error e, s) := by
  rw [runCommitted, h]

theorem runCommitted_ok {stage : StateT σ (Except ε) ρ} {s s' : σ} {r : ρ}
    (h : stage s = .ok (r, s')) (stages : List (StateT σ (Except ε) ρ)) :
    runCommitted (stage :: stages) s =
      ((runCommitted stages s').1.map (r :: ·), (runCommitted stages s').2) := by
  rw [runCommitted, h]

/-- What every stage keeps, they keep together. -/
theorem runCommitted_keeps (kept : σ → Prop) {stages : List (StateT σ (Except ε) ρ)} {s : σ}
    (hkept : ∀ stage ∈ stages, ∀ s r s', kept s → stage s = .ok (r, s') → kept s')
    (h : kept s) : kept (runCommitted stages s).2 := by
  induction stages generalizing s with
  | nil => exact h
  | cons stage stages ih =>
      cases hstage : stage s with
      | error e =>
          rw [runCommitted_error hstage]
          exact h
      | ok r =>
          rw [runCommitted_ok hstage]
          exact ih (fun next hnext => hkept next (List.mem_cons_of_mem stage hnext))
            (hkept stage List.mem_cons_self s r.1 r.2 h hstage)

/-- What a run fails with, a stage has failed with. -/
theorem exists_of_runCommitted_error {stages : List (StateT σ (Except ε) ρ)} {s : σ} {e : ε}
    (h : (runCommitted stages s).1 = .error e) : ∃ stage ∈ stages, ∃ s', stage s' = .error e := by
  induction stages generalizing s with
  | nil => cases h
  | cons stage stages ih =>
      cases hstage : stage s with
      | error e' =>
          rw [runCommitted_error hstage] at h
          cases h
          exact ⟨stage, List.mem_cons_self, s, hstage⟩
      | ok r =>
          rw [runCommitted_ok hstage] at h
          cases hrest : (runCommitted stages r.2).1 with
          | ok rs =>
              rw [hrest] at h
              cases h
          | error e' =>
              rw [hrest] at h
              cases h
              obtain ⟨next, hnext, s', hs'⟩ := ih hrest
              exact ⟨next, List.mem_cons_of_mem stage hnext, s', hs'⟩

/-- All stages in one transaction. -/
def runTogether (stages : List (StateT σ (Except ε) ρ)) : StateT σ (Except ε) (List ρ) :=
  stages.mapM id

/-- Both ways report the same, and end in the same state where nothing fails. -/
theorem runTogether_eq (stages : List (StateT σ (Except ε) ρ)) (s : σ) :
    runTogether stages s = (runCommitted stages s).1.map (·, (runCommitted stages s).2) := by
  induction stages generalizing s with
  | nil => rfl
  | cons stage stages ih =>
      rw [runTogether, List.mapM_cons]
      simp only [bind, StateT.bind, Except.bind, id_eq, runCommitted]
      cases stage s with
      | error e => rfl
      | ok r =>
          have hrest := ih r.2
          rw [runTogether] at hrest
          dsimp only
          rw [hrest]
          cases (runCommitted stages r.2).1 with
          | error e => rfl
          | ok rs => rfl

/-- A stage, and when it finds nothing to do. -/
structure Settling (σ ε ρ : Type) (idle : ρ → Prop) where
  stage : StateT σ (Except ε) ρ
  settled : σ → Prop
  rests : ∀ s, settled s → ∃ r, stage s = .ok (r, s) ∧ idle r
  settles : ∀ s r s', stage s = .ok (r, s') → settled s'

section

variable {idle : ρ → Prop}

/-- What one stage has settled, the other leaves settled. -/
def Settling.KeptBy (a b : Settling σ ε ρ idle) : Prop :=
  ∀ s r s', a.settled s → b.stage s = .ok (r, s') → a.settled s'

def stagesOf (settling : List (Settling σ ε ρ idle)) : List (StateT σ (Except ε) ρ) :=
  settling.map (·.stage)

variable {a : Settling σ ε ρ idle} {settling : List (Settling σ ε ρ idle)} {s : σ}

theorem settled_runCommitted (hkept : ∀ b ∈ settling, a.KeptBy b) (h : a.settled s) :
    a.settled (runCommitted (stagesOf settling) s).2 := by
  refine runCommitted_keeps a.settled (fun stage hstage => ?_) h
  obtain ⟨b, hb, rfl⟩ := List.mem_map.mp hstage
  exact hkept b hb

/-- A settled stage at the front makes no difference to where a run ends. -/
theorem runCommitted_of_settled (h : a.settled s) :
    (runCommitted (a.stage :: stagesOf settling) s).2 =
      (runCommitted (stagesOf settling) s).2 := by
  obtain ⟨r, hr, -⟩ := a.rests s h
  rw [runCommitted_ok hr]

/-- Stages that were stopped end, when run again, where they would have ended at once. -/
theorem runCommitted_take (hkept : settling.Pairwise Settling.KeptBy) (n : Nat) :
    (runCommitted (stagesOf settling) (runCommitted ((stagesOf settling).take n) s).2).2 =
      (runCommitted (stagesOf settling) s).2 := by
  induction settling generalizing n s with
  | nil => rw [stagesOf, List.map_nil, List.take_nil, runCommitted]
  | cons a settling ih =>
      obtain ⟨hlater, hkept⟩ := List.pairwise_cons.mp hkept
      cases n with
      | zero => rfl
      | succ n =>
          rw [stagesOf, List.map_cons, List.take_succ_cons]
          cases ha : a.stage s with
          | error e => rw [runCommitted_error ha, runCommitted_error ha]
          | ok r =>
              have hsettled : a.settled (runCommitted ((stagesOf settling).take n) r.2).2 := by
                rw [stagesOf, ← List.map_take]
                exact settled_runCommitted (fun b hb => hlater b (List.mem_of_mem_take hb))
                  (a.settles s r.1 r.2 ha)
              rw [runCommitted_ok ha, runCommitted_ok ha]
              exact (runCommitted_of_settled hsettled).trans (ih hkept n)

/-- The same of stages that were stopped again and again. -/
theorem runCommitted_stops (hkept : settling.Pairwise Settling.KeptBy) (stops : List Nat) :
    (runCommitted (stagesOf settling)
      (stops.foldl (fun s n => (runCommitted ((stagesOf settling).take n) s).2) s)).2 =
      (runCommitted (stagesOf settling) s).2 := by
  induction stops generalizing s with
  | nil => rfl
  | cons n stops ih => rw [List.foldl_cons, ih, runCommitted_take hkept]

/-- A run that follows a run changes nothing, and reports that it has found nothing to do. -/
theorem runCommitted_again (hkept : settling.Pairwise Settling.KeptBy) {again : σ}
    (hagain : again = (runCommitted (stagesOf settling) s).2) :
    (runCommitted (stagesOf settling) again).2 = again ∧
      ∀ rs, (runCommitted (stagesOf settling) again).1 = .ok rs → ∀ r ∈ rs, idle r := by
  induction settling generalizing s with
  | nil =>
      refine ⟨rfl, fun rs hrs => ?_⟩
      cases hrs
      exact nofun
  | cons a settling ih =>
      obtain ⟨hlater, hkept⟩ := List.pairwise_cons.mp hkept
      rw [stagesOf, List.map_cons] at hagain ⊢
      cases ha : a.stage s with
      | error e =>
          rw [runCommitted_error ha] at hagain
          subst hagain
          rw [runCommitted_error ha]
          exact ⟨rfl, nofun⟩
      | ok r =>
          rw [runCommitted_ok ha] at hagain
          have hsettled : a.settled again := by
            rw [hagain]
            exact settled_runCommitted hlater (a.settles s r.1 r.2 ha)
          obtain ⟨hstate, hidle⟩ := ih hkept hagain
          obtain ⟨r', hr', hr'idle⟩ := a.rests again hsettled
          rw [runCommitted_ok hr']
          refine ⟨hstate, fun rs hrs => ?_⟩
          change (runCommitted (stagesOf settling) again).1.map (r' :: ·) = .ok rs at hrs
          cases hrest : (runCommitted (stagesOf settling) again).1 with
          | error e =>
              rw [hrest] at hrs
              cases hrs
          | ok rest =>
              rw [hrest] at hrs
              cases hrs
              exact List.forall_mem_cons.mpr ⟨hr'idle, hidle rest hrest⟩

end

end Stages
