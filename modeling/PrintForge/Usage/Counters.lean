import PrintForge.Usage.Service

/-!
# What the statements of the counters do

A counter is one row at most, and none is as good as a row that counts nothing. A reservation
raises the counter it is about by its amount and leaves it below the limit, or it is refused, and
then the amount would have exceeded the limit. A decrement stops at zero. Neither touches another
counter.
-/

namespace PrintForge

open Relational

/-- A counter: a tenant, a limit and a period. -/
structure Counter where
  tenantId : Nat
  limitKey : LimitKey
  period : String
deriving DecidableEq, Repr

def Usage.counter (u : Usage) : Counter := ⟨u.tenantId, u.limitKey, u.period⟩

theorem Usage.isFor_iff {u : Usage} {tenantId : Nat} {limitKey : LimitKey} {period : String} :
    u.isFor tenantId limitKey period = true ↔ u.counter = ⟨tenantId, limitKey, period⟩ := by
  simp [Usage.isFor, Usage.counter, and_assoc]

/-- The count of a counter in a table. -/
def countIn (t : Table Usage) (c : Counter) : Int :=
  ((t.findFirst (Usage.isFor c.tenantId c.limitKey c.period)).map (·.count)).getD 0

section Table

variable {t t' : Table Usage} {c : Counter} {u : Usage}

theorem countIn_of_mem (hu : u ∈ t) (hc : u.counter = c) : countIn t c = u.count := by
  have hfound : t.findFirst (Usage.isFor c.tenantId c.limitKey c.period) = some u := by
    refine Table.findFirst_eq_some hu (Usage.isFor_iff.mpr hc) fun x hx hfor => ?_
    have hsame : x.counter = u.counter := (Usage.isFor_iff.mp hfor).trans hc.symm
    simp only [Usage.counter, Counter.mk.injEq] at hsame
    exact Table.eq_of_clash hx hu hsame
  rw [countIn, hfound]
  rfl

theorem countIn_of_none (h : ∀ u ∈ t, u.counter ≠ c) : countIn t c = 0 := by
  unfold countIn
  cases hfound : t.findFirst (Usage.isFor c.tenantId c.limitKey c.period) with
  | none => rfl
  | some u =>
      obtain ⟨hu, hfor⟩ := Table.findFirst_some hfound
      exact absurd (Usage.isFor_iff.mp hfor) (h u hu)

/-- A row that counts nothing yet changes no count. -/
theorem countIn_create {row : Nat → Usage} {hk} (h : t.create row hk = some t')
    (hrow : ∀ id, (row id).count = 0) (c : Counter) : countIn t' c = countIn t c := by
  by_cases hmem : ∃ u ∈ t, u.counter = c
  · obtain ⟨u, hu, hc⟩ := hmem
    rw [countIn_of_mem hu hc, countIn_of_mem ((Table.mem_create h).mpr (.inl hu)) hc]
  · have hnone : ∀ u ∈ t, u.counter ≠ c := fun u hu hc => hmem ⟨u, hu, hc⟩
    rw [countIn_of_none hnone]
    by_cases hnew : (row t.nextKey).counter = c
    · rw [countIn_of_mem ((Table.mem_create h).mpr (.inr rfl)) hnew, hrow]
    · refine countIn_of_none fun u hu => ?_
      obtain hold | rfl := (Table.mem_create h).mp hu
      · exact hnone u hold
      · exact hnew

/-- An update leaves the counters alone that it is not about. -/
theorem countIn_update {p : Usage → Bool} {f : Usage → Usage} {hf}
    (h : t.update p f hf = some t') (hcounter : ∀ u, (f u).counter = u.counter) (c : Counter) :
    (∃ u ∈ t, u.counter = c ∧ countIn t c = u.count ∧
      countIn t' c = if p u = true then (f u).count else u.count) ∨
    ((∀ u ∈ t, u.counter ≠ c) ∧ countIn t c = 0 ∧ countIn t' c = 0) := by
  have hkept : ∀ u : Usage, (if p u = true then f u else u).counter = u.counter := by
    intro u
    split
    · exact hcounter u
    · rfl
  by_cases hmem : ∃ u ∈ t, u.counter = c
  · obtain ⟨u, hu, hc⟩ := hmem
    have hu' : (if p u = true then f u else u) ∈ t' := (Table.mem_update h).mpr ⟨u, hu, rfl⟩
    refine .inl ⟨u, hu, hc, countIn_of_mem hu hc, ?_⟩
    rw [countIn_of_mem hu' ((hkept u).trans hc)]
    split <;> rfl
  · have hnone : ∀ u ∈ t, u.counter ≠ c := fun u hu hc => hmem ⟨u, hu, hc⟩
    refine .inr ⟨hnone, countIn_of_none hnone, countIn_of_none fun u hu => ?_⟩
    obtain ⟨u₀, hu₀, rfl⟩ := (Table.mem_update h).mp hu
    rw [hkept]
    exact hnone u₀ hu₀

end Table

section

variable {σ : Type} {usage : Slot σ Usage} (hget : ∀ s t, usage.get (usage.set t s) = t)
variable (hset : ∀ s t t', usage.set t' (usage.set t s) = usage.set t' s)
variable {s s' : σ} {tenantId : Nat} {limitKey : LimitKey} {period : String} {amount : Int}

theorem validateAmount_ok {r : Unit}
    (h : (validateAmount amount : Tx σ HttpError Unit) s = .ok (r, s')) : 0 ≤ amount ∧ s' = s := by
  unfold validateAmount at h
  split at h
  · cases h
  · cases h
    exact ⟨by omega, rfl⟩

theorem validatePeriod_ok {r : Unit}
    (h : (validatePeriod period : Tx σ HttpError Unit) s = .ok (r, s')) : s' = s := by
  unfold validatePeriod at h
  split at h
  · cases h
  · cases h
    rfl

theorem validateLimit_ok {limit : Option Int} {r : Unit}
    (h : (validateLimit limit : Tx σ HttpError Unit) s = .ok (r, s')) : s' = s := by
  unfold validateLimit at h
  split at h
  · cases h
    rfl
  · split at h
    · cases h
    · cases h
      rfl

theorem checkRange_ok {count : Int} {r : Unit}
    (h : (checkRange count amount : Tx σ HttpError Unit) s = .ok (r, s')) : s' = s := by
  unfold checkRange at h
  split at h
  · cases h
  · cases h
    rfl

theorem getUsage_ok {n : Int} (h : getUsage usage tenantId limitKey period s = .ok (n, s')) :
    n = countIn (usage.get s) ⟨tenantId, limitKey, period⟩ ∧ s' = s := by
  obtain ⟨_, s₁, hperiod, hread⟩ := Tx.bind_ok.mp h
  obtain rfl := validatePeriod_ok hperiod
  cases hread
  exact ⟨rfl, rfl⟩

/-- The table after a row has been made sure of: the counts are as before, and the row is
there. -/
theorem createOrIgnore_counter {r : Option Usage}
    (h : usage.createOrIgnore (ε := HttpError)
      (fun id => { id, tenantId, limitKey, period, count := 0 }) (fun _ => rfl) s = .ok (r, s')) :
    ∃ t, s' = usage.set t s ∧ (∀ c, countIn t c = countIn (usage.get s) c) ∧
      ∃ u ∈ t, u.counter = ⟨tenantId, limitKey, period⟩ := by
  unfold Slot.createOrIgnore at h
  split at h
  · next t ht =>
    cases h
    exact ⟨t, rfl, countIn_create ht fun _ => rfl, _, (Table.mem_create ht).mpr (.inr rfl), rfl⟩
  · next ht =>
    cases h
    obtain ⟨u, hu, hclash⟩ := Table.create_none ht
    refine ⟨usage.get s, (usage.set_get s).symm, fun _ => rfl, u, hu, ?_⟩
    simp only [Usage.counter, Counter.mk.injEq]
    exact hclash

theorem updateCounter {p : Usage → Bool} {f : Usage → Usage} {hf} {n : Nat}
    (h : usage.updateMany (ε := HttpError) p f hf s = .ok (n, s'))
    (hcounter : ∀ u, (f u).counter = u.counter)
    (hp : ∀ u, p u = true → u.counter = ⟨tenantId, limitKey, period⟩) :
    ∃ t, s' = usage.set t s ∧ (usage.get s).update p f hf = some t ∧
      (n = 1 ↔ ∃ u ∈ usage.get s, p u = true) ∧
      ∀ c, c ≠ ⟨tenantId, limitKey, period⟩ → countIn t c = countIn (usage.get s) c := by
  obtain ⟨t, ht, rfl, rfl⟩ := Slot.updateMany_ok h
  refine ⟨t, rfl, ht, Table.count_eq_one_of_unique fun a ha b hb hpa hpb => ?_, fun c hc => ?_⟩
  · have hsame : a.counter = b.counter := (hp a hpa).trans (hp b hpb).symm
    simp only [Usage.counter, Counter.mk.injEq] at hsame
    exact Table.eq_of_clash ha hb hsame
  · obtain ⟨u, hu, huc, hbefore, hafter⟩ | ⟨-, hbefore, hafter⟩ := countIn_update ht hcounter c
    · rw [hafter, hbefore, if_neg fun hpu => hc (huc.symm.trans (hp u hpu))]
    · rw [hafter, hbefore]

/-- The conditional update of a counter that has its row. -/
theorem increment_ok {limit : Option Int} {n : Nat}
    (hrow : ∃ u ∈ usage.get s, u.counter = ⟨tenantId, limitKey, period⟩)
    (h : increment usage tenantId limitKey period amount limit s = .ok (n, s')) :
    ∃ t, s' = usage.set t s ∧
      (∀ c, c ≠ ⟨tenantId, limitKey, period⟩ → countIn t c = countIn (usage.get s) c) ∧
      (n = 1 ∧ (∀ l ∈ limit, countIn t ⟨tenantId, limitKey, period⟩ ≤ l) ∧
          countIn t ⟨tenantId, limitKey, period⟩
            = countIn (usage.get s) ⟨tenantId, limitKey, period⟩ + amount ∨
        n ≠ 1 ∧ (∃ l ∈ limit, l < countIn (usage.get s) ⟨tenantId, limitKey, period⟩ + amount) ∧
          countIn t ⟨tenantId, limitKey, period⟩
            = countIn (usage.get s) ⟨tenantId, limitKey, period⟩) := by
  obtain ⟨count, s₁, hread, h₁⟩ := Tx.bind_ok.mp h
  cases hread
  obtain ⟨_, s₂, hrange, h₂⟩ := Tx.bind_ok.mp h₁
  obtain rfl := checkRange_ok hrange
  obtain ⟨t, rfl, ht, hn, hothers⟩ := updateCounter h₂ (fun u => rfl)
    fun u hu => Usage.isFor_iff.mp (Bool.and_eq_true_iff.mp hu).1
  refine ⟨t, rfl, hothers, ?_⟩
  obtain ⟨u, hu, huc, hbefore, hafter⟩ | ⟨hnone, -⟩ := countIn_update ht (fun u => rfl)
    ⟨tenantId, limitKey, period⟩
  · have hfor : u.isFor tenantId limitKey period = true := Usage.isFor_iff.mpr huc
    by_cases hfits : (limit.all fun limit => decide (u.count + amount ≤ limit)) = true
    · rw [hfor, hfits] at hafter
      refine .inl ⟨hn.mpr ⟨u, hu, by rw [hfor, hfits]; rfl⟩, fun l hl => ?_, ?_⟩
      · rw [Option.mem_def.mp hl] at hfits
        rw [hafter]
        simpa using hfits
      · rw [hafter, hbefore]
        rfl
    · rw [hfor] at hafter
      refine .inr ⟨fun hone => ?_, ?_, ?_⟩
      · obtain ⟨v, hv, hpv⟩ := hn.mp hone
        obtain ⟨hvfor, hvfits⟩ := Bool.and_eq_true_iff.mp hpv
        have hsame : v.counter = u.counter := (Usage.isFor_iff.mp hvfor).trans huc.symm
        simp only [Usage.counter, Counter.mk.injEq] at hsame
        exact hfits (Table.eq_of_clash hv hu hsame ▸ hvfits)
      · cases hl : limit with
        | none =>
            rw [hl] at hfits
            exact absurd rfl hfits
        | some l =>
            rw [hl] at hfits
            refine ⟨l, rfl, ?_⟩
            rw [hbefore]
            simpa using hfits
      · rw [hafter, hbefore, if_neg (by simpa using hfits)]
  · obtain ⟨u, hu, huc⟩ := hrow
    exact absurd huc (hnone u hu)

/-- What a reservation does to its counter, by its outcome. -/
inductive Reserves (c : Counter) (amount : Int) (limit : Option Int) (t t' : Table Usage) :
    ReservationOutcome → Prop
  | reserved {count : Int} (raised : countIn t' c = countIn t c + amount)
      (fits : ∀ l ∈ limit, countIn t' c ≤ l) : Reserves c amount limit t t' (.reserved count)
  | limitExceeded {count l : Int} (limited : limit = some l) (exceeds : l < countIn t c + amount)
      (same : countIn t' c = countIn t c) : Reserves c amount limit t t' (.limitExceeded count l)

include hget hset in
theorem reserve_ok {limit : Option Int} {outcome : ReservationOutcome}
    (h : reserve usage tenantId limitKey period amount limit s = .ok (outcome, s')) :
    0 ≤ amount ∧ ∃ t, s' = usage.set t s ∧
      (∀ c, c ≠ ⟨tenantId, limitKey, period⟩ → countIn t c = countIn (usage.get s) c) ∧
      Reserves ⟨tenantId, limitKey, period⟩ amount limit (usage.get s) t outcome := by
  obtain ⟨_, s₁, hperiod, h₁⟩ := Tx.bind_ok.mp h
  obtain rfl := validatePeriod_ok hperiod
  obtain ⟨_, s₂, hamount, h₂⟩ := Tx.bind_ok.mp h₁
  obtain ⟨hnonneg, rfl⟩ := validateAmount_ok hamount
  obtain ⟨_, s₃, hlimit, h₃⟩ := Tx.bind_ok.mp h₂
  obtain rfl := validateLimit_ok hlimit
  obtain ⟨_, s₄, hcreate, h₄⟩ := Tx.bind_ok.mp h₃
  obtain ⟨t, rfl, hsame, hrow⟩ := createOrIgnore_counter hcreate
  obtain ⟨n, s₅, hincrement, h₅⟩ := Tx.bind_ok.mp h₄
  rw [← hget s₃ t] at hrow
  obtain ⟨t', rfl, hothers, hcount⟩ := increment_ok hrow hincrement
  rw [hget] at hothers hcount
  obtain ⟨current, s₆, hcurrent, hdone⟩ := Tx.bind_ok.mp h₅
  obtain ⟨-, rfl⟩ := getUsage_ok hcurrent
  have hothers' : ∀ c, c ≠ ⟨tenantId, limitKey, period⟩ →
      countIn t' c = countIn (usage.get s₃) c := fun c hc => (hothers c hc).trans (hsame c)
  rw [hsame] at hcount
  obtain ⟨hone, hfits, hraised⟩ | ⟨hone, ⟨l, hl, hexceeds⟩, hkept⟩ := hcount
  · rw [if_pos hone] at hdone
    cases hdone
    exact ⟨hnonneg, t', hset _ _ _, hothers', .reserved hraised hfits⟩
  · rw [if_neg hone, Option.mem_def.mp hl] at hdone
    cases hdone
    exact ⟨hnonneg, t', hset _ _ _, hothers', .limitExceeded hl hexceeds hkept⟩

theorem decrement_ok {count : Int}
    (h : decrement usage tenantId limitKey period amount s = .ok (count, s')) :
    0 ≤ amount ∧ ∃ t, s' = usage.set t s ∧
      (∀ c, c ≠ ⟨tenantId, limitKey, period⟩ → countIn t c = countIn (usage.get s) c) ∧
      countIn t ⟨tenantId, limitKey, period⟩
        = max (countIn (usage.get s) ⟨tenantId, limitKey, period⟩ - amount) 0 := by
  obtain ⟨_, s₁, hperiod, h₁⟩ := Tx.bind_ok.mp h
  obtain rfl := validatePeriod_ok hperiod
  obtain ⟨_, s₂, hamount, h₂⟩ := Tx.bind_ok.mp h₁
  obtain ⟨hnonneg, rfl⟩ := validateAmount_ok hamount
  obtain ⟨n, s₃, hupdate, h₃⟩ := Tx.bind_ok.mp h₂
  obtain ⟨t, rfl, ht, -, hothers⟩ := updateCounter hupdate (fun u => rfl)
    fun u hu => Usage.isFor_iff.mp hu
  obtain ⟨-, rfl⟩ := getUsage_ok h₃
  refine ⟨hnonneg, t, rfl, hothers, ?_⟩
  obtain ⟨u, hu, huc, hbefore, hafter⟩ | ⟨-, hbefore, hafter⟩ := countIn_update ht (fun u => rfl)
    ⟨tenantId, limitKey, period⟩
  · rw [hafter, hbefore, if_pos (Usage.isFor_iff.mpr huc)]
  · rw [hafter, hbefore]
    omega

include hget hset in
/-- A limit that is asserted was not exceeded. -/
theorem assertLimit_ok {limit : ResolvedLimit} {named : Option String} {r : Unit}
    (h : assertLimit usage tenantId limitKey amount limit named s = .ok (r, s')) :
    ∃ period, resolvePeriod limitKey limit named s = .ok (period, s) ∧ 0 ≤ amount ∧
      ∃ t, s' = usage.set t s ∧
        (∀ c, c ≠ ⟨tenantId, limitKey, period⟩ → countIn t c = countIn (usage.get s) c) ∧
        countIn t ⟨tenantId, limitKey, period⟩
          = countIn (usage.get s) ⟨tenantId, limitKey, period⟩ + amount ∧
        ∀ l ∈ limit.value, countIn t ⟨tenantId, limitKey, period⟩ ≤ l := by
  obtain ⟨period, s₁, hperiod, h₁⟩ := Tx.bind_ok.mp h
  have hs : s₁ = s := by
    unfold resolvePeriod at hperiod
    split at hperiod
    · cases hnamed : named.filter (· ≠ "") with
      | none =>
          rw [hnamed] at hperiod
          cases hperiod
      | some period =>
          rw [hnamed] at hperiod
          cases hperiod
          rfl
    · cases hperiod
      rfl
  subst hs
  obtain ⟨outcome, s₂, hreserve, h₂⟩ := Tx.bind_ok.mp h₁
  obtain ⟨hnonneg, t, rfl, hothers, hreserves⟩ := reserve_ok hget hset hreserve
  cases hreserves with
  | reserved raised fits =>
      cases h₂
      exact ⟨period, hperiod, hnonneg, t, rfl, hothers, raised, fits⟩
  | limitExceeded limited exceeds same => cases h₂

end

end PrintForge
