import PrintForge.Concurrent.Process

/-!
# Work that is retried

An item of work is open until it is settled. A worker applies an open item and settles it in
one commit. When that fails the worker records the failure in a second commit, which may leave
the item open for another attempt, up to a number of attempts.

The second commit is made of what the worker saw in the first. Other workers may have been
quicker, so it may find the item settled. `settlesOnce` says what holds of all runs, and what
holds of the runs in which that does not come up: an item that has been settled stays as it is,
and is applied once.
-/

namespace Concurrent

variable {σ Req L ε α St : Type}

/-- An item of work in a shared state: its status and the number of its failed attempts, if it
is there. -/
structure Item (σ L St : Type) where
  view : σ → Option (St × Nat)
  isOpen : St → Bool
  maxAttempts : Nat
  /-- The label of the commit that applies the item. -/
  applies : L
  /-- The label of the commit that records a failure. -/
  records : L
  distinct : applies ≠ records

namespace Item

variable (I : Item σ L St)

def Open (s : σ) : Prop := ∃ st n, I.view s = some (st, n) ∧ I.isOpen st = true

def Settled (st : St) (s : σ) : Prop := ∃ n, I.view s = some (st, n) ∧ I.isOpen st = false

/-- No more attempts have failed than may, and fewer where the item is open. -/
def Bounded (s : σ) : Prop :=
  ∀ st n, I.view s = some (st, n) → n ≤ I.maxAttempts ∧ (I.isOpen st = true → n < I.maxAttempts)

/-- A commit that applies the item, or leaves it alone. -/
def Attempt (s s' : σ) : Prop :=
  I.view s' = I.view s ∨ ∃ st n st', I.view s = some (st, n) ∧ I.isOpen st = true ∧
    I.view s' = some (st', n) ∧ I.isOpen st' = false

/-- A commit that records a failure after `n` earlier ones, or leaves the item alone. -/
def Record (n : Nat) (s s' : σ) : Prop :=
  I.view s' = I.view s ∨ ∃ st m st' m', I.view s = some (st, m) ∧ I.view s' = some (st', m') ∧
    (m' = n + 1 ∨ m' = m ∧ I.isOpen st' = false) ∧ (I.isOpen st' = true → n + 1 < I.maxAttempts)

/-- A process that treats the item as a worker does, or leaves it alone. -/
inductive Minds : Proc σ L ε α → Prop
  | done (r : Except ε α) : Minds (.done r)
  | query {next : σ → Proc σ L ε α} (h : ∀ s, Minds (next s)) : Minds (.query next)
  | attempt {ℓ : L} {upd : σ → σ} {next : σ → Proc σ L ε α} (hℓ : ℓ ≠ I.records)
      (hupd : ∀ s, I.Attempt s (upd s)) (h : ∀ s, I.Bounded s → Minds (next s)) :
      Minds (.commit ℓ upd next)
  | record {upd : σ → σ} {next : σ → Proc σ L ε α} (n : Nat) (hn : n < I.maxAttempts)
      (hupd : ∀ s, I.Record n s (upd s)) (h : ∀ s, Minds (next s)) :
      Minds (.commit I.records upd next)

variable {I} {s s' : σ}

theorem Attempt.bounded (h : I.Attempt s s') (hs : I.Bounded s) : I.Bounded s' := by
  intro st n hview
  obtain hsame | ⟨st₀, n₀, st', hview₀, -, hview', hclosed⟩ := h
  · exact hs st n (hsame ▸ hview)
  · cases hview'.symm.trans hview
    refine ⟨(hs st₀ n hview₀).1, fun hopen => ?_⟩
    rw [hclosed] at hopen
    cases hopen

theorem Record.bounded {n : Nat} (h : I.Record n s s') (hn : n < I.maxAttempts)
    (hs : I.Bounded s) : I.Bounded s' := by
  intro st m hview
  obtain hsame | ⟨st₀, m₀, st', m', hview₀, hview', hcount, hopen⟩ := h
  · exact hs st m (hsame ▸ hview)
  · cases hview'.symm.trans hview
    obtain rfl | ⟨rfl, hclosed⟩ := hcount
    · exact ⟨hn, hopen⟩
    · refine ⟨(hs st₀ m hview₀).1, fun h => ?_⟩
      rw [hclosed] at h
      cases h

/-- An attempt at an item that has been settled leaves it alone. -/
theorem Attempt.settled {st : St} (h : I.Attempt s s') (hs : I.Settled st s) :
    I.Settled st s' := by
  obtain ⟨n, hview, hclosed⟩ := hs
  obtain hsame | ⟨st₀, n₀, -, hview₀, hopen, -⟩ := h
  · exact ⟨n, hsame.trans hview, hclosed⟩
  · cases hview.symm.trans hview₀
    rw [hclosed] at hopen
    cases hopen

theorem Settled.not_open {st : St} (h : I.Settled st s) : ¬ I.Open s := by
  rintro ⟨st', n', hview', hopen⟩
  obtain ⟨n, hview, hclosed⟩ := h
  cases hview.symm.trans hview'
  rw [hclosed] at hopen
  cases hopen

/-! ## Processes put together -/

section Processes

variable {γ δ : Type}

theorem Minds.finish {p : Proc σ L ε α} {k : Except ε α → Proc σ L ε γ} (h : I.Minds p)
    (hk : ∀ r, I.Minds (k r)) : I.Minds (p.finish k) := by
  induction h with
  | done r => exact hk r
  | query _ ih => exact .query ih
  | attempt hℓ hupd _ ih => exact .attempt hℓ hupd ih
  | record n hn hupd _ ih => exact .record n hn hupd ih

theorem Minds.bind {p : Proc σ L ε α} {f : α → Proc σ L ε γ} (h : I.Minds p)
    (hf : ∀ a, I.Minds (f a)) : I.Minds (p >>= f) := by
  refine h.finish fun r => ?_
  cases r with
  | ok a => exact hf a
  | error e => exact .done _

theorem Minds.tryCatch {p : Proc σ L ε α} {f : ε → Proc σ L ε α} (h : I.Minds p)
    (hf : ∀ e, I.Minds (f e)) : I.Minds (tryCatch p f) := by
  refine h.finish fun r => ?_
  cases r with
  | ok a => exact .done _
  | error e => exact hf e

/-- A transaction that records a failure. -/
theorem minds_transact {tx : StateT σ (Except ε) α} {n : Nat} (hn : n < I.maxAttempts)
    (htx : ∀ s a s', tx s = .ok (a, s') → I.Record n s s') :
    I.Minds (Proc.transact I.records tx) := by
  refine .record n hn (fun s => ?_) fun s => ?_
  · cases h : tx s with
    | ok r => exact htx s r.1 r.2 h
    | error e => exact .inl rfl
  · cases tx s with
    | ok r => exact .done _
    | error e => exact .done _

/-- A transaction that attempts the item. What follows knows what was seen in it. -/
theorem minds_attempt_bind {ℓ : L} {seen : σ → δ} {tx : StateT σ (Except ε) α}
    {k : δ × Except ε α → Proc σ L ε γ} (hℓ : ℓ ≠ I.records)
    (htx : ∀ s a s', tx s = .ok (a, s') → I.Attempt s s')
    (hk : ∀ s r, I.Bounded s → I.Minds (k (seen s, r))) :
    I.Minds (Proc.attempt ℓ seen tx >>= k) := by
  refine .attempt hℓ (fun s => ?_) fun s hs => ?_
  · cases h : tx s with
    | ok r => exact htx s r.1 r.2 h
    | error e => exact .inl rfl
  · dsimp only
    cases tx s with
    | ok r => exact hk s (.ok r.1) hs
    | error e => exact hk s (.error e) hs

end Processes

/-! ## Runs -/

/-- The bound holds, and everything in flight treats the item as a worker does. -/
structure Minded (I : Item σ L St) (c : Config σ Req L ε α) : Prop where
  bounded : I.Bounded c.state
  flights : ∀ f ∈ c.flights, I.Minds f.2

section Runs

variable {handle : Nat → Req → Proc σ L ε α} {adm : Req → σ → Prop} {ok : L → σ → Prop}
variable {c c' : Config σ Req L ε α}

/-- A failure is recorded only while the item is open. -/
def Considerate (I : Item σ L St) (ℓ : L) (s : σ) : Prop := ℓ = I.records → I.Open s

theorem Minds.step {p p' : Proc σ L ε α} (h : I.Minds p) (hs : I.Bounded s)
    (hp : p.step s = some (p', s')) :
    I.Minds p' ∧ I.Bounded s' ∧
      ∀ st, (∀ ℓ, p.label = some ℓ → I.Considerate ℓ s) → I.Settled st s → I.Settled st s' := by
  cases h with
  | done r => cases hp
  | query h =>
      cases hp
      exact ⟨h s, hs, fun _ _ h => h⟩
  | attempt hℓ hupd h =>
      cases hp
      exact ⟨h s hs, (hupd s).bounded hs, fun _ _ hst => (hupd s).settled hst⟩
  | record n hn hupd h =>
      cases hp
      refine ⟨h s, (hupd s).bounded hn hs, fun st hok hst => ?_⟩
      exact absurd (hok _ rfl rfl) hst.not_open

theorem Minded.step (hserve : ∀ i req s, adm req s → I.Minds (handle i req)) (h : I.Minded c)
    (hstep : Step handle adm ok c c') :
    I.Minded c' ∧ ∀ st, (∀ ℓ s, ok ℓ s → I.Considerate ℓ s) → I.Settled st c.state →
      I.Settled st c'.state := by
  cases hstep with
  | accept req hadm =>
      refine ⟨⟨h.bounded, fun f hf => ?_⟩, fun _ _ hst => hst⟩
      obtain hf | hf := List.mem_append.mp hf
      · exact h.flights f hf
      · rw [List.mem_singleton.mp hf]
        exact hserve _ req c.state hadm
  | @advance i req p p' s' hi hp hok =>
      obtain ⟨hminds, hbounded, hsettled⟩ :=
        (h.flights _ (List.mem_of_getElem? hi)).step h.bounded hp
      refine ⟨⟨hbounded, fun f hf => ?_⟩, fun st hcons hst => ?_⟩
      · obtain hf | rfl := List.mem_or_eq_of_mem_set hf
        · exact h.flights f hf
        · exact hminds
      · exact hsettled st (fun ℓ hℓ => hcons ℓ _ (hok ℓ hℓ)) hst

theorem Minded.run (hserve : ∀ i req s, adm req s → I.Minds (handle i req)) (h : I.Minded c)
    (hrun : Run handle adm ok c c') :
    I.Minded c' ∧ ∀ st, (∀ ℓ s, ok ℓ s → I.Considerate ℓ s) → I.Settled st c.state →
      I.Settled st c'.state := by
  induction hrun with
  | refl => exact ⟨h, fun _ _ hst => hst⟩
  | tail _ hstep ih =>
      obtain ⟨hminded, hsettled⟩ := ih
      obtain ⟨hminded', hsettled'⟩ := hminded.step hserve hstep
      exact ⟨hminded', fun st hcons hst => hsettled' st hcons (hsettled st hcons hst)⟩

/-- The step in which the item is applied. -/
def Applied (I : Item σ L St) (c c' : Config σ Req L ε α) : Prop :=
  ∃ i req p, c.flights[i]? = some (req, p) ∧ p.label = some I.applies ∧
    Advances (fun _ _ => True) i c c' ∧ I.Open c.state ∧ ∃ st, I.Settled st c'.state

variable (I handle adm) in
/-- What is promised of an item that is being worked on from `c₀` on. -/
structure SettlesOnce (c₀ : Config σ Req L ε α) : Prop where
  /-- In every run the number of failed attempts stays within its bound. -/
  bounded : ∀ c, Run handle adm (fun _ _ => True) c₀ c → I.Bounded c.state
  /-- Where failures are recorded on open items only, what is settled stays so. -/
  final : ∀ c c' st, Run handle adm I.Considerate c₀ c → I.Settled st c.state →
    Run handle adm I.Considerate c c' → I.Settled st c'.state
  /-- In such runs the item is not applied twice. -/
  once : ∀ a b a' b', Run handle adm I.Considerate c₀ a → I.Applied a b →
    Run handle adm I.Considerate b a' → ¬ I.Applied a' b'

theorem settlesOnce {c₀ : Config σ Req L ε α}
    (hserve : ∀ i req s, adm req s → I.Minds (handle i req)) (h : I.Minded c₀) :
    I.SettlesOnce handle adm c₀ where
  bounded _ hrun := (h.run hserve hrun).1.bounded
  final _ _ st hbefore hst hrun :=
    ((h.run hserve hbefore).1.run hserve hrun).2 st (fun _ _ hok => hok) hst
  once := by
    intro a b a' b' hbefore happlied hrun happlied'
    obtain ⟨i, req, p, -, -, hadvance, -, st, hst⟩ := happlied
    obtain ⟨-, -, -, -, -, -, hopen, -⟩ := happlied'
    have hstep : Step handle adm (fun _ _ => True) a b := hadvance.step
    have hb : I.Minded b := ((h.run hserve hbefore).1.step hserve hstep).1
    exact ((hb.run hserve hrun).2 st (fun _ _ hok => hok) hst).not_open hopen

end Runs

/-! ## Workers on one item -/

/-- What goes on around an item: work on it, and anything that leaves it alone. -/
inductive Activity (σ L Req : Type) where
  | work (req : Req)
  | other (ℓ : L) (upd : σ → σ)

def Activity.serve (work : Req → Proc σ L ε Unit) : Activity σ L Req → Proc σ L ε Unit
  | .work req => work req
  | .other ℓ upd => .commit ℓ upd fun _ => .done (.ok ())

/-- What is no work on the item neither rewrites it nor records its failures. -/
def Around (I : Item σ L St) : Activity σ L Req → Prop
  | .work _ => True
  | .other ℓ upd => ℓ ≠ I.records ∧ ∀ s, I.view (upd s) = I.view s

/-- Any number of workers on one item, among anything else. -/
theorem settlesOnce_around {work : Req → Proc σ L ε Unit} (hwork : ∀ req, I.Minds (work req))
    (hs : I.Bounded s) :
    I.SettlesOnce (fun _ => Activity.serve work) (fun act _ => I.Around act) ⟨s, []⟩ := by
  refine settlesOnce (fun i act s hact => ?_) ⟨hs, fun f hf => absurd hf List.not_mem_nil⟩
  cases act with
  | work req => exact hwork req
  | other ℓ upd => exact .attempt hact.1 (fun s => .inl (hact.2 s)) fun _ _ => .done _

end Item

end Concurrent
