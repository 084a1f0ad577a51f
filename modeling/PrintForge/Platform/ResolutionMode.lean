import PrintForge.Common.Basic
import PrintForge.Concurrent.Discipline

/-!
# The switch of the resolution mode

One row of the platform's configuration says how storefronts are resolved. A process keeps what it
has read of it for a while, and for as long keeps away from a row that it could not read; what it
has ever read of a valid row it serves in the meantime. A change of the row through the service
empties both caches and leaves the last valid mode as it is.

The row is read between two actions of the process, so that a change may come in between. The
state has the row, what the process keeps, and the clock; besides, it lists what reads of the row
have found. Whether the database fails a request comes with the request.
-/

namespace PrintForge.ResolutionMode

open Relational Concurrent

inductive StorefrontResolutionMode where
  | legacySingleStore
  | hostResolution
deriving DecidableEq, Repr

namespace StorefrontResolutionMode

def text : StorefrontResolutionMode → String
  | legacySingleStore => "legacy_single_store"
  | hostResolution => "host_resolution"

/-- The mode that a stored value is, if it is one. -/
def ofText (value : String) : Option StorefrontResolutionMode :=
  if value = "legacy_single_store" then some legacySingleStore
  else if value = "host_resolution" then some hostResolution
  else none

@[simp] theorem ofText_text (mode : StorefrontResolutionMode) : ofText mode.text = some mode := by
  cases mode <;> rfl

end StorefrontResolutionMode

def defaultStorefrontResolutionMode : StorefrontResolutionMode := .legacySingleStore

inductive StorefrontResolutionModeSource where
  | row
  | default
  | lastKnownValid
deriving DecidableEq, Repr

structure EffectiveStorefrontResolutionMode where
  mode : StorefrontResolutionMode
  source : StorefrontResolutionModeSource
deriving DecidableEq, Repr

structure CachedRead where
  value : EffectiveStorefrontResolutionMode
  expiresAt : Int
deriving DecidableEq, Repr

structure ModeWorld where
  row : Option String
  cached : Option CachedRead
  failureUntil : Option Int
  lastKnownValid : Option EffectiveStorefrontResolutionMode
  now : Int
  reads : List (Option String)

/-- The actions. What is accepted is listed with its value, a write with what it leaves. -/
inductive ModeCommit where
  | read
  | accept (value : EffectiveStorefrontResolutionMode)
  | recordFailure
  | write (row : Option String)
  | bust
  | tick

abbrev ModeTransaction := Tx ModeWorld HttpError

abbrev ModeService := Proc ModeWorld ModeCommit HttpError

def storefrontResolutionModeCacheTtlMs : Int := 10000

def storefrontResolutionModeUnavailable : HttpError :=
  .other ("Storefront domain-resolution mode is unavailable — the platform configuration is " ++
    "invalid or unreadable and no last-known valid mode exists")

/-! ## The service -/

/-- What a row reads as, or that there is none; nothing where the value is invalid. -/
def valueOf : Option String → Option EffectiveStorefrontResolutionMode
  | none => some ⟨defaultStorefrontResolutionMode, .default⟩
  | some value => (StorefrontResolutionMode.ofText value).map (⟨·, .row⟩)

def bust : ModeTransaction Unit :=
  modify fun s => { s with cached := none, failureUntil := none }

/-- `now` is the time at which the request began. -/
def accept (value : EffectiveStorefrontResolutionMode) (now : Int) :
    ModeTransaction EffectiveStorefrontResolutionMode := fun s =>
  .ok (value, { s with
    cached := some ⟨value, now + storefrontResolutionModeCacheTtlMs⟩
    failureUntil := none
    lastKnownValid := some value })

def recordFailure : ModeTransaction Unit :=
  modify fun s => { s with
    cached := none
    failureUntil := some (s.now + storefrontResolutionModeCacheTtlMs) }

def serveDegraded (s : ModeWorld) : Except HttpError EffectiveStorefrontResolutionMode :=
  match s.lastKnownValid with
  | some value => .ok ⟨value.mode, .lastKnownValid⟩
  | none => .error storefrontResolutionModeUnavailable

/-- The time, and the answer if the row is not to be read. -/
def consult (s : ModeWorld) :
    Int × Option (Except HttpError EffectiveStorefrontResolutionMode) :=
  (s.now,
    match s.cached.filter fun cached => s.now < cached.expiresAt with
    | some cached => some (.ok cached.value)
    | none =>
        if s.failureUntil.any fun expiry => s.now < expiry then some (serveDegraded s)
        else none)

/-- What the database finds, unless it fails. -/
def findStored (fails : Bool) : ModeTransaction (Option (Option String)) := fun s =>
  if fails then .ok (none, s) else .ok (some s.row, { s with reads := s.row :: s.reads })

/-- Record a failure and serve what is left, in one action. -/
def degrade : ModeService EffectiveStorefrontResolutionMode := do
  let answer ← Proc.transact .recordFailure do
    recordFailure
    return serveDegraded (← get)
  .done answer

def getMode (fails : Bool) : ModeService EffectiveStorefrontResolutionMode := do
  let (now, known) ← Proc.read consult
  match known with
  | some answer => .done answer
  | none => do
      let stored ← Proc.transact .read (findStored fails)
      match stored.bind valueOf with
      | some value => Proc.transact (.accept value) (accept value now)
      | none => degrade

def setMode (value : String) (fails : Bool) : ModeService EffectiveStorefrontResolutionMode := do
  match StorefrontResolutionMode.ofText value with
  | none => throw (.badRequest "mode must be one of legacy_single_store, host_resolution")
  | some mode => do
      Proc.transact (.write (some value)) do
        if fails then throw (.other "the transaction was rolled back")
        modify fun s : ModeWorld => { s with row := some value }
      Proc.transact .bust bust
      return ⟨mode, .row⟩

/-- A direct edit of the row, or its removal, and time that passes. -/
inductive ModeRequest where
  | getMode (fails : Bool)
  | setMode (value : String) (fails : Bool)
  | edit (row : Option String)
  | tick (elapsed : Nat)
deriving DecidableEq

def serveMode : ModeRequest → ModeService (Option EffectiveStorefrontResolutionMode)
  | .getMode fails => some <$> getMode fails
  | .setMode value fails => some <$> setMode value fails
  | .edit row => do
      Proc.transact (.write row) (modify fun s : ModeWorld => { s with row })
      return none
  | .tick elapsed => do
      Proc.transact .tick (modify fun s : ModeWorld => { s with now := s.now + elapsed })
      return none

abbrev ModeConfig :=
  Config ModeWorld ModeRequest ModeCommit HttpError (Option EffectiveStorefrontResolutionMode)

abbrev ModeRun (ok : ModeCommit → ModeWorld → Prop) : ModeConfig → ModeConfig → Prop :=
  Run (fun _ => serveMode) (fun _ _ => True) ok

/-! ## What is returned has been read -/

/-- The value is what a read has found, or its mode is served when no read has an answer. -/
def Backed (s : ModeWorld) (value : EffectiveStorefrontResolutionMode) : Prop :=
  ∃ stored ∈ s.reads, ∃ found, valueOf stored = some found ∧
    (value = found ∨ value = ⟨found.mode, .lastKnownValid⟩)

/-- So is everything that the process keeps. -/
structure Founded (s : ModeWorld) : Prop where
  cached : ∀ cached ∈ s.cached, Backed s cached.value
  lastKnownValid : ∀ value ∈ s.lastKnownValid, Backed s value

theorem Backed.mono {s s' : ModeWorld} {value : EffectiveStorefrontResolutionMode}
    (h : Backed s value) (hreads : s.reads ⊆ s'.reads) : Backed s' value := by
  obtain ⟨stored, hstored, hfound⟩ := h
  exact ⟨stored, hreads hstored, hfound⟩

/-- A value that is served as the last valid one is backed by the same read. -/
theorem Backed.degraded {s : ModeWorld} {value : EffectiveStorefrontResolutionMode}
    (h : Backed s value) : Backed s ⟨value.mode, .lastKnownValid⟩ := by
  obtain ⟨stored, hstored, found, hfound, hvalue⟩ := h
  have hmode : value.mode = found.mode := by
    obtain rfl | rfl := hvalue <;> rfl
  exact ⟨stored, hstored, found, hfound, .inr (by rw [hmode])⟩

def readsDiscipline : Discipline ModeWorld ModeCommit where
  inv := Founded
  ok _ _ := True
  rely _ s s' := s.reads ⊆ s'.reads
  guar _ _ s s' := s.reads ⊆ s'.reads ∧ Founded s'
  rely_refl _ s := List.Subset.refl s.reads
  rely_trans h h' := List.Subset.trans h h'
  inv_guar _ _ h := h.2
  rely_guar _ _ _ h := h.1

section Reads

variable {i : Nat} {s : ModeWorld}

theorem serveDegraded_backed {value : EffectiveStorefrontResolutionMode} (hs : Founded s)
    (h : serveDegraded s = .ok value) : Backed s value := by
  unfold serveDegraded at h
  split at h
  · next known hknown =>
    cases h
    exact (hs.lastKnownValid known hknown).degraded
  · cases h

theorem consult_backed {value : EffectiveStorefrontResolutionMode} (hs : Founded s)
    (h : (consult s).2 = some (.ok value)) : Backed s value := by
  unfold consult at h
  dsimp only at h
  split at h
  · next cached hcached =>
    cases h
    exact hs.cached cached (Option.eq_some_of_filter_eq_some hcached)
  · split at h
    · exact serveDegraded_backed hs (Option.some.inj h)
    · cases h

theorem safe_degrade :
    readsDiscipline.Safe i (Discipline.Returns fun value s => Backed s value) degrade s := by
  intro s₁ _ hs₁ _
  refine ⟨⟨List.Subset.refl _, nofun, hs₁.lastKnownValid⟩, ?_⟩
  refine Discipline.safe_done fun s₂ hreads _ value hvalue => ?_
  exact (serveDegraded_backed (s := s₁) hs₁ hvalue).mono hreads

theorem safe_getMode (fails : Bool) :
    readsDiscipline.Safe i (Discipline.Returns fun value s => Backed s value) (getMode fails)
      s := by
  refine Discipline.safe_read fun s₁ _ hs₁ => ?_
  have hconsult : ∀ value, (consult s₁).2 = some (.ok value) → Backed s₁ value :=
    fun _ => consult_backed hs₁
  revert hconsult
  generalize consult s₁ = looked
  obtain ⟨now, known⟩ := looked
  intro hconsult
  cases known with
  | some answer =>
      refine Discipline.safe_done fun s₂ hreads _ value hvalue => ?_
      exact (hconsult value (by rw [hvalue])).mono hreads
  | none =>
      refine Discipline.safe_transact (fun s₂ stored s₃ _ hs₂ _ hread => ?_)
        fun s₂ e _ _ _ herr => ?_
      · have hreads : s₂.reads ⊆ s₃.reads ∧ s₃.cached = s₂.cached ∧
            s₃.lastKnownValid = s₂.lastKnownValid ∧ ∀ row ∈ stored, row ∈ s₃.reads := by
          cases fails with
          | true =>
              cases hread
              exact ⟨List.Subset.refl _, rfl, rfl, nofun⟩
          | false =>
              cases hread
              exact ⟨List.subset_cons_self .., rfl, rfl, fun row hrow => by
                cases hrow
                exact List.mem_cons_self⟩
        obtain ⟨hsub, hcached, hlast, hstored⟩ := hreads
        have hs₃ : Founded s₃ :=
          ⟨fun cached h => (hs₂.cached cached (hcached ▸ h)).mono hsub,
            fun value h => (hs₂.lastKnownValid value (hlast ▸ h)).mono hsub⟩
        refine ⟨⟨hsub, hs₃⟩, fun _ => ?_⟩
        change readsDiscipline.Safe i _ (match stored.bind valueOf with
          | some value => Proc.transact (.accept value) (accept value now)
          | none => degrade) s₃
        cases hvalue : stored.bind valueOf with
        | none => exact safe_degrade
        | some value =>
            obtain ⟨row, hrow, hfound⟩ := Option.bind_eq_some_iff.mp hvalue
            have hbacked : Backed s₃ value := ⟨row, hstored row hrow, value, hfound, .inl rfl⟩
            intro s₄ hreads₄ hs₄ _
            have hbacked₄ : Backed s₄ value := hbacked.mono hreads₄
            refine ⟨⟨List.Subset.refl _, ?_, ?_⟩, ?_⟩
            · intro cached hc
              cases hc
              exact hbacked₄
            · intro value' hv
              cases hv
              exact hbacked₄
            · refine Discipline.safe_done fun s₅ hreads₅ _ value' hv => ?_
              cases hv
              exact hbacked₄.mono hreads₅
      · cases fails <;> cases herr

/-- What the other requests do to what the process keeps. -/
def Keeps (_ : ModeCommit) (s s' : ModeWorld) : Prop :=
  s'.reads = s.reads ∧ s'.lastKnownValid = s.lastKnownValid ∧
    (s'.cached = s.cached ∨ s'.cached = none)

theorem keeps_setMode (value : String) (fails : Bool) : (setMode value fails).Within Keeps := by
  unfold setMode
  split
  · trivial
  · refine Proc.Within.bind ?_ fun _ => Proc.Within.bind ?_ fun _ => Proc.within_pure _
    · refine Proc.within_transact (fun _ => ⟨rfl, rfl, .inl rfl⟩) fun s a s' h => ?_
      cases fails with
      | true => cases h
      | false =>
          cases h
          exact ⟨rfl, rfl, .inl rfl⟩
    · refine Proc.within_transact (fun _ => ⟨rfl, rfl, .inl rfl⟩) fun s a s' h => ?_
      cases h
      exact ⟨rfl, rfl, .inr rfl⟩

theorem safe_of_keeps {α : Type} {p : ModeService α} (h : p.Within Keeps) :
    readsDiscipline.Safe i (fun _ _ => True) p s := by
  refine Discipline.safe_of_within h fun _ s s' hs _ hkeeps => ?_
  obtain ⟨hreads, hlast, hcached⟩ := hkeeps
  have hsub : s.reads ⊆ s'.reads := by rw [hreads]; exact List.Subset.refl _
  refine ⟨hsub, fun cached h => ?_, fun value h => ?_⟩
  · obtain hsame | hnone := hcached
    · exact (hs.cached cached (hsame ▸ h)).mono hsub
    · rw [hnone] at h
      cases h
  · exact (hs.lastKnownValid value (hlast ▸ h)).mono hsub

/-- What is said of the answer to a question for the mode. -/
def Answers (P : EffectiveStorefrontResolutionMode → ModeWorld → Prop) (req : ModeRequest)
    (s : ModeWorld) (r : Except HttpError (Option EffectiveStorefrontResolutionMode)) : Prop :=
  ∀ fails value, req = .getMode fails → r = .ok (some value) → P value s

theorem safe_serveReads (req : ModeRequest) :
    readsDiscipline.Safe i (Answers (fun value s => Backed s value) req) (serveMode req) s := by
  cases req with
  | getMode fails =>
      rw [serveMode, Proc.map_def]
      refine (safe_getMode fails).map fun s₁ r hr => ?_
      intro _ value _ hvalue
      cases r with
      | error e => cases hvalue
      | ok value' =>
          cases hvalue
          exact hr _ rfl
  | setMode value fails =>
      have hkeeps : (serveMode (.setMode value fails)).Within Keeps := by
        rw [serveMode, Proc.map_def]
        exact (keeps_setMode value fails).finish fun _ => trivial
      exact (safe_of_keeps hkeeps).mono_post fun _ _ _ _ _ h => by cases h
  | edit row =>
      have hkeeps : (serveMode (.edit row)).Within Keeps :=
        Proc.Within.bind (Proc.within_transact (fun _ => ⟨rfl, rfl, .inl rfl⟩) fun s a s' h => by
          cases h
          exact ⟨rfl, rfl, .inl rfl⟩) fun _ => Proc.within_pure _
      exact (safe_of_keeps hkeeps).mono_post fun _ _ _ _ _ h => by cases h
  | tick elapsed =>
      have hkeeps : (serveMode (.tick elapsed)).Within Keeps :=
        Proc.Within.bind (Proc.within_transact (fun _ => ⟨rfl, rfl, .inl rfl⟩) fun s a s' h => by
          cases h
          exact ⟨rfl, rfl, .inl rfl⟩) fun _ => Proc.within_pure _
      exact (safe_of_keeps hkeeps).mono_post fun _ _ _ _ _ h => by cases h

end Reads

/-- A process that has just started has read nothing. -/
structure Fresh (s : ModeWorld) : Prop where
  cached : s.cached = none
  failureUntil : s.failureUntil = none
  lastKnownValid : s.lastKnownValid = none
  reads : s.reads = []

theorem Fresh.founded {s : ModeWorld} (h : Fresh s) : Founded s := by
  constructor
  · intro cached hc
    rw [h.cached] at hc
    cases hc
  · intro value hv
    rw [h.lastKnownValid] at hv
    cases hv

/-- Every mode that is returned has been read of a valid row, or of none. -/
theorem answers_backed {w : ModeWorld} {c : ModeConfig} {i : Nat} {fails : Bool}
    {value : EffectiveStorefrontResolutionMode} (hfresh : Fresh w)
    (hrun : ModeRun (fun _ _ => True) ⟨w, []⟩ c)
    (h : c.flights[i]? = some (.getMode fails, .done (.ok (some value)))) :
    Backed c.state value := by
  have hholds : readsDiscipline.Holds
      (fun _ req => Answers (fun value s => Backed s value) req) c :=
    (Discipline.holds_idle hfresh.founded).run (Nat.zero_le _)
      (fun i req s _ _ _ => safe_serveReads req) hrun
  exact hholds.outcome h fails value rfl rfl

/-! ## A change of the row takes effect -/

/-- What an action does to the row and the caches. -/
def Effect : ModeCommit → ModeWorld → ModeWorld → Prop
  | .read, s, s' | .tick, s, s' =>
      s'.row = s.row ∧ s'.cached = s.cached ∧ s'.failureUntil = s.failureUntil ∧
        s'.lastKnownValid = s.lastKnownValid
  | .accept value, s, s' => s'.row = s.row ∧ s'.failureUntil = none ∧
      (∀ cached ∈ s'.cached, cached.value = value) ∧ s'.lastKnownValid = some value
  | .recordFailure, s, s' =>
      s'.row = s.row ∧ s'.cached = none ∧ s'.lastKnownValid = s.lastKnownValid
  | .write row, s, s' => (s'.row = row ∨ s'.row = s.row) ∧ s'.cached = s.cached ∧
      s'.failureUntil = s.failureUntil ∧ s'.lastKnownValid = s.lastKnownValid
  | .bust, s, s' => s'.row = s.row ∧ s'.cached = none ∧ s'.failureUntil = none ∧
      s'.lastKnownValid = s.lastKnownValid

/-- The row stays as it is. A value that the row does not have is accepted only if `stale` says
that it may be, and a failure recorded only if `failures` does. -/
def Undisturbed (stale failures : Bool) : ModeCommit → ModeWorld → Prop
  | .accept value, s => stale = true ∨ valueOf s.row = some value
  | .recordFailure, _ => failures = true
  | .write row, s => row = s.row
  | .read, _ | .bust, _ | .tick, _ => True

/-- The row has the mode, and no cache says otherwise. The last valid value is still `known`, or
has the mode, too. -/
structure Settled (mode : StorefrontResolutionMode) (failures : Bool)
    (known : Option EffectiveStorefrontResolutionMode) (s : ModeWorld) : Prop where
  row : s.row = some mode.text
  cached : ∀ cached ∈ s.cached, cached.value = ⟨mode, .row⟩
  failureUntil : failures = false → s.failureUntil = none
  lastKnownValid : s.lastKnownValid = known ∨ s.lastKnownValid = some ⟨mode, .row⟩

section Settled

variable {mode : StorefrontResolutionMode} {failures : Bool} {s s' : ModeWorld} {i : Nat}
variable {known : Option EffectiveStorefrontResolutionMode}

theorem valueOf_text : valueOf (some mode.text) = some ⟨mode, .row⟩ := by
  rw [valueOf, StorefrontResolutionMode.ofText_text]
  rfl

theorem Settled.act (h : Settled mode failures known s) (ℓ : ModeCommit) (heffect : Effect ℓ s s')
    (hok : Undisturbed false failures ℓ s) : Settled mode failures known s' := by
  cases ℓ with
  | read | tick =>
      obtain ⟨hrow, hcached, hfailure, hlast⟩ := heffect
      exact ⟨hrow ▸ h.row, hcached ▸ h.cached, hfailure ▸ h.failureUntil,
        hlast ▸ h.lastKnownValid⟩
  | accept value =>
      obtain ⟨hrow, hfailure, hcached, hlast⟩ := heffect
      have hvalue : value = ⟨mode, .row⟩ := by
        obtain hstale | hfound := hok
        · cases hstale
        · rw [h.row, valueOf_text] at hfound
          exact (Option.some.inj hfound).symm
      exact ⟨hrow ▸ h.row, fun cached hc => (hcached cached hc).trans hvalue, fun _ => hfailure,
        .inr (hlast.trans (congrArg some hvalue))⟩
  | recordFailure =>
      obtain ⟨hrow, hcached, hlast⟩ := heffect
      refine ⟨hrow ▸ h.row, fun cached hc => ?_, fun hnone => ?_, hlast ▸ h.lastKnownValid⟩
      · rw [hcached] at hc
        cases hc
      · exact absurd (hok.symm.trans hnone) Bool.true_eq_false_eq_False
  | write row =>
      obtain ⟨hrow, hcached, hfailure, hlast⟩ := heffect
      refine ⟨?_, hcached ▸ h.cached, hfailure ▸ h.failureUntil, hlast ▸ h.lastKnownValid⟩
      obtain hwritten | hsame := hrow
      · rw [hwritten, hok, h.row]
      · rw [hsame, h.row]
  | bust =>
      obtain ⟨hrow, hcached, hfailure, hlast⟩ := heffect
      refine ⟨hrow ▸ h.row, fun cached hc => ?_, fun _ => hfailure, hlast ▸ h.lastKnownValid⟩
      rw [hcached] at hc
      cases hc

def settledDiscipline (mode : StorefrontResolutionMode) (failures : Bool)
    (known : Option EffectiveStorefrontResolutionMode) : Discipline ModeWorld ModeCommit where
  inv := Settled mode failures known
  ok := Undisturbed false failures
  rely _ _ _ := True
  guar _ _ _ s' := Settled mode failures known s'
  rely_refl _ _ := trivial
  rely_trans _ _ := trivial
  inv_guar _ _ h := h
  rely_guar _ _ _ _ := trivial

/-- What is returned is the mode, or the last valid one when a read has failed: the one that was
`known` at the change, or the mode again. -/
def Switched (mode : StorefrontResolutionMode) (failures : Bool)
    (known : Option EffectiveStorefrontResolutionMode)
    (value : EffectiveStorefrontResolutionMode) : Prop :=
  value = ⟨mode, .row⟩ ∨ failures = true ∧ value.source = .lastKnownValid ∧
    (value.mode = mode ∨ ∃ last ∈ known, value.mode = last.mode)

theorem serveDegraded_last {value : EffectiveStorefrontResolutionMode}
    (hs : Settled mode failures known s) (h : serveDegraded s = .ok value) :
    value.source = .lastKnownValid ∧
      (value.mode = mode ∨ ∃ last ∈ known, value.mode = last.mode) := by
  unfold serveDegraded at h
  split at h
  · next last hlast =>
    cases h
    refine ⟨rfl, ?_⟩
    obtain hknown | hmode := hs.lastKnownValid
    · exact .inr ⟨last, hknown.symm.trans hlast, rfl⟩
    · obtain rfl := Option.some.inj (hlast.symm.trans hmode)
      exact .inl rfl
  · cases h

theorem consult_switched {value : EffectiveStorefrontResolutionMode}
    (hs : Settled mode failures known s) (h : (consult s).2 = some (.ok value)) :
    Switched mode failures known value := by
  unfold consult at h
  dsimp only at h
  split at h
  · next cached hcached =>
    cases h
    exact .inl (hs.cached cached (Option.eq_some_of_filter_eq_some hcached))
  · split at h
    · next hfailed =>
      refine .inr ⟨?_, serveDegraded_last hs (Option.some.inj h)⟩
      cases failures with
      | true => rfl
      | false =>
          rw [hs.failureUntil rfl] at hfailed
          cases hfailed
    · cases h

theorem effect_findStored {fails : Bool} {stored : Option (Option String)}
    (h : findStored fails s = .ok (stored, s')) :
    Effect .read s s' ∧ ∀ row ∈ stored, row = s.row := by
  cases fails with
  | true =>
      cases h
      exact ⟨⟨rfl, rfl, rfl, rfl⟩, nofun⟩
  | false =>
      cases h
      exact ⟨⟨rfl, rfl, rfl, rfl⟩, fun row hrow => by cases hrow; rfl⟩

theorem safe_degrade_settled :
    (settledDiscipline mode failures known).Safe i
      (Discipline.Returns fun value _ => Switched mode failures known value) degrade s := by
  intro s₁ _ hs₁ hok
  refine ⟨hs₁.act .recordFailure ⟨rfl, rfl, rfl⟩ hok, ?_⟩
  refine Discipline.safe_done fun s₂ _ _ value hvalue => ?_
  exact .inr ⟨hok, serveDegraded_last (s := s₁) hs₁ hvalue⟩

theorem safe_getMode_settled (fails : Bool) :
    (settledDiscipline mode failures known).Safe i
      (Discipline.Returns fun value _ => Switched mode failures known value) (getMode fails) s := by
  refine Discipline.safe_read fun s₁ _ hs₁ => ?_
  have hconsult : ∀ value, (consult s₁).2 = some (.ok value) → Switched mode failures known value :=
    fun _ => consult_switched hs₁
  revert hconsult
  generalize consult s₁ = looked
  obtain ⟨now, known⟩ := looked
  intro hconsult
  cases known with
  | some answer =>
      exact Discipline.safe_done fun s₂ _ _ value hvalue => hconsult value (by rw [hvalue])
  | none =>
      refine Discipline.safe_transact (fun s₂ stored s₃ _ hs₂ hok hread => ?_)
        fun s₂ e _ _ _ herr => ?_
      · obtain ⟨heffect, hstored⟩ := effect_findStored hread
        refine ⟨hs₂.act .read heffect hok, fun _ => ?_⟩
        change (settledDiscipline mode failures known).Safe i _ (match stored.bind valueOf with
          | some value => Proc.transact (.accept value) (accept value now)
          | none => degrade) s₃
        cases hvalue : stored.bind valueOf with
        | none => exact safe_degrade_settled
        | some value =>
            obtain ⟨row, hrow, hfound⟩ := Option.bind_eq_some_iff.mp hvalue
            rw [hstored row hrow, hs₂.row, valueOf_text] at hfound
            cases hfound
            intro s₄ _ hs₄ hok₄
            have hcached : ∀ cached ∈ some (CachedRead.mk ⟨mode, .row⟩
                (now + storefrontResolutionModeCacheTtlMs)), cached.value = ⟨mode, .row⟩ := by
              intro cached hc
              cases hc
              rfl
            refine ⟨hs₄.act (.accept ⟨mode, .row⟩) ⟨rfl, rfl, hcached, rfl⟩ hok₄, ?_⟩
            refine Discipline.safe_done fun s₅ _ _ value' hv => ?_
            cases hv
            exact .inl rfl
      · cases fails <;> cases herr

/-! Every action does what its label says. -/

theorem effects_degrade : degrade.Within Effect := fun _ => ⟨⟨rfl, rfl, rfl⟩, trivial⟩

theorem effects_getMode (fails : Bool) : (getMode fails).Within Effect := by
  refine Proc.Within.bind (Proc.within_read _) fun looked => ?_
  obtain ⟨now, known⟩ := looked
  cases known with
  | some answer => trivial
  | none =>
      refine Proc.Within.bind (Proc.within_transact (fun _ => ⟨rfl, rfl, rfl, rfl⟩)
        fun s stored s' h => (effect_findStored h).1) fun stored => ?_
      cases stored.bind valueOf with
      | none => exact effects_degrade
      | some value =>
          intro s
          refine ⟨⟨rfl, rfl, fun cached hc => ?_, rfl⟩, trivial⟩
          cases hc
          rfl

theorem effects_setMode (value : String) (fails : Bool) : (setMode value fails).Within Effect := by
  unfold setMode
  split
  · trivial
  · refine Proc.Within.bind ?_ fun _ => Proc.Within.bind ?_ fun _ => Proc.within_pure _
    · refine Proc.within_transact (fun _ => ⟨.inr rfl, rfl, rfl, rfl⟩) fun s a s' h => ?_
      cases fails with
      | true => cases h
      | false =>
          cases h
          exact ⟨.inl rfl, rfl, rfl, rfl⟩
    · exact fun s => ⟨⟨rfl, rfl, rfl, rfl⟩, trivial⟩

theorem effects_serve (req : ModeRequest) : (serveMode req).Within Effect := by
  cases req with
  | getMode fails =>
      rw [serveMode, Proc.map_def]
      exact (effects_getMode fails).finish fun _ => trivial
  | setMode value fails =>
      rw [serveMode, Proc.map_def]
      exact (effects_setMode value fails).finish fun _ => trivial
  | edit row => exact fun s => ⟨⟨.inl rfl, rfl, rfl, rfl⟩, trivial⟩
  | tick elapsed => exact fun s => ⟨⟨rfl, rfl, rfl, rfl⟩, trivial⟩

theorem safe_serveSettled (req : ModeRequest) :
    (settledDiscipline mode failures known).Safe i
      (Answers (fun value _ => Switched mode failures known value) req) (serveMode req) s := by
  by_cases hreq : ∃ fails, req = .getMode fails
  · obtain ⟨fails, rfl⟩ := hreq
    rw [serveMode, Proc.map_def]
    refine (safe_getMode_settled fails).map fun s₁ r hr => ?_
    intro _ value _ hvalue
    cases r with
    | error e => cases hvalue
    | ok value' =>
        cases hvalue
        exact hr _ rfl
  · have hsafe :
        (settledDiscipline mode failures known).Safe i (fun _ _ => True) (serveMode req) s :=
      Discipline.safe_of_within (effects_serve req) fun ℓ s s' hs hok h => Settled.act hs ℓ h hok
    exact hsafe.mono_post fun _ _ _ fails _ h => absurd ⟨fails, h⟩ hreq

end Settled

/-- The change of the row to the mode at place `i` is about to empty the caches. -/
def Busts (mode : StorefrontResolutionMode) (i : Nat) (c : ModeConfig) : Prop :=
  ∃ fails p, c.flights[i]? = some (.setMode mode.text fails, p) ∧ p.label = some .bust

theorem Busts.settled (failures : Bool) {mode : StorefrontResolutionMode} {w : ModeWorld}
    {c c' : ModeConfig} {i : Nat} (hrun : ModeRun (fun _ _ => True) ⟨w, []⟩ c)
    (hbusts : Busts mode i c) (hbust : Advances (fun _ _ => True) i c c')
    (hrow : c'.state.row = some mode.text) :
    (settledDiscipline mode failures c'.state.lastKnownValid).Holds
      (fun k req s r => c'.flights.length ≤ k →
        Answers (fun value _ => Switched mode failures c'.state.lastKnownValid value) req s r)
      c' := by
  have hwithin : ∀ i req (p : ModeService _), c.flights[i]? = some (req, p) → p.Within Effect :=
    Run.flights (P := fun _ _ p => p.Within Effect) (fun _ req => effects_serve req)
      (fun _ _ p p' s s' h hp => (h.step hp).1) (fun i req p hi => by simp at hi) hrun
  have hstep : Step (fun _ => serveMode) (fun _ _ => True) (fun _ _ => True) c c' := hbust.step
  have hwithin' : ∀ i req (p : ModeService _), c'.flights[i]? = some (req, p) →
      p.Within Effect :=
    Run.flights (P := fun _ _ p => p.Within Effect) (fun _ req => effects_serve req)
      (fun _ _ p p' s s' h hp => (h.step hp).1) hwithin (.single hstep)
  refine ⟨?_, fun k req p hk => ?_⟩
  · obtain ⟨fails, p, hi, hlabel⟩ := hbusts
    obtain ⟨req, p₀, p', hi₀, hp, -, -⟩ := hbust
    cases hi.symm.trans hi₀
    have hemptied : Effect .bust c.state c'.state := by
      cases p with
      | done r => cases hlabel
      | query next => cases hlabel
      | commit ℓ upd next =>
          cases hlabel
          simp only [Proc.step, Option.some.injEq, Prod.mk.injEq] at hp
          rw [← hp.2]
          exact (hwithin i _ _ hi c.state).1
    obtain ⟨-, hcached, hfailure, -⟩ := hemptied
    refine ⟨hrow, fun cached hc => ?_, fun _ => hfailure, .inl rfl⟩
    rw [hcached] at hc
    cases hc
  · have hsafe : (settledDiscipline mode failures c'.state.lastKnownValid).Safe k
        (fun _ _ => True) p c'.state :=
      Discipline.safe_of_within (hwithin' k req p hk) fun ℓ s s' hs hok h => hs.act ℓ h hok
    refine hsafe.mono_post fun _ _ _ hle => ?_
    exact absurd (List.getElem?_eq_some_iff.mp hk).1 (Nat.not_lt.mpr hle)

/-- No mode is returned that has not been read of a valid row or of none. Once a change of the row
has emptied the caches and nobody changes the row again, every question that is asked afterwards
is answered with the new mode, if at all, or, where a read of the row has failed since, with the
last mode that was valid and marked as such: the one from before the change, or the new mode. Not
spoken of are the runs in which a read from before the change is accepted after it. -/
theorem resolution_mode_switched {w : ModeWorld} {c : ModeConfig} (hfresh : Fresh w)
    (hrun : ModeRun (fun _ _ => True) ⟨w, []⟩ c) :
    (∀ (i : Nat) (fails : Bool) (value : EffectiveStorefrontResolutionMode),
      c.flights[i]? = some (.getMode fails, .done (.ok (some value))) → Backed c.state value) ∧
    ∀ (i : Nat) (c' c'' : ModeConfig) (mode : StorefrontResolutionMode) (failures : Bool),
      Busts mode i c → Advances (fun _ _ => True) i c c' → c'.state.row = some mode.text →
      ModeRun (Undisturbed false failures) c' c'' →
      ∀ (j : Nat) (fails : Bool) (value : EffectiveStorefrontResolutionMode),
        c'.flights.length ≤ j →
        c''.flights[j]? = some (.getMode fails, .done (.ok (some value))) →
        Switched mode failures c'.state.lastKnownValid value := by
  refine ⟨fun i fails value h => answers_backed hfresh hrun h, ?_⟩
  intro i c' c'' mode failures hbusts hbust hrow hafter j fails value hj hanswer
  have hholds := Busts.settled failures hrun hbusts hbust hrow
  have hserve : ∀ k req s, c'.flights.length ≤ k →
      Settled mode failures c'.state.lastKnownValid s → True →
      (settledDiscipline mode failures c'.state.lastKnownValid).Safe k
        (fun s r => c'.flights.length ≤ k →
          Answers (fun value _ => Switched mode failures c'.state.lastKnownValid value) req s r)
        (serveMode req) s :=
    fun k req s _ _ _ => (safe_serveSettled req).mono_post fun _ _ h _ => h
  exact (hholds.run (Nat.le_refl _) hserve hafter).outcome hanswer hj fails value rfl rfl

/-! ### The old mode after the change -/

instance (stale failures : Bool) : ∀ ℓ s, Decidable (Undisturbed stale failures ℓ s)
  | .accept value, s => inferInstanceAs (Decidable (stale = true ∨ valueOf s.row = some value))
  | .recordFailure, _ => inferInstanceAs (Decidable (failures = true))
  | .write row, s => inferInstanceAs (Decidable (row = s.row))
  | .read, _ | .bust, _ | .tick, _ => inferInstanceAs (Decidable True)

/-- The row says that there is one store. -/
def legacy : ModeWorld := ⟨some "legacy_single_store", none, none, none, 0, []⟩

/-- The next action at place `i` empties the caches after a change to hosts. -/
def bustsHosts (i : Nat) (c : ModeConfig) : Bool :=
  (c.flights[i]?).any fun f =>
    (match f.1 with
      | .setMode value _ => decide (value = "host_resolution")
      | _ => false) &&
      match f.2.label with
      | some .bust => true
      | _ => false

theorem busts_of_bustsHosts {i : Nat} {c : ModeConfig} (h : bustsHosts i c = true) :
    Busts .hostResolution i c := by
  obtain ⟨⟨req, p⟩, hi, h⟩ := (Option.any_eq_true ..).mp h
  obtain ⟨hreq, hlabel⟩ := Bool.and_eq_true_iff.mp h
  cases req with
  | setMode value fails =>
      obtain rfl : value = "host_resolution" := of_decide_eq_true hreq
      refine ⟨fails, p, hi, ?_⟩
      dsimp only at hlabel
      split at hlabel
      · assumption
      · cases hlabel
  | _ => cases hreq

/-- The question at place `i` is answered with the value. -/
def answeredMode (value : EffectiveStorefrontResolutionMode) (i : Nat) (c : ModeConfig) : Bool :=
  (c.answer i).any fun a =>
    (match a.1 with
      | .getMode _ => true
      | _ => false) &&
      match a.2 with
      | .ok (some value') => decide (value' = value)
      | _ => false

theorem exists_of_answeredMode {value : EffectiveStorefrontResolutionMode} {i : Nat}
    {c : ModeConfig} (h : answeredMode value i c = true) :
    ∃ fails, c.flights[i]? = some (.getMode fails, .done (.ok (some value))) := by
  obtain ⟨⟨req, r⟩, ha, h⟩ := (Option.any_eq_true ..).mp h
  obtain ⟨hreq, hvalue⟩ := Bool.and_eq_true_iff.mp h
  cases req with
  | getMode fails =>
      dsimp only at hvalue
      split at hvalue
      · next value' =>
        obtain rfl : value' = value := of_decide_eq_true hvalue
        exact ⟨fails, Config.flight_of_answer ha⟩
      · cases hvalue
  | _ => cases hreq

/-- A question that is asked in `before` actions, then a change to hosts up to its last action. -/
def untilBust (before : Nat) : List (Action ModeRequest) :=
  .accept (.getMode false) :: List.replicate before (.advance 0) ++
    [.accept (.setMode "host_resolution" false), .advance 1]

/-- What follows the change comes to an answer at place 2. -/
theorem exists_after_bust (stale failures : Bool) (before : Nat) (after : List (Action ModeRequest))
    (value : EffectiveStorefrontResolutionMode)
    (h : (exec (fun _ => serveMode) (fun _ _ => True) (fun _ _ => True) (untilBust before)
      ⟨legacy, []⟩).any (fun c => bustsHosts 1 c &&
        (act (fun _ => serveMode) (fun _ _ => True) (fun _ _ => True) (.advance 1) c).any
          fun c' => decide (c'.flights.length = 2) &&
            decide (c'.state.row = some "host_resolution") &&
            (exec (fun _ => serveMode) (fun _ _ => True) (Undisturbed stale failures)
              after c').any fun c'' => answeredMode value 2 c'') = true) :
    ∃ c c' c'' fails, ModeRun (fun _ _ => True) ⟨legacy, []⟩ c ∧ Busts .hostResolution 1 c ∧
      Advances (fun _ _ => True) 1 c c' ∧ c'.flights.length = 2 ∧
      c'.state.row = some "host_resolution" ∧ ModeRun (Undisturbed stale failures) c' c'' ∧
      c''.flights[2]? = some (.getMode fails, .done (.ok (some value))) := by
  obtain ⟨c, hc, h⟩ := exec_any h
  obtain ⟨hbusts, hact⟩ := Bool.and_eq_true_iff.mp h
  obtain ⟨c', hc', h⟩ := (Option.any_eq_true ..).mp hact
  simp only [Bool.and_eq_true, decide_eq_true_eq] at h
  obtain ⟨⟨hlength, hrow⟩, hexec⟩ := h
  obtain ⟨c'', hc'', hanswer⟩ := exec_any hexec
  obtain ⟨fails, hflight⟩ := exists_of_answeredMode hanswer
  exact ⟨c, c', c'', fails, hc, busts_of_bustsHosts hbusts, act_advances hc', hlength, hrow, hc'',
    hflight⟩

/-- The mode is asked for, changed to hosts and asked for again, where the row can be read and where
it cannot. -/
theorem resolution_mode_switched_hosts :
    (∃ (c' c'' : ModeConfig) (fails : Bool) (value : EffectiveStorefrontResolutionMode),
      c''.flights[2]? = some (.getMode fails, .done (.ok (some value))) ∧
        Switched .hostResolution false c'.state.lastKnownValid value) ∧
    ∃ (c' c'' : ModeConfig) (fails : Bool) (value : EffectiveStorefrontResolutionMode),
      c''.flights[2]? = some (.getMode fails, .done (.ok (some value))) ∧
        value.mode ≠ .hostResolution ∧
        Switched .hostResolution true c'.state.lastKnownValid value := by
  constructor
  · obtain ⟨c, c', c'', fails, hc, hbusts, hbust, hlength, hrow, hc'', hanswer⟩ :=
      exists_after_bust false false 3
        [.accept (.getMode false), .advance 2, .advance 2, .advance 2] ⟨.hostResolution, .row⟩
        (by decide +kernel)
    exact ⟨c', c'', fails, _, hanswer, (resolution_mode_switched ⟨rfl, rfl, rfl, rfl⟩ hc).2 1 c'
      c'' _ false hbusts hbust hrow hc'' 2 fails _ (Nat.le_of_eq hlength) hanswer⟩
  · obtain ⟨c, c', c'', fails, hc, hbusts, hbust, hlength, hrow, hc'', hanswer⟩ :=
      exists_after_bust false true 3
        [.accept (.getMode true), .advance 2, .advance 2, .advance 2]
        ⟨.legacySingleStore, .lastKnownValid⟩ (by decide +kernel)
    exact ⟨c', c'', fails, _, hanswer, by decide,
      (resolution_mode_switched ⟨rfl, rfl, rfl, rfl⟩ hc).2 1 c' c'' _ true hbusts hbust hrow hc''
        2 fails _ (Nat.le_of_eq hlength) hanswer⟩

/-- Every question that is asked after a change is answered with the new mode, if at all. -/
def TakesEffect (stale failures : Bool) : Prop :=
  ∀ (w : ModeWorld) (c c' c'' : ModeConfig) (i j : Nat) (mode : StorefrontResolutionMode)
    (fails : Bool) (value : EffectiveStorefrontResolutionMode),
    Fresh w → ModeRun (fun _ _ => True) ⟨w, []⟩ c → Busts mode i c →
      Advances (fun _ _ => True) i c c' → c'.state.row = some mode.text →
        ModeRun (Undisturbed stale failures) c' c'' → c'.flights.length ≤ j →
          c''.flights[j]? = some (.getMode fails, .done (.ok (some value))) → value.mode = mode

/-- The mode changes, and the next read fails: the old mode is served as the last valid one. Or a
read is under way while the mode changes: its value is cached after the change and served from
there. -/
theorem old_mode_served : ¬ TakesEffect false true ∧ ¬ TakesEffect true false := by
  constructor
  · intro hall
    obtain ⟨c, c', c'', fails, hc, hbusts, hbust, hlength, hrow, hc'', hanswer⟩ :=
      exists_after_bust false true 3
        [.accept (.getMode true), .advance 2, .advance 2, .advance 2]
        ⟨.legacySingleStore, .lastKnownValid⟩ (by decide +kernel)
    cases hall legacy c c' c'' 1 2 _ fails _ ⟨rfl, rfl, rfl, rfl⟩ hc hbusts hbust hrow hc''
      (Nat.le_of_eq hlength) hanswer
  · intro hall
    obtain ⟨c, c', c'', fails, hc, hbusts, hbust, hlength, hrow, hc'', hanswer⟩ :=
      exists_after_bust true false 2 [.advance 0, .accept (.getMode false), .advance 2]
        ⟨.legacySingleStore, .row⟩ (by decide +kernel)
    cases hall legacy c c' c'' 1 2 _ fails _ ⟨rfl, rfl, rfl, rfl⟩ hc hbusts hbust hrow hc''
      (Nat.le_of_eq hlength) hanswer

end PrintForge.ResolutionMode
