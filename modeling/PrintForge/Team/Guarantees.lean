import PrintForge.Concurrent.Discipline
import PrintForge.Team.Service

/-!
# A tenant keeps an owner

The guard counts the owners, and the write that follows is to another row than those it has
counted. A tenant keeps an owner in the runs in which the count still is what the guard asks for
where the write is made. Two owners who are suspended at once are a run in which it is not.
-/

namespace PrintForge.Team

open Relational Concurrent Discipline

variable {w w' : World} {tenantId : Nat} {target : TenantMembership}

def HasActiveOwner (tenantId : Nat) (w : World) : Prop :=
  ∃ m ∈ w.tenantMemberships, isActiveOwner tenantId m = true

/-- The guard of the final owner still passes where the write is made. -/
def StillGuarded : Commit → World → Prop
  | .updateRole target, w | .suspendMember target, w =>
      target.role = .owner → 1 < countActiveOwners target.tenantId w

instance : ∀ ℓ w, Decidable (StillGuarded ℓ w)
  | .updateRole _, _ | .suspendMember _, _ => inferInstanceAs (Decidable (_ → _))

/-! ## What the writes do -/

/-- A member stays in the tenant, and who was no owner does not become one. -/
def Demotes (m m' : TenantMembership) : Prop :=
  m'.tenantId = m.tenantId ∧ (m'.role = .owner → m.role = .owner)

/-- The rows are what they were, or demoted. -/
def Demoted (w w' : World) : Prop :=
  ∀ k m', w'.tenantMemberships.get k = some m' →
    ∃ m, w.tenantMemberships.get k = some m ∧ Demotes m m'

theorem Demoted.refl (w : World) : Demoted w w :=
  fun _ m' hm' => ⟨m', hm', rfl, id⟩

theorem Demoted.trans {w₁ w₂ : World} (h : Demoted w w₁) (h' : Demoted w₁ w₂) :
    Demoted w w₂ := by
  intro k m₂ hm₂
  obtain ⟨m₁, hm₁, htenant₁, hrole₁⟩ := h' k m₂ hm₂
  obtain ⟨m, hm, htenant, hrole⟩ := h k m₁ hm₁
  exact ⟨m, hm, htenant₁.trans htenant, fun howner => hrole (hrole₁ howner)⟩

/-- Only the row of the member changes, and that is demoted. -/
structure Touches (target : TenantMembership) (w w' : World) : Prop where
  demoted : Demoted w w'
  others : ∀ k, k ≠ target.id → w'.tenantMemberships.get k = w.tenantMemberships.get k

/-- A conditional update of the member's row. -/
theorem touches_update {t : Table TenantMembership} {p : TenantMembership → Bool}
    {f : TenantMembership → TenantMembership} {hf} (hp : ∀ m, p m → m.id = target.id)
    (hdemotes : ∀ m, Demotes m (f m)) (h : w.tenantMemberships.update p f hf = some t)
    (hsame : w'.tenantMemberships = t) : Touches target w w' := by
  have hget : ∀ k, w'.tenantMemberships.get k =
      (w.tenantMemberships.get k).map fun m => if p m then f m else m := by
    intro k
    rw [hsame, Table.get_update h]
  refine ⟨fun k m' hm' => ?_, fun k hk => ?_⟩
  · rw [hget, Option.map_eq_some_iff] at hm'
    obtain ⟨m, hm, rfl⟩ := hm'
    refine ⟨m, hm, ?_⟩
    split
    · exact hdemotes m
    · exact ⟨rfl, id⟩
  · rw [hget]
    cases hm : w.tenantMemberships.get k with
    | none => rfl
    | some m =>
        have hpm : ¬ p m := by
          intro hpm
          exact hk ((Table.get_eq_some.mp hm).2.symm.trans (hp m hpm))
        simp [hpm]

/-- Returning the row as it then stands writes nothing. -/
theorem returnUpdated_ok {k : Nat} {a : TenantMembership}
    (h : (do
      let updated ← Tx.read fun w : World => w.tenantMemberships.get k
      match updated with
      | none => throw .recordNotFound
      | some updated => return updated : Transaction TenantMembership) w = .ok (a, w')) :
    w' = w := by
  rw [Tx.bind_read] at h
  cases hget : w.tenantMemberships.get k with
  | none =>
      rw [hget] at h
      cases h
  | some updated =>
      rw [hget] at h
      cases h
      rfl

theorem changeRole_touches {role : TenantRole} {a : TenantMembership} (hrole : role ≠ .owner)
    (h : changeRole tenantId target role w = .ok (a, w')) : Touches target w w' := by
  obtain ⟨count, w₁, hupdate, hrest⟩ := Tx.bind_ok.mp h
  obtain ⟨t, ht, -, rfl⟩ := Slot.updateMany_ok hupdate
  have hw' : w' = Db.tenantMemberships.set t w := by
    split at hrest
    · cases hrest
    · exact returnUpdated_ok hrest
  subst hw'
  refine touches_update (t := t) ?_ ?_ ht rfl
  · intro m hm
    simp only [Bool.and_eq_true, decide_eq_true_eq] at hm
    exact hm.1.1
  · exact fun m => ⟨rfl, fun howner => absurd howner hrole⟩

theorem suspend_touches {a : TenantMembership} (h : suspend tenantId target w = .ok (a, w')) :
    Touches target w w' := by
  obtain ⟨count, w₁, hupdate, hrest⟩ := Tx.bind_ok.mp h
  obtain ⟨t, ht, -, rfl⟩ := Slot.updateMany_ok hupdate
  have hw' : w'.tenantMemberships = t := by
    split at hrest
    · cases hrest
    · obtain ⟨u, w₂, hrelease, hread⟩ := Tx.bind_ok.mp hrest
      have hframe : Tx.Within (Tx.Same fun w : World => w.tenantMemberships)
          (releaseLimit Db.usage tenantId .teamMembers 1) :=
        within_releaseLimit (fun _ _ => rfl) tenantId .teamMembers 1
      rw [returnUpdated_ok hread]
      exact hframe hrelease
  refine touches_update (t := t) ?_ ?_ ht hw'
  · intro m hm
    simp only [Bool.and_eq_true, decide_eq_true_eq] at hm
    exact hm.1.1
  · exact fun m => ⟨rfl, id⟩

/-! ## The owner that stays -/

/-- What a request knows of the row it has read: it has been demoted at most. -/
def Follows (target : TenantMembership) (w : World) : Prop :=
  ∀ m, w.tenantMemberships.get target.id = some m → Demotes target m

theorem follows_of_get {k : Nat} (h : w.tenantMemberships.get k = some target) :
    Follows target w := by
  intro m hm
  have hk : target.id = k := (Table.get_eq_some.mp h).2
  rw [hk, h] at hm
  cases hm
  exact ⟨rfl, id⟩

theorem Follows.later (h : Follows target w) (hw : Demoted w w') : Follows target w' := by
  intro m' hm'
  obtain ⟨m, hm, htenant, hrole⟩ := hw _ m' hm'
  obtain ⟨htenant', hrole'⟩ := h m hm
  exact ⟨htenant.trans htenant', fun howner => hrole' (hrole howner)⟩

/-- A write to one row, made where the guard passes, leaves an owner. -/
theorem Touches.hasActiveOwner (h : Touches target w w') (hfollows : Follows target w)
    (hguard : target.role = .owner → 1 < countActiveOwners target.tenantId w)
    (howner : HasActiveOwner tenantId w) : HasActiveOwner tenantId w' := by
  have hstays : ∀ m ∈ w.tenantMemberships, m.id ≠ target.id → m ∈ w'.tenantMemberships := by
    intro m hm hne
    have hget : w'.tenantMemberships.get m.id = some m :=
      (h.others m.id hne).trans (Table.get_key hm)
    exact (Table.get_eq_some.mp hget).1
  obtain ⟨m, hm, hactive⟩ := howner
  by_cases hid : m.id = target.id
  · -- the row that is written is an owner, so the guard has counted another
    simp only [isActiveOwner, Bool.and_eq_true, decide_eq_true_eq] at hactive
    have hget : w.tenantMemberships.get target.id = some m := hid ▸ Table.get_key hm
    obtain ⟨htenant, hrole⟩ := hfollows m hget
    have htarget : target.tenantId = tenantId := htenant.symm.trans hactive.1.1
    have hcount : 1 < w.tenantMemberships.count (isActiveOwner tenantId) := by
      rw [← htarget]
      exact hguard (hrole hactive.1.2)
    obtain ⟨other, hother, hactive', hne⟩ := Table.exists_of_one_lt_count hcount target.id
    exact ⟨other, hstays other hother hne, hactive'⟩
  · exact ⟨m, hstays m hm hid, hactive⟩

/-! ## Runs -/

/-- Writes demote, and where the guard still passes they leave the tenant an owner. -/
def discipline (tenantId : Nat) : Discipline World Commit where
  inv := HasActiveOwner tenantId
  ok := StillGuarded
  rely _ := Demoted
  guar _ _ w w' := Demoted w w' ∧ HasActiveOwner tenantId w'
  rely_refl _ := Demoted.refl
  rely_trans := Demoted.trans
  inv_guar _ _ h := h.2
  rely_guar _ _ _ h := h.1

variable {i : Nat}

/-- A transaction on the row that has been read, where the guard still passes. -/
theorem safe_touch {ℓ : Commit} {tx : Transaction TenantMembership}
    (htouches : ∀ w a w', tx w = .ok (a, w') → Touches target w w')
    (hℓ : ∀ w, StillGuarded ℓ w →
      target.role = .owner → 1 < countActiveOwners target.tenantId w)
    (hfollows : Follows target w) :
    (discipline tenantId).Safe i (fun _ _ => True) (Proc.transact ℓ tx) w := by
  rw [← Proc.finish_done (Proc.transact ℓ tx)]
  refine safe_transact (fun w₁ a w₂ hrely howner hok htx => ?_) fun w₁ e hrely howner _ _ => ?_
  · have htouch := htouches w₁ a w₂ htx
    have hfollows₁ := hfollows.later hrely
    exact ⟨⟨htouch.demoted, htouch.hasActiveOwner hfollows₁ (hℓ w₁ hok) howner⟩,
      fun _ => safe_done fun _ _ _ => trivial⟩
  · exact ⟨⟨.refl w₁, howner⟩, safe_done fun _ _ _ => trivial⟩

/-- Reading the row and the guard come before the write and leave what is known of the row. -/
theorem safe_target {k : Nat} {f : TenantMembership → Service TenantMembership}
    (hf : ∀ target w, HasActiveOwner tenantId w → Follows target w →
      (discipline tenantId).Safe i (fun _ _ => True) (f target) w) (tenant : Nat) (w : World) :
    (discipline tenantId).Safe i (fun _ _ => True) (do
      let found ← Proc.read fun w : World => w.tenantMemberships.get k
      let target ← assertObjectInTenant (·.tenantId) found tenant
      f target) w := by
  refine safe_read fun w₁ _ howner => ?_
  change (discipline tenantId).Safe i _
    (assertObjectInTenant _ (w₁.tenantMemberships.get k) tenant >>= f) w₁
  cases hfound : w₁.tenantMemberships.get k with
  | none => exact safe_done fun _ _ _ => trivial
  | some target =>
      by_cases htenant : target.tenantId = tenant
      · have hreturn : (assertObjectInTenant (·.tenantId) (some target) tenant :
            Service TenantMembership) = pure target := by
          simp [assertObjectInTenant, htenant]
        rw [hreturn]
        exact hf target w₁ howner (follows_of_get hfound)
      · have hthrow : (assertObjectInTenant (·.tenantId) (some target) tenant :
            Service TenantMembership) = throw (.notFound "Not Found") := by
          simp [assertObjectInTenant, htenant]
        rw [hthrow]
        exact safe_done fun _ _ _ => trivial

theorem safe_guard {p : Service TenantMembership} {tenant : Nat} {message : String}
    (hp : ∀ w, Follows target w → (discipline tenantId).Safe i (fun _ _ => True) p w)
    (hfollows : Follows target w) (howner : HasActiveOwner tenantId w) :
    (discipline tenantId).Safe i (fun _ _ => True)
      (do assertNotFinalOwner tenant target message; p) w := by
  have hguard : Proc.Within (fun _ _ _ => False) (assertNotFinalOwner tenant target message) := by
    unfold assertNotFinalOwner
    split
    · refine (Proc.within_read _).bind fun activeOwners => ?_
      split
      · exact Proc.within_throw _
      · exact Proc.within_pure _
    · exact Proc.within_pure _
  have hsafe : (discipline tenantId).Safe i (fun w _ => Follows target w)
      (assertNotFinalOwner tenant target message) w :=
    safe_of_readOnly hguard (fun _ _ hrely h => h.later hrely) hfollows
  exact hsafe.bind howner fun w₁ _ _ hfollows₁ => hp w₁ hfollows₁

theorem safe_handle (req : Request) (hvalid : req.Valid) (w : World) :
    (discipline tenantId).Safe i (fun _ _ => True) (handle i req) w := by
  cases req with
  | updateRole tenant membershipId role =>
      have hrole : role ≠ .owner := fun h => absurd (h ▸ hvalid : .owner ∈ assignableTenantRoles)
        (by decide)
      refine safe_target (fun target w₁ howner hfollows => ?_) tenant w
      refine safe_guard (fun w₂ hfollows₂ => ?_) hfollows howner
      exact safe_touch (fun _ _ _ => changeRole_touches hrole) (fun _ hok => hok) hfollows₂
  | suspendMember tenant membershipId =>
      refine safe_target (fun target w₁ howner hfollows => ?_) tenant w
      split
      · exact safe_done fun _ _ _ => trivial
      · refine safe_guard (fun w₂ hfollows₂ => ?_) hfollows howner
        exact safe_touch (fun _ _ _ => suspend_touches) (fun _ hok => hok) hfollows₂

/-- As long as the guard of the final owner still passes wherever a write is made, a tenant with
an active owner has one in every state reached. -/
theorem active_owner_remains (howner : HasActiveOwner tenantId w) {c : TeamConfig}
    (hrun : Run handle (fun req _ => req.Valid) StillGuarded ⟨w, []⟩ c) :
    HasActiveOwner tenantId c.state := by
  have hstart : (discipline tenantId).Holds (fun _ _ _ _ => True) (⟨w, []⟩ : TeamConfig) :=
    holds_idle howner
  have hserve : ∀ i req w, 0 ≤ i → HasActiveOwner tenantId w → req.Valid →
      (discipline tenantId).Safe i (fun _ _ => True) (handle i req) w :=
    fun i req w _ _ hvalid => safe_handle req hvalid w
  exact (hstart.run (Nat.zero_le _) hserve hrun).inv

/-! ### Two runs with two owners -/

/-- A tenant with two owners and nothing else. -/
def twoOwners : World where
  tenantMemberships := ⟨[⟨0, 10, 1, .owner, .active⟩, ⟨1, 11, 1, .owner, .active⟩], 2,
    by decide, by decide⟩
  usage := .empty

instance (tenantId : Nat) (w : World) : Decidable (HasActiveOwner tenantId w) :=
  inferInstanceAs (Decidable (∃ m ∈ w.tenantMemberships.rows, isActiveOwner tenantId m = true))

theorem active_owner_remains_one_suspended :
    ∃ c : TeamConfig, c.state.tenantMemberships.rows.map (·.status) = [.suspended, .active] ∧
      HasActiveOwner 1 c.state := by
  have hrun : (exec handle (fun req _ => req.Valid) StillGuarded
      (.accept (.suspendMember 1 0) :: List.replicate 3 (.advance 0)) ⟨twoOwners, []⟩).any
      (fun c => decide (c.state.tenantMemberships.rows.map (·.status) =
        [.suspended, .active])) = true := by
    decide +kernel
  obtain ⟨c, hc, hstatus⟩ := exec_any hrun
  exact ⟨c, of_decide_eq_true hstatus,
    active_owner_remains (by decide : HasActiveOwner 1 twoOwners) hc⟩

/-- Two owners are suspended by requests that have both counted two. -/
theorem no_active_owner_remains :
    ¬ ∀ (w : World) (tenantId : Nat) (c : TeamConfig), HasActiveOwner tenantId w →
      Run handle (fun req _ => req.Valid) (fun _ _ => True) ⟨w, []⟩ c →
        HasActiveOwner tenantId c.state := by
  have hrun : (exec handle (fun req _ => req.Valid) (fun _ _ => True)
      ([.accept (.suspendMember 1 0), .accept (.suspendMember 1 1), .advance 0, .advance 0,
        .advance 1, .advance 1, .advance 0, .advance 1]) ⟨twoOwners, []⟩).any
      (fun c => !decide (HasActiveOwner 1 c.state)) = true := by
    decide +kernel
  obtain ⟨c, hc, hnone⟩ := exec_any hrun
  intro hall
  have howner := hall twoOwners 1 c (by decide) hc
  simp [howner] at hnone

end PrintForge.Team
