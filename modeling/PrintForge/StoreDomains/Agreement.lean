import PrintForge.StoreDomains.Steps

/-!
# Removals and the hosting provider

A removal plans, asks the provider to let the hostname go, and deletes the row. Between the plan
and the deletion the row may become primary, or cease to be, or be deleted by someone else. As
long as deletions find the row as it was planned, and answers of the provider arrive, a store
keeps its primary domain, and a removal that fails has changed neither the rows nor what the
provider holds.
-/

namespace PrintForge.StoreDomains

open Relational Concurrent Discipline

variable {settings : Settings} {ℓ : Commit} {w w' : World}

/-- A deletion finds the row, and finds it primary just if it was primary when the removal was
planned. -/
def FoundAsPlanned (id : Nat) (fallbackId : Option Nat) (w : World) : Prop :=
  ∃ d ∈ w.storeDomains.get id, d.isPrimary = fallbackId.isSome

instance (id : Nat) (fallbackId : Option Nat) (w : World) :
    Decidable (FoundAsPlanned id fallbackId w) :=
  inferInstanceAs (Decidable (∃ d ∈ w.storeDomains.get id, _))

/-- No answer of the provider is lost, and deletions find what was planned. -/
def Undisturbed : Commit → World → Prop
  | .detach answer, _ => answer ≠ .unanswered
  | .remove id fallbackId, w | .platformRemove id fallbackId, w => FoundAsPlanned id fallbackId w
  | .inspect, _ | .add, _ | .platformSubdomain, _ | .verify _, _ | .setPrimary _, _ | .attach, _
  | .tls _ _, _ | .platform _, _ | .platformRevoke _, _ => True

instance : ∀ ℓ w, Decidable (Undisturbed ℓ w)
  | .detach answer, _ => inferInstanceAs (Decidable (answer ≠ .unanswered))
  | .remove id fallbackId, w | .platformRemove id fallbackId, w =>
      inferInstanceAs (Decidable (FoundAsPlanned id fallbackId w))
  | .inspect, _ | .add, _ | .platformSubdomain, _ | .verify _, _ | .setPrimary _, _ | .attach, _
  | .tls _ _, _ | .platform _, _ | .platformRevoke _, _ => inferInstanceAs (Decidable True)

theorem Undisturbed.removal {id : Nat} {fallbackId : Option Nat} (h : Undisturbed ℓ w)
    (hℓ : ℓ.removal = some (id, fallbackId)) : FoundAsPlanned id fallbackId w := by
  cases ℓ with
  | remove | platformRemove =>
      cases hℓ
      exact h
  | _ => cases hℓ

/-! ## The primary domain -/

def HasPrimary (storeId : Nat) (w : World) : Prop :=
  ∃ d ∈ w.storeDomains, d.storeId = storeId ∧ d.isPrimary = true

/-- One domain of the store is primary, and only one. -/
def OnePrimary (storeId : Nat) (w : World) : Prop :=
  ∃! d, d ∈ w.storeDomains ∧ d.storeId = storeId ∧ d.isPrimary = true

/-- The store has no domain. -/
def Bare (storeId : Nat) (w : World) : Prop := ∀ d ∈ w.storeDomains, d.storeId ≠ storeId

theorem HasPrimary.one {storeId : Nat} (h : HasPrimary storeId w) : OnePrimary storeId w := by
  obtain ⟨d, hd, hstore, hprimary⟩ := h
  refine ⟨d, ⟨hd, hstore, hprimary⟩, fun e he => ?_⟩
  exact Table.eq_of_clash he.1 hd (.inr ⟨he.2.1.trans hstore.symm, he.2.2, hprimary⟩)

theorem hasPrimary_of_get {storeId k : Nat} {d : StoreDomain} (h : w.storeDomains.get k = some d)
    (hstore : d.storeId = storeId) (hprimary : d.isPrimary = true) : HasPrimary storeId w :=
  ⟨d, (Table.get_eq_some.mp h).1, hstore, hprimary⟩

/-- A store that has a primary domain keeps one, where deletions find what was planned. -/
theorem Change.hasPrimary {storeId : Nat} (h : Change ℓ w w') (hok : Undisturbed ℓ w)
    (hp : HasPrimary storeId w) : HasPrimary storeId w' := by
  obtain ⟨p, hmem, hstore, hprimary⟩ := hp
  have hget : w.storeDomains.get p.id = some p := Table.get_key hmem
  cases h with
  | none h =>
      refine ⟨p, ?_, hstore, hprimary⟩
      rw [h]
      exact hmem
  | create hnext hrows hnew =>
      have hlt : p.id < w.storeDomains.nextKey := Table.key_lt_nextKey hmem
      refine hasPrimary_of_get ((hrows p.id).trans ?_) hstore hprimary
      rw [if_neg (Nat.ne_of_lt hlt), hget]
  | @rewrite f hnext hrows hf =>
      have hafter : w'.storeDomains.get p.id = some (f p) := by rw [hrows, hget]; rfl
      cases hf with
      | status hf hℓ =>
          refine hasPrimary_of_get hafter ((hf p).elim ?_ ?_) ((hf p).elim ?_ ?_)
          · exact fun h => by rw [h, hstore]
          · exact fun h => by rw [h.2, hstore]
          · exact fun h => by rw [h, hprimary]
          · exact fun h => by rw [h.2, hprimary]
      | tls hf hℓ =>
          refine hasPrimary_of_get hafter ?_ ?_ <;> rw [hf] <;> split <;> assumption
      | @primary row hrow hgate hf =>
          by_cases hsame : p.storeId = row.storeId
          · have hmarked : w'.storeDomains.get row.id = some (f row) := by rw [hrows, hrow]; rfl
            refine hasPrimary_of_get hmarked ?_ ?_ <;> rw [hf, if_pos rfl]
            · exact hsame.symm.trans hstore
            · exact decide_eq_true rfl
          · refine hasPrimary_of_get hafter ?_ ?_ <;> rw [hf, if_neg hsame] <;> assumption
  | @delete id fallbackId d hℓ hd hcustom hnext hrows hfallback =>
      obtain ⟨d', hd', hplan⟩ := hok.removal hℓ
      obtain rfl : d = d' := Option.some.inj (hd.symm.trans hd')
      by_cases hgone : p.id = id
      · -- the primary domain is deleted, and the plan names the one that takes over
        obtain rfl : d = p := Option.some.inj (hd.symm.trans (by rw [← hgone]; exact hget))
        cases hk : fallbackId with
        | none =>
            rw [hk, hprimary] at hplan
            cases hplan
        | some k =>
            obtain ⟨hne, e, he, -, hsame⟩ := hfallback k hk
            refine hasPrimary_of_get (k := k) (d := { e with isPrimary := true }) ?_
              (hsame.trans hstore) rfl
            rw [hrows, if_neg hne, he, Option.map_some, if_pos hk]
      · have hafter := hrows p.id
        rw [if_neg hgone, hget, Option.map_some] at hafter
        refine hasPrimary_of_get hafter ?_ ?_ <;> split <;> first | assumption | rfl

/-! ## Removals that fail -/

def Request.isRemoval : Request → Bool
  | .remove .. | .platformRemove .. => true
  | .ensurePlatformSubdomain .. | .add .. | .verify .. | .setPrimary .. | .refreshTls ..
  | .platformRevoke _ | .platformOverride _ | .platformReverify .. => false

/-- The call to the provider, and then `p` if the hostname has been let go. -/
theorem removeDomain_bind (hostname : String) (answer : ReleaseAnswer) (p : Service StoreDomain) :
    (do removeDomain hostname answer; p) =
      (Proc.transact (.detach answer) (modify fun w : World =>
        { w with hosted :=
            if answer = .refused then w.hosted else w.hosted.filter (· ≠ hostname) })).finish
        (Proc.onResult fun _ => if answer = .released then p else throw providerRefused) := by
  unfold removeDomain
  refine (Proc.finish_assoc _ _ _).trans (congrArg _ (funext fun r => ?_))
  cases r with
  | error e => rfl
  | ok u =>
      show (ite _ _ _ : Service Unit).finish _ = ite _ _ _
      split <;> rfl

section Removal

variable {i : Nat} {planTx : Transaction RemovalPlan} {finish : RemovalPlan → Service StoreDomain}
variable {P : RemovalPlan → Prop}

/-- The plan changes nothing, a refusal changes nothing, and after a release only success is
left. -/
theorem clean_removal (answer : ReleaseAnswer)
    (hplan : ∀ w plan w', planTx w = .ok (plan, w') → w' = w ∧ P plan ∧ Planned plan w)
    (hfinish : ∀ plan w, P plan → Planned plan w →
      (domains Undisturbed).Safe i Succeeds (finish plan) w ∧
        (domains Undisturbed).Clean i (finish plan) w) :
    (domains Undisturbed).Clean i (do
      let plan ← Proc.transact .inspect planTx
      removeDomain plan.row.hostname answer
      finish plan) w := by
  refine clean_transact (fun w₁ plan w₂ _ _ _ htx => ?_) fun w₁ e _ _ _ _ => clean_done _
  obtain ⟨rfl, hP, hplanned⟩ := hplan w₁ plan w₂ htx
  refine ⟨.inl rfl, ?_⟩
  show (domains Undisturbed).Clean i (do removeDomain plan.row.hostname answer; finish plan) w₂
  rw [removeDomain_bind]
  refine clean_transact (fun w₃ u w₄ hrely _ hanswer hrelease => ?_) fun w₃ e _ _ _ h => by cases h
  cases hrelease
  have hlater := hplanned.later hrely
  cases answer with
  | released =>
      rw [Proc.onResult, if_pos rfl]
      have hreleased :
          Planned plan { w₃ with hosted := w₃.hosted.filter (· ≠ plan.row.hostname) } :=
        hlater.later (kept_of_eq rfl)
      obtain ⟨hsuccess, hclean⟩ := hfinish plan _ hP hreleased
      exact ⟨.inr hsuccess, hclean⟩
  | refused => exact ⟨.inl rfl, clean_done _⟩
  | unanswered => exact absurd rfl hanswer

end Removal

/-- A deletion that finds the row as it was planned succeeds. -/
theorem deletion_succeeds {plan : RemovalPlan} {load : Transaction StoreDomain}
    (hload : ∀ row, w.storeDomains.get plan.row.id = some row → load w = .ok (row, w))
    (hplan : Planned plan w) (hfound : FoundAsPlanned plan.row.id plan.fallbackId w)
    {e : HttpError} (h : deleteRow load plan.fallbackId w = .error e) : False := by
  obtain ⟨row, hget, hprimary⟩ := hfound
  obtain ⟨w', hok⟩ := exists_deleteRow_ok hplan (hload row hget) hget hprimary
  cases h.symm.trans hok

theorem clean_remove (i tenantId domainId : Nat) (answer : ReleaseAnswer) :
    (domains Undisturbed).Clean i (remove tenantId domainId answer) w := by
  refine clean_removal (P := fun plan => plan.row.id = domainId ∧ plan.row.tenantId = tenantId)
    answer ?_ ?_
  · intro w plan w' h
    obtain ⟨rfl, hid, howner, hplanned⟩ := planRemoval_ok h
    exact ⟨rfl, ⟨hid, howner⟩, hplanned⟩
  · rintro plan w ⟨rfl, rfl⟩ hplanned
    refine ⟨safe_deletion hplanned (fun w row w₁ h => loadOwnDomain_ok h) rfl ?_ ?_, ?_⟩
    · exact fun r w => safe_done fun _ _ _ => ⟨r, rfl⟩
    · intro w e hplanned hfound h
      refine (deletion_succeeds (fun row hget => ?_) hplanned hfound h).elim
      exact loadOwnDomain_eq hget (hplanned.row row hget).tenantId
    · refine clean_only (f := id) (g := fun e =>
        if e.isUniqueConstraintViolation then .conflict primaryConflict else e) ?_ ?_
      · exact fun a => rfl
      · intro e
        dsimp only [Proc.onError]
        split <;> rfl

theorem clean_platformRemove (i domainId : Nat) (answer : ReleaseAnswer) :
    (domains Undisturbed).Clean i (Platform.remove domainId answer) w := by
  refine clean_removal (P := fun plan => plan.row.id = domainId) answer ?_ ?_
  · exact fun w plan w' h => platformPlanRemoval_ok h
  · rintro plan w rfl hplanned
    rw [← Proc.finish_done (Proc.transact _ _)]
    refine ⟨safe_deletion hplanned (fun w row w₁ h => loadDomain_ok h) rfl ?_ ?_, ?_⟩
    · exact fun r w => safe_done fun _ _ _ => ⟨r, rfl⟩
    · intro w e hplanned hfound h
      exact (deletion_succeeds (fun row hget => loadDomain_eq hget) hplanned hfound h).elim
    · exact clean_only (f := id) (g := id) (fun a => rfl) fun e => rfl

theorem clean_handle (i : Nat) {req : Request} (h : req.isRemoval = true) (w : World) :
    (domains Undisturbed).Clean i (handle settings req) w := by
  cases req with
  | remove => exact (clean_remove _ _ _ _).map some
  | platformRemove => exact (clean_platformRemove _ _ _).map some
  | _ => cases h

/-! ## Runs -/

/-- Where nothing disturbs them, the steps of a run leave a store that has a primary domain with
one, or with no domain at all; and no step of a removal that goes on to fail changes a row or what
the provider holds. -/
theorem removals_keep_agreement {c : DomainConfig}
    (hrun : Reaches settings Undisturbed ⟨w, []⟩ c) :
    (∀ c', Step (fun _ => handle settings) (fun _ _ => True) Undisturbed c c' →
      ∀ storeId, HasPrimary storeId c.state →
        OnePrimary storeId c'.state ∨ Bare storeId c'.state) ∧
    ∀ i c' c'' req e, Advances Undisturbed i c c' → Reaches settings Undisturbed c' c'' →
      req.isRemoval = true → c''.flights[i]? = some (req, .done (.error e)) →
        c'.state = c.state := by
  constructor
  · intro c' hstep storeId hprimary
    obtain hsame | ⟨ℓ, hok, hchange⟩ := step_change hrun hstep
    · rw [hsame]
      exact .inl hprimary.one
    · exact .inl (hchange.hasPrimary hok hprimary).one
  · intro i c' c'' req e hstep hafter hremoval hend
    refine failure_leaves_nothing (D := domains Undisturbed) (P := fun req => req.isRemoval = true)
      ?_ ?_ trivial hrun hstep hafter hremoval hend
    · exact fun i req w _ _ => safe_handle i req w
    · exact fun i req w hremoval _ _ => clean_handle i hremoval w

/-! ### A shop with three domains -/

/-- A domain of the only store that is served, as `type` says or with a certificate. -/
def servedDomain (id : Nat) (hostname : String) (type : StoreDomainType) (isPrimary : Bool) :
    StoreDomain where
  id := id
  storeId := 0
  tenantId := 0
  hostname := hostname
  isPrimary := isPrimary
  verificationStatus := .verified
  verificationToken := none
  type := some type
  verificationMethod := none
  tlsStatus := some .issued

/-- A platform subdomain, and two domains of the merchant, the first of which is primary just if
`primary` says so. -/
def threeDomains (primary : Bool) : World where
  stores := .empty
  storeDomains := ⟨[servedDomain 0 "shop.stores.example" .platformSubdomain !primary,
    servedDomain 1 "a.example" .custom primary, servedDomain 2 "b.example" .custom false], 3,
    by cases primary <;> decide, by cases primary <;> decide⟩
  hosted := ["a.example", "b.example"]

instance (storeId : Nat) (w : World) : Decidable (HasPrimary storeId w) :=
  inferInstanceAs (Decidable (∃ d ∈ w.storeDomains.rows, _))

instance (storeId : Nat) (w : World) : Decidable (Bare storeId w) :=
  inferInstanceAs (Decidable (∀ d ∈ w.storeDomains.rows, _))

/-- The request at this place was to remove a domain, and it has failed. -/
def RemovalFailed (i : Nat) (c : DomainConfig) : Prop :=
  ∃ req e, req.isRemoval = true ∧ c.flights[i]? = some (req, .done (.error e))

theorem removalFailed_of_answer {i : Nat} {c : DomainConfig}
    (h : (c.answer i).any (fun a => a.1.isRemoval && a.2.toOption.isNone) = true) :
    RemovalFailed i c := by
  obtain ⟨⟨req, r⟩, ha, hr⟩ := (Option.any_eq_true ..).mp h
  obtain ⟨hremoval, hnone⟩ := Bool.and_eq_true_iff.mp hr
  cases r with
  | ok row => cases hnone
  | error e => exact ⟨req, e, hremoval, Config.flight_of_answer ha⟩

/-- The primary domain is removed, and then the provider refuses a second removal. -/
theorem removals_keep_agreement_removed :
    ∃ c c' : DomainConfig, c.state.hosted = ["b.example"] ∧ RemovalFailed 1 c' ∧
      c'.state = c.state ∧ (OnePrimary 0 c'.state ∨ Bare 0 c'.state) := by
  have hrun : (exec (fun _ => handle plainSettings) (fun _ _ => True) Undisturbed
      [.accept (.remove 0 1 .released), .advance 0, .advance 0, .advance 0,
        .accept (.remove 0 2 .refused), .advance 1] ⟨threeDomains true, []⟩).any (fun c =>
      (decide (c.state.hosted = ["b.example"]) && decide (HasPrimary 0 c.state)) &&
      (act (fun _ => handle plainSettings) (fun _ _ => True) Undisturbed (.advance 1) c).any
        fun c' => (c'.answer 1).any fun a => a.1.isRemoval && a.2.toOption.isNone) = true := by
    decide +kernel
  obtain ⟨c, hc, h⟩ := exec_any hrun
  obtain ⟨hstate, hact⟩ := Bool.and_eq_true_iff.mp h
  obtain ⟨hhosted, hprimary⟩ := Bool.and_eq_true_iff.mp hstate
  obtain ⟨c', hc', hanswer⟩ := (Option.any_eq_true ..).mp hact
  obtain ⟨req, e, hremoval, hend⟩ := removalFailed_of_answer hanswer
  obtain ⟨hone, hkept⟩ := removals_keep_agreement hc
  exact ⟨c, c', of_decide_eq_true hhosted, ⟨req, e, hremoval, hend⟩,
    hkept 1 c' c' req e (act_advances hc') .refl hremoval hend,
    hone c' (act_advances hc').step 0 (of_decide_eq_true hprimary)⟩

/-- A domain becomes primary after its removal was planned, and is deleted with nothing to take
over from it. Another ceases to be primary after its removal was planned, and the provider has let
its hostname go when the deletion fails. -/
theorem removals_break_agreement :
    (¬ ∀ (settings : Settings) (w : World) (c c' : DomainConfig) (storeId : Nat),
      Reaches settings (fun _ _ => True) ⟨w, []⟩ c →
      Step (fun _ => handle settings) (fun _ _ => True) (fun _ _ => True) c c' →
      HasPrimary storeId c.state → OnePrimary storeId c'.state ∨ Bare storeId c'.state) ∧
    ¬ ∀ (settings : Settings) (w : World) (c c' c'' : DomainConfig) (i : Nat),
      Reaches settings (fun _ _ => True) ⟨w, []⟩ c → Advances (fun _ _ => True) i c c' →
      Reaches settings (fun _ _ => True) c' c'' → RemovalFailed i c'' → c'.state = c.state := by
  constructor
  · have hrun : (exec (fun _ => handle plainSettings) (fun _ _ => True) (fun _ _ => True)
        [.accept (.remove 0 1 .released), .advance 0, .accept (.setPrimary 0 1), .advance 1,
          .advance 0] ⟨threeDomains false, []⟩).any (fun c => decide (HasPrimary 0 c.state) &&
        (act (fun _ => handle plainSettings) (fun _ _ => True) (fun _ _ => True) (.advance 0) c).any
          fun c' => !decide (HasPrimary 0 c'.state) && !decide (Bare 0 c'.state)) = true := by
      decide +kernel
    obtain ⟨c, hc, h⟩ := exec_any hrun
    obtain ⟨hprimary, hact⟩ := Bool.and_eq_true_iff.mp h
    obtain ⟨c', hc', hlost⟩ := act_any hact
    intro hall
    have hafter := hall _ _ c c' 0 hc hc' (of_decide_eq_true hprimary)
    simp only [Bool.and_eq_true, Bool.not_eq_true', decide_eq_false_iff_not] at hlost
    obtain ⟨d, hd, -⟩ | hbare := hafter
    · exact hlost.1 ⟨d, hd⟩
    · exact hlost.2 hbare
  · have hrun : (exec (fun _ => handle plainSettings) (fun _ _ => True) (fun _ _ => True)
        [.accept (.remove 0 1 .released), .advance 0, .accept (.setPrimary 0 2), .advance 1]
        ⟨threeDomains true, []⟩).any (fun c =>
        (act (fun _ => handle plainSettings) (fun _ _ => True) (fun _ _ => True) (.advance 0) c).any
          fun c' => decide (c'.state.hosted ≠ c.state.hosted) &&
            (exec (fun _ => handle plainSettings) (fun _ _ => True) (fun _ _ => True)
              [.advance 0] c').any fun c'' =>
                (c''.answer 0).any fun a => a.1.isRemoval && a.2.toOption.isNone) = true := by
      decide +kernel
    obtain ⟨c, hc, hact⟩ := exec_any hrun
    obtain ⟨c', hc', h⟩ := (Option.any_eq_true ..).mp hact
    obtain ⟨hchanged, hexec⟩ := Bool.and_eq_true_iff.mp h
    obtain ⟨c'', hc'', hfailed⟩ := exec_any hexec
    intro hall
    have hsame := hall _ _ c c' c'' 0 hc (act_advances hc') hc'' (removalFailed_of_answer hfailed)
    exact of_decide_eq_true hchanged (congrArg World.hosted hsame)

end PrintForge.StoreDomains
