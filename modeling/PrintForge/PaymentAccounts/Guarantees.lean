import PrintForge.Concurrent.Discipline
import PrintForge.PaymentAccounts.Service

/-!
# What an active account has behind it

The credentials that are stored were accepted by the provider, whoever calls what and when.
That an active account has any is up to the activations: `activate` asks for none, and `connect`
goes by a status that a call of `disable` may have changed since. `Allowed` leaves both out.
-/

namespace PrintForge.PaymentAccounts

open Relational Concurrent Proc

variable {encryption : CredentialEncryption} {ok : Commit → World → Prop} {w w' : World}

/-! ## One transaction -/

theorem assertObjectInTenant_ok {α : Type} {tenantOf : α → Nat} {resource : Option α}
    {tenantId : Nat} {a : α}
    (h : (assertObjectInTenant tenantOf resource tenantId : Transaction α) w = .ok (a, w')) :
    resource = some a ∧ tenantOf a = tenantId ∧ w' = w := by
  unfold assertObjectInTenant at h
  cases resource with
  | none => cases h
  | some row =>
      dsimp only at h
      split at h
      · cases h
      · next hne =>
        cases h
        exact ⟨rfl, not_not.mp hne, rfl⟩

/-- A transition takes one account along its table and notes down whom it disables. -/
theorem moveAccount_ok {tenantId id : Nat} {target : PaymentAccountStatus} {r : PaymentAccount}
    (h : moveAccount tenantId id target w = .ok (r, w')) :
    ∃ a t, w.paymentAccounts.get id = some a ∧ a.tenantId = tenantId ∧
      isPaymentAccountTransitionAllowed a.status target = true ∧
      w.paymentAccounts.update (fun b => b.id = id && b.status = a.status)
        (fun b => { b with status := target }) (fun _ => rfl) = some t ∧
      w' = World.note id target { w with paymentAccounts := t } := by
  obtain ⟨found, w₁, h₁, hassert⟩ := Tx.bind_ok.mp h
  cases h₁
  obtain ⟨a, w₂, h₂, hmove⟩ := Tx.bind_ok.mp hassert
  obtain ⟨hfound, htenant, rfl⟩ := assertObjectInTenant_ok h₂
  split at hmove
  · cases hmove
  · next hallowed =>
    obtain ⟨count, w₃, h₃, hcount⟩ := Tx.bind_ok.mp hmove
    obtain ⟨t, ht, -, rfl⟩ := Slot.updateMany_ok h₃
    split at hcount
    · cases hcount
    · obtain ⟨u, w₄, h₄, hread⟩ := Tx.bind_ok.mp hcount
      cases h₄
      obtain ⟨updated, w₅, h₅, hdone⟩ := Tx.bind_ok.mp hread
      refine ⟨a, t, hfound, htenant, by simpa using hallowed, ht, ?_⟩
      cases updated with
      | none => cases hdone
      | some updated =>
          cases hdone
          simp only [Tx.read_apply, Except.ok.injEq, Prod.mk.injEq] at h₅
          exact h₅.2.symm

theorem storeCredentials_ok {tenantId id : Nat} {blob : String} {u : Unit}
    (h : storeCredentials tenantId id blob w = .ok (u, w')) :
    ∃ t, w.paymentAccounts.update (·.id = id)
      (fun b => { b with credentialsEncrypted := some blob }) (fun _ => rfl) = some t ∧
      w' = { w with paymentAccounts := t } := by
  obtain ⟨found, w₁, h₁, hassert⟩ := Tx.bind_ok.mp h
  cases h₁
  obtain ⟨a, w₂, h₂, hstore⟩ := Tx.bind_ok.mp hassert
  obtain ⟨-, -, rfl⟩ := assertObjectInTenant_ok h₂
  obtain ⟨b, w₃, h₃, hdone⟩ := Tx.bind_ok.mp hstore
  cases hdone
  obtain ⟨-, t, -, ht, -, rfl⟩ := Slot.update_ok h₃
  exact ⟨t, ht, rfl⟩

/-! ## Stored credentials were accepted -/

/-- The stored credentials are a pair the provider has accepted. -/
def AcceptedIn (encryption : CredentialEncryption) (w : World) (blob : String) : Prop :=
  ∃ credentials ∈ w.accepted, encryption.decrypt blob = some credentials

/-- Whatever is stored was accepted, and an active account has something stored. -/
structure Backed (encryption : CredentialEncryption) (w : World) : Prop where
  accepted : ∀ a ∈ w.paymentAccounts, ∀ blob ∈ a.credentialsEncrypted, AcceptedIn encryption w blob
  active : ∀ a ∈ w.paymentAccounts, a.status = .active → a.credentialsEncrypted ≠ none

/-- The account has credentials, if there is such an account. -/
def HasCredentials (w : World) (id : Nat) : Prop :=
  ∀ a ∈ w.paymentAccounts.get id, a.credentialsEncrypted ≠ none

instance (w : World) (id : Nat) : Decidable (HasCredentials w id) :=
  inferInstanceAs (Decidable (∀ a ∈ w.paymentAccounts.get id, _))

/-- An account is made active only when it has credentials and has not been disabled since
the call began. -/
def Allowed : Commit → World → Prop
  | .transition id .active began, w =>
      HasCredentials w id ∧ ∀ n ∈ began, id ∉ w.disabled.drop n
  | .transition _ .pending _, _ | .transition _ .disabled _, _ | .create, _ | .verify, _
  | .configureCredentials _, _ => True

instance : ∀ ℓ w, Decidable (Allowed ℓ w)
  | .transition id .active began, w =>
      inferInstanceAs (Decidable (HasCredentials w id ∧ ∀ n ∈ began, id ∉ w.disabled.drop n))
  | .transition _ .pending _, _ | .transition _ .disabled _, _ | .create, _ | .verify, _
  | .configureCredentials _, _ => inferInstanceAs (Decidable True)

theorem backed_initial (stores : Table Store) :
    Backed encryption (AccountConfig.initial stores).state :=
  ⟨fun _ ha => absurd ha (Table.not_mem_empty _), fun _ ha => absurd ha (Table.not_mem_empty _)⟩

/-- Another acceptance takes nothing away. -/
theorem Backed.accept (h : Backed encryption w) (credentials : RazorpayAccountCredentials) :
    Backed encryption { w with accepted := credentials :: w.accepted } := by
  refine ⟨fun a ha blob hblob => ?_, h.active⟩
  obtain ⟨cs, hcs, hd⟩ := h.accepted a ha blob hblob
  exact ⟨cs, List.mem_cons_of_mem _ hcs, hd⟩

/-- A new account has no credentials and is not active. -/
theorem Backed.create {row : Nat → PaymentAccount} {hk} {t : Table PaymentAccount}
    (h : Backed encryption w) (ht : w.paymentAccounts.create row hk = some t)
    (hrow : ∀ k, (row k).credentialsEncrypted = none ∧ (row k).status = .pending) :
    Backed encryption { w with paymentAccounts := t } := by
  refine ⟨fun a ha blob hblob => ?_, fun a ha hactive => ?_⟩
  · obtain ha | rfl := (Table.mem_create ht).mp ha
    · exact h.accepted a ha blob hblob
    · rw [(hrow _).1] at hblob
      cases hblob
  · obtain ha | rfl := (Table.mem_create ht).mp ha
    · exact h.active a ha hactive
    · rw [(hrow _).2] at hactive
      cases hactive

/-- Storing an accepted pair. -/
theorem Backed.storeCredentials {tenantId id : Nat} {blob : String} {u : Unit}
    (h : Backed encryption w) (hblob : AcceptedIn encryption w blob)
    (hs : storeCredentials tenantId id blob w = .ok (u, w')) : Backed encryption w' := by
  obtain ⟨t, ht, rfl⟩ := storeCredentials_ok hs
  refine ⟨fun a ha blob' hblob' => ?_, fun a ha hactive => ?_⟩
  · obtain ⟨b, hb, rfl⟩ := (Table.mem_update ht).mp ha
    split at hblob'
    · cases hblob'
      exact hblob
    · exact h.accepted b hb blob' hblob'
  · obtain ⟨b, hb, rfl⟩ := (Table.mem_update ht).mp ha
    split at hactive
    · next hid =>
      rw [if_pos hid]
      exact Option.some_ne_none _
    · next hid =>
      rw [if_neg hid]
      exact h.active b hb hactive

/-- A transition, if it makes an account active only when that has credentials. -/
theorem Backed.moveAccount {tenantId id : Nat} {target : PaymentAccountStatus}
    {r : PaymentAccount} (h : Backed encryption w)
    (hready : target = .active → HasCredentials w id)
    (hs : moveAccount tenantId id target w = .ok (r, w')) : Backed encryption w' := by
  obtain ⟨a, t, hget, -, -, ht, rfl⟩ := moveAccount_ok hs
  refine ⟨fun b hb blob hblob => ?_, fun b hb hactive => ?_⟩
  · obtain ⟨b₀, hb₀, rfl⟩ := (Table.mem_update ht).mp hb
    refine h.accepted b₀ hb₀ blob ?_
    split at hblob
    · exact hblob
    · exact hblob
  · obtain ⟨b₀, hb₀, rfl⟩ := (Table.mem_update ht).mp hb
    split at hactive
    · next hp =>
      rw [if_pos hp]
      simp only [Bool.and_eq_true, decide_eq_true_eq] at hp
      exact hready hactive b₀ (Table.get_eq_some.mpr ⟨hb₀, hp.1⟩)
    · next hp =>
      rw [if_neg hp]
      exact h.active b₀ hb₀ hactive

/-- What the provider has accepted stays accepted, and every state is backed. -/
def accounts (encryption : CredentialEncryption) : Discipline World Commit where
  inv := Backed encryption
  ok := Allowed
  rely _ w w' := w.accepted ⊆ w'.accepted
  guar _ _ w w' := w.accepted ⊆ w'.accepted ∧ Backed encryption w'
  rely_refl _ w := List.Subset.refl w.accepted
  rely_trans h h' := List.Subset.trans h h'
  inv_guar _ _ h := h.2
  rely_guar _ _ _ h := h.1

/-- A commit as the discipline wants it, in a backed state where it is allowed. -/
def Keeps (encryption : CredentialEncryption) (ℓ : Commit) (w w' : World) : Prop :=
  Backed encryption w → Allowed ℓ w → w.accepted ⊆ w'.accepted ∧ Backed encryption w'

theorem keeps_refl (ℓ : Commit) (w : World) : Keeps encryption ℓ w w :=
  fun h _ => ⟨List.Subset.refl _, h⟩

section Safe

open Discipline

variable {α : Type} {i : Nat}

theorem safe_of_keeps {p : Service α} (h : p.Within (Keeps encryption)) :
    (accounts encryption).Safe i (fun _ _ => True) p w :=
  safe_of_within h fun _ _ _ hinv hok hkeeps => hkeeps hinv hok

theorem keeps_assertObjectInTenant {tenantOf : α → Nat} (resource : Option α) (tenantId : Nat) :
    Within (Keeps encryption) (assertObjectInTenant tenantOf resource tenantId : Service α) := by
  unfold assertObjectInTenant
  cases resource with
  | none => exact within_throw _
  | some row =>
      dsimp only
      split
      · exact within_throw _
      · exact within_pure _

theorem keeps_getOne (tenantId id : Nat) :
    Within (Keeps encryption) (getOne tenantId id) :=
  (within_read _).bind fun _ => keeps_assertObjectInTenant _ _

theorem keeps_getEncryptedCredentials (tenantId id : Nat) :
    Within (Keeps encryption) (getEncryptedCredentials tenantId id) :=
  (within_read _).bind fun _ => (keeps_assertObjectInTenant _ _).bind fun _ => within_pure _

theorem keeps_create (tenantId : Nat) (dto : CreatePaymentAccountDto) :
    Within (Keeps encryption) (create tenantId dto) := by
  apply Within.bind
  · generalize dto.storeId = storeId
    cases storeId with
    | some storeId =>
        apply (within_read _).bind
        intro store
        cases store with
        | none => exact within_throw _
        | some store => exact within_pure _
    | none =>
        apply (within_read _).bind
        intro store
        cases store with
        | none => exact within_throw _
        | some store => exact within_pure _
  · intro storeId
    apply (within_read _).bind
    intro existing
    cases existing with
    | some existing => exact within_throw _
    | none =>
        apply Within.tryCatch
        · apply within_transact (keeps_refl _)
          intro w a w' h hinv _
          obtain ⟨t, ht, -, rfl⟩ := Slot.create_ok h
          exact ⟨List.Subset.refl _, hinv.create ht fun _ => ⟨rfl, rfl⟩⟩
        · intro err
          split
          · exact within_throw _
          · exact within_throw _

theorem keeps_transition (tenantId id : Nat) (target : PaymentAccountStatus)
    (began : Option Nat) : Within (Keeps encryption) (transition tenantId id target began) := by
  apply within_transact (keeps_refl _)
  intro w a w' h hinv hok
  have hready : target = .active → HasCredentials w id := by
    rintro rfl
    exact hok.1
  refine ⟨?_, hinv.moveAccount hready h⟩
  obtain ⟨-, t, -, -, -, -, rfl⟩ := moveAccount_ok h
  exact List.Subset.refl _

theorem safe_verifyCredentials (credentials : RazorpayAccountCredentials) (accepts : Bool) :
    (accounts encryption).Safe i (Returns fun _ w => credentials ∈ w.accepted)
      (verifyCredentials credentials accepts) w := by
  rw [← finish_done (verifyCredentials credentials accepts)]
  apply safe_transact
  · intro w₁ u w₂ _ hinv _ h
    split at h
    · cases h
      refine ⟨⟨List.subset_cons_self _ _, hinv.accept credentials⟩, fun _ => ?_⟩
      exact safe_pure fun w₃ hl => hl List.mem_cons_self
    · cases h
  · intro w₁ err _ hinv _ _
    exact ⟨⟨List.Subset.refl _, hinv⟩, safe_throw err⟩

/-- Only what the provider has accepted is stored. -/
theorem safe_configureCredentials {tenantId id iv : Nat}
    {credentials : RazorpayAccountCredentials} (h : credentials ∈ w.accepted) :
    (accounts encryption).Safe i (fun _ _ => True)
      (configureCredentials tenantId id (encryption.encrypt credentials iv)) w := by
  rw [← finish_done (configureCredentials tenantId id _)]
  apply safe_transact
  · intro w₁ u w₂ hl hinv _ hs
    have hblob : AcceptedIn encryption w₁ (encryption.encrypt credentials iv) :=
      ⟨credentials, hl h, encryption.decrypt_encrypt _ _⟩
    refine ⟨⟨?_, hinv.storeCredentials hblob hs⟩, fun _ _ _ _ => trivial⟩
    obtain ⟨t, -, rfl⟩ := storeCredentials_ok hs
    exact List.Subset.refl _
  · intro w₁ err _ hinv _ _
    exact ⟨⟨List.Subset.refl _, hinv⟩, fun _ _ _ => trivial⟩

theorem safe_submitCredentials (tenantId id : Nat) (dto : ConnectRazorpayAccountDto) (iv : Nat)
    (accepts : Bool) (hw : Backed encryption w) :
    (accounts encryption).Safe i (fun _ _ => True)
      (submitCredentials encryption tenantId id dto iv accepts) w := by
  unfold submitCredentials
  split
  · refine (safe_verifyCredentials _ _).finish hw fun w₁ r _ hr => ?_
    cases r with
    | ok u => exact safe_configureCredentials (hr u rfl)
    | error err => exact fun _ _ _ => trivial
  · exact fun _ _ _ => trivial

theorem safe_testConnection (tenantId id : Nat) (accepts : Bool) (hw : Backed encryption w) :
    (accounts encryption).Safe i (fun _ _ => True)
      (testConnection encryption tenantId id accepts) w := by
  unfold testConnection
  refine (safe_of_keeps (keeps_getEncryptedCredentials _ _)).finish hw fun w₁ r _ _ => ?_
  cases r with
  | error err => exact fun _ _ _ => trivial
  | ok stored =>
      cases stored with
      | none => exact fun _ _ _ => trivial
      | some stored =>
          show (accounts encryption).Safe i _
            (verifyStoredCredentials encryption stored accepts) w₁
          unfold verifyStoredCredentials
          split
          · exact fun _ _ _ => trivial
          · exact (safe_verifyCredentials _ _).mono_post fun _ _ _ => trivial

theorem safe_checkCredentials (tenantId id : Nat) (dto : ConnectRazorpayAccountDto) (iv : Nat)
    (accepts : Bool) (hw : Backed encryption w) :
    (accounts encryption).Safe i (fun _ _ => True)
      (checkCredentials encryption tenantId id dto iv accepts) w := by
  unfold checkCredentials
  split
  · exact safe_submitCredentials _ _ _ _ _ hw
  · exact safe_testConnection _ _ _ hw

theorem safe_handle (n : Nat) (req : Request) (hw : Backed encryption w) :
    (accounts encryption).Safe n (fun _ _ => True) (handle encryption req) w := by
  cases req with
  | create tenantId dto => exact safe_of_keeps (keeps_create _ _)
  | activate tenantId id => exact safe_of_keeps (keeps_transition _ _ _ _)
  | disable tenantId id => exact safe_of_keeps (keeps_transition _ _ _ _)
  | connect tenantId id dto iv accepts =>
      refine (safe_of_keeps (within_read _)).bind hw fun w₁ began hw₁ _ => ?_
      refine (safe_of_keeps (keeps_getOne _ _)).bind hw₁ fun w₂ account hw₂ _ => ?_
      refine (safe_checkCredentials _ _ _ _ _ hw₂).bind hw₂ fun w₃ _ hw₃ _ => ?_
      split
      · exact safe_of_keeps ((keeps_transition _ _ _ _).bind fun _ => keeps_getOne _ _)
      · exact safe_of_keeps (keeps_getOne _ _)

end Safe

/-! ## A refused connection -/

/-- No account is written. -/
def LeavesAccounts (_ : Commit) (w w' : World) : Prop := w'.paymentAccounts = w.paymentAccounts

theorem refused_verifyCredentials (credentials : RazorpayAccountCredentials) :
    Fails LeavesAccounts (verifyCredentials credentials false) :=
  fun _ => ⟨rfl, trivial⟩

theorem leaves_getOne (tenantId id : Nat) : Within LeavesAccounts (getOne tenantId id) := by
  apply (within_read _).bind
  intro row
  unfold assertObjectInTenant
  cases row with
  | none => exact within_throw _
  | some row =>
      dsimp only
      split
      · exact within_throw _
      · exact within_pure _

theorem refused_checkCredentials (tenantId id : Nat) (dto : ConnectRazorpayAccountDto)
    (iv : Nat) : Fails LeavesAccounts (checkCredentials encryption tenantId id dto iv false) := by
  unfold checkCredentials
  split
  · unfold submitCredentials
    split
    · exact (refused_verifyCredentials _).bind _
    · exact fails_throw _
  · unfold testConnection getEncryptedCredentials
    apply Within.bind_fails
    · exact (leaves_getOne tenantId id).bind fun _ => within_pure _
    · intro stored
      cases stored with
      | none => exact fails_throw _
      | some stored =>
          show Fails LeavesAccounts (verifyStoredCredentials encryption stored false)
          unfold verifyStoredCredentials
          split
          · exact fails_throw _
          · exact refused_verifyCredentials _

/-- A connection that the provider refuses never gets to a write. -/
theorem refused_connect (tenantId id : Nat) (dto : ConnectRazorpayAccountDto) (iv : Nat) :
    Within LeavesAccounts (connect encryption tenantId id dto iv false) := by
  refine (within_read _).bind fun began => (leaves_getOne _ _).bind fun account => ?_
  exact ((refused_checkCredentials _ _ _ _).bind _).within

/-- What is left of a refused connection writes no account. -/
def LeavesIfRefused (req : Request) (p : Service PaymentAccount) : Prop :=
  ∀ tenantId id dto iv, req = .connect tenantId id dto iv false → p.Within LeavesAccounts

theorem leavesIfRefused_handle (req : Request) :
    LeavesIfRefused req (handle encryption req) := by
  rintro tenantId id dto iv rfl
  exact refused_connect tenantId id dto iv

theorem LeavesIfRefused.step {req : Request} {p p' : Service PaymentAccount}
    (h : LeavesIfRefused req p) (hp : p.step w = some (p', w')) : LeavesIfRefused req p' :=
  fun tenantId id dto iv hreq => ((h tenantId id dto iv hreq).step hp).1

/-! ## Who reactivates a disabled account -/

/-- The status of an account. -/
def World.status (w : World) (id : Nat) : Option PaymentAccountStatus :=
  (w.paymentAccounts.get id).map (·.status)

/-- The call asks for the account to be active. -/
def Request.Activates (id : Nat) : Request → Prop
  | .connect _ id' _ _ _ | .activate _ id' => id' = id
  | .create _ _ | .disable _ _ => False

/-- No account is made active or disabled. -/
def Quiet (w w' : World) : Prop :=
  w'.disabled = w.disabled ∧ ∀ id, w'.status id = w.status id ∨ w'.status id = some .pending

theorem quiet_refl (w : World) : Quiet w w := ⟨rfl, fun _ => .inl rfl⟩

/-- The writes that may be left of a call that has begun when `n` accounts had been disabled. -/
inductive Rest (n : Nat) : Request → Commit → (World → World) → Prop
  | quiet {req : Request} {ℓ : Commit} {upd : World → World} (h : ∀ w, Quiet w (upd w)) :
      Rest n req ℓ upd
  | activate {tenantId id iv b : Nat} {dto : ConnectRazorpayAccountDto} {accepts : Bool}
      (h : b ≤ n) : Rest n (.connect tenantId id dto iv accepts) (.transition id .active (some b))
        (applied (moveAccount tenantId id .active))

/-- The write of a call that has only one. -/
inductive Single : Request → Commit → (World → World) → Prop
  | activate (tenantId id : Nat) : Single (.activate tenantId id) (.transition id .active none)
      (applied (moveAccount tenantId id .active))
  | disable (tenantId id : Nat) : Single (.disable tenantId id) (.transition id .disabled none)
      (applied (moveAccount tenantId id .disabled))

/-- A status that a transition gives an account. -/
theorem moveAccount_status (tenantId id : Nat) (target : PaymentAccountStatus) (w : World) :
    (∃ err, moveAccount tenantId id target w = .error err) ∨
      ((applied (moveAccount tenantId id target) w).disabled =
          (if target = .disabled then w.disabled ++ [id] else w.disabled) ∧
        (applied (moveAccount tenantId id target) w).status id = some target ∧
        ∀ id', id' ≠ id →
          (applied (moveAccount tenantId id target) w).status id' = w.status id') := by
  cases h : moveAccount tenantId id target w with
  | error err => exact .inl ⟨err, rfl⟩
  | ok r =>
      obtain ⟨r, w'⟩ := r
      rw [applied_ok h]
      obtain ⟨a, t, hget, -, -, ht, rfl⟩ := moveAccount_ok h
      have hkey : a.id = id := (Table.get_eq_some.mp hget).2
      have hmoved := Table.get_update_key (k := id) ht
        (fun b hb => of_decide_eq_true (Bool.and_eq_true_iff.mp hb).1) hget (by simp [hkey])
      refine .inr ⟨rfl, ?_, fun id' hne => ?_⟩
      · show (t.get id).map (·.status) = some target
        rw [hmoved, if_pos rfl]
        rfl
      · show (t.get id').map (·.status) = (w.paymentAccounts.get id').map (·.status)
        rw [hmoved, if_neg hne]

/-- What a write may do to the statuses: `n` bounds the moments at which calls have begun. -/
structure Moves (n : Nat) (req : Request) (ℓ : Commit) (w w' : World) : Prop where
  log : w.disabled <+: w'.disabled
  disables : ∀ id, w.status id ≠ some .disabled → w'.status id = some .disabled →
    w'.disabled = w.disabled ++ [id]
  activates : ∀ id, w.status id ≠ some .active → w'.status id = some .active →
    req.Activates id ∧ ∃ began, ℓ = .transition id .active began ∧ ∀ b ∈ began, b ≤ n

theorem Quiet.moves {n : Nat} {req : Request} {ℓ : Commit} (h : Quiet w w') :
    Moves n req ℓ w w' where
  log := h.1 ▸ List.prefix_refl w.disabled
  disables id hne hs := by
    obtain hsame | hpending := h.2 id
    · exact absurd (hsame.symm.trans hs) hne
    · exact absurd (hpending.symm.trans hs) (by decide)
  activates id hne hs := by
    obtain hsame | hpending := h.2 id
    · exact absurd (hsame.symm.trans hs) hne
    · exact absurd (hpending.symm.trans hs) (by decide)

theorem moves_moveAccount {n tenantId id : Nat} {target : PaymentAccountStatus}
    {began : Option Nat} {req : Request} (w : World)
    (hactive : target = .active → req.Activates id ∧ ∀ b ∈ began, b ≤ n)
    (hpending : target ≠ .pending) :
    Moves n req (.transition id target began) w (applied (moveAccount tenantId id target) w) := by
  obtain ⟨err, h⟩ | ⟨hlog, hid, hother⟩ := moveAccount_status tenantId id target w
  · rw [applied_error h]
    exact (quiet_refl w).moves
  · refine ⟨?_, fun id' hne hs => ?_, fun id' hne hs => ?_⟩
    · rw [hlog]
      split
      · exact List.prefix_append _ _
      · exact List.prefix_refl _
    · by_cases heq : id' = id
      · subst heq
        cases hid.symm.trans hs
        simpa using hlog
      · exact absurd ((hother id' heq).symm.trans hs) hne
    · by_cases heq : id' = id
      · subst heq
        cases hid.symm.trans hs
        obtain ⟨hreq, hbegan⟩ := hactive rfl
        exact ⟨hreq, began, rfl, hbegan⟩
      · exact absurd ((hother id' heq).symm.trans hs) hne

theorem Rest.moves {n : Nat} {req : Request} {ℓ : Commit} {upd : World → World}
    (h : Rest n req ℓ upd) (w : World) : Moves n req ℓ w (upd w) := by
  cases h with
  | quiet h => exact (h w).moves
  | activate hb =>
      refine moves_moveAccount w (fun _ => ⟨rfl, fun b' hb' => ?_⟩) (by decide)
      cases hb'
      exact hb

theorem Single.moves {n : Nat} {req : Request} {ℓ : Commit} {upd : World → World}
    (h : Single req ℓ upd) (w : World) : Moves n req ℓ w (upd w) := by
  cases h with
  | activate tenantId id =>
      exact moves_moveAccount w (fun _ => ⟨rfl, fun b hb => by cases hb⟩) (by decide)
  | disable tenantId id => exact moves_moveAccount w (by rintro ⟨⟩) (by decide)

section Rest

variable {n : Nat} {req : Request}

theorem rest_getOne (tenantId id : Nat) : Commits (Rest n req) (getOne tenantId id) := by
  apply (commits_read _).bind
  intro row
  unfold assertObjectInTenant
  cases row with
  | none => exact commits_throw _
  | some row =>
      dsimp only
      split
      · exact commits_throw _
      · exact commits_pure _

theorem rest_storeFor (tenantId : Nat) (storeId : Option Nat) :
    Commits (Rest n req) (storeFor tenantId storeId) := by
  cases storeId with
  | some storeId =>
      apply (commits_read _).bind
      intro store
      cases store with
      | none => exact commits_throw _
      | some store => exact commits_pure _
  | none =>
      apply (commits_read _).bind
      intro store
      cases store with
      | none => exact commits_throw _
      | some store => exact commits_pure _

/-- A new account is pending, and no other one is touched. -/
theorem quiet_create {row : Nat → PaymentAccount} {hk} (hrow : ∀ k, (row k).status = .pending)
    (w : World) :
    Quiet w (applied (Db.paymentAccounts.create row hk : Transaction PaymentAccount) w) := by
  cases h : (Db.paymentAccounts.create row hk : Transaction PaymentAccount) w with
  | error err =>
      rw [applied_error h]
      exact quiet_refl w
  | ok r =>
      rw [applied_ok h]
      obtain ⟨t, ht, -, hw⟩ := Slot.create_ok h
      rw [hw]
      refine ⟨rfl, fun id => ?_⟩
      show (t.get id).map (·.status) = (w.paymentAccounts.get id).map (·.status) ∨
        (t.get id).map (·.status) = some .pending
      rw [Table.get_create ht]
      split
      · exact .inr (congrArg some (hrow id))
      · exact .inl rfl

theorem rest_create (tenantId : Nat) (dto : CreatePaymentAccountDto) :
    Commits (Rest n req) (create tenantId dto) := by
  refine (rest_storeFor _ _).bind fun storeId => (commits_read _).bind fun existing => ?_
  cases existing with
  | some existing => exact commits_throw _
  | none =>
      apply Commits.tryCatch
      · exact commits_transact (.quiet (quiet_create fun _ => rfl))
      · intro err
        split
        · exact commits_throw _
        · exact commits_throw _

theorem rest_verifyCredentials (credentials : RazorpayAccountCredentials) (accepts : Bool) :
    Commits (Rest n req) (verifyCredentials credentials accepts) := by
  apply commits_transact
  apply Rest.quiet
  intro w
  cases accepts with
  | true => exact ⟨rfl, fun _ => .inl rfl⟩
  | false => exact quiet_refl w

theorem quiet_storeCredentials (tenantId id : Nat) (blob : String) (w : World) :
    Quiet w (applied (storeCredentials tenantId id blob) w) := by
  cases h : storeCredentials tenantId id blob w with
  | error err =>
      rw [applied_error h]
      exact quiet_refl w
  | ok r =>
      rw [applied_ok h]
      obtain ⟨t, ht, hw⟩ := storeCredentials_ok h
      rw [hw]
      refine ⟨rfl, fun id' => .inl ?_⟩
      show (t.get id').map (·.status) = (w.paymentAccounts.get id').map (·.status)
      rw [Table.get_update ht, Option.map_map]
      congr 1
      funext a
      dsimp only [Function.comp_apply]
      split
      · rfl
      · rfl

theorem rest_checkCredentials (tenantId id : Nat) (dto : ConnectRazorpayAccountDto) (iv : Nat)
    (accepts : Bool) :
    Commits (Rest n req) (checkCredentials encryption tenantId id dto iv accepts) := by
  unfold checkCredentials
  split
  · unfold submitCredentials
    split
    · exact (rest_verifyCredentials _ _).bind fun _ =>
        commits_transact (.quiet (quiet_storeCredentials _ _ _))
    · exact commits_throw _
  · unfold testConnection
    refine ((rest_getOne tenantId id).bind fun _ => commits_pure _).bind fun stored => ?_
    cases stored with
    | none => exact commits_throw _
    | some stored =>
        show Commits (Rest n req) (verifyStoredCredentials encryption stored accepts)
        unfold verifyStoredCredentials
        split
        · exact commits_throw _
        · exact rest_verifyCredentials _ _

/-- A call as it was accepted, or what is left of it since it began. -/
def Served (encryption : CredentialEncryption) (n : Nat) (req : Request)
    (p : Service PaymentAccount) : Prop :=
  p = handle encryption req ∨ p.Commits (Rest n req)

/-- The first action of a call that is not a connection is all it writes, or writes no status;
a connection notes when it begins. -/
theorem fresh_step {p' : Service PaymentAccount}
    (h : (handle encryption req).step w = some (p', w')) :
    p'.Commits (Rest w.disabled.length req) ∧
      (w' = w ∨ ∃ ℓ, (handle encryption req).label = some ℓ ∧
        Moves w.disabled.length req ℓ w w') := by
  cases req with
  | create tenantId dto =>
      have hall : Commits (Rest w.disabled.length (.create tenantId dto)) (create tenantId dto) :=
        rest_create tenantId dto
      refine ⟨hall.step h, ?_⟩
      obtain hsame | ⟨ℓ, upd, hℓ, hrest, rfl⟩ := hall.write_of_step h
      · exact .inl hsame
      · exact .inr ⟨ℓ, hℓ, hrest.moves w⟩
  | activate tenantId id =>
      obtain ⟨⟨r, rfl⟩, rfl⟩ := transact_step h
      exact ⟨trivial, .inr ⟨_, rfl, (Single.activate tenantId id).moves w⟩⟩
  | disable tenantId id =>
      obtain ⟨⟨r, rfl⟩, rfl⟩ := transact_step h
      exact ⟨trivial, .inr ⟨_, rfl, (Single.disable tenantId id).moves w⟩⟩
  | connect tenantId id dto iv accepts =>
      cases h
      refine ⟨?_, .inl rfl⟩
      refine (rest_getOne _ _).bind fun account => ?_
      refine (rest_checkCredentials _ _ _ _ _).bind fun _ => ?_
      split
      · exact (commits_transact (.activate (Nat.le_refl _))).bind fun _ => rest_getOne _ _
      · exact rest_getOne _ _

theorem Served.step {p p' : Service PaymentAccount}
    (h : Served encryption w.disabled.length req p) (hp : p.step w = some (p', w')) :
    p'.Commits (Rest w.disabled.length req) ∧
      (w' = w ∨ ∃ ℓ, p.label = some ℓ ∧ Moves w.disabled.length req ℓ w w') := by
  obtain rfl | hrest := h
  · exact fresh_step hp
  · refine ⟨hrest.step hp, ?_⟩
    obtain hsame | ⟨ℓ, upd, hℓ, hwrite, rfl⟩ := hrest.write_of_step hp
    · exact .inl hsame
    · exact .inr ⟨ℓ, hℓ, hwrite.moves w⟩

theorem Rest.mono {n' : Nat} (hn : n ≤ n') {ℓ : Commit} {upd : World → World}
    (h : Rest n req ℓ upd) : Rest n' req ℓ upd := by
  cases h with
  | quiet h => exact .quiet h
  | activate hb => exact .activate (Nat.le_trans hb hn)

end Rest

/-- Every call in flight is served as it was accepted, or has begun by now. -/
def AllServed (encryption : CredentialEncryption) (c : AccountConfig) : Prop :=
  ∀ (i : Nat) req p, c.flights[i]? = some (req, p) → Served encryption c.state.disabled.length req p

section Runs

variable {c c' : AccountConfig}

/-- What is in flight after a step was so before, or has begun under the log of then. -/
theorem AllServed.flight (h : AllServed encryption c)
    (hstep : Step (fun _ => handle encryption) (fun _ _ => True) ok c c') {i : Nat}
    {req : Request} {p : Service PaymentAccount} (hi : c'.flights[i]? = some (req, p)) :
    Served encryption c.state.disabled.length req p := by
  obtain hsame | hfresh | ⟨p₀, hi₀, hp₀⟩ := hstep.flight hi
  · exact h i req p hsame
  · exact .inl hfresh
  · exact .inr ((h i req p₀ hi₀).step hp₀).1

/-- A step of a run moves statuses as some call in flight may. -/
theorem AllServed.moves (h : AllServed encryption c)
    (hstep : Step (fun _ => handle encryption) (fun _ _ => True) ok c c') :
    c'.state = c.state ∨
      ∃ req ℓ, Moves c.state.disabled.length req ℓ c.state c'.state := by
  cases hstep with
  | accept req _ => exact .inl rfl
  | @advance i req p p' s' hi hp hok =>
      obtain ⟨-, hsame | ⟨ℓ, -, hmoves⟩⟩ := (h i req p hi).step hp
      · exact .inl hsame
      · exact .inr ⟨req, ℓ, hmoves⟩

theorem AllServed.log (h : AllServed encryption c)
    (hstep : Step (fun _ => handle encryption) (fun _ _ => True) ok c c') :
    c.state.disabled <+: c'.state.disabled := by
  obtain hsame | ⟨req, ℓ, hmoves⟩ := h.moves hstep
  · exact hsame ▸ List.prefix_refl c.state.disabled
  · exact hmoves.log

theorem AllServed.step (h : AllServed encryption c)
    (hstep : Step (fun _ => handle encryption) (fun _ _ => True) ok c c') :
    AllServed encryption c' := by
  intro i req p hi
  have hle := (h.log hstep).length_le
  obtain hfresh | hrest := h.flight hstep hi
  · exact .inl hfresh
  · exact .inr (hrest.mono fun ℓ upd hℓ => hℓ.mono hle)

theorem AllServed.run (h : AllServed encryption c) (hrun : Reaches encryption ok c c') :
    AllServed encryption c' ∧ c.state.disabled <+: c'.state.disabled := by
  induction hrun with
  | refl => exact ⟨h, List.prefix_refl _⟩
  | tail _ hstep ih => exact ⟨ih.1.step hstep, ih.2.trans (ih.1.log hstep)⟩

theorem allServed_initial (stores : Table Store) :
    AllServed encryption (AccountConfig.initial stores) := by
  intro i req p hi
  cases hi

/-- A call that has begun makes no other writes later. -/
theorem rest_of_run {K : Commit → (World → World) → Prop} {i : Nat} {req : Request}
    {p : Service PaymentAccount} (hrun : Reaches encryption ok c c')
    (hi : c.flights[i]? = some (req, p)) (hp : p.Commits K) :
    ∃ p', c'.flights[i]? = some (req, p') ∧ p'.Commits K := by
  induction hrun with
  | refl => exact ⟨p, hi, hp⟩
  | tail _ hstep ih =>
      obtain ⟨p₁, hi₁, hp₁⟩ := ih
      obtain ⟨p₂, hi₂, rfl | hmove⟩ := hstep.flight_later hi₁
      · exact ⟨p₂, hi₂, hp₁⟩
      · exact ⟨p₂, hi₂, hp₁.step hmove⟩

end Runs

/-! ## What an active account has behind it -/

/-- The call at place `i` has been accepted and has taken an action. -/
def Begun (encryption : CredentialEncryption) (c : AccountConfig) (i : Nat) : Prop :=
  ∃ req p, c.flights[i]? = some (req, p) ∧ p ≠ handle encryption req

variable {stores : Table Store} {c c₀ c₁ c₂ c₃ : AccountConfig}

/-- Whoever makes an account active that a call has disabled asks for that, and has begun since. -/
theorem reactivated_since {i id : Nat}
    (hbefore : Reaches encryption Allowed (.initial stores) c₀)
    (hdisable : Step (fun _ => handle encryption) (fun _ _ => True) Allowed c₀ c₁)
    (hne : c₀.state.status id ≠ some .disabled) (hdis : c₁.state.status id = some .disabled)
    (hafter : Reaches encryption Allowed c₁ c₂) (hmove : Advances Allowed i c₂ c₃)
    (hinactive : c₂.state.status id ≠ some .active)
    (hactive : c₃.state.status id = some .active) :
    (∃ req p, c₂.flights[i]? = some (req, p) ∧ req.Activates id) ∧ ¬ Begun encryption c₁ i := by
  have hall₀ := ((allServed_initial stores).run hbefore).1
  have hall₁ := hall₀.step hdisable
  obtain ⟨hall₂, hlog⟩ := hall₁.run hafter
  have hlog₁ : c₁.state.disabled = c₀.state.disabled ++ [id] := by
    obtain hsame | ⟨req, ℓ, hmoves⟩ := hall₀.moves hdisable
    · exact absurd (hsame ▸ hdis) hne
    · exact hmoves.disables id hne hdis
  obtain ⟨req, p, p', hi, hp, hok, hflights⟩ := hmove
  obtain ⟨-, hsame | ⟨ℓ, hℓ, hmoves⟩⟩ := (hall₂ i req p hi).step hp
  · exact absurd (hsame ▸ hactive) hinactive
  · obtain ⟨hreq, -⟩ := hmoves.activates id hinactive hactive
    refine ⟨⟨req, p, hi, hreq⟩, ?_⟩
    rintro ⟨req₁, p₁, hi₁, hbegun⟩
    -- a call that had begun when the account was disabled noted a shorter log
    obtain hfresh | hrest := hall₀.flight hdisable hi₁
    · exact hbegun hfresh
    · obtain ⟨p₂, hi₂, hrest₂⟩ := rest_of_run hafter hi₁ hrest
      cases hi.symm.trans hi₂
      obtain hsame | ⟨ℓ₂, upd, hℓ₂, hwrite, hupd⟩ := hrest₂.write_of_step hp
      · exact hinactive (hsame ▸ hactive)
      · have hmoves₂ := hwrite.moves c₂.state
        rw [← hupd] at hmoves₂
        obtain ⟨-, began, rfl, hbegan⟩ := hmoves₂.activates id hinactive hactive
        obtain ⟨-, hnot⟩ := hok _ hℓ₂
        cases hwrite with
        | quiet h =>
            obtain h | h := (h c₂.state).2 id
            · exact hinactive (h.symm.trans (hupd ▸ hactive))
            · rw [← hupd, hactive] at h
              cases h
        | @activate tenantId id iv b dto accepts hb =>
            apply hnot b rfl
            obtain ⟨later, hlater⟩ := hlog
            rw [← hlater, hlog₁, List.append_assoc, List.drop_append_of_le_length hb]
            simp

/-- In a run whose activations are allowed, an active account has credentials that the provider
has accepted, and one that has been disabled is active again only through a call that began
since. A connection that the provider refuses leaves the accounts alone in every run. -/
theorem active_accounts_backed (encryption : CredentialEncryption) (stores : Table Store) :
    (∀ c : AccountConfig, Reaches encryption Allowed (.initial stores) c →
      ∀ a ∈ c.state.paymentAccounts, a.status = .active →
        ∃ blob, a.credentialsEncrypted = some blob ∧ AcceptedIn encryption c.state blob) ∧
    (∀ (c c' : AccountConfig) (i tenantId id iv : Nat) (dto : ConnectRazorpayAccountDto)
      (p : Service PaymentAccount),
      Reaches encryption (fun _ _ => True) (.initial stores) c →
        c.flights[i]? = some (.connect tenantId id dto iv false, p) →
          Advances (fun _ _ => True) i c c' →
            c'.state.paymentAccounts = c.state.paymentAccounts) ∧
    ∀ (c₀ c₁ c₂ c₃ : AccountConfig) (i id : Nat),
      Reaches encryption Allowed (.initial stores) c₀ →
        Step (fun _ => handle encryption) (fun _ _ => True) Allowed c₀ c₁ →
          c₀.state.status id ≠ some .disabled → c₁.state.status id = some .disabled →
            Reaches encryption Allowed c₁ c₂ → Advances Allowed i c₂ c₃ →
              c₂.state.status id ≠ some .active → c₃.state.status id = some .active →
                (∃ req p, c₂.flights[i]? = some (req, p) ∧ req.Activates id) ∧
                  ¬ Begun encryption c₁ i := by
  refine ⟨fun c hrun a ha hactive => ?_, fun c c' i tenantId id iv dto p hrun hi hmove => ?_,
    fun c₀ c₁ c₂ c₃ i id => reactivated_since⟩
  · have hidle : (accounts encryption).Holds (fun _ _ _ _ => True)
        (AccountConfig.initial stores) := Discipline.holds_idle (backed_initial stores)
    have hinv := (hidle.run (Nat.zero_le _) (fun n req w _ hw _ => safe_handle n req hw) hrun).inv
    obtain ⟨blob, hblob⟩ := Option.ne_none_iff_exists'.mp (hinv.active a ha hactive)
    exact ⟨blob, hblob, hinv.accepted a ha blob hblob⟩
  · have hleaves := Run.flights (P := fun _ => LeavesIfRefused)
      (fun _ req => leavesIfRefused_handle req) (fun _ _ _ _ _ _ h hp => h.step hp)
      (fun _ _ _ h => by cases h) hrun i _ p hi tenantId id dto iv rfl
    obtain ⟨req, p₀, p', hi₀, hp, -, -⟩ := hmove
    cases hi.symm.trans hi₀
    obtain ⟨-, hsame | ⟨ℓ, -, hg⟩⟩ := hleaves.step hp
    · rw [hsame]
    · exact hg

/-! ## A shop that connects an account -/

/-- A text with its end marked. -/
def framed (s : List Char) : List Char := s.flatMap (fun c => ['+', c]) ++ ['.']

def unframed : List Char → Option (List Char × List Char)
  | '.' :: rest => some ([], rest)
  | '+' :: c :: rest => (unframed rest).map fun (s, rest) => (c :: s, rest)
  | _ => none

theorem unframed_framed (s rest : List Char) : unframed (framed s ++ rest) = some (s, rest) := by
  induction s with
  | nil => rfl
  | cons c s ih =>
      show (unframed (framed s ++ rest)).map _ = _
      rw [ih]
      rfl

/-- A text that may be missing, with a mark in front of one that is there. -/
def marked : Option String → List Char
  | none => []
  | some s => '+' :: s.toList

def unmarked : List Char → Option String
  | [] => none
  | _ :: s => some (String.ofList s)

theorem unmarked_marked (s : Option String) : unmarked (marked s) = s := by
  cases s with
  | none => rfl
  | some s => exact congrArg some String.ofList_toList

/-- An encoding of credentials in the place of a cipher. -/
def plainEncryption : CredentialEncryption where
  encrypt c _ := String.ofList (framed c.keyId.toList ++ (framed c.keySecret.toList ++
    (framed (marked c.webhookSecret) ++ [])))
  decrypt blob := do
    let (keyId, rest) ← unframed blob.toList
    let (keySecret, rest) ← unframed rest
    let (webhookSecret, _) ← unframed rest
    return ⟨String.ofList keyId, String.ofList keySecret, unmarked webhookSecret⟩
  decrypt_encrypt c _ := by
    simp only [String.toList_ofList, unframed_framed, Option.bind_eq_bind, Option.bind_some,
      unmarked_marked, String.ofList_toList]
    rfl

def exampleStart : AccountConfig :=
  .initial ⟨[⟨0, 0, true⟩], 1, key_lt_primaryStore, consistent_primaryStore⟩

def serve (i : Nat) (req : Request) (n : Nat) : List (Action Request) :=
  .accept req :: List.replicate n (.advance i)

/-- An account that has been created and connected. -/
def exampleConnected : List (Action Request) :=
  serve 0 (.create 0 ⟨none, .razorpay⟩) 3 ++
    serve 1 (.connect 0 0 ⟨.value "key", .value "secret", none⟩ 0 true) 6

/-- Follow a schedule from a configuration. -/
def follow (ok : Commit → World → Prop) [∀ ℓ w, Decidable (ok ℓ w)]
    (acts : List (Action Request)) (c : AccountConfig) : Option AccountConfig :=
  exec (fun _ => handle plainEncryption) (fun _ _ => True) ok acts c

def advance (ok : Commit → World → Prop) [∀ ℓ w, Decidable (ok ℓ w)] (i : Nat)
    (c : AccountConfig) : Option AccountConfig :=
  act (fun _ => handle plainEncryption) (fun _ _ => True) ok (.advance i) c

/-- An account is connected, disabled, and activated again by a call that comes later; another
connection is refused. -/
theorem active_accounts_backed_connected :
    ∃ (c₀ c₁ c₃ c₄ c₅ : AccountConfig) (a : PaymentAccount),
      a ∈ c₀.state.paymentAccounts ∧
        (∃ blob, a.credentialsEncrypted = some blob ∧
          AcceptedIn plainEncryption c₀.state blob) ∧
        c₃.state.status 0 = some .active ∧ ¬ Begun plainEncryption c₁ 3 ∧
        c₄.state.accepted ≠ [] ∧ c₅.state.paymentAccounts = c₄.state.paymentAccounts := by
  have hrun : (follow Allowed (exampleConnected ++ [.accept (.disable 0 0)]) exampleStart).any
      (fun c₀ => c₀.state.paymentAccounts.rows.any (fun a => decide (a.status = .active)) &&
        decide (c₀.state.status 0 ≠ some .disabled) && (advance Allowed 2 c₀).any (fun c₁ =>
          decide (c₁.state.status 0 = some .disabled) &&
            (follow Allowed [.accept (.activate 0 0)] c₁).any (fun c₂ =>
              decide (c₂.state.status 0 ≠ some .active) && (advance Allowed 3 c₂).any (fun c₃ =>
                decide (c₃.state.status 0 = some .active))))) = true := by
    decide +kernel
  have hrefused : (follow (fun _ _ => True) (exampleConnected ++
      serve 2 (.connect 0 0 ⟨.value "key", .value "wrong", none⟩ 0 false) 2) exampleStart).any
      (fun c₄ => c₄.flights[2]?.any (fun f => decide (f.1 =
          .connect 0 0 ⟨.value "key", .value "wrong", none⟩ 0 false)) &&
        decide (c₄.state.accepted ≠ []) &&
        (advance (fun _ _ => True) 2 c₄).isSome) = true := by
    decide +kernel
  obtain ⟨c₀, hc₀, h⟩ := exec_any hrun
  obtain ⟨h, h₁⟩ := Bool.and_eq_true_iff.mp h
  obtain ⟨ha, hne⟩ := Bool.and_eq_true_iff.mp h
  obtain ⟨a, ha, hactive⟩ := List.any_eq_true.mp ha
  obtain ⟨c₁, hc₁, h₁⟩ := act_any h₁
  obtain ⟨hdis, h₂⟩ := Bool.and_eq_true_iff.mp h₁
  obtain ⟨c₂, hc₂, h₂⟩ := exec_any h₂
  obtain ⟨hin, h₃⟩ := Bool.and_eq_true_iff.mp h₂
  obtain ⟨c₃, hc₃, hact⟩ := (Option.any_eq_true ..).mp h₃
  obtain ⟨c₄, hc₄, h₄⟩ := exec_any hrefused
  obtain ⟨h₄, h₅⟩ := Bool.and_eq_true_iff.mp h₄
  obtain ⟨hf, hacc⟩ := Bool.and_eq_true_iff.mp h₄
  obtain ⟨⟨req, p⟩, hi, hreq⟩ := (Option.any_eq_true ..).mp hf
  obtain ⟨c₅, hc₅⟩ := Option.isSome_iff_exists.mp h₅
  obtain ⟨hbacked, hleaves, hsince⟩ := active_accounts_backed plainEncryption _
  cases of_decide_eq_true hreq
  exact ⟨c₀, c₁, c₃, c₄, c₅, a, ha, hbacked c₀ hc₀ a ha (of_decide_eq_true hactive),
    of_decide_eq_true hact,
    (hsince c₀ c₁ c₂ c₃ 3 0 hc₀ hc₁ (of_decide_eq_true hne) (of_decide_eq_true hdis) hc₂
      (act_advances hc₃) (of_decide_eq_true hin) (of_decide_eq_true hact)).2,
    of_decide_eq_true hacc, hleaves c₄ c₅ 2 0 0 0 _ p hc₄ hi (act_advances hc₅)⟩

/-- An account is activated without credentials; and a connection that has read `PENDING`
activates an account that has been disabled since. -/
theorem unready_account_activated :
    (∃ c : AccountConfig, Reaches plainEncryption (fun _ _ => True) exampleStart c ∧
      ∃ a ∈ c.state.paymentAccounts, a.status = .active ∧ a.credentialsEncrypted = none) ∧
    ∃ c₀ c₁ c₂ c₃ : AccountConfig, Reaches plainEncryption (fun _ _ => True) exampleStart c₀ ∧
      Step (fun _ => handle plainEncryption) (fun _ _ => True) (fun _ _ => True) c₀ c₁ ∧
      c₀.state.status 0 ≠ some .disabled ∧ c₁.state.status 0 = some .disabled ∧
      Reaches plainEncryption (fun _ _ => True) c₁ c₂ ∧
      Advances (fun _ _ => True) 1 c₂ c₃ ∧ c₂.state.status 0 ≠ some .active ∧
      c₃.state.status 0 = some .active ∧ Begun plainEncryption c₁ 1 := by
  have hrun : (follow (fun _ _ => True) (serve 0 (.create 0 ⟨none, .razorpay⟩) 3 ++
      serve 1 (.activate 0 0) 1) exampleStart).any (fun c => c.state.paymentAccounts.rows.any
        fun a => decide (a.status = .active ∧ a.credentialsEncrypted = none)) = true := by
    decide +kernel
  have hrace : (follow (fun _ _ => True) (serve 0 (.create 0 ⟨none, .razorpay⟩) 3 ++
      serve 1 (.connect 0 0 ⟨.value "key", .value "secret", none⟩ 0 true) 4 ++
        [.accept (.disable 0 0)]) exampleStart).any (fun c₀ =>
      decide (c₀.state.status 0 ≠ some .disabled) && (advance (fun _ _ => True) 2 c₀).any
        (fun c₁ => decide (c₁.state.status 0 = some .disabled) &&
          c₁.flights[1]?.any (fun f => decide (f.2.label ≠ none ∧ f.1 =
            .connect 0 0 ⟨.value "key", .value "secret", none⟩ 0 true)) &&
            (advance (fun _ _ => True) 1 c₁).any
              (fun c₃ => decide (c₃.state.status 0 = some .active)))) = true := by
    decide +kernel
  constructor
  · obtain ⟨c, hc, h⟩ := exec_any hrun
    obtain ⟨a, ha, h⟩ := List.any_eq_true.mp h
    exact ⟨c, hc, a, ha, of_decide_eq_true h⟩
  · obtain ⟨c₀, hc₀, h⟩ := exec_any hrace
    obtain ⟨hne, h₁⟩ := Bool.and_eq_true_iff.mp h
    obtain ⟨c₁, hc₁, h₁⟩ := act_any h₁
    obtain ⟨h₁, h₃⟩ := Bool.and_eq_true_iff.mp h₁
    obtain ⟨hdis, hbegun⟩ := Bool.and_eq_true_iff.mp h₁
    obtain ⟨⟨req, p⟩, hi, hp⟩ := (Option.any_eq_true ..).mp hbegun
    obtain ⟨hlabel, rfl⟩ := of_decide_eq_true hp
    obtain ⟨c₃, hc₃, hact⟩ := (Option.any_eq_true ..).mp h₃
    have hdis := of_decide_eq_true hdis
    refine ⟨c₀, c₁, c₁, c₃, hc₀, hc₁, of_decide_eq_true hne, hdis, .refl, act_advances hc₃, ?_,
      of_decide_eq_true hact, _, p, hi, ?_⟩
    · rw [hdis]
      decide
    · rintro rfl
      exact hlabel rfl

end PrintForge.PaymentAccounts
