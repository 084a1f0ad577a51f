import PrintForge.Auth.Steps

/-!
# Every request has the effects listed

A process relies on the rows it has read to be there still, and on nobody else storing the
random values it has drawn. From that each of its commits is one of those in `Effect`, whatever
happens between them.
-/

namespace PrintForge.Auth

open Relational Concurrent Discipline

variable {env : Environment} {w w' : World} {i : Nat}

/-! ## Transactions -/

theorem createRefreshToken_ok {userId k : Nat} {expiresAt : Int} {source : Source Nat String}
    {created : RefreshToken} (hk : Unused i k w)
    (h : createRefreshToken env userId k expiresAt source w = .ok (created, w')) :
    Issues env i userId source w w' := by
  obtain ⟨row, w₁, hcreate, hrest⟩ := Tx.bind_ok.mp h
  obtain ⟨tokens, htokens, rfl, rfl⟩ := Slot.create_ok hcreate
  cases hrest
  exact ⟨k, expiresAt, tokens, hk, htokens, rfl⟩

/-- The update made by `revokeAll`. -/
def Ends (userId : Nat) (w : World) (tokens : Table RefreshToken) : Prop :=
  ∃ g hg, w.refreshTokens.update (fun t => t.userId = userId && t.revokedAt.isNone) g hg
    = some tokens ∧ Revoking g

theorem revokeAll_ok {userId : Nat} (h : revokeAll userId w = .ok ((), w')) :
    ∃ tokens, Ends userId w tokens ∧ w' = { w with refreshTokens := tokens } := by
  obtain ⟨now, w₁, hread, hrest⟩ := Tx.bind_ok.mp h
  cases hread
  obtain ⟨n, w₂, hupdate, hdone⟩ := Tx.bind_ok.mp hrest
  cases hdone
  obtain ⟨tokens, htokens, -, rfl⟩ := Slot.updateMany_ok hupdate
  exact ⟨tokens, ⟨_, _, htokens, fun t => ⟨rfl, rfl, rfl⟩⟩, rfl⟩

theorem bumpTokenVersion_ok {userId : Nat} (h : bumpTokenVersion userId w = .ok ((), w')) :
    ∃ users p f hf, w.users.update p f hf = some users ∧ Keeping f ∧
      w' = { w with users := users } := by
  obtain ⟨user, w₁, hupdate, hdone⟩ := Tx.bind_ok.mp h
  cases hdone
  obtain ⟨u, users, -, husers, -, rfl⟩ := Slot.update_ok hupdate
  exact ⟨users, _, _, _, husers, fun u => ⟨rfl, rfl⟩, rfl⟩

theorem createUser_ok {email password passwordHash : String} {k : Nat} {expiresAt : Int}
    {user : User} (hpassword : env.bcryptCompare password passwordHash = true)
    (hk : Unused i k w)
    (h : createUser env email passwordHash password k expiresAt w = .ok (user, w')) :
    Effect env i .register w w' := by
  obtain ⟨row, w₁, hcreate, hrest⟩ := Tx.bind_ok.mp h
  obtain ⟨users, husers, rfl, rfl⟩ := Slot.create_ok hcreate
  obtain ⟨token, w₂, htoken, hdone⟩ := Tx.bind_ok.mp hrest
  cases hdone
  exact .register husers (fun _ => ⟨hpassword, rfl⟩) (createRefreshToken_ok hk htoken)

theorem rotate_ok {user : User} {tokenRow t : RefreshToken} {k : Nat} {expiresAt : Int}
    (hk : Unused i k w) (hrow : w.refreshTokens.get tokenRow.id = some t)
    (huser : user.id = t.userId) (h : rotate env user tokenRow k expiresAt w = .ok ((), w')) :
    Effect env i (.refresh tokenRow) w w' := by
  obtain ⟨created, w₁, hcreate, hrest⟩ := Tx.bind_ok.mp h
  obtain ⟨now, w₂, hread, hmark⟩ := Tx.bind_ok.mp hrest
  cases hread
  obtain ⟨row, w₃, hupdate, hdone⟩ := Tx.bind_ok.mp hmark
  cases hdone
  obtain ⟨t', tokens, -, htokens, -, rfl⟩ := Slot.update_ok hupdate
  exact .refresh hrow (huser ▸ createRefreshToken_ok hk hcreate) htokens
    fun t => ⟨rfl, rfl, rfl⟩

theorem detectReuse_ok {userId : Nat} (h : detectReuse userId w = .ok ((), w')) :
    Effect env i (.reuseDetected userId) w w' := by
  obtain ⟨u, w₁, hrevoke, hbump⟩ := Tx.bind_ok.mp h
  obtain ⟨tokens, ⟨g, hg, htokens, hrev⟩, rfl⟩ := revokeAll_ok hrevoke
  obtain ⟨users, p, f, hf, husers, hkeep, rfl⟩ := bumpTokenVersion_ok hbump
  exact .revokeAll (.inl rfl) husers hkeep htokens hrev

theorem endSessions_ok {userId : Nat} (h : endSessions userId w = .ok ((), w')) :
    Effect env i (.logoutAll userId) w w' := by
  obtain ⟨u, w₁, hbump, hrevoke⟩ := Tx.bind_ok.mp h
  obtain ⟨users, p, f, hf, husers, hkeep, rfl⟩ := bumpTokenVersion_ok hbump
  obtain ⟨tokens, ⟨g, hg, htokens, hrev⟩, rfl⟩ := revokeAll_ok hrevoke
  exact .revokeAll (.inr rfl) husers hkeep htokens hrev

theorem expireToken_ok {id : Nat} (h : expireToken id w = .ok ((), w')) :
    Effect env i .statement w w' := by
  obtain ⟨now, w₁, hread, hrest⟩ := Tx.bind_ok.mp h
  cases hread
  obtain ⟨row, w₂, hupdate, hdone⟩ := Tx.bind_ok.mp hrest
  cases hdone
  obtain ⟨t, tokens, -, htokens, -, rfl⟩ := Slot.update_ok hupdate
  exact .revoke htokens fun t => ⟨rfl, rfl, rfl⟩

theorem revokeToken_ok {userId : Nat} {tokenHash : String}
    (h : revokeToken userId tokenHash w = .ok ((), w')) : Effect env i .statement w w' := by
  obtain ⟨now, w₁, hread, hrest⟩ := Tx.bind_ok.mp h
  cases hread
  obtain ⟨n, w₂, hupdate, hdone⟩ := Tx.bind_ok.mp hrest
  cases hdone
  obtain ⟨tokens, htokens, -, rfl⟩ := Slot.updateMany_ok hupdate
  exact .revoke htokens fun t => ⟨rfl, rfl, rfl⟩

theorem setResetToken_ok {userId k : Nat} {expiresAt : Int} (hk : Unused i k w)
    (h : setResetToken env userId k expiresAt w = .ok ((), w')) :
    Effect env i (.requestPasswordReset userId) w w' := by
  obtain ⟨user, w₁, hupdate, hrest⟩ := Tx.bind_ok.mp h
  cases hrest
  obtain ⟨u, users, -, husers, -, rfl⟩ := Slot.update_ok hupdate
  exact .requestPasswordReset hk husers fun u => ⟨rfl, rfl⟩

theorem setPassword_ok {user : User} {passwordHash tokenHash : String}
    (h : setPassword user.id passwordHash w = .ok ((), w')) :
    Effect env i (.confirmPasswordReset user tokenHash) w w' := by
  obtain ⟨row, w₁, hupdate, hrevoke⟩ := Tx.bind_ok.mp h
  obtain ⟨u, users, -, husers, -, rfl⟩ := Slot.update_ok hupdate
  obtain ⟨tokens, ⟨g, hg, htokens, hrev⟩, rfl⟩ := revokeAll_ok hrevoke
  exact .confirmPasswordReset husers (fun u => rfl) htokens hrev

/-! Ending sessions fails only where there is no such user. -/

theorem revokeAll_ne_error (userId : Nat) (w : World) (err : HttpError) :
    revokeAll userId w ≠ .error err := by
  intro h
  obtain hread | ⟨now, w₁, hread, hrest⟩ := Tx.bind_error.mp h
  · cases hread
  · obtain hupdate | ⟨n, w₂, -, hdone⟩ := Tx.bind_error.mp hrest
    · obtain ⟨-, a, -, b, -, -, hclash⟩ := Slot.updateMany_error hupdate
      exact hclash
    · cases hdone

theorem updateUser_error {userId : Nat} {f hf} {err : HttpError}
    (h : (Db.users.update userId f hf : Transaction User) w = .error err)
    (hemail : ∀ u, (f u).email = u.email) :
    w.users.get userId = none := by
  obtain ⟨hnone, -⟩ | ⟨-, a, ha, b, hb, hne, hclash⟩ := Slot.update_error h
  · exact hnone
  · have hsame : ∀ u : User, (if Schema.key u = userId then f u else u).email = u.email := by
      intro u
      split
      · exact hemail u
      · rfl
    have hmail : a.email = b.email := (hsame a).symm.trans (Eq.trans hclash (hsame b))
    exact absurd (Table.eq_of_clash ha hb hmail) hne

theorem bumpTokenVersion_error {userId : Nat} {err : HttpError}
    (h : bumpTokenVersion userId w = .error err) : w.users.get userId = none := by
  obtain hupdate | ⟨u, w₁, -, hdone⟩ := Tx.bind_error.mp h
  · exact updateUser_error hupdate fun _ => rfl
  · cases hdone

theorem detectReuse_error {userId : Nat} {err : HttpError}
    (h : detectReuse userId w = .error err) : w.users.get userId = none := by
  obtain hrevoke | ⟨u, w₁, hrevoke, hbump⟩ := Tx.bind_error.mp h
  · exact absurd hrevoke (revokeAll_ne_error userId w err)
  · obtain ⟨tokens, -, rfl⟩ := revokeAll_ok hrevoke
    have hnone := bumpTokenVersion_error hbump
    exact hnone

theorem endSessions_error {userId : Nat} {err : HttpError}
    (h : endSessions userId w = .error err) : w.users.get userId = none := by
  obtain hbump | ⟨u, w₁, -, hrevoke⟩ := Tx.bind_error.mp h
  · exact bumpTokenVersion_error hbump
  · exact absurd hrevoke (revokeAll_ne_error userId w₁ err)

theorem setPassword_error {userId : Nat} {passwordHash : String} {err : HttpError}
    (h : setPassword userId passwordHash w = .error err) : w.users.get userId = none := by
  obtain hupdate | ⟨u, w₁, -, hrevoke⟩ := Tx.bind_error.mp h
  · exact updateUser_error hupdate fun _ => rfl
  · exact absurd hrevoke (revokeAll_ne_error userId w₁ err)

/-! ## Processes -/

theorem Unused.kept {j k : Nat} {ℓ : Commit} (hij : i ≠ j) (hk : Unused j k w)
    (h : Effect env i ℓ w w') : Unused j k w' := by
  refine ⟨h.later.drawn hk.1, fun hissued => ?_⟩
  obtain hold | hdrawn := h.issued hissued
  · exact hk.2 hold
  · exact hij (Option.some.inj (hdrawn.symm.trans hk.1))

/-- Where the condition holds, only good tokens are exchanged. -/
def Strict (ok : Commit → World → Prop) : Prop :=
  ∀ ℓ w, ok ℓ w → ∀ p, Exchanges ℓ p → p ∈ w.lineage.live

/-- Any number of steps of a lineage that renew live items only. -/
abbrev Grows (L L' : Lineage Nat String) : Prop :=
  Relation.ReflTransGen (Lineage.Step Lineage.Live) L L'

theorem Effect.step {ok : Commit → World → Prop} {ℓ : Commit} (hstrict : Strict ok)
    (h : Effect env i ℓ w w') (hinv : Inv env w) (hok : ok ℓ w) :
    Lineage.Step Lineage.Live w.lineage w'.lineage :=
  (h.lineage hinv).mono fun p hp => hstrict ℓ w hok p hp

/-- What a request relies on: rows stay, nobody else stores the random values it has drawn, and
under a strict condition the tokens change as a lineage does. -/
structure Rely (ok : Commit → World → Prop) (i : Nat) (w w' : World) : Prop where
  later : Later w w'
  unused : ∀ k, Unused i k w → Unused i k w'
  grows : Strict ok → Grows w.lineage w'.lineage

/-- Requests under the condition `ok` on commits. -/
def discipline (env : Environment) (ok : Commit → World → Prop) : Discipline World Commit where
  inv := Inv env
  ok := ok
  rely := Rely ok
  guar i ℓ w w' := Effect env i ℓ w w'
  rely_refl _ w := ⟨Later.refl w, fun _ h => h, fun _ => .refl⟩
  rely_trans h h' := ⟨h.later.trans h'.later, fun k hk => h'.unused k (h.unused k hk),
    fun hstrict => (h.grows hstrict).trans (h'.grows hstrict)⟩
  inv_guar hinv _ h := h.inv hinv
  rely_guar hij hinv hok h := ⟨h.later, fun _ hk => hk.kept hij h,
    fun hstrict => .single (h.step hstrict hinv hok)⟩

variable {ok : Commit → World → Prop} {α β : Type}

/-- Nothing is asked of the outcome. -/
abbrev Served (env : Environment) (ok : Commit → World → Prop) (i : Nat) (p : Service α)
    (w : World) : Prop :=
  (discipline env ok).Safe i (fun _ _ => True) p w

theorem served_done (r : Except HttpError α) : Served env ok i (.done r) w :=
  safe_done fun _ _ _ => trivial

theorem served_read {f : World → β} {next : β → Service α}
    (h : ∀ w', Later w w' → (∀ k, Unused i k w → Unused i k w') →
      Served env ok i (next (f w')) w') :
    Served env ok i (Proc.read f >>= next) w :=
  safe_read fun w' hrely _ => h w' hrely.later hrely.unused

theorem served_draw {next : Nat → Service α}
    (h : ∀ w' k, Later w w' → Unused i k w' → Served env ok i (next k) w') :
    Served env ok i (draw i >>= next) w := by
  refine safe_transact (fun w' k w'' hrely hw' _ hdraw => ?_) fun w' err _ _ _ hdraw => ?_
  · cases hdraw
    have heffect : Effect env i .draw w' { w' with draws := w'.draws ++ [i] } := .draw
    refine ⟨heffect, fun _ => h _ _ (hrely.later.trans heffect.later) ⟨?_, fun hk => ?_⟩⟩
    · exact List.getElem?_concat_length
    · exact absurd (hw'.drawn _ hk) (Nat.lt_irrefl _)
  · cases hdraw

/-- A transaction whose commit is listed. -/
theorem served_transact {ℓ : Commit} {tx : Transaction β} {next : Except HttpError β → Service α}
    (htx : ∀ w' b w'', Later w w' → (∀ k, Unused i k w → Unused i k w') →
      tx w' = .ok (b, w'') → Effect env i ℓ w' w'')
    (hidle : ∀ w' err, tx w' = .error err → ∀ userId, ℓ.revokes = some userId →
      w'.users.get userId = none)
    (hnext : ∀ w' r, Later w w' → Served env ok i (next r) w') :
    Served env ok i ((Proc.transact ℓ tx).finish next) w := by
  refine safe_transact (fun w' b w'' hrely _ _ hcommit => ?_) fun w' err hrely _ _ herr => ?_
  · have heffect := htx w' b w'' hrely.later hrely.unused hcommit
    exact ⟨heffect, fun _ => hnext w'' _ (hrely.later.trans heffect.later)⟩
  · exact ⟨.idle (hidle w' err herr), hnext w' _ hrely.later⟩

/-- A transaction that is not meant to end sessions. -/
theorem served_update {ℓ : Commit} {tx : Transaction β} {next : Except HttpError β → Service α}
    (hℓ : ℓ.revokes = none)
    (htx : ∀ w' b w'', Later w w' → (∀ k, Unused i k w → Unused i k w') →
      tx w' = .ok (b, w'') → Effect env i ℓ w' w'')
    (hnext : ∀ w' r, Later w w' → Served env ok i (next r) w') :
    Served env ok i ((Proc.transact ℓ tx).finish next) w := by
  refine served_transact htx (fun w' err _ userId h => ?_) hnext
  rw [hℓ] at h
  cases h

theorem register_served (email password : String) :
    Served env ok i (register env i email password) w := by
  refine served_draw fun w₁ salt _ _ => ?_
  refine served_draw fun w₂ k _ hk => ?_
  refine served_read fun w₃ _ hkeep => ?_
  have hk := hkeep k hk
  rw [Proc.tryCatch_def, Proc.bind_def, Proc.finish_assoc]
  refine served_update rfl (fun w₄ user w₅ _ hkeep hcommit => ?_) fun w₄ r _ => ?_
  · exact createUser_ok (env.compare_hash salt password) (hkeep k hk) hcommit
  · cases r with
    | ok user => exact served_done _
    | error err =>
        show Served env ok i (if err.isUniqueConstraintViolation then _ else _) w₄
        split <;> exact served_done _

theorem setFailedLoginAttempts_served {userId : Nat} {f : Nat → Nat}
    {next : Except HttpError Unit → Service α} (hnext : ∀ w' r, Later w w' →
      Served env ok i (next r) w') :
    Served env ok i ((setFailedLoginAttempts userId f).finish next) w := by
  refine served_update rfl (fun w₁ b w₂ _ _ hcommit => ?_) hnext
  obtain ⟨user, w₃, hupdate, hdone⟩ := Tx.bind_ok.mp hcommit
  cases hdone
  obtain ⟨u, users, -, husers, -, rfl⟩ := Slot.update_ok hupdate
  exact .count husers fun u => ⟨rfl, rfl⟩

/-- The row with this key is there for good once it is. -/
theorem Later.user {id : Nat} (h : Later w w') (hu : (w.users.get id).isSome) :
    (w'.users.get id).isSome := by
  obtain ⟨u, hu⟩ := Option.isSome_iff_exists.mp hu
  obtain ⟨u', hu', -⟩ := h.users.get hu
  exact Option.isSome_iff_exists.mpr ⟨u', hu'⟩

theorem startSession_served {user : User} {password : String}
    (hpassword : env.bcryptCompare password user.passwordHash = true)
    (huser : (w.users.get user.id).isSome) :
    Served env ok i (startSession env i user password) w := by
  refine served_draw fun w₁ k hlater₁ hk => ?_
  refine served_read fun w₂ hlater₂ hkeep₂ => ?_
  refine served_update rfl (fun w₃ token w₄ hlater₃ hkeep₃ hcommit => ?_) fun w₃ r _ => ?_
  · refine .login hpassword ?_ (createRefreshToken_ok (hkeep₃ k (hkeep₂ k hk)) hcommit)
    exact hlater₃.user (hlater₂.user (hlater₁.user huser))
  · cases r <;> exact served_done _

theorem login_served (email password : String) :
    Served env ok i (login env i email password) w := by
  refine served_read fun w₁ _ _ => ?_
  cases hfound : (w₁.users.findFirst (·.email = env.toLowerCase email)).filter (·.isActive) with
  | none => exact served_done _
  | some user =>
      obtain ⟨hfirst, -⟩ := Option.filter_eq_some_iff.mp hfound
      have huser : (w₁.users.get user.id).isSome := by
        have hget : w₁.users.get user.id = some user :=
          Table.get_key (Table.findFirst_some hfirst).1
        rw [hget]
        rfl
      dsimp only
      split
      · refine setFailedLoginAttempts_served fun w₂ r _ => ?_
        cases r <;> exact served_done _
      · next hcompare =>
        have hpassword : env.bcryptCompare password user.passwordHash = true := by
          simpa using hcompare
        unfold clearFailedLoginAttempts
        split
        · refine setFailedLoginAttempts_served fun w₂ r hlater => ?_
          cases r with
          | ok u => exact startSession_served hpassword (hlater.user huser)
          | error err => exact served_done _
        · exact startSession_served hpassword huser

/-- The row that was read is there, perhaps revoked by now. -/
def Held (tokenRow : RefreshToken) (w : World) : Prop :=
  ∃ t, w.refreshTokens.get tokenRow.id = some t ∧ t.userId = tokenRow.userId

theorem Held.later {tokenRow : RefreshToken} (h : Held tokenRow w) (hlater : Later w w') :
    Held tokenRow w' := by
  obtain ⟨t, ht, huser⟩ := h
  obtain ⟨t', ht', hsame, -⟩ := hlater.tokens.get ht
  exact ⟨t', ht', hsame.trans huser⟩

theorem exchange_served {tokenRow : RefreshToken} (hrow : Held tokenRow w) :
    Served env ok i (exchange env i tokenRow) w := by
  refine served_read fun w₁ hlater₁ _ => ?_
  cases hfound : (w₁.users.get tokenRow.userId).filter (·.isActive) with
  | none => exact served_done _
  | some user =>
      obtain ⟨hget, -⟩ := Option.filter_eq_some_iff.mp hfound
      have huser : user.id = tokenRow.userId := (Table.get_eq_some.mp hget).2
      refine served_draw fun w₂ k hlater₂ hk => ?_
      refine served_read fun w₃ hlater₃ hkeep₃ => ?_
      refine served_update rfl (fun w₄ u w₅ hlater₄ hkeep₄ hcommit => ?_) fun w₄ r _ => ?_
      · have hlater : Later w w₄ := ((hlater₁.trans hlater₂).trans hlater₃).trans hlater₄
        obtain ⟨t, ht, hsame⟩ := hrow.later hlater
        exact rotate_ok (hkeep₄ k (hkeep₃ k hk)) ht (huser.trans hsame.symm) hcommit
      · cases r <;> exact served_done _

theorem refreshRow_served {tokenRow : RefreshToken} (hrow : Held tokenRow w) :
    Served env ok i (refreshRow env i tokenRow) w := by
  unfold refreshRow
  split
  · refine served_transact (fun w₁ u w₂ _ _ hcommit => detectReuse_ok hcommit)
      (fun w₁ err herr userId hu => ?_) fun w₁ r _ => ?_
    · cases hu
      exact detectReuse_error herr
    · cases r <;> exact served_done _
  · refine served_read fun w₁ hlater _ => ?_
    split
    · refine served_update rfl (fun w₂ u w₃ _ _ hcommit => expireToken_ok hcommit) fun w₂ r _ => ?_
      cases r <;> exact served_done _
    · exact exchange_served (hrow.later hlater)

theorem refresh_served (rawToken : Option String) :
    Served env ok i (refresh env i rawToken) w := by
  unfold refresh
  cases JavaScript.truthy rawToken with
  | none => exact served_done _
  | some rawToken =>
      refine served_read fun w₁ _ _ => ?_
      cases hfound : w₁.refreshTokens.findFirst
          (·.tokenHash = env.hashRefreshToken rawToken) with
      | none => exact served_done _
      | some tokenRow =>
          have hget : w₁.refreshTokens.get tokenRow.id = some tokenRow :=
            Table.get_key (Table.findFirst_some hfound).1
          exact refreshRow_served ⟨tokenRow, hget, rfl⟩

theorem requestPasswordReset_served (email : String) :
    Served env ok i (requestPasswordReset env i email) w := by
  refine served_read fun w₁ _ _ => ?_
  cases (w₁.users.findFirst (·.email = env.toLowerCase email)).filter (·.isActive) with
  | none => exact served_done _
  | some user =>
      refine served_draw fun w₂ k _ hk => ?_
      refine served_read fun w₃ _ hkeep₃ => ?_
      rw [← Proc.finish_done (Proc.transact _ _)]
      refine served_update rfl (fun w₄ u w₅ _ hkeep₄ hcommit => ?_) fun w₄ r _ => served_done r
      exact setResetToken_ok (hkeep₄ k (hkeep₃ k hk)) hcommit

theorem confirmPasswordReset_served (token newPassword : String) :
    Served env ok i (confirmPasswordReset env i token newPassword) w := by
  refine served_read fun w₁ _ _ => ?_
  cases w₁.users.findFirst
      (·.passwordResetTokenHash = some (env.hashResetToken token)) with
  | none => exact served_done _
  | some user =>
      refine served_read fun w₂ _ _ => ?_
      split
      · exact served_done _
      · refine served_draw fun w₃ salt _ _ => ?_
        rw [← Proc.finish_done (Proc.transact _ _)]
        refine served_transact (fun w₄ u w₅ _ _ hcommit => setPassword_ok hcommit)
          (fun w₄ err herr userId hu => ?_) fun w₄ r _ => served_done r
        cases hu
        exact setPassword_error herr

/-- What follows the work of a request only makes the answer. -/
theorem Served.answer {p : Service α} {answer : α → β} (h : Served env ok i p w)
    (hinv : Inv env w) : Served env ok i (answer <$> p) w := by
  refine Safe.finish h hinv fun w' r _ _ => ?_
  cases r <;> exact served_done _

theorem handle_served (req : Request) (hinv : Inv env w) :
    Served env ok i (handle env i req) w := by
  cases req with
  | register email password => exact (register_served email password).answer hinv
  | login email password => exact (login_served email password).answer hinv
  | refresh rawToken => exact (refresh_served rawToken).answer hinv
  | logout userId rawToken =>
      unfold handle logout
      dsimp only
      cases JavaScript.truthy rawToken with
      | none => exact served_done _
      | some rawToken =>
          refine served_update rfl (fun w₁ u w₂ _ _ hcommit => revokeToken_ok hcommit)
            fun w₁ r _ => ?_
          cases r <;> exact served_done _
  | logoutAll userId =>
      refine served_transact (fun w₁ u w₂ _ _ hcommit => endSessions_ok hcommit)
        (fun w₁ err herr userId hu => ?_) fun w₁ r _ => ?_
      · cases hu
        exact endSessions_error herr
      · cases r <;> exact served_done _
  | requestPasswordReset email =>
      refine (requestPasswordReset_served email).finish hinv fun w₁ r _ _ => ?_
      cases r <;> exact served_done _
  | confirmPasswordReset token newPassword =>
      refine (confirmPasswordReset_served token newPassword).finish hinv fun w₁ r _ _ => ?_
      cases r <;> exact served_done _
  | tick elapsed =>
      unfold handle tick
      refine served_update rfl (fun w₁ u w₂ _ _ hcommit => ?_) fun w₁ r _ => ?_
      · cases hcommit
        exact .tick elapsed
      · cases r <;> exact served_done _

/-! ## Runs -/

/-- The runs of the service under the condition `ok` on commits. -/
abbrev Reaches (env : Environment) (ok : Commit → World → Prop) :
    AuthConfig → AuthConfig → Prop :=
  Run (handle env) (fun _ _ => True) ok

abbrev Takes (env : Environment) (ok : Commit → World → Prop) :
    AuthConfig → AuthConfig → Prop :=
  Step (handle env) (fun _ _ => True) ok

/-- Every request is being served. -/
abbrev Serving (env : Environment) (ok : Commit → World → Prop) (c : AuthConfig) : Prop :=
  (discipline env ok).Holds (fun _ _ _ _ => True) c

variable {c c' : AuthConfig}

theorem serving_initial (now : Int) {users : Table User}
    (h : ∀ u ∈ users, u.passwordResetTokenHash = none) :
    Serving env ok ⟨.initial now users, []⟩ :=
  holds_idle (inv_initial env now h)

theorem Serving.run (h : Serving env ok c) (hrun : Reaches env ok c c') : Serving env ok c' := by
  refine Holds.run (Nat.zero_le _) (fun i req w _ hinv _ => ?_) h hrun
  exact handle_served req hinv

theorem Serving.effect (h : Serving env ok c) (hstep : Takes env ok c c') :
    c'.state = c.state ∨ ∃ i ℓ, ok ℓ c.state ∧ Effect env i ℓ c.state c'.state :=
  h.commit hstep

end PrintForge.Auth
