import PrintForge.Auth.Guarantees

/-!
# Revocation is complete

Ending the sessions of a user ends what descends from them later as well, a session that was
begun with a password does not outlive the password, and a reset token is good for one reset.
-/

namespace PrintForge.Auth

open Relational Concurrent Discipline

variable {env : Environment} {w w' : World} {i : Nat}

/-- What a commit has read is still so: the token it exchanges is good, the password it lets in
is the user's, and the reset token it takes is the user's. -/
def Guarded : Commit → World → Prop
  | .refresh tokenRow, w => (w.refreshTokens.get tokenRow.id).any (·.revokedAt.isNone) = true
  | .login user, w => (w.users.get user.id).any (·.passwordHash = user.passwordHash) = true
  | .confirmPasswordReset user tokenHash, w =>
      (w.users.get user.id).any (·.passwordResetTokenHash = some tokenHash) = true
  | _, _ => True

instance : ∀ ℓ w, Decidable (Guarded ℓ w)
  | .refresh _, _ | .login _, _ | .confirmPasswordReset _ _, _ =>
      inferInstanceAs (Decidable (_ = true))
  | .statement, _ | .draw, _ | .register, _ | .reuseDetected _, _ | .logoutAll _, _
  | .requestPasswordReset _, _ => inferInstanceAs (Decidable True)

theorem strict_guarded : Strict Guarded := by
  intro ℓ w hok p hp
  obtain ⟨tokenRow, rfl, rfl⟩ := hp
  exact strict_exchangesGood (.refresh tokenRow) w hok tokenRow.id ⟨tokenRow, rfl, rfl⟩

/-! ## Passwords -/

variable (env) in
/-- The password is that of the token's user. -/
def Fits (w : World) (id : Nat) (password : String) : Prop :=
  ∃ t u, w.refreshTokens.get id = some t ∧ w.users.get t.userId = some u ∧
    env.bcryptCompare password u.passwordHash = true

theorem get_updateUser {users : Table User} {p f hf} {id : Nat} {u : User}
    (hu : w.users.update p f hf = some users) (hget : w.users.get id = some u)
    (hkeep : (f u).passwordHash = u.passwordHash) :
    ∃ u', users.get id = some u' ∧ u'.passwordHash = u.passwordHash := by
  refine ⟨if p u then f u else u, ?_, ?_⟩
  · rw [Table.get_update hu, hget]
    rfl
  · split
    · exact hkeep
    · rfl

/-- The password of a user changes only with a reset. -/
theorem Effect.password {ℓ : Commit} {id : Nat} {u : User} (h : Effect env i ℓ w w')
    (hget : w.users.get id = some u) :
    (∃ u', w'.users.get id = some u' ∧ u'.passwordHash = u.passwordHash) ∨
      ℓ.revokes = some id := by
  cases h with
  | count hu hkeep => exact .inl (get_updateUser hu hget (hkeep u).1)
  | @register w w' users row hk password hu hrow h =>
      obtain ⟨k, expiresAt, tokens, -, -, rfl⟩ := h
      refine .inl ⟨u, ?_, rfl⟩
      show users.get id = some u
      rw [Table.get_create hu, if_neg]
      · exact hget
      · rintro rfl
        rw [Table.get_eq_none_of_le (Nat.le_refl _)] at hget
        cases hget
  | login hpassword huser h =>
      obtain ⟨k, expiresAt, tokens, -, -, rfl⟩ := h
      exact .inl ⟨u, hget, rfl⟩
  | refresh hrow h ht hrev =>
      obtain ⟨k, expiresAt, tokens, -, -, rfl⟩ := h
      exact .inl ⟨u, hget, rfl⟩
  | revokeAll hℓ hu hkeep ht hrev => exact .inl (get_updateUser hu hget (hkeep u).1)
  | requestPasswordReset hk hu hreset => exact .inl (get_updateUser hu hget (hreset u).1)
  | @confirmPasswordReset w user tokenHash users tokens f hf g hg hu hreset ht hrev =>
      by_cases hid : user.id = id
      · exact .inr (congrArg some hid)
      · refine .inl ⟨u, ?_, rfl⟩
        have hkey : decide (Schema.key u = user.id) = false :=
          decide_eq_false fun hkey => hid (hkey.symm.trans (Table.get_eq_some.mp hget).2)
        show users.get id = some u
        rw [Table.get_update hu, hget, Option.map_some, hkey]
        rfl
  | _ => exact .inl ⟨u, hget, rfl⟩

/-- Whoever gets a first token has the user's password. -/
theorem Effect.root {ℓ : Commit} {id : Nat} {password : String} (h : Effect env i ℓ w w')
    (hok : Guarded ℓ w) (hnew : w.origins id = none)
    (hroot : w'.origins id = some (.root password)) : Fits env w' id password := by
  -- a root is the new row of an insert that has the password as its source
  have hissue : ∀ {v userId source}, Issues env i userId source v w' → v.origins id = none →
      source = .root password ∧ ∃ t, w'.refreshTokens.get id = some t ∧ t.userId = userId ∧
        w'.users = v.users := by
    rintro v userId source ⟨k, expiresAt, tokens, -, ht, rfl⟩ hnone
    have hid : id = v.refreshTokens.nextKey := by
      by_contra hne
      have hold : v.origins id = some (.root password) :=
        (Function.update_of_ne hne _ _).symm.trans hroot
      cases hnone.symm.trans hold
    subst hid
    refine ⟨?_, ⟨v.refreshTokens.nextKey, userId, env.hashRefreshToken (env.opaqueToken k),
      expiresAt, none, none⟩, ?_, rfl, rfl⟩
    · have hroot' : Function.update v.origins v.refreshTokens.nextKey (some source)
        v.refreshTokens.nextKey = some (.root password) := hroot
      rw [Function.update_self] at hroot'
      exact Option.some.inj hroot'
    · show tokens.get _ = _
      rw [Table.get_create ht, if_pos rfl]
  cases h with
  | @register w w' users row hk password' hu hrow h =>
      obtain ⟨hsource, t, ht, huser, husers⟩ := hissue h hnew
      cases hsource
      refine ⟨t, row w.users.nextKey, ht, ?_, (hrow _).1⟩
      rw [husers, huser]
      exact (Table.get_create hu _).trans (if_pos rfl)
  | login hpassword huser h =>
      obtain ⟨hsource, t, ht, huser', husers⟩ := hissue h hnew
      cases hsource
      obtain ⟨u, hu, hsame⟩ := (Option.any_eq_true ..).mp hok
      refine ⟨t, u, ht, ?_, ?_⟩
      · rw [husers, huser']
        exact hu
      · rw [of_decide_eq_true hsame]
        exact hpassword
  | @refresh w w₁ tokens tokenRow t f hf hrow h ht hrev =>
      obtain ⟨k, expiresAt, tokens₁, -, -, rfl⟩ := h
      by_cases hid : id = w.refreshTokens.nextKey
      · subst hid
        have hroot' : Function.update w.origins w.refreshTokens.nextKey
          (some (.renewal tokenRow.id)) w.refreshTokens.nextKey = some (.root password) := hroot
        rw [Function.update_self] at hroot'
        cases hroot'
      · cases hnew.symm.trans ((Function.update_of_ne hid _ _).symm.trans hroot)
  | _ => cases hnew.symm.trans hroot

/-- What lives was obtained with a password that is still the user's. -/
theorem Effect.vouched {ℓ : Commit} (h : Effect env i ℓ w w') (hinv : Inv env w)
    (hok : Guarded ℓ w) (hv : w.lineage.Vouched (Fits env w)) :
    w'.lineage.Vouched (Fits env w') := by
  have hstep : Lineage.Step Lineage.Live w.lineage w'.lineage := h.step strict_guarded hinv hok
  have hinv' : Inv env w' := h.inv hinv
  refine hv.step hinv.grown hstep (fun x a hx hroot => h.root hok hx hroot)
    (fun x p a hx hxp hp hfits => ?_) fun x hx hx' a hfits => ?_
  · -- the renewal belongs to the same user, whose password is not being changed
    obtain ⟨t, u, ht, hu, hpassword⟩ := hfits
    obtain ⟨b, b', hb, hb', hsame⟩ := hinv'.family x p hxp
    obtain ⟨t', ht', hown, -⟩ := h.later.tokens.get ht
    cases hb'.symm.trans ht'
    obtain ⟨tokenRow, rfl, -⟩ := (h.lineage hinv).renewed hx hxp
    obtain ⟨u', hu', hhash⟩ | hrevokes := h.password hu
    · refine ⟨b, u', hb, ?_, ?_⟩
      · rw [hsame, hown]
        exact hu'
      · rw [hhash]
        exact hpassword
    · cases hrevokes
  · obtain ⟨t, u, ht, hu, hpassword⟩ := hfits
    obtain ⟨t', ht', hown, -⟩ := h.later.tokens.get ht
    obtain ⟨u', hu', hhash⟩ | hrevokes := h.password hu
    · refine ⟨t', u', ht', ?_, ?_⟩
      · rw [hown]
        exact hu'
      · rw [hhash]
        exact hpassword
    · exact absurd hx' (h.ends hinv hrevokes x ⟨t, ht, rfl⟩ x .refl)

/-! ## Reset tokens -/

variable (env) in
/-- The reset token has been handed out and is nobody's any more. -/
def Spent (tokenHash : String) (w : World) : Prop :=
  (∃ k ∈ w.issued, tokenHash = env.hashResetToken (env.opaqueToken k)) ∧
    ∀ u ∈ w.users, u.passwordResetTokenHash ≠ some tokenHash

theorem spent_update {tokenHash : String} {users : Table User} {p f hf}
    (h : ∀ u ∈ w.users, u.passwordResetTokenHash ≠ some tokenHash)
    (hu : w.users.update p f hf = some users)
    (hf' : ∀ u, (f u).passwordResetTokenHash = some tokenHash →
      u.passwordResetTokenHash = some tokenHash) :
    ∀ u ∈ users, u.passwordResetTokenHash ≠ some tokenHash := by
  intro u hmem hreset
  obtain ⟨u₀, hu₀, rfl⟩ := (Table.mem_update hu).mp hmem
  split at hreset
  · exact h u₀ hu₀ (hf' u₀ hreset)
  · exact h u₀ hu₀ hreset

theorem Effect.spent {ℓ : Commit} {tokenHash : String} (h : Effect env i ℓ w w')
    (hs : Spent env tokenHash w) : Spent env tokenHash w' := by
  obtain ⟨⟨k, hk, hhash⟩, hnone⟩ := hs
  cases h with
  | count hu hkeep =>
      exact ⟨⟨k, hk, hhash⟩, spent_update hnone hu fun u => hkeep.resets u tokenHash⟩
  | register hu hrow h =>
      obtain ⟨k', expiresAt, tokens, -, -, rfl⟩ := h
      refine ⟨⟨k, List.mem_cons_of_mem _ hk, hhash⟩, fun u hmem hreset => ?_⟩
      obtain hmem | rfl := (Table.mem_create hu).mp hmem
      · exact hnone u hmem hreset
      · rw [(hrow _).2] at hreset
        cases hreset
  | login hpassword huser h =>
      obtain ⟨k', expiresAt, tokens, -, -, rfl⟩ := h
      exact ⟨⟨k, List.mem_cons_of_mem _ hk, hhash⟩, hnone⟩
  | refresh hrow h ht hrev =>
      obtain ⟨k', expiresAt, tokens, -, -, rfl⟩ := h
      exact ⟨⟨k, List.mem_cons_of_mem _ hk, hhash⟩, hnone⟩
  | revokeAll hℓ hu hkeep ht hrev =>
      exact ⟨⟨k, hk, hhash⟩, spent_update hnone hu fun u => hkeep.resets u tokenHash⟩
  | @requestPasswordReset w userId users f hf k' hunused hu hreset =>
      refine ⟨⟨k, List.mem_cons_of_mem _ hk, hhash⟩, spent_update hnone hu fun u hr => ?_⟩
      -- the new token is made of another value
      have hsame := Option.some.inj ((hreset u).2.symm.trans hr)
      rw [hhash] at hsame
      cases env.resetToken_injective hsame
      exact absurd hk hunused.2
  | confirmPasswordReset hu hreset ht hrev =>
      refine ⟨⟨k, hk, hhash⟩, spent_update hnone hu fun u hr => ?_⟩
      rw [hreset u] at hr
      cases hr
  | _ => exact ⟨⟨k, hk, hhash⟩, hnone⟩

/-- A reset takes the token from the user who had it. -/
theorem Effect.spends {user : User} {tokenHash : String}
    (h : Effect env i (.confirmPasswordReset user tokenHash) w w') (hinv : Inv env w)
    (hok : Guarded (.confirmPasswordReset user tokenHash) w) : Spent env tokenHash w' := by
  obtain ⟨u, hu, hreset⟩ := (Option.any_eq_true ..).mp hok
  have hreset : u.passwordResetTokenHash = some tokenHash := of_decide_eq_true hreset
  obtain ⟨hmem, hid⟩ := Table.get_eq_some.mp hu
  obtain ⟨k, hk, hhash⟩ := hinv.resets u hmem tokenHash hreset
  cases h with
  | idle hnone =>
      rw [hnone user.id rfl] at hu
      cases hu
  | revokeAll hrevokes =>
      obtain hrevokes | hrevokes := hrevokes <;> cases hrevokes
  | @confirmPasswordReset w user tokenHash users tokens f hf g hg hupdate hcleared ht hrev =>
      refine ⟨⟨k, hk, hhash⟩, fun v hv hr => ?_⟩
      obtain ⟨v₀, hv₀, rfl⟩ := (Table.mem_update hupdate).mp hv
      split at hr
      · rw [hcleared v₀] at hr
        cases hr
      · next hkey =>
        have hsame : u.id = v₀.id := hinv.single u hmem v₀ hv₀ tokenHash hreset hr
        exact hkey (decide_eq_true (hsame.symm.trans hid))

/-! ## Runs -/

variable {ok : Commit → World → Prop} {a b c : AuthConfig}

/-- The next thing a request in flight does is the commit `ℓ`. -/
def Makes (ok : Commit → World → Prop) (ℓ : Commit) (a b : AuthConfig) : Prop :=
  ∃ i req p, a.flights[i]? = some (req, p) ∧ p.label = some ℓ ∧ Advances ok i a b

theorem Makes.step {ℓ : Commit} (h : Makes ok ℓ a b) : Takes env ok a b := by
  obtain ⟨i, req, p, -, -, hadvance⟩ := h
  exact hadvance.step

theorem Makes.effect {ℓ : Commit} (h : Makes ok ℓ a b) (ha : Serving env ok a) :
    ok ℓ a.state ∧ ∃ i, Effect env i ℓ a.state b.state := by
  obtain ⟨i, req, p, hi, hlabel, req', p₀, p', hi', hp, hok, -⟩ := h
  cases hi.symm.trans hi'
  have hsafe := ha.safe i req p hi
  cases p with
  | done r => cases hlabel
  | query next => cases hlabel
  | commit ℓ' upd next =>
      cases hlabel
      have hℓ := hok ℓ rfl
      obtain ⟨-, hs⟩ := Prod.mk.inj (Option.some.inj hp)
      have heffect : Effect env i ℓ a.state (upd a.state) :=
        (hsafe a.state ((discipline env ok).rely_refl i _) ha.inv hℓ).1
      rw [hs] at heffect
      exact ⟨hℓ, i, heffect⟩

theorem Serving.vouched (h : Serving env Guarded a) (hrun : Reaches env Guarded a c)
    (hv : a.state.lineage.Vouched (Fits env a.state)) :
    c.state.lineage.Vouched (Fits env c.state) := by
  induction hrun with
  | refl => exact hv
  | tail hbefore hstep ih =>
      have hb := h.run hbefore
      obtain hsame | ⟨i, ℓ, hok, heffect⟩ := hb.effect hstep
      · rw [hsame]
        exact ih
      · exact heffect.vouched hb.inv hok ih

theorem Serving.spent {tokenHash : String} (h : Serving env Guarded a)
    (hrun : Reaches env Guarded a c) (hs : Spent env tokenHash a.state) :
    Spent env tokenHash c.state := by
  induction hrun with
  | refl => exact hs
  | tail hbefore hstep ih =>
      obtain hsame | ⟨i, ℓ, -, heffect⟩ := (h.run hbefore).effect hstep
      · rw [hsame]
        exact ih
      · exact heffect.spent ih

/-- As long as no commit is overtaken by another one: after the sessions of a user have been
ended, nothing that descends from one lives; what lives was obtained with a password that is
still the user's; and a reset token is not used again. -/
theorem revocation_complete (now : Int) {users : Table User}
    (husers : ∀ u ∈ users, u.passwordResetTokenHash = none) {a b c : AuthConfig} {ℓ : Commit}
    {userId : Nat} (hrun : Reaches env Guarded ⟨.initial now users, []⟩ a)
    (hrevoke : Makes Guarded ℓ a b) (hℓ : ℓ.revokes = some userId)
    (hlater : Reaches env Guarded b c) :
    (∀ s ∈ tokensOf userId a.state, ∀ x, c.state.lineage.Descends x s →
        x ∉ c.state.lineage.live) ∧
      (∀ x ∈ c.state.lineage.live, ∀ password, c.state.lineage.Obtained x password →
        Fits env c.state x password) ∧
      ∀ user tokenHash d user', ℓ = .confirmPasswordReset user tokenHash →
        ¬ Makes Guarded (.confirmPasswordReset user' tokenHash) c d := by
  have hstart : Serving env Guarded ⟨.initial now users, []⟩ := serving_initial now husers
  have ha : Serving env Guarded a := hstart.run hrun
  have hb : Serving env Guarded b := ha.run (.single hrevoke.step)
  have hc : Serving env Guarded c := hb.run hlater
  obtain ⟨hok, i, heffect⟩ := hrevoke.effect ha
  refine ⟨?_, ?_, ?_⟩
  · exact hb.dead strict_guarded (tokensOf_later heffect.later) (heffect.ends ha.inv hℓ) hlater
  · have hnone : (World.initial now users).lineage.Vouched (Fits env (.initial now users)) := by
      intro x hx
      obtain ⟨t, ht, -⟩ := hx
      cases ht
    exact hstart.vouched ((hrun.tail hrevoke.step).trans hlater) hnone
  · rintro user tokenHash d user' rfl hagain
    have hspent : Spent env tokenHash c.state := hb.spent hlater (heffect.spends ha.inv hok)
    obtain ⟨hok', -⟩ := hagain.effect hc
    obtain ⟨u, hu, hreset⟩ := (Option.any_eq_true ..).mp hok'
    exact hspent.2 u (Table.get_eq_some.mp hu).1 (of_decide_eq_true hreset)

/-! ### Runs with one user -/

theorem makes_of_act [∀ ℓ w, Decidable (ok ℓ w)] {ℓ : Commit}
    (h : act (handle env) (fun _ _ => True) ok (.advance i) a = some b)
    (hlabel : (a.flights[i]?.bind (·.2.label)) = some ℓ) : Makes ok ℓ a b := by
  obtain ⟨⟨req, p⟩, hi, hp⟩ := Option.bind_eq_some_iff.mp hlabel
  exact ⟨i, req, p, hi, hp, act_advances h⟩

/-- The token is there and good. -/
def good (id : Nat) (w : World) : Bool := (w.refreshTokens.get id).any (·.revokedAt.isNone)

theorem live_of_good {id : Nat} (h : good id w = true) : id ∈ w.lineage.live := by
  obtain ⟨t, ht, hnone⟩ := (Option.any_eq_true ..).mp h
  exact ⟨t, ht, by simpa using hnone⟩

/-- Follow a schedule, let request `i` make a commit, and follow another schedule. -/
def around (ok : Commit → World → Prop) [∀ ℓ w, Decidable (ok ℓ w)] (ℓ : Commit) (i : Nat)
    (before after : List (Action Request)) (P : World → World → Bool) : Bool :=
  (follow ok before).any fun a =>
    decide ((a.flights[i]?.bind (·.2.label)) = some ℓ) &&
      (act (handle plainEnvironment) (fun _ _ => True) ok (.advance i) a).any fun b =>
        (exec (handle plainEnvironment) (fun _ _ => True) ok after b).any fun c =>
          P a.state c.state

theorem around_run [∀ ℓ w, Decidable (ok ℓ w)] {ℓ : Commit} {before after : List (Action Request)}
    {P : World → World → Bool} (h : around ok ℓ i before after P = true) :
    ∃ a b c, Reaches plainEnvironment ok ⟨.initial 0 .empty, []⟩ a ∧ Makes ok ℓ a b ∧
      Reaches plainEnvironment ok b c ∧ P a.state c.state = true := by
  obtain ⟨a, ha, h⟩ := exec_any h
  obtain ⟨hlabel, h⟩ := Bool.and_eq_true_iff.mp h
  obtain ⟨b, hb, h⟩ := (Option.any_eq_true ..).mp h
  obtain ⟨c, hc, hP⟩ := exec_any h
  exact ⟨a, b, c, ha, makes_of_act hb (of_decide_eq_true hlabel), hc, hP⟩

/-- The user logs out everywhere after an exchange. -/
theorem revocation_complete_logoutAll :
    ∃ a b c : AuthConfig, Makes Guarded (.logoutAll 0) a b ∧ good 1 a.state = true ∧
      1 ∉ c.state.lineage.live := by
  have hrun : around Guarded (.logoutAll 0) 2
      (registered ++ serve 1 (.refresh (some "xx")) 6 ++ [.accept (.logoutAll 0)]) []
      (fun w _ => good 1 w && decide ((w.refreshTokens.get 1).any (·.userId = 0) = true))
      = true := by
    decide +kernel
  obtain ⟨a, b, c, ha, hmake, hc, hP⟩ := around_run hrun
  obtain ⟨hgood, hown⟩ := Bool.and_eq_true_iff.mp hP
  obtain ⟨t, ht, huser⟩ := (Option.any_eq_true ..).mp (of_decide_eq_true hown)
  exact ⟨a, b, c, hmake, hgood, (revocation_complete 0
    (fun _ hu => absurd hu (Table.not_mem_empty _)) ha hmake rfl hc).1 1
    ⟨t, ht, of_decide_eq_true huser⟩ 1 .refl⟩

/-- An exchange that is under way when the user logs out everywhere goes through after that. -/
theorem session_outlives_logoutAll :
    ¬ ∀ (env : Environment) (now : Int) (users : Table User) (a b c : AuthConfig) (ℓ : Commit)
      (userId : Nat), (∀ u ∈ users, u.passwordResetTokenHash = none) →
        Reaches env (fun _ _ => True) ⟨.initial now users, []⟩ a →
        Makes (fun _ _ => True) ℓ a b → ℓ.revokes = some userId →
        Reaches env (fun _ _ => True) b c →
          ∀ s ∈ tokensOf userId a.state, ∀ x, c.state.lineage.Descends x s →
            x ∉ c.state.lineage.live := by
  have hrun : around (fun _ _ => True) (.logoutAll 0) 2
      (registered ++ serve 1 (.refresh (some "xx")) 5 ++ [.accept (.logoutAll 0)]) [.advance 1]
      (fun w w' => decide ((w.refreshTokens.get 0).any (·.userId = 0) = true) &&
        (good 1 w' && decide (w'.lineage.Renews 1 0))) = true := by
    decide +kernel
  obtain ⟨a, b, c, ha, hmake, hc, hP⟩ := around_run hrun
  obtain ⟨hown, hP⟩ := Bool.and_eq_true_iff.mp hP
  obtain ⟨hgood, hrenews⟩ := Bool.and_eq_true_iff.mp hP
  obtain ⟨t, ht, huser⟩ := (Option.any_eq_true ..).mp (of_decide_eq_true hown)
  intro hall
  exact hall plainEnvironment 0 .empty a b c (.logoutAll 0) 0
    (fun _ hu => absurd hu (Table.not_mem_empty _)) ha hmake rfl hc 0
    ⟨t, ht, of_decide_eq_true huser⟩ 1 (.single (of_decide_eq_true hrenews)) (live_of_good hgood)

/-- The user asks for a reset and has the token, the third random value. -/
def resetAsked (i : Nat) : List (Action Request) :=
  serve i (.requestPasswordReset "a@example.com") 4

/-- A login that has compared the old password begins its session after the reset. -/
theorem login_outlives_password :
    ∃ c : AuthConfig, Reaches plainEnvironment (fun _ _ => True) ⟨.initial 0 .empty, []⟩ c ∧
      1 ∈ c.state.lineage.live ∧ c.state.lineage.Obtained 1 "first" ∧
      ¬ Fits plainEnvironment c.state 1 "first" := by
  have hrun : (follow (fun _ _ => True) (registered ++ resetAsked 1 ++
      serve 2 (.login "a@example.com" "first") 1 ++
      serve 3 (.confirmPasswordReset "xxx" "second") 4 ++ List.replicate 3 (.advance 2))).any
        (fun c => good 1 c.state && decide (c.state.origins 1 = some (.root "first") ∧
          (c.state.refreshTokens.get 1).all (fun t => (c.state.users.get t.userId).all
            (·.passwordHash ≠ "first")) = true)) = true := by
    decide +kernel
  obtain ⟨c, hc, h⟩ := exec_any hrun
  obtain ⟨hgood, h⟩ := Bool.and_eq_true_iff.mp h
  obtain ⟨hroot, hother⟩ := of_decide_eq_true h
  refine ⟨c, hc, live_of_good hgood, ⟨1, .refl, hroot⟩, ?_⟩
  rintro ⟨t, u, ht, hu, hfits⟩
  rw [ht, Option.all_some, hu, Option.all_some] at hother
  exact absurd (beq_iff_eq.mp hfits).symm (of_decide_eq_true hother)

/-- Two requests that have both found the reset token change the password one after the other. -/
theorem reset_token_used_twice :
    ∃ a b c d : AuthConfig, ∃ user : User,
      Reaches plainEnvironment (fun _ _ => True) ⟨.initial 0 .empty, []⟩ a ∧
      Makes (fun _ _ => True) (.confirmPasswordReset user "xxx") a b ∧
      Reaches plainEnvironment (fun _ _ => True) b c ∧
      Makes (fun _ _ => True) (.confirmPasswordReset user "xxx") c d ∧
      a.state.users.rows.map (·.passwordHash) = ["first"] ∧
      c.state.users.rows.map (·.passwordHash) = ["second"] ∧
      d.state.users.rows.map (·.passwordHash) = ["third"] := by
  let user : User := ⟨0, "a@example.com", "first", 0, 0, some "xxx", some 1800000, true⟩
  have hrun : (follow (fun _ _ => True) (registered ++ resetAsked 1 ++
      serve 2 (.confirmPasswordReset "xxx" "second") 3 ++
      serve 3 (.confirmPasswordReset "xxx" "third") 3)).any (fun a =>
        decide ((a.flights[2]?.bind (·.2.label)) = some (.confirmPasswordReset user "xxx") ∧
          a.state.users.rows.map (·.passwordHash) = ["first"]) &&
        (act (handle plainEnvironment) (fun _ _ => True) (fun _ _ => True) (.advance 2) a).any
          fun b => decide ((b.flights[3]?.bind (·.2.label))
              = some (.confirmPasswordReset user "xxx") ∧
            b.state.users.rows.map (·.passwordHash) = ["second"]) &&
          (act (handle plainEnvironment) (fun _ _ => True) (fun _ _ => True) (.advance 3) b).any
            fun d => decide (d.state.users.rows.map (·.passwordHash) = ["third"])) = true := by
    decide +kernel
  obtain ⟨a, ha, h⟩ := exec_any hrun
  obtain ⟨hfirst, h⟩ := Bool.and_eq_true_iff.mp h
  obtain ⟨b, hb, h⟩ := (Option.any_eq_true ..).mp h
  obtain ⟨hsecond, h⟩ := Bool.and_eq_true_iff.mp h
  obtain ⟨d, hd, h⟩ := (Option.any_eq_true ..).mp h
  obtain ⟨hlabel, hold⟩ := of_decide_eq_true hfirst
  obtain ⟨hlabel', hnew⟩ := of_decide_eq_true hsecond
  exact ⟨a, b, b, d, user, ha, makes_of_act hb hlabel, .refl, makes_of_act hd hlabel', hold, hnew,
    of_decide_eq_true h⟩

end PrintForge.Auth
