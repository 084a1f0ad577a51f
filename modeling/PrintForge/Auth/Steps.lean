import PrintForge.Auth.Service
import PrintForge.Concurrent.Discipline

/-!
# What the commits of the authentication service do

`Effect` lists them. Whatever is in the database stays there: tokens are only ever revoked, and a
random value that has been stored was drawn by the request that stored it. Seen as a lineage, the
refresh tokens change by the steps of one.
-/

namespace PrintForge.Auth

open Relational Concurrent

/-- The token is revoked and otherwise keeps what it is known by. -/
def Revoking (f : RefreshToken → RefreshToken) : Prop :=
  ∀ t, (f t).userId = t.userId ∧ (f t).tokenHash = t.tokenHash ∧ (f t).revokedAt.isSome

/-- The credentials of the user stay as they are. -/
def Keeping (f : User → User) : Prop :=
  ∀ u, (f u).passwordHash = u.passwordHash ∧
    (f u).passwordResetTokenHash = u.passwordResetTokenHash

/-- A random value the request has drawn and not stored yet. -/
def Unused (i k : Nat) (w : World) : Prop := w.draws[k]? = some i ∧ k ∉ w.issued

/-- The token made of one such value is stored. -/
def Issues (env : Environment) (i userId : Nat) (source : Source Nat String) (w w' : World) :
    Prop :=
  ∃ k expiresAt tokens, Unused i k w ∧
    w.refreshTokens.create (fun id => ({
      id, userId, tokenHash := env.hashRefreshToken (env.opaqueToken k), expiresAt
      revokedAt := none, replacedByTokenId := none } : RefreshToken))
      (RefreshToken.key_row env userId k expiresAt) = some tokens ∧
    w' = { w with
      refreshTokens := tokens
      issued := k :: w.issued
      origins := Function.update w.origins w.refreshTokens.nextKey (some source) }

/-- What a commit of request `i` does, by its label. -/
inductive Effect (env : Environment) (i : Nat) : Commit → World → World → Prop
  | idle {ℓ w} (hnone : ∀ userId, ℓ.revokes = some userId → w.users.get userId = none) :
      Effect env i ℓ w w
  | tick {w} (elapsed : Nat) : Effect env i .statement w { w with now := w.now + elapsed }
  | draw {w} : Effect env i .draw w { w with draws := w.draws ++ [i] }
  | count {w users p f hf} (hu : w.users.update p f hf = some users) (hkeep : Keeping f) :
      Effect env i .statement w { w with users }
  | revoke {w tokens p f hf} (ht : w.refreshTokens.update p f hf = some tokens)
      (hrev : Revoking f) : Effect env i .statement w { w with refreshTokens := tokens }
  | register {w w' users row hk password} (hu : w.users.create row hk = some users)
      (hrow : ∀ id, env.bcryptCompare password (row id).passwordHash = true ∧
        (row id).passwordResetTokenHash = none)
      (h : Issues env i w.users.nextKey (.root password) { w with users } w') :
      Effect env i .register w w'
  | login {w w' user password} (hpassword : env.bcryptCompare password user.passwordHash = true)
      (huser : (w.users.get user.id).isSome) (h : Issues env i user.id (.root password) w w') :
      Effect env i (.login user) w w'
  | refresh {w w₁ tokens tokenRow t f hf} (hrow : w.refreshTokens.get tokenRow.id = some t)
      (h : Issues env i t.userId (.renewal tokenRow.id) w w₁)
      (ht : w₁.refreshTokens.update (Schema.key · = tokenRow.id) f hf = some tokens)
      (hrev : Revoking f) : Effect env i (.refresh tokenRow) w { w₁ with refreshTokens := tokens }
  | revokeAll {ℓ w userId users tokens p f hf g hg}
      (hℓ : ℓ = .reuseDetected userId ∨ ℓ = .logoutAll userId)
      (hu : w.users.update p f hf = some users) (hkeep : Keeping f)
      (ht : w.refreshTokens.update (fun t => t.userId = userId && t.revokedAt.isNone) g hg
        = some tokens) (hrev : Revoking g) :
      Effect env i ℓ w { w with users, refreshTokens := tokens }
  | requestPasswordReset {w userId users f hf k} (hk : Unused i k w)
      (hu : w.users.update (Schema.key · = userId) f hf = some users)
      (hreset : ∀ u, (f u).passwordHash = u.passwordHash ∧
        (f u).passwordResetTokenHash = some (env.hashResetToken (env.opaqueToken k))) :
      Effect env i (.requestPasswordReset userId) w { w with users, issued := k :: w.issued }
  | confirmPasswordReset {w user tokenHash users tokens f hf g hg}
      (hu : w.users.update (Schema.key · = user.id) f hf = some users)
      (hreset : ∀ u, (f u).passwordResetTokenHash = none)
      (ht : w.refreshTokens.update (fun t => t.userId = user.id && t.revokedAt.isNone) g hg
        = some tokens) (hrev : Revoking g) :
      Effect env i (.confirmPasswordReset user tokenHash) w
        { w with users, refreshTokens := tokens }

variable {env : Environment} {w w' w₁ : World} {i : Nat}

/-! ## Whatever is there stays there -/

/-- A token is never anyone else's, and never good again. -/
def Ages (t t' : RefreshToken) : Prop :=
  t'.userId = t.userId ∧ t'.tokenHash = t.tokenHash ∧ (t.revokedAt.isSome → t'.revokedAt.isSome)

instance : Std.Refl Ages := ⟨fun _ => ⟨rfl, rfl, id⟩⟩

instance : IsTrans RefreshToken Ages :=
  ⟨fun _ _ _ h h' => ⟨h'.1.trans h.1, h'.2.1.trans h.2.1, fun hr => h'.2.2 (h.2.2 hr)⟩⟩

/-- The user is still there. -/
def Remains (_ _ : User) : Prop := True

instance : Std.Refl Remains := ⟨fun _ => trivial⟩

instance : IsTrans User Remains := ⟨fun _ _ _ _ _ => trivial⟩

structure Later (w w' : World) : Prop where
  draws : w.draws <+: w'.draws
  users : Table.Evolves Remains w.users w'.users
  tokens : Table.Evolves Ages w.refreshTokens w'.refreshTokens

theorem Later.refl (w : World) : Later w w :=
  ⟨List.prefix_refl _, Table.evolves_refl _, Table.evolves_refl _⟩

theorem Later.trans (h : Later w w₁) (h' : Later w₁ w') : Later w w' :=
  ⟨h.draws.trans h'.draws, h.users.trans h'.users, h.tokens.trans h'.tokens⟩

theorem Later.drawn (h : Later w w') {k j : Nat} (hk : w.draws[k]? = some j) :
    w'.draws[k]? = some j := by
  obtain ⟨more, hmore⟩ := h.draws
  rw [← hmore, List.getElem?_append_left (List.getElem?_eq_some_iff.mp hk).1]
  exact hk

theorem Revoking.evolves {tokens : Table RefreshToken} {p f hf} (hrev : Revoking f)
    (ht : w.refreshTokens.update p f hf = some tokens) :
    Table.Evolves Ages w.refreshTokens tokens :=
  Table.evolves_update ht fun t _ _ => ⟨(hrev t).1, (hrev t).2.1, fun _ => (hrev t).2.2⟩

theorem evolves_users {users : Table User} {p f hf} (hu : w.users.update p f hf = some users) :
    Table.Evolves Remains w.users users :=
  Table.evolves_update hu fun _ _ _ => trivial

theorem Issues.later {userId : Nat} {source : Source Nat String}
    (h : Issues env i userId source w w') : Later w w' := by
  obtain ⟨k, expiresAt, tokens, -, ht, rfl⟩ := h
  exact ⟨List.prefix_refl _, Table.evolves_refl _, Table.evolves_create ht⟩

theorem Issues.issued {userId k : Nat} {source : Source Nat String}
    (h : Issues env i userId source w w') (hk : k ∈ w'.issued) :
    k ∈ w.issued ∨ w.draws[k]? = some i := by
  obtain ⟨k', expiresAt, tokens, hunused, -, rfl⟩ := h
  obtain rfl | hk := List.mem_cons.mp hk
  · exact .inr hunused.1
  · exact .inl hk

theorem Effect.later {ℓ : Commit} (h : Effect env i ℓ w w') : Later w w' := by
  cases h with
  | idle hnone => exact Later.refl w
  | tick elapsed => exact ⟨List.prefix_refl _, Table.evolves_refl _, Table.evolves_refl _⟩
  | draw => exact ⟨List.prefix_append _ _, Table.evolves_refl _, Table.evolves_refl _⟩
  | count hu hkeep => exact ⟨List.prefix_refl _, evolves_users hu, Table.evolves_refl _⟩
  | revoke ht hrev => exact ⟨List.prefix_refl _, Table.evolves_refl _, hrev.evolves ht⟩
  | @register w w' users row hk password hu hrow h =>
      have hfirst : Later w { w with users := users } :=
        ⟨List.prefix_refl _, Table.evolves_create hu, Table.evolves_refl _⟩
      exact hfirst.trans h.later
  | login hpassword huser h => exact h.later
  | refresh hrow h ht hrev =>
      refine h.later.trans ⟨List.prefix_refl _, Table.evolves_refl _, hrev.evolves ht⟩
  | revokeAll hℓ hu hkeep ht hrev =>
      exact ⟨List.prefix_refl _, evolves_users hu, hrev.evolves ht⟩
  | requestPasswordReset hk hu hreset =>
      exact ⟨List.prefix_refl _, evolves_users hu, Table.evolves_refl _⟩
  | confirmPasswordReset hu hreset ht hrev =>
      exact ⟨List.prefix_refl _, evolves_users hu, hrev.evolves ht⟩

/-- What is stored was stored before, or has been drawn by the request. -/
theorem Effect.issued {ℓ : Commit} {k : Nat} (h : Effect env i ℓ w w') (hk : k ∈ w'.issued) :
    k ∈ w.issued ∨ w.draws[k]? = some i := by
  cases h with
  | register hu hrow h => exact h.issued hk
  | login hpassword huser h => exact h.issued hk
  | refresh hrow h ht hrev => exact h.issued hk
  | requestPasswordReset hunused hu hreset =>
      obtain rfl | hk := List.mem_cons.mp hk
      · exact .inr hunused.1
      · exact .inl hk
  | _ => exact .inl hk

/-! ## The invariant -/

/-- What holds of the database and the random values. -/
structure Inv (env : Environment) (w : World) : Prop where
  drawn : ∀ k ∈ w.issued, k < w.draws.length
  hashes : ∀ t ∈ w.refreshTokens, ∃ k ∈ w.issued,
    t.tokenHash = env.hashRefreshToken (env.opaqueToken k)
  distinct : ∀ a ∈ w.refreshTokens, ∀ b ∈ w.refreshTokens, a.tokenHash = b.tokenHash → a = b
  known : ∀ id, (w.origins id).isSome = (w.refreshTokens.get id).isSome
  family : ∀ x p, w.origins x = some (.renewal p) → ∃ a b,
    w.refreshTokens.get x = some a ∧ w.refreshTokens.get p = some b ∧ a.userId = b.userId
  owned : ∀ t ∈ w.refreshTokens, (w.users.get t.userId).isSome
  resets : ∀ u ∈ w.users, ∀ h, u.passwordResetTokenHash = some h →
    ∃ k ∈ w.issued, h = env.hashResetToken (env.opaqueToken k)
  single : ∀ u ∈ w.users, ∀ v ∈ w.users, ∀ h, u.passwordResetTokenHash = some h →
    v.passwordResetTokenHash = some h → u.id = v.id

theorem inv_initial (env : Environment) (now : Int) {users : Table User}
    (h : ∀ u ∈ users, u.passwordResetTokenHash = none) : Inv env (.initial now users) where
  drawn _ hk := absurd hk List.not_mem_nil
  hashes _ ht := absurd ht (Table.not_mem_empty _)
  distinct _ ha := absurd ha (Table.not_mem_empty _)
  known _ := rfl
  family _ _ hx := by cases hx
  owned _ ht := absurd ht (Table.not_mem_empty _)
  resets u hu _ hreset := by
    rw [h u hu] at hreset
    cases hreset
  single u hu _ _ _ hreset := by
    rw [h u hu] at hreset
    cases hreset

theorem Inv.revoke {tokens : Table RefreshToken} {p f hf} (h : Inv env w)
    (ht : w.refreshTokens.update p f hf = some tokens) (hrev : Revoking f) :
    Inv env { w with refreshTokens := tokens } := by
  -- a token of the new table is one of the old, but for the columns of its revocation
  have hold : ∀ t ∈ tokens, ∃ t₀ ∈ w.refreshTokens,
      t = (if p t₀ then f t₀ else t₀) ∧ t.userId = t₀.userId ∧ t.tokenHash = t₀.tokenHash := by
    intro t hmem
    obtain ⟨t₀, ht₀, rfl⟩ := (Table.mem_update ht).mp hmem
    refine ⟨t₀, ht₀, rfl, ?_⟩
    split
    · exact ⟨(hrev t₀).1, (hrev t₀).2.1⟩
    · exact ⟨rfl, rfl⟩
  have hget : ∀ {id a}, w.refreshTokens.get id = some a →
      ∃ a', tokens.get id = some a' ∧ a'.userId = a.userId := by
    intro id a ha
    obtain ⟨a', ha', hages⟩ := (hrev.evolves ht).get ha
    exact ⟨a', ha', hages.1⟩
  refine ⟨h.drawn, fun t hmem => ?_, fun a ha b hb hhash => ?_, fun id => ?_, fun x q hx => ?_,
    fun t hmem => ?_, h.resets, h.single⟩
  · obtain ⟨t₀, ht₀, -, -, hhash⟩ := hold t hmem
    rw [hhash]
    exact h.hashes t₀ ht₀
  · obtain ⟨a₀, ha₀, rfl, -, hhasha⟩ := hold a ha
    obtain ⟨b₀, hb₀, rfl, -, hhashb⟩ := hold b hb
    rw [h.distinct a₀ ha₀ b₀ hb₀ (hhasha.symm.trans (hhash.trans hhashb))]
  · show (w.origins id).isSome = (tokens.get id).isSome
    rw [h.known, Table.get_update ht, Option.isSome_map]
  · obtain ⟨a, b, ha, hb, huser⟩ := h.family x q hx
    obtain ⟨a', ha', hsame⟩ := hget ha
    obtain ⟨b', hb', hsame'⟩ := hget hb
    exact ⟨a', b', ha', hb', hsame.trans (huser.trans hsame'.symm)⟩
  · obtain ⟨t₀, ht₀, -, huser, -⟩ := hold t hmem
    rw [huser]
    exact h.owned t₀ ht₀

/-- Users whose reset tokens are theirs already. -/
theorem Inv.users {users : Table User} (h : Inv env w)
    (hremain : Table.Evolves Remains w.users users)
    (hold : ∀ u ∈ users, ∀ h, u.passwordResetTokenHash = some h →
      ∃ u₀ ∈ w.users, u₀.id = u.id ∧ u₀.passwordResetTokenHash = some h) :
    Inv env { w with users } := by
  refine ⟨h.drawn, h.hashes, h.distinct, h.known, h.family, fun t ht => ?_, fun u hu hash hr => ?_,
    fun u hu v hv hash hr hr' => ?_⟩
  · obtain ⟨u, hu⟩ := Option.isSome_iff_exists.mp (h.owned t ht)
    obtain ⟨u', hu', -⟩ := hremain.get hu
    exact Option.isSome_iff_exists.mpr ⟨u', hu'⟩
  · obtain ⟨u₀, hu₀, -, hr₀⟩ := hold u hu hash hr
    exact h.resets u₀ hu₀ hash hr₀
  · obtain ⟨u₀, hu₀, hid, hr₀⟩ := hold u hu hash hr
    obtain ⟨v₀, hv₀, hid', hr₀'⟩ := hold v hv hash hr'
    rw [← hid, ← hid']
    exact h.single u₀ hu₀ v₀ hv₀ hash hr₀ hr₀'

/-- An update of users that sets no reset token. -/
theorem Inv.updateUsers {users : Table User} {p f hf} (h : Inv env w)
    (hu : w.users.update p f hf = some users)
    (hreset : ∀ u hash, (f u).passwordResetTokenHash = some hash →
      u.passwordResetTokenHash = some hash) : Inv env { w with users } := by
  refine h.users (evolves_users hu) fun u hmem hash hr => ?_
  obtain ⟨u₀, hu₀, rfl⟩ := (Table.mem_update hu).mp hmem
  refine ⟨u₀, hu₀, ?_, ?_⟩
  · split
    · exact (hf u₀).symm
    · rfl
  · split at hr
    · exact hreset u₀ hash hr
    · exact hr

theorem Keeping.resets {f : User → User} (h : Keeping f) (u : User) (hash : String)
    (hr : (f u).passwordResetTokenHash = some hash) : u.passwordResetTokenHash = some hash :=
  (h u).2.symm.trans hr

theorem Unused.lt {k : Nat} (h : Unused i k w) : k < w.draws.length :=
  (List.getElem?_eq_some_iff.mp h.1).1

theorem Inv.issue {userId : Nat} {source : Source Nat String} (h : Inv env w)
    (hissue : Issues env i userId source w w') (huser : (w.users.get userId).isSome)
    (hsource : ∀ p, source = .renewal p →
      ∃ t, w.refreshTokens.get p = some t ∧ t.userId = userId) : Inv env w' := by
  obtain ⟨k, expiresAt, tokens, hk, ht, rfl⟩ := hissue
  -- the new token has a hash of its own
  have hnew : ∀ t ∈ w.refreshTokens, t.tokenHash ≠ env.hashRefreshToken (env.opaqueToken k) := by
    intro t hmem he
    obtain ⟨k', hk', hhash⟩ := h.hashes t hmem
    obtain rfl : k' = k := env.refreshToken_injective (hhash.symm.trans he)
    exact hk.2 hk'
  have hget : ∀ {id a}, w.refreshTokens.get id = some a → tokens.get id = some a := by
    intro id a ha
    rw [Table.get_create ht, if_neg]
    · exact ha
    · rintro rfl
      rw [Table.get_eq_none_of_le (Nat.le_refl _)] at ha
      cases ha
  refine ⟨fun k' hk' => ?_, fun t hmem => ?_, fun a ha b hb hhash => ?_, fun id => ?_,
    fun x p hx => ?_, fun t hmem => ?_, fun u hu hash hr => ?_, h.single⟩
  · obtain rfl | hk' := List.mem_cons.mp hk'
    · exact hk.lt
    · exact h.drawn k' hk'
  · obtain hmem | rfl := (Table.mem_create ht).mp hmem
    · obtain ⟨k', hk', hhash⟩ := h.hashes t hmem
      exact ⟨k', List.mem_cons_of_mem _ hk', hhash⟩
    · exact ⟨k, List.mem_cons_self, rfl⟩
  · obtain ha | rfl := (Table.mem_create ht).mp ha
    · obtain hb | rfl := (Table.mem_create ht).mp hb
      · exact h.distinct a ha b hb hhash
      · exact absurd hhash (hnew a ha)
    · obtain hb | rfl := (Table.mem_create ht).mp hb
      · exact absurd hhash.symm (hnew b hb)
      · rfl
  · show (Function.update w.origins _ _ id).isSome = (tokens.get id).isSome
    rw [Table.get_create ht]
    by_cases hid : id = w.refreshTokens.nextKey
    · subst hid
      simp
    · rw [Function.update_of_ne hid, if_neg hid]
      exact h.known id
  · by_cases hid : x = w.refreshTokens.nextKey
    · subst hid
      have hsame : source = .renewal p := by
        have hx' : Function.update w.origins w.refreshTokens.nextKey (some source)
          w.refreshTokens.nextKey = some (.renewal p) := hx
        rw [Function.update_self] at hx'
        exact Option.some.inj hx'
      obtain ⟨t, hp, hown⟩ := hsource p hsame
      have hself : tokens.get w.refreshTokens.nextKey = some ⟨w.refreshTokens.nextKey, userId,
          env.hashRefreshToken (env.opaqueToken k), expiresAt, none, none⟩ := by
        rw [Table.get_create ht, if_pos rfl]
      exact ⟨_, t, hself, hget hp, hown.symm⟩
    · have hx' : w.origins x = some (.renewal p) := by
        rw [← hx]
        exact (Function.update_of_ne hid _ _).symm
      obtain ⟨a, b, ha, hb, hsame⟩ := h.family x p hx'
      exact ⟨a, b, hget ha, hget hb, hsame⟩
  · obtain hmem | rfl := (Table.mem_create ht).mp hmem
    · exact h.owned t hmem
    · exact huser
  · obtain ⟨k', hk', hhash⟩ := h.resets u hu hash hr
    exact ⟨k', List.mem_cons_of_mem _ hk', hhash⟩

/-- A new reset token, made of a value of its own. -/
theorem Inv.setReset {k userId : Nat} {users : Table User} {f hf} (h : Inv env w)
    (hk : Unused i k w) (hu : w.users.update (Schema.key · = userId) f hf = some users)
    (hreset : ∀ u, (f u).passwordHash = u.passwordHash ∧
      (f u).passwordResetTokenHash = some (env.hashResetToken (env.opaqueToken k))) :
    Inv env { w with users, issued := k :: w.issued } := by
  have hnew : ∀ u ∈ w.users,
      u.passwordResetTokenHash ≠ some (env.hashResetToken (env.opaqueToken k)) := by
    intro u hmem he
    obtain ⟨k', hk', hhash⟩ := h.resets u hmem _ he
    obtain rfl : k = k' := env.resetToken_injective hhash
    exact hk.2 hk'
  -- a user of the new table has the new token, or the one it had
  have hold : ∀ u ∈ users, ∀ hash, u.passwordResetTokenHash = some hash →
      (u.id = userId ∧ hash = env.hashResetToken (env.opaqueToken k)) ∨
        ∃ u₀ ∈ w.users, u₀.id = u.id ∧ u₀.passwordResetTokenHash = some hash := by
    intro u hmem hash hr
    obtain ⟨u₀, hu₀, rfl⟩ := (Table.mem_update hu).mp hmem
    by_cases hid : Schema.key u₀ = userId
    · simp only [hid, decide_true, if_true] at hr ⊢
      exact .inl ⟨(hf u₀).trans hid, Option.some.inj (hr.symm.trans (hreset u₀).2)⟩
    · simp only [hid, decide_false, Bool.false_eq_true, if_false] at hr ⊢
      exact .inr ⟨u₀, hu₀, rfl, hr⟩
  refine ⟨fun k' hk' => ?_, fun t ht => ?_, h.distinct, h.known, h.family, fun t ht => ?_,
    fun u hmem hash hr => ?_, fun u hmem v hmem' hash hr hr' => ?_⟩
  · obtain rfl | hk' := List.mem_cons.mp hk'
    · exact hk.lt
    · exact h.drawn k' hk'
  · obtain ⟨k', hk', hhash⟩ := h.hashes t ht
    exact ⟨k', List.mem_cons_of_mem _ hk', hhash⟩
  · obtain ⟨u, hget⟩ := Option.isSome_iff_exists.mp (h.owned t ht)
    obtain ⟨u', hget', -⟩ := (evolves_users hu).get hget
    exact Option.isSome_iff_exists.mpr ⟨u', hget'⟩
  · obtain ⟨-, rfl⟩ | ⟨u₀, hu₀, -, hr₀⟩ := hold u hmem hash hr
    · exact ⟨k, List.mem_cons_self, rfl⟩
    · obtain ⟨k', hk', hhash⟩ := h.resets u₀ hu₀ hash hr₀
      exact ⟨k', List.mem_cons_of_mem _ hk', hhash⟩
  · obtain ⟨hid, rfl⟩ | ⟨u₀, hu₀, hid, hr₀⟩ := hold u hmem hash hr
    · obtain ⟨hid', -⟩ | ⟨v₀, hv₀, -, hr₀'⟩ := hold v hmem' _ hr'
      · exact hid.trans hid'.symm
      · exact absurd hr₀' (hnew v₀ hv₀)
    · obtain ⟨-, rfl⟩ | ⟨v₀, hv₀, hid', hr₀'⟩ := hold v hmem' hash hr'
      · exact absurd hr₀ (hnew u₀ hu₀)
      · rw [← hid, ← hid']
        exact h.single u₀ hu₀ v₀ hv₀ hash hr₀ hr₀'

theorem Effect.inv {ℓ : Commit} (h : Effect env i ℓ w w') (hinv : Inv env w) : Inv env w' := by
  cases h with
  | idle hnone => exact hinv
  | tick elapsed => exact { hinv with }
  | draw =>
      refine { hinv with drawn := fun k hk => ?_ }
      rw [List.length_append]
      exact Nat.lt_add_right _ (hinv.drawn k hk)
  | count hu hkeep => exact hinv.updateUsers hu hkeep.resets
  | revoke ht hrev => exact hinv.revoke ht hrev
  | register hu hrow h =>
      refine (hinv.users (Table.evolves_create hu) fun u hmem hash hr => ?_).issue h ?_
        fun p hp => by cases hp
      · obtain hmem | rfl := (Table.mem_create hu).mp hmem
        · exact ⟨u, hmem, rfl, hr⟩
        · rw [(hrow _).2] at hr
          cases hr
      · show (Table.get _ _).isSome = true
        rw [Table.get_create hu, if_pos rfl]
        rfl
  | login hpassword huser h => exact hinv.issue h huser fun p hp => by cases hp
  | @refresh w w₁ tokens tokenRow t f hf hrow h ht hrev =>
      refine (hinv.issue h (hinv.owned t (Table.get_eq_some.mp hrow).1) fun p hp => ?_).revoke
        ht hrev
      cases hp
      exact ⟨t, hrow, rfl⟩
  | revokeAll hℓ hu hkeep ht hrev => exact (hinv.updateUsers hu hkeep.resets).revoke ht hrev
  | requestPasswordReset hk hu hreset => exact hinv.setReset hk hu hreset
  | confirmPasswordReset hu hreset ht hrev =>
      refine (hinv.updateUsers hu fun u hash hr => ?_).revoke ht hrev
      rw [hreset u] at hr
      cases hr

/-! ## The refresh tokens as a lineage -/

theorem Inv.grown (h : Inv env w) : w.lineage.Grown := by
  refine ⟨fun x hx => ?_, fun x p hx => ?_⟩
  · obtain ⟨t, ht, -⟩ := hx
    show (w.origins x).isSome = true
    rw [h.known, ht]
    rfl
  · obtain ⟨a, b, -, hb, -⟩ := h.family x p hx
    show (w.origins p).isSome = true
    rw [h.known, hb]
    rfl

theorem lineage_revoke {tokens : Table RefreshToken} {p f hf}
    (ht : w.refreshTokens.update p f hf = some tokens) (hrev : Revoking f) :
    ({ w with refreshTokens := tokens } : World).lineage
      = w.lineage.kill {id | ∃ t, w.refreshTokens.get id = some t ∧ p t = true} := by
  refine Lineage.ext rfl (Set.ext fun id => ?_)
  show (∃ t, tokens.get id = some t ∧ t.revokedAt = none) ↔
    (∃ t, w.refreshTokens.get id = some t ∧ t.revokedAt = none) ∧
      ¬ ∃ t, w.refreshTokens.get id = some t ∧ p t = true
  rw [Table.get_update ht]
  cases w.refreshTokens.get id with
  | none => simp
  | some t =>
      cases hp : p t with
      | true =>
          have hrevoked := (hrev t).2.2
          cases hr : (f t).revokedAt with
          | none =>
              rw [hr] at hrevoked
              cases hrevoked
          | some at' => simp [hp, hr]
      | false => simp [hp]

theorem lineage_issue {userId : Nat} {source : Source Nat String}
    (h : Issues env i userId source w w') :
    w'.lineage = w.lineage.add w.refreshTokens.nextKey source := by
  obtain ⟨k, expiresAt, tokens, -, ht, rfl⟩ := h
  refine Lineage.ext rfl (Set.ext fun id => ?_)
  show (∃ t, tokens.get id = some t ∧ t.revokedAt = none) ↔
    id = w.refreshTokens.nextKey ∨ ∃ t, w.refreshTokens.get id = some t ∧ t.revokedAt = none
  rw [Table.get_create ht]
  by_cases hid : id = w.refreshTokens.nextKey
  · simp [hid]
  · simp [hid]

/-- The token a commit exchanges. -/
def Exchanges (ℓ : Commit) (p : Nat) : Prop := ∃ tokenRow, ℓ = .refresh tokenRow ∧ tokenRow.id = p

theorem Inv.unknown (h : Inv env w) : w.lineage.source w.refreshTokens.nextKey = none := by
  have hknown := h.known w.refreshTokens.nextKey
  rw [Table.get_eq_none_of_le (Nat.le_refl _)] at hknown
  cases horigin : w.origins w.refreshTokens.nextKey with
  | none => exact horigin
  | some s =>
      rw [horigin] at hknown
      cases hknown

/-- The lineage changes step by step, and only an exchange renews a token. -/
theorem Effect.lineage {ℓ : Commit} (h : Effect env i ℓ w w') (hinv : Inv env w) :
    Lineage.Step (fun _ p => Exchanges ℓ p) w.lineage w'.lineage := by
  cases h with
  | revoke ht hrev =>
      rw [lineage_revoke ht hrev]
      exact .kill _
  | register hu hrow h =>
      rw [lineage_issue h]
      exact .root hinv.unknown
  | login hpassword huser h =>
      rw [lineage_issue h]
      exact .root hinv.unknown
  | @refresh w w₁ tokens tokenRow t f hf hrow h ht hrev =>
      have hp : (w.lineage.source tokenRow.id).isSome = true := by
        show (w.origins tokenRow.id).isSome = true
        rw [hinv.known, hrow]
        rfl
      have hkilled : {id | ∃ t, w₁.refreshTokens.get id = some t ∧
          decide (Schema.key t = tokenRow.id) = true} = {tokenRow.id} := by
        refine Set.ext fun id => ⟨fun ⟨t', ht', hkey⟩ => ?_, fun hid => ?_⟩
        · exact (Table.get_eq_some.mp ht').2.symm.trans (of_decide_eq_true hkey)
        · obtain ⟨t', ht', -⟩ := h.later.tokens.get hrow
          subst hid
          exact ⟨t', ht', decide_eq_true (Table.get_eq_some.mp ht').2⟩
      rw [lineage_revoke ht hrev, hkilled, lineage_issue h]
      exact .renew hinv.unknown hp ⟨tokenRow, rfl, rfl⟩
  | @revokeAll ℓ w userId users tokens p f hf g hg hℓ hu hkeep ht hrev =>
      have hkill := lineage_revoke ht hrev
      show Lineage.Step _ _ ({ w with refreshTokens := tokens } : World).lineage
      rw [hkill]
      exact .kill _
  | @confirmPasswordReset w user tokenHash users tokens f hf g hg hu hreset ht hrev =>
      have hkill := lineage_revoke ht hrev
      show Lineage.Step _ _ ({ w with refreshTokens := tokens } : World).lineage
      rw [hkill]
      exact .kill _
  | _ => exact .refl _ _

end PrintForge.Auth
