import PrintForge.Auth.Served

/-!
# Sessions end together

The exchange of a refresh token does not look again at what it has read, so a token may be
exchanged twice, and a session may outlive its end. As long as every exchange finds its token
still good, neither happens: the refresh tokens are a lineage in which live items only are
renewed.
-/

namespace PrintForge.Auth

open Relational Concurrent Discipline

variable {env : Environment} {ok : Commit → World → Prop} {w w' : World} {i : Nat}
variable {c c' : AuthConfig}

/-! ## A user's tokens -/

/-- The refresh tokens of a user. -/
def tokensOf (userId : Nat) (w : World) : Set Nat :=
  {id | ∃ t, w.refreshTokens.get id = some t ∧ t.userId = userId}

theorem tokensOf_later {userId : Nat} (h : Later w w') :
    tokensOf userId w ⊆ tokensOf userId w' := by
  intro id ⟨t, ht, huser⟩
  obtain ⟨t', ht', hsame, -⟩ := h.tokens.get ht
  exact ⟨t', ht', hsame.trans huser⟩

theorem Inv.source_known (h : Inv env w) {userId id : Nat} (hid : id ∈ tokensOf userId w) :
    (w.lineage.source id).isSome := by
  obtain ⟨t, ht, -⟩ := hid
  show (w.origins id).isSome = true
  rw [h.known, ht]
  rfl

/-- A lineage stays with one user. -/
theorem Inv.descends (h : Inv env w) {userId x s : Nat} (hx : w.lineage.Descends x s)
    (hs : s ∈ tokensOf userId w) : x ∈ tokensOf userId w := by
  induction hx using Relation.ReflTransGen.head_induction_on with
  | refl => exact hs
  | @head y p hyp _ ih =>
      obtain ⟨a, b, ha, hb, hsame⟩ := h.family y p hyp
      obtain ⟨t, ht, huser⟩ := ih
      cases hb.symm.trans ht
      exact ⟨a, ha, hsame.trans huser⟩

theorem dead_of_ends {userId : Nat} {tokens : Table RefreshToken} {g hg} (hinv : Inv env w')
    (ht : w.refreshTokens.update (fun t => t.userId = userId && t.revokedAt.isNone) g hg
      = some tokens) (hrev : Revoking g) (hw' : w'.refreshTokens = tokens) :
    w'.lineage.Dead (tokensOf userId w') := by
  intro s hs x hx hlive
  obtain ⟨t, hget, huser⟩ := hinv.descends hx hs
  obtain ⟨t', hget', hnone⟩ := hlive
  cases hget.symm.trans hget'
  rw [hw', Table.get_update ht, Option.map_eq_some_iff] at hget
  obtain ⟨t₀, -, rfl⟩ := hget
  split at hnone
  · have hrevoked := (hrev t₀).2.2
    rw [hnone] at hrevoked
    cases hrevoked
  · next hkept =>
    rw [if_neg hkept] at huser
    simp [huser, hnone] at hkept

/-- Once the sessions of a user have been ended, none of the tokens lives, nor what descends
from one. -/
theorem Effect.ends {ℓ : Commit} {userId : Nat} (h : Effect env i ℓ w w') (hinv : Inv env w)
    (hℓ : ℓ.revokes = some userId) : w'.lineage.Dead (tokensOf userId w) := by
  have hinv' : Inv env w' := h.inv hinv
  have hsub : tokensOf userId w ⊆ tokensOf userId w' := tokensOf_later h.later
  cases h with
  | idle hnone =>
      intro s hs
      obtain ⟨t, ht, huser⟩ := hs
      have howned := hinv.owned t (Table.get_eq_some.mp ht).1
      rw [huser, hnone userId hℓ] at howned
      cases howned
  | @revokeAll ℓ w user users tokens p f hf g hg hrevokes hu hkeep ht hrev =>
      obtain rfl : user = userId := by
        obtain rfl | rfl := hrevokes <;> exact Option.some.inj hℓ
      exact fun s hs => dead_of_ends hinv' ht hrev rfl s (hsub hs)
  | @confirmPasswordReset w user tokenHash users tokens f hf g hg hu hreset ht hrev =>
      obtain rfl : user.id = userId := Option.some.inj hℓ
      exact fun s hs => dead_of_ends hinv' ht hrev rfl s (hsub hs)
  | register | login | refresh | requestPasswordReset => cases hℓ
  | tick | draw | count | revoke => cases hℓ

/-! ## Runs -/

/-- In a run under a strict condition the tokens change as a lineage does. -/
theorem Serving.grows (h : Serving env ok c) (hstrict : Strict ok) (hrun : Reaches env ok c c') :
    Grows c.state.lineage c'.state.lineage := by
  induction hrun with
  | refl => exact .refl
  | tail hbefore hstep ih =>
      have hb := h.run hbefore
      obtain hsame | ⟨i, ℓ, hok, heffect⟩ := hb.effect hstep
      · rw [hsame]
        exact ih
      · exact ih.tail (heffect.step hstrict hb.inv hok)

theorem Serving.later (h : Serving env ok c) (hrun : Reaches env ok c c') :
    Later c.state c'.state := by
  induction hrun with
  | refl => exact Later.refl _
  | tail hbefore hstep ih =>
      obtain hsame | ⟨i, ℓ, -, heffect⟩ := (h.run hbefore).effect hstep
      · rw [hsame]
        exact ih
      · exact ih.trans heffect.later

theorem Serving.dead {userId : Nat} {K : Set Nat} (h : Serving env ok c) (hstrict : Strict ok)
    (hK : K ⊆ tokensOf userId c.state) (hdead : c.state.lineage.Dead K)
    (hrun : Reaches env ok c c') : c'.state.lineage.Dead K :=
  hdead.steps h.inv.grown (fun _ hs => h.inv.source_known (hK hs)) (h.grows hstrict hrun)

/-! ## A token that is no longer good -/

theorem detectReuse_total {userId : Nat} (h : (w.users.get userId).isSome) :
    ∃ w', detectReuse userId w = .ok ((), w') := by
  cases hrun : detectReuse userId w with
  | ok r => exact ⟨r.2, rfl⟩
  | error err =>
      rw [detectReuse_error hrun] at h
      cases h

/-- What is said of the answer to a token that was no longer good. -/
def Refused (K : Set Nat) {α : Type} (w : World) (r : Except HttpError α) : Prop :=
  (∃ err, r = .error err) ∧ w.lineage.Dead K

/-- Presenting such a token ends the sessions of its user. -/
theorem refresh_refused {rawToken : String} {p : RefreshToken} {K : Set Nat}
    (hstrict : Strict ok) (hinv : Inv env w) (hp : p ∈ w.refreshTokens)
    (hhash : p.tokenHash = env.hashRefreshToken rawToken) (hrevoked : p.revokedAt.isSome)
    (hK : K ⊆ tokensOf p.userId w) :
    (discipline env ok).Safe i (Refused K) (refresh env i (some rawToken)) w := by
  have hpresent : JavaScript.truthy (some rawToken) = some rawToken := by
    refine Option.filter_eq_some_iff.mpr ⟨rfl, decide_eq_true fun hempty => ?_⟩
    obtain ⟨k, -, hk⟩ := hinv.hashes p hp
    rw [hhash, hempty] at hk
    exact env.refreshToken_ne_empty k hk.symm
  unfold refresh
  rw [hpresent]
  refine safe_read fun w₁ hrely₁ hinv₁ => ?_
  -- the row that is found is the token's, revoked and of the same user
  obtain ⟨p₁, hp₁, -, huser₁, hhash₁, hkept⟩ := hrely₁.later.tokens p hp
  have hfound : w₁.refreshTokens.findFirst (·.tokenHash = env.hashRefreshToken rawToken)
      = some p₁ := by
    refine Table.findFirst_eq_some hp₁ (decide_eq_true (hhash₁.trans hhash)) fun t ht heq => ?_
    exact hinv₁.distinct t ht p₁ hp₁ ((of_decide_eq_true heq).trans (hhash₁.trans hhash).symm)
  rw [hfound]
  show (discipline env ok).Safe i _ (refreshRow env i p₁) w₁
  rw [refreshRow, if_pos (hkept hrevoked)]
  refine safe_transact (fun w₂ u w₃ hrely₂ hinv₂ _ hcommit => ?_)
    fun w₂ err hrely₂ hinv₂ _ herr => ?_
  · have heffect : Effect env i (.reuseDetected p₁.userId) w₂ w₃ := detectReuse_ok hcommit
    have hlater : Later w w₂ := hrely₁.later.trans hrely₂.later
    have hK₃ : K ⊆ tokensOf p₁.userId w₃ := by
      rw [huser₁]
      exact (hK.trans (tokensOf_later hlater)).trans (tokensOf_later heffect.later)
    have hdead : w₃.lineage.Dead K := by
      intro s hs
      refine heffect.ends hinv₂ rfl s ?_
      rw [huser₁]
      exact tokensOf_later hlater (hK hs)
    refine ⟨heffect, fun hinv₃ => safe_done fun w₄ hrely₄ _ => ⟨⟨_, rfl⟩, ?_⟩⟩
    exact hdead.steps hinv₃.grown (fun s hs => hinv₃.source_known (hK₃ hs))
      (hrely₄.grows hstrict)
  · have hthere : (w₂.users.get p₁.userId).isSome := by
      obtain ⟨p₂, hp₂, -, huser₂, -⟩ := hrely₂.later.tokens p₁ hp₁
      rw [← huser₂]
      exact hinv₂.owned p₂ hp₂
    obtain ⟨w₃, hcommit⟩ := detectReuse_total hthere
    cases herr.symm.trans hcommit

/-- A token found revoked is refused to every request that comes later, and by the time one has
been answered the sessions that had been there are over. -/
theorem reuse_refused (h : Serving env ok c) (hstrict : Strict ok) {rawToken : String}
    {p : RefreshToken} (hp : p ∈ c.state.refreshTokens)
    (hhash : p.tokenHash = env.hashRefreshToken rawToken) (hrevoked : p.revokedAt.isSome)
    (hrun : Reaches env ok c c') {j : Nat} {r : Except HttpError (Option AuthTokenResult)}
    (hj : c.flights.length ≤ j)
    (hdone : c'.flights[j]? = some (.refresh (some rawToken), .done r)) :
    Refused (tokensOf p.userId c.state) c'.state r := by
  let D := (discipline env ok).strengthen (Later c.state) (fun _ _ => True)
    fun _ _ _ _ _ hlater _ _ heffect => hlater.trans heffect.later
  let post : Nat → Request → World → Except HttpError (Option AuthTokenResult) → Prop :=
    fun j req w r => c.flights.length ≤ j → req = .refresh (some rawToken) →
      Refused (tokensOf p.userId c.state) w r
  have hstart : D.Holds post c := by
    refine ⟨⟨h.inv, Later.refl _⟩, fun i req q hi => ?_⟩
    have hlt : i < c.flights.length := (List.getElem?_eq_some_iff.mp hi).1
    exact ((h.safe i req q hi).strengthen (J := Later c.state)).mono_post
      fun w r _ hle => absurd hle (Nat.not_le.mpr hlt)
  have hserve : ∀ i req s, c.flights.length ≤ i → D.inv s → True →
      D.Safe i (post i req) (handle env i req) s := by
    intro i req s _ hinv _
    obtain ⟨hinv, hlater⟩ := hinv
    by_cases hreq : req = .refresh (some rawToken)
    · subst hreq
      obtain ⟨p', hp', -, huser, hhash', hkept⟩ := hlater.tokens p hp
      have hK : tokensOf p.userId c.state ⊆ tokensOf p'.userId s := by
        rw [huser]
        exact tokensOf_later hlater
      have hsafe := refresh_refused (i := i) hstrict hinv hp' (hhash'.trans hhash)
        (hkept hrevoked) hK
      refine (hsafe.strengthen (J := Later c.state)).finish ⟨hinv, hlater⟩
        fun s' r hinv' hrefused => ?_
      obtain ⟨⟨err, rfl⟩, hdead⟩ := hrefused
      refine safe_done fun s'' hrely _ _ _ => ⟨⟨err, rfl⟩, ?_⟩
      exact hdead.steps hinv'.1.grown
        (fun s hs => hinv'.1.source_known (tokensOf_later hinv'.2 hs)) (hrely.grows hstrict)
    · exact ((handle_served req hinv).strengthen (J := Later c.state)).mono_post
        fun w r _ _ he => absurd he hreq
  have hrun' : Run (handle env) (fun _ _ => True) D.ok c c' :=
    hrun.mono (fun _ _ h => h) fun _ _ hok => ⟨hok, trivial⟩
  have hend : D.Holds post c' := hstart.run (Nat.le_refl _) hserve hrun'
  exact hend.outcome hdone hj rfl

end PrintForge.Auth
