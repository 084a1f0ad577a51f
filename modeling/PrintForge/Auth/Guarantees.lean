import PrintForge.Auth.Sessions

/-!
# Refresh tokens are exchanged once, and revocation is complete

Both hold of the runs in which no commit overtakes another: a request that has read a good token,
a password or a reset token commits only while it is still there. The source does not see to
that, and the runs at the end show what comes of it.
-/

namespace PrintForge.Auth

open Relational Concurrent Discipline

variable {env : Environment} {w w' : World} {i : Nat}

/-! ## Refresh tokens -/

/-- A token is exchanged only while it is good. -/
def ExchangesGood : Commit → World → Prop
  | .refresh tokenRow, w => (w.refreshTokens.get tokenRow.id).any (·.revokedAt.isNone) = true
  | _, _ => True

instance : ∀ ℓ w, Decidable (ExchangesGood ℓ w)
  | .refresh _, _ => inferInstanceAs (Decidable (_ = true))
  | .statement, _ | .draw, _ | .register, _ | .login _, _ | .reuseDetected _, _ | .logoutAll _, _
  | .requestPasswordReset _, _ | .confirmPasswordReset _ _, _ => inferInstanceAs (Decidable True)

theorem strict_exchangesGood : Strict ExchangesGood := by
  intro ℓ w hok p hp
  obtain ⟨tokenRow, rfl, rfl⟩ := hp
  obtain ⟨t, ht, hnone⟩ := (Option.any_eq_true ..).mp hok
  exact ⟨t, ht, by simpa using hnone⟩

variable (env) in
/-- The token `id` was given in exchange for one with this value. -/
def Successor (rawToken : String) (id : Nat) (w : World) : Prop :=
  ∃ p ∈ w.refreshTokens, p.tokenHash = env.hashRefreshToken rawToken ∧ w.lineage.Renews id p.id

theorem lineage_initial (now : Int) (users : Table User) :
    (World.initial now users).lineage.Once where
  ended _ _ h := by cases h
  unique _ _ _ h := by cases h

/-- As long as only good tokens are exchanged, a token has one successor, and whoever presents it
after that gets none and ends the sessions there are. -/
theorem refresh_token_exchanged_once (now : Int) {users : Table User}
    (husers : ∀ u ∈ users, u.passwordResetTokenHash = none) {c : AuthConfig}
    (hrun : Reaches env ExchangesGood ⟨.initial now users, []⟩ c) (rawToken : String) :
    (∀ x y, Successor env rawToken x c.state → Successor env rawToken y c.state → x = y) ∧
      ∀ x p c' j r, Successor env rawToken x c.state → p ∈ c.state.refreshTokens →
        p.tokenHash = env.hashRefreshToken rawToken → Reaches env ExchangesGood c c' →
        c.flights.length ≤ j →
        c'.flights[j]? = some (.refresh (some rawToken), .done r) →
          (∃ err, r = .error err) ∧ c'.state.lineage.Dead (tokensOf p.userId c.state) := by
  have hstart : Serving env ExchangesGood ⟨.initial now users, []⟩ := serving_initial now husers
  have hc : Serving env ExchangesGood c := hstart.run hrun
  have honce : c.state.lineage.Once :=
    (lineage_initial now users).steps hstart.inv.grown (hstart.grows strict_exchangesGood hrun)
  -- all rows with the value are one
  have hrow : ∀ p ∈ c.state.refreshTokens, ∀ q ∈ c.state.refreshTokens,
      p.tokenHash = env.hashRefreshToken rawToken →
      q.tokenHash = env.hashRefreshToken rawToken → p = q :=
    fun p hp q hq hhash hhash' => hc.inv.distinct p hp q hq (hhash.trans hhash'.symm)
  refine ⟨fun x y hx hy => ?_, fun x p c' j r hx hp hhash hrun' hj hdone => ?_⟩
  · obtain ⟨p, hp, hhash, hxp⟩ := hx
    obtain ⟨q, hq, hhash', hyq⟩ := hy
    obtain rfl := hrow p hp q hq hhash hhash'
    exact honce.unique x y p.id hxp hyq
  · obtain ⟨q, hq, hhash', hxq⟩ := hx
    obtain rfl := hrow p hp q hq hhash hhash'
    have hrevoked : p.revokedAt.isSome := by
      cases hr : p.revokedAt with
      | some instant => rfl
      | none => exact absurd ⟨p, Table.get_key hp, hr⟩ (honce.ended x p.id hxq)
    exact reuse_refused hc strict_exchangesGood hp hhash hrevoked hrun' hj hdone

/-! ### Two runs with one user -/

/-- Libraries that take strings for their own hashes. -/
def plainEnvironment : Environment where
  refreshTokenTtlMs := 604800000
  toLowerCase := String.toLower
  opaqueToken n := .ofList (List.replicate (n + 1) 'x')
  hashRefreshToken s := s
  hashResetToken s := s
  bcryptHash _ password := password
  bcryptCompare password hash := password == hash
  refreshToken_injective h := by simpa using congrArg (·.toList.length) h
  refreshToken_ne_empty n h := by simpa using congrArg (·.toList.length) h
  resetToken_injective h := by simpa using congrArg (·.toList.length) h
  compare_hash _ _ := beq_self_eq_true _

/-- Follow a schedule from an empty database. -/
def follow (ok : Commit → World → Prop) [∀ ℓ w, Decidable (ok ℓ w)]
    (acts : List (Action Request)) : Option AuthConfig :=
  exec (handle plainEnvironment) (fun _ _ => True) ok acts ⟨.initial 0 .empty, []⟩

/-- Accept a request as the `i`-th and take its first `n` actions. -/
def serve (i : Nat) (req : Request) (n : Nat) : List (Action Request) :=
  .accept req :: List.replicate n (.advance i)

/-- The user whose first token is the second random value. -/
def registered : List (Action Request) := serve 0 (.register "a@example.com" "first") 4

instance (L : Lineage Nat String) (x p : Nat) : Decidable (L.Renews x p) :=
  inferInstanceAs (Decidable (L.source x = some (.renewal p)))

instance (rawToken : String) (id : Nat) (w : World) :
    Decidable (Successor plainEnvironment rawToken id w) :=
  inferInstanceAs (Decidable (∃ p ∈ w.refreshTokens.rows, _ ∧ w.lineage.Renews id p.id))

/-- The token is exchanged for another, which ends when the first is presented again. -/
theorem refresh_token_exchanged_once_example :
    ∃ c c' : AuthConfig, Successor plainEnvironment "xx" 1 c.state ∧
      (∀ y, Successor plainEnvironment "xx" y c.state → 1 = y) ∧
      Reaches plainEnvironment ExchangesGood c c' ∧
      (∃ r err, c'.answer 2 = some (.refresh (some "xx"), r) ∧ r = .error err) ∧
      1 ∉ c'.state.lineage.live := by
  have hrun : (follow ExchangesGood (registered ++ serve 1 (.refresh (some "xx")) 6)).any
      (fun c => decide (Successor plainEnvironment "xx" 1 c.state) &&
        (exec (handle plainEnvironment) (fun _ _ => True) ExchangesGood
          (serve 2 (.refresh (some "xx")) 2) c).any fun c' =>
            decide (c.flights.length ≤ 2 ∧ (∀ t ∈ c.state.refreshTokens.rows, t.userId = 0) ∧
              (c.state.refreshTokens.get 1).isSome) &&
            (c'.answer 2).any (·.1 = .refresh (some "xx"))) = true := by
    decide +kernel
  obtain ⟨c, hc, h⟩ := exec_any hrun
  obtain ⟨hexchanged, h⟩ := Bool.and_eq_true_iff.mp h
  obtain ⟨c', hc', h⟩ := exec_any h
  obtain ⟨hc₀, h⟩ := Bool.and_eq_true_iff.mp h
  obtain ⟨hlater, husers, hthere⟩ := of_decide_eq_true hc₀
  obtain ⟨⟨req, r⟩, hanswer, hreq⟩ := (Option.any_eq_true ..).mp h
  obtain rfl : req = _ := of_decide_eq_true hreq
  have hsuccessor := of_decide_eq_true hexchanged
  obtain ⟨hone, hreused⟩ := refresh_token_exchanged_once 0
    (fun _ hu => absurd hu (Table.not_mem_empty _)) hc "xx"
  obtain ⟨p, hp, hhash, hrenews⟩ := of_decide_eq_true hexchanged
  obtain ⟨⟨err, herr⟩, hdead⟩ := hreused 1 p c' 2 r hsuccessor hp hhash hc' hlater
    (Config.flight_of_answer hanswer)
  obtain ⟨t, ht⟩ := Option.isSome_iff_exists.mp hthere
  have htheirs : 1 ∈ tokensOf p.userId c.state :=
    ⟨t, ht, (husers t (Table.get_eq_some.mp ht).1).trans (husers p hp).symm⟩
  exact ⟨c, c', hsuccessor, fun y hy => hone 1 y hsuccessor hy, hc', ⟨r, err, hanswer, herr⟩,
    hdead 1 htheirs 1 .refl⟩

/-- Two requests that have both found the token good exchange it for two. -/
theorem refresh_token_exchanged_twice :
    ¬ ∀ (env : Environment) (now : Int) (users : Table User) (c : AuthConfig)
      (rawToken : String) (x y : Nat), (∀ u ∈ users, u.passwordResetTokenHash = none) →
        Reaches env (fun _ _ => True) ⟨.initial now users, []⟩ c →
        Successor env rawToken x c.state → Successor env rawToken y c.state → x = y := by
  have hrun : (follow (fun _ _ => True) (registered ++ serve 1 (.refresh (some "xx")) 5 ++
      serve 2 (.refresh (some "xx")) 6 ++ [.advance 1])).any (fun c =>
        decide (Successor plainEnvironment "xx" 1 c.state ∧
          Successor plainEnvironment "xx" 2 c.state)) = true := by
    decide +kernel
  obtain ⟨c, hc, h⟩ := exec_any hrun
  obtain ⟨hone, htwo⟩ := of_decide_eq_true h
  intro hall
  have hsame := hall plainEnvironment 0 .empty c "xx" 1 2
    (fun _ hu => absurd hu (Table.not_mem_empty _)) hc hone htwo
  cases hsame

end PrintForge.Auth
