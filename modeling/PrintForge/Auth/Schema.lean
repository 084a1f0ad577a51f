import PrintForge.Common.Basic
import PrintForge.Concurrent.Lineage
import PrintForge.Concurrent.Process
import PrintForge.Text.Strings

/-!
# Users and their sessions

The rows of the authentication service, the libraries it calls, and the clock and the random
source it shares with everything else. Instants are milliseconds since the epoch.

Three fields of the state are no columns: which request drew which random value, which of the
values are in the database, and where each refresh token comes from. The service only writes
them.
-/

namespace PrintForge.Auth

open Relational Concurrent

/-- What the service is configured with, and the libraries it calls. `opaqueToken n` is the
`n`-th value of the random source. Distinct values have distinct hashes, none that of the empty
string, and a password fits the hash made of it. -/
structure Environment where
  refreshTokenTtlMs : Int
  toLowerCase : String → String
  opaqueToken : Nat → String
  hashRefreshToken : String → String
  hashResetToken : String → String
  bcryptHash : (salt : Nat) → (password : String) → String
  bcryptCompare : (password hash : String) → Bool
  refreshToken_injective : ∀ {m n},
    hashRefreshToken (opaqueToken m) = hashRefreshToken (opaqueToken n) → m = n
  refreshToken_ne_empty : ∀ n, hashRefreshToken (opaqueToken n) ≠ hashRefreshToken ""
  resetToken_injective : ∀ {m n},
    hashResetToken (opaqueToken m) = hashResetToken (opaqueToken n) → m = n
  compare_hash : ∀ salt password, bcryptCompare password (bcryptHash salt password) = true

structure User where
  id : Nat
  email : String
  passwordHash : String
  tokenVersion : Nat
  failedLoginAttempts : Nat
  passwordResetTokenHash : Option String
  passwordResetExpiresAt : Option Int
  isActive : Bool
deriving DecidableEq, Repr

instance : Schema User where
  key u := u.id
  Clash a b := a.email = b.email
  clash_decidable _ _ := inferInstanceAs (Decidable (_ = _))
  clash_symm h := h.symm

structure RefreshToken where
  id : Nat
  userId : Nat
  tokenHash : String
  expiresAt : Int
  revokedAt : Option Int
  replacedByTokenId : Option Nat
deriving DecidableEq, Repr

instance : Schema RefreshToken where
  key t := t.id
  Clash _ _ := False
  clash_decidable _ _ := inferInstanceAs (Decidable False)
  clash_symm h := h

structure World where
  now : Int
  users : Table User
  refreshTokens : Table RefreshToken
  /-- The request that drew the `n`-th random value. -/
  draws : List Nat
  /-- The random values whose hashes have been stored. -/
  issued : List Nat
  /-- The password a token was obtained with, or the token it was exchanged for. -/
  origins : Nat → Option (Source Nat String)

namespace Db

def users : Slot World User where
  get w := w.users
  set t w := { w with users := t }

def refreshTokens : Slot World RefreshToken where
  get w := w.refreshTokens
  set t w := { w with refreshTokens := t }

end Db

/-- Commits carry what the service had read before. -/
inductive Commit where
  | statement
  | draw
  | register
  | login (user : User)
  | refresh (tokenRow : RefreshToken)
  | reuseDetected (userId : Nat)
  | logoutAll (userId : Nat)
  | requestPasswordReset (userId : Nat)
  | confirmPasswordReset (user : User) (tokenHash : String)
deriving DecidableEq, Repr

/-- The user whose sessions the commit is meant to end. -/
def Commit.revokes : Commit → Option Nat
  | reuseDetected userId => some userId
  | logoutAll userId => some userId
  | confirmPasswordReset user _ => some user.id
  | statement | draw | register | login _ | refresh _ | requestPasswordReset _ => none

abbrev Transaction := Tx World HttpError

abbrev Service := Proc World Commit HttpError

/-- A system with these users and no session yet. -/
def World.initial (now : Int) (users : Table User) : World where
  now := now
  users := users
  refreshTokens := .empty
  draws := []
  issued := []
  origins _ := none

/-- The refresh tokens as a lineage: a token lives until it is revoked. -/
def World.lineage (w : World) : Lineage Nat String where
  source := w.origins
  live := fun id => ∃ t, w.refreshTokens.get id = some t ∧ t.revokedAt = none

end PrintForge.Auth
