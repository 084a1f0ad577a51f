import PrintForge.Auth.Schema

/-!
# The authentication service

Registration, login, the rotation of refresh tokens, logout and the reset of a password. A
request draws its random values one by one; `n` is its number. The delay of a failing login is
the time that passes between two of its actions.
-/

namespace PrintForge.Auth

open Relational Concurrent JavaScript

def genericLoginError : String := "Invalid email or password"

def passwordResetTokenTtlMs : Int := 30 * 60 * 1000

/-- The tokens of a session. The access token carries the user and the token version. -/
structure AuthTokenResult where
  refreshToken : String
  expiresAt : Int
  userId : Nat
  tokenVersion : Nat
deriving DecidableEq, Repr

/-- The next value of the random source. -/
def draw (n : Nat) : Service Nat :=
  Proc.transact .draw (do
    let k ← Tx.read fun w => w.draws.length
    modify fun w => { w with draws := w.draws ++ [n] }
    return k)

section

variable (env : Environment)

/-- Store the refresh token made of the `k`-th random value. -/
theorem RefreshToken.key_row (userId k : Nat) (expiresAt : Int) (id : Nat) :
    Schema.key ({ id, userId, tokenHash := env.hashRefreshToken (env.opaqueToken k), expiresAt
                  revokedAt := none, replacedByTokenId := none } : RefreshToken) = id := rfl

def createRefreshToken (userId k : Nat) (expiresAt : Int) (source : Source Nat String) :
    Transaction RefreshToken := do
  let created ← Db.refreshTokens.create fun id =>
    { id, userId, tokenHash := env.hashRefreshToken (env.opaqueToken k), expiresAt
      revokedAt := none, replacedByTokenId := none }
  modify fun w => { w with
    issued := k :: w.issued
    origins := Function.update w.origins created.id (some source) }
  return created

def result (user : User) (k : Nat) (expiresAt : Int) : AuthTokenResult :=
  ⟨env.opaqueToken k, expiresAt, user.id, user.tokenVersion⟩

/-- Every token of the user that is still good. -/
def revokeAll (userId : Nat) : Transaction Unit := do
  let now ← Tx.read World.now
  let _ ← Db.refreshTokens.updateMany (fun t => t.userId = userId && t.revokedAt.isNone)
    fun t => { t with revokedAt := some now }
  return ()

def bumpTokenVersion (userId : Nat) : Transaction Unit := do
  let _ ← Db.users.update userId fun u => { u with tokenVersion := u.tokenVersion + 1 }
  return ()

/-! ## Register and login -/

/-- The transaction of `register`. -/
def createUser (email passwordHash password : String) (k : Nat) (expiresAt : Int) :
    Transaction User := do
  let created ← Db.users.create fun id =>
    { id, email, passwordHash, tokenVersion := 0, failedLoginAttempts := 0
      passwordResetTokenHash := none, passwordResetExpiresAt := none, isActive := true }
  let _ ← createRefreshToken env created.id k expiresAt (.root password)
  return created

def register (n : Nat) (email password : String) : Service AuthTokenResult := do
  let salt ← draw n
  let passwordHash := env.bcryptHash salt password
  let k ← draw n
  let now ← Proc.read World.now
  let expiresAt := now + env.refreshTokenTtlMs
  tryCatch
    (do
      let user ← Proc.transact .register
        (createUser env (env.toLowerCase email) passwordHash password k expiresAt)
      return result env user k expiresAt)
    fun err =>
      if err.isUniqueConstraintViolation then
        throw (.conflict "An account with this email already exists")
      else
        throw err

def setFailedLoginAttempts (userId : Nat) (f : Nat → Nat) : Service Unit :=
  Proc.transact .statement (do
    let _ ← Db.users.update userId fun u => { u with
      failedLoginAttempts := f u.failedLoginAttempts }
    return ())

def clearFailedLoginAttempts (user : User) : Service Unit :=
  if user.failedLoginAttempts ≠ 0 then setFailedLoginAttempts user.id fun _ => 0 else return ()

/-- The session of a user whose password has been checked. -/
def startSession (n : Nat) (user : User) (password : String) : Service AuthTokenResult := do
  let k ← draw n
  let now ← Proc.read World.now
  let expiresAt := now + env.refreshTokenTtlMs
  let _ ← Proc.transact (.login user)
    (createRefreshToken env user.id k expiresAt (.root password))
  return result env user k expiresAt

def login (n : Nat) (email password : String) : Service AuthTokenResult := do
  let user ← Proc.read fun w => w.users.findFirst (·.email = env.toLowerCase email)
  match user.filter (·.isActive) with
  | none => throw (.unauthorized genericLoginError)
  | some user =>
      if env.bcryptCompare password user.passwordHash = false then do
        setFailedLoginAttempts user.id (· + 1)
        throw (.unauthorized genericLoginError)
      else do
        clearFailedLoginAttempts user
        startSession env n user password

/-! ## Refresh -/

/-- A token that was no longer good has been presented: every session of its user ends. -/
def detectReuse (userId : Nat) : Transaction Unit := do
  revokeAll userId
  bumpTokenVersion userId

def expireToken (id : Nat) : Transaction Unit := do
  let now ← Tx.read World.now
  let _ ← Db.refreshTokens.update id fun t => { t with revokedAt := some now }
  return ()

/-- The transaction of `refresh`: a new token, and the old one revoked in its favour. -/
def rotate (user : User) (tokenRow : RefreshToken) (k : Nat) (expiresAt : Int) :
    Transaction Unit := do
  let created ← createRefreshToken env user.id k expiresAt (.renewal tokenRow.id)
  let now ← Tx.read World.now
  let _ ← Db.refreshTokens.update tokenRow.id fun t => { t with
    revokedAt := some now
    replacedByTokenId := some created.id }
  return ()

/-- The exchange of a token that was found good. -/
def exchange (n : Nat) (tokenRow : RefreshToken) : Service AuthTokenResult := do
  let user ← Proc.read fun w => w.users.get tokenRow.userId
  match user.filter (·.isActive) with
  | none => throw (.unauthorized "Unauthorized")
  | some user => do
      let k ← draw n
      let now ← Proc.read World.now
      let expiresAt := now + env.refreshTokenTtlMs
      Proc.transact (.refresh tokenRow) (rotate env user tokenRow k expiresAt)
      return result env user k expiresAt

def refreshRow (n : Nat) (tokenRow : RefreshToken) : Service AuthTokenResult :=
  if tokenRow.revokedAt.isSome then do
    Proc.transact (.reuseDetected tokenRow.userId) (detectReuse tokenRow.userId)
    throw (.unauthorized "Refresh token reuse detected — all sessions have been revoked")
  else do
    let now ← Proc.read World.now
    if tokenRow.expiresAt < now then do
      Proc.transact .statement (expireToken tokenRow.id)
      throw (.unauthorized "Refresh token expired")
    else
      exchange env n tokenRow

def refresh (n : Nat) (rawToken : Option String) : Service AuthTokenResult :=
  match truthy rawToken with
  | none => throw (.unauthorized "Missing refresh token")
  | some rawToken => do
      let tokenRow ← Proc.read fun w =>
        w.refreshTokens.findFirst (·.tokenHash = env.hashRefreshToken rawToken)
      match tokenRow with
      | none => throw (.unauthorized "Invalid refresh token")
      | some tokenRow => refreshRow env n tokenRow

/-! ## Logout -/

def revokeToken (userId : Nat) (tokenHash : String) : Transaction Unit := do
  let now ← Tx.read World.now
  let _ ← Db.refreshTokens.updateMany
    (fun t => t.tokenHash = tokenHash && t.userId = userId && t.revokedAt.isNone)
    fun t => { t with revokedAt := some now }
  return ()

def logout (userId : Nat) (rawToken : Option String) : Service Unit :=
  match truthy rawToken with
  | none => return ()
  | some rawToken =>
      Proc.transact .statement (revokeToken userId (env.hashRefreshToken rawToken))

def endSessions (userId : Nat) : Transaction Unit := do
  bumpTokenVersion userId
  revokeAll userId

def logoutAll (userId : Nat) : Service Unit :=
  Proc.transact (.logoutAll userId) (endSessions userId)

/-! ## Password reset -/

/-- The transaction of `requestPasswordReset`, but for the notice it sends. -/
def setResetToken (userId k : Nat) (expiresAt : Int) : Transaction Unit := do
  let _ ← Db.users.update userId fun u => { u with
    passwordResetTokenHash := some (env.hashResetToken (env.opaqueToken k))
    passwordResetExpiresAt := some expiresAt }
  modify fun w => { w with issued := k :: w.issued }

def requestPasswordReset (n : Nat) (email : String) : Service Unit := do
  let user ← Proc.read fun w => w.users.findFirst (·.email = env.toLowerCase email)
  match user.filter (·.isActive) with
  | none => return ()
  | some user => do
      let k ← draw n
      let now ← Proc.read World.now
      Proc.transact (.requestPasswordReset user.id)
        (setResetToken env user.id k (now + passwordResetTokenTtlMs))

/-- The transaction of `confirmPasswordReset`. -/
def setPassword (userId : Nat) (passwordHash : String) : Transaction Unit := do
  let _ ← Db.users.update userId fun u => { u with
    passwordHash
    passwordResetTokenHash := none
    passwordResetExpiresAt := none
    tokenVersion := u.tokenVersion + 1
    failedLoginAttempts := 0 }
  revokeAll userId

/-- The reset token has no date, or one that has passed. -/
def resetExpired (user : User) (now : Int) : Bool :=
  user.passwordResetExpiresAt.all (· < now)

def confirmPasswordReset (n : Nat) (token newPassword : String) : Service Unit := do
  let user ← Proc.read fun w =>
    w.users.findFirst (·.passwordResetTokenHash = some (env.hashResetToken token))
  match user with
  | none => throw (.unauthorized "Invalid or expired reset token")
  | some user => do
      let now ← Proc.read World.now
      if resetExpired user now then
        throw (.unauthorized "Invalid or expired reset token")
      else do
        let salt ← draw n
        Proc.transact (.confirmPasswordReset user (env.hashResetToken token))
          (setPassword user.id (env.bcryptHash salt newPassword))

end

/-! ## Requests -/

inductive Request where
  | register (email password : String)
  | login (email password : String)
  | refresh (rawToken : Option String)
  | logout (userId : Nat) (rawToken : Option String)
  | logoutAll (userId : Nat)
  | requestPasswordReset (email : String)
  | confirmPasswordReset (token newPassword : String)
  | tick (elapsed : Nat)
deriving DecidableEq, Repr

/-- Time passes. -/
def tick (elapsed : Nat) : Service Unit :=
  Proc.transact .statement (modify fun w : World => { w with now := w.now + elapsed })

/-- The answer: the tokens of a session, where the request asks for them. -/
def handle (env : Environment) (n : Nat) : Request → Service (Option AuthTokenResult)
  | .register email password => some <$> register env n email password
  | .login email password => some <$> login env n email password
  | .refresh rawToken => some <$> refresh env n rawToken
  | .logout userId rawToken => do
      logout env userId rawToken
      return none
  | .logoutAll userId => do
      logoutAll userId
      return none
  | .requestPasswordReset email => do
      requestPasswordReset env n email
      return none
  | .confirmPasswordReset token newPassword => do
      confirmPasswordReset env n token newPassword
      return none
  | .tick elapsed => do
      tick elapsed
      return none

abbrev AuthConfig := Config World Request Commit HttpError (Option AuthTokenResult)

end PrintForge.Auth
