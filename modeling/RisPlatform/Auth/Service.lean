import RisPlatform.Auth.Repository

/-!
# `auth.service.ts`

Logging in, with the lock after failed passwords; the second factor and its backup codes; the rotation of
refresh tokens; setting a new password; verifying an e-mail address; stepping up. An access token and a
partial token are left out of the responses; a refresh token is its payload.
-/

namespace Ris.Auth

open Relational Concurrent

/-! ## Audit -/

/-- `createAuditEntry` on its own. -/
def audit (userId : Option ℕ) (action : String) (req : Request) (metadata : List (String × Json)) :
    Call Unit :=
  auditAlone (auditEntry userId action req metadata)

/-- `createAuditEntryWithClient`. -/
def auditWithClient (userId : Option ℕ) (action : String) (req : Request)
    (metadata : List (String × Json)) : Tx Unit :=
  createAuditEntry (auditEntry userId action req metadata)

def logFailedLogin (userId : Option ℕ) (reason : String) (req : Request) : Call Unit := do
  createLoginHistoryEntry userId req false
  audit userId "LOGIN_FAILED" req [("reason", .text reason)]
  log "LOGIN_FAILED"

def logTwoFactorEvent (userId : ℕ) (success : Bool) (req : Request) : Call Unit := do
  let action := if success then "TWO_FA_SUCCESS" else "TWO_FA_FAILED"
  audit (some userId) action req []
  log action

/-! ## The lock of an account -/

def maxFailedAttempts : ℤ := 5

/-- Half an hour, in milliseconds. -/
def lockoutDuration : ℤ := 30 * 60 * 1000

def isAccountLocked (user : User) (now : ℤ) : Bool :=
  match user.lockedUntil with
  | none => false
  | some lockedUntil => now < lockedUntil

/-- What the lookup of a login says: whether the account, if it is active, is locked. -/
def lookupEvent : Option User × ℤ → Event
  | (some user, now) =>
    if user.isActive then .lockChecked user.id (isAccountLocked user now) now else .read
  | (none, _) => .read

/-- The lookup by the e-mail address, with the clock when the account arrives. -/
def lookUpAccount (email : String) : Call (Option User × ℤ) :=
  .transaction
    (do
      connect
      let now ← now
      let found ← Txn.read (findUserByEmail email)
      return (found, now))
    lookupEvent fun _ => .threw

def rejectUnknownEmail {α : Type} (req : Request) : Call α := do
  logFailedLogin none "user_not_found" req
  throw (.auth "Invalid credentials")

def guardAccountUsable (user : User) (now : ℤ) (req : Request) : Call Unit :=
  if !user.isActive then do
    logFailedLogin (some user.id) "account_inactive" req
    throw (.auth "Invalid credentials")
  else if isAccountLocked user now then do
    logFailedLogin (some user.id) "account_locked" req
    throw (.auth "Account is temporarily locked")
  else if !user.emailVerified then do
    logFailedLogin (some user.id) "email_not_verified" req
    throw (.auth ("Please verify your email address before signing in. " ++
      "Check your inbox for the verification link."))
  else pure ()

/-- `bcrypt.compare` with the hash that was read. -/
def comparePassword (user : User) (password : String) : Call Bool :=
  .transaction (pure (password = user.passwordHash)) (fun matched => .passwordCompared user.id matched)
    fun _ => .threw

def lockAccountInTxn (userId : ℕ) (failedAttempts : ℤ) (req : Request) : Tx Unit := do
  let now ← now
  lockAccountWithClient userId (now + lockoutDuration)
  auditWithClient (some userId) "ACCOUNT_LOCKED" req
    [("failedAttempts", .int failedAttempts), ("lockedUntilIso", .int (now + lockoutDuration))]

def lockAtLimit (userId : ℕ) (newCount : ℤ) (req : Request) : Tx Unit :=
  if maxFailedAttempts ≤ newCount then lockAccountInTxn userId newCount req else pure ()

/-- Count the failure, and lock the account at the fifth; the time of it. -/
def recordFailedPasswordTxn (userId : ℕ) (req : Request) : Tx ℤ := do
  let newCount ← incrementFailedLoginWithClient userId
  auditWithClient (some userId) "LOGIN_FAILED" req [("reason", .text "wrong_password")]
  lockAtLimit userId newCount req
  now

def logLock (user : User) : Call Unit :=
  if maxFailedAttempts ≤ user.failedLoginCount + 1 then log "ACCOUNT_LOCKED" else pure ()

def logFailedPasswordEvents (user : User) : Call Unit := do
  logLock user
  log "LOGIN_FAILED"

/-- What `getRecentFailedLoginsByIp` counts. -/
def countRecentFailures : Call ℕ :=
  .transaction
    (do
      connect
      let i ← Txn.input
      return i.recentFailures)
    (fun _ => .read) fun _ => .threw

def checkFailedAuthBurst (cfg : Config) (req : Request) : Call Unit :=
  if .securityAlerts ∈ cfg.queues then do
    let recentFailures ← countRecentFailures
    if recentFailures < 5 then pure ()
    else
      enqueueWithContext
        { queue := .securityAlerts, name := "security-alert"
          data := [("type", .text "FAILED_AUTH_BURST"), ("entityId", .text (req.ipAddress.getD "unknown")),
            ("entityType", .text "ip_address"), ("failureCount", .int recentFailures)] }
  else pure ()

def handleFailedPassword (cfg : Config) (user : User) (req : Request) : Call Unit := do
  let _ ← transaction (recordFailedPasswordTxn user.id req) fun now => .loginFailureRecorded user.id now
  logFailedPasswordEvents user
  checkFailedAuthBurst cfg req

/-! ## Tokens -/

structure LoginResponse where
  refreshToken : Option RefreshToken
  requiresTwoFactor : Bool

/-- `buildRefreshToken` at this time. -/
def buildRefreshToken (cfg : Config) (userId sessionId : ℕ) (now : ℤ) : RefreshToken where
  userId := userId
  sessionId := sessionId
  iat := now / 1000
  exp := now / 1000 + cfg.refreshTokenSeconds

/-- Sign a refresh token. -/
def signRefreshToken (cfg : Config) (userId sessionId : ℕ) (signed : RefreshToken → Event) :
    Call RefreshToken :=
  .transaction
    (do
      let now ← now
      let token := buildRefreshToken cfg userId sessionId now
      Txn.write fun w => { w with signedTokens := w.signedTokens ++ [token] }
      return token)
    signed fun _ => .threw

/-- The e-mail about a login from a new device; a failure is logged. -/
def notifyNewDevice (cfg : Config) (user : User) (req : Request) : Call Unit :=
  tryCatch
    (do
      audit (some user.id) "NEW_DEVICE_LOGIN_NOTIFIED" req [("newDevice", .bool true)]
      enqueueOrWarn cfg
        { queue := .notification, name := "send-email"
          data := [("template", .text "new_device_login"), ("recipient", .text user.email)] }
        "Notification queue not configured — skipping new-device email")
    fun _ => log "Failed to enqueue new-device login alert"

def notifyIfNewDevice (cfg : Config) (user : User) (isKnownDevice : Bool) (req : Request) : Call Unit :=
  if isKnownDevice then pure () else notifyNewDevice cfg user req

def auditFullLogin (userId sessionId : ℕ) (req : Request) : Call Unit := do
  audit (some userId) "LOGIN_SUCCESS" req [("sessionId", .id sessionId), ("tokenType", .text "full")]
  log "LOGIN_SUCCESS"

def issuePartialAuthToken (user : User) (req : Request) : Call LoginResponse := do
  audit (some user.id) "LOGIN_SUCCESS" req [("requiresTwoFactor", .bool true)]
  return { refreshToken := none, requiresTwoFactor := true }

def issueFullTokens (cfg : Config) (user : User) (req : Request) : Call LoginResponse := do
  let (isKnownDevice, _) ←
    queryNow (fun now w => hasRecentLoginWithSameUserAgent user.id (req.userAgent.getD "unknown") 30 now w)
  let sessionId ← createSession user
  -- `recordLogin`; the column `last_login_at` is left out
  query fun _ => ()
  createLoginHistoryEntry (some user.id) req true
  let refreshToken ← signRefreshToken cfg user.id sessionId .tokenIssued
  -- `buildUserProfile`; the names are left out
  query fun _ => ()
  auditFullLogin user.id sessionId req
  notifyIfNewDevice cfg user isKnownDevice req
  return { refreshToken := some refreshToken, requiresTwoFactor := false }

/-! ## Login -/

def acceptPassword (cfg : Config) (user : User) (req : Request) : Call LoginResponse := do
  resetFailedLogin user.id
  if user.twoFactorEnabled then issuePartialAuthToken user req else issueFullTokens cfg user req

def rejectPassword {α : Type} (cfg : Config) (user : User) (req : Request) : Call α := do
  handleFailedPassword cfg user req
  throw (.auth "Invalid credentials")

def login (cfg : Config) (email password : String) (req : Request) : Call LoginResponse := do
  let (found, now) ← lookUpAccount email
  match found with
  | none => rejectUnknownEmail req
  | some user => do
    guardAccountUsable user now req
    let passwordValid ← comparePassword user password
    if passwordValid then acceptPassword cfg user req else rejectPassword cfg user req

/-! ## The second factor -/

/-- What `verifyToken` makes of a partial token. -/
inductive PartialToken
  | invalid
  | otherType
  | partialAuth (userId : ℕ)

def verifyPartialToken : PartialToken → Except RisError ℕ
  | .invalid => throw (.auth "Invalid or expired token")
  | .otherType => throw (.auth "Invalid token type")
  | .partialAuth userId => pure userId

/-- `s.length`, in UTF-16 code units. -/
def utf16Length (s : String) : ℕ := (s.toList.map fun c => if c.toNat < 0x10000 then 1 else 2).sum

/-- What `speakeasy.totp.verify` answers. -/
def totpVerify : Call Bool :=
  .transaction
    (do
      let i ← Txn.input
      return i.totpValid)
    (fun _ => .read) fun _ => .threw

def rejectSecondFactor {α : Type} (userId : ℕ) (message : String) (req : Request) : Call α := do
  logTwoFactorEvent userId false req
  throw (.auth message)

/-- The account, if it exists and has a secret. -/
def verifyTotpCode (user : Option User) (userId : ℕ) (req : Request) : Call User :=
  match user.filter fun user => user.twoFactorSecret ≠ none ∧ user.twoFactorSecret ≠ some "" with
  | none => rejectSecondFactor userId "Two-factor authentication failed" req
  | some user => do
    let isValid ← totpVerify
    if isValid then return user else rejectSecondFactor userId "Invalid verification code" req

def consumeBackupCode (codeId userId : ℕ) (req : Request) : Call Unit :=
  transaction
    (do
      markBackupCodeUsedWithClient codeId
      auditWithClient (some userId) "BACKUP_CODE_USED" req [])
    fun _ => .backupCodeUsed codeId

def rejectBackupCode {α : Type} (userId : ℕ) (req : Request) : Call α := do
  audit (some userId) "BACKUP_CODE_INVALID" req []
  rejectSecondFactor userId "Invalid verification code" req

def backupCodeEvent : Option BackupCode → Event
  | some record => .backupCodeFound record.id
  | none => .read

def verifyBackupCodeOrThrow (user : Option User) (userId : ℕ) (rawCode : String) (req : Request) :
    Call User :=
  match user with
  | none => rejectSecondFactor userId "Two-factor authentication failed" req
  | some user => do
    match ← query (findUnusedBackupCode userId rawCode) backupCodeEvent with
    | none => rejectBackupCode userId req
    | some record => do
      consumeBackupCode record.id userId req
      return user

/-- A code of eight characters is a backup code. -/
def verifySecondFactor (user : Option User) (userId : ℕ) (totpCode : String) (req : Request) :
    Call User :=
  if utf16Length totpCode = 8 then verifyBackupCodeOrThrow user userId totpCode req
  else verifyTotpCode user userId req

def verifyTwoFactor (cfg : Config) (partialToken : PartialToken) (totpCode : String) (req : Request) :
    Call LoginResponse := do
  let userId ← verifyPartialToken partialToken
  let found ← query (findUserById userId)
  let user ← verifySecondFactor found userId totpCode req
  logTwoFactorEvent userId true req
  issueFullTokens cfg user req

/-! ## Sessions -/

/-- `getSession`. -/
def getSession (sessionId : ℕ) : Call (Option Session) := do
  let (session, _) ← queryNow (getSessionKey sessionId)
  return session

def logout (sessionId userId : ℕ) (req : Request) : Call Unit := do
  deleteSession sessionId
  audit (some userId) "LOGOUT" req [("sessionId", .id sessionId)]
  log "User logged out"

def revokeSession (sessionId userId : ℕ) : Call Unit := do
  match ← getSession sessionId with
  | none => pure ()
  | some session =>
    if session.userId ≠ userId then pure ()
    else do
      deleteSession sessionId
      log "SESSION_REVOKED"

/-- One key of the scan: the session is deleted if it is of the user and not the one to keep. -/
def deleteIfOfUser (userId : ℕ) (keepSessionId : Option ℕ) (sessionId : ℕ) : Call Unit := do
  match ← getSession sessionId with
  | none => pure ()
  | some session =>
    if session.userId = userId ∧ keepSessionId ≠ some session.sessionId then deleteSession sessionId
    else pure ()

/-- The pages of the scan are read in one. -/
def deleteSessionsByUserId (userId : ℕ) (keepSessionId : Option ℕ) : Call Unit := do
  let keys ← query fun w => w.sessions.rows.map Session.sessionId
  keys.forM (deleteIfOfUser userId keepSessionId)

/-! ## Refresh -/

/-- A refresh token is valid if it was signed and has not expired. -/
def verifyToken (token : RefreshToken) : Call Unit :=
  .transaction
    (do
      let now ← now
      let signed ← Txn.read World.signedTokens
      if token ∈ signed ∧ now / 1000 < token.exp then return () else
        Txn.abort (.auth "Invalid or expired token"))
    (fun _ => .read) fun _ => .threw

/-- `GET rt_blocklist:…`, with the clock when the answer arrives. -/
def getBlocked (token : RefreshToken) : Call (Bool × ℤ) :=
  .transaction
    (do
      connect
      let now ← now
      let blocked ← Txn.read (isBlocked token now)
      return (blocked, now))
    (fun (blocked, now) => .blocklistChecked token blocked now) fun _ => .threw

def rejectBlocked (blocked : Bool) : Except RisError Unit :=
  if blocked then throw (.auth "Refresh token has already been used") else pure ()

def sessionOrThrow : Option Session → Except RisError Session
  | some session => pure session
  | none => throw (.auth "Session expired")

/-- Put the token on the blocklist for the rest of its lifetime, if there is any. -/
def blocklistOldRefreshToken (token : RefreshToken) : Call (Bool × ℤ) :=
  .transaction
    (do
      connect
      let now ← now
      let ttl := token.exp - now / 1000
      if ttl ≤ 0 then return (false, now) else
        Txn.write (blockToken token (now + ttl * 1000))
        return (true, now))
    (fun (stored, now) => .tokenBlocked token stored now) fun _ => .threw

def refreshAccessToken (cfg : Config) (token : RefreshToken) (req : Request) : Call RefreshToken := do
  verifyToken token
  let (blocked, _) ← getBlocked token
  rejectBlocked blocked
  let session ← getSession token.sessionId
  let _ ← sessionOrThrow session
  let _ ← blocklistOldRefreshToken token
  let refreshToken ← signRefreshToken cfg token.userId token.sessionId (.tokenRotated token)
  audit (some token.userId) "TOKEN_REFRESHED" req [("sessionId", .id token.sessionId)]
  return refreshToken

/-! ## Passwords -/

/-- A line terminator, which `.` does not match. -/
def isLineTerminator (c : Char) : Bool := c.toNat ∈ [0x0A, 0x0D, 0x2028, 0x2029]

def isLower (c : Char) : Bool := 'a' ≤ c ∧ c ≤ 'z'

def isUpper (c : Char) : Bool := 'A' ≤ c ∧ c ≤ 'Z'

def isDigit (c : Char) : Bool := '0' ≤ c ∧ c ≤ '9'

/-- `PASSWORD_REGEX`: twelve characters or more on one line, with a lower case letter, an upper case
letter, a digit and another character. -/
def passwordRegex (password : String) : Bool :=
  let cs := password.toList
  cs.any isLower && cs.any isUpper && cs.any isDigit &&
    cs.any (fun c => !(isLower c || isUpper c || isDigit c)) &&
    decide (12 ≤ utf16Length password) && cs.all fun c => !isLineTerminator c

def validatePasswordPair (password confirm : String) : Except RisError Unit :=
  if password ≠ confirm then
    throw (.validation "Passwords do not match" "confirm_password" "Must match new_password")
  else if !passwordRegex password then
    throw (.validation "Password does not meet policy" "new_password"
      "Min 12 chars, 1 uppercase, 1 lowercase, 1 digit, 1 special character")
  else pure ()

def passwordHistoryDepth : ℕ := 5

/-- None of the entries is of the new password. -/
def rejectRecentlyUsed (newPassword : String) (history : List PasswordHistory) : Except RisError Unit :=
  if history.any fun entry => newPassword = entry.passwordHash then
    throw (.businessRule "PASSWORD_RECENTLY_USED" "Cannot reuse last 5 passwords")
  else pure ()

def checkPasswordHistory (userId : ℕ) (newPassword : String) : Call Unit := do
  let history ← query (getLastNPasswords userId passwordHistoryDepth)
  rejectRecentlyUsed newPassword history

def resetTokenEvent : Option PasswordResetToken → Event
  | some tokenRecord => .resetTokenFound tokenRecord.id
  | none => .read

def lookUpResetToken (rawToken : String) : Call (Option PasswordResetToken) :=
  .transaction
    (do
      connect
      let now ← now
      Txn.read (findValidResetToken rawToken now))
    resetTokenEvent fun _ => .threw

def resetTokenOrThrow : Option PasswordResetToken → Except RisError PasswordResetToken
  | some tokenRecord => pure tokenRecord
  | none => throw (.auth "Invalid or expired reset token")

def validateResetToken (rawToken : String) : Call PasswordResetToken := do
  let found ← lookUpResetToken rawToken
  resetTokenOrThrow found

def applyPasswordReset (tokenRecord : PasswordResetToken) (passwordHash : String) (req : Request) :
    Tx Unit := do
  updatePasswordHashWithClient tokenRecord.userId passwordHash
  markResetTokenUsedWithClient tokenRecord.id
  createPasswordHistoryEntryWithClient tokenRecord.userId passwordHash
  auditWithClient (some tokenRecord.userId) "PASSWORD_RESET_COMPLETED" req []

/-- Set the password with a token; every session of the user ends. -/
def resetPassword (rawToken newPassword confirmPassword : String) (req : Request) : Call Unit := do
  validatePasswordPair newPassword confirmPassword
  let tokenRecord ← validateResetToken rawToken
  checkPasswordHistory tokenRecord.userId newPassword
  transaction (applyPasswordReset tokenRecord newPassword req)
    fun _ => .passwordReset tokenRecord.id tokenRecord.userId newPassword
  deleteSessionsByUserId tokenRecord.userId none
  log "PASSWORD_RESET_COMPLETED"

def userOrThrow : Option User → Except RisError User
  | some user => pure user
  | none => throw (.auth "User not found")

/-- The current password is right, and the new one another. -/
def guardPasswordChange (user : User) (currentPassword newPassword : String) : Except RisError Unit :=
  if currentPassword ≠ user.passwordHash then throw (.auth "Current password is incorrect")
  else if newPassword = user.passwordHash then
    throw (.validation "New password must differ from current password" "new_password"
      "Cannot reuse current password")
  else pure ()

def persistPasswordChange (userId : ℕ) (passwordHash : String) (req : Request) : Tx Unit := do
  updatePasswordHashWithClient userId passwordHash
  createPasswordHistoryEntryWithClient userId passwordHash
  auditWithClient (some userId) "PASSWORD_CHANGED" req []

/-- Set the password of an authenticated user; the other sessions end. -/
def changePassword (userId sessionId : ℕ) (currentPassword newPassword confirmPassword : String)
    (req : Request) : Call Unit := do
  validatePasswordPair newPassword confirmPassword
  let found ← query (findUserById userId)
  let user ← userOrThrow found
  guardPasswordChange user currentPassword newPassword
  checkPasswordHistory userId newPassword
  transaction (persistPasswordChange userId newPassword req) fun _ => .passwordChanged userId newPassword
  deleteSessionsByUserId userId (some sessionId)
  log "PASSWORD_CHANGED"

/-! ## The e-mail address -/

def rejectVerification {α : Type} (req : Request) : Call α := do
  audit none "EMAIL_VERIFICATION_FAILED" req [("reason", .text "invalid_or_expired")]
  throw (.auth "Invalid or expired verification link")

def applyEmailVerification (tokenRecord : EmailVerificationToken) (req : Request) : Tx Unit := do
  markUserEmailVerifiedWithClient tokenRecord.userId
  markEmailVerificationTokenUsedWithClient tokenRecord.id
  auditWithClient (some tokenRecord.userId) "EMAIL_VERIFIED" req []

def verificationTokenEvent : Option EmailVerificationToken → Event
  | some tokenRecord => .verificationTokenFound tokenRecord.id
  | none => .read

def lookUpVerificationToken (rawToken : String) : Call (Option EmailVerificationToken) :=
  .transaction
    (do
      connect
      let now ← now
      Txn.read (findValidEmailVerificationToken rawToken now))
    verificationTokenEvent fun _ => .threw

def verifyEmail (rawToken : String) (req : Request) : Call Unit := do
  match ← lookUpVerificationToken rawToken with
  | none => rejectVerification req
  | some tokenRecord => do
    transaction (applyEmailVerification tokenRecord req) fun _ => .emailVerified tokenRecord.id
    log "EMAIL_VERIFIED"

/-! ## Step-up authentication -/

/-- The account, if it has a second factor. -/
def guardStepUpConfigured (user : Option User) (userId : ℕ) (req : Request) : Call User :=
  match user.filter fun user => user.twoFactorEnabled ∧ user.twoFactorSecret ≠ none ∧
      user.twoFactorSecret ≠ some "" with
  | none => do
    audit (some userId) "STEP_UP_FAILED" req [("reason", .text "2fa_not_configured")]
    throw (.auth "Two-factor authentication is required for this action")
  | some user => return user

def verifyStepUpCode (userId : ℕ) (req : Request) : Call Unit := do
  let isValid ← totpVerify
  if isValid then pure ()
  else do
    audit (some userId) "STEP_UP_FAILED" req [("reason", .text "invalid_code")]
    throw (.auth "Invalid verification code")

/-- Verify the code of a user who is logged in; `speakeasy` compares it. -/
def verifyStepUp (userId : ℕ) (req : Request) : Call Unit := do
  let found ← query (findUserById userId)
  let _ ← guardStepUpConfigured found userId req
  verifyStepUpCode userId req
  audit (some userId) "STEP_UP_VERIFIED" req []
  log "STEP_UP_VERIFIED"

/-! ## The system -/

/-- The operations on accounts. -/
inductive Op
  | login (email password : String) (req : Request)
  | verifyTwoFactor (partialToken : PartialToken) (totpCode : String) (req : Request)
  | refreshAccessToken (token : RefreshToken) (req : Request)
  | logout (sessionId userId : ℕ) (req : Request)
  | revokeSession (sessionId userId : ℕ)
  | resetPassword (rawToken newPassword confirmPassword : String) (req : Request)
  | changePassword (userId sessionId : ℕ) (currentPassword newPassword confirmPassword : String)
      (req : Request)
  | verifyEmail (rawToken : String) (req : Request)

/-- The body of each operation. -/
def program (cfg : Config) : Op → Call Unit
  | .login email password req => (login cfg email password req).discard
  | .verifyTwoFactor partialToken totpCode req => (verifyTwoFactor cfg partialToken totpCode req).discard
  | .refreshAccessToken token req => (refreshAccessToken cfg token req).discard
  | .logout sessionId userId req => logout sessionId userId req
  | .revokeSession sessionId userId => revokeSession sessionId userId
  | .resetPassword rawToken newPassword confirmPassword req =>
    resetPassword rawToken newPassword confirmPassword req
  | .changePassword userId sessionId currentPassword newPassword confirmPassword req =>
    changePassword userId sessionId currentPassword newPassword confirmPassword req
  | .verifyEmail rawToken req => verifyEmail rawToken req

end Ris.Auth
