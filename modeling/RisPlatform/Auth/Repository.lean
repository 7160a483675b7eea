import RisPlatform.Calls

/-!
# `auth.repository.ts`

The statements on the accounts and their credentials, and the keys of the sessions and of the blocklist
in Redis. A password or a token stands for its own hash.
-/

namespace Ris.Auth

open Relational Concurrent

/-! ## Accounts -/

def findUserByEmail (email : String) (w : World) : Option User :=
  w.users.find? fun u => u.email = email

def findUserById (userId : ℕ) (w : World) : Option User := w.users.get? userId

def setFailure (u : User) : User := { u with failedLoginCount := u.failedLoginCount + 1 }

theorem id_setFailure (u : User) : (setFailure u).id = u.id := rfl

/-- The new count; 0 if there is no such account. -/
def incrementFailedLoginWithClient (userId : ℕ) : Tx ℤ := do
  Txn.write fun w =>
    { w with users := w.users.update (fun u => u.id = userId) setFailure id_setFailure }
  let found ← Txn.read (findUserById userId)
  return (found.map User.failedLoginCount).getD 0

def setLock (lockedUntil : ℤ) (u : User) : User := { u with lockedUntil := some lockedUntil }

theorem id_setLock (lockedUntil : ℤ) (u : User) : (setLock lockedUntil u).id = u.id := rfl

def lockAccountWithClient (userId : ℕ) (lockedUntil : ℤ) : Tx Unit :=
  Txn.write fun w =>
    { w with users := w.users.update (fun u => u.id = userId) (setLock lockedUntil) (id_setLock lockedUntil) }

def resetFailure (u : User) : User := { u with failedLoginCount := 0, lockedUntil := none }

theorem id_resetFailure (u : User) : (resetFailure u).id = u.id := rfl

/-- The account counts from 0 again, and its lock is lifted. -/
def resetFailedLogin (userId : ℕ) : Call Unit :=
  .transaction
    (do
      connect
      Txn.write fun w =>
        { w with users := w.users.update (fun u => u.id = userId) resetFailure id_resetFailure })
    (fun _ => .failedLoginReset userId) fun _ => .threw

def setPassword (passwordHash : String) (u : User) : User := { u with passwordHash }

theorem id_setPassword (passwordHash : String) (u : User) : (setPassword passwordHash u).id = u.id := rfl

def updatePasswordHashWithClient (userId : ℕ) (passwordHash : String) : Tx Unit :=
  Txn.write fun w =>
    { w with
      users := w.users.update (fun u => u.id = userId) (setPassword passwordHash) (id_setPassword passwordHash) }

def setVerified (u : User) : User := { u with emailVerified := true }

theorem id_setVerified (u : User) : (setVerified u).id = u.id := rfl

def markUserEmailVerifiedWithClient (userId : ℕ) : Tx Unit :=
  Txn.write fun w =>
    { w with users := w.users.update (fun u => u.id = userId) setVerified id_setVerified }

/-! ## Reset tokens, verification tokens and backup codes -/

def findValidResetToken (tokenHash : String) (now : ℤ) (w : World) : Option PasswordResetToken :=
  w.passwordResetTokens.find? fun t => t.tokenHash = tokenHash ∧ t.usedAt = none ∧ now < t.expiresAt

def useResetToken (now : ℤ) (t : PasswordResetToken) : PasswordResetToken :=
  { t with usedAt := some now }

theorem id_useResetToken (now : ℤ) (t : PasswordResetToken) : (useResetToken now t).id = t.id := rfl

/-- Used or not, the token is marked as used. -/
def markResetTokenUsedWithClient (tokenId : ℕ) : Tx Unit := do
  let now ← now
  Txn.write fun w =>
    { w with
      passwordResetTokens := w.passwordResetTokens.update (fun t => t.id = tokenId)
        (useResetToken now) (id_useResetToken now) }

def findValidEmailVerificationToken (tokenHash : String) (now : ℤ) (w : World) :
    Option EmailVerificationToken :=
  w.emailVerificationTokens.find? fun t =>
    t.tokenHash = tokenHash ∧ t.verifiedAt = none ∧ now < t.expiresAt

def useVerificationToken (now : ℤ) (t : EmailVerificationToken) : EmailVerificationToken :=
  { t with verifiedAt := some now }

theorem id_useVerificationToken (now : ℤ) (t : EmailVerificationToken) :
    (useVerificationToken now t).id = t.id := rfl

/-- Used or not, the token is marked as used. -/
def markEmailVerificationTokenUsedWithClient (tokenId : ℕ) : Tx Unit := do
  let now ← now
  Txn.write fun w =>
    { w with
      emailVerificationTokens := w.emailVerificationTokens.update (fun t => t.id = tokenId)
        (useVerificationToken now) (id_useVerificationToken now) }

def findUnusedBackupCode (userId : ℕ) (codeHash : String) (w : World) : Option BackupCode :=
  w.totpBackupCodes.find? fun c => c.userId = userId ∧ c.codeHash = codeHash ∧ c.usedAt = none

def useBackupCode (now : ℤ) (c : BackupCode) : BackupCode := { c with usedAt := some now }

theorem id_useBackupCode (now : ℤ) (c : BackupCode) : (useBackupCode now c).id = c.id := rfl

/-- Used or not, the code is marked as used. -/
def markBackupCodeUsedWithClient (codeId : ℕ) : Tx Unit := do
  let now ← now
  Txn.write fun w =>
    { w with
      totpBackupCodes := w.totpBackupCodes.update (fun c => c.id = codeId) (useBackupCode now)
        (id_useBackupCode now) }

/-! ## Password history -/

def createPasswordHistoryEntryWithClient (userId : ℕ) (passwordHash : String) : Tx Unit := do
  let i ← Txn.input
  let w ← Txn.read id
  match w.passwordHistory.insert? { id := i.uuid, userId, passwordHash } with
  | none => Txn.abort (.runtime "duplicate key value violates unique constraint password_history_pkey")
  | some history => Txn.write fun w => { w with passwordHistory := history }

/-- The newest `n` entries, the newest first. -/
def getLastNPasswords (userId n : ℕ) (w : World) : List PasswordHistory :=
  ((w.passwordHistory.rows.filter fun p => p.userId = userId).reverse).take n

/-! ## Login history and audit -/

def createLoginHistoryEntry (userId : Option ℕ) (req : Request) (success : Bool) : Call Unit :=
  .transaction
    (do
      connect
      let now ← now
      Txn.write fun w =>
        { w with
          loginHistory := w.loginHistory ++
            [{ userId
               ipAddress := req.ipAddress.getD "unknown"
               userAgent := req.userAgent.getD "unknown"
               success
               createdAt := now }] })
    (fun _ => .loginHistoryCreated success) fun _ => .threw

/-- A login of the user with the same browser, in the last `daysAgo` days. -/
def hasRecentLoginWithSameUserAgent (userId : ℕ) (userAgent : String) (daysAgo now : ℤ) (w : World) :
    Bool :=
  w.loginHistory.any fun h =>
    h.userId = some userId ∧ h.userAgent = userAgent ∧ h.success ∧ now - daysAgo * dayMs < h.createdAt

/-- The audit row of an authentication event. -/
def auditEntry (userId : Option ℕ) (action : String) (req : Request) (metadata : List (String × Json)) :
    AuditLog where
  userId := userId
  action := action
  tableName := "users"
  recordId := Json.ofOption .id userId
  oldValues := []
  newValues := metadata
  ipAddress := req.ipAddress
  userAgent := req.userAgent

/-! ## Redis -/

def sessionSeconds : ℤ := 7 * 24 * 60 * 60

/-- `session:<id>`, if the key has not expired. -/
def getSessionKey (sessionId : ℕ) (now : ℤ) (w : World) : Option Session :=
  (w.sessions.get? sessionId).filter fun session => now < session.expiresAt

/-- `SET session:<id>`; the new key expires after a week. -/
def createSession (user : User) : Call ℕ :=
  .transaction
    (do
      connect
      let i ← Txn.input
      Txn.write fun w =>
        { w with
          sessions := w.sessions.put
            { sessionId := i.uuid, userId := user.id, role := user.role
              expiresAt := i.now + sessionSeconds * 1000 } }
      return i.uuid)
    (fun sessionId => .sessionCreated sessionId user.id) fun _ => .threw

/-- `DEL session:<id>`. -/
def deleteSession (sessionId : ℕ) : Call Unit :=
  .transaction
    (do
      connect
      Txn.write fun w => { w with sessions := w.sessions.delete sessionId })
    (fun _ => .sessionDeleted sessionId) fun _ => .threw

/-- The key is that of the token: `rt_blocklist:<sessionId>:<iat>`. -/
def isFor (token : RefreshToken) (b : BlockedToken) : Bool :=
  b.sessionId = token.sessionId ∧ b.iat = token.iat

/-- The blocklist has the key of the token, and it has not expired. -/
def isBlocked (token : RefreshToken) (now : ℤ) (w : World) : Bool :=
  w.refreshBlocklist.any fun b => isFor token b ∧ now < b.expiresAt

/-- `SET rt_blocklist:… EX ttl`, in place of the key that is there. -/
def blockToken (token : RefreshToken) (expiresAt : ℤ) (w : World) : World :=
  { w with
    refreshBlocklist := (w.refreshBlocklist.filter fun b => !isFor token b) ++
      [{ sessionId := token.sessionId, iat := token.iat, expiresAt }] }

end Ris.Auth
