import Mathlib.Data.List.Infix
import RisPlatform.Auth.Repository
import RisPlatform.Onboarding.Buyers
import RisPlatform.Onboarding.Eligibility

/-!
# `onboarding.service.ts`: registration

An applicant answers the questionnaire, registers with the token of a questionnaire that was passed, and verifies
the e-mail address with the link that is mailed there. None of the three requests knows anything but its token, and
the checks of a registration are made before its transaction, so two registrations may pass them side by side; the
constraints of the tables decide between them.
-/

namespace Ris.Onboarding.Registration

open Relational Concurrent Utf16 Eligibility

/-! ## Rows -/

/-- A row of `users`. -/
structure UserRow where
  id : ℕ
  email : String
  passwordHash : String
  role : String
  isActive : Bool := true
  emailVerified : Bool := false
  deriving DecidableEq

/-- A row of `suppliers`, as it is inserted. -/
structure SupplierRow where
  id : ℕ
  userId : ℕ
  companyName : String
  companyNameEncrypted : Text
  registrationNumber : String
  taxIdEncrypted : Text
  directorsEncrypted : Text
  bankName : String
  bankAccountNumberEncrypted : Text
  bankAccountNameEncrypted : Text
  bankBranch : String
  preferredPaymentMethod : String
  eligibilitySessionToken : ℕ
  consentUrsbCheck : Bool
  consentSupplierRefs : Bool
  consentLitigationCheck : Bool
  litigationDisclosure : Option String
  requiredFinancingAmount : Option ℤ
  deriving DecidableEq

/-- A row of `email_verification_tokens`. -/
structure VerificationToken where
  id : ℕ
  userId : ℕ
  tokenHash : String
  expiresAt : ℤ
  verifiedAt : Option ℤ := none
  deriving DecidableEq

/-- The constraints that a registration may violate. -/
inductive Constraint
  | usersPkey | usersEmailKey | suppliersPkey | suppliersUserIdKey | suppliersRegistrationNumberKey
  deriving DecidableEq

def Constraint.text : Constraint → String
  | .usersPkey => "users_pkey"
  | .usersEmailKey => "users_email_key"
  | .suppliersPkey => "suppliers_pkey"
  | .suppliersUserIdKey => "suppliers_user_id_key"
  | .suppliersRegistrationNumberKey => "suppliers_registration_number_key"

/-- `users`, with `users_email_key`. -/
structure Users where
  table : Table UserRow.id
  emails : (table.rows.map UserRow.email).Nodup

/-- `suppliers`, with `suppliers_user_id_key` and `suppliers_registration_number_key`. -/
structure Suppliers where
  table : Table SupplierRow.id
  userIds : (table.rows.map SupplierRow.userId).Nodup
  numbers : (table.rows.map SupplierRow.registrationNumber).Nodup

/-- `INSERT INTO users` -/
def Users.insert? (r : Users) (u : UserRow) : Except Constraint Users :=
  match r.table.insert? u with
  | none => .error .usersPkey
  | some table => if h : (table.rows.map UserRow.email).Nodup then .ok ⟨table, h⟩ else .error .usersEmailKey

/-- `INSERT INTO suppliers` -/
def Suppliers.insert? (r : Suppliers) (x : SupplierRow) : Except Constraint Suppliers :=
  match r.table.insert? x with
  | none => .error .suppliersPkey
  | some table =>
    if hu : (table.rows.map SupplierRow.userId).Nodup then
      if hn : (table.rows.map SupplierRow.registrationNumber).Nodup then .ok ⟨table, hu, hn⟩
      else .error .suppliersRegistrationNumberKey
    else .error .suppliersUserIdKey

def setVerified (u : UserRow) : UserRow := { u with emailVerified := true }

theorem id_setVerified (u : UserRow) : (setVerified u).id = u.id := rfl

/-- `UPDATE users SET email_verified = true WHERE id = $1` -/
def Users.verify (r : Users) (userId : ℕ) : Users where
  table := r.table.update (fun u => u.id = userId) setVerified id_setVerified
  emails := by
    have hemail : UserRow.email ∘ (fun u => if decide (u.id = userId) = true then setVerified u else u) =
        UserRow.email := by
      funext u
      rw [Function.comp_apply]
      split <;> rfl
    rw [Table.rows_update, List.map_map, hemail]
    exact r.emails

/-- The tables. -/
structure RegistrationRows where
  checks : Table EligibilityCheck.sessionToken
  users : Users
  suppliers : Suppliers
  tokens : Table VerificationToken.id

/-- The acts of the calls. -/
inductive RegistrationAct
  | eligibilityRecorded (check : EligibilityCheck)
  | eligibilityRead (found : Option EligibilityCheck) (now : ℤ)
  | supplierRegistered (user : UserRow) (supplier : SupplierRow)
  | tokensInvalidated (userId : ℕ)
  | tokenIssued (token : VerificationToken) (rawToken : String)
  | userRead (found : Option UserRow)
  | tokenRead (found : Option VerificationToken) (rawToken : String) (now : ℤ)
  | emailVerified (token : VerificationToken)

abbrev RegistrationTx : Type → Type := Db.Tx RegistrationRows

abbrev RegistrationCall : Type → Type := Db.Call RegistrationRows RegistrationAct

/-! ## The repositories -/

namespace Repo

def emailExists (email : String) (r : RegistrationRows) : Bool := r.users.table.rows.any fun u => u.email = email

def registrationNumberExists (number : String) (r : RegistrationRows) : Bool :=
  r.suppliers.table.rows.any fun x => x.registrationNumber = number

/-- `NOW() + INTERVAL '24 hours'`, as the row is inserted. -/
def expiresAt (check : EligibilityCheck) : ℤ := check.createdAt + Tier.oneDay.interval

/-- The times of the questionnaires are in microseconds. -/
def findEligibilityByToken (token : ℕ) (now : ℤ) (r : RegistrationRows) : Option EligibilityCheck :=
  (r.checks.get? token).filter fun check => now * 1000 < expiresAt check

def createEligibilityCheck (check : EligibilityCheck) : RegistrationTx Unit := do
  match ← Db.read fun r => r.checks.insert? check with
  | none =>
    Txn.abort (.runtime "duplicate key value violates unique constraint \"eligibility_checks_session_token_key\"")
  | some checks => Db.write fun r => { r with checks := checks }

def findUserByEmail (email : String) (r : RegistrationRows) : Option UserRow :=
  r.users.table.rows.find? fun u => u.email = email

def setInvalidated (now : ℤ) (token : VerificationToken) : VerificationToken :=
  { token with verifiedAt := some now }

theorem id_setInvalidated (now : ℤ) (token : VerificationToken) : (setInvalidated now token).id = token.id := rfl

def invalidateEmailVerificationTokens (userId : ℕ) : RegistrationTx Unit := do
  let now ← Db.now
  Db.write fun r =>
    { r with
      tokens := r.tokens.update (fun token => token.userId = userId && token.verifiedAt.isNone)
        (setInvalidated now) (id_setInvalidated now) }

/-- The user must exist, and the hash must be new. -/
def createEmailVerificationToken (token : VerificationToken) : RegistrationTx Unit := do
  let known ← Db.read fun r => (r.users.table.get? token.userId).isSome
  let taken ← Db.read fun r => r.tokens.rows.any fun t => t.tokenHash = token.tokenHash
  match ← Db.read fun r => r.tokens.insert? token with
  | none =>
    Txn.abort (.runtime "duplicate key value violates unique constraint \"email_verification_tokens_pkey\"")
  | some tokens =>
    if taken then
      Txn.abort
        (.runtime "duplicate key value violates unique constraint \"email_verification_tokens_token_hash_key\"")
    else if !known then
      Txn.abort
        (.runtime "insert or update on table \"email_verification_tokens\" violates foreign key constraint \"email_verification_tokens_user_id_fkey\"")
    else Db.write fun r => { r with tokens := tokens }

/-- `verified_at IS NULL AND expires_at > NOW()` -/
def findValidEmailVerificationToken (tokenHash : String) (now : ℤ) (r : RegistrationRows) :
    Option VerificationToken :=
  r.tokens.rows.find? fun token =>
    token.tokenHash = tokenHash && token.verifiedAt.isNone && decide (now < token.expiresAt)

def markUserEmailVerifiedWithClient (userId : ℕ) : RegistrationTx Unit :=
  Db.write fun r => { r with users := r.users.verify userId }

def markEmailVerificationTokenUsedWithClient (tokenId : ℕ) : RegistrationTx Unit := do
  let now ← Db.now
  Db.write fun r =>
    { r with
      tokens := r.tokens.update (fun token => token.id = tokenId) (setInvalidated now) (id_setInvalidated now) }

end Repo

/-! ## The questionnaire -/

/-- What the services take from their environment. -/
structure RegistrationEnv extends Env where
  locale : Eligibility.Locale
  /-- `bcrypt.hash`; the salt is drawn with the other inputs of the statement. -/
  bcryptHash : Input → String → String
  /-- SHA-256, in hexadecimal digits. -/
  hashToken : String → String

/-- The throttle, as the rows are now. -/
def enforceThrottle (env : RegistrationEnv) (email : Option String) (ipAddress : String) : RegistrationCall Unit := do
  let answer ← Db.queryAt fun now r =>
    enforceEligibilityThrottle env.locale r.checks.rows email (some ipAddress) (now * 1000)
  match answer with
  | .ok _ => pure ()
  | .error block => do
    Db.log "Eligibility throttle triggered"
    throw (.businessRule block.errorCode block.message)

def recordEligibility (env : RegistrationEnv) (data : EligibilityCheckInput) (ipAddress : String) :
    RegistrationTx EligibilityCheck := do
  let token ← Db.uuid
  let now ← Db.now
  let attempt : Attempt := { data, ipAddress, now := now * 1000, recordedAt := now * 1000, token }
  Repo.createEligibilityCheck (attempt.row env.locale)
  return attempt.row env.locale

def checkEligibility (env : RegistrationEnv) (data : EligibilityCheckInput) (ipAddress : String) :
    RegistrationCall EligibilityResult := do
  enforceThrottle env (data.email.map fun email => env.locale.toLowerCase (env.locale.trim email)) ipAddress
  let check ← Db.transaction (recordEligibility env data ipAddress) .eligibilityRecorded
  if check.passed then do
    Db.log "ELIGIBILITY_PASSED"
    return ⟨true, some check.sessionToken, "Eligibility confirmed. Please proceed with full registration."⟩
  else
    return ⟨false, none,
      "Your organisation does not meet the minimum eligibility criteria. " ++
        "You must operate a registered company, be an authorised representative, " ++
        "and have been in business for at least 1 year."⟩

/-! ## The registration -/

structure SupplierRegistration where
  email : String
  password : String
  companyName : String
  registrationNumber : String
  taxId : Text
  /-- `JSON.stringify(directors)` -/
  directors : Text
  bankName : String
  bankAccountNumber : Text
  bankAccountName : Text
  bankBranch : String
  preferredPaymentMethod : String
  eligibilitySessionToken : ℕ
  consentUrsbCheck : Bool
  consentSupplierRefs : Bool
  consentLitigationCheck : Bool
  litigationDisclosure : Option String := none
  requiredFinancingAmount : Option ℤ := none

def readEligibility (token : ℕ) : RegistrationTx (Option EligibilityCheck × ℤ) := do
  let now ← Db.now
  let found ← Db.read (Repo.findEligibilityByToken token now)
  return (found, now)

def requireEligibility (eligibility : Option EligibilityCheck) : Except RisError EligibilityCheck :=
  let refusal : RisError :=
    .businessRule "ELIGIBILITY_TOKEN_INVALID" "A valid eligibility session token is required before registration"
  match eligibility with
  | none => throw refusal
  | some check => if !check.passed then throw refusal else pure check

def emailTaken : RisError := .businessRule "EMAIL_TAKEN" "An account with this email already exists"

def registrationNumberTaken : RisError :=
  .businessRule "REGISTRATION_NUMBER_TAKEN" "A supplier with this registration number already exists"

def refuseIf (taken : Bool) (refusal : RisError) : Except RisError Unit := if taken then throw refusal else pure ()

def validateRegistrationPrereqs (data : SupplierRegistration) : RegistrationCall Unit := do
  let eligibility ← Db.transaction (readEligibility data.eligibilitySessionToken)
    fun x => .eligibilityRead x.1 x.2
  let _ ← monadLift (requireEligibility eligibility.1)
  let emailExists ← Db.query (Repo.emailExists data.email)
  let _ ← monadLift (refuseIf emailExists emailTaken)
  let numberExists ← Db.query (Repo.registrationNumberExists data.registrationNumber)
  monadLift (refuseIf numberExists registrationNumberTaken)

def validateConsents (data : SupplierRegistration) : Except RisError Unit :=
  if !data.consentUrsbCheck then throw (.validation "Consent for URSB check is required" "" "")
  else if !data.consentSupplierRefs then
    throw (.validation "Consent for supplier references is required" "" "")
  else if !data.consentLitigationCheck then
    throw (.validation "Consent for litigation check is required" "" "")
  else pure ()

/-- The audit row of a blocked registration; it has no name but in the hash. -/
def blockedRow (env : RegistrationEnv) (screening : Screening) (found : SanctionsEntry) (data : SupplierRegistration)
    (req : Request) : AuditLog where
  userId := none
  action := "SANCTIONS_REGISTRATION_BLOCKED"
  tableName := "suppliers"
  recordId := .text "pre-insert"
  oldValues := []
  newValues :=
    [("matchedEntryId", .text (found.registrationNumber.getD "unknown")),
      ("matchKeyHash", .text (env.sha256
        (screening.toLowerCase data.companyName ++ "|" ++ data.registrationNumber).toUTF8.toList)),
      ("reason", .text found.reason)]
  ipAddress := req.ipAddress
  userAgent := req.userAgent

/-- Read the list; the file may be missing. -/
def loadSanctionsList (screening : Screening) : RegistrationCall Unit :=
  if screening.entries = [] then
    throw (.runtime "SANCTIONS_LIST_EMPTY: config/sanctions.json entries array is empty — populate before starting the server")
  else Db.log "Sanctions list loaded"

def screenSanctionsBeforeRegistration (env : RegistrationEnv) (screening : Screening) (data : SupplierRegistration)
    (req : Request) : RegistrationCall Unit := do
  loadSanctionsList screening
  match findSanctionsMatch screening data.companyName data.registrationNumber with
  | none => pure ()
  | some found => do
    Db.audit (blockedRow env screening found data req)
    Db.log "SANCTIONS_REGISTRATION_BLOCKED"
    throw (.businessRule "SANCTIONS_MATCH"
      "Entity failed sanctions screening — registration blocked pending compliance review")

/-- `uuidv4()`, which cannot fail. -/
def newId : RegistrationCall ℕ := .transaction Db.uuid (fun _ => .read) fun _ => .threw

/-- `bcrypt.hash` -/
def hashPassword (env : RegistrationEnv) (password : String) : RegistrationCall String :=
  .transaction (do Db.connect; let i ← Txn.input; return env.bcryptHash i password) (fun _ => .read) fun _ => .threw

/-- The row of a new supplier, with its encrypted columns. -/
def supplierRow (env : RegistrationEnv) (i : Input) (data : SupplierRegistration) (userId supplierId : ℕ) :
    Except RisError SupplierRow := do
  let bankAccountNumberEncrypted ← encrypt env.toEnv i 0 data.bankAccountNumber
  let bankAccountNameEncrypted ← encrypt env.toEnv i 1 data.bankAccountName
  let companyNameEncrypted ← encrypt env.toEnv i 2 (units data.companyName)
  let taxIdEncrypted ← encrypt env.toEnv i 3 data.taxId
  let directorsEncrypted ← encrypt env.toEnv i 4 data.directors
  return {
    id := supplierId
    userId
    companyName := data.companyName
    companyNameEncrypted
    registrationNumber := data.registrationNumber
    taxIdEncrypted
    directorsEncrypted
    bankName := data.bankName
    bankAccountNumberEncrypted
    bankAccountNameEncrypted
    bankBranch := data.bankBranch
    preferredPaymentMethod := data.preferredPaymentMethod
    eligibilitySessionToken := data.eligibilitySessionToken
    consentUrsbCheck := data.consentUrsbCheck
    consentSupplierRefs := data.consentSupplierRefs
    consentLitigationCheck := data.consentLitigationCheck
    litigationDisclosure := data.litigationDisclosure
    requiredFinancingAmount := data.requiredFinancingAmount }

/-- `constraint.includes(part)` -/
def Constraint.includes (c : Constraint) (part : String) : Bool := part.toList <:+: c.text.toList

def mapPostgresUniqueViolation (c : Constraint) : RisError :=
  if c.includes "email" then emailTaken
  else if c.includes "registration_number" then registrationNumberTaken
  else .runtime ("duplicate key value violates unique constraint \"" ++ c.text ++ "\"")

def createUser (user : UserRow) : RegistrationTx Unit := do
  match ← Db.read fun r => r.users.insert? user with
  | .error c => Txn.abort (mapPostgresUniqueViolation c)
  | .ok users => Db.write fun r => { r with users := users }

def createSupplier (supplier : SupplierRow) : RegistrationTx Unit := do
  match ← Db.read fun r => r.suppliers.insert? supplier with
  | .error c => Txn.abort (mapPostgresUniqueViolation c)
  | .ok suppliers => Db.write fun r => { r with suppliers := suppliers }

/-- The audit row of a registration. -/
def registeredRow (user : UserRow) (supplier : SupplierRow) (req : Request) : AuditLog :=
  auditRow user.id "SUPPLIER_REGISTERED" "suppliers" supplier.id [] [("kycStatus", .text KycStatus.pending.text)] req

/-- The transaction of a registration. -/
def executeRegistrationTx (env : RegistrationEnv) (data : SupplierRegistration) (userId supplierId : ℕ)
    (passwordHash : String) (req : Request) : RegistrationTx (UserRow × SupplierRow) := do
  let i ← Txn.input
  let supplier ← monadLift (supplierRow env i data userId supplierId)
  let user : UserRow := { id := userId, email := data.email, passwordHash, role := "supplier" }
  createUser user
  createSupplier supplier
  Db.createAuditEntry (registeredRow user supplier req)
  return (user, supplier)

/-! ## The verification of the address -/

/-- Hexadecimal digits as a string. -/
def digits (t : Text) : String := String.ofList (t.map fun x => Char.ofNat x.toNat)

/-- `EMAIL_VERIFICATION_EXPIRY_MS` -/
def emailVerificationExpiryMs : ℤ := 24 * 60 * 60 * 1000

def issueTx (env : RegistrationEnv) (userId : ℕ) : RegistrationTx (VerificationToken × String) := do
  let i ← Txn.input
  let id ← Db.uuid
  let now ← Db.now
  let rawToken := digits (toHex (env.randomBytes i 0))
  let token : VerificationToken :=
    { id, userId, tokenHash := env.hashToken rawToken, expiresAt := now + emailVerificationExpiryMs }
  Repo.createEmailVerificationToken token
  return (token, rawToken)

/-- The earlier links of the account go dead before the new token is stored. -/
def generateEmailVerificationToken (env : RegistrationEnv) (userId : ℕ) : RegistrationCall String := do
  Db.transaction (Repo.invalidateEmailVerificationTokens userId) fun _ => .tokensInvalidated userId
  let issued ← Db.transaction (issueTx env userId) fun issued => .tokenIssued issued.1 issued.2
  return issued.2

/-- The job that mails the link; the hours are a number there. -/
def verificationJob (env : RegistrationEnv) (email rawToken : String) (id : ℕ) : Job where
  queue := .notification
  name := "send-email"
  data :=
    [("id", .id id), ("channel", .text "email"), ("template", .text "email_verification"),
      ("recipient", .text email),
      ("data", .strings [
        ("verification_url", env.frontendUrl.getD "https://app.ris.ug" ++ "/verify-email?token=" ++ rawToken),
        ("expiry_hours", "24"), ("user_name", "Supplier")])]

def enqueueVerificationEmail (cfg : Config) (env : RegistrationEnv) (email rawToken : String) :
    RegistrationCall Unit :=
  if .notification ∉ cfg.queues then Db.log "Notification queue not configured"
  else
    tryCatch (Db.enqueueNew (verificationJob env email rawToken))
      fun _ => Db.log "Failed to enqueue verification email"

def issueEmailVerificationToken (cfg : Config) (env : RegistrationEnv) (userId : ℕ) (email : String)
    (req : Request) : RegistrationCall Unit := do
  let rawToken ← generateEmailVerificationToken env userId
  Db.audit (Auth.auditEntry (some userId) "EMAIL_VERIFICATION_REQUESTED" req [])
  enqueueVerificationEmail cfg env email rawToken
  Db.log "EMAIL_VERIFICATION_REQUESTED"

def postRegistrationChecks (cfg : Config) (env : RegistrationEnv) (userId supplierId : ℕ) (email : String)
    (req : Request) : RegistrationCall Unit := do
  Db.log "SUPPLIER_REGISTERED"
  tryCatch (issueEmailVerificationToken cfg env userId email req)
    fun _ => Db.log "Failed to issue email verification token"
  queueOnboardingNotification cfg "welcome" [("userId", .id userId), ("supplierId", .id supplierId)]

/-- The ids of the user and of the supplier. -/
def registerSupplier (cfg : Config) (env : RegistrationEnv) (screening : Screening) (data : SupplierRegistration)
    (req : Request) : RegistrationCall (ℕ × ℕ) := do
  validateRegistrationPrereqs data
  let _ ← monadLift (validateConsents data)
  screenSanctionsBeforeRegistration env screening data req
  let userId ← newId
  let supplierId ← newId
  let passwordHash ← hashPassword env data.password
  let _ ← Db.transaction (executeRegistrationTx env data userId supplierId passwordHash req)
    fun x => .supplierRegistered x.1 x.2
  postRegistrationChecks cfg env userId supplierId data.email req
  return (userId, supplierId)

def lookUpToken (env : RegistrationEnv) (rawToken : String) : RegistrationTx (Option VerificationToken × ℤ) := do
  let now ← Db.now
  let found ← Db.read (Repo.findValidEmailVerificationToken (env.hashToken rawToken) now)
  return (found, now)

def applyEmailVerification (token : VerificationToken) (req : Request) : RegistrationTx Unit := do
  Repo.markUserEmailVerifiedWithClient token.userId
  Repo.markEmailVerificationTokenUsedWithClient token.id
  Db.createAuditEntry (Auth.auditEntry (some token.userId) "EMAIL_VERIFIED" req [])

def verifyEmail (env : RegistrationEnv) (rawToken : String) (req : Request) : RegistrationCall Unit := do
  let found ← Db.transaction (lookUpToken env rawToken) fun x => .tokenRead x.1 rawToken x.2
  match found.1 with
  | none => do
    Db.audit (Auth.auditEntry none "EMAIL_VERIFICATION_FAILED" req [("reason", .text "invalid_or_expired")])
    throw (.auth "Invalid or expired verification link")
  | some token => do
    Db.transaction (applyEmailVerification token req) fun _ => .emailVerified token
    Db.log "EMAIL_VERIFIED"

def resendTo (cfg : Config) (env : RegistrationEnv) (user : UserRow) (req : Request) : RegistrationCall Unit := do
  let rawToken ← generateEmailVerificationToken env user.id
  Db.audit (Auth.auditEntry (some user.id) "EMAIL_VERIFICATION_RESENT" req [])
  enqueueVerificationEmail cfg env user.email rawToken
  Db.log "EMAIL_VERIFICATION_RESENT"

def resendVerificationEmail (cfg : Config) (env : RegistrationEnv) (email : String) (req : Request) :
    RegistrationCall Unit := do
  let user ← Db.see (Repo.findUserByEmail email) .userRead
  match user with
  | none => pure ()
  | some user => if !user.isActive || user.emailVerified then pure () else resendTo cfg env user req

/-! ## The system -/

inductive Op
  | checkEligibility (data : EligibilityCheckInput) (ipAddress : String)
  | registerSupplier (data : SupplierRegistration) (req : Request)
  | verifyEmail (rawToken : String) (req : Request)
  | resendVerificationEmail (email : String) (req : Request)

/-- The body of each operation. -/
def program (cfg : Config) (env : RegistrationEnv) (screening : Screening) : Op → RegistrationCall Unit
  | .checkEligibility data ipAddress => (checkEligibility env data ipAddress).discard
  | .registerSupplier data req => (registerSupplier cfg env screening data req).discard
  | .verifyEmail rawToken req => verifyEmail env rawToken req
  | .resendVerificationEmail email req => resendVerificationEmail cfg env email req

/-! ## Effects -/

/-- A questionnaire is passed by a registered company, an authorized person and a year in business. -/
def Graded (check : EligibilityCheck) : Prop :=
  check.passed = (check.registeredCompany && check.authorizedPerson && decide (1 ≤ check.yearsInBusiness))

/-- What a registration has checked before it writes the rows. -/
structure Checked (screening : Screening) (l : Db.Deeds RegistrationAct) (user : UserRow)
    (supplier : SupplierRow) : Prop where
  eligible : ∃ check now, some (.own (.eligibilityRead (some check) now)) ∈ l ∧ check.passed = true ∧
    check.sessionToken = supplier.eligibilitySessionToken
  screened : findSanctionsMatch screening supplier.companyName supplier.registrationNumber = none
  consents : supplier.consentUrsbCheck = true ∧ supplier.consentSupplierRefs = true ∧
    supplier.consentLitigationCheck = true
  account : supplier.userId = user.id ∧ user.role = "supplier" ∧ user.isActive = true ∧ user.emailVerified = false

/-- What the acts do to the rows and the audit rows. -/
inductive RegistrationEffect (env : RegistrationEnv) (screening : Screening)
    (l : Db.Deeds RegistrationAct) (d : RegistrationRows × List AuditLog) :
    RegistrationAct → RegistrationRows × List AuditLog → Prop
  | eligibilityRecorded (check : EligibilityCheck) (checks : Table EligibilityCheck.sessionToken)
      (hgraded : Graded check) (hinsert : d.1.checks.insert? check = some checks) :
      RegistrationEffect env screening l d (.eligibilityRecorded check) ({ d.1 with checks := checks }, d.2)
  | eligibilityRead (token : ℕ) (now : ℤ) :
      RegistrationEffect env screening l d (.eligibilityRead (Repo.findEligibilityByToken token now d.1) now) d
  | supplierRegistered (user : UserRow) (supplier : SupplierRow) (users : Users) (suppliers : Suppliers)
      (req : Request) (hchecked : Checked screening l user supplier) (huser : d.1.users.insert? user = .ok users)
      (hsupplier : d.1.suppliers.insert? supplier = .ok suppliers) :
      RegistrationEffect env screening l d (.supplierRegistered user supplier)
        ({ d.1 with users := users, suppliers := suppliers }, d.2 ++ [registeredRow user supplier req])
  | tokensInvalidated (userId : ℕ) (now : ℤ) :
      RegistrationEffect env screening l d (.tokensInvalidated userId)
        ({ d.1 with
            tokens := d.1.tokens.update (fun token => token.userId = userId && token.verifiedAt.isNone)
              (Repo.setInvalidated now) (Repo.id_setInvalidated now) }, d.2)
  | tokenIssued (token : VerificationToken) (rawToken : String) (tokens : Table VerificationToken.id)
      (hhash : token.tokenHash = env.hashToken rawToken) (hinsert : d.1.tokens.insert? token = some tokens) :
      RegistrationEffect env screening l d (.tokenIssued token rawToken) ({ d.1 with tokens := tokens }, d.2)
  | userRead (email : String) :
      RegistrationEffect env screening l d (.userRead (Repo.findUserByEmail email d.1)) d
  | tokenRead (rawToken : String) (now : ℤ) :
      RegistrationEffect env screening l d
        (.tokenRead (Repo.findValidEmailVerificationToken (env.hashToken rawToken) now d.1) rawToken now) d
  | emailVerified (token : VerificationToken) (rawToken : String) (checkedAt now : ℤ) (req : Request)
      (hread : some (.own (.tokenRead (some token) rawToken checkedAt)) ∈ l) :
      RegistrationEffect env screening l d (.emailVerified token)
        ({ d.1 with
            users := d.1.users.verify token.userId
            tokens := d.1.tokens.update (fun x => x.id = token.id) (Repo.setInvalidated now)
              (Repo.id_setInvalidated now) },
          d.2 ++ [Auth.auditEntry (some token.userId) "EMAIL_VERIFIED" req []])

/-- The call has the address of the account from the account. -/
def Knows (user : UserRow) (l : Db.Deeds RegistrationAct) : Prop :=
  (∃ supplier, some (.own (.supplierRegistered user supplier)) ∈ l) ∨ some (.own (.userRead (some user))) ∈ l

/-- A job that mails a link mails the token that the call has issued to the address of the token's account. -/
def Mails (env : RegistrationEnv) (l : Db.Deeds RegistrationAct) (job : Job) : Prop :=
  job.name = "send-email" → ∃ id user token rawToken, job = verificationJob env user.email rawToken id ∧
    some (.own (.tokenIssued token rawToken)) ∈ l ∧ token.userId = user.id ∧ Knows user l

abbrev registrationEffects (env : RegistrationEnv) (screening : Screening) :
    Effects (Db RegistrationRows) (Did RegistrationAct) :=
  Db.emittingEffects (RegistrationEffect env screening) (fun entry => entry.action ≠ "SUPPLIER_REGISTERED")
    (Mails env)

section Commit

variable {cfg : Config} {env : RegistrationEnv} {screening : Screening} {i : Input} {d d' : Db RegistrationRows}
  {l : Db.Deeds RegistrationAct} {u : Unit} {req : Request}

theorem effect_of_record {data : EligibilityCheckInput} {ipAddress : String} {check : EligibilityCheck}
    (h : recordEligibility env data ipAddress i d = .ok (check, d')) :
    RegistrationEffect env screening l d.logged (.eligibilityRecorded check) d'.logged := by
  simp only [recordEligibility, Repo.createEligibilityCheck, Txn.bind_ok, Db.uuid_ok, Db.now_ok, Db.read_ok,
    Txn.pure_ok] at h
  obtain ⟨token, _, ⟨-, rfl⟩, now, _, ⟨-, rfl⟩, _, d₁, ⟨inserted, _, ⟨hinserted, rfl⟩, h₁⟩, rfl, rfl⟩ := h
  cases inserted with
  | none => cases h₁
  | some checks =>
    obtain rfl := Db.write_ok.1 h₁
    exact .eligibilityRecorded _ checks rfl hinserted

theorem effect_of_readEligibility {token : ℕ} {found : Option EligibilityCheck × ℤ}
    (h : readEligibility token i d = .ok (found, d')) :
    RegistrationEffect env screening l d.logged (.eligibilityRead found.1 found.2) d'.logged ∧
      ∀ check ∈ found.1, check.sessionToken = token := by
  simp only [readEligibility, Txn.bind_ok, Db.now_ok, Db.read_ok, Txn.pure_ok] at h
  obtain ⟨now, _, ⟨-, rfl⟩, _, _, ⟨rfl, rfl⟩, rfl, rfl⟩ := h
  refine ⟨.eligibilityRead token now, fun check hcheck => ?_⟩
  exact Table.key_of_get? (Option.filter_eq_some_iff.1 hcheck).1

theorem createUser_ok {user : UserRow} (h : createUser user i d = .ok (u, d')) :
    ∃ users, d.rows.users.insert? user = .ok users ∧ d' = { d with rows := { d.rows with users := users } } := by
  simp only [createUser, Txn.bind_ok, Db.read_ok] at h
  obtain ⟨inserted, _, ⟨hinserted, rfl⟩, h⟩ := h
  cases inserted with
  | error c => cases h
  | ok users => exact ⟨users, hinserted, (Db.write_ok.1 h).symm⟩

theorem createSupplier_ok {supplier : SupplierRow} (h : createSupplier supplier i d = .ok (u, d')) :
    ∃ suppliers, d.rows.suppliers.insert? supplier = .ok suppliers ∧
      d' = { d with rows := { d.rows with suppliers := suppliers } } := by
  simp only [createSupplier, Txn.bind_ok, Db.read_ok] at h
  obtain ⟨inserted, _, ⟨hinserted, rfl⟩, h⟩ := h
  cases inserted with
  | error c => cases h
  | ok suppliers => exact ⟨suppliers, hinserted, (Db.write_ok.1 h).symm⟩

theorem exists_of_bind {α β : Type} {x : Except RisError α} {f : α → Except RisError β} {b : β}
    (h : (x >>= f) = .ok b) : ∃ a, f a = .ok b := by
  cases x with
  | error e => cases h
  | ok a => exact ⟨a, h⟩

/-- The row has what was asked for. -/
theorem supplierRow_ok {data : SupplierRegistration} {userId supplierId : ℕ} {supplier : SupplierRow}
    (h : supplierRow env i data userId supplierId = .ok supplier) :
    supplier.userId = userId ∧ supplier.companyName = data.companyName ∧
      supplier.registrationNumber = data.registrationNumber ∧
      supplier.eligibilitySessionToken = data.eligibilitySessionToken ∧
      supplier.consentUrsbCheck = data.consentUrsbCheck ∧
      supplier.consentSupplierRefs = data.consentSupplierRefs ∧
      supplier.consentLitigationCheck = data.consentLitigationCheck := by
  unfold supplierRow at h
  obtain ⟨_, h⟩ := exists_of_bind h
  obtain ⟨_, h⟩ := exists_of_bind h
  obtain ⟨_, h⟩ := exists_of_bind h
  obtain ⟨_, h⟩ := exists_of_bind h
  obtain ⟨_, h⟩ := exists_of_bind h
  obtain rfl := Except.ok.inj h
  exact ⟨rfl, rfl, rfl, rfl, rfl, rfl, rfl⟩

theorem requireEligibility_ok {eligibility : Option EligibilityCheck} {check : EligibilityCheck}
    (h : requireEligibility eligibility = .ok check) : eligibility = some check ∧ check.passed = true := by
  unfold requireEligibility at h
  cases eligibility with
  | none => cases h
  | some found =>
    dsimp only at h
    split at h
    · cases h
    · next hpassed =>
      obtain rfl := Except.ok.inj h
      exact ⟨rfl, by simpa using hpassed⟩

theorem validateConsents_ok {data : SupplierRegistration} (h : validateConsents data = .ok u) :
    data.consentUrsbCheck = true ∧ data.consentSupplierRefs = true ∧ data.consentLitigationCheck = true := by
  unfold validateConsents at h
  split at h
  · cases h
  · split at h
    · cases h
    · split at h
      · cases h
      · simp_all

/-- What the checks before the transaction have found. -/
structure Prechecked (screening : Screening) (data : SupplierRegistration)
    (l : Db.Deeds RegistrationAct) : Prop where
  eligible : ∃ check now, some (.own (.eligibilityRead (some check) now)) ∈ l ∧ check.passed = true ∧
    check.sessionToken = data.eligibilitySessionToken
  screened : findSanctionsMatch screening data.companyName data.registrationNumber = none
  consents : data.consentUrsbCheck = true ∧ data.consentSupplierRefs = true ∧ data.consentLitigationCheck = true

theorem effect_of_register {data : SupplierRegistration} {userId supplierId : ℕ} {passwordHash : String}
    {x : UserRow × SupplierRow} (hpre : Prechecked screening data l)
    (h : executeRegistrationTx env data userId supplierId passwordHash req i d = .ok (x, d')) :
    RegistrationEffect env screening l d.logged (.supplierRegistered x.1 x.2) d'.logged ∧
      x.1.id = userId ∧ x.1.email = data.email := by
  simp only [executeRegistrationTx, Txn.bind_ok, Txn.input_ok, Txn.lift_ok, Db.createAuditEntry_ok, Txn.pure_ok] at h
  obtain ⟨_, _, ⟨rfl, rfl⟩, supplier, _, ⟨hrow, rfl⟩, _, _, huser, _, _, hsupplier, _, _, rfl, rfl, rfl⟩ := h
  obtain ⟨users, husers, rfl⟩ := createUser_ok huser
  obtain ⟨suppliers, hsuppliers, rfl⟩ := createSupplier_ok hsupplier
  obtain ⟨huserId, hname, hnumber, htoken, hursb, hrefs, hlitigation⟩ := supplierRow_ok hrow
  obtain ⟨check, now, hread, hpassed, hchecked⟩ := hpre.eligible
  refine ⟨.supplierRegistered _ supplier users suppliers req ⟨?_, ?_, ?_, ?_⟩ husers hsuppliers, rfl, rfl⟩
  · exact ⟨check, now, hread, hpassed, hchecked.trans htoken.symm⟩
  · rw [hname, hnumber]
    exact hpre.screened
  · rw [hursb, hrefs, hlitigation]
    exact hpre.consents
  · exact ⟨huserId, rfl, rfl, rfl⟩

theorem effect_of_invalidate {userId : ℕ} (h : Repo.invalidateEmailVerificationTokens userId i d = .ok (u, d')) :
    RegistrationEffect env screening l d.logged (.tokensInvalidated userId) d'.logged := by
  simp only [Repo.invalidateEmailVerificationTokens, Txn.bind_ok, Db.now_ok, Db.write_ok] at h
  obtain ⟨now, _, ⟨-, rfl⟩, rfl⟩ := h
  exact .tokensInvalidated userId now

theorem effect_of_issue {userId : ℕ} {issued : VerificationToken × String}
    (h : issueTx env userId i d = .ok (issued, d')) :
    RegistrationEffect env screening l d.logged (.tokenIssued issued.1 issued.2) d'.logged ∧
      issued.1.userId = userId := by
  simp only [issueTx, Repo.createEmailVerificationToken, Txn.bind_ok, Txn.input_ok, Db.uuid_ok, Db.now_ok,
    Db.read_ok, Txn.pure_ok] at h
  obtain ⟨_, _, ⟨rfl, rfl⟩, id, _, ⟨-, rfl⟩, now, _, ⟨-, rfl⟩, _, _, ⟨known, _, ⟨-, rfl⟩, taken, _, ⟨-, rfl⟩,
    inserted, _, ⟨hinserted, rfl⟩, h⟩, rfl, rfl⟩ := h
  cases inserted with
  | none => cases h
  | some tokens =>
    dsimp only at h
    split at h
    · cases h
    · split at h
      · cases h
      · obtain rfl := Db.write_ok.1 h
        exact ⟨.tokenIssued _ _ tokens rfl hinserted, rfl⟩

theorem effect_of_lookUp {rawToken : String} {found : Option VerificationToken × ℤ}
    (h : lookUpToken env rawToken i d = .ok (found, d')) :
    RegistrationEffect env screening l d.logged (.tokenRead found.1 rawToken found.2) d'.logged := by
  simp only [lookUpToken, Txn.bind_ok, Db.now_ok, Db.read_ok, Txn.pure_ok] at h
  obtain ⟨now, _, ⟨-, rfl⟩, _, _, ⟨rfl, rfl⟩, rfl, rfl⟩ := h
  exact .tokenRead rawToken now

theorem effect_of_apply {token : VerificationToken} {rawToken : String} {checkedAt : ℤ}
    (hread : some (.own (.tokenRead (some token) rawToken checkedAt)) ∈ l)
    (h : applyEmailVerification token req i d = .ok (u, d')) :
    RegistrationEffect env screening l d.logged (.emailVerified token) d'.logged := by
  simp only [applyEmailVerification, Repo.markUserEmailVerifiedWithClient,
    Repo.markEmailVerificationTokenUsedWithClient, Txn.bind_ok, Db.write_ok, Db.now_ok,
    Db.createAuditEntry_ok] at h
  obtain ⟨_, _, rfl, _, _, ⟨now, _, ⟨-, rfl⟩, rfl⟩, rfl⟩ := h
  exact .emailVerified token rawToken checkedAt now req hread

end Commit

section Does

variable {cfg : Config} {env : RegistrationEnv} {screening : Screening}
  {l : Db.Deeds RegistrationAct} {req : Request} {user : UserRow}

theorem Knows.mono {l' : Db.Deeds RegistrationAct} (h : Knows user l) (hl : l <:+ l') : Knows user l' :=
  h.imp (fun ⟨supplier, hmem⟩ => ⟨supplier, hl.subset hmem⟩) fun hmem => hl.subset hmem

theorem does_checkEligibility (data : EligibilityCheckInput) (ipAddress : String) :
    (checkEligibility env data ipAddress).Does (registrationEffects env screening) (fun _ _ => True) l := by
  have hthrottle : (enforceThrottle env (data.email.map fun email => env.locale.toLowerCase (env.locale.trim email))
      ipAddress).Does (registrationEffects env screening) (fun _ _ => True) l := by
    refine (Db.logged_queryAt _).bind fun answer l _ _ => ?_
    cases answer with
    | ok _ => exact Proc.does_pure trivial
    | error block => exact (Db.logged_log _).bind fun _ _ _ _ => Proc.does_throw _
  refine hthrottle.bind fun _ l _ _ => ?_
  refine (Db.logged_commit (Q := fun _ _ => True) fun i d check d' hok => ⟨effect_of_record hok, trivial⟩).bind
    fun check l _ _ => ?_
  split
  · exact (Db.logged_log _).bind fun _ _ _ _ => Proc.does_pure trivial
  · exact Proc.does_pure trivial

theorem does_validatePrereqs (data : SupplierRegistration) :
    (validateRegistrationPrereqs data).Does (registrationEffects env screening)
      (fun _ l => ∃ check now, some (.own (.eligibilityRead (some check) now)) ∈ l ∧ check.passed = true ∧
        check.sessionToken = data.eligibilitySessionToken) l := by
  have hread : (Db.transaction (readEligibility data.eligibilitySessionToken)
      fun x => .eligibilityRead x.1 x.2).Does (registrationEffects env screening)
      (fun x l => some (.own (.eligibilityRead x.1 x.2)) ∈ l ∧
        ∀ check ∈ x.1, check.sessionToken = data.eligibilitySessionToken) l :=
    Db.logged_commit fun i d x d' hok =>
      (effect_of_readEligibility hok).imp_right fun htoken => ⟨List.mem_cons_self, htoken⟩
  refine hread.bind fun x l _ ⟨hmem, htoken⟩ => ?_
  refine (Proc.does_lift (Q := fun check _ => x.1 = some check ∧ check.passed = true)
    fun check hok => requireEligibility_ok hok).bind fun check l₁ hl₁ ⟨hfound, hpassed⟩ => ?_
  rw [hfound] at hmem htoken
  refine (Db.logged_query _).bind fun _ l₂ hl₂ _ => ?_
  refine (Proc.does_lift (Q := fun _ _ => True) fun _ _ => trivial).bind fun _ l₃ hl₃ _ => ?_
  refine (Db.logged_query _).bind fun _ l₄ hl₄ _ => ?_
  refine Proc.does_lift fun _ _ => ⟨check, x.2, ?_, hpassed, htoken check rfl⟩
  exact hl₄.subset (hl₃.subset (hl₂.subset (hl₁.subset hmem)))

theorem does_screenSanctions (data : SupplierRegistration) :
    (screenSanctionsBeforeRegistration env screening data req).Does (registrationEffects env screening)
      (fun _ _ => findSanctionsMatch screening data.companyName data.registrationNumber = none) l := by
  have hload : (loadSanctionsList screening).Does (registrationEffects env screening) (fun _ _ => True) l := by
    unfold loadSanctionsList
    split
    · exact Proc.does_throw _
    · exact Db.logged_log _
  refine hload.bind fun _ l _ _ => ?_
  split
  · next hnone => exact Proc.does_pure hnone
  · exact (Db.logged_audit (by simp [blockedRow])).bind fun _ _ _ _ => (Db.logged_log _).bind fun _ _ _ _ =>
      Proc.does_throw _

theorem does_newId : newId.Does (registrationEffects env screening) (fun _ _ => True) l := by
  refine Proc.does_transaction ?_ fun _ _ _ _ => rfl
  intro i d id d' h
  obtain ⟨-, rfl⟩ := Db.uuid_ok.1 h
  exact ⟨rfl, trivial⟩

theorem does_hashPassword (password : String) :
    (hashPassword env password).Does (registrationEffects env screening) (fun _ _ => True) l := by
  refine Proc.does_transaction ?_ fun _ _ _ _ => rfl
  intro i d hash d' h
  simp only [Txn.bind_ok, Db.connect_ok, Txn.input_ok, Txn.pure_ok] at h
  obtain ⟨_, _, ⟨-, rfl⟩, _, _, ⟨-, rfl⟩, -, rfl⟩ := h
  exact ⟨rfl, trivial⟩

/-- The raw token is known to the call that has issued it. -/
theorem does_generate (userId : ℕ) :
    (generateEmailVerificationToken env userId).Does (registrationEffects env screening)
      (fun rawToken l => ∃ token, some (.own (.tokenIssued token rawToken)) ∈ l ∧ token.userId = userId) l := by
  refine (Db.logged_commit (Q := fun _ _ => True) fun i d _ d' hok => ⟨effect_of_invalidate hok, trivial⟩).bind
    fun _ l _ _ => ?_
  have hissue : (Db.transaction (issueTx env userId) fun issued => .tokenIssued issued.1 issued.2).Does
      (registrationEffects env screening)
      (fun issued l => some (.own (.tokenIssued issued.1 issued.2)) ∈ l ∧ issued.1.userId = userId) l :=
    Db.logged_commit fun i d issued d' hok =>
      (effect_of_issue hok).imp_right fun huser => ⟨List.mem_cons_self, huser⟩
  exact hissue.bind fun issued l _ ⟨hmem, huser⟩ => Proc.does_pure ⟨issued.1, hmem, huser⟩

theorem does_enqueueVerification {rawToken : String} (hknows : Knows user l)
    (hissued : ∃ token, some (.own (.tokenIssued token rawToken)) ∈ l ∧ token.userId = user.id) :
    (enqueueVerificationEmail cfg env user.email rawToken).Does (registrationEffects env screening)
      (fun _ _ => True) l := by
  unfold enqueueVerificationEmail
  split
  · exact Db.logged_log _
  · obtain ⟨token, hmem, huser⟩ := hissued
    exact Proc.Does.tryCatch
      (Db.logged_enqueueNew fun id _ => ⟨id, user, token, rawToken, rfl, hmem, huser, hknows⟩)
      fun _ _ _ => Db.logged_log _

theorem does_issue (hknows : Knows user l) :
    (issueEmailVerificationToken cfg env user.id user.email req).Does (registrationEffects env screening)
      (fun _ _ => True) l := by
  refine (does_generate user.id).bind fun rawToken l₁ hl₁ ⟨token, hmem, huser⟩ => ?_
  refine (Db.logged_audit (by simp [Auth.auditEntry])).bind fun _ l₂ hl₂ _ => ?_
  refine (does_enqueueVerification ((hknows.mono hl₁).mono hl₂) ⟨token, hl₂.subset hmem, huser⟩).bind
    fun _ _ _ _ => Db.logged_log _

theorem does_registerSupplier (data : SupplierRegistration) :
    (registerSupplier cfg env screening data req).Does (registrationEffects env screening) (fun _ _ => True) l := by
  refine (does_validatePrereqs data).bind fun _ l₁ _ ⟨check, now, hread, heligible⟩ => ?_
  refine (Proc.does_lift (Q := fun _ _ => _) fun _ hok => validateConsents_ok hok).bind fun _ l₂ hl₂ hconsents => ?_
  refine (does_screenSanctions data).bind fun _ l₃ hl₃ hscreened => ?_
  refine does_newId.bind fun userId l₄ hl₄ _ => ?_
  refine does_newId.bind fun supplierId l₅ hl₅ _ => ?_
  refine (does_hashPassword data.password).bind fun passwordHash l₆ hl₆ _ => ?_
  have hl := (((hl₂.trans hl₃).trans hl₄).trans hl₅).trans hl₆
  have hpre : Prechecked screening data l₆ := ⟨⟨check, now, hl.subset hread, heligible⟩, hscreened, hconsents⟩
  have hregister : (Db.transaction (executeRegistrationTx env data userId supplierId passwordHash req)
      fun x => .supplierRegistered x.1 x.2).Does (registrationEffects env screening)
      (fun x l => some (.own (.supplierRegistered x.1 x.2)) ∈ l ∧ x.1.id = userId ∧ x.1.email = data.email) l₆ :=
    Db.logged_commit fun i d x d' hok =>
      (effect_of_register hpre hok).imp_right fun hrow => ⟨List.mem_cons_self, hrow⟩
  refine hregister.bind fun x l₇ _ ⟨hmem, hid, hemail⟩ => ?_
  refine Proc.Does.bind (R := fun _ _ => True) ?_ fun _ _ _ _ => Proc.does_pure trivial
  refine (Db.logged_log _).bind fun _ l₈ hl₈ _ => ?_
  have hknows : Knows x.1 l₈ := Or.inl ⟨x.2, hl₈.subset hmem⟩
  rw [← hid, ← hemail]
  refine (Proc.Does.tryCatch (does_issue hknows) fun _ _ _ => Db.logged_log _).bind fun _ _ _ _ => ?_
  exact Db.logged_enqueueOrWarn cfg _ fun hname => by simp at hname

theorem does_verifyEmail (rawToken : String) :
    (verifyEmail env rawToken req).Does (registrationEffects env screening) (fun _ _ => True) l := by
  have hlook : (Db.transaction (lookUpToken env rawToken) fun x => .tokenRead x.1 rawToken x.2).Does
      (registrationEffects env screening)
      (fun x l => some (.own (.tokenRead x.1 rawToken x.2)) ∈ l) l :=
    Db.logged_commit fun i d x d' hok => ⟨effect_of_lookUp hok, List.mem_cons_self⟩
  refine hlook.bind fun x l _ hread => ?_
  obtain ⟨found, now⟩ := x
  cases found with
  | none => exact (Db.logged_audit (by simp [Auth.auditEntry])).bind fun _ _ _ _ => Proc.does_throw _
  | some token =>
    exact (Db.logged_commit (Q := fun _ _ => True) fun i d _ d' hok =>
      ⟨effect_of_apply hread hok, trivial⟩).bind fun _ _ _ _ => Db.logged_log _

theorem does_resend (email : String) :
    (resendVerificationEmail cfg env email req).Does (registrationEffects env screening) (fun _ _ => True) l := by
  have hsee : (Db.see (Repo.findUserByEmail email) .userRead).Does (registrationEffects env screening)
      (fun found l => some (.own (.userRead found)) ∈ l) l :=
    Db.logged_see fun rows logs => ⟨.userRead email, List.mem_cons_self⟩
  refine hsee.bind fun found l _ hread => ?_
  cases found with
  | none => exact Proc.does_pure trivial
  | some user =>
    dsimp only
    split
    · exact Proc.does_pure trivial
    · refine (does_generate user.id).bind fun rawToken l₁ hl₁ ⟨token, hmem, huser⟩ => ?_
      refine (Db.logged_audit (by simp [Auth.auditEntry])).bind fun _ l₂ hl₂ _ => ?_
      have hknows : Knows user l₂ := Or.inr (hl₂.subset (hl₁.subset hread))
      exact (does_enqueueVerification hknows ⟨token, hl₂.subset hmem, huser⟩).bind fun _ _ _ _ => Db.logged_log _

end Does

/-- The operations do what the effects say. -/
theorem program_covers (cfg : Config) (env : RegistrationEnv) (screening : Screening) :
    (registrationEffects env screening).Covers (program cfg env screening) := by
  intro op
  cases op with
  | checkEligibility data ipAddress => exact Proc.Does.discard (does_checkEligibility data ipAddress)
  | registerSupplier data req => exact Proc.Does.discard (does_registerSupplier data)
  | verifyEmail rawToken req => exact does_verifyEmail rawToken
  | resendVerificationEmail email req => exact does_resend email

end Ris.Onboarding.Registration
