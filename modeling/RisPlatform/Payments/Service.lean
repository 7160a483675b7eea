import RisPlatform.Collateral
import RisPlatform.Facilities.Repository
import RisPlatform.Payments.Repository

/-!
# `payments.service.ts`

Initiation, the two authorisations, execution and the kill switch, in the order of the source. The
request's IP address and user agent are a `Request`.
-/

namespace Ris.Payments

open Relational Concurrent

/-- Error codes specific to the payments module. -/
inductive PaymentErrorCode
  | invoiceWrongStatus | paymentWrongStatus | sameAuthoriser | collateralInsufficient
  | facilityInsufficient | twoFaReverificationRequired | paymentsHalted | amlFlagRequired
  deriving DecidableEq

def PaymentErrorCode.text : PaymentErrorCode → String
  | .invoiceWrongStatus => "INVOICE_WRONG_STATUS"
  | .paymentWrongStatus => "PAYMENT_WRONG_STATUS"
  | .sameAuthoriser => "SAME_AUTHORISER"
  | .collateralInsufficient => "COLLATERAL_INSUFFICIENT"
  | .facilityInsufficient => "FACILITY_INSUFFICIENT"
  | .twoFaReverificationRequired => "TWO_FA_REVERIFICATION_REQUIRED"
  | .paymentsHalted => "PAYMENTS_HALTED"
  | .amlFlagRequired => "AML_FLAG_REQUIRED"

/-- `new BusinessRuleError(code, message)`. -/
def PaymentErrorCode.error (code : PaymentErrorCode) (message : String) : RisError :=
  .businessRule code.text message

/-! ## The kill switch -/

/-- Throws if payments are suspended. -/
def checkKillSwitch : Call Unit := do
  let value ← query (getSystemSetting "payment_kill_switch")
  if value = some "true" then
    throw (PaymentErrorCode.paymentsHalted.error
      "All payments are currently suspended by management")
  else pure ()

/-- The audit row of one payment that the kill switch failed. -/
def suspendedAudit (userId : ℕ) (req : Request) (paymentId : ℕ) : AuditLog where
  userId := some userId
  action := "PAYMENT_FAILED"
  tableName := "payments"
  recordId := .id paymentId
  oldValues := [("status", .text "executing")]
  newValues := [("status", .text "failed"), ("reason", .text "kill_switch_activation")]
  ipAddress := req.ipAddress
  userAgent := req.userAgent

/-- The audit row of a change of the kill switch. -/
def killSwitchAudit (action : String) (userId : ℕ) (req : Request) (old : Bool)
    (newValues : List (String × Json)) : AuditLog where
  userId := some userId
  action := action
  tableName := "system_settings"
  recordId := .text "payment_kill_switch"
  oldValues := [("active", .bool old)]
  newValues := newValues
  ipAddress := req.ipAddress
  userAgent := req.userAgent

/-- The transaction of `activateKillSwitch`; the ids of the suspended payments. -/
def activateKillSwitchTxn (userId : ℕ) (reason : String) (req : Request) : Tx (List ℕ) := do
  setSystemSettingWithClient "payment_kill_switch" "true"
  let suspendedIds ← failExecutingPaymentsWithClient "Suspended by payment kill switch"
  Txn.write fun w =>
    { w with auditLogs := w.auditLogs ++ suspendedIds.map (suspendedAudit userId req) }
  createAuditEntry (killSwitchAudit "KILL_SWITCH_ACTIVATED" userId req false
    [("active", .bool true), ("reason", .text reason),
      ("suspendedCount", .int suspendedIds.length)])
  return suspendedIds

/-- Activate the kill switch and halt the executing payments in one transaction. -/
def activateKillSwitch (userId : ℕ) (reason : String) (req : Request) : Call (List ℕ) := do
  let suspendedIds ← transaction (activateKillSwitchTxn userId reason req) .killSwitchActivated
  log "KILL_SWITCH_ACTIVATED"
  return suspendedIds

/-- The transaction of `deactivateKillSwitch`. -/
def deactivateKillSwitchTxn (userId : ℕ) (reason : String) (req : Request) : Tx Unit := do
  setSystemSettingWithClient "payment_kill_switch" "false"
  createAuditEntry (killSwitchAudit "KILL_SWITCH_DEACTIVATED" userId req true
    [("active", .bool false), ("reason", .text reason)])

/-- Deactivate the kill switch; failed payments are not resumed. -/
def deactivateKillSwitch (userId : ℕ) (reason : String) (req : Request) : Call Unit := do
  transaction (deactivateKillSwitchTxn userId reason req) fun _ => .killSwitchDeactivated
  log "KILL_SWITCH_DEACTIVATED"

/-! ## Initiation -/

def guardInvoiceApproved (invoice : Invoice) : Except RisError Unit :=
  if invoice.status ≠ .approved then
    throw (PaymentErrorCode.invoiceWrongStatus.error
      ("Invoice status is '" ++ invoice.status.text ++ "', expected 'approved'"))
  else pure ()

/-- Block disbursement of an over-threshold invoice that is flagged and not cleared. -/
def guardAmlCleared (cfg : Config) (invoice : Invoice) : Except RisError Unit :=
  let overThreshold := cfg.amlFlagThreshold ≤ invoice.faceValue
  let requiresClearance := overThreshold ∧ invoice.amlFlagged = true
  let isCleared := invoice.amlClearedAt ≠ none
  if requiresClearance ∧ ¬isCleared then
    throw (PaymentErrorCode.amlFlagRequired.error
      "Invoice requires compliance clearance before payment")
  else pure ()

def guardCoverage (coverage : Collateral.CoverageCheckResult) : Except RisError Unit :=
  if ¬coverage.sufficient then
    throw (PaymentErrorCode.collateralInsufficient.error
      ("Collateral coverage ratio " ++ Binary64.toFixed 2 coverage.ratio ++
        " is below minimum 0.50"))
  else pure ()

def guardCollateralSufficient (invoiceId : ℕ) (advanceAmount : Option ℤ) : Call Unit := do
  let amount ← toBigInt advanceAmount
  let coverage ← Collateral.checkCoverageRatio invoiceId amount
  guardCoverage coverage

/-- Validate invoice eligibility: status, AML and collateral coverage. -/
def validateInvoiceForPayment (cfg : Config) (invoiceId : ℕ) : Call (Invoice × String) := do
  match ← query (getInvoiceForPayment invoiceId) with
  | none => throw (.notFound "Invoice" invoiceId)
  | some found =>
    guardInvoiceApproved found.1
    guardAmlCleared cfg found.1
    guardCollateralSufficient invoiceId found.1.advanceAmount
    return found

/-- The first active facility must have the amount available. -/
def guardFacilityAvailable (amount : Option ℤ) : List BankFacility → Except RisError Unit
  | [] =>
    throw (PaymentErrorCode.facilityInsufficient.error
      "No active bank facility available for disbursement")
  | facility :: _ => do
    let required ← toBigInt amount
    if facility.availableAmount < required then
      throw (PaymentErrorCode.facilityInsufficient.error
        "Insufficient facility balance for this disbursement")
    else pure ()

def checkFacilityAvailability (amount : Option ℤ) : Call Unit := do
  let facilities ← query Facilities.getActiveFacilities
  guardFacilityAvailable amount facilities

/-- Legacy mobile-money methods are paid by EFT too. -/
def mapProvider (_method : String) : PaymentProvider := .eft

/-- The audit row of a created payment. -/
def createdAudit (payment : Payment) (invoice : Invoice) : AuditLog where
  userId := none
  action := "PAYMENT_CREATED"
  tableName := "payments"
  recordId := .id payment.id
  oldValues := [("invoiceStatus", .text invoice.status.text), ("paymentStatus", .null)]
  newValues :=
    [("invoiceStatus", .text PaymentStatus.pendingFirstAuth.text),
      ("paymentStatus", .text PaymentStatus.pendingFirstAuth.text),
      ("provider", .text payment.provider.text)]

/-- Insert the payment row, move the invoice `approved → pending_first_auth` and write the audit
entry; the new row, and the id of the invoice if it moved. -/
def insertPaymentAndAuditWithClient (invoiceId : ℕ) (invoice : Invoice) (provider : PaymentProvider) :
    Tx (Payment × Option ℕ) := do
  -- `paymentId` and `idempotencyKey` are the UUIDs this statement draws
  let i ← Txn.input
  let payment ← createPaymentWithClient
    { id := i.uuid
      invoiceId
      amount := invoice.advanceAmount
      provider
      idempotencyKey := i.key }
  let transitioned ← updateInvoiceStatusWithClient invoiceId .pendingFirstAuth .approved
  createAuditEntry (createdAudit payment invoice)
  return (payment, transitioned)

/-- Create the payment record in one transaction; its id. -/
def createPaymentTxn (invoiceId : ℕ) (invoice : Invoice) (provider : PaymentProvider) : Call ℕ := do
  let (payment, transitioned) ←
    transaction (insertPaymentAndAuditWithClient invoiceId invoice provider)
      fun r => .paymentCreated r.1
  if transitioned = none then
    log "Invoice already past approved status — possible duplicate payment row"
  log "PAYMENT_CREATED"
  return payment.id

/-- Fetch the just-created payment record. -/
def fetchCreatedPayment (paymentId : ℕ) : Call Payment := do
  match ← query (getPaymentById paymentId) with
  | some created => return created
  | none => throw (.payment "Payment creation failed")

/-- Create a payment record from an approved invoice. -/
def initiatePayment (cfg : Config) (invoiceId : ℕ) : Call Payment := do
  checkKillSwitch
  let (invoice, preferredPaymentMethod) ← validateInvoiceForPayment cfg invoiceId
  checkFacilityAvailability invoice.advanceAmount
  match ← query (getPaymentByInvoiceId invoiceId) with
  | some existing => return existing
  | none =>
    let paymentId ← createPaymentTxn invoiceId invoice (mapProvider preferredPaymentMethod)
    fetchCreatedPayment paymentId

/-! ## Authorisation -/

/-- `TWO_FA_RECENCY_MS`. -/
def twoFaRecencyMs : ℤ := 60 * 60 * 1000

/-- The user has completed 2FA within the last 60 minutes. -/
def guard2faRecent (lastVerified : Option ℤ) (now : ℤ) : Except RisError Unit :=
  match lastVerified with
  | none =>
    throw (PaymentErrorCode.twoFaReverificationRequired.error
      "2FA verification required before payment authorisation")
  | some verified =>
    if now - verified > twoFaRecencyMs then
      throw (PaymentErrorCode.twoFaReverificationRequired.error
        "2FA verification expired — please re-verify")
    else pure ()

def check2faRecency (userId : ℕ) : Call Unit := do
  let (lastVerified, now) ←
    transaction (do let last ← Txn.read (getLast2faVerifiedAt userId); return (last, ← now))
      fun _ => .read
  guard2faRecent lastVerified now

/-- The hour in East Africa Time (UTC+3). -/
def getEatHour (date : ℤ) : ℤ := (date / 3600000 % 24 + 3) % 24

/-- The day of the week in East Africa Time, 0 = Sunday; 1970 began on a Thursday. -/
def getEatDay (date : ℤ) : ℤ := ((date + 3 * 60 * 60 * 1000) / 86400000 + 4) % 7

/-- Outside Monday to Friday, 07:00 to 20:00 EAT. -/
def isAfterHours (date : ℤ) : Bool :=
  let isWeekend := getEatDay date = 0 ∨ getEatDay date = 6
  let isOutsideHours := getEatHour date < 7 ∨ 20 ≤ getEatHour date
  isWeekend ∨ isOutsideHours

/-- The audit row of an authorisation outside business hours. -/
def afterHoursAudit (userId paymentId : ℕ) (req : Request) (now : ℤ) : AuditLog where
  userId := some userId
  action := "AFTER_HOURS_PAYMENT"
  tableName := "payments"
  recordId := .id paymentId
  oldValues :=
    [("eatHour", .int (getEatHour now)), ("eatDay", .int (getEatDay now)),
      ("isWeekend", .bool (getEatDay now = 0 ∨ getEatDay now = 6))]
  newValues := [("flaggedForReview", .bool true)]
  ipAddress := req.ipAddress
  userAgent := req.userAgent

/-- Write the audit row if it is after hours; was it? -/
def flagAfterHoursTxn (userId paymentId : ℕ) (req : Request) : Tx Bool := do
  let now ← now
  if isAfterHours now then
    connect
    createAuditEntry (afterHoursAudit userId paymentId req now)
    return true
  else return false

/-- Flag an authorisation outside business hours for review; it is not blocked. -/
def checkBusinessHours (userId paymentId : ℕ) (req : Request) : Call Unit := do
  let _ ← .transaction (flagAfterHoursTxn userId paymentId req)
    (fun flagged => if flagged then .afterHours paymentId userId else .read) fun _ => .threw

/-- Lock the payment row, or say why it cannot be. -/
def lockPaymentOrThrow (paymentId : ℕ) : Tx Payment := do
  match ← getPaymentByIdForUpdate paymentId with
  | none =>
    Txn.abort (PaymentErrorCode.paymentWrongStatus.error
      "Payment is being processed by another authoriser")
  | some none => Txn.abort (.notFound "Payment" paymentId)
  | some (some payment) => return payment

def validatePaymentStatus (payment : Payment) (expected : PaymentStatus) : Except RisError Unit :=
  if payment.status ≠ expected then
    throw (PaymentErrorCode.paymentWrongStatus.error
      ("Payment status is '" ++ payment.status.text ++ "', expected '" ++ expected.text ++ "'"))
  else pure ()

/-- Enforce that the second authoriser differs from the first. -/
def guardDifferentAuthoriser (payment : Payment) (userId : ℕ) : Except RisError Unit :=
  if payment.dualAuthUser1 = some userId then
    throw (PaymentErrorCode.sameAuthoriser.error "Same user cannot provide both authorisations")
  else pure ()

/-- The row an `UPDATE … RETURNING *` returned. -/
def updatedOr (message : String) : Option Payment → Except RisError Payment
  | some updated => pure updated
  | none => throw (.payment message)

/-- The audit row of an authorisation. -/
def authorisationAudit (action : String) (paymentId userId : ℕ) (req : Request)
    (comment : Option String) (old new : PaymentStatus) : AuditLog where
  userId := some userId
  action := action
  tableName := "payments"
  recordId := .id paymentId
  oldValues := [("status", .text old.text)]
  newValues :=
    [("status", .text new.text), ("authUser", .id userId), ("comment", .ofOption .text comment)]
  ipAddress := req.ipAddress
  userAgent := req.userAgent

/-- Lock the payment, validate its status and record the first authorisation. -/
def recordFirstAuthTxn (paymentId userId : ℕ) (req : Request) (comment : Option String) :
    Tx Payment := do
  let payment ← lockPaymentOrThrow paymentId
  validatePaymentStatus payment .pendingFirstAuth
  let result ← recordFirstAuthWithClient paymentId userId
  let updated ← updatedOr "First auth update failed" result
  createAuditEntry (authorisationAudit "PAYMENT_FIRST_AUTH" paymentId userId req comment
    .pendingFirstAuth .pendingSecondAuth)
  return updated

/-- Record the first authorisation of a payment. -/
def authoriseFirstAuth (paymentId userId : ℕ) (req : Request) (comment : Option String) :
    Call Payment := do
  check2faRecency userId
  checkBusinessHours userId paymentId req
  let updated ← transaction (recordFirstAuthTxn paymentId userId req comment)
    fun _ => .firstAuthorised paymentId userId
  log "PAYMENT_FIRST_AUTH"
  return updated

/-- Lock the payment, enforce that the authorisers differ and record the second authorisation. -/
def recordSecondAuthTxn (paymentId userId : ℕ) (req : Request) (comment : Option String) :
    Tx Payment := do
  let payment ← lockPaymentOrThrow paymentId
  validatePaymentStatus payment .pendingSecondAuth
  guardDifferentAuthoriser payment userId
  let result ← recordSecondAuthWithClient paymentId userId
  let updated ← updatedOr "Second auth update failed" result
  createAuditEntry (authorisationAudit "PAYMENT_SECOND_AUTH" paymentId userId req comment
    .pendingSecondAuth .executing)
  return updated

/-- Record the second authorisation, by a different user. -/
def authoriseSecondAuth (paymentId userId : ℕ) (req : Request) (comment : Option String) :
    Call Payment := do
  check2faRecency userId
  checkBusinessHours userId paymentId req
  let updated ← transaction (recordSecondAuthTxn paymentId userId req comment)
    fun _ => .secondAuthorised paymentId userId
  log "PAYMENT_SECOND_AUTH"
  return updated

/-! ## Execution -/

def guardExecuting (payment : Payment) : Except RisError Unit :=
  if payment.status ≠ .executing then
    throw (PaymentErrorCode.paymentWrongStatus.error
      ("Payment status is '" ++ payment.status.text ++ "', expected '" ++
        PaymentStatus.executing.text ++ "'"))
  else pure ()

/-- Load the payment and guard that it is executing. -/
def loadExecutablePayment (paymentId : ℕ) : Call Payment := do
  let found ← query (getPaymentById paymentId) fun found =>
    match found with
    | some payment => if payment.status = .executing then .executionLoaded payment else .read
    | none => .read
  match found with
  | none => throw (.notFound "Payment" paymentId)
  | some payment =>
    guardExecuting payment
    return payment

/-- The existing result if the idempotency key was already used by a funded payment. -/
def idempotentResult : Option Payment → Option PaymentProviderResult
  | some existing =>
    if existing.status = .funded then
      some
        { success := true
          transactionReference := existing.transactionReference.getD ""
          providerReference := existing.providerReference.getD "" }
    else none
  | none => none

def checkIdempotency (payment : Payment) : Call (Option PaymentProviderResult) := do
  let existing ← query (getByIdempotencyKey payment.idempotencyKey) fun existing =>
    if idempotentResult existing = none then .idempotencyChecked payment else .read
  return idempotentResult existing

/-- The registered provider of the payment. -/
def resolveProvider (cfg : Config) (payment : Payment) : Except RisError PaymentProvider :=
  if payment.provider ∈ cfg.providers then pure payment.provider
  else throw (.payment ("No provider registered for " ++ payment.provider.text))

/-- `provider.execute(payment, payment.idempotency_key)`. -/
def askProvider (payment : Payment) : Call PaymentProviderResult :=
  .transaction (do connect; return (← Txn.input).reply) (.providerReplied payment) fun _ => .threw

/-- The audit row of a change of the payment's status. -/
def paymentAudit (action : String) (payment : Payment) (newValues : List (String × Json)) :
    AuditLog where
  userId := none
  action := action
  tableName := "payments"
  recordId := .id payment.id
  oldValues := [("status", .text payment.status.text)]
  newValues := newValues

/-- Mark the payment as funded and advance the invoice status. -/
def recordSuccessfulPaymentTxn (payment : Payment) (result : PaymentProviderResult) : Tx Unit := do
  updatePaymentResultWithClient payment.id result
  let _ ← updateInvoiceStatusWithClient payment.invoiceId .funded .approved
  createAuditEntry (paymentAudit "PAYMENT_FUNDED" payment
    [("status", .text PaymentStatus.funded.text),
      ("transactionReference", .text result.transactionReference)])

def queueSupplierNotification (cfg : Config) (payment : Payment) : Call Unit :=
  enqueueOrWarn cfg
    { queue := .notification
      name := "payment-funded"
      data := [("paymentId", .id payment.id), ("invoiceId", .id payment.invoiceId)] }
    "Notification queue not configured"

def queueFacilityDrawdown (cfg : Config) (payment : Payment) : Call Unit :=
  enqueueOrWarn cfg
    { queue := .facilityDrawdown
      name := "facility-drawdown"
      data :=
        [("paymentId", .id payment.id), ("invoiceId", .id payment.invoiceId),
          ("principal", .int payment.amount)] }
    "Facility drawdown queue not configured"

def queueCollectionMonitoring (cfg : Config) (payment : Payment) : Call Unit :=
  enqueueOrWarn cfg
    { queue := .collectionMonitoring
      name := "collection-monitoring"
      data := [("invoiceId", .id payment.invoiceId), ("paymentId", .id payment.id)] }
    "Collection monitoring queue not configured"

/-- Post-commit: log, notify the supplier, queue the drawdown and the collection monitoring. -/
def notifyPaymentFunded (cfg : Config) (payment : Payment) : Call Unit := do
  log "PAYMENT_FUNDED"
  queueSupplierNotification cfg payment
  queueFacilityDrawdown cfg payment
  queueCollectionMonitoring cfg payment

def handleSuccessfulPayment (cfg : Config) (payment : Payment) (result : PaymentProviderResult) :
    Call Unit := do
  transaction (recordSuccessfulPaymentTxn payment result) fun _ => .paymentFunded payment
  notifyPaymentFunded cfg payment

/-- The transaction of `handlePendingConfirmation`. -/
def pendingConfirmationTxn (payment : Payment) (result : PaymentProviderResult) : Tx Unit := do
  recordPendingConfirmationWithClient payment.id result
  createAuditEntry (paymentAudit "PAYMENT_PENDING_CONFIRMATION" payment
    [("status", .text PaymentStatus.executing.text),
      ("transactionReference", .text result.transactionReference),
      ("provider", .text payment.provider.text)])

def handlePendingConfirmation (payment : Payment) (result : PaymentProviderResult) : Call Unit := do
  transaction (pendingConfirmationTxn payment result) fun _ => .confirmationPending payment
  log "PAYMENT_PENDING_CONFIRMATION"

/-- The transaction of `handleFailedPayment`. -/
def failedPaymentTxn (payment : Payment) (result : PaymentProviderResult) : Tx Unit := do
  updatePaymentResultWithClient payment.id result
  createAuditEntry (paymentAudit "PAYMENT_FAILED" payment
    [("status", .text PaymentStatus.failed.text)])

/-- The job that tells the finance manager of a failure. -/
def failureNotification (payment : Payment) : Job where
  queue := .notification
  name := "payment_failed"
  data :=
    [("paymentId", .id payment.id), ("invoiceId", .id payment.invoiceId),
      ("type", .text "finance_manager_notify")]

def handleFailedPayment (cfg : Config) (payment : Payment) (result : PaymentProviderResult) :
    Call Unit := do
  .transaction (do connect; failedPaymentTxn payment result) (fun _ => .paymentFailed payment)
    fun _ => .failureUnrecorded payment
  log "PAYMENT_FAILED"
  if (failureNotification payment).queue ∈ cfg.queues then
    enqueueWithContext (failureNotification payment)
  else pure ()

/-- Route a provider result to its handler. -/
def routeProviderResult (cfg : Config) (payment : Payment) (result : PaymentProviderResult) :
    Call Unit :=
  if result.success ∧ result.pendingConfirmation then handlePendingConfirmation payment result
  else if result.success then handleSuccessfulPayment cfg payment result
  else handleFailedPayment cfg payment result

/-- Call the provider and route its result; whatever is thrown on the way is handled as a failed
payment. -/
def callProviderAndHandle (cfg : Config) (payment : Payment) : Call PaymentProviderResult := do
  try
    let result ← askProvider payment
    routeProviderResult cfg payment result
    pure result
  catch err =>
    let failResult : PaymentProviderResult :=
      { success := false
        transactionReference := payment.idempotencyKey
        providerReference := ""
        failureReason := some err.message }
    handleFailedPayment cfg payment failResult
    pure failResult

/-- Execute the payment through its provider, unless its idempotency key was used. -/
def executePayment (cfg : Config) (paymentId : ℕ) : Call PaymentProviderResult := do
  let payment ← loadExecutablePayment paymentId
  match ← checkIdempotency payment with
  | some result => return result
  | none =>
    let _ ← resolveProvider cfg payment
    callProviderAndHandle cfg payment

/-! ## The system -/

/-- The operations of the payments service that change rows. -/
inductive Op
  | initiatePayment (invoiceId : ℕ)
  | authoriseFirstAuth (paymentId userId : ℕ) (req : Request) (comment : Option String)
  | authoriseSecondAuth (paymentId userId : ℕ) (req : Request) (comment : Option String)
  | executePayment (paymentId : ℕ)
  | activateKillSwitch (userId : ℕ) (reason : String) (req : Request)
  | deactivateKillSwitch (userId : ℕ) (reason : String) (req : Request)

/-- The body of each operation. -/
def program (cfg : Config) : Op → Call Unit
  | .initiatePayment invoiceId => (initiatePayment cfg invoiceId).discard
  | .authoriseFirstAuth paymentId userId req comment =>
    (authoriseFirstAuth paymentId userId req comment).discard
  | .authoriseSecondAuth paymentId userId req comment =>
    (authoriseSecondAuth paymentId userId req comment).discard
  | .executePayment paymentId => (executePayment cfg paymentId).discard
  | .activateKillSwitch userId reason req => (activateKillSwitch userId reason req).discard
  | .deactivateKillSwitch userId reason req => (deactivateKillSwitch userId reason req).discard

/-! ## A small world

One supplier, one facility, two officers and two approved invoices: the store from which the example
runs start. -/

/-- An approved invoice whose pricing was accepted: 900 advanced, 30 discount. -/
def approvedInvoice (id : ℕ) : Invoice where
  id := id
  supplierId := 1
  buyerId := 1
  faceValue := 1000
  advanceAmount := some 900
  discountAmount := some 30
  netPaymentToSupplier := some 870
  status := .approved
  tenorDays := some 90
  dueDate := 90
  amlFlagged := false
  amlClearedAt := none
  pricingAcceptedAt := some 1
  pricingAcceptedBy := some 9
  pricingRejectedAt := none
  pricingRejectionReason := none
  pricingDisputedAt := none
  fundedAt := none

def smallWorld : World :=
  { World.empty with
    invoices := ⟨[approvedInvoice 1, approvedInvoice 2], by decide⟩
    suppliers := ⟨[{ id := 1, userId := 9, preferredPaymentMethod := "EFT" }], by decide⟩
    users := ⟨[{ id := 1, last2faVerifiedAt := some 0 }, { id := 2, last2faVerifiedAt := some 0 }],
      by decide⟩
    bankFacilities :=
      ⟨[{ id := 1, facilityName := "Facility", bankName := "Bank", totalLimit := 1000
          drawnAmount := 0, annualRate := mkRat 1 10, interestRateAnnual := mkRat 1 10, maturityDate := 0
          status := .active, isActive := true }], by decide⟩ }

/-- A statement that succeeds; `uuidv4()` gives `n`. -/
def quietInput (n : ℕ) (key : String) : Input := { coverageRatio := some 0, uuid := n, key := key }

/-- `initiatePayment` of the invoice, run alone as call `t`; the new payment has the invoice's id. -/
def initiateAlone (t invoiceId : ℕ) (key : String) : List (Act Op Input) :=
  Act.call (.initiatePayment invoiceId) t (List.replicate 9 (quietInput invoiceId key))

/-- The two authorisations of a payment, run alone as the calls `t` and `t + 1`. -/
def authoriseAlone (t paymentId : ℕ) : List (Act Op Input) :=
  Act.call (.authoriseFirstAuth paymentId 1 {} none) t (List.replicate 4 (quietInput 0 "")) ++
    Act.call (.authoriseSecondAuth paymentId 2 {} none) (t + 1) (List.replicate 4 (quietInput 0 ""))

/-- A reply that the transfer is complete. -/
def transferred : PaymentProviderResult where
  success := true
  transactionReference := "T"
  providerReference := "P"

/-- `executePayment`, run alone as call `t` to a funded payment. -/
def executeAlone (t paymentId : ℕ) : List (Act Op Input) :=
  Act.call (.executePayment paymentId) t
    (List.replicate 8 { quietInput 0 "" with reply := transferred })

end Ris.Payments
