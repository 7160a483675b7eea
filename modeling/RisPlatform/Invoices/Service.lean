import RisPlatform.Invoices.Repository

/-!
# `invoices.service.ts`

The two ways to submit an invoice: `submitInvoice` at once, and `saveDraft`, `updateDraft` and
`submitDraft` in steps. Both read before they write, and their transactions check nothing again. The
deadline of the assessment is left out; nothing reads it.
-/

namespace Ris.Invoices

open Relational Concurrent

/-- Error codes of the validation. -/
inductive ValidationErrorCode
  | supplierNotApproved | duplicateInvoice | buyerNotApproved | tenorOutOfRange | creditLimitExceeded
  | invoiceWrongStatus | invoiceBankDetailsMissing
  deriving DecidableEq

def ValidationErrorCode.text : ValidationErrorCode → String
  | .supplierNotApproved => "SUPPLIER_NOT_APPROVED"
  | .duplicateInvoice => "DUPLICATE_INVOICE"
  | .buyerNotApproved => "BUYER_NOT_APPROVED"
  | .tenorOutOfRange => "TENOR_OUT_OF_RANGE"
  | .creditLimitExceeded => "CREDIT_LIMIT_EXCEEDED"
  | .invoiceWrongStatus => "INVOICE_WRONG_STATUS"
  | .invoiceBankDetailsMissing => "INVOICE_BANK_DETAILS_MISSING"

/-- `new BusinessRuleError(code, message)`. -/
def ValidationErrorCode.error (code : ValidationErrorCode) (message : String) : RisError :=
  .businessRule code.text message

/-- What a supplier sends. The face value is a JavaScript number; the schema of the route lets safe ones
through and makes the due date a full UTC time. -/
structure InvoiceSubmission where
  invoiceNumber : String
  buyerId : ℕ
  faceValue : ℚ
  dueDate : ℤ
  description : String
  uraEfrisRef : String
  fundingTimelineDays : Option ℤ := none

/-- The tenor in days from now to the due date, rounded up. -/
def computeTenorDays (dueDate now : ℤ) : ℤ := -((now - dueDate) / dayMs)

/-! ## Audit rows -/

/-- An audit row of `invoices`. -/
def invoiceAudit (userId : Option ℕ) (action : String) (recordId : Json)
    (oldValues newValues : List (String × Json)) (req : Request) : AuditLog where
  userId := userId
  action := action
  tableName := "invoices"
  recordId := recordId
  oldValues := oldValues
  newValues := newValues
  ipAddress := req.ipAddress
  userAgent := req.userAgent

/-- The steps of the validation chain. -/
inductive ValidationStep
  | supplierActiveCheck | duplicateCheck | buyerEligibility | tenorCheck | creditLimitCheck
  deriving DecidableEq

/-- The audit action of a step. -/
def ValidationStep.action : ValidationStep → String
  | .supplierActiveCheck => "VALIDATION_SUPPLIER_ACTIVE_CHECK"
  | .duplicateCheck => "VALIDATION_DUPLICATE_CHECK"
  | .buyerEligibility => "VALIDATION_BUYER_ELIGIBILITY"
  | .tenorCheck => "VALIDATION_TENOR_CHECK"
  | .creditLimitCheck => "VALIDATION_CREDIT_LIMIT_CHECK"

structure ValidationResult where
  step : ValidationStep
  passed : Bool
  errorCode : Option ValidationErrorCode
  details : Json := .null

/-- The result of a step that fails with the code. -/
def ValidationResult.of (step : ValidationStep) (code : ValidationErrorCode) (passed : Bool)
    (details : Json := .null) : ValidationResult where
  step := step
  passed := passed
  errorCode := if passed then none else some code
  details := details

/-- The audit row of a step, of an invoice or of `'new'`. -/
def ValidationResult.audit (result : ValidationResult) (userId : ℕ) (recordId : Json) (req : Request) :
    AuditLog :=
  invoiceAudit (some userId) result.step.action recordId []
    [("passed", .bool result.passed),
      ("errorCode", .ofOption (fun code => .text code.text) result.errorCode),
      ("details", result.details)] req

/-- Log each validation step on its own. -/
def logValidationResults (userId : ℕ) (results : List ValidationResult) (req : Request) : Call Unit :=
  results.forM fun result => auditAlone (result.audit userId (.text "new") req)

/-- Audit-log a compliance event, then throw. -/
def auditAndThrowCompliance (action message : String) (userId supplierId : ℕ)
    (details : List (String × Json)) (req : Request) : Call Unit := do
  auditAlone (invoiceAudit (some userId) action (.id supplierId) [] details req)
  log action
  throw (.businessRule action message)

/-! ## Structuring and velocity -/

/-- The invoice is below the threshold, and the last 30 days are not. -/
def checkStructuring (cfg : Config) (supplierId buyerId : ℕ) (faceValue : ℤ) (userId : ℕ)
    (req : Request) : Call Unit := do
  let ((total, count), _) ← queryNow (get30DayRollingTotal supplierId buyerId)
  let combinedTotal := total + faceValue
  if cfg.amlFlagThreshold ≤ combinedTotal ∧ faceValue < cfg.amlFlagThreshold then
    auditAndThrowCompliance "STRUCTURING_RISK_DETECTED"
      "Potential invoice structuring detected — compliance review required" userId supplierId
      [("buyerId", .id buyerId), ("combinedTotal", .text (toString combinedTotal)),
        ("invoiceCount", .int (count + 1)), ("threshold", .text (toString cfg.amlFlagThreshold))] req
  else pure ()

/-- The current month has three times the average of six months, or more. -/
def checkVelocitySpike (supplierId userId : ℕ) (req : Request) : Call Unit := do
  let (sixMonth, _) ← queryNow (get6MonthVelocityAverage supplierId)
  if sixMonth < 6 then pure ()
  else do
    let avgMonthly := (sixMonth + 5) / 6
    let (currentMonth, _) ← queryNow (getCurrentMonthCount supplierId)
    if avgMonthly * 3 ≤ currentMonth then
      auditAndThrowCompliance "VELOCITY_SPIKE_DETECTED"
        "Unusual invoice volume — compliance review required" userId supplierId
        [("currentMonthCount", .int currentMonth), ("avgMonthly", .int avgMonthly),
          ("multiplier", .int 3)] req
    else pure ()

/-! ## The validation chain -/

/-- A step that needs something: without it the steps so far are logged and the error is thrown. -/
def requireStep {α : Type} (step : ValidationStep) (code : ValidationErrorCode) (message : String)
    (userId : ℕ) (results : List ValidationResult) (req : Request) (found : Option α) :
    Call (α × List ValidationResult) :=
  let results := results ++ [.of step code found.isSome]
  match found with
  | some a => pure (a, results)
  | none => do
    logValidationResults userId results req
    throw (code.error message)

/-- Step 1: the supplier must exist and have approved KYC. -/
def validateSupplierActive (userId : ℕ) (req : Request) : Call (Supplier × List ValidationResult) := do
  let supplier ← query (Pricing.findSupplierByUserId userId)
  requireStep .supplierActiveCheck .supplierNotApproved
    "Supplier KYC status must be approved to submit invoices" userId [] req
    (supplier.filter fun s => s.kycStatus = .approved)

/-- Step 2: no invoice of the supplier has this number. -/
def validateNoDuplicate (invoiceNumber : String) (supplierId userId : ℕ)
    (results : List ValidationResult) (req : Request) : Call (Unit × List ValidationResult) := do
  let existing ← query (findInvoiceByNumberAndSupplier invoiceNumber supplierId)
  requireStep .duplicateCheck .duplicateInvoice
    "An invoice with this number already exists for this supplier" userId results req
    (if existing.isNone then some () else none)

/-- Step 3: the buyer must exist and be active; with the clock. -/
def validateBuyerEligibility (buyerId userId : ℕ) (results : List ValidationResult) (req : Request) :
    Call ((Buyer × ℤ) × List ValidationResult) := do
  let (buyer, now) ← queryNow fun _ => findBuyerWithLimits buyerId
  requireStep .buyerEligibility .buyerNotApproved "Buyer does not exist or is not active" userId results
    req ((buyer.filter fun b => b.isActive).map fun b => (b, now))

/-- Step 4: the tenor must be in the allowed range. A failure is not audited. -/
def validateTenor (cfg : Config) (dueDate now : ℤ) (results : List ValidationResult) :
    Except RisError (ℤ × List ValidationResult) :=
  let tenorDays := computeTenorDays dueDate now
  let passed := cfg.minTenorDays ≤ tenorDays ∧ tenorDays ≤ cfg.maxTenorDays
  let details := Json.numbers
    [("actual_days", tenorDays), ("min_days", cfg.minTenorDays), ("max_days", cfg.maxTenorDays)]
  if passed then pure (tenorDays, results ++ [.of .tenorCheck .tenorOutOfRange true details])
  else
    throw (ValidationErrorCode.tenorOutOfRange.error
      ("Invoice tenor of " ++ toString tenorDays ++ " days is outside the allowed range (" ++
        toString cfg.minTenorDays ++ "-" ++ toString cfg.maxTenorDays ++ " days)"))

/-- Step 5: the face value must not exceed the buyer's remaining credit. A failure is not audited. -/
def validateCreditLimit (faceValue : ℤ) (buyer : Buyer) (results : List ValidationResult) :
    Except RisError (List ValidationResult) :=
  let totalExposure := faceValue + buyer.usedLimit
  let details := Json.strings
    [("requested", toString faceValue), ("used", toString buyer.usedLimit),
      ("limit", toString buyer.approvedLimit),
      ("remaining", toString (buyer.approvedLimit - buyer.usedLimit))]
  if totalExposure ≤ buyer.approvedLimit then
    pure (results ++ [.of .creditLimitCheck .creditLimitExceeded true details])
  else
    throw (ValidationErrorCode.creditLimitExceeded.error
      "Invoice face value exceeds available buyer credit limit")

/-! ## Submission -/

structure SubmitTxParams where
  userId : ℕ
  data : InvoiceSubmission
  supplierId : ℕ
  faceValue : ℤ
  tenorDays : ℤ
  validationResults : List ValidationResult
  req : Request

/-- The columns that are given for a new invoice. -/
def InvoiceSubmission.input (data : InvoiceSubmission) (id supplierId : ℕ) (tenorDays faceValue : ℤ) :
    CreateInvoiceInput where
  id := id
  invoiceNumber := data.invoiceNumber
  supplierId := supplierId
  buyerId := data.buyerId
  faceValue := faceValue
  dueDate := data.dueDate
  description := data.description
  tenorDays := tenorDays

def SubmitTxParams.input (p : SubmitTxParams) (id : ℕ) : CreateInvoiceInput :=
  { p.data.input id p.supplierId p.tenorDays p.faceValue with
    uraEfrisRef := some p.data.uraEfrisRef
    fundingTimelineDays := p.data.fundingTimelineDays }

/-- Write each validation step inside the transaction. -/
def auditValidationResultsWithClient (p : SubmitTxParams) (invoiceId : ℕ) : Tx Unit :=
  p.validationResults.forM fun result =>
    createAuditEntry (result.audit p.userId (.id invoiceId) p.req)

def submittedAudit (p : SubmitTxParams) (invoiceId : ℕ) : AuditLog :=
  invoiceAudit (some p.userId) "INVOICE_SUBMITTED" (.id invoiceId) []
    [("invoiceNumber", .text p.data.invoiceNumber), ("supplierId", .id p.supplierId),
      ("buyerId", .id p.data.buyerId), ("faceValue", .text (toString p.faceValue)),
      ("status", .text InvoiceStatus.submitted.text)] p.req

def amlFlagAudit (cfg : Config) (p : SubmitTxParams) (invoiceId : ℕ) : AuditLog :=
  invoiceAudit (some p.userId) "AML_FLAG" (.id invoiceId) []
    [("faceValue", .text (toString p.faceValue)),
      ("thresholdUgx", .text (toString cfg.amlFlagThreshold)),
      ("reason", .text "Invoice face value exceeds AML threshold")] p.req

/-- Set the AML flag if the face value exceeds the threshold. -/
def applyAmlFlagWithClient (cfg : Config) (p : SubmitTxParams) (invoiceId : ℕ) : Tx Unit :=
  if p.faceValue ≤ cfg.amlFlagThreshold then pure ()
  else do
    setAmlFlagWithClient invoiceId true
    createAuditEntry (amlFlagAudit cfg p invoiceId)

/-- The transaction of a submission; the id of the invoice. -/
def executeSubmitTransaction (cfg : Config) (p : SubmitTxParams) : Tx ℕ := do
  let i ← Txn.input
  createInvoiceWithClient (p.input i.uuid)
  auditValidationResultsWithClient p i.uuid
  createAuditEntry (submittedAudit p i.uuid)
  applyAmlFlagWithClient cfg p i.uuid
  return i.uuid

/-- Queue the AML compliance notification after the commit. -/
def notifyAmlCompliance (cfg : Config) (invoiceId : ℕ) (faceValue : ℤ) : Call Unit :=
  if faceValue ≤ cfg.amlFlagThreshold then pure ()
  else do
    log "AML_FLAG"
    if QueueName.notification ∈ cfg.queues then
      enqueueWithContext
        { queue := .notification, name := "notify-compliance-aml"
          data := [("invoiceId", .id invoiceId), ("faceValue", .text (toString faceValue))] }
    else pure ()

def queueBuyerConfirmation (cfg : Config) (invoiceId buyerId : ℕ) : Call Unit :=
  if QueueName.notification ∈ cfg.queues then do
    enqueueWithContext
      { queue := .notification, name := "send-buyer-confirmation"
        data := [("invoiceId", .id invoiceId), ("buyerId", .id buyerId)] }
    log "BUYER_CONFIRMATION_QUEUED"
  else log "Notification queue not configured — skipping buyer confirmation email"

/-- A delayed job that warns about the assessment SLA. -/
def assessmentJob (name tier : String) (invoiceId supplierId : ℕ) : Job where
  queue := .notification
  name := name
  data := [("invoiceId", .id invoiceId), ("supplierId", .id supplierId), ("tier", .text tier)]

def scheduleAssessmentReminders (cfg : Config) (invoiceId supplierId : ℕ) : Call Unit :=
  if QueueName.notification ∈ cfg.queues then do
    enqueueWithContext (assessmentJob "assessment_sla_reminder" "warn_day_3" invoiceId supplierId)
    enqueueWithContext (assessmentJob "assessment_sla_overdue" "overdue_day_7" invoiceId supplierId)
  else log "Notification queue not configured — skipping assessment SLA reminders"

def scheduleFundingTimelineReminder (cfg : Config) (invoiceId supplierId : ℕ)
    (timelineDays : Option ℤ) : Call Unit :=
  match timelineDays with
  | none => pure ()
  | some days =>
    if days ≤ 0 then pure ()
    else
      enqueueOrWarn cfg
        { queue := .notification, name := "funding_timeline_due"
          data := [("invoiceId", .id invoiceId), ("supplierId", .id supplierId),
            ("timelineDays", .int days)] }
        "Notification queue not configured — skipping funding timeline reminder"

/-- Submit an invoice through the validation chain; its id. -/
def submitInvoice (cfg : Config) (userId : ℕ) (data : InvoiceSubmission) (req : Request) : Call ℕ := do
  let faceValue ← bigIntOfNumber data.faceValue
  let (supplier, results) ← validateSupplierActive userId req
  let (_, results) ← validateNoDuplicate data.invoiceNumber supplier.id userId results req
  let ((buyer, now), results) ← validateBuyerEligibility data.buyerId userId results req
  let (tenorDays, results) ← validateTenor cfg data.dueDate now results
  let results ← validateCreditLimit faceValue buyer results
  checkStructuring cfg supplier.id data.buyerId faceValue userId req
  checkVelocitySpike supplier.id userId req
  let invoiceId ←
    transaction (executeSubmitTransaction cfg
        { userId, data, supplierId := supplier.id, faceValue, tenorDays, validationResults := results
          req })
      fun invoiceId => .invoiceSubmitted invoiceId faceValue
  log "INVOICE_SUBMITTED"
  notifyAmlCompliance cfg invoiceId faceValue
  queueBuyerConfirmation cfg invoiceId data.buyerId
  scheduleAssessmentReminders cfg invoiceId supplier.id
  scheduleFundingTimelineReminder cfg invoiceId supplier.id data.fundingTimelineDays
  return invoiceId

/-! ## Drafts -/

/-- Save a new draft, without validation; its id. -/
def saveDraft (userId : ℕ) (data : InvoiceSubmission) (req : Request) : Call ℕ := do
  let (found, now) ← queryNow fun _ => Pricing.findSupplierByUserId userId
  match found with
  | none => throw (.notFound "Supplier" userId)
  | some supplier =>
    let tenorDays := computeTenorDays data.dueDate now
    let invoiceId ←
      transaction (do
          let i ← Txn.input
          createDraftInvoice (data.input i.uuid supplier.id tenorDays) data.faceValue
          return i.uuid)
        fun invoiceId => .draftSaved invoiceId
    auditAlone (invoiceAudit (some userId) "INVOICE_DRAFT_SAVED" (.id invoiceId) []
      [("invoiceNumber", .text data.invoiceNumber), ("supplierId", .id supplier.id),
        ("status", .text InvoiceStatus.draft.text)] req)
    return invoiceId

/-- The invoice must exist and be a draft. -/
def guardDraft (invoiceId : ℕ) (draftMessage : String) : Option Invoice → Except RisError Invoice
  | none => throw (.notFound "Invoice" invoiceId)
  | some invoice =>
    if invoice.status ≠ .draft then throw (.businessRule "NOT_DRAFT" draftMessage) else pure invoice

/-- The invoice must be the caller's. -/
def guardOwner (invoice : Invoice) : Option Supplier → Except RisError Supplier
  | none => throw .forbidden
  | some supplier => if supplier.id ≠ invoice.supplierId then throw .forbidden else pure supplier

/-- The draft of the calling supplier, with the supplier's id and the clock. -/
def guardDraftOwnership (invoiceId userId : ℕ) (draftMessage : String) :
    Call (Invoice × ℕ × ℤ) := do
  let found ← query (findInvoiceById invoiceId)
  let invoice ← guardDraft invoiceId draftMessage found
  let (owner, now) ← queryNow fun _ => Pricing.findSupplierByUserId userId
  let supplier ← guardOwner invoice owner
  return (invoice, supplier.id, now)

/-- What a supplier sends to edit a draft; the number and the buyer of the invoice may be sent and are
not used. -/
structure InvoiceUpdate where
  invoiceNumber : Option String := none
  buyerId : Option ℕ := none
  faceValue : Option ℚ := none
  dueDate : Option ℤ := none
  description : Option String := none

/-- `Object.keys(data)`, in the order of the schema. -/
def InvoiceUpdate.keys (data : InvoiceUpdate) : List String :=
  (if data.invoiceNumber.isSome then ["invoice_number"] else []) ++
    (if data.buyerId.isSome then ["buyer_id"] else []) ++
    (if data.faceValue.isSome then ["face_value"] else []) ++
    (if data.dueDate.isSome then ["due_date"] else []) ++
    if data.description.isSome then ["description"] else []

def InvoiceUpdate.draft (data : InvoiceUpdate) (now : ℤ) : DraftUpdate where
  description := data.description
  faceValue := data.faceValue
  dueDate := data.dueDate
  tenorDays := data.dueDate.map fun dueDate => computeTenorDays dueDate now

/-- Nothing is written if no field is given or no row matches. -/
def draftEvent (invoiceId : ℕ) (data : DraftUpdate) (updated : Option Invoice) : Event :=
  if data.isEmpty then .read
  else
    match updated with
    | some _ => .draftUpdated invoiceId
    | none => .read

/-- Update the editable fields of an owned draft; the row. -/
def updateDraft (invoiceId userId : ℕ) (data : InvoiceUpdate) (req : Request) : Call Invoice := do
  let (_, supplierId, now) ←
    guardDraftOwnership invoiceId userId "Only draft invoices can be updated"
  let updated ←
    transaction (updateDraftFields invoiceId supplierId (data.draft now))
      (draftEvent invoiceId (data.draft now))
  match updated with
  | none => throw (.notFound "Draft Invoice" invoiceId)
  | some invoice =>
    auditAlone (invoiceAudit (some userId) "INVOICE_DRAFT_UPDATED" (.id invoiceId) []
      [("fields", .texts data.keys)] req)
    return invoice

/-- The checks of the buyer, the tenor and the credit that a draft must pass. -/
def validateForSubmit (cfg : Config) (faceValue dueDate now : ℤ) : Option Buyer → Except RisError Unit
  | none => throw (ValidationErrorCode.buyerNotApproved.error "Buyer not active")
  | some buyer =>
    if ¬buyer.isActive then throw (ValidationErrorCode.buyerNotApproved.error "Buyer not active")
    else
      let tenorDays := computeTenorDays (dueDate * dayMs) now
      if tenorDays < cfg.minTenorDays ∨ cfg.maxTenorDays < tenorDays then
        throw (ValidationErrorCode.tenorOutOfRange.error
          ("Tenor " ++ toString tenorDays ++ " days out of allowed range (" ++
            toString cfg.minTenorDays ++ "-" ++ toString cfg.maxTenorDays ++ ")"))
      else if buyer.approvedLimit < faceValue + buyer.usedLimit then
        throw (ValidationErrorCode.creditLimitExceeded.error "Credit limit exceeded")
      else pure ()

/-- The supplier's KYC must be approved. -/
def guardSubmitDraftKyc : Option Supplier → Except RisError Supplier
  | none => throw .forbidden
  | some supplier =>
    if supplier.kycStatus ≠ .approved then
      throw (ValidationErrorCode.supplierNotApproved.error "Supplier KYC must be approved")
    else pure supplier

def promotedAudit (invoiceId userId : ℕ) (req : Request) : AuditLog :=
  invoiceAudit (some userId) "INVOICE_SUBMITTED" (.id invoiceId)
    [("status", .text InvoiceStatus.draft.text)] [("status", .text InvoiceStatus.submitted.text)] req

/-- The transaction that promotes a draft; its face value was read before. -/
def executePromoteTransaction (cfg : Config) (invoiceId userId : ℕ) (faceValue : ℤ) (req : Request) :
    Tx Unit := do
  promoteToSubmitted invoiceId
  createAuditEntry (promotedAudit invoiceId userId req)
  if cfg.amlFlagThreshold < faceValue then setAmlFlagWithClient invoiceId true else pure ()

/-- The row that is read back is never missing; reading its fields would throw. -/
def readBack : Option Invoice → Except RisError Invoice
  | none => throw (.runtime "Cannot read properties of null (reading 'id')")
  | some invoice => pure invoice

/-- Promote a draft to submitted after the checks; the row. -/
def submitDraft (cfg : Config) (invoiceId userId : ℕ) (req : Request) : Call Invoice := do
  let (invoice, _, _) ←
    guardDraftOwnership invoiceId userId "Only draft invoices can be submitted this way"
  let owner ← query (Pricing.findSupplierByUserId userId)
  let _ ← guardSubmitDraftKyc owner
  let faceValue := invoice.faceValue
  let (buyer, now) ← queryNow fun _ => findBuyerWithLimits invoice.buyerId
  validateForSubmit cfg faceValue invoice.dueDate now buyer
  transaction (executePromoteTransaction cfg invoiceId userId faceValue req)
    fun _ => .draftSubmitted invoiceId faceValue
  log "INVOICE_SUBMITTED"
  let updated ← query (findInvoiceById invoiceId)
  readBack updated

/-! ## Withdrawal -/

/-- `COOLING_OFF_HOURS`, in milliseconds. -/
def coolingOffMs : ℤ := 48 * 3600000

def validateWithdrawalEligibility (invoice : Invoice) (now : ℤ) : Except RisError Unit :=
  if invoice.status ≠ .submitted then
    throw (.businessRule "INVOICE_WRONG_STATUS" "Only submitted invoices can be withdrawn")
  else if invoice.buyerConfirmedAt ≠ none then
    throw (.businessRule "INVOICE_ALREADY_CONFIRMED" "Cannot withdraw after buyer confirmation")
  else if coolingOffMs < now - invoice.createdAt then
    throw (.businessRule "COOLING_OFF_EXPIRED" "Cooling-off period has expired")
  else pure ()

def executeWithdrawTransaction (cfg : Config) (invoiceId userId : ℕ) (currentStatus : InvoiceStatus)
    (reason : String) (req : Request) : Tx Unit := do
  withdrawInvoiceWithClient cfg invoiceId reason
  createAuditEntry (invoiceAudit (some userId) "INVOICE_WITHDRAWN" (.id invoiceId)
    [("status", .text currentStatus.text)] [("status", .text "withdrawn"), ("reason", .text reason)]
    req)

/-- Withdraw a submitted invoice within the cooling-off period. -/
def withdrawInvoice (cfg : Config) (invoiceId userId : ℕ) (reason : String) (req : Request) :
    Call Unit := do
  match ← query (Pricing.findSupplierByUserId userId) with
  | none => throw .forbidden
  | some supplier =>
    let (found, now) ← queryNow fun _ => findInvoiceByIdForSupplier invoiceId supplier.id
    match found with
    | none => throw (.notFound "Invoice" invoiceId)
    | some invoice =>
      validateWithdrawalEligibility invoice now
      transaction (executeWithdrawTransaction cfg invoiceId userId invoice.status reason req)
        fun _ => .invoiceWithdrawn invoiceId
      log "INVOICE_WITHDRAWN"

/-! ## The system -/

/-- The operations that write to invoices. -/
inductive Op
  | submitInvoice (userId : ℕ) (data : InvoiceSubmission) (req : Request)
  | saveDraft (userId : ℕ) (data : InvoiceSubmission) (req : Request)
  | updateDraft (invoiceId userId : ℕ) (data : InvoiceUpdate) (req : Request)
  | submitDraft (invoiceId userId : ℕ) (req : Request)
  | withdrawInvoice (invoiceId userId : ℕ) (reason : String) (req : Request)

/-- The body of each operation. -/
def program (cfg : Config) : Op → Call Unit
  | .submitInvoice userId data req => (submitInvoice cfg userId data req).discard
  | .saveDraft userId data req => (saveDraft userId data req).discard
  | .updateDraft invoiceId userId data req => (updateDraft invoiceId userId data req).discard
  | .submitDraft invoiceId userId req => (submitDraft cfg invoiceId userId req).discard
  | .withdrawInvoice invoiceId userId reason req => withdrawInvoice cfg invoiceId userId reason req

end Ris.Invoices
