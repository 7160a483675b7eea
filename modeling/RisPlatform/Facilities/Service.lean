import RisPlatform.Common.Binary64
import RisPlatform.Facilities.Repository

/-!
# `facilities.service.ts`

Drawdowns, repayments, interest and utilisation, in the order of the source, with the handler of
`facility-repayment.worker.ts`. The process runs in UTC, so that a `DATE` read as a JavaScript date is
its day.
-/

namespace Ris.Facilities

open Relational Concurrent

/-- Error codes specific to the facilities module. -/
inductive FacilityErrorCode
  | facilitySuspended | facilityMatured | facilityClosed | maturityMismatch | insufficientAvailable
  | drawdownAlreadyRepaid
  deriving DecidableEq

def FacilityErrorCode.text : FacilityErrorCode → String
  | .facilitySuspended => "FACILITY_SUSPENDED"
  | .facilityMatured => "FACILITY_MATURED"
  | .facilityClosed => "FACILITY_CLOSED"
  | .maturityMismatch => "MATURITY_MISMATCH"
  | .insufficientAvailable => "INSUFFICIENT_AVAILABLE"
  | .drawdownAlreadyRepaid => "DRAWDOWN_ALREADY_REPAID"

/-- `new BusinessRuleError(code, message)`. -/
def FacilityErrorCode.error (code : FacilityErrorCode) (message : String) : RisError :=
  .businessRule code.text message

def ratePrecision : ℤ := 1000000000

def daysPerYear : ℤ := 365

def utilisationWarning : ℚ := 80

def utilisationCritical : ℚ := 90

def maturityAlertDays : ℤ := 5

/-! ## Calculations -/

/-- The rate's decimal text with nine digits after the point, as an integer. -/
def parseRateToScaled (rate : ℚ) : ℤ := (rate * ratePrecision).floor

/-- `principal × annualRate / 365`, truncated. -/
def calculateDailyInterest (principal : ℤ) (annualRate : ℚ) : ℤ :=
  if principal = 0 then 0
  else (principal * parseRateToScaled annualRate).tdiv (daysPerYear * ratePrecision)

/-- The utilisation in per cent. -/
def calculateUtilisation (drawnAmount totalLimit : ℤ) : ℚ :=
  if totalLimit = 0 then 0
  else Binary64.div (Binary64.round ((drawnAmount * 10000).tdiv totalLimit)) 100

/-! ## Alerts -/

inductive AlertLevel
  | warning | critical

def AlertLevel.text : AlertLevel → String
  | .warning => "warning"
  | .critical => "critical"

def AlertLevel.notifyRoles : AlertLevel → List String
  | .warning => ["finance_manager"]
  | .critical => ["finance_manager", "management"]

/-- The job of `queueUtilisationAlert`. -/
def utilisationAlert (facilityId : ℕ) (utilisation : ℚ) (level : AlertLevel) : Job where
  queue := .notification
  name := "facility-utilisation-alert"
  data :=
    [("facilityId", .id facilityId), ("utilisationPercent", .rat utilisation),
      ("alertLevel", .text level.text), ("notifyRoles", .texts level.notifyRoles)]

/-- The level at which the utilisation alerts, if it does. -/
def alertLevel (utilisation : ℚ) : Option AlertLevel :=
  if utilisationCritical ≤ utilisation then some .critical
  else if utilisationWarning ≤ utilisation then some .warning
  else none

/-! ## Creating a drawdown -/

def validateFacilityForDrawdown (facilityId : ℕ) : Option BankFacility → Except RisError BankFacility
  | none => throw (.notFound "Facility" facilityId)
  | some facility =>
    match facility.status with
    | .suspended =>
      throw (FacilityErrorCode.facilitySuspended.error
        "Facility is suspended — no new drawdowns allowed")
    | .matured => throw (FacilityErrorCode.facilityMatured.error "Facility has matured")
    | .closed => throw (FacilityErrorCode.facilityClosed.error "Facility is closed")
    | .active => pure facility

def validateMaturity (facility : BankFacility) (invoiceDueDate : ℤ) : Except RisError Unit :=
  if facility.maturityDate < invoiceDueDate then
    throw (FacilityErrorCode.maturityMismatch.error "Facility maturity is before invoice due date")
  else pure ()

def validateAvailableAmount (facility : BankFacility) (principal : ℤ) : Except RisError Unit :=
  if facility.availableAmount < principal then
    throw (FacilityErrorCode.insufficientAvailable.error
      "Principal exceeds available facility amount")
  else pure ()

/-- Load a facility and validate that it may be drawn on. -/
def loadDrawdownFacility (facilityId : ℕ) (invoiceDueDate principal : ℤ) : Tx BankFacility := do
  let found ← getFacilityByIdWithClient facilityId
  let facility ← validateFacilityForDrawdown facilityId found
  validateMaturity facility invoiceDueDate
  validateAvailableAmount facility principal
  return facility

/-- Enqueue the alert, or only log that the queue is not configured. -/
def queueUtilisationAlertTx (cfg : Config) (facilityId : ℕ) (utilisation : ℚ) (level : AlertLevel) :
    Tx Unit :=
  if QueueName.notification ∈ cfg.queues then
    enqueueTx (utilisationAlert facilityId utilisation level)
  else pure ()

/-- Suspend a facility at the critical level, and alert. -/
def handleUtilisationThresholds (cfg : Config) (facilityId : ℕ) (utilisation : ℚ) : Tx Unit :=
  match alertLevel utilisation with
  | some .critical => do
    updateFacilityStatusWithClient facilityId .suspended
    queueUtilisationAlertTx cfg facilityId utilisation .critical
  | some .warning => queueUtilisationAlertTx cfg facilityId utilisation .warning
  | none => pure ()

/-- The value of `audit_logs.user_id`. -/
def auditUserId : Option Actor → Except RisError (Option ℕ)
  | none => pure none
  | some userId => some <$> userId.uuid

/-- `createAuditEntry` of the repository: `audit_logs.user_id` is a `UUID`. -/
def createAuditEntry (userId : Option Actor) (action tableName : String) (recordId : ℕ)
    (newValues : List (String × Json)) : Tx Unit := do
  let user ← auditUserId userId
  Ris.createAuditEntry
    { userId := user, action, tableName, recordId := .id recordId, oldValues := [], newValues }

/-- Insert the drawdown, raise the drawn amount and handle the utilisation; the new row. -/
def insertDrawdownTxn (cfg : Config) (facility : BankFacility) (facilityId invoiceId : ℕ)
    (principal bankFees : ℤ) (userId : Actor) : Tx ℕ := do
  let i ← Txn.input
  let drawdownId := i.uuid
  createDrawdownWithClient cfg { id := drawdownId, facilityId, invoiceId, principal, bankFees }
  let newDrawn := facility.drawnAmount + principal
  updateDrawnAmountWithClient facilityId newDrawn
  let utilisation := calculateUtilisation newDrawn facility.totalLimit
  handleUtilisationThresholds cfg facilityId utilisation
  createAuditEntry (some userId) "DRAWDOWN_CREATED" "facility_drawdowns" drawdownId
    [("facilityId", .id facilityId), ("invoiceId", .id invoiceId), ("principal", .int principal),
      ("bankFees", .int bankFees)]
  return drawdownId

/-- The transaction of `createDrawdown`; the new row's id. -/
def createDrawdownTxn (cfg : Config) (facilityId invoiceId : ℕ)
    (principal bankFees invoiceDueDate : ℤ) (userId : Actor) : Tx ℕ := do
  let facility ← loadDrawdownFacility facilityId invoiceDueDate principal
  insertDrawdownTxn cfg facility facilityId invoiceId principal bankFees userId

/-- What `createDrawdown` returns. -/
structure CreatedDrawdown where
  drawdownId : ℕ
  facilityId : ℕ
  invoiceId : ℕ
  principal : ℤ

/-- Create a drawdown against a facility for an invoice. -/
def createDrawdown (cfg : Config) (facilityId invoiceId : ℕ) (principal bankFees invoiceDueDate : ℤ)
    (userId : Actor) : Call CreatedDrawdown := do
  let drawdownId ← enqueuingTransaction
    (createDrawdownTxn cfg facilityId invoiceId principal bankFees invoiceDueDate userId)
    fun drawdownId => .drawdownCreated facilityId drawdownId
  log "DRAWDOWN_CREATED"
  return { drawdownId, facilityId, invoiceId, principal }

/-! ## Processing a repayment -/

/-- What `processRepayment` returns. -/
structure RepaymentCalculation where
  drawdownId : ℕ
  principal : ℤ
  accruedInterest : ℤ
  bankFees : ℤ
  totalRepayment : ℤ

def loadFacilityOrThrow (facilityId : ℕ) : Tx BankFacility := do
  match ← getFacilityByIdWithClient facilityId with
  | some facility => return facility
  | none => Txn.abort (.notFound "Facility" facilityId)

/-- Load a drawdown that has not been repaid. -/
def loadRepayableDrawdown (drawdownId : ℕ) : Tx FacilityDrawdown := do
  match ← getDrawdownByIdWithClient drawdownId with
  | none => Txn.abort (.notFound "Drawdown" drawdownId)
  | some drawdown =>
    if drawdown.status = .repaid then
      Txn.abort (FacilityErrorCode.drawdownAlreadyRepaid.error "Drawdown has already been repaid")
    else return drawdown

def calculateTotal (drawdown : FacilityDrawdown) : ℤ :=
  drawdown.principal + drawdown.accruedInterest + drawdown.bankFees

/-- Record the repayment, mark the drawdown repaid and reduce the drawn amount. -/
def recordRepaymentTxn (facility : BankFacility) (drawdown : FacilityDrawdown)
    (facilityId drawdownId : ℕ) (userId : Actor) : Tx RepaymentCalculation := do
  let totalRepayment := calculateTotal drawdown
  let i ← Txn.input
  let repaymentId := i.uuid
  createRepaymentWithClient
    { id := repaymentId
      drawdownId
      facilityId
      principal := drawdown.principal
      interest := drawdown.accruedInterest
      bankFees := drawdown.bankFees
      totalAmount := totalRepayment }
  updateDrawdownStatusWithClient drawdownId .repaid
  let newDrawn := facility.drawnAmount - drawdown.principal
  updateDrawnAmountWithClient facilityId newDrawn
  createAuditEntry (some userId) "REPAYMENT_RECORDED" "facility_repayments" repaymentId
    [("facilityId", .id facilityId), ("drawdownId", .id drawdownId),
      ("totalRepayment", .int totalRepayment)]
  return { drawdownId
           principal := drawdown.principal
           accruedInterest := drawdown.accruedInterest
           bankFees := drawdown.bankFees
           totalRepayment }

/-- The transaction of `processRepayment`. It never compares the drawdown's facility with the one it
was given. -/
def processRepaymentTxn (facilityId drawdownId : ℕ) (userId : Actor) : Tx RepaymentCalculation := do
  let facility ← loadFacilityOrThrow facilityId
  let drawdown ← loadRepayableDrawdown drawdownId
  recordRepaymentTxn facility drawdown facilityId drawdownId userId

/-- Process a repayment for a drawdown. -/
def processRepayment (facilityId drawdownId : ℕ) (userId : Actor) : Call RepaymentCalculation := do
  let result ← transaction (processRepaymentTxn facilityId drawdownId userId)
    fun _ => .repaymentRecorded facilityId drawdownId
  log "REPAYMENT_RECORDED"
  return result

/-- `handleRepaymentJob` of the worker: repay an active drawdown of the invoice. -/
def handleRepaymentJob (invoiceId : ℕ) : Call Unit := do
  let drawdown ← .transaction
    (do connect; let i ← Txn.input; Txn.read (getDrawdownByInvoiceId invoiceId i.choice))
    (fun _ => .read) fun _ => .threw
  match drawdown with
  | none => log "No active drawdown for invoice — skipping"
  | some drawdown =>
    let _ ← processRepayment drawdown.facilityId drawdown.id .system
    log "Facility repayment processed"

/-! ## Interest -/

/-- Walk each of `days` days after `lastAccrued` and add the daily interest. -/
def accrueEachDay (drawdownId : ℕ) (dailyInterest : ℤ) : ℤ → ℕ → Tx Unit
  | _, 0 => pure ()
  | lastAccrued, days + 1 => do
    let cursor := lastAccrued + 1
    accrueDailyInterestWithClient drawdownId dailyInterest cursor
    accrueEachDay drawdownId dailyInterest cursor days

/-- Apply the daily interest from `lastAccrued` to `today`; a failure is logged. -/
def applyAccrualTxn (drawdown : FacilityDrawdown) (dailyInterest lastAccrued today : ℤ) :
    Call Unit := do
  -- `pool.connect` stands before the `try`
  query fun _ => ()
  try
    transaction
      (do
        accrueEachDay drawdown.id dailyInterest lastAccrued (today - lastAccrued).toNat
        createAuditEntry none "INTEREST_ACCRUED" "facility_drawdowns" drawdown.id
          [("facilityId", .id drawdown.facilityId), ("dailyInterest", .int dailyInterest),
            ("accrualDate", .int today)])
      fun _ => .interestAccrued drawdown.id lastAccrued today
  catch _ => log "Interest accrual failed"

def accrueForDrawdown (today : ℤ) (drawdown : FacilityDrawdown) : Call Unit := do
  if today ≤ drawdown.lastAccruedDate then pure ()
  else
    match ← query (getFacilityById drawdown.facilityId) with
    | none => pure ()
    | some facility =>
      let dailyInterest := calculateDailyInterest drawdown.principal facility.annualRate
      applyAccrualTxn drawdown dailyInterest drawdown.lastAccruedDate today

/-- Accrue interest for all active drawdowns. -/
def accrueInterest (today : ℤ) : Call Unit := do
  let drawdowns ← query getActiveDrawdowns
  drawdowns.forM (accrueForDrawdown today)

/-! ## Scheduled alerts -/

/-- `queueUtilisationAlert` outside a transaction. -/
def queueUtilisationAlert (cfg : Config) (facilityId : ℕ) (utilisation : ℚ) (level : AlertLevel) :
    Call Unit :=
  enqueueOrWarn cfg (utilisationAlert facilityId utilisation level)
    "Notification queue not configured"

def updateFacilityStatus (facilityId : ℕ) (newStatus : FacilityStatus) : Call Unit :=
  transaction (updateFacilityStatusWithClient facilityId newStatus)
    fun _ => .facilitySuspended facilityId

def sendUtilisationAlert (cfg : Config) (facility : BankFacility) : Call Unit :=
  let utilisation := calculateUtilisation facility.drawnAmount facility.totalLimit
  match alertLevel utilisation with
  | some .critical => do
    updateFacilityStatus facility.id .suspended
    queueUtilisationAlert cfg facility.id utilisation .critical
  | some .warning => queueUtilisationAlert cfg facility.id utilisation .warning
  | none => pure ()

/-- Check the utilisation of the active facilities and alert. -/
def checkUtilisationAlerts (cfg : Config) : Call Unit := do
  let facilities ← query getActiveFacilities
  facilities.forM (sendUtilisationAlert cfg)

/-- The job of `queueMaturityAlert`. -/
def maturityAlert (facility : BankFacility) : Job where
  queue := .notification
  name := "facility-maturity-alert"
  data :=
    [("facilityId", .id facility.id), ("bankName", .text facility.bankName),
      ("maturityDate", .int facility.maturityDate), ("notifyRoles", .texts ["finance_manager"])]

/-- Check for facilities nearing maturity and notify. -/
def checkMaturityAlerts (cfg : Config) : Call Unit := do
  let facilities ← .transaction
    (do connect; let today ← currentDate; Txn.read (getFacilitiesNearMaturity maturityAlertDays today))
    (fun _ => .read) fun _ => .threw
  facilities.forM fun facility =>
    enqueueOrWarn cfg (maturityAlert facility) "Notification queue not configured"

/-! ## The system -/

/-- The operations on the facility ledger. -/
inductive Op
  | createDrawdown (facilityId invoiceId : ℕ) (principal bankFees invoiceDueDate : ℤ) (userId : Actor)
  | processRepayment (facilityId drawdownId : ℕ) (userId : Actor)
  | handleRepaymentJob (invoiceId : ℕ)
  | accrueInterest (today : ℤ)
  | checkUtilisationAlerts
  | checkMaturityAlerts

/-- The body of each operation. -/
def program (cfg : Config) : Op → Call Unit
  | .createDrawdown facilityId invoiceId principal bankFees invoiceDueDate userId =>
    (createDrawdown cfg facilityId invoiceId principal bankFees invoiceDueDate userId).discard
  | .processRepayment facilityId drawdownId userId =>
    (processRepayment facilityId drawdownId userId).discard
  | .handleRepaymentJob invoiceId => handleRepaymentJob invoiceId
  | .accrueInterest today => accrueInterest today
  | .checkUtilisationAlerts => checkUtilisationAlerts cfg
  | .checkMaturityAlerts => checkMaturityAlerts cfg

end Ris.Facilities
