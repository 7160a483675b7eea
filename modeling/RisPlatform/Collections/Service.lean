import RisPlatform.Collections.Repository
import RisPlatform.Facilities.Repository

/-!
# `collections.service.ts`

Monitoring, escalation, payments and default of collections, in the order of the source, with the
handlers of its workers. The process runs in UTC. Log lines inside a transaction are left out, and the
escalation documents are in `Documents`.
-/

namespace Ris.Collections

open Relational Concurrent

/-- Error codes of the collections module, as far as its service throws them. -/
inductive CollectionErrorCode
  | alreadyCollected | alreadyResolved | cannotDeescalate | documentAlreadySent | documentNotDraft
  | draftAlreadyExists
  deriving DecidableEq

def CollectionErrorCode.text : CollectionErrorCode → String
  | .alreadyCollected => "ALREADY_COLLECTED"
  | .alreadyResolved => "ALREADY_RESOLVED"
  | .cannotDeescalate => "CANNOT_DEESCALATE"
  | .documentAlreadySent => "DOCUMENT_ALREADY_SENT"
  | .documentNotDraft => "DOCUMENT_NOT_DRAFT"
  | .draftAlreadyExists => "DRAFT_ALREADY_EXISTS"

/-- `new BusinessRuleError(code, message)`. -/
def CollectionErrorCode.error (code : CollectionErrorCode) (message : String) : RisError :=
  .businessRule code.text message

def fallbackDailyPenaltyRate : ℚ := mkRat 1 1000

def penaltyPrecision : ℤ := 1000000

/-- The configured rate, or the fallback when reading it throws. -/
def getDailyPenaltyRate : Call ℚ := do
  let value ← .transaction (do let i ← Txn.input; return i.dailyPenaltyRate) (fun _ => .read)
    fun _ => .threw
  match value with
  | some rate => return rate
  | none =>
    log "Failed to read penalty rate from risk_config, using fallback"
    return fallbackDailyPenaltyRate

/-- The same inside a transaction. -/
def getDailyPenaltyRateTx : Tx ℚ := do
  let i ← Txn.input
  return i.dailyPenaltyRate.getD fallbackDailyPenaltyRate

/-- The rate's decimal text with six digits after the point, as an integer. -/
def parseRate (rate : ℚ) : ℤ := (rate * penaltyPrecision).floor

/-- `face_value × daily_penalty_rate × days_overdue`, truncated. -/
def calculatePenalty (faceValue daysOverdue : ℤ) (dailyPenaltyRate : ℚ) : ℤ :=
  (faceValue * parseRate dailyPenaltyRate * daysOverdue).tdiv penaltyPrecision

/-- The value of `audit_logs.user_id`. -/
def auditUserId (cfg : Config) : Option Actor → Except RisError (Option ℕ)
  | none => pure none
  | some (.user id) => pure (some id)
  | some .system => if cfg.systemUserRefused then some <$> Actor.system.uuid else pure none

/-- `createAuditEntry` of the repository, on `collections`. -/
def createAuditEntry (cfg : Config) (userId : Option Actor) (action : String) (recordId : ℕ)
    (oldValues newValues : List (String × Json)) : Tx Unit := do
  let user ← auditUserId cfg userId
  Ris.createAuditEntry
    { userId := user, action, tableName := "collections", recordId := .id recordId, oldValues
      newValues }

/-- `repo.getCollectionByInvoiceId`. -/
def getCollectionByInvoiceId (invoiceId : ℕ) : Call (Option Collection) :=
  .transaction
    (do connect; let i ← Txn.input; Txn.read (Repo.getCollectionByInvoiceId invoiceId i.choice))
    (fun _ => .read) fun _ => .threw

def queueNotification (cfg : Config) (name : String) (data : List (String × Json)) : Call Unit :=
  enqueueOrWarn cfg { queue := .notification, name, data } "Notification queue not configured"

/-! ## Process overdue invoice (T+1) -/

/-- Mark the existing row as overdue, or insert one (the path of legacy data). -/
def saveOverdueRecord (invoice : Invoice) (existing : Option Collection) (collectionId : ℕ)
    (penaltyAmount : ℤ) : Tx Unit :=
  match existing with
  | some _ => do
    Repo.updateCollectionStatus collectionId .overdue
    Repo.updateEscalationLevel collectionId 0 1 penaltyAmount
  | none => do
    let dailyPenaltyRate ← getDailyPenaltyRateTx
    Repo.createOverdueRecord
      { id := collectionId
        invoiceId := invoice.id
        buyerId := invoice.buyerId
        faceValue := invoice.faceValue
        amountDue := invoice.faceValue
        daysOverdue := 1
        dailyPenaltyRate
        penaltyAmount }

/-- Transaction body for `processOverdueInvoice`; the id of the collection. -/
def executeOverdueTxn (cfg : Config) (invoice : Invoice) (existing : Option Collection)
    (penaltyAmount : ℤ) (notifyUserId : Actor) : Tx ℕ := do
  let i ← Txn.input
  let collectionId := (existing.map Collection.id).getD i.uuid
  saveOverdueRecord invoice existing collectionId penaltyAmount
  let _ ← Repo.updateInvoiceStatus invoice.id .overdue .collecting
  createAuditEntry cfg (some notifyUserId) "INVOICE_OVERDUE" invoice.id
    [("status", .text "collecting")]
    [("status", .text "overdue"), ("collectionId", .id collectionId), ("daysOverdue", .int 1),
      ("penaltyAmount", .int penaltyAmount)]
  return collectionId

/-- Mark a collecting invoice as overdue. -/
def processOverdueInvoice (cfg : Config) (invoiceId : ℕ) (notifyUserId : Actor) : Call Unit := do
  match ← query (Repo.getInvoiceForCollection invoiceId) with
  | none => throw (.notFound "Invoice" invoiceId)
  | some invoice =>
    -- a funded invoice has to be monitored before it can be overdue
    if invoice.status ≠ .collecting then pure ()
    else
      let rate ← getDailyPenaltyRate
      let penaltyAmount := calculatePenalty invoice.faceValue 1 rate
      let existing ← getCollectionByInvoiceId invoiceId
      let _ ← transaction (executeOverdueTxn cfg invoice existing penaltyAmount notifyUserId)
        fun collectionId => .collectionOverdue collectionId invoiceId
      log "INVOICE_OVERDUE"
      queueNotification cfg "overdue-notification"
        [("invoiceId", .id invoiceId), ("buyerId", .id invoice.buyerId),
          ("type", .text "credit_officer_notify")]

/-! ## Start collection monitoring -/

/-- Transaction body for `startCollectionMonitoring`; the id of the collection. Whether the update of
the invoice matched a row is not looked at. -/
def executeCollectionStartedTxn (cfg : Config) (invoice : Invoice) (dailyRate : ℚ) (paymentId : ℕ) :
    Tx ℕ := do
  let i ← Txn.input
  let collectionId := i.uuid
  Repo.createPendingCollectionRecord
    { id := collectionId
      invoiceId := invoice.id
      buyerId := invoice.buyerId
      faceValue := invoice.faceValue
      amountDue := invoice.faceValue
      daysOverdue := 0
      dailyPenaltyRate := dailyRate
      penaltyAmount := 0 }
  let _ ← Repo.updateInvoiceStatus invoice.id .collecting .funded
  createAuditEntry cfg (some .system) "COLLECTION_STARTED" invoice.id [("status", .text "funded")]
    [("status", .text "collecting"), ("collectionId", .id collectionId),
      ("paymentId", .id paymentId)]
  return collectionId

def persistCollectionStarted (cfg : Config) (invoice : Invoice) (paymentId : ℕ) : Call Unit := do
  let dailyRate ← getDailyPenaltyRate
  let _ ← transaction (executeCollectionStartedTxn cfg invoice dailyRate paymentId)
    fun collectionId => .collectionStarted collectionId invoice.id

/-- Start collection monitoring for a freshly funded invoice. -/
def startCollectionMonitoring (cfg : Config) (invoiceId paymentId : ℕ) : Call Unit := do
  match ← getCollectionByInvoiceId invoiceId with
  | some _ => log "Collection monitoring already started — skipping"
  | none =>
    match ← query (Repo.getInvoiceForCollection invoiceId) with
    | none => throw (.notFound "Invoice" invoiceId)
    | some invoice =>
      if invoice.status ≠ .funded then
        log "Invoice no longer funded — skipping collection-monitoring start"
      else
        persistCollectionStarted cfg invoice paymentId
        log "COLLECTION_STARTED"

/-! ## Process escalation (T+3, T+7) -/

/-- The escalation level for that many days overdue. -/
def determineEscalationLevel (daysOverdue : ℤ) : ℤ :=
  if 14 ≤ daysOverdue then 3
  else if 7 ≤ daysOverdue then 2
  else if 3 ≤ daysOverdue then 1
  else 0

/-- Is a SAR review flag raised at this level? -/
def checkSarFlag (cfg : Config) (level faceValue : ℤ) : Bool :=
  3 ≤ level ∧ cfg.amlFlagThreshold ≤ faceValue

def getEscalationTarget (level : ℤ) : String :=
  if 3 ≤ level then "legal" else if 2 ≤ level then "management" else "credit_manager"

/-- Flag the collection for SAR review, if that is asked for. -/
def flagIf (flagged : Bool) (collectionId : ℕ) : Tx Unit :=
  if flagged then Repo.flagForSarReview collectionId else pure ()

/-- Transaction body for `processEscalation`. -/
def executeEscalationTxn (cfg : Config) (collection : Collection) (invoice : Invoice)
    (newLevel daysOverdue penalty : ℤ) : Tx Unit := do
  Repo.updateCollectionStatus collection.id .escalated
  Repo.updateEscalationLevel collection.id newLevel daysOverdue penalty
  let sarFlagged := checkSarFlag cfg newLevel invoice.faceValue
  flagIf sarFlagged collection.id
  createAuditEntry cfg none "COLLECTION_ESCALATED" collection.id
    [("status", .text collection.status.text), ("daysOverdue", .int collection.daysOverdue),
      ("escalationLevel", .int collection.escalationLevel)]
    [("status", .text "escalated"), ("daysOverdue", .int daysOverdue),
      ("escalationLevel", .int newLevel), ("escalationTarget", .text (getEscalationTarget newLevel)),
      ("penaltyAmount", .int penalty), ("sarFlagged", .bool sarFlagged)]

/-- Queue the escalation notification after the commit. -/
def notifyEscalation (cfg : Config) (invoiceId buyerId : ℕ) (daysOverdue level penalty : ℤ) :
    Call Unit :=
  queueNotification cfg "escalation-notification"
    [("invoiceId", .id invoiceId), ("buyerId", .id buyerId), ("daysOverdue", .int daysOverdue),
      ("escalationLevel", .int level), ("escalationTarget", .text (getEscalationTarget level)),
      ("penaltyAmount", .int penalty)]

/-- Draft the document of level 2 or 3, for the user `'SYSTEM'`; `escalation_documents.generated_by`
is a `UUID`, so that the draft is never stored and the failure is logged. -/
def autoGenerateDraft (level : ℤ) : Call Unit :=
  if level = 2 ∨ level = 3 then log "Auto-draft generation failed" else pure ()

/-- Escalate an overdue collection based on days overdue; `draft` is the last step. -/
def processEscalationWith (draft : ℕ → ℤ → Call Unit) (cfg : Config) (invoiceId : ℕ) (daysOverdue : ℤ) :
    Call Unit := do
  match ← query (Repo.getInvoiceForCollection invoiceId) with
  | none => throw (.notFound "Invoice" invoiceId)
  | some invoice =>
    match ← getCollectionByInvoiceId invoiceId with
    | none => throw (.notFound "CollectionRecord" invoiceId)
    | some collection =>
      let newLevel := determineEscalationLevel daysOverdue
      -- the days are the caller's, the level is the row's
      if newLevel ≤ collection.escalationLevel then pure ()
      else
        let rate ← getDailyPenaltyRate
        let penalty := calculatePenalty invoice.faceValue daysOverdue rate
        transaction (executeEscalationTxn cfg collection invoice newLevel daysOverdue penalty)
          fun _ => .collectionEscalated collection.id newLevel
        log "COLLECTION_ESCALATED"
        notifyEscalation cfg invoiceId invoice.buyerId daysOverdue newLevel penalty
        draft collection.id newLevel

def processEscalation (cfg : Config) (invoiceId : ℕ) (daysOverdue : ℤ) : Call Unit :=
  processEscalationWith (fun _ level => autoGenerateDraft level) cfg invoiceId daysOverdue

/-! ## Record payment received (by invoice id) -/

structure RecordPaymentInput where
  invoiceId : ℕ
  amount : ℤ
  /-- Milliseconds. -/
  paymentDate : ℤ
  receivedBy : ℕ
  paymentMethod : CollectionPaymentMethod
  paidBy : String
  paymentReference : Option String := none
  notes : Option String := none

/-- Positive: late; zero or negative: on time or early. -/
def calculateDaysLate (paymentDate dueDate : ℤ) : ℤ := (paymentDate - dueDate * dayMs) / dayMs

/-- Move the invoice to `collected`, or throw if its status is no longer the expected one. -/
def assertInvoiceCollectedTransition (invoiceId : ℕ) (expectedStatus : InvoiceStatus) : Tx Unit := do
  let transitioned ← Repo.updateInvoiceStatus invoiceId .collected expectedStatus
  if transitioned then pure ()
  else
    -- another payment has moved the invoice: the transaction is rolled back
    Txn.abort (CollectionErrorCode.alreadyCollected.error
      "Concurrent payment received for this invoice — refusing duplicate commit")

/-- Resolve the collection, if there is one. -/
def resolvePaidCollection (collection : Option Collection) (amount : ℤ) : Tx Unit :=
  match collection with
  | some collection => Repo.resolveCollection collection.id amount
  | none => pure ()

/-- Transaction body for `recordPaymentReceived`. -/
def executePaymentReceivedTxn (cfg : Config) (input : RecordPaymentInput) (invoice : Invoice)
    (collection : Option Collection) : Tx Unit := do
  assertInvoiceCollectedTransition input.invoiceId invoice.status
  Repo.recordPaymentReceived (collection.map Collection.id) input.amount input.paymentMethod
    input.paidBy input.paymentDate input.receivedBy input.paymentReference input.notes
  Repo.reduceBuyerUsedLimit invoice.buyerId invoice.faceValue
  let daysLate := calculateDaysLate input.paymentDate invoice.dueDate
  Repo.adjustBuyerPaymentScore invoice.buyerId daysLate
  resolvePaidCollection collection input.amount
  createAuditEntry cfg (some (.user input.receivedBy)) "PAYMENT_RECEIVED" input.invoiceId
    [("status", .text invoice.status.text)]
    [("status", .text "collected"), ("amount", .int input.amount),
      ("paymentDate", .int input.paymentDate)]

/-- The event of its commit; without a collection it does not commit. -/
def paymentEvent (input : RecordPaymentInput) : Option Collection → Event
  | some collection => .paymentReceived input.invoiceId collection.id input.amount
  | none => .read

/-- The event of its failure: whether the service or the database refused. -/
def paymentFailure (invoiceId : ℕ) : RisError → Event
  | .businessRule _ _ => .paymentRefused invoiceId
  | _ => .threw

def queueFacilityRepayment (cfg : Config) (invoiceId : ℕ) : Call Unit :=
  if QueueName.facilityRepayment ∈ cfg.queues then do
    let drawdown ← .transaction
      (do
        connect
        let i ← Txn.input
        Txn.read (Facilities.getDrawdownByInvoiceId invoiceId i.choice))
      (fun _ => .read) fun _ => .threw
    enqueueWithContext
      { queue := .facilityRepayment
        name := "facility-repayment"
        data :=
          [("invoiceId", .id invoiceId),
            ("drawdownId", .ofOption .id (drawdown.map FacilityDrawdown.id))] }
  else log "Facility repayment queue not configured"

/-- The job that starts the settlement. -/
def settlementJob (invoiceId : ℕ) (collection : Option Collection) (amount : ℤ) : Job where
  queue := .settlement
  name := "settlement-initiate"
  data :=
    [("invoiceId", .id invoiceId),
      ("collectionId", (collection.map Collection.id).elim (.text "") .id), ("amount", .int amount),
      ("penaltyAmount", .int ((collection.map Collection.penaltyAmount).getD 0))]

def queueSettlementInitiation (cfg : Config) (invoiceId : ℕ) (collection : Option Collection)
    (amount : ℤ) : Call Unit :=
  enqueueOrWarn cfg (settlementJob invoiceId collection amount) "Settlement queue not configured"

/-- Queue the facility repayment, the settlement and the supplier's notification after the commit. -/
def dispatchPostPaymentJobs (cfg : Config) (input : RecordPaymentInput) (invoice : Invoice)
    (collection : Option Collection) : Call Unit := do
  queueFacilityRepayment cfg input.invoiceId
  queueSettlementInitiation cfg input.invoiceId collection input.amount
  queueNotification cfg "supplier-payment-notification"
    [("invoiceId", .id input.invoiceId), ("supplierId", .id invoice.supplierId),
      ("type", .text "buyer_paid")]

/-- Record a payment from a buyer. -/
def recordPaymentReceived (cfg : Config) (input : RecordPaymentInput) : Call Unit := do
  match ← query (Repo.getInvoiceForCollection input.invoiceId) with
  | none => throw (.notFound "Invoice" input.invoiceId)
  | some invoice =>
    if invoice.status = .collected then
      throw (CollectionErrorCode.alreadyCollected.error "Invoice has already been collected")
    else
      let collection ← getCollectionByInvoiceId input.invoiceId
      .transaction (do connect; executePaymentReceivedTxn cfg input invoice collection)
        (fun _ => paymentEvent input collection) (paymentFailure input.invoiceId)
      log "PAYMENT_RECEIVED"
      dispatchPostPaymentJobs cfg input invoice collection

/-! ## Record payment (by collection id) -/

structure FrontendRecordPaymentInput where
  amount : ℤ
  method : CollectionPaymentMethod
  reference : Option String := none
  paidBy : String
  /-- Milliseconds. -/
  paymentDate : ℤ
  notes : Option String := none

/-- Transaction body for `recordCollectionPayment`. -/
def executeCollectionPaymentTxn (cfg : Config) (collectionId : ℕ) (input : FrontendRecordPaymentInput)
    (userId : ℕ) (prevStatus : CollectionStatus) : Tx Unit := do
  Repo.recordPaymentReceived (some collectionId) input.amount input.method input.paidBy
    input.paymentDate userId input.reference input.notes
  Repo.updateCollectionAfterPayment collectionId input.amount
  createAuditEntry cfg (some (.user userId)) "PAYMENT_RECEIVED" collectionId
    [("status", .text prevStatus.text)]
    [("amount", .int input.amount), ("paymentDate", .int input.paymentDate),
      ("method", .text input.method.text), ("paidBy", .text input.paidBy)]

/-- Record a payment against a collection. -/
def recordCollectionPayment (cfg : Config) (collectionId : ℕ) (input : FrontendRecordPaymentInput)
    (userId : ℕ) : Call Unit := do
  match ← query (Repo.getCollectionById collectionId) with
  | none => throw (.notFound "Collection" collectionId)
  | some collection =>
    if collection.status = .collected then
      throw (CollectionErrorCode.alreadyCollected.error "Collection has already been fully collected")
    else
      transaction (executeCollectionPaymentTxn cfg collectionId input userId collection.status)
        fun _ => .collectionPaid collectionId input.amount
      log "PAYMENT_RECEIVED"

/-! ## Escalate, de-escalate, resolve -/

/-- At level 3, flag the collection of an invoice at or above the AML threshold. -/
def flagManualEscalation (cfg : Config) (collectionId invoiceId : ℕ) (newLevel : ℤ) : Tx Unit :=
  if 3 ≤ newLevel then do
    let invoice ← Txn.read (Repo.getInvoiceForCollection invoiceId)
    flagIf (invoice.any fun invoice => cfg.amlFlagThreshold ≤ invoice.faceValue) collectionId
  else pure ()

/-- Transaction body for `escalateCollection`. -/
def executeManualEscalationTxn (cfg : Config) (collectionId invoiceId : ℕ)
    (currentLevel newLevel : ℤ) (userId : ℕ) (reason : String) : Tx Unit := do
  Repo.setEscalationLevel collectionId newLevel
  flagManualEscalation cfg collectionId invoiceId newLevel
  createAuditEntry cfg (some (.user userId)) "COLLECTION_ESCALATED" collectionId
    [("escalationLevel", .int currentLevel)]
    [("escalationLevel", .int newLevel), ("reason", .text reason)]

/-- Manually escalate a collection to the next level. -/
def escalateCollection (cfg : Config) (collectionId userId : ℕ) (reason : String) : Call Unit := do
  match ← query (Repo.getCollectionById collectionId) with
  | none => throw (.notFound "Collection" collectionId)
  | some collection =>
    if collection.status = .collected then
      throw (CollectionErrorCode.alreadyResolved.error "Cannot escalate a resolved collection")
    else
      let newLevel := min (collection.escalationLevel + 1) 3
      transaction
        (executeManualEscalationTxn cfg collectionId collection.invoiceId collection.escalationLevel
          newLevel userId reason)
        fun _ => .collectionEscalated collectionId newLevel
      log "COLLECTION_ESCALATED"

/-- At level 0 the status is `overdue` again. -/
def markOverdueAtZero (collectionId : ℕ) (newLevel : ℤ) : Tx Unit :=
  if newLevel = 0 then Repo.updateCollectionStatus collectionId .overdue else pure ()

/-- Transaction body for `deescalateCollection`. -/
def executeDeescalationTxn (cfg : Config) (collectionId : ℕ) (currentLevel newLevel : ℤ)
    (userId : ℕ) (reason : String) : Tx Unit := do
  Repo.setEscalationLevel collectionId newLevel
  markOverdueAtZero collectionId newLevel
  createAuditEntry cfg (some (.user userId)) "COLLECTION_DEESCALATED" collectionId
    [("escalationLevel", .int currentLevel)]
    [("escalationLevel", .int newLevel), ("reason", .text reason)]

/-- Manually de-escalate a collection by one level, whatever its status. -/
def deescalateCollection (cfg : Config) (collectionId userId : ℕ) (reason : String) :
    Call Unit := do
  match ← query (Repo.getCollectionById collectionId) with
  | none => throw (.notFound "Collection" collectionId)
  | some collection =>
    if collection.escalationLevel ≤ 0 then
      throw (CollectionErrorCode.cannotDeescalate.error
        "Collection is already at the lowest escalation level")
    else
      let newLevel := collection.escalationLevel - 1
      transaction
        (executeDeescalationTxn cfg collectionId collection.escalationLevel newLevel userId reason)
        fun _ => .collectionDeescalated collectionId newLevel
      log "COLLECTION_DEESCALATED"

/-- The text of a collection status as a value of `invoice_status`. -/
def asInvoiceStatus : CollectionStatus → Except RisError InvoiceStatus
  | .overdue => pure .overdue
  | .collected => pure .collected
  | .defaulted => pure .defaulted
  | status => throw (.runtime ("invalid input value for enum invoice_status: " ++ status.text))

/-- Transaction body for `resolveCollectionById`. Whether the update of the invoice matched a row is
not looked at. -/
def executeResolveTxn (cfg : Config) (collectionId invoiceId : ℕ) (prevStatus : CollectionStatus)
    (userId : ℕ) : Tx Unit := do
  Repo.resolveCollectionById collectionId
  -- an escalated collection has an overdue invoice; any other status is passed on as it is
  let expectedPrev ← asInvoiceStatus (if prevStatus = .escalated then .overdue else prevStatus)
  let _ ← Repo.updateInvoiceStatus invoiceId .collected expectedPrev
  createAuditEntry cfg (some (.user userId)) "COLLECTION_RESOLVED" collectionId
    [("status", .text prevStatus.text)] [("status", .text "collected")]

/-- Resolve a collection: mark it as collected. -/
def resolveCollectionById (cfg : Config) (collectionId userId : ℕ) : Call Unit := do
  match ← query (Repo.getCollectionById collectionId) with
  | none => throw (.notFound "Collection" collectionId)
  | some collection =>
    if collection.status = .collected then
      throw (CollectionErrorCode.alreadyResolved.error "Collection is already resolved")
    else
      transaction
        (executeResolveTxn cfg collectionId collection.invoiceId collection.status userId)
        fun _ => .collectionResolved collectionId collection.invoiceId collection.status
      log "COLLECTION_RESOLVED"

/-! ## Process reminders (cron job) -/

/-- T+1 marks the invoice as overdue, T−3 alerts the credit officer. -/
def handleReminderEscalation (cfg : Config) (inv : Invoice) (reminder : Repo.ReminderType) :
    Call Unit := do
  if reminder = .tPlus1 then
    try processOverdueInvoice cfg inv.id .system
    catch _ => log "T+1 overdue processing skipped"
  if reminder = .tMinus3 then
    queueNotification cfg "buyer-payment-escalation"
      [("invoiceId", .id inv.id), ("buyerId", .id inv.buyerId),
        ("type", .text "credit_officer_escalation"),
        ("message", .text "Buyer has not responded to payment reminder at T-3")]

/-- Process a single invoice reminder. -/
def processSingleReminder (cfg : Config) (inv : Invoice × Repo.ReminderType) : Call Unit := do
  try
    queueNotification cfg "invoice-reminder"
      [("invoiceId", .id inv.1.id), ("buyerId", .id inv.1.buyerId),
        ("reminderType", .text inv.2.text)]
    handleReminderEscalation cfg inv.1 inv.2
  catch _ => log "Reminder queue failed"

/-- A statement that asks for `CURRENT_DATE`. -/
def queryToday {α : Type} (f : ℤ → World → α) : Call α :=
  .transaction (do connect; let today ← currentDate; Txn.read (f today)) (fun _ => .read)
    fun _ => .threw

/-- Process the reminder schedule for all invoices at trigger points. -/
def processReminders (cfg : Config) : Call Unit := do
  try
    let invoices ← queryToday Repo.getInvoicesDueForReminder
    invoices.forM (processSingleReminder cfg)
  catch _ => log "Reminder processing failed"

/-! ## Automatic default workflow (cron job) -/

def defaultOverdueThreshold : ℤ := 90

/-- Transaction body for `defaultSingleCollection`. Whether the update of the invoice matched a row is
not looked at. -/
def executeDefaultTxn (cfg : Config) (collectionId invoiceId : ℕ) : Tx Unit := do
  Repo.updateCollectionStatus collectionId .badDebt
  let _ ← Repo.updateInvoiceStatus invoiceId .defaulted .overdue
  createAuditEntry cfg (some .system) "INVOICE_DEFAULTED" collectionId [("status", .text "overdue")]
    [("status", .text "defaulted"), ("threshold", .int defaultOverdueThreshold)]

def defaultSingleCollection (cfg : Config) (collectionId invoiceId : ℕ) : Call Unit := do
  transaction (executeDefaultTxn cfg collectionId invoiceId)
    fun _ => .collectionDefaulted collectionId invoiceId
  log "INVOICE_DEFAULTED"
  queueNotification cfg "invoice-defaulted"
    [("invoiceId", .id invoiceId), ("collectionId", .id collectionId),
      ("recipients", .texts ["finance_manager", "management"])]

/-- Default the collections at escalation level 3 with 90 or more days overdue. -/
def processDefaulted (cfg : Config) : Call Unit := do
  let collections ← query Repo.getDefaultableCollections
  collections.forM fun coll => do
    try defaultSingleCollection cfg coll.id coll.invoiceId
    catch _ => log "Auto-default failed"

/-! ## Batch processing (scheduled job) -/

/-- Mark the collecting invoices past their due date as overdue; an error is logged. -/
def processOverdueInvoices (cfg : Config) : Call Unit := do
  let invoices ← queryToday Repo.getFundedOverdueInvoices
  invoices.forM fun inv => do
    try processOverdueInvoice cfg inv.id .system
    catch _ => log "processOverdueInvoices item failed"
  log "Overdue batch complete"

/-- Escalate the candidates by the days overdue that their rows show; an error is logged. -/
def processEscalations (cfg : Config) : Call Unit := do
  let candidates ← query Repo.getEscalationCandidates
  candidates.forM fun cand => do
    try processEscalation cfg cand.invoiceId cand.daysOverdue
    catch _ => log "processEscalations item failed"
  log "Escalation batch complete"

/-- The handler of the `overdue-processing` queue. -/
def overdueProcessing (cfg : Config) : Call Unit := do
  processOverdueInvoices cfg
  processEscalations cfg

/-! ## The system -/

/-- The operations on collections. -/
inductive Op
  | startCollectionMonitoring (invoiceId paymentId : ℕ)
  | processOverdueInvoice (invoiceId : ℕ) (notifyUserId : Actor)
  | processEscalation (invoiceId : ℕ) (daysOverdue : ℤ)
  | recordPaymentReceived (input : RecordPaymentInput)
  | recordCollectionPayment (collectionId : ℕ) (input : FrontendRecordPaymentInput) (userId : ℕ)
  | escalateCollection (collectionId userId : ℕ) (reason : String)
  | deescalateCollection (collectionId userId : ℕ) (reason : String)
  | resolveCollectionById (collectionId userId : ℕ)
  | processReminders
  | processDefaulted
  | overdueProcessing

/-- The body of each operation. -/
def program (cfg : Config) : Op → Call Unit
  | .startCollectionMonitoring invoiceId paymentId =>
    startCollectionMonitoring cfg invoiceId paymentId
  | .processOverdueInvoice invoiceId notifyUserId => processOverdueInvoice cfg invoiceId notifyUserId
  | .processEscalation invoiceId daysOverdue => processEscalation cfg invoiceId daysOverdue
  | .recordPaymentReceived input => recordPaymentReceived cfg input
  | .recordCollectionPayment collectionId input userId =>
    recordCollectionPayment cfg collectionId input userId
  | .escalateCollection collectionId userId reason =>
    escalateCollection cfg collectionId userId reason
  | .deescalateCollection collectionId userId reason =>
    deescalateCollection cfg collectionId userId reason
  | .resolveCollectionById collectionId userId => resolveCollectionById cfg collectionId userId
  | .processReminders => processReminders cfg
  | .processDefaulted => processDefaulted cfg
  | .overdueProcessing => overdueProcessing cfg

end Ris.Collections
