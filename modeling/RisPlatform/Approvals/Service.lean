import RisPlatform.Payments.Repository

/-!
# `approvals.service.ts`, with the statements of `approvals.repository.ts`

The approval and the rejection of a priced invoice in its four tiers, in the order of the source. The
guard on the invoice's status stands before the transaction; under the lock nothing is checked again,
and the status changes only if it is still `priced`.
-/

namespace Ris.Approvals

open Relational Concurrent

/-! ## Statements -/

def getInvoiceForApproval (invoiceId : ℕ) (w : World) : Option Invoice := w.invoices.get? invoiceId

def getRiskScoreForApproval (invoiceId : ℕ) (w : World) : Option RiskScore :=
  w.riskScores.find? fun r => r.invoiceId = invoiceId

/-- Lock the invoice row, or throw if another review holds it; the row. -/
def lockInvoiceForReview (invoiceId : ℕ) : Tx (Option Invoice) := do
  let i ← Txn.input
  if i.lockNotAvailable then
    Txn.abort (.runtime "could not obtain lock on row in relation \"invoices\"")
  else Txn.read fun w => w.invoices.get? invoiceId

/-- The approval records of an invoice, oldest first. -/
def getApprovalsByInvoiceId (invoiceId : ℕ) (w : World) : List Approval :=
  w.approvals.rows.filter fun r => r.invoiceId = invoiceId

/-- The first check that an `INSERT` into `approvals` violates. -/
def approvalViolation (cfg : Config) (row : Approval) : Option String :=
  if ∃ memo ∈ row.creditMemo, memo.length < 50 ∨ 5000 < memo.length then
    some "new row violates check constraint approvals_credit_memo_check"
  else if row.comments.length < 1 then
    some "new row violates check constraint chk_approvals_comments_length"
  else if cfg.tier4Refused ∧ row.tier = .tier4 then
    some "new row violates check constraint chk_approvals_tier"
  else none

/-- Insert an approval record. -/
def createApprovalWithClient (cfg : Config) (row : Approval) : Tx Unit := do
  let w ← Txn.read id
  match approvalViolation cfg row with
  | some message => Txn.abort (.runtime message)
  | none =>
    match w.approvals.insert? row with
    | none => Txn.abort (.runtime "duplicate key value violates unique constraint approvals_pkey")
    | some approvals => Txn.write fun w => { w with approvals := approvals }

/-- Update the invoice's status if it is the expected one. -/
def updateInvoiceStatus (invoiceId : ℕ) (newStatus expectedStatus : InvoiceStatus) : Tx Unit := do
  let _ ← Payments.updateInvoiceStatusWithClient invoiceId newStatus expectedStatus

/-! ## The rejection count of Tier 3 -/

def countRejection (r : Invoice) : Invoice :=
  { r with tier3RejectionCount := r.tier3RejectionCount + 1 }

theorem id_countRejection (r : Invoice) : (countRejection r).id = r.id := rfl

/-- Count one more rejection of the invoice; the count. -/
def incrementTier3RejectionCount (invoiceId : ℕ) : Tx ℤ := do
  Txn.write fun w =>
    { w with
      invoices := w.invoices.update (fun r => r.id = invoiceId) countRejection id_countRejection }
  Txn.read fun w => ((w.invoices.get? invoiceId).map Invoice.tier3RejectionCount).getD 1

def resetRejections (r : Invoice) : Invoice := { r with tier3RejectionCount := 0 }

theorem id_resetRejections (r : Invoice) : (resetRejections r).id = r.id := rfl

/-- Count the rejections of the invoice from 0. -/
def resetTier3RejectionCountWithClient (invoiceId : ℕ) : Tx Unit :=
  Txn.write fun w =>
    { w with
      invoices := w.invoices.update (fun r => r.id = invoiceId) resetRejections id_resetRejections }

/-! ## Errors and tiers -/

/-- Error codes specific to the approvals module. -/
inductive ApprovalErrorCode
  | invoiceWrongStatus | sameOfficer | invoiceLocked | quorumNotMet | reviewSummaryRequired
  | creditMemoRequired
  deriving DecidableEq

def ApprovalErrorCode.text : ApprovalErrorCode → String
  | .invoiceWrongStatus => "INVOICE_WRONG_STATUS"
  | .sameOfficer => "SAME_OFFICER"
  | .invoiceLocked => "INVOICE_LOCKED"
  | .quorumNotMet => "QUORUM_NOT_MET"
  | .reviewSummaryRequired => "REVIEW_SUMMARY_REQUIRED"
  | .creditMemoRequired => "CREDIT_MEMO_REQUIRED"

/-- `new BusinessRuleError(code, message)`. -/
def ApprovalErrorCode.error (code : ApprovalErrorCode) (message : String) : RisError :=
  .businessRule code.text message

/-- Determine the approval tier, the strictest first. -/
def determineTier (invoice : Invoice) (riskScore : RiskScore) : ApprovalTier :=
  let faceValue := invoice.faceValue
  let score := riskScore.finalScore
  if 200000000 < faceValue ∨ score < 30 then .tier4
  else if 50000000 < faceValue ∨ score < 50 then .tier3
  else if 10000000 ≤ faceValue ∨ 50 ≤ score ∧ score < 75 ∨ invoice.amlFlagged = true then .tier2
  else .auto

/-! ## Validation -/

/-- White space and line terminators, which `String.prototype.trim` strips. -/
def isSpace (c : Char) : Bool :=
  c.toNat ∈ [0x09, 0x0A, 0x0B, 0x0C, 0x0D, 0x20, 0xA0, 0x1680, 0x2028, 0x2029, 0x202F, 0x205F, 0x3000,
    0xFEFF] ∨ 0x2000 ≤ c.toNat ∧ c.toNat ≤ 0x200A

/-- `s.trim().length`, in UTF-16 code units. -/
def trimmedLength (s : String) : ℕ :=
  let trimmed := ((s.toList.dropWhile isSpace).reverse.dropWhile isSpace).reverse
  (trimmed.map fun c => if c.toNat < 0x10000 then 1 else 2).sum

def validateReviewSummary (tier : ApprovalTier) (reviewSummary : Option String) :
    Except RisError Unit :=
  if tier = .auto then pure ()
  else
    match reviewSummary with
    | none => pure ()
    | some summary =>
      if trimmedLength summary < 30 then
        throw (ApprovalErrorCode.reviewSummaryRequired.error
          "Review summary must be at least 30 characters when provided")
      else pure ()

/-- A credit memo is mandatory in the tiers 3 and 4. -/
def validateCreditMemo (tier : ApprovalTier) (creditMemo : Option String) : Except RisError Unit :=
  if (tier = .tier3 ∨ tier = .tier4) ∧ ∀ memo ∈ creditMemo, trimmedLength memo < 50 then
    throw (ApprovalErrorCode.creditMemoRequired.error
      "A credit memo (min 50 characters) is required for Tier 3 and Tier 4 decisions")
  else pure ()

def validateInvoice (invoiceId : ℕ) : Option Invoice → Except RisError Invoice
  | none => throw (.notFound "Invoice" invoiceId)
  | some invoice =>
    if invoice.status ≠ .priced then
      throw (ApprovalErrorCode.invoiceWrongStatus.error
        ("Invoice status is '" ++ invoice.status.text ++ "', expected 'priced'"))
    else pure invoice

def validateRiskScore (invoiceId : ℕ) : Option RiskScore → Except RisError RiskScore
  | none => throw (.notFound "RiskScore" invoiceId)
  | some score => pure score

def fetchAndValidate (invoiceId : ℕ) : Call (Invoice × RiskScore) := do
  let found ← query (getInvoiceForApproval invoiceId)
  let invoice ← validateInvoice invoiceId found
  let score ← query (getRiskScoreForApproval invoiceId)
  let riskScore ← validateRiskScore invoiceId score
  return (invoice, riskScore)

/-! ## The transaction of an approval -/

/-- Who decides, and what they submit. -/
structure Approver where
  userId : Actor
  role : String
  comments : Option String := none
  creditMemo : Option String := none
  reviewSummary : Option String := none

/-- What `approveInvoice` and `rejectInvoice` return. -/
structure ApprovalResult where
  approvalId : ℕ
  invoiceId : ℕ
  tier : ApprovalTier
  decision : ApprovalDecision := .approved
  comments : String
  quorumReached : Bool

def lockInvoice (invoiceId : ℕ) : Tx Unit := do
  match ← lockInvoiceForReview invoiceId with
  | some _ => pure ()
  | none =>
    Txn.abort (ApprovalErrorCode.invoiceLocked.error "Invoice could not be locked for review")

/-- `queuePayment`: the job is on the queue before the transaction commits. -/
def queuePayment (cfg : Config) (invoiceId : ℕ) : Tx Unit :=
  if QueueName.payments ∈ cfg.queues then
    enqueueTx { queue := .payments, name := "process-payment", data := [("invoiceId", .id invoiceId)] }
  else pure ()

def approveAndQueuePayment (cfg : Config) (invoiceId : ℕ) : Tx Unit := do
  updateInvoiceStatus invoiceId .approved .priced
  queuePayment cfg invoiceId

def countApprovals (existing : List Approval) : ℕ :=
  (existing.filter fun a => a.decision = .approved).length

/-- The officer has already decided. -/
def alreadyDecided (existing : List Approval) (userId : Actor) : Bool :=
  existing.any fun a => a.approverId = userId

/-- A management user may decide alone. -/
def validateTier3Officer (approver : Approver) (existing : List Approval) : Except RisError Unit :=
  if approver.role = "management" then pure ()
  else if alreadyDecided existing approver.userId then
    throw (ApprovalErrorCode.sameOfficer.error "Same officer cannot provide both Tier 3 decisions")
  else pure ()

def validateTier4Officer (approver : Approver) (existing : List Approval) : Except RisError Unit :=
  if alreadyDecided existing approver.userId then
    throw (ApprovalErrorCode.sameOfficer.error
      "Same officer cannot provide multiple Tier 4 approvals")
  else if approver.role ≠ "management" ∧ approver.role ≠ "credit_officer" then
    throw (ApprovalErrorCode.quorumNotMet.error
      "Tier 4 requires management or credit_officer role")
  else pure ()

def checkTier4Quorum (existing : List Approval) (currentRole : String) : Bool :=
  2 ≤ countApprovals existing + 1 ∧ currentRole = "management"

/-- Record the approval, and approve the invoice if the quorum is reached. -/
def recordApproval (cfg : Config) (invoice : Invoice) (tier : ApprovalTier) (approverId : Actor)
    (comments : String) (creditMemo reviewSummary : Option String) (quorumReached : Bool) :
    Tx ApprovalResult := do
  let i ← Txn.input
  let approvalId := i.uuid
  createApprovalWithClient cfg
    { id := approvalId
      invoiceId := invoice.id
      tier
      decision := .approved
      approverId
      comments
      creditMemo
      reviewSummary }
  if quorumReached then
    approveAndQueuePayment cfg invoice.id
  return { approvalId, invoiceId := invoice.id, tier, comments, quorumReached }

def processAutoApproval (cfg : Config) (invoice : Invoice) (riskScore : RiskScore) :
    Tx ApprovalResult :=
  let comments :=
    "Auto-approved: score " ++ toString riskScore.finalScore ++ ", value " ++
      toString invoice.faceValue
  recordApproval cfg invoice .auto .system comments none none true

def processTier2Approval (cfg : Config) (invoice : Invoice) (approver : Approver) :
    Tx ApprovalResult :=
  recordApproval cfg invoice .tier2 approver.userId (approver.comments.getD "") approver.creditMemo
    approver.reviewSummary true

def processTier3Approval (cfg : Config) (invoice : Invoice) (approver : Approver)
    (existing : List Approval) : Tx ApprovalResult := do
  validateTier3Officer approver existing
  let quorumReached := 2 ≤ countApprovals existing + 1
  recordApproval cfg invoice .tier3 approver.userId (approver.comments.getD "") approver.creditMemo
    approver.reviewSummary quorumReached

def processTier4Approval (cfg : Config) (invoice : Invoice) (approver : Approver)
    (existing : List Approval) : Tx ApprovalResult := do
  validateTier4Officer approver existing
  let quorumReached := checkTier4Quorum existing approver.role
  recordApproval cfg invoice .tier4 approver.userId (approver.comments.getD "") approver.creditMemo
    approver.reviewSummary quorumReached

def processApprovalByTier (cfg : Config) (invoice : Invoice) (riskScore : RiskScore)
    (tier : ApprovalTier) (approver : Approver) (existing : List Approval) : Tx ApprovalResult :=
  match tier with
  | .auto => processAutoApproval cfg invoice riskScore
  | .tier2 => processTier2Approval cfg invoice approver
  | .tier3 => processTier3Approval cfg invoice approver existing
  | .tier4 => processTier4Approval cfg invoice approver existing

/-- The audit row of an approval; its user is a `UUID`. -/
def auditApproval (userId : Actor) (invoice : Invoice) (tier : ApprovalTier) (approvalId : ℕ)
    (req : Request) : Tx Unit := do
  let user ← userId.uuid
  createAuditEntry
    { userId := some user
      action := "INVOICE_APPROVED"
      tableName := "approvals"
      recordId := .id invoice.id
      oldValues := [("status", .text invoice.status.text)]
      newValues :=
        [("decision", .text ApprovalDecision.approved.text), ("tier", .text tier.text),
          ("approvalId", .id approvalId), ("approverId", .id user)]
      ipAddress := req.ipAddress
      userAgent := req.userAgent }

/-- The transaction of `executeApproval`. -/
def executeApprovalTxn (cfg : Config) (invoice : Invoice) (riskScore : RiskScore)
    (tier : ApprovalTier) (approver : Approver) (req : Request) : Tx ApprovalResult := do
  lockInvoice invoice.id
  let existing ← Txn.read (getApprovalsByInvoiceId invoice.id)
  let result ← processApprovalByTier cfg invoice riskScore tier approver existing
  auditApproval approver.userId invoice tier result.approvalId req
  return result

/-- Process an approval decision. -/
def approveInvoice (cfg : Config) (invoiceId : ℕ) (approver : Approver) (req : Request) :
    Call ApprovalResult := do
  let (invoice, riskScore) ← fetchAndValidate invoiceId
  let tier := determineTier invoice riskScore
  validateReviewSummary tier approver.reviewSummary
  validateCreditMemo tier approver.creditMemo
  let result ← enqueuingTransaction
    (executeApprovalTxn cfg invoice riskScore tier approver req) fun result =>
      if result.quorumReached then .invoiceApproved invoice.id approver.userId approver.role
      else .approvalRecorded invoice.id approver.userId approver.role
  log "INVOICE_APPROVED"
  return result

/-! ## The transaction of a rejection -/

/-- `queueRejectionNotification`: the job is on the queue before the transaction commits. -/
def queueRejectionNotification (cfg : Config) (invoiceId : ℕ) : Tx Unit :=
  if QueueName.notification ∈ cfg.queues then
    enqueueTx
      { queue := .notification, name := "invoice-rejected", data := [("invoiceId", .id invoiceId)] }
  else pure ()

def rejectAndNotify (cfg : Config) (invoiceId : ℕ) : Tx Unit := do
  updateInvoiceStatus invoiceId .rejected .priced
  queueRejectionNotification cfg invoiceId

/-- The audit row of an automatic rejection. -/
def autoRejectionAudit (invoiceId user : ℕ) (rejCount : ℤ) (threshold : Option ℚ) (req : Request) :
    AuditLog where
  userId := some user
  action := "TIER3_AUTO_REJECTED"
  tableName := "invoices"
  recordId := .id invoiceId
  oldValues := [("tier3_rejection_count", .int rejCount), ("tier", .text ApprovalTier.tier3.text)]
  newValues :=
    [("status", .text "rejected"),
      ("reason", .text "Auto-rejected: exceeded maximum rejection threshold"),
      ("rejectionCount", .int rejCount), ("threshold", .ofOption .rat threshold)]
  ipAddress := req.ipAddress
  userAgent := req.userAgent

/-- Count a Tier 3 rejection, and reject the invoice once the threshold is reached. Its value is
whether it was; only the history uses it. -/
def handleTier3Rejection (cfg : Config) (invoiceId : ℕ) (userId : Actor) (req : Request) :
    Tx Bool := do
  let rejCount ← incrementTier3RejectionCount invoiceId
  let i ← Txn.input
  -- no comparison with `NaN` holds
  if ∃ threshold ∈ i.tier3AutoRejectThreshold, (rejCount : ℚ) < threshold then return false
  else
    rejectAndNotify cfg invoiceId
    let user ← userId.uuid
    createAuditEntry (autoRejectionAudit invoiceId user rejCount i.tier3AutoRejectThreshold req)
    return true

/-- The audit row of a rejection. -/
def rejectionAudit (user : ℕ) (invoice : Invoice) (tier : ApprovalTier) (approvalId : ℕ)
    (comments : String) (req : Request) : AuditLog where
  userId := some user
  action := "INVOICE_REJECTED"
  tableName := "approvals"
  recordId := .id invoice.id
  oldValues := [("status", .text invoice.status.text)]
  newValues :=
    [("decision", .text ApprovalDecision.rejected.text), ("tier", .text tier.text),
      ("approvalId", .id approvalId), ("approverId", .id user), ("comments", .text comments)]
  ipAddress := req.ipAddress
  userAgent := req.userAgent

/-- Audit a rejection; the user is a `UUID`. -/
def auditRejection (userId : Actor) (invoice : Invoice) (tier : ApprovalTier) (approvalId : ℕ)
    (comments : String) (req : Request) : Tx Unit := do
  let user ← userId.uuid
  createAuditEntry (rejectionAudit user invoice tier approvalId comments req)

/-- In Tier 3 a rejection is counted, elsewhere it rejects the invoice; whether it does. -/
def rejectByTier (cfg : Config) (invoiceId : ℕ) (tier : ApprovalTier) (userId : Actor)
    (req : Request) : Tx Bool :=
  if tier = .tier3 then handleTier3Rejection cfg invoiceId userId req
  else do
    rejectAndNotify cfg invoiceId
    return true

/-- The transaction of `executeRejection`, with whether it rejects the invoice. -/
def executeRejectionTxn (cfg : Config) (invoice : Invoice) (tier : ApprovalTier)
    (approver : Approver) (req : Request) : Tx (ApprovalResult × Bool) := do
  lockInvoice invoice.id
  let i ← Txn.input
  let approvalId := i.uuid
  let comments := approver.comments.getD ""
  createApprovalWithClient cfg
    { id := approvalId
      invoiceId := invoice.id
      tier
      decision := .rejected
      approverId := approver.userId
      comments
      creditMemo := approver.creditMemo
      reviewSummary := approver.reviewSummary }
  let rejects ← rejectByTier cfg invoice.id tier approver.userId req
  auditRejection approver.userId invoice tier approvalId comments req
  return ({ approvalId, invoiceId := invoice.id, tier, decision := .rejected, comments,
            quorumReached := false }, rejects)

/-- Process a rejection decision. -/
def rejectInvoice (cfg : Config) (invoiceId : ℕ) (approver : Approver) (req : Request) :
    Call ApprovalResult := do
  let (invoice, riskScore) ← fetchAndValidate invoiceId
  let tier := determineTier invoice riskScore
  validateReviewSummary tier approver.reviewSummary
  validateCreditMemo tier approver.creditMemo
  let (result, _) ← enqueuingTransaction (executeRejectionTxn cfg invoice tier approver req)
    fun result =>
      if result.2 then .invoiceRejected invoice.id approver.userId
      else .rejectionRecorded invoice.id approver.userId
  log "INVOICE_REJECTED"
  return result

/-! ## The committee -/

structure CommitteeStatus where
  invoiceId : ℕ
  tier : ApprovalTier
  approvals : List Approval
  rejections : List Approval
  quorumReached : Bool
  totalDecisions : ℕ

def buildCommitteeStatus (invoiceId : ℕ) (tier : ApprovalTier) (approvals : List Approval) :
    CommitteeStatus :=
  let approved := approvals.filter fun a => a.decision = .approved
  let rejected := approvals.filter fun a => a.decision = .rejected
  { invoiceId
    tier
    approvals := approved
    rejections := rejected
    quorumReached := 2 ≤ approved.length
    totalDecisions := approvals.length }

/-- An invoice must exist, in whatever status. -/
def requireInvoice (invoiceId : ℕ) : Option Invoice → Except RisError Invoice
  | none => throw (.notFound "Invoice" invoiceId)
  | some invoice => pure invoice

/-- The committee decision status of an invoice. -/
def getCommitteeStatus (invoiceId : ℕ) : Call CommitteeStatus := do
  let found ← query (getInvoiceForApproval invoiceId)
  let invoice ← requireInvoice invoiceId found
  let score ← query (getRiskScoreForApproval invoiceId)
  let riskScore ← validateRiskScore invoiceId score
  let tier := determineTier invoice riskScore
  let approvals ← query (getApprovalsByInvoiceId invoiceId)
  return buildCommitteeStatus invoiceId tier approvals

/-! ## Reset of the rejection count -/

/-- The transaction of `persistRejectionCountReset`. -/
def persistRejectionCountResetTxn (invoice : Invoice) (userId : Actor) (req : Request) :
    Tx Unit := do
  resetTier3RejectionCountWithClient invoice.id
  let user ← userId.uuid
  createAuditEntry
    { userId := some user
      action := "TIER3_REJECTION_COUNT_RESET"
      tableName := "invoices"
      recordId := .id invoice.id
      oldValues := [("status", .text invoice.status.text)]
      newValues := [("tier3_rejection_count", .int 0), ("resetBy", .id user)]
      ipAddress := req.ipAddress
      userAgent := req.userAgent }

/-- Reset the Tier 3 rejection count of an invoice. -/
def resetTier3RejectionCount (invoiceId : ℕ) (userId : Actor) (req : Request) : Call Unit := do
  let found ← query (getInvoiceForApproval invoiceId)
  let invoice ← requireInvoice invoiceId found
  transaction (persistRejectionCountResetTxn invoice userId req)
    fun _ => .rejectionCountReset invoice.id
  log "TIER3_REJECTION_COUNT_RESET"

end Ris.Approvals
