import RisPlatform.Pricing.Repository

/-!
# `verification.service.ts`

The buyer's confirmation of an invoice: `resendConfirmation` makes a token, whose hash the invoice keeps,
and `confirmInvoice` takes it. The token and the EFRIS reference are checked before the transaction; the
`UPDATE` in it only asks that the invoice is not confirmed yet. `raiseDispute` takes a token as well and
leaves the invoice as it is.
-/

namespace Ris.Verification

open Relational Concurrent

inductive VerificationErrorCode
  | tokenExpired | tokenAlreadyUsed | invoiceNotSubmitted | confirmationIncomplete | efrisNotVerified
  deriving DecidableEq

def VerificationErrorCode.text : VerificationErrorCode → String
  | .tokenExpired => "TOKEN_EXPIRED"
  | .tokenAlreadyUsed => "TOKEN_ALREADY_USED"
  | .invoiceNotSubmitted => "INVOICE_NOT_SUBMITTED"
  | .confirmationIncomplete => "CONFIRMATION_INCOMPLETE"
  | .efrisNotVerified => "EFRIS_NOT_VERIFIED"

/-- `new BusinessRuleError(code, message)`. -/
def VerificationErrorCode.error (code : VerificationErrorCode) (message : String) : RisError :=
  .businessRule code.text message

/-! ## Statements -/

/-- Find an invoice by the hash of its token. -/
def findInvoiceByTokenHash (token : String) (w : World) : Option Invoice :=
  w.invoices.find? fun r => r.confirmationTokenHash = some token

def findInvoiceById (id : ℕ) (w : World) : Option Invoice := w.invoices.get? id

def findBuyerEncryptedContact (buyerId : ℕ) (w : World) : Option Buyer := w.buyers.get? buyerId

def setToken (token : String) (expiresAt : ℤ) (r : Invoice) : Invoice :=
  { r with confirmationTokenHash := some token, confirmationTokenExpiresAt := some expiresAt }

theorem id_setToken (token : String) (expiresAt : ℤ) (r : Invoice) :
    (setToken token expiresAt r).id = r.id := rfl

/-- Store the hash of a token and its expiry, over any older token. -/
def storeConfirmationTokenWithClient (invoiceId : ℕ) (token : String) (expiresAt : ℤ) : Tx Unit :=
  Txn.write fun w =>
    { w with
      invoices := w.invoices.update (fun r => r.id = invoiceId) (setToken token expiresAt)
        (id_setToken token expiresAt) }

def setConfirmed (now : ℤ) (r : Invoice) : Invoice :=
  { r with buyerConfirmedAt := some now, status := .buyerConfirmed, efrisVerifiedAt := some now }

theorem id_setConfirmed (now : ℤ) (r : Invoice) : (setConfirmed now r).id = r.id := rfl

/-- Confirm an invoice that is not confirmed, whatever its status; whether it was such an invoice. -/
def confirmInvoiceWithClient (invoiceId : ℕ) : Tx Bool := do
  let now ← now
  let w ← Txn.read fun w => w
  Txn.write fun w =>
    { w with
      invoices := w.invoices.update (fun r => r.id = invoiceId ∧ r.buyerConfirmedAt = none)
        (setConfirmed now) (id_setConfirmed now) }
  return ((w.invoices.get? invoiceId).filter fun r => r.buyerConfirmedAt = none).isSome

/-- An audit row of `invoices`. -/
def verificationAudit (userId : Option ℕ) (action : String) (invoiceId : ℕ)
    (oldValues newValues : List (String × Json)) (req : Request) : AuditLog where
  userId := userId
  action := action
  tableName := "invoices"
  recordId := .id invoiceId
  oldValues := oldValues
  newValues := newValues
  ipAddress := req.ipAddress
  userAgent := req.userAgent

/-! ## Token generation -/

/-- The mail goes out with the raw token. -/
def queueConfirmationEmail (cfg : Config) (invoiceId buyerId : ℕ) (rawToken : String) : Call Unit :=
  if QueueName.notification ∈ cfg.queues then do
    match ← query (findBuyerEncryptedContact buyerId) with
    | none => log "Buyer not found for confirmation email"
    | some _ =>
      enqueueWithContext
        { queue := .notification, name := "send-buyer-confirmation-email"
          data := [("invoiceId", .id invoiceId), ("buyerId", .id buyerId), ("token", .text rawToken)] }
  else log "Notification queue not configured — skipping confirmation email"

/-- A token is valid for 48 hours. -/
def tokenExpiry (now : ℤ) : ℤ := now + 48 * 3600000

/-- The transaction of `generateConfirmationToken`; the token, which is drawn at random. -/
def generateConfirmationTokenTxn (invoiceId buyerId : ℕ) (req : Request) : Tx String := do
  let i ← Txn.input
  storeConfirmationTokenWithClient invoiceId i.key (tokenExpiry i.now)
  createAuditEntry (verificationAudit none "CONFIRMATION_TOKEN_GENERATED" invoiceId []
    [("buyerId", .id buyerId), ("tokenExpiresAt", .int (tokenExpiry i.now))] req)
  return i.key

/-- Generate a confirmation token for an invoice and queue the mail to the buyer. -/
def generateConfirmationToken (cfg : Config) (invoiceId buyerId : ℕ) (req : Request) :
    Call String := do
  let rawToken ← transaction (generateConfirmationTokenTxn invoiceId buyerId req)
    fun _ => .confirmationTokenGenerated invoiceId
  queueConfirmationEmail cfg invoiceId buyerId rawToken
  log "CONFIRMATION_TOKEN_GENERATED"
  return rawToken

def validateInvoiceForResend (invoiceId : ℕ) : Option Invoice → Except RisError Invoice
  | none => throw (.notFound "Invoice" invoiceId)
  | some invoice =>
    if invoice.status ≠ .submitted then
      throw (VerificationErrorCode.invoiceNotSubmitted.error
        "Can only resend confirmation for submitted invoices")
    else if invoice.buyerConfirmedAt ≠ none then
      throw (VerificationErrorCode.tokenAlreadyUsed.error
        "Invoice has already been confirmed by the buyer")
    else pure invoice

/-- Resend the confirmation mail of a submitted invoice, with a new token. -/
def resendConfirmation (cfg : Config) (invoiceId userId : ℕ) (req : Request) : Call Unit := do
  let found ← query (findInvoiceById invoiceId)
  let invoice ← validateInvoiceForResend invoiceId found
  let _ ← generateConfirmationToken cfg invoiceId invoice.buyerId req
  auditAlone (verificationAudit (some userId) "CONFIRMATION_RESENT" invoiceId []
    [("resentBy", .id userId)] req)
  log "CONFIRMATION_RESENT"

/-! ## Confirmation -/

/-- The token must exist, not be used and not be expired. The error names the id `'provided'`. -/
def validateToken (now : ℤ) : Option Invoice → Except RisError Invoice
  | none => throw (.notFound "ConfirmationToken" 0)
  | some invoice =>
    if invoice.buyerConfirmedAt ≠ none then
      throw (VerificationErrorCode.tokenAlreadyUsed.error "This invoice has already been confirmed")
    else
      match invoice.confirmationTokenExpiresAt with
      | none =>
        throw (VerificationErrorCode.tokenExpired.error
          "Confirmation token has no expiry — please request a new link.")
      | some expiresAt =>
        if expiresAt < now then
          throw (VerificationErrorCode.tokenExpired.error
            "Confirmation link has expired. Please contact the credit officer.")
        else pure invoice

structure BuyerConfirmationRequest where
  invoiceIsValid : Bool := true
  amountIsCorrect : Bool := true
  dueDateIsCorrect : Bool := true
  agreesToPayRis : Bool := true

def validateConfirmationFields (confirmation : BuyerConfirmationRequest) : Except RisError Unit :=
  if confirmation.invoiceIsValid ∧ confirmation.amountIsCorrect ∧ confirmation.dueDateIsCorrect ∧
      confirmation.agreesToPayRis then pure ()
  else
    throw (VerificationErrorCode.confirmationIncomplete.error
      "All confirmation fields must be true")

/-- `verifyReference` of the mock provider, to which the other one falls back: why the reference is
rejected. -/
def mismatchReason (ref : String) : Option String :=
  if "EFRIS-BAD-".toList.isPrefixOf ref.toList then some "mock_bad_ref"
  else if "EFRIS-MISMATCH-".toList.isPrefixOf ref.toList then some "amount_mismatch"
  else none

/-- The invoice must have a reference. -/
def efrisReference (invoice : Invoice) : Except RisError String :=
  match invoice.uraEfrisRef with
  | none =>
    throw (VerificationErrorCode.efrisNotVerified.error "Invoice has no URA EFRIS reference")
  | some ref =>
    if ref = "" then
      throw (VerificationErrorCode.efrisNotVerified.error "Invoice has no URA EFRIS reference")
    else pure ref

def verifyEfris (invoice : Invoice) : Call Unit := do
  let ref ← efrisReference invoice
  match mismatchReason ref with
  | none => pure ()
  | some reason => do
    log "EFRIS verification rejected"
    throw (VerificationErrorCode.efrisNotVerified.error
      ("URA EFRIS verification failed: " ++ reason))

/-- The transaction of `runConfirmationTx`. -/
def runConfirmationTxn (invoiceId : ℕ) (req : Request) : Tx Unit := do
  let confirmed ← confirmInvoiceWithClient invoiceId
  if confirmed then
    createAuditEntry (verificationAudit none "BUYER_CONFIRMED" invoiceId
      [("status", .text "submitted")]
      [("status", .text "buyer_confirmed"), ("buyerIp", .ofOption .text req.ipAddress)] req)
  else
    Txn.abort (VerificationErrorCode.tokenAlreadyUsed.error
      "This invoice has already been confirmed")

/-- Queue the risk scoring after the confirmation. -/
def queueRiskScoring (cfg : Config) (invoiceId : ℕ) : Call Unit :=
  if QueueName.riskScoring ∈ cfg.queues then do
    enqueueWithContext
      { queue := .riskScoring, name := "score-invoice", data := [("invoiceId", .id invoiceId)] }
    log "RISK_SCORING_QUEUED"
  else log "Risk scoring queue not configured — skipping"

/-- The buyer confirms the invoice of a token; its id. -/
def confirmInvoice (cfg : Config) (rawToken : String) (confirmation : BuyerConfirmationRequest)
    (req : Request) : Call ℕ := do
  let (found, now) ← queryNow fun _ => findInvoiceByTokenHash rawToken
  let invoice ← validateToken now found
  validateConfirmationFields confirmation
  verifyEfris invoice
  transaction (runConfirmationTxn invoice.id req) fun _ => .buyerConfirmed invoice.id
  log "BUYER_CONFIRMED"
  queueRiskScoring cfg invoice.id
  return invoice.id

/-! ## The confirmation page -/

/-- What the page shows; the supplier's name and the bank details are left out. -/
structure ConfirmationPageData where
  invoiceNumber : String
  buyerName : String
  faceValue : ℤ
  dueDate : ℤ
  description : String

def findInvoiceForConfirmationPage (id : ℕ) (w : World) : Option ConfirmationPageData := do
  let invoice ← w.invoices.get? id
  let buyer ← w.buyers.get? invoice.buyerId
  return {
    invoiceNumber := invoice.invoiceNumber
    buyerName := buyer.companyName
    faceValue := invoice.faceValue
    dueDate := invoice.dueDate
    description := invoice.description }

/-- The details of the invoice of a valid token. -/
def getConfirmationPageData (rawToken : String) : Call ConfirmationPageData := do
  let (found, now) ← queryNow fun _ => findInvoiceByTokenHash rawToken
  let invoice ← validateToken now found
  match ← query (findInvoiceForConfirmationPage invoice.id) with
  | none => throw (.notFound "Invoice" invoice.id)
  | some page => return page

/-! ## Disputes -/

structure RaiseDisputeInput where
  reason : String
  disputeType : Option String := none

/-- `input.dispute_type ?? 'general'`. -/
def RaiseDisputeInput.type (input : RaiseDisputeInput) : String := input.disputeType.getD "general"

/-- The token must exist and its invoice await the confirmation; an expired token will do. -/
def validateTokenForDispute : Option Invoice → Except RisError Invoice
  | none => throw (.notFound "ConfirmationToken" 0)
  | some invoice =>
    if invoice.status ≠ .submitted then
      throw (VerificationErrorCode.invoiceNotSubmitted.error "Invoice is not in submitted status")
    else pure invoice

/-- `INSERT INTO invoice_disputes`; the id. -/
def createDisputeWithClient (invoiceId buyerId : ℕ) (reason disputeType : String) : Tx ℕ := do
  let i ← Txn.input
  let w ← Txn.read fun w => w
  let dispute : InvoiceDispute :=
    { id := i.uuid, invoiceId, buyerId, disputeReason := reason, disputeType }
  match w.invoiceDisputes.insert? dispute with
  | none => Txn.abort (.runtime "duplicate key value violates unique constraint invoice_disputes_pkey")
  | some disputes => do
    Txn.write fun w => { w with invoiceDisputes := disputes }
    return i.uuid

def disputeAudit (invoiceId disputeId : ℕ) (input : RaiseDisputeInput) (req : Request) : AuditLog where
  userId := none
  action := "INVOICE_DISPUTED"
  tableName := "invoice_disputes"
  recordId := .id disputeId
  oldValues := []
  newValues := [("invoiceId", .id invoiceId), ("disputeType", .text input.type)]
  ipAddress := req.ipAddress
  userAgent := req.userAgent

/-- The transaction of a dispute; its id. -/
def raiseDisputeTxn (invoice : Invoice) (input : RaiseDisputeInput) (req : Request) : Tx ℕ := do
  let disputeId ← createDisputeWithClient invoice.id invoice.buyerId input.reason input.type
  createAuditEntry (disputeAudit invoice.id disputeId input req)
  return disputeId

def queueDisputeNotification (cfg : Config) (invoiceId disputeId : ℕ) : Call Unit :=
  enqueueOrWarn cfg
    { queue := .notification, name := "invoice-dispute"
      data := [("invoiceId", .id invoiceId), ("disputeId", .id disputeId),
        ("recipients", .texts ["credit_officer"])] }
    "Notification queue not configured"

/-- The buyer disputes the invoice of a token, which stays `submitted`. -/
def raiseDispute (cfg : Config) (rawToken : String) (input : RaiseDisputeInput) (req : Request) :
    Call ℕ := do
  let found ← query (findInvoiceByTokenHash rawToken)
  let invoice ← validateTokenForDispute found
  let disputeId ← transaction (raiseDisputeTxn invoice input req)
    fun disputeId => .invoiceDisputed invoice.id disputeId
  log "INVOICE_DISPUTED"
  queueDisputeNotification cfg invoice.id disputeId
  return disputeId

/-! ## The system -/

/-- The operations on one invoice. -/
inductive Op
  | resendConfirmation (invoiceId userId : ℕ) (req : Request)
  | getConfirmationPageData (rawToken : String)
  | confirmInvoice (rawToken : String) (confirmation : BuyerConfirmationRequest) (req : Request)
  | raiseDispute (rawToken : String) (input : RaiseDisputeInput) (req : Request)

/-- The body of each operation. -/
def program (cfg : Config) : Op → Call Unit
  | .resendConfirmation invoiceId userId req => resendConfirmation cfg invoiceId userId req
  | .getConfirmationPageData rawToken => (getConfirmationPageData rawToken).discard
  | .confirmInvoice rawToken confirmation req => (confirmInvoice cfg rawToken confirmation req).discard
  | .raiseDispute rawToken input req => (raiseDispute cfg rawToken input req).discard

end Ris.Verification
