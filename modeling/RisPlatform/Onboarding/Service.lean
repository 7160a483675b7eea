import RisPlatform.Common.Base64
import RisPlatform.Onboarding.Repository

/-!
# `onboarding.service.ts`: the review of suppliers

A supplier uploads documents, staff review them one by one, and an officer moves the supplier's
`kyc_status` on. Two of the moves are made without an officer: the upload of the last required document
and the approval of the last one change the status as well.
-/

namespace Ris.Onboarding

open Relational Concurrent Utf16

/-! ## Configuration -/

/-- What the service takes from its environment. -/
structure Env where
  gcm : Crypto.Gcm
  /-- `ENCRYPTION_KEY`. -/
  encryptionKey : Option Text
  /-- `crypto.randomBytes(IV_LENGTH)`: what is drawn with the other inputs of a statement, by the number of
  the draw. -/
  randomBytes : Input → ℕ → List UInt8
  sha256 : List UInt8 → String
  /-- `FRONTEND_URL`. -/
  frontendUrl : Option String := none

def ALLOWED_MIME_TYPES : List String := ["application/pdf", "image/jpeg", "image/png"]

/-- 10 MB. -/
def MAX_FILE_SIZE : ℕ := 10 * 1024 * 1024

/-- The required document slots, each with the names that fill it. -/
def REQUIRED_DOC_TYPE_GROUPS : List (List String) :=
  [["certificate_of_incorporation"], ["tax_registration"], ["id_document", "director_id"],
    ["supplier_agreement", "signed_supplier_agreement"]]

def coversRequired (types : List String) : Bool :=
  REQUIRED_DOC_TYPE_GROUPS.all fun group => group.any fun name => types.contains name

def KYC_REVIEWER_ROLES : List String := ["credit_officer", "compliance_officer"]

def KYC_DOC_REVIEWER_ROLES : List String := ["credit_officer", "compliance_officer", "management"]

structure DocumentReviewDecision where
  decision : DocumentReviewStatus
  comments : String

structure KycStatusUpdate where
  status : KycStatus
  comments : String

/-! ## Notifications -/

def queueOnboardingNotification {R ℓ : Type} (cfg : Config) (type : String)
    (payload : List (String × Json)) : Db.Call R ℓ Unit :=
  Db.enqueueOrWarn cfg { queue := .notification, name := type, data := payload }
    "Notification queue not configured"

def queueKycNotification (cfg : Config) (supplierId : ℕ) (newStatus : KycStatus) (comments : String) :
    KycCall Unit :=
  if newStatus ≠ .approved ∧ newStatus ≠ .rejected then pure ()
  else
    queueOnboardingNotification cfg (if newStatus = .approved then "kyc_approved" else "kyc_rejected")
      [("supplierId", .id supplierId), ("rejectionReason", .text comments)]

/-- The job for one reviewer, with the full payload of a notification. -/
def uploadNotification (env : Env) (documentType recipient : String) (id : ℕ) : Job where
  queue := .notification
  name := "new-kyc-document-uploaded"
  data :=
    [("id", .id id), ("channel", .text "email"), ("template", .text "new_document_uploaded"),
      ("recipient", .text recipient),
      ("data", .strings [("document_type", documentType),
        ("login_url", env.frontendUrl.getD "https://app.ris.ug" ++ "/kyc-review")])]

/-- `Promise.all` over the reviewers: every job is added, and then the first failure is thrown. -/
def addForAll (env : Env) (documentType : String) : List String → KycCall Unit
  | [] => pure ()
  | recipient :: recipients => do
    let failure ← tryCatch
      (do Db.enqueueNew (uploadNotification env documentType recipient); return none)
      fun e => pure (some e)
    addForAll env documentType recipients
    match failure with
    | some e => throw e
    | none => pure ()

def notifyReviewersOfDocumentUpload (cfg : Config) (env : Env) (documentType : String) : KycCall Unit :=
  if .notification ∉ cfg.queues then
    Db.log "Notification queue not configured — skipping reviewer fan-out"
  else
    tryCatch
      (do
        let reviewers ← Db.query (Repo.findActiveUsersByRoles KYC_REVIEWER_ROLES)
        if reviewers = [] then Db.log "No active reviewers for KYC upload notification"
        else do
          addForAll env documentType reviewers
          Db.log "KYC upload notification fanned out to reviewers")
      fun _ => Db.log "Failed to fan out KYC upload notification"

/-! ## Uploads -/

def validateFile (file : UploadedFile) : Except RisError Unit :=
  if file.mimetype ∉ ALLOWED_MIME_TYPES then
    throw (.validation "Invalid file type. Allowed: PDF, JPEG, PNG" "file"
      ("Unsupported MIME type: " ++ file.mimetype))
  else if file.size > MAX_FILE_SIZE then
    throw (.validation "File too large. Maximum size: 10MB" "file"
      ("File size " ++ toString file.size ++ " exceeds 10MB limit"))
  else pure ()

/-- The last `k` bytes of a number, the highest first. -/
def lastBytes : ℕ → ℕ → List UInt8
  | 0, _ => []
  | k + 1, n => lastBytes k (n / 256) ++ [.ofNat n]

/-- A UUID as a text. -/
def uuidText (id : ℕ) : Text :=
  let hex := toHex (lastBytes 16 id)
  (units "-").intercalate
    [hex.take 8, (hex.drop 8).take 4, (hex.drop 12).take 4, (hex.drop 16).take 4, hex.drop 20]

/-- The file of a document under `UPLOAD_DIR`. -/
def encryptedFileName (documentId : ℕ) : Text := uuidText documentId ++ units ".enc"

/-- The error that a failure of `shared/crypto.ts` is. -/
def cryptoError (e : Crypto.Failure) : RisError := .runtime e.message

/-- `encrypt` of `shared/crypto.ts`, at the `k`-th draw of a statement. -/
def encrypt (env : Env) (i : Input) (k : ℕ) (plaintext : Text) : Except RisError Text :=
  (Crypto.encrypt env.gcm env.encryptionKey (env.randomBytes i k) plaintext).mapError cryptoError

/-- Draw the id of the document, and write its file: the encrypted Base64 text. -/
def encryptAndStoreFile (env : Env) (file : UploadedFile) : KycTx ℕ := do
  let documentId ← Db.uuid
  let i ← Txn.input
  let encryptedContent ← monadLift (encrypt env i 0 (Base64.encode file.buffer))
  Db.write fun r => { r with files := (encryptedFileName documentId, encryptedContent) :: r.files }
  return documentId

def documentRow (env : Env) (documentId supplierId : ℕ) (file : UploadedFile) (documentType : String)
    (userId : ℕ) : DocumentRecord where
  id := documentId
  supplierId := supplierId
  documentType := documentType
  encryptedPath := encryptedFileName documentId
  fileHash := env.sha256 file.buffer
  fileSizeBytes := file.size
  mimeType := file.mimetype
  uploadedBy := userId

/-- An audit row of the service. -/
def auditRow (userId : ℕ) (action tableName : String) (recordId : ℕ)
    (oldValues newValues : List (String × Json)) (req : Request) : AuditLog where
  userId := some userId
  action := action
  tableName := tableName
  recordId := .id recordId
  oldValues := oldValues
  newValues := newValues
  ipAddress := req.ipAddress
  userAgent := req.userAgent

/-- Whether the supplier is still pending and every required slot has an upload. -/
def shouldAutoAdvance (supplierId : ℕ) : KycCall Bool := do
  let supplier ← Db.see (Repo.findSupplierById supplierId) .supplierRead
  if supplier.all fun s => s.kycStatus ≠ .pending then return false
  else do
    let existingTypes ← Db.query (Repo.getDocumentTypeCounts supplierId)
    return coversRequired existingTypes

def advanceToDocumentsSubmitted (supplierId userId : ℕ) (req : Request) : KycCall Unit := do
  Db.transaction (Repo.updateKycStatus supplierId .documentsSubmitted) fun _ => .autoAdvanced supplierId
  Db.audit (auditRow userId "KYC_AUTO_ADVANCED" "suppliers" supplierId
    [("previousStatus", .text KycStatus.pending.text)]
    [("newStatus", .text KycStatus.documentsSubmitted.text),
      ("reason", .text "All required documents uploaded")] req)
  Db.log "KYC_AUTO_ADVANCED"

def autoAdvanceKycStatus (supplierId userId : ℕ) (req : Request) : KycCall Unit := do
  if ← shouldAutoAdvance supplierId then advanceToDocumentsSubmitted supplierId userId req
  else pure ()

def auditDocumentUpload (env : Env) (documentId supplierId : ℕ) (documentType : String)
    (file : UploadedFile) (userId : ℕ) (req : Request) : KycCall Unit := do
  Db.audit (auditRow userId "DOCUMENT_UPLOADED" "invoice_documents" documentId []
    [("supplierId", .id supplierId), ("documentType", .text documentType),
      ("fileHash", .text (env.sha256 file.buffer))] req)
  autoAdvanceKycStatus supplierId userId req

/-- The supplier with the id, or that of the requesting supplier when the id is the user's. -/
def resolveSupplierForRequester (idParam requestingUserId : ℕ) (requestingUserRole : String) :
    KycCall (Option SupplierRecord) := do
  match ← Db.see (Repo.findSupplierById idParam) .supplierRead with
  | some supplier => return some supplier
  | none =>
    if requestingUserRole = "supplier" ∧ idParam = requestingUserId then
      Db.see (Repo.findSupplierByUserId requestingUserId) .supplierRead
    else return none

/-- Upload and encrypt a document; its id. -/
def uploadDocument (cfg : Config) (env : Env) (idParam userId : ℕ) (role : String) (file : UploadedFile)
    (documentType : String) (req : Request) : KycCall ℕ := do
  match ← resolveSupplierForRequester idParam userId role with
  | none => throw (.notFound "Supplier" idParam)
  | some supplier =>
    if role = "supplier" ∧ supplier.userId ≠ userId then throw .forbidden
    else do
      validateFile file
      let documentId ← Db.transaction (encryptAndStoreFile env file) fun documentId =>
        .fileWritten documentId file
      Db.transaction (Repo.createDocument (documentRow env documentId supplier.id file documentType userId))
        fun _ => .documentCreated documentId supplier.id file
      auditDocumentUpload env documentId supplier.id documentType file userId req
      notifyReviewersOfDocumentUpload cfg env documentType
      return documentId

/-! ## Reviews of documents -/

def notifySupplierOfDocumentRejection (cfg : Config) (supplierId : ℕ)
    (documentType reviewerComments : String) :
    KycCall Unit :=
  tryCatch
    (queueOnboardingNotification cfg "document_comment_added"
      [("supplierId", .id supplierId), ("documentType", .text documentType),
        ("reviewerComments", .text
          (if reviewerComments = "" then "Please re-upload a clearer document." else reviewerComments))])
    fun _ => Db.log "Failed to queue document-rejection notification"

/-- Approve the supplier when each required slot has an approved document, whatever of `pending`,
`documents_submitted` and `under_review` the status was. `supplier` is the row read before the review. -/
def maybeAutoApproveSupplierKyc (cfg : Config) (supplier : SupplierRecord) (reviewerId : ℕ)
    (req : Request) : KycCall Unit :=
  if supplier.kycStatus = .approved ∨ supplier.kycStatus = .rejected then pure ()
  else do
    let approvedTypes ← Db.query (Repo.getApprovedDocumentTypes supplier.id)
    if !coversRequired approvedTypes then pure ()
    else
      tryCatch
        (do
          Db.transaction (Repo.updateKycStatus supplier.id .approved)
            fun _ => .autoApproved supplier.id supplier.kycStatus reviewerId
          Db.audit (auditRow reviewerId "KYC_AUTO_APPROVED" "suppliers" supplier.id
            [("previousStatus", .text supplier.kycStatus.text)]
            [("newStatus", .text KycStatus.approved.text),
              ("reason", .text "All required documents approved"), ("approvedBy", .id reviewerId)] req)
          Db.log "KYC_AUTO_APPROVED"
          queueOnboardingNotification cfg "kyc_approved"
            [("supplierId", .id supplier.id), ("rejectionReason", .text "")])
        fun _ => Db.log "Auto-approve KYC failed"

def reviewSupplierDocument (cfg : Config) (supplierId documentId : ℕ) (decision : DocumentReviewDecision)
    (reviewerId : ℕ) (reviewerRole : String) (req : Request) : KycCall Unit :=
  if reviewerRole ∉ KYC_DOC_REVIEWER_ROLES then throw .forbidden
  else do
    match ← Db.see (Repo.findSupplierById supplierId) .supplierRead with
    | none => throw (.notFound "Supplier" supplierId)
    | some supplier =>
      match ← Db.query (Repo.findDocumentByIdAndSupplier documentId supplier.id) with
      | none => throw (.notFound "Document" documentId)
      | some existing =>
        if existing.uploadedBy = reviewerId then
          throw (.businessRule "KYC_DOC_SELF_REVIEW" "You cannot review a document you uploaded yourself.")
        else do
          let updated ← Db.transaction
            (Repo.updateDocumentReview documentId supplier.id decision.decision reviewerId
              decision.comments)
            fun _ => .documentReviewed documentId decision.decision
          if updated = none then throw (.notFound "Document" documentId)
          else do
            Db.audit (auditRow reviewerId "KYC_DOCUMENT_REVIEWED" "invoice_documents" documentId
              [("reviewStatus", .text existing.reviewStatus.text),
                ("documentType", .text existing.documentType)]
              [("reviewStatus", .text decision.decision.text), ("supplierId", .id supplier.id)] req)
            Db.log "KYC_DOCUMENT_REVIEWED"
            if decision.decision = .approved then
              maybeAutoApproveSupplierKyc cfg supplier reviewerId req
            else if decision.decision = .rejected then
              notifySupplierOfDocumentRejection cfg supplier.id existing.documentType decision.comments
            else pure ()

/-! ## The status -/

/-- The statuses that may follow. -/
def allowedTransitions : KycStatus → List KycStatus
  | .pending => [.documentsSubmitted]
  | .documentsSubmitted => [.underReview]
  | .underReview => [.approved, .rejected]
  | .approved | .rejected => []

def validateKycTransition (current next : KycStatus) : Except RisError Unit :=
  if next ∉ allowedTransitions current then
    throw (.businessRule "INVALID_KYC_TRANSITION"
      ("Cannot transition from '" ++ current.text ++ "' to '" ++ next.text ++ "'"))
  else pure ()

/-- The reviewer of the supplier may not approve it. -/
def enforceKycMakerChecker (supplierId approverId : ℕ) : KycCall Unit := do
  let reviewerId ← Db.query (Repo.getKycReviewer supplierId)
  if reviewerId = some approverId then
    throw (.businessRule "KYC_SAME_REVIEWER_APPROVER" "KYC reviewer and approver must be different users")
  else pure ()

def setKycRoleMarkers (supplierId : ℕ) (newStatus : KycStatus) (reviewerId : ℕ) : KycTx Unit := do
  (if newStatus = .underReview then Repo.setKycReviewerWithClient supplierId reviewerId else pure ())
  (if newStatus = .approved then Repo.setKycApproverWithClient supplierId reviewerId else pure ())

def executeKycStatusTx (supplierId : ℕ) (currentStatus newStatus : KycStatus) (update : KycStatusUpdate)
    (reviewerId : ℕ) (req : Request) : KycTx Unit := do
  setKycRoleMarkers supplierId newStatus reviewerId
  Db.createAuditEntry (auditRow reviewerId "KYC_STATUS_CHANGED" "suppliers" supplierId
    [("previousStatus", .text currentStatus.text)]
    [("newStatus", .text newStatus.text), ("comments", .text update.comments)] req)
  Repo.updateKycStatus supplierId newStatus

def updateKycStatus (cfg : Config) (supplierId : ℕ) (update : KycStatusUpdate) (reviewerId : ℕ)
    (req : Request) : KycCall Unit := do
  match ← Db.see (Repo.findSupplierById supplierId) .supplierRead with
  | none => throw (.notFound "Supplier" supplierId)
  | some supplier => do
    validateKycTransition supplier.kycStatus update.status
    (if update.status = .approved then enforceKycMakerChecker supplierId reviewerId else pure ())
    Db.transaction
      (executeKycStatusTx supplierId supplier.kycStatus update.status update reviewerId req)
      fun _ => .statusChanged supplierId supplier.kycStatus update.status reviewerId
    Db.log "KYC_STATUS_CHANGED"
    queueKycNotification cfg supplierId update.status update.comments

/-! ## The system -/

/-- The operations on suppliers under review. -/
inductive KycOp
  | uploadDocument (idParam userId : ℕ) (role : String) (file : UploadedFile) (documentType : String)
      (req : Request)
  | reviewSupplierDocument (supplierId documentId : ℕ) (decision : DocumentReviewDecision)
      (reviewerId : ℕ) (reviewerRole : String) (req : Request)
  | updateKycStatus (supplierId : ℕ) (update : KycStatusUpdate) (reviewerId : ℕ) (req : Request)

/-- The body of an operation. -/
def kycProgram (cfg : Config) (env : Env) : KycOp → KycCall Unit
  | .uploadDocument idParam userId role file documentType req =>
    (uploadDocument cfg env idParam userId role file documentType req).discard
  | .reviewSupplierDocument supplierId documentId decision reviewerId reviewerRole req =>
    reviewSupplierDocument cfg supplierId documentId decision reviewerId reviewerRole req
  | .updateKycStatus supplierId update reviewerId req =>
    updateKycStatus cfg supplierId update reviewerId req

end Ris.Onboarding
