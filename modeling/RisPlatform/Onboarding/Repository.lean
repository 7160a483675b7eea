import RisPlatform.Db
import RisPlatform.Shared.Crypto

/-!
# `onboarding.repository.ts`: suppliers and their documents

The rows that the review of suppliers reads and writes, the acts of its calls, and its SQL.
-/

namespace Ris

open Relational Concurrent

def KycStatus.text : KycStatus → String
  | .pending => "pending"
  | .documentsSubmitted => "documents_submitted"
  | .underReview => "under_review"
  | .approved => "approved"
  | .rejected => "rejected"

namespace Onboarding

/-! ## Rows -/

/-- A row of `suppliers`. -/
structure SupplierRecord where
  id : ℕ
  userId : ℕ
  kycStatus : KycStatus := .pending
  kycReviewerId : Option ℕ := none
  kycApproverId : Option ℕ := none
  deriving DecidableEq

/-- `review_status`. -/
inductive DocumentReviewStatus
  | pending | approved | rejected
  deriving DecidableEq

def DocumentReviewStatus.text : DocumentReviewStatus → String
  | .pending => "pending"
  | .approved => "approved"
  | .rejected => "rejected"

/-- A row of `invoice_documents` that belongs to a supplier. -/
structure DocumentRecord where
  id : ℕ
  supplierId : ℕ
  documentType : String
  encryptedPath : Utf16.Text
  fileHash : String
  fileSizeBytes : ℕ
  mimeType : String
  uploadedBy : ℕ
  reviewStatus : DocumentReviewStatus := .pending
  reviewedByUserId : Option ℕ := none
  reviewedAt : Option ℤ := none
  reviewComments : Option String := none
  deriving DecidableEq

structure UploadedFile where
  buffer : List UInt8
  originalname : String
  mimetype : String
  size : ℕ
  deriving DecidableEq

/-- What the review of suppliers shares. -/
structure KycRows where
  suppliers : Table SupplierRecord.id
  /-- In the order of `created_at`. -/
  documents : Table DocumentRecord.id
  users : Table User.id
  /-- The files under `UPLOAD_DIR` by name, the last one written first. -/
  files : List (Utf16.Text × Utf16.Text) := []

/-- The acts of the calls. -/
inductive KycAct
  /-- The row of a supplier was read. -/
  | supplierRead (found : Option SupplierRecord)
  /-- The file of a document was written. -/
  | fileWritten (documentId : ℕ) (file : UploadedFile)
  | documentCreated (documentId supplierId : ℕ) (file : UploadedFile)
  | documentReviewed (documentId : ℕ) (decision : DocumentReviewStatus)
  /-- `updateKycStatus` of the service changed the status, which it had read as `previous`. -/
  | statusChanged (supplierId : ℕ) (previous status : KycStatus) (userId : ℕ)
  /-- The last required document was uploaded. -/
  | autoAdvanced (supplierId : ℕ)
  /-- The last required document was approved; the call had read the status as `previous`. -/
  | autoApproved (supplierId : ℕ) (previous : KycStatus) (reviewerId : ℕ)
  deriving DecidableEq

abbrev KycTx : Type → Type := Db.Tx KycRows

abbrev KycCall : Type → Type := Db.Call KycRows KycAct

namespace Repo

/-! ## Suppliers -/

def findSupplierById (id : ℕ) (r : KycRows) : Option SupplierRecord := r.suppliers.get? id

def findSupplierByUserId (userId : ℕ) (r : KycRows) : Option SupplierRecord :=
  r.suppliers.find? fun s => s.userId = userId

/-- `UPDATE suppliers SET … WHERE id = $2`, for an assignment to the columns of the review. -/
def updateSupplier (supplierId : ℕ) (f : SupplierRecord → SupplierRecord)
    (hf : ∀ s, (f s).id = s.id) : KycTx Unit :=
  Db.write fun r => { r with suppliers := r.suppliers.update (fun s => s.id = supplierId) f hf }

/-- The statement of `updateKycStatus` and of `updateKycStatusWithClient`. -/
def updateKycStatus (supplierId : ℕ) (status : KycStatus) : KycTx Unit :=
  updateSupplier supplierId (fun s => { s with kycStatus := status }) fun _ => rfl

def setKycReviewerWithClient (supplierId reviewerId : ℕ) : KycTx Unit :=
  updateSupplier supplierId (fun s => { s with kycReviewerId := some reviewerId }) fun _ => rfl

def setKycApproverWithClient (supplierId approverId : ℕ) : KycTx Unit :=
  updateSupplier supplierId (fun s => { s with kycApproverId := some approverId }) fun _ => rfl

def getKycReviewer (supplierId : ℕ) (r : KycRows) : Option ℕ :=
  (r.suppliers.get? supplierId).bind SupplierRecord.kycReviewerId

/-! ## Documents -/

def createDocument (data : DocumentRecord) : KycTx Unit := do
  match ← Db.read fun r => r.documents.insert? data with
  | none =>
    Txn.abort (.runtime "duplicate key value violates unique constraint \"invoice_documents_pkey\"")
  | some documents => Db.write fun r => { r with documents := documents }

def findDocumentByIdAndSupplier (documentId supplierId : ℕ) (r : KycRows) : Option DocumentRecord :=
  (r.documents.get? documentId).filter fun d => d.supplierId = supplierId

/-- The types a supplier has uploaded. -/
def getDocumentTypeCounts (supplierId : ℕ) (r : KycRows) : List String :=
  ((r.documents.rows.filter fun d => d.supplierId = supplierId).map DocumentRecord.documentType).dedup

/-- The types of which the supplier's last upload is approved. -/
def getApprovedDocumentTypes (supplierId : ℕ) (r : KycRows) : List String :=
  (getDocumentTypeCounts supplierId r).filter fun documentType =>
    (r.documents.rows.reverse.find? fun d =>
      d.supplierId = supplierId ∧ d.documentType = documentType).any
        fun d => d.reviewStatus = .approved

/-- What a review assigns. -/
def setReview (decision : DocumentReviewStatus) (reviewerId : ℕ) (now : ℤ) (comments : String)
    (d : DocumentRecord) : DocumentRecord :=
  { d with
    reviewStatus := decision
    reviewedByUserId := some reviewerId
    reviewedAt := some now
    reviewComments := some comments }

theorem id_setReview (decision : DocumentReviewStatus) (reviewerId : ℕ) (now : ℤ) (comments : String)
    (d : DocumentRecord) : (setReview decision reviewerId now comments d).id = d.id := rfl

/-- The updated row, or `none` if no row of the supplier has the id. -/
def updateDocumentReview (documentId supplierId : ℕ) (decision : DocumentReviewStatus)
    (reviewerId : ℕ) (comments : String) : KycTx (Option DocumentRecord) := do
  let now ← Db.now
  let found ← Db.read (findDocumentByIdAndSupplier documentId supplierId)
  Db.write fun r =>
    { r with
      documents := r.documents.update (fun d => d.id = documentId ∧ d.supplierId = supplierId)
        (setReview decision reviewerId now comments) (id_setReview decision reviewerId now comments) }
  return found.map (setReview decision reviewerId now comments)

/-- The addresses of the active users with one of the roles. -/
def findActiveUsersByRoles (roles : List String) (r : KycRows) : List String :=
  (r.users.rows.filter fun u => u.role ∈ roles ∧ u.isActive).map User.email

end Repo

end Onboarding

end Ris
