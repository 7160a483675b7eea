import RisPlatform.Onboarding.Service

/-!
# `documents.service.ts`, and the downloads of `onboarding.service.ts`

The file of an uploaded document is read back decrypted: by the staff, and by the supplier it belongs to.
The documents service hands out the same documents: there the column `encrypted_path` is decrypted to the
path of a file, and the file is streamed as it is.
-/

namespace Ris.Onboarding

open Relational Concurrent Utf16

/-! ## Paths -/

/-- `/` -/
def slash : UInt16 := 47

/-- `path.resolve`, for paths as the lists of their segments. -/
def resolvePath (base : List Text) (path : Text) : List Text :=
  (path.splitOn slash).foldl
    (fun dir segment =>
      if segment = [] ∨ segment = units "." then dir
      else if segment = units ".." then dir.dropLast
      else dir ++ [segment])
    (if path.head? = some slash then [] else base)

/-- `UPLOAD_DIR`, for the directory that the server runs in. -/
def uploadDir (cwd : List Text) : List Text := cwd ++ [units "uploads", units "documents"]

/-- The file at a path. There are no other files than those under `UPLOAD_DIR`. -/
def storedFile (cwd absolute : List Text) (r : KycRows) : Option Text :=
  if absolute.dropLast = uploadDir cwd then absolute.getLast?.bind fun name => r.files.lookup name else none

def resolveEncryptedFilePath (cwd : List Text) (encryptedPath : Text) : Except RisError (List Text) :=
  let absolute := resolvePath (uploadDir cwd) encryptedPath
  if ¬uploadDir cwd <+: absolute then throw (.runtime "Document path outside upload root")
  else pure absolute

/-! ## Downloads -/

structure SupplierFile where
  buffer : List UInt8
  mimeType : String
  fileName : Text

def readAndDecryptDocument (cwd : List Text) (env : Env) (documentId : ℕ) (encryptedPath : Text) :
    KycCall (List UInt8) := do
  let absolute ← monadLift (resolveEncryptedFilePath cwd encryptedPath)
  if absolute = uploadDir cwd then throw (.runtime "EISDIR: illegal operation on a directory, read")
  else do
    match ← Db.query (storedFile cwd absolute) with
    | none => throw (.notFound "Document" documentId)
    | some encryptedContent =>
      match Crypto.decrypt env.gcm env.encryptionKey encryptedContent with
      | .ok base64Plain => return Base64.decode base64Plain
      | .error _ => throw (.runtime "Failed to decrypt stored document")

def mimeToExtension (mime : String) : String :=
  if mime = "application/pdf" then ".pdf"
  else if mime = "image/jpeg" then ".jpg"
  else if mime = "image/png" then ".png"
  else ""

def buildDownloadFileName (record : DocumentRecord) : Text :=
  units record.documentType ++ units "_" ++ (uuidText record.id).take 8 ++
    units (mimeToExtension record.mimeType)

def ADMIN_ROLES_FOR_DOCUMENT_DOWNLOAD : List String :=
  ["credit_officer", "compliance_officer", "management", "auditor", "finance_manager", "legal"]

def authorizeDocumentDownload (supplier : SupplierRecord) (requestingUserId : ℕ)
    (requestingUserRole : String) : Except RisError Unit :=
  if requestingUserRole ∈ ADMIN_ROLES_FOR_DOCUMENT_DOWNLOAD then pure ()
  else if requestingUserRole = "supplier" ∧ supplier.userId = requestingUserId then pure ()
  else throw .forbidden

/-- The bytes of a document of the supplier, and what the answer says of them. -/
def getSupplierDocumentFile (cwd : List Text) (env : Env) (idParam docId requestingUserId : ℕ)
    (requestingUserRole : String) : KycCall SupplierFile := do
  match ← resolveSupplierForRequester idParam requestingUserId requestingUserRole with
  | none => throw (.notFound "Supplier" idParam)
  | some supplier => do
    authorizeDocumentDownload supplier requestingUserId requestingUserRole
    match ← Db.query (Repo.findDocumentByIdAndSupplier docId supplier.id) with
    | none => throw (.notFound "Document" docId)
    | some record => do
      let buffer ← readAndDecryptDocument cwd env docId record.encryptedPath
      Db.log "KYC document downloaded"
      return { buffer := buffer, mimeType := record.mimeType, fileName := buildDownloadFileName record }

end Ris.Onboarding

namespace Ris.Documents

open Relational Concurrent Utf16

/-! ## Rows -/

/-- The rows of the suppliers and their documents, and who has downloaded a document when: the rows of
`audit_logs` with the action `DOCUMENT_DOWNLOADED`. -/
structure DocumentRows where
  kyc : Onboarding.KycRows
  downloads : List (ℕ × ℤ) := []

inductive DocumentAct
  | downloaded (documentId userId : ℕ)
  deriving DecidableEq

abbrev DocumentCall : Type → Type := Db.Call DocumentRows DocumentAct

namespace Repo

def getDocumentById (documentId : ℕ) (r : DocumentRows) : Option Onboarding.DocumentRecord :=
  r.kyc.documents.get? documentId

/-- Staff have access to every document, and a supplier to its own. -/
def validateDocumentAccess (documentId userId : ℕ) (role : String) (r : DocumentRows) : Bool :=
  role ≠ "supplier" ∨
    (r.kyc.documents.get? documentId).any fun d =>
      (r.kyc.suppliers.get? d.supplierId).any fun s => s.userId = userId

/-- The downloads of the last hour. -/
def countRecentDownloads (userId : ℕ) (now : ℤ) (r : DocumentRows) : ℕ :=
  (r.downloads.filter fun x => x.1 = userId ∧ now - 3600000 ≤ x.2).length

def logDownload (userId documentId : ℕ) (req : Request) : Db.Tx DocumentRows Unit := do
  let now ← Db.now
  Db.createAuditEntry
    { userId := some userId
      action := "DOCUMENT_DOWNLOADED"
      tableName := "invoice_documents"
      recordId := .id documentId
      oldValues := []
      newValues := [("timestamp", .int now)]
      ipAddress := req.ipAddress
      userAgent := req.userAgent }
  Db.write fun r => { r with downloads := r.downloads ++ [(userId, now)] }

end Repo

/-! ## Downloads -/

/-- The supported types, with their extensions. -/
def ALLOWED_MIME_TYPES : List (String × String) :=
  [("application/pdf", ".pdf"),
    ("application/vnd.openxmlformats-officedocument.wordprocessingml.document", ".docx"),
    ("application/vnd.openxmlformats-officedocument.spreadsheetml.sheet", ".xlsx"),
    ("image/png", ".png"), ("image/jpeg", ".jpg")]

def MAX_DOWNLOADS_PER_HOUR : ℕ := 100

/-- The document and the path of its file. -/
def getDocumentForDownload (env : Onboarding.Env) (documentId userId : ℕ) (role : String)
    (req : Request) :
    DocumentCall (Onboarding.DocumentRecord × Text) := do
  match ← Db.query (Repo.getDocumentById documentId) with
  | none => throw (.notFound "Document" documentId)
  | some doc =>
    if ¬(← Db.query (Repo.validateDocumentAccess documentId userId role)) then
      throw (.forbidden "Access denied to this document")
    else if (ALLOWED_MIME_TYPES.lookup doc.mimeType).isNone then
      throw (.businessRule "UNSUPPORTED_DOCUMENT_TYPE"
        ("Document type '" ++ doc.mimeType ++ "' is not supported for download"))
    else do
      let downloadCount ← Db.queryAt (Repo.countRecentDownloads userId)
      if downloadCount ≥ MAX_DOWNLOADS_PER_HOUR then
        throw (.businessRule "RATE_LIMIT_EXCEEDED" "Download rate limit exceeded (100 per hour)")
      else do
        let filePath ← monadLift
          ((Crypto.decrypt env.gcm env.encryptionKey doc.encryptedPath).mapError Onboarding.cryptoError)
        Db.transaction (Repo.logDownload userId documentId req) fun _ => .downloaded documentId userId
        Db.log "Document download initiated"
        return (doc, filePath)

/-- The bytes of the file at a path, as they are stored. -/
def createFileStream (cwd : List Text) (filePath : Text) (r : DocumentRows) : Option (List UInt8) :=
  (Onboarding.storedFile cwd (Onboarding.resolvePath cwd filePath) r.kyc).map toUtf8

/-- `.` -/
def dot : UInt16 := 46

/-- `path.extname`: the last segment from its last dot on, unless only dots stand before. -/
def extname (path : Text) : Text :=
  let base := ((path.splitOn Onboarding.slash).filter fun segment => segment ≠ []).getLastD []
  let stem := (base.reverse.dropWhile (· ≠ dot)).drop 1
  if stem.all (· = dot) then [] else base.drop stem.length

structure Download where
  contentType : String
  fileName : Text
  contentLength : ℕ
  body : List UInt8

/-- `downloadHandler` of the controller: the answer, or none when the file is not there. -/
def downloadHandler (cwd : List Text) (env : Onboarding.Env) (documentId userId : ℕ) (role : String)
    (req : Request) : DocumentCall (Option Download) := do
  let (doc, filePath) ← getDocumentForDownload env documentId userId role req
  let stream ← Db.query (createFileStream cwd filePath)
  return stream.map fun body =>
    { contentType := doc.mimeType
      fileName := units doc.documentType ++
        (if extname filePath = [] then units ".bin" else extname filePath)
      contentLength := doc.fileSizeBytes
      body := body }

end Ris.Documents
