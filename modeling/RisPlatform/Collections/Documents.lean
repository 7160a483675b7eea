import RisPlatform.Collections.Service
import RisPlatform.Common.Binary64

/-!
# Escalation documents

The part of `collections.service.ts` and its repository that drafts, edits and sends the letters of an
escalation. Each operation reads the document before its transaction; the `UPDATE`s of the transactions
ask for a draft, and nobody asks them whether they matched one.
-/

namespace Ris.Collections.Documents

open Relational Concurrent

/-! ## Statements -/

structure CreateEscalationDocumentInput where
  id : ℕ
  collectionId : ℕ
  documentType : EscalationDocumentType
  content : DemandLetterData
  draftParams : EscalationDraftParams
  generatedBy : Actor

/-- The row an `INSERT` with these parameters makes; the other columns have their defaults. -/
def CreateEscalationDocumentInput.row (data : CreateEscalationDocumentInput) (generatedBy : ℕ) :
    EscalationDocument where
  id := data.id
  collectionId := data.collectionId
  documentType := data.documentType
  content := data.content
  draftParams := data.draftParams
  generatedBy := generatedBy

/-- `INSERT INTO escalation_documents`. No constraint says that a collection has one draft of a type. -/
def createEscalationDocumentWithClient (data : CreateEscalationDocumentInput) : Tx Unit := do
  let generatedBy ← data.generatedBy.uuid
  let w ← Txn.read id
  if (w.collections.get? data.collectionId).isNone then
    Txn.abort (.runtime
      "insert or update violates foreign key constraint escalation_documents_collection_id_fkey")
  else
    match w.escalationDocuments.insert? (data.row generatedBy) with
    | none =>
      Txn.abort (.runtime "duplicate key value violates unique constraint escalation_documents_pkey")
    | some escalationDocuments => Txn.write fun w => { w with escalationDocuments }

/-- `UPDATE escalation_documents SET f WHERE id = documentId AND status = 'draft'`. -/
def updateDraft (documentId : ℕ) (f : EscalationDocument → EscalationDocument)
    (hf : ∀ r, (f r).id = r.id) : Tx Unit :=
  Txn.write fun w =>
    { w with
      escalationDocuments :=
        w.escalationDocuments.update (fun r => r.id = documentId ∧ r.status = .draft) f hf }

def setContent (content : DemandLetterData) (draftParams : EscalationDraftParams)
    (r : EscalationDocument) : EscalationDocument :=
  { r with content, draftParams }

theorem id_setContent (content : DemandLetterData) (draftParams : EscalationDraftParams)
    (r : EscalationDocument) : (setContent content draftParams r).id = r.id := rfl

def updateDocumentContentWithClient (documentId : ℕ) (content : DemandLetterData)
    (draftParams : EscalationDraftParams) : Tx Unit :=
  updateDraft documentId (setContent content draftParams) (id_setContent content draftParams)

def setSent (finalizedBy : ℕ) (sentToEmail : String) (now : ℤ) (r : EscalationDocument) :
    EscalationDocument :=
  { r with
    status := .sent
    finalizedBy := some finalizedBy
    sentAt := some now
    sentToEmail := some sentToEmail }

theorem id_setSent (finalizedBy : ℕ) (sentToEmail : String) (now : ℤ) (r : EscalationDocument) :
    (setSent finalizedBy sentToEmail now r).id = r.id := rfl

def finalizeDocumentWithClient (documentId finalizedBy : ℕ) (sentToEmail : String) : Tx Unit := do
  let now ← now
  updateDraft documentId (setSent finalizedBy sentToEmail now) (id_setSent finalizedBy sentToEmail now)

def getEscalationDocumentById (documentId : ℕ) (w : World) : Option EscalationDocument :=
  w.escalationDocuments.get? documentId

/-- The document is of that collection and type. -/
def OfType (collectionId : ℕ) (documentType : EscalationDocumentType) (r : EscalationDocument) : Prop :=
  r.collectionId = collectionId ∧ r.documentType = documentType

instance (collectionId : ℕ) (documentType : EscalationDocumentType) (r : EscalationDocument) :
    Decidable (OfType collectionId documentType r) := by
  unfold OfType
  infer_instance

/-- The newest document of the collection and the type; rows stand in the order of their creation. -/
def getDocumentByType (collectionId : ℕ) (documentType : EscalationDocumentType) (w : World) :
    Option EscalationDocument :=
  (w.escalationDocuments.rows.filter (OfType collectionId documentType)).getLast?

/-- What a letter and its notification need of a collection. -/
structure CollectionDetailRow where
  invoiceNumber : String
  buyerId : ℕ
  faceValue : ℤ
  outstandingAmount : ℤ
  dueDate : ℤ

/-- The collection joined with its invoice, buyer and supplier. -/
def getCollectionDetailRow (collectionId : ℕ) (w : World) : Option CollectionDetailRow := do
  let collection ← w.collections.get? collectionId
  let invoice ← w.invoices.get? collection.invoiceId
  let _buyer ← w.buyers.get? collection.buyerId
  let _supplier ← w.suppliers.get? invoice.supplierId
  return {
    invoiceNumber := invoice.invoiceNumber
    buyerId := collection.buyerId
    faceValue := collection.faceValue
    outstandingAmount := collection.faceValue - collection.totalCollected
    dueDate := invoice.dueDate }

def getBuyerContact (buyerId : ℕ) (w : World) : Option Buyer := w.buyers.get? buyerId

/-! ## The letter -/

structure BuyerContactInfo where
  company : String
  email : String

/-- `transformBuyerContact`. -/
def transformBuyerContact : Option Buyer → BuyerContactInfo
  | some buyer => { company := buyer.companyName, email := buyer.contactEmail }
  | none => { company := "", email := "" }

/-- `parseInt` of the text of a `BIGINT`: the nearest double. -/
def parseInt (n : ℤ) : ℤ := (Binary64.round n).floor

structure CollectionDetailResponse where
  invoiceNumber : String
  buyerId : ℕ
  faceValue : ℤ
  outstandingAmount : ℤ
  dueDate : ℤ
  buyerContact : BuyerContactInfo

/-- The fields that letters are made of; the two histories are read beside them and not used here. -/
def getCollectionDetail (collectionId : ℕ) : Call CollectionDetailResponse := do
  match ← query (getCollectionDetailRow collectionId) with
  | none => throw (.notFound "Collection" collectionId)
  | some detail =>
    let buyer ← query (getBuyerContact detail.buyerId)
    return {
      invoiceNumber := detail.invoiceNumber
      buyerId := detail.buyerId
      faceValue := parseInt detail.faceValue
      outstandingAmount := parseInt detail.outstandingAmount
      dueDate := detail.dueDate
      buyerContact := transformBuyerContact buyer }

/-- The letter of the day; the draft's parameters are not in it. -/
def demandLetter (detail : CollectionDetailResponse) (today : ℤ) : DemandLetterData where
  buyer := detail.buyerContact.company
  letterDate := today
  reference := detail.invoiceNumber
  dueDate := detail.dueDate
  faceValue := detail.faceValue
  penaltyAccrued := 0
  totalOutstanding := detail.outstandingAmount

def renderDemandPdf (detail : CollectionDetailResponse) (_params : EscalationDraftParams) :
    Call DemandLetterData :=
  .transaction (do connect; let today ← currentDate; return demandLetter detail today)
    (fun _ => .read) fun _ => .threw

/-! ## Draft -/

/-- `createAuditEntry` of the repository, on `escalation_documents`. -/
def createAuditEntry (cfg : Config) (userId : Actor) (action : String) (documentId : ℕ)
    (oldValues newValues : List (String × Json)) : Tx Unit := do
  let user ← auditUserId cfg (some userId)
  Ris.createAuditEntry
    { userId := user, action, tableName := "escalation_documents", recordId := .id documentId
      oldValues, newValues }

/-- The transaction of `persistDraftDocument`; the id of the document. -/
def persistDraftDocumentTxn (cfg : Config) (collectionId : ℕ) (documentType : EscalationDocumentType)
    (content : DemandLetterData) (draftParams : EscalationDraftParams) (userId : Actor) : Tx ℕ := do
  let i ← Txn.input
  createEscalationDocumentWithClient
    { id := i.uuid, collectionId, documentType, content, draftParams, generatedBy := userId }
  createAuditEntry cfg userId "ESCALATION_DOCUMENT_GENERATED" i.uuid []
    [("documentType", .text documentType.text), ("status", .text "draft")]
  return i.uuid

/-- Persist a draft document inside a transaction with audit. -/
def persistDraftDocument (cfg : Config) (collectionId : ℕ) (documentType : EscalationDocumentType)
    (content : DemandLetterData) (draftParams : EscalationDraftParams) (userId : Actor) : Call ℕ := do
  let documentId ←
    transaction (persistDraftDocumentTxn cfg collectionId documentType content draftParams userId)
      fun documentId => .documentGenerated documentId collectionId documentType
  log "ESCALATION_DOCUMENT_GENERATED"
  return documentId

/-- The newest document must not be a draft. -/
def guardNoDraft : Option EscalationDocument → Except RisError Unit
  | some existing =>
    if existing.status = .draft then
      throw (CollectionErrorCode.draftAlreadyExists.error "Draft already exists")
    else pure ()
  | none => pure ()

/-- Generate a draft escalation document. -/
def generateDraftDocument (cfg : Config) (collectionId : ℕ) (documentType : EscalationDocumentType)
    (userId : Actor) : Call ℕ := do
  let existing ← query (getDocumentByType collectionId documentType)
  guardNoDraft existing
  let detail ← getCollectionDetail collectionId
  let draftParams : EscalationDraftParams := { deadlineDays := some 14, additionalNotes := some "" }
  let content ← renderDemandPdf detail draftParams
  persistDraftDocument cfg collectionId documentType content draftParams userId

/-- The document that is drafted at the level. -/
def levelDocument (level : ℤ) : Option EscalationDocumentType :=
  if level = 2 then some .demandLetter else if level = 3 then some .legalNotice else none

/-- Auto-generate a draft after an escalation; whatever is thrown is only logged. -/
def autoGenerateDraft (cfg : Config) (collectionId : ℕ) (level : ℤ) : Call Unit :=
  match levelDocument level with
  | none => pure ()
  | some documentType => do
    try
      let _ ← generateDraftDocument cfg collectionId documentType .system
      pure ()
    catch _ => log "Auto-draft generation failed"

/-- The draft of an escalation is never stored. -/
theorem persistDraftDocumentTxn_system (cfg : Config) (collectionId : ℕ)
    (documentType : EscalationDocumentType) (content : DemandLetterData)
    (draftParams : EscalationDraftParams) (i : Input) (w : World) :
    persistDraftDocumentTxn cfg collectionId documentType content draftParams .system i w =
      .error (.runtime "invalid input syntax for type uuid: \"SYSTEM\"") := rfl

/-! ## Edit -/

/-- The document must be a draft, or the error is thrown. -/
def guardDraft (document : EscalationDocument) (error : RisError) : Except RisError Unit :=
  if document.status ≠ .draft then throw error else pure ()

/-- The transaction of `persistDraftUpdate`. -/
def persistDraftUpdateTxn (cfg : Config) (documentId : ℕ) (content : DemandLetterData)
    (draftParams : EscalationDraftParams) (userId : ℕ) : Tx Unit := do
  updateDocumentContentWithClient documentId content draftParams
  createAuditEntry cfg (.user userId) "ESCALATION_DOCUMENT_UPDATED" documentId []
    [("status", .text "draft")]

/-- Update the draft's parameters and render it again. The handler passes both parameters, so that one
that is not given replaces the stored one. -/
def updateDraftParams (cfg : Config) (documentId : ℕ) (params : EscalationDraftParams) (userId : ℕ) :
    Call Unit := do
  match ← query (getEscalationDocumentById documentId) with
  | none => throw (.notFound "EscalationDocument" documentId)
  | some document =>
    guardDraft document
      (CollectionErrorCode.documentNotDraft.error "Only draft documents can be updated")
    let detail ← getCollectionDetail document.collectionId
    let content ← renderDemandPdf detail params
    transaction (persistDraftUpdateTxn cfg documentId content params userId)
      fun _ => .documentUpdated documentId

/-! ## Send -/

/-- The transaction of `persistFinalization`. -/
def persistFinalizationTxn (cfg : Config) (documentId userId : ℕ) (buyerEmail : String) : Tx Unit := do
  finalizeDocumentWithClient documentId userId buyerEmail
  createAuditEntry cfg (.user userId) "ESCALATION_DOCUMENT_SENT" documentId
    [("status", .text "draft")] [("status", .text "sent")]

def persistFinalization (cfg : Config) (documentId userId : ℕ) (buyerEmail : String) : Call Unit := do
  transaction (persistFinalizationTxn cfg documentId userId buyerEmail)
    fun _ => .documentSent documentId
  log "ESCALATION_DOCUMENT_SENT"

/-- The job that notifies the buyer; the letter is not in it. -/
def documentNotification (documentId collectionId buyerId : ℕ) : Job where
  queue := .notification
  name := "escalation-document-sent"
  data :=
    [("documentId", .id documentId), ("collectionId", .id collectionId), ("buyerId", .id buyerId),
      ("type", .text "buyer_document_notify")]

def queueDocumentNotification (cfg : Config) (documentId collectionId buyerId : ℕ) : Call Unit :=
  enqueueOrWarn cfg (documentNotification documentId collectionId buyerId)
    "Notification queue not configured"

/-- Finalize a draft and queue the notification of the buyer. -/
def finalizeAndSend (cfg : Config) (documentId userId : ℕ) : Call Unit := do
  match ← query (getEscalationDocumentById documentId) with
  | none => throw (.notFound "EscalationDocument" documentId)
  | some document =>
    guardDraft document (CollectionErrorCode.documentAlreadySent.error "Document already sent")
    let detail ← getCollectionDetail document.collectionId
    persistFinalization cfg documentId userId detail.buyerContact.email
    queueDocumentNotification cfg documentId document.collectionId detail.buyerId

/-! ## The system -/

/-- The operations on escalation documents. -/
inductive Op
  | generateDraftDocument (collectionId : ℕ) (documentType : EscalationDocumentType) (userId : Actor)
  | autoGenerateDraft (collectionId : ℕ) (level : ℤ)
  | updateDraftParams (documentId : ℕ) (params : EscalationDraftParams) (userId : ℕ)
  | finalizeAndSend (documentId userId : ℕ)

/-- The body of each operation. -/
def program (cfg : Config) : Op → Call Unit
  | .generateDraftDocument collectionId documentType userId =>
    (generateDraftDocument cfg collectionId documentType userId).discard
  | .autoGenerateDraft collectionId level => autoGenerateDraft cfg collectionId level
  | .updateDraftParams documentId params userId => updateDraftParams cfg documentId params userId
  | .finalizeAndSend documentId userId => finalizeAndSend cfg documentId userId

end Ris.Collections.Documents
