import RisPlatform.Collateral
import RisPlatform.Calls

/-!
# `collateral.service.ts`

A user pledges collateral for an invoice, rewrites it and deletes it. Nothing verifies it: no operation
writes the column `is_active`. The check of a deletion reads the invoice's status before the `UPDATE`.
-/

namespace Ris.Collateral

open Relational Concurrent

/-- What the routes take for `estimated_value`: `Joi.number().integer().positive()`. -/
abbrev EstimatedValue : Type := { n : ℤ // 0 < n }

structure CreateCollateralInput where
  invoiceId : ℕ
  type : CollateralType
  description : String
  estimatedValue : EstimatedValue
  currency : String := "UGX"
  documents : List ℕ := []
  expiryDate : Option ℤ := none

/-- Each field may be left out; the expiry date may also be null. -/
structure UpdateCollateralInput where
  type : Option CollateralType := none
  description : Option String := none
  estimatedValue : Option EstimatedValue := none
  currency : Option String := none
  documents : Option (List ℕ) := none
  expiryDate : Option (Option ℤ) := none

/-! ## Repository -/

/-- Without the soft-deleted. -/
def getCollateralById (id : ℕ) (w : World) : Option Collateral :=
  (w.collateral.get? id).filter fun c => c.deletedAt = none

def getInvoiceStatus (invoiceId : ℕ) (w : World) : Option Invoice := w.invoices.get? invoiceId

/-- The user is the supplier of the invoice. -/
def ownsInvoice (invoiceId userId : ℕ) (w : World) : Bool :=
  ∃ invoice ∈ w.invoices.get? invoiceId, ∃ supplier ∈ w.suppliers.get? invoice.supplierId,
    supplier.userId = userId

/-- Only a supplier needs to own the invoice. -/
def validateInvoiceAccess (invoiceId userId : ℕ) (role : String) : Call Bool :=
  if role ≠ "supplier" then return true
  else query (ownsInvoice invoiceId userId)

/-- The row of a new item; it is active. -/
def CreateCollateralInput.row (input : CreateCollateralInput) (id supplierId : ℕ) : Collateral where
  id := id
  invoiceId := some input.invoiceId
  value := input.estimatedValue
  isActive := true
  deletedAt := none
  supplierId := supplierId
  collateralType := input.type
  description := some input.description
  currency := input.currency
  expiryDate := input.expiryDate

def insertDocuments (collateralId : ℕ) (documents : List ℕ) : Tx Unit :=
  Txn.write fun w =>
    { w with
      collateralDocuments := w.collateralDocuments ++
        documents.map fun documentId => { collateralId, documentId } }

/-- The transaction of `createCollateral`; the new id. -/
def createCollateralTxn (supplierId : ℕ) (input : CreateCollateralInput) : Tx ℕ := do
  let i ← Txn.input
  let w ← Txn.read fun w => w
  match w.collateral.insert? (input.row i.uuid supplierId) with
  | none => Txn.abort (.runtime "duplicate key value violates unique constraint collateral_pkey")
  | some collateral =>
    Txn.write fun w => { w with collateral := collateral }
    insertDocuments i.uuid input.documents
    return i.uuid

/-- The columns that a call sets. -/
structure CollateralFields where
  collateralType : Option CollateralType
  description : Option String
  value : Option ℤ
  currency : Option String
  expiryDate : Option (Option ℤ)

/-- `Object.keys(fields).length > 0`. -/
def CollateralFields.any (fields : CollateralFields) : Bool :=
  fields.collateralType.isSome || fields.description.isSome || fields.value.isSome ||
    fields.currency.isSome || fields.expiryDate.isSome

def setFields (fields : CollateralFields) (c : Collateral) : Collateral :=
  { c with
    collateralType := fields.collateralType.getD c.collateralType
    description := fields.description <|> c.description
    value := fields.value.getD c.value
    currency := fields.currency.getD c.currency
    expiryDate := fields.expiryDate.getD c.expiryDate }

theorem id_setFields (fields : CollateralFields) (c : Collateral) : (setFields fields c).id = c.id := rfl

/-- The row is there and not deleted. -/
def IsLive (id : ℕ) (c : Collateral) : Prop := c.id = id ∧ c.deletedAt = none

instance (id : ℕ) (c : Collateral) : Decidable (IsLive id c) := by
  unfold IsLive
  infer_instance

/-- Set the columns; the row, or `none` if no row matched. -/
def updateCollateralFields (id : ℕ) (fields : CollateralFields) : Tx (Option Collateral) := do
  Txn.write fun w =>
    { w with
      collateral := w.collateral.update (fun c => IsLive id c) (setFields fields) (id_setFields fields) }
  Txn.read (getCollateralById id)

def replaceDocumentsTxn (collateralId : ℕ) (documents : List ℕ) : Tx Unit := do
  Txn.write fun w =>
    { w with collateralDocuments := w.collateralDocuments.filter fun d => d.collateralId ≠ collateralId }
  insertDocuments collateralId documents

def setDeleted (now : ℤ) (c : Collateral) : Collateral := { c with deletedAt := some now }

theorem id_setDeleted (now : ℤ) (c : Collateral) : (setDeleted now c).id = c.id := rfl

/-- Whether a row matched, nobody asks. -/
def softDelete (id : ℕ) : Tx Unit := do
  let now ← now
  Txn.write fun w =>
    { w with
      collateral := w.collateral.update (fun c => IsLive id c) (setDeleted now) (id_setDeleted now) }

/-! ## Audit rows -/

def collateralAudit (userId : ℕ) (action : String) (collateralId : ℕ)
    (oldValues newValues : List (String × Json)) (req : Request) : AuditLog where
  userId := some userId
  action := action
  tableName := "collateral"
  recordId := .id collateralId
  oldValues := oldValues
  newValues := newValues
  ipAddress := req.ipAddress
  userAgent := req.userAgent

/-- The new values of an update, column by column. -/
def CollateralFields.newValues (fields : CollateralFields) : List (String × Json) :=
  (fields.collateralType.map fun type => ("collateral_type", Json.text type.text)).toList ++
    (fields.description.map fun text => ("description", Json.text text)).toList ++
    (fields.value.map fun value => ("value", Json.text (toString value))).toList ++
    (fields.currency.map fun text => ("currency", Json.text text)).toList ++
    (fields.expiryDate.map fun date => ("expiry_date", Json.ofOption Json.int date)).toList

/-- What the row had in the columns that an update sets. -/
def CollateralFields.oldValues (fields : CollateralFields) (c : Collateral) : List (String × Json) :=
  (fields.collateralType.map fun _ => ("collateral_type", Json.text c.collateralType.text)).toList ++
    (fields.description.map fun _ => ("description", Json.ofOption Json.text c.description)).toList ++
    (fields.value.map fun _ => ("value", Json.text (toString c.value))).toList ++
    (fields.currency.map fun _ => ("currency", Json.text c.currency)).toList ++
    (fields.expiryDate.map fun _ => ("expiry_date", Json.ofOption Json.int c.expiryDate)).toList

/-- The audit row of a deletion, with the time of `new Date()`. -/
def auditDeletion (userId collateralId : ℕ) (existing : Collateral) (req : Request) : Call Unit :=
  .transaction
    (do
      connect
      let now ← now
      createAuditEntry
        (collateralAudit userId "COLLATERAL_DELETED" collateralId
          [("value", .text (toString existing.value)), ("type", .text existing.collateralType.text)]
          [("deleted_at", .int now)] req))
    (fun _ => .audited "COLLATERAL_DELETED") fun _ => .threw

/-! ## Service -/

def requireInvoice (invoiceId : ℕ) : Option Invoice → Except RisError Invoice
  | none => throw (.notFound "Invoice" invoiceId)
  | some invoice => pure invoice

def requireCollateral (collateralId : ℕ) : Option Collateral → Except RisError Collateral
  | none => throw (.notFound "Collateral" collateralId)
  | some collateral => pure collateral

def guardAccess (message : String) (hasAccess : Bool) : Except RisError Unit :=
  if hasAccess then pure () else throw (.forbidden message)

/-- The check of the access to the invoice that an item is pledged for, if there is one. -/
def guardCollateralAccess (userId : ℕ) (role : String) (existing : Collateral) : Call Unit := do
  match existing.invoiceId with
  | none => return
  | some invoiceId =>
    let hasAccess ← validateInvoiceAccess invoiceId userId role
    guardAccess "Access denied to this collateral" hasAccess

/-- Pledge collateral for an invoice; the id of the new item. -/
def createCollateral (userId : ℕ) (role : String) (input : CreateCollateralInput) (req : Request) :
    Call ℕ := do
  let found ← query (getInvoiceStatus input.invoiceId)
  let invoice ← requireInvoice input.invoiceId found
  let hasAccess ← validateInvoiceAccess input.invoiceId userId role
  guardAccess "Access denied to this invoice" hasAccess
  let id ← transaction (createCollateralTxn invoice.supplierId input) .collateralCreated
  auditAlone
    (collateralAudit userId "COLLATERAL_CREATED" id []
      [("type", .text input.type.text), ("value", .text (toString input.estimatedValue.1))] req)
  log "Collateral created"
  return id

def UpdateCollateralInput.fields (input : UpdateCollateralInput) : CollateralFields where
  collateralType := input.type
  description := input.description
  value := input.estimatedValue.map Subtype.val
  currency := input.currency
  expiryDate := input.expiryDate

/-- Set the columns, if there are any; the row has to be there still. -/
def persistFields (collateralId : ℕ) (fields : CollateralFields) (existing : Collateral) :
    Call Collateral := do
  if fields.any then
    let updated ←
      transaction (updateCollateralFields collateralId fields) fun _ => .collateralUpdated collateralId
    requireCollateral collateralId updated
  else return existing

/-- Replace the documents, if they are given. -/
def replaceDocuments (collateralId : ℕ) (documents : Option (List ℕ)) : Call Unit :=
  match documents with
  | none => return
  | some documents =>
    transaction (replaceDocumentsTxn collateralId documents)
      fun _ => .collateralDocumentsReplaced collateralId

/-- Rewrite an item; its invoice stays. The status of the invoice is not looked at. -/
def updateCollateral (userId : ℕ) (role : String) (collateralId : ℕ) (input : UpdateCollateralInput)
    (req : Request) : Call Collateral := do
  let found ← query (getCollateralById collateralId)
  let existing ← requireCollateral collateralId found
  guardCollateralAccess userId role existing
  let updated ← persistFields collateralId input.fields existing
  replaceDocuments collateralId input.documents
  auditAlone
    (collateralAudit userId "COLLATERAL_UPDATED" collateralId (input.fields.oldValues existing)
      input.fields.newValues req)
  log "Collateral updated"
  return updated

/-- An item of a funded invoice is not deleted. -/
def guardNotFunded : Option Invoice → Except RisError Unit
  | none => pure ()
  | some invoice =>
    if invoice.status = .funded then
      throw (.businessRule "COLLATERAL_DELETE_FUNDED" "Cannot delete collateral for a funded invoice")
    else pure ()

/-- The check of the status of the invoice that an item is pledged for, if there is one. -/
def guardDeletion (existing : Collateral) : Call Unit := do
  match existing.invoiceId with
  | none => return
  | some invoiceId =>
    let invoice ← query (getInvoiceStatus invoiceId)
    guardNotFunded invoice

/-- Soft delete an item. Not allowed if the invoice is `funded`. -/
def deleteCollateral (userId : ℕ) (role : String) (collateralId : ℕ) (req : Request) : Call Unit := do
  let found ← query (getCollateralById collateralId)
  let existing ← requireCollateral collateralId found
  guardCollateralAccess userId role existing
  guardDeletion existing
  transaction (softDelete collateralId) fun _ => .collateralDeleted collateralId
  auditDeletion userId collateralId existing req
  log "Collateral soft deleted"

/-! ## The system -/

/-- The operations that write. -/
inductive Op
  | createCollateral (userId : ℕ) (role : String) (input : CreateCollateralInput) (req : Request)
  | updateCollateral (userId : ℕ) (role : String) (collateralId : ℕ) (input : UpdateCollateralInput)
      (req : Request)
  | deleteCollateral (userId : ℕ) (role : String) (collateralId : ℕ) (req : Request)

/-- The body of an operation. -/
def program : Op → Call Unit
  | .createCollateral userId role input req => (createCollateral userId role input req).discard
  | .updateCollateral userId role collateralId input req =>
    (updateCollateral userId role collateralId input req).discard
  | .deleteCollateral userId role collateralId req => deleteCollateral userId role collateralId req

end Ris.Collateral
