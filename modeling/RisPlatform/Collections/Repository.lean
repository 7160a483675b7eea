import Mathlib.Data.List.Sort
import RisPlatform.Payments.Repository

/-!
# `collections.repository.ts`

The statements on `collections`, `collection_payments`, `invoices` and `buyers` that the collections
service makes, with the constraints of those tables. The updates of a collection match its id alone;
only the update of an invoice's status asks for the status it expects.
-/

namespace Ris.Collections.Repo

open Relational Concurrent

/-! ## Columns -/

/-- A value of a `BIGINT` column. -/
def bigint (n : ℤ) : Except RisError ℤ :=
  if n < -2 ^ 63 ∨ 2 ^ 63 ≤ n then throw (.runtime "value is out of range for type bigint")
  else pure n

/-- A rate that is not negative as a value of a `NUMERIC(6,4)` column. -/
def numeric4 (rate : ℚ) : ℚ := ((rate * 10000 + mkRat 1 2).floor : ℤ) / 10000

/-! ## Create a collections record -/

structure CreateCollectionInput where
  id : ℕ
  invoiceId : ℕ
  buyerId : ℕ
  faceValue : ℤ
  amountDue : ℤ
  daysOverdue : ℤ
  dailyPenaltyRate : ℚ
  penaltyAmount : ℤ

/-- The row an `INSERT` with these parameters makes; the other columns have their defaults. -/
def CreateCollectionInput.row (data : CreateCollectionInput) (status : CollectionStatus) (now : ℤ) :
    Collection where
  id := data.id
  invoiceId := data.invoiceId
  buyerId := data.buyerId
  faceValue := data.faceValue
  amountDue := data.amountDue
  status := status
  daysOverdue := data.daysOverdue
  dailyPenaltyRate := numeric4 data.dailyPenaltyRate
  penaltyAmount := data.penaltyAmount
  createdAt := now

/-- The first constraint that an `INSERT` of the row violates, its primary key apart. No constraint
says that an invoice has one collection. -/
def collectionViolation (w : World) (row : Collection) : Option String :=
  if 100 ≤ row.dailyPenaltyRate then some "numeric field overflow"
  else if (w.invoices.get? row.invoiceId).isNone then
    some "insert or update violates foreign key constraint collections_invoice_id_fkey"
  else if (w.buyers.get? row.buyerId).isNone then
    some "insert or update violates foreign key constraint collections_buyer_id_fkey"
  else none

/-- `INSERT INTO collections`. -/
def insertCollection (data : CreateCollectionInput) (status : CollectionStatus) : Tx Unit := do
  let now ← now
  let w ← Txn.read id
  let row := data.row status now
  match collectionViolation w row with
  | some message => Txn.abort (.runtime message)
  | none =>
    match w.collections.insert? row with
    | none => Txn.abort (.runtime "duplicate key value violates unique constraint collections_pkey")
    | some collections => Txn.write fun w => { w with collections := collections }

/-- Insert a collections record for an overdue invoice. -/
def createOverdueRecord (data : CreateCollectionInput) : Tx Unit := insertCollection data .overdue

/-- Insert a pending collection record for a freshly funded invoice. -/
def createPendingCollectionRecord (data : CreateCollectionInput) : Tx Unit :=
  insertCollection { data with daysOverdue := 0, penaltyAmount := 0 } .pending

/-! ## Update a collections record -/

/-- `UPDATE collections SET f WHERE id = collectionId`. -/
def updateCollection (collectionId : ℕ) (f : Collection → Collection) (hf : ∀ c, (f c).id = c.id) :
    Tx Unit :=
  Txn.write fun w =>
    { w with collections := w.collections.update (fun c => c.id = collectionId) f hf }

def setStatus (status : CollectionStatus) (c : Collection) : Collection := { c with status }

theorem id_setStatus (status : CollectionStatus) (c : Collection) : (setStatus status c).id = c.id :=
  rfl

/-- Update the status of a collection record, whatever it is. -/
def updateCollectionStatus (collectionId : ℕ) (status : CollectionStatus) : Tx Unit :=
  updateCollection collectionId (setStatus status) (id_setStatus status)

def setEscalation (level daysOverdue penaltyAmount now : ℤ) (c : Collection) : Collection :=
  { c with
    escalationLevel := level
    daysOverdue := daysOverdue
    penaltyAmount := penaltyAmount
    escalationDate := some now
    demandNoticeSent := if 2 ≤ level then true else c.demandNoticeSent }

theorem id_setEscalation (level daysOverdue penaltyAmount now : ℤ) (c : Collection) :
    (setEscalation level daysOverdue penaltyAmount now c).id = c.id := rfl

/-- Update the escalation level, the days overdue and the penalty. -/
def updateEscalationLevel (collectionId : ℕ) (level daysOverdue penaltyAmount : ℤ) : Tx Unit := do
  let now ← now
  updateCollection collectionId (setEscalation level daysOverdue penaltyAmount now)
    (id_setEscalation level daysOverdue penaltyAmount now)

def setCollected (totalCollected now : ℤ) (c : Collection) : Collection :=
  { c with
    status := .collected
    escalationLevel := 0
    totalCollected := totalCollected
    lastPaymentAt := some now }

theorem id_setCollected (totalCollected now : ℤ) (c : Collection) :
    (setCollected totalCollected now c).id = c.id := rfl

/-- Reset the escalation of a paid collection; the total is assigned. -/
def resolveCollection (collectionId : ℕ) (totalCollected : ℤ) : Tx Unit := do
  let now ← now
  updateCollection collectionId (setCollected totalCollected now) (id_setCollected totalCollected now)

def setSarFlagged (c : Collection) : Collection := { c with sarFlagged := true }

theorem id_setSarFlagged (c : Collection) : (setSarFlagged c).id = c.id := rfl

/-- Flag a collection record for SAR review. -/
def flagForSarReview (collectionId : ℕ) : Tx Unit :=
  updateCollection collectionId setSarFlagged id_setSarFlagged

def setLevel (level now : ℤ) (c : Collection) : Collection :=
  { c with
    escalationLevel := level
    escalationDate := some now
    status := if 0 < level then .escalated else c.status }

theorem id_setLevel (level now : ℤ) (c : Collection) : (setLevel level now c).id = c.id := rfl

/-- Set the escalation level; a positive one makes the status `escalated`. -/
def setEscalationLevel (collectionId : ℕ) (level : ℤ) : Tx Unit := do
  let now ← now
  updateCollection collectionId (setLevel level now) (id_setLevel level now)

def addCollected (paymentAmount now : ℤ) (c : Collection) : Collection :=
  { c with
    totalCollected := c.totalCollected + paymentAmount
    lastPaymentAt := some now }

theorem id_addCollected (paymentAmount now : ℤ) (c : Collection) :
    (addCollected paymentAmount now c).id = c.id := rfl

/-- Add a partial payment to the total. -/
def updateCollectionAfterPayment (collectionId : ℕ) (paymentAmount : ℤ) : Tx Unit := do
  let now ← now
  updateCollection collectionId (addCollected paymentAmount now) (id_addCollected paymentAmount now)

/-- Mark a collection as resolved; its level and its total stay. -/
def resolveCollectionById (collectionId : ℕ) : Tx Unit :=
  updateCollection collectionId (setStatus .collected) (id_setStatus .collected)

/-! ## Payments -/

/-- The first constraint that an `INSERT` of the row violates, its primary key apart. -/
def paymentViolation (w : World) (row : CollectionPayment) : Option String :=
  if row.amount ≤ 0 then some "new row violates check constraint collection_payments_amount_check"
  else if (w.collections.get? row.collectionId).isNone then
    some "insert or update violates foreign key constraint collection_payments_collection_id_fkey"
  else none

/-- Insert a payment record against a collection; `none` stands for the id `''`. -/
def recordPaymentReceived (collectionId : Option ℕ) (amount : ℤ)
    (paymentMethod : CollectionPaymentMethod) (paidBy : String) (paidAt : ℤ) (recordedBy : ℕ)
    (paymentReference notes : Option String) : Tx Unit := do
  let i ← Txn.input
  let w ← Txn.read id
  match collectionId with
  | none => Txn.abort (.runtime "invalid input syntax for type uuid: \"\"")
  | some collectionId =>
    let amount ← bigint amount
    let row : CollectionPayment :=
      { id := i.uuid, collectionId, amount, paymentMethod, paymentReference, paidBy, paidAt, recordedBy
        notes }
    match paymentViolation w row with
    | some message => Txn.abort (.runtime message)
    | none =>
      match w.collectionPayments.insert? row with
      | none =>
        Txn.abort (.runtime "duplicate key value violates unique constraint collection_payments_pkey")
      | some payments => Txn.write fun w => { w with collectionPayments := payments }

/-! ## Buyers -/

def subUsedLimit (amount : ℤ) (b : Buyer) : Buyer := { b with usedLimit := b.usedLimit - amount }

theorem id_subUsedLimit (amount : ℤ) (b : Buyer) : (subUsedLimit amount b).id = b.id := rfl

/-- Reduce a buyer's used credit limit; a negative one violates `chk_buyers_used_limit_non_negative`. -/
def reduceBuyerUsedLimit (buyerId : ℕ) (amount : ℤ) : Tx Unit := do
  let w ← Txn.read id
  if ∃ b ∈ w.buyers.get? buyerId, b.usedLimit - amount < 0 then
    Txn.abort (.runtime "new row violates check constraint chk_buyers_used_limit_non_negative")
  else
    Txn.write fun w =>
      { w with
        buyers := w.buyers.update (fun b => b.id = buyerId) (subUsedLimit amount)
          (id_subUsedLimit amount) }

/-- On time or early earns 5, late costs a point a day up to 20. -/
def scoreAdjustment (daysLate : ℤ) : ℤ := if daysLate ≤ 0 then 5 else -(min daysLate 20)

def adjustScore (adjustment : ℤ) (b : Buyer) : Buyer :=
  { b with paymentScore := max 0 (min 100 (b.paymentScore + adjustment)) }

theorem id_adjustScore (adjustment : ℤ) (b : Buyer) : (adjustScore adjustment b).id = b.id := rfl

/-- Adjust the buyer's payment score, clamped to 0–100. -/
def adjustBuyerPaymentScore (buyerId : ℕ) (daysLate : ℤ) : Tx Unit :=
  Txn.write fun w =>
    { w with
      buyers := w.buyers.update (fun b => b.id = buyerId) (adjustScore (scoreAdjustment daysLate))
        (id_adjustScore (scoreAdjustment daysLate)) }

/-! ## Invoices -/

def getInvoiceForCollection (invoiceId : ℕ) (w : World) : Option Invoice := w.invoices.get? invoiceId

/-- Update the invoice's status if it is the expected one; whether a row was updated. -/
def updateInvoiceStatus (invoiceId : ℕ) (newStatus expectedStatus : InvoiceStatus) : Tx Bool := do
  let updated ← Payments.updateInvoiceStatusWithClient invoiceId newStatus expectedStatus
  return updated.isSome

/-! ## Collections -/

/-- The latest collection of the invoice; the statement does not say which of two rows that were
created at the same time. -/
def getCollectionByInvoiceId (invoiceId choice : ℕ) (w : World) : Option Collection :=
  let rows := w.collections.rows.filter fun c =>
    c.invoiceId = invoiceId ∧
      ∀ c' ∈ w.collections.rows, c'.invoiceId = invoiceId → c'.createdAt ≤ c.createdAt
  rows[choice % rows.length]?

def getCollectionById (collectionId : ℕ) (w : World) : Option Collection :=
  w.collections.get? collectionId

/-! ## Batches -/

/-- The collections at escalation level 3 with 90 or more days overdue, the longest overdue first. -/
def getDefaultableCollections (w : World) : List Collection :=
  (w.collections.rows.filter fun c =>
    c.escalationLevel = 3 ∧ 90 ≤ c.daysOverdue ∧
      (c.status = .overdue ∨ c.status = .escalated)).insertionSort
    fun c c' => c'.daysOverdue ≤ c.daysOverdue

/-- The collecting invoices past their due date. -/
def getFundedOverdueInvoices (today : ℤ) (w : World) : List Invoice :=
  w.invoices.rows.filter fun r => r.status = .collecting ∧ r.dueDate < today

/-- The collections eligible for escalation. -/
def getEscalationCandidates (w : World) : List Collection :=
  w.collections.rows.filter fun c =>
    (c.status = .overdue ∨ c.status = .escalated) ∧ c.escalationLevel < 3

/-- The days from today to the due date at which a reminder goes out. -/
inductive ReminderType
  | tMinus7 | tMinus3 | tDue | tPlus1 | tPlus3 | tPlus7
  deriving DecidableEq

def ReminderType.text : ReminderType → String
  | .tMinus7 => "T_MINUS_7"
  | .tMinus3 => "T_MINUS_3"
  | .tDue => "T_DUE"
  | .tPlus1 => "T_PLUS_1"
  | .tPlus3 => "T_PLUS_3"
  | .tPlus7 => "T_PLUS_7"

/-- The trigger point that many days before the due date, if it is one. -/
def ReminderType.ofDaysUntilDue (days : ℤ) : Option ReminderType :=
  if days = 7 then some .tMinus7
  else if days = 3 then some .tMinus3
  else if days = 0 then some .tDue
  else if days = -1 then some .tPlus1
  else if days = -3 then some .tPlus3
  else if days = -7 then some .tPlus7
  else none

/-- The invoices at a trigger point, each with it, by due date. -/
def getInvoicesDueForReminder (today : ℤ) (w : World) : List (Invoice × ReminderType) :=
  let invoices := w.invoices.rows.filter fun r => r.status = .collecting ∨ r.status = .overdue
  (invoices.insertionSort fun r r' => r.dueDate ≤ r'.dueDate).filterMap fun r =>
    (ReminderType.ofDaysUntilDue (r.dueDate - today)).map fun reminder => (r, reminder)

end Ris.Collections.Repo
