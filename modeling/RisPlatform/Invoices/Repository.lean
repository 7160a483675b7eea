import RisPlatform.Pricing.Repository

/-!
# `invoices.repository.ts`

The statements of the submission of invoices, with the constraints of `invoices`. The checks of the
history count the invoices of a supplier that are no drafts, by the time their rows were inserted.
-/

namespace Ris.Invoices

open Relational Concurrent

/-! ## Months -/

/-- A day of the Gregorian calendar. -/
structure CivilDate where
  year : ℤ
  month : ℤ
  day : ℤ
  deriving DecidableEq

/-- The day that is so many days after 1970-01-01. Years begin in March, so that a leap day ends one. -/
def CivilDate.ofDays (days : ℤ) : CivilDate :=
  let shifted := days + 719468
  let dayOfEra := shifted % 146097
  let yearOfEra := (dayOfEra - dayOfEra / 1460 + dayOfEra / 36524 - dayOfEra / 146096) / 365
  let dayOfYear := dayOfEra - (365 * yearOfEra + yearOfEra / 4 - yearOfEra / 100)
  let marchMonth := (5 * dayOfYear + 2) / 153
  let month := if marchMonth < 10 then marchMonth + 3 else marchMonth - 9
  { year := yearOfEra + 400 * (shifted / 146097) + if month ≤ 2 then 1 else 0
    month := month
    day := dayOfYear - (153 * marchMonth + 2) / 5 + 1 }

def CivilDate.toDays (date : CivilDate) : ℤ :=
  let year := if date.month ≤ 2 then date.year - 1 else date.year
  let yearOfEra := year % 400
  let marchMonth := if 2 < date.month then date.month - 3 else date.month + 9
  let dayOfYear := (153 * marchMonth + 2) / 5 + date.day - 1
  year / 400 * 146097 + yearOfEra * 365 + yearOfEra / 4 - yearOfEra / 100 + dayOfYear - 719468

/-- The first day of the month that is so many months later. -/
def CivilDate.monthLater (date : CivilDate) (months : ℤ) : CivilDate :=
  let count := date.year * 12 + (date.month - 1) + months
  { year := count / 12, month := count % 12 + 1, day := 1 }

/-- `now - INTERVAL 'n months'`: the same day of the month, or the last one if there is none. -/
def monthsBefore (months now : ℤ) : ℤ :=
  let date := CivilDate.ofDays (now / dayMs)
  let first := (date.monthLater (-months)).toDays
  let length := (date.monthLater (1 - months)).toDays - first
  (first + min date.day length - 1) * dayMs + now % dayMs

/-- `date_trunc('month', now)`. -/
def monthStart (now : ℤ) : ℤ :=
  ((CivilDate.ofDays (now / dayMs)).monthLater 0).toDays * dayMs

example : CivilDate.ofDays 19782 = ⟨2024, 2, 29⟩ ∧
    CivilDate.ofDays (monthsBefore 6 (19966 * dayMs) / dayMs) = ⟨2024, 2, 29⟩ := by decide

/-! ## Queries -/

def findInvoiceById (id : ℕ) (w : World) : Option Invoice := w.invoices.get? id

/-- The duplicate check. -/
def findInvoiceByNumberAndSupplier (invoiceNumber : String) (supplierId : ℕ) (w : World) :
    Option Invoice :=
  w.invoices.find? fun r => r.invoiceNumber = invoiceNumber ∧ r.supplierId = supplierId

def findInvoiceByIdForSupplier (id supplierId : ℕ) (w : World) : Option Invoice :=
  (w.invoices.get? id).filter fun r => r.supplierId = supplierId

def findBuyerWithLimits (buyerId : ℕ) (w : World) : Option Buyer := w.buyers.get? buyerId

/-- The supplier's invoices since then, drafts left out. -/
def submittedSince (supplierId : ℕ) (since : ℤ) (w : World) : List Invoice :=
  w.invoices.rows.filter fun r =>
    r.supplierId = supplierId ∧ since ≤ r.createdAt ∧ r.status ≠ .draft

/-- The total and the count of the last 30 days, for a supplier and a buyer. -/
def get30DayRollingTotal (supplierId buyerId : ℕ) (now : ℤ) (w : World) : ℤ × ℕ :=
  let invoices := (submittedSince supplierId (now - 30 * dayMs) w).filter fun r => r.buyerId = buyerId
  ((invoices.map Invoice.faceValue).sum, invoices.length)

/-- The count of the last six months; nobody uses the total. -/
def get6MonthVelocityAverage (supplierId : ℕ) (now : ℤ) (w : World) : ℕ :=
  (submittedSince supplierId (monthsBefore 6 now) w).length

def getCurrentMonthCount (supplierId : ℕ) (now : ℤ) (w : World) : ℕ :=
  (submittedSince supplierId (monthStart now) w).length

/-! ## Numbers -/

/-- `BigInt(value)` of a number. -/
def bigIntOfNumber (value : ℚ) : Except RisError ℤ :=
  if value.den = 1 then pure value.num
  else throw (.runtime ("The number " ++ Binary64.toText value ++
    " cannot be converted to a BigInt because it is not an integer"))

/-- The text of a positive number, as a value of a `BIGINT` column. -/
def bigintOfText (value : ℚ) : Except RisError ℤ :=
  let q := Binary64.shortest value
  if q.den = 1 then pure q.num
  else throw (.runtime
    ("invalid input syntax for type bigint: \"" ++ Binary64.toText value ++ "\""))

/-! ## Invoices -/

/-- Why the database does not take a new row. -/
def invoiceViolation (w : World) (row : Invoice) : Option String :=
  if row.faceValue ≤ 0 then
    some "new row violates check constraint chk_invoices_face_value_positive"
  else if ∃ days ∈ row.fundingTimelineDays, days ≤ 0 then
    some "new row violates check constraint invoices_funding_timeline_days_check"
  else if (findInvoiceByNumberAndSupplier row.invoiceNumber row.supplierId w).isSome then
    some "duplicate key value violates unique constraint uq_invoice_supplier"
  else if (w.buyers.get? row.buyerId).isNone then
    some "insert or update violates foreign key constraint invoices_buyer_id_fkey"
  else none

/-- `INSERT INTO invoices`. -/
def insertInvoice (row : Invoice) : Tx Unit := do
  let w ← Txn.read id
  match invoiceViolation w row with
  | some message => Txn.abort (.runtime message)
  | none =>
    match w.invoices.insert? row with
    | none => Txn.abort (.runtime "duplicate key value violates unique constraint invoices_pkey")
    | some invoices => Txn.write fun w => { w with invoices := invoices }

structure CreateInvoiceInput where
  id : ℕ
  invoiceNumber : String
  supplierId : ℕ
  buyerId : ℕ
  faceValue : ℤ
  dueDate : ℤ
  description : String
  tenorDays : ℤ
  uraEfrisRef : Option String := none
  fundingTimelineDays : Option ℤ := none

/-- The row of a draft, which has no SLA deadline yet; its due date is the date of the given time. -/
def CreateInvoiceInput.draftRow (data : CreateInvoiceInput) (now : ℤ) : Invoice where
  id := data.id
  supplierId := data.supplierId
  buyerId := data.buyerId
  faceValue := data.faceValue
  advanceAmount := none
  discountAmount := none
  netPaymentToSupplier := none
  status := .draft
  tenorDays := some data.tenorDays
  dueDate := data.dueDate / dayMs
  amlFlagged := false
  amlClearedAt := none
  pricingAcceptedAt := none
  pricingAcceptedBy := none
  pricingRejectedAt := none
  pricingRejectionReason := none
  pricingDisputedAt := none
  fundedAt := none
  invoiceNumber := data.invoiceNumber
  description := data.description
  createdAt := now

/-- The deadline of the buyer's confirmation. -/
def slaDeadline (now : ℤ) : ℤ := now + 72 * 3600000

/-- The row of a submitted invoice. -/
def CreateInvoiceInput.submittedRow (data : CreateInvoiceInput) (now : ℤ) : Invoice :=
  { data.draftRow now with
    status := .submitted
    slaDeadline := some (slaDeadline now)
    uraEfrisRef := data.uraEfrisRef
    fundingTimelineDays := data.fundingTimelineDays }

def createInvoiceWithClient (data : CreateInvoiceInput) : Tx Unit := do
  let now ← now
  insertInvoice (data.submittedRow now)

/-- Create a draft; the face value is the text of a number. -/
def createDraftInvoice (data : ℤ → CreateInvoiceInput) (faceValue : ℚ) : Tx Unit := do
  let faceValue ← bigintOfText faceValue
  let now ← now
  insertInvoice ((data faceValue).draftRow now)

def setAmlFlag (flagged : Bool) (r : Invoice) : Invoice := { r with amlFlagged := flagged }

theorem id_setAmlFlag (flagged : Bool) (r : Invoice) : (setAmlFlag flagged r).id = r.id := rfl

/-- Set the AML flag, whatever the invoice's status. -/
def setAmlFlagWithClient (id : ℕ) (flagged : Bool) : Tx Unit :=
  Txn.write fun w =>
    { w with
      invoices := w.invoices.update (fun r => r.id = id) (setAmlFlag flagged) (id_setAmlFlag flagged) }

/-! ## Drafts -/

/-- The editable fields of a draft, as far as they are given. -/
structure DraftUpdate where
  description : Option String
  /-- The number whose text is sent. -/
  faceValue : Option ℚ
  dueDate : Option ℤ
  tenorDays : Option ℤ

/-- No field is given. -/
def DraftUpdate.isEmpty (data : DraftUpdate) : Bool :=
  data.description.isNone ∧ data.faceValue.isNone ∧ data.dueDate.isNone ∧ data.tenorDays.isNone

/-- The values of the columns that the statement sets. -/
structure DraftFields where
  description : Option String
  faceValue : Option ℤ
  dueDate : Option ℤ
  tenorDays : Option ℤ

def DraftUpdate.fields (data : DraftUpdate) (faceValue : Option ℤ) : DraftFields where
  description := data.description
  faceValue := faceValue
  dueDate := data.dueDate.map fun time => time / dayMs
  tenorDays := data.tenorDays

def setDraftFields (fields : DraftFields) (r : Invoice) : Invoice :=
  { r with
    description := fields.description.getD r.description
    faceValue := fields.faceValue.getD r.faceValue
    dueDate := fields.dueDate.getD r.dueDate
    tenorDays := fields.tenorDays.or r.tenorDays }

theorem id_setDraftFields (fields : DraftFields) (r : Invoice) :
    (setDraftFields fields r).id = r.id := rfl

/-- The row is a draft of the supplier. -/
def IsDraftOf (id supplierId : ℕ) (r : Invoice) : Prop :=
  r.id = id ∧ r.supplierId = supplierId ∧ r.status = .draft

instance (id supplierId : ℕ) (r : Invoice) : Decidable (IsDraftOf id supplierId r) := by
  unfold IsDraftOf
  infer_instance

/-- Update the given fields of the supplier's own draft; the row, or `none` if it is not a draft any
more. Without any field the row is only read, whatever its status. -/
def updateDraftFields (id supplierId : ℕ) (data : DraftUpdate) : Tx (Option Invoice) := do
  let w ← Txn.read fun w => w
  if data.isEmpty then return findInvoiceById id w
  else
    let faceValue ← (data.faceValue.mapM bigintOfText : Except RisError (Option ℤ))
    let fields := data.fields faceValue
    match (w.invoices.get? id).filter fun r => IsDraftOf id supplierId r with
    | none => return none
    | some r =>
      if (setDraftFields fields r).faceValue ≤ 0 then
        Txn.abort (.runtime "new row violates check constraint chk_invoices_face_value_positive")
      else
        Txn.write fun w =>
          { w with
            invoices := w.invoices.update (fun r => IsDraftOf id supplierId r) (setDraftFields fields)
              (id_setDraftFields fields) }
        return some (setDraftFields fields r)

def setSubmitted (now : ℤ) (r : Invoice) : Invoice :=
  { r with status := .submitted, slaDeadline := some (slaDeadline now) }

theorem id_setSubmitted (now : ℤ) (r : Invoice) : (setSubmitted now r).id = r.id := rfl

/-- Promote a draft, if it is one. -/
def promoteToSubmitted (id : ℕ) : Tx Unit := do
  let now ← now
  Txn.write fun w =>
    { w with
      invoices := w.invoices.update (fun r => r.id = id ∧ r.status = .draft) (setSubmitted now)
        (id_setSubmitted now) }

def setWithdrawn (r : Invoice) : Invoice := { r with status := .withdrawn }

theorem id_setWithdrawn (r : Invoice) : (setWithdrawn r).id = r.id := rfl

/-- Withdraw an invoice, whatever its status, if the database knows the status. -/
def withdrawInvoiceWithClient (cfg : Config) (invoiceId : ℕ) (_reason : String) : Tx Unit :=
  if cfg.withdrawnRefused then
    Txn.abort (.runtime "invalid input value for enum invoice_status: \"withdrawn\"")
  else
    Txn.write fun w =>
      { w with
        invoices := w.invoices.update (fun r => r.id = invoiceId) setWithdrawn id_setWithdrawn }

end Ris.Invoices
