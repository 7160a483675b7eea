import RisPlatform.Calls

/-!
# `payments.repository.ts`

The statements on `payments`, `invoices`, `system_settings` and `users` that the payments service
makes, with the constraints and triggers of those tables.
-/

namespace Ris.Payments

open Relational Concurrent

/-! ## Constraints and triggers of `payments` -/

/-- The first check that an `UPDATE` of a payment row violates: the triggers
`enforce_dual_auth_on_payment` and `prevent_funded_at_overwrite`, then the table constraint. -/
def violation (old new : Payment) : Option String :=
  if new.status = .funded ∧ new.dualAuthUser1 = none then
    some "Payment cannot be funded without first authorisation"
  else if new.status = .funded ∧ new.dualAuthUser2 = none then
    some "Payment cannot be funded without second authorisation"
  else if new.status = .funded ∧ new.dualAuthUser1 = new.dualAuthUser2 then
    some "Payment requires two different authorising users"
  else if old.fundedAt ≠ none ∧ new.fundedAt ≠ old.fundedAt then
    some "funded_at is immutable once set — cannot be overwritten"
  else if new.dualAuthUser1 ≠ none ∧ new.dualAuthUser1 = new.dualAuthUser2 then
    some "new row violates check constraint chk_payments_dual_auth_different"
  else none

/-- `UPDATE payments SET f WHERE p RETURNING *`. -/
def updatePayments (p : Payment → Bool) (f : Payment → Payment) (hf : ∀ r, (f r).id = r.id) :
    Tx (List Payment) := do
  let w ← Txn.read id
  let matched := w.payments.rows.filter p
  match matched.findSome? fun r => violation r (f r) with
  | some message => Txn.abort (.runtime message)
  | none =>
    Txn.write fun w => { w with payments := w.payments.update p f hf }
    return matched.map f

/-- An `UPDATE` that matches the rows with one id, `RETURNING *`. -/
def updatePayment (paymentId : ℕ) (p : Payment → Bool) (f : Payment → Payment)
    (hf : ∀ r, (f r).id = r.id) : Tx (Option Payment) := do
  let rows ← updatePayments (fun r => r.id = paymentId ∧ p r = true) f hf
  return rows.head?

/-! ## Create payment -/

/-- The parameters of the `INSERT`; the amount comes from a nullable column. -/
structure CreatePaymentInput where
  id : ℕ
  invoiceId : ℕ
  amount : Option ℤ
  provider : PaymentProvider
  idempotencyKey : String

/-- The row an `INSERT` with these parameters makes; the other columns have their defaults. -/
def CreatePaymentInput.row (data : CreatePaymentInput) (amount : ℤ) : Payment where
  id := data.id
  invoiceId := data.invoiceId
  amount := amount
  provider := data.provider
  status := .pendingFirstAuth
  idempotencyKey := data.idempotencyKey
  dualAuthUser1 := none
  dualAuthTimestamp1 := none
  dualAuthUser2 := none
  dualAuthTimestamp2 := none
  transactionReference := none
  providerReference := none
  fundedAt := none
  failureReason := none

/-- The first constraint that an `INSERT` of the row violates, its primary key apart. -/
def insertViolation (w : World) (row : Payment) : Option String :=
  if row.amount ≤ 0 then some "new row violates check constraint chk_payments_amount_positive"
  else if (w.payments.find? fun r => r.invoiceId = row.invoiceId).isSome then
    some "duplicate key value violates unique constraint payments_invoice_id_key"
  else if (w.payments.find? fun r => r.idempotencyKey = row.idempotencyKey).isSome then
    some "duplicate key value violates unique constraint idx_payments_idempotency_key"
  else none

/-- Insert a new payment record; the row. -/
def createPaymentWithClient (data : CreatePaymentInput) : Tx Payment := do
  let w ← Txn.read id
  match data.amount with
  | none => Txn.abort (.runtime "null value in column amount violates not-null constraint")
  | some amount =>
    match insertViolation w (data.row amount) with
    | some message => Txn.abort (.runtime message)
    | none =>
      match w.payments.insert? (data.row amount) with
      | none => Txn.abort (.runtime "duplicate key value violates unique constraint payments_pkey")
      | some payments =>
        Txn.write fun w => { w with payments := payments }
        return data.row amount

/-! ## Locking -/

/-- `SELECT … FOR UPDATE NOWAIT`. The caller handles 55P03, which is `none` here. -/
def getPaymentByIdForUpdate (paymentId : ℕ) : Tx (Option (Option Payment)) := do
  let i ← Txn.input
  let w ← Txn.read id
  return if i.lockNotAvailable then none else some (w.payments.get? paymentId)

/-! ## Dual authorisation -/

/-- The assignments of the first authorisation. -/
def setFirstAuth (userId : ℕ) (now : ℤ) (r : Payment) : Payment :=
  { r with
    dualAuthUser1 := some userId
    dualAuthTimestamp1 := some now
    status := .pendingSecondAuth }

theorem id_setFirstAuth (userId : ℕ) (now : ℤ) (r : Payment) :
    (setFirstAuth userId now r).id = r.id := rfl

/-- Record the first authorisation and advance to `pending_second_auth`. -/
def recordFirstAuthWithClient (paymentId userId : ℕ) : Tx (Option Payment) := do
  let now ← now
  updatePayment paymentId (fun r => r.status = .pendingFirstAuth) (setFirstAuth userId now)
    (id_setFirstAuth userId now)

/-- The assignments of the second authorisation. -/
def setSecondAuth (userId : ℕ) (now : ℤ) (r : Payment) : Payment :=
  { r with
    dualAuthUser2 := some userId
    dualAuthTimestamp2 := some now
    status := .executing }

theorem id_setSecondAuth (userId : ℕ) (now : ℤ) (r : Payment) :
    (setSecondAuth userId now r).id = r.id := rfl

/-- Record the second authorisation and advance to `executing`. -/
def recordSecondAuthWithClient (paymentId userId : ℕ) : Tx (Option Payment) := do
  let now ← now
  updatePayment paymentId (fun r => r.status = .pendingSecondAuth) (setSecondAuth userId now)
    (id_setSecondAuth userId now)

/-! ## Payment results -/

/-- The assignments of a successful transfer. -/
def setFunded (result : PaymentProviderResult) (now : ℤ) (r : Payment) : Payment :=
  { r with
    status := .funded
    transactionReference := some result.transactionReference
    providerReference := some result.providerReference
    fundedAt := some now }

theorem id_setFunded (result : PaymentProviderResult) (now : ℤ) (r : Payment) :
    (setFunded result now r).id = r.id := rfl

/-- The assignments of a failed transfer. -/
def setFailed (reason : String) (r : Payment) : Payment :=
  { r with status := .failed, failureReason := some reason }

theorem id_setFailed (reason : String) (r : Payment) : (setFailed reason r).id = r.id := rfl

/-- Update the payment after the provider has answered, whatever its status. -/
def updatePaymentResultWithClient (paymentId : ℕ) (result : PaymentProviderResult) : Tx Unit := do
  let now ← now
  if result.success then
    let _ ← updatePayment paymentId (fun _ => true) (setFunded result now) (id_setFunded result now)
  else
    let reason := result.failureReason.getD "Unknown error"
    let _ ← updatePayment paymentId (fun _ => true) (setFailed reason) (id_setFailed reason)

/-- The assignments of a transfer that awaits the bank's confirmation. -/
def setReferences (result : PaymentProviderResult) (r : Payment) : Payment :=
  { r with
    transactionReference := some result.transactionReference
    providerReference := some result.providerReference }

theorem id_setReferences (result : PaymentProviderResult) (r : Payment) :
    (setReferences result r).id = r.id := rfl

/-- Record the provider's references and keep the status. -/
def recordPendingConfirmationWithClient (paymentId : ℕ) (result : PaymentProviderResult) :
    Tx Unit := do
  let _ ← updatePayment paymentId (fun _ => true) (setReferences result) (id_setReferences result)

/-- Fail every payment that is `executing`; the ids of the rows. -/
def failExecutingPaymentsWithClient (reason : String) : Tx (List ℕ) := do
  let rows ← updatePayments (fun r => r.status = .executing)
    (setFailed reason) (id_setFailed reason)
  return rows.map Payment.id

/-! ## Queries -/

def getByIdempotencyKey (key : String) (w : World) : Option Payment :=
  w.payments.find? fun r => r.idempotencyKey = key

def getPaymentById (paymentId : ℕ) (w : World) : Option Payment := w.payments.get? paymentId

def getPaymentByInvoiceId (invoiceId : ℕ) (w : World) : Option Payment :=
  w.payments.find? fun r => r.invoiceId = invoiceId

/-- The invoice joined with the supplier's payment method. -/
def getInvoiceForPayment (invoiceId : ℕ) (w : World) : Option (Invoice × String) := do
  let invoice ← w.invoices.get? invoiceId
  let supplier ← w.suppliers.get? invoice.supplierId
  return (invoice, supplier.preferredPaymentMethod)

/-- `invoices` after `UPDATE … SET status = newStatus`: `set_funded_at_on_status_change` stamps a
row that becomes `funded`. -/
def setInvoiceStatus (newStatus : InvoiceStatus) (now : ℤ) (r : Invoice) : Invoice :=
  { r with
    status := newStatus
    fundedAt :=
      if newStatus = .funded ∧ r.status ≠ .funded ∧ r.fundedAt = none then some now else r.fundedAt }

theorem id_setInvoiceStatus (newStatus : InvoiceStatus) (now : ℤ) (r : Invoice) :
    (setInvoiceStatus newStatus now r).id = r.id := rfl

/-- Update the invoice's status if it is the expected one; its id if a row was updated. -/
def updateInvoiceStatusWithClient (invoiceId : ℕ) (newStatus expectedStatus : InvoiceStatus) :
    Tx (Option ℕ) := do
  let now ← now
  let w ← Txn.read id
  Txn.write fun w =>
    { w with
      invoices := w.invoices.update (fun r => r.id = invoiceId ∧ r.status = expectedStatus)
        (setInvoiceStatus newStatus now) (id_setInvoiceStatus newStatus now) }
  return (w.invoices.rows.filter fun r => r.id = invoiceId ∧ r.status = expectedStatus).head?.map
    Invoice.id

/-! ## System settings and users -/

def getSystemSetting (key : String) (w : World) : Option String :=
  (w.systemSettings.get? key).map SystemSetting.value

/-- Upsert a setting. -/
def setSystemSettingWithClient (key value : String) : Tx Unit :=
  Txn.write fun w =>
    { w with
      systemSettings :=
        match w.systemSettings.insert? { key, value } with
        | some settings => settings
        | none => w.systemSettings.update (fun r => r.key = key) (fun r => { r with value })
            fun _ => rfl }

def getLast2faVerifiedAt (userId : ℕ) (w : World) : Option ℤ := do
  let user ← w.users.get? userId
  user.last2faVerifiedAt

end Ris.Payments
