import RisPlatform.Calls

/-!
# `settlements.repository.ts`

The statements on `settlements` and `profit_bookings`, with the constraints of those tables. Every
`UPDATE` of a settlement is by its id alone, and that of the status is refused: it compares the parameter
that it assigns to the column with a text. The audit rows name `entity_type` and `entity_id`, which are
the `table_name` and the `record_id` of the other services.
-/

namespace Ris.Settlements

open Relational Concurrent

/-! ## Queries -/

def getSettlementById (id : ℕ) (w : World) : Option Settlement := w.settlements.get? id

def getSettlementByInvoiceId (invoiceId : ℕ) (w : World) : Option Settlement :=
  w.settlements.find? fun r => r.invoiceId = invoiceId

def getSettlementByIdempotencyKey (idempotencyKey : SettlementKey) (w : World) : Option Settlement :=
  w.settlements.find? fun r => r.idempotencyKey = idempotencyKey

/-- The newest drawdown of the invoice. -/
def findDrawdownForInvoice (invoiceId : ℕ) (w : World) : Option FacilityDrawdown :=
  (w.facilityDrawdowns.rows.filter fun d => d.invoiceId = invoiceId).getLast?

/-! ## Settlements -/

/-- The first check that an `INSERT` of the row violates. -/
def settlementCheck (row : Settlement) : Option String :=
  if row.buyerPaymentAmount ≤ 0 then
    some "new row violates check constraint settlements_buyer_payment_amount_check"
  else if row.facilityRepaymentAmount < 0 then
    some "new row violates check constraint settlements_facility_repayment_amount_check"
  else if row.accruedInterest < 0 then
    some "new row violates check constraint settlements_accrued_interest_check"
  else if row.penaltyIncome < 0 then
    some "new row violates check constraint settlements_penalty_income_check"
  else none

/-- The first other constraint that it violates, its primary key apart. -/
def settlementViolation (w : World) (row : Settlement) : Option String :=
  if (getSettlementByInvoiceId row.invoiceId w).isSome then
    some "duplicate key value violates unique constraint settlements_invoice_id_key"
  else if (w.invoices.get? row.invoiceId).isNone then
    some "insert or update violates foreign key constraint settlements_invoice_id_fkey"
  else if (w.collections.get? row.collectionId).isNone then
    some "insert or update violates foreign key constraint settlements_collection_id_fkey"
  else if ∃ id ∈ row.drawdownId, (w.facilityDrawdowns.get? id).isNone then
    some "insert or update violates foreign key constraint settlements_drawdown_id_fkey"
  else none

/-- `INSERT … ON CONFLICT (idempotency_key) DO NOTHING`; on a conflict the row that is there. -/
def createSettlementWithClient (row : Settlement) : Tx Settlement := do
  let w ← Txn.read id
  match settlementCheck row with
  | some message => Txn.abort (.runtime message)
  | none =>
    match getSettlementByIdempotencyKey row.idempotencyKey w with
    | some existing => return existing
    | none =>
      match settlementViolation w row with
      | some message => Txn.abort (.runtime message)
      | none =>
        match w.settlements.insert? row with
        | none => Txn.abort (.runtime "duplicate key value violates unique constraint settlements_pkey")
        | some settlements =>
          Txn.write fun w => { w with settlements := settlements }
          return row

def setStatus (status : SettlementStatus) (settledBy : Option ℕ) (now : ℤ) (r : Settlement) :
    Settlement :=
  { r with
    status := status
    settledBy := settledBy.or r.settledBy
    settledAt := if status = .closed then some now else r.settledAt }

theorem id_setStatus (status : SettlementStatus) (settledBy : Option ℕ) (now : ℤ) (r : Settlement) :
    (setStatus status settledBy now r).id = r.id := rfl

/-- What the `UPDATE` of the status asks of its parameters: `id = $3`, `COALESCE($2, settled_by)`,
`$1 = 'closed'`, and last the column that `$1` is assigned to. -/
def statusUses : List (ParamUse ColumnType) :=
  [⟨3, .uuid⟩, ⟨2, .uuid⟩, ⟨1, .other "TEXT"⟩, ⟨1, .other "settlement_status"⟩]

/-- Set the status, whatever it was; the row, if there is one. -/
def updateSettlementStatusWithClient (id : ℕ) (status : SettlementStatus) (settledBy : Option ℕ) :
    Tx (Option Settlement) := do
  prepare statusUses
  let now ← now
  Txn.write fun w =>
    { w with
      settlements := w.settlements.update (fun r => r.id = id) (setStatus status settledBy now)
        (id_setStatus status settledBy now) }
  Txn.read (getSettlementById id)

/-- `$1` is a text in one place and a status in the other. -/
theorem updateSettlementStatusWithClient_refused (id : ℕ) (status : SettlementStatus)
    (settledBy : Option ℕ) : Txn.Refused (updateSettlementStatusWithClient id status settledBy) := by
  have htext : (⟨1, .other "TEXT"⟩ : ParamUse ColumnType) ∈ statusUses := by decide
  have hcolumn : (⟨1, .other "settlement_status"⟩ : ParamUse ColumnType) ∈ statusUses := by decide
  obtain ⟨e, he⟩ : ∃ e, prepare statusUses = .error e :=
    Parameters.analyse_eq_error _ htext hcolumn rfl (by decide)
  exact Txn.refused_bind_left (Txn.refused_lift he)

def setNetProfit (netProfit : ℤ) (r : Settlement) : Settlement := { r with netProfit := netProfit }

theorem id_setNetProfit (netProfit : ℤ) (r : Settlement) : (setNetProfit netProfit r).id = r.id := rfl

def updateNetProfitWithClient (id : ℕ) (netProfit : ℤ) : Tx Unit :=
  Txn.write fun w =>
    { w with
      settlements := w.settlements.update (fun r => r.id = id) (setNetProfit netProfit)
        (id_setNetProfit netProfit) }

def setRepayment (facilityRepaymentAmount accruedInterest : ℤ) (r : Settlement) : Settlement :=
  { r with facilityRepaymentAmount := facilityRepaymentAmount, accruedInterest := accruedInterest }

theorem id_setRepayment (facilityRepaymentAmount accruedInterest : ℤ) (r : Settlement) :
    (setRepayment facilityRepaymentAmount accruedInterest r).id = r.id := rfl

/-- Set the amounts of the repayment; negative ones violate the checks. -/
def updateFacilityRepaymentWithClient (id : ℕ) (facilityRepaymentAmount accruedInterest : ℤ) :
    Tx Unit := do
  let found ← Txn.read (getSettlementById id)
  match found.bind fun r => settlementCheck (setRepayment facilityRepaymentAmount accruedInterest r) with
  | some message => Txn.abort (.runtime message)
  | none =>
    Txn.write fun w =>
      { w with
        settlements := w.settlements.update (fun r => r.id = id)
          (setRepayment facilityRepaymentAmount accruedInterest)
          (id_setRepayment facilityRepaymentAmount accruedInterest) }

/-! ## Profit bookings -/

/-- The first constraint that an `INSERT` of the row violates, its primary key apart. -/
def bookingViolation (w : World) (row : ProfitBooking) : Option String :=
  if row.discountEarned < 0 then
    some "new row violates check constraint profit_bookings_discount_earned_check"
  else if row.bankCostPaid < 0 then
    some "new row violates check constraint profit_bookings_bank_cost_paid_check"
  else if row.penaltyIncome < 0 then
    some "new row violates check constraint profit_bookings_penalty_income_check"
  else if (w.profitBookings.find? fun b => b.settlementId = row.settlementId).isSome then
    some "duplicate key value violates unique constraint profit_bookings_settlement_id_key"
  else if (w.settlements.get? row.settlementId).isNone then
    some "insert or update violates foreign key constraint profit_bookings_settlement_id_fkey"
  else none

def createProfitBookingWithClient (row : ProfitBooking) : Tx Unit := do
  let w ← Txn.read id
  match bookingViolation w row with
  | some message => Txn.abort (.runtime message)
  | none =>
    match w.profitBookings.insert? row with
    | none => Txn.abort (.runtime "duplicate key value violates unique constraint profit_bookings_pkey")
    | some bookings => Txn.write fun w => { w with profitBookings := bookings }

/-! ## Audit -/

/-- The value of `audit_logs.user_id`. -/
def auditUserId (cfg : Config) : Actor → Except RisError (Option ℕ)
  | .user id => pure (some id)
  | .system => if cfg.systemUserRefused then some <$> Actor.system.uuid else pure none

/-- `INSERT INTO audit_logs`, with the columns that the table may lack. -/
def createAuditEntryWithClient (cfg : Config) (user : Actor) (action : String) (settlementId : ℕ)
    (oldValues newValues : List (String × Json)) (req : Request) : Tx Unit :=
  if cfg.entityColumnsRefused then
    Txn.abort (.runtime "column \"entity_type\" of relation \"audit_logs\" does not exist")
  else do
    let userId ← auditUserId cfg user
    createAuditEntry
      { userId, action, tableName := "settlements", recordId := .id settlementId, oldValues, newValues
        ipAddress := req.ipAddress, userAgent := req.userAgent }

end Ris.Settlements
