import Mathlib.Data.List.Sort
import RisPlatform.Calls

/-!
# `facilities.repository.ts`

The statements on `bank_facilities`, `facility_drawdowns` and `facility_repayments`, with the
constraints of those tables.
-/

namespace Ris.Facilities

open Relational Concurrent

/-! ## Facility queries -/

/-- The active facilities, by bank name. -/
def getActiveFacilities (w : World) : List BankFacility :=
  (w.bankFacilities.rows.filter fun f => f.status = .active).insertionSort
    fun f g => f.bankName ≤ g.bankName

def getFacilityById (facilityId : ℕ) (w : World) : Option BankFacility :=
  w.bankFacilities.get? facilityId

/-- Lock the facility row; the row. -/
def getFacilityByIdWithClient (facilityId : ℕ) : Tx (Option BankFacility) :=
  Txn.read (getFacilityById facilityId)

/-! ## Drawdowns -/

structure CreateDrawdownInput where
  id : ℕ
  facilityId : ℕ
  invoiceId : ℕ
  principal : ℤ
  bankFees : ℤ

/-- The row an `INSERT` with these parameters makes. -/
def CreateDrawdownInput.row (data : CreateDrawdownInput) (today : ℤ) : FacilityDrawdown where
  id := data.id
  facilityId := data.facilityId
  invoiceId := data.invoiceId
  principal := data.principal
  accruedInterest := 0
  bankFees := data.bankFees
  status := .active
  drawdownDate := today
  lastAccruedDate := today

/-- The first constraint that an `INSERT` of the row violates, its primary key apart. The `INSERT`
names no `expected_repayment_date`. -/
def drawdownViolation (cfg : Config) (row : FacilityDrawdown) : Option String :=
  if cfg.expectedRepaymentDateRequired then
    some "null value in column expected_repayment_date violates not-null constraint"
  else if row.bankFees < 0 then
    some "new row violates check constraint chk_drawdowns_bank_fees"
  else if row.principal ≤ 0 then
    some "new row violates check constraint facility_drawdowns_principal_check"
  else none

/-- Insert a drawdown record. -/
def createDrawdownWithClient (cfg : Config) (data : CreateDrawdownInput) : Tx Unit := do
  let today ← currentDate
  let w ← Txn.read id
  match drawdownViolation cfg (data.row today) with
  | some message => Txn.abort (.runtime message)
  | none =>
    match w.facilityDrawdowns.insert? (data.row today) with
    | none =>
      Txn.abort (.runtime "duplicate key value violates unique constraint facility_drawdowns_pkey")
    | some drawdowns => Txn.write fun w => { w with facilityDrawdowns := drawdowns }

/-- Lock the drawdown row; the row. -/
def getDrawdownByIdWithClient (drawdownId : ℕ) : Tx (Option FacilityDrawdown) :=
  Txn.read fun w => w.facilityDrawdowns.get? drawdownId

/-- An active drawdown of the invoice: there may be several, and the statement does not order them. -/
def getDrawdownByInvoiceId (invoiceId choice : ℕ) (w : World) : Option FacilityDrawdown :=
  let rows := w.facilityDrawdowns.rows.filter fun d => d.invoiceId = invoiceId ∧ d.status = .active
  rows[choice % rows.length]?

/-- The active drawdowns, oldest first. -/
def getActiveDrawdowns (w : World) : List FacilityDrawdown :=
  w.facilityDrawdowns.rows.filter fun d => d.status = .active

/-! ## Updates -/

/-- The assignment of `updateDrawnAmountWithClient`; the trigger recomputes `available_amount`. -/
def setDrawnAmount (newDrawnAmount : ℤ) (f : BankFacility) : BankFacility :=
  { f with drawnAmount := newDrawnAmount }

theorem id_setDrawnAmount (newDrawnAmount : ℤ) (f : BankFacility) :
    (setDrawnAmount newDrawnAmount f).id = f.id := rfl

/-- Write a facility's drawn amount; a negative one violates `chk_facilities_drawn_non_negative`. -/
def updateDrawnAmountWithClient (facilityId : ℕ) (newDrawnAmount : ℤ) : Tx Unit := do
  let w ← Txn.read id
  if newDrawnAmount < 0 ∧ (w.bankFacilities.get? facilityId).isSome then
    Txn.abort (.runtime "new row violates check constraint chk_facilities_drawn_non_negative")
  else
    Txn.write fun w =>
      { w with
        bankFacilities := w.bankFacilities.update (fun f => f.id = facilityId)
          (setDrawnAmount newDrawnAmount) (id_setDrawnAmount newDrawnAmount) }

def setFacilityStatus (newStatus : FacilityStatus) (f : BankFacility) : BankFacility :=
  { f with status := newStatus }

theorem id_setFacilityStatus (newStatus : FacilityStatus) (f : BankFacility) :
    (setFacilityStatus newStatus f).id = f.id := rfl

/-- Update a facility's status, inside a transaction or as one. -/
def updateFacilityStatusWithClient (facilityId : ℕ) (newStatus : FacilityStatus) : Tx Unit :=
  Txn.write fun w =>
    { w with
      bankFacilities := w.bankFacilities.update (fun f => f.id = facilityId)
        (setFacilityStatus newStatus) (id_setFacilityStatus newStatus) }

def addInterest (interestAmount accrualDate : ℤ) (d : FacilityDrawdown) : FacilityDrawdown :=
  { d with
    accruedInterest := d.accruedInterest + interestAmount
    lastAccruedDate := accrualDate }

theorem id_addInterest (interestAmount accrualDate : ℤ) (d : FacilityDrawdown) :
    (addInterest interestAmount accrualDate d).id = d.id := rfl

/-- Add one day's interest. -/
def accrueDailyInterestWithClient (drawdownId : ℕ) (interestAmount accrualDate : ℤ) : Tx Unit :=
  Txn.write fun w =>
    { w with
      facilityDrawdowns := w.facilityDrawdowns.update (fun d => d.id = drawdownId)
        (addInterest interestAmount accrualDate) (id_addInterest interestAmount accrualDate) }

def setDrawdownStatus (newStatus : DrawdownStatus) (d : FacilityDrawdown) : FacilityDrawdown :=
  { d with status := newStatus }

theorem id_setDrawdownStatus (newStatus : DrawdownStatus) (d : FacilityDrawdown) :
    (setDrawdownStatus newStatus d).id = d.id := rfl

def updateDrawdownStatusWithClient (drawdownId : ℕ) (newStatus : DrawdownStatus) : Tx Unit :=
  Txn.write fun w =>
    { w with
      facilityDrawdowns := w.facilityDrawdowns.update (fun d => d.id = drawdownId)
        (setDrawdownStatus newStatus) (id_setDrawdownStatus newStatus) }

/-! ## Repayments -/

/-- The first check that an `INSERT` into `facility_repayments` violates. -/
def repaymentViolation (row : FacilityRepayment) : Option String :=
  if row.bankFees < 0 then
    some "new row violates check constraint facility_repayments_bank_fees_check"
  else if row.interest < 0 then
    some "new row violates check constraint facility_repayments_interest_check"
  else if row.principal ≤ 0 then
    some "new row violates check constraint facility_repayments_principal_check"
  else if row.totalAmount ≤ 0 then
    some "new row violates check constraint facility_repayments_total_amount_check"
  else none

/-- Insert a repayment record. -/
def createRepaymentWithClient (row : FacilityRepayment) : Tx Unit := do
  let w ← Txn.read id
  match repaymentViolation row with
  | some message => Txn.abort (.runtime message)
  | none =>
    match w.facilityRepayments.insert? row with
    | none =>
      Txn.abort (.runtime "duplicate key value violates unique constraint facility_repayments_pkey")
    | some repayments => Txn.write fun w => { w with facilityRepayments := repayments }

/-! ## Maturity -/

/-- The active facilities that mature within `days`, the soonest first. -/
def getFacilitiesNearMaturity (days today : ℤ) (w : World) : List BankFacility :=
  (w.bankFacilities.rows.filter fun f =>
    f.status = .active ∧ f.maturityDate ≤ today + days ∧ today ≤ f.maturityDate).insertionSort
    fun f g => f.maturityDate ≤ g.maturityDate

end Ris.Facilities
