import RisPlatform.Common.Binary64
import RisPlatform.Payments.Repository

/-!
# `risk-engine.repository.ts`

What scoring reads about the supplier, the buyer and the collateral, and the row of `risk_scores` that it
inserts.
-/

namespace Ris.RiskEngine

open Relational Concurrent

/-! ## Queries -/

def findInvoiceForScoring (invoiceId : ℕ) (w : World) : Option Invoice := w.invoices.get? invoiceId

def findBuyerForScoring (buyerId : ℕ) (w : World) : Option Buyer := w.buyers.get? buyerId

def getRiskScoreByInvoiceId (invoiceId : ℕ) (w : World) : Option RiskScore :=
  w.riskScores.find? fun r => r.invoiceId = invoiceId

structure TrackRecordResult where
  invoiceCount : ℕ
  onTimePct : ℚ
  hasDefaults : Bool

/-- The supplier's track record, from its collections that have ended. -/
def getSupplierTrackRecord (supplierId : ℕ) (w : World) : TrackRecordResult :=
  let ended := w.collections.rows.filter fun c : Collection =>
    decide ((∃ invoice ∈ w.invoices.get? c.invoiceId, invoice.supplierId = supplierId) ∧
      (c.status = .collected ∨ c.status = .defaulted))
  let total := ended.length
  let collected := (ended.filter fun c => c.status = .collected).length
  { invoiceCount := total
    onTimePct := if 0 < total then Binary64.mul (Binary64.div collected total) 100 else 0
    hasDefaults := 0 < (ended.filter fun c => c.status = .defaulted).length }

/-- The utilisation in percent, with the invoice on top; the division drops the fraction. -/
def getBuyerUtilisation (buyerId : ℕ) (invoiceAmount : ℤ) (w : World) : ℤ :=
  match w.buyers.get? buyerId with
  | none => 100
  | some buyer =>
    if 0 < buyer.approvedLimit then
      ((buyer.usedLimit + invoiceAmount) * 100).tdiv buyer.approvedLimit
    else 100

/-- The `CASE` of the order; two types are not in it, and nulls come last. -/
def collateralRank : CollateralType → ℕ
  | .bankGuarantee => 1
  | .fixedDepositLien => 2
  | .postDatedChequeFullValue => 3
  | .corporateGuarantee => 4
  | .none => 5
  | .assignmentOfReceivables => 6
  | .performanceBond => 6

/-- The active collateral of the invoice, and that of the supplier for no invoice. -/
def collateralFor (invoiceId supplierId : ℕ) (w : World) : List Collateral :=
  w.collateral.rows.filter fun c =>
    (c.invoiceId = some invoiceId ∨ c.supplierId = supplierId ∧ c.invoiceId = none) ∧ c.isActive

/-- The place of a row in the order: by type, and an invoice's own collateral first. -/
def collateralOrder (invoiceId : ℕ) (c : Collateral) : ℕ :=
  2 * collateralRank c.collateralType + if c.invoiceId = some invoiceId then 0 else 1

/-- The first row in the order; which one of those that are equal in it, the database decides. -/
def findBestCollateral (invoiceId supplierId choice : ℕ) (w : World) : Option Collateral :=
  let rows := collateralFor invoiceId supplierId w
  let first := rows.filter fun c =>
    ∀ c' ∈ rows, collateralOrder invoiceId c ≤ collateralOrder invoiceId c'
  first[choice % first.length]?

/-! ## Risk scores -/

structure RiskScoreInsert where
  id : ℕ
  invoiceId : ℕ
  buyerCreditScore : ℚ
  tenorScore : ℚ
  trackRecordScore : ℚ
  concentrationScore : ℚ
  collateralScore : ℚ
  finalScore : ℤ
  recommendation : RiskRecommendation
  maxAdvancePct : ℚ
  riskPremiumRate : ℚ
  scoredBy : String

/-- The row that the `INSERT` makes: the scores have two digits after the point, the rates four. -/
def RiskScoreInsert.row (data : RiskScoreInsert) : RiskScore where
  id := data.id
  invoiceId := data.invoiceId
  finalScore := data.finalScore
  maxAdvancePct := Binary64.numeric 4 data.maxAdvancePct
  riskPremiumRate := Binary64.numeric 4 data.riskPremiumRate
  bankCostRate := none
  risMarginRate := none
  totalDiscountRate := none
  advanceAmount := none
  discountAmount := none
  netPaymentToSupplier := none
  buyerCreditScore := Binary64.numeric 2 data.buyerCreditScore
  tenorScore := Binary64.numeric 2 data.tenorScore
  trackRecordScore := Binary64.numeric 2 data.trackRecordScore
  concentrationScore := Binary64.numeric 2 data.concentrationScore
  collateralScore := Binary64.numeric 2 data.collateralScore
  recommendation := data.recommendation
  scoredBy := data.scoredBy

/-- Why the database does not take the row. -/
def riskScoreViolation (w : World) (row : RiskScore) : Option String :=
  if ∃ score ∈ [row.buyerCreditScore, row.tenorScore, row.trackRecordScore, row.concentrationScore,
      row.collateralScore], 10000 ≤ |score| then
    some "numeric field overflow"
  else if 10 ≤ |row.maxAdvancePct| ∨ 10 ≤ |row.riskPremiumRate| then some "numeric field overflow"
  else if row.finalScore < 0 ∨ 100 < row.finalScore then
    some "new row violates check constraint chk_risk_scores_final_range"
  else if (getRiskScoreByInvoiceId row.invoiceId w).isSome then
    some "duplicate key value violates unique constraint risk_scores_invoice_id_key"
  else if (w.invoices.get? row.invoiceId).isNone then
    some "insert or update violates foreign key constraint risk_scores_invoice_id_fkey"
  else none

/-- Insert a risk score; the pricing columns are left null. -/
def saveRiskScoreWithClient (data : RiskScoreInsert) : Tx Unit := do
  let w ← Txn.read id
  match riskScoreViolation w data.row with
  | some message => Txn.abort (.runtime message)
  | none =>
    match w.riskScores.insert? data.row with
    | none => Txn.abort (.runtime "duplicate key value violates unique constraint risk_scores_pkey")
    | some riskScores => Txn.write fun w => { w with riskScores := riskScores }

/-- Update the invoice's status if it is the expected one; nobody asks whether it was. -/
def updateInvoiceStatusWithClient (invoiceId : ℕ) (newStatus expectedStatus : InvoiceStatus) :
    Tx Unit := do
  let _ ← Payments.updateInvoiceStatusWithClient invoiceId newStatus expectedStatus

end Ris.RiskEngine
