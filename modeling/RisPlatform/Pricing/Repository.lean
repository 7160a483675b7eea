import RisPlatform.Common.Binary64
import RisPlatform.Payments.Repository

/-!
# `pricing.repository.ts`

The statements that pricing and the supplier's decision make. None of the writes to an invoice asks
for its status, except the change of the status itself.
-/

namespace Ris.Pricing

open Relational Concurrent

/-! ## Queries -/

def getInvoiceForPricing (invoiceId : ℕ) (w : World) : Option Invoice := w.invoices.get? invoiceId

def getRiskScoreForPricing (invoiceId : ℕ) (w : World) : Option RiskScore :=
  w.riskScores.find? fun r => r.invoiceId = invoiceId

/-- The facilities that are active and not mature. -/
def facilitiesFor (now : ℤ) (w : World) : List BankFacility :=
  w.bankFacilities.rows.filter fun f => f.isActive ∧ now < f.maturityDate * dayMs

/-- The active facility with the best interest rate; which one of those with equal rates, the database
decides. -/
def getActiveFacility (now : ℤ) (choice : ℕ) (w : World) : Option BankFacility :=
  let best := (facilitiesFor now w).filter fun f =>
    ∀ g ∈ facilitiesFor now w, f.interestRateAnnual ≤ g.interestRateAnnual
  best[choice % best.length]?

/-- `ris_margin_rate` of the buyer. -/
def getBuyerRisMargin (buyerId : ℕ) (w : World) : Option ℚ :=
  (w.buyers.get? buyerId).map Buyer.risMarginRate

/-- The supplier whose user this is (`findSupplierByUserId` of the invoices repository). -/
def findSupplierByUserId (userId : ℕ) (w : World) : Option Supplier :=
  w.suppliers.find? fun r => r.userId = userId

/-- The supplier's own invoice, with the state of its pricing decision. -/
def getInvoicePricingStatus (invoiceId supplierId : ℕ) (w : World) : Option Invoice :=
  (w.invoices.get? invoiceId).filter fun r => r.supplierId = supplierId

/-- The pricing of an invoice: `risk_scores JOIN invoices`, where the score has a price. -/
def getPricingDetails (invoiceId : ℕ) (w : World) : Option (RiskScore × Invoice) := do
  let riskScore ← w.riskScores.find? fun r => r.invoiceId = invoiceId ∧ r.bankCostRate ≠ none
  let invoice ← w.invoices.get? invoiceId
  return (riskScore, invoice)

/-! ## Pricing -/

structure PricingUpdate where
  bankCostRate : ℚ
  risMarginRate : ℚ
  totalDiscountRate : ℚ
  advanceAmount : ℤ
  discountAmount : ℤ
  netPaymentToSupplier : ℤ

/-- Why the columns of `risk_scores` do not take the values. -/
def PricingUpdate.overflow (data : PricingUpdate) : Option String :=
  if ∃ rate ∈ [data.bankCostRate, data.risMarginRate], 10 ≤ |Binary64.numeric 4 rate| then
    some "numeric field overflow"
  else if 100 ≤ |Binary64.numeric 6 data.totalDiscountRate| then some "numeric field overflow"
  else if ∃ n ∈ [data.advanceAmount, data.discountAmount, data.netPaymentToSupplier],
      n < -2 ^ 63 ∨ 2 ^ 63 ≤ n then
    some "value is out of range for type bigint"
  else none

def setScorePricing (data : PricingUpdate) (r : RiskScore) : RiskScore :=
  { r with
    bankCostRate := some (Binary64.numeric 4 data.bankCostRate)
    risMarginRate := some (Binary64.numeric 4 data.risMarginRate)
    totalDiscountRate := some (Binary64.numeric 6 data.totalDiscountRate)
    advanceAmount := some data.advanceAmount
    discountAmount := some data.discountAmount
    netPaymentToSupplier := some data.netPaymentToSupplier }

theorem id_setScorePricing (data : PricingUpdate) (r : RiskScore) :
    (setScorePricing data r).id = r.id := rfl

/-- Update `risk_scores` with the pricing. -/
def updateRiskScoreWithPricing (riskScoreId : ℕ) (data : PricingUpdate) : Tx Unit :=
  match data.overflow with
  | some message => Txn.abort (.runtime message)
  | none =>
    Txn.write fun w =>
      { w with
        riskScores := w.riskScores.update (fun r => r.id = riskScoreId) (setScorePricing data)
          (id_setScorePricing data) }

def setAmounts (data : PricingUpdate) (r : Invoice) : Invoice :=
  { r with
    advanceAmount := some data.advanceAmount
    discountAmount := some data.discountAmount
    netPaymentToSupplier := some data.netPaymentToSupplier }

theorem id_setAmounts (data : PricingUpdate) (r : Invoice) : (setAmounts data r).id = r.id := rfl

/-- Update the invoice with the amounts, whatever its status. -/
def updateInvoiceWithPricing (invoiceId : ℕ) (data : PricingUpdate) : Tx Unit :=
  Txn.write fun w =>
    { w with
      invoices := w.invoices.update (fun r => r.id = invoiceId) (setAmounts data)
        (id_setAmounts data) }

/-- Update the invoice's status if it is the expected one. -/
def updateInvoiceStatusWithClient (invoiceId : ℕ) (newStatus expectedStatus : InvoiceStatus) :
    Tx Unit := do
  let _ ← Payments.updateInvoiceStatusWithClient invoiceId newStatus expectedStatus

/-! ## The supplier's decision -/

def setAccepted (userId : ℕ) (now : ℤ) (r : Invoice) : Invoice :=
  { r with pricingAcceptedAt := some now, pricingAcceptedBy := some userId }

theorem id_setAccepted (userId : ℕ) (now : ℤ) (r : Invoice) :
    (setAccepted userId now r).id = r.id := rfl

/-- Mark the pricing as accepted, whatever the invoice's status. -/
def acceptPricingWithClient (invoiceId userId : ℕ) : Tx Unit := do
  let now ← now
  Txn.write fun w =>
    { w with
      invoices := w.invoices.update (fun r => r.id = invoiceId) (setAccepted userId now)
        (id_setAccepted userId now) }

def setRejected (reason : String) (now : ℤ) (r : Invoice) : Invoice :=
  { r with pricingRejectedAt := some now, pricingRejectionReason := some reason }

theorem id_setRejected (reason : String) (now : ℤ) (r : Invoice) :
    (setRejected reason now r).id = r.id := rfl

/-- Mark the pricing as rejected, whatever the invoice's status. -/
def rejectPricingWithClient (invoiceId : ℕ) (reason : String) : Tx Unit := do
  let now ← now
  Txn.write fun w =>
    { w with
      invoices := w.invoices.update (fun r => r.id = invoiceId) (setRejected reason now)
        (id_setRejected reason now) }

def setDisputed (now : ℤ) (r : Invoice) : Invoice := { r with pricingDisputedAt := some now }

theorem id_setDisputed (now : ℤ) (r : Invoice) : (setDisputed now r).id = r.id := rfl

def setDisputedAtWithClient (invoiceId : ℕ) : Tx Unit := do
  let now ← now
  Txn.write fun w =>
    { w with
      invoices := w.invoices.update (fun r => r.id = invoiceId) (setDisputed now)
        (id_setDisputed now) }

/-- Insert a pricing dispute; the row. -/
def createPricingDisputeWithClient (row : PricingDispute) : Tx PricingDispute := do
  let w ← Txn.read id
  match w.pricingDisputes.insert? row with
  | none =>
    Txn.abort (.runtime "duplicate key value violates unique constraint pricing_disputes_pkey")
  | some disputes =>
    Txn.write fun w => { w with pricingDisputes := disputes }
    return row

end Ris.Pricing
