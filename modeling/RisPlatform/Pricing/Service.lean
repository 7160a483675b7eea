import RisPlatform.Pricing.Repository

/-!
# `pricing.service.ts`

Pricing an invoice, and the supplier's acceptance, rejection or dispute of the price, in the order of
the source.
-/

namespace Ris.Pricing

open Relational Concurrent

/-- Error codes specific to the pricing engine. -/
inductive PricingErrorCode
  | invoiceWrongStatus | noActiveFacility | alreadyPriced | notPriced | alreadyAccepted
  | alreadyRejected | alreadyDisputed | rateCapExceeded
  deriving DecidableEq

def PricingErrorCode.text : PricingErrorCode → String
  | .invoiceWrongStatus => "INVOICE_WRONG_STATUS"
  | .noActiveFacility => "NO_ACTIVE_FACILITY"
  | .alreadyPriced => "ALREADY_PRICED"
  | .notPriced => "PRICING_NOT_PRICED"
  | .alreadyAccepted => "PRICING_ALREADY_ACCEPTED"
  | .alreadyRejected => "PRICING_ALREADY_REJECTED"
  | .alreadyDisputed => "PRICING_ALREADY_DISPUTED"
  | .rateCapExceeded => "RATE_CAP_EXCEEDED"

/-- `new BusinessRuleError(code, message)`. -/
def PricingErrorCode.error (code : PricingErrorCode) (message : String) : RisError :=
  .businessRule code.text message

/-! ## Calculation -/

/-- `PRECISION`. -/
def precision : ℤ := 100000000

def daysPerYear : ℤ := 365

/-- A decimal rate, times 1e8. -/
def toScaled (rate : ℚ) : ℤ := Binary64.nearestInt (Binary64.mul rate precision)

structure PricingCalculationResult where
  advanceAmount : ℤ
  discountAmount : ℤ
  netPaymentToSupplier : ℤ
  totalDiscountRate : ℚ
  bankCostAmount : ℤ
  risNetProfit : ℤ

/-- The discount rate over the tenor, times 1e8: `(bank + risk + RIS) × tenor / 365`. -/
def discountRateScaled (input : PricingCalculationInput) : ℤ :=
  let totalAnnualScaled :=
    toScaled input.bankCostRate + toScaled input.riskPremiumRate + toScaled input.risMarginRate
  (totalAnnualScaled * input.tenorDays).tdiv daysPerYear

/-- All pricing amounts, in integers. -/
def calculatePricing (input : PricingCalculationInput) : PricingCalculationResult :=
  let advanceAmount := (input.faceValue * toScaled input.maxAdvancePct).tdiv precision
  let discountAmount := (input.faceValue * discountRateScaled input).tdiv precision
  let bankCostRateScaled := (toScaled input.bankCostRate * input.tenorDays).tdiv daysPerYear
  let bankCostAmount := (advanceAmount * bankCostRateScaled).tdiv precision
  { advanceAmount
    discountAmount
    netPaymentToSupplier := advanceAmount - discountAmount
    totalDiscountRate := Binary64.div (Binary64.round (discountRateScaled input)) precision
    bankCostAmount
    risNetProfit := discountAmount - bankCostAmount }

structure FeeBreakdown where
  faceValue : ℤ
  advancePercentage : String
  advanceAmount : ℤ
  discountPercentage : String
  discountAmount : ℤ
  netPaymentToSupplier : ℤ
  bankCostComponent : ℤ
  riskPremiumComponent : ℤ
  risMarginComponent : ℤ
  expectedCollectionDate : ℤ

/-- What one rate contributes to the discount. -/
def feeComponent (input : PricingCalculationInput) (rate : ℚ) : ℤ :=
  (input.faceValue * toScaled rate * input.tenorDays).tdiv (daysPerYear * precision)

/-- The fee breakdown that the supplier is shown. -/
def buildFeeBreakdown (input : PricingCalculationInput) (calcResult : PricingCalculationResult)
    (dueDate : ℤ) : FeeBreakdown where
  faceValue := input.faceValue
  advancePercentage := Binary64.toFixed 2 (Binary64.mul input.maxAdvancePct 100)
  advanceAmount := calcResult.advanceAmount
  discountPercentage := Binary64.toFixed 4 (Binary64.mul calcResult.totalDiscountRate 100)
  discountAmount := calcResult.discountAmount
  netPaymentToSupplier := calcResult.netPaymentToSupplier
  bankCostComponent := feeComponent input input.bankCostRate
  riskPremiumComponent := feeComponent input input.riskPremiumRate
  risMarginComponent := feeComponent input input.risMarginRate
  expectedCollectionDate := dueDate

/-- `MAX_ANNUAL_RATE`, the double nearest to 15%. -/
def maxAnnualRate : ℚ := Binary64.round (mkRat 15 100)

def validateRateCap (totalAnnualRate : ℚ) : Except RisError Unit :=
  if maxAnnualRate < totalAnnualRate then
    throw (PricingErrorCode.rateCapExceeded.error
      ("Total annual rate " ++ Binary64.toText totalAnnualRate ++ " exceeds maximum " ++
        Binary64.toText maxAnnualRate))
  else pure ()

/-! ## Pricing an invoice -/

def validateInvoice (invoiceId : ℕ) : Option Invoice → Except RisError Invoice
  | none => throw (.notFound "Invoice" invoiceId)
  | some invoice =>
    if invoice.status ≠ .scored then
      throw (PricingErrorCode.invoiceWrongStatus.error
        ("Invoice status is '" ++ invoice.status.text ++ "', expected 'scored'"))
    else pure invoice

def validateRiskScore (invoiceId : ℕ) : Option RiskScore → Except RisError RiskScore
  | none => throw (.notFound "RiskScore" invoiceId)
  | some score =>
    if score.bankCostRate ≠ none then
      throw (PricingErrorCode.alreadyPriced.error "Invoice has already been priced")
    else pure score

def validateFacility : Option BankFacility → Except RisError BankFacility
  | none =>
    throw (PricingErrorCode.noActiveFacility.error
      "No active bank facility available for drawdown")
  | some facility => pure facility

def validateBuyerMargin (buyerId : ℕ) : Option ℚ → Except RisError ℚ
  | none => throw (.notFound "Buyer" buyerId)
  | some margin => pure margin

def fetchAndValidateInvoice (invoiceId : ℕ) : Call Invoice := do
  let found ← query (getInvoiceForPricing invoiceId)
  validateInvoice invoiceId found

def fetchAndValidateRiskScore (invoiceId : ℕ) : Call RiskScore := do
  let found ← query (getRiskScoreForPricing invoiceId)
  validateRiskScore invoiceId found

def fetchActiveFacility : Call BankFacility := do
  let found ←
    .transaction (do
        connect
        let i ← Txn.input
        Txn.read (getActiveFacility i.now i.choice))
      (fun _ => .read) fun _ => .threw
  validateFacility found

def fetchBuyerMargin (buyerId : ℕ) : Call ℚ := do
  let found ← query (getBuyerRisMargin buyerId)
  validateBuyerMargin buyerId found

/-- What `persistPricing` writes. -/
def pricingUpdate (input : PricingCalculationInput) : PricingUpdate :=
  let calcResult := calculatePricing input
  { bankCostRate := input.bankCostRate
    risMarginRate := input.risMarginRate
    totalDiscountRate := calcResult.totalDiscountRate
    advanceAmount := calcResult.advanceAmount
    discountAmount := calcResult.discountAmount
    netPaymentToSupplier := calcResult.netPaymentToSupplier }

/-- The audit row of a pricing. -/
def pricedAudit (invoiceId : ℕ) (data : PricingUpdate) : AuditLog where
  userId := none
  action := "INVOICE_PRICED"
  tableName := "risk_scores"
  recordId := .id invoiceId
  oldValues := [("status", .text "scored")]
  newValues :=
    [("status", .text "priced"), ("advanceAmount", .int data.advanceAmount),
      ("discountAmount", .int data.discountAmount),
      ("netPaymentToSupplier", .int data.netPaymentToSupplier),
      ("bankCostRate", .rat data.bankCostRate), ("risMarginRate", .rat data.risMarginRate),
      ("totalDiscountRate", .rat data.totalDiscountRate)]

/-- The transaction of `persistPricing`. -/
def persistPricingTxn (invoiceId riskScoreId : ℕ) (data : PricingUpdate) : Tx Unit := do
  updateRiskScoreWithPricing riskScoreId data
  updateInvoiceWithPricing invoiceId data
  updateInvoiceStatusWithClient invoiceId .priced .scored
  createAuditEntry (pricedAudit invoiceId data)

/-- Write the pricing that was calculated from `input`. -/
def persistPricing (invoiceId riskScoreId : ℕ) (input : PricingCalculationInput) : Call Unit :=
  transaction (persistPricingTxn invoiceId riskScoreId (pricingUpdate input))
    fun _ => .invoicePriced invoiceId input

/-- What `priceInvoice` returns. -/
structure PricingResult where
  invoiceId : ℕ
  input : PricingCalculationInput
  calcResult : PricingCalculationResult
  feeBreakdown : FeeBreakdown

/-- Price a scored invoice: calculate the discount, persist and audit. -/
def priceInvoice (cfg : Config) (invoiceId : ℕ) : Call PricingResult := do
  let invoice ← fetchAndValidateInvoice invoiceId
  let riskScore ← fetchAndValidateRiskScore invoiceId
  let facility ← fetchActiveFacility
  let buyerMargin ← fetchBuyerMargin invoice.buyerId
  let tenorDays ← toBigInt invoice.tenorDays
  let input : PricingCalculationInput :=
    { faceValue := invoice.faceValue
      tenorDays
      maxAdvancePct := Binary64.round riskScore.maxAdvancePct
      riskPremiumRate := Binary64.round riskScore.riskPremiumRate
      bankCostRate := Binary64.round facility.interestRateAnnual
      risMarginRate := Binary64.round buyerMargin }
  let calcResult := calculatePricing input
  let totalAnnualRate :=
    Binary64.add (Binary64.add input.bankCostRate input.riskPremiumRate) input.risMarginRate
  validateRateCap totalAnnualRate
  persistPricing invoiceId riskScore.id input
  let feeBreakdown := buildFeeBreakdown input calcResult invoice.dueDate
  log "INVOICE_PRICED"
  enqueueOrWarn cfg
    { queue := .notification, name := "pricing-ready", data := [("invoiceId", .id invoiceId)] }
    "Notification queue not configured"
  return { invoiceId, input, calcResult, feeBreakdown }

/-! ## Reading a price -/

/-- What `getPricing` returns. -/
structure PricingDetails where
  invoiceId : ℕ
  faceValue : ℤ
  advanceAmount : ℤ
  discountAmount : ℤ
  netPaymentToSupplier : ℤ
  bankCostRate : ℚ
  riskPremiumRate : ℚ
  risMarginRate : ℚ
  /-- `none` is `NaN`. -/
  totalDiscountRate : Option ℚ
  bankCostAmount : ℤ
  risNetProfit : ℤ
  feeBreakdown : FeeBreakdown

def requirePricing (invoiceId : ℕ) :
    Option (RiskScore × Invoice) → Except RisError (RiskScore × Invoice)
  | none => throw (.notFound "Pricing" invoiceId)
  | some row => pure row

/-- A rate that `toScaled` takes: `parseFloat` of a null column is `NaN`. -/
def toFinite : Option ℚ → Except RisError ℚ
  | some rate => pure (Binary64.round rate)
  | none =>
    throw (.runtime
      "The number NaN cannot be converted to a BigInt because it is not an integer")

/-- The pricing as the row has it, with the amounts that are not stored. -/
def readPricing (riskScore : RiskScore) (invoice : Invoice) : Except RisError PricingDetails := do
  let advanceAmount ← toBigInt riskScore.advanceAmount
  let discountAmount ← toBigInt riskScore.discountAmount
  let netPayment ← toBigInt riskScore.netPaymentToSupplier
  let bankCostRate ← toFinite riskScore.bankCostRate
  let tenorDays ← toBigInt invoice.tenorDays
  let risMarginRate ← toFinite riskScore.risMarginRate
  let totalDiscountRate := riskScore.totalDiscountRate.map Binary64.round
  let input : PricingCalculationInput :=
    { faceValue := invoice.faceValue
      tenorDays
      maxAdvancePct := Binary64.round riskScore.maxAdvancePct
      riskPremiumRate := Binary64.round riskScore.riskPremiumRate
      bankCostRate
      risMarginRate }
  let bankCostRateScaled := (toScaled bankCostRate * tenorDays).tdiv daysPerYear
  let bankCostAmount := (advanceAmount * bankCostRateScaled).tdiv precision
  let risNetProfit := discountAmount - bankCostAmount
  let feeBreakdown := buildFeeBreakdown input
    { advanceAmount, discountAmount, netPaymentToSupplier := netPayment
      totalDiscountRate := totalDiscountRate.getD 0, bankCostAmount, risNetProfit } invoice.dueDate
  return {
    invoiceId := riskScore.invoiceId
    faceValue := invoice.faceValue
    advanceAmount, discountAmount, netPaymentToSupplier := netPayment
    bankCostRate, riskPremiumRate := input.riskPremiumRate, risMarginRate, totalDiscountRate
    bankCostAmount, risNetProfit
    feeBreakdown :=
      if totalDiscountRate = none then { feeBreakdown with discountPercentage := "NaN" }
      else feeBreakdown }

/-- Retrieve the pricing of an invoice that has been priced. -/
def getPricing (invoiceId : ℕ) : Call PricingDetails := do
  let found ← query (getPricingDetails invoiceId)
  let row ← requirePricing invoiceId found
  readPricing row.1 row.2

/-! ## The supplier's decision -/

def resolveSupplier (userId : ℕ) : Call ℕ := do
  match ← query (findSupplierByUserId userId) with
  | some supplier => return supplier.id
  | none => throw .forbidden

def validatePricingAcceptance (invoiceId : ℕ) : Option Invoice → Except RisError Invoice
  | none => throw (.notFound "Invoice" invoiceId)
  | some invoice =>
    if invoice.advanceAmount = none then
      throw (PricingErrorCode.notPriced.error "Invoice has not been priced yet")
    else pure invoice

def fetchAndValidatePricingAcceptance (invoiceId supplierId : ℕ) : Call Invoice := do
  let found ← query (getInvoicePricingStatus invoiceId supplierId)
  validatePricingAcceptance invoiceId found

def guardNotAccepted (invoice : Invoice) : Except RisError Unit :=
  if invoice.pricingAcceptedAt ≠ none then
    throw (PricingErrorCode.alreadyAccepted.error "Pricing already accepted")
  else pure ()

def guardNotRejected (invoice : Invoice) : Except RisError Unit :=
  if invoice.pricingRejectedAt ≠ none then
    throw (PricingErrorCode.alreadyRejected.error "Pricing already rejected")
  else pure ()

def guardNotDisputed (invoice : Invoice) : Except RisError Unit :=
  if invoice.pricingDisputedAt ≠ none then
    throw (PricingErrorCode.alreadyDisputed.error "Pricing dispute already submitted")
  else pure ()

/-- The audit row of a decision on an invoice. -/
def decisionAudit (action tableName : String) (recordId userId : ℕ) (req : Request)
    (oldValues newValues : List (String × Json)) : AuditLog where
  userId := some userId
  action := action
  tableName := tableName
  recordId := .id recordId
  oldValues := oldValues
  newValues := newValues
  ipAddress := req.ipAddress
  userAgent := req.userAgent

/-- The transaction of `persistAcceptance`. Its value is what the row shows as the net payment; only
the history uses it. -/
def persistAcceptanceTxn (invoiceId userId : ℕ) (req : Request) : Tx (Option ℤ) := do
  acceptPricingWithClient invoiceId userId
  createAuditEntry (decisionAudit "PRICING_ACCEPTED" "invoices" invoiceId userId req
    [("pricingAcceptedAt", .null)] [("pricingAcceptedAt", .text "now")])
  Txn.read fun w => (w.invoices.get? invoiceId).bind Invoice.netPaymentToSupplier

/-- The supplier accepts the pricing terms. -/
def acceptPricing (cfg : Config) (invoiceId userId : ℕ) (req : Request) : Call Unit := do
  let supplierId ← resolveSupplier userId
  let invoice ← fetchAndValidatePricingAcceptance invoiceId supplierId
  guardNotAccepted invoice
  let _ ← transaction (persistAcceptanceTxn invoiceId userId req)
    fun netPayment => .pricingAccepted invoiceId netPayment
  enqueueOrWarn cfg
    { queue := .approvals, name := "score-for-approval", data := [("invoiceId", .id invoiceId)] }
    "Approvals queue not configured"
  log "PRICING_ACCEPTED"

/-- The transaction of `persistRejection`. -/
def persistRejectionTxn (invoiceId userId : ℕ) (reason : String) (req : Request) : Tx Unit := do
  rejectPricingWithClient invoiceId reason
  updateInvoiceStatusWithClient invoiceId .rejected .priced
  createAuditEntry (decisionAudit "PRICING_REJECTED" "invoices" invoiceId userId req
    [("pricingRejectedAt", .null), ("status", .text "priced")]
    [("pricingRejectedAt", .text "now"), ("reason", .text reason), ("status", .text "rejected")])

/-- The supplier rejects the pricing terms. -/
def rejectPricing (invoiceId userId : ℕ) (reason : String) (req : Request) : Call Unit := do
  let supplierId ← resolveSupplier userId
  let invoice ← fetchAndValidatePricingAcceptance invoiceId supplierId
  guardNotRejected invoice
  transaction (persistRejectionTxn invoiceId userId reason req) fun _ => .pricingRejected invoiceId
  log "PRICING_REJECTED"

/-- What a supplier submits when raising a dispute. -/
structure PricingDisputePayload where
  reason : DisputeReason
  proposedRate : Option ℚ := none
  proposedAdvancePct : Option ℚ := none
  notes : Option String := none

/-- The transaction of `persistDispute`; the row. -/
def persistDisputeTxn (invoiceId userId : ℕ) (payload : PricingDisputePayload) (req : Request) :
    Tx PricingDispute := do
  let i ← Txn.input
  let slaDeadline := i.now + 24 * 60 * 60 * 1000
  setDisputedAtWithClient invoiceId
  let row ← createPricingDisputeWithClient
    { id := i.uuid
      invoiceId
      submittedBy := userId
      reason := payload.reason
      proposedRate := payload.proposedRate.map (Binary64.numeric 6)
      proposedAdvancePct := payload.proposedAdvancePct.map (Binary64.numeric 2)
      notes := payload.notes
      submittedAt := i.now
      slaDeadline }
  createAuditEntry (decisionAudit "PRICING_DISPUTED" "pricing_disputes" row.id userId req []
    [("invoiceId", .id invoiceId), ("reason", .text payload.reason.text),
      ("proposedRate", .ofOption .rat payload.proposedRate), ("slaDeadline", .int slaDeadline)])
  return row

/-- The supplier raises a pricing dispute; the invoice stays eligible for funding. -/
def disputePricing (invoiceId userId : ℕ) (payload : PricingDisputePayload) (req : Request) :
    Call PricingDispute := do
  let supplierId ← resolveSupplier userId
  let invoice ← fetchAndValidatePricingAcceptance invoiceId supplierId
  guardNotAccepted invoice
  guardNotRejected invoice
  guardNotDisputed invoice
  let dispute ← transaction (persistDisputeTxn invoiceId userId payload req)
    fun _ => .pricingDisputed invoiceId
  log "PRICING_DISPUTED"
  return dispute

end Ris.Pricing
