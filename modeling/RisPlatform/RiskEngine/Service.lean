import RisPlatform.RiskEngine.Repository

/-!
# `risk-engine.service.ts`

The scoring of a confirmed invoice by five weighted factors. Every number is a double. A factor that
fails counts as 0; the factors run side by side in the source and one after the other here. The status
is checked before the transaction, and the `UPDATE` in it asks for it again without being asked whether
it matched.
-/

namespace Ris.RiskEngine

open Relational Concurrent

inductive RiskEngineErrorCode
  | invoiceWrongStatus | alreadyScored | riskWeightMisconfigured
  deriving DecidableEq

def RiskEngineErrorCode.text : RiskEngineErrorCode → String
  | .invoiceWrongStatus => "INVOICE_WRONG_STATUS"
  | .alreadyScored => "ALREADY_SCORED"
  | .riskWeightMisconfigured => "RISK_WEIGHT_MISCONFIGURED"

/-- `new BusinessRuleError(code, message)`. -/
def RiskEngineErrorCode.error (code : RiskEngineErrorCode) (message : String) : RisError :=
  .businessRule code.text message

/-! ## Configuration -/

/-- The values of `risk_config`; loading them never throws, since there are defaults. -/
def getRiskConfig : Call RiskConfig :=
  .transaction (do let i ← Txn.input; return i.riskConfig) (fun _ => .read) fun _ => .threw

/-- `getRiskConfigNumber`: `parseFloat` of the decimal. -/
def parseFloat (value : ℚ) : ℚ := Binary64.round value

/-- The sum of the weights, from the first to the last. -/
def RiskWeights.sum (weights : RiskWeights) : ℚ :=
  [weights.buyerCredit, weights.tenor, weights.trackRecord, weights.concentration,
    weights.collateral].foldl (fun sum weight => Binary64.add sum (parseFloat weight)) 0

/-- The sum must be 1.0, up to 0.001. -/
def guardWeights (weights : RiskWeights) : Except RisError Unit :=
  let weightSum := RiskWeights.sum weights
  if parseFloat (mkRat 1 1000) < |Binary64.add weightSum (-1)| then
    throw (RiskEngineErrorCode.riskWeightMisconfigured.error
      ("Risk factor weights sum to " ++ Binary64.toText weightSum ++ ", expected 1.0"))
  else pure ()

/-! ## Factors -/

/-- The registered factors, in their order. -/
inductive Factor
  | buyerCredit | tenor | trackRecord | concentration | collateral
  deriving DecidableEq

def Factor.name : Factor → String
  | .buyerCredit => "buyer_credit"
  | .tenor => "tenor"
  | .trackRecord => "track_record"
  | .concentration => "concentration"
  | .collateral => "collateral"

/-- What a factor logs when it fails. -/
def Factor.warning : Factor → String
  | .buyerCredit => "BuyerCreditScorer failed, returning zero"
  | .tenor => "TenorScorer failed, returning zero"
  | .trackRecord => "SupplierTrackRecordScorer failed, returning zero"
  | .concentration => "ConcentrationRiskScorer failed, returning zero"
  | .collateral => "CollateralScorer failed, returning zero"

def Factor.weight (weights : RiskWeights) : Factor → ℚ
  | .buyerCredit => parseFloat weights.buyerCredit
  | .tenor => parseFloat weights.tenor
  | .trackRecord => parseFloat weights.trackRecord
  | .concentration => parseFloat weights.concentration
  | .collateral => parseFloat weights.collateral

structure FactorScore where
  factor : Factor
  rawScore : ℤ
  weightedScore : ℚ

/-- `CREDIT_RATING_SCORES`. -/
def creditRatingScore : CreditRating → ℤ
  | .a => 100
  | .b => 75
  | .c => 50
  | .d => 25

/-- A null tenor is in no band. -/
def calculateTenorRaw : Option ℤ → ℤ
  | none => 0
  | some days =>
    if 1 ≤ days ∧ days ≤ 30 then 100
    else if 31 ≤ days ∧ days ≤ 60 then 75
    else if 61 ≤ days ∧ days ≤ 90 then 50
    else 0

def calculateTrackRecordRaw (record : TrackRecordResult) : ℤ :=
  let pct := record.onTimePct
  if record.hasDefaults then 25
  else if record.invoiceCount = 0 then 50
  else if 11 ≤ record.invoiceCount then if 95 < pct then 100 else 85
  else if 4 ≤ record.invoiceCount then if 95 < pct then 100 else if 90 < pct then 85 else 70
  else if 90 < pct then 70 else 50

def calculateConcentrationRaw (pct : ℤ) : ℤ :=
  if pct ≤ 40 then 100
  else if pct ≤ 60 then 75
  else if pct ≤ 75 then 50
  else if pct ≤ 90 then 25
  else 0

/-- `COLLATERAL_SCORES`. -/
def calculateCollateralRaw : CollateralType → ℤ
  | .bankGuarantee => 100
  | .fixedDepositLien => 85
  | .assignmentOfReceivables => 75
  | .performanceBond => 70
  | .postDatedChequeFullValue => 60
  | .corporateGuarantee => 40
  | .none => 0

structure ScoringContext where
  invoice : Invoice
  buyer : Buyer

/-- The raw score of a factor. -/
def rawScore (ctx : ScoringContext) : Factor → Call ℤ
  | .buyerCredit => return creditRatingScore ctx.buyer.creditRating
  | .tenor => return calculateTenorRaw ctx.invoice.tenorDays
  | .trackRecord => do
    let record ← query (getSupplierTrackRecord ctx.invoice.supplierId)
    return calculateTrackRecordRaw record
  | .concentration => do
    let pct ← query (getBuyerUtilisation ctx.buyer.id ctx.invoice.faceValue)
    return calculateConcentrationRaw pct
  | .collateral => do
    let best ←
      .transaction (do
          connect
          let i ← Txn.input
          Txn.read (findBestCollateral ctx.invoice.id ctx.invoice.supplierId i.choice))
        (fun _ => .read) fun _ => .threw
    return calculateCollateralRaw ((best.map Collateral.collateralType).getD .none)

/-- `calculate` of a factor: a failure is logged and counts as 0. -/
def calculate (ctx : ScoringContext) (factor : Factor) : Call FactorScore := do
  try
    let config ← getRiskConfig
    let raw ← rawScore ctx factor
    pure { factor, rawScore := raw, weightedScore := Binary64.mul raw (factor.weight config.weights) }
  catch _ =>
    log factor.warning
    pure { factor, rawScore := 0, weightedScore := 0 }

structure FactorScores where
  buyerCredit : FactorScore
  tenor : FactorScore
  trackRecord : FactorScore
  concentration : FactorScore
  collateral : FactorScore

def FactorScores.toList (factors : FactorScores) : List FactorScore :=
  [factors.buyerCredit, factors.tenor, factors.trackRecord, factors.concentration, factors.collateral]

def runAllFactors (ctx : ScoringContext) : Call FactorScores := do
  let buyerCredit ← calculate ctx .buyerCredit
  let tenor ← calculate ctx .tenor
  let trackRecord ← calculate ctx .trackRecord
  let concentration ← calculate ctx .concentration
  let collateral ← calculate ctx .collateral
  return { buyerCredit, tenor, trackRecord, concentration, collateral }

/-- `Math.round` of the sum of the weighted scores. -/
def FactorScores.final (factors : FactorScores) : ℤ :=
  Binary64.nearestInt (factors.toList.foldl (fun sum f => Binary64.add sum f.weightedScore) 0)

/-! ## Thresholds -/

def determineRecommendation (config : RiskConfig) (score : ℤ) : RiskRecommendation :=
  if parseFloat config.thresholdAutoApprove ≤ score then .autoApprove
  else if parseFloat config.thresholdReferManager ≤ score then .referToManager
  else .reject

def determineMaxAdvance (config : RiskConfig) (score : ℤ) : ℚ :=
  if parseFloat config.thresholdAutoApprove ≤ score then parseFloat config.advancePctHigh
  else if 60 ≤ score then parseFloat config.advancePctMid
  else if parseFloat config.thresholdReferManager ≤ score then parseFloat config.advancePctLow
  else 0

def determineRiskPremium (config : RiskConfig) (score : ℤ) : ℚ :=
  if 80 ≤ score then parseFloat config.premiumScore80Plus
  else if 70 ≤ score then parseFloat config.premiumScore70To79
  else if 60 ≤ score then parseFloat config.premiumScore60To69
  else if 50 ≤ score then parseFloat config.premiumScore50To59
  else 0

/-! ## Scoring -/

def validateInvoice (invoiceId : ℕ) : Option Invoice → Except RisError Invoice
  | none => throw (.notFound "Invoice" invoiceId)
  | some invoice =>
    if invoice.status ≠ .buyerConfirmed then
      throw (RiskEngineErrorCode.invoiceWrongStatus.error
        ("Invoice status is '" ++ invoice.status.text ++ "', expected 'buyer_confirmed'"))
    else pure invoice

def guardNotScored : Option RiskScore → Except RisError Unit
  | some _ => throw (RiskEngineErrorCode.alreadyScored.error "Invoice has already been scored")
  | none => pure ()

def fetchAndValidateInvoice (invoiceId : ℕ) : Call Invoice := do
  let found ← query (findInvoiceForScoring invoiceId)
  let invoice ← validateInvoice invoiceId found
  let existing ← query (getRiskScoreByInvoiceId invoiceId)
  guardNotScored existing
  return invoice

def requireBuyer (buyerId : ℕ) : Option Buyer → Except RisError Buyer
  | none => throw (.notFound "Buyer" buyerId)
  | some buyer => pure buyer

/-- What `scoreInvoice` returns. -/
structure RiskScoreResult where
  invoiceId : ℕ
  factors : FactorScores
  finalScore : ℤ
  recommendation : RiskRecommendation
  maxAdvancePct : ℚ
  riskPremiumRate : ℚ

/-- The row of `risk_scores` for a result. -/
def RiskScoreResult.insert (result : RiskScoreResult) (id : ℕ) : RiskScoreInsert where
  id := id
  invoiceId := result.invoiceId
  buyerCreditScore := result.factors.buyerCredit.weightedScore
  tenorScore := result.factors.tenor.weightedScore
  trackRecordScore := result.factors.trackRecord.weightedScore
  concentrationScore := result.factors.concentration.weightedScore
  collateralScore := result.factors.collateral.weightedScore
  finalScore := result.finalScore
  recommendation := result.recommendation
  maxAdvancePct := result.maxAdvancePct
  riskPremiumRate := result.riskPremiumRate
  scoredBy := "SYSTEM"

def scoredAudit (result : RiskScoreResult) : AuditLog where
  userId := none
  action := "INVOICE_SCORED"
  tableName := "risk_scores"
  recordId := .id result.invoiceId
  oldValues := [("status", .text InvoiceStatus.buyerConfirmed.text)]
  newValues :=
    [("factors", .numbers (result.factors.toList.map fun f => (f.factor.name, f.weightedScore))),
      ("finalScore", .int result.finalScore), ("recommendation", .text result.recommendation.text)]

/-- The status that a recommendation leads to. -/
def scoredStatus (recommendation : RiskRecommendation) : InvoiceStatus :=
  if recommendation = .reject then .rejected else .scored

/-- The transaction of `scoreInvoice`. -/
def persistScoreTxn (result : RiskScoreResult) : Tx Unit := do
  let i ← Txn.input
  saveRiskScoreWithClient (result.insert i.uuid)
  updateInvoiceStatusWithClient result.invoiceId (scoredStatus result.recommendation) .buyerConfirmed
  createAuditEntry (scoredAudit result)

def queueNotification (cfg : Config) (invoiceId : ℕ) (jobName : String) : Call Unit :=
  enqueueOrWarn cfg
    { queue := .notification, name := jobName, data := [("invoiceId", .id invoiceId)] }
    "Notification queue not configured"

def queuePricing (cfg : Config) (invoiceId : ℕ) : Call Unit :=
  enqueueOrWarn cfg
    { queue := .pricing, name := "price-invoice", data := [("invoiceId", .id invoiceId)] }
    "Pricing queue not configured"

/-- Queue what comes after the score. -/
def queueNext (cfg : Config) (invoiceId : ℕ) (recommendation : RiskRecommendation) : Call Unit :=
  if recommendation = .reject then queueNotification cfg invoiceId "invoice-rejected"
  else queuePricing cfg invoiceId

/-- Score a confirmed invoice. -/
def scoreInvoice (cfg : Config) (invoiceId : ℕ) : Call RiskScoreResult := do
  let invoice ← fetchAndValidateInvoice invoiceId
  let found ← query (findBuyerForScoring invoice.buyerId)
  let buyer ← requireBuyer invoice.buyerId found
  let config ← getRiskConfig
  guardWeights config.weights
  let factors ← runAllFactors { invoice, buyer }
  let finalScore := factors.final
  let recommending ← getRiskConfig
  let advancing ← getRiskConfig
  let charging ← getRiskConfig
  let result : RiskScoreResult :=
    { invoiceId
      factors
      finalScore
      recommendation := determineRecommendation recommending finalScore
      maxAdvancePct := determineMaxAdvance advancing finalScore
      riskPremiumRate := determineRiskPremium charging finalScore }
  transaction (persistScoreTxn result) fun _ => .invoiceScored invoiceId result.recommendation
  queueNext cfg invoiceId result.recommendation
  log "INVOICE_SCORED"
  return result

/-! ## The system -/

/-- The operation that writes. -/
inductive Op
  | scoreInvoice (invoiceId : ℕ)

/-- The body of the operation. -/
def program (cfg : Config) : Op → Call Unit
  | .scoreInvoice invoiceId => (scoreInvoice cfg invoiceId).discard

end Ris.RiskEngine
