import RisPlatform.Settlements.Repository

/-!
# `settlements.service.ts`

A settlement is to go through four statuses, one operation for each step. Every operation reads the
settlement and checks its status first, and then updates it in a transaction that checks nothing again. The
transaction of a step sets the status, which the database refuses.
-/

namespace Ris.Settlements

open Relational Concurrent

/-! ## Status transitions -/

def allowedTransitions : SettlementStatus → List SettlementStatus
  | .pending => [.facilityRepaid]
  | .facilityRepaid => [.profitBooked]
  | .profitBooked => [.closed]
  | .closed => []

def assertTransition (current next : SettlementStatus) : Except RisError Unit :=
  if next ∈ allowedTransitions current then pure ()
  else
    throw (.businessRule "SETTLEMENT_WRONG_STATUS"
      ("Cannot transition settlement from '" ++ current.text ++ "' to '" ++ next.text ++ "'"))

/-- The settlement must exist. -/
def foundOrThrow (id : ℕ) : Option Settlement → Except RisError Settlement
  | some settlement => pure settlement
  | none => throw (.notFound "Settlement" id)

def getSettlementOrThrow (id : ℕ) : Call Settlement := do
  let found ← query (getSettlementById id)
  foundOrThrow id found

/-- An audit row of a step. -/
def stepAudit (cfg : Config) (user : Actor) (action : String) (settlementId : ℕ)
    (prevStatus status : SettlementStatus) (details : List (String × Json)) (req : Request) : Tx Unit :=
  createAuditEntryWithClient cfg user action settlementId [("status", .text prevStatus.text)]
    (("status", .text status.text) :: details) req

/-! ## Initiation -/

structure InitiateParams where
  invoiceId : ℕ
  collectionId : ℕ
  buyerPaymentAmount : ℤ
  penaltyIncome : ℤ
  user : Actor
  req : Request
  idempotencyKey : SettlementKey

/-- The row of a new settlement. -/
def InitiateParams.row (p : InitiateParams) (drawdown : Option FacilityDrawdown) (settlementId : ℕ) :
    Settlement where
  id := settlementId
  invoiceId := p.invoiceId
  collectionId := p.collectionId
  drawdownId := drawdown.map FacilityDrawdown.id
  buyerPaymentAmount := p.buyerPaymentAmount
  facilityRepaymentAmount := (drawdown.map FacilityDrawdown.principal).getD 0
  accruedInterest := (drawdown.map FacilityDrawdown.accruedInterest).getD 0
  penaltyIncome := p.penaltyIncome
  idempotencyKey := p.idempotencyKey

/-- The transaction of an initiation: the id that was drawn, and the row. -/
def executeInitiateTxn (cfg : Config) (p : InitiateParams) (drawdown : Option FacilityDrawdown) :
    Tx (ℕ × Settlement) := do
  let i ← Txn.input
  let settlement ← createSettlementWithClient (p.row drawdown i.uuid)
  createAuditEntryWithClient cfg p.user "SETTLEMENT_INITIATED" i.uuid []
    [("invoiceId", .id p.invoiceId), ("status", .text SettlementStatus.pending.text)] p.req
  return (i.uuid, settlement)

def runFreshInitiateSettlement (cfg : Config) (p : InitiateParams) : Call Settlement := do
  let drawdown ← query (findDrawdownForInvoice p.invoiceId)
  let (_, settlement) ←
    transaction (executeInitiateTxn cfg p drawdown)
      fun r => .settlementInitiated p.invoiceId r.1 r.2.id
  log "SETTLEMENT_INITIATED"
  return settlement

/-- What a lookup by the key says about the settlement that is returned. -/
def replayEvent (invoiceId : ℕ) : Option Settlement → Event
  | some replay => .settlementReplayed invoiceId replay.id
  | none => .read

def initiateSettlement (cfg : Config) (p : InitiateParams) : Call Settlement := do
  let replay ← query (getSettlementByIdempotencyKey p.idempotencyKey) (replayEvent p.invoiceId)
  match replay with
  | some replay => do
    log "Settlement idempotency replay"
    return replay
  | none => do
    match ← query (getSettlementByInvoiceId p.invoiceId) with
    | some _ =>
      throw (.businessRule "SETTLEMENT_ALREADY_EXISTS" "Settlement already exists for this invoice")
    | none => runFreshInitiateSettlement cfg p

/-! ## The steps -/

def executeRepayFacilityTxn (cfg : Config) (settlementId : ℕ)
    (facilityRepaymentAmount accruedInterest : ℤ) (prevStatus : SettlementStatus) (userId : ℕ)
    (req : Request) : Tx (Option Settlement) := do
  updateFacilityRepaymentWithClient settlementId facilityRepaymentAmount accruedInterest
  let updated ← updateSettlementStatusWithClient settlementId .facilityRepaid (some userId)
  stepAudit cfg (.user userId) "SETTLEMENT_FACILITY_REPAID" settlementId prevStatus .facilityRepaid
    [("facilityRepaymentAmount", .text (toString facilityRepaymentAmount))] req
  return updated

theorem executeRepayFacilityTxn_refused (cfg : Config) (settlementId : ℕ)
    (facilityRepaymentAmount accruedInterest : ℤ) (prevStatus : SettlementStatus) (userId : ℕ)
    (req : Request) :
    Txn.Refused (executeRepayFacilityTxn cfg settlementId facilityRepaymentAmount accruedInterest prevStatus
      userId req) :=
  Txn.refused_bind_right fun _ => Txn.refused_bind_left (updateSettlementStatusWithClient_refused _ _ _)

/-- Store the amounts that were repaid to the bank. -/
def repayFacility (cfg : Config) (settlementId : ℕ) (facilityRepaymentAmount accruedInterest : ℤ)
    (userId : ℕ) (req : Request) : Call (Option Settlement) := do
  let settlement ← getSettlementOrThrow settlementId
  assertTransition settlement.status .facilityRepaid
  let updated ←
    transaction (executeRepayFacilityTxn cfg settlementId facilityRepaymentAmount accruedInterest
        settlement.status userId req)
      fun _ => .facilityRepaid settlementId
  log "SETTLEMENT_FACILITY_REPAID"
  return updated

def calculateNetProfit (discountEarned bankCostPaid penaltyIncome : ℤ) : ℤ :=
  discountEarned - bankCostPaid + penaltyIncome

structure BookProfitParams where
  settlementId : ℕ
  discountEarned : ℤ
  bankCostPaid : ℤ
  penaltyIncome : ℤ
  userId : ℕ

/-- The row of a new booking. -/
def BookProfitParams.row (p : BookProfitParams) (netProfit : ℤ) (id : ℕ) : ProfitBooking where
  id := id
  settlementId := p.settlementId
  discountEarned := p.discountEarned
  bankCostPaid := p.bankCostPaid
  penaltyIncome := p.penaltyIncome
  netProfit := netProfit
  bookedBy := p.userId

def executeBookProfitTxn (cfg : Config) (p : BookProfitParams) (netProfit : ℤ)
    (prevStatus : SettlementStatus) (req : Request) : Tx (Option Settlement) := do
  let i ← Txn.input
  createProfitBookingWithClient (p.row netProfit i.uuid)
  updateNetProfitWithClient p.settlementId netProfit
  let updated ← updateSettlementStatusWithClient p.settlementId .profitBooked (some p.userId)
  stepAudit cfg (.user p.userId) "SETTLEMENT_PROFIT_BOOKED" p.settlementId prevStatus .profitBooked
    [("netProfit", .text (toString netProfit))] req
  return updated

theorem executeBookProfitTxn_refused (cfg : Config) (p : BookProfitParams) (netProfit : ℤ)
    (prevStatus : SettlementStatus) (req : Request) :
    Txn.Refused (executeBookProfitTxn cfg p netProfit prevStatus req) :=
  Txn.refused_bind_right fun _ => Txn.refused_bind_right fun _ => Txn.refused_bind_right fun _ =>
    Txn.refused_bind_left (updateSettlementStatusWithClient_refused _ _ _)

/-- Compute and record the net profit. -/
def bookProfit (cfg : Config) (settlementId : ℕ) (discountEarned bankCostPaid : ℤ) (userId : ℕ)
    (req : Request) : Call (Option Settlement) := do
  let settlement ← getSettlementOrThrow settlementId
  assertTransition settlement.status .profitBooked
  let netProfit := calculateNetProfit discountEarned bankCostPaid settlement.penaltyIncome
  let updated ←
    transaction (executeBookProfitTxn cfg
        { settlementId, discountEarned, bankCostPaid, penaltyIncome := settlement.penaltyIncome, userId }
        netProfit settlement.status req)
      fun _ => .profitBooked settlementId
  log "SETTLEMENT_PROFIT_BOOKED"
  return updated

def executeCloseTxn (cfg : Config) (settlementId : ℕ) (prevStatus : SettlementStatus) (userId : ℕ)
    (req : Request) : Tx (Option Settlement) := do
  let updated ← updateSettlementStatusWithClient settlementId .closed (some userId)
  stepAudit cfg (.user userId) "SETTLEMENT_CLOSED" settlementId prevStatus .closed [] req
  return updated

theorem executeCloseTxn_refused (cfg : Config) (settlementId : ℕ) (prevStatus : SettlementStatus)
    (userId : ℕ) (req : Request) :
    Txn.Refused (executeCloseTxn cfg settlementId prevStatus userId req) :=
  Txn.refused_bind_left (updateSettlementStatusWithClient_refused _ _ _)

/-- Reading a field of a row that is not there throws. -/
def updatedRow : Option Settlement → Except RisError Settlement
  | some updated => pure updated
  | none => throw (.runtime "Cannot read properties of null (reading 'net_profit')")

def queueSettlementNotification (cfg : Config) (invoiceId settlementId : ℕ) (netProfit : ℤ) :
    Call Unit :=
  enqueueOrWarn cfg
    { queue := .notification, name := "settlement_complete"
      data := [("invoiceId", .id invoiceId), ("settlementId", .id settlementId),
        ("netProfit", .text (toString netProfit))] }
    "settlements: notification queue not configured"

/-- The last step; the supplier is notified. -/
def closeSettlement (cfg : Config) (settlementId userId : ℕ) (req : Request) : Call Settlement := do
  let settlement ← getSettlementOrThrow settlementId
  assertTransition settlement.status .closed
  let updated ←
    transaction (executeCloseTxn cfg settlementId settlement.status userId req)
      fun _ => .settlementClosed settlementId
  log "SETTLEMENT_CLOSED"
  let updated ← updatedRow updated
  queueSettlementNotification cfg settlement.invoiceId settlementId updated.netProfit
  return updated

/-! ## The callers -/

/-- The payload of a job that initiates a settlement. -/
structure SettlementJobPayload where
  invoiceId : ℕ
  collectionId : ℕ
  amount : ℤ
  penaltyAmount : ℤ

/-- A job of the worker. A job that is tried again has the same key. -/
def handleSettlementJob (cfg : Config) (data : SettlementJobPayload) : Call Unit :=
  (initiateSettlement cfg
    { invoiceId := data.invoiceId
      collectionId := data.collectionId
      buyerPaymentAmount := data.amount
      penaltyIncome := data.penaltyAmount
      user := .system
      req := { ipAddress := some "0.0.0.0", userAgent := some "scheduled-worker" }
      idempotencyKey := .derived data.invoiceId data.collectionId }).discard

/-- A request of a finance manager, with the key that is drawn for it. -/
def initiateHandler (cfg : Config) (data : SettlementJobPayload) (userId uuid : ℕ) (req : Request) :
    Call Unit :=
  (initiateSettlement cfg
    { invoiceId := data.invoiceId
      collectionId := data.collectionId
      buyerPaymentAmount := data.amount
      penaltyIncome := data.penaltyAmount
      user := .user userId
      req := req
      idempotencyKey := .drawn data.invoiceId uuid }).discard

/-! ## The system -/

/-- The operations on settlements. -/
inductive Op
  | handleSettlementJob (data : SettlementJobPayload)
  | initiateHandler (data : SettlementJobPayload) (userId uuid : ℕ) (req : Request)
  | repayFacility (settlementId : ℕ) (facilityRepaymentAmount accruedInterest : ℤ) (userId : ℕ)
      (req : Request)
  | bookProfit (settlementId : ℕ) (discountEarned bankCostPaid : ℤ) (userId : ℕ) (req : Request)
  | closeSettlement (settlementId userId : ℕ) (req : Request)

/-- The body of each operation. -/
def program (cfg : Config) : Op → Call Unit
  | .handleSettlementJob data => handleSettlementJob cfg data
  | .initiateHandler data userId uuid req => initiateHandler cfg data userId uuid req
  | .repayFacility settlementId facilityRepaymentAmount accruedInterest userId req =>
    (repayFacility cfg settlementId facilityRepaymentAmount accruedInterest userId req).discard
  | .bookProfit settlementId discountEarned bankCostPaid userId req =>
    (bookProfit cfg settlementId discountEarned bankCostPaid userId req).discard
  | .closeSettlement settlementId userId req => (closeSettlement cfg settlementId userId req).discard

end Ris.Settlements
