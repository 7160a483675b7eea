import Mathlib.Data.Rat.Defs
import RisPlatform.Common.Columns
import RisPlatform.Common.Parameters
import RisPlatform.Common.Process
import RisPlatform.Common.Table

/-!
# The platform's data

The rows of the database tables that the modelled services read and write, the job queues, the errors
the services throw, and `World`, the store that every call shares.

Row ids are UUIDs; they are only compared, so they are natural numbers here. Money is whole UGX
(`BIGINT`), rates are decimals (`NUMERIC`), timestamps are milliseconds and dates are days since 1970.
-/

namespace Ris

open Relational

/-! ## Errors -/

/-- `shared/errors`, and what the database driver and the queues throw. -/
inductive RisError
  | businessRule (errorCode message : String)
  | notFound (entityType : String) (entityId : ℕ)
  | payment (message : String)
  | auth (message : String)
  | validation (message field detail : String)
  | forbidden (message : String := "You do not have permission to perform this action")
  | runtime (message : String)
  deriving DecidableEq

/-- The `message` of the error object. -/
def RisError.message : RisError → String
  | .businessRule _ message => message
  | .notFound entityType _ => entityType ++ " not found"
  | .payment message => message
  | .auth message => message
  | .validation message _ _ => message
  | .forbidden message => message
  | .runtime message => message

/-- A statement is sent without the types of its parameters. -/
def prepare (uses : List (ParamUse ColumnType)) : Except RisError Unit :=
  Parameters.analyse
    (fun param => .runtime ("inconsistent types deduced for parameter $" ++ toString param)) uses

/-! ## Enumerated columns -/

/-- `payment_status`. -/
inductive PaymentStatus
  | pendingFirstAuth | pendingSecondAuth | executing | funded | failed | reversed
  deriving DecidableEq

def PaymentStatus.text : PaymentStatus → String
  | .pendingFirstAuth => "pending_first_auth"
  | .pendingSecondAuth => "pending_second_auth"
  | .executing => "executing"
  | .funded => "funded"
  | .failed => "failed"
  | .reversed => "reversed"

/-- `InvoiceStatus`; the database type `invoice_status` has no `'withdrawn'`. -/
inductive InvoiceStatus
  | draft | submitted | buyerConfirmed | scored | priced | approved | rejected | pendingFirstAuth
  | pendingSecondAuth | executing | funded | collecting | overdue | collected | defaulted | cancelled
  | withdrawn
  deriving DecidableEq

def InvoiceStatus.text : InvoiceStatus → String
  | .draft => "draft"
  | .submitted => "submitted"
  | .buyerConfirmed => "buyer_confirmed"
  | .scored => "scored"
  | .priced => "priced"
  | .approved => "approved"
  | .rejected => "rejected"
  | .pendingFirstAuth => "pending_first_auth"
  | .pendingSecondAuth => "pending_second_auth"
  | .executing => "executing"
  | .funded => "funded"
  | .collecting => "collecting"
  | .overdue => "overdue"
  | .collected => "collected"
  | .defaulted => "defaulted"
  | .cancelled => "cancelled"
  | .withdrawn => "withdrawn"

/-- The providers the code still writes; `payment_method` keeps two legacy values besides. -/
inductive PaymentProvider
  | eft | mock
  deriving DecidableEq

def PaymentProvider.text : PaymentProvider → String
  | .eft => "EFT"
  | .mock => "MOCK"

/-- `bank_facilities.status`. -/
inductive FacilityStatus
  | active | suspended | matured | closed
  deriving DecidableEq

/-- `facility_drawdowns.status`. -/
inductive DrawdownStatus
  | active | repaid | overdue
  deriving DecidableEq

/-- `collection_status`; the enumeration in the code has none of `reminder_sent`, `partial_payment` and
`defaulted`. -/
inductive CollectionStatus
  | pending | reminderSent | overdue | partialPayment | collected | defaulted | reminded | escalated
  | badDebt
  deriving DecidableEq

def CollectionStatus.text : CollectionStatus → String
  | .pending => "pending"
  | .reminderSent => "reminder_sent"
  | .overdue => "overdue"
  | .partialPayment => "partial_payment"
  | .collected => "collected"
  | .defaulted => "defaulted"
  | .reminded => "reminded"
  | .escalated => "escalated"
  | .badDebt => "bad_debt"

/-- `CollectionPaymentMethod`. -/
inductive CollectionPaymentMethod
  | bankTransfer | cash | cheque
  deriving DecidableEq

def CollectionPaymentMethod.text : CollectionPaymentMethod → String
  | .bankTransfer => "bank_transfer"
  | .cash => "cash"
  | .cheque => "cheque"

/-- `approvals.tier`. -/
inductive ApprovalTier
  | auto | tier2 | tier3 | tier4
  deriving DecidableEq

def ApprovalTier.text : ApprovalTier → String
  | .auto => "AUTO"
  | .tier2 => "TIER_2"
  | .tier3 => "TIER_3"
  | .tier4 => "TIER_4"

/-- `approvals.decision`, as far as the approvals service writes it. -/
inductive ApprovalDecision
  | approved | rejected
  deriving DecidableEq

def ApprovalDecision.text : ApprovalDecision → String
  | .approved => "APPROVED"
  | .rejected => "REJECTED"

/-- `pricing_disputes.reason`. -/
inductive DisputeReason
  | rateTooHigh | advanceTooLow | tenorMismatch | calculationError | other
  deriving DecidableEq

def DisputeReason.text : DisputeReason → String
  | .rateTooHigh => "rate_too_high"
  | .advanceTooLow => "advance_too_low"
  | .tenorMismatch => "tenor_mismatch"
  | .calculationError => "calculation_error"
  | .other => "other"

/-- `kyc_status`. -/
inductive KycStatus
  | pending | documentsSubmitted | underReview | approved | rejected
  deriving DecidableEq

/-- `credit_rating`. -/
inductive CreditRating
  | a | b | c | d
  deriving DecidableEq

/-- `collateral_type`. -/
inductive CollateralType
  | bankGuarantee | fixedDepositLien | assignmentOfReceivables | performanceBond
  | postDatedChequeFullValue | corporateGuarantee | none
  deriving DecidableEq

def CollateralType.text : CollateralType → String
  | .bankGuarantee => "bank_guarantee"
  | .fixedDepositLien => "fixed_deposit_lien"
  | .assignmentOfReceivables => "assignment_of_receivables"
  | .performanceBond => "performance_bond"
  | .postDatedChequeFullValue => "post_dated_cheque_full_value"
  | .corporateGuarantee => "corporate_guarantee"
  | .none => "none"

/-- `RiskRecommendation`. -/
inductive RiskRecommendation
  | autoApprove | referToManager | reject
  deriving DecidableEq

def RiskRecommendation.text : RiskRecommendation → String
  | .autoApprove => "AUTO_APPROVE"
  | .referToManager => "REFER_TO_MANAGER"
  | .reject => "REJECT"

/-- `EscalationDocumentType`. -/
inductive EscalationDocumentType
  | demandLetter | legalNotice | reminderLetter
  deriving DecidableEq

def EscalationDocumentType.text : EscalationDocumentType → String
  | .demandLetter => "demand_letter"
  | .legalNotice => "legal_notice"
  | .reminderLetter => "reminder_letter"

/-- `EscalationDocumentStatus`. -/
inductive EscalationDocumentStatus
  | draft | finalized | sent
  deriving DecidableEq

/-- `settlement_status`. -/
inductive SettlementStatus
  | pending | facilityRepaid | profitBooked | closed
  deriving DecidableEq

def SettlementStatus.text : SettlementStatus → String
  | .pending => "pending"
  | .facilityRepaid => "facility_repaid"
  | .profitBooked => "profit_booked"
  | .closed => "closed"

/-- Who acts: a user, or the system under the name `'SYSTEM'`. -/
inductive Actor
  | system
  | user (id : ℕ)
  deriving DecidableEq

/-- The actor as a value of a `UUID` column. -/
def Actor.uuid : Actor → Except RisError ℕ
  | .user id => pure id
  | .system => throw (.runtime "invalid input syntax for type uuid: \"SYSTEM\"")

/-! ## Rows -/

/-- A row of `invoices`. A null `tier3_rejection_count` reads as 0. Hashes are only compared, so the hash
of a confirmation token is represented by the token. -/
structure Invoice where
  id : ℕ
  supplierId : ℕ
  buyerId : ℕ
  faceValue : ℤ
  advanceAmount : Option ℤ
  discountAmount : Option ℤ
  netPaymentToSupplier : Option ℤ
  status : InvoiceStatus
  tenorDays : Option ℤ
  dueDate : ℤ
  amlFlagged : Bool
  amlClearedAt : Option ℤ
  pricingAcceptedAt : Option ℤ
  pricingAcceptedBy : Option ℕ
  pricingRejectedAt : Option ℤ
  pricingRejectionReason : Option String
  pricingDisputedAt : Option ℤ
  fundedAt : Option ℤ
  tier3RejectionCount : ℤ := 0
  invoiceNumber : String := ""
  description : String := ""
  slaDeadline : Option ℤ := none
  uraEfrisRef : Option String := none
  efrisVerifiedAt : Option ℤ := none
  fundingTimelineDays : Option ℤ := none
  confirmationTokenHash : Option String := none
  confirmationTokenExpiresAt : Option ℤ := none
  buyerConfirmedAt : Option ℤ := none
  amlClearedBy : Option ℕ := none
  amlClearanceReason : Option String := none
  createdAt : ℤ := 0

/-- A row of `buyers`. -/
structure Buyer where
  id : ℕ
  risMarginRate : ℚ
  usedLimit : ℤ := 0
  paymentScore : ℤ := 0
  approvedLimit : ℤ := 1
  creditRating : CreditRating := .d
  isActive : Bool := true
  companyName : String := ""
  /-- Decrypted; a missing address reads as the empty text. -/
  contactEmail : String := ""

/-- A row of `risk_scores`; the pricing columns are null until the invoice is priced. -/
structure RiskScore where
  id : ℕ
  invoiceId : ℕ
  finalScore : ℤ
  maxAdvancePct : ℚ
  riskPremiumRate : ℚ
  bankCostRate : Option ℚ
  risMarginRate : Option ℚ
  totalDiscountRate : Option ℚ
  advanceAmount : Option ℤ
  discountAmount : Option ℤ
  netPaymentToSupplier : Option ℤ
  buyerCreditScore : ℚ := 0
  tenorScore : ℚ := 0
  trackRecordScore : ℚ := 0
  concentrationScore : ℚ := 0
  collateralScore : ℚ := 0
  recommendation : RiskRecommendation := .autoApprove
  scoredBy : String := "SYSTEM"

/-- A row of `approvals`. -/
structure Approval where
  id : ℕ
  invoiceId : ℕ
  tier : ApprovalTier
  decision : ApprovalDecision
  approverId : Actor
  comments : String
  creditMemo : Option String
  reviewSummary : Option String

/-- A row of `pricing_disputes`. -/
structure PricingDispute where
  id : ℕ
  invoiceId : ℕ
  submittedBy : ℕ
  reason : DisputeReason
  proposedRate : Option ℚ
  proposedAdvancePct : Option ℚ
  notes : Option String
  submittedAt : ℤ
  slaDeadline : ℤ

/-- A row of `suppliers`. -/
structure Supplier where
  id : ℕ
  userId : ℕ
  preferredPaymentMethod : String
  kycStatus : KycStatus := .pending

/-- A row of `users`. A hash of a password is only compared with passwords, so it is represented by the
password; the same goes for the hashes of tokens and codes below. -/
structure User where
  id : ℕ
  last2faVerifiedAt : Option ℤ
  email : String := ""
  passwordHash : String := ""
  role : String := ""
  isActive : Bool := true
  emailVerified : Bool := false
  twoFactorEnabled : Bool := false
  twoFactorSecret : Option String := none
  failedLoginCount : ℤ := 0
  lockedUntil : Option ℤ := none

/-- A row of `password_history`. -/
structure PasswordHistory where
  id : ℕ
  userId : ℕ
  passwordHash : String

/-- A row of `password_reset_tokens`. -/
structure PasswordResetToken where
  id : ℕ
  userId : ℕ
  tokenHash : String
  expiresAt : ℤ
  usedAt : Option ℤ := none

/-- A row of `email_verification_tokens`. -/
structure EmailVerificationToken where
  id : ℕ
  userId : ℕ
  tokenHash : String
  expiresAt : ℤ
  verifiedAt : Option ℤ := none

/-- A row of `totp_backup_codes`. -/
structure BackupCode where
  id : ℕ
  userId : ℕ
  codeHash : String
  usedAt : Option ℤ := none

/-- A row of `login_history`; no country is ever known. -/
structure LoginHistory where
  userId : Option ℕ
  ipAddress : String
  userAgent : String
  success : Bool
  createdAt : ℤ

/-- A session in Redis, with the time its key expires. -/
structure Session where
  sessionId : ℕ
  userId : ℕ
  role : String
  expiresAt : ℤ

/-- The payload of a refresh token; `iat` and `exp` are in seconds. -/
structure RefreshToken where
  userId : ℕ
  sessionId : ℕ
  iat : ℤ
  exp : ℤ
  deriving DecidableEq

/-- A key of the blocklist of refresh tokens in Redis, with the time it expires. -/
structure BlockedToken where
  sessionId : ℕ
  iat : ℤ
  expiresAt : ℤ
  deriving DecidableEq

/-- A row of `system_settings`. -/
structure SystemSetting where
  key : String
  value : String

/-- A row of `payments`. -/
structure Payment where
  id : ℕ
  invoiceId : ℕ
  amount : ℤ
  provider : PaymentProvider
  status : PaymentStatus
  idempotencyKey : String
  dualAuthUser1 : Option ℕ
  dualAuthTimestamp1 : Option ℤ
  dualAuthUser2 : Option ℕ
  dualAuthTimestamp2 : Option ℤ
  transactionReference : Option String
  providerReference : Option String
  fundedAt : Option ℤ
  failureReason : Option String
  deriving DecidableEq

/-- A row of `bank_facilities`. -/
structure BankFacility where
  id : ℕ
  facilityName : String
  bankName : String
  totalLimit : ℤ
  drawnAmount : ℤ
  annualRate : ℚ
  interestRateAnnual : ℚ
  maturityDate : ℤ
  status : FacilityStatus
  isActive : Bool

/-- The column `available_amount`, which the trigger `update_available_amount` recomputes on every
write. -/
def BankFacility.availableAmount (f : BankFacility) : ℤ := f.totalLimit - f.drawnAmount

/-- A row of `facility_drawdowns`. -/
structure FacilityDrawdown where
  id : ℕ
  facilityId : ℕ
  invoiceId : ℕ
  principal : ℤ
  accruedInterest : ℤ
  bankFees : ℤ
  status : DrawdownStatus
  /-- `drawdown_date` of migration 001; the date of `created_at` in the table of migration 006. -/
  drawdownDate : ℤ
  lastAccruedDate : ℤ
  deriving DecidableEq

/-- A row of `facility_repayments`. -/
structure FacilityRepayment where
  id : ℕ
  drawdownId : ℕ
  facilityId : ℕ
  principal : ℤ
  interest : ℤ
  bankFees : ℤ
  totalAmount : ℤ

/-- An idempotency key of a settlement: the `uuidv5` of an invoice and a collection, or the `uuidv4` that is
drawn for one request about an invoice. Only keys that are made alike are equal. -/
inductive SettlementKey
  | derived (invoiceId collectionId : ℕ)
  | drawn (invoiceId uuid : ℕ)
  deriving DecidableEq

/-- The invoice that the key is made for. -/
def SettlementKey.invoiceId : SettlementKey → ℕ
  | .derived invoiceId _ => invoiceId
  | .drawn invoiceId _ => invoiceId

/-- A row of `settlements`. -/
structure Settlement where
  id : ℕ
  invoiceId : ℕ
  collectionId : ℕ
  drawdownId : Option ℕ
  buyerPaymentAmount : ℤ
  facilityRepaymentAmount : ℤ
  accruedInterest : ℤ
  penaltyIncome : ℤ
  netProfit : ℤ := 0
  status : SettlementStatus := .pending
  settledBy : Option ℕ := none
  settledAt : Option ℤ := none
  idempotencyKey : SettlementKey
  deriving DecidableEq

/-- A row of `profit_bookings`, which a trigger protects from any change. -/
structure ProfitBooking where
  id : ℕ
  settlementId : ℕ
  discountEarned : ℤ
  bankCostPaid : ℤ
  penaltyIncome : ℤ
  netProfit : ℤ
  bookedBy : ℕ
  deriving DecidableEq

/-- A row of `invoice_disputes`. -/
structure InvoiceDispute where
  id : ℕ
  invoiceId : ℕ
  buyerId : ℕ
  disputeReason : String
  disputeType : String

/-- A row of `collections`. A null `escalation_level` or `total_collected` reads as 0 throughout. -/
structure Collection where
  id : ℕ
  invoiceId : ℕ
  buyerId : ℕ
  faceValue : ℤ
  amountDue : ℤ
  status : CollectionStatus
  daysOverdue : ℤ
  dailyPenaltyRate : ℚ
  penaltyAmount : ℤ
  escalationLevel : ℤ := 0
  escalationDate : Option ℤ := none
  demandNoticeSent : Bool := false
  sarFlagged : Bool := false
  totalCollected : ℤ := 0
  lastPaymentAt : Option ℤ := none
  createdAt : ℤ
  deriving DecidableEq

/-- A row of `collection_payments`. -/
structure CollectionPayment where
  id : ℕ
  collectionId : ℕ
  amount : ℤ
  paymentMethod : CollectionPaymentMethod
  paymentReference : Option String
  paidBy : String
  paidAt : ℤ
  recordedBy : ℕ
  notes : Option String
  deriving DecidableEq

/-- The letter that a document holds, `DemandLetterData`; the sender's details are fixed. -/
structure DemandLetterData where
  buyer : String
  letterDate : ℤ
  reference : String
  dueDate : ℤ
  faceValue : ℤ
  penaltyAccrued : ℤ
  totalOutstanding : ℤ
  deriving DecidableEq

/-- `EscalationDraftParams`; a field that is not given is dropped from the JSON. -/
structure EscalationDraftParams where
  deadlineDays : Option ℤ
  additionalNotes : Option String
  deriving DecidableEq

/-- A row of `escalation_documents`. The encrypted PDF is represented by the letter it was rendered
from, and the address by its plain text. -/
structure EscalationDocument where
  id : ℕ
  collectionId : ℕ
  documentType : EscalationDocumentType
  status : EscalationDocumentStatus := .draft
  content : DemandLetterData
  draftParams : EscalationDraftParams
  generatedBy : ℕ
  finalizedBy : Option ℕ := none
  sentAt : Option ℤ := none
  sentToEmail : Option String := none
  deriving DecidableEq

/-- A row of `collateral`. -/
structure Collateral where
  id : ℕ
  invoiceId : Option ℕ
  value : ℤ
  isActive : Bool
  deletedAt : Option ℤ
  supplierId : ℕ := 0
  collateralType : CollateralType := .none
  description : Option String := none
  currency : String := "UGX"
  expiryDate : Option ℤ := none

/-- A row of `collateral_documents`. -/
structure CollateralDocument where
  collateralId : ℕ
  documentId : ℕ

/-- A value inside the JSON columns of `audit_logs`. -/
inductive Json
  | null
  | bool (b : Bool)
  | int (n : ℤ)
  | rat (q : ℚ)
  | text (s : String)
  | texts (l : List String)
  | id (n : ℕ)
  /-- An object whose values are numbers. -/
  | numbers (fields : List (String × ℚ))
  /-- An object whose values are texts. -/
  | strings (fields : List (String × String))
  deriving DecidableEq

/-- The fields of an object can be searched. -/
instance : LawfulBEq (String × Json) := inferInstance

/-- `value ?? null`. -/
def Json.ofOption {α : Type} (f : α → Json) : Option α → Json
  | some a => f a
  | none => .null

/-- A row of `audit_logs`. -/
structure AuditLog where
  userId : Option ℕ
  action : String
  tableName : String
  recordId : Json
  oldValues : List (String × Json)
  newValues : List (String × Json)
  ipAddress : Option String := none
  userAgent : Option String := none
  deriving DecidableEq

/-- The BullMQ queues the services enqueue to. -/
inductive QueueName
  | notification | facilityDrawdown | collectionMonitoring | approvals | payments
  | facilityRepayment | settlement | riskScoring | pricing | securityAlerts
  deriving DecidableEq

/-- A job on a queue. -/
structure Job where
  queue : QueueName
  name : String
  data : List (String × Json)
  deriving DecidableEq

/-! ## The store -/

/-- The database, Redis and the job queues. -/
structure World where
  invoices : Table Invoice.id
  buyers : Table Buyer.id
  riskScores : Table RiskScore.id
  approvals : Table Approval.id
  pricingDisputes : Table PricingDispute.id
  suppliers : Table Supplier.id
  users : Table User.id
  systemSettings : Table SystemSetting.key
  payments : Table Payment.id
  bankFacilities : Table BankFacility.id
  facilityDrawdowns : Table FacilityDrawdown.id
  facilityRepayments : Table FacilityRepayment.id
  collateral : Table Collateral.id
  collateralDocuments : List CollateralDocument
  collections : Table Collection.id
  collectionPayments : Table CollectionPayment.id
  escalationDocuments : Table EscalationDocument.id
  settlements : Table Settlement.id
  profitBookings : Table ProfitBooking.id
  invoiceDisputes : Table InvoiceDispute.id
  passwordHistory : Table PasswordHistory.id
  passwordResetTokens : Table PasswordResetToken.id
  emailVerificationTokens : Table EmailVerificationToken.id
  totpBackupCodes : Table BackupCode.id
  loginHistory : List LoginHistory
  auditLogs : List AuditLog
  /-- The sessions in Redis. -/
  sessions : Table Session.sessionId
  /-- The blocklist in Redis. -/
  refreshBlocklist : List BlockedToken
  /-- The refresh tokens that were signed; no other text passes for one. -/
  signedTokens : List RefreshToken
  /-- The jobs enqueued so far, oldest first. -/
  jobs : List Job

/-- No rows and no jobs. -/
def World.empty : World where
  invoices := .empty
  buyers := .empty
  riskScores := .empty
  approvals := .empty
  pricingDisputes := .empty
  suppliers := .empty
  users := .empty
  systemSettings := .empty
  payments := .empty
  bankFacilities := .empty
  facilityDrawdowns := .empty
  facilityRepayments := .empty
  collateral := .empty
  collateralDocuments := []
  collections := .empty
  collectionPayments := .empty
  escalationDocuments := .empty
  settlements := .empty
  profitBookings := .empty
  invoiceDisputes := .empty
  passwordHistory := .empty
  passwordResetTokens := .empty
  emailVerificationTokens := .empty
  totpBackupCodes := .empty
  loginHistory := []
  auditLogs := []
  sessions := .empty
  refreshBlocklist := []
  signedTokens := []
  jobs := []

/-- Who sends a request, and from where. -/
structure Request where
  ipAddress : Option String := none
  userAgent : Option String := none

/-- What `calculatePricing` computes from: money, days and rates as JavaScript numbers. -/
structure PricingCalculationInput where
  faceValue : ℤ
  tenorDays : ℤ
  maxAdvancePct : ℚ
  riskPremiumRate : ℚ
  bankCostRate : ℚ
  risMarginRate : ℚ
  deriving DecidableEq

/-- The weights of `risk_config`. -/
structure RiskWeights where
  buyerCredit : ℚ := mkRat 30 100
  tenor : ℚ := mkRat 20 100
  trackRecord : ℚ := mkRat 20 100
  concentration : ℚ := mkRat 15 100
  collateral : ℚ := mkRat 15 100

/-- The values of `risk_config` that scoring reads, as decimals. -/
structure RiskConfig where
  weights : RiskWeights := {}
  thresholdAutoApprove : ℚ := 75
  thresholdReferManager : ℚ := 50
  advancePctHigh : ℚ := mkRat 95 100
  advancePctMid : ℚ := mkRat 90 100
  advancePctLow : ℚ := mkRat 85 100
  premiumScore80Plus : ℚ := 0
  premiumScore70To79 : ℚ := mkRat 5 1000
  premiumScore60To69 : ℚ := mkRat 10 1000
  premiumScore50To59 : ℚ := mkRat 15 1000

/-- What a provider adapter answers. -/
structure PaymentProviderResult where
  success : Bool
  transactionReference : String
  providerReference : String
  failureReason : Option String := none
  pendingConfirmation : Bool := false
  deriving DecidableEq

/-- What is fixed when the process starts. -/
structure Config where
  /-- `AML_FLAG_THRESHOLD_UGX`. -/
  amlFlagThreshold : ℤ := 100000000
  /-- `MIN_INVOICE_TENOR_DAYS`. -/
  minTenorDays : ℤ := 7
  /-- `MAX_INVOICE_TENOR_DAYS`. -/
  maxTenorDays : ℤ := 90
  /-- The queues that have been set. -/
  queues : List QueueName :=
    [.notification, .facilityDrawdown, .collectionMonitoring, .approvals, .payments,
      .facilityRepayment, .settlement, .riskScoring, .pricing, .securityAlerts]
  /-- The payment providers that have been registered. -/
  providers : List PaymentProvider := [.eft, .mock]
  /-- `facility_drawdowns` is the table of migration 001, whose `expected_repayment_date` may not be
  null and has no default; the table of migration 006 has no such column. -/
  expectedRepaymentDateRequired : Bool := true
  /-- `approvals` still has `chk_approvals_tier` of migration 007, which knows no `TIER_4`; migration
  013 adds a constraint that does and drops none of that name. -/
  tier4Refused : Bool := true
  /-- `audit_logs.user_id` is the `UUID` of migration 001, which takes no `'SYSTEM'`; the collections
  service passes `'SYSTEM'` for its scheduled jobs. -/
  systemUserRefused : Bool := true
  /-- Neither `invoice_status` nor `chk_invoices_buyer_confirmed` knows the status `'withdrawn'`, which
  the withdrawal of an invoice writes; no migration adds it. -/
  withdrawnRefused : Bool := true
  /-- `audit_logs` is the table of migration 001, which has no columns `entity_type` and `entity_id`; the
  settlements service writes them in each of its transactions. -/
  entityColumnsRefused : Bool := true
  /-- `REFRESH_TOKEN_EXPIRY`, in seconds. -/
  refreshTokenSeconds : ℤ := 604800

/-- What one statement draws from outside the store. -/
structure Input where
  /-- The statement fails with this message: a lost connection, a timeout, a full disk. -/
  fault : Option String := none
  /-- The transaction fails with this message after its last statement. -/
  commitFault : Option String := none
  /-- Which of the matching rows a `LIMIT 1` without `ORDER BY` returns. -/
  choice : ℕ := 0
  /-- `FOR UPDATE NOWAIT` finds the row locked (55P03). -/
  lockNotAvailable : Bool := false
  /-- `NOW()`, `Date.now()`. -/
  now : ℤ := 0
  /-- `uuidv4()`, where an id is needed. -/
  uuid : ℕ := 0
  /-- `uuidv4()`, where a text is needed. -/
  key : String := ""
  /-- The reply of the payment provider, when the call does not throw. -/
  reply : PaymentProviderResult :=
    { success := false, transactionReference := "", providerReference := "" }
  /-- What `getRiskConfigNumber` answers for the coverage ratio; `none` when it throws or is not a
  finite number. -/
  coverageRatio : Option ℚ := none
  /-- What `getRiskConfigValue` answers for the daily penalty rate; `none` when it throws. -/
  dailyPenaltyRate : Option ℚ := some (mkRat 1 1000)
  /-- What `getRiskConfigNumber` answers for the number of rejections that reject a Tier 3 invoice;
  `none` when it is not a number. -/
  tier3AutoRejectThreshold : Option ℚ := some 3
  /-- What `speakeasy.totp.verify` answers. -/
  totpValid : Bool := false
  /-- What `getRecentFailedLoginsByIp` counts; the times of audit rows are left out. -/
  recentFailures : ℕ := 0
  /-- What `getRiskWeights` and `getRiskConfigNumber` answer to the risk engine. -/
  riskConfig : RiskConfig := {}

end Ris
