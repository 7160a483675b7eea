import RisPlatform.Common.Table
import RisPlatform.Common.RelyGuarantee
import RisPlatform.Common.Binary64
import RisPlatform.Common.Binary64Decimal
import RisPlatform.Common.Binary64Order
import RisPlatform.Common.DecimalContext
import RisPlatform.Schema
import RisPlatform.Calls
import RisPlatform.Collateral
import RisPlatform.Payments.Repository
import RisPlatform.Payments.Service
import RisPlatform.Payments.Transactions
import RisPlatform.Payments.Protocol
import RisPlatform.Payments.Conformance
import RisPlatform.Payments.DualAuth
import RisPlatform.Payments.KillSwitch
import RisPlatform.Payments.Resumption
import RisPlatform.Payments.Retry
import RisPlatform.Payments.Funding
import RisPlatform.Payments.Headroom
import RisPlatform.Payments.InFlight
import RisPlatform.Payments.Disbursement
import RisPlatform.Payments.Terminal
import RisPlatform.Payments.Frame
import RisPlatform.Common.FixedWidth
import RisPlatform.Payments.UgandaAch
import RisPlatform.Triples
import RisPlatform.Alone
import RisPlatform.Facilities.Repository
import RisPlatform.Facilities.Service
import RisPlatform.Facilities.Ledger
import RisPlatform.Facilities.Conformance
import RisPlatform.Facilities.Balance
import RisPlatform.Pricing.Repository
import RisPlatform.Pricing.Service
import RisPlatform.Pricing.Transactions
import RisPlatform.Pricing.Protocol
import RisPlatform.Pricing.Decisions
import RisPlatform.Pricing.ReadBack
import RisPlatform.Approvals.Service
import RisPlatform.Approvals.Queue
import RisPlatform.Approvals.Transactions
import RisPlatform.Approvals.Protocol
import RisPlatform.Approvals.Frame
import RisPlatform.Approvals.Docket
import RisPlatform.Approvals.Quorum
import RisPlatform.Approvals.Tiers
import RisPlatform.Approvals.Verdicts
import RisPlatform.Origination.Protocol
import RisPlatform.Origination.Withdrawal
import RisPlatform.Origination.Conformance
import RisPlatform.Origination.Consent
import RisPlatform.Origination.Agreement
import RisPlatform.Origination.FixedPrice
import RisPlatform.Facilities.Accrual
import RisPlatform.Facilities.Interest
import RisPlatform.Collections.Repository
import RisPlatform.Collections.Service
import RisPlatform.Collections.Protocol
import RisPlatform.Collections.Conformance
import RisPlatform.Collections.Ledger
import RisPlatform.Collections.FullPayment
import RisPlatform.Collections.Documents
import RisPlatform.Collections.DocumentProtocol
import RisPlatform.Collections.SentOnce
import RisPlatform.Collections.Endpoints
import RisPlatform.Collections.Statuses
import RisPlatform.Collections.Resolution
import RisPlatform.Collections.SinglePayment
import RisPlatform.Collections.Escalation
import RisPlatform.Collections.Monitoring
import RisPlatform.Common.Solo
import RisPlatform.Common.Sequential
import RisPlatform.Collections.Job
import RisPlatform.Collections.Calendar
import RisPlatform.Invoices.Repository
import RisPlatform.Invoices.Service
import RisPlatform.Invoices.Transactions
import RisPlatform.Invoices.Protocol
import RisPlatform.Invoices.DraftPath
import RisPlatform.Invoices.Tenor
import RisPlatform.Verification.Service
import RisPlatform.RiskEngine.Repository
import RisPlatform.RiskEngine.Service
import RisPlatform.RiskEngine.ScoreRange
import RisPlatform.RiskEngine.BestCollateral
import RisPlatform.RiskEngine.Terms
import RisPlatform.RiskEngine.Concentration
import RisPlatform.Compliance.AmlClearance
import RisPlatform.Verification.Protocol
import RisPlatform.RiskEngine.Protocol
import RisPlatform.Compliance.ClearedOnce
import RisPlatform.Collateral.Service
import RisPlatform.Collateral.Security
import RisPlatform.Origination.AmlHold
import RisPlatform.Settlements.Repository
import RisPlatform.Settlements.Service
import RisPlatform.Settlements.Protocol
import RisPlatform.Settlements.Lifecycle
import RisPlatform.Settlements.Profit
import RisPlatform.Settlements.Initiation
import RisPlatform.Auth.Repository
import RisPlatform.Auth.Service
import RisPlatform.Auth.Protocol
import RisPlatform.Auth.Lockout
import RisPlatform.Common.Histories
import RisPlatform.Auth.Refresh
import RisPlatform.Auth.SingleUse
import RisPlatform.Auth.PasswordHistory
import RisPlatform.RiskEngine.Defaults
import RisPlatform.Common.Regex
import RisPlatform.Common.Utf16
import RisPlatform.Shared.XssSanitize
import RisPlatform.Shared.Crypto
import RisPlatform.Shared.WorkingDays
import RisPlatform.Common.HashChain
import RisPlatform.Backend.Core
import RisPlatform.Backend.Audit.Engine
import RisPlatform.Backend.Audit.Chain
import RisPlatform.Backend.Audit.Tamper
import RisPlatform.Common.Runs
import RisPlatform.Backend.Invoices.Views
import RisPlatform.Backend.Payments.Views
import RisPlatform.Backend.Payments.Disbursement
import RisPlatform.Backend.Approvals.Views
import RisPlatform.Backend.Collections.Views
import RisPlatform.Backend.Lifecycle
import RisPlatform.Common.RoundAway
import RisPlatform.Backend.Collections.Columns
import RisPlatform.Backend.Pricing.Calculator
import RisPlatform.Backend.Pricing.Identity
import RisPlatform.Backend.Collections.Recovery
import RisPlatform.Backend.Settlements.Waterfall
import RisPlatform.Onboarding.MakerChecker
import RisPlatform.Onboarding.Transitions
import RisPlatform.Onboarding.DecidedOnce
import RisPlatform.Onboarding.Sanctions
import RisPlatform.Documents.ReadBack
import RisPlatform.Settings.ConfigChanges
import RisPlatform.Common.Constraints
import RisPlatform.Approvals.Migrations
import RisPlatform.Facilities.Frame
import RisPlatform.Facilities.LiveDrawdown
import RisPlatform.Facilities.Utilisation
import RisPlatform.Settlements.FacilityLeg
import RisPlatform.Invoices.Structuring
import RisPlatform.Pricing.ActiveFacility
import RisPlatform.Common.Columns
import RisPlatform.BackgroundSteps
import RisPlatform.Collections.Frame
import RisPlatform.Collections.Exposure
import RisPlatform.Common.Relabel
import RisPlatform.Auth.SecondFactor
import RisPlatform.Common.ScaledDecimal
import RisPlatform.Common.Binary64Scaled
import RisPlatform.Facilities.DailyInterest
import RisPlatform.Collections.Penalty
import RisPlatform.Pricing.Amounts
import RisPlatform.Collateral.Coverage
import RisPlatform.Collateral.Atomicity
import RisPlatform.Collateral.Expiry
import RisPlatform.Collections.Sar
import RisPlatform.Collections.ManualEscalation
import RisPlatform.Facilities.CatchUp
import RisPlatform.Notifications.Delivery
import RisPlatform.Backend.RiskEngine.Monotone
import RisPlatform.Onboarding.Throttle
import RisPlatform.Notifications.Breaker
import RisPlatform.Common.Csv
import RisPlatform.Reporting.AuditExport
import RisPlatform.Payments.BusinessHours
import RisPlatform.Pricing.BankCost
import RisPlatform.Common.LeftJoin
import RisPlatform.Reporting.Repository
import RisPlatform.Reporting.Profit
import RisPlatform.Platform
import RisPlatform.Shared.MigrationRunner
import RisPlatform.Frontend.Axios
import RisPlatform.Common.KeyedTree
import RisPlatform.Frontend.CaseConvert
import RisPlatform.Reporting.Portfolio
import RisPlatform.Complaints.Service
import RisPlatform.Shared.RiskConfig
import RisPlatform.Onboarding.Registration
import RisPlatform.Onboarding.Admission
