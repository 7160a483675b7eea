import Mathlib.Data.Int.Notation
import Mathlib.Data.List.Basic
import Mathlib.Order.Basic

/-!
# `onboarding.service.ts`: the eligibility check

The questionnaire before the onboarding, and the throttle of its attempts: the failures of the applicant are
counted in four windows up to now. Each attempt is recorded, unless it is throttled.
-/

namespace Ris.Onboarding.Eligibility

/-! ## Rows -/

/-- A row of `eligibility_checks`; times are in microseconds. -/
structure EligibilityCheck where
  sessionToken : ℕ
  registeredCompany : Bool
  authorizedPerson : Bool
  yearsInBusiness : ℤ
  passed : Bool
  ipAddress : Option String
  email : Option String
  fundingRequirement : Option ℕ
  createdAt : ℤ

inductive Tier
  | fiveMinutes | oneHour | oneDay | thirtyDays
  deriving DecidableEq

def Tier.text : Tier → String
  | .fiveMinutes => "5min"
  | .oneHour => "1hour"
  | .oneDay => "24hour"
  | .thirtyDays => "30day"

/-- The interval of the query that counts for the tier. -/
def Tier.interval : Tier → ℤ
  | .fiveMinutes => 5 * 60 * 1000000
  | .oneHour => 60 * 60 * 1000000
  | .oneDay => 24 * 60 * 60 * 1000000
  | .thirtyDays => 30 * 24 * 60 * 60 * 1000000

structure EligibilityThrottleSignals where
  failCount5min : ℕ
  failCount1hour : ℕ
  failCount24hour : ℕ
  failCount30day : ℕ
  mostRecentPassAt : Option ℤ
  mostRecentFailAt : Option ℤ

/-! ## Queries -/

/-- What the service and the database take from their surroundings: `LOWER`, and `trim` and `toLowerCase`. -/
structure Locale where
  lower : String → String
  trim : String → String
  toLowerCase : String → String

/-- The row has the email, in any case, or the address; what is null is equal to nothing. -/
def matchesKey (locale : Locale) (email ipAddress : Option String) (row : EligibilityCheck) : Bool :=
  (match email, row.email with
    | some e, some e' => locale.lower e' == locale.lower e
    | _, _ => false) ||
  (match ipAddress, row.ipAddress with
    | some ip, some ip' => ip' == ip
    | _, _ => false)

/-- `created_at > NOW() - INTERVAL` -/
def within (interval now : ℤ) (row : EligibilityCheck) : Bool := now - interval < row.createdAt

/-- The rows that the query aggregates. -/
def recent (locale : Locale) (rows : List EligibilityCheck) (email ipAddress : Option String) (now : ℤ) :
    List EligibilityCheck :=
  rows.filter fun row => within Tier.thirtyDays.interval now row && matchesKey locale email ipAddress row

/-- `COUNT(*) FILTER (WHERE passed = false AND ...)`. -/
def failCount (rows : List EligibilityCheck) (tier : Tier) (now : ℤ) : ℕ :=
  rows.countP fun row => !row.passed && within tier.interval now row

/-- `MAX(created_at) FILTER (WHERE passed = ...)` as a `Date`, which has whole milliseconds. -/
def mostRecentAt (passed : Bool) (rows : List EligibilityCheck) : Option ℤ :=
  ((rows.filter fun row => row.passed == passed).map (·.createdAt)).max?.map (· / 1000)

def getEligibilityThrottleSignals (locale : Locale) (rows : List EligibilityCheck)
    (email ipAddress : Option String) (now : ℤ) : EligibilityThrottleSignals :=
  let rows := recent locale rows email ipAddress now
  { failCount5min := failCount rows .fiveMinutes now
    failCount1hour := failCount rows .oneHour now
    failCount24hour := failCount rows .oneDay now
    failCount30day := failCount rows .thirtyDays now
    mostRecentPassAt := mostRecentAt true rows
    mostRecentFailAt := mostRecentAt false rows }

/-! ## The throttle -/

structure ThrottleTier where
  tier : Tier
  failsRequired : ℕ
  retrySeconds : ℕ
  label : String

def THROTTLE_TIERS : List ThrottleTier :=
  [⟨.fiveMinutes, 2, 300, "5 minutes"⟩, ⟨.oneHour, 3, 3600, "1 hour"⟩, ⟨.oneDay, 5, 86400, "24 hours"⟩,
    ⟨.thirtyDays, 7, 86400 * 30, "30 days"⟩]

def EligibilityThrottleSignals.counts (signals : EligibilityThrottleSignals) : Tier → ℕ
  | .fiveMinutes => signals.failCount5min
  | .oneHour => signals.failCount1hour
  | .oneDay => signals.failCount24hour
  | .thirtyDays => signals.failCount30day

/-- From the longest window down. -/
def pickThrottleTier (signals : EligibilityThrottleSignals) : Option ThrottleTier :=
  THROTTLE_TIERS.reverse.find? fun t => t.failsRequired ≤ signals.counts t.tier

/-- The `BusinessRuleError` of a throttled attempt, with its data. -/
structure Throttled where
  errorCode : String
  message : String
  retryAfterSeconds : ℕ
  tier : Tier

def throttled (block : ThrottleTier) : Throttled where
  errorCode := "ELIGIBILITY_THROTTLED"
  message := "Too many failed eligibility attempts. Please try again in " ++ block.label ++ "."
  retryAfterSeconds := block.retrySeconds
  tier := block.tier

/-- There is a pass, and no failure that is as recent. -/
def EligibilityThrottleSignals.forgiven (signals : EligibilityThrottleSignals) : Bool :=
  match signals.mostRecentPassAt, signals.mostRecentFailAt with
  | none, _ => false
  | some _, none => true
  | some pass, some fail => fail < pass

def enforceEligibilityThrottle (locale : Locale) (rows : List EligibilityCheck)
    (email ipAddress : Option String) (now : ℤ) : Except Throttled Unit :=
  let signals := getEligibilityThrottleSignals locale rows email ipAddress now
  if signals.forgiven then pure ()
  else
    match pickThrottleTier signals with
    | none => pure ()
    | some block => throw (throttled block)

/-! ## The questionnaire -/

inductive YearsInBusiness
  | number (years : ℤ)
  | bucket (text : String)

def yearsInBusinessToNumber : YearsInBusiness → ℤ
  | .number years => years
  | .bucket text =>
    if text = "0-1" then 0
    else if text = "2-5" then 2
    else if text = "6-10" then 6
    else if text = "10+" then 10
    else 0

structure EligibilityCheckInput where
  registeredCompany : Bool
  authorizedPerson : Bool
  yearsInBusiness : YearsInBusiness
  fundingRequirement : Option ℕ := none
  email : Option String := none

structure EligibilityResult where
  passed : Bool
  sessionToken : Option ℕ
  message : String

/-- An attempt: its input, the address it comes from, the times of its query and of its insert, and the token
that is drawn. -/
structure Attempt where
  data : EligibilityCheckInput
  ipAddress : String
  now : ℤ
  recordedAt : ℤ
  token : ℕ

def Attempt.email (locale : Locale) (attempt : Attempt) : Option String :=
  attempt.data.email.map fun email => locale.toLowerCase (locale.trim email)

def Attempt.passes (attempt : Attempt) : Bool :=
  attempt.data.registeredCompany && attempt.data.authorizedPerson &&
    decide (1 ≤ yearsInBusinessToNumber attempt.data.yearsInBusiness)

/-- The row of `createEligibilityCheck`. -/
def Attempt.row (locale : Locale) (attempt : Attempt) : EligibilityCheck where
  sessionToken := attempt.token
  registeredCompany := attempt.data.registeredCompany
  authorizedPerson := attempt.data.authorizedPerson
  yearsInBusiness := yearsInBusinessToNumber attempt.data.yearsInBusiness
  passed := attempt.passes
  ipAddress := some attempt.ipAddress
  email := attempt.email locale
  fundingRequirement := attempt.data.fundingRequirement
  createdAt := attempt.recordedAt

/-- The answer, and the rows after it. -/
def checkEligibility (locale : Locale) (rows : List EligibilityCheck) (attempt : Attempt) :
    Except Throttled (EligibilityResult × List EligibilityCheck) := do
  enforceEligibilityThrottle locale rows (attempt.email locale) (some attempt.ipAddress) attempt.now
  let rows := rows ++ [attempt.row locale]
  if attempt.passes then
    return (⟨true, some attempt.token,
      "Eligibility confirmed. Please proceed with full registration."⟩, rows)
  else
    return (⟨false, none,
      "Your organisation does not meet the minimum eligibility criteria. " ++
        "You must operate a registered company, be an authorised representative, " ++
        "and have been in business for at least 1 year."⟩, rows)

end Ris.Onboarding.Eligibility
