import RisPlatform.Common.Process
import RisPlatform.Schema

/-!
# `notification.worker.ts` and `notifications.service.ts`

The worker makes a payload of a job of the queue, checks the payload against the jobs that were processed
and against the circuit breaker of its channel, and asks the provider to send it. The worker remembers
both in the memory of its process. The answer of a provider, and what is read to hydrate the confirmation
of a buyer, come from outside; the data of the templates, the log lines and the durations are left out.
-/

namespace Ris.Notifications

open Concurrent

/-! ## Jobs -/

/-- A value in the data of a job that is not an object. -/
inductive Scalar
  | undefined
  | null
  | bool (b : Bool)
  | number (q : ℚ)
  | text (s : String)
  deriving DecidableEq

/-- `value !== undefined && value !== null`. -/
def Scalar.isGiven : Scalar → Bool
  | .undefined | .null => false
  | _ => true

/-- `typeof value === 'string' ? value : ''`. -/
def Scalar.textOrEmpty : Scalar → String
  | .text s => s
  | _ => ""

/-- The fields of the data that the worker looks at. -/
structure JobData where
  id : Scalar := .undefined
  channel : Scalar := .undefined
  template : Scalar := .undefined
  recipient : Scalar := .undefined
  /-- `to`. -/
  recipientTo : Scalar := .undefined
  phone : Scalar := .undefined
  phoneNumber : Scalar := .undefined
  invoiceId : Scalar := .undefined
  buyerId : Scalar := .undefined
  token : Scalar := .undefined
  deriving DecidableEq

/-- A job of the queue `notifications`. -/
structure QueuedJob where
  id : Option String
  name : String
  data : JobData := {}
  deriving DecidableEq

/-- `NotificationJobPayload`; what neither the checks nor the choice of the provider reads is left out. -/
structure NotificationJobPayload where
  id : Scalar
  channel : String
  template : Scalar
  recipient : String
  deriving DecidableEq

structure SendResult where
  success : Bool
  provider : String
  messageId : Option String := none
  error : Option String := none
  deriving DecidableEq

/-! ## Normalisation -/

/-- `hasFullPayload`, with the payload that the data then is. -/
def fullPayload? (data : JobData) : Option NotificationJobPayload :=
  match data.channel, data.template, data.recipient with
  | .text channel, .text template, .text recipient =>
    some { id := data.id, channel := channel, template := .text template, recipient := recipient }
  | _, _, _ => none

def inferChannel (data : JobData) : String :=
  if data.channel = .text "sms" then "sms"
  else if data.phone.isGiven || data.phoneNumber.isGiven then "sms"
  else "email"

/-- `templateMap`. -/
def templateMap : List (String × String) :=
  [("send-email", "password_reset"), ("payment-funded", "payment_received"),
    ("overdue-notification", "payment_reminder"), ("escalation-notification", "escalation_notice")]

def inferTemplate (jobName : String) (data : JobData) : Scalar :=
  if data.template.isGiven then data.template
  else .text ((templateMap.lookup jobName).getD "welcome")

def buildNormalisedPayload (job : QueuedJob) (uuid : String) : NotificationJobPayload where
  id := .text (job.id.getD uuid)
  channel := inferChannel job.data
  template := inferTemplate job.name job.data
  recipient :=
    match job.data.recipientTo with
    | .text recipient => recipient
    | _ => job.data.recipient.textOrEmpty

def normaliseJobPayload (job : QueuedJob) (uuid : String) : NotificationJobPayload :=
  (fullPayload? job.data).getD (buildNormalisedPayload job uuid)

/-! ## The memory of the worker -/

structure CircuitBreakerState where
  consecutiveFailures : ℕ := 0
  pausedUntil : Option ℤ := none
  deriving DecidableEq

/-- `circuitBreakers` and `processedJobs`, the oldest first; the worker starts with nothing. -/
structure Memory where
  email : CircuitBreakerState := {}
  sms : CircuitBreakerState := {}
  processedJobs : List Scalar := []
  deriving DecidableEq

/-- What a statement draws: the clock, a fresh id, the address of the buyer if the rows are there, and the
answer of the provider, which may throw. -/
structure Outside where
  now : ℤ := 0
  uuid : String := ""
  buyerEmail : Except RisError (Option String) := .ok none
  reply : Except RisError SendResult := .ok { success := true, provider := "ses" }

/-- What the checks of a payload find. -/
inductive Admission
  | duplicate | paused | dispatched
  deriving DecidableEq

inductive Event
  | read
  | threw
  /-- The payload of the job, with this id, was checked. -/
  | checked (job : ℕ) (id : Scalar) (admission : Admission)
  /-- The provider answered for the job, and the id of the payload was recorded. -/
  | answered (job : ℕ) (id : Scalar) (success : Bool)
  deriving DecidableEq

abbrev Tx : Type → Type := Txn Outside Memory RisError

abbrev Call : Type → Type := Proc Memory Outside Event RisError

/-! ## The circuit breaker -/

def circuitBreakerThreshold : ℕ := 5

def circuitBreakerPauseMs : ℤ := 60000

/-- `circuitBreakers[channel]`, where it is a breaker. -/
def Memory.circuitBreaker? (m : Memory) (channel : String) : Option CircuitBreakerState :=
  if channel = "email" then some m.email
  else if channel = "sms" then some m.sms
  else none

def Memory.setCircuitBreaker (m : Memory) (channel : String) (state : CircuitBreakerState) : Memory :=
  if channel = "email" then { m with email := state }
  else if channel = "sms" then { m with sms := state }
  else m

@[simp] theorem Memory.processedJobs_setCircuitBreaker (m : Memory) (channel : String)
    (state : CircuitBreakerState) : (m.setCircuitBreaker channel state).processedJobs =
      m.processedJobs := by
  unfold Memory.setCircuitBreaker
  split
  · rfl
  · split <;> rfl

/-- What `circuitBreakers`, like every object, has beside its own fields: functions without a
`pausedUntil`, and the prototype. -/
def objectPrototype : List String :=
  ["constructor", "hasOwnProperty", "isPrototypeOf", "propertyIsEnumerable", "toLocaleString", "toString",
    "valueOf", "__defineGetter__", "__defineSetter__", "__lookupGetter__", "__lookupSetter__", "__proto__"]

def isCircuitOpen (channel : String) : Tx Bool := fun i m =>
  match m.circuitBreaker? channel with
  | none =>
    if channel ∈ objectPrototype then .ok (true, m)
    else .error (.runtime "Cannot read properties of undefined (reading 'pausedUntil')")
  | some state =>
    match state.pausedUntil with
    | none => .ok (false, m)
    | some pausedUntil =>
      if pausedUntil ≤ i.now then .ok (false, m.setCircuitBreaker channel {}) else .ok (true, m)

def recordSuccess (state : CircuitBreakerState) : CircuitBreakerState :=
  { state with consecutiveFailures := 0 }

def recordFailure (now : ℤ) (state : CircuitBreakerState) : CircuitBreakerState :=
  if circuitBreakerThreshold ≤ state.consecutiveFailures + 1 then
    { consecutiveFailures := state.consecutiveFailures + 1
      pausedUntil := some (now + circuitBreakerPauseMs) }
  else { state with consecutiveFailures := state.consecutiveFailures + 1 }

def updateCircuitBreaker (channel : String) (success : Bool) (now : ℤ) (m : Memory) : Memory :=
  match m.circuitBreaker? channel with
  | none => m
  | some state =>
    m.setCircuitBreaker channel (if success then recordSuccess state else recordFailure now state)

/-! ## The jobs that were processed -/

def maxProcessedCache : ℕ := 10000

/-- `Set.add`. -/
def add (jobId : Scalar) (processedJobs : List Scalar) : List Scalar :=
  if jobId ∈ processedJobs then processedJobs else processedJobs ++ [jobId]

/-- Delete the first id, if the set is full. -/
def makeRoom (processedJobs : List Scalar) : List Scalar :=
  if maxProcessedCache ≤ processedJobs.length then processedJobs.tail else processedJobs

def trackProcessedJob (jobId : Scalar) (processedJobs : List Scalar) : List Scalar :=
  add jobId (makeRoom processedJobs)

/-! ## Processing a job -/

/-- What `sendEmail` or `sendSms` replies; a channel that is neither does not pass the check of its
breaker. -/
def dispatchToProvider (payload : NotificationJobPayload) (reply : Except RisError SendResult) :
    Except RisError SendResult :=
  if payload.channel = "email" ∨ payload.channel = "sms" then reply
  else
    .ok
      { success := false
        provider := payload.channel
        error := some ("Unknown channel: " ++ payload.channel) }

/-- The checks before the provider is asked. -/
def checkPayload (payload : NotificationJobPayload) : Tx Admission := do
  let m ← Txn.read id
  if payload.id ∈ m.processedJobs then pure .duplicate
  else do
    let isOpen ← isCircuitOpen payload.channel
    pure (if isOpen then .paused else .dispatched)

/-- What is recorded when the provider has replied. -/
def settle (payload : NotificationJobPayload) : Tx SendResult := do
  let i ← Txn.input
  let result ← monadLift (dispatchToProvider payload i.reply)
  Txn.write (updateCircuitBreaker payload.channel result.success i.now)
  Txn.write fun m => { m with processedJobs := trackProcessedJob payload.id m.processedJobs }
  return result

def buildSkipResult (channel reason : String) : SendResult :=
  { success := false, provider := channel, error := some reason }

/-- What the job comes to after its checks; only a job that is dispatched waits for the provider. -/
def proceed (job : ℕ) (payload : NotificationJobPayload) : Admission → Call SendResult
  | .duplicate => pure (buildSkipResult payload.channel "Duplicate job — already processed")
  | .paused => pure (buildSkipResult payload.channel "Circuit breaker open — channel paused")
  | .dispatched =>
    .transaction (settle payload) (fun result => .answered job payload.id result.success) fun _ => .threw

def processNotification (job : ℕ) (payload : NotificationJobPayload) : Call SendResult := do
  let admission ← .transaction (checkPayload payload) (fun admission => .checked job payload.id admission)
    fun _ => .threw
  proceed job payload admission

/-! ## Hydration -/

def isBuyerConfirmationJob (jobName : String) : Bool :=
  jobName = "send-buyer-confirmation-email" || jobName = "send-buyer-confirmation" ||
    jobName = "send-confirmation-reminder"

def buildBuyerConfirmationPayload (jobName jobId buyerEmail : String) : NotificationJobPayload where
  id := .text jobId
  channel := "email"
  template :=
    .text (if jobName = "send-confirmation-reminder" then "confirmation_reminder" else "buyer_confirmation")
  recipient := buyerEmail

/-- The rows of the invoice and the buyer; the address is not there when a row is missing or it cannot be
decrypted. -/
def loadBuyerConfirmationContext : Call (Option String) :=
  .transaction (fun i m => i.buyerEmail.map fun buyerEmail => (buyerEmail, m)) (fun _ => .read)
    fun _ => .threw

def hydrateLegacyJobPayload (jobName jobId : String) (data : JobData) :
    Call (Option NotificationJobPayload) :=
  if !isBuyerConfirmationJob jobName then pure none
  else if
      data.invoiceId.textOrEmpty = "" ∨ data.buyerId.textOrEmpty = "" ∨ data.token.textOrEmpty = "" then
    pure none
  else do
    let buyerEmail ← loadBuyerConfirmationContext
    return buyerEmail.map (buildBuyerConfirmationPayload jobName jobId)

/-! ## The worker -/

/-- `hydrated ?? normaliseJobPayload(job)`. -/
def payloadOf (job : QueuedJob) : Option NotificationJobPayload → Call NotificationJobPayload
  | some hydrated => pure hydrated
  | none => .transaction (fun i m => .ok (normaliseJobPayload job i.uuid, m)) (fun _ => .read) fun _ => .threw

/-- An attempt at a job fails unless it was sent; the queue then tries again. -/
def handleNotificationJob (number : ℕ) (job : QueuedJob) : Call Unit := do
  let hydrated ← hydrateLegacyJobPayload job.name (job.id.getD "") job.data
  let payload ← payloadOf job hydrated
  let result ← processNotification number payload
  if result.success then pure () else throw (.runtime (result.error.getD "Notification send failed"))

/-! ## The system -/

inductive Op
  /-- An attempt at the job of this number. -/
  | attempt (job : ℕ)
  deriving DecidableEq

/-- The attempts at the jobs of a queue, whose data do not change. -/
def program (queue : ℕ → QueuedJob) : Op → Call Unit
  | .attempt job => handleNotificationJob job (queue job)

end Ris.Notifications
