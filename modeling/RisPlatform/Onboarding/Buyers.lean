import RisPlatform.Onboarding.Service

/-!
# `onboarding.service.ts`: buyers

A credit officer creates and updates buyers, and reviews the requests of suppliers for new ones; the
approval of a request makes the buyer, unless it names one. A new buyer is screened against the sanctions
list after its row is inserted.
-/

namespace Ris

def CreditRating.text : CreditRating → String
  | .a => "A"
  | .b => "B"
  | .c => "C"
  | .d => "D"

namespace Onboarding

open Relational Concurrent Utf16

/-! ## Rows -/

/-- A row of `buyers`. -/
structure BuyerRecord where
  id : ℕ
  companyName : String
  registrationNumber : String
  creditRating : CreditRating
  approvedLimit : ℤ
  paymentScore : ℤ
  contactEmailEncrypted : Option Text := none
  contactPhoneEncrypted : Option Text := none
  risMarginRate : ℚ
  isActive : Bool := true
  paymentUndertakingSigned : Bool := false
  paymentUndertakingDate : Option String := none
  createdBy : Option ℕ := none
  sanctionsFlag : Bool := false
  pepDesignation : Bool := false
  deriving DecidableEq

/-- `buyer_request_status`. -/
inductive BuyerRequestStatus
  | pending | inReview | approved | rejected
  deriving DecidableEq

/-- A row of `buyer_onboarding_requests`. -/
structure BuyerOnboardingRequestRecord where
  id : ℕ
  supplierId : ℕ
  companyName : String
  registrationNumber : Option String
  contactEmailEncrypted : Option Text := none
  contactPhoneEncrypted : Option Text := none
  status : BuyerRequestStatus := .pending
  reviewedBy : Option ℕ := none
  reviewerComments : Option String := none
  linkedBuyerId : Option ℕ := none
  deriving DecidableEq

structure BuyerRows where
  buyers : Table BuyerRecord.id
  requests : Table BuyerOnboardingRequestRecord.id

/-- What a reviewer may answer. -/
inductive ReviewDecision
  | approved | rejected
  deriving DecidableEq

def ReviewDecision.status : ReviewDecision → BuyerRequestStatus
  | .approved => .approved
  | .rejected => .rejected

def ReviewDecision.text : ReviewDecision → String
  | .approved => "approved"
  | .rejected => "rejected"

/-- A decision as it is recorded. -/
structure Review where
  decision : ReviewDecision
  reviewerId : ℕ
  comments : Option String
  linkedBuyerId : Option ℕ
  /-- The linked buyer was made from the request. -/
  materialised : Bool
  deriving DecidableEq

/-- The acts of the calls. -/
inductive BuyerAct
  | requestRead (found : Option BuyerOnboardingRequestRecord)
  | requestReviewed (requestId : ℕ) (review : Review)
  | buyerCreated (buyerId : ℕ)
  | buyerUpdated (buyerId : ℕ)
  | pepDesignated (buyerId : ℕ)
  | sanctionsFlagged (buyerId : ℕ)
  deriving DecidableEq

abbrev BuyerTx : Type → Type := Db.Tx BuyerRows

abbrev BuyerCall : Type → Type := Db.Call BuyerRows BuyerAct

namespace Repo

/-! ## The repository -/

def buyerRegistrationNumberExists (registrationNumber : String) (r : BuyerRows) : Bool :=
  r.buyers.rows.any fun b => b.registrationNumber = registrationNumber

/-- The statement of `createBuyer` and of `createBuyerWithClient`. -/
def createBuyer (data : BuyerRecord) : BuyerTx Unit := do
  if data.approvedLimit ≤ 0 then
    Txn.abort (.runtime "new row for relation \"buyers\" violates check constraint \"chk_buyers_approved_limit_positive\"")
  else do
    let taken ← Db.read (buyerRegistrationNumberExists data.registrationNumber)
    match ← Db.read fun r => r.buyers.insert? data with
    | none => Txn.abort (.runtime "duplicate key value violates unique constraint \"buyers_pkey\"")
    | some buyers =>
      if taken then
        Txn.abort
          (.runtime "duplicate key value violates unique constraint \"buyers_registration_number_key\"")
      else Db.write fun r => { r with buyers := buyers }

def findBuyerById (id : ℕ) (r : BuyerRows) : Option BuyerRecord := r.buyers.get? id

/-- `UPDATE buyers SET … WHERE id = …`. -/
def updateBuyerRow (buyerId : ℕ) (f : BuyerRecord → BuyerRecord) (hf : ∀ b, (f b).id = b.id) :
    BuyerTx Unit :=
  Db.write fun r => { r with buyers := r.buyers.update (fun b => b.id = buyerId) f hf }

def setBuyerSanctionsFlag (buyerId : ℕ) (flagged : Bool) : BuyerTx Unit :=
  updateBuyerRow buyerId (fun b => { b with sanctionsFlag := flagged }) fun _ => rfl

def setBuyerPepDesignation (buyerId : ℕ) (isPep : Bool) : BuyerTx Unit :=
  updateBuyerRow buyerId (fun b => { b with pepDesignation := isPep }) fun _ => rfl

def getBuyerOnboardingRequestById (id : ℕ) (r : BuyerRows) : Option BuyerOnboardingRequestRecord :=
  r.requests.get? id

/-- What a review assigns. -/
def setRequestReview (review : Review) (r : BuyerOnboardingRequestRecord) :
    BuyerOnboardingRequestRecord :=
  { r with
    status := review.decision.status
    reviewedBy := some review.reviewerId
    reviewerComments := review.comments
    linkedBuyerId := review.linkedBuyerId }

theorem id_setRequestReview (review : Review) (r : BuyerOnboardingRequestRecord) :
    (setRequestReview review r).id = r.id := rfl

/-- The linked buyer must exist. -/
def updateBuyerRequestStatusWithClient (id : ℕ) (review : Review) : BuyerTx Unit := do
  let linked ← Db.read fun r => review.linkedBuyerId.all fun b => (r.buyers.get? b).isSome
  if !linked then
    Txn.abort (.runtime "insert or update on table \"buyer_onboarding_requests\" violates foreign key constraint \"buyer_onboarding_requests_linked_buyer_id_fkey\"")
  else
    Db.write fun r =>
      { r with
        requests := r.requests.update (fun x => x.id = id) (setRequestReview review)
          (id_setRequestReview review) }

end Repo

/-! ## Sanctions -/

structure SanctionsEntry where
  name : String
  registrationNumber : Option String := none
  reason : String
  pepDesignation : Bool := false
  deriving DecidableEq

/-- The sanctions list and `toLowerCase`. -/
structure Screening where
  entries : List SanctionsEntry
  toLowerCase : String → String

/-- The company's name but for the case, or its registration number if the entry has one. -/
def Screening.hits (screening : Screening) (companyName registrationNumber : String)
    (entry : SanctionsEntry) : Bool :=
  screening.toLowerCase entry.name = screening.toLowerCase companyName ∨
    entry.registrationNumber = some registrationNumber ∧ registrationNumber ≠ ""

/-- The first entry that the company hits. -/
def findSanctionsMatch (screening : Screening) (companyName registrationNumber : String) :
    Option SanctionsEntry :=
  screening.entries.find? (screening.hits companyName registrationNumber)

/-- Read the list; the file may be missing. -/
def loadSanctionsList (screening : Screening) : BuyerCall Unit :=
  if screening.entries = [] then
    throw (.runtime "SANCTIONS_LIST_EMPTY: config/sanctions.json entries array is empty — populate before starting the server")
  else Db.log "Sanctions list loaded"

/-- An entry of the list names the company and has the designation. -/
def hasPepEntry (screening : Screening) (companyName : String) : Bool :=
  screening.entries.any fun entry =>
    entry.pepDesignation ∧ screening.toLowerCase entry.name = screening.toLowerCase companyName

def checkPepDesignation (screening : Screening) (companyName : String) (recordId : ℕ) : BuyerCall Unit :=
  if hasPepEntry screening companyName then do
    Db.transaction (Repo.setBuyerPepDesignation recordId true) fun _ => .pepDesignated recordId
    Db.log "PEP_DESIGNATION_SET"
  else pure ()

def raiseSanctionsFlag (recordId : ℕ) (found : SanctionsEntry) (userId : ℕ) (req : Request) :
    BuyerCall Unit := do
  Db.transaction (Repo.setBuyerSanctionsFlag recordId true) fun _ => .sanctionsFlagged recordId
  Db.audit (auditRow userId "SANCTIONS_FLAG_RAISED" "buyers" recordId []
    [("matchedEntryRegNo", .text (found.registrationNumber.getD "unknown")),
      ("reason", .text found.reason)] req)
  Db.log "SANCTIONS_FLAG_RAISED"
  throw (.businessRule "SANCTIONS_MATCH"
    "Entity failed sanctions screening — creation blocked pending compliance review")

def checkSanctions (screening : Screening) (companyName registrationNumber : String)
    (recordId userId : ℕ)
    (req : Request) : BuyerCall Unit := do
  loadSanctionsList screening
  checkPepDesignation screening companyName recordId
  match findSanctionsMatch screening companyName registrationNumber with
  | none => pure ()
  | some found => raiseSanctionsFlag recordId found userId req

/-! ## Buyers -/

structure BuyerCreation where
  companyName : String
  registrationNumber : String
  creditRating : CreditRating
  approvedLimit : ℤ
  paymentScore : ℤ
  contactEmail : Text
  contactPhone : Text
  risMarginRate : Option ℚ := none
  paymentUndertakingSigned : Option Bool := none
  paymentUndertakingDate : Option String := none

/-- `DEFAULT_RIS_MARGIN_RATE`. -/
def defaultRisMarginRate : ℚ := mkRat 3 100

/-- The row of a new buyer. -/
def BuyerCreation.row (data : BuyerCreation) (buyerId : ℕ) (email phone : Text) (createdBy : ℕ) :
    BuyerRecord where
  id := buyerId
  companyName := data.companyName
  registrationNumber := data.registrationNumber
  creditRating := data.creditRating
  approvedLimit := data.approvedLimit
  paymentScore := data.paymentScore
  contactEmailEncrypted := some email
  contactPhoneEncrypted := some phone
  risMarginRate := data.risMarginRate.getD defaultRisMarginRate
  paymentUndertakingSigned := data.paymentUndertakingSigned.getD false
  paymentUndertakingDate := data.paymentUndertakingDate
  createdBy := some createdBy

def insertBuyerRecord (env : Env) (data : BuyerCreation) (createdBy : ℕ) : BuyerTx ℕ := do
  let buyerId ← Db.uuid
  let i ← Txn.input
  let email ← monadLift (encrypt env i 0 data.contactEmail)
  let phone ← monadLift (encrypt env i 1 data.contactPhone)
  Repo.createBuyer (data.row buyerId email phone createdBy)
  return buyerId

def postBuyerCreation (screening : Screening) (buyerId : ℕ) (data : BuyerCreation) (createdBy : ℕ)
    (req : Request) : BuyerCall Unit := do
  checkSanctions screening data.companyName data.registrationNumber buyerId createdBy req
  Db.audit (auditRow createdBy "BUYER_CREATED" "buyers" buyerId []
    [("creditRating", .text data.creditRating.text), ("approvedLimit", .text (toString data.approvedLimit))]
    req)
  Db.log "BUYER_CREATED"

/-- Create a buyer, and then screen it; its id. -/
def createBuyer (env : Env) (screening : Screening) (data : BuyerCreation) (createdBy : ℕ)
    (req : Request) :
    BuyerCall ℕ := do
  if ← Db.query (Repo.buyerRegistrationNumberExists data.registrationNumber) then
    throw (.businessRule "REGISTRATION_NUMBER_TAKEN" "A buyer with this registration number already exists")
  else do
    let buyerId ← Db.transaction (insertBuyerRecord env data createdBy) .buyerCreated
    postBuyerCreation screening buyerId data createdBy req
    return buyerId

/-- The fields that a request gives. -/
structure BuyerUpdate where
  companyName : Option String := none
  creditRating : Option CreditRating := none
  approvedLimit : Option ℤ := none
  paymentScore : Option ℤ := none
  contactEmail : Option Text := none
  contactPhone : Option Text := none
  risMarginRate : Option ℚ := none
  isActive : Option Bool := none
  paymentUndertakingSigned : Option Bool := none
  paymentUndertakingDate : Option String := none

/-- The columns that a request gives a value to. -/
def BuyerUpdate.columns (data : BuyerUpdate) : List String :=
  [(data.companyName.isSome, "company_name"), (data.creditRating.isSome, "credit_rating"),
    (data.approvedLimit.isSome, "approved_limit"), (data.paymentScore.isSome, "payment_score"),
    (data.contactEmail.isSome, "contact_email_encrypted"),
    (data.contactPhone.isSome, "contact_phone_encrypted"), (data.risMarginRate.isSome, "ris_margin_rate"),
    (data.isActive.isSome, "is_active"),
    (data.paymentUndertakingSigned.isSome, "payment_undertaking_signed"),
    (data.paymentUndertakingDate.isSome, "payment_undertaking_date")].filterMap
      fun (given, column) => if given then some column else none

/-- A given contact, encrypted. -/
def encryptGiven (env : Env) (i : Input) (k : ℕ) : Option Text → Except RisError (Option Text)
  | some contact => (encrypt env i k contact).map some
  | none => pure none

/-- Assign the given fields. -/
def assignFields (data : BuyerUpdate) (email phone : Option Text) (b : BuyerRecord) : BuyerRecord :=
  { b with
    companyName := data.companyName.getD b.companyName
    creditRating := data.creditRating.getD b.creditRating
    approvedLimit := data.approvedLimit.getD b.approvedLimit
    paymentScore := data.paymentScore.getD b.paymentScore
    contactEmailEncrypted := email <|> b.contactEmailEncrypted
    contactPhoneEncrypted := phone <|> b.contactPhoneEncrypted
    risMarginRate := data.risMarginRate.getD b.risMarginRate
    isActive := data.isActive.getD b.isActive
    paymentUndertakingSigned := data.paymentUndertakingSigned.getD b.paymentUndertakingSigned
    paymentUndertakingDate := data.paymentUndertakingDate <|> b.paymentUndertakingDate }

theorem id_assignFields (data : BuyerUpdate) (email phone : Option Text) (b : BuyerRecord) :
    (assignFields data email phone b).id = b.id := rfl

/-- Encrypt the given contacts, and write the given fields. -/
def updateBuyerFields (env : Env) (buyerId : ℕ) (data : BuyerUpdate) : BuyerTx Unit := do
  let i ← Txn.input
  let email ← monadLift (encryptGiven env i 0 data.contactEmail)
  let phone ← monadLift (encryptGiven env i 1 data.contactPhone)
  if data.approvedLimit.any (· ≤ 0) then
    Txn.abort (.runtime "new row for relation \"buyers\" violates check constraint \"chk_buyers_approved_limit_positive\"")
  else
    Repo.updateBuyerRow buyerId (assignFields data email phone) (id_assignFields data email phone)

def updateBuyerProfile (env : Env) (buyerId : ℕ) (data : BuyerUpdate) (updatedBy : ℕ) (req : Request) :
    BuyerCall Unit := do
  match ← Db.query (Repo.findBuyerById buyerId) with
  | none => throw (.notFound "Buyer" buyerId)
  | some _ =>
    if data.columns = [] then pure ()
    else do
      Db.transaction (updateBuyerFields env buyerId data) fun _ => .buyerUpdated buyerId
      Db.audit (auditRow updatedBy "BUYER_UPDATED" "buyers" buyerId []
        [("fieldsUpdated", .texts data.columns)] req)
      Db.log "BUYER_UPDATED"

/-! ## Requests -/

structure ReviewBuyerRequestInput where
  status : ReviewDecision
  reviewerComments : Option String := none
  linkedBuyerId : Option ℕ := none

/-- The request has not been decided. -/
def Reviewable (status : BuyerRequestStatus) : Prop := status = .pending ∨ status = .inReview

instance (status : BuyerRequestStatus) : Decidable (Reviewable status) := by
  unfold Reviewable
  infer_instance

def validateBuyerRequestReviewable (status : BuyerRequestStatus) : Except RisError Unit :=
  if ¬Reviewable status then
    throw (.businessRule "BUYER_REQUEST_ALREADY_REVIEWED" "This request has already been reviewed")
  else pure ()

/-- `AUTO-` and the first eight digits of the request's UUID. -/
def autoRegistrationNumber (requestId : ℕ) : String :=
  "AUTO-" ++ (String.ofList (((uuidText requestId).take 8).map fun x => Char.ofNat x.toNat)).toUpper

/-- The row of a buyer that is made from a request. -/
def BuyerOnboardingRequestRecord.row (request : BuyerOnboardingRequestRecord) (buyerId reviewerId : ℕ) :
    BuyerRecord where
  id := buyerId
  companyName := request.companyName
  registrationNumber := request.registrationNumber.getD (autoRegistrationNumber request.id)
  creditRating := .b
  approvedLimit := 50000000
  paymentScore := 50
  contactEmailEncrypted := request.contactEmailEncrypted
  contactPhoneEncrypted := request.contactPhoneEncrypted
  risMarginRate := defaultRisMarginRate
  createdBy := some reviewerId

def materialiseBuyerFromRequest (request : BuyerOnboardingRequestRecord) (reviewerId : ℕ) :
    BuyerTx ℕ := do
  let buyerId ← Db.uuid
  Repo.createBuyer (request.row buyerId reviewerId)
  return buyerId

/-- The linked buyer: the one that is named, or for an approval that names none a new one. -/
def resolveLinkedBuyer (request : BuyerOnboardingRequestRecord) (reviewerId : ℕ)
    (data : ReviewBuyerRequestInput) (req : Request) : BuyerTx (Option ℕ × Bool) :=
  if data.status = .approved ∧ data.linkedBuyerId = none then do
    let buyerId ← materialiseBuyerFromRequest request reviewerId
    Db.createAuditEntry (auditRow reviewerId "BUYER_CREATED" "buyers" buyerId []
      [("source", .text "buyer_request_approval"), ("requestId", .id request.id)] req)
    return (some buyerId, true)
  else return (data.linkedBuyerId, false)

/-- The transaction of a review; what it recorded. -/
def executeReviewBuyerRequestTx (request : BuyerOnboardingRequestRecord) (reviewerId : ℕ)
    (data : ReviewBuyerRequestInput) (req : Request) : BuyerTx Review := do
  let (linkedBuyerId, materialised) ← resolveLinkedBuyer request reviewerId data req
  let review : Review :=
    { decision := data.status
      reviewerId := reviewerId
      comments := data.reviewerComments
      linkedBuyerId := linkedBuyerId
      materialised := materialised }
  Repo.updateBuyerRequestStatusWithClient request.id review
  Db.createAuditEntry (auditRow reviewerId "BUYER_REQUEST_REVIEWED" "buyer_onboarding_requests" request.id []
    [("requestId", .id request.id), ("status", .text data.status.text),
      ("linkedBuyerId", Json.ofOption Json.id linkedBuyerId)] req)
  return review

def reviewBuyerOnboardingRequest (cfg : Config) (requestId reviewerId : ℕ)
    (data : ReviewBuyerRequestInput)
    (req : Request) : BuyerCall Unit := do
  match ← Db.see (Repo.getBuyerOnboardingRequestById requestId) .requestRead with
  | none => throw (.notFound "BuyerOnboardingRequest" requestId)
  | some request => do
    validateBuyerRequestReviewable request.status
    let _ ← Db.transaction (executeReviewBuyerRequestTx request reviewerId data req)
      (.requestReviewed request.id)
    Db.log "BUYER_REQUEST_REVIEWED"
    queueOnboardingNotification cfg "buyer_request_reviewed"
      [("requestId", .id requestId), ("supplierId", .id request.supplierId)]

/-! ## The system -/

/-- The operations on buyers. -/
inductive BuyerOp
  | createBuyer (data : BuyerCreation) (createdBy : ℕ) (req : Request)
  | updateBuyerProfile (buyerId : ℕ) (data : BuyerUpdate) (updatedBy : ℕ) (req : Request)
  | reviewBuyerOnboardingRequest (requestId reviewerId : ℕ) (data : ReviewBuyerRequestInput) (req : Request)

/-- The body of an operation. -/
def buyerProgram (cfg : Config) (env : Env) (screening : Screening) : BuyerOp → BuyerCall Unit
  | .createBuyer data createdBy req => (createBuyer env screening data createdBy req).discard
  | .updateBuyerProfile buyerId data updatedBy req => updateBuyerProfile env buyerId data updatedBy req
  | .reviewBuyerOnboardingRequest requestId reviewerId data req =>
    reviewBuyerOnboardingRequest cfg requestId reviewerId data req

end Onboarding

end Ris
