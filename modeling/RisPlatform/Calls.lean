import RisPlatform.Schema

/-!
# Statements of a call

The services' functions are calls that share a `World`. Each awaited database statement, each
committed transaction, each log line and each enqueued job is one atomic statement. Any of them may
fail, which its `Input` decides; a failed transaction is rolled back.

A statement leaves an `Event` in the history, so that a property of runs can speak about what
happened and not only about the rows.
-/

namespace Ris

open Relational Concurrent

/-- What a statement did. -/
inductive Event
  /-- It read rows, or had nothing to do. -/
  | read
  /-- It failed; whatever it had written is rolled back. -/
  | threw
  /-- It wrote the log line `action`. -/
  | logged (action : String)
  /-- It put `job` on its queue. -/
  | enqueued (job : Job)
  /-- It wrote an audit row on its own. -/
  | audited (action : String)
  /-- `submitInvoice` stored the invoice. -/
  | invoiceSubmitted (invoiceId : ℕ) (faceValue : ℤ)
  | draftSaved (invoiceId : ℕ)
  | draftUpdated (invoiceId : ℕ)
  /-- `submitDraft` promoted the draft, whose face value it had read. -/
  | draftSubmitted (invoiceId : ℕ) (faceValue : ℤ)
  | confirmationTokenGenerated (invoiceId : ℕ)
  | buyerConfirmed (invoiceId : ℕ)
  | invoiceScored (invoiceId : ℕ) (recommendation : RiskRecommendation)
  | amlCleared (invoiceId officerId : ℕ)
  | paymentCreated (payment : Payment)
  | afterHours (paymentId userId : ℕ)
  | firstAuthorised (paymentId userId : ℕ)
  | secondAuthorised (paymentId userId : ℕ)
  /-- `executePayment` loaded a row that is `executing`. -/
  | executionLoaded (payment : Payment)
  /-- `executePayment` found no funded row with the idempotency key. -/
  | idempotencyChecked (payment : Payment)
  /-- The provider was asked to transfer the payment, and answered. -/
  | providerReplied (payment : Payment) (reply : PaymentProviderResult)
  | paymentFunded (payment : Payment)
  | confirmationPending (payment : Payment)
  | paymentFailed (payment : Payment)
  /-- The transaction of `handleFailedPayment` failed. -/
  | failureUnrecorded (payment : Payment)
  | killSwitchActivated (suspendedPaymentIds : List ℕ)
  | killSwitchDeactivated
  /-- A transaction failed after it had enqueued jobs; they stay on their queues. -/
  | leftJobs
  | invoicePriced (invoiceId : ℕ) (input : PricingCalculationInput)
  /-- The supplier accepted the pricing; the row showed this net payment. -/
  | pricingAccepted (invoiceId : ℕ) (netPayment : Option ℤ)
  | pricingRejected (invoiceId : ℕ)
  | pricingDisputed (invoiceId : ℕ)
  /-- An approval was recorded that does not make the quorum. -/
  | approvalRecorded (invoiceId : ℕ) (approverId : Actor) (role : String)
  /-- An approval was recorded that makes the quorum. -/
  | invoiceApproved (invoiceId : ℕ) (approverId : Actor) (role : String)
  /-- A rejection was recorded that does not reject the invoice. -/
  | rejectionRecorded (invoiceId : ℕ) (approverId : Actor)
  /-- A rejection was recorded that rejects the invoice. -/
  | invoiceRejected (invoiceId : ℕ) (approverId : Actor)
  /-- The Tier 3 rejections of the invoice count from 0 again. -/
  | rejectionCountReset (invoiceId : ℕ)
  | drawdownCreated (facilityId drawdownId : ℕ)
  | repaymentRecorded (facilityId drawdownId : ℕ)
  /-- The interest of the days after `lastAccrued` up to `today` was added. -/
  | interestAccrued (drawdownId : ℕ) (lastAccrued today : ℤ)
  | facilitySuspended (facilityId : ℕ)
  | collectionStarted (collectionId invoiceId : ℕ)
  | collectionOverdue (collectionId invoiceId : ℕ)
  /-- The collection was escalated to `level`, by the scheduled job or by a user. -/
  | collectionEscalated (collectionId : ℕ) (level : ℤ)
  | collectionDeescalated (collectionId : ℕ) (level : ℤ)
  /-- The buyer's payment closed the collection: `recordPaymentReceived`. -/
  | paymentReceived (invoiceId collectionId : ℕ) (amount : ℤ)
  /-- A payment was added to the collection: `recordCollectionPayment`. -/
  | collectionPaid (collectionId : ℕ) (amount : ℤ)
  /-- `recordPaymentReceived` found the invoice's status changed and was rolled back. -/
  | paymentRefused (invoiceId : ℕ)
  /-- `resolveCollectionById` had read a collection of the status `prevStatus`. -/
  | collectionResolved (collectionId invoiceId : ℕ) (prevStatus : CollectionStatus)
  | collectionDefaulted (collectionId invoiceId : ℕ)
  | documentGenerated (documentId collectionId : ℕ) (documentType : EscalationDocumentType)
  | documentUpdated (documentId : ℕ)
  | documentSent (documentId : ℕ)
  | invoiceWithdrawn (invoiceId : ℕ)
  | invoiceDisputed (invoiceId disputeId : ℕ)
  /-- `initiateSettlement` returns the row that has the idempotency key. -/
  | settlementReplayed (invoiceId settlementId : ℕ)
  /-- A settlement was initiated under the first id; the row of the second is returned. -/
  | settlementInitiated (invoiceId settlementId returnedId : ℕ)
  | facilityRepaid (settlementId : ℕ)
  | profitBooked (settlementId : ℕ)
  | settlementClosed (settlementId : ℕ)
  /-- The lock of an active account was checked at this time. -/
  | lockChecked (userId : ℕ) (locked : Bool) (now : ℤ)
  /-- A password was compared with the account's. -/
  | passwordCompared (userId : ℕ) (matched : Bool)
  /-- A wrong password was recorded at this time. -/
  | loginFailureRecorded (userId : ℕ) (now : ℤ)
  /-- The failed logins of the account count from 0 again. -/
  | failedLoginReset (userId : ℕ)
  /-- A row was added to `login_history`. -/
  | loginHistoryCreated (success : Bool)
  | sessionCreated (sessionId userId : ℕ)
  | sessionDeleted (sessionId : ℕ)
  /-- The first refresh token of a session was signed. -/
  | tokenIssued (token : RefreshToken)
  /-- The blocklist was asked for the token at this time, and whether it had its key. -/
  | blocklistChecked (token : RefreshToken) (blocked : Bool) (now : ℤ)
  /-- The token's key was put on the blocklist at this time, or was not because the token had expired. -/
  | tokenBlocked (token : RefreshToken) (stored : Bool) (now : ℤ)
  /-- The second token was signed in exchange for the first. -/
  | tokenRotated (token rotated : RefreshToken)
  /-- An unused backup code was found. -/
  | backupCodeFound (codeId : ℕ)
  | backupCodeUsed (codeId : ℕ)
  /-- A reset token was found that is neither used nor expired. -/
  | resetTokenFound (tokenId : ℕ)
  /-- The reset token was used to set the password. -/
  | passwordReset (tokenId userId : ℕ) (password : String)
  | passwordChanged (userId : ℕ) (password : String)
  /-- A verification token was found that is neither used nor expired. -/
  | verificationTokenFound (tokenId : ℕ)
  | emailVerified (tokenId : ℕ)
  | collateralCreated (collateralId : ℕ)
  | collateralUpdated (collateralId : ℕ)
  | collateralDocumentsReplaced (collateralId : ℕ)
  | collateralDeleted (collateralId : ℕ)
  deriving DecidableEq

/-- The services that have events of their own. -/
inductive Service
  | payments | pricing | approvals | facilities | collections | invoices | verification | riskEngine
  | compliance | settlements | auth | collateral
  deriving DecidableEq

/-- The service whose event it is; any service may read, fail, log and enqueue. -/
def Event.service? : Event → Option Service
  | .read | .threw | .logged _ | .enqueued _ | .audited _ | .leftJobs => none
  | .invoiceSubmitted _ _ | .draftSaved _ | .draftUpdated _ | .draftSubmitted _ _
  | .invoiceWithdrawn _ => some .invoices
  | .confirmationTokenGenerated _ | .buyerConfirmed _ | .invoiceDisputed _ _ => some .verification
  | .invoiceScored _ _ => some .riskEngine
  | .amlCleared _ _ => some .compliance
  | .paymentCreated _ | .afterHours _ _ | .firstAuthorised _ _ | .secondAuthorised _ _
  | .executionLoaded _ | .idempotencyChecked _ | .providerReplied _ _ | .paymentFunded _
  | .confirmationPending _ | .paymentFailed _ | .failureUnrecorded _ | .killSwitchActivated _
  | .killSwitchDeactivated => some .payments
  | .invoicePriced _ _ | .pricingAccepted _ _ | .pricingRejected _ | .pricingDisputed _ => some .pricing
  | .approvalRecorded _ _ _ | .invoiceApproved _ _ _ | .rejectionRecorded _ _
  | .invoiceRejected _ _ | .rejectionCountReset _ => some .approvals
  | .drawdownCreated _ _ | .repaymentRecorded _ _ | .interestAccrued _ _ _
  | .facilitySuspended _ => some .facilities
  | .collectionStarted _ _ | .collectionOverdue _ _ | .collectionEscalated _ _
  | .collectionDeescalated _ _ | .paymentReceived _ _ _ | .collectionPaid _ _ | .paymentRefused _
  | .collectionResolved _ _ _ | .collectionDefaulted _ _ | .documentGenerated _ _ _ | .documentUpdated _
  | .documentSent _ => some .collections
  | .settlementReplayed _ _ | .settlementInitiated _ _ _ | .facilityRepaid _ | .profitBooked _
  | .settlementClosed _ => some .settlements
  | .lockChecked _ _ _ | .passwordCompared _ _ | .loginFailureRecorded _ _ | .failedLoginReset _
  | .loginHistoryCreated _ | .sessionCreated _ _ | .sessionDeleted _ | .tokenIssued _
  | .blocklistChecked _ _ _ | .tokenBlocked _ _ _ | .tokenRotated _ _ | .backupCodeFound _
  | .backupCodeUsed _ | .resetTokenFound _ | .passwordReset _ _ _ | .passwordChanged _ _
  | .verificationTokenFound _ | .emailVerified _ => some .auth
  | .collateralCreated _ | .collateralUpdated _ | .collateralDocumentsReplaced _
  | .collateralDeleted _ => some .collateral

/-- The event is of the service, or one that any service may leave. -/
def Event.Of (service : Service) (e : Event) : Prop := ∀ s ∈ e.service?, s = service

/-- The event is a second authorisation. -/
def Event.secondAuthorises : Event → Bool
  | .secondAuthorised _ _ => true
  | _ => false

/-- The payment whose idempotency key an execution found unused. -/
def Event.checked? : Event → Option Payment
  | .idempotencyChecked payment => some payment
  | _ => none

/-- The payment whose success was committed. -/
def Event.funded? : Event → Option Payment
  | .paymentFunded payment => some payment
  | _ => none

/-- The payment whose failure could not be recorded. -/
def Event.unrecorded? : Event → Option Payment
  | .failureUnrecorded payment => some payment
  | _ => none

/-- The event is a repayment of this drawdown. -/
def Event.repays (drawdownId : ℕ) : Event → Bool
  | .repaymentRecorded _ d => d = drawdownId
  | _ => false

/-- The facility and the drawdown of a repayment. -/
def Event.repayment? : Event → Option (ℕ × ℕ)
  | .repaymentRecorded facilityId drawdownId => some (facilityId, drawdownId)
  | _ => none

/-- The drawdown that the event is about. -/
def Event.drawdown? : Event → Option ℕ
  | .drawdownCreated _ drawdownId => some drawdownId
  | .repaymentRecorded _ drawdownId => some drawdownId
  | .interestAccrued drawdownId _ _ => some drawdownId
  | _ => none

/-- The drawdown whose interest was added, and the days it was added for: after the one, up to the
other. -/
def Event.accrual? : Event → Option (ℕ × ℤ × ℤ)
  | .interestAccrued drawdownId lastAccrued today => some (drawdownId, lastAccrued, today)
  | _ => none

/-- The invoice that the event is about. -/
def Event.invoice? : Event → Option ℕ
  | .invoicePriced invoiceId _ => some invoiceId
  | .pricingAccepted invoiceId _ => some invoiceId
  | .pricingRejected invoiceId => some invoiceId
  | .pricingDisputed invoiceId => some invoiceId
  | .invoiceApproved invoiceId _ _ => some invoiceId
  | .paymentCreated payment => some payment.invoiceId
  | _ => none

/-- The payment that was created. -/
def Event.created? : Event → Option Payment
  | .paymentCreated payment => some payment
  | _ => none

/-- What the invoice was priced from. -/
def Event.priced? (invoiceId : ℕ) : Event → Option PricingCalculationInput
  | .invoicePriced i input => if i = invoiceId then some input else none
  | _ => none

/-- The invoice that the quorum approved. -/
def Event.approved? : Event → Option ℕ
  | .invoiceApproved invoiceId _ _ => some invoiceId
  | _ => none

/-- The officer and the role of an approval of the invoice, with whether it makes the quorum. -/
def Event.approval? (invoiceId : ℕ) : Event → Option (Actor × String × Bool)
  | .approvalRecorded i approverId role => if i = invoiceId then some (approverId, role, false) else none
  | .invoiceApproved i approverId role => if i = invoiceId then some (approverId, role, true) else none
  | _ => none

/-- The officer of a rejection of the invoice, with whether it rejects the invoice. -/
def Event.rejection? (invoiceId : ℕ) : Event → Option (Actor × Bool)
  | .rejectionRecorded i approverId => if i = invoiceId then some (approverId, false) else none
  | .invoiceRejected i approverId => if i = invoiceId then some (approverId, true) else none
  | _ => none

/-- The invoice whose pricing the supplier rejected. -/
def Event.rejected? : Event → Option ℕ
  | .pricingRejected invoiceId => some invoiceId
  | _ => none

/-- The collection whose row the event changed or made. -/
def Event.collection? : Event → Option ℕ
  | .collectionStarted collectionId _ => some collectionId
  | .collectionOverdue collectionId _ => some collectionId
  | .collectionEscalated collectionId _ => some collectionId
  | .collectionDeescalated collectionId _ => some collectionId
  | .paymentReceived _ collectionId _ => some collectionId
  | .collectionPaid collectionId _ => some collectionId
  | .collectionResolved collectionId _ _ => some collectionId
  | .collectionDefaulted collectionId _ => some collectionId
  | _ => none

theorem Event.priced?_eq_some {invoiceId : ℕ} {e : Event} {input : PricingCalculationInput} :
    e.priced? invoiceId = some input ↔ e = .invoicePriced invoiceId input := by
  cases e with
  | invoicePriced i u =>
    by_cases hi : i = invoiceId
    · simp [priced?, hi]
    · simp [priced?, hi]
  | _ => simp [priced?]

theorem Event.funded?_eq_some {e : Event} {p : Payment} :
    e.funded? = some p ↔ e = .paymentFunded p := by
  cases e <;> simp [funded?]

/-- A transaction on the platform's store. -/
abbrev Tx : Type → Type := Txn Input World RisError

/-- A call on the platform's store. -/
abbrev Call : Type → Type := Proc World Input Event RisError

/-! ## Inside a transaction -/

/-- `pool.connect`, `BEGIN` and every later point at which the database may refuse to go on. -/
def connect : Tx Unit := do
  let i ← Txn.input
  match i.fault with
  | some message => Txn.abort (.runtime message)
  | none => pure ()

/-- `NOW()`. -/
def now : Tx ℤ := do
  let i ← Txn.input
  return i.now

/-- Milliseconds in a day. -/
def dayMs : ℤ := 86400000

/-- `CURRENT_DATE`. -/
def currentDate : Tx ℤ := do
  let now ← now
  return now / dayMs

/-- `BigInt(value)` of a nullable column. -/
def toBigInt : Option ℤ → Except RisError ℤ
  | some n => pure n
  | none => throw (.runtime "Cannot convert null to a BigInt")

/-- `INSERT INTO audit_logs`. -/
def createAuditEntry (entry : AuditLog) : Tx Unit :=
  Txn.write fun w => { w with auditLogs := w.auditLogs ++ [entry] }

/-! ## Statements -/

/-- A `SELECT` outside a transaction. -/
def query {α : Type} (f : World → α) (seen : α → Event := fun _ => .read) : Call α :=
  .transaction (do connect; Txn.read f) seen fun _ => .threw

/-- A `SELECT` outside a transaction that may ask for `NOW()`, with the clock when its rows arrive. -/
def queryNow {α : Type} (f : ℤ → World → α) : Call (α × ℤ) :=
  .transaction (do connect; let now ← now; let found ← Txn.read (f now); return (found, now))
    (fun _ => .read) fun _ => .threw

/-- An audit row that is written on its own. -/
def auditAlone (entry : AuditLog) : Call Unit :=
  .transaction (do connect; createAuditEntry entry) (fun _ => .audited entry.action) fun _ => .threw

/-- A transaction: `BEGIN`, the body, `COMMIT`, and `ROLLBACK` when one of them fails. -/
def transaction {α : Type} (body : Tx α) (committed : α → Event) : Call α :=
  .transaction (do connect; body) committed fun _ => .threw

/-- `logger.audit`, `logger.warn`. -/
def log (action : String) : Call Unit :=
  .transaction connect (fun _ => .logged action) fun _ => .threw

/-- `enqueueWithContext`. -/
def enqueueWithContext (job : Job) : Call Unit :=
  .transaction (do connect; Txn.write fun w => { w with jobs := w.jobs ++ [job] })
    (fun _ => .enqueued job) fun _ => .threw

/-- `enqueueWithContext` inside a transaction. -/
def enqueueTx (job : Job) : Tx Unit :=
  Txn.write fun w => { w with jobs := w.jobs ++ [job] }

/-- The outcome of a body that enqueues jobs: when the transaction fails after its last statement, the
rows are rolled back and the jobs are not. -/
def keepJobs {α : Type} (body : Tx α) : Tx (Except RisError α) := fun i w =>
  match body i w with
  | .error e => .error e
  | .ok (a, w') =>
    match i.commitFault with
    | none => .ok (.ok a, w')
    | some message => .ok (.error (.runtime message), { w with jobs := w'.jobs })

/-- The event of such a transaction. -/
def committedOr {α : Type} (committed : α → Event) : Except RisError α → Event
  | .ok a => committed a
  | .error _ => .leftJobs

/-- A transaction whose body enqueues jobs. -/
def enqueuingTransaction {α : Type} (body : Tx α) (committed : α → Event) : Call α := do
  let outcome ← .transaction (do connect; keepJobs body) (committedOr committed) fun _ => .threw
  liftM outcome

/-- Enqueue on a queue that may not have been set; then only a warning is logged. -/
def enqueueOrWarn (cfg : Config) (job : Job) (warning : String) : Call Unit :=
  if job.queue ∈ cfg.queues then enqueueWithContext job else log warning

/-! ## What a committed transaction did -/

section Commit

variable {i : Input} {w w' : World}

@[simp] theorem connect_ok {u : Unit} : connect i w = .ok (u, w') ↔ i.fault = none ∧ w = w' := by
  unfold connect
  cases hf : i.fault <;> simp [hf]

@[simp] theorem now_ok {t : ℤ} : now i w = .ok (t, w') ↔ i.now = t ∧ w = w' := by
  simp [now, and_comm]

@[simp] theorem createAuditEntry_ok {entry : AuditLog} {u : Unit} :
    createAuditEntry entry i w = .ok (u, w') ↔
      { w with auditLogs := w.auditLogs ++ [entry] } = w' := by
  simp [createAuditEntry]

@[simp] theorem enqueueTx_ok {job : Job} {u : Unit} :
    enqueueTx job i w = .ok (u, w') ↔ { w with jobs := w.jobs ++ [job] } = w' := by
  simp [enqueueTx]

/-- Either the body committed, or only its jobs are left. -/
theorem keepJobs_ok {α : Type} {body : Tx α} {outcome : Except RisError α}
    (h : keepJobs body i w = .ok (outcome, w')) :
    (∃ a, outcome = .ok a ∧ body i w = .ok (a, w')) ∨
      ∃ e jobs, outcome = .error e ∧ w' = { w with jobs := jobs } := by
  unfold keepJobs at h
  split at h
  · cases h
  · rename_i a w₁ hbody
    split at h
    · obtain ⟨rfl, rfl⟩ := Prod.mk.inj (Except.ok.inj h)
      exact Or.inl ⟨a, rfl, hbody⟩
    · obtain ⟨rfl, rfl⟩ := Prod.mk.inj (Except.ok.inj h)
      exact Or.inr ⟨_, _, rfl, rfl⟩

end Commit

end Ris
