import RisPlatform.Approvals.Service
import RisPlatform.Payments.Transactions

/-!
# What the approval transactions write

One spec for each transaction of the approvals service: whether the officer may decide, whether the
decision makes the quorum, and what it writes to `approvals`, `invoices`, `audit_logs` and the queues.
-/

namespace Ris.Approvals

open Relational Concurrent

/-! ## The rules of the tiers -/

/-- The officer may approve after the decisions `existing`. -/
def MayApprove (tier : ApprovalTier) (userId : Actor) (role : String) (existing : List Approval) :
    Prop :=
  match tier with
  | .auto | .tier2 => True
  | .tier3 => role = "management" ∨ alreadyDecided existing userId = false
  | .tier4 =>
    alreadyDecided existing userId = false ∧ (role = "management" ∨ role = "credit_officer")

/-- An approval after the decisions `existing` makes the quorum. -/
def makesQuorum (tier : ApprovalTier) (role : String) (existing : List Approval) : Bool :=
  match tier with
  | .auto | .tier2 => true
  | .tier3 => 2 ≤ countApprovals existing + 1
  | .tier4 => checkTier4Quorum existing role

theorem validateTier3Officer_ok {approver : Approver} {existing : List Approval} {u : Unit}
    (h : validateTier3Officer approver existing = .ok u) :
    MayApprove .tier3 approver.userId approver.role existing := by
  unfold validateTier3Officer at h
  split at h
  · rename_i hrole
    exact Or.inl hrole
  · split at h
    · cases h
    · rename_i hfresh
      exact Or.inr (by simpa using hfresh)

theorem validateTier4Officer_ok {approver : Approver} {existing : List Approval} {u : Unit}
    (h : validateTier4Officer approver existing = .ok u) :
    MayApprove .tier4 approver.userId approver.role existing := by
  unfold validateTier4Officer at h
  split at h
  · cases h
  · rename_i hfresh
    split at h
    · cases h
    · rename_i hrole
      refine ⟨by simpa using hfresh, ?_⟩
      by_contra hneither
      exact hrole (not_or.1 hneither)

/-! ## Statements -/

variable {cfg : Config} {i : Input} {w w' : World}

/-- The lock is taken on an invoice that exists. -/
theorem lockInvoice_ok {invoiceId : ℕ} {u : Unit} (h : lockInvoice invoiceId i w = .ok (u, w')) :
    w' = w ∧ ∃ r, w.invoices.get? invoiceId = some r := by
  unfold lockInvoice lockInvoiceForReview at h
  simp only [Txn.bind_ok, Txn.input_ok] at h
  obtain ⟨found, w₁, ⟨_, _, ⟨rfl, rfl⟩, hread⟩, h⟩ := h
  cases hlock : i.lockNotAvailable with
  | true => simp [hlock] at hread
  | false =>
    simp only [hlock, Bool.false_eq_true, if_false, Txn.read_ok] at hread
    obtain ⟨hfound, rfl⟩ := hread
    cases found with
    | none => simp at h
    | some invoice =>
      simp only [Txn.pure_ok] at h
      exact ⟨h.2.symm, invoice, hfound⟩

theorem createApprovalWithClient_ok {row : Approval} {u : Unit}
    (h : createApprovalWithClient cfg row i w = .ok (u, w')) :
    w.approvals.insert? row = some w'.approvals ∧ w' = { w with approvals := w'.approvals } := by
  simp only [createApprovalWithClient, Txn.bind_ok, Txn.read_ok, id] at h
  obtain ⟨_, _, ⟨rfl, rfl⟩, h⟩ := h
  cases hviol : approvalViolation cfg row with
  | some message => simp [hviol] at h
  | none =>
    cases hins : w.approvals.insert? row with
    | none => simp [hviol, hins] at h
    | some approvals =>
      simp only [hviol, hins, Txn.write_ok] at h
      subst h
      exact ⟨rfl, rfl⟩

/-- The table takes a row that is inserted. -/
theorem createApprovalWithClient_accepts {row : Approval} {u : Unit}
    (h : createApprovalWithClient cfg row i w = .ok (u, w')) : approvalViolation cfg row = none := by
  simp only [createApprovalWithClient, Txn.bind_ok, Txn.read_ok, id] at h
  obtain ⟨_, _, ⟨rfl, rfl⟩, h⟩ := h
  cases hviol : approvalViolation cfg row with
  | some message => simp [hviol] at h
  | none => rfl

/-- The table takes some row of the tier. -/
def TierAccepted (cfg : Config) (tier : ApprovalTier) : Prop :=
  ∃ row : Approval, row.tier = tier ∧ approvalViolation cfg row = none

/-- The table `invoices` with the invoice moved on from `priced`, if it is there. -/
def moveFromPriced (invoiceId : ℕ) (newStatus : InvoiceStatus) (now : ℤ)
    (invoices : Table Invoice.id) : Table Invoice.id :=
  invoices.update (fun r => r.id = invoiceId ∧ r.status = .priced)
    (Payments.setInvoiceStatus newStatus now) (Payments.id_setInvoiceStatus newStatus now)

/-- The job of `queuePayment`. -/
def paymentJob (invoiceId : ℕ) : Job where
  queue := .payments
  name := "process-payment"
  data := [("invoiceId", .id invoiceId)]

/-- What `queuePayment` enqueues. -/
def paymentJobs (cfg : Config) (invoiceId : ℕ) : List Job :=
  if QueueName.payments ∈ cfg.queues then [paymentJob invoiceId] else []

/-- The job of `queueRejectionNotification`. -/
def rejectionJob (invoiceId : ℕ) : Job where
  queue := .notification
  name := "invoice-rejected"
  data := [("invoiceId", .id invoiceId)]

/-- What `queueRejectionNotification` enqueues. -/
def rejectionJobs (cfg : Config) (invoiceId : ℕ) : List Job :=
  if QueueName.notification ∈ cfg.queues then [rejectionJob invoiceId] else []

theorem updateInvoiceStatus_ok {invoiceId : ℕ} {newStatus : InvoiceStatus} {u : Unit}
    (h : updateInvoiceStatus invoiceId newStatus .priced i w = .ok (u, w')) :
    w' = { w with invoices := moveFromPriced invoiceId newStatus i.now w.invoices } := by
  simp only [updateInvoiceStatus, Txn.bind_ok, Txn.pure_ok] at h
  obtain ⟨_, _, hmove, -, rfl⟩ := h
  exact Payments.updateInvoiceStatusWithClient_ok hmove

theorem approveAndQueuePayment_ok {invoiceId : ℕ} {u : Unit}
    (h : approveAndQueuePayment cfg invoiceId i w = .ok (u, w')) :
    w' =
      { w with
        invoices := moveFromPriced invoiceId .approved i.now w.invoices
        jobs := w.jobs ++ paymentJobs cfg invoiceId } := by
  simp only [approveAndQueuePayment, Txn.bind_ok] at h
  obtain ⟨_, w₁, hmove, hqueue⟩ := h
  have hw₁ := updateInvoiceStatus_ok hmove
  subst hw₁
  unfold queuePayment at hqueue
  split at hqueue
  · rename_i hset
    rw [enqueueTx_ok] at hqueue
    rw [paymentJobs, if_pos hset]
    exact hqueue.symm
  · rename_i hset
    rw [paymentJobs, if_neg hset, List.append_nil]
    exact (Txn.pure_ok.1 hqueue).2.symm

theorem rejectAndNotify_ok {invoiceId : ℕ} {u : Unit}
    (h : rejectAndNotify cfg invoiceId i w = .ok (u, w')) :
    w' =
      { w with
        invoices := moveFromPriced invoiceId .rejected i.now w.invoices
        jobs := w.jobs ++ rejectionJobs cfg invoiceId } := by
  simp only [rejectAndNotify, Txn.bind_ok] at h
  obtain ⟨_, w₁, hmove, hqueue⟩ := h
  have hw₁ := updateInvoiceStatus_ok hmove
  subst hw₁
  unfold queueRejectionNotification at hqueue
  split at hqueue
  · rename_i hset
    rw [enqueueTx_ok] at hqueue
    rw [rejectionJobs, if_pos hset]
    exact hqueue.symm
  · rename_i hset
    rw [rejectionJobs, if_neg hset, List.append_nil]
    exact (Txn.pure_ok.1 hqueue).2.symm

/-! ## An approval -/

/-- What the commit of an approval writes. -/
structure ApprovalWrites (cfg : Config) (tier : ApprovalTier) (invoiceId : ℕ) (userId : Actor)
    (role : String) (quorumReached : Bool) (now : ℤ) (w w' : World) : Prop where
  may : MayApprove tier userId role (getApprovalsByInvoiceId invoiceId w)
  quorum : quorumReached = makesQuorum tier role (getApprovalsByInvoiceId invoiceId w)
  row : ∃ row : Approval, w.approvals.insert? row = some w'.approvals ∧ row.invoiceId = invoiceId ∧
    row.decision = .approved ∧ (tier ≠ .auto → row.approverId = userId)
  invoices : w'.invoices =
    if quorumReached then moveFromPriced invoiceId .approved now w.invoices else w.invoices
  frame : w' =
    { w with
      approvals := w'.approvals
      invoices := w'.invoices
      jobs := w'.jobs
      auditLogs := w'.auditLogs }
  jobs : w'.jobs = w.jobs ++ if quorumReached then paymentJobs cfg invoiceId else []
  audit : ∃ entry : AuditLog, w'.auditLogs = w.auditLogs ++ [entry] ∧
    entry.action = "INVOICE_APPROVED" ∧ entry.recordId = .id invoiceId
  accepted : TierAccepted cfg tier

theorem ApprovalWrites.riskScores {tier : ApprovalTier} {invoiceId : ℕ} {userId : Actor}
    {role : String} {quorumReached : Bool} {now : ℤ}
    (h : ApprovalWrites cfg tier invoiceId userId role quorumReached now w w') :
    w'.riskScores = w.riskScores := by
  rw [h.frame]

/-- What `recordApproval` writes: all of it but the audit row. -/
theorem recordApproval_ok {invoice : Invoice} {tier : ApprovalTier} {approverId : Actor}
    {comments : String} {creditMemo reviewSummary : Option String} {quorumReached : Bool}
    {result : ApprovalResult}
    (h : recordApproval cfg invoice tier approverId comments creditMemo reviewSummary quorumReached i w
      = .ok (result, w')) :
    result.quorumReached = quorumReached ∧
      ∃ row : Approval, w.approvals.insert? row = some w'.approvals ∧ row.invoiceId = invoice.id ∧
        row.decision = .approved ∧ row.approverId = approverId ∧
        w' =
          { w with
            approvals := w'.approvals
            invoices :=
              if quorumReached then moveFromPriced invoice.id .approved i.now w.invoices
              else w.invoices
            jobs := w.jobs ++ if quorumReached then paymentJobs cfg invoice.id else [] } := by
  simp only [recordApproval, Txn.bind_ok, Txn.input_ok] at h
  obtain ⟨_, _, ⟨rfl, rfl⟩, _, w₁, hinsert, h⟩ := h
  obtain ⟨hrow, hw₁⟩ := createApprovalWithClient_ok hinsert
  cases quorumReached with
  | true =>
    simp only [if_true, Txn.bind_ok, Txn.pure_ok] at h
    obtain ⟨_, w₂, happrove, rfl, rfl⟩ := h
    have hw₂ := approveAndQueuePayment_ok happrove
    have happrovals : w₂.approvals = w₁.approvals := by rw [hw₂]
    refine ⟨rfl, _, happrovals ▸ hrow, rfl, rfl, rfl, ?_⟩
    rw [hw₂, hw₁]
    simp
  | false =>
    simp only [Bool.false_eq_true, if_false, Txn.pure_ok] at h
    obtain ⟨rfl, rfl⟩ := h
    refine ⟨rfl, _, hrow, rfl, rfl, rfl, ?_⟩
    simpa using hw₁

theorem recordApproval_accepted {invoice : Invoice} {tier : ApprovalTier} {approverId : Actor}
    {comments : String} {creditMemo reviewSummary : Option String} {quorumReached : Bool}
    {result : ApprovalResult}
    (h : recordApproval cfg invoice tier approverId comments creditMemo reviewSummary quorumReached i w
      = .ok (result, w')) : TierAccepted cfg tier := by
  simp only [recordApproval, Txn.bind_ok] at h
  obtain ⟨_, _, -, _, _, hinsert, -⟩ := h
  exact ⟨_, rfl, createApprovalWithClient_accepts hinsert⟩

theorem processApprovalByTier_accepted {invoice : Invoice} {riskScore : RiskScore} {tier : ApprovalTier}
    {approver : Approver} {existing : List Approval} {result : ApprovalResult}
    (h : processApprovalByTier cfg invoice riskScore tier approver existing i w = .ok (result, w')) :
    TierAccepted cfg tier := by
  cases tier with
  | auto => exact recordApproval_accepted h
  | tier2 => exact recordApproval_accepted h
  | tier3 =>
    obtain ⟨_, _, -, hrecord⟩ := Txn.bind_ok.1 h
    exact recordApproval_accepted hrecord
  | tier4 =>
    obtain ⟨_, _, -, hrecord⟩ := Txn.bind_ok.1 h
    exact recordApproval_accepted hrecord

/-- What the tiers' handlers write, with the rule each follows. -/
theorem processApprovalByTier_ok {invoice : Invoice} {riskScore : RiskScore} {tier : ApprovalTier}
    {approver : Approver} {existing : List Approval} {result : ApprovalResult}
    (h : processApprovalByTier cfg invoice riskScore tier approver existing i w = .ok (result, w')) :
    MayApprove tier approver.userId approver.role existing ∧
      result.quorumReached = makesQuorum tier approver.role existing ∧
      ∃ row : Approval, w.approvals.insert? row = some w'.approvals ∧ row.invoiceId = invoice.id ∧
        row.decision = .approved ∧ (tier ≠ .auto → row.approverId = approver.userId) ∧
        w' =
          { w with
            approvals := w'.approvals
            invoices :=
              if result.quorumReached then moveFromPriced invoice.id .approved i.now w.invoices
              else w.invoices
            jobs := w.jobs ++ if result.quorumReached then paymentJobs cfg invoice.id else [] } := by
  cases tier with
  | auto =>
    obtain ⟨hquorum, row, hrow, hid, hdecision, -, hw'⟩ := recordApproval_ok h
    rw [hquorum]
    exact ⟨trivial, rfl, row, hrow, hid, hdecision, fun hne => absurd rfl hne, hw'⟩
  | tier2 =>
    obtain ⟨hquorum, row, hrow, hid, hdecision, hby, hw'⟩ := recordApproval_ok h
    rw [hquorum]
    exact ⟨trivial, rfl, row, hrow, hid, hdecision, fun _ => hby, hw'⟩
  | tier3 =>
    simp only [processApprovalByTier, processTier3Approval, Txn.bind_ok, Txn.liftM_ok] at h
    obtain ⟨_, _, ⟨hmay, rfl⟩, h⟩ := h
    obtain ⟨hquorum, row, hrow, hid, hdecision, hby, hw'⟩ := recordApproval_ok h
    rw [hquorum]
    exact ⟨validateTier3Officer_ok hmay, rfl, row, hrow, hid, hdecision, fun _ => hby, hw'⟩
  | tier4 =>
    simp only [processApprovalByTier, processTier4Approval, Txn.bind_ok, Txn.liftM_ok] at h
    obtain ⟨_, _, ⟨hmay, rfl⟩, h⟩ := h
    obtain ⟨hquorum, row, hrow, hid, hdecision, hby, hw'⟩ := recordApproval_ok h
    rw [hquorum]
    exact ⟨validateTier4Officer_ok hmay, rfl, row, hrow, hid, hdecision, fun _ => hby, hw'⟩

/-- The commit of `executeApproval`. -/
theorem executeApprovalTxn_ok {invoice : Invoice} {riskScore : RiskScore} {tier : ApprovalTier}
    {approver : Approver} {req : Request} {result : ApprovalResult}
    (h : executeApprovalTxn cfg invoice riskScore tier approver req i w = .ok (result, w')) :
    ApprovalWrites cfg tier invoice.id approver.userId approver.role result.quorumReached i.now w w' := by
  simp only [executeApprovalTxn, auditApproval, Txn.bind_ok, Txn.read_ok, Txn.liftM_ok,
    createAuditEntry_ok, Txn.pure_ok] at h
  obtain ⟨_, w₁, hlock, existing, _, ⟨hexisting, rfl⟩, result', w₂, hprocess, _, w₃,
    ⟨user, _, ⟨-, rfl⟩, haudit⟩, rfl, rfl⟩ := h
  obtain ⟨rfl, -⟩ := lockInvoice_ok hlock
  obtain ⟨hmay, hquorum, row, hrow, hid, hdecision, hby, hw₂⟩ := processApprovalByTier_ok hprocess
  have haccepted := processApprovalByTier_accepted hprocess
  subst hexisting haudit
  refine ⟨hmay, hquorum, ⟨row, hrow, hid, hdecision, hby⟩, ?_, ?_, ?_, ?_, haccepted⟩
  · dsimp only
    rw [hw₂]
  · rw [hw₂]
  · dsimp only
    rw [hw₂]
  · dsimp only
    rw [hw₂]
    exact ⟨_, rfl, rfl, rfl⟩

/-! ## A rejection -/

/-- The table `invoices` with the rejection counted, if it is one of Tier 3. -/
def countIfTier3 (tier : ApprovalTier) (invoiceId : ℕ) (invoices : Table Invoice.id) :
    Table Invoice.id :=
  if tier = .tier3 then
    invoices.update (fun r => r.id = invoiceId) countRejection id_countRejection
  else invoices

/-- What the commit of a rejection writes. -/
structure RejectionWrites (cfg : Config) (tier : ApprovalTier) (invoiceId : ℕ) (userId : Actor)
    (rejects : Bool) (now : ℤ) (w w' : World) : Prop where
  row : ∃ row : Approval, w.approvals.insert? row = some w'.approvals ∧ row.invoiceId = invoiceId ∧
    row.decision = .rejected ∧ row.approverId = userId
  invoices : w'.invoices =
    if rejects then moveFromPriced invoiceId .rejected now (countIfTier3 tier invoiceId w.invoices)
    else countIfTier3 tier invoiceId w.invoices
  frame : w' =
    { w with
      approvals := w'.approvals
      invoices := w'.invoices
      jobs := w'.jobs
      auditLogs := w'.auditLogs }
  jobs : w'.jobs = w.jobs ++ if rejects then rejectionJobs cfg invoiceId else []
  audits : ∃ entries : List AuditLog, w'.auditLogs = w.auditLogs ++ entries ∧
    ∀ entry ∈ entries, entry.action ≠ "INVOICE_APPROVED"
  /-- Only in Tier 3 an invoice stays. -/
  tier3 : rejects = false → tier = .tier3
  accepted : TierAccepted cfg tier

theorem RejectionWrites.riskScores {tier : ApprovalTier} {invoiceId : ℕ} {userId : Actor}
    {rejects : Bool} {now : ℤ} (h : RejectionWrites cfg tier invoiceId userId rejects now w w') :
    w'.riskScores = w.riskScores := by
  rw [h.frame]

/-- What `rejectByTier` writes: all of it but the row and its audit row. -/
structure CountsOrRejects (cfg : Config) (tier : ApprovalTier) (invoiceId : ℕ) (rejects : Bool)
    (now : ℤ) (w w' : World) : Prop where
  tier3 : rejects = false → tier = .tier3
  writes : ∃ entries : List AuditLog, (∀ entry ∈ entries, entry.action ≠ "INVOICE_APPROVED") ∧
    w' =
      { w with
        invoices :=
          if rejects then
            moveFromPriced invoiceId .rejected now (countIfTier3 tier invoiceId w.invoices)
          else countIfTier3 tier invoiceId w.invoices
        jobs := w.jobs ++ if rejects then rejectionJobs cfg invoiceId else []
        auditLogs := w.auditLogs ++ entries }

theorem handleTier3Rejection_ok {invoiceId : ℕ} {userId : Actor} {req : Request} {rejects : Bool}
    (h : handleTier3Rejection cfg invoiceId userId req i w = .ok (rejects, w')) :
    CountsOrRejects cfg .tier3 invoiceId rejects i.now w w' := by
  simp only [handleTier3Rejection, incrementTier3RejectionCount, Txn.bind_ok, Txn.write_ok,
    Txn.read_ok, Txn.input_ok] at h
  obtain ⟨count, w₁, ⟨_, _, rfl, -, rfl⟩, _, _, ⟨rfl, rfl⟩, h⟩ := h
  refine ⟨fun _ => rfl, ?_⟩
  split at h
  · obtain ⟨rfl, rfl⟩ := Txn.pure_ok.1 h
    refine ⟨[], by simp, ?_⟩
    simp only [countIfTier3, if_true, Bool.false_eq_true, if_false, List.append_nil]
  · simp only [Txn.bind_ok, Txn.liftM_ok, createAuditEntry_ok, Txn.pure_ok] at h
    obtain ⟨_, w₂, hreject, user, _, ⟨-, rfl⟩, _, w₃, rfl, rfl, rfl⟩ := h
    have hw₂ := rejectAndNotify_ok hreject
    refine ⟨[autoRejectionAudit invoiceId user count i.tier3AutoRejectThreshold req], ?_, ?_⟩
    · simp [autoRejectionAudit]
    · rw [hw₂]
      rfl

theorem rejectByTier_ok {invoiceId : ℕ} {tier : ApprovalTier} {userId : Actor} {req : Request}
    {rejects : Bool} (h : rejectByTier cfg invoiceId tier userId req i w = .ok (rejects, w')) :
    CountsOrRejects cfg tier invoiceId rejects i.now w w' := by
  unfold rejectByTier at h
  by_cases hthree : tier = .tier3
  · subst hthree
    rw [if_pos rfl] at h
    exact handleTier3Rejection_ok h
  · simp only [if_neg hthree, Txn.bind_ok, Txn.pure_ok] at h
    obtain ⟨_, _, hreject, rfl, rfl⟩ := h
    have hw' := rejectAndNotify_ok hreject
    refine ⟨fun hfalse => (by cases hfalse), [], by simp, ?_⟩
    rw [hw', countIfTier3, if_neg hthree, if_pos rfl, if_pos rfl, List.append_nil]

/-- The commit of `executeRejection`. -/
theorem executeRejectionTxn_ok {invoice : Invoice} {tier : ApprovalTier} {approver : Approver}
    {req : Request} {result : ApprovalResult × Bool}
    (h : executeRejectionTxn cfg invoice tier approver req i w = .ok (result, w')) :
    RejectionWrites cfg tier invoice.id approver.userId result.2 i.now w w' := by
  simp only [executeRejectionTxn, auditRejection, Txn.bind_ok, Txn.input_ok, Txn.liftM_ok,
    createAuditEntry_ok, Txn.pure_ok] at h
  obtain ⟨_, w₁, hlock, _, _, ⟨rfl, rfl⟩, _, w₂, hinsert, rejects, w₃, hdecide, _, w₄,
    ⟨user, _, ⟨-, rfl⟩, rfl⟩, rfl, rfl⟩ := h
  obtain ⟨rfl, -⟩ := lockInvoice_ok hlock
  obtain ⟨hrow, hw₂⟩ := createApprovalWithClient_ok hinsert
  obtain ⟨hthree, entries, hentries, hw₃⟩ := rejectByTier_ok hdecide
  have happrovals : w₃.approvals = w₂.approvals := by rw [hw₃]
  have haccepted : TierAccepted cfg tier := ⟨_, rfl, createApprovalWithClient_accepts hinsert⟩
  refine ⟨⟨_, happrovals ▸ hrow, rfl, rfl, rfl⟩, ?_, ?_, ?_, ?_, hthree, haccepted⟩
  · dsimp only
    rw [hw₃, hw₂]
  · rw [hw₃, hw₂]
  · dsimp only
    rw [hw₃, hw₂]
  · refine ⟨entries ++
      [rejectionAudit user invoice tier i.uuid (approver.comments.getD "") req], ?_, ?_⟩
    · dsimp only
      rw [hw₃, hw₂, List.append_assoc]
    · intro entry hentry
      rcases List.mem_append.1 hentry with hentry | hentry
      · exact hentries entry hentry
      · rw [List.mem_singleton.1 hentry]
        simp [rejectionAudit]

end Ris.Approvals
