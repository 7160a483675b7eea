import RisPlatform.Approvals.Protocol

/-!
# The docket of an invoice

What the store says about the decisions on one invoice, as a value of its own, and the machine that it
runs through. `Effect.docketStep` is the refinement: every statement of the service is a step of that
machine. The committee status is a function of the docket.
-/

namespace Ris.Approvals

open Relational Concurrent

/-- The status of an invoice. -/
def statusOf (invoiceId : ℕ) (w : World) : Option InvoiceStatus :=
  (w.invoices.get? invoiceId).map Invoice.status

/-- What the store says about the decisions on one invoice. -/
structure Docket where
  status : Option InvoiceStatus
  /-- The rows of `approvals`, oldest first. -/
  decisions : List Approval
  rejectionCount : ℤ
  /-- How many `process-payment` jobs there are. -/
  paymentJobs : ℕ
  /-- How many audit rows `INVOICE_APPROVED` there are. -/
  approvalAudits : ℕ

/-- The audit row of an approval of the invoice. -/
def isApprovalAudit (invoiceId : ℕ) (entry : AuditLog) : Bool :=
  entry.action = "INVOICE_APPROVED" ∧ entry.recordId = .id invoiceId

def docketOf (invoiceId : ℕ) (w : World) : Docket where
  status := statusOf invoiceId w
  decisions := getApprovalsByInvoiceId invoiceId w
  rejectionCount := ((w.invoices.get? invoiceId).map Invoice.tier3RejectionCount).getD 0
  paymentJobs := w.jobs.countP fun job => job = paymentJob invoiceId
  approvalAudits := w.auditLogs.countP (isApprovalAudit invoiceId)

/-! ## The machine -/

namespace Docket

/-- An approval is recorded; with the quorum it moves a priced invoice on, and enqueues its payment
either way. -/
def approve (cfg : Config) (row : Approval) (quorumReached : Bool) (d : Docket) : Docket :=
  { d with
    status := if quorumReached = true ∧ d.status = some .priced then some .approved else d.status
    decisions := d.decisions ++ [row]
    paymentJobs := d.paymentJobs +
      if quorumReached = true ∧ QueueName.payments ∈ cfg.queues then 1 else 0
    approvalAudits := d.approvalAudits + 1 }

/-- A rejection is recorded, and in Tier 3 counted. -/
def reject (tier : ApprovalTier) (row : Approval) (rejects : Bool) (d : Docket) : Docket :=
  { d with
    status := if rejects = true ∧ d.status = some .priced then some .rejected else d.status
    decisions := d.decisions ++ [row]
    rejectionCount := d.rejectionCount + if tier = .tier3 then 1 else 0 }

/-- What an event does to the docket of an invoice of the tier. -/
inductive Step (cfg : Config) (tier : ApprovalTier) (invoiceId : ℕ) (d : Docket) :
    Event → Docket → Prop
  | elsewhere (e : Event) (happroval : e.approval? invoiceId = none)
      (hrejection : e.rejection? invoiceId = none) : Step cfg tier invoiceId d e d
  | leftJobs (count : ℕ) : Step cfg tier invoiceId d .leftJobs { d with paymentJobs := count }
  | reset : Step cfg tier invoiceId d (.rejectionCountReset invoiceId) { d with rejectionCount := 0 }
  | approval (e : Event) (userId : Actor) (role : String) (row : Approval)
      (he : e.approval? invoiceId = some (userId, role, makesQuorum tier role d.decisions))
      (hrejection : e.rejection? invoiceId = none)
      (hmay : MayApprove tier userId role d.decisions) (hdecision : row.decision = .approved)
      (hby : tier ≠ .auto → row.approverId = userId) :
      Step cfg tier invoiceId d e (d.approve cfg row (makesQuorum tier role d.decisions))
  | rejection (e : Event) (userId : Actor) (rejects : Bool) (row : Approval)
      (he : e.rejection? invoiceId = some (userId, rejects))
      (happroval : e.approval? invoiceId = none) (hdecision : row.decision = .rejected)
      (hby : row.approverId = userId) :
      Step cfg tier invoiceId d e (d.reject tier row rejects)

end Docket

/-! ## The refinement -/

section Parts

variable {invoiceId j : ℕ} {w w' : World}

/-- A row of `approvals` is one more decision on its invoice and on no other. -/
theorem getApprovalsByInvoiceId_insert {row : Approval}
    (h : w.approvals.insert? row = some w'.approvals) :
    getApprovalsByInvoiceId j w' =
      getApprovalsByInvoiceId j w ++ if row.invoiceId = j then [row] else [] := by
  unfold getApprovalsByInvoiceId
  rw [Table.rows_insert? h, List.filter_append]
  by_cases hj : row.invoiceId = j
  · simp [hj]
  · simp [hj]

theorem statusOf_moveFromPriced {newStatus : InvoiceStatus} {now : ℤ} {T : Table Invoice.id} :
    ((moveFromPriced invoiceId newStatus now T).get? j).map Invoice.status =
      if j = invoiceId ∧ (T.get? j).map Invoice.status = some .priced then some newStatus
      else (T.get? j).map Invoice.status := by
  rw [get?_moveFromPriced]
  cases hr : T.get? j with
  | none => simp
  | some r =>
    have hid : r.id = j := Table.key_of_get? hr
    simp only [Option.map_some, hid, Option.some.injEq]
    split
    · rfl
    · rfl

theorem rejectionCount_moveFromPriced {newStatus : InvoiceStatus} {now : ℤ} {T : Table Invoice.id} :
    ((moveFromPriced invoiceId newStatus now T).get? j).map Invoice.tier3RejectionCount =
      (T.get? j).map Invoice.tier3RejectionCount := by
  rw [get?_moveFromPriced, Option.map_map]
  congr 1
  funext r
  simp only [Function.comp]
  split <;> rfl

theorem statusOf_countIfTier3 {tier : ApprovalTier} {T : Table Invoice.id} :
    ((countIfTier3 tier invoiceId T).get? j).map Invoice.status = (T.get? j).map Invoice.status := by
  rw [get?_countIfTier3, Option.map_map]
  congr 1
  funext r
  simp only [Function.comp]
  split <;> rfl

theorem rejectionCount_countIfTier3 (tier : ApprovalTier) (j : ℕ) {T : Table Invoice.id} {r : Invoice}
    (hr : T.get? invoiceId = some r) :
    (((countIfTier3 tier invoiceId T).get? j).map Invoice.tier3RejectionCount).getD 0 =
      ((T.get? j).map Invoice.tier3RejectionCount).getD 0 +
        if j = invoiceId ∧ tier = .tier3 then 1 else 0 := by
  rw [get?_countIfTier3]
  by_cases hj : j = invoiceId
  · subst hj
    have hid : r.id = j := Table.key_of_get? hr
    by_cases hthree : tier = .tier3
    · simp [hr, hid, hthree, countRejection]
    · simp [hr, hthree]
  · cases hother : T.get? j with
    | none => simp [hj]
    | some r' =>
      have hid : r'.id = j := Table.key_of_get? hother
      simp [hid, hj]

theorem paymentJob_inj {i j : ℕ} : paymentJob i = paymentJob j ↔ i = j := by
  simp [paymentJob]

theorem countP_paymentJobs (cfg : Config) :
    (paymentJobs cfg invoiceId).countP (fun job => job = paymentJob j) =
      if j = invoiceId ∧ QueueName.payments ∈ cfg.queues then 1 else 0 := by
  unfold paymentJobs
  by_cases hset : QueueName.payments ∈ cfg.queues
  · rw [if_pos hset, List.countP_singleton]
    have hiff : decide (paymentJob invoiceId = paymentJob j) = true ↔ j = invoiceId := by
      simp [paymentJob_inj, eq_comm]
    simp only [hiff, hset, and_true]
  · simp [hset]

/-- The notification of a rejection is no payment. -/
theorem countP_rejectionJobs (cfg : Config) :
    (rejectionJobs cfg invoiceId).countP (fun job => job = paymentJob j) = 0 := by
  unfold rejectionJobs
  split
  · simp [rejectionJob, paymentJob]
  · rfl

theorem countP_approvalAudits_other {entries : List AuditLog}
    (h : ∀ entry ∈ entries, entry.action ≠ "INVOICE_APPROVED") :
    entries.countP (isApprovalAudit j) = 0 := by
  rw [List.countP_eq_zero]
  intro entry hentry
  simp [isApprovalAudit, h entry hentry]

end Parts

section Refinement

variable {cfg : Config} {w₀ w w' : World} {invoiceId : ℕ} {tier : ApprovalTier}

/-- The tier at the start is the tier throughout. -/
theorem Inv.tierOf_congr (h : Inv w₀ w) (invoiceId : ℕ) : tierOf w invoiceId = tierOf w₀ invoiceId := by
  have hrouting := h.routing invoiceId
  have hscores : getRiskScoreForApproval invoiceId w = getRiskScoreForApproval invoiceId w₀ := by
    unfold getRiskScoreForApproval
    rw [h.riskScores]
  unfold tierOf getInvoiceForApproval
  rw [hscores]
  cases hr : w.invoices.get? invoiceId with
  | none =>
    rw [hr, Option.map_none, eq_comm, Option.map_eq_none_iff] at hrouting
    rw [hrouting]
  | some r =>
    rw [hr, Option.map_some, eq_comm, Option.map_eq_some_iff] at hrouting
    obtain ⟨r₀, hr₀, hsame⟩ := hrouting
    rw [hr₀]
    have hsame' : ∀ riskScore, determineTier r riskScore = determineTier r₀ riskScore :=
      determineTier_congr hsame.symm
    simp only [Option.bind_eq_bind, Option.bind_some, hsame']

/-- An invoice that has a tier is there throughout. -/
theorem Inv.exists_invoice (h : Inv w₀ w) (htier : tierOf w₀ invoiceId = some tier) :
    ∃ r, w.invoices.get? invoiceId = some r := by
  rw [← h.tierOf_congr] at htier
  obtain ⟨r, hr, -⟩ := Option.bind_eq_some_iff.1 htier
  exact ⟨r, hr⟩

/-- The docket after an approval. -/
theorem ApprovalWrites.docketOf_eq {j : ℕ} {userId : Actor} {role : String} {quorumReached : Bool}
    {now : ℤ} (h : ApprovalWrites cfg tier invoiceId userId role quorumReached now w w') :
    ∃ row : Approval, row.decision = .approved ∧ (tier ≠ .auto → row.approverId = userId) ∧
      docketOf j w' =
        if j = invoiceId then (docketOf j w).approve cfg row quorumReached else docketOf j w := by
  obtain ⟨row, hrow, hid, hdecision, hby⟩ := h.row
  obtain ⟨entry, haudits, haction, hrecord⟩ := h.audit
  refine ⟨row, hdecision, hby, ?_⟩
  have hdecisions := getApprovalsByInvoiceId_insert (j := j) hrow
  rw [hid] at hdecisions
  have hstatus : statusOf j w' =
      if quorumReached = true ∧ j = invoiceId ∧ statusOf j w = some .priced then some .approved
      else statusOf j w := by
    unfold statusOf
    rw [h.invoices]
    cases quorumReached with
    | true => simpa only [if_true, true_and] using statusOf_moveFromPriced
    | false => simp
  have hcount : (w'.invoices.get? j).map Invoice.tier3RejectionCount =
      (w.invoices.get? j).map Invoice.tier3RejectionCount := by
    rw [h.invoices]
    split
    · exact rejectionCount_moveFromPriced
    · rfl
  have hjobs : w'.jobs.countP (fun job => job = paymentJob j) =
      w.jobs.countP (fun job => job = paymentJob j) +
        if quorumReached = true ∧ j = invoiceId ∧ QueueName.payments ∈ cfg.queues then 1 else 0 := by
    rw [h.jobs, List.countP_append]
    cases quorumReached with
    | true => simp only [if_true, countP_paymentJobs, true_and]
    | false => simp
  have haudit : w'.auditLogs.countP (isApprovalAudit j) =
      w.auditLogs.countP (isApprovalAudit j) + if j = invoiceId then 1 else 0 := by
    rw [haudits, List.countP_append, List.countP_singleton]
    have hiff : isApprovalAudit j entry = true ↔ j = invoiceId := by
      simp [isApprovalAudit, haction, hrecord, eq_comm]
    simp only [hiff]
  unfold docketOf
  rw [hdecisions, hstatus, hcount, hjobs, haudit]
  by_cases hj : j = invoiceId
  · simp [hj, Docket.approve]
  · simp [hj, Ne.symm hj]

/-- The docket after a rejection of an invoice that is there. -/
theorem RejectionWrites.docketOf_eq {j : ℕ} {userId : Actor} {rejects : Bool} {now : ℤ}
    (h : RejectionWrites cfg tier invoiceId userId rejects now w w')
    {r : Invoice} (hr : w.invoices.get? invoiceId = some r) :
    ∃ row : Approval, row.decision = .rejected ∧ row.approverId = userId ∧
      docketOf j w' =
        if j = invoiceId then (docketOf j w).reject tier row rejects else docketOf j w := by
  obtain ⟨row, hrow, hid, hdecision, hby⟩ := h.row
  obtain ⟨entries, haudits, hactions⟩ := h.audits
  refine ⟨row, hdecision, hby, ?_⟩
  have hdecisions := getApprovalsByInvoiceId_insert (j := j) hrow
  rw [hid] at hdecisions
  have hstatus : statusOf j w' =
      if rejects = true ∧ j = invoiceId ∧ statusOf j w = some .priced then some .rejected
      else statusOf j w := by
    unfold statusOf
    rw [h.invoices]
    cases rejects with
    | true => simp only [if_true, true_and, statusOf_moveFromPriced, statusOf_countIfTier3]
    | false => simp [statusOf_countIfTier3]
  have hcount : ((w'.invoices.get? j).map Invoice.tier3RejectionCount).getD 0 =
      ((w.invoices.get? j).map Invoice.tier3RejectionCount).getD 0 +
        if j = invoiceId ∧ tier = .tier3 then 1 else 0 := by
    have hcounted := rejectionCount_countIfTier3 tier j hr
    rw [h.invoices]
    split
    · rw [rejectionCount_moveFromPriced, hcounted]
    · rw [hcounted]
  have hjobs : w'.jobs.countP (fun job => job = paymentJob j) =
      w.jobs.countP (fun job => job = paymentJob j) := by
    rw [h.jobs, List.countP_append]
    cases rejects with
    | true => simp only [if_true, countP_rejectionJobs, Nat.add_zero]
    | false => simp
  have haudit : w'.auditLogs.countP (isApprovalAudit j) =
      w.auditLogs.countP (isApprovalAudit j) := by
    rw [haudits, List.countP_append, countP_approvalAudits_other hactions, Nat.add_zero]
  unfold docketOf
  rw [hdecisions, hstatus, hcount, hjobs, haudit]
  by_cases hj : j = invoiceId
  · simp [hj, Docket.reject]
  · simp [hj, Ne.symm hj]

/-- The docket after a reset. -/
theorem Resets.docketOf_eq {j : ℕ} (h : Resets invoiceId w w') :
    docketOf j w' = if j = invoiceId then { docketOf j w with rejectionCount := 0 } else docketOf j w := by
  obtain ⟨entry, haudits, haction⟩ := h.audit
  have haudit : w'.auditLogs.countP (isApprovalAudit j) =
      w.auditLogs.countP (isApprovalAudit j) := by
    have hnone : [entry].countP (isApprovalAudit j) = 0 :=
      countP_approvalAudits_other (by simpa using haction)
    rw [haudits, List.countP_append, hnone, Nat.add_zero]
  have happrovals : w'.approvals = w.approvals := by rw [h.frame]
  have hjobs : w'.jobs = w.jobs := by rw [h.frame]
  unfold docketOf statusOf getApprovalsByInvoiceId
  rw [h.invoices, happrovals, hjobs, haudit, Table.get?_update]
  cases hr : w.invoices.get? j with
  | none => simp
  | some r =>
    have hid : r.id = j := Table.key_of_get? hr
    by_cases hj : j = invoiceId
    · simp [hid, hj, resetRejections]
    · simp [hid, hj]

section Events

variable {i j : ℕ} {u : Actor} {role : String} {b : Bool}

theorem approval?_of_approval :
    (if b = true then Event.invoiceApproved i u role else .approvalRecorded i u role).approval? j =
      if i = j then some (u, role, b) else none := by
  cases b <;> rfl

theorem rejection?_of_approval :
    (if b = true then Event.invoiceApproved i u role else .approvalRecorded i u role).rejection? j =
      none := by
  cases b <;> rfl

theorem approval?_of_rejection :
    (if b = true then Event.invoiceRejected i u else .rejectionRecorded i u).approval? j = none := by
  cases b <;> rfl

theorem rejection?_of_rejection :
    (if b = true then Event.invoiceRejected i u else .rejectionRecorded i u).rejection? j =
      if i = j then some (u, b) else none := by
  cases b <;> rfl

end Events

/-- The refinement: every effect is a step of the docket's machine, for the tier of the invoice if it
has one. -/
theorem Effect.docketStep {e : Event} (heff : Effect cfg w₀ w e w') (hinv : Inv w₀ w)
    (htier : ∀ tier' ∈ tierOf w₀ invoiceId, tier' = tier) :
    Docket.Step cfg tier invoiceId (docketOf invoiceId w) e (docketOf invoiceId w') := by
  cases heff with
  | read => exact .elsewhere _ rfl rfl
  | threw => exact .elsewhere _ rfl rfl
  | logged action => exact .elsewhere _ rfl rfl
  | leftJobs jobs => exact .leftJobs _
  | approval i userId role quorumReached tier' now w' htier' h =>
    obtain ⟨row, hdecision, hby, hdocket⟩ := h.docketOf_eq (j := invoiceId)
    rw [hdocket]
    by_cases hi : invoiceId = i
    · subst hi
      obtain rfl : tier' = tier := htier tier' htier'
      have hquorum : quorumReached = makesQuorum tier' role (docketOf invoiceId w).decisions := h.quorum
      rw [if_pos rfl, hquorum]
      refine .approval _ userId role row ?_ rejection?_of_approval h.may hdecision hby
      rw [approval?_of_approval, if_pos rfl]
    · rw [if_neg hi]
      refine .elsewhere _ ?_ rejection?_of_approval
      rw [approval?_of_approval, if_neg (Ne.symm hi)]
  | rejection i userId rejects tier' now w' htier' h =>
    obtain ⟨r, hr⟩ := hinv.exists_invoice htier'
    obtain ⟨row, hdecision, hby, hdocket⟩ := h.docketOf_eq (j := invoiceId) hr
    rw [hdocket]
    by_cases hi : invoiceId = i
    · subst hi
      obtain rfl : tier' = tier := htier tier' htier'
      rw [if_pos rfl]
      refine .rejection _ userId rejects row ?_ approval?_of_rejection hdecision hby
      rw [rejection?_of_rejection, if_pos rfl]
    · rw [if_neg hi]
      refine .elsewhere _ approval?_of_rejection ?_
      rw [rejection?_of_rejection, if_neg (Ne.symm hi)]
  | reset i w' h =>
    rw [h.docketOf_eq]
    by_cases hi : invoiceId = i
    · subst hi
      rw [if_pos rfl]
      exact .reset
    · rw [if_neg hi]
      exact .elsewhere _ rfl rfl

/-- Only an invoice with a tier is approved. -/
theorem Effect.tierOf_of_approval {e : Event} (heff : Effect cfg w₀ w e w')
    {approval : Actor × String × Bool} (he : e.approval? invoiceId = some approval) :
    ∃ tier, tierOf w₀ invoiceId = some tier := by
  cases heff with
  | read | threw | logged | leftJobs | reset => cases he
  | approval i userId role quorumReached tier now w' htier h =>
    rw [approval?_of_approval] at he
    split at he
    · rename_i hi
      exact ⟨tier, hi ▸ htier⟩
    · cases he
  | rejection =>
    rw [approval?_of_rejection] at he
    cases he

/-- What a move of the protocol does to the docket. -/
theorem docketStep_of_moves {C : Cond World Event} {s : State World Event} {t : ℕ} {e : Event}
    (hmove : (protocol cfg w₀).Moves C s t (some e) w')
    (htier : ∀ tier' ∈ tierOf w₀ invoiceId, tier' = tier) :
    (docketOf invoiceId s.store).Step cfg tier invoiceId e (docketOf invoiceId w') :=
  Effect.docketStep hmove.effect hmove.inv htier

end Refinement

/-! ## The committee status -/

section Committee

variable {invoiceId : ℕ} {w : World}

/-- What `getCommitteeStatus`, run alone, reports as the quorum is whether `P` holds. -/
def ReportsQuorum (invoiceId : ℕ) (w : World) (P : Prop) : Prop :=
  (getCommitteeStatus invoiceId).Ends Healthy (fun status _ => status.quorumReached = true ↔ P)
    (fun _ _ => False) w

/-- It counts the approvals, whoever they are by. -/
theorem reportsQuorum_iff {tier : ApprovalTier} (htier : tierOf w invoiceId = some tier) {P : Prop} :
    ReportsQuorum invoiceId w P ↔
      (2 ≤ countApprovals (docketOf invoiceId w).decisions ↔ P) := by
  obtain ⟨invoice, hinvoice, hscore⟩ := Option.bind_eq_some_iff.1 htier
  obtain ⟨riskScore, hriskScore, -⟩ := Option.bind_eq_some_iff.1 hscore
  unfold ReportsQuorum getCommitteeStatus
  rw [ends_query_bind, hinvoice]
  refine ends_query_bind.trans ?_
  rw [hriskScore]
  refine ends_query_bind.trans ?_
  show (decide (2 ≤ countApprovals (docketOf invoiceId w).decisions) = true ↔ P) ↔ _
  rw [decide_eq_true_eq]

end Committee

/-! ## Calls alone -/

/-- A credit memo that is long enough. -/
def exampleMemo : String := "The buyer has paid every invoice of the last two years on time."

/-- An officer, and what they submit. -/
def exampleApprover (userId : ℕ) (role : String) : Approver where
  userId := .user userId
  role := role
  comments := some "Reviewed"
  creditMemo := some exampleMemo

/-- The call `t` is an approval by this officer, from its start to its return. -/
def approveAlone (t userId : ℕ) (role : String) : List (Act Op Input) :=
  Act.call (.approveInvoice 1 (exampleApprover userId role) {}) t (List.replicate 4 { uuid := t })

/-- The call `t` is a rejection by this officer. -/
def rejectAlone (t userId : ℕ) (role : String) : List (Act Op Input) :=
  Act.call (.rejectInvoice 1 (exampleApprover userId role) {}) t (List.replicate 4 { uuid := t })

end Ris.Approvals
