import RisPlatform.Approvals.Protocol

/-!
# The approvals service among others

What the approvals service may do to the store: `Writes`. Of an invoice it changes the status, if that
is `priced`, and the count of rejections. A protocol for a larger system that allows these writes is
followed by every operation of the service (`free_program`).
-/

namespace Ris.Approvals

open Relational Concurrent

/-! ## Writes -/

/-- What the service may do to an invoice row. -/
structure Reviewed (r r' : Invoice) : Prop where
  columns : { r' with status := r.status, tier3RejectionCount := r.tier3RejectionCount } = r
  status : r'.status = r.status ∨ r.status = .priced ∧ (r'.status = .approved ∨ r'.status = .rejected)

/-- What an event of the service may do. -/
structure Writes (w : World) (e : Event) (w' : World) : Prop where
  invoices : w.invoices.Rowwise Reviewed w'.invoices
  service : e.Of .approvals
  frame : w' =
    { w with
      approvals := w'.approvals
      invoices := w'.invoices
      jobs := w'.jobs
      auditLogs := w'.auditLogs }

theorem Reviewed.refl (r : Invoice) : Reviewed r r := ⟨rfl, Or.inl rfl⟩

theorem of_approvals {e : Event} (h : e.service? = some .approvals) : e.Of .approvals := by
  rintro s hs
  rw [h] at hs
  exact (Option.some.inj hs).symm

/-- A count of the rejections, then a move of the status. -/
theorem Reviewed.trans {r r₁ r₂ : Invoice} (h : Reviewed r r₁) (hcount : r₁.status = r.status)
    (h' : Reviewed r₁ r₂) : Reviewed r r₂ := by
  refine ⟨?_, ?_⟩
  · rw [← h.columns, ← h'.columns]
  · rw [← hcount]
    exact h'.status

section Transactions

variable {invoiceId : ℕ} {now : ℤ} {invoices : Table Invoice.id}

theorem reviewed_setInvoiceStatus {new : InvoiceStatus} (hnew : new = .approved ∨ new = .rejected)
    {r : Invoice} (hr : r.status = .priced) : Reviewed r (Payments.setInvoiceStatus new now r) := by
  have hfunded : new ≠ .funded := by
    rintro rfl
    simp at hnew
  refine ⟨?_, Or.inr ⟨hr, hnew⟩⟩
  simp [Payments.setInvoiceStatus, hfunded]

theorem rowwise_moveFromPriced {new : InvoiceStatus} (hnew : new = .approved ∨ new = .rejected) :
    invoices.Rowwise Reviewed (moveFromPriced invoiceId new now invoices) := by
  refine Table.rowwise_update (fun r _ hmatch => ?_) fun r _ _ => .refl r
  exact reviewed_setInvoiceStatus hnew (of_decide_eq_true hmatch).2

/-- A row that is counted keeps its status. -/
structure Counted (r r' : Invoice) : Prop where
  reviewed : Reviewed r r'
  status : r'.status = r.status

theorem Counted.refl (r : Invoice) : Counted r r := ⟨.refl r, rfl⟩

theorem rowwise_countIfTier3 (tier : ApprovalTier) :
    invoices.Rowwise Counted (countIfTier3 tier invoiceId invoices) := by
  unfold countIfTier3
  split
  · exact Table.rowwise_update (fun r _ _ => ⟨⟨rfl, Or.inl rfl⟩, rfl⟩) fun r _ _ => .refl r
  · exact .refl Counted.refl _

variable {cfg : Config} {w w' : World} {tier : ApprovalTier} {userId : Actor}

theorem ApprovalWrites.writes {role : String} {quorumReached : Bool}
    (h : ApprovalWrites cfg tier invoiceId userId role quorumReached now w w') :
    Writes w (if quorumReached then .invoiceApproved invoiceId userId role
      else .approvalRecorded invoiceId userId role) w' where
  invoices := by
    rw [h.invoices]
    split
    · exact rowwise_moveFromPriced (Or.inl rfl)
    · exact .refl Reviewed.refl _
  service := by
    refine of_approvals ?_
    split <;> rfl
  frame := h.frame

theorem RejectionWrites.writes {rejects : Bool}
    (h : RejectionWrites cfg tier invoiceId userId rejects now w w') :
    Writes w (if rejects then .invoiceRejected invoiceId userId
      else .rejectionRecorded invoiceId userId) w' where
  invoices := by
    have hcount : w.invoices.Rowwise Counted (countIfTier3 tier invoiceId w.invoices) :=
      rowwise_countIfTier3 tier
    rw [h.invoices]
    split
    · exact hcount.trans (rowwise_moveFromPriced (Or.inr rfl)) fun _ _ _ hcounted hmoved =>
        hcounted.reviewed.trans hcounted.status hmoved
    · exact hcount.imp fun _ _ hcounted => hcounted.reviewed
  service := by
    refine of_approvals ?_
    split <;> rfl
  frame := h.frame

theorem Resets.writes (h : Resets invoiceId w w') : Writes w (.rejectionCountReset invoiceId) w' where
  invoices := by
    rw [h.invoices]
    exact Table.rowwise_update (fun r _ _ => ⟨rfl, Or.inl rfl⟩) fun r _ _ => .refl r
  service := of_approvals rfl
  frame := by rw [h.frame]

/-- What the service commits, event by event. -/
inductive Commits (cfg : Config) (w : World) : Event → World → Prop
  | approval {tier : ApprovalTier} {invoiceId : ℕ} {userId : Actor} {role : String} {quorumReached : Bool}
      {now : ℤ} {w' : World}
      (h : ApprovalWrites cfg tier invoiceId userId role quorumReached now w w') :
      Commits cfg w (if quorumReached then .invoiceApproved invoiceId userId role
        else .approvalRecorded invoiceId userId role) w'
  | rejection {tier : ApprovalTier} {invoiceId : ℕ} {userId : Actor} {rejects : Bool} {now : ℤ} {w' : World}
      (h : RejectionWrites cfg tier invoiceId userId rejects now w w') :
      Commits cfg w (if rejects then .invoiceRejected invoiceId userId
        else .rejectionRecorded invoiceId userId) w'
  | reset {invoiceId : ℕ} {w' : World} (h : Resets invoiceId w w') :
      Commits cfg w (.rejectionCountReset invoiceId) w'

theorem Commits.writes {e : Event} (h : Commits cfg w e w') : Writes w e w' := by
  cases h with
  | approval h => exact h.writes
  | rejection h => exact h.writes
  | reset h => exact h.writes

end Transactions

/-! ## The operations -/

section Calls

variable {G : Protocol World Event} (hG : Permissive G) {cfg : Config}

include hG

theorem free_fetchAndValidate (invoiceId : ℕ) : Free G (fetchAndValidate invoiceId) :=
  free_bind (free_query hG _) fun _ => free_bind (free_lift _) fun _ =>
    free_bind (free_query hG _) fun _ => free_bind (free_lift _) fun _ => free_pure _

variable (hallow : Allows G (Commits cfg))

include hallow

/-- Every operation of the service follows a protocol that allows its commits. -/
theorem free_program_of_commits (op : Op) : Free G (program cfg op) := by
  cases op with
  | approveInvoice invoiceId approver req =>
    refine free_discard (free_bind (free_fetchAndValidate hG invoiceId) ?_)
    rintro ⟨invoice, riskScore⟩
    refine free_bind (free_lift _) fun _ => free_bind (free_lift _) fun _ => ?_
    refine free_bind (free_enqueuingTransaction hG.toQuiet hG.leftJobs ?_) fun _ =>
      free_bind (free_log hG _) fun _ => free_pure _
    intro s t i result d hs h
    exact hallow s t _ d hs (.approval (executeApprovalTxn_ok h))
  | rejectInvoice invoiceId approver req =>
    refine free_discard (free_bind (free_fetchAndValidate hG invoiceId) ?_)
    rintro ⟨invoice, riskScore⟩
    refine free_bind (free_lift _) fun _ => free_bind (free_lift _) fun _ => ?_
    refine free_bind (free_enqueuingTransaction hG.toQuiet hG.leftJobs ?_) fun _ =>
      free_bind (free_log hG _) fun _ => free_pure _
    intro s t i result d hs h
    exact hallow s t _ d hs (.rejection (executeRejectionTxn_ok h))
  | resetTier3RejectionCount invoiceId userId req =>
    refine free_bind (free_query hG _) fun _ => free_bind (free_lift _) fun invoice => ?_
    refine free_bind (free_transaction hG ?_) fun _ => free_log hG _
    intro s t i u d hs h
    exact hallow s t _ d hs (.reset (persistRejectionCountResetTxn_ok h))
  | getCommitteeStatus invoiceId =>
    exact free_discard (free_bind (free_query hG _) fun _ => free_bind (free_lift _) fun _ =>
      free_bind (free_query hG _) fun _ => free_bind (free_lift _) fun _ =>
        free_bind (free_query hG _) fun _ => free_pure _)
  | getApprovalQueue officerId => exact free_discard (free_query hG _)

omit hallow in
/-- Every operation of the service follows a protocol that allows its writes. -/
theorem free_program_of_allows (hallow : Allows G Writes) (op : Op) : Free G (program cfg op) :=
  free_program_of_commits hG (hallow.mono fun _ _ _ h => h.writes) op

end Calls

end Ris.Approvals
