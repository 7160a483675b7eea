import RisPlatform.Invoices.Service

/-!
# What the transactions of submission write

One spec for each transaction of the invoices service: the rows of `invoices`, and the audit rows.
-/

namespace Ris.Invoices

open Relational Concurrent

variable {i : Input} {w w' : World} {u : Unit}

/-! ## New rows -/

theorem insertInvoice_ok {row : Invoice} (h : insertInvoice row i w = .ok (u, w')) :
    invoiceViolation w row = none ∧ w.invoices.insert? row = some w'.invoices ∧
      w' = { w with invoices := w'.invoices } := by
  simp only [insertInvoice, Txn.bind_ok, Txn.read_ok, id] at h
  obtain ⟨_, _, ⟨rfl, rfl⟩, h⟩ := h
  cases hviolation : invoiceViolation w row with
  | some message => simp [hviolation] at h
  | none =>
    cases hins : w.invoices.insert? row with
    | none => simp [hviolation, hins] at h
    | some invoices =>
      simp only [hviolation, hins, Txn.write_ok] at h
      subst h
      exact ⟨rfl, rfl, rfl⟩

/-- The table after the flag of the row is set, if the face value exceeds the threshold. -/
def flagAbove (cfg : Config) (faceValue : ℤ) (invoiceId : ℕ) (invoices : Table Invoice.id) :
    Table Invoice.id :=
  if cfg.amlFlagThreshold < faceValue then
    invoices.update (fun r => r.id = invoiceId) (setAmlFlag true) (id_setAmlFlag true)
  else invoices

/-- The flag is that of the new row alone. -/
theorem mem_flagAbove_insert? {cfg : Config} {faceValue : ℤ} {row r : Invoice}
    {invoices invoices' : Table Invoice.id} (hrow : row.amlFlagged = false)
    (h : invoices.insert? row = some invoices') :
    r ∈ (flagAbove cfg faceValue row.id invoices').rows ↔
      r ∈ invoices.rows ∨ r = setAmlFlag (decide (cfg.amlFlagThreshold < faceValue)) row := by
  have hfresh : ∀ r ∈ invoices.rows, r.id ≠ row.id := fun r hr => Table.key_ne_of_insert? h hr
  unfold flagAbove
  split
  next habove =>
    rw [Table.mem_update]
    constructor
    · rintro ⟨r₀, hr₀, rfl⟩
      rcases (Table.mem_insert? h).1 hr₀ with hold | rfl
      · left
        simpa [hfresh r₀ hold] using hold
      · right
        simp [habove]
    · rintro (hold | rfl)
      · exact ⟨r, (Table.mem_insert? h).2 (Or.inl hold), by simp [hfresh r hold]⟩
      · exact ⟨row, (Table.mem_insert? h).2 (Or.inr rfl), by simp [habove]⟩
  next habove =>
    have hsame : setAmlFlag (decide (cfg.amlFlagThreshold < faceValue)) row = row := by
      simp [setAmlFlag, habove, ← hrow]
    rw [Table.mem_insert? h, hsame]

/-- Only audit rows are added. -/
theorem auditValidationResultsWithClient_ok {p : SubmitTxParams} {invoiceId : ℕ}
    (h : auditValidationResultsWithClient p invoiceId i w = .ok (u, w')) :
    w' = { w with auditLogs := w'.auditLogs } := by
  unfold auditValidationResultsWithClient at h
  generalize p.validationResults = results at h
  induction results generalizing w with
  | nil =>
    obtain ⟨-, rfl⟩ := Txn.pure_ok.1 h
    rfl
  | cons result results ih =>
    obtain ⟨_, w₁, hhead, htail⟩ := Txn.bind_ok.1 h
    have hrest := ih htail
    obtain rfl := createAuditEntry_ok.1 hhead
    exact hrest

theorem applyAmlFlagWithClient_ok {cfg : Config} {p : SubmitTxParams} {invoiceId : ℕ}
    (h : applyAmlFlagWithClient cfg p invoiceId i w = .ok (u, w')) :
    w' =
      { w with
        invoices := flagAbove cfg p.faceValue invoiceId w.invoices
        auditLogs := w'.auditLogs } := by
  unfold applyAmlFlagWithClient at h
  unfold flagAbove
  split at h
  · obtain ⟨-, rfl⟩ := Txn.pure_ok.1 h
    rw [if_neg (by omega)]
  · simp only [setAmlFlagWithClient, Txn.bind_ok, Txn.write_ok, createAuditEntry_ok] at h
    obtain ⟨_, _, rfl, rfl⟩ := h
    rw [if_pos (by omega)]

/-- The commit of `executeSubmitTransaction`. -/
theorem executeSubmitTransaction_ok {cfg : Config} {p : SubmitTxParams} {invoiceId : ℕ}
    (h : executeSubmitTransaction cfg p i w = .ok (invoiceId, w')) :
    ∃ invoices, invoiceId = i.uuid ∧
      invoiceViolation w ((p.input i.uuid).submittedRow i.now) = none ∧
        w.invoices.insert? ((p.input i.uuid).submittedRow i.now) = some invoices ∧
          w' =
            { w with
              invoices := flagAbove cfg p.faceValue i.uuid invoices
              auditLogs := w'.auditLogs } := by
  simp only [executeSubmitTransaction, createInvoiceWithClient, Txn.bind_ok, Txn.input_ok, now_ok,
    createAuditEntry_ok, Txn.pure_ok] at h
  obtain ⟨_, _, ⟨rfl, rfl⟩, _, w₁, ⟨_, _, ⟨rfl, rfl⟩, hinsert⟩, _, w₂, haudits, _, w₃, haudit, _, w₄,
    hflag, rfl, rfl⟩ := h
  obtain ⟨hviolation, hrow, hw₁⟩ := insertInvoice_ok hinsert
  have hw₂ := auditValidationResultsWithClient_ok haudits
  have hw₄ := applyAmlFlagWithClient_ok hflag
  refine ⟨w₁.invoices, rfl, hviolation, hrow, ?_⟩
  rw [hw₄, ← haudit, hw₂, hw₁]

/-- The commit of a new draft. -/
theorem createDraftInvoice_ok {data : ℤ → CreateInvoiceInput} {faceValue : ℚ}
    (h : createDraftInvoice data faceValue i w = .ok (u, w')) :
    ∃ n, bigintOfText faceValue = .ok n ∧ invoiceViolation w ((data n).draftRow i.now) = none ∧
      w.invoices.insert? ((data n).draftRow i.now) = some w'.invoices ∧
        w' = { w with invoices := w'.invoices } := by
  simp only [createDraftInvoice, Txn.bind_ok, Txn.liftM_ok, now_ok] at h
  obtain ⟨n, _, ⟨hn, rfl⟩, _, _, ⟨rfl, rfl⟩, hinsert⟩ := h
  exact ⟨n, hn, insertInvoice_ok hinsert⟩

/-! ## Drafts -/

/-- A draft that is updated is one of the supplier. Otherwise nothing is written. -/
theorem updateDraftFields_ok {invoiceId supplierId : ℕ} {data : DraftUpdate} {updated : Option Invoice}
    (h : updateDraftFields invoiceId supplierId data i w = .ok (updated, w')) :
    draftEvent invoiceId data updated = .read ∧ w' = w ∨
      ∃ faceValue r, draftEvent invoiceId data updated = .draftUpdated invoiceId ∧
        w.invoices.get? invoiceId = some r ∧ IsDraftOf invoiceId supplierId r ∧ w' =
          { w with
            invoices := w.invoices.update (fun r => IsDraftOf invoiceId supplierId r)
              (setDraftFields (data.fields faceValue)) (id_setDraftFields _) } := by
  simp only [updateDraftFields, Txn.bind_ok, Txn.read_ok] at h
  obtain ⟨_, _, ⟨rfl, rfl⟩, h⟩ := h
  cases hempty : data.isEmpty with
  | true =>
    simp only [hempty, if_true, Txn.pure_ok] at h
    exact Or.inl ⟨by simp [draftEvent, hempty], h.2.symm⟩
  | false =>
    simp only [hempty, Bool.false_eq_true, if_false, Txn.bind_ok, Txn.liftM_ok] at h
    obtain ⟨faceValue, _, ⟨-, rfl⟩, h⟩ := h
    cases hrow : (w.invoices.get? invoiceId).filter fun r => IsDraftOf invoiceId supplierId r with
    | none =>
      simp only [hrow, Txn.pure_ok] at h
      obtain ⟨rfl, rfl⟩ := h
      exact Or.inl ⟨by simp [draftEvent, hempty], rfl⟩
    | some r =>
      simp only [hrow] at h
      split at h
      · cases h
      · simp only [Txn.bind_ok, Txn.write_ok, Txn.pure_ok] at h
        obtain ⟨_, _, rfl, rfl, rfl⟩ := h
        obtain ⟨hfound, hdraft⟩ := Option.filter_eq_some_iff.1 hrow
        exact Or.inr ⟨_, r, by simp [draftEvent, hempty], hfound, of_decide_eq_true hdraft, rfl⟩

/-- The table after a draft is promoted. -/
def promote (invoiceId : ℕ) (now : ℤ) (invoices : Table Invoice.id) : Table Invoice.id :=
  invoices.update (fun r => r.id = invoiceId ∧ r.status = .draft) (setSubmitted now)
    (id_setSubmitted now)

/-- The commit of `executePromoteTransaction`. -/
theorem executePromoteTransaction_ok {cfg : Config} {invoiceId userId : ℕ} {faceValue : ℤ}
    {req : Request} (h : executePromoteTransaction cfg invoiceId userId faceValue req i w = .ok (u, w')) :
    w' =
      { w with
        invoices := flagAbove cfg faceValue invoiceId (promote invoiceId i.now w.invoices)
        auditLogs := w.auditLogs ++ [promotedAudit invoiceId userId req] } := by
  simp only [executePromoteTransaction, promoteToSubmitted, Txn.bind_ok, now_ok, Txn.write_ok,
    createAuditEntry_ok] at h
  obtain ⟨_, w₁, ⟨_, _, ⟨rfl, rfl⟩, rfl⟩, _, w₂, rfl, h⟩ := h
  unfold flagAbove
  split at h
  next habove =>
    rw [if_pos habove]
    exact (Txn.write_ok.1 h).symm
  next habove =>
    rw [if_neg habove]
    exact (Txn.pure_ok.1 h).2.symm

/-! ## Withdrawal -/

/-- The commit of `executeWithdrawTransaction`, if the database knows the status. -/
theorem executeWithdrawTransaction_ok {cfg : Config} {invoiceId userId : ℕ} {status : InvoiceStatus}
    {reason : String} {req : Request}
    (h : executeWithdrawTransaction cfg invoiceId userId status reason req i w = .ok (u, w')) :
    ∃ entry, cfg.withdrawnRefused = false ∧
      w' =
        { w with
          invoices := w.invoices.update (fun r => r.id = invoiceId) setWithdrawn id_setWithdrawn
          auditLogs := w.auditLogs ++ [entry] } := by
  simp only [executeWithdrawTransaction, withdrawInvoiceWithClient, Txn.bind_ok,
    createAuditEntry_ok] at h
  obtain ⟨_, w₁, h, rfl⟩ := h
  split at h
  · cases h
  · next hrefused =>
    obtain rfl := Txn.write_ok.1 h
    exact ⟨_, Bool.eq_false_iff.2 hrefused, rfl⟩

end Ris.Invoices
