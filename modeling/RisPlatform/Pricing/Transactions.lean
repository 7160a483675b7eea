import RisPlatform.Pricing.Service
import RisPlatform.Payments.Transactions

/-!
# What the pricing transactions write

One spec for each transaction of the pricing service: the rows of `invoices`, `risk_scores` and
`pricing_disputes`, and the audit row. None of them looks at the row before it writes.
-/

namespace Ris.Pricing

open Relational Concurrent

variable {i : Input} {w w' : World}

/-! ## Tables -/

/-- `UPDATE invoices SET … WHERE id = …`. -/
def updateById (invoiceId : ℕ) (f : Invoice → Invoice) (hf : ∀ r, (f r).id = r.id)
    (invoices : Table Invoice.id) : Table Invoice.id :=
  invoices.update (fun r => r.id = invoiceId) f hf

/-- `UPDATE invoices SET status = … WHERE id = … AND status = …`. -/
def moveById (invoiceId : ℕ) (expected new : InvoiceStatus) (now : ℤ) (invoices : Table Invoice.id) :
    Table Invoice.id :=
  invoices.update (fun r => r.id = invoiceId ∧ r.status = expected)
    (Payments.setInvoiceStatus new now) (Payments.id_setInvoiceStatus new now)

theorem updateInvoiceStatusWithClient_ok {invoiceId : ℕ} {new expected : InvoiceStatus} {u : Unit}
    (h : updateInvoiceStatusWithClient invoiceId new expected i w = .ok (u, w')) :
    w' = { w with invoices := moveById invoiceId expected new i.now w.invoices } := by
  simp only [updateInvoiceStatusWithClient, Txn.bind_ok, Txn.pure_ok] at h
  obtain ⟨moved, w₁, hmove, -, rfl⟩ := h
  exact Payments.updateInvoiceStatusWithClient_ok hmove

/-! ## Pricing -/

theorem updateRiskScoreWithPricing_ok {riskScoreId : ℕ} {data : PricingUpdate} {u : Unit}
    (h : updateRiskScoreWithPricing riskScoreId data i w = .ok (u, w')) :
    w' =
      { w with
        riskScores := w.riskScores.update (fun r => r.id = riskScoreId) (setScorePricing data)
          (id_setScorePricing data) } := by
  unfold updateRiskScoreWithPricing at h
  cases hover : data.overflow with
  | some message => simp [hover] at h
  | none =>
    simp only [hover, Txn.write_ok] at h
    exact h.symm

/-- The commit of `persistPricing`. -/
theorem persistPricingTxn_ok {invoiceId riskScoreId : ℕ} {data : PricingUpdate} {u : Unit}
    (h : persistPricingTxn invoiceId riskScoreId data i w = .ok (u, w')) :
    w' =
      { w with
        riskScores := w.riskScores.update (fun r => r.id = riskScoreId) (setScorePricing data)
          (id_setScorePricing data)
        invoices := moveById invoiceId .scored .priced i.now
          (updateById invoiceId (setAmounts data) (id_setAmounts data) w.invoices)
        auditLogs := w.auditLogs ++ [pricedAudit invoiceId data] } := by
  simp only [persistPricingTxn, updateInvoiceWithPricing, Txn.bind_ok, Txn.write_ok,
    createAuditEntry_ok] at h
  obtain ⟨_, w₁, hscore, _, w₂, hamounts, _, w₃, hmove, hw'⟩ := h
  have hw₁ := updateRiskScoreWithPricing_ok hscore
  have hw₃ := updateInvoiceStatusWithClient_ok hmove
  subst hw' hw₃ hamounts hw₁
  rfl

/-! ## The supplier's decision -/

/-- The audit row of an acceptance. -/
def acceptedAudit (invoiceId userId : ℕ) (req : Request) : AuditLog :=
  decisionAudit "PRICING_ACCEPTED" "invoices" invoiceId userId req
    [("pricingAcceptedAt", .null)] [("pricingAcceptedAt", .text "now")]

/-- The audit row of a rejection. -/
def rejectedAudit (invoiceId userId : ℕ) (reason : String) (req : Request) : AuditLog :=
  decisionAudit "PRICING_REJECTED" "invoices" invoiceId userId req
    [("pricingRejectedAt", .null), ("status", .text "priced")]
    [("pricingRejectedAt", .text "now"), ("reason", .text reason), ("status", .text "rejected")]

/-- The commit of `persistAcceptance`. -/
theorem persistAcceptanceTxn_ok {invoiceId userId : ℕ} {req : Request} {net : Option ℤ}
    (h : persistAcceptanceTxn invoiceId userId req i w = .ok (net, w')) :
    w' =
      { w with
        invoices := updateById invoiceId (setAccepted userId i.now) (id_setAccepted userId i.now)
          w.invoices
        auditLogs := w.auditLogs ++ [acceptedAudit invoiceId userId req] } ∧
      net = (w'.invoices.get? invoiceId).bind Invoice.netPaymentToSupplier := by
  simp only [persistAcceptanceTxn, acceptPricingWithClient, Txn.bind_ok, now_ok, Txn.write_ok,
    createAuditEntry_ok, Txn.read_ok] at h
  obtain ⟨_, w₁, ⟨_, _, ⟨rfl, rfl⟩, hw₁⟩, _, w₂, hw₂, hnet, hw'⟩ := h
  subst hw' hw₂ hw₁
  exact ⟨rfl, hnet.symm⟩

/-- The commit of `persistRejection`. -/
theorem persistRejectionTxn_ok {invoiceId userId : ℕ} {reason : String} {req : Request} {u : Unit}
    (h : persistRejectionTxn invoiceId userId reason req i w = .ok (u, w')) :
    w' =
      { w with
        invoices := moveById invoiceId .priced .rejected i.now
          (updateById invoiceId (setRejected reason i.now) (id_setRejected reason i.now) w.invoices)
        auditLogs := w.auditLogs ++ [rejectedAudit invoiceId userId reason req] } := by
  simp only [persistRejectionTxn, rejectPricingWithClient, Txn.bind_ok, now_ok, Txn.write_ok,
    createAuditEntry_ok] at h
  obtain ⟨_, w₁, ⟨_, _, ⟨rfl, rfl⟩, hw₁⟩, _, w₂, hmove, hw'⟩ := h
  have hw₂ := updateInvoiceStatusWithClient_ok hmove
  subst hw' hw₂ hw₁
  rfl

theorem createPricingDisputeWithClient_ok {row result : PricingDispute}
    (h : createPricingDisputeWithClient row i w = .ok (result, w')) :
    result = row ∧ w.pricingDisputes.insert? row = some w'.pricingDisputes ∧
      w' = { w with pricingDisputes := w'.pricingDisputes } := by
  simp only [createPricingDisputeWithClient, Txn.bind_ok, Txn.read_ok, id] at h
  obtain ⟨_, _, ⟨rfl, rfl⟩, h⟩ := h
  cases hins : w.pricingDisputes.insert? row with
  | none => simp [hins] at h
  | some disputes =>
    simp only [hins, Txn.bind_ok, Txn.write_ok, Txn.pure_ok] at h
    obtain ⟨_, _, rfl, rfl, rfl⟩ := h
    exact ⟨rfl, rfl, rfl⟩

/-- The audit row names the invoice among its new values. -/
def disputedAudit (row : PricingDispute) (userId : ℕ) (payload : PricingDisputePayload)
    (req : Request) : AuditLog :=
  decisionAudit "PRICING_DISPUTED" "pricing_disputes" row.id userId req []
    [("invoiceId", .id row.invoiceId), ("reason", .text payload.reason.text),
      ("proposedRate", .ofOption .rat payload.proposedRate), ("slaDeadline", .int row.slaDeadline)]

/-- The commit of `persistDispute`. -/
theorem persistDisputeTxn_ok {invoiceId userId : ℕ} {payload : PricingDisputePayload} {req : Request}
    {row : PricingDispute}
    (h : persistDisputeTxn invoiceId userId payload req i w = .ok (row, w')) :
    row.invoiceId = invoiceId ∧ w.pricingDisputes.insert? row = some w'.pricingDisputes ∧
      w' =
        { w with
          invoices := updateById invoiceId (setDisputed i.now) (id_setDisputed i.now) w.invoices
          pricingDisputes := w'.pricingDisputes
          auditLogs := w.auditLogs ++ [disputedAudit row userId payload req] } := by
  simp only [persistDisputeTxn, setDisputedAtWithClient, Txn.bind_ok, Txn.input_ok, now_ok,
    Txn.write_ok, createAuditEntry_ok, Txn.pure_ok] at h
  obtain ⟨_, _, ⟨rfl, rfl⟩, _, w₁, ⟨_, _, ⟨rfl, rfl⟩, hw₁⟩, dispute, w₂, hinsert, _, w₃, hw₃, rfl,
    hw'⟩ := h
  obtain ⟨rfl, hrow, hw₂⟩ := createPricingDisputeWithClient_ok hinsert
  subst hw' hw₃ hw₁
  refine ⟨rfl, hrow, ?_⟩
  rw [hw₂]
  rfl

end Ris.Pricing
