import RisPlatform.Calls
import RisPlatform.Triples

/-!
# `aml-clearance.service.ts`

A compliance officer clears a flagged invoice. The guard reads before the transaction, and the `UPDATE`
of the transaction asks again. A protocol for a larger system that allows the event of a clearance is
followed by `clearInvoice` (`free_program`).
-/

namespace Ris.Compliance

open Relational Concurrent

inductive ComplianceErrorCode
  | invoiceNotFlagged | amlAlreadyCleared
  deriving DecidableEq

def ComplianceErrorCode.text : ComplianceErrorCode → String
  | .invoiceNotFlagged => "INVOICE_NOT_FLAGGED"
  | .amlAlreadyCleared => "AML_ALREADY_CLEARED"

/-- `new BusinessRuleError(code, message)`. -/
def ComplianceErrorCode.error (code : ComplianceErrorCode) (message : String) : RisError :=
  .businessRule code.text message

structure ClearAmlInput where
  reason : String
  sanctionsCheckComplete : Bool

def getInvoiceClearanceState (invoiceId : ℕ) (w : World) : Option Invoice := w.invoices.get? invoiceId

/-- Reject an invoice that was never flagged, and one that is cleared. -/
def guardClearanceEligible (invoiceId : ℕ) : Option Invoice → Except RisError Unit
  | none => throw (.notFound "Invoice" invoiceId)
  | some state =>
    if ¬state.amlFlagged then
      throw (ComplianceErrorCode.invoiceNotFlagged.error
        "Invoice is not AML-flagged and does not require clearance")
    else if state.amlClearedAt ≠ none then
      throw (ComplianceErrorCode.amlAlreadyCleared.error
        "Invoice has already been AML-cleared and cannot be re-cleared")
    else pure ()

def setCleared (officerId : ℕ) (reason : String) (now : ℤ) (r : Invoice) : Invoice :=
  { r with
    amlClearedAt := some now
    amlClearedBy := some officerId
    amlClearanceReason := some reason }

theorem id_setCleared (officerId : ℕ) (reason : String) (now : ℤ) (r : Invoice) :
    (setCleared officerId reason now r).id = r.id := rfl

/-- The row is flagged and not cleared. -/
def AwaitsClearance (invoiceId : ℕ) (r : Invoice) : Prop :=
  r.id = invoiceId ∧ r.amlFlagged = true ∧ r.amlClearedAt = none

instance (invoiceId : ℕ) (r : Invoice) : Decidable (AwaitsClearance invoiceId r) := by
  unfold AwaitsClearance
  infer_instance

/-- Write the three columns; the time of the clearance, or `none` if no row matched. -/
def applyAmlClearanceWithClient (invoiceId officerId : ℕ) (reason : String) : Tx (Option ℤ) := do
  let now ← now
  let w ← Txn.read fun w => w
  Txn.write fun w =>
    { w with
      invoices := w.invoices.update (fun r => AwaitsClearance invoiceId r)
        (setCleared officerId reason now) (id_setCleared officerId reason now) }
  return ((w.invoices.get? invoiceId).filter fun r => AwaitsClearance invoiceId r).map fun _ => now

/-- The audit row of a clearance; the reason is not in it. -/
def clearanceAudit (cfg : Config) (invoiceId officerId : ℕ) (sanctionsCheckComplete : Bool)
    (req : Request) : AuditLog where
  userId := some officerId
  action := "AML_CLEARED"
  tableName := "invoices"
  recordId := .id invoiceId
  oldValues := []
  newValues :=
    [("invoice_id", .id invoiceId), ("officer_id", .id officerId),
      ("threshold", .text (toString cfg.amlFlagThreshold)),
      ("sanctions_check_complete", .bool sanctionsCheckComplete)]
  ipAddress := req.ipAddress
  userAgent := req.userAgent

/-- The transaction of `applyClearance`; the time of the clearance. -/
def applyClearanceTxn (cfg : Config) (invoiceId officerId : ℕ) (input : ClearAmlInput)
    (req : Request) : Tx ℤ := do
  match ← applyAmlClearanceWithClient invoiceId officerId input.reason with
  | none =>
    Txn.abort (ComplianceErrorCode.amlAlreadyCleared.error
      "Invoice has already been AML-cleared and cannot be re-cleared")
  | some clearedAt =>
    createAuditEntry (clearanceAudit cfg invoiceId officerId input.sanctionsCheckComplete req)
    return clearedAt

def queueClearedNotification (cfg : Config) (invoiceId : ℕ) : Call Unit :=
  enqueueOrWarn cfg
    { queue := .notification, name := "notify-finance-manager-aml-cleared"
      data := [("invoiceId", .id invoiceId), ("type", .text "finance_manager_notify")] }
    "Notification queue not configured"

/-- Clear a flagged invoice; the time of the clearance. -/
def clearInvoice (cfg : Config) (invoiceId officerId : ℕ) (input : ClearAmlInput) (req : Request) :
    Call ℤ := do
  let state ← query (getInvoiceClearanceState invoiceId)
  guardClearanceEligible invoiceId state
  let clearedAt ← transaction (applyClearanceTxn cfg invoiceId officerId input req)
    fun _ => .amlCleared invoiceId officerId
  queueClearedNotification cfg invoiceId
  log "AML_CLEARED"
  return clearedAt

/-! ## The system -/

/-- The operation that writes. -/
inductive Op
  | clearInvoice (invoiceId officerId : ℕ) (input : ClearAmlInput) (req : Request)

/-- The body of the operation. -/
def program (cfg : Config) : Op → Call Unit
  | .clearInvoice invoiceId officerId input req =>
    (clearInvoice cfg invoiceId officerId input req).discard

/-! ## Effects -/

/-- What an event does to the store. -/
inductive Effect (w : World) : Event → World → Prop
  | cleared (invoiceId officerId : ℕ) (reason : String) (now : ℤ) (entry : AuditLog) :
      Effect w (.amlCleared invoiceId officerId)
        { w with
          invoices := w.invoices.update (fun r => AwaitsClearance invoiceId r)
            (setCleared officerId reason now) (id_setCleared officerId reason now)
          auditLogs := w.auditLogs ++ [entry] }

/-- The commit of `applyClearance`. -/
theorem applyClearanceTxn_ok {i : Input} {w w' : World} {cfg : Config} {invoiceId officerId : ℕ}
    {input : ClearAmlInput} {req : Request} {clearedAt : ℤ}
    (h : applyClearanceTxn cfg invoiceId officerId input req i w = .ok (clearedAt, w')) :
    Effect w (.amlCleared invoiceId officerId) w' := by
  simp only [applyClearanceTxn, applyAmlClearanceWithClient, Txn.bind_ok, now_ok, Txn.read_ok,
    Txn.write_ok, Txn.pure_ok] at h
  obtain ⟨cleared, _, ⟨_, _, ⟨rfl, rfl⟩, _, _, ⟨rfl, rfl⟩, _, _, rfl, -, rfl⟩, h⟩ := h
  cases cleared with
  | none => cases h
  | some time =>
    simp only [Txn.bind_ok, createAuditEntry_ok, Txn.pure_ok] at h
    obtain ⟨_, _, rfl, -, rfl⟩ := h
    exact .cleared _ _ _ _ _

/-! ## The operation -/

/-- The operation follows a protocol that allows its effect. -/
theorem free_program {G : Protocol World Event} (hG : Permissive G) (hallow : Allows G Effect)
    {cfg : Config} (op : Op) : Free G (program cfg op) := by
  cases op with
  | clearInvoice invoiceId officerId input req =>
    refine free_discard (free_bind (free_query hG.toQuiet _) fun _ => free_bind (free_lift _) fun _ =>
      free_bind (free_transaction hG.toQuiet ?_) fun _ => free_bind (free_enqueueOrWarn hG _ _ _) fun _ =>
        free_bind (free_log hG.toQuiet _) fun _ => free_pure _)
    intro s t i clearedAt d hs h
    exact hallow s t _ d hs (applyClearanceTxn_ok h)

end Ris.Compliance
