import RisPlatform.Triples
import RisPlatform.Verification.Service

/-!
# The verification service

What the events of the service do to the store. An invoice that is confirmed had an EFRIS reference when
its token was looked up; a protocol for a larger system in which references stay follows every operation
of the service if it allows these effects (`free_program`).
-/

namespace Ris.Verification

open Relational Concurrent

/-! ## Effects -/

/-- The invoice is there and has an EFRIS reference. -/
def Referenced (invoiceId : ℕ) (w : World) : Prop :=
  ∃ r, w.invoices.get? invoiceId = some r ∧ r.uraEfrisRef ≠ none

/-- What an event does to the store. -/
inductive Effect (w : World) : Event → World → Prop
  | tokenGenerated (invoiceId : ℕ) (token : String) (expiresAt : ℤ) (entry : AuditLog) :
      Effect w (.confirmationTokenGenerated invoiceId)
        { w with
          invoices := w.invoices.update (fun r => r.id = invoiceId) (setToken token expiresAt)
            (id_setToken token expiresAt)
          auditLogs := w.auditLogs ++ [entry] }
  | confirmed (invoiceId : ℕ) (now : ℤ) (entry : AuditLog) (href : Referenced invoiceId w) :
      Effect w (.buyerConfirmed invoiceId)
        { w with
          invoices := w.invoices.update (fun r => r.id = invoiceId ∧ r.buyerConfirmedAt = none)
            (setConfirmed now) (id_setConfirmed now)
          auditLogs := w.auditLogs ++ [entry] }
  | disputed (invoiceId disputeId : ℕ) (disputes : Table InvoiceDispute.id) (entry : AuditLog) :
      Effect w (.invoiceDisputed invoiceId disputeId)
        { w with
          invoiceDisputes := disputes
          auditLogs := w.auditLogs ++ [entry] }

theorem validateToken_ok {now : ℤ} {found : Option Invoice} {invoice : Invoice}
    (h : validateToken now found = .ok invoice) : found = some invoice := by
  cases found with
  | none => cases h
  | some r =>
    simp only [validateToken] at h
    split at h
    · cases h
    · split at h
      · cases h
      · split at h
        · cases h
        · rw [Except.ok.inj h]

theorem efrisReference_ok {invoice : Invoice} {ref : String} (h : efrisReference invoice = .ok ref) :
    invoice.uraEfrisRef ≠ none := by
  intro hnone
  simp only [efrisReference, hnone] at h
  cases h

section Transactions

variable {i : Input} {w w' : World}

theorem generateConfirmationTokenTxn_ok {invoiceId buyerId : ℕ} {req : Request} {token : String}
    (h : generateConfirmationTokenTxn invoiceId buyerId req i w = .ok (token, w')) :
    Effect w (.confirmationTokenGenerated invoiceId) w' := by
  simp only [generateConfirmationTokenTxn, storeConfirmationTokenWithClient, Txn.bind_ok, Txn.input_ok,
    Txn.write_ok, createAuditEntry_ok, Txn.pure_ok] at h
  obtain ⟨_, _, ⟨rfl, rfl⟩, _, _, rfl, _, _, rfl, -, rfl⟩ := h
  exact .tokenGenerated _ _ _ _

theorem runConfirmationTxn_ok {invoiceId : ℕ} {req : Request} {u : Unit}
    (h : runConfirmationTxn invoiceId req i w = .ok (u, w')) (href : Referenced invoiceId w) :
    Effect w (.buyerConfirmed invoiceId) w' := by
  simp only [runConfirmationTxn, confirmInvoiceWithClient, Txn.bind_ok, now_ok, Txn.read_ok,
    Txn.write_ok, Txn.pure_ok] at h
  obtain ⟨confirmed, _, ⟨_, _, ⟨rfl, rfl⟩, _, _, ⟨rfl, rfl⟩, _, _, rfl, -, rfl⟩, h⟩ := h
  split at h
  · obtain rfl := createAuditEntry_ok.1 h
    exact .confirmed _ _ _ href
  · cases h

/-- Only the table of disputes changes. -/
theorem createDisputeWithClient_ok {invoiceId buyerId : ℕ} {reason disputeType : String} {disputeId : ℕ}
    (h : createDisputeWithClient invoiceId buyerId reason disputeType i w = .ok (disputeId, w')) :
    w' = { w with invoiceDisputes := w'.invoiceDisputes } := by
  simp only [createDisputeWithClient, Txn.bind_ok, Txn.input_ok, Txn.read_ok] at h
  obtain ⟨_, _, ⟨rfl, rfl⟩, _, _, ⟨rfl, rfl⟩, h⟩ := h
  generalize w.invoiceDisputes.insert? _ = inserted at h
  cases inserted with
  | none => cases h
  | some disputes =>
    simp only [Txn.bind_ok, Txn.write_ok, Txn.pure_ok] at h
    obtain ⟨_, _, rfl, -, rfl⟩ := h
    rfl

theorem raiseDisputeTxn_ok {invoice : Invoice} {input : RaiseDisputeInput} {req : Request}
    {disputeId : ℕ} (h : raiseDisputeTxn invoice input req i w = .ok (disputeId, w')) :
    Effect w (.invoiceDisputed invoice.id disputeId) w' := by
  simp only [raiseDisputeTxn, Txn.bind_ok, createAuditEntry_ok, Txn.pure_ok] at h
  obtain ⟨_, w₁, hcreate, _, _, rfl, rfl, rfl⟩ := h
  rw [createDisputeWithClient_ok hcreate]
  exact .disputed _ _ _ _

end Transactions

/-! ## The operations -/

section Calls

variable {G : Protocol World Event} (hG : Auditing G) {cfg : Config}

section Queues

include hG

theorem free_queueConfirmationEmail (invoiceId buyerId : ℕ) (rawToken : String) :
    Free G (queueConfirmationEmail cfg invoiceId buyerId rawToken) := by
  refine free_ite (free_bind (free_query hG.toQuiet _) fun buyer => ?_) (free_log hG.toQuiet _)
  cases buyer with
  | none => exact free_log hG.toQuiet _
  | some buyer => exact free_enqueueWithContext hG.toPermissive _

theorem free_queueRiskScoring (invoiceId : ℕ) : Free G (queueRiskScoring cfg invoiceId) :=
  free_ite (free_bind (free_enqueueWithContext hG.toPermissive _) fun _ => free_log hG.toQuiet _)
    (free_log hG.toQuiet _)

theorem free_getConfirmationPageData (rawToken : String) :
    Free G (getConfirmationPageData rawToken) := by
  refine free_bind (free_queryNow hG.toQuiet _) fun _ => free_bind (free_lift _) fun invoice =>
    free_bind (free_query hG.toQuiet _) fun page => ?_
  cases page with
  | none => exact free_throw _
  | some page => exact free_pure _

/-- The row that passes has a reference, and it still has it after the answer is logged. -/
theorem triple_verifyEfris (hsteady : ∀ invoiceId, G.Steady fun s => Referenced invoiceId s.store)
    (invoice : Invoice) (t : ℕ) :
    G.Triple t (fun s => invoice ∈ s.store.invoices.rows) (verifyEfris invoice)
      (fun _ s => Referenced invoice.id s.store) fun _ _ => True := by
  refine .bind (R := fun _ s => Referenced invoice.id s.store) (.lift ?_ fun _ _ _ _ _ => trivial)
    fun ref => ?_
  · intro ref s href _ hrow
    exact ⟨invoice, Table.get?_of_mem hrow, efrisReference_ok href⟩
  · split
    · exact .ret fun _ _ h => h
    · exact .bind ((free_log hG.toQuiet _).carries (hsteady invoice.id) t) fun _ =>
        .throw fun _ _ _ => trivial

end Queues

variable (hallow : Allows G Effect)

include hG hallow

theorem free_generateConfirmationToken (invoiceId buyerId : ℕ) (req : Request) :
    Free G (generateConfirmationToken cfg invoiceId buyerId req) := by
  refine free_bind (free_transaction hG.toQuiet ?_) fun rawToken =>
    free_bind (free_queueConfirmationEmail hG _ _ _) fun _ =>
      free_bind (free_log hG.toQuiet _) fun _ => free_pure _
  intro s t i token d hs h
  exact hallow s t _ d hs (generateConfirmationTokenTxn_ok h)

theorem free_resendConfirmation (invoiceId userId : ℕ) (req : Request) :
    Free G (resendConfirmation cfg invoiceId userId req) :=
  free_bind (free_query hG.toQuiet _) fun _ => free_bind (free_lift _) fun _ =>
    free_bind (free_generateConfirmationToken hG hallow _ _ _) fun _ =>
      free_bind (free_auditAlone hG _) fun _ => free_log hG.toQuiet _

theorem free_raiseDispute (rawToken : String) (input : RaiseDisputeInput) (req : Request) :
    Free G (raiseDispute cfg rawToken input req) := by
  have hquiet := hG.toQuiet
  refine free_bind (free_query hquiet _) fun _ => free_bind (free_lift _) fun invoice =>
    free_bind (free_transaction hquiet ?_) fun disputeId =>
      free_bind (free_log hquiet _) fun _ =>
        free_bind (free_enqueueOrWarn hG.toPermissive _ _ _) fun _ => free_pure _
  intro s t i disputeId d hs h
  exact hallow s t _ d hs (raiseDisputeTxn_ok h)

variable (hsteady : ∀ invoiceId, G.Steady fun s => Referenced invoiceId s.store)

include hsteady

theorem free_confirmInvoice (rawToken : String) (confirmation : BuyerConfirmationRequest)
    (req : Request) : Free G (confirmInvoice cfg rawToken confirmation req) := by
  intro t
  have hquiet := hG.toQuiet
  have hfind := triple_queryNow hquiet (f := fun _ => findInvoiceByTokenHash rawToken)
    (Q := fun found s => ∀ r ∈ found, r ∈ s.store.invoices.rows) t
    fun _ _ _ _ hr => List.mem_of_find?_eq_some hr
  refine hfind.bind ?_
  rintro ⟨found, now⟩
  -- nothing happens between the lookup and the check of the reference
  refine .bind (R := fun invoice s => invoice ∈ s.store.invoices.rows)
    (.lift (fun invoice s hvalid _ hfound => hfound _ (validateToken_ok hvalid)) fun _ _ _ _ _ => trivial)
    fun invoice => ?_
  refine .bind (.lift (fun _ _ _ _ h => h) fun _ _ _ _ _ => trivial) fun _ =>
    .bind (triple_verifyEfris hG hsteady invoice t) fun _ =>
      .bind (triple_transaction hquiet (hsteady invoice.id) t ?_) fun _ => ?_
  · intro s i u d hs href h
    exact hallow s t _ d hs (runConfirmationTxn_ok h href)
  · exact .bind (free_log hquiet _ t) fun _ => .bind (free_queueRiskScoring hG _ t) fun _ =>
      free_pure _ t

/-- Every operation of the service follows a protocol that allows its effects. -/
theorem free_program (op : Op) : Free G (program cfg op) := by
  cases op with
  | resendConfirmation => exact free_resendConfirmation hG hallow _ _ _
  | getConfirmationPageData => exact free_discard (free_getConfirmationPageData hG _)
  | confirmInvoice => exact free_discard (free_confirmInvoice hG hallow hsteady _ _ _)
  | raiseDispute => exact free_discard (free_raiseDispute hG hallow _ _ _)

end Calls

end Ris.Verification
