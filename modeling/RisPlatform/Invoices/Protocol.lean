import RisPlatform.Invoices.Transactions
import RisPlatform.Triples

/-!
# The invoices service

What the events of the service do to the store. A protocol for a larger system that allows these effects
is followed by every operation of the service (`free_program`). `submitDraft` promotes an invoice that
was a draft when it was looked at; what that implies later on is the larger system's own (`Drafted`).
-/

namespace Ris.Invoices

open Relational Concurrent

/-! ## Effects -/

/-- What an event does to the store, if an invoice that was once seen as a draft is `Drafted`. -/
inductive Effect (cfg : Config) (Drafted : ℕ → World → Prop) (w : World) : Event → World → Prop
  | read : Effect cfg Drafted w .read w
  | submitted (data : CreateInvoiceInput) (now : ℤ) (invoices : Table Invoice.id)
      (auditLogs : List AuditLog) (href : data.uraEfrisRef ≠ none)
      (hinsert : w.invoices.insert? (data.submittedRow now) = some invoices) :
      Effect cfg Drafted w (.invoiceSubmitted data.id data.faceValue)
        { w with
          invoices := flagAbove cfg data.faceValue data.id invoices
          auditLogs := auditLogs }
  | saved (data : CreateInvoiceInput) (now : ℤ) (invoices : Table Invoice.id)
      (hinsert : w.invoices.insert? (data.draftRow now) = some invoices) :
      Effect cfg Drafted w (.draftSaved data.id) { w with invoices := invoices }
  | updated (invoiceId supplierId : ℕ) (fields : DraftFields) :
      Effect cfg Drafted w (.draftUpdated invoiceId)
        { w with
          invoices := w.invoices.update (fun r => IsDraftOf invoiceId supplierId r)
            (setDraftFields fields) (id_setDraftFields fields) }
  | promoted (invoiceId : ℕ) (faceValue now : ℤ) (entry : AuditLog) (hdraft : Drafted invoiceId w) :
      Effect cfg Drafted w (.draftSubmitted invoiceId faceValue)
        { w with
          invoices := flagAbove cfg faceValue invoiceId (promote invoiceId now w.invoices)
          auditLogs := w.auditLogs ++ [entry] }
  | withdrawn (invoiceId : ℕ) (entry : AuditLog) :
      Effect cfg Drafted w (.invoiceWithdrawn invoiceId)
        { w with
          invoices := w.invoices.update (fun r => r.id = invoiceId) setWithdrawn id_setWithdrawn
          auditLogs := w.auditLogs ++ [entry] }

/-- The same, if moreover an invoice that was once seen past `draft` is `Submitted` when it is withdrawn. -/
structure SeenEffect (cfg : Config) (Drafted Submitted : ℕ → World → Prop) (w : World) (e : Event)
    (w' : World) : Prop where
  effect : Effect cfg Drafted w e w'
  submitted : ∀ invoiceId, e = .invoiceWithdrawn invoiceId → Submitted invoiceId w

/-! ## The operations -/

section Calls

variable {G : Protocol World Event} (hG : Auditing G) {cfg : Config}

include hG

theorem free_logValidationResults (userId : ℕ) (results : List ValidationResult) (req : Request) :
    Free G (logValidationResults userId results req) :=
  free_forM fun _ => free_auditAlone hG _

theorem free_requireStep {α : Type} (step : ValidationStep) (code : ValidationErrorCode)
    (message : String) (userId : ℕ) (results : List ValidationResult) (req : Request)
    (found : Option α) : Free G (requireStep step code message userId results req found) := by
  cases found with
  | none => exact free_bind (free_logValidationResults hG _ _ _) fun _ => free_throw _
  | some a => exact free_pure _

theorem free_auditAndThrowCompliance (action message : String) (userId supplierId : ℕ)
    (details : List (String × Json)) (req : Request) :
    Free G (auditAndThrowCompliance action message userId supplierId details req) :=
  free_bind (free_auditAlone hG _) fun _ => free_bind (free_log hG.toQuiet _) fun _ => free_throw _

theorem free_checkStructuring (supplierId buyerId : ℕ) (faceValue : ℤ) (userId : ℕ) (req : Request) :
    Free G (checkStructuring cfg supplierId buyerId faceValue userId req) := by
  refine free_bind (free_queryNow hG.toQuiet _) fun found => ?_
  dsimp only
  split
  · exact free_auditAndThrowCompliance hG _ _ _ _ _ _
  · exact free_pure _

theorem free_checkVelocitySpike (supplierId userId : ℕ) (req : Request) :
    Free G (checkVelocitySpike supplierId userId req) := by
  refine free_bind (free_queryNow hG.toQuiet _) fun found => ?_
  dsimp only
  split
  · exact free_pure _
  · refine free_bind (free_queryNow hG.toQuiet _) fun current => ?_
    split
    · exact free_auditAndThrowCompliance hG _ _ _ _ _ _
    · exact free_pure _

theorem free_notifyAmlCompliance (invoiceId : ℕ) (faceValue : ℤ) :
    Free G (notifyAmlCompliance cfg invoiceId faceValue) := by
  unfold notifyAmlCompliance
  split
  · exact free_pure _
  · exact free_bind (free_log hG.toQuiet _) fun _ =>
      free_ite (free_enqueueWithContext hG.toPermissive _) (free_pure _)

theorem free_queueBuyerConfirmation (invoiceId buyerId : ℕ) :
    Free G (queueBuyerConfirmation cfg invoiceId buyerId) :=
  free_ite
    (free_bind (free_enqueueWithContext hG.toPermissive _) fun _ => free_log hG.toQuiet _)
    (free_log hG.toQuiet _)

theorem free_scheduleAssessmentReminders (invoiceId supplierId : ℕ) :
    Free G (scheduleAssessmentReminders cfg invoiceId supplierId) :=
  free_ite
    (free_bind (free_enqueueWithContext hG.toPermissive _) fun _ =>
      free_enqueueWithContext hG.toPermissive _)
    (free_log hG.toQuiet _)

theorem free_scheduleFundingTimelineReminder (invoiceId supplierId : ℕ) (timelineDays : Option ℤ) :
    Free G (scheduleFundingTimelineReminder cfg invoiceId supplierId timelineDays) := by
  cases timelineDays with
  | none => exact free_pure _
  | some days =>
    unfold scheduleFundingTimelineReminder
    dsimp only
    split
    · exact free_pure _
    · exact free_enqueueOrWarn hG.toPermissive _ _ _

theorem free_guardDraftOwnership (invoiceId userId : ℕ) (draftMessage : String) :
    Free G (guardDraftOwnership invoiceId userId draftMessage) :=
  free_bind (free_query hG.toQuiet _) fun _ => free_bind (free_lift _) fun _ =>
    free_bind (free_queryNow hG.toQuiet _) fun _ => free_bind (free_lift _) fun _ => free_pure _

variable {Drafted : ℕ → World → Prop}

section Guard

variable
  (hdraft : ∀ s invoiceId r, G.inv s → s.store.invoices.get? invoiceId = some r → r.status = .draft →
    Drafted invoiceId s.store)
  (hsteady : ∀ invoiceId, G.Steady fun s => Drafted invoiceId s.store)

include hdraft hsteady

/-- The invoice that passes the guard was a draft. -/
theorem triple_guardDraftOwnership (invoiceId userId : ℕ) (draftMessage : String) (t : ℕ) :
    G.Triple t (fun _ => True) (guardDraftOwnership invoiceId userId draftMessage)
      (fun _ s => Drafted invoiceId s.store) fun _ _ => True := by
  have hdrafted := hsteady invoiceId
  refine .bind (R := fun found s => ∀ r ∈ found, r.status = .draft → Drafted invoiceId s.store)
    (triple_query hG.toQuiet t fun s hs r hr hstatus => hdraft s _ r hs hr hstatus) fun found => ?_
  refine .bind (R := fun _ s => Drafted invoiceId s.store) (.lift ?_ fun _ _ _ _ _ => trivial)
    fun invoice => .bind ((free_queryNow hG.toQuiet _).carries hdrafted t) fun owner =>
      .bind ((free_lift _).carries hdrafted t) fun supplier => .ret fun _ _ h => h
  intro invoice s hguard _ hfound
  cases found with
  | none => cases hguard
  | some r =>
    simp only [guardDraft] at hguard
    split at hguard
    · cases hguard
    · next hstatus => exact hfound r rfl (not_not.1 hstatus)

end Guard

section Writes

variable {Submitted : ℕ → World → Prop} (hallow : Allows G (SeenEffect cfg Drafted Submitted))

include hallow

theorem free_submitInvoice (userId : ℕ) (data : InvoiceSubmission) (req : Request) :
    Free G (submitInvoice cfg userId data req) := by
  have hquiet := hG.toQuiet
  refine free_bind (free_lift _) fun faceValue =>
    free_bind (free_bind (free_query hquiet _) fun _ => free_requireStep hG _ _ _ _ _ _ _) ?_
  rintro ⟨supplier, results⟩
  refine free_bind (free_bind (free_query hquiet _) fun _ => free_requireStep hG _ _ _ _ _ _ _) ?_
  rintro ⟨_, results⟩
  refine free_bind (free_bind (free_queryNow hquiet _) fun _ => free_requireStep hG _ _ _ _ _ _ _) ?_
  rintro ⟨⟨buyer, now⟩, results⟩
  refine free_bind (free_lift _) ?_
  rintro ⟨tenorDays, results⟩
  refine free_bind (free_lift _) fun results =>
    free_bind (free_checkStructuring hG _ _ _ _ _) fun _ =>
      free_bind (free_checkVelocitySpike hG _ _ _) fun _ => free_bind (free_transaction hquiet ?_) ?_
  · intro s t i invoiceId d hs h
    obtain ⟨invoices, rfl, -, hinsert, hd⟩ := executeSubmitTransaction_ok h
    rw [hd]
    exact hallow s t _ _ hs
      ⟨.submitted _ _ invoices d.auditLogs (by simp [SubmitTxParams.input]) hinsert, by simp⟩
  · intro invoiceId
    exact free_bind (free_log hquiet _) fun _ => free_bind (free_notifyAmlCompliance hG _ _) fun _ =>
      free_bind (free_queueBuyerConfirmation hG _ _) fun _ =>
        free_bind (free_scheduleAssessmentReminders hG _ _) fun _ =>
          free_bind (free_scheduleFundingTimelineReminder hG _ _ _) fun _ => free_pure _

theorem free_saveDraft (userId : ℕ) (data : InvoiceSubmission) (req : Request) :
    Free G (saveDraft userId data req) := by
  refine free_bind (free_queryNow hG.toQuiet _) ?_
  rintro ⟨found, now⟩
  cases found with
  | none => exact free_throw _
  | some supplier =>
    refine free_bind (free_transaction hG.toQuiet ?_) fun _ =>
      free_bind (free_auditAlone hG _) fun _ => free_pure _
    intro s t i invoiceId d hs h
    simp only [Txn.bind_ok, Txn.input_ok, Txn.pure_ok] at h
    obtain ⟨_, _, ⟨rfl, rfl⟩, _, _, hcreate, rfl, rfl⟩ := h
    obtain ⟨n, -, -, hinsert, hd⟩ := createDraftInvoice_ok hcreate
    rw [hd]
    exact hallow s t _ _ hs ⟨.saved _ _ _ hinsert, by simp⟩

theorem free_updateDraft (invoiceId userId : ℕ) (data : InvoiceUpdate) (req : Request) :
    Free G (updateDraft invoiceId userId data req) := by
  refine free_bind (free_guardDraftOwnership hG _ _ _) ?_
  rintro ⟨invoice, supplierId, now⟩
  refine free_bind (free_transaction hG.toQuiet ?_) fun updated => ?_
  · intro s t i updated d hs h
    rcases updateDraftFields_ok h with ⟨hevent, rfl⟩ | ⟨faceValue, r, hevent, -, -, rfl⟩
    · rw [hevent]
      exact hallow s t _ _ hs ⟨.read, by simp⟩
    · rw [hevent]
      exact hallow s t _ _ hs ⟨.updated _ _ _, by simp⟩
  · cases updated with
    | none => exact free_throw _
    | some invoice => exact free_bind (free_auditAlone hG _) fun _ => free_pure _

variable
  (hdraft : ∀ s invoiceId r, G.inv s → s.store.invoices.get? invoiceId = some r → r.status = .draft →
    Drafted invoiceId s.store)
  (hsteady : ∀ invoiceId, G.Steady fun s => Drafted invoiceId s.store)

include hdraft hsteady

theorem free_submitDraft (invoiceId userId : ℕ) (req : Request) :
    Free G (submitDraft cfg invoiceId userId req) := by
  intro t
  have hquiet := hG.toQuiet
  have hdrafted := hsteady invoiceId
  refine .bind (triple_guardDraftOwnership hG hdraft hsteady _ _ _ t) ?_
  rintro ⟨invoice, supplierId, now⟩
  -- the invoice stays `Drafted` up to the transaction
  refine .bind ((free_query hquiet _).carries hdrafted t) fun owner =>
    .bind ((free_lift _).carries hdrafted t) fun _ =>
      .bind ((free_queryNow hquiet _).carries hdrafted t) ?_
  rintro ⟨buyer, now⟩
  refine .bind ((free_lift _).carries hdrafted t) fun _ =>
    .bind (triple_transaction hquiet (hsteady invoiceId) t ?_) fun _ => ?_
  · intro s i u d hs hinvoice h
    rw [executePromoteTransaction_ok h]
    exact hallow s t _ _ hs ⟨.promoted _ _ _ _ hinvoice, by simp⟩
  · exact .bind (free_log hquiet _ t) fun _ => .bind (free_query hquiet _ t) fun _ => free_lift _ t

variable
  (hsubmitted : ∀ s invoiceId r, G.inv s → s.store.invoices.get? invoiceId = some r → r.status ≠ .draft →
    Submitted invoiceId s.store)
  (hsteady' : ∀ invoiceId, G.Steady fun s => Submitted invoiceId s.store)

include hsubmitted hsteady'

omit hdraft hsteady in
/-- The invoice that is withdrawn was submitted when it was looked at. -/
theorem free_withdrawInvoice (invoiceId userId : ℕ) (reason : String) (req : Request) :
    Free G (withdrawInvoice cfg invoiceId userId reason req) := by
  have hquiet := hG.toQuiet
  refine free_bind (free_query hquiet _) fun supplier => ?_
  cases supplier with
  | none => exact free_throw _
  | some supplier =>
    intro t
    refine .bind (R := fun found s => ∀ r ∈ found.1, r.status ≠ .draft → Submitted invoiceId s.store)
      (triple_queryNow (Q := fun found s => ∀ r ∈ found, r.status ≠ .draft → Submitted invoiceId s.store)
        hquiet t fun s now hs r hr => hsubmitted s _ r hs (Option.filter_eq_some_iff.1 hr).1) ?_
    rintro ⟨found, now⟩
    cases found with
    | none => exact .throw fun _ _ _ => trivial
    | some invoice =>
      refine .bind (R := fun _ s => Submitted invoiceId s.store) (.lift ?_ fun _ _ _ _ _ => trivial)
        fun _ => .bind (triple_transaction hquiet (hsteady' invoiceId) t ?_) fun _ => free_log hquiet _ t
      · intro u s hvalid _ hfound
        refine hfound invoice rfl fun hstatus => ?_
        simp [validateWithdrawalEligibility, hstatus] at hvalid
      · intro s i u d hs hinvoice h
        obtain ⟨entry, -, rfl⟩ := executeWithdrawTransaction_ok h
        refine hallow s t _ _ hs ⟨.withdrawn _ _, ?_⟩
        rintro _ ⟨⟩
        exact hinvoice

/-- Every operation of the service follows a protocol that allows what it does to invoices it has seen. -/
theorem free_program_of_seen (op : Op) : Free G (program cfg op) := by
  cases op with
  | submitInvoice => exact free_discard (free_submitInvoice hG hallow _ _ _)
  | saveDraft => exact free_discard (free_saveDraft hG hallow _ _ _)
  | updateDraft => exact free_discard (free_updateDraft hG hallow _ _ _ _)
  | submitDraft => exact free_discard (free_submitDraft hG hallow hdraft hsteady _ _ _)
  | withdrawInvoice => exact free_withdrawInvoice hG hallow hsubmitted hsteady' _ _ _ _

end Writes

/-- Every operation of the service follows a protocol that allows its effects. -/
theorem free_program (hallow : Allows G (Effect cfg Drafted))
    (hdraft : ∀ s invoiceId r, G.inv s → s.store.invoices.get? invoiceId = some r → r.status = .draft →
      Drafted invoiceId s.store)
    (hsteady : ∀ invoiceId, G.Steady fun s => Drafted invoiceId s.store) (op : Op) :
    Free G (program cfg op) := by
  have hseen : Allows G (SeenEffect cfg Drafted fun _ _ => True) := hallow.mono fun _ _ _ h => h.effect
  exact free_program_of_seen hG hseen hdraft hsteady (fun _ _ _ _ _ _ => trivial)
    (fun _ _ _ _ _ _ _ _ => trivial) op

end Calls

end Ris.Invoices
