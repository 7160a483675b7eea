import RisPlatform.Approvals.Frame
import RisPlatform.Compliance.AmlClearance
import RisPlatform.Invoices.Protocol
import RisPlatform.Payments.Frame
import RisPlatform.Pricing.Protocol
import RisPlatform.RiskEngine.Protocol
import RisPlatform.Verification.Protocol

/-!
# The hold on large invoices

The services from the submission of an invoice to its payment, side by side. Both submissions flag an
invoice whose face value exceeds the threshold, and `guardAmlCleared` stops the payment of an invoice
that has the threshold or more, if it is flagged and not cleared. The two comparisons part at the
threshold itself: such an invoice is never flagged, so it is paid without a clearance, and it cannot
even be cleared.

A draft has no EFRIS reference and never gets one, so the buyer cannot confirm it and it is never paid.
-/

namespace Ris.AmlHold

open Relational Concurrent

/-! ## The system -/

/-- The operations of the seven services. -/
inductive Op
  | invoices (op : Invoices.Op)
  | verification (op : Verification.Op)
  | riskEngine (op : RiskEngine.Op)
  | compliance (op : Compliance.Op)
  | pricing (op : Pricing.Op)
  | approvals (op : Approvals.Op)
  | payments (op : Payments.Op)

/-- The body of each operation. -/
def program (cfg : Config) : Op → Call Unit
  | .invoices op => Invoices.program cfg op
  | .verification op => Verification.program cfg op
  | .riskEngine op => RiskEngine.program cfg op
  | .compliance op => Compliance.program cfg op
  | .pricing op => Pricing.program cfg op
  | .approvals op => Approvals.program cfg op
  | .payments op => Payments.program cfg op

/-! ## Invoice rows -/

/-- The status is not one that only an invoice confirmed by its buyer gets. -/
def Unconfirmed (r : Invoice) : Prop :=
  r.status = .draft ∨ r.status = .submitted ∨ r.status = .withdrawn

/-- What holds of every invoice: without a reference it is never confirmed; with one it was submitted,
its flag says whether the face value exceeds the threshold, and only a flagged one is cleared. -/
structure Tracked (cfg : Config) (r : Invoice) : Prop where
  unconfirmed : r.uraEfrisRef = none → Unconfirmed r
  submitted : r.uraEfrisRef ≠ none → r.status ≠ .draft
  flagged : r.uraEfrisRef ≠ none → (r.amlFlagged = true ↔ cfg.amlFlagThreshold < r.faceValue)
  cleared : r.uraEfrisRef ≠ none → r.amlClearedAt ≠ none → r.amlFlagged = true

/-- What an operation may do to an invoice. -/
structure Advances (r r' : Invoice) : Prop where
  id : r'.id = r.id
  uraEfrisRef : r'.uraEfrisRef = r.uraEfrisRef
  unconfirmed : r.uraEfrisRef = none → Unconfirmed r → Unconfirmed r'
  submitted : r.status ≠ .draft → r'.status ≠ .draft
  faceValue : r.status ≠ .draft → r'.faceValue = r.faceValue
  flagged : r.uraEfrisRef ≠ none → r'.amlFlagged = r.amlFlagged
  cleared : r.uraEfrisRef ≠ none →
    r'.amlClearedAt = r.amlClearedAt ∨ r.amlFlagged = true ∧ r'.amlClearedAt ≠ none

/-- The invoice may be paid: it has a reference, and above the threshold it is cleared. -/
structure Payable (cfg : Config) (r : Invoice) : Prop where
  referenced : r.uraEfrisRef ≠ none
  cleared : cfg.amlFlagThreshold < r.faceValue → r.amlClearedAt ≠ none

section Rows

variable {cfg : Config} {r r' r'' : Invoice}

/-- None of the columns in question changes. -/
theorem Advances.same (hid : r'.id = r.id) (href : r'.uraEfrisRef = r.uraEfrisRef)
    (hstatus : r'.status = r.status) (hface : r'.faceValue = r.faceValue)
    (hflagged : r'.amlFlagged = r.amlFlagged) (hcleared : r'.amlClearedAt = r.amlClearedAt) :
    Advances r r' where
  id := hid
  uraEfrisRef := href
  unconfirmed _ h := by rwa [Unconfirmed, hstatus]
  submitted h := by rwa [hstatus]
  faceValue _ := hface
  flagged _ := hflagged
  cleared _ := Or.inl hcleared

theorem Advances.refl (r : Invoice) : Advances r r := .same rfl rfl rfl rfl rfl rfl

theorem Advances.trans (h : Advances r r') (h' : Advances r' r'') : Advances r r'' where
  id := h'.id.trans h.id
  uraEfrisRef := h'.uraEfrisRef.trans h.uraEfrisRef
  unconfirmed href hr := h'.unconfirmed (h.uraEfrisRef.trans href) (h.unconfirmed href hr)
  submitted hr := h'.submitted (h.submitted hr)
  faceValue hr := (h'.faceValue (h.submitted hr)).trans (h.faceValue hr)
  flagged href := by
    have href' : r'.uraEfrisRef ≠ none := by rwa [h.uraEfrisRef]
    exact (h'.flagged href').trans (h.flagged href)
  cleared href := by
    have href' : r'.uraEfrisRef ≠ none := by rwa [h.uraEfrisRef]
    rcases h'.cleared href' with hsame | ⟨hflagged, hcleared⟩
    · rw [hsame]
      exact h.cleared href
    · rw [h.flagged href] at hflagged
      exact Or.inr ⟨hflagged, hcleared⟩

/-- A confirmed invoice moves on to another status. -/
theorem Advances.moved {new : InvoiceStatus} {now : ℤ} (hr : ¬Unconfirmed r) (hnew : new ≠ .draft) :
    Advances r (Payments.setInvoiceStatus new now r) where
  id := rfl
  uraEfrisRef := rfl
  unconfirmed _ h := absurd h hr
  submitted _ := hnew
  faceValue _ := rfl
  flagged _ := rfl
  cleared _ := Or.inl rfl

theorem Tracked.advances (h : Tracked cfg r) (hstep : Advances r r') : Tracked cfg r' where
  unconfirmed href := by
    rw [hstep.uraEfrisRef] at href
    exact hstep.unconfirmed href (h.unconfirmed href)
  submitted href := by
    rw [hstep.uraEfrisRef] at href
    exact hstep.submitted (h.submitted href)
  flagged href := by
    rw [hstep.uraEfrisRef] at href
    rw [hstep.flagged href, hstep.faceValue (h.submitted href)]
    exact h.flagged href
  cleared href hcleared := by
    rw [hstep.uraEfrisRef] at href
    rw [hstep.flagged href]
    rcases hstep.cleared href with hsame | ⟨hflagged, -⟩
    · rw [hsame] at hcleared
      exact h.cleared href hcleared
    · exact hflagged

/-- An invoice that may be paid stays so. -/
theorem Payable.advances (h : Payable cfg r) (hr : Tracked cfg r) (hstep : Advances r r') :
    Payable cfg r' where
  referenced := by
    rw [hstep.uraEfrisRef]
    exact h.referenced
  cleared habove := by
    rw [hstep.faceValue (hr.submitted h.referenced)] at habove
    rcases hstep.cleared h.referenced with hsame | ⟨-, hcleared⟩
    · rw [hsame]
      exact h.cleared habove
    · exact hcleared

/-- The guards of `initiatePayment` let through what may be paid. -/
theorem Tracked.payable (h : Tracked cfg r) (happroved : Payments.guardInvoiceApproved r = .ok ())
    (hcleared : Payments.guardAmlCleared cfg r = .ok ()) : Payable cfg r := by
  have hstatus := Payments.guardInvoiceApproved_ok happroved
  have href : r.uraEfrisRef ≠ none := by
    intro hnone
    have hunconfirmed := h.unconfirmed hnone
    rw [Unconfirmed, hstatus] at hunconfirmed
    exact absurd hunconfirmed (by decide)
  refine ⟨href, fun habove hnone => ?_⟩
  have hflagged := (h.flagged href).2 habove
  have hover : cfg.amlFlagThreshold ≤ r.faceValue := by omega
  simp [Payments.guardAmlCleared, hover, hflagged, hnone] at hcleared

/-- Of the invoices that may be paid, those at the threshold are the ones that miss a clearance. -/
theorem Payable.cleared_iff (h : Payable cfg r) (hr : Tracked cfg r) :
    (cfg.amlFlagThreshold ≤ r.faceValue → r.amlClearedAt ≠ none) ↔
      r.faceValue ≠ cfg.amlFlagThreshold := by
  constructor
  · intro hcleared heq
    have hflagged := hr.cleared h.referenced (hcleared (by omega))
    have habove := (hr.flagged h.referenced).1 hflagged
    omega
  · intro hne hover
    apply h.cleared
    omega

end Rows

/-! ## Effects -/

/-- The store has the invoice, and its row satisfies `P`. -/
def HasInvoice (P : Invoice → Prop) (invoiceId : ℕ) (w : World) : Prop :=
  ∃ r, w.invoices.get? invoiceId = some r ∧ P r

/-- What an event may do: invoices advance, a new one with a reference was submitted just now, and a new
payment is of an invoice that may be paid. -/
structure Effect (cfg : Config) (w : World) (e : Event) (w' : World) : Prop where
  kept : ∀ r ∈ w.invoices.rows, ∃ r' ∈ w'.invoices.rows, Advances r r'
  invoices : ∀ r' ∈ w'.invoices.rows, (∃ r ∈ w.invoices.rows, Advances r r') ∨
    Tracked cfg r' ∧ (r'.uraEfrisRef ≠ none → e = .invoiceSubmitted r'.id r'.faceValue)
  payments : ∀ p ∈ w'.payments.rows, (∃ q ∈ w.payments.rows, q.invoiceId = p.invoiceId) ∨
    HasInvoice (Payable cfg) p.invoiceId w
  scores : ∀ invoiceId riskScoreId, Pricing.ScoreOf w invoiceId riskScoreId →
    Pricing.ScoreOf w' invoiceId riskScoreId

section Effects

variable {cfg : Config} {w w' : World} {e : Event} {r : Invoice} {T : Table Invoice.id}

/-- Every row advances, and the payments stay. -/
theorem Effect.of_rows (hinvoices : w.invoices.Rowwise Advances w'.invoices)
    (hpayments : w'.payments = w.payments)
    (hscores : ∀ invoiceId riskScoreId, Pricing.ScoreOf w invoiceId riskScoreId →
      Pricing.ScoreOf w' invoiceId riskScoreId) : Effect cfg w e w' where
  kept _ hr := hinvoices.exists_of_mem_left hr
  invoices _ hr' := Or.inl (hinvoices.exists_of_mem hr')
  payments p hp := by
    rw [hpayments] at hp
    exact Or.inl ⟨p, hp, rfl⟩
  scores := hscores

theorem Effect.silent (hinvoices : w'.invoices = w.invoices) (hpayments : w'.payments = w.payments)
    (hscores : w'.riskScores = w.riskScores) : Effect cfg w e w' := by
  refine .of_rows ?_ hpayments fun _ _ h => ?_
  · rw [hinvoices]
    exact .refl Advances.refl _
  · rwa [Pricing.ScoreOf, hscores]

/-- One new invoice beside the old ones. -/
theorem Effect.of_new (hrows : ∀ r', r' ∈ w'.invoices.rows ↔ r' ∈ w.invoices.rows ∨ r' = r)
    (hr : Tracked cfg r) (he : r.uraEfrisRef ≠ none → e = .invoiceSubmitted r.id r.faceValue)
    (hpayments : w'.payments = w.payments) (hscores : w'.riskScores = w.riskScores) :
    Effect cfg w e w' where
  kept r₀ hr₀ := ⟨r₀, (hrows r₀).2 (Or.inl hr₀), .refl r₀⟩
  invoices r' hr' := by
    rcases (hrows r').1 hr' with hold | rfl
    · exact Or.inl ⟨r', hold, .refl r'⟩
    · exact Or.inr ⟨hr, he⟩
  payments p hp := by
    rw [hpayments] at hp
    exact Or.inl ⟨p, hp, rfl⟩
  scores _ _ h := by rwa [Pricing.ScoreOf, hscores]

/-! The rows of each service. -/

theorem tracked_submittedRow (data : Invoices.CreateInvoiceInput) (now : ℤ)
    (href : data.uraEfrisRef ≠ none) :
    Tracked cfg (Invoices.setAmlFlag (decide (cfg.amlFlagThreshold < data.faceValue))
      (data.submittedRow now)) where
  unconfirmed hnone := absurd hnone href
  submitted _ := by simp [Invoices.setAmlFlag, Invoices.CreateInvoiceInput.submittedRow]
  flagged _ := by
    simp [Invoices.setAmlFlag, Invoices.CreateInvoiceInput.submittedRow,
      Invoices.CreateInvoiceInput.draftRow]
  cleared _ h := absurd rfl h

theorem tracked_draftRow (data : Invoices.CreateInvoiceInput) (now : ℤ) :
    Tracked cfg (data.draftRow now) where
  unconfirmed _ := Or.inl rfl
  submitted h := absurd rfl h
  flagged h := absurd rfl h
  cleared h := absurd rfl h

/-- A draft may get another face value. -/
theorem advances_setDraftFields {invoiceId supplierId : ℕ} (fields : Invoices.DraftFields)
    (hr : Invoices.IsDraftOf invoiceId supplierId r) : Advances r (Invoices.setDraftFields fields r) where
  id := rfl
  uraEfrisRef := rfl
  unconfirmed _ h := h
  submitted h := absurd hr.2.2 h
  faceValue h := absurd hr.2.2 h
  flagged _ := rfl
  cleared _ := Or.inl rfl

theorem advances_setSubmitted (now : ℤ) : Advances r (Invoices.setSubmitted now r) where
  id := rfl
  uraEfrisRef := rfl
  unconfirmed _ _ := Or.inr (Or.inl rfl)
  submitted _ := by simp [Invoices.setSubmitted]
  faceValue _ := rfl
  flagged _ := rfl
  cleared _ := Or.inl rfl

theorem advances_setWithdrawn : Advances r (Invoices.setWithdrawn r) where
  id := rfl
  uraEfrisRef := rfl
  unconfirmed _ _ := Or.inr (Or.inr rfl)
  submitted _ := by simp [Invoices.setWithdrawn]
  faceValue _ := rfl
  flagged _ := rfl
  cleared _ := Or.inl rfl

/-- The flag of an invoice without a reference may be set. -/
theorem advances_setAmlFlag (flagged : Bool) (hr : r.uraEfrisRef = none) :
    Advances r (Invoices.setAmlFlag flagged r) where
  id := rfl
  uraEfrisRef := rfl
  unconfirmed _ h := h
  submitted h := h
  faceValue _ := rfl
  flagged h := absurd hr h
  cleared _ := Or.inl rfl

/-- Only an invoice with a reference is confirmed. -/
theorem advances_setConfirmed (now : ℤ) (hr : r.uraEfrisRef ≠ none) :
    Advances r (Verification.setConfirmed now r) where
  id := rfl
  uraEfrisRef := rfl
  unconfirmed h := absurd h hr
  submitted _ := by simp [Verification.setConfirmed]
  faceValue _ := rfl
  flagged _ := rfl
  cleared _ := Or.inl rfl

/-- Only a flagged invoice is cleared. -/
theorem advances_setCleared {invoiceId officerId : ℕ} (reason : String) (now : ℤ)
    (hr : Compliance.AwaitsClearance invoiceId r) :
    Advances r (Compliance.setCleared officerId reason now r) where
  id := rfl
  uraEfrisRef := rfl
  unconfirmed _ h := h
  submitted h := h
  faceValue _ := rfl
  flagged _ := rfl
  cleared _ := Or.inr ⟨hr.2.1, by simp [Compliance.setCleared]⟩

/-- Rows of one table are changed, and they advance. -/
theorem advances_update {p : Invoice → Bool} {f : Invoice → Invoice} (hf : ∀ r, (f r).id = r.id)
    (hstep : ∀ r ∈ T.rows, p r = true → Advances r (f r)) : T.Rowwise Advances (T.update p f hf) :=
  Table.rowwise_update hstep fun r _ _ => .refl r

/-- A move from a status that only confirmed invoices have. -/
theorem advances_moveById {invoiceId : ℕ} {expected new : InvoiceStatus} {now : ℤ}
    (hexpected : expected ≠ .draft ∧ expected ≠ .submitted ∧ expected ≠ .withdrawn)
    (hnew : new ≠ .draft) : T.Rowwise Advances (Pricing.moveById invoiceId expected new now T) := by
  refine Table.rowwise_update (fun r _ hmatch => ?_) fun r _ _ => .refl r
  obtain ⟨-, hstatus⟩ := of_decide_eq_true hmatch
  apply Advances.moved ?_ hnew
  rintro (h | h | h)
  · exact hexpected.1 (hstatus.symm.trans h)
  · exact hexpected.2.1 (hstatus.symm.trans h)
  · exact hexpected.2.2 (hstatus.symm.trans h)

/-- The effects of the invoices service. -/
theorem Effect.of_invoices
    (h : Invoices.Effect cfg (HasInvoice fun r => r.uraEfrisRef = none) w e w') : Effect cfg w e w' := by
  cases h with
  | read => exact .silent rfl rfl rfl
  | submitted data now invoices auditLogs href hinsert =>
    exact .of_new (fun _ => Invoices.mem_flagAbove_insert? rfl hinsert)
      (tracked_submittedRow data now href) (fun _ => rfl) rfl rfl
  | saved data now invoices hinsert =>
    exact .of_new (fun _ => Table.mem_insert? hinsert) (tracked_draftRow data now)
      (fun h => absurd rfl h) rfl rfl
  | updated invoiceId supplierId fields =>
    refine .of_rows (advances_update (Invoices.id_setDraftFields fields) fun r _ hmatch => ?_) rfl
      fun _ _ h => h
    exact advances_setDraftFields fields (of_decide_eq_true hmatch)
  | promoted invoiceId faceValue now entry hdraft =>
    have hpromoted : w.invoices.Rowwise Advances (Invoices.promote invoiceId now w.invoices) :=
      advances_update _ fun r _ _ => advances_setSubmitted now
    refine .of_rows ?_ rfl fun _ _ h => h
    dsimp only
    unfold Invoices.flagAbove
    split
    · refine hpromoted.trans (advances_update (Invoices.id_setAmlFlag true) fun r hr hid => ?_)
        fun _ _ _ => .trans
      -- the row that is flagged was seen without a reference
      obtain ⟨r₀, hr₀, hstep⟩ := hpromoted.exists_of_mem hr
      obtain ⟨r₁, hr₁, href⟩ := hdraft
      have hr₀₁ : r₀ = r₁ := by
        refine Table.eq_of_mem hr₀ (Table.mem_of_get? hr₁) ?_
        rw [← hstep.id, of_decide_eq_true hid, Table.key_of_get? hr₁]
      exact advances_setAmlFlag true (by rw [hstep.uraEfrisRef, hr₀₁, href])
    · exact hpromoted
  | withdrawn invoiceId entry =>
    exact .of_rows (advances_update Invoices.id_setWithdrawn fun r _ _ => advances_setWithdrawn) rfl
      fun _ _ h => h

/-- The effects of the verification service. -/
theorem Effect.of_verification (h : Verification.Effect w e w') : Effect cfg w e w' := by
  cases h with
  | tokenGenerated invoiceId token expiresAt entry =>
    refine .of_rows (advances_update (Verification.id_setToken token expiresAt) fun r _ _ => ?_) rfl
      fun _ _ h => h
    exact .same rfl rfl rfl rfl rfl rfl
  | confirmed invoiceId now entry href =>
    refine .of_rows (advances_update (Verification.id_setConfirmed now) fun r hr hmatch => ?_) rfl
      fun _ _ h => h
    obtain ⟨r₀, hr₀, href₀⟩ := href
    have hrr₀ : r = r₀ := Table.eq_of_mem hr (Table.mem_of_get? hr₀)
      ((of_decide_eq_true hmatch).1.trans (Table.key_of_get? hr₀).symm)
    exact advances_setConfirmed now (by rwa [hrr₀])
  | disputed invoiceId disputeId disputes entry => exact .silent rfl rfl rfl

/-- The effect of the risk engine. -/
theorem Effect.of_riskEngine (h : RiskEngine.Effect w e w') : Effect cfg w e w' := by
  cases h with
  | scored result id riskScores now hinsert =>
    refine .of_rows (advances_moveById (by decide) ?_) rfl ?_
    · unfold RiskEngine.scoredStatus
      split <;> decide
    · rintro invoiceId riskScoreId ⟨r, hr, hid, hinvoice⟩
      exact ⟨r, (Table.mem_insert? hinsert).2 (Or.inl hr), hid, hinvoice⟩

/-- The effect of a clearance. -/
theorem Effect.of_compliance (h : Compliance.Effect w e w') : Effect cfg w e w' := by
  cases h with
  | cleared invoiceId officerId reason now entry =>
    refine .of_rows (advances_update (Compliance.id_setCleared officerId reason now)
      fun r _ hmatch => ?_) rfl fun _ _ h => h
    exact advances_setCleared reason now (of_decide_eq_true hmatch)

/-- The effects of the pricing service. -/
theorem Effect.of_pricing (h : Pricing.Effect w e w') : Effect cfg w e w' := by
  have hscores : ∀ i k, Pricing.ScoreOf w i k → Pricing.ScoreOf w' i k := fun _ _ => h.scoreOf
  cases h with
  | read | threw | logged | enqueued | leftJobs => exact .silent rfl rfl rfl
  | priced invoiceId riskScoreId input now _ =>
    have hamounts := advances_update (T := w.invoices) (p := fun r => r.id = invoiceId)
      (Pricing.id_setAmounts (Pricing.pricingUpdate input)) fun r _ _ => .same rfl rfl rfl rfl rfl rfl
    exact .of_rows (hamounts.trans (advances_moveById (by decide) (by decide)) fun _ _ _ => .trans) rfl
      hscores
  | accepted invoiceId userId req now =>
    exact .of_rows (advances_update (Pricing.id_setAccepted userId now) fun r _ _ =>
      .same rfl rfl rfl rfl rfl rfl) rfl hscores
  | rejected invoiceId userId reason req now =>
    have hreason := advances_update (T := w.invoices) (p := fun r => r.id = invoiceId)
      (Pricing.id_setRejected reason now) fun r _ _ => .same rfl rfl rfl rfl rfl rfl
    exact .of_rows (hreason.trans (advances_moveById (by decide) (by decide)) fun _ _ _ => .trans) rfl
      hscores
  | disputed invoiceId userId payload req now =>
    exact .of_rows (advances_update (Pricing.id_setDisputed now) fun r _ _ =>
      .same rfl rfl rfl rfl rfl rfl) rfl hscores

/-- A decision of the approvals service. -/
theorem Effect.of_approvals (h : Approvals.Writes w e w') : Effect cfg w e w' := by
  refine .of_rows (h.invoices.imp ?_) (by rw [h.frame]) fun _ _ hscore => by rwa [h.frame]
  rintro r r' ⟨hcolumns, hstatus⟩
  have hid := congrArg Invoice.id hcolumns
  have href := congrArg Invoice.uraEfrisRef hcolumns
  have hface := congrArg Invoice.faceValue hcolumns
  have hflagged := congrArg Invoice.amlFlagged hcolumns
  have hcleared := congrArg Invoice.amlClearedAt hcolumns
  rcases hstatus with hsame | ⟨hpriced, hnew⟩
  · exact .same hid href hsame hface hflagged hcleared
  · refine ⟨hid, href, fun _ h => ?_, fun _ => ?_, fun _ => hface, fun _ => hflagged,
      fun _ => Or.inl hcleared⟩
    · rw [Unconfirmed, hpriced] at h
      exact absurd h (by decide)
    · rcases hnew with hnew | hnew
      · simp [hnew]
      · simp [hnew]

/-- An invoice row of the payments service. -/
theorem advances_invoiceStep {r' : Invoice} (h : Payments.InvoiceStep (some e) r r') :
    Advances r r' := by
  have hmoved : r.status = .approved → ¬Unconfirmed r := by
    intro hstatus
    rw [Unconfirmed, hstatus]
    decide
  cases h with
  | same => exact .refl r
  | initiated _ _ _ _ hstatus => exact .moved (hmoved hstatus) (by decide)
  | funded _ _ _ _ hstatus => exact .moved (hmoved hstatus) (by decide)

/-- A write of the payments service that creates no payment. -/
theorem Effect.of_payments (h : Payments.Updates w e w') : Effect cfg w e w' where
  kept r hr := by
    obtain ⟨r', hr', hstep⟩ := h.invoices.exists_of_mem_left hr
    exact ⟨r', hr', advances_invoiceStep hstep⟩
  invoices r' hr' := by
    obtain ⟨r, hr, hstep⟩ := h.invoices.exists_of_mem hr'
    exact Or.inl ⟨r, hr, advances_invoiceStep hstep⟩
  payments p hp := by
    obtain ⟨q, hq, hsame⟩ := (h.payments h.created_none).exists_of_mem hp
    exact Or.inl ⟨q, hq, hsame.invoiceId.symm⟩
  scores _ _ hscore := by rwa [h.frame]

/-- A new payment of an invoice that may be paid. -/
theorem Effect.of_creates {p : Payment} {invoice : Invoice} {now : ℤ}
    (h : Payments.Creates w w' p invoice now) (hpayable : HasInvoice (Payable cfg) p.invoiceId w) :
    Effect cfg w (.paymentCreated p) w' where
  kept r hr := by
    obtain ⟨r', hr', hstep⟩ := h.writes.invoices.exists_of_mem_left hr
    exact ⟨r', hr', advances_invoiceStep hstep⟩
  invoices r' hr' := by
    obtain ⟨r, hr, hstep⟩ := h.writes.invoices.exists_of_mem hr'
    exact Or.inl ⟨r, hr, advances_invoiceStep hstep⟩
  payments q hq := by
    rcases (Table.mem_insert? h.insert).1 hq with hold | rfl
    · exact Or.inl ⟨q, hold, rfl⟩
    · exact Or.inr hpayable
  scores _ _ hscore := by rwa [h.frame]

end Effects

/-! ## The system follows the effects -/

/-- Every invoice is tracked, and every payment is of an invoice that may be paid. -/
structure Lawful (cfg : Config) (w : World) : Prop where
  tracked : ∀ r ∈ w.invoices.rows, Tracked cfg r
  paid : ∀ p ∈ w.payments.rows, HasInvoice (Payable cfg) p.invoiceId w

section Steps

variable {cfg : Config} {w w' : World} {e : Event}

/-- What invoices keep as they advance, the invoice of an id keeps. -/
theorem Effect.hasInvoice (heff : Effect cfg w e w') {P : Invoice → Prop}
    (hP : ∀ r r', r ∈ w.invoices.rows → Advances r r' → P r → P r') {invoiceId : ℕ}
    (h : HasInvoice P invoiceId w) : HasInvoice P invoiceId w' := by
  obtain ⟨r, hr, hPr⟩ := h
  have hmem := Table.mem_of_get? hr
  obtain ⟨r', hr', hstep⟩ := heff.kept r hmem
  refine ⟨r', ?_, hP r r' hmem hstep hPr⟩
  have hid : r'.id = invoiceId := hstep.id.trans (Table.key_of_get? hr)
  rw [← hid]
  exact Table.get?_of_mem hr'

/-- The step lemma. -/
theorem Lawful.effect (h : Lawful cfg w) (heff : Effect cfg w e w') : Lawful cfg w' where
  tracked r' hr' := by
    rcases heff.invoices r' hr' with ⟨r, hr, hstep⟩ | ⟨hnew, -⟩
    · exact (h.tracked r hr).advances hstep
    · exact hnew
  paid p hp := by
    have hkeep : HasInvoice (Payable cfg) p.invoiceId w → HasInvoice (Payable cfg) p.invoiceId w' :=
      heff.hasInvoice fun r r' hr hstep hpayable => hpayable.advances (h.tracked r hr) hstep
    rcases heff.payments p hp with ⟨q, hq, hinvoice⟩ | hpayable
    · rw [← hinvoice] at hkeep ⊢
      exact hkeep (h.paid q hq)
    · exact hkeep hpayable

end Steps

/-- Effects depend on the store alone; a call may return at any time. -/
def protocol (cfg : Config) : Protocol World Event where
  inv s := Lawful cfg s.store
  effect s _ e d :=
    match e with
    | some event => Effect cfg s.store event d
    | none => d = s.store
  inv_effect {s t e d} hs heff := by
    cases e with
    | some event => exact hs.effect heff
    | none =>
      obtain rfl : d = s.store := heff
      exact hs
  return_stable _ _ _ _ := rfl

theorem auditing (cfg : Config) : Auditing (protocol cfg) where
  read _ _ := .silent rfl rfl rfl
  threw _ _ := .silent rfl rfl rfl
  logged _ _ _ := .silent rfl rfl rfl
  enqueued _ _ _ := .silent rfl rfl rfl
  leftJobs _ _ _ := .silent rfl rfl rfl
  audited _ _ _ := .silent rfl rfl rfl

/-- What tracked invoices keep as they advance may be relied on. -/
theorem steady_hasInvoice {cfg : Config} {P : Invoice → Prop}
    (hP : ∀ r r', Tracked cfg r → Advances r r' → P r → P r') (invoiceId : ℕ) :
    (protocol cfg).Steady fun s => HasInvoice P invoiceId s.store := by
  intro s t e d hs h heff
  cases e with
  | some event =>
    exact Effect.hasInvoice heff (fun r r' hr hstep => hP r r' (hs.tracked r hr) hstep) h
  | none =>
    obtain rfl : d = s.store := heff
    exact h

theorem steady_scoreOf (cfg : Config) (invoiceId riskScoreId : ℕ) :
    (protocol cfg).Steady fun s => Pricing.ScoreOf s.store invoiceId riskScoreId := by
  intro s t e d _ h heff
  cases e with
  | some event => exact Effect.scores heff invoiceId riskScoreId h
  | none =>
    obtain rfl : d = s.store := heff
    exact h

/-- What the guards of `initiatePayment` found, its transaction may rely on. -/
theorem free_initiatePayment (cfg : Config) (invoiceId : ℕ) :
    Free (protocol cfg) (Payments.initiatePayment cfg invoiceId) := by
  have hsteady : (protocol cfg).Steady fun s => HasInvoice (Payable cfg) invoiceId s.store :=
    steady_hasInvoice (fun r r' hr hstep h => h.advances hr hstep) invoiceId
  refine Payments.free_initiatePayment_of (auditing cfg).toPermissive hsteady ?_ ?_
  · intro s found hs hfound happroved hcleared
    have hinvoice : s.store.invoices.get? invoiceId = some found.1 :=
      Payments.getInvoiceForPayment_eq_some hfound
    have htracked := hs.tracked found.1 (Table.mem_of_get? hinvoice)
    exact ⟨found.1, hinvoice, htracked.payable happroved hcleared⟩
  · rintro s t p invoice now d - hpayable rfl hcreates
    exact .of_creates hcreates hpayable

/-- Every operation follows the protocol. -/
theorem program_implements (cfg : Config) : (protocol cfg).Implements (program cfg) := by
  have hG := auditing cfg
  have hfree : ∀ op, Free (protocol cfg) (program cfg op) := by
    intro op
    cases op with
    | invoices op =>
      refine Invoices.free_program hG (fun _ _ _ _ _ h => .of_invoices h) ?_ ?_ op
      · intro s invoiceId r hs hr hstatus
        refine ⟨r, hr, not_not.1 fun href => ?_⟩
        exact (hs.tracked r (Table.mem_of_get? hr)).submitted href hstatus
      · exact steady_hasInvoice fun r r' _ hstep href => hstep.uraEfrisRef.trans href
    | verification op =>
      refine Verification.free_program hG (fun _ _ _ _ _ h => .of_verification h) ?_ op
      exact steady_hasInvoice fun r r' _ hstep href => by rwa [hstep.uraEfrisRef]
    | riskEngine op =>
      exact RiskEngine.free_program hG.toPermissive (fun _ _ _ _ _ h => .of_riskEngine h) op
    | compliance op =>
      exact Compliance.free_program hG.toPermissive (fun _ _ _ _ _ h => .of_compliance h) op
    | pricing op =>
      exact Pricing.free_program hG.toPermissive (fun _ _ _ _ _ h => .of_pricing h)
        (steady_scoreOf cfg) op
    | approvals op =>
      exact Approvals.free_program_of_allows hG.toPermissive (fun _ _ _ _ _ h => .of_approvals h) op
    | payments op =>
      exact Payments.free_program_of hG.toPermissive (fun _ _ _ _ _ h => .of_payments h)
        (free_initiatePayment cfg) op
  exact fun op t => (hfree op t).conseq (fun _ _ _ => trivial) (fun _ _ _ _ => rfl) fun _ _ _ _ => rfl

/-! ## Runs -/

/-- No invoice has been submitted and nothing paid yet. -/
structure Unused (w : World) : Prop where
  invoices : w.invoices.rows = []
  payments : w.payments.rows = []

/-- Above the threshold and at it, an invoice is paid only if it is cleared. -/
def ClearedBeforePayment (cfg : Config) (r : Invoice) : Prop :=
  cfg.amlFlagThreshold ≤ r.faceValue → r.amlClearedAt ≠ none

/-- The hold: every invoice that has a payment is cleared, if its face value asks for that. -/
def HoldKept (cfg : Config) (w : World) : Prop :=
  ∀ p ∈ w.payments.rows, ∀ r ∈ w.invoices.get? p.invoiceId, ClearedBeforePayment cfg r

/-- The face value of a submission. -/
def submittedValue? : Event → Option ℤ
  | .invoiceSubmitted _ faceValue => some faceValue
  | _ => none

/-- No invoice is submitted at the threshold itself. -/
def OffThreshold (cfg : Config) : Cond World Event := fun _ _ e =>
  ∀ faceValue ∈ submittedValue? e, faceValue ≠ cfg.amlFlagThreshold

instance (cfg : Config) (r : Invoice) : Decidable (ClearedBeforePayment cfg r) := by
  unfold ClearedBeforePayment
  infer_instance

instance (cfg : Config) (w : World) : Decidable (HoldKept cfg w) := by
  unfold HoldKept
  infer_instance

instance (cfg : Config) (s : State World Event) (t : ℕ) (e : Event) :
    Decidable (OffThreshold cfg s t e) := by
  unfold OffThreshold
  infer_instance

theorem Unused.lawful {w : World} (h : Unused w) (cfg : Config) : Lawful cfg w where
  tracked r hr := by
    rw [h.invoices] at hr
    cases hr
  paid p hp := by
    rw [h.payments] at hp
    cases hp

/-- No invoice with a reference is at the threshold. -/
def RowsOffThreshold (cfg : Config) (w : World) : Prop :=
  ∀ r ∈ w.invoices.rows, r.uraEfrisRef ≠ none → r.faceValue ≠ cfg.amlFlagThreshold

/-- The step lemma of the face values. -/
theorem RowsOffThreshold.move {cfg : Config} {s : State World Event} {t : ℕ} {e : Option Event}
    {d : World} (h : RowsOffThreshold cfg s.store)
    (hmove : (protocol cfg).Moves (OffThreshold cfg) s t e d) : RowsOffThreshold cfg d := by
  cases e with
  | none =>
    obtain rfl : d = s.store := hmove.effect
    exact h
  | some event =>
    intro r' hr' href
    rcases Effect.invoices hmove.effect r' hr' with ⟨r, hr, hstep⟩ | ⟨-, he⟩
    · rw [hstep.uraEfrisRef] at href
      rw [hstep.faceValue ((hmove.inv.tracked r hr).submitted href)]
      exact h r hr href
    · exact hmove.cond event rfl r'.faceValue (by rw [he href]; rfl)

/-- **The hold on large invoices.** In every run from a store without invoices, an invoice that has a
payment was cleared as its face value asks, exactly if that is not the threshold itself. So the hold is
kept in every state of a run in which no invoice is submitted at the threshold. -/
theorem hold_kept_iff (cfg : Config) (w : World) (hw : Unused w)
    (s : Sys World Input Event RisError) (hs : Reaches (program cfg) always (Sys.init w) s) :
    (∀ p ∈ s.store.payments.rows, ∀ r ∈ s.store.invoices.get? p.invoiceId,
      (ClearedBeforePayment cfg r ↔ r.faceValue ≠ cfg.amlFlagThreshold)) ∧
      (Reaches (program cfg) (OffThreshold cfg) (Sys.init w) s → HoldKept cfg s.store) := by
  have hprog := program_implements cfg
  have hinit : (protocol cfg).inv ⟨w, []⟩ := hw.lawful cfg
  have hlawful : Lawful cfg s.store := (Protocol.simulates hprog hinit hs).1.inv
  have hpaid : ∀ p ∈ s.store.payments.rows, ∀ r ∈ s.store.invoices.get? p.invoiceId,
      Payable cfg r ∧ Tracked cfg r := by
    intro p hp r hr
    obtain ⟨r₀, hr₀, hpayable⟩ := hlawful.paid p hp
    obtain rfl : r = r₀ := Option.some.inj (hr.symm.trans hr₀)
    exact ⟨hpayable, hlawful.tracked r (Table.mem_of_get? hr)⟩
  refine ⟨fun p hp r hr => ?_, fun hoff p hp r hr => ?_⟩
  · obtain ⟨hpayable, htracked⟩ := hpaid p hp r hr
    exact hpayable.cleared_iff htracked
  · obtain ⟨hpayable, htracked⟩ := hpaid p hp r hr
    have hrows : RowsOffThreshold cfg s.store := by
      refine Protocol.invariant hprog hinit (P := fun s => RowsOffThreshold cfg s.store) ?_
        (fun _ _ _ _ h hmove => h.move hmove) hoff
      intro r hr
      rw [hw.invoices] at hr
      cases hr
    exact (hpayable.cleared_iff htracked).2 (hrows r (Table.mem_of_get? hr) hpayable.referenced)

/-! ## A small world

A buyer rated A and a supplier with approved KYC, before the first invoice. -/

def largeWorld : World :=
  { World.empty with
    buyers := .single
      { id := 1, risMarginRate := mkRat 2 100, approvedLimit := 300000000, creditRating := .a }
    suppliers :=
      .single { id := 1, userId := 9, preferredPaymentMethod := "EFT", kycStatus := .approved }
    bankFacilities := .single
      { id := 1, facilityName := "Facility", bankName := "Bank", totalLimit := 500000000
        drawnAmount := 0, annualRate := mkRat 5 100, interestRateAnnual := mkRat 5 100
        maturityDate := 365
        status := .active, isActive := true } }

def largeInvoice (faceValue : ℚ) : Invoices.InvoiceSubmission :=
  { invoiceNumber := "INV-1", buyerId := 1, faceValue, dueDate := 60 * dayMs, description := "Goods"
    uraEfrisRef := "EFRIS-1" }

def officer (userId : ℕ) : Approvals.Approver :=
  { userId := .user userId
    role := "credit_officer"
    comments := some "Approved"
    creditMemo := some "Buyer rated A, supplier known, usual terms, limit not exceeded." }

/-- An operation run alone as call `t`, of `n` statements. -/
def alone (op : Op) (t n : ℕ) : List (Act Op Input) :=
  Act.call op t (List.replicate n { uuid := t + 1, key := "token", coverageRatio := some 0 })

/-- From the confirmation of invoice 1 to its payment, from call `t` on. -/
def paidFrom (t : ℕ) : List (Act Op Input) :=
  alone (.verification (.resendConfirmation 1 7 {})) t 7 ++
    alone (.verification (.confirmInvoice "token" {} {})) (t + 1) 5 ++
    alone (.riskEngine (.scoreInvoice 1)) (t + 2) 18 ++
    alone (.pricing (.priceInvoice 1)) (t + 3) 7 ++
    alone (.pricing (.acceptPricing 1 9 {})) (t + 4) 5 ++
    alone (.approvals (.approveInvoice 1 (officer 5) {})) (t + 5) 4 ++
    alone (.approvals (.approveInvoice 1 (officer 6) {})) (t + 6) 4 ++
    alone (.payments (.initiatePayment 1)) (t + 7) 9

theorem unused_largeWorld : Unused largeWorld := ⟨rfl, rfl⟩

/-- An invoice of 150,000,000 is flagged, cleared and paid. -/
theorem hold_kept_above_threshold :
    ∃ s : Sys World Input Event RisError, s.store.payments.rows.map Payment.amount = [135000000] ∧
      (∀ p ∈ s.store.payments.rows, ∀ r ∈ s.store.invoices.get? p.invoiceId,
        (ClearedBeforePayment {} r ↔ r.faceValue ≠ 100000000)) ∧
        (Reaches (program {}) (OffThreshold {}) (Sys.init largeWorld) s → HoldKept {} s.store) := by
  obtain ⟨s, hs, hP⟩ := exists_reaches (program {}) always (Sys.init largeWorld)
    (alone (.invoices (.submitInvoice 9 (largeInvoice 150000000) {})) 0 13 ++
      alone (.compliance (.clearInvoice 1 7 { reason := "Checked", sanctionsCheckComplete := true } {}))
        1 4 ++ paidFrom 2)
    (fun s => s.store.payments.rows.map Payment.amount = [135000000]) (by decide +kernel)
  exact ⟨s, of_decide_eq_true hP, hold_kept_iff {} largeWorld unused_largeWorld s hs⟩

/-- An invoice of exactly 100,000,000 is not flagged, and it is paid without a clearance. -/
theorem hold_missed_at_threshold :
    Unused largeWorld ∧ ∃ s : Sys World Input Event RisError,
      Reaches (program {}) always (Sys.init largeWorld) s ∧
        s.store.payments.rows.map Payment.amount = [90000000] ∧
          s.store.invoices.rows.map (fun r => (r.faceValue, r.amlFlagged, r.amlClearedAt)) =
            [(100000000, false, none)] ∧ ¬HoldKept {} s.store := by
  obtain ⟨s, hs, hP⟩ := exists_reaches (program {}) always (Sys.init largeWorld)
    (alone (.invoices (.submitInvoice 9 (largeInvoice 100000000) {})) 0 11 ++ paidFrom 1)
    (fun s => s.store.payments.rows.map Payment.amount = [90000000] ∧
      s.store.invoices.rows.map (fun r => (r.faceValue, r.amlFlagged, r.amlClearedAt)) =
        [(100000000, false, none)] ∧ ¬HoldKept {} s.store) (by decide +kernel)
  obtain ⟨hpaid, hrow, hmissed⟩ := of_decide_eq_true hP
  exact ⟨unused_largeWorld, s, hs, hpaid, hrow, hmissed⟩

end Ris.AmlHold
