import Mathlib.Algebra.Order.BigOperators.Group.List
import RisPlatform.Collections.Frame
import RisPlatform.Origination.AmlHold

/-!
# The exposure of a buyer

The services from the submission of an invoice to its collection, side by side. `used_limit` is meant to
be what the outstanding invoices of the buyer add up to. Only the payment of a buyer moves it, by the face
value of the invoice. An invoice becomes outstanding when it is funded, and it stops to be when it is
resolved by hand or defaults, or by a withdrawal that was decided on before; none of these steps moves the
counter, and a payment for an invoice that is not outstanding moves it all the same. In a run without such
steps the ledger is kept.
-/

namespace Ris.Exposure

open Relational Concurrent

/-! ## The system -/

/-- The operations up to the payment of the supplier, and those of the collections service. -/
inductive Op
  | origination (op : AmlHold.Op)
  | collections (op : Collections.Op)

/-- The body of each operation. -/
def program (cfg : Config) : Op → Call Unit
  | .origination op => AmlHold.program cfg op
  | .collections op => Collections.program cfg op

/-! ## The ledger -/

/-- An invoice of this status counts as exposure of its buyer. -/
def Outstanding (status : InvoiceStatus) : Prop :=
  status = .funded ∨ status = .collecting ∨ status = .overdue

instance : DecidablePred Outstanding := fun status => by
  unfold Outstanding
  infer_instance

/-- What the invoice adds to the exposure of the buyer. -/
def exposureOf (buyerId : ℕ) (r : Invoice) : ℤ :=
  if r.buyerId = buyerId ∧ Outstanding r.status then r.faceValue else 0

/-- The face values of the outstanding invoices of the buyer. -/
def exposure (w : World) (buyerId : ℕ) : ℤ := w.invoices.sum (exposureOf buyerId)

/-- An invoice of this status may lack the confirmation of its buyer. -/
def Early (status : InvoiceStatus) : Prop :=
  status = .draft ∨ status = .submitted ∨ status = .withdrawn ∨ status = .collected

instance : DecidablePred Early := fun status => by
  unfold Early
  infer_instance

/-- Nothing but a confirmation takes an invoice past its submission. -/
def Traced (r : Invoice) : Prop := r.buyerConfirmedAt = none → Early r.status

instance : DecidablePred Traced := fun r => by
  unfold Traced
  infer_instance

/-- A row as the table's check and the confirmation make it. -/
structure Sound (r : Invoice) : Prop where
  traced : Traced r
  positive : Outstanding r.status → 0 ≤ r.faceValue

/-- The ledger: each counter is the exposure of its buyer and within the limit. -/
structure Ledger (w : World) : Prop where
  balanced : ∀ b ∈ w.buyers.rows, b.usedLimit = exposure w b.id
  within : ∀ b ∈ w.buyers.rows, b.usedLimit ≤ b.approvedLimit
  sound : ∀ r ∈ w.invoices.rows, Sound r

instance : DecidablePred Sound := fun r =>
  decidable_of_iff (Traced r ∧ (Outstanding r.status → 0 ≤ r.faceValue))
    ⟨fun h => ⟨h.1, h.2⟩, fun h => ⟨h.traced, h.positive⟩⟩

instance : DecidablePred Ledger := fun w =>
  decidable_of_iff ((∀ b ∈ w.buyers.rows, b.usedLimit = exposure w b.id) ∧
      (∀ b ∈ w.buyers.rows, b.usedLimit ≤ b.approvedLimit) ∧ ∀ r ∈ w.invoices.rows, Sound r)
    ⟨fun h => ⟨h.1, h.2.1, h.2.2⟩, fun h => ⟨h.balanced, h.within, h.sound⟩⟩

/-- What the check on `used_limit` answers. -/
def limitRefused : RisError :=
  .runtime "new row violates check constraint chk_buyers_used_limit_non_negative"

/-- The payment of an outstanding invoice, whenever its row was read, is not refused for the counter. -/
def Recordable (cfg : Config) (w : World) : Prop :=
  ∀ (input : Collections.RecordPaymentInput) (invoice : Invoice) (collection : Option Collection)
    (i : Input), ∀ r ∈ w.invoices.get? input.invoiceId, Outstanding r.status →
      invoice.buyerId = r.buyerId → invoice.faceValue = r.faceValue →
        Collections.executePaymentReceivedTxn cfg input invoice collection i w ≠ .error limitRefused

/-- The event takes the invoice out of the exposure or into it without the counter, or moves the counter
for an invoice that is no exposure. -/
def Drifts (e : Event) (r : Invoice) : Prop :=
  match e with
  | .paymentFunded p => p.invoiceId = r.id ∧ r.status = .approved
  | .invoiceWithdrawn invoiceId => invoiceId = r.id ∧ Outstanding r.status
  | .paymentReceived invoiceId _ _ => invoiceId = r.id ∧ ¬Outstanding r.status
  | .collectionResolved _ invoiceId prevStatus =>
    invoiceId = r.id ∧ r.status = Collections.resolvedFrom prevStatus ∧ Outstanding r.status
  | .collectionDefaulted _ invoiceId => invoiceId = r.id ∧ r.status = .overdue
  | _ => False

instance (e : Event) (r : Invoice) : Decidable (Drifts e r) := by
  apply Event.casesOn (motive := fun e => Decidable (Drifts e r)) e <;> intros <;>
    first | exact instDecidableFalse | exact instDecidableAnd

/-- No step is one of those. -/
def Booked : Cond World Event := fun s _ e => ∀ r ∈ s.store.invoices.rows, ¬Drifts e r

instance (s : State World Event) (t : ℕ) (e : Event) : Decidable (Booked s t e) := by
  unfold Booked
  infer_instance

/-! ## Invoice rows -/

section Rows

variable {e : Event} {r r' r'' : Invoice}

theorem Outstanding.ne_draft (h : Outstanding r.status) : r.status ≠ .draft := by
  intro hdraft
  rw [hdraft] at h
  exact absurd h (by decide)

theorem Early.not_outstanding {status : InvoiceStatus} (h : Early status) (hne : status ≠ .collected) :
    ¬Outstanding status := by
  rcases h with rfl | rfl | rfl | rfl
  · decide
  · decide
  · decide
  · exact absurd rfl hne

theorem Traced.not_outstanding (h : Traced r) (hnone : r.buyerConfirmedAt = none) :
    ¬Outstanding r.status := by
  have hearly := h hnone
  by_cases hcollected : r.status = .collected
  · rw [hcollected]
    decide
  · exact hearly.not_outstanding hcollected

/-- The identity of an invoice and, once it is submitted, its face value stay. -/
structure Kept (r r' : Invoice) : Prop where
  id : r'.id = r.id
  buyerId : r'.buyerId = r.buyerId
  uraEfrisRef : r'.uraEfrisRef = r.uraEfrisRef
  submitted : r.status ≠ .draft → r'.status ≠ .draft
  faceValue : r.status ≠ .draft → r'.faceValue = r.faceValue

/-- What an event other than a payment may do to an invoice. -/
structure Steps (e : Event) (r r' : Invoice) : Prop extends Kept r r' where
  traced : Traced r → Traced r'
  outstanding : Traced r → ¬Drifts e r → (Outstanding r'.status ↔ Outstanding r.status)

/-- None of the columns in question changes. -/
structure SameRow (r r' : Invoice) : Prop where
  id : r'.id = r.id
  buyerId : r'.buyerId = r.buyerId
  uraEfrisRef : r'.uraEfrisRef = r.uraEfrisRef
  status : r'.status = r.status
  faceValue : r'.faceValue = r.faceValue
  buyerConfirmedAt : r'.buyerConfirmedAt = r.buyerConfirmedAt

theorem SameRow.refl (r : Invoice) : SameRow r r := ⟨rfl, rfl, rfl, rfl, rfl, rfl⟩

theorem SameRow.traced_iff (h : SameRow r r') : Traced r' ↔ Traced r := by
  rw [Traced, Traced, h.buyerConfirmedAt, h.status]

theorem SameRow.drifts_iff (h : SameRow r r') : Drifts e r' ↔ Drifts e r := by
  cases e <;> simp only [Drifts, h.id, h.status]

theorem SameRow.steps (h : SameRow r r') : Steps e r r' where
  id := h.id
  buyerId := h.buyerId
  uraEfrisRef := h.uraEfrisRef
  submitted hr := by rwa [h.status]
  faceValue _ := h.faceValue
  traced := h.traced_iff.2
  outstanding _ _ := by rw [h.status]

theorem Steps.refl (r : Invoice) : Steps e r r := (SameRow.refl r).steps

/-- Other columns are written before the step, -/
theorem SameRow.trans_steps (h : SameRow r r') (h' : Steps e r' r'') : Steps e r r'' where
  id := h'.id.trans h.id
  buyerId := h'.buyerId.trans h.buyerId
  uraEfrisRef := h'.uraEfrisRef.trans h.uraEfrisRef
  submitted hr := by
    apply h'.submitted
    rwa [h.status]
  faceValue hr := by
    rw [← h.faceValue]
    apply h'.faceValue
    rwa [h.status]
  traced hr := h'.traced (h.traced_iff.2 hr)
  outstanding hr hbooked := by
    rw [← h.status]
    exact h'.outstanding (h.traced_iff.2 hr) fun hdrift => hbooked (h.drifts_iff.1 hdrift)

/-- or after it. -/
theorem Steps.trans_same (h : Steps e r r') (h' : SameRow r' r'') : Steps e r r'' where
  id := h'.id.trans h.id
  buyerId := h'.buyerId.trans h.buyerId
  uraEfrisRef := h'.uraEfrisRef.trans h.uraEfrisRef
  submitted hr := by
    rw [h'.status]
    exact h.submitted hr
  faceValue hr := h'.faceValue.trans (h.faceValue hr)
  traced hr := h'.traced_iff.2 (h.traced hr)
  outstanding hr hbooked := by
    rw [h'.status]
    exact h.outstanding hr hbooked

/-- A status that only a confirmed invoice has is left for another one. -/
theorem Steps.moved {new : InvoiceStatus} {now : ℤ} (hr : ¬Early r.status) (hnew : new ≠ .draft)
    (hdrift : ¬Drifts e r → (Outstanding new ↔ Outstanding r.status)) :
    Steps e r (Payments.setInvoiceStatus new now r) where
  id := rfl
  buyerId := rfl
  uraEfrisRef := rfl
  submitted _ := hnew
  faceValue _ := rfl
  traced h hnone := absurd (h hnone) hr
  outstanding _ h := hdrift h

/-- Between two statuses that are no exposure. -/
theorem Steps.moved_of_not {new : InvoiceStatus} {now : ℤ} (hr : ¬Early r.status) (hnew : new ≠ .draft)
    (hold : ¬Outstanding r.status) (hout : ¬Outstanding new) :
    Steps e r (Payments.setInvoiceStatus new now r) :=
  .moved hr hnew fun _ => iff_of_false hout hold

/-- What the invoice adds stays, unless the event drifts. -/
theorem Steps.exposureOf (h : Steps e r r') (hr : Traced r) (hbooked : ¬Drifts e r) (buyerId : ℕ) :
    exposureOf buyerId r' = exposureOf buyerId r := by
  have hout := h.outstanding hr hbooked
  by_cases hr : Outstanding r.status
  · simp only [Exposure.exposureOf, h.buyerId, hout, h.faceValue hr.ne_draft]
  · simp only [Exposure.exposureOf, hout, hr, and_false, if_false]

end Rows

/-! ## Effects -/

/-- What was read of an invoice past `draft` is what its row has. -/
def Seen (invoice : Invoice) (w : World) : Prop :=
  invoice.status ≠ .draft → ∃ r, w.invoices.get? invoice.id = some r ∧ r.status ≠ .draft ∧
    r.buyerId = invoice.buyerId ∧ r.faceValue = invoice.faceValue

/-- A new invoice. -/
structure IsNew (r : Invoice) : Prop where
  status : r.status = .draft ∨ r.status = .submitted

/-- What an event may do: rows of invoices are stepped, one is new, or one is paid. -/
inductive Effect (w : World) (e : Event) (w' : World) : Prop
  | rows (hrows : w.invoices.Rowwise (Steps e) w'.invoices) (hbuyers : w'.buyers = w.buyers)
      (hscores : ∀ invoiceId riskScoreId, Pricing.ScoreOf w invoiceId riskScoreId →
        Pricing.ScoreOf w' invoiceId riskScoreId)
  | new (r : Invoice) (T : Table Invoice.id) (hr : IsNew r) (hinsert : w.invoices.insert? r = some T)
      (hrows : T.Rowwise (Steps e) w'.invoices) (hquiet : ∀ x, ¬Drifts e x)
      (hbuyers : w'.buyers = w.buyers) (hscores : w'.riskScores = w.riskScores)
  | paid (input : Collections.RecordPaymentInput) (invoice : Invoice) (collectionId : ℕ) (now : ℤ)
      (he : e = .paymentReceived input.invoiceId collectionId input.amount)
      (hid : invoice.id = input.invoiceId) (hseen : Seen invoice w)
      (hpays : Collections.Pays input invoice collectionId now w w')

section Effects

variable {w w' : World} {e : Event} {r : Invoice} {T : Table Invoice.id}

theorem Effect.silent (hinvoices : w'.invoices = w.invoices) (hbuyers : w'.buyers = w.buyers)
    (hscores : w'.riskScores = w.riskScores) : Effect w e w' := by
  refine .rows ?_ hbuyers fun _ _ h => by rwa [Pricing.ScoreOf, hscores]
  rw [hinvoices]
  exact .refl .refl _

theorem Effect.of_same (hinvoices : w.invoices.Rowwise SameRow w'.invoices)
    (hbuyers : w'.buyers = w.buyers)
    (hscores : ∀ invoiceId riskScoreId, Pricing.ScoreOf w invoiceId riskScoreId →
      Pricing.ScoreOf w' invoiceId riskScoreId) : Effect w e w' :=
  .rows (hinvoices.imp fun _ _ h => h.steps) hbuyers hscores

/-- The rows that match are stepped. -/
theorem steps_update {p : Invoice → Bool} {f : Invoice → Invoice} (hf : ∀ r, (f r).id = r.id)
    (hstep : ∀ r ∈ T.rows, p r = true → Steps e r (f r)) : T.Rowwise (Steps e) (T.update p f hf) :=
  Table.rowwise_update hstep fun r _ _ => .refl r

/-- Other columns of the rows that match are written. -/
theorem sameRow_update {p : Invoice → Bool} {f : Invoice → Invoice} (hf : ∀ r, (f r).id = r.id)
    (hsame : ∀ r, SameRow r (f r)) : T.Rowwise SameRow (T.update p f hf) :=
  Table.rowwise_update (fun r _ _ => hsame r) fun r _ _ => .refl r

/-- A move from a status that only confirmed invoices have, between two that are no exposure. -/
theorem steps_moveById {invoiceId : ℕ} {expected new : InvoiceStatus} {now : ℤ}
    (hexpected : ¬Early expected ∧ ¬Outstanding expected) (hnew : new ≠ .draft ∧ ¬Outstanding new) :
    T.Rowwise (Steps e) (Pricing.moveById invoiceId expected new now T) := by
  refine Table.rowwise_update (fun r _ hmatch => ?_) fun r _ _ => .refl r
  obtain ⟨-, rfl⟩ := of_decide_eq_true hmatch
  exact .moved_of_not hexpected.1 hnew.1 hexpected.2 hnew.2

/-- A flag, and nothing else, is set on some rows. -/
theorem steps_flagAbove {cfg : Config} {T' : Table Invoice.id} {faceValue : ℤ} {invoiceId : ℕ}
    (h : T.Rowwise (Steps e) T') : T.Rowwise (Steps e) (Invoices.flagAbove cfg faceValue invoiceId T') := by
  unfold Invoices.flagAbove
  split
  · exact h.trans (sameRow_update (Invoices.id_setAmlFlag true) fun r => ⟨rfl, rfl, rfl, rfl, rfl, rfl⟩)
      fun _ _ _ => .trans_same
  · exact h

/-- The effects of the invoices service. -/
theorem Effect.of_invoices {cfg : Config} {Drafted : ℕ → World → Prop}
    (h : Invoices.Effect cfg Drafted w e w') : Effect w e w' := by
  cases h with
  | read => exact .silent rfl rfl rfl
  | submitted data now invoices auditLogs href hinsert =>
    exact .new _ invoices ⟨Or.inr rfl⟩ hinsert (steps_flagAbove (.refl .refl _)) (fun _ h => h) rfl rfl
  | saved data now invoices hinsert =>
    exact .new _ invoices ⟨Or.inl rfl⟩ hinsert (.refl .refl _) (fun _ h => h) rfl rfl
  | updated invoiceId supplierId fields =>
    refine .rows (steps_update (Invoices.id_setDraftFields fields) fun r _ hmatch => ?_) rfl
      fun _ _ h => h
    obtain ⟨-, -, hdraft⟩ := of_decide_eq_true hmatch
    exact
      { id := rfl
        buyerId := rfl
        uraEfrisRef := rfl
        submitted := fun h => h
        faceValue := fun h => absurd hdraft h
        traced := fun h => h
        outstanding := fun _ _ => Iff.rfl }
  | promoted invoiceId faceValue now entry hdraft =>
    refine .rows (steps_flagAbove (steps_update (Invoices.id_setSubmitted now) fun r _ hmatch => ?_)) rfl
      fun _ _ h => h
    obtain ⟨-, hdraft⟩ := of_decide_eq_true hmatch
    exact
      { id := rfl
        buyerId := rfl
        uraEfrisRef := rfl
        submitted := fun h => absurd hdraft h
        faceValue := fun h => absurd hdraft h
        traced := fun _ _ => Or.inr (Or.inl rfl)
        outstanding := fun _ _ => by
          rw [hdraft]
          exact iff_of_false (by decide : ¬Outstanding .submitted) (by decide) }
  | withdrawn invoiceId entry =>
    refine .rows (steps_update Invoices.id_setWithdrawn fun r _ hmatch => ?_) rfl fun _ _ h => h
    have hid : r.id = invoiceId := of_decide_eq_true hmatch
    have hout : ¬Outstanding (Invoices.setWithdrawn r).status :=
      (by decide : ¬Outstanding .withdrawn)
    exact
      { id := rfl
        buyerId := rfl
        uraEfrisRef := rfl
        submitted := fun _ => by simp [Invoices.setWithdrawn]
        faceValue := fun _ => rfl
        traced := fun _ _ => Or.inr (Or.inr (Or.inl rfl))
        outstanding := fun _ hbooked => iff_of_false hout fun h => hbooked ⟨hid.symm, h⟩ }

/-- The effects of the verification service. -/
theorem Effect.of_verification (h : Verification.Effect w e w') : Effect w e w' := by
  cases h with
  | tokenGenerated invoiceId token expiresAt entry =>
    refine .of_same (sameRow_update (Verification.id_setToken token expiresAt) fun r => ?_) rfl
      fun _ _ h => h
    exact ⟨rfl, rfl, rfl, rfl, rfl, rfl⟩
  | confirmed invoiceId now entry href =>
    refine .rows (steps_update (Verification.id_setConfirmed now) fun r _ hmatch => ?_) rfl
      fun _ _ h => h
    obtain ⟨-, hnone⟩ := of_decide_eq_true hmatch
    have hout : ¬Outstanding (Verification.setConfirmed now r).status :=
      (by decide : ¬Outstanding .buyerConfirmed)
    exact
      { id := rfl
        buyerId := rfl
        uraEfrisRef := rfl
        submitted := fun _ => by simp [Verification.setConfirmed]
        faceValue := fun _ => rfl
        traced := fun _ h => by cases h
        outstanding := fun hr _ => iff_of_false hout (hr.not_outstanding hnone) }
  | disputed invoiceId disputeId disputes entry => exact .silent rfl rfl rfl

/-- The effect of the risk engine. -/
theorem Effect.of_riskEngine (h : RiskEngine.Effect w e w') : Effect w e w' := by
  cases h with
  | scored result id riskScores now hinsert =>
    refine .rows (steps_moveById (by decide) ?_) rfl ?_
    · unfold RiskEngine.scoredStatus
      split <;> decide
    · rintro invoiceId riskScoreId ⟨r, hr, hid, hinvoice⟩
      exact ⟨r, (Table.mem_insert? hinsert).2 (Or.inl hr), hid, hinvoice⟩

/-- The effect of a clearance. -/
theorem Effect.of_compliance (h : Compliance.Effect w e w') : Effect w e w' := by
  cases h with
  | cleared invoiceId officerId reason now entry =>
    refine .of_same (sameRow_update (Compliance.id_setCleared officerId reason now) fun r => ?_) rfl
      fun _ _ h => h
    exact ⟨rfl, rfl, rfl, rfl, rfl, rfl⟩

/-- The effects of the pricing service. -/
theorem Effect.of_pricing (h : Pricing.Effect w e w') : Effect w e w' := by
  have hscores : ∀ i k, Pricing.ScoreOf w i k → Pricing.ScoreOf w' i k := fun _ _ => h.scoreOf
  cases h with
  | read | threw | logged | enqueued | leftJobs => exact .silent rfl rfl rfl
  | priced invoiceId riskScoreId input now _ =>
    have hamounts := sameRow_update (T := w.invoices) (p := fun r => r.id = invoiceId)
      (Pricing.id_setAmounts (Pricing.pricingUpdate input)) fun r => ⟨rfl, rfl, rfl, rfl, rfl, rfl⟩
    exact .rows (hamounts.trans (steps_moveById (by decide) (by decide)) fun _ _ _ => SameRow.trans_steps) rfl
      hscores
  | accepted invoiceId userId req now =>
    exact .of_same (sameRow_update (Pricing.id_setAccepted userId now) fun r =>
      ⟨rfl, rfl, rfl, rfl, rfl, rfl⟩) rfl hscores
  | rejected invoiceId userId reason req now =>
    have hreason := sameRow_update (T := w.invoices) (p := fun r => r.id = invoiceId)
      (Pricing.id_setRejected reason now) fun r => ⟨rfl, rfl, rfl, rfl, rfl, rfl⟩
    exact .rows (hreason.trans (steps_moveById (by decide) (by decide)) fun _ _ _ => SameRow.trans_steps) rfl
      hscores
  | disputed invoiceId userId payload req now =>
    exact .of_same (sameRow_update (Pricing.id_setDisputed now) fun r =>
      ⟨rfl, rfl, rfl, rfl, rfl, rfl⟩) rfl hscores

/-- A decision of the approvals service. -/
theorem Effect.of_approvals (h : Approvals.Writes w e w') : Effect w e w' := by
  refine .rows (h.invoices.imp ?_) (by rw [h.frame]) fun _ _ hscore => by rwa [h.frame]
  rintro r r' ⟨hcolumns, hstatus⟩
  have hid := congrArg Invoice.id hcolumns
  have hbuyer := congrArg Invoice.buyerId hcolumns
  have href := congrArg Invoice.uraEfrisRef hcolumns
  have hface := congrArg Invoice.faceValue hcolumns
  have hconfirmed := congrArg Invoice.buyerConfirmedAt hcolumns
  rcases hstatus with hsame | ⟨hpriced, hnew⟩
  · exact SameRow.steps ⟨hid, hbuyer, href, hsame, hface, hconfirmed⟩
  · have hnew' : r'.status ≠ .draft ∧ ¬Outstanding r'.status := by
      rcases hnew with hnew | hnew
      · rw [hnew]
        decide
      · rw [hnew]
        decide
    refine ⟨⟨hid, hbuyer, href, fun _ => hnew'.1, fun _ => hface⟩, fun hr hnone => ?_, fun _ _ => ?_⟩
    · have hearly := hr (hconfirmed.symm.trans hnone)
      rw [hpriced] at hearly
      exact absurd hearly (by decide)
    · rw [hpriced]
      exact iff_of_false hnew'.2 (by decide)

/-- A write of the payments service. -/
theorem Effect.of_payments (h : Payments.Writes w e w') : Effect w e w' := by
  refine .rows (h.invoices.imp ?_) (by rw [h.frame]) fun _ _ hscore => by rwa [h.frame]
  intro r r' hstep
  cases hstep with
  | same => exact .refl r
  | initiated p now he hid hstatus =>
    have hr : ¬Early r.status ∧ ¬Outstanding r.status := by
      rw [hstatus]
      decide
    exact .moved_of_not hr.1 (by decide) hr.2 (by decide)
  | funded p now he hid hstatus =>
    cases he
    have hr : ¬Early r.status := by
      rw [hstatus]
      decide
    exact .moved hr (by decide) fun hbooked => absurd ⟨hid, hstatus⟩ hbooked

/-- A conditional move, as the events of the collections service make it. -/
theorem steps_moveIf {invoiceId : ℕ} {expected new : InvoiceStatus} {now : ℤ}
    (hexpected : ¬Early expected)
    (hnew : new ≠ .draft)
    (hout : ¬Drifts e r → invoiceId = r.id → r.status = expected → (Outstanding new ↔ Outstanding expected)) :
    Steps e r (Payments.setInvoiceStatus
      (if invoiceId = r.id ∧ r.status = expected then new else r.status) now r) := by
  by_cases hmatch : invoiceId = r.id ∧ r.status = expected
  · rw [if_pos hmatch]
    obtain ⟨hid, rfl⟩ := hmatch
    exact .moved hexpected hnew fun hbooked => hout hbooked hid rfl
  · rw [if_neg hmatch]
    exact SameRow.steps ⟨rfl, rfl, rfl, rfl, rfl, rfl⟩

/-- The collections service takes a funded invoice on until it is overdue; from there it drifts. -/
theorem steps_next {now : ℤ}
    (hunpaid : ∀ invoiceId collectionId amount, e ≠ .paymentReceived invoiceId collectionId amount) :
    Steps e r (Payments.setInvoiceStatus (Collections.nextInvoiceStatus e r.id r.status) now r) := by
  cases e with
  | paymentReceived invoiceId collectionId amount => exact absurd rfl (hunpaid _ _ _)
  | collectionStarted collectionId invoiceId =>
    exact steps_moveIf (by decide) (by decide) fun _ _ _ => by decide
  | collectionOverdue collectionId invoiceId =>
    exact steps_moveIf (by decide) (by decide) fun _ _ _ => by decide
  | collectionResolved collectionId invoiceId prevStatus =>
    have hexpected : ¬Early (Collections.resolvedFrom prevStatus) := by cases prevStatus <;> decide
    refine steps_moveIf hexpected (by decide) fun hbooked hid hstatus => iff_of_false (by decide) ?_
    rw [← hstatus]
    exact fun hout => hbooked ⟨hid, hstatus, hout⟩
  | collectionDefaulted collectionId invoiceId =>
    exact steps_moveIf (by decide) (by decide) fun hbooked hid hstatus => absurd ⟨hid, hstatus⟩ hbooked
  | _ => exact SameRow.steps ⟨rfl, rfl, rfl, rfl, rfl, rfl⟩

/-- A write of the collections service other than a payment. -/
theorem Effect.of_collections (h : Collections.Touches w e w') : Effect w e w' := by
  refine .rows (h.invoices.imp ?_) (by rw [h.frame]) fun _ _ hscore => by rwa [h.frame]
  intro r r' hstep
  cases hstep with
  | same => exact .refl r
  | moved new now hnew =>
    subst hnew
    exact steps_next h.unpaid

/-- Every row of an invoice that was there keeps its identity. -/
theorem Effect.kept (h : Effect w e w') (hr : r ∈ w.invoices.rows) :
    ∃ r' ∈ w'.invoices.rows, Kept r r' := by
  cases h with
  | rows hrows =>
    obtain ⟨r', hr', hstep⟩ := hrows.exists_of_mem_left hr
    exact ⟨r', hr', hstep.toKept⟩
  | new x T hx hinsert hrows =>
    obtain ⟨r', hr', hstep⟩ := hrows.exists_of_mem_left ((Table.mem_insert? hinsert).2 (Or.inl hr))
    exact ⟨r', hr', hstep.toKept⟩
  | paid input invoice collectionId now he hid hseen hpays =>
    rw [hpays.invoices]
    by_cases hmatch : r.id = input.invoiceId ∧ r.status = invoice.status
    · refine ⟨Payments.setInvoiceStatus .collected now r, Table.mem_update.2 ⟨r, hr, ?_⟩, ?_⟩
      · rw [if_pos (decide_eq_true hmatch)]
      · exact ⟨rfl, rfl, rfl, fun _ => by simp [Payments.setInvoiceStatus], fun _ => rfl⟩
    · refine ⟨r, Table.mem_update.2 ⟨r, hr, ?_⟩, ⟨rfl, rfl, rfl, fun h => h, fun _ => rfl⟩⟩
      rw [if_neg (by simpa using hmatch)]

theorem Effect.kept_get? (h : Effect w e w') {invoiceId : ℕ} (hr : w.invoices.get? invoiceId = some r) :
    ∃ r', w'.invoices.get? invoiceId = some r' ∧ Kept r r' := by
  obtain ⟨r', hr', hkept⟩ := h.kept (Table.mem_of_get? hr)
  refine ⟨r', ?_, hkept⟩
  rw [← Table.key_of_get? hr, ← hkept.id]
  exact Table.get?_of_mem hr'

/-- What was read of an invoice stays so. -/
theorem Seen.effect {invoice : Invoice} (h : Seen invoice w) (heff : Effect w e w') :
    Seen invoice w' := by
  intro hne
  obtain ⟨r, hr, hsubmitted, hbuyer, hface⟩ := h hne
  obtain ⟨r', hr', hkept⟩ := heff.kept_get? hr
  exact ⟨r', hr', hkept.submitted hsubmitted, hkept.buyerId.trans hbuyer,
    (hkept.faceValue hsubmitted).trans hface⟩

/-- An invoice with a reference keeps it. -/
theorem Effect.referenced (h : Effect w e w') {invoiceId : ℕ}
    (href : Verification.Referenced invoiceId w) : Verification.Referenced invoiceId w' := by
  obtain ⟨r, hr, hne⟩ := href
  obtain ⟨r', hr', hkept⟩ := h.kept_get? hr
  exact ⟨r', hr', by rwa [hkept.uraEfrisRef]⟩

theorem Effect.scoreOf (h : Effect w e w') {invoiceId riskScoreId : ℕ}
    (hscore : Pricing.ScoreOf w invoiceId riskScoreId) : Pricing.ScoreOf w' invoiceId riskScoreId := by
  cases h with
  | rows hrows hbuyers hscores => exact hscores _ _ hscore
  | new x T hx hinsert hrows hquiet hbuyers hscores => rwa [Pricing.ScoreOf, hscores]
  | paid input invoice collectionId now he hid hseen hpays => rwa [Pricing.ScoreOf, hpays.rest]

end Effects

/-! ## The ledger after a step -/

section Ledger

variable {w w' : World} {e : Event} {r : Invoice} {T T' : Table Invoice.id}

theorem IsNew.not_outstanding (h : IsNew r) : ¬Outstanding r.status := by
  rcases h.status with hstatus | hstatus
  · rw [hstatus]
    decide
  · rw [hstatus]
    decide

theorem IsNew.sound (h : IsNew r) : Sound r where
  traced _ := by
    rcases h.status with hstatus | hstatus
    · exact Or.inl hstatus
    · exact Or.inr (Or.inl hstatus)
  positive hout := absurd hout h.not_outstanding

theorem Steps.sound {r' : Invoice} (h : Steps e r r') (hr : Sound r) (hbooked : ¬Drifts e r) :
    Sound r' where
  traced := h.traced hr.traced
  positive hout := by
    have hold : Outstanding r.status := (h.outstanding hr.traced hbooked).1 hout
    rw [h.faceValue hold.ne_draft]
    exact hr.positive hold

/-- Steps that do not drift keep the rows sound and every exposure. -/
theorem steps_ledger (hrows : T.Rowwise (Steps e) T') (hsound : ∀ r ∈ T.rows, Sound r)
    (hbooked : ∀ r ∈ T.rows, ¬Drifts e r) :
    (∀ r ∈ T'.rows, Sound r) ∧ ∀ buyerId, T'.sum (exposureOf buyerId) = T.sum (exposureOf buyerId) := by
  refine ⟨fun r' hr' => ?_, fun buyerId => ?_⟩
  · obtain ⟨r, hr, hstep⟩ := hrows.exists_of_mem hr'
    exact hstep.sound (hsound r hr) (hbooked r hr)
  · refine hrows.with_mem.sum_eq fun r r' hstep => ?_
    exact hstep.2.exposureOf (hsound r hstep.1).traced (hbooked r hstep.1) buyerId

/-- The counters stay when nobody writes to the buyers and every exposure is kept. -/
theorem Ledger.of_exposure (h : Ledger w) (hbuyers : w'.buyers = w.buyers)
    (hsound : ∀ r ∈ w'.invoices.rows, Sound r)
    (hexposure : ∀ buyerId, exposure w' buyerId = exposure w buyerId) : Ledger w' where
  balanced b hb := by
    rw [hbuyers] at hb
    rw [hexposure]
    exact h.balanced b hb
  within b hb := by
    rw [hbuyers] at hb
    exact h.within b hb
  sound := hsound

/-- The counter of a payment's buyer falls by the face value. -/
theorem buyer_paid {input : Collections.RecordPaymentInput} {invoice : Invoice}
    {collectionId : ℕ} {now : ℤ}
    (h : Collections.Pays input invoice collectionId now w w') {b' : Buyer} (hb' : b' ∈ w'.buyers.rows) :
    ∃ b ∈ w.buyers.rows, b'.id = b.id ∧ b'.approvedLimit = b.approvedLimit ∧
      b'.usedLimit = b.usedLimit - if b.id = invoice.buyerId then invoice.faceValue else 0 := by
  rw [h.buyers] at hb'
  obtain ⟨b₁, hb₁, rfl⟩ := Table.mem_update.1 hb'
  obtain ⟨b, hb, rfl⟩ := Table.mem_update.1 hb₁
  refine ⟨b, hb, ?_⟩
  by_cases hid : b.id = invoice.buyerId
  · simp [hid, Collections.Repo.subUsedLimit, Collections.Repo.adjustScore]
  · simp [hid]

/-- A payment of an outstanding invoice takes it out of the exposure and off the counter. -/
theorem Ledger.paid (h : Ledger w) {input : Collections.RecordPaymentInput} {invoice : Invoice}
    {collectionId : ℕ} {now : ℤ} (hpays : Collections.Pays input invoice collectionId now w w')
    (hr : w.invoices.get? input.invoiceId = some r) (hstatus : r.status = invoice.status)
    (hout : Outstanding r.status) (hbuyer : r.buyerId = invoice.buyerId)
    (hface : r.faceValue = invoice.faceValue) : Ledger w' := by
  have hmem := Table.mem_of_get? hr
  have hpositive := (h.sound r hmem).positive hout
  have hexposure : ∀ buyerId, exposure w' buyerId = exposure w buyerId - exposureOf buyerId r := by
    intro buyerId
    have hcollected : exposureOf buyerId (Payments.setInvoiceStatus .collected now r) = 0 :=
      if_neg fun hpaid => absurd hpaid.2 (by decide : ¬Outstanding .collected)
    have hmatch : decide (r.id = input.invoiceId ∧ r.status = invoice.status) = true :=
      decide_eq_true ⟨Table.key_of_get? hr, hstatus⟩
    rw [exposure, hpays.invoices,
      Table.sum_update_key hr (fun x hx => (of_decide_eq_true hx).1) hmatch, hcollected, add_zero]
    rfl
  refine ⟨fun b' hb' => ?_, fun b' hb' => ?_, fun r' hr' => ?_⟩
  · obtain ⟨b, hb, hid, -, hused⟩ := buyer_paid hpays hb'
    rw [hused, hid, hexposure, h.balanced b hb, exposureOf, hbuyer, hface]
    simp only [hout, and_true, eq_comm]
  · obtain ⟨b, hb, -, hlimit, hused⟩ := buyer_paid hpays hb'
    have hwithin := h.within b hb
    rw [hused, hlimit, ← hface]
    split <;> omega
  · rw [hpays.invoices] at hr'
    obtain ⟨x, hx, rfl⟩ := Table.mem_update.1 hr'
    split
    · exact ⟨fun _ => Or.inr (Or.inr (Or.inr rfl)), fun hpaid =>
        absurd hpaid (by decide : ¬Outstanding .collected)⟩
    · exact h.sound x hx

/-- The step lemma. -/
theorem Ledger.effect (h : Ledger w) (heff : Effect w e w')
    (hbooked : ∀ r ∈ w.invoices.rows, ¬Drifts e r) :
    Ledger w' := by
  cases heff with
  | rows hrows hbuyers hscores =>
    obtain ⟨hsound, hexposure⟩ := steps_ledger hrows h.sound hbooked
    exact h.of_exposure hbuyers hsound hexposure
  | new r T hr hinsert hrows hquiet hbuyers hscores =>
    have hsound : ∀ x ∈ T.rows, Sound x := by
      intro x hx
      rcases (Table.mem_insert? hinsert).1 hx with hold | rfl
      · exact h.sound x hold
      · exact hr.sound
    obtain ⟨hsound', hexposure⟩ := steps_ledger hrows hsound fun x _ => hquiet x
    refine h.of_exposure hbuyers hsound' fun buyerId => ?_
    have hzero : exposureOf buyerId r = 0 := if_neg fun hnew => hr.not_outstanding hnew.2
    rw [exposure, hexposure, Table.sum_insert? hinsert, hzero, add_zero]
    rfl
  | paid input invoice collectionId now he hid hseen hpays =>
    obtain ⟨r, hstatus, hrow⟩ := hpays.moved
    have hout : Outstanding r.status := by
      by_contra hnot
      subst he
      exact hbooked r (Table.mem_of_get? hrow.before) ⟨(Table.key_of_get? hrow.before).symm, hnot⟩
    have hne : invoice.status ≠ .draft := by
      rw [← hstatus]
      exact hout.ne_draft
    obtain ⟨r₀, hr₀, -, hbuyer, hface⟩ := hseen hne
    rw [hid] at hr₀
    obtain rfl : r₀ = r := Option.some.inj (hr₀.symm.trans hrow.before)
    exact h.paid hpays hr₀ hstatus hout hbuyer hface

end Ledger

/-! ## Payments are recorded -/

/-- The statement fails for other reasons only. -/
def Spares {α : Type} (x : Tx α) : Prop := ∀ i w, x i w ≠ .error limitRefused

section Spares

variable {α β : Type}

theorem spares_bind {x : Tx α} {f : α → Tx β} (hx : Spares x) (hf : ∀ a, Spares (f a)) :
    Spares (x >>= f) := by
  intro i w h
  rcases Txn.bind_error.1 h with h | ⟨a, w₁, -, h⟩
  · exact hx i w h
  · exact hf a i w₁ h

theorem spares_of_ok {x : Tx α} (h : ∀ i w, ∃ r, x i w = .ok r) : Spares x := by
  intro i w he
  obtain ⟨r, hr⟩ := h i w
  rw [hr] at he
  cases he

theorem spares_abort {e : RisError} (h : e ≠ limitRefused) : Spares (Txn.abort e : Tx α) :=
  fun _ _ he => h (Except.error.inj he)

theorem spares_updateInvoiceStatus (invoiceId : ℕ) (new expected : InvoiceStatus) :
    Spares (Collections.Repo.updateInvoiceStatus invoiceId new expected) :=
  spares_of_ok fun _ _ => ⟨_, rfl⟩

theorem spares_assertInvoiceCollectedTransition (invoiceId : ℕ) (expected : InvoiceStatus) :
    Spares (Collections.assertInvoiceCollectedTransition invoiceId expected) := by
  refine spares_bind (spares_updateInvoiceStatus _ _ _) fun transitioned => ?_
  cases transitioned with
  | true => exact spares_of_ok fun _ _ => ⟨_, rfl⟩
  | false => exact spares_abort nofun

theorem spares_bigint (amount : ℤ) : Spares (monadLift (Collections.Repo.bigint amount) : Tx ℤ) := by
  intro i w h
  unfold Collections.Repo.bigint at h
  split at h
  · exact absurd (Except.error.inj h) (by decide)
  · cases h

theorem spares_recordPaymentReceived (collectionId : Option ℕ) (amount : ℤ)
    (paymentMethod : CollectionPaymentMethod) (paidBy : String) (paidAt : ℤ) (recordedBy : ℕ)
    (paymentReference notes : Option String) :
    Spares (Collections.Repo.recordPaymentReceived collectionId amount paymentMethod paidBy paidAt recordedBy
      paymentReference notes) := by
  refine spares_bind (spares_of_ok fun _ _ => ⟨_, rfl⟩) fun i => ?_
  refine spares_bind (spares_of_ok fun _ _ => ⟨_, rfl⟩) fun w => ?_
  cases collectionId with
  | none => exact spares_abort (by decide)
  | some collectionId =>
    refine spares_bind (spares_bigint amount) fun amount => ?_
    dsimp only
    unfold Collections.Repo.paymentViolation
    split
    · rename_i message hmessage
      apply spares_abort
      split at hmessage
      · cases hmessage
        decide
      · split at hmessage
        · cases hmessage
          decide
        · cases hmessage
    · split
      · exact spares_abort (by decide)
      · exact spares_of_ok fun _ _ => ⟨_, rfl⟩

theorem spares_resolvePaidCollection (collection : Option Collection) (amount : ℤ) :
    Spares (Collections.resolvePaidCollection collection amount) := by
  cases collection with
  | none => exact spares_of_ok fun _ _ => ⟨_, rfl⟩
  | some collection => exact spares_of_ok fun _ _ => ⟨_, rfl⟩

end Spares

/-- The counter of a buyer covers each of its outstanding invoices. -/
theorem Ledger.covers {w : World} (h : Ledger w) {r : Invoice} (hr : r ∈ w.invoices.rows)
    (hout : Outstanding r.status) {b : Buyer} (hb : w.buyers.get? r.buyerId = some b) :
    r.faceValue ≤ b.usedLimit := by
  have hid : b.id = r.buyerId := Table.key_of_get? hb
  have hterm : exposureOf b.id r = r.faceValue := if_pos ⟨hid.symm, hout⟩
  have hnonneg : ∀ n ∈ w.invoices.rows.map (exposureOf b.id), 0 ≤ n := by
    intro n hn
    obtain ⟨x, hx, rfl⟩ := List.mem_map.1 hn
    rw [exposureOf]
    split
    · next hexposed => exact (h.sound x hx).positive hexposed.2
    · exact le_rfl
  rw [h.balanced b (Table.mem_of_get? hb), ← hterm]
  exact List.single_le_sum hnonneg _ (List.mem_map_of_mem hr)

/-- With the ledger, the check on the counter refuses no payment of an outstanding invoice. -/
theorem Ledger.recordable {w : World} (h : Ledger w) (cfg : Config) : Recordable cfg w := by
  intro input invoice collection i r hr hout hbuyer hface herror
  have hr : w.invoices.get? input.invoiceId = some r := hr
  -- the statements before the counter's write to other tables, those after it have no such check
  rcases Txn.bind_error.1 herror with herror | ⟨_, w₁, hassert, herror⟩
  · exact spares_assertInvoiceCollectedTransition _ _ i w herror
  rcases Txn.bind_error.1 herror with herror | ⟨_, w₂, hpayment, herror⟩
  · exact spares_recordPaymentReceived _ _ _ _ _ _ _ _ i w₁ herror
  rcases Txn.bind_error.1 herror with herror | ⟨_, w₃, -, herror⟩
  · obtain ⟨_, _, -, -, -, -, -, hw₂⟩ := Collections.recordPaymentReceived_ok hpayment
    have hw₁ := (Collections.assertInvoiceCollectedTransition_ok hassert).1
    have hbuyers : w₂.buyers = w.buyers := by rw [hw₂, hw₁]
    simp only [Collections.Repo.reduceBuyerUsedLimit, Txn.bind_error, Txn.read_ok, id] at herror
    rcases herror with herror | ⟨_, _, ⟨rfl, rfl⟩, herror⟩
    · cases herror
    split at herror
    · next hnegative =>
      obtain ⟨b, hb, hnegative⟩ := hnegative
      rw [hbuyers, hbuyer] at hb
      have hcovers := h.covers (Table.mem_of_get? hr) hout hb
      omega
    · cases herror
  · refine spares_bind (spares_of_ok fun _ _ => ⟨_, rfl⟩) (fun _ => ?_) i w₃ herror
    refine spares_bind (spares_resolvePaidCollection _ _) fun _ => ?_
    exact spares_of_ok fun _ _ => ⟨_, rfl⟩

/-! ## The system follows the effects -/

/-- Effects depend on the store alone; a call may return at any time. -/
def protocol : Protocol World Event where
  inv _ := True
  effect s _ e d :=
    match e with
    | some event => Effect s.store event d
    | none => d = s.store
  inv_effect _ _ := trivial
  return_stable _ _ _ _ := rfl

theorem auditing : Auditing protocol where
  read _ _ := .silent rfl rfl rfl
  threw _ _ := .silent rfl rfl rfl
  logged _ _ _ := .silent rfl rfl rfl
  enqueued _ _ _ := .silent rfl rfl rfl
  leftJobs _ _ _ := .silent rfl rfl rfl
  audited _ _ _ := .silent rfl rfl rfl

/-- What every effect leaves, calls may rely on. -/
theorem steady_of_effect {P : World → Prop} (hP : ∀ w e w', Effect w e w' → P w → P w') :
    protocol.Steady fun s => P s.store := by
  intro s t e d _ h heff
  cases e with
  | some event => exact hP _ _ _ heff h
  | none =>
    obtain rfl : d = s.store := heff
    exact h

/-- Every operation follows the protocol. -/
theorem program_implements (cfg : Config) : protocol.Implements (program cfg) := by
  have hG := auditing
  have hscores : ∀ invoiceId riskScoreId, protocol.Steady fun s =>
      Pricing.ScoreOf s.store invoiceId riskScoreId :=
    fun _ _ => steady_of_effect fun _ _ _ heff => heff.scoreOf
  have hinvoices : Allows protocol (Invoices.Effect cfg fun _ _ => True) :=
    fun _ _ _ _ _ h => .of_invoices h
  have hseen : ∀ r, protocol.Steady fun s => Seen r s.store :=
    fun r => steady_of_effect fun _ _ _ heff h => h.effect heff
  have hfree : ∀ op, Free protocol (program cfg op) := by
    intro op
    cases op with
    | origination op =>
      cases op with
      | invoices op =>
        exact Invoices.free_program hG hinvoices (fun _ _ _ _ _ _ => trivial)
          (fun _ _ _ _ _ _ _ _ => trivial) op
      | verification op =>
        exact Verification.free_program hG (fun _ _ _ _ _ h => .of_verification h)
          (fun _ => steady_of_effect fun _ _ _ heff => heff.referenced) op
      | riskEngine op =>
        exact RiskEngine.free_program hG.toPermissive (fun _ _ _ _ _ h => .of_riskEngine h) op
      | compliance op =>
        exact Compliance.free_program hG.toPermissive (fun _ _ _ _ _ h => .of_compliance h) op
      | pricing op =>
        exact Pricing.free_program hG.toPermissive (fun _ _ _ _ _ h => .of_pricing h) hscores op
      | approvals op =>
        exact Approvals.free_program_of_allows hG.toPermissive (fun _ _ _ _ _ h => .of_approvals h) op
      | payments op =>
        exact Payments.free_program hG.toPermissive (fun _ _ _ _ _ h => .of_payments h) op
    | collections op =>
      refine Collections.free_program_of hG.toPermissive (fun _ _ _ _ _ h => .of_collections h)
        hseen ?_ ?_ ?_ op
      · intro s invoiceId r _ hr hne
        refine ⟨r, ?_, hne, rfl, rfl⟩
        rw [Table.key_of_get? hr]
        exact hr
      · intro s t input invoice collectionId now d _ hid _ hseen hpays
        exact .paid input invoice collectionId now rfl hid hseen hpays
      · exact fun _ _ _ _ => .silent rfl rfl rfl
  exact fun op t => (hfree op t).conseq (fun _ _ _ => trivial) (fun _ _ _ _ => rfl) fun _ _ _ _ => rfl

/-! ## Runs -/

/-- **The exposure ledger.** In every run from a store that keeps the ledger, none of whose steps moves
exposure without the counter or the counter without exposure, every state keeps it: each buyer's used limit
is the sum of the face values of the outstanding invoices and within the approved limit, and no payment of
an outstanding invoice is refused because the used limit would become negative. -/
theorem ledger_kept (cfg : Config) (w : World) (hw : Ledger w) (s : Sys World Input Event RisError)
    (hs : Reaches (program cfg) Booked (Sys.init w) s) : Ledger s.store ∧ Recordable cfg s.store := by
  have hledger : Ledger s.store := by
    refine Protocol.invariant (program_implements cfg) trivial (P := fun s => Ledger s.store) hw ?_ hs
    intro s t e d h hmove
    cases e with
    | none =>
      obtain rfl : d = s.store := hmove.effect
      exact h
    | some event => exact h.effect hmove.effect (hmove.cond event rfl)
  exact ⟨hledger, hledger.recordable cfg⟩

/-! ## Small worlds -/

/-- One confirmed invoice of 1,000 with its collection; the buyer's used limit is given. -/
def worldOf (status : InvoiceStatus) (usedLimit : ℤ) : World :=
  { Collections.exampleWorld status (Collections.exampleCollection 1 .overdue 1 0) with
    invoices := .single { Collections.exampleInvoice status with buyerConfirmedAt := some 0 }
    buyers := .single { id := 1, risMarginRate := mkRat 2 100, usedLimit, approvedLimit := 5000 } }

/-- The same before the invoice is funded: no collection yet, and its payment is about to be executed. -/
def payableWorld : World :=
  { worldOf .approved 0 with
    collections := .empty
    payments := .single
      { id := 1, invoiceId := 1, amount := 800, provider := .eft, status := .executing
        idempotencyKey := "K", dualAuthUser1 := some 1, dualAuthTimestamp1 := some 0
        dualAuthUser2 := some 2, dualAuthTimestamp2 := some 0, transactionReference := none
        providerReference := none, fundedAt := none, failureReason := none } }

/-- The payment of the invoice by its buyer. -/
def buyerPays : Collections.RecordPaymentInput := ⟨1, 1000, 0, 9, .bankTransfer, "Buyer", none, none⟩

/-- A collected invoice takes its 1,000 off the counter. -/
theorem ledger_kept_of_payment :
    ∃ s : Sys World Input Event RisError, s.store.buyers.rows.map Buyer.usedLimit = [0] ∧
      s.store.invoices.rows.map Invoice.status = [.collected] ∧ Ledger s.store ∧
        Recordable {} s.store := by
  obtain ⟨s, hs, hP⟩ := exists_reaches (program {}) Booked (Sys.init (worldOf .collecting 1000))
    (Act.call (.collections (.recordPaymentReceived buyerPays)) 0 (List.replicate 8 {}))
    (fun s => s.store.buyers.rows.map Buyer.usedLimit = [0] ∧
      s.store.invoices.rows.map Invoice.status = [.collected]) (by decide)
  obtain ⟨hused, hstatus⟩ := of_decide_eq_true hP
  exact ⟨s, hused, hstatus, ledger_kept {} (worldOf .collecting 1000) (by decide) s hs⟩

/-- The payment of the outstanding invoice 1 is refused for the counter. -/
def refusesPayment (cfg : Config) (w : World) : Bool :=
  (w.invoices.get? 1).any fun r => decide (Outstanding r.status) &&
    match Collections.executePaymentReceivedTxn cfg buyerPays r w.collections.rows.head? {} w with
    | .error e => decide (e = limitRefused)
    | .ok _ => false

theorem not_recordable {cfg : Config} {w : World} (h : refusesPayment cfg w = true) :
    ¬Recordable cfg w := by
  intro hrecordable
  obtain ⟨r, hr, h⟩ := (Option.any_eq_true _ _).1 h
  obtain ⟨hout, h⟩ := Bool.and_eq_true_iff.1 h
  apply hrecordable buyerPays r w.collections.rows.head? {} r hr (of_decide_eq_true hout) rfl rfl
  split at h
  · next herror => rw [herror, of_decide_eq_true h]
  · cases h

/-- The invoice is funded and its collection started, and the counter is still 0: the payment of the buyer
is refused. Resolved by hand, an overdue invoice leaves its 1,000 on the counter. -/
theorem counter_left_behind :
    (Ledger payableWorld ∧ ∃ s : Sys World Input Event RisError,
      Reaches (program { systemUserRefused := false }) always (Sys.init payableWorld) s ∧
        s.store.invoices.rows.map Invoice.status = [.collecting] ∧
        s.store.buyers.rows.map Buyer.usedLimit = [0] ∧ ¬Ledger s.store ∧
        ¬Recordable { systemUserRefused := false } s.store) ∧
      Ledger (worldOf .overdue 1000) ∧ ∃ s : Sys World Input Event RisError,
        Reaches (program {}) always (Sys.init (worldOf .overdue 1000)) s ∧
          s.store.invoices.rows.map Invoice.status = [.collected] ∧
          s.store.buyers.rows.map Buyer.usedLimit = [1000] ∧ ¬Ledger s.store := by
  obtain ⟨s₁, hs₁, hP₁⟩ := exists_reaches (program { systemUserRefused := false }) always
    (Sys.init payableWorld)
    (Act.call (.origination (.payments (.executePayment 1))) 0
        (List.replicate 8 { Payments.quietInput 0 "" with reply := Payments.transferred }) ++
      Act.call (.collections (.startCollectionMonitoring 1 1)) 1 (List.replicate 5 { uuid := 1 }))
    (fun s => s.store.invoices.rows.map Invoice.status = [.collecting] ∧
      s.store.buyers.rows.map Buyer.usedLimit = [0] ∧ ¬Ledger s.store ∧
        refusesPayment { systemUserRefused := false } s.store = true) (by decide +kernel)
  obtain ⟨s₂, hs₂, hP₂⟩ := exists_reaches (program {}) always (Sys.init (worldOf .overdue 1000))
    (Act.call (.collections (.resolveCollectionById 1 9)) 0 (List.replicate 3 {}))
    (fun s => s.store.invoices.rows.map Invoice.status = [.collected] ∧
      s.store.buyers.rows.map Buyer.usedLimit = [1000] ∧ ¬Ledger s.store) (by decide)
  obtain ⟨hfunded, hused, hbroken, hrefused⟩ := of_decide_eq_true hP₁
  exact ⟨⟨by decide, s₁, hs₁, hfunded, hused, hbroken, not_recordable hrefused⟩,
    by decide, s₂, hs₂, of_decide_eq_true hP₂⟩

end Ris.Exposure
