import RisPlatform.Approvals.Frame
import RisPlatform.Origination.Protocol
import RisPlatform.Payments.Conformance
import RisPlatform.Payments.Frame
import RisPlatform.Pricing.Protocol

/-!
# The three services follow the protocol

What each transaction between scoring and the payment row commits, as an effect on the tables of
origination, and then one triple for each function. Only `priceInvoice` and `initiatePayment` carry
something from a read to their transaction: the terms, and the advance amount of an approved invoice.
-/

namespace Ris.Origination

open Relational Concurrent Pricing

variable {w₀ w w' : World} {i : Input}

/-! ## Updates of `invoices` -/

/-- Assignments to the row with one id, as a step. -/
theorem invoiceStep_update {e : Event} {invoiceId : ℕ} {f : Invoice → Invoice}
    (hf : ∀ r, (f r).id = r.id) (he : e.invoice? = some invoiceId)
    (hstep : ∀ r : Invoice, r.id = invoiceId → InvoiceStep e r (f r)) :
    w.invoices.Rowwise (InvoiceStep e) (w.invoices.update (fun r => r.id = invoiceId) f hf) := by
  refine Table.rowwise_update ?_ ?_
  · intro r _ hid
    exact hstep r (of_decide_eq_true hid)
  · intro r _ hid
    refine .other ?_
    rw [he, Ne, Option.some.injEq]
    exact fun h => of_decide_eq_false hid h.symm

/-- A move of the status of the row with one id, as a step. -/
theorem invoiceStep_move {e : Event} {invoiceId : ℕ} {expected new : InvoiceStatus} {now : ℤ}
    (he : e.invoice? = some invoiceId)
    (hstep : ∀ r : Invoice, r.id = invoiceId → InvoiceStep e r (moveStatus expected new now r)) :
    w.invoices.Rowwise (InvoiceStep e)
      (w.invoices.update (fun r => r.id = invoiceId ∧ r.status = expected)
        (Payments.setInvoiceStatus new now) (Payments.id_setInvoiceStatus new now)) := by
  refine Table.rowwise_update ?_ ?_
  · intro r _ hmatch
    obtain ⟨hid, hstatus⟩ := of_decide_eq_true hmatch
    have hmoved := hstep r hid
    rwa [moveStatus, if_pos hstatus] at hmoved
  · intro r _ hmatch
    have hno : ¬(r.id = invoiceId ∧ r.status = expected) := of_decide_eq_false hmatch
    by_cases hid : r.id = invoiceId
    · have hkept := hstep r hid
      rwa [moveStatus, if_neg fun hstatus => hno ⟨hid, hstatus⟩] at hkept
    · refine .other ?_
      rw [he, Ne, Option.some.injEq]
      exact fun h => hid h.symm

/-- Assignments to a row and then the move of its status, as one step. -/
theorem invoiceStep_update_move {e : Event} {invoiceId : ℕ} {f : Invoice → Invoice}
    (hf : ∀ r, (f r).id = r.id) {expected new : InvoiceStatus} {now : ℤ}
    (he : e.invoice? = some invoiceId)
    (hstep : ∀ r : Invoice, r.id = invoiceId → InvoiceStep e r (moveStatus expected new now (f r))) :
    w.invoices.Rowwise (InvoiceStep e)
      ((w.invoices.update (fun r => r.id = invoiceId) f hf).update
        (fun r => r.id = invoiceId ∧ r.status = expected)
        (Payments.setInvoiceStatus new now) (Payments.id_setInvoiceStatus new now)) := by
  -- the row between the two updates
  let R : Invoice → Invoice → Prop := fun r r₁ => r₁ = if r.id = invoiceId then f r else r
  let S : Invoice → Invoice → Prop := fun r₁ r₂ =>
    r₂ = if r₁.id = invoiceId then moveStatus expected new now r₁ else r₁
  have hfirst : w.invoices.Rowwise R (w.invoices.update (fun r => r.id = invoiceId) f hf) :=
    Table.rowwise_update (fun r _ hid => by simp [R, of_decide_eq_true hid])
      fun r _ hid => by simp [R, of_decide_eq_false hid]
  refine hfirst.trans (S := S) ?_ ?_
  · refine Table.rowwise_update ?_ ?_
    · intro r _ hmatch
      obtain ⟨hid, hstatus⟩ := of_decide_eq_true hmatch
      simp [S, moveStatus, hid, hstatus]
    · intro r _ hmatch
      have hno : ¬(r.id = invoiceId ∧ r.status = expected) := of_decide_eq_false hmatch
      by_cases hid : r.id = invoiceId
      · simp [S, moveStatus, hid, show r.status ≠ expected from fun h => hno ⟨hid, h⟩]
      · simp [S, hid]
  · rintro r r₁ r₂ rfl rfl
    by_cases hid : r.id = invoiceId
    · simp only [hid, if_true, hf]
      exact hstep r hid
    · simp only [hid, if_false]
      refine .other ?_
      rw [he, Ne, Option.some.injEq]
      exact fun h => hid h.symm

/-- An effect of an event other than a pricing, an acceptance or a payment: the invoice rows step, the
other tables stay. -/
theorem Effect.of_invoices {e : Event}
    (hstep : w.invoices.Rowwise (InvoiceStep e) w'.invoices) (hscores : w'.riskScores = w.riskScores)
    (hpayments : w'.payments = w.payments) (hcreated : e.created? = none)
    (hpriced : ∀ invoiceId input, e ≠ .invoicePriced invoiceId input)
    (haccepted : ∀ invoiceId net, e ≠ .pricingAccepted invoiceId net) : Effect w₀ w e w' where
  invoices := hstep
  riskScores := by
    rw [hscores]
    exact .refl (fun _ => .other) _
  unpaid _ := hpayments
  paid p hp := by rw [hcreated] at hp; cases hp
  priced invoiceId input h := absurd h (hpriced invoiceId input)
  rescored invoiceId input h := absurd h (hpriced invoiceId input)
  shown invoiceId net h := absurd h (haccepted invoiceId net)

/-! ## Pricing -/

/-- The score of an invoice stays its own. -/
theorem Inv.scoreOf {invoiceId riskScoreId : ℕ} (h : Inv w₀ w)
    (hscore : ScoreOf w₀ invoiceId riskScoreId) :
    ∀ r ∈ w.riskScores.rows, r.id = riskScoreId → r.invoiceId = invoiceId := by
  obtain ⟨r₀, hr₀, hid₀, hinvoice₀⟩ := hscore
  intro r hr hid
  obtain ⟨r₁, hr₁, hsame⟩ := h.riskScores.exists_of_mem hr
  have hr₁₀ : r₁ = r₀ := Table.eq_of_mem hr₁ hr₀ (hsame.id.symm.trans (hid.trans hid₀.symm))
  rw [hsame.invoiceId, hr₁₀, hinvoice₀]

theorem Inv.exists_score {invoiceId riskScoreId : ℕ} (h : Inv w₀ w)
    (hscore : ScoreOf w₀ invoiceId riskScoreId) : ScoreOf w invoiceId riskScoreId := by
  obtain ⟨r₀, hr₀, hid₀, hinvoice₀⟩ := hscore
  obtain ⟨r, hr, hsame⟩ := h.riskScores.exists_of_mem_left hr₀
  exact ⟨r, hr, hsame.id.trans hid₀, hsame.invoiceId.trans hinvoice₀⟩

/-- A pricing as an effect. -/
theorem persistPricing_effect {invoiceId riskScoreId : ℕ} {input : PricingCalculationInput} {u : Unit}
    (hinv : Inv w₀ w) (hterms : Terms w₀ invoiceId input) (hscore : ScoreOf w₀ invoiceId riskScoreId)
    (h : persistPricingTxn invoiceId riskScoreId (pricingUpdate input) i w = .ok (u, w')) :
    Effect w₀ w (.invoicePriced invoiceId input) w' := by
  have hw' := persistPricingTxn_ok h
  have hscores : w'.riskScores = w.riskScores.update (fun r => r.id = riskScoreId)
      (setScorePricing (pricingUpdate input)) (id_setScorePricing _) := by rw [hw']
  refine ⟨?_, ?_, fun _ => (by rw [hw']), fun p hp => (by cases hp), ?_, ?_, fun _ _ he => (by cases he)⟩
  · rw [hw']
    refine invoiceStep_update_move (id_setAmounts _) rfl ?_
    rintro r rfl
    exact .priced input i.now rfl
  · rw [hscores]
    refine Table.rowwise_update (fun r hr hid => .priced input ?_) fun r _ _ => .other
    rw [hinv.scoreOf hscore r hr (of_decide_eq_true hid)]
  · rintro _ _ he
    cases he
    exact hterms
  · rintro _ _ he
    cases he
    obtain ⟨r, hr, hid, hinvoice⟩ := hinv.exists_score hscore
    refine ⟨setScorePricing (pricingUpdate input) r, ?_, hinvoice, by simp [setScorePricing]⟩
    rw [hscores, Table.mem_update]
    exact ⟨r, hr, by simp [hid]⟩

/-! ## The supplier's decision -/

/-- What the supplier decides, as an effect. -/
theorem Effect.of_decision {e : Event} (h : DecisionEffect w e w') : Effect w₀ w e w' := by
  obtain ⟨heff, hpriced⟩ := h
  cases heff with
  | read | threw | logged | enqueued | leftJobs => exact .silent rfl rfl rfl rfl
  | priced => exact absurd rfl (hpriced _ _)
  | accepted invoiceId userId req now net hnet =>
    refine ⟨?_, .refl (fun _ => .other) _, fun _ => rfl, fun p hp => (by cases hp),
      fun _ _ he => (by cases he), fun _ _ he => (by cases he), ?_⟩
    · refine invoiceStep_update (id_setAccepted userId now) rfl ?_
      rintro r rfl
      exact .accepted net userId now rfl
    · rintro _ _ he
      cases he
      exact hnet
  | rejected invoiceId userId reason req now =>
    refine .of_invoices ?_ rfl rfl rfl (fun _ _ => by simp) fun _ _ => by simp
    refine invoiceStep_update_move (id_setRejected reason now) rfl ?_
    rintro r rfl
    exact .rejected reason now rfl
  | disputed invoiceId userId payload req now row disputes =>
    refine .of_invoices ?_ rfl rfl rfl (fun _ _ => by simp) fun _ _ => by simp
    refine invoiceStep_update (id_setDisputed now) rfl ?_
    rintro r rfl
    exact .disputed now rfl

/-! ## Approval -/

/-- The commit of `executeApproval`. -/
theorem executeApprovalTxn_ok {cfg : Config} {invoice : Invoice} {riskScore : RiskScore}
    {tier : ApprovalTier} {approver : Approvals.Approver} {req : Request}
    {result : Approvals.ApprovalResult}
    (h : Approvals.executeApprovalTxn cfg invoice riskScore tier approver req i w
      = .ok (result, w')) :
    Effect w₀ w (if result.quorumReached then .invoiceApproved invoice.id approver.userId approver.role
      else .approvalRecorded invoice.id approver.userId approver.role) w' := by
  have hwrites := Approvals.executeApprovalTxn_ok h
  have hinvoices := hwrites.invoices
  cases hquorum : result.quorumReached with
  | false =>
    rw [hquorum, if_neg Bool.false_ne_true] at hinvoices
    exact .silent rfl hinvoices hwrites.riskScores (by rw [hwrites.frame])
  | true =>
    rw [hquorum, if_pos rfl] at hinvoices
    refine .of_invoices ?_ hwrites.riskScores (by rw [hwrites.frame]) rfl (fun _ _ => by simp)
      fun _ _ => by simp
    rw [if_pos rfl, hinvoices]
    refine invoiceStep_move rfl ?_
    intro r hid
    exact .approved approver.userId approver.role i.now (by rw [hid])

/-! ## The payment row -/

/-- The commit of `createPaymentTxn`. -/
theorem insertPaymentAndAuditWithClient_effect {invoiceId : ℕ} {invoice : Invoice}
    {provider : PaymentProvider} {result : Payment × Option ℕ}
    (hadvance : ∀ amount, invoice.advanceAmount = some amount → Advance w₀ invoiceId amount)
    (hfundable : Fundable w invoiceId)
    (h : Payments.insertPaymentAndAuditWithClient invoiceId invoice provider i w
      = .ok (result, w')) : Effect w₀ w (.paymentCreated result.1) w' := by
  obtain ⟨rfl, hcreates⟩ := Payments.insertPaymentAndAuditWithClient_ok h
  refine ⟨?_, ?_, fun hnone => (by cases hnone), ?_, fun _ _ he => (by cases he),
    fun _ _ he => (by cases he), fun _ _ he => by cases he⟩
  · rw [hcreates.invoices]
    refine invoiceStep_move rfl ?_
    intro r hid
    exact .initiated result.1 i.now rfl hid.symm
  · rw [hcreates.frame]
    exact .refl (fun _ => .other) _
  · rintro p hp
    obtain rfl := Option.some.inj hp
    refine ⟨hcreates.insert, hadvance _ hcreates.amount, ?_⟩
    -- no payment of the invoice was there
    rcases hfundable with happroved | ⟨q, hq, hpaid⟩
    · exact happroved
    · exact absurd hpaid (hcreates.invoice_fresh q hq)

/-! ## Triples of pricing -/

theorem yields_fetchAndValidateInvoice (w₀ : World) (invoiceId : ℕ) :
    Yields (protocol w₀) (fetchAndValidateInvoice invoiceId) fun invoice =>
      faceValueOf w₀ invoiceId = some invoice.faceValue := by
  refine Yields.bind (R := fun found => faceValueOf w₀ invoiceId = found.map Invoice.faceValue)
    (yields_query (permissive w₀) fun s hs => (hs.faceValue invoiceId).symm) ?_
  intro found hfound
  refine yields_lift ?_
  intro invoice hvalid
  rw [hfound]
  cases found with
  | none => cases hvalid
  | some r =>
    simp only [validateInvoice] at hvalid
    split at hvalid
    · cases hvalid
    · cases hvalid
      rfl

theorem yields_fetchAndValidateRiskScore (w₀ : World) (invoiceId : ℕ) :
    Yields (protocol w₀) (fetchAndValidateRiskScore invoiceId) fun score =>
      maxAdvancePctOf w₀ invoiceId = some score.maxAdvancePct ∧ ScoreOf w₀ invoiceId score.id := by
  refine Yields.bind (R := fun found =>
    maxAdvancePctOf w₀ invoiceId = found.map RiskScore.maxAdvancePct ∧
      ∀ r ∈ found, ScoreOf w₀ invoiceId r.id) (yields_query (permissive w₀) fun s hs => ?_) ?_
  · refine ⟨(hs.maxAdvancePct invoiceId).symm, fun r hr => ?_⟩
    have hfind : s.store.riskScores.rows.find? (fun r => r.invoiceId = invoiceId) = some r := hr
    have hinvoice : r.invoiceId = invoiceId := by simpa using List.find?_some hfind
    -- the row that was found is one of `w₀`
    obtain ⟨r₀, hr₀, hsame⟩ := hs.riskScores.exists_of_mem (List.mem_of_find?_eq_some hfind)
    exact ⟨r₀, hr₀, hsame.id.symm, hsame.invoiceId.symm.trans hinvoice⟩
  rintro found ⟨hpct, hscore⟩
  refine yields_lift ?_
  intro score hvalid
  rw [hpct]
  cases found with
  | none => cases hvalid
  | some r =>
    simp only [validateRiskScore] at hvalid
    split at hvalid
    · cases hvalid
    · cases hvalid
      exact ⟨rfl, hscore _ rfl⟩

/-- A price is computed from the terms of the invoice. -/
theorem free_priceInvoice (w₀ : World) (cfg : Config) (invoiceId : ℕ) :
    Free (protocol w₀) (priceInvoice cfg invoiceId) := by
  have hG := permissive w₀
  refine (yields_fetchAndValidateInvoice w₀ invoiceId).bind fun invoice hface => ?_
  refine (yields_fetchAndValidateRiskScore w₀ invoiceId).bind fun score hscore => ?_
  refine free_bind (free_fetchActiveFacility hG) fun facility => ?_
  refine free_bind (free_fetchBuyerMargin hG _) fun margin => ?_
  refine free_bind (free_lift _) fun tenorDays => ?_
  refine free_bind (free_lift _) fun _ => ?_
  refine free_bind (free_transaction hG ?_) fun _ => ?_
  · intro s t i u d hs h
    exact persistPricing_effect hs ⟨hface, by rw [hscore.1]; rfl⟩ hscore.2 h
  · exact free_bind (free_log hG _) fun _ =>
      free_bind (free_enqueueOrWarn hG _ _ _) fun _ => free_pure _

/-! ## Triple of approval -/

theorem free_approveInvoice (w₀ : World) (cfg : Config) (invoiceId : ℕ)
    (approver : Approvals.Approver) (req : Request) :
    Free (protocol w₀) (Approvals.approveInvoice cfg invoiceId approver req) := by
  have hG := permissive w₀
  refine free_bind (Approvals.free_fetchAndValidate hG invoiceId) ?_
  rintro ⟨invoice, riskScore⟩
  refine free_bind (free_lift _) fun _ => free_bind (free_lift _) fun _ => ?_
  refine free_bind (free_enqueuingTransaction hG.toQuiet hG.leftJobs fun _ _ _ _ _ _ h =>
    executeApprovalTxn_ok h)
    fun _ => ?_
  exact free_bind (free_log hG _) fun _ => free_pure _

/-! ## Triple of initiation -/

/-- What a caller knows of an invoice that was read as approved. -/
def Validated (w₀ : World) (invoiceId : ℕ) (invoice : Invoice) : Prop :=
  ∀ amount, invoice.advanceAmount = some amount → Advance w₀ invoiceId amount

theorem triple_validateInvoiceForPayment (w₀ : World) (cfg : Config) (invoiceId t : ℕ) :
    (protocol w₀).Triple t (fun _ => True) (Payments.validateInvoiceForPayment cfg invoiceId)
      (fun found s => Validated w₀ invoiceId found.1 ∧ Fundable s.store invoiceId)
      fun _ _ => True := by
  have hG := permissive w₀
  refine .bind (R := fun found s => ∀ x, found = some x →
    Validated w₀ invoiceId x.1 ∧ s.store.invoices.get? invoiceId = some x.1) (triple_query hG t ?_) ?_
  · intro s hs x hx
    have hget := Payments.getInvoiceForPayment_eq_some hx
    have hid : x.1.id = invoiceId := Table.key_of_get? hget
    exact ⟨fun amount hamount => hid ▸ hs.advance x.1 (Table.mem_of_get? hget) amount hamount, hget⟩
  · intro found
    cases found with
    | none => exact .throw fun _ _ _ => trivial
    | some found =>
      -- the guard sees the state of the read, so the invoice was approved then
      refine .bind (R := fun _ s => Validated w₀ invoiceId found.1 ∧ Fundable s.store invoiceId)
        (.lift ?_ fun _ _ _ _ _ => trivial) fun _ => ?_
      · intro u s hu _ h
        obtain ⟨hvalid, hget⟩ := h found rfl
        exact ⟨hvalid, Or.inl ⟨found.1, hget, Payments.guardInvoiceApproved_ok hu⟩⟩
      · refine .assume (P := Validated w₀ invoiceId found.1) (fun _ h => h.1) fun hvalid => ?_
        have hrest : (protocol w₀).Triple t (fun _ => True) (do
            Payments.guardAmlCleared cfg found.1
            Payments.guardCollateralSufficient invoiceId found.1.advanceAmount
            return found : Call (Invoice × String)) (fun a _ => a = found) fun _ _ => True :=
          .bind (free_lift _ t) fun _ => .bind (Payments.free_guardCollateralSufficient hG _ _ t) fun _ =>
            .ret fun _ _ _ => rfl
        refine (hrest.frame (steady_fundable w₀ invoiceId)).conseq (fun _ _ h => ⟨h.2, trivial⟩) ?_
          fun _ _ _ _ => trivial
        rintro a s - ⟨hfundable, rfl⟩
        exact ⟨hvalid, hfundable⟩

theorem triple_createPaymentTxn (w₀ : World) (t : ℕ) {invoiceId : ℕ} {invoice : Invoice}
    (provider : PaymentProvider) (hvalid : Validated w₀ invoiceId invoice) :
    (protocol w₀).Triple t (fun s => Fundable s.store invoiceId)
      (Payments.createPaymentTxn invoiceId invoice provider) (fun _ _ => True) fun _ _ => True := by
  have hG := permissive w₀
  refine .bind (triple_transaction hG (steady_fundable w₀ invoiceId) t ?_) ?_
  · intro s i r d _ hfundable h
    exact insertPaymentAndAuditWithClient_effect hvalid hfundable h
  · rintro ⟨payment, transitioned⟩
    dsimp only
    split
    · exact .bind (free_log hG _ t) fun _ => .bind (free_log hG _ t) fun _ => free_pure _ t
    · exact .bind (free_log hG _ t) fun _ => free_pure _ t

theorem free_initiatePayment (w₀ : World) (cfg : Config) (invoiceId : ℕ) :
    Free (protocol w₀) (Payments.initiatePayment cfg invoiceId) := by
  intro t
  have hG := permissive w₀
  have hsteady := steady_fundable w₀ invoiceId
  refine .bind (Payments.free_checkKillSwitch hG t) fun _ =>
    .bind (triple_validateInvoiceForPayment w₀ cfg invoiceId t) ?_
  rintro ⟨invoice, method⟩
  refine .assume (P := Validated w₀ invoiceId invoice) (fun _ h => h.1) fun hvalid => ?_
  have hfacility : Free (protocol w₀) (Payments.checkFacilityAvailability invoice.advanceAmount) :=
    Payments.free_checkFacilityAvailability hG _
  refine .bind (((hfacility.keeps hsteady t).conseq (fun _ _ h => h.2)
    (fun _ _ _ h => h) fun _ _ _ _ => trivial)) fun _ => ?_
  refine .bind (((free_query hG _).keeps hsteady t).weaken (fun _ _ _ h => h)
    fun _ _ _ _ => trivial) fun found => ?_
  cases found with
  | some existing => exact .ret fun _ _ _ => trivial
  | none =>
    exact .bind (triple_createPaymentTxn w₀ t _ hvalid) fun paymentId =>
      Payments.free_fetchCreatedPayment hG paymentId t

/-! ## The system -/

theorem allows_decisions (w₀ : World) : Allows (protocol w₀) DecisionEffect :=
  fun _ _ _ _ _ h => Effect.of_decision h

theorem free_program (w₀ : World) (cfg : Config) (op : Op) : Free (protocol w₀) (program cfg op) := by
  have hG := permissive w₀
  have hdecisions := allows_decisions w₀
  cases op with
  | priceInvoice => exact free_discard (free_priceInvoice _ _ _)
  | acceptPricing => exact free_acceptPricing hG hdecisions _ _ _
  | rejectPricing => exact free_rejectPricing hG hdecisions _ _ _ _
  | disputePricing => exact free_discard (free_disputePricing hG hdecisions _ _ _ _)
  | approveInvoice => exact free_discard (free_approveInvoice _ _ _ _ _)
  | initiatePayment => exact free_discard (free_initiatePayment _ _ _)

/-- Every operation follows the protocol. -/
theorem program_implements (w₀ : World) (cfg : Config) :
    (protocol w₀).Implements (program cfg) := fun op t =>
  (free_program w₀ cfg op t).conseq (fun _ _ _ => trivial) (fun _ _ _ _ => rfl) fun _ _ _ _ => rfl

end Ris.Origination
