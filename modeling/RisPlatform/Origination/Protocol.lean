import RisPlatform.Triples
import RisPlatform.Approvals.Service
import RisPlatform.Pricing.Transactions

/-!
# From pricing to the payment row

Three services act on one invoice: pricing, approvals and payments. `InvoiceStep` says what each of
their events does to an invoice row, and `Effect` what it does to the tables they share.

No event changes what the amounts are computed from: the face value and the advance percentage. So the
advance amount of an invoice is the same at every pricing, and `Terms` can be read off the first store.
-/

namespace Ris.Origination

open Relational Concurrent Pricing

/-! ## The system -/

/-- The operations between scoring and the first authorisation. -/
inductive Op
  | priceInvoice (invoiceId : ℕ)
  | acceptPricing (invoiceId userId : ℕ) (req : Request)
  | rejectPricing (invoiceId userId : ℕ) (reason : String) (req : Request)
  | disputePricing (invoiceId userId : ℕ) (payload : PricingDisputePayload) (req : Request)
  | approveInvoice (invoiceId : ℕ) (approver : Approvals.Approver) (req : Request)
  | initiatePayment (invoiceId : ℕ)

/-- The body of each operation. -/
def program (cfg : Config) : Op → Call Unit
  | .priceInvoice invoiceId => (priceInvoice cfg invoiceId).discard
  | .acceptPricing invoiceId userId req => acceptPricing cfg invoiceId userId req
  | .rejectPricing invoiceId userId reason req => rejectPricing invoiceId userId reason req
  | .disputePricing invoiceId userId payload req =>
    (disputePricing invoiceId userId payload req).discard
  | .approveInvoice invoiceId approver req =>
    (Approvals.approveInvoice cfg invoiceId approver req).discard
  | .initiatePayment invoiceId => (Payments.initiatePayment cfg invoiceId).discard

/-! ## Steps of an invoice row -/

/-- `UPDATE … SET status = new WHERE status = expected`, on one row. -/
def moveStatus (expected new : InvoiceStatus) (now : ℤ) (r : Invoice) : Invoice :=
  if r.status = expected then Payments.setInvoiceStatus new now r else r

/-- What an event does to one invoice row. -/
inductive InvoiceStep (e : Event) (r : Invoice) : Invoice → Prop
  | other (he : e.invoice? ≠ some r.id) : InvoiceStep e r r
  | priced (input : PricingCalculationInput) (now : ℤ) (he : e = .invoicePriced r.id input) :
      InvoiceStep e r (moveStatus .scored .priced now (setAmounts (pricingUpdate input) r))
  | accepted (net : Option ℤ) (userId : ℕ) (now : ℤ) (he : e = .pricingAccepted r.id net) :
      InvoiceStep e r (setAccepted userId now r)
  | rejected (reason : String) (now : ℤ) (he : e = .pricingRejected r.id) :
      InvoiceStep e r (moveStatus .priced .rejected now (setRejected reason now r))
  | disputed (now : ℤ) (he : e = .pricingDisputed r.id) : InvoiceStep e r (setDisputed now r)
  | approved (approverId : Actor) (role : String) (now : ℤ)
      (he : e = .invoiceApproved r.id approverId role) :
      InvoiceStep e r (moveStatus .priced .approved now r)
  | initiated (p : Payment) (now : ℤ) (he : e = .paymentCreated p) (hid : p.invoiceId = r.id) :
      InvoiceStep e r (moveStatus .approved .pendingFirstAuth now r)

section MoveStatus

variable (expected new : InvoiceStatus) (now : ℤ) (r : Invoice)

@[simp] theorem moveStatus_id : (moveStatus expected new now r).id = r.id := by
  unfold moveStatus
  split <;> rfl

@[simp] theorem moveStatus_faceValue :
    (moveStatus expected new now r).faceValue = r.faceValue := by
  unfold moveStatus
  split <;> rfl

@[simp] theorem moveStatus_advanceAmount :
    (moveStatus expected new now r).advanceAmount = r.advanceAmount := by
  unfold moveStatus
  split <;> rfl

@[simp] theorem moveStatus_discountAmount :
    (moveStatus expected new now r).discountAmount = r.discountAmount := by
  unfold moveStatus
  split <;> rfl

@[simp] theorem moveStatus_netPaymentToSupplier :
    (moveStatus expected new now r).netPaymentToSupplier = r.netPaymentToSupplier := by
  unfold moveStatus
  split <;> rfl

@[simp] theorem moveStatus_pricingAcceptedAt :
    (moveStatus expected new now r).pricingAcceptedAt = r.pricingAcceptedAt := by
  unfold moveStatus
  split <;> rfl

@[simp] theorem moveStatus_pricingRejectedAt :
    (moveStatus expected new now r).pricingRejectedAt = r.pricingRejectedAt := by
  unfold moveStatus
  split <;> rfl

@[simp] theorem moveStatus_status :
    (moveStatus expected new now r).status = if r.status = expected then new else r.status := by
  unfold moveStatus
  split <;> simp_all [Payments.setInvoiceStatus]

end MoveStatus

theorem InvoiceStep.id {e : Event} {r r' : Invoice} (h : InvoiceStep e r r') : r'.id = r.id := by
  cases h <;> simp [setAmounts, setAccepted, setRejected, setDisputed]

theorem InvoiceStep.faceValue {e : Event} {r r' : Invoice} (h : InvoiceStep e r r') :
    r'.faceValue = r.faceValue := by
  cases h <;> simp [setAmounts, setAccepted, setRejected, setDisputed]

/-- Only a pricing changes the amounts of a row. -/
theorem InvoiceStep.amounts {e : Event} {r r' : Invoice} (h : InvoiceStep e r r') :
    (∃ input now, e = .invoicePriced r.id input ∧
      r' = moveStatus .scored .priced now (setAmounts (pricingUpdate input) r)) ∨
      e.priced? r.id = none ∧ r'.advanceAmount = r.advanceAmount ∧
        r'.discountAmount = r.discountAmount ∧ r'.netPaymentToSupplier = r.netPaymentToSupplier := by
  cases h with
  | priced input now he => exact Or.inl ⟨input, now, he, rfl⟩
  | other he =>
    refine Or.inr ⟨?_, rfl, rfl, rfl⟩
    cases e <;> simp_all [Event.invoice?, Event.priced?]
  | accepted _ _ _ he | rejected _ _ he | disputed _ he | approved _ _ _ he | initiated _ _ he _ =>
    subst he
    exact Or.inr ⟨rfl, by simp [setAccepted, setRejected, setDisputed]⟩

/-! ## What the amounts are computed from -/

/-- The face value of the invoice. -/
def faceValueOf (w : World) (invoiceId : ℕ) : Option ℤ :=
  (w.invoices.get? invoiceId).map Invoice.faceValue

/-- The advance percentage that the invoice was scored with. -/
def maxAdvancePctOf (w : World) (invoiceId : ℕ) : Option ℚ :=
  (getRiskScoreForPricing invoiceId w).map RiskScore.maxAdvancePct

/-- The input has the face value and the advance percentage of the invoice. -/
structure Terms (w : World) (invoiceId : ℕ) (input : PricingCalculationInput) : Prop where
  faceValue : faceValueOf w invoiceId = some input.faceValue
  maxAdvancePct : (maxAdvancePctOf w invoiceId).map Binary64.round = some input.maxAdvancePct

/-- Whatever the rates and the tenor, the terms fix the advance amount. -/
theorem Terms.advanceAmount_eq {w : World} {invoiceId : ℕ} {input input' : PricingCalculationInput}
    (h : Terms w invoiceId input) (h' : Terms w invoiceId input') :
    (calculatePricing input).advanceAmount = (calculatePricing input').advanceAmount := by
  have hface : input.faceValue = input'.faceValue :=
    Option.some.inj (h.faceValue.symm.trans h'.faceValue)
  have hpct : input.maxAdvancePct = input'.maxAdvancePct :=
    Option.some.inj (h.maxAdvancePct.symm.trans h'.maxAdvancePct)
  simp only [calculatePricing, hface, hpct]

/-- The advance amount of the invoice: the one it had in `w`, or the one of its terms. -/
def Advance (w : World) (invoiceId : ℕ) (amount : ℤ) : Prop :=
  (∃ r, w.invoices.get? invoiceId = some r ∧ r.advanceAmount = some amount) ∨
    ∃ input, Terms w invoiceId input ∧ (calculatePricing input).advanceAmount = amount

/-! ## Effects -/

/-- A pricing changes nothing about what it is computed from. -/
structure SameScore (r r' : RiskScore) : Prop where
  id : r'.id = r.id
  invoiceId : r'.invoiceId = r.invoiceId
  maxAdvancePct : r'.maxAdvancePct = r.maxAdvancePct

theorem SameScore.refl (r : RiskScore) : SameScore r r := ⟨rfl, rfl, rfl⟩

/-- What an event does to one row of `risk_scores`. -/
inductive ScoreStep (e : Event) (r : RiskScore) : RiskScore → Prop
  | other : ScoreStep e r r
  | priced (input : PricingCalculationInput) (he : e = .invoicePriced r.invoiceId input) :
      ScoreStep e r (setScorePricing (pricingUpdate input) r)

theorem ScoreStep.same {e : Event} {r r' : RiskScore} (h : ScoreStep e r r') : SameScore r r' := by
  cases h with
  | other => exact .refl r
  | priced input he => exact ⟨rfl, rfl, rfl⟩

/-- The invoice is approved, or it has a payment row. -/
def Fundable (w : World) (invoiceId : ℕ) : Prop :=
  (∃ r, w.invoices.get? invoiceId = some r ∧ r.status = .approved) ∨
    ∃ p ∈ w.payments.rows, p.invoiceId = invoiceId

/-- What an event may do to the tables of origination, in a run from `w₀`. -/
structure Effect (w₀ w : World) (e : Event) (w' : World) : Prop where
  invoices : w.invoices.Rowwise (InvoiceStep e) w'.invoices
  riskScores : w.riskScores.Rowwise (ScoreStep e) w'.riskScores
  unpaid : e.created? = none → w'.payments = w.payments
  paid : ∀ p, e.created? = some p → w.payments.insert? p = some w'.payments ∧
    Advance w₀ p.invoiceId p.amount ∧
    ∃ r, w.invoices.get? p.invoiceId = some r ∧ r.status = .approved
  priced : ∀ invoiceId input, e = .invoicePriced invoiceId input → Terms w₀ invoiceId input
  rescored : ∀ invoiceId input, e = .invoicePriced invoiceId input →
    ∃ r ∈ w'.riskScores.rows, r.invoiceId = invoiceId ∧ r.bankCostRate ≠ none
  shown : ∀ invoiceId net, e = .pricingAccepted invoiceId net →
    net = (w.invoices.get? invoiceId).bind Invoice.netPaymentToSupplier

/-- The terms are those of `w₀`, and each advance amount is from `w₀` or computed from them. -/
structure Inv (w₀ w : World) : Prop where
  faceValue : ∀ invoiceId, faceValueOf w invoiceId = faceValueOf w₀ invoiceId
  maxAdvancePct : ∀ invoiceId, maxAdvancePctOf w invoiceId = maxAdvancePctOf w₀ invoiceId
  advance : ∀ r ∈ w.invoices.rows, ∀ amount, r.advanceAmount = some amount →
    Advance w₀ r.id amount
  riskScores : w₀.riskScores.Rowwise SameScore w.riskScores

theorem Inv.init (w₀ : World) : Inv w₀ w₀ where
  faceValue _ := rfl
  maxAdvancePct _ := rfl
  advance r hr _ hamount := Or.inl ⟨r, Table.get?_of_mem hr, hamount⟩
  riskScores := .refl SameScore.refl _

/-- The step lemma of the terms. -/
theorem Inv.effect {w₀ w w' : World} {e : Event} (h : Inv w₀ w) (heff : Effect w₀ w e w') :
    Inv w₀ w' where
  faceValue invoiceId := by
    have hkeep := heff.invoices.get?_map (fun _ _ hstep => hstep.id) (fun _ _ hstep => hstep.faceValue)
      invoiceId
    exact hkeep.trans (h.faceValue invoiceId)
  maxAdvancePct invoiceId := by
    have hkeep := heff.riskScores.find?_map (p := fun r => r.invoiceId = invoiceId)
      (fun _ _ hstep => by rw [hstep.same.invoiceId]) (fun _ _ hstep => hstep.same.maxAdvancePct)
    exact hkeep.trans (h.maxAdvancePct invoiceId)
  advance r' hr' amount hamount := by
    obtain ⟨r, hr, hstep⟩ := heff.invoices.exists_of_mem hr'
    rw [hstep.id]
    rcases hstep.amounts with ⟨input, now, he, rfl⟩ | ⟨-, hadvance, -, -⟩
    · refine Or.inr ⟨input, heff.priced _ _ he, ?_⟩
      simpa [setAmounts, pricingUpdate] using hamount
    · rw [hadvance] at hamount
      exact h.advance r hr amount hamount
  riskScores := h.riskScores.trans heff.riskScores fun _ _ _ hsame hstep =>
    ⟨hstep.same.id.trans hsame.id, hstep.same.invoiceId.trans hsame.invoiceId,
      hstep.same.maxAdvancePct.trans hsame.maxAdvancePct⟩

/-- Effects depend on the store alone; a call may return at any time. -/
def protocol (w₀ : World) : Protocol World Event where
  inv s := Inv w₀ s.store
  effect s _ e d :=
    match e with
    | some event => Effect w₀ s.store event d
    | none => d = s.store
  inv_effect := by
    intro s t e d hs heff
    cases e with
    | none =>
      obtain rfl : d = s.store := heff
      exact hs
    | some event => exact Inv.effect hs heff
  return_stable _ _ _ _ := rfl

/-- An event about no invoice leaves the tables of origination alone. -/
theorem Effect.silent {w₀ w w' : World} {e : Event} (he : e.invoice? = none)
    (hinvoices : w'.invoices = w.invoices) (hscores : w'.riskScores = w.riskScores)
    (hpayments : w'.payments = w.payments) : Effect w₀ w e w' where
  invoices := by
    rw [hinvoices]
    exact .refl (fun r => .other (by simp [he])) _
  riskScores := by
    rw [hscores]
    exact .refl (fun _ => .other) _
  unpaid _ := hpayments
  paid p hp := by cases e <;> simp_all [Event.invoice?, Event.created?]
  priced invoiceId input h := by simp [h, Event.invoice?] at he
  rescored invoiceId input h := by simp [h, Event.invoice?] at he
  shown invoiceId net h := by simp [h, Event.invoice?] at he

theorem permissive (w₀ : World) : Permissive (protocol w₀) where
  read _ _ := .silent rfl rfl rfl rfl
  threw _ _ := .silent rfl rfl rfl rfl
  logged _ _ _ := .silent rfl rfl rfl rfl
  enqueued _ _ _ := .silent rfl rfl rfl rfl
  leftJobs _ _ _ := .silent rfl rfl rfl rfl

/-! ## A fact that no call can falsify -/

/-- An invoice that is approved leaves that status only for a payment row. -/
theorem Fundable.effect {w₀ w w' : World} {e : Event} {invoiceId : ℕ} (h : Fundable w invoiceId)
    (heff : Effect w₀ w e w') : Fundable w' invoiceId := by
  rcases h with ⟨r, hr, hstatus⟩ | ⟨p, hp, hinvoice⟩
  · obtain ⟨r', hr', hstep⟩ := heff.invoices.exists_of_mem_left (Table.mem_of_get? hr)
    have hid : r.id = invoiceId := Table.key_of_get? hr
    have hget : w'.invoices.get? invoiceId = some r' := by
      rw [← hid, ← hstep.id]
      exact Table.get?_of_mem hr'
    cases hstep with
    | initiated p now he hpid =>
      obtain ⟨hinsert, -, -⟩ := heff.paid p (by rw [he]; rfl)
      exact Or.inr ⟨p, (Table.mem_insert? hinsert).2 (Or.inr rfl), hpid.trans hid⟩
    | other | priced | accepted | rejected | disputed | approved =>
      refine Or.inl ⟨_, hget, ?_⟩
      simp [setAmounts, setAccepted, setRejected, setDisputed, hstatus]
  · refine Or.inr ⟨p, ?_, hinvoice⟩
    cases hcreated : e.created? with
    | none =>
      rw [heff.unpaid hcreated]
      exact hp
    | some q => exact (Table.mem_insert? (heff.paid q hcreated).1).2 (Or.inl hp)

theorem steady_fundable (w₀ : World) (invoiceId : ℕ) :
    (protocol w₀).Steady fun s => Fundable s.store invoiceId := by
  intro s u e d _ h heff
  cases e with
  | none =>
    obtain rfl : d = s.store := heff
    exact h
  | some event => exact h.effect heff

/-! ## A small world

One scored invoice of 1,000,000 with its supplier, buyer, risk score and facility: the store from
which the example runs start. -/

def scoredInvoice (tenorDays : ℤ) : Invoice where
  id := 1
  supplierId := 1
  buyerId := 1
  faceValue := 1000000
  advanceAmount := none
  discountAmount := none
  netPaymentToSupplier := none
  status := .scored
  tenorDays := some tenorDays
  dueDate := 90
  amlFlagged := false
  amlClearedAt := none
  pricingAcceptedAt := none
  pricingAcceptedBy := none
  pricingRejectedAt := none
  pricingRejectionReason := none
  pricingDisputedAt := none
  fundedAt := none

/-- The advance is 80%, the annual rate 5% + 3% + 2%. -/
def scoredWorld (tenorDays : ℤ) : World :=
  { World.empty with
    invoices := .single (scoredInvoice tenorDays)
    buyers := .single { id := 1, risMarginRate := mkRat 2 100 }
    riskScores := .single
      { id := 1, invoiceId := 1, finalScore := 80, maxAdvancePct := mkRat 80 100
        riskPremiumRate := mkRat 3 100, bankCostRate := none, risMarginRate := none
        totalDiscountRate := none, advanceAmount := none, discountAmount := none
        netPaymentToSupplier := none }
    suppliers := .single { id := 1, userId := 9, preferredPaymentMethod := "EFT" }
    bankFacilities := .single
      { id := 1, facilityName := "Facility", bankName := "Bank", totalLimit := 5000000
        drawnAmount := 0, annualRate := mkRat 5 100, interestRateAnnual := mkRat 5 100
        maturityDate := 365
        status := .active, isActive := true } }

/-- Each operation on the invoice, run alone as call `t`. -/
def priceAlone (t : ℕ) : List (Act Op Input) :=
  Act.call (.priceInvoice 1) t (List.replicate 7 { uuid := t })

def acceptAlone (t : ℕ) : List (Act Op Input) :=
  Act.call (.acceptPricing 1 9 {}) t (List.replicate 5 { uuid := t })

def rejectAlone (t : ℕ) : List (Act Op Input) :=
  Act.call (.rejectPricing 1 9 "Too expensive" {}) t (List.replicate 4 { uuid := t })

def approveAlone (t : ℕ) : List (Act Op Input) :=
  Act.call (.approveInvoice 1 { userId := .user 5, role := "credit_officer" } {}) t
    (List.replicate 4 { uuid := t })

def initiateAlone (t : ℕ) : List (Act Op Input) :=
  Act.call (.initiatePayment 1) t (List.replicate 9 { coverageRatio := some 0, uuid := t })

end Ris.Origination
