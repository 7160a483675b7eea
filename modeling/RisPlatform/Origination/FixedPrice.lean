import RisPlatform.Approvals.Frame
import RisPlatform.Origination.Protocol
import RisPlatform.Payments.Frame
import RisPlatform.Pricing.Protocol

/-!
# A price that stays

The pricing, approvals and payments services side by side. `priceInvoice` checks that the invoice is
`scored` and that it has no price before its transaction, and the transaction writes the amounts
whatever the status is by then. So the price of an offer is fixed along the runs in which each pricing
commits on an invoice that is still `scored`.
-/

namespace Ris.FixedPrice

open Relational Concurrent Pricing Origination

/-! ## The system -/

/-- The operations of the three services. -/
inductive Op
  | pricing (op : Pricing.Op)
  | approvals (op : Approvals.Op)
  | payments (op : Payments.Op)

/-- The body of each operation. -/
def program (cfg : Config) : Op → Call Unit
  | .pricing op => Pricing.program cfg op
  | .approvals op => Approvals.program cfg op
  | .payments op => Payments.program cfg op

/-! ## What a price is -/

/-- The amounts on an invoice. -/
structure Amounts where
  advanceAmount : Option ℤ
  discountAmount : Option ℤ
  netPaymentToSupplier : Option ℤ
  deriving DecidableEq

def Amounts.of (r : Invoice) : Amounts where
  advanceAmount := r.advanceAmount
  discountAmount := r.discountAmount
  netPaymentToSupplier := r.netPaymentToSupplier

def amountsOf (invoiceId : ℕ) (w : World) : Option Amounts :=
  (w.invoices.get? invoiceId).map Amounts.of

/-- The rows of `risk_scores` of the invoice. -/
def recordsOf (invoiceId : ℕ) (w : World) : List RiskScore :=
  w.riskScores.rows.filter fun r => r.invoiceId = invoiceId

/-- The records of the invoice that have a price. -/
def currentRecords (invoiceId : ℕ) (w : World) : List RiskScore :=
  (recordsOf invoiceId w).filter fun r => r.bankCostRate ≠ none

/-- The status is one after `scored`. -/
def AfterScored (status : InvoiceStatus) : Prop :=
  status ∉ [.draft, .submitted, .buyerConfirmed, .scored]

/-- The invoice has left `scored`. -/
def LeftScored (invoiceId : ℕ) (w : World) : Prop :=
  ∃ r ∈ w.invoices.get? invoiceId, AfterScored r.status

/-- A pricing of the invoice commits while it is `scored`. -/
def PricesScored (invoiceId : ℕ) : Cond World Event := fun s _ e =>
  ∀ _ ∈ e.priced? invoiceId, ∀ r ∈ s.store.invoices.get? invoiceId, r.status = .scored

instance (status : InvoiceStatus) : Decidable (AfterScored status) := by
  unfold AfterScored
  infer_instance

instance (invoiceId : ℕ) (w : World) : Decidable (LeftScored invoiceId w) := by
  unfold LeftScored
  infer_instance

instance (invoiceId : ℕ) (s : State World Event) (t : ℕ) (e : Event) :
    Decidable (PricesScored invoiceId s t e) := by
  unfold PricesScored
  infer_instance

/-! ## Effects -/

/-- What an event does to the price of one invoice row. -/
inductive PriceStep (e : Event) (r r' : Invoice) : Prop
  | kept (hid : r'.id = r.id) (hamounts : Amounts.of r' = Amounts.of r)
      (hleft : AfterScored r'.status ↔ AfterScored r.status)
  | priced (input : PricingCalculationInput) (hid : r'.id = r.id) (he : e = .invoicePriced r.id input)

/-- What an event does to the prices. -/
structure Effect (w : World) (e : Event) (w' : World) : Prop where
  invoices : w.invoices.Rowwise (PriceStep e) w'.invoices
  records : w.riskScores.Rowwise (ScoreStep e) w'.riskScores
  recorded : ∀ invoiceId input, e = .invoicePriced invoiceId input →
    ∃ r ∈ w'.riskScores.rows, r.invoiceId = invoiceId ∧ r.bankCostRate ≠ none

section Effects

variable {w w' : World} {e : Event} {r r' : Invoice}

theorem PriceStep.refl (r : Invoice) : PriceStep e r r := .kept rfl rfl Iff.rfl

theorem PriceStep.id (h : PriceStep e r r') : r'.id = r.id := by
  cases h with
  | kept hid => exact hid
  | priced input hid => exact hid

/-- An effect that leaves the records alone, of an event that is no pricing. -/
theorem Effect.of_invoices (h : w.invoices.Rowwise (PriceStep e) w'.invoices)
    (hscores : w'.riskScores = w.riskScores) (he : ∀ invoiceId input, e ≠ .invoicePriced invoiceId input) :
    Effect w e w' where
  invoices := h
  records := by
    rw [hscores]
    exact .refl (fun _ => .other) _
  recorded invoiceId input hpriced := absurd hpriced (he invoiceId input)

theorem Effect.silent (he : ∀ invoiceId input, e ≠ .invoicePriced invoiceId input)
    (hinvoices : w'.invoices = w.invoices) (hscores : w'.riskScores = w.riskScores) : Effect w e w' := by
  refine .of_invoices ?_ hscores he
  rw [hinvoices]
  exact .refl PriceStep.refl _

/-- An event of another service is no pricing. -/
theorem ne_invoicePriced {service : Service} (h : e.Of service) (hservice : service ≠ .pricing)
    (invoiceId : ℕ) (input : PricingCalculationInput) : e ≠ .invoicePriced invoiceId input := by
  rintro rfl
  exact hservice (h _ rfl).symm

theorem PriceStep.trans {r₁ r₂ : Invoice} (h : PriceStep e r r₁) (h' : PriceStep e r₁ r₂) :
    PriceStep e r r₂ := by
  have hid : r₂.id = r.id := h'.id.trans h.id
  cases h with
  | priced input _ he => exact .priced input hid he
  | kept hid₁ hamounts hleft =>
    cases h' with
    | priced input _ he => exact .priced input hid (by rw [he, hid₁])
    | kept _ hamounts' hleft' => exact .kept hid (hamounts'.trans hamounts) (hleft'.trans hleft)

/-- Assignments to the row with one id. -/
theorem priceStep_updateById {invoiceId : ℕ} {T : Table Invoice.id} {f : Invoice → Invoice}
    {hf : ∀ r, (f r).id = r.id} (hstep : ∀ r, r.id = invoiceId → PriceStep e r (f r)) :
    T.Rowwise (PriceStep e) (updateById invoiceId f hf T) :=
  Table.rowwise_update (fun r _ hid => hstep r (of_decide_eq_true hid)) fun r _ _ => .refl r

/-- A move of the status of the row with one id. -/
theorem priceStep_moveById {invoiceId : ℕ} {T : Table Invoice.id} {expected new : InvoiceStatus}
    {now : ℤ} (hstep : ∀ r, r.id = invoiceId → r.status = expected →
      PriceStep e r (Payments.setInvoiceStatus new now r)) :
    T.Rowwise (PriceStep e) (moveById invoiceId expected new now T) := by
  refine Table.rowwise_update (fun r _ hmatch => ?_) fun r _ _ => .refl r
  obtain ⟨hid, hstatus⟩ := of_decide_eq_true hmatch
  exact hstep r hid hstatus

/-- A move between two statuses after `scored`. -/
theorem PriceStep.moved {new : InvoiceStatus} {now : ℤ} (hr : AfterScored r.status)
    (hnew : AfterScored new) : PriceStep e r (Payments.setInvoiceStatus new now r) :=
  .kept rfl rfl (iff_of_true hnew hr)

/-- A pricing is the only effect of its service that changes a price. -/
theorem Effect.of_pricing (h : Pricing.Effect w e w') : Effect w e w' := by
  cases h with
  | read | threw | logged | enqueued | leftJobs =>
    exact .silent (fun _ _ => by simp) rfl rfl
  | priced invoiceId riskScoreId input now hscore =>
    obtain ⟨r₀, hr₀, hid₀, hinvoice₀⟩ := hscore
    refine ⟨?_, ?_, ?_⟩
    · -- the amounts, then the status
      have hamounts : w.invoices.Rowwise (PriceStep (.invoicePriced invoiceId input))
          (updateById invoiceId (setAmounts (pricingUpdate input)) (id_setAmounts _) w.invoices) :=
        priceStep_updateById fun r hr => .priced input rfl (by rw [hr])
      exact hamounts.trans (priceStep_moveById fun r hr _ => .priced input rfl (by rw [hr]))
        fun _ _ _ => .trans
    · show w.riskScores.Rowwise _ (w.riskScores.update _ _ (id_setScorePricing _))
      refine Table.rowwise_update (fun r hr hid => .priced input ?_)
        fun r _ _ => .other
      -- the row that is priced is the invoice's
      have hr₀r : r = r₀ := Table.eq_of_mem hr hr₀ ((of_decide_eq_true hid).trans hid₀.symm)
      rw [hr₀r, hinvoice₀]
    · rintro _ _ he
      cases he
      refine ⟨setScorePricing (pricingUpdate input) r₀, ?_, hinvoice₀, by simp [setScorePricing]⟩
      rw [Table.mem_update]
      exact ⟨r₀, hr₀, by simp [hid₀]⟩
  | accepted invoiceId userId req now net hnet =>
    have haccepted : w.invoices.Rowwise (PriceStep (.pricingAccepted invoiceId net))
        (updateById invoiceId (setAccepted userId now) (id_setAccepted userId now) w.invoices) :=
      priceStep_updateById fun r _ => .kept rfl rfl Iff.rfl
    exact .of_invoices haccepted rfl fun _ _ => by simp
  | rejected invoiceId userId reason req now =>
    have hrejected : w.invoices.Rowwise (PriceStep (.pricingRejected invoiceId))
        (updateById invoiceId (setRejected reason now) (id_setRejected reason now) w.invoices) :=
      priceStep_updateById fun r _ => .kept rfl rfl Iff.rfl
    refine .of_invoices (hrejected.trans (priceStep_moveById ?_) fun _ _ _ => .trans) rfl
      fun _ _ => by simp
    exact fun r _ hstatus => .moved (by rw [hstatus]; decide) (by decide)
  | disputed invoiceId userId payload req now row disputes =>
    have hdisputed : w.invoices.Rowwise (PriceStep (.pricingDisputed invoiceId))
        (updateById invoiceId (setDisputed now) (id_setDisputed now) w.invoices) :=
      priceStep_updateById fun r _ => .kept rfl rfl Iff.rfl
    exact .of_invoices hdisputed rfl fun _ _ => by simp

/-- A decision of the approvals service. -/
theorem Effect.of_approvals (h : Approvals.Writes w e w') : Effect w e w' := by
  refine .of_invoices (h.invoices.imp ?_) (by rw [h.frame]) (ne_invoicePriced h.service (by decide))
  rintro r r' ⟨hcolumns, hstatus⟩
  have hid := congrArg Invoice.id hcolumns
  have hamounts := congrArg Amounts.of hcolumns
  refine .kept hid hamounts ?_
  rcases hstatus with hsame | ⟨hpriced, hnew⟩
  · rw [hsame]
  · rcases hnew with hnew | hnew
    · rw [hpriced, hnew]
      decide
    · rw [hpriced, hnew]
      decide

/-- A write of the payments service. -/
theorem Effect.of_payments (h : Payments.Writes w e w') : Effect w e w' := by
  refine .of_invoices (h.invoices.imp ?_) (by rw [h.frame]) (ne_invoicePriced h.service (by decide))
  intro r r' hstep
  cases hstep with
  | same => exact .refl r
  | initiated _ _ _ _ hstatus => exact .moved (by rw [hstatus]; decide) (by decide)
  | funded _ _ _ _ hstatus => exact .moved (by rw [hstatus]; decide) (by decide)

end Effects

/-! ## The system follows the effects -/

/-- Effects depend on the store alone; a call may return at any time. -/
def protocol : Protocol World Event where
  inv _ := True
  effect s _ e d :=
    match e with
    | some event => Effect s.store event d
    | none => d = s.store
  inv_effect _ _ := trivial
  return_stable _ _ _ _ := rfl

theorem permissive : Permissive protocol where
  read _ _ := .silent (fun _ _ => by simp) rfl rfl
  threw _ _ := .silent (fun _ _ => by simp) rfl rfl
  logged _ _ _ := .silent (fun _ _ => by simp) rfl rfl
  enqueued _ _ _ := .silent (fun _ _ => by simp) rfl rfl
  leftJobs _ _ _ := .silent (fun _ _ => by simp) rfl rfl

/-- The row of an invoice's score stays its own. -/
theorem steady_scoreOf (invoiceId riskScoreId : ℕ) :
    protocol.Steady fun s => ScoreOf s.store invoiceId riskScoreId := by
  intro s t e d _ h heff
  cases e with
  | none =>
    obtain rfl : d = s.store := heff
    exact h
  | some event =>
    obtain ⟨r, hr, hid, hinvoice⟩ := h
    obtain ⟨r', hr', hstep⟩ := (show Effect s.store event d from heff).records.exists_of_mem_left hr
    exact ⟨r', hr', hstep.same.id.trans hid, hstep.same.invoiceId.trans hinvoice⟩

/-- Every operation follows the protocol. -/
theorem program_implements (cfg : Config) : protocol.Implements (program cfg) := by
  have hG := permissive
  have hfree : ∀ op, Free protocol (program cfg op) := by
    intro op
    cases op with
    | pricing op => exact free_program hG (fun _ _ _ _ _ h => .of_pricing h) steady_scoreOf op
    | approvals op => exact Approvals.free_program_of_allows hG (fun _ _ _ _ _ h => .of_approvals h) op
    | payments op => exact Payments.free_program hG (fun _ _ _ _ _ h => .of_payments h) op
  exact fun op t => (hfree op t).conseq (fun _ _ _ => trivial) (fun _ _ _ _ => rfl) fun _ _ _ _ => rfl

/-! ## One step -/

section Steps

variable {w w' : World} {e : Event} {invoiceId : ℕ}

/-- Without a pricing of the invoice, its records stay. -/
theorem Effect.recordsOf_eq (h : Effect w e w') (he : e.priced? invoiceId = none) :
    recordsOf invoiceId w' = recordsOf invoiceId w := by
  have hkeep := h.records.filter_map (p := fun r => r.invoiceId = invoiceId) (f := id)
    (fun _ _ hstep => by rw [hstep.same.invoiceId]) ?_
  · simpa [recordsOf] using hkeep
  · intro r r' hstep hr
    cases hstep with
    | other => rfl
    | priced input hpriced =>
      rw [of_decide_eq_true hr] at hpriced
      rw [Event.priced?_eq_some.2 hpriced] at he
      cases he

/-- No event adds a record. -/
theorem Effect.length_recordsOf (h : Effect w e w') :
    (recordsOf invoiceId w').length = (recordsOf invoiceId w).length := by
  have hkeep := h.records.filter_map (p := fun r => r.invoiceId = invoiceId) (f := fun _ => ())
    (fun _ _ hstep => by rw [hstep.same.invoiceId]) fun _ _ _ _ => rfl
  simpa [recordsOf] using congrArg List.length hkeep

/-- Without a pricing of the invoice, its amounts stay, and so does the fact that it has left. -/
theorem Effect.amountsOf_eq (h : Effect w e w') (he : e.priced? invoiceId = none) :
    amountsOf invoiceId w' = amountsOf invoiceId w ∧
      (LeftScored invoiceId w' ↔ LeftScored invoiceId w) := by
  have hid : ∀ r r', PriceStep e r r' → r'.id = r.id := fun _ _ hstep => hstep.id
  have hkept : ∀ {r r'}, r.id = invoiceId → PriceStep e r r' →
      Amounts.of r' = Amounts.of r ∧ (AfterScored r'.status ↔ AfterScored r.status) := by
    rintro r r' hr (⟨-, hamounts, hleft⟩ | ⟨input, -, hpriced⟩)
    · exact ⟨hamounts, hleft⟩
    · rw [hr] at hpriced
      rw [Event.priced?_eq_some.2 hpriced] at he
      cases he
  cases hr : w.invoices.get? invoiceId with
  | some r =>
    obtain ⟨r', hr', hstep⟩ := h.invoices.exists_of_get?_left hid hr
    obtain ⟨hamounts, hleft⟩ := hkept (Table.key_of_get? hr) hstep
    simp [amountsOf, LeftScored, hr, hr', hamounts, hleft]
  | none =>
    have hnone : w'.invoices.get? invoiceId = none := by
      by_contra hsome
      obtain ⟨r', hr'⟩ := Option.ne_none_iff_exists'.1 hsome
      obtain ⟨r, hget, -⟩ := h.invoices.exists_of_get? hid hr'
      rw [hr] at hget
      cases hget
    simp [amountsOf, LeftScored, hr, hnone]

/-- A pricing leaves a record with a price. -/
theorem Effect.exists_current (h : Effect w e w') (he : e.priced? invoiceId ≠ none) :
    0 < (currentRecords invoiceId w').length := by
  obtain ⟨input, hpriced⟩ := Option.ne_none_iff_exists'.1 he
  obtain ⟨r, hr, hinvoice, hrate⟩ := h.recorded invoiceId input (Event.priced?_eq_some.1 hpriced)
  refine List.length_pos_of_mem (a := r) ?_
  simp [currentRecords, recordsOf, hr, hinvoice, hrate]

end Steps

/-! ## Runs -/

/-- There is one record at most, and one with a price once the invoice has left `scored`. -/
structure Recorded (invoiceId : ℕ) (w : World) : Prop where
  unique : (recordsOf invoiceId w).length ≤ 1
  current : LeftScored invoiceId w → (currentRecords invoiceId w).length = 1

/-- The step lemma of the records. -/
theorem Recorded.effect {invoiceId : ℕ} {w w' : World} {e : Event} (h : Recorded invoiceId w)
    (heff : Effect w e w') : Recorded invoiceId w' where
  unique := by
    rw [heff.length_recordsOf]
    exact h.unique
  current hleft := by
    cases he : e.priced? invoiceId with
    | none =>
      rw [currentRecords, heff.recordsOf_eq he]
      exact h.current ((heff.amountsOf_eq he).2.1 hleft)
    | some input =>
      have hpos : 0 < (currentRecords invoiceId w').length := heff.exists_current (by simp [he])
      have hle : (currentRecords invoiceId w').length ≤ (recordsOf invoiceId w').length :=
        List.length_filter_le _ _
      have hunique := h.unique
      rw [← heff.length_recordsOf] at hunique
      omega

/-- The price of an invoice that has left `scored`. -/
structure Fixed (invoiceId : ℕ) (amounts : Option Amounts) (records : List RiskScore) (w : World) :
    Prop where
  left : LeftScored invoiceId w
  amounts : amountsOf invoiceId w = amounts
  records : currentRecords invoiceId w = records

/-- The step lemma of the price: a move that prices only a scored invoice keeps it. -/
theorem Fixed.move {invoiceId : ℕ} {amounts : Option Amounts} {records : List RiskScore}
    {s : State World Event} {t : ℕ} {e : Option Event} {d : World}
    (h : Fixed invoiceId amounts records s.store)
    (hmove : protocol.Moves (PricesScored invoiceId) s t e d) : Fixed invoiceId amounts records d := by
  cases e with
  | none =>
    obtain rfl : d = s.store := hmove.effect
    exact h
  | some event =>
    have heff : Effect s.store event d := hmove.effect
    have hno : event.priced? invoiceId = none := by
      by_contra hpriced
      obtain ⟨input, hinput⟩ := Option.ne_none_iff_exists'.1 hpriced
      obtain ⟨r, hr, hafter⟩ := h.left
      have hscored := hmove.cond event rfl input hinput r hr
      rw [hscored] at hafter
      exact absurd hafter (by decide)
    obtain ⟨hamounts, hleft⟩ := heff.amountsOf_eq hno
    refine ⟨hleft.2 h.left, hamounts.trans h.amounts, ?_⟩
    rw [currentRecords, heff.recordsOf_eq hno]
    exact h.records

/-- **The price is fixed once offered.** In a run in which each pricing of the invoice commits while it
is `scored`, an invoice that has left `scored` has one pricing record, and neither that record nor its
amounts change any more. -/
theorem price_fixed_once_offered (cfg : Config) (w : World) (invoiceId : ℕ)
    (hw : Recorded invoiceId w) (s : Sys World Input Event RisError)
    (hs : Reaches (program cfg) (PricesScored invoiceId) (Sys.init w) s)
    (hleft : LeftScored invoiceId s.store) :
    (currentRecords invoiceId s.store).length = 1 ∧
      ∀ s', Reaches (program cfg) (PricesScored invoiceId) s s' →
        amountsOf invoiceId s'.store = amountsOf invoiceId s.store ∧
          currentRecords invoiceId s'.store = currentRecords invoiceId s.store := by
  have hprog := program_implements cfg
  have hrecorded : Recorded invoiceId s.store := by
    refine Protocol.invariant hprog trivial (P := fun s => Recorded invoiceId s.store) hw ?_ hs
    intro s t e d h hmove
    cases e with
    | none =>
      obtain rfl : d = s.store := hmove.effect
      exact h
    | some event => exact h.effect hmove.effect
  refine ⟨hrecorded.current hleft, fun s' hs' => ?_⟩
  have hfixed : Fixed invoiceId (amountsOf invoiceId s.store) (currentRecords invoiceId s.store)
      s'.store :=
    Protocol.persists hprog trivial
      (P := fun s' => Fixed invoiceId (amountsOf invoiceId s.store) (currentRecords invoiceId s.store)
        s'.store) (fun _ _ _ _ h hmove => h.move hmove) hs ⟨hleft, rfl, rfl⟩ hs'
  exact ⟨hfixed.amounts, hfixed.records⟩

/-! ## A small world

The scored invoice with two facilities: the cheaper one matures after ten days. -/

def twoFacilities : List BankFacility :=
  [{ id := 1, facilityName := "Short", bankName := "Bank", totalLimit := 5000000, drawnAmount := 0
     annualRate := mkRat 5 100, interestRateAnnual := mkRat 5 100, maturityDate := 10, status := .active
     isActive := true },
   { id := 2, facilityName := "Long", bankName := "Bank", totalLimit := 5000000, drawnAmount := 0
     annualRate := mkRat 6 100, interestRateAnnual := mkRat 6 100, maturityDate := 365, status := .active
     isActive := true }]

def offerWorld : World :=
  { scoredWorld 90 with bankFacilities := ⟨twoFacilities, by decide⟩ }

/-- The last millisecond of the tenth day, and the next one. -/
def beforeMaturity : Input := { now := 10 * dayMs - 1 }

def atMaturity (n : ℕ) : Input := { now := 10 * dayMs, uuid := n, coverageRatio := some 0 }

def priceAlone (t : ℕ) : List (Act Op Input) :=
  Act.call (.pricing (.priceInvoice 1)) t (List.replicate 7 (atMaturity t))

/-- The supplier accepts, a credit officer approves and the payment is initiated. -/
def fundAlone (t : ℕ) : List (Act Op Input) :=
  Act.call (.pricing (.acceptPricing 1 9 {})) t (List.replicate 5 (atMaturity t)) ++
    Act.call (.approvals (.approveInvoice 1 { userId := .user 5, role := "credit_officer" } {})) (t + 1)
      (List.replicate 4 (atMaturity t)) ++
    Act.call (.payments (.initiatePayment 1)) (t + 2) (List.replicate 9 (atMaturity t))

instance (invoiceId : ℕ) (w : World) : Decidable (Recorded invoiceId w) :=
  decidable_of_iff ((recordsOf invoiceId w).length ≤ 1 ∧
    (LeftScored invoiceId w → (currentRecords invoiceId w).length = 1))
    ⟨fun h => ⟨h.1, h.2⟩, fun h => ⟨h.unique, h.current⟩⟩

/-- Priced, accepted, approved and with a payment row: the price can no longer change. -/
theorem price_fixed_of_one_pricing :
    ∃ s : Sys World Input Event RisError, s.store.payments.rows.map Payment.amount = [800000] ∧
      (currentRecords 1 s.store).length = 1 ∧
        ∀ s', Reaches (program {}) (PricesScored 1) s s' →
          amountsOf 1 s'.store = amountsOf 1 s.store ∧
            currentRecords 1 s'.store = currentRecords 1 s.store := by
  obtain ⟨s, hs, hP⟩ := exists_reaches (program {}) (PricesScored 1) (Sys.init offerWorld)
    (priceAlone 0 ++ fundAlone 1)
    (fun s => LeftScored 1 s.store ∧ s.store.payments.rows.map Payment.amount = [800000])
    (by decide +kernel)
  obtain ⟨hleft, hpayments⟩ := of_decide_eq_true hP
  exact ⟨s, hpayments,
    price_fixed_once_offered {} offerWorld 1 (by decide) s hs hleft⟩

/-- Two runs of `priceInvoice`: the first has read everything when the cheaper facility matures, and
the second prices the invoice. The supplier accepts, the invoice is approved and has a payment row;
then the first one commits its own price. -/
theorem late_pricing_changes_accepted_price :
    Recorded 1 offerWorld ∧ ∃ s s' : Sys World Input Event RisError,
      Reaches (program {}) always (Sys.init offerWorld) s ∧ Step (program {}) always s s' ∧
        LeftScored 1 s.store ∧ s.store.payments.rows.map Payment.amount = [800000] ∧
          (amountsOf 1 s.store).bind Amounts.netPaymentToSupplier = some 772877 ∧
            (amountsOf 1 s'.store).bind Amounts.netPaymentToSupplier = some 775343 := by
  obtain ⟨s, s', hs, hs', hP⟩ := exists_step (program {}) always (Sys.init offerWorld)
    ([.start (.pricing (.priceInvoice 1))] ++ List.replicate 4 (.move 0 beforeMaturity) ++
      priceAlone 1 ++ fundAlone 2) (.move 0 beforeMaturity)
    (fun s s' => LeftScored 1 s.store ∧ s.store.payments.rows.map Payment.amount = [800000] ∧
      (amountsOf 1 s.store).bind Amounts.netPaymentToSupplier = some 772877 ∧
        (amountsOf 1 s'.store).bind Amounts.netPaymentToSupplier = some 775343) (by decide +kernel)
  exact ⟨by decide, s, s', hs, hs', of_decide_eq_true hP⟩

end Ris.FixedPrice
