import RisPlatform.Origination.Conformance

/-!
# What is disbursed and what was agreed

`createPaymentTxn` takes the amount of the payment row from `advance_amount`; the supplier was shown
`net_payment_to_supplier`, which is less by the discount. The two agree exactly when the supplier has
accepted a pricing whose discount is less than one shilling.

What the supplier accepted is read off the history: the last acceptance, and the pricing that was in
force at that moment.
-/

namespace Ris.Origination

open Relational Concurrent Pricing

/-! ## What the supplier accepted -/

/-- The input of the invoice's last pricing. -/
def pricedInput (invoiceId : ℕ) (h : List (ℕ × Option Event)) : Option PricingCalculationInput :=
  h.findSome? fun x => x.2.bind (Event.priced? invoiceId)

/-- What an acceptance showed, and the pricing in force. -/
structure Acceptance where
  net : Option ℤ
  input : Option PricingCalculationInput
  deriving DecidableEq

/-- The last acceptance of the invoice's pricing. -/
def acceptance (invoiceId : ℕ) : List (ℕ × Option Event) → Option Acceptance
  | [] => none
  | (_, some (.pricingAccepted i net)) :: h =>
    if i = invoiceId then some ⟨net, pricedInput invoiceId h⟩ else acceptance invoiceId h
  | _ :: h => acceptance invoiceId h

/-- The input of the pricing that the supplier accepted. -/
def acceptedInput (invoiceId : ℕ) (h : List (ℕ × Option Event)) : Option PricingCalculationInput :=
  (acceptance invoiceId h).bind Acceptance.input

/-- The payment is of the amount that the supplier was shown and accepted: the advance less the
discount, as calculated. -/
def Agreed (h : List (ℕ × Option Event)) (p : Payment) : Prop :=
  ∃ input, acceptance p.invoiceId h = some ⟨some p.amount, some input⟩ ∧
    p.amount = (calculatePricing input).advanceAmount - (calculatePricing input).discountAmount

/-- The discount rate of a year, times 1e8. -/
def annualRateScaled (input : PricingCalculationInput) : ℤ :=
  toScaled input.bankCostRate + toScaled input.riskPremiumRate + toScaled input.risMarginRate

/-- The face value times the rate over the tenor is less than one shilling. -/
def Undiscounted (input : PricingCalculationInput) : Prop :=
  |input.faceValue| * (|annualRateScaled input * input.tenorDays| / daysPerYear) < precision

/-- A payment row is created only after the supplier has accepted a pricing without a discount. -/
def AcceptedUndiscounted : Cond World Event := fun s _ e =>
  ∀ p ∈ e.created?, ∃ input ∈ acceptedInput p.invoiceId s.hist, Undiscounted input

instance (input : PricingCalculationInput) : Decidable (Undiscounted input) := by
  unfold Undiscounted
  infer_instance

instance (h : List (ℕ × Option Event)) (p : Payment) : Decidable (Agreed h p) :=
  decidable_of_iff
    (∃ a ∈ acceptance p.invoiceId h, a.net = some p.amount ∧ ∃ input ∈ a.input,
      p.amount = (calculatePricing input).advanceAmount - (calculatePricing input).discountAmount) <| by
    constructor
    · rintro ⟨⟨_, _⟩, haccepted, rfl, input, rfl, hamount⟩
      exact ⟨input, haccepted, hamount⟩
    · rintro ⟨input, haccepted, hamount⟩
      exact ⟨_, haccepted, rfl, input, rfl, hamount⟩

instance (s : State World Event) (t : ℕ) (e : Event) : Decidable (AcceptedUndiscounted s t e) := by
  unfold AcceptedUndiscounted
  infer_instance

/-! ## The discount -/

/-- A truncated quotient is a quotient of absolute values, up to its sign. -/
theorem abs_tdiv (a b : ℤ) : |a.tdiv b| = |a| / |b| := by
  rw [Int.abs_eq_natAbs, Int.natAbs_tdiv, Int.abs_eq_natAbs, Int.abs_eq_natAbs, ← Int.natCast_ediv]
  rfl

/-- A truncated quotient by a positive number is zero exactly for what is smaller. -/
theorem tdiv_eq_zero_iff {a b : ℤ} (hb : 0 < b) : a.tdiv b = 0 ↔ |a| < b := by
  rw [← abs_eq_zero, abs_tdiv, abs_of_pos hb]
  constructor
  · intro hzero
    by_contra hle
    have hone : 1 ≤ |a| / b := Int.le_ediv_of_mul_le hb (by omega)
    omega
  · exact Int.ediv_eq_zero_of_lt (abs_nonneg a)

theorem discountAmount_eq_zero_iff (input : PricingCalculationInput) :
    (calculatePricing input).discountAmount = 0 ↔ Undiscounted input := by
  have hrate : |discountRateScaled input| = |annualRateScaled input * input.tenorDays| / daysPerYear := by
    rw [discountRateScaled, ← annualRateScaled, abs_tdiv]
    rfl
  have hprecision : 0 < precision := by decide
  rw [show (calculatePricing input).discountAmount
    = (input.faceValue * discountRateScaled input).tdiv precision from rfl,
    tdiv_eq_zero_iff hprecision, abs_mul, hrate, Undiscounted]

/-! ## History and rows -/

/-- The amounts of a row are those of this pricing. -/
structure Shows (priced : Option PricingCalculationInput) (r : Invoice) : Prop where
  advanceAmount : r.advanceAmount = priced.map fun u => (calculatePricing u).advanceAmount
  discountAmount : r.discountAmount = priced.map fun u => (calculatePricing u).discountAmount
  netPaymentToSupplier :
    r.netPaymentToSupplier = priced.map fun u => (calculatePricing u).netPaymentToSupplier

/-- No invoice has been priced. -/
def Unpriced (w : World) : Prop :=
  ∀ r ∈ w.invoices.rows,
    r.advanceAmount = none ∧ r.discountAmount = none ∧ r.netPaymentToSupplier = none

instance (w : World) : Decidable (Unpriced w) := by
  unfold Unpriced
  infer_instance

/-- What the history says of the rows, in a run from `w₀`. -/
structure Recorded (w₀ : World) (s : State World Event) : Prop where
  amounts : ∀ r ∈ s.store.invoices.rows, Shows (pricedInput r.id s.hist) r
  terms : ∀ invoiceId input, pricedInput invoiceId s.hist = some input → Terms w₀ invoiceId input
  accepted : ∀ invoiceId net input, acceptance invoiceId s.hist = some ⟨net, some input⟩ →
    Terms w₀ invoiceId input ∧ net = some (calculatePricing input).netPaymentToSupplier

theorem pricedInput_cons (invoiceId t : ℕ) (e : Event) (h : List (ℕ × Option Event)) :
    pricedInput invoiceId ((t, some e) :: h) =
      (e.priced? invoiceId).or (pricedInput invoiceId h) := by
  simp only [pricedInput, List.findSome?_cons, Option.bind_some]
  cases e.priced? invoiceId <;> rfl

theorem acceptance_cons (invoiceId t : ℕ) (e : Event) (h : List (ℕ × Option Event)) :
    (∃ net, e = .pricingAccepted invoiceId net ∧
      acceptance invoiceId ((t, some e) :: h) = some ⟨net, pricedInput invoiceId h⟩) ∨
      acceptance invoiceId ((t, some e) :: h) = acceptance invoiceId h := by
  cases e with
  | pricingAccepted i net =>
    by_cases hi : i = invoiceId
    · subst hi
      exact Or.inl ⟨net, rfl, if_pos rfl⟩
    · exact Or.inr (if_neg hi)
  | _ => exact Or.inr rfl

/-- A pricing sets the amounts of the row, and nothing else does. -/
theorem InvoiceStep.shows {e : Event} {r r' : Invoice} (h : InvoiceStep e r r')
    {priced : Option PricingCalculationInput} (hr : Shows priced r) :
    Shows ((e.priced? r.id).or priced) r' := by
  rcases h.amounts with ⟨input, now, he, rfl⟩ | ⟨hnone, hadvance, hdiscount, hnet⟩
  · rw [Event.priced?_eq_some.2 he, Option.some_or]
    exact ⟨by simp [setAmounts, pricingUpdate], by simp [setAmounts, pricingUpdate],
      by simp [setAmounts, pricingUpdate]⟩
  · rw [hnone, Option.none_or]
    exact ⟨hadvance.trans hr.advanceAmount, hdiscount.trans hr.discountAmount,
      hnet.trans hr.netPaymentToSupplier⟩

theorem Recorded.init {w₀ : World} (hw : Unpriced w₀) : Recorded w₀ ⟨w₀, []⟩ where
  amounts r hr := by
    obtain ⟨hadvance, hdiscount, hnet⟩ := hw r hr
    exact ⟨hadvance, hdiscount, hnet⟩
  terms _ _ h := by cases h
  accepted _ _ _ h := by cases h

/-- The step lemma: rows and history keep telling the same. -/
theorem Recorded.step {w₀ w' : World} {s : State World Event} {t : ℕ} {e : Event}
    (h : Recorded w₀ s) (hinv : Inv w₀ s.store) (heff : Effect w₀ s.store e w') :
    Recorded w₀ (s.record t (some e) w') where
  amounts r' hr' := by
    obtain ⟨r, hr, hstep⟩ := heff.invoices.exists_of_mem hr'
    rw [State.record_hist, pricedInput_cons, hstep.id]
    exact hstep.shows (h.amounts r hr)
  terms invoiceId input hpriced := by
    rw [State.record_hist, pricedInput_cons] at hpriced
    cases he : e.priced? invoiceId with
    | none =>
      rw [he, Option.none_or] at hpriced
      exact h.terms invoiceId input hpriced
    | some input' =>
      rw [he, Option.some_or, Option.some.injEq] at hpriced
      subst hpriced
      exact heff.priced invoiceId _ (Event.priced?_eq_some.1 he)
  accepted invoiceId net input haccepted := by
    rw [State.record_hist] at haccepted
    rcases acceptance_cons invoiceId t e s.hist with ⟨net', rfl, hnew⟩ | hold
    · rw [hnew, Option.some.injEq, Acceptance.mk.injEq] at haccepted
      obtain ⟨rfl, hpriced⟩ := haccepted
      have hterms := h.terms invoiceId input hpriced
      refine ⟨hterms, ?_⟩
      -- the invoice has terms, so it has a row, and the acceptance read it
      have hface := (hinv.faceValue invoiceId).trans hterms.faceValue
      obtain ⟨r, hr, -⟩ := Option.map_eq_some_iff.1 hface
      have hid : r.id = invoiceId := Table.key_of_get? hr
      rw [heff.shown invoiceId _ rfl, hr, Option.bind_some,
        (h.amounts r (Table.mem_of_get? hr)).netPaymentToSupplier, hid, hpriced]
      rfl
    · rw [hold] at haccepted
      exact h.accepted invoiceId net input haccepted

/-! ## Payments -/

/-- Without prices in `w₀`, an advance amount is the one of the terms. -/
theorem Advance.terms {w₀ : World} (hw : Unpriced w₀) {invoiceId : ℕ} {amount : ℤ}
    (h : Advance w₀ invoiceId amount) :
    ∃ input, Terms w₀ invoiceId input ∧ (calculatePricing input).advanceAmount = amount := by
  rcases h with ⟨r, hr, hamount⟩ | hterms
  · rw [(hw r (Table.mem_of_get? hr)).1] at hamount
    cases hamount
  · exact hterms

/-- A payment row is of the agreed amount exactly if the accepted pricing has no discount. -/
theorem Recorded.agreed_iff {w₀ : World} (hw : Unpriced w₀) {s : State World Event}
    (h : Recorded w₀ s) {p : Payment} (hadvance : Advance w₀ p.invoiceId p.amount) :
    Agreed s.hist p ↔ ∃ input ∈ acceptedInput p.invoiceId s.hist, Undiscounted input := by
  obtain ⟨input₀, hterms₀, hamount⟩ := hadvance.terms hw
  constructor
  · rintro ⟨input, haccepted, hnet⟩
    refine ⟨input, by rw [acceptedInput, haccepted]; rfl, ?_⟩
    have hsame := (h.accepted _ _ _ haccepted).1.advanceAmount_eq hterms₀
    rw [← discountAmount_eq_zero_iff]
    omega
  · rintro ⟨input, hinput, hundiscounted⟩
    obtain ⟨⟨net, input'⟩, haccepted, rfl⟩ := Option.bind_eq_some_iff.1 hinput
    obtain ⟨hterms, rfl⟩ := h.accepted _ _ _ haccepted
    have hsame := hterms.advanceAmount_eq hterms₀
    have hzero := (discountAmount_eq_zero_iff input).2 hundiscounted
    have hnet : (calculatePricing input).netPaymentToSupplier = p.amount := by
      rw [show (calculatePricing input).netPaymentToSupplier =
        (calculatePricing input).advanceAmount - (calculatePricing input).discountAmount from rfl]
      omega
    exact ⟨input, by rw [haccepted, hnet], by omega⟩

/-- Every payment row that the step adds is of the agreed amount. -/
def PaysAgreed (s s' : State World Event) : Prop :=
  ∀ p ∈ s'.store.payments.rows, p ∉ s.store.payments.rows → Agreed s.hist p

instance (s s' : State World Event) : Decidable (PaysAgreed s s') := by
  unfold PaysAgreed
  infer_instance

/-- The step lemma: the rows that a step adds are of the agreed amount exactly if it meets the
condition. -/
theorem Recorded.paysAgreed_iff {w₀ w' : World} (hw : Unpriced w₀) {s : State World Event} {t : ℕ}
    {e : Event} (h : Recorded w₀ s) (heff : Effect w₀ s.store e w') :
    PaysAgreed s (s.record t (some e) w') ↔ AcceptedUndiscounted s t e := by
  cases hcreated : e.created? with
  | none =>
    refine iff_of_true ?_ ?_
    · intro p hp hnew
      rw [State.record_store, heff.unpaid hcreated] at hp
      exact absurd hp hnew
    · simp [AcceptedUndiscounted, hcreated]
  | some p =>
    obtain ⟨hinsert, hadvance, -⟩ := heff.paid p hcreated
    have hiff := h.agreed_iff hw hadvance
    have hfresh : p ∉ s.store.payments.rows := fun hp => Table.key_ne_of_insert? hinsert hp rfl
    constructor
    · intro hpays q hq
      obtain rfl : p = q := by
        rw [hcreated] at hq
        exact Option.some.inj hq
      exact hiff.1 (hpays p ((Table.mem_insert? hinsert).2 (Or.inr rfl)) hfresh)
    · intro hcond q hq hnew
      rcases (Table.mem_insert? hinsert).1 hq with hold | rfl
      · exact absurd hold hnew
      · exact hiff.2 (hcond q (by rw [hcreated]; rfl))

/-! ## Runs -/

/-- **Disbursed as agreed.** From a state in which no invoice is priced, the runs along which every new
payment row is of the amount that the supplier accepted are exactly those in which payment rows are
created only after the acceptance of a pricing without a discount. -/
theorem disbursed_as_agreed_iff (cfg : Config) (w : World) (hw : Unpriced w)
    (s : Sys World Input Event RisError) :
    Relation.ReflTransGen
      (fun s s' => Step (program cfg) always s s' ∧ PaysAgreed s.toState s'.toState)
      (Sys.init w) s ↔ Reaches (program cfg) AcceptedUndiscounted (Sys.init w) s := by
  refine Protocol.runs_iff (program_implements w cfg) (Inv.init w) (P := Recorded w)
    (R := PaysAgreed) (.init hw) ?_ ?_ ?_ ?_ s
  · exact fun s _ p hp hnew => absurd hp hnew
  · intro s t d _ hmove p hp hnew
    obtain rfl : d = s.store := hmove.effect
    exact absurd hp hnew
  · exact fun s t e d hs hmove => hs.paysAgreed_iff hw hmove.effect
  · intro s t e d hs hmove _
    cases e with
    | some e => exact hs.step hmove.inv hmove.effect
    | none =>
      obtain rfl : d = s.store := hmove.effect
      exact ⟨hs.amounts, hs.terms, hs.accepted⟩

/-- An invoice due on the day it is priced has no discount: its payment is of the agreed amount. -/
theorem agreed_of_undiscounted_run :
    ∃ s : Sys World Input Event RisError, s.store.payments.rows.map Payment.amount = [800000] ∧
      Relation.ReflTransGen
        (fun s s' => Step (program {}) always s s' ∧ PaysAgreed s.toState s'.toState)
        (Sys.init (scoredWorld 0)) s := by
  obtain ⟨s, hs, hP⟩ := exists_reaches (program {}) AcceptedUndiscounted (Sys.init (scoredWorld 0))
    (priceAlone 0 ++ acceptAlone 1 ++ approveAlone 2 ++ initiateAlone 3)
    (fun s => s.store.payments.rows.map Payment.amount = [800000]) (by decide +kernel)
  exact ⟨s, of_decide_eq_true hP,
    (disbursed_as_agreed_iff {} (scoredWorld 0) (by decide) s).2 hs⟩

/-- Priced, accepted, approved and initiated in this order: the supplier accepted 775,343, and the
payment row is of 800,000. -/
theorem advance_disbursed_undiminished :
    Unpriced (scoredWorld 90) ∧ ∃ s s' : Sys World Input Event RisError,
      Reaches (program {}) always (Sys.init (scoredWorld 90)) s ∧ Step (program {}) always s s' ∧
        ¬PaysAgreed s.toState s'.toState ∧
        (acceptance 1 s.hist).bind Acceptance.net = some 775343 ∧
        s'.store.payments.rows.map Payment.amount = [800000] := by
  obtain ⟨s, s', hs, hs', hP⟩ := exists_step (program {}) always (Sys.init (scoredWorld 90))
    (priceAlone 0 ++ acceptAlone 1 ++ approveAlone 2 ++ (initiateAlone 3).take 7)
    (.move 3 { uuid := 1 })
    (fun s s' => ¬PaysAgreed s.toState s'.toState ∧
      (acceptance 1 s.hist).bind Acceptance.net = some 775343 ∧
      s'.store.payments.rows.map Payment.amount = [800000]) (by decide +kernel)
  exact ⟨by decide, s, s', hs, hs', of_decide_eq_true hP⟩

end Ris.Origination
