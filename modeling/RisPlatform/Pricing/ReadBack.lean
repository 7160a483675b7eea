import RisPlatform.Common.Binary64Decimal
import RisPlatform.Pricing.Decisions

/-!
# A stored price reads back

`priceInvoice` computes from the rates of the facility and the buyer, and stores them in columns of
four decimals. `getPricing` computes again from the columns. The rates come from columns of the same
type, so they survive the way through a double and back, and both compute the same amounts. The total
discount rate is stored with six of its eight decimals.
-/

namespace Ris.Pricing

open Relational Concurrent

/-! ## Rates of four decimals -/

/-- A value of a `NUMERIC(5,4)` column. -/
def Numeric54 (q : ℚ) : Prop := (q * 10 ^ 4).den = 1 ∧ |q| < 10

/-- The rates that a price is computed from are values of their columns. -/
def RatesTyped (w : World) : Prop :=
  (∀ f ∈ w.bankFacilities.rows, Numeric54 f.interestRateAnnual) ∧
    ∀ b ∈ w.buyers.rows, Numeric54 b.risMarginRate

instance (q : ℚ) : Decidable (Numeric54 q) := by
  unfold Numeric54
  infer_instance

instance (w : World) : Decidable (RatesTyped w) := by
  unfold RatesTyped
  infer_instance

/-- The column gets back the rate that the double was read from. -/
theorem Numeric54.numeric_round {q : ℚ} (h : Numeric54 q) :
    Binary64.numeric 4 (Binary64.round q) = q := by
  obtain ⟨hden, hbound⟩ := h
  have hnum : ((q * 10 ^ 4).num : ℚ) = q * 10 ^ 4 := Rat.coe_int_num_of_den_eq_one hden
  have hq : q = ((q * 10 ^ 4).num : ℚ) / 10 ^ 4 := by
    rw [hnum, mul_div_cancel_right₀ _ (by norm_num)]
  have hsmall : |(q * 10 ^ 4).num| < 2 ^ 48 := by
    have hcast : |((q * 10 ^ 4).num : ℚ)| < 2 ^ 48 := by
      rw [hnum, abs_mul, abs_of_pos (by norm_num : (0 : ℚ) < 10 ^ 4)]
      linarith
    exact_mod_cast hcast
  have hstored := @Binary64.numeric_round 4 _ hsmall
  rwa [← hq] at hstored

/-! ## The row that is read -/

/-- The first element with `p`, rewritten so that it has `q`, is the first one with `q` if the elements
without `p` do not get it. -/
theorem find?_map_of_find? {α : Type} {l : List α} {p q : α → Bool} {f : α → α} {a : α}
    (h : l.find? p = some a) (hq : q (f a) = true) (hno : ∀ b, p b = false → q (f b) = false) :
    (l.map f).find? q = some (f a) := by
  induction l with
  | nil => cases h
  | cons b l ih =>
    by_cases hb : p b = true
    · rw [List.find?_cons_of_pos hb, Option.some.injEq] at h
      subst h
      rw [List.map_cons, List.find?_cons_of_pos hq]
    · rw [List.find?_cons_of_neg hb] at h
      have hfb := hno b (by simpa using hb)
      rw [List.map_cons, List.find?_cons_of_neg (by simp [hfb]), ih h]

/-- What `persistPricing` leaves for `getPricingDetails`. -/
structure Stored (invoiceId : ℕ) (input : PricingCalculationInput) (invoice : Invoice) (w : World) :
    Prop where
  row : ∃ riskScore row, getPricingDetails invoiceId w =
      some (setScorePricing (pricingUpdate input) riskScore, row) ∧
    riskScore.invoiceId = invoiceId ∧
    Binary64.round riskScore.maxAdvancePct = input.maxAdvancePct ∧
    Binary64.round riskScore.riskPremiumRate = input.riskPremiumRate ∧
    row.faceValue = invoice.faceValue ∧ row.tenorDays = invoice.tenorDays ∧
    row.dueDate = invoice.dueDate
  faceValue : invoice.faceValue = input.faceValue
  tenorDays : invoice.tenorDays = some input.tenorDays

/-- Jobs are not part of a price. -/
theorem Stored.of_jobs {invoiceId : ℕ} {input : PricingCalculationInput} {invoice : Invoice}
    {w : World} (h : Stored invoiceId input invoice w) (jobs : List Job) :
    Stored invoiceId input invoice { w with jobs := jobs } :=
  ⟨h.row, h.faceValue, h.tenorDays⟩

/-- The commit of `persistPricing` stores the price of the invoice whose first score it is. -/
theorem stored_of_persistPricing {invoiceId : ℕ} {input : PricingCalculationInput} {invoice : Invoice}
    {riskScore : RiskScore} {i : Input} {w w' : World} {u : Unit}
    (hinvoice : w.invoices.get? invoiceId = some invoice)
    (hscore : getRiskScoreForPricing invoiceId w = some riskScore)
    (hpct : Binary64.round riskScore.maxAdvancePct = input.maxAdvancePct)
    (hpremium : Binary64.round riskScore.riskPremiumRate = input.riskPremiumRate)
    (hface : invoice.faceValue = input.faceValue) (htenor : invoice.tenorDays = some input.tenorDays)
    (h : persistPricingTxn invoiceId riskScore.id (pricingUpdate input) i w = .ok (u, w')) :
    Stored invoiceId input invoice w' := by
  have hw' := persistPricingTxn_ok h
  have hfound : w.riskScores.rows.find? (fun r => r.invoiceId = invoiceId) = some riskScore := hscore
  have howner : riskScore.invoiceId = invoiceId := by simpa using List.find?_some hfound
  -- the score that was found is the first with a price now
  have hread : w'.riskScores.find? (fun r => r.invoiceId = invoiceId ∧ r.bankCostRate ≠ none) =
      some (setScorePricing (pricingUpdate input) riskScore) := by
    rw [hw', Table.find?, Table.rows_update,
      find?_map_of_find? (f := fun r => if decide (r.id = riskScore.id) = true then
        setScorePricing (pricingUpdate input) r else r) hfound ?_ ?_]
    · simp
    · simp [setScorePricing, howner]
    · intro b hb
      have hne : b.invoiceId ≠ invoiceId := by simpa using hb
      split <;> simp [setScorePricing, hne]
  have hrow : ∃ row, w'.invoices.get? invoiceId = some row ∧ row.faceValue = invoice.faceValue ∧
      row.tenorDays = invoice.tenorDays ∧ row.dueDate = invoice.dueDate := by
    rw [hw']
    dsimp only
    rw [moveById, Table.get?_update, updateById, Table.get?_update, hinvoice]
    refine ⟨_, rfl, ?_⟩
    dsimp only
    split <;> split <;> exact ⟨rfl, rfl, rfl⟩
  obtain ⟨row, hget, hrow⟩ := hrow
  refine ⟨⟨riskScore, row, ?_, howner, hpct, hpremium, hrow⟩, hface, htenor⟩
  simp only [getPricingDetails, hread, hget, Option.bind_eq_bind, Option.bind_some]
  rfl

/-! ## The two results -/

/-- `getPricing` returned what `priceInvoice` had returned: all amounts, rates and fees. Of the
breakdown only the percentage that is derived from the total discount rate may differ. -/
structure ReadsBack (p : PricingResult) (g : PricingDetails) : Prop where
  invoiceId : g.invoiceId = p.invoiceId
  faceValue : g.faceValue = p.input.faceValue
  advanceAmount : g.advanceAmount = p.calcResult.advanceAmount
  discountAmount : g.discountAmount = p.calcResult.discountAmount
  netPaymentToSupplier : g.netPaymentToSupplier = p.calcResult.netPaymentToSupplier
  bankCostRate : g.bankCostRate = p.input.bankCostRate
  riskPremiumRate : g.riskPremiumRate = p.input.riskPremiumRate
  risMarginRate : g.risMarginRate = p.input.risMarginRate
  totalDiscountRate : g.totalDiscountRate =
    some (Binary64.round (Binary64.numeric 6 p.calcResult.totalDiscountRate))
  bankCostAmount : g.bankCostAmount = p.calcResult.bankCostAmount
  risNetProfit : g.risNetProfit = p.calcResult.risNetProfit
  feeBreakdown : { g.feeBreakdown with discountPercentage := p.feeBreakdown.discountPercentage } =
    p.feeBreakdown

/-- A rate that came from a column of four decimals is read back from one. -/
def Survives (rate : ℚ) : Prop := Binary64.round (Binary64.numeric 4 rate) = rate

theorem Numeric54.survives {q : ℚ} (h : Numeric54 q) : Survives (Binary64.round q) := by
  rw [Survives, h.numeric_round]

/-- What `priceInvoice` returns for the input. -/
def pricingResult (invoiceId : ℕ) (input : PricingCalculationInput) (dueDate : ℤ) : PricingResult where
  invoiceId := invoiceId
  input := input
  calcResult := calculatePricing input
  feeBreakdown := buildFeeBreakdown input (calculatePricing input) dueDate

/-- The row of a price whose rates survive reads as that price. -/
theorem readPricing_setScorePricing {input : PricingCalculationInput} {riskScore : RiskScore}
    {row : Invoice} (hbank : Survives input.bankCostRate) (hmargin : Survives input.risMarginRate)
    (hpct : Binary64.round riskScore.maxAdvancePct = input.maxAdvancePct)
    (hpremium : Binary64.round riskScore.riskPremiumRate = input.riskPremiumRate)
    (hface : row.faceValue = input.faceValue) (htenor : row.tenorDays = some input.tenorDays) :
    ∃ g, readPricing (setScorePricing (pricingUpdate input) riskScore) row = .ok g ∧
      ReadsBack (pricingResult riskScore.invoiceId input row.dueDate) g := by
  have hbank' : toFinite (setScorePricing (pricingUpdate input) riskScore).bankCostRate =
      .ok input.bankCostRate := congrArg Except.ok hbank
  have hmargin' : toFinite (setScorePricing (pricingUpdate input) riskScore).risMarginRate =
      .ok input.risMarginRate := congrArg Except.ok hmargin
  have htenor' : toBigInt row.tenorDays = .ok input.tenorDays := by
    rw [htenor]
    rfl
  unfold readPricing
  rw [hbank', hmargin', htenor', hface]
  refine ⟨_, rfl, ?_⟩
  simp only [setScorePricing, hpct, hpremium]
  exact ⟨rfl, rfl, rfl, rfl, rfl, rfl, rfl, rfl, rfl, rfl, rfl, rfl⟩

/-- From a stored price whose rates survive, `getPricing` returns it. -/
theorem Stored.getPricing {invoiceId : ℕ} {input : PricingCalculationInput} {invoice : Invoice}
    {w : World} (h : Stored invoiceId input invoice w) (hbank : Survives input.bankCostRate)
    (hmargin : Survives input.risMarginRate) :
    (getPricing invoiceId).Ends Healthy
      (fun g w' => w' = w ∧ ReadsBack (pricingResult invoiceId input invoice.dueDate) g)
      (fun _ _ => False) w := by
  obtain ⟨riskScore, row, hread, howner, hpct, hpremium, hface, htenor, hdue⟩ := h.row
  obtain ⟨g, hg, hback⟩ := readPricing_setScorePricing hbank hmargin hpct hpremium
    (hface.trans h.faceValue) (htenor.trans h.tenorDays)
  rw [howner, hdue] at hback
  refine ends_query_bind.2 ?_
  rw [hread]
  refine ends_bind_ok (a := (_, row)) rfl ?_
  dsimp only
  rw [hg]
  exact ⟨rfl, hback⟩

/-! ## A pricing alone -/

section Alone

variable {cfg : Config} {w : World} {invoiceId : ℕ}

/-- Every input. -/
abbrev anyInput (_ : Input) : Prop := True

theorem ends_fetchAndValidateInvoice :
    (fetchAndValidateInvoice invoiceId).Ends anyInput
      (fun invoice w' => w' = w ∧ w.invoices.get? invoiceId = some invoice) (fun _ _ => True) w := by
  refine ends_bind_query ?_ fun _ => trivial
  unfold getInvoiceForPricing
  cases w.invoices.get? invoiceId with
  | none => trivial
  | some invoice =>
    unfold validateInvoice
    dsimp only
    split
    · trivial
    · exact ⟨rfl, rfl⟩

theorem ends_fetchAndValidateRiskScore :
    (fetchAndValidateRiskScore invoiceId).Ends anyInput
      (fun score w' => w' = w ∧ getRiskScoreForPricing invoiceId w = some score) (fun _ _ => True) w := by
  refine ends_bind_query ?_ fun _ => trivial
  cases getRiskScoreForPricing invoiceId w with
  | none => trivial
  | some score =>
    unfold validateRiskScore
    dsimp only
    split
    · trivial
    · exact ⟨rfl, rfl⟩

theorem ends_fetchActiveFacility :
    fetchActiveFacility.Ends anyInput (fun facility w' => w' = w ∧ facility ∈ w.bankFacilities.rows)
      (fun _ _ => True) w := by
  refine Proc.Ends.bind (R := fun found w' => w' = w ∧ ∀ f ∈ found, f ∈ w.bankFacilities.rows)
    (Proc.ends_transaction ?_ fun _ _ _ _ => trivial) ?_
  · intro i found w' _ h
    simp only [Txn.bind_ok, connect_ok, Txn.input_ok, Txn.read_ok] at h
    obtain ⟨_, _, ⟨-, rfl⟩, _, _, ⟨-, rfl⟩, rfl, rfl⟩ := h
    refine ⟨rfl, fun f hf => ?_⟩
    have hbest := (List.mem_filter.1 (List.mem_of_getElem? hf)).1
    exact (List.mem_filter.1 hbest).1
  · rintro found _ ⟨rfl, hmem⟩
    cases found with
    | none => trivial
    | some facility => exact ⟨rfl, hmem facility rfl⟩

theorem ends_fetchBuyerMargin {buyerId : ℕ} :
    (fetchBuyerMargin buyerId).Ends anyInput
      (fun margin w' => w' = w ∧ ∃ b ∈ w.buyers.rows, b.risMarginRate = margin) (fun _ _ => True) w := by
  refine ends_bind_query ?_ fun _ => trivial
  unfold getBuyerRisMargin
  cases hbuyer : w.buyers.get? buyerId with
  | none => trivial
  | some buyer => exact ⟨rfl, buyer, Table.mem_of_get? hbuyer, rfl⟩

/-- A log line leaves the store. -/
theorem ends_log {action : String} :
    (log action).Ends anyInput (fun _ w' => w' = w) (fun _ _ => True) w := by
  refine Proc.ends_transaction (fun i u w' _ h => ?_) fun _ _ _ _ => trivial
  exact (connect_ok.1 h).2.symm

/-- Enqueueing adds to the jobs. -/
theorem ends_enqueueOrWarn {job : Job} {warning : String} :
    (enqueueOrWarn cfg job warning).Ends anyInput (fun _ w' => ∃ jobs, w' = { w with jobs := jobs })
      (fun _ _ => True) w := by
  unfold enqueueOrWarn
  split
  · refine Proc.ends_transaction (fun i u w' _ h => ?_) fun _ _ _ _ => trivial
    simp only [Txn.bind_ok, connect_ok, Txn.write_ok] at h
    obtain ⟨_, _, ⟨-, rfl⟩, rfl⟩ := h
    exact ⟨_, rfl⟩
  · exact ends_log.mono (fun _ _ h => ⟨w.jobs, h⟩) fun _ _ _ => trivial

/-- However its statements go, a pricing that returns has stored what it returns, and its rates
survive. -/
theorem ends_priceInvoice (hw : RatesTyped w) :
    (priceInvoice cfg invoiceId).Ends anyInput
      (fun p w' => ∃ input invoice, p = pricingResult invoiceId input invoice.dueDate ∧
        Stored invoiceId input invoice w' ∧ Survives input.bankCostRate ∧ Survives input.risMarginRate)
      (fun _ _ => True) w := by
  refine ends_fetchAndValidateInvoice.bind ?_
  rintro invoice _ ⟨rfl, hinvoice⟩
  refine ends_fetchAndValidateRiskScore.bind ?_
  rintro score _ ⟨rfl, hscore⟩
  refine ends_fetchActiveFacility.bind ?_
  rintro facility _ ⟨rfl, hfacility⟩
  refine ends_fetchBuyerMargin.bind ?_
  rintro margin w ⟨rfl, buyer, hbuyer, rfl⟩
  cases htenor : invoice.tenorDays with
  | none => trivial
  | some tenorDays =>
    refine ends_bind_ok (a := tenorDays) rfl ?_
    refine ends_bind_check fun _ => ?_
    refine Proc.Ends.bind (R := fun _ w' => Stored invoiceId
      { faceValue := invoice.faceValue
        tenorDays
        maxAdvancePct := Binary64.round score.maxAdvancePct
        riskPremiumRate := Binary64.round score.riskPremiumRate
        bankCostRate := Binary64.round facility.interestRateAnnual
        risMarginRate := Binary64.round buyer.risMarginRate } invoice w')
      (Proc.ends_transaction ?_ fun _ _ _ _ => trivial) ?_
    · intro i u w' _ h
      simp only [Txn.bind_ok, connect_ok] at h
      obtain ⟨_, _, ⟨-, rfl⟩, h⟩ := h
      exact stored_of_persistPricing hinvoice hscore rfl rfl rfl htenor h
    rintro _ w₁ hstored
    refine ends_log.bind ?_
    rintro _ _ rfl
    refine ends_enqueueOrWarn.bind ?_
    rintro _ _ ⟨jobs, rfl⟩
    exact ⟨_, invoice, rfl, hstored.of_jobs jobs, (hw.1 facility hfacility).survives,
      (hw.2 buyer hbuyer).survives⟩

end Alone

/-! ## The round trip -/

/-- **Stored pricing reads back.** However the statements of `priceInvoice` go, if it returns a price,
`getPricing` afterwards returns the same amounts, rates and fees. -/
theorem stored_pricing_reads_back (cfg : Config) (w : World) (hw : RatesTyped w) (invoiceId : ℕ) :
    (priceInvoice cfg invoiceId).Ends anyInput
      (fun p w' => (getPricing invoiceId).Ends Healthy (fun g w'' => w'' = w' ∧ ReadsBack p g)
        (fun _ _ => False) w')
      (fun _ _ => True) w := by
  refine (ends_priceInvoice hw).mono ?_ fun _ _ _ => trivial
  rintro p w' ⟨input, invoice, rfl, hstored, hbank, hmargin⟩
  exact hstored.getPricing hbank hmargin

/-! ## A small world -/

/-- The invoice before it is priced, with a score, a buyer and a facility. -/
def unpricedWorld : World :=
  { offerWorld with
    invoices := .single
      { offeredInvoice with
        advanceAmount := none, discountAmount := none, netPaymentToSupplier := none, status := .scored }
    buyers := .single { id := 1, risMarginRate := mkRat 2 100 }
    riskScores := .single
      { id := 1, invoiceId := 1, finalScore := 80, maxAdvancePct := mkRat 80 100
        riskPremiumRate := mkRat 3 100, bankCostRate := none, risMarginRate := none
        totalDiscountRate := none, advanceAmount := none, discountAmount := none
        netPaymentToSupplier := none }
    bankFacilities := .single
      { id := 1, facilityName := "Facility", bankName := "Bank", totalLimit := 5000000
        drawnAmount := 0, annualRate := mkRat 5 100, interestRateAnnual := mkRat 5 100
        maturityDate := 365
        status := .active, isActive := true } }

/-- The pricing of this invoice goes through, and reads back. -/
theorem pricing_reads_back_of_scored :
    (∃ s : Sys World Input Event RisError, Reaches (program {}) always (Sys.init unpricedWorld) s ∧
      (getPricingDetails 1 s.store).isSome = true) ∧
    (priceInvoice {} 1).Ends anyInput
      (fun p w' => (getPricing 1).Ends Healthy (fun g w'' => w'' = w' ∧ ReadsBack p g)
        (fun _ _ => False) w')
      (fun _ _ => True) unpricedWorld :=
  ⟨exists_reaches (program {}) always (Sys.init unpricedWorld)
      (Act.call (.priceInvoice 1) 0 (List.replicate 7 { now := 1 }))
      (fun s => (getPricingDetails 1 s.store).isSome) (by decide +kernel),
    stored_pricing_reads_back {} unpricedWorld (by decide +kernel) 1⟩

end Ris.Pricing
