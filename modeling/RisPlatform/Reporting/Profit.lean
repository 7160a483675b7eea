import RisPlatform.Reporting.Repository

/-!
# Totals of the profit reports

The totals are sums over joins. A second drawdown of an invoice, or a second collection that was collected,
repeats the row of the invoice, so that the totals count it more than once. Besides, nulls are coalesced in
different places: the gross profit is zero where nothing was drawn, and the net profit leaves out the
interest of an invoice without a discount. `adds_up_iff` says exactly when the totals are right.
-/

namespace Ris.Reporting

open Relational

/-! ## What the totals should be -/

def reported (w : World) : List Invoice := w.invoices.rows.filter isReported

/-- The invoices of the profit and loss. -/
def inScope (filters : ReportFilters) (w : World) : List Invoice := w.invoices.rows.filter (inPl filters)

def drawdownsOf (w : World) (invoices : List Invoice) : List FacilityDrawdown :=
  Sql.matched drawnFor invoices w.facilityDrawdowns.rows

def faceOf (invoices : List Invoice) : ℤ := Sql.total Invoice.faceValue invoices

def discountOf (invoices : List Invoice) : ℤ := Sql.total (fun i => i.discountAmount.getD 0) invoices

def interestOf (drawdowns : List FacilityDrawdown) : ℤ :=
  Sql.total FacilityDrawdown.accruedInterest drawdowns

/-- The gross profit is the difference of the totals, which count each invoice and each drawdown once. -/
structure PlAddsUp (filters : ReportFilters) (w : World) : Prop where
  gross : (getCompanyPl filters w).grossProfit =
    (getCompanyPl filters w).totalDiscountEarned - (getCompanyPl filters w).totalBankInterestCost
  face_once : (getCompanyPl filters w).totalFaceValueDiscounted = faceOf (inScope filters w)
  discount_once : (getCompanyPl filters w).totalDiscountEarned = discountOf (inScope filters w)
  interest_once :
    (getCompanyPl filters w).totalBankInterestCost = interestOf (drawdownsOf w (inScope filters w))

/-- The summary has the sums of the rows; a null counts nothing. -/
structure SumsRows (report : ProfitReport) : Prop where
  face : report.summary.totalFaceValue = Sql.total InvoiceProfitRow.faceValue report.invoices
  discount : report.summary.totalDiscount = Sql.total (fun r => r.discountAmount.getD 0) report.invoices
  penalty : report.summary.totalPenaltyIncome = Sql.total InvoiceProfitRow.penaltyIncome report.invoices
  revenue : report.summary.totalRevenue =
    Sql.total (fun r => (r.discountAmount.map (· + r.penaltyIncome)).getD 0) report.invoices
  interest :
    report.summary.totalBankInterest = Sql.total InvoiceProfitRow.bankInterestCost report.invoices
  net : report.summary.totalNetProfit = Sql.total (fun r => r.netRisProfit.getD 0) report.invoices

/-- The net profit is the difference of the totals, which are the sums of the rows and count each invoice
and each drawdown once. -/
structure ReportAddsUp (w : World) : Prop where
  net : (getProfitReport w).summary.totalNetProfit =
    (getProfitReport w).summary.totalRevenue - (getProfitReport w).summary.totalBankInterest
  rows : SumsRows (getProfitReport w)
  face_once : (getProfitReport w).summary.totalFaceValue = faceOf (reported w)
  discount_once : (getProfitReport w).summary.totalDiscount = discountOf (reported w)
  interest_once : (getProfitReport w).summary.totalBankInterest = interestOf (drawdownsOf w (reported w))

/-- The invoice has one drawdown at most, and one collection at most that was collected. -/
def Single (w : World) (i : Invoice) : Prop :=
  (Sql.partners drawnFor w.facilityDrawdowns.rows i).length ≤ 1 ∧
    (Sql.partners collectedFor w.collections.rows i).length ≤ 1

instance (w : World) (i : Invoice) : Decidable (Single w i) := inferInstanceAs (Decidable (_ ∧ _))

/-- The rows repeat no invoice, and no null hides an amount. -/
structure Regular (filters : ReportFilters) (w : World) : Prop where
  single : ∀ i ∈ reported w, Single w i
  undiscounted : interestOf (drawdownsOf w ((reported w).filter fun i => i.discountAmount = none)) = 0
  undrawn : drawdownsOf w (inScope filters w) = [] → discountOf (inScope filters w) = 0
  unpriced : (∀ i ∈ inScope filters w, i.discountAmount = none) →
    interestOf (drawdownsOf w (inScope filters w)) = 0

variable {filters : ReportFilters} {w : World}

/-! ## Sums over the joins -/

/-- A drawdown is that of one invoice. -/
theorem drawnFor_disjoint (p : Invoice → Bool) :
    (w.invoices.rows.filter p).Pairwise fun i i' => ∀ fd, ¬(drawnFor i fd = true ∧ drawnFor i' fd = true) := by
  have hids : w.invoices.rows.Pairwise fun i i' => i.id ≠ i'.id := List.pairwise_map.1 w.invoices.keys_nodup
  refine (hids.filter p).imp ?_
  rintro i i' hne fd ⟨h, h'⟩
  exact hne ((of_decide_eq_true h).symm.trans (of_decide_eq_true h'))

theorem total_interest (p : Invoice → Bool) :
    Sql.total (fun r => r.2.elim 0 FacilityDrawdown.accruedInterest)
        (Sql.leftJoin drawnFor (w.invoices.rows.filter p) w.facilityDrawdowns.rows) =
      interestOf (drawdownsOf w (w.invoices.rows.filter p)) := by
  rw [Sql.total_leftJoin_snd fun _ => FacilityDrawdown.accruedInterest,
    Sql.total_partners (drawnFor_disjoint p)]
  rfl

theorem getD_map_interest (fd : Option FacilityDrawdown) :
    (fd.map FacilityDrawdown.accruedInterest).getD 0 = fd.elim 0 FacilityDrawdown.accruedInterest := by
  cases fd with
  | none => rfl
  | some fd => rfl

/-! ## Profit and loss -/

theorem totalFaceValueDiscounted_eq :
    (getCompanyPl filters w).totalFaceValueDiscounted =
      Sql.total (fun r => r.1.faceValue) (plJoin filters w) :=
  Sql.sum_getD _ _

theorem totalDiscountEarned_eq :
    (getCompanyPl filters w).totalDiscountEarned =
      Sql.total (fun r => r.1.discountAmount.getD 0) (plJoin filters w) :=
  Sql.sum_getD _ _

/-- The profit and loss has no second join, so that its interest is always right. -/
theorem totalBankInterestCost_eq :
    (getCompanyPl filters w).totalBankInterestCost = interestOf (drawdownsOf w (inScope filters w)) := by
  rw [inScope, ← total_interest]
  simp only [← getD_map_interest]
  exact Sql.sum_getD _ _

/-- A difference of sums that are null where they have no value. -/
theorem getD_map₂_sub_iff (a b : Option ℤ) :
    (Option.map₂ (· - ·) a b).getD 0 = a.getD 0 - b.getD 0 ↔
      (b = none → a.getD 0 = 0) ∧ (a = none → b.getD 0 = 0) := by
  cases a with
  | none => cases b with
    | none => simp
    | some b => simp [eq_comm]
  | some a => cases b with
    | none => simp [eq_comm]
    | some b => simp

theorem discount_eq_none_iff :
    Sql.sum ((plJoin filters w).map fun r => r.1.discountAmount) = none ↔
      ∀ i ∈ inScope filters w, i.discountAmount = none := by
  rw [Sql.sum_eq_none_iff, List.forall_mem_map]
  exact Sql.forall_leftJoin_fst (P := fun i : Invoice => i.discountAmount = none)

theorem interest_eq_none_iff :
    Sql.sum ((plJoin filters w).map fun r => r.2.map FacilityDrawdown.accruedInterest) = none ↔
      drawdownsOf w (inScope filters w) = [] := by
  rw [Sql.sum_eq_none_iff, List.forall_mem_map, drawdownsOf, Sql.matched_eq_nil_iff]
  simp only [Option.map_eq_none_iff]
  exact Sql.forall_leftJoin_snd

theorem gross_iff :
    (getCompanyPl filters w).grossProfit =
      (getCompanyPl filters w).totalDiscountEarned - (getCompanyPl filters w).totalBankInterestCost ↔
    (drawdownsOf w (inScope filters w) = [] → (getCompanyPl filters w).totalDiscountEarned = 0) ∧
      ((∀ i ∈ inScope filters w, i.discountAmount = none) →
        (getCompanyPl filters w).totalBankInterestCost = 0) := by
  rw [← interest_eq_none_iff, ← discount_eq_none_iff]
  exact getD_map₂_sub_iff _ _

/-! ## The rows of the report -/

/-- The order of the rows does not matter for a sum over them. -/
theorem total_rows (f : InvoiceProfitRow → ℤ) :
    Sql.total f (getProfitReport w).invoices = Sql.total (fun r => f r.row) (profitJoin w) := by
  have hperm := (profitJoin w).perm_insertionSort fun r r' => r'.invoice.createdAt ≤ r.invoice.createdAt
  exact (Sql.total_map f ProfitJoin.row _).trans (Sql.total_perm _ hperm)

theorem sumsRows : SumsRows (getProfitReport w) where
  face := (Sql.sum_getD _ _).trans (total_rows InvoiceProfitRow.faceValue).symm
  discount := (Sql.sum_getD _ _).trans (total_rows fun r => r.discountAmount.getD 0).symm
  penalty := (Sql.sum_getD _ _).trans (total_rows InvoiceProfitRow.penaltyIncome).symm
  revenue := (Sql.sum_getD _ _).trans
    (total_rows fun r => (r.discountAmount.map (· + r.penaltyIncome)).getD 0).symm
  interest := by
    refine (Sql.sum_getD _ _).trans ?_
    simp only [getD_map_interest]
    exact (total_rows InvoiceProfitRow.bankInterestCost).symm
  net := (Sql.sum_getD _ _).trans (total_rows fun r => r.netRisProfit.getD 0).symm

/-! ## The totals of the report -/

/-- Without a second drawdown and collection, a sum over the join is one over the invoices. -/
theorem total_profitJoin (h : ∀ i ∈ reported w, Single w i) (f : Invoice × Option FacilityDrawdown → ℤ) :
    Sql.total (fun r => f r.1) (profitJoin w) =
      Sql.total f (Sql.leftJoin drawnFor (reported w) w.facilityDrawdowns.rows) := by
  refine Sql.total_leftJoin_fst_of_le ?_ f
  exact Sql.forall_leftJoin_fst.2 fun i hi => (h i hi).2

theorem total_profitJoin_invoice (h : ∀ i ∈ reported w, Single w i) (f : Invoice → ℤ) :
    Sql.total (fun r => f r.invoice) (profitJoin w) = Sql.total f (reported w) := by
  refine (total_profitJoin h fun r => f r.1).trans ?_
  exact Sql.total_leftJoin_fst_of_le (fun i hi => (h i hi).1) f

/-- Face values are positive, so that a repeated one shows. -/
theorem face_once_iff (hface : ∀ i ∈ w.invoices.rows, 0 < i.faceValue) :
    (getProfitReport w).summary.totalFaceValue = faceOf (reported w) ↔ ∀ i ∈ reported w, Single w i := by
  have htotal : (getProfitReport w).summary.totalFaceValue =
      Sql.total (fun r => r.invoice.faceValue) (profitJoin w) := Sql.sum_getD _ _
  rw [htotal]
  constructor
  · intro h
    have hpos : ∀ i ∈ reported w, 0 < i.faceValue := fun i hi => hface i (List.mem_of_mem_filter hi)
    have hjoined : ∀ r ∈ Sql.leftJoin drawnFor (reported w) w.facilityDrawdowns.rows, 0 < r.1.faceValue :=
      Sql.forall_leftJoin_fst.2 hpos
    -- both joins keep the sum at least as large, so that neither makes it larger
    have hfirst : faceOf (reported w) ≤ Sql.total (fun r => r.1.faceValue)
        (Sql.leftJoin drawnFor (reported w) w.facilityDrawdowns.rows) :=
      Sql.total_le_total_leftJoin_fst fun i hi => (hpos i hi).le
    have hsecond : Sql.total (fun r => r.1.faceValue)
        (Sql.leftJoin drawnFor (reported w) w.facilityDrawdowns.rows) ≤
          Sql.total (fun r => r.invoice.faceValue) (profitJoin w) :=
      Sql.total_le_total_leftJoin_fst fun r hr => (hjoined r hr).le
    have hdrawdowns := le_antisymm (hsecond.trans h.le) hfirst
    have hcollections : ∀ r ∈ Sql.leftJoin drawnFor (reported w) w.facilityDrawdowns.rows,
        (Sql.partners collectedFor w.collections.rows r.1).length ≤ 1 :=
      (Sql.total_leftJoin_fst_eq_iff hjoined).1 (h.trans hdrawdowns.symm)
    intro i hi
    refine ⟨(Sql.total_leftJoin_fst_eq_iff hpos).1 hdrawdowns i hi, ?_⟩
    exact (Sql.forall_leftJoin_fst
      (P := fun i => (Sql.partners collectedFor w.collections.rows i).length ≤ 1)).1 hcollections i hi
  · intro h
    exact total_profitJoin_invoice h Invoice.faceValue

/-- The interest that the net profit leaves out. -/
def hiddenInterest (i : Invoice) (interest : ℤ) : ℤ := if i.discountAmount = none then interest else 0

theorem net_add_interest (r : ProfitJoin) :
    r.net.getD 0 + r.interest = r.revenue.getD 0 + hiddenInterest r.invoice r.interest := by
  unfold ProfitJoin.net ProfitJoin.revenue hiddenInterest
  cases r.invoice.discountAmount with
  | none => rfl
  | some discount =>
      rw [if_neg (Option.some_ne_none discount)]
      show discount + r.penalty - r.interest + r.interest = discount + r.penalty + 0
      omega

theorem totalBankInterest_eq :
    (getProfitReport w).summary.totalBankInterest = Sql.total ProfitJoin.interest (profitJoin w) := by
  refine (Sql.sum_getD _ _).trans ?_
  simp only [getD_map_interest]
  rfl

theorem net_iff :
    (getProfitReport w).summary.totalNetProfit =
      (getProfitReport w).summary.totalRevenue - (getProfitReport w).summary.totalBankInterest ↔
    Sql.total (fun r => hiddenInterest r.invoice r.interest) (profitJoin w) = 0 := by
  have hnet : (getProfitReport w).summary.totalNetProfit =
      Sql.total (fun r => r.net.getD 0) (profitJoin w) := Sql.sum_getD _ _
  have hrevenue : (getProfitReport w).summary.totalRevenue =
      Sql.total (fun r => r.revenue.getD 0) (profitJoin w) := Sql.sum_getD _ _
  have hsplit := Sql.total_add (fun r : ProfitJoin => r.net.getD 0) ProfitJoin.interest (profitJoin w)
  rw [Sql.total_congr fun r _ => net_add_interest r, Sql.total_add, ← hnet, ← hrevenue,
    ← totalBankInterest_eq] at hsplit
  omega

/-- On regular rows that is the interest of the invoices without a discount. -/
theorem total_hiddenInterest (h : ∀ i ∈ reported w, Single w i) :
    Sql.total (fun r => hiddenInterest r.invoice r.interest) (profitJoin w) =
      interestOf (drawdownsOf w ((reported w).filter fun i => i.discountAmount = none)) := by
  have hpush : ∀ x : Invoice × Option FacilityDrawdown,
      hiddenInterest x.1 (x.2.elim 0 FacilityDrawdown.accruedInterest) =
        x.2.elim 0 fun fd => hiddenInterest x.1 fd.accruedInterest := by
    rintro ⟨i, fd⟩
    cases fd with
    | none => exact ite_self 0
    | some fd => rfl
  -- the discount is the invoice's, so that all of its drawdowns are hidden or none
  have hinvoice : ∀ i ∈ reported w,
      Sql.total (fun fd => hiddenInterest i fd.accruedInterest)
          (Sql.partners drawnFor w.facilityDrawdowns.rows i) =
        if i.discountAmount = none then
          Sql.total FacilityDrawdown.accruedInterest (Sql.partners drawnFor w.facilityDrawdowns.rows i)
        else 0 := by
    intro i _
    unfold hiddenInterest
    split
    · rfl
    · exact (Sql.total_const 0 _).trans (nsmul_zero _)
  calc Sql.total (fun r => hiddenInterest r.invoice r.interest) (profitJoin w)
      = Sql.total (fun x => hiddenInterest x.1 (x.2.elim 0 FacilityDrawdown.accruedInterest))
          (Sql.leftJoin drawnFor (reported w) w.facilityDrawdowns.rows) :=
        total_profitJoin h fun x => hiddenInterest x.1 (x.2.elim 0 FacilityDrawdown.accruedInterest)
    _ = Sql.total (fun x => x.2.elim 0 fun fd => hiddenInterest x.1 fd.accruedInterest)
          (Sql.leftJoin drawnFor (reported w) w.facilityDrawdowns.rows) :=
        Sql.total_congr fun x _ => hpush x
    _ = Sql.total (fun i => Sql.total (fun fd => hiddenInterest i fd.accruedInterest)
          (Sql.partners drawnFor w.facilityDrawdowns.rows i)) (reported w) :=
        Sql.total_leftJoin_snd fun i (fd : FacilityDrawdown) => hiddenInterest i fd.accruedInterest
    _ = Sql.total (fun i => Sql.total FacilityDrawdown.accruedInterest
          (Sql.partners drawnFor w.facilityDrawdowns.rows i))
            ((reported w).filter fun i => i.discountAmount = none) := by
        rw [Sql.total_filter]
        simp only [decide_eq_true_eq]
        exact Sql.total_congr hinvoice
    _ = _ := Sql.total_partners ((drawnFor_disjoint isReported).filter _) _

/-! ## When the reports add up -/

/-- **Profit reports.** Both reports add up exactly where the rows are regular. -/
theorem adds_up_iff (filters : ReportFilters) (w : World) (hface : ∀ i ∈ w.invoices.rows, 0 < i.faceValue) :
    PlAddsUp filters w ∧ ReportAddsUp w ↔ Regular filters w := by
  constructor
  · rintro ⟨hpl, hreport⟩
    have hsingle := (face_once_iff hface).1 hreport.face_once
    obtain ⟨hundrawn, hunpriced⟩ := gross_iff.1 hpl.gross
    refine ⟨hsingle, ?_, ?_, ?_⟩
    · rw [← total_hiddenInterest hsingle]
      exact net_iff.1 hreport.net
    · rw [← hpl.discount_once]
      exact hundrawn
    · rw [← hpl.interest_once]
      exact hunpriced
  · intro h
    -- the profit and loss has a part of the invoices of the report
    have hscope : ∀ i ∈ inScope filters w, (Sql.partners drawnFor w.facilityDrawdowns.rows i).length ≤ 1 := by
      intro i hi
      obtain ⟨hmem, hin⟩ := List.mem_filter.1 hi
      have hreported : isReported i = true := by
        rw [inPl, Bool.and_eq_true, Bool.and_eq_true] at hin
        exact hin.1.1
      exact (h.single i (List.mem_filter.2 ⟨hmem, hreported⟩)).1
    have hdiscount : (getCompanyPl filters w).totalDiscountEarned = discountOf (inScope filters w) :=
      totalDiscountEarned_eq.trans
        (Sql.total_leftJoin_fst_of_le hscope fun i => i.discountAmount.getD 0)
    have hinterest : (getCompanyPl filters w).totalBankInterestCost =
        interestOf (drawdownsOf w (inScope filters w)) := totalBankInterestCost_eq
    refine ⟨⟨gross_iff.2 ⟨?_, ?_⟩, ?_, hdiscount, hinterest⟩, ⟨?_, sumsRows, ?_, ?_, ?_⟩⟩
    · rw [hdiscount]
      exact h.undrawn
    · rw [hinterest]
      exact h.unpriced
    · exact totalFaceValueDiscounted_eq.trans (Sql.total_leftJoin_fst_of_le hscope Invoice.faceValue)
    · rw [net_iff, total_hiddenInterest h.single]
      exact h.undiscounted
    · exact (face_once_iff hface).2 h.single
    · exact (Sql.sum_getD _ _).trans (total_profitJoin_invoice h.single fun i => i.discountAmount.getD 0)
    · rw [totalBankInterest_eq, reported, ← total_interest]
      exact total_profitJoin h.single fun x => x.2.elim 0 FacilityDrawdown.accruedInterest

/-- An invoice that was collected, with a discount of 20,000. -/
def collectedInvoice : Invoice where
  id := 1
  supplierId := 1
  buyerId := 1
  faceValue := 1000000
  advanceAmount := some 800000
  discountAmount := some 20000
  netPaymentToSupplier := some 780000
  status := .collected
  tenorDays := some 90
  dueDate := 90
  amlFlagged := false
  amlClearedAt := none
  pricingAcceptedAt := none
  pricingAcceptedBy := none
  pricingRejectedAt := none
  pricingRejectionReason := none
  pricingDisputedAt := none
  fundedAt := none

def repaidDrawdown (id : ℕ) : FacilityDrawdown where
  id := id
  facilityId := 1
  invoiceId := 1
  principal := 800000
  accruedInterest := 9000
  bankFees := 0
  status := .repaid
  drawdownDate := 0
  lastAccruedDate := 90

/-- The invoice without a drawdown. -/
def undrawnWorld : World := { World.empty with invoices := ⟨[collectedInvoice], by decide⟩ }

/-- The invoice with a drawdown and a collection. -/
def drawnWorld : World :=
  { undrawnWorld with
    facilityDrawdowns := ⟨[repaidDrawdown 1], by decide⟩
    collections :=
      ⟨[{ id := 1, invoiceId := 1, buyerId := 1, faceValue := 1000000, amountDue := 1000000
          status := .collected, daysOverdue := 3, dailyPenaltyRate := 0, penaltyAmount := 3000
          createdAt := 0 }], by decide⟩ }

/-- The invoice with a second drawdown. -/
def drawnTwiceWorld : World :=
  { drawnWorld with facilityDrawdowns := ⟨[repaidDrawdown 1, repaidDrawdown 2], by decide⟩ }

theorem adds_up_drawn : PlAddsUp {} drawnWorld ∧ ReportAddsUp drawnWorld := by
  refine (adds_up_iff {} drawnWorld (by decide)).2 ⟨by decide, by decide, by decide, by decide⟩

/-- Without a drawdown the gross profit is zero; with two of them each invoice counts twice. -/
theorem adds_up_fails : ¬ PlAddsUp {} undrawnWorld ∧ ¬ PlAddsUp {} drawnTwiceWorld ∧
    ¬ ReportAddsUp drawnTwiceWorld := by
  refine ⟨fun h => ?_, fun h => ?_, fun h => ?_⟩
  · exact absurd h.gross (by decide)
  · exact absurd h.face_once (by decide)
  · exact absurd h.face_once (by decide)

end Ris.Reporting
