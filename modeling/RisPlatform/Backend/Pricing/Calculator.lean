import RisPlatform.Backend.Collections.Columns
import RisPlatform.Invoices.Repository

/-!
# `calculator.py`

The price of an invoice, and the figures that are stored when it is created or priced. The operations on
decimals have 28 significant digits; the floats of the breakdown are taken to be the decimals.
-/

namespace Ris.Backend.Pricing

open Backend.Collections
open Backend.Invoices (RiskGrade)

/-! ## Tenor -/

/-- `date.toordinal()`, from another day on. -/
def ordinal (d : DateTime) : ℤ := (Ris.Invoices.CivilDate.mk d.year.val d.month.val d.day.val).toDays

/-- Calculate tenor horizon in days; the column of the due date is not null. -/
def calculateTenorDays (invoice : Invoices.Invoice) : ℤ :=
  max (ordinal invoice.dueDate - ordinal invoice.issueDate) 1

/-! ## The calculator -/

/-- `premium_map`; the default for other texts is not reached. -/
def premiumMap : RiskGrade → ℚ
  | .low => 3 / 2
  | .medium => 11 / 4
  | .high => 9 / 2
  | .critical => 13 / 2

structure Breakdown where
  baseBenchmarkRatePct : ℚ
  riskPremiumRatePct : ℚ
  platformMarginPct : ℚ
  totalAnnualDiscountRatePct : ℚ
  tenorDays : ℤ
  advanceRatePct : ℚ
  advanceAmountUgx : ℚ
  discountFeeUgx : ℚ
  netAdvanceUgx : ℚ
  faceValueUgx : ℚ

/-- The fee for the time before it is rounded to cents. -/
def discountFee (faceValue totalAnnualRate : ℚ) (tenorDays : ℤ) : ℚ :=
  let tenorFactor := fix (tenorDays / 365)
  fix (fix (faceValue * fix (totalAnnualRate / 100)) * tenorFactor)

def calculateInvoicePricing (invoice : Invoices.Invoice) (riskGrade : RiskGrade) : Breakdown :=
  let faceValue := invoice.faceValueUgx
  let tenorDays := calculateTenorDays invoice
  let baseRate : ℚ := 12
  let riskPremium := premiumMap riskGrade
  let platformMargin : ℚ := 2
  let totalAnnualRate := fix (fix (baseRate + riskPremium) + platformMargin)
  let advanceRate : ℚ := if riskGrade = .low then 85 else 80
  let advanceAmount := fix (fix (faceValue * advanceRate) / 100)
  let discountFee := DecimalContext.quantize 2 (discountFee faceValue totalAnnualRate tenorDays)
  let netAdvance := fix (advanceAmount - discountFee)
  { baseBenchmarkRatePct := baseRate
    riskPremiumRatePct := riskPremium
    platformMarginPct := platformMargin
    totalAnnualDiscountRatePct := totalAnnualRate
    tenorDays := tenorDays
    advanceRatePct := advanceRate
    advanceAmountUgx := advanceAmount
    discountFeeUgx := discountFee
    netAdvanceUgx := if netAdvance < 0 then 0 else netAdvance
    faceValueUgx := faceValue }

/-- `invoice.save()` with the figures of the breakdown: nothing is saved if a column refuses one. The
breakdown itself is stored as well, as JSON, and left out here. -/
def savePricing (invoice : Invoices.Invoice) (pricing : Breakdown) : Option Invoices.Invoice := do
  let advanceAmount ← numeric pricing.advanceAmountUgx
  let discountFee ← numeric pricing.discountFeeUgx
  let netAdvance ← numeric pricing.netAdvanceUgx
  return { invoice with
    advanceRatePct := pricing.advanceRatePct
    advanceAmountUgx := advanceAmount
    discountFeeUgx := discountFee
    netAdvanceUgx := netAdvance }

/-- `create`, from the risk grade on. -/
def createPriced (invoice : Invoices.Invoice) (riskGrade : RiskGrade) : Option Invoices.Invoice :=
  savePricing { invoice with riskGrade := riskGrade } (calculateInvoicePricing invoice riskGrade)

/-! ## Whole numbers -/

/-- The annual rate of a grade, in hundredths of a percent. -/
def annualRate : RiskGrade → ℤ
  | .low => 1550
  | .medium => 1675
  | .high => 1850
  | .critical => 2050

/-- The advance rate of a grade, in percent. -/
def advanceRate : RiskGrade → ℤ
  | .low => 85
  | .medium => 80
  | .high => 80
  | .critical => 80

section Exact

variable {invoice : Invoices.Invoice} {F : ℤ} {grade : RiskGrade}

theorem totalAnnualRate_eq (grade : RiskGrade) :
    fix (fix (12 + premiumMap grade) + 2) = annualRate grade / 100 := by
  have hsum : fix (12 + premiumMap grade) = 12 + premiumMap grade := by
    refine fix_of_digits (m := annualRate grade - 200) 2 ?_ ?_
    · cases grade <;> norm_num [premiumMap, annualRate]
    · cases grade <;> norm_num [annualRate]
  have htotal : fix (12 + premiumMap grade + 2) = 12 + premiumMap grade + 2 := by
    refine fix_of_digits (m := annualRate grade) 2 ?_ ?_
    · cases grade <;> norm_num [premiumMap, annualRate]
    · cases grade <;> norm_num [annualRate]
  rw [hsum, htotal]
  cases grade <;> norm_num [premiumMap, annualRate]

theorem abs_annualRate_le (grade : RiskGrade) : 0 < annualRate grade ∧ annualRate grade ≤ 2050 := by
  cases grade <;> decide

theorem advanceRate_le (grade : RiskGrade) : 0 < advanceRate grade ∧ advanceRate grade ≤ 85 := by
  cases grade <;> decide

theorem advanceAmountUgx_eq (invoice : Invoices.Invoice) (grade : RiskGrade) :
    (calculateInvoicePricing invoice grade).advanceAmountUgx =
      fix (fix (invoice.faceValueUgx * advanceRate grade) / 100) := by
  have hrate : (if grade = .low then 85 else 80 : ℚ) = advanceRate grade := by
    cases grade <;> simp [advanceRate]
  simp only [calculateInvoicePricing, hrate]

theorem discountFeeUgx_eq (invoice : Invoices.Invoice) (grade : RiskGrade) :
    (calculateInvoicePricing invoice grade).discountFeeUgx = DecimalContext.quantize 2
      (discountFee invoice.faceValueUgx (annualRate grade / 100) (calculateTenorDays invoice)) := by
  simp only [calculateInvoicePricing, totalAnnualRate_eq]

theorem netAdvanceUgx_eq (invoice : Invoices.Invoice) (grade : RiskGrade) :
    (calculateInvoicePricing invoice grade).netAdvanceUgx =
      max (fix ((calculateInvoicePricing invoice grade).advanceAmountUgx -
        (calculateInvoicePricing invoice grade).discountFeeUgx)) 0 := by
  rw [max_def_lt]
  rfl

/-- The advance has four places after the point. -/
theorem fix_advance (grade : RiskGrade) (hF : |F| < 10 ^ 18) :
    fix (fix ((F : ℚ) / 100 * advanceRate grade) / 100) = F * advanceRate grade / 10 ^ 4 := by
  obtain ⟨hpos, hle⟩ := advanceRate_le grade
  have hdigits : |F * advanceRate grade| < 10 ^ 28 := by
    rw [abs_mul, abs_of_pos hpos]
    nlinarith [abs_nonneg F]
  have hproduct : fix ((F : ℚ) / 100 * advanceRate grade) = F / 100 * advanceRate grade := by
    refine fix_of_digits (m := F * advanceRate grade) 2 ?_ hdigits
    push_cast
    ring
  rw [hproduct]
  refine (fix_of_digits (m := F * advanceRate grade) 4 ?_ hdigits).trans ?_
  · push_cast
    ring
  · ring

end Exact

end Ris.Backend.Pricing
