import RisPlatform.Backend.Pricing.Calculator

/-!
# Better invoices score and pay no less

`scorer.py` is the evaluation of an invoice by five factors. The weights are taken to be exact; the ratio of the face value
to the credit limit is a float, as the bounds that it is compared with are.

Each factor is monotone, but for the concentration at a credit limit that is missing: it counts as one of
which a little more than half is used, so that a limit of which more is used is scored lower. Each rounding
is monotone, and so are the grade and the price.
-/

namespace Ris.Backend.RiskEngine

open Backend.Invoices (RiskGrade)
open Backend.Pricing (calculateTenorDays calculateInvoicePricing annualRate advanceRate)

/-- The columns of `Buyer` that are read. -/
structure Buyer where
  creditLimit : ℚ := 1000000000
  creditRating : Text := "A".toList

/-- The column of `Supplier` that is read. -/
structure Supplier where
  totalInvoices : ℕ := 0

structure Factors where
  buyerRatingScore : ℤ
  buyerRating : Text
  tenorScore : ℤ
  tenorDays : ℤ
  supplierTrackScore : ℤ
  supplierInvoicesCount : ℕ
  concentrationScore : ℤ
  collateralScore : ℤ
  compositeScore : ℤ
  riskGrade : RiskGrade

/-! ## The factors -/

def ratingScores : List (Text × ℤ) :=
  [("AAA".toList, 95), ("AA".toList, 90), ("A".toList, 82), ("BBB".toList, 72), ("BB".toList, 58),
    ("B".toList, 42), ("CCC".toList, 25)]

def buyerScore (creditRating : Text) : ℤ := (ratingScores.lookup creditRating).getD 75

def tenorScore (tenorDays : ℤ) : ℤ :=
  if tenorDays ≤ 30 then 95
  else if tenorDays ≤ 60 then 85
  else if tenorDays ≤ 90 then 70
  else 50

def trackScore (totalInvoices : ℕ) : ℤ :=
  if 10 ≤ totalInvoices then 92
  else if 5 ≤ totalInvoices then 82
  else if 1 ≤ totalInvoices then 72
  else 65

/-- `float(face_value / credit_limit)`. -/
def concentrationRatio (faceValue creditLimit : ℚ) : ℚ := Binary64.round (fix (faceValue / creditLimit))

def concentrationScore (faceValue creditLimit : ℚ) : ℤ :=
  if 0 < creditLimit then
    if concentrationRatio faceValue creditLimit ≤ Binary64.round (1 / 10) then 95
    else if concentrationRatio faceValue creditLimit ≤ Binary64.round (1 / 4) then 85
    else if concentrationRatio faceValue creditLimit ≤ Binary64.round (1 / 2) then 70
    else 55
  else 60

def collateralScore (noticeOfAssignmentSigned : Bool) : ℤ := if noticeOfAssignmentSigned then 85 else 75

/-! ## The evaluation -/

def composite (buyerScore tenorScore trackScore concentrationScore collateralScore : ℤ) : ℚ :=
  buyerScore * (35 / 100) + tenorScore * (20 / 100) + trackScore * (20 / 100) +
    concentrationScore * (15 / 100) + collateralScore * (10 / 100)

def riskGrade (finalScore : ℤ) : RiskGrade :=
  if 80 ≤ finalScore then .low
  else if 65 ≤ finalScore then .medium
  else if 50 ≤ finalScore then .high
  else .critical

def evaluateInvoiceRisk (invoice : Invoices.Invoice) (buyer : Buyer) (supplier : Supplier) :
    ℤ × RiskGrade × Factors :=
  let tenorDays := calculateTenorDays invoice
  let buyerScore := buyerScore buyer.creditRating
  let tenorScore := tenorScore tenorDays
  let trackScore := trackScore supplier.totalInvoices
  let concentrationScore := concentrationScore invoice.faceValueUgx buyer.creditLimit
  let collateralScore := collateralScore invoice.noticeOfAssignmentSigned
  let finalScore := Binary64.roundEven
    (composite buyerScore tenorScore trackScore concentrationScore collateralScore)
  (finalScore, riskGrade finalScore,
    { buyerRatingScore := buyerScore
      buyerRating := buyer.creditRating
      tenorScore := tenorScore
      tenorDays := tenorDays
      supplierTrackScore := trackScore
      supplierInvoicesCount := supplier.totalInvoices
      concentrationScore := concentrationScore
      collateralScore := collateralScore
      compositeScore := finalScore
      riskGrade := riskGrade finalScore })

/-! ## Better invoices -/

/-- What an evaluation reads. -/
structure Application where
  invoice : Invoices.Invoice
  buyer : Buyer
  supplier : Supplier

def Application.score (a : Application) : ℤ := (evaluateInvoiceRisk a.invoice a.buyer a.supplier).1

def Application.grade (a : Application) : RiskGrade := (evaluateInvoiceRisk a.invoice a.buyer a.supplier).2.1

/-- The first differs from the second in nothing that is worse. -/
structure Improves (better other : Application) : Prop where
  tenor : calculateTenorDays better.invoice ≤ calculateTenorDays other.invoice
  invoices : other.supplier.totalInvoices ≤ better.supplier.totalInvoices
  limit : other.buyer.creditLimit ≤ better.buyer.creditLimit
  face : better.invoice.faceValueUgx ≤ other.invoice.faceValueUgx
  rating : better.buyer.creditRating = other.buyer.creditRating
  notice : better.invoice.noticeOfAssignmentSigned = other.invoice.noticeOfAssignmentSigned

/-- The second has no credit limit, and the first has one of which more than half is used. -/
def OverMissing (better other : Application) : Prop :=
  other.buyer.creditLimit ≤ 0 ∧ 0 < better.buyer.creditLimit ∧
    1 / 2 < concentrationRatio better.invoice.faceValueUgx better.buyer.creditLimit

/-! ## The score -/

theorem tenorScore_anti {t t' : ℤ} (h : t ≤ t') : tenorScore t' ≤ tenorScore t := by
  unfold tenorScore
  split_ifs <;> omega

theorem trackScore_mono {n n' : ℕ} (h : n ≤ n') : trackScore n ≤ trackScore n' := by
  unfold trackScore
  split_ifs <;> omega

theorem riskGrade_mono {s s' : ℤ} (h : s ≤ s') :
    advanceRate (riskGrade s) ≤ advanceRate (riskGrade s') ∧
      annualRate (riskGrade s') ≤ annualRate (riskGrade s) := by
  unfold riskGrade
  split_ifs <;> first | decide | omega

theorem concentrationScore_of_ratio {face face' limit limit' : ℚ} (hlimit : 0 < limit)
    (hlimit' : 0 < limit')
    (h : concentrationRatio face' limit' ≤ concentrationRatio face limit) :
    concentrationScore face limit ≤ concentrationScore face' limit' := by
  unfold concentrationScore
  rw [if_pos hlimit, if_pos hlimit']
  split_ifs
  all_goals first | omega | exact absurd (h.trans ‹_›) ‹_›

/-- With limits, the concentration is monotone, also for face values that are negative. -/
theorem concentrationScore_mono {face face' limit limit' : ℚ} (hlimit : 0 < limit) (hle : limit ≤ limit')
    (hface : face' ≤ face) : concentrationScore face limit ≤ concentrationScore face' limit' := by
  have hlimit' := hlimit.trans_le hle
  rcases le_or_gt 0 face' with hnonneg | hneg
  · refine concentrationScore_of_ratio hlimit hlimit' ?_
    refine Binary64.round_mono (DecimalContext.round_mono (by norm_num) ?_)
    exact div_le_div₀ (hnonneg.trans hface) hface hlimit hle
  · -- a negative ratio has the highest score
    have hratio : concentrationRatio face' limit' ≤ 0 := by
      have hfix : fix (face' / limit') ≤ 0 :=
        DecimalContext.round_nonpos (div_neg_of_neg_of_pos hneg hlimit').le
      have h := Binary64.round_mono hfix
      rwa [Binary64.round_zero] at h
    have hbest : concentrationScore face' limit' = 95 := by
      unfold concentrationScore
      rw [if_pos hlimit', if_pos (hratio.trans (Binary64.round_nonneg (by norm_num)))]
    rw [hbest]
    unfold concentrationScore
    split_ifs <;> omega

theorem round_half : Binary64.round (1 / 2) = 1 / 2 := by decide +kernel

/-- What counts for a missing limit is at most what counts for one of which at most half is used. -/
theorem concentrationScore_of_missing {face face' limit limit' : ℚ} (hlimit : limit ≤ 0)
    (hused : 0 < limit' → concentrationRatio face' limit' ≤ 1 / 2) :
    concentrationScore face limit ≤ concentrationScore face' limit' := by
  unfold concentrationScore
  rw [if_neg hlimit.not_gt]
  split
  · next hpos =>
    have hhalf := hused hpos
    rw [← round_half] at hhalf
    split_ifs <;> omega
  · exact le_rfl

theorem composite_mono {b t t' r r' c c' k : ℤ} (ht : t ≤ t') (hr : r ≤ r') (hc : c ≤ c') :
    composite b t r c k ≤ composite b t' r' c' k := by
  have ht' : (t : ℚ) ≤ t' := by exact_mod_cast ht
  have hr' : (r : ℚ) ≤ r' := by exact_mod_cast hr
  have hc' : (c : ℚ) ≤ c' := by exact_mod_cast hc
  unfold composite
  linarith

theorem score_mono {better other : Application} (h : Improves better other)
    (hover : ¬OverMissing better other) : other.score ≤ better.score := by
  have hconcentration :
      concentrationScore other.invoice.faceValueUgx other.buyer.creditLimit ≤
        concentrationScore better.invoice.faceValueUgx better.buyer.creditLimit := by
    rcases lt_or_ge 0 other.buyer.creditLimit with hpos | hmissing
    · exact concentrationScore_mono hpos h.limit h.face
    · refine concentrationScore_of_missing hmissing fun hpos => ?_
      by_contra hused
      exact hover ⟨hmissing, hpos, not_le.1 hused⟩
  have hcomposite := composite_mono (b := buyerScore other.buyer.creditRating)
    (k := collateralScore other.invoice.noticeOfAssignmentSigned)
    (tenorScore_anti h.tenor) (trackScore_mono h.invoices) hconcentration
  unfold Application.score evaluateInvoiceRisk
  rw [h.rating, h.notice]
  exact Binary64.roundEven_mono hcomposite

/-! ## The price -/

section Price

variable {invoice : Invoices.Invoice} {grade grade' : RiskGrade}

theorem advanceAmount_mono (hface : 0 ≤ invoice.faceValueUgx)
    (h : advanceRate grade ≤ advanceRate grade') :
    (calculateInvoicePricing invoice grade).advanceAmountUgx ≤
      (calculateInvoicePricing invoice grade').advanceAmountUgx := by
  have hcast : (advanceRate grade : ℚ) ≤ advanceRate grade' := by exact_mod_cast h
  rw [Pricing.advanceAmountUgx_eq, Pricing.advanceAmountUgx_eq]
  exact fix_mono (div_le_div_of_nonneg_right (fix_mono (mul_le_mul_of_nonneg_left hcast hface)) (by norm_num))

theorem discountFee_mono (hface : 0 ≤ invoice.faceValueUgx) (h : annualRate grade' ≤ annualRate grade) :
    (calculateInvoicePricing invoice grade').discountFeeUgx ≤
      (calculateInvoicePricing invoice grade).discountFeeUgx := by
  have hcast : (annualRate grade' : ℚ) ≤ annualRate grade := by exact_mod_cast h
  have htenor : (0 : ℚ) ≤ calculateTenorDays invoice := by
    exact_mod_cast (Int.one_pos.le.trans (le_max_right _ _) : 0 ≤ calculateTenorDays invoice)
  rw [Pricing.discountFeeUgx_eq, Pricing.discountFeeUgx_eq]
  refine DecimalContext.quantize_mono 2 (fix_mono ?_)
  refine mul_le_mul_of_nonneg_right (fix_mono (mul_le_mul_of_nonneg_left (fix_mono ?_) hface))
    (DecimalContext.round_nonneg (div_nonneg htenor (by norm_num)))
  linarith

/-- A higher advance and a lower fee leave a net advance that is not lower. -/
theorem netAdvance_mono (hface : 0 ≤ invoice.faceValueUgx)
    (hadvance : advanceRate grade ≤ advanceRate grade')
    (hannual : annualRate grade' ≤ annualRate grade) :
    (calculateInvoicePricing invoice grade).netAdvanceUgx ≤
      (calculateInvoicePricing invoice grade').netAdvanceUgx := by
  rw [Pricing.netAdvanceUgx_eq, Pricing.netAdvanceUgx_eq]
  apply max_le_max_right
  exact fix_mono (sub_le_sub (advanceAmount_mono hface hadvance) (discountFee_mono hface hannual))

end Price

/-- An application that is better in nothing that is worse has a score that is not lower, and at its grade
no invoice is paid less. -/
theorem risk_monotone (better other : Application) (h : Improves better other)
    (hover : ¬OverMissing better other) :
    other.score ≤ better.score ∧ ∀ invoice : Invoices.Invoice, 0 ≤ invoice.faceValueUgx →
      (calculateInvoicePricing invoice other.grade).netAdvanceUgx ≤
        (calculateInvoicePricing invoice better.grade).netAdvanceUgx := by
  have hscore := score_mono h hover
  obtain ⟨hadvance, hannual⟩ := riskGrade_mono hscore
  exact ⟨hscore, fun invoice hface => netAdvance_mono hface hadvance hannual⟩

/-! ## Samples -/

/-- Of the second of January 2026, with this face value, and due on the first of a month. -/
def sampleInvoice (faceValueUgx : ℚ) (year month : ℕ) : Invoices.Invoice where
  id := 1
  supplier := 1
  buyer := 1
  faceValueUgx := faceValueUgx
  issueDate := DateTime.ofNat 2026 1 2 0 0 0 0
  dueDate := DateTime.ofNat year month 1 0 0 0 0

/-- An application of a supplier with so many invoices, to a buyer of the best rating. -/
def sample (invoice : Invoices.Invoice) (creditLimit : ℚ) (totalInvoices : ℕ) : Application where
  invoice := invoice
  buyer := { creditLimit := creditLimit, creditRating := "AAA".toList }
  supplier := { totalInvoices := totalInvoices }

/-- Due two months earlier, with more invoices behind it. -/
theorem sample_monotone :
    (sample (sampleInvoice 100000000 2026 4) 1000000000 0).score ≤
        (sample (sampleInvoice 100000000 2026 2) 1000000000 5).score ∧
      ∀ invoice : Invoices.Invoice, 0 ≤ invoice.faceValueUgx →
        (calculateInvoicePricing invoice
          (sample (sampleInvoice 100000000 2026 4) 1000000000 0).grade).netAdvanceUgx ≤
          (calculateInvoicePricing invoice
            (sample (sampleInvoice 100000000 2026 2) 1000000000 5).grade).netAdvanceUgx := by
  refine risk_monotone _ _ ⟨by decide, by decide, le_rfl, le_rfl, rfl, rfl⟩ ?_
  rintro ⟨hmissing, -⟩
  exact absurd hmissing (by decide +kernel)

/-- A credit limit of one shilling scores less than none; and with a face value that is negative, the better
of two suppliers is paid less after six years. -/
theorem not_risk_monotone :
    (Improves (sample (sampleInvoice 100000000 2026 2) 1 0) (sample (sampleInvoice 100000000 2026 2) 0 0) ∧
      (sample (sampleInvoice 100000000 2026 2) 1 0).score = 81 ∧
      (sample (sampleInvoice 100000000 2026 2) 0 0).score = 82) ∧
    (Improves (sample (sampleInvoice (-100000000) 2032 1) 1000000000 10)
        (sample (sampleInvoice (-100000000) 2032 1) 1000000000 0) ∧
      (calculateInvoicePricing (sampleInvoice (-100000000) 2032 1)
        (sample (sampleInvoice (-100000000) 2032 1) 1000000000 10).grade).netAdvanceUgx <
      (calculateInvoicePricing (sampleInvoice (-100000000) 2032 1)
        (sample (sampleInvoice (-100000000) 2032 1) 1000000000 0).grade).netAdvanceUgx) := by
  refine ⟨⟨⟨le_rfl, le_rfl, by decide +kernel, le_rfl, rfl, rfl⟩, by decide +kernel, by decide +kernel⟩,
    ⟨le_rfl, by decide, le_rfl, le_rfl, rfl, rfl⟩, by decide +kernel⟩

end Ris.Backend.RiskEngine
