import Mathlib.Tactic.LinearCombination
import RisPlatform.Common.Binary64Scaled
import RisPlatform.Pricing.Service

/-!
# The amounts of a price

`calculatePricing` truncates the discount rate over the tenor to eight places and then the discount to a
shilling; `buildFeeBreakdown` truncates each component once. For rates that are decimals of eight places the
amounts are in order and the discount is monotone (`pricing_sound`). The components and the discount differ
by what the truncated rate drops, times the face value: they reconcile exactly as long as this is within the
units that the components may drop (`components_reconcile_iff`).
-/

namespace Ris.Pricing

/-- A rate of eight places is scaled to the number of its parts. -/
theorem toScaled_round {k : ℕ} (hk : k < 2 ^ 48) : toScaled (Binary64.round (k / 10 ^ 8)) = k := by
  have hprecision : ((precision : ℤ) : ℚ) = ((10 ^ 8 : ℕ) : ℚ) := by norm_num [precision]
  have hparts : |(k : ℤ)| < 2 ^ 48 := by
    rw [Nat.abs_cast]
    exact_mod_cast hk
  have h := Binary64.nearestInt_mul_round (m := 10 ^ 8) (by norm_num) hparts
  rw [toScaled, hprecision]
  push_cast at h ⊢
  exact h

/-! ## The order of the amounts -/

/-- The terms of a price, the rates and the percentage in parts of `precision`. -/
structure Quote where
  faceValue : ℤ
  tenorDays : ℤ
  maxAdvancePct : ℕ
  riskPremiumRate : ℕ
  bankCostRate : ℕ
  risMarginRate : ℕ
  faceValue_pos : 0 < faceValue
  tenorDays_pos : 1 ≤ tenorDays
  tenorDays_le : tenorDays ≤ 365
  half_le_advance : 50000000 ≤ maxAdvancePct
  advance_le_one : maxAdvancePct ≤ 100000000
  total_le_cap : bankCostRate + riskPremiumRate + risMarginRate ≤ 15000000

namespace Quote

/-- The terms as JavaScript numbers. -/
def input (q : Quote) : PricingCalculationInput where
  faceValue := q.faceValue
  tenorDays := q.tenorDays
  maxAdvancePct := Binary64.round (q.maxAdvancePct / 10 ^ 8)
  riskPremiumRate := Binary64.round (q.riskPremiumRate / 10 ^ 8)
  bankCostRate := Binary64.round (q.bankCostRate / 10 ^ 8)
  risMarginRate := Binary64.round (q.risMarginRate / 10 ^ 8)

variable (q : Quote)

/-- The rate of a year. -/
def annualRate : ℤ := q.bankCostRate + q.riskPremiumRate + q.risMarginRate

theorem annualRate_nonneg : 0 ≤ q.annualRate := by
  unfold annualRate
  omega

theorem discountRateScaled_input :
    discountRateScaled q.input = (q.annualRate * q.tenorDays).tdiv daysPerYear := by
  have htotal := q.total_le_cap
  simp only [discountRateScaled, input]
  rw [toScaled_round, toScaled_round, toScaled_round, annualRate]
  · omega
  · omega
  · omega

theorem discountRateScaled_nonneg : 0 ≤ discountRateScaled q.input := by
  have htenor := q.tenorDays_pos
  rw [discountRateScaled_input]
  apply Int.tdiv_nonneg
  · exact mul_nonneg q.annualRate_nonneg (by omega)
  · decide

/-- No tenor is more than a year. -/
theorem discountRateScaled_le : discountRateScaled q.input ≤ q.annualRate := by
  have hle : q.annualRate * q.tenorDays ≤ q.annualRate * daysPerYear :=
    mul_le_mul_of_nonneg_left q.tenorDays_le q.annualRate_nonneg
  calc discountRateScaled q.input = (q.annualRate * q.tenorDays).tdiv daysPerYear :=
        q.discountRateScaled_input
    _ ≤ (q.annualRate * daysPerYear).tdiv daysPerYear := Int.tdiv_le_tdiv (by decide) hle
    _ = q.annualRate := Int.mul_tdiv_cancel _ (by decide)

theorem advanceAmount_input :
    (calculatePricing q.input).advanceAmount = (q.faceValue * q.maxAdvancePct).tdiv precision := by
  have hadvance := q.advance_le_one
  have hscaled := toScaled_round (k := q.maxAdvancePct) (by omega)
  show (q.faceValue * toScaled (Binary64.round (q.maxAdvancePct / 10 ^ 8))).tdiv precision = _
  rw [hscaled]

theorem discountAmount_nonneg : 0 ≤ (calculatePricing q.input).discountAmount := by
  have hface := q.faceValue_pos
  apply Int.tdiv_nonneg
  · exact mul_nonneg (by exact hface.le) q.discountRateScaled_nonneg
  · decide

/-- The rate is at most the cap, and that is less than the least advance. -/
theorem discountAmount_le_advanceAmount :
    (calculatePricing q.input).discountAmount ≤ (calculatePricing q.input).advanceAmount := by
  have hrate : discountRateScaled q.input ≤ q.maxAdvancePct := by
    have hle := q.discountRateScaled_le
    have htotal := q.total_le_cap
    have hhalf := q.half_le_advance
    unfold annualRate at hle
    omega
  rw [advanceAmount_input]
  exact Int.tdiv_le_tdiv (by decide) (mul_le_mul_of_nonneg_left hrate q.faceValue_pos.le)

theorem advanceAmount_le_faceValue : (calculatePricing q.input).advanceAmount ≤ q.faceValue := by
  have hadvance : (q.maxAdvancePct : ℤ) ≤ precision := by
    have h := q.advance_le_one
    unfold precision
    omega
  rw [advanceAmount_input]
  calc (q.faceValue * q.maxAdvancePct).tdiv precision ≤ (q.faceValue * precision).tdiv precision :=
        Int.tdiv_le_tdiv (by decide) (mul_le_mul_of_nonneg_left hadvance q.faceValue_pos.le)
    _ = q.faceValue := Int.mul_tdiv_cancel _ (by decide)

theorem bankCostAmount_nonneg : 0 ≤ (calculatePricing q.input).bankCostAmount := by
  have htenor := q.tenorDays_pos
  have htotal := q.total_le_cap
  have hrate : 0 ≤ (toScaled q.input.bankCostRate * q.tenorDays).tdiv daysPerYear := by
    show 0 ≤ (toScaled (Binary64.round (q.bankCostRate / 10 ^ 8)) * q.tenorDays).tdiv daysPerYear
    rw [toScaled_round (by omega)]
    apply Int.tdiv_nonneg
    · exact mul_nonneg (by omega) (by omega)
    · decide
  have hadvance := q.discountAmount_nonneg.trans q.discountAmount_le_advanceAmount
  apply Int.tdiv_nonneg
  · exact mul_nonneg hadvance hrate
  · decide

variable {q} {q' : Quote}

theorem discountAmount_mono (hface : q.faceValue ≤ q'.faceValue) (htenor : q.tenorDays ≤ q'.tenorDays)
    (hbank : q.bankCostRate ≤ q'.bankCostRate) (hrisk : q.riskPremiumRate ≤ q'.riskPremiumRate)
    (hris : q.risMarginRate ≤ q'.risMarginRate) :
    (calculatePricing q.input).discountAmount ≤ (calculatePricing q'.input).discountAmount := by
  have hannual : q.annualRate ≤ q'.annualRate := by
    unfold annualRate
    omega
  have hpos := q.tenorDays_pos
  have hrate : discountRateScaled q.input ≤ discountRateScaled q'.input := by
    rw [discountRateScaled_input, discountRateScaled_input]
    apply Int.tdiv_le_tdiv (by decide)
    exact mul_le_mul hannual htenor (by omega) q'.annualRate_nonneg
  apply Int.tdiv_le_tdiv (by decide)
  exact mul_le_mul hface hrate q.discountRateScaled_nonneg q'.faceValue_pos.le

end Quote

/-- The amounts of a price are in order and add up, and the discount is monotone in the face value, the
tenor and each rate. -/
theorem pricing_sound :
    (∀ q : Quote,
      0 ≤ (calculatePricing q.input).discountAmount ∧
        (calculatePricing q.input).discountAmount ≤ (calculatePricing q.input).advanceAmount ∧
        (calculatePricing q.input).advanceAmount ≤ q.faceValue ∧
        (calculatePricing q.input).netPaymentToSupplier =
          (calculatePricing q.input).advanceAmount - (calculatePricing q.input).discountAmount ∧
        0 ≤ (calculatePricing q.input).netPaymentToSupplier ∧
        0 ≤ (calculatePricing q.input).bankCostAmount ∧
        (calculatePricing q.input).risNetProfit =
          (calculatePricing q.input).discountAmount - (calculatePricing q.input).bankCostAmount) ∧
      ∀ q q' : Quote, q.faceValue ≤ q'.faceValue → q.tenorDays ≤ q'.tenorDays →
        q.bankCostRate ≤ q'.bankCostRate → q.riskPremiumRate ≤ q'.riskPremiumRate →
        q.risMarginRate ≤ q'.risMarginRate →
          (calculatePricing q.input).discountAmount ≤ (calculatePricing q'.input).discountAmount := by
  constructor
  · intro q
    exact ⟨q.discountAmount_nonneg, q.discountAmount_le_advanceAmount, q.advanceAmount_le_faceValue, rfl,
      sub_nonneg.2 q.discountAmount_le_advanceAmount, q.bankCostAmount_nonneg, rfl⟩
  · intro q q' hface htenor hbank hrisk hris
    exact Quote.discountAmount_mono hface htenor hbank hrisk hris

/-- An invoice of a hundred million over a month, and over a quarter. -/
def month : Quote where
  faceValue := 100000000
  tenorDays := 30
  maxAdvancePct := 90000000
  riskPremiumRate := 1000000
  bankCostRate := 10000000
  risMarginRate := 3000000
  faceValue_pos := by decide
  tenorDays_pos := by decide
  tenorDays_le := by decide
  half_le_advance := by decide
  advance_le_one := by decide
  total_le_cap := by decide

def quarter : Quote := { month with tenorDays := 90, tenorDays_pos := by decide, tenorDays_le := by decide }

theorem pricing_sound_quarter :
    (calculatePricing month.input).discountAmount ≤ (calculatePricing quarter.input).discountAmount ∧
      0 ≤ (calculatePricing month.input).discountAmount :=
  ⟨pricing_sound.2 month quarter (by decide) (by decide) (by decide) (by decide) (by decide),
    (pricing_sound.1 month).1⟩

/-! ## The components of the discount -/

/-- The components are natural numbers that add up to the discount, within one unit for each. -/
structure Reconciles (f : FeeBreakdown) : Prop where
  bankCost_nonneg : 0 ≤ f.bankCostComponent
  riskPremium_nonneg : 0 ≤ f.riskPremiumComponent
  risMargin_nonneg : 0 ≤ f.risMarginComponent
  sum_mem : |f.bankCostComponent + f.riskPremiumComponent + f.risMarginComponent - f.discountAmount| ≤ 3
  bankCost_le : f.bankCostComponent ≤ f.discountAmount + 3
  riskPremium_le : f.riskPremiumComponent ≤ f.discountAmount + 3
  risMargin_le : f.risMarginComponent ≤ f.discountAmount + 3

/-- The denominator of a component. -/
def feeUnit : ℤ := daysPerYear * precision

/-- What a rate contributes, over `feeUnit`. -/
def feeParts (input : PricingCalculationInput) (rate : ℚ) : ℤ :=
  input.faceValue * toScaled rate * input.tenorDays

/-- What the truncated discount rate drops, times the face value, over `feeUnit`. -/
def rateParts (input : PricingCalculationInput) : ℤ :=
  input.faceValue *
    ((toScaled input.bankCostRate + toScaled input.riskPremiumRate + toScaled input.risMarginRate) *
      input.tenorDays).tmod daysPerYear

/-- No rate takes a unit away, and the discount rate drops at most three units more than the components. -/
structure Fine (input : PricingCalculationInput) : Prop where
  bankCost : -feeUnit < feeParts input input.bankCostRate
  riskPremium : -feeUnit < feeParts input input.riskPremiumRate
  risMargin : -feeUnit < feeParts input input.risMarginRate
  dropped : rateParts input ≤
    3 * feeUnit + (feeParts input input.bankCostRate).tmod feeUnit +
      (feeParts input input.riskPremiumRate).tmod feeUnit +
      (feeParts input input.risMarginRate).tmod feeUnit

/-- A truncated quotient is negative from one unit below zero on. -/
theorem tdiv_nonneg_iff {a b : ℤ} (hb : 0 < b) : 0 ≤ a.tdiv b ↔ -b < a := by
  have hdiv := Int.tdiv_mul_add_tmod a b
  have hmod := Int.lt_tmod_of_pos a hb
  constructor
  · intro h
    have hprod : 0 ≤ a.tdiv b * b := mul_nonneg h hb.le
    omega
  · intro h
    by_contra hneg
    have hlt : a < 0 := by
      by_contra hnot
      exact hneg (Int.tdiv_nonneg (not_lt.1 hnot) hb.le)
    have hprod : a.tdiv b * b ≤ -b := by nlinarith
    have hnonpos : a.tmod b ≤ 0 := by
      have h := Int.tmod_nonneg b (a := -a) (by omega)
      rw [Int.neg_tmod] at h
      omega
    omega

/-- A truncated remainder has the sign of its dividend. -/
theorem tmod_nonpos {a : ℤ} (b : ℤ) (ha : a ≤ 0) : a.tmod b ≤ 0 := by
  have h := Int.tmod_nonneg b (a := -a) (by omega)
  rw [Int.neg_tmod] at h
  omega

theorem tdiv_nonpos {a b : ℤ} (ha : a ≤ 0) (hb : 0 ≤ b) : a.tdiv b ≤ 0 := by
  have h := Int.tdiv_nonneg (a := -a) (by omega) hb
  rw [Int.neg_tdiv] at h
  omega

/-- What is left over when the discount is truncated to a shilling. -/
def discountRest (input : PricingCalculationInput) : ℤ :=
  (input.faceValue * discountRateScaled input).tmod precision

/-- How far the components are from the discount, over `feeUnit`: every truncation drops its remainder. -/
theorem feeUnit_mul_difference (input : PricingCalculationInput) :
    feeUnit * (feeComponent input input.bankCostRate + feeComponent input input.riskPremiumRate +
        feeComponent input input.risMarginRate - (calculatePricing input).discountAmount) =
      rateParts input + 365 * discountRest input - (feeParts input input.bankCostRate).tmod feeUnit -
        (feeParts input input.riskPremiumRate).tmod feeUnit -
        (feeParts input input.risMarginRate).tmod feeUnit := by
  have hcomponent (rate : ℚ) :
      feeUnit * feeComponent input rate = feeParts input rate - (feeParts input rate).tmod feeUnit := by
    have h := Int.mul_tdiv_add_tmod (feeParts input rate) feeUnit
    show feeUnit * (feeParts input rate).tdiv feeUnit = _
    omega
  have hdiscount : precision * (calculatePricing input).discountAmount =
      input.faceValue * discountRateScaled input - discountRest input := by
    have h := Int.mul_tdiv_add_tmod (input.faceValue * discountRateScaled input) precision
    show precision * (input.faceValue * discountRateScaled input).tdiv precision = _
    unfold discountRest
    omega
  have hrate : 365 * (input.faceValue * discountRateScaled input) =
      feeParts input input.bankCostRate + feeParts input input.riskPremiumRate +
        feeParts input input.risMarginRate - rateParts input := by
    have h := Int.mul_tdiv_add_tmod
      ((toScaled input.bankCostRate + toScaled input.riskPremiumRate + toScaled input.risMarginRate) *
        input.tenorDays) daysPerYear
    have hscaled : 365 * discountRateScaled input = _ := eq_sub_of_add_eq h
    unfold feeParts rateParts
    linear_combination input.faceValue * hscaled
  have hunit : feeUnit = 365 * precision := rfl
  rw [mul_sub, mul_add, mul_add, hcomponent, hcomponent, hcomponent, hunit, mul_assoc, hdiscount, mul_sub,
    hrate]
  ring

theorem tmod_feeUnit_bounds (a : ℤ) : -feeUnit < a.tmod feeUnit ∧ a.tmod feeUnit < feeUnit :=
  ⟨Int.lt_tmod_of_pos a (by decide), Int.tmod_lt_of_pos a (by decide)⟩

/-- The annual rates over the tenor, before the division by the days of a year. -/
def tenorRate (input : PricingCalculationInput) : ℤ :=
  (toScaled input.bankCostRate + toScaled input.riskPremiumRate + toScaled input.risMarginRate) *
    input.tenorDays

section Signs

variable {input : PricingCalculationInput} (hface : 0 ≤ input.faceValue)
include hface

/-- Of a positive discount the truncations drop something positive. -/
theorem dropped_of_nonneg (hrate : 0 ≤ tenorRate input) :
    0 ≤ rateParts input ∧ 0 ≤ discountRest input ∧ 365 * discountRest input < feeUnit := by
  have hscaled : 0 ≤ discountRateScaled input := Int.tdiv_nonneg hrate (by decide)
  have hproduct : 0 ≤ input.faceValue * discountRateScaled input := mul_nonneg hface hscaled
  have hrest : discountRest input < precision := Int.tmod_lt_of_pos _ (by decide)
  refine ⟨mul_nonneg hface (Int.tmod_nonneg _ hrate), Int.tmod_nonneg _ hproduct, ?_⟩
  show 365 * discountRest input < 365 * precision
  omega

/-- Of a negative one they drop something negative. -/
theorem dropped_of_neg (hrate : tenorRate input < 0) :
    rateParts input ≤ 0 ∧ discountRest input ≤ 0 ∧ (calculatePricing input).discountAmount ≤ 0 := by
  have hscaled : discountRateScaled input ≤ 0 := tdiv_nonpos hrate.le (by decide)
  have hproduct : input.faceValue * discountRateScaled input ≤ 0 :=
    mul_nonpos_of_nonneg_of_nonpos hface hscaled
  exact ⟨mul_nonpos_of_nonneg_of_nonpos hface (tmod_nonpos _ hrate.le), tmod_nonpos _ hproduct,
    tdiv_nonpos hproduct (by decide)⟩

end Signs

/-- The components reconcile with the discount exactly when what the truncated rate drops is within the units
that the components may drop. -/
theorem components_reconcile_iff (input : PricingCalculationInput) (hface : 0 ≤ input.faceValue)
    (dueDate : ℤ) : Reconciles (buildFeeBreakdown input (calculatePricing input) dueDate) ↔
      Fine input := by
  have hdifference : 36500000000 *
      (feeComponent input input.bankCostRate + feeComponent input input.riskPremiumRate +
        feeComponent input input.risMarginRate - (calculatePricing input).discountAmount) = _ :=
    feeUnit_mul_difference input
  have hbank := tmod_feeUnit_bounds (feeParts input input.bankCostRate)
  have hrisk := tmod_feeUnit_bounds (feeParts input input.riskPremiumRate)
  have hris := tmod_feeUnit_bounds (feeParts input input.risMarginRate)
  have hnonneg (rate : ℚ) : 0 ≤ feeComponent input rate ↔ -feeUnit < feeParts input rate :=
    tdiv_nonneg_iff (by decide)
  have hunit : feeUnit = 36500000000 := rfl
  constructor
  · intro h
    refine ⟨(hnonneg _).1 h.bankCost_nonneg, (hnonneg _).1 h.riskPremium_nonneg,
      (hnonneg _).1 h.risMargin_nonneg, ?_⟩
    have hsum : feeComponent input input.bankCostRate + feeComponent input input.riskPremiumRate +
        feeComponent input input.risMarginRate - (calculatePricing input).discountAmount ≤ 3 :=
      (abs_le.1 h.sum_mem).2
    obtain hrate | hrate := le_or_gt 0 (tenorRate input)
    · have hdropped := dropped_of_nonneg hface hrate
      omega
    · have hdropped := dropped_of_neg hface hrate
      omega
  · intro h
    have hbankCost := (hnonneg _).2 h.bankCost
    have hriskPremium := (hnonneg _).2 h.riskPremium
    have hrisMargin := (hnonneg _).2 h.risMargin
    have hdropped := h.dropped
    have hsum : |feeComponent input input.bankCostRate + feeComponent input input.riskPremiumRate +
        feeComponent input input.risMarginRate - (calculatePricing input).discountAmount| ≤ 3 := by
      rw [abs_le]
      -- A negative discount is below every sum of components, so only its upper bound is at stake.
      obtain hrate | hrate := le_or_gt 0 (tenorRate input)
      · have hsigns := dropped_of_nonneg hface hrate
        constructor <;> omega
      · have hsigns := dropped_of_neg hface hrate
        constructor <;> omega
    have hupper := (abs_le.1 hsum).2
    refine ⟨hbankCost, hriskPremium, hrisMargin, hsum, ?_, ?_, ?_⟩
    · show feeComponent input input.bankCostRate ≤ (calculatePricing input).discountAmount + 3
      omega
    · show feeComponent input input.riskPremiumRate ≤ (calculatePricing input).discountAmount + 3
      omega
    · show feeComponent input input.risMarginRate ≤ (calculatePricing input).discountAmount + 3
      omega

/-- Ten billion over the same month. The rates are 14% a year, within the cap. -/
def large : Quote := { month with faceValue := 10000000000, faceValue_pos := by decide }

theorem large_not_reconciles :
    validateRateCap (Binary64.add (Binary64.add large.input.bankCostRate large.input.riskPremiumRate)
        large.input.risMarginRate) = .ok () ∧
      ¬ Reconciles (buildFeeBreakdown large.input (calculatePricing large.input) 0) := by
  constructor
  · decide +kernel
  · intro h
    have hsum := h.sum_mem
    revert hsum
    decide +kernel

theorem components_reconcile_iff_month :
    Reconciles (buildFeeBreakdown month.input (calculatePricing month.input) 0) ↔ Fine month.input :=
  components_reconcile_iff month.input (by decide) 0

end Ris.Pricing
