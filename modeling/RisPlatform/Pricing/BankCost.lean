import RisPlatform.Facilities.CatchUp
import RisPlatform.Pricing.Amounts

/-!
# The priced bank cost and the accrued interest

A price truncates the rate over the tenor to eight places and multiplies it by the advance; the accrual
truncates the interest of a day to a unit and adds it day by day. Both stay below the exact interest, the
first by a hundred-millionth of the advance and a unit, the second by a unit for each day, so that the two
differ by no more than that (`bankCost_covers_interest`).
-/

namespace Ris.Pricing

open Relational Concurrent Facilities.Interest

/-! ## Two ways to truncate -/

section Truncation

variable (p k t : ℕ)

/-- The interest of a day, `k` being the rate in parts of ten thousand. -/
def dailyUnits : ℕ := p * k / (365 * 10 ^ 4)

/-- The bank cost at the rate over the tenor. -/
def costUnits : ℕ := p * (k * 10 ^ 4 * t / 365) / 10 ^ 8

/-- The exact cost over the tenor is at least the truncated one, and at most that of a truncated day, and
one unit more, on each day. -/
theorem costUnits_le : costUnits p k t ≤ dailyUnits p k * t + t := by
  have hcost : costUnits p k t * 10 ^ 8 ≤ p * (k * 10 ^ 4 * t / 365) := Nat.div_mul_le_self _ _
  have hrate : k * 10 ^ 4 * t / 365 * 365 ≤ k * 10 ^ 4 * t := Nat.div_mul_le_self _ _
  have hday : p * k < (dailyUnits p k + 1) * (365 * 10 ^ 4) :=
    Nat.lt_mul_of_div_lt (Nat.lt_succ_self _) (by norm_num)
  have hexact : costUnits p k t * (365 * 10 ^ 8) ≤ (dailyUnits p k * t + t) * (365 * 10 ^ 8) := by
    calc costUnits p k t * (365 * 10 ^ 8) = costUnits p k t * 10 ^ 8 * 365 := by ring
      _ ≤ p * (k * 10 ^ 4 * t / 365) * 365 := Nat.mul_le_mul_right 365 hcost
      _ = p * (k * 10 ^ 4 * t / 365 * 365) := by ring
      _ ≤ p * (k * 10 ^ 4 * t) := Nat.mul_le_mul_left p hrate
      _ = p * k * (10 ^ 4 * t) := by ring
      _ ≤ (dailyUnits p k + 1) * (365 * 10 ^ 4) * (10 ^ 4 * t) := Nat.mul_le_mul_right _ hday.le
      _ = (dailyUnits p k * t + t) * (365 * 10 ^ 8) := by ring
  exact Nat.le_of_mul_le_mul_right hexact (by norm_num)

/-- The rate over the tenor loses less than one of its parts, which the advance multiplies, and the product
less than a unit. -/
theorem dailyUnits_mul_le : dailyUnits p k * t * 10 ^ 8 ≤ costUnits p k t * 10 ^ 8 + p + 10 ^ 8 := by
  have hcost : p * (k * 10 ^ 4 * t / 365) < (costUnits p k t + 1) * 10 ^ 8 :=
    Nat.lt_mul_of_div_lt (Nat.lt_succ_self _) (by norm_num)
  have hrate : k * 10 ^ 4 * t < (k * 10 ^ 4 * t / 365 + 1) * 365 :=
    Nat.lt_mul_of_div_lt (Nat.lt_succ_self _) (by norm_num)
  have hday : dailyUnits p k * (365 * 10 ^ 4) ≤ p * k := Nat.div_mul_le_self _ _
  have hexact : dailyUnits p k * t * 10 ^ 8 * 365 ≤ (costUnits p k t * 10 ^ 8 + p + 10 ^ 8) * 365 := by
    calc dailyUnits p k * t * 10 ^ 8 * 365 = dailyUnits p k * (365 * 10 ^ 4) * (10 ^ 4 * t) := by ring
      _ ≤ p * k * (10 ^ 4 * t) := Nat.mul_le_mul_right _ hday
      _ = p * (k * 10 ^ 4 * t) := by ring
      _ ≤ p * ((k * 10 ^ 4 * t / 365 + 1) * 365) := Nat.mul_le_mul_left p hrate.le
      _ = (p * (k * 10 ^ 4 * t / 365) + p) * 365 := by ring
      _ ≤ ((costUnits p k t + 1) * 10 ^ 8 + p) * 365 := by gcongr
      _ = (costUnits p k t * 10 ^ 8 + p + 10 ^ 8) * 365 := by ring
  exact Nat.le_of_mul_le_mul_right hexact (by norm_num)

end Truncation

/-! ## Rates of at most four decimals -/

/-- An annual rate of at most four decimals. The columns hold rates below ten; a double holds every one up
to this bound without loss at the scale of eight places. -/
structure FourPlaces (rate : ℚ) : Prop where
  places : (rate * 10 ^ 4).den = 1
  nonneg : 0 ≤ rate
  scaled_lt : rate * 10 ^ 8 < 2 ^ 48

theorem FourPlaces.parts {rate : ℚ} (h : FourPlaces rate) :
    ∃ k : ℕ, rate = k / 10 ^ 4 ∧ k * 10 ^ 4 < 2 ^ 48 := by
  have hnum : ((rate * 10 ^ 4).num : ℚ) = rate * 10 ^ 4 := Rat.coe_int_num_of_den_eq_one h.places
  have hnonneg : 0 ≤ (rate * 10 ^ 4).num := Rat.num_nonneg.2 (mul_nonneg h.nonneg (by norm_num))
  obtain ⟨k, hk⟩ := Int.eq_ofNat_of_zero_le hnonneg
  have hrate : (k : ℚ) = rate * 10 ^ 4 := by
    rw [← hnum, hk]
    rfl
  refine ⟨k, ?_, ?_⟩
  · rw [hrate, mul_div_cancel_right₀ _ (by norm_num)]
  · have hlt := h.scaled_lt
    have hcast : ((k * 10 ^ 4 : ℕ) : ℚ) < ((2 ^ 48 : ℕ) : ℚ) := by
      push_cast
      rw [hrate]
      linarith
    exact_mod_cast hcast

variable {p k t : ℕ}

theorem toScaled_parts (hk : k * 10 ^ 4 < 2 ^ 48) :
    toScaled (Binary64.round (k / 10 ^ 4)) = (k * 10 ^ 4 : ℕ) := by
  have hparts : (k : ℚ) / 10 ^ 4 = ((k * 10 ^ 4 : ℕ) : ℚ) / 10 ^ 8 := by
    push_cast
    ring
  rw [hparts]
  exact toScaled_round hk

/-- What `calculatePricing` computes as the bank cost of an advance. -/
theorem bankCostAmount_eq {input : PricingCalculationInput} (hk : k * 10 ^ 4 < 2 ^ 48)
    (hadvance : (calculatePricing input).advanceAmount = p) (htenor : input.tenorDays = t)
    (hbank : input.bankCostRate = Binary64.round (k / 10 ^ 4)) :
    (calculatePricing input).bankCostAmount = costUnits p k t := by
  have hcost : (calculatePricing input).bankCostAmount =
      ((calculatePricing input).advanceAmount *
        (toScaled input.bankCostRate * input.tenorDays).tdiv daysPerYear).tdiv precision := rfl
  have hrate : ((k * 10 ^ 4 : ℕ) * (t : ℤ)).tdiv daysPerYear = (k * 10 ^ 4 * t / 365 : ℕ) := by
    rw [Int.tdiv_eq_ediv_of_nonneg (by positivity), daysPerYear]
    push_cast
    rfl
  rw [hcost, hadvance, htenor, hbank, toScaled_parts hk, hrate,
    Int.tdiv_eq_ediv_of_nonneg (by positivity), precision, costUnits]
  push_cast
  rfl

/-- What `calculateDailyInterest` computes from the column of the facility. -/
theorem calculateDailyInterest_parts :
    Facilities.calculateDailyInterest p (k / 10 ^ 4) = dailyUnits p k := by
  have hscaled : Facilities.parseRateToScaled ((k : ℚ) / 10 ^ 4) = (k * 10 ^ 5 : ℕ) := by
    have hvalue : (k : ℚ) / 10 ^ 4 * (Facilities.ratePrecision : ℤ) = ((k * 10 ^ 5 : ℕ) : ℤ) := by
      rw [Facilities.ratePrecision]
      push_cast
      ring
    rw [Facilities.parseRateToScaled, hvalue]
    exact Rat.floor_intCast _
  have hscale : p * (k * 10 ^ 5) / (365 * 10 ^ 9) = p * k / (365 * 10 ^ 4) := by
    rw [← Nat.mul_div_mul_right (p * k) (365 * 10 ^ 4) (show 0 < 10 ^ 5 by norm_num)]
    congr 1
    ring
  unfold Facilities.calculateDailyInterest
  split
  · rename_i hp
    obtain rfl : p = 0 := by exact_mod_cast hp
    rw [dailyUnits, Nat.zero_mul, Nat.zero_div]
    rfl
  · rw [hscaled, Int.tdiv_eq_ediv_of_nonneg (by positivity), Facilities.daysPerYear,
      Facilities.ratePrecision, dailyUnits, ← hscale]
    push_cast
    rfl

/-! ## The interest over the tenor -/

/-- `P` holds after runs of the accrual on these dates, one after the other and whatever of them fails. -/
def AfterRuns (P : World → Prop) : List ℤ → World → Prop
  | [], w => P w
  | date :: dates, w => Leaves (AfterRuns P dates) (Facilities.accrueInterest date) w

/-- A run on that day still leaves what it would have left at first. -/
structure Pending (w : World) (today : ℤ) (v : World) : Prop where
  facilities : v.bankFacilities = w.bankFacilities
  drawdowns : v.facilityDrawdowns.rows.map (accruedTo w today) =
    w.facilityDrawdowns.rows.map (accruedTo w today)

variable {w v : World} {today : ℤ}

/-- An earlier run keeps it, however that one ends. -/
theorem Pending.partly (h : Pending w today v) {v' : World} {date : ℤ} (hle : date ≤ today)
    (hv : Partly v date v') : Pending w today v' := by
  obtain ⟨hfacilities, hrows⟩ := hv
  refine ⟨hfacilities.trans h.facilities, ?_⟩
  rw [← h.drawdowns]
  refine map_eq_of_forall₂ hrows ?_
  rintro r _ (rfl | rfl)
  · rfl
  · rw [accruedTo_congr h.facilities]
    exact (accruedTo_accruedTo hle).symm

theorem Pending.completes (h : Pending w today v) :
    Completes (fun w' => w'.facilityDrawdowns.rows = w.facilityDrawdowns.rows.map (accruedTo w today))
      (Facilities.accrueInterest today) v := by
  refine ends_accrueInterest_healthy.mono ?_ fun _ _ h => h
  rintro _ w' ⟨-, hrows⟩
  rw [hrows, accruedTo_congr h.facilities, h.drawdowns]

theorem Pending.afterRuns {P : World → Prop} (hP : ∀ v, Pending w today v → P v) {dates : List ℤ}
    (hdates : ∀ date ∈ dates, date ≤ today) (h : Pending w today v) : AfterRuns P dates v := by
  -- by induction on the dates: whatever a run leaves is pending again
  induction dates generalizing v with
  | nil => exact hP v h
  | cons date dates ih =>
      have hle : date ≤ today := hdates date List.mem_cons_self
      have htail : ∀ v', Partly v date v' → AfterRuns P dates v' := fun v' hv' =>
        ih (fun x hx => hdates x (List.mem_cons_of_mem date hx)) (h.partly hle hv')
      exact ends_accrueInterest_any.mono (fun _ => htail) fun _ => htail

/-- The priced cost and the accrued interest agree up to what the two truncations lose, and so do the
profit that was priced and the one that the interest leaves. -/
structure Agrees (result : PricingCalculationResult) (interest : ℤ) (tenor : ℕ) : Prop where
  interest_le : (interest : ℚ) ≤ result.bankCostAmount + (result.advanceAmount : ℚ) / 10 ^ 8 + 1
  cost_le : result.bankCostAmount ≤ interest + tenor
  priced_le : (result.risNetProfit : ℚ) ≤
    ((result.discountAmount - interest : ℤ) : ℚ) + (result.advanceAmount : ℚ) / 10 ^ 8 + 1
  realised_le : result.discountAmount - interest ≤ result.risNetProfit + tenor

theorem agrees_of_truncated {input : PricingCalculationInput} (hk : k * 10 ^ 4 < 2 ^ 48)
    (hadvance : (calculatePricing input).advanceAmount = p) (htenor : input.tenorDays = t)
    (hbank : input.bankCostRate = Binary64.round (k / 10 ^ 4)) :
    Agrees (calculatePricing input) ((dailyUnits p k : ℕ) * (t : ℤ)) t := by
  have hcost := bankCostAmount_eq hk hadvance htenor hbank
  have hprofit : (calculatePricing input).risNetProfit =
      (calculatePricing input).discountAmount - costUnits p k t := by
    rw [← hcost]
    rfl
  have hbelow : ((dailyUnits p k : ℕ) : ℚ) * (t : ℚ) ≤ (costUnits p k t : ℚ) + (p : ℚ) / 10 ^ 8 + 1 := by
    have hscaled : ((dailyUnits p k * t * 10 ^ 8 : ℕ) : ℚ) ≤
        ((costUnits p k t * 10 ^ 8 + p + 10 ^ 8 : ℕ) : ℚ) := by
      exact_mod_cast dailyUnits_mul_le p k t
    push_cast at hscaled
    linarith
  have habove : ((costUnits p k t : ℕ) : ℤ) ≤ dailyUnits p k * t + t := by
    exact_mod_cast costUnits_le p k t
  constructor
  · rw [hcost, hadvance]
    push_cast
    exact hbelow
  · rw [hcost]
    exact habove
  · rw [hprofit, hadvance]
    push_cast
    linarith
  · rw [hprofit]
    linarith

/-- **The priced bank cost covers the accrued interest.** An advance is drawn from a facility at the rate
that it was priced at. However often the accrual runs before the tenor is over, and whatever fails in these
runs, the run on the last day leaves an interest that agrees with the price. -/
theorem bankCost_covers_interest {w : World} {d : FacilityDrawdown} {rate : ℚ}
    {input : PricingCalculationInput} {tenor : ℕ} {dates : List ℤ}
    (hd : w.facilityDrawdowns.get? d.id = some d) (hactive : d.status = .active)
    (hprincipal : 0 ≤ d.principal) (hrate : rateOf w d.facilityId = some rate) (hplaces : FourPlaces rate)
    (hadvance : (calculatePricing input).advanceAmount = d.principal) (htenor : input.tenorDays = tenor)
    (hbank : input.bankCostRate = Binary64.round rate)
    (hdates : ∀ date ∈ dates, date ≤ d.lastAccruedDate + tenor) :
    AfterRuns
      (Completes
        (fun w' => ∃ d', w'.facilityDrawdowns.get? d.id = some d' ∧
          Agrees (calculatePricing input) (d'.accruedInterest - d.accruedInterest) tenor)
        (Facilities.accrueInterest (d.lastAccruedDate + tenor)))
      dates w := by
  -- the rate in parts of ten thousand, which both sides read without loss
  obtain ⟨k, rfl, hk⟩ := hplaces.parts
  obtain ⟨p, hp⟩ := Int.eq_ofNat_of_zero_le hprincipal
  have hdaily : dailyInterestOf w d = some ((dailyUnits p k : ℕ) : ℤ) := by
    rw [dailyInterestOf, hrate, hp, Option.map_some]
    exact congrArg some calculateDailyInterest_parts
  have hagrees := agrees_of_truncated hk (hadvance.trans hp) htenor hbank
  have hstart : Pending w (d.lastAccruedDate + tenor) w := ⟨rfl, rfl⟩
  refine hstart.afterRuns (fun v hv => ?_) hdates
  refine Proc.Ends.mono hv.completes ?_ fun _ _ h => h
  rintro _ w' hrows
  refine ⟨accruedTo w (d.lastAccruedDate + tenor) d, ?_, ?_⟩
  · rw [Table.get?_eq_some, hrows]
    exact ⟨List.mem_map_of_mem (Table.mem_of_get? hd), id_accruedTo w _ d⟩
  · rcases Nat.eq_zero_or_pos tenor with rfl | hpos
    · -- no day to charge: the run leaves the row, and the rate over the tenor is zero
      have hsame : accruedTo w (d.lastAccruedDate + (0 : ℕ)) d = d := accruedTo_of_not fun h => by
        have hlt := h.2
        omega
      rw [hsame, sub_self]
      simpa using hagrees
    · rw [accruedTo_of_lt hdaily hactive (by omega)]
      have hinterest : d.accruedInterest +
          (dailyUnits p k : ℤ) * (d.lastAccruedDate + tenor - d.lastAccruedDate) - d.accruedInterest =
            (dailyUnits p k : ℤ) * (tenor : ℤ) := by ring
      show Agrees _ (d.accruedInterest + (dailyUnits p k : ℤ) * _ - d.accruedInterest) tenor
      rw [hinterest]
      exact hagrees

/-- The invoice whose advance is the drawdown of `drawnOnce`, over a month at its rate. -/
def drawnInput : PricingCalculationInput where
  faceValue := 365000
  tenorDays := 30
  maxAdvancePct := 1
  riskPremiumRate := 0
  bankCostRate := Binary64.round (mkRat 1 10)
  risMarginRate := 0

/-- Accrued on two days on the way and at the end of the month. -/
theorem bankCost_covers_interest_month :
    AfterRuns
      (Completes
        (fun w' => ∃ d', w'.facilityDrawdowns.get? 1 = some d' ∧
          Agrees (calculatePricing drawnInput) (d'.accruedInterest - 0) 30)
        (Facilities.accrueInterest 30))
      [10, 20] drawnOnce := by
  have hrate : rateOf drawnOnce 1 = some (mkRat 1 10) := by decide +kernel
  have hplaces : FourPlaces (mkRat 1 10) := ⟨by decide +kernel, by decide +kernel, by decide +kernel⟩
  have hadvance : (calculatePricing drawnInput).advanceAmount = 365000 := by decide +kernel
  have htenor : drawnInput.tenorDays = (30 : ℕ) := rfl
  exact bankCost_covers_interest (d := Facilities.CreateDrawdownInput.row ⟨1, 1, 1, 365000, 0⟩ 0)
    rfl rfl (by decide) hrate hplaces hadvance htenor rfl (by decide)

end Ris.Pricing
