import RisPlatform.RiskEngine.Service

/-!
# The bands of concentration

The utilisation is a percentage whose fraction is dropped before it is compared with the bounds of the
bands. So an exposure between a bound and the next whole percent is in the band under the bound; elsewhere
the band is that of the exact ratio.
-/

namespace Ris.RiskEngine.Concentration

/-! ## The law -/

/-- The exposure exceeds this percentage of the limit. -/
def Exceeds (exposure limit bound : ℤ) : Prop := bound * limit < exposure * 100

instance (exposure limit bound : ℤ) : Decidable (Exceeds exposure limit bound) :=
  inferInstanceAs (Decidable (bound * limit < exposure * 100))

/-- The score of the band that contains the exact ratio of the exposure and the limit. -/
def exactRaw (exposure limit : ℤ) : ℤ :=
  if ¬Exceeds exposure limit 40 then 100
  else if ¬Exceeds exposure limit 60 then 75
  else if ¬Exceeds exposure limit 75 then 50
  else if ¬Exceeds exposure limit 90 then 25
  else 0

/-- The score is that of the exact ratio, and 0 if and only if the exposure exceeds 90 percent. -/
def Exact (exposure limit raw : ℤ) : Prop :=
  raw = exactRaw exposure limit ∧ (raw = 0 ↔ Exceeds exposure limit 90)

/-- The upper bounds of the bands, in percent. -/
def bounds : List ℤ := [40, 60, 75, 90]

/-- The exposure is above the bound, by less than one percent of the limit. -/
def JustAbove (exposure limit bound : ℤ) : Prop :=
  Exceeds exposure limit bound ∧ exposure * 100 < (bound + 1) * limit

instance (exposure limit bound : ℤ) : Decidable (JustAbove exposure limit bound) :=
  inferInstanceAs (Decidable (_ ∧ _))

/-! ## Truncation -/

/-- For a bound that is not negative, the whole percentage is above it from the next percent on. -/
theorem tdiv_le_iff {exposure limit bound : ℤ} (hlimit : 0 < limit) (hbound : 0 ≤ bound) :
    (exposure * 100).tdiv limit ≤ bound ↔ exposure * 100 < (bound + 1) * limit := by
  rcases le_or_gt 0 exposure with hpos | hneg
  · rw [Int.tdiv_eq_ediv_of_nonneg (by omega), ← Int.lt_add_one_iff]
    exact Int.ediv_lt_iff_lt_mul hlimit
  · -- a negative percentage is rounded up to 0 at most
    have htdiv : (exposure * 100).tdiv limit ≤ 0 := by
      have hpos := Int.tdiv_nonneg (a := -(exposure * 100)) (by omega) hlimit.le
      rw [Int.neg_tdiv] at hpos
      omega
    have hright : 0 < (bound + 1) * limit := Int.mul_pos (by omega) hlimit
    exact iff_of_true (htdiv.trans hbound) (by omega)

/-- Away from a bound, the whole percentage is above it if the exposure is. -/
theorem lt_tdiv_iff {exposure limit bound : ℤ} (hlimit : 0 < limit) (hbound : 0 ≤ bound)
    (h : ¬JustAbove exposure limit bound) :
    (exposure * 100).tdiv limit ≤ bound ↔ ¬Exceeds exposure limit bound := by
  rw [tdiv_le_iff hlimit hbound]
  unfold JustAbove Exceeds at *
  have hstep : (bound + 1) * limit = bound * limit + limit := by ring
  constructor
  · exact fun hlt habove => h ⟨habove, hlt⟩
  · intro hle
    omega

/-- Just above a bound, the percentage is that of the bound. -/
theorem JustAbove.tdiv_eq {exposure limit bound : ℤ} (hlimit : 0 < limit) (hbound : 1 ≤ bound)
    (h : JustAbove exposure limit bound) : (exposure * 100).tdiv limit = bound := by
  have hle := (tdiv_le_iff hlimit (by omega : 0 ≤ bound)).2 h.2
  have hge : (exposure * 100).tdiv limit ≤ bound - 1 ↔ exposure * 100 < (bound - 1 + 1) * limit :=
    tdiv_le_iff hlimit (by omega)
  have habove := h.1
  unfold Exceeds at habove
  rw [sub_add_cancel] at hge
  have := mt hge.1 (by omega)
  omega

/-! ## When the bands are exact -/

section Bands

variable {buyerId : ℕ} {invoiceAmount : ℤ} {w : World} {buyer : Buyer}

theorem getBuyerUtilisation_of_pos (h : w.buyers.get? buyerId = some buyer)
    (hlimit : 0 < buyer.approvedLimit) :
    getBuyerUtilisation buyerId invoiceAmount w =
      ((buyer.usedLimit + invoiceAmount) * 100).tdiv buyer.approvedLimit := by
  simp [getBuyerUtilisation, h, hlimit]

/-- Without a limit, the utilisation is full. -/
theorem getBuyerUtilisation_of_nonpos (h : w.buyers.get? buyerId = some buyer)
    (hlimit : ¬0 < buyer.approvedLimit) : getBuyerUtilisation buyerId invoiceAmount w = 100 := by
  simp [getBuyerUtilisation, h, hlimit]

theorem exact_of_not_justAbove {exposure limit : ℤ} (hlimit : 0 < limit)
    (h : ∀ bound ∈ bounds, ¬JustAbove exposure limit bound) :
    Exact exposure limit (calculateConcentrationRaw ((exposure * 100).tdiv limit)) := by
  have h40 := lt_tdiv_iff hlimit (by decide) (h 40 (by decide))
  have h60 := lt_tdiv_iff hlimit (by decide) (h 60 (by decide))
  have h75 := lt_tdiv_iff hlimit (by decide) (h 75 (by decide))
  have h90 := lt_tdiv_iff hlimit (by decide) (h 90 (by decide))
  have hraw : calculateConcentrationRaw ((exposure * 100).tdiv limit) = exactRaw exposure limit := by
    simp only [calculateConcentrationRaw, exactRaw, h40, h60, h75, h90]
  refine ⟨hraw, ?_⟩
  rw [hraw]
  unfold exactRaw Exceeds
  -- what exceeds 90 percent exceeds the lower bounds
  split_ifs <;> simp <;> omega

/-- Just above a bound the exact band is the next one. -/
theorem not_exact_of_justAbove {exposure limit bound : ℤ} (hlimit : 0 < limit) (hmem : bound ∈ bounds)
    (h : JustAbove exposure limit bound) :
    ¬Exact exposure limit (calculateConcentrationRaw ((exposure * 100).tdiv limit)) := by
  rintro ⟨hraw, -⟩
  have hbound : 1 ≤ bound := by
    simp only [bounds, List.mem_cons, List.not_mem_nil, or_false] at hmem
    omega
  rw [h.tdiv_eq hlimit hbound] at hraw
  have habove := h.1
  unfold exactRaw Exceeds at *
  simp only [bounds, List.mem_cons, List.not_mem_nil, or_false] at hmem
  rcases hmem with rfl | rfl | rfl | rfl
  all_goals
    norm_num [calculateConcentrationRaw] at hraw
    split_ifs at hraw <;> omega

/-- The score is the exact one if and only if the exposure is not just above a bound; and if there is no
limit, there must be an exposure. -/
theorem concentration_exact_iff (buyerId : ℕ) (invoiceAmount : ℤ) (w : World) (buyer : Buyer)
    (h : w.buyers.get? buyerId = some buyer) (hlimit : 0 ≤ buyer.approvedLimit) :
    Exact (buyer.usedLimit + invoiceAmount) buyer.approvedLimit
        (calculateConcentrationRaw (getBuyerUtilisation buyerId invoiceAmount w)) ↔
      (∀ bound ∈ bounds, ¬JustAbove (buyer.usedLimit + invoiceAmount) buyer.approvedLimit bound) ∧
        (buyer.approvedLimit = 0 → 0 < buyer.usedLimit + invoiceAmount) := by
  rcases hlimit.lt_or_eq with hpos | hzero
  · rw [getBuyerUtilisation_of_pos h hpos]
    refine ⟨fun hexact => ⟨fun bound hmem hjust => ?_, fun hzero => ?_⟩, fun hgap => ?_⟩
    · exact not_exact_of_justAbove hpos hmem hjust hexact
    · omega
    · exact exact_of_not_justAbove hpos hgap.1
  · rw [getBuyerUtilisation_of_nonpos h (by omega), ← hzero]
    -- 0 percent of no limit: every exposure exceeds it, and none is just above it
    simp only [Exact, exactRaw, JustAbove, Exceeds, mul_zero]
    by_cases hexposure : 0 < buyer.usedLimit + invoiceAmount
    · have hexceeds : 0 < (buyer.usedLimit + invoiceAmount) * 100 := by omega
      simp [hexposure, hexceeds, calculateConcentrationRaw, hexceeds.le]
    · have hexceeds : ¬0 < (buyer.usedLimit + invoiceAmount) * 100 := by omega
      simp [hexposure, hexceeds, calculateConcentrationRaw]

end Bands

/-! ## Not at every limit -/

/-- A buyer with this limit, of which nothing is used. -/
def unusedBuyer (approvedLimit : ℤ) : Buyer where
  id := 3
  risMarginRate := 0
  approvedLimit := approvedLimit

def buyerWorld (buyer : Buyer) : World := { World.empty with buyers := .single buyer }

/-- An invoice of half the limit is in its exact band. -/
theorem half_exact : Exact 500 1000 (calculateConcentrationRaw
    (getBuyerUtilisation 3 500 (buyerWorld (unusedBuyer 1000)))) :=
  (concentration_exact_iff 3 500 (buyerWorld (unusedBuyer 1000)) (unusedBuyer 1000) rfl (by decide)).2
    ⟨by decide, by decide⟩

/-- An invoice of 90.5 percent of the limit does not score 0. -/
theorem excess_scores : ¬∀ (buyerId : ℕ) (invoiceAmount : ℤ) (w : World) (buyer : Buyer),
    w.buyers.get? buyerId = some buyer → 0 ≤ buyer.approvedLimit →
      Exact (buyer.usedLimit + invoiceAmount) buyer.approvedLimit
        (calculateConcentrationRaw (getBuyerUtilisation buyerId invoiceAmount w)) := by
  intro h
  have hzero := (h 3 905 (buyerWorld (unusedBuyer 1000)) (unusedBuyer 1000) rfl (by decide)).2
  exact absurd (hzero.2 (by decide)) (by decide)

end Ris.RiskEngine.Concentration
