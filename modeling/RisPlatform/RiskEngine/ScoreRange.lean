import Mathlib.Algebra.BigOperators.Ring.List
import RisPlatform.Alone
import RisPlatform.Common.Binary64Order
import RisPlatform.RiskEngine.Service

/-!
# The range of a score

Every factor's raw score is in 0..100. The loader asks of the weights only that their sum is 1, so one of
them may be negative and another above 1; then the weighted sum leaves the range. It is monotone in the raw
scores, so its extremes over all invoices and histories are two sums that depend on the weights alone.
-/

namespace Ris.RiskEngine

open Relational Concurrent

/-! ## The law -/

/-- The registered factors. -/
def Factor.all : List Factor := [.buyerCredit, .tenor, .trackRecord, .concentration, .collateral]

/-- The lowest raw score of a factor; a rating of D, where there is always a rating, and 0 for a factor
that fails. -/
def Factor.least : Factor → ℤ
  | .buyerCredit => 25
  | _ => 0

/-- The weighted sum of raw scores, before it is rounded. -/
def weightedSum (weights : RiskWeights) (raw : Factor → ℤ) : ℚ :=
  Factor.all.foldl (fun sum f => Binary64.add sum (Binary64.mul (raw f) (f.weight weights))) 0

/-- The raw scores that make the most of the weights. -/
def bestRaw (weights : RiskWeights) (f : Factor) : ℤ := if 0 ≤ f.weight weights then 100 else f.least

/-- The raw scores that make the least of the weights. -/
def worstRaw (weights : RiskWeights) (f : Factor) : ℤ := if 0 ≤ f.weight weights then f.least else 100

/-- The extremes are rounded into the range. -/
def Bounded (weights : RiskWeights) : Prop :=
  -mkRat 1 2 ≤ weightedSum weights (worstRaw weights) ∧
    weightedSum weights (bestRaw weights) < 100 + mkRat 1 2

instance (weights : RiskWeights) : Decidable (Bounded weights) := by
  unfold Bounded
  infer_instance

/-- The raw scores and the final score are in the range of the table's `CHECK`. -/
structure InRange (factors : FactorScores) : Prop where
  raw : ∀ f ∈ factors.toList, 0 ≤ f.rawScore ∧ f.rawScore ≤ 100
  final : 0 ≤ factors.final ∧ factors.final ≤ 100

/-- The configuration has these weights. -/
def UsesWeights (weights : RiskWeights) (i : Input) : Prop := i.riskConfig.weights = weights

/-- The factors of an invoice and its buyer, computed on the store while no other call moves. -/
def ScoredAs (weights : RiskWeights) (w : World) (invoice : Invoice) (buyer : Buyer)
    (factors : FactorScores) : Prop :=
  w.invoices.get? invoice.id = some invoice ∧ invoice.status = .buyerConfirmed ∧
    getRiskScoreByInvoiceId invoice.id w = none ∧ w.buyers.get? invoice.buyerId = some buyer ∧
      ∃ t hist s', (runAllFactors ⟨invoice, buyer⟩).Run (UsesWeights weights) t ⟨w, hist⟩ (.ok factors) s'

/-! ## Raw scores -/

theorem creditRatingScore_mem (rating : CreditRating) :
    25 ≤ creditRatingScore rating ∧ creditRatingScore rating ≤ 100 := by
  cases rating <;> decide

theorem calculateTenorRaw_mem (days : Option ℤ) :
    0 ≤ calculateTenorRaw days ∧ calculateTenorRaw days ≤ 100 := by
  cases days with
  | none => decide
  | some days =>
    unfold calculateTenorRaw
    dsimp only
    split_ifs <;> decide

theorem calculateTrackRecordRaw_mem (record : TrackRecordResult) :
    0 ≤ calculateTrackRecordRaw record ∧ calculateTrackRecordRaw record ≤ 100 := by
  unfold calculateTrackRecordRaw
  dsimp only
  split_ifs <;> decide

theorem calculateConcentrationRaw_mem (pct : ℤ) :
    0 ≤ calculateConcentrationRaw pct ∧ calculateConcentrationRaw pct ≤ 100 := by
  unfold calculateConcentrationRaw
  split_ifs <;> decide

theorem calculateCollateralRaw_mem (type : CollateralType) :
    0 ≤ calculateCollateralRaw type ∧ calculateCollateralRaw type ≤ 100 := by
  cases type <;> decide

theorem Factor.least_nonneg (f : Factor) : 0 ≤ f.least := by
  cases f <;> decide

/-! ## The factors, whatever other calls do in between -/

/-- The score of the factor, with the weight that the check saw. -/
def IsScoreOf (weights : RiskWeights) (f : Factor) (score : FactorScore) : Prop :=
  score.factor = f ∧ (f.least ≤ score.rawScore ∧ score.rawScore ≤ 100) ∧
    score.weightedScore = Binary64.mul score.rawScore (f.weight weights)

section Gives

variable {weights : RiskWeights} {good : Input → Prop}

/-- Loading the configuration does not throw. -/
theorem gives_getRiskConfig :
    getRiskConfig.Gives (UsesWeights weights) (fun config => config.weights = weights) fun _ => False := by
  refine Proc.gives_transaction (fun i d a d' hi hx => ?_) fun i d e _ hx => ?_
  · simp only [Txn.bind_ok, Txn.input_ok, Txn.pure_ok] at hx
    obtain ⟨_, _, ⟨rfl, rfl⟩, rfl, -⟩ := hx
    exact hi
  · cases hx

/-- The raw score of a factor; that of the buyer's rating is read from no table. -/
theorem gives_rawScore (ctx : ScoringContext) (f : Factor) :
    (rawScore ctx f).Gives good (fun raw => f.least ≤ raw ∧ raw ≤ 100) fun _ => f ≠ .buyerCredit := by
  have herr : ∀ g : Factor, g ≠ .buyerCredit → ∀ e : RisError, True → g ≠ .buyerCredit :=
    fun _ h _ _ => h
  cases f with
  | buyerCredit => exact creditRatingScore_mem _
  | tenor => exact calculateTenorRaw_mem _
  | trackRecord =>
    refine ((gives_query (Q := fun _ => True) fun _ => trivial).mono (fun _ h => h) (herr _ (by decide))).bind ?_
    exact fun record _ => calculateTrackRecordRaw_mem record
  | concentration =>
    refine ((gives_query (Q := fun _ => True) fun _ => trivial).mono (fun _ h => h) (herr _ (by decide))).bind ?_
    exact fun pct _ => calculateConcentrationRaw_mem pct
  | collateral =>
    refine (Proc.gives_transaction (Q := fun _ => True) (fun _ _ _ _ _ _ => trivial)
      fun _ _ _ _ _ => by decide).bind ?_
    exact fun best _ => calculateCollateralRaw_mem _

theorem gives_calculate (ctx : ScoringContext) (f : Factor) :
    (calculate ctx f).Gives (UsesWeights weights) (IsScoreOf weights f) fun _ => True := by
  refine Proc.Gives.tryCatch (R := fun _ => f ≠ .buyerCredit) ?_ fun _ hf => ?_
  · refine (gives_getRiskConfig.mono (fun _ h => h) fun _ h => h.elim).bind fun config hconfig => ?_
    refine (gives_rawScore ctx f).bind fun raw hraw => ?_
    exact ⟨rfl, hraw, by rw [hconfig]⟩
  · have hlog : (log f.warning).Gives (UsesWeights weights) (fun _ => True) fun _ => True :=
      Proc.gives_transaction (fun _ _ _ _ _ _ => trivial) fun _ _ _ _ _ => trivial
    refine hlog.bind fun _ _ => ⟨rfl, ?_, ?_⟩
    · cases f with
      | buyerCredit => exact absurd rfl hf
      | _ => decide
    · rw [Binary64.mul, Int.cast_zero, zero_mul]
      rfl

/-- Each of the five is the score of its factor. -/
structure AreScores (weights : RiskWeights) (factors : FactorScores) : Prop where
  buyerCredit : IsScoreOf weights .buyerCredit factors.buyerCredit
  tenor : IsScoreOf weights .tenor factors.tenor
  trackRecord : IsScoreOf weights .trackRecord factors.trackRecord
  concentration : IsScoreOf weights .concentration factors.concentration
  collateral : IsScoreOf weights .collateral factors.collateral

theorem gives_runAllFactors (ctx : ScoringContext) :
    (runAllFactors ctx).Gives (UsesWeights weights) (AreScores weights) fun _ => True := by
  refine (gives_calculate ctx _).bind fun buyerCredit hbuyerCredit => ?_
  refine (gives_calculate ctx _).bind fun tenor htenor => ?_
  refine (gives_calculate ctx _).bind fun trackRecord htrackRecord => ?_
  refine (gives_calculate ctx _).bind fun concentration hconcentration => ?_
  refine (gives_calculate ctx _).bind fun collateral hcollateral => ?_
  exact ⟨hbuyerCredit, htenor, htrackRecord, hconcentration, hcollateral⟩

end Gives

/-! ## The extremes -/

/-- The raw score of a factor. -/
def FactorScores.raw (factors : FactorScores) : Factor → ℤ
  | .buyerCredit => factors.buyerCredit.rawScore
  | .tenor => factors.tenor.rawScore
  | .trackRecord => factors.trackRecord.rawScore
  | .concentration => factors.concentration.rawScore
  | .collateral => factors.collateral.rawScore

section Extremes

variable {weights : RiskWeights} {raw : Factor → ℤ}

theorem weightedSum_le_best (h : ∀ f : Factor, f.least ≤ raw f ∧ raw f ≤ 100) :
    weightedSum weights raw ≤ weightedSum weights (bestRaw weights) := by
  refine Binary64.foldl_add_mono (fun f _ => ?_) le_rfl
  unfold bestRaw
  split
  next hw => exact Binary64.mul_mono_left (by exact_mod_cast (h f).2) hw
  next hw => exact Binary64.mul_anti_left (by exact_mod_cast (h f).1) (not_le.1 hw).le

theorem worst_le_weightedSum (h : ∀ f : Factor, f.least ≤ raw f ∧ raw f ≤ 100) :
    weightedSum weights (worstRaw weights) ≤ weightedSum weights raw := by
  refine Binary64.foldl_add_mono (fun f _ => ?_) le_rfl
  unfold worstRaw
  split
  next hw => exact Binary64.mul_mono_left (by exact_mod_cast (h f).1) hw
  next hw => exact Binary64.mul_anti_left (by exact_mod_cast (h f).2) (not_le.1 hw).le

variable {factors : FactorScores}

theorem AreScores.raw_mem (h : AreScores weights factors) (f : Factor) :
    f.least ≤ factors.raw f ∧ factors.raw f ≤ 100 := by
  cases f with
  | buyerCredit => exact h.buyerCredit.2.1
  | tenor => exact h.tenor.2.1
  | trackRecord => exact h.trackRecord.2.1
  | concentration => exact h.concentration.2.1
  | collateral => exact h.collateral.2.1

theorem AreScores.final_eq (h : AreScores weights factors) :
    factors.final = Binary64.nearestInt (weightedSum weights factors.raw) := by
  simp only [FactorScores.final, FactorScores.toList, List.foldl_cons, List.foldl_nil, h.buyerCredit.2.2,
    h.tenor.2.2, h.trackRecord.2.2, h.concentration.2.2, h.collateral.2.2]
  rfl

theorem AreScores.inRange (h : AreScores weights factors) (hbounded : Bounded weights) :
    InRange factors where
  raw f hf := by
    have hraw : ∃ g : Factor, f.rawScore = factors.raw g := by
      simp only [FactorScores.toList, List.mem_cons, List.not_mem_nil, or_false] at hf
      obtain rfl | rfl | rfl | rfl | rfl := hf
      · exact ⟨.buyerCredit, rfl⟩
      · exact ⟨.tenor, rfl⟩
      · exact ⟨.trackRecord, rfl⟩
      · exact ⟨.concentration, rfl⟩
      · exact ⟨.collateral, rfl⟩
    obtain ⟨g, hg⟩ := hraw
    rw [hg]
    exact ⟨(Factor.least_nonneg g).trans (h.raw_mem g).1, (h.raw_mem g).2⟩
  final := by
    rw [h.final_eq]
    constructor
    · rw [Binary64.le_nearestInt, Int.cast_zero, zero_sub]
      exact hbounded.1.trans (worst_le_weightedSum h.raw_mem)
    · rw [Binary64.nearestInt_le]
      exact_mod_cast (weightedSum_le_best h.raw_mem).trans_lt hbounded.2

/-- Scores at the extremes are in the range only if the weights are bounded. -/
theorem bounded_of_inRange {best worst : FactorScores} (hbest : AreScores weights best)
    (hworst : AreScores weights worst) (hbestRaw : best.raw = bestRaw weights)
    (hworstRaw : worst.raw = worstRaw weights) (hbestIn : InRange best) (hworstIn : InRange worst) :
    Bounded weights := by
  constructor
  · have h := hworstIn.final.1
    rw [hworst.final_eq, hworstRaw, Binary64.le_nearestInt, Int.cast_zero, zero_sub] at h
    exact h
  · have h := hbestIn.final.2
    rw [hbest.final_eq, hbestRaw, Binary64.nearestInt_le] at h
    exact_mod_cast h

end Extremes

/-! ## Weights that are not negative -/

theorem sum_eq_foldl (weights : RiskWeights) :
    RiskWeights.sum weights = Factor.all.foldl (fun sum f => Binary64.add sum (f.weight weights)) 0 := rfl

/-- The check leaves the sum below 1.0011. -/
theorem sum_lt_of_accepted {weights : RiskWeights} (h : guardWeights weights = .ok ()) :
    RiskWeights.sum weights < 10011 / 10000 := by
  have hthousandth : mkRat 1 1000 = (1 / 1000 : ℚ) := by norm_num
  have hle : |Binary64.add (RiskWeights.sum weights) (-1)| ≤ parseFloat (1 / 1000) := by
    rw [← hthousandth]
    unfold guardWeights at h
    dsimp only at h
    split at h
    · cases h
    · exact not_lt.1 ‹_›
  by_contra hlarge
  have hfar : Binary64.round (11 / 10000) ≤ Binary64.add (RiskWeights.sum weights) (-1) :=
    Binary64.round_mono (by linarith [not_lt.1 hlarge])
  have hsmall : parseFloat (1 / 1000) < Binary64.round (11 / 10000) := by decide +kernel
  exact absurd (hfar.trans ((le_abs_self _).trans hle)) (not_le.2 hsmall)

section Nonneg

variable {weights : RiskWeights}

theorem length_factors : Factor.all.length = 5 := rfl

/-- The weights are close to what the check computes from them. -/
theorem sum_weights_lt (haccepted : guardWeights weights = .ok ())
    (hw : ∀ f : Factor, 0 ≤ f.weight weights) :
    (Factor.all.map fun f => f.weight weights).sum * (1 - 1 / 2 ^ 53) ^ 5 < 10011 / 10000 := by
  have hsum := Binary64.le_foldl_add (fun f (_ : f ∈ Factor.all) => hw f) le_rfl
  rw [zero_add, length_factors, ← sum_eq_foldl] at hsum
  exact hsum.trans_lt (sum_lt_of_accepted haccepted)

theorem weightedSum_worst_nonneg (hw : ∀ f : Factor, 0 ≤ f.weight weights) :
    0 ≤ weightedSum weights (worstRaw weights) := by
  have hworst : ∀ f : Factor, worstRaw weights f = f.least := fun f => if_pos (hw f)
  have hterm : ∀ f ∈ Factor.all, 0 ≤ Binary64.mul (worstRaw weights f) (f.weight weights) := by
    intro f _
    rw [hworst]
    exact Binary64.round_nonneg (mul_nonneg (by exact_mod_cast f.least_nonneg) (hw f))
  have hnonneg : 0 ≤ (Factor.all.map fun f => Binary64.mul (worstRaw weights f) (f.weight weights)).sum :=
    List.sum_nonneg (by simpa using hterm)
  refine le_trans ?_ (Binary64.le_foldl_add hterm le_rfl)
  exact mul_nonneg (by linarith) (pow_nonneg (by norm_num) _)

/-- The weighted sum of the best scores is close to a hundred times the weights. -/
theorem weightedSum_best_le (hw : ∀ f : Factor, 0 ≤ f.weight weights) :
    weightedSum weights (bestRaw weights) ≤
      (Factor.all.map fun f => f.weight weights).sum * (100 * (1 + 1 / 2 ^ 53)) * (1 + 1 / 2 ^ 53) ^ 5 := by
  have hbest : ∀ f : Factor, bestRaw weights f = 100 := fun f => if_pos (hw f)
  have hterm : ∀ f : Factor, Binary64.mul (bestRaw weights f) (f.weight weights) ≤
      f.weight weights * (100 * (1 + 1 / 2 ^ 53)) := by
    intro f
    have h : Binary64.round (100 * f.weight weights) ≤ 100 * f.weight weights * (1 + 1 / 2 ^ 53) :=
      Binary64.round_le_of_nonneg (by linarith [hw f])
    rw [hbest, Binary64.mul]
    push_cast
    linarith
  have hterm_nonneg : ∀ f ∈ Factor.all, 0 ≤ Binary64.mul (bestRaw weights f) (f.weight weights) := by
    intro f _
    rw [hbest]
    exact Binary64.round_nonneg (mul_nonneg (by norm_num) (hw f))
  have hterms : (Factor.all.map fun f => Binary64.mul (bestRaw weights f) (f.weight weights)).sum ≤
      (Factor.all.map fun f => f.weight weights).sum * (100 * (1 + 1 / 2 ^ 53)) := by
    rw [← List.sum_map_mul_right]
    exact List.sum_le_sum fun f _ => hterm f
  have hsum := Binary64.foldl_add_le hterm_nonneg le_rfl
  rw [zero_add, length_factors] at hsum
  calc weightedSum weights (bestRaw weights)
      ≤ (Factor.all.map fun f => Binary64.mul (bestRaw weights f) (f.weight weights)).sum *
          (1 + 1 / 2 ^ 53) ^ 5 := hsum
    _ ≤ (Factor.all.map fun f => f.weight weights).sum * (100 * (1 + 1 / 2 ^ 53)) * (1 + 1 / 2 ^ 53) ^ 5 :=
        mul_le_mul_of_nonneg_right hterms (by positivity)

/-- An accepted configuration without a negative weight is bounded. -/
theorem bounded_of_nonneg (haccepted : guardWeights weights = .ok ())
    (hw : ∀ f : Factor, 0 ≤ f.weight weights) : Bounded weights := by
  have hhalf : mkRat 1 2 = (1 / 2 : ℚ) := by norm_num
  constructor
  · rw [hhalf]
    linarith [weightedSum_worst_nonneg hw]
  · rw [hhalf]
    have htotal := sum_weights_lt haccepted hw
    have hbest := weightedSum_best_le hw
    refine hbest.trans_lt ?_
    generalize (Factor.all.map fun f => f.weight weights).sum = total at htotal
    norm_num at htotal ⊢
    linarith

end Nonneg

/-! ## Every combination of extremes occurs -/

/-- A raw score for each factor: 100 or its lowest. -/
def extreme (high : Factor → Bool) (f : Factor) : ℤ := if high f then 100 else f.least

theorem bestRaw_eq (weights : RiskWeights) :
    bestRaw weights = extreme fun f => decide (0 ≤ f.weight weights) := by
  funext f
  by_cases hw : 0 ≤ f.weight weights
  · simp [bestRaw, extreme, hw]
  · simp [bestRaw, extreme, hw]

theorem worstRaw_eq (weights : RiskWeights) :
    worstRaw weights = extreme fun f => decide (f.weight weights < 0) := by
  funext f
  by_cases hw : 0 ≤ f.weight weights
  · simp [worstRaw, extreme, hw]
  · simp [worstRaw, extreme, hw, not_le.1 hw]

/-- An invoice of the supplier 2. -/
def supplierInvoice (id : ℕ) (status : InvoiceStatus) (tenorDays : Option ℤ) : Invoice where
  id := id
  supplierId := 2
  buyerId := 3
  faceValue := 60000000
  advanceAmount := none
  discountAmount := none
  netPaymentToSupplier := none
  status := status
  tenorDays := tenorDays
  dueDate := 0
  amlFlagged := false
  amlClearedAt := none
  pricingAcceptedAt := none
  pricingAcceptedBy := none
  pricingRejectedAt := none
  pricingRejectionReason := none
  pricingDisputedAt := none
  fundedAt := none

def paidCollection (invoiceId : ℕ) : Collection where
  id := invoiceId
  invoiceId := invoiceId
  buyerId := 3
  faceValue := 60000000
  amountDue := 60000000
  status := .collected
  daysOverdue := 0
  dailyPenaltyRate := 0
  penaltyAmount := 0
  createdAt := 0

/-- The invoice that is scored; a tenor of 30 days is in the best band, none in no band. -/
def extremeInvoice (tenor : Bool) : Invoice :=
  supplierInvoice 1 .buyerConfirmed (if tenor then some 30 else none)

/-- Its buyer, rated A or D, with room for the invoice or without. -/
def extremeBuyer (credit concentration : Bool) : Buyer where
  id := 3
  risMarginRate := 0
  approvedLimit := if concentration then 1000000000 else 1
  creditRating := if credit then .a else .d

/-- The supplier has been paid in full four times; a bank guarantee is pledged for the invoice or not. -/
def extremeWorld (credit tenor concentration collateral : Bool) : World :=
  { World.empty with
    invoices :=
      { rows := extremeInvoice tenor :: [11, 12, 13, 14].map fun id => supplierInvoice id .collected none
        keys_nodup := by cases tenor <;> decide }
    buyers := .single (extremeBuyer credit concentration)
    collections := { rows := [11, 12, 13, 14].map paidCollection, keys_nodup := by decide }
    collateral := if collateral then .single
      { id := 5, invoiceId := some 1, value := 60000000, isActive := true, deletedAt := none
        collateralType := .bankGuarantee } else .empty }

section Attained

variable {weights : RiskWeights} {w : World} {ctx : ScoringContext}

/-- An input of a healthy statement. -/
def healthyInput (weights : RiskWeights) : Input := { riskConfig := { weights } }

/-- An input of a statement that fails. -/
def failedInput (weights : RiskWeights) : Input := { fault := some "timeout", riskConfig := { weights } }

/-- The factor can have this raw score. -/
def Attains (weights : RiskWeights) (w : World) (ctx : ScoringContext) (f : Factor) (raw : ℤ) : Prop :=
  ∀ t hist, ∃ score hist', score.rawScore = raw ∧
    (calculate ctx f).Run (UsesWeights weights) t ⟨w, hist⟩ (.ok score) ⟨w, hist'⟩

theorem attains_of_outcome {f : Factor} {score : FactorScore} {raw : ℤ} (hraw : score.rawScore = raw)
    (h : (calculate ctx f).outcome (healthyInput weights) w = (.ok score, w)) : Attains weights w ctx f raw := by
  intro t hist
  obtain ⟨hist', hrun⟩ := Proc.exists_run_of_outcome
    (show UsesWeights weights (healthyInput weights) from rfl) h t hist
  exact ⟨score, hist', hraw, hrun⟩

/-- The query of the track record fails, and the scorer returns zero. -/
theorem attains_failure : Attains weights w ctx .trackRecord 0 := by
  intro t hist
  refine ⟨⟨.trackRecord, 0, 0⟩, (t, some (.logged Factor.trackRecord.warning)) :: (t, some .threw) ::
    (t, some .read) :: hist, rfl, ?_⟩
  refine .atom _ _ _ (healthyInput weights) _ _ rfl ?_
  refine .atom _ _ _ (failedInput weights) _ _ rfl ?_
  exact .atom _ _ _ (healthyInput weights) _ _ rfl (.done _ _)

/-- Five factors that are attained are attained together. -/
theorem exists_run_runAllFactors {raw : Factor → ℤ} (h : ∀ f, Attains weights w ctx f (raw f)) :
    ∃ factors s', (runAllFactors ctx).Run (UsesWeights weights) 0 ⟨w, []⟩ (.ok factors) s' ∧
      factors.raw = raw := by
  obtain ⟨buyerCredit, hist₁, hraw₁, hrun₁⟩ := h .buyerCredit 0 []
  obtain ⟨tenor, hist₂, hraw₂, hrun₂⟩ := h .tenor 0 hist₁
  obtain ⟨trackRecord, hist₃, hraw₃, hrun₃⟩ := h .trackRecord 0 hist₂
  obtain ⟨concentration, hist₄, hraw₄, hrun₄⟩ := h .concentration 0 hist₃
  obtain ⟨collateral, hist₅, hraw₅, hrun₅⟩ := h .collateral 0 hist₄
  refine ⟨⟨buyerCredit, tenor, trackRecord, concentration, collateral⟩, ⟨w, hist₅⟩, ?_, ?_⟩
  · exact hrun₁.bind (hrun₂.bind (hrun₃.bind (hrun₄.bind (hrun₅.bind (.done _ _)))))
  · funext f
    cases f with
    | buyerCredit => exact hraw₁
    | tenor => exact hraw₂
    | trackRecord => exact hraw₃
    | concentration => exact hraw₄
    | collateral => exact hraw₅

end Attained

theorem trackRecord_extremeWorld (credit tenor concentration collateral : Bool) :
    calculateTrackRecordRaw (getSupplierTrackRecord 2 (extremeWorld credit tenor concentration collateral)) =
      100 := by
  revert credit tenor concentration collateral
  decide +kernel

/-- Some store, and some run on it, has the factors at these extremes. -/
theorem exists_scoredAs (weights : RiskWeights) (high : Factor → Bool) :
    ∃ w invoice buyer factors, ScoredAs weights w invoice buyer factors ∧
      factors.raw = extreme high := by
  have hattains : ∀ f, Attains weights
      (extremeWorld (high .buyerCredit) (high .tenor) (high .concentration) (high .collateral))
      ⟨extremeInvoice (high .tenor), extremeBuyer (high .buyerCredit) (high .concentration)⟩ f
      (extreme high f) := by
    intro f
    cases f with
    | buyerCredit =>
      refine attains_of_outcome (?_ : (⟨_, _, _⟩ : FactorScore).rawScore = _) rfl
      show creditRatingScore (if high .buyerCredit then .a else .d) =
        if high .buyerCredit then 100 else 25
      cases high .buyerCredit <;> rfl
    | tenor =>
      refine attains_of_outcome (?_ : (⟨_, _, _⟩ : FactorScore).rawScore = _) rfl
      show calculateTenorRaw (if high .tenor then some 30 else none) = if high .tenor then 100 else 0
      cases high .tenor <;> rfl
    | trackRecord =>
      by_cases hhigh : high .trackRecord = true
      · rw [extreme, if_pos hhigh]
        exact attains_of_outcome (show (⟨_, _, _⟩ : FactorScore).rawScore = _ from trackRecord_extremeWorld _ _ _ _) rfl
      · rw [extreme, if_neg hhigh]
        exact attains_failure
    | concentration =>
      refine attains_of_outcome (?_ : (⟨_, _, _⟩ : FactorScore).rawScore = _) rfl
      show calculateConcentrationRaw _ = if high .concentration then 100 else 0
      cases high .concentration <;> rfl
    | collateral =>
      refine attains_of_outcome (?_ : (⟨_, _, _⟩ : FactorScore).rawScore = _) rfl
      show calculateCollateralRaw _ = if high .collateral then 100 else 0
      cases high .collateral <;> rfl
  obtain ⟨factors, s', hrun, hraw⟩ := exists_run_runAllFactors hattains
  exact ⟨_, _, _, factors, ⟨rfl, rfl, rfl, rfl, 0, [], s', hrun⟩, hraw⟩

/-! ## The law -/

theorem ScoredAs.areScores {weights : RiskWeights} {w : World} {invoice : Invoice} {buyer : Buyer}
    {factors : FactorScores} (h : ScoredAs weights w invoice buyer factors) : AreScores weights factors := by
  obtain ⟨-, -, -, -, t, hist, s', hrun⟩ := h
  exact (gives_runAllFactors _).run hrun

/-- For weights that the check accepts, every score is in the range exactly if the weights are bounded; then
it is so whatever other calls do while the factors are computed. Weights that are not negative are. -/
theorem score_inRange (weights : RiskWeights) (haccepted : guardWeights weights = .ok ()) :
    ((∀ w invoice buyer factors, ScoredAs weights w invoice buyer factors → InRange factors) ↔
      Bounded weights) ∧
      (Bounded weights → ∀ ctx,
        (runAllFactors ctx).Gives (UsesWeights weights) InRange fun _ => True) ∧
      ((∀ f : Factor, 0 ≤ f.weight weights) → Bounded weights) := by
  refine ⟨⟨fun h => ?_, fun hbounded w invoice buyer factors hscored => hscored.areScores.inRange hbounded⟩,
    fun hbounded ctx => (gives_runAllFactors ctx).mono (fun _ h => h.inRange hbounded) fun _ h => h,
    bounded_of_nonneg haccepted⟩
  obtain ⟨w, invoice, buyer, best, hbest, hbestRaw⟩ :=
    exists_scoredAs weights fun f => decide (0 ≤ f.weight weights)
  obtain ⟨w', invoice', buyer', worst, hworst, hworstRaw⟩ :=
    exists_scoredAs weights fun f => decide (f.weight weights < 0)
  exact bounded_of_inRange hbest.areScores hworst.areScores (hbestRaw.trans (bestRaw_eq weights).symm)
    (hworstRaw.trans (worstRaw_eq weights).symm) (h _ _ _ _ hbest) (h _ _ _ _ hworst)

/-- The weights of migration 012. -/
theorem default_weights_inRange : Bounded {} ∧
    ∀ ctx, (runAllFactors ctx).Gives (UsesWeights {}) InRange fun _ => True := by
  obtain ⟨-, hgives, hnonneg⟩ := score_inRange {} (by decide +kernel)
  have hbounded : Bounded {} := by
    refine hnonneg fun f => ?_
    cases f <;> decide +kernel
  exact ⟨hbounded, hgives hbounded⟩

/-- A weight of 1.5 beside one of −0.5. -/
def skewedWeights : RiskWeights where
  buyerCredit := mkRat 3 2
  tenor := mkRat (-1) 2
  trackRecord := 0
  concentration := 0
  collateral := 0

/-- The weights sum to 1; the score of a buyer rated A with a tenor in no band is 150, and the database
refuses it. -/
theorem skewed_score :
    guardWeights skewedWeights = .ok () ∧
      (∃ w invoice buyer factors, ScoredAs skewedWeights w invoice buyer factors ∧ factors.final = 150) ∧
        ((program {} (.scoreInvoice 1)).outcome (healthyInput skewedWeights)
          (extremeWorld true false true true)).1 =
            .error (.runtime "new row violates check constraint chk_risk_scores_final_range") := by
  refine ⟨by decide +kernel, ?_, by decide +kernel⟩
  obtain ⟨w, invoice, buyer, factors, hscored, hraw⟩ :=
    exists_scoredAs skewedWeights fun f => decide (f = .buyerCredit)
  refine ⟨w, invoice, buyer, factors, hscored, ?_⟩
  rw [hscored.areScores.final_eq, hraw]
  decide +kernel

end Ris.RiskEngine
