import RisPlatform.Alone
import RisPlatform.Collateral
import RisPlatform.Common.Binary64Scaled

/-!
# The decision on the coverage

`checkCoverageRatio` truncates the ratio to four places and compares it, as a JavaScript number, with the
configured threshold. For thresholds of four places the truncation and the two roundings decide nothing, as
long as doubles are no coarser than the places (`coverage_exact`). A denominator of zero is never covered.
-/

namespace Ris.Collateral

open Relational Concurrent

/-- A threshold of four places, in parts of 10000, as `parseFloat` reads it. -/
def threshold (parts : ℕ) : ℚ := Binary64.round (parts / 10000)

/-- Comparing the doubles is comparing the products. -/
theorem threshold_le_coverageRatio_iff {parts total face : ℕ} (hparts : parts ≤ 10000 * 2 ^ 39)
    (hface : 0 < face) :
    threshold parts ≤ coverageRatio total face ↔ (parts : ℚ) / 10000 * face ≤ total := by
  have hquotient : ((total : ℤ) * 10000).tdiv face = ((total * 10000 / face : ℕ) : ℤ) := by
    rw [Int.tdiv_eq_ediv_of_nonneg (by positivity)]
    push_cast
    rfl
  have hround := Binary64.round_div_le_iff (m := 10000) (e := 39) (n := total * 10000 / face) (by norm_num)
    (by norm_num) hparts
  have hcompare : threshold parts ≤ coverageRatio total face ↔ parts ≤ total * 10000 / face := by
    rw [← hround, threshold, coverageRatio, Binary64.div, hquotient]
    push_cast
    exact Iff.rfl
  rw [hcompare, Nat.le_div_iff_mul_le hface, div_mul_eq_mul_div, div_le_iff₀ (by norm_num)]
  norm_cast

/-- The configuration that the statement reads has the threshold. -/
def UsesThreshold (parts : ℕ) (i : Input) : Prop := i.coverageRatio = some (threshold parts)

theorem threshold_nonneg (parts : ℕ) : 0 ≤ threshold parts := Binary64.round_nonneg (by positivity)

/-- The configured threshold is not replaced. -/
theorem gives_getMinCoverageRatio (parts : ℕ) :
    getMinCoverageRatio.Gives (UsesThreshold parts) (fun ratio => ratio = threshold parts) fun _ => True := by
  refine Proc.Gives.bind (R := fun value => value = some (threshold parts))
    (Proc.gives_transaction (fun i d a d' hi hx => ?_) fun _ _ _ _ _ => trivial) ?_
  · simp only [Txn.bind_ok, Txn.input_ok, Txn.pure_ok] at hx
    obtain ⟨_, _, ⟨rfl, rfl⟩, rfl, -⟩ := hx
    exact hi
  · rintro _ rfl
    have hnot : ¬ threshold parts < 0 := not_lt.2 (threshold_nonneg parts)
    simp only [if_neg hnot]
    exact Proc.gives_pure rfl

/-- The answer is that of exact arithmetic on the total that it shows. -/
def IsExact (parts : ℕ) (face : ℤ) (c : CoverageCheckResult) : Prop :=
  c.faceValue = face ∧
    (0 ≤ c.totalCollateral →
      (c.sufficient = true ↔ 0 < face ∧ (parts : ℚ) / 10000 * face ≤ c.totalCollateral))

theorem gives_checkCoverageRatio {parts : ℕ} (hparts : parts ≤ 10000 * 2 ^ 39) {face : ℤ}
    (hface : 0 ≤ face) (invoiceId : ℕ) :
    (checkCoverageRatio invoiceId face).Gives (UsesThreshold parts) (IsExact parts face) fun _ => True := by
  refine (gives_query (Q := fun _ => True) fun _ => trivial).bind fun total _ => ?_
  by_cases hzero : face = 0
  · simp only [if_pos hzero]
    apply Proc.gives_pure
    exact ⟨rfl, fun _ => by simp [hzero]⟩
  · simp only [if_neg hzero]
    refine (gives_getMinCoverageRatio parts).bind ?_
    rintro _ rfl
    apply Proc.gives_pure
    refine ⟨rfl, fun htotal => ?_⟩
    obtain ⟨n, rfl⟩ := Int.eq_ofNat_of_zero_le htotal
    obtain ⟨m, rfl⟩ := Int.eq_ofNat_of_zero_le hface
    have hm : 0 < m := by omega
    have hiff : threshold parts ≤ coverageRatio n m ↔ (parts : ℚ) / 10000 * m ≤ n :=
      threshold_le_coverageRatio_iff hparts hm
    simpa [hm] using hiff

theorem ends_getMinCoverageRatio (w : World) :
    getMinCoverageRatio.Ends (fun _ => True) (fun _ _ => True) (fun _ _ => True) w := by
  refine Proc.Ends.bind (R := fun _ _ => True)
    (Proc.ends_transaction (fun _ _ _ _ _ => trivial) fun _ _ _ _ => trivial) fun value d _ => ?_
  have hlog (message : String) :
      (do log message; return coverageRatioFallback : Call ℚ).Ends (fun _ => True) (fun _ _ => True)
        (fun _ _ => True) d :=
    Proc.Ends.bind (R := fun _ _ => True)
      (Proc.ends_transaction (fun _ _ _ _ _ => trivial) fun _ _ _ _ => trivial) fun _ _ _ => trivial
  cases value with
  | none => exact hlog _
  | some ratio =>
    dsimp only
    split
    · exact hlog _
    · exact trivial

/-- The total is that of the store, while no other call moves. -/
theorem ends_checkCoverageRatio (invoiceId : ℕ) (face : ℤ) (w : World) :
    (checkCoverageRatio invoiceId face).Ends (fun _ => True)
      (fun c _ => c.totalCollateral = getTotalCollateralValueForInvoice invoiceId w) (fun _ _ => True) w := by
  refine ends_bind_query ?_ fun _ => trivial
  by_cases hzero : face = 0
  · simp only [if_pos hzero]
    exact Proc.ends_pure rfl
  · simp only [if_neg hzero]
    exact (ends_getMinCoverageRatio w).bind fun _ _ _ => Proc.ends_pure rfl

/-- The decision on the coverage is exact: for every total, every denominator and every threshold of four
places, whatever other calls do meanwhile. -/
theorem coverage_exact (invoiceId : ℕ) {parts : ℕ} (hparts : parts ≤ 10000 * 2 ^ 39) {face : ℤ}
    (hface : 0 ≤ face) :
    (checkCoverageRatio invoiceId face).Gives (UsesThreshold parts) (IsExact parts face) (fun _ => True) ∧
      ∀ w, (checkCoverageRatio invoiceId face).Ends (fun _ => True)
        (fun c _ => c.totalCollateral = getTotalCollateralValueForInvoice invoiceId w) (fun _ _ => True) w :=
  ⟨gives_checkCoverageRatio hparts hface invoiceId, ends_checkCoverageRatio invoiceId face⟩

/-- Half of an invoice of 100000. -/
theorem coverage_exact_half :
    (checkCoverageRatio 1 100000).Gives (UsesThreshold 5000) (IsExact 5000 100000) fun _ => True :=
  (coverage_exact 1 (by norm_num) (by norm_num)).1

/-- An item of the value is pledged for the invoice. -/
def covered (value : ℤ) : World :=
  { World.empty with
    collateral := .single { id := 1, invoiceId := some 1, value, isActive := true, deletedAt := none } }

/-- The answer for the first invoice, when it is asked with the threshold and nothing fails. -/
def sufficient (ratio : ℚ) (total face : ℤ) : Option Bool :=
  ((checkCoverageRatio 1 face).outcome { coverageRatio := some (Binary64.round ratio) }
    (covered total)).1.toOption.map CoverageCheckResult.sufficient

/-- Nothing is refused against nothing; so is a total at a threshold of five places; and a threshold of four
places where doubles are coarser lets a smaller total pass. -/
theorem coverage_inexact :
    (sufficient 0 0 0 = some false ∧ (0 : ℚ) * 0 ≤ 0) ∧
      (sufficient (50001 / 100000) 50001 100000 = some false ∧ (50001 / 100000 : ℚ) * 100000 ≤ 50001) ∧
      (sufficient (5497558138880003 / 10000) 5497558138880002 10000 = some true ∧
        ¬(5497558138880003 / 10000 : ℚ) * 10000 ≤ 5497558138880002) := by
  refine ⟨⟨?_, by norm_num⟩, ⟨?_, by norm_num⟩, ⟨?_, by norm_num⟩⟩
  · decide +kernel
  · decide +kernel
  · decide +kernel

end Ris.Collateral
