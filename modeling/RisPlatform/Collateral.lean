import RisPlatform.Common.Binary64
import RisPlatform.Calls

/-!
# Collateral coverage

`checkCoverageRatio` of `collateral.service.ts`, which payments and scoring call before money moves.
-/

namespace Ris.Collateral

open Relational Concurrent

/-- `COVERAGE_RATIO_FALLBACK`. -/
def coverageRatioFallback : ℚ := mkRat 1 2

/-- The configured threshold; a missing, negative or non-finite one is replaced. -/
def getMinCoverageRatio : Call ℚ := do
  let value ← .transaction (do let i ← Txn.input; return i.coverageRatio) (fun _ => .read)
    fun _ => .threw
  match value with
  | some ratio =>
    if ratio < 0 then
      log "collateral: invalid coverage threshold; using fallback"
      return coverageRatioFallback
    else return ratio
  | none =>
    log "collateral: failed to read coverage threshold; using fallback"
    return coverageRatioFallback

/-- The live collateral pledged for an invoice. -/
def getTotalCollateralValueForInvoice (invoiceId : ℕ) (w : World) : ℤ :=
  ((w.collateral.rows.filter fun c =>
    c.invoiceId = some invoiceId ∧ c.isActive ∧ c.deletedAt = none).map Collateral.value).sum

structure CoverageCheckResult where
  totalCollateral : ℤ
  faceValue : ℤ
  ratio : ℚ
  sufficient : Bool

/-- `Number((total * 10000n) / face) / 10000`. -/
def coverageRatio (total face : ℤ) : ℚ :=
  Binary64.div (Binary64.round ((total * 10000).tdiv face)) 10000

/-- Does the collateral cover the amount? -/
def checkCoverageRatio (invoiceId : ℕ) (faceValue : ℤ) : Call CoverageCheckResult := do
  let total ← query (getTotalCollateralValueForInvoice invoiceId)
  if faceValue = 0 then
    return { totalCollateral := total, faceValue, ratio := 0, sufficient := false }
  else
    let ratio := coverageRatio total faceValue
    let threshold ← getMinCoverageRatio
    return { totalCollateral := total, faceValue, ratio, sufficient := threshold ≤ ratio }

end Ris.Collateral
