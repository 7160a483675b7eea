import Mathlib.Data.List.Sort
import RisPlatform.Common.Binary64
import RisPlatform.Common.LeftJoin
import RisPlatform.Common.RoundAway
import RisPlatform.Schema

/-!
# `reporting.repository.ts`: the profit reports

The profit of each invoice, their summary, and the company's profit and loss. All read the invoices that
were funded, joined with their drawdowns, and two of them with the collections that were collected too.
Amounts are the numbers that the texts denote.
-/

namespace Ris.Reporting

open Relational

/-- The filters that these reports read; an absent or empty text is no filter. -/
structure ReportFilters where
  startDate : Option ℤ := none
  endDate : Option ℤ := none

/-- `i.status IN ('funded','collecting','collected','overdue')` -/
def isReported (i : Invoice) : Bool :=
  [InvoiceStatus.funded, .collecting, .collected, .overdue].contains i.status

/-- `fd.invoice_id = i.id` -/
def drawnFor (i : Invoice) (fd : FacilityDrawdown) : Bool := fd.invoiceId = i.id

/-- `c.invoice_id = i.id AND c.status = 'collected'` -/
def collectedFor (i : Invoice) (c : Collection) : Bool := c.invoiceId = i.id && c.status = .collected

/-- `ROUND(q, 2)` -/
def round2 (q : ℚ) : ℚ := roundAway (q * 100) / 100

/-- `AVG`, of nulls alone a null. -/
def avg (xs : List (Option ℚ)) : Option ℚ := (Sql.sum xs).map fun total => total / xs.reduceOption.length

/-! ## The profit report -/

structure InvoiceProfitRow where
  invoiceId : ℕ
  faceValue : ℤ
  discountAmount : Option ℤ
  penaltyIncome : ℤ
  bankInterestCost : ℤ
  netRisProfit : Option ℤ
  profitMarginPct : Option ℚ

structure ProfitSummary where
  totalFaceValue : ℤ
  totalDiscount : ℤ
  totalPenaltyIncome : ℤ
  totalRevenue : ℤ
  totalBankInterest : ℤ
  totalNetProfit : ℤ
  avgProfitMarginPct : ℚ
  totalWriteOffs : ℤ

structure ProfitReport where
  invoices : List InvoiceProfitRow
  summary : ProfitSummary

/-- A row of the two joins: an invoice, a drawdown and a collection, each of the last two perhaps null. -/
abbrev ProfitJoin : Type := (Invoice × Option FacilityDrawdown) × Option Collection

def ProfitJoin.invoice (r : ProfitJoin) : Invoice := r.1.1

/-- `COALESCE(c.penalty_amount, 0)` -/
def ProfitJoin.penalty (r : ProfitJoin) : ℤ := r.2.elim 0 Collection.penaltyAmount

/-- `COALESCE(fd.accrued_interest, 0)` -/
def ProfitJoin.interest (r : ProfitJoin) : ℤ := r.1.2.elim 0 FacilityDrawdown.accruedInterest

/-- `i.discount_amount + COALESCE(c.penalty_amount, 0)` -/
def ProfitJoin.revenue (r : ProfitJoin) : Option ℤ := r.invoice.discountAmount.map (· + r.penalty)

/-- `i.discount_amount + COALESCE(c.penalty_amount, 0) - COALESCE(fd.accrued_interest, 0)` -/
def ProfitJoin.net (r : ProfitJoin) : Option ℤ := r.revenue.map (· - r.interest)

/-- `CASE WHEN i.face_value > 0 THEN net / i.face_value * 100 ELSE 0 END` -/
def ProfitJoin.margin (r : ProfitJoin) : Option ℚ :=
  if 0 < r.invoice.faceValue then r.net.map fun net => (net : ℚ) / r.invoice.faceValue * 100 else some 0

def ProfitJoin.row (r : ProfitJoin) : InvoiceProfitRow where
  invoiceId := r.invoice.id
  faceValue := r.invoice.faceValue
  discountAmount := r.invoice.discountAmount
  penaltyIncome := r.penalty
  bankInterestCost := r.interest
  netRisProfit := r.net
  -- only the first branch of the `CASE` is rounded; rounding keeps the zero of the other
  profitMarginPct := r.margin.map fun margin => Binary64.round (round2 margin)

/-- `FROM invoices i LEFT JOIN facility_drawdowns fd .. LEFT JOIN collections c .. WHERE ..` -/
def profitJoin (w : World) : List ProfitJoin :=
  Sql.leftJoin (fun r c => collectedFor r.1 c)
    (Sql.leftJoin drawnFor (w.invoices.rows.filter isReported) w.facilityDrawdowns.rows)
    w.collections.rows

/-- The role is compared with itself only, and no filter is read. -/
def getProfitReport (w : World) : ProfitReport :=
  let joined := profitJoin w
  -- ORDER BY i.created_at DESC
  let sorted := joined.insertionSort fun r r' => r'.invoice.createdAt ≤ r.invoice.createdAt
  { invoices := sorted.map ProfitJoin.row
    summary :=
      { totalFaceValue := (Sql.sum (joined.map fun r => some r.invoice.faceValue)).getD 0
        totalDiscount := (Sql.sum (joined.map fun r => r.invoice.discountAmount)).getD 0
        totalPenaltyIncome := (Sql.sum (joined.map fun r => some r.penalty)).getD 0
        totalRevenue := (Sql.sum (joined.map ProfitJoin.revenue)).getD 0
        totalBankInterest :=
          (Sql.sum (joined.map fun r => r.1.2.map FacilityDrawdown.accruedInterest)).getD 0
        totalNetProfit := (Sql.sum (joined.map ProfitJoin.net)).getD 0
        avgProfitMarginPct :=
          ((avg (joined.map ProfitJoin.margin)).map fun margin => Binary64.round (round2 margin)).getD 0
        totalWriteOffs :=
          (Sql.sum ((w.invoices.rows.filter fun i => i.status = .defaulted).map
            Invoice.advanceAmount)).getD 0 } }

/-! ## Profit and loss -/

structure CompanyPlReport where
  totalFaceValueDiscounted : ℤ
  totalDiscountEarned : ℤ
  totalBankInterestCost : ℤ
  grossProfit : ℤ

/-- The conditions of the `WHERE`. -/
def inPl (filters : ReportFilters) (i : Invoice) : Bool :=
  isReported i && filters.startDate.all (· ≤ i.createdAt) && filters.endDate.all (i.createdAt ≤ ·)

def plJoin (filters : ReportFilters) (w : World) : List (Invoice × Option FacilityDrawdown) :=
  Sql.leftJoin drawnFor (w.invoices.rows.filter (inPl filters)) w.facilityDrawdowns.rows

def getCompanyPl (filters : ReportFilters) (w : World) : CompanyPlReport :=
  let joined := plJoin filters w
  let discount := Sql.sum (joined.map fun r => r.1.discountAmount)
  let interest := Sql.sum (joined.map fun r => r.2.map FacilityDrawdown.accruedInterest)
  { totalFaceValueDiscounted := (Sql.sum (joined.map fun r => some r.1.faceValue)).getD 0
    totalDiscountEarned := discount.getD 0
    totalBankInterestCost := interest.getD 0
    -- a null in either sum is a null in the difference
    grossProfit := (Option.map₂ (· - ·) discount interest).getD 0 }

end Ris.Reporting
