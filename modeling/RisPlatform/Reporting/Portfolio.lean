import Mathlib.Data.Char
import Mathlib.Data.List.Lex
import RisPlatform.Platform
import RisPlatform.Reporting.Repository

/-!
# `reporting.repository.ts`: the portfolio reports

The portfolio summary, the aging analysis and the buyer exposure. Each is a query of its own, over other
groups and joins, and the money in use is in all three of them. Read at one moment they agree
(`reports_reconcile`). Over a run, the money that is in use at one moment is found again in every later
summary, or it was written off or withdrawn (`money_accounted`).

Amounts are the numbers that the texts denote, and quotients are exact before they are rounded.
-/

namespace Ris.Reporting

open Relational Concurrent

/-! ## Portfolio summary -/

/-- `status IN ('funded','collecting','overdue')` -/
def inUse (i : Invoice) : Bool := [InvoiceStatus.funded, .collecting, .overdue].contains i.status

/-- `COALESCE(SUM(CASE WHEN p THEN face_value ELSE 0 END), 0)` -/
def faceWhen (p : Invoice → Bool) (invoices : List Invoice) : ℤ :=
  (Sql.sum (invoices.map fun i => some (if p i then i.faceValue else 0))).getD 0

/-- `SUM(CASE WHEN status = 'collected' THEN discount_amount ELSE 0 END)` -/
def earned (invoices : List Invoice) : Option ℤ :=
  Sql.sum (invoices.map fun i => if i.status = .collected then i.discountAmount else some 0)

/-- `GREATEST(EXTRACT(EPOCH FROM (NOW() - MIN(created_at))) / 86400, 1)`, where a null is left out. -/
def bookDays (now : ℤ) (invoices : List Invoice) : ℚ :=
  (invoices.map Invoice.createdAt).min?.elim 1 fun first => max (((now - first : ℤ) : ℚ) / dayMs) 1

def annualisedYield (now : ℤ) (invoices : List Invoice) : ℚ :=
  if 0 < faceWhen isReported invoices then
    ((earned invoices).map fun discount =>
      round2 ((discount : ℚ) / faceWhen isReported invoices * 100 * (365 / bookDays now invoices))).getD 0
  else 0

structure StatusCount where
  status : InvoiceStatus
  count : ℕ

/-- The text of an amount. -/
def digits (n : ℤ) : List Char :=
  if n < 0 then '-' :: Nat.toDigits 10 n.natAbs else Nat.toDigits 10 n.natAbs

/-- `GROUP BY status ORDER BY count DESC`; the column is a text by then, and sorted as one. -/
def statusCounts (invoices : List Invoice) : List StatusCount :=
  ((Sql.groups Invoice.status invoices).map fun g => { status := g.1, count := g.2.length }).insertionSort
    fun c c' => digits c'.count ≤ digits c.count

/-- `b.id = i.buyer_id` -/
def buyerOf (i : Invoice) (b : Buyer) : Bool := b.id = i.buyerId

/-- A row of `invoices i LEFT JOIN buyers b`. -/
abbrev BuyerJoin : Type := Invoice × Option Buyer

/-- `GROUP BY i.buyer_id, b.company_name` -/
def buyerKey (r : BuyerJoin) : ℕ × Option String := (r.1.buyerId, r.2.map Buyer.companyName)

structure TopBuyer where
  buyerId : ℕ
  buyerName : String
  totalExposure : ℤ

def topBuyer (g : (ℕ × Option String) × List BuyerJoin) : TopBuyer where
  buyerId := g.1.1
  buyerName := g.1.2.getD "Unknown"
  -- a group has a row, so that the sum is no null
  totalExposure := (Sql.sum (g.2.map fun r => some r.1.faceValue)).getD 0

/-- `ORDER BY SUM(i.face_value) DESC` -/
def rankedBuyers (w : World) : List TopBuyer :=
  ((Sql.groups buyerKey (Sql.leftJoin buyerOf (w.invoices.rows.filter inUse) w.buyers.rows)).map
    topBuyer).insertionSort fun b b' => b'.totalExposure ≤ b.totalExposure

/-- `LIMIT 5` -/
def topBuyers (w : World) : List TopBuyer := (rankedBuyers w).take 5

structure PortfolioSummary where
  totalFunded : ℤ
  totalCollected : ℤ
  totalOutstanding : ℤ
  totalOverdue : ℤ
  annualisedYield : ℚ
  invoiceCountsByStatus : List StatusCount
  topBuyers : List TopBuyer

/-- The role is compared with itself only, and no filter is read. -/
def getPortfolioSummary (now : ℤ) (w : World) : PortfolioSummary where
  totalFunded := faceWhen isReported w.invoices.rows
  totalCollected := faceWhen (fun i => i.status = .collected) w.invoices.rows
  totalOutstanding := faceWhen (fun i => [InvoiceStatus.funded, .collecting].contains i.status) w.invoices.rows
  totalOverdue := faceWhen (fun i => i.status = .overdue) w.invoices.rows
  annualisedYield := annualisedYield now w.invoices.rows
  invoiceCountsByStatus := statusCounts w.invoices.rows
  topBuyers := topBuyers w

/-! ## Aging analysis -/

inductive AgingBucket
  | current | watch | critical | dueToday | overdueWeek | overdueMore
  deriving DecidableEq

def AgingBucket.text : AgingBucket → String
  | .current => "Current (31+ days)"
  | .watch => "Watch (8-30 days)"
  | .critical => "Critical (1-7 days)"
  | .dueToday => "Due Today"
  | .overdueWeek => "Overdue 1-7 days"
  | .overdueMore => "Overdue 7+ days"

/-- `due_date - CURRENT_DATE` -/
def daysToDue (today : ℤ) (i : Invoice) : ℤ := i.dueDate - today

def agingBucket (today : ℤ) (i : Invoice) : AgingBucket :=
  if 30 < daysToDue today i then .current
  else if 8 ≤ daysToDue today i ∧ daysToDue today i ≤ 30 then .watch
  else if 1 ≤ daysToDue today i ∧ daysToDue today i ≤ 7 then .critical
  else if daysToDue today i = 0 then .dueToday
  else if 1 ≤ today - i.dueDate ∧ today - i.dueDate ≤ 7 then .overdueWeek
  else .overdueMore

structure AgingRow where
  bucket : AgingBucket
  count : ℕ
  totalAmount : ℤ

/-- `MIN(due_date - CURRENT_DATE)`; a group has a row, so that it is no null. -/
def minDays (today : ℤ) (invoices : List Invoice) : ℤ := (invoices.map (daysToDue today)).min?.getD 0

def agingRow (g : AgingBucket × List Invoice) : AgingRow where
  bucket := g.1
  count := g.2.length
  totalAmount := (Sql.sum (g.2.map fun i => some i.faceValue)).getD 0

def getAgingAnalysis (today : ℤ) (w : World) : List AgingRow :=
  ((Sql.groups (agingBucket today) (w.invoices.rows.filter inUse)).insertionSort fun g g' =>
    minDays today g'.2 ≤ minDays today g.2).map agingRow

/-! ## Buyer exposure -/

structure BuyerExposure where
  buyerId : ℕ
  buyerName : String
  usedLimit : ℤ
  approvedLimit : ℤ
  utilisationPct : ℚ
  overdueIncidentCount : ℕ

/-- `SUM(CASE WHEN i.status IN ('funded','collecting','overdue') THEN i.face_value ELSE 0 END)` -/
def usedBy (rows : List BuyerJoin) : ℤ :=
  (Sql.sum (rows.map fun r => some (if inUse r.1 then r.1.faceValue else 0))).getD 0

/-- `COALESCE(MAX(b.approved_limit), 0)` -/
def approvedFor (rows : List BuyerJoin) : ℤ :=
  (rows.filterMap fun r => r.2.map Buyer.approvedLimit).max?.getD 0

def buyerExposure (g : (ℕ × Option String) × List BuyerJoin) : BuyerExposure where
  buyerId := g.1.1
  buyerName := g.1.2.getD "Unknown"
  usedLimit := usedBy g.2
  approvedLimit := approvedFor g.2
  utilisationPct :=
    if 0 < approvedFor g.2 then Binary64.round (round2 ((usedBy g.2 : ℚ) / approvedFor g.2 * 100)) else 0
  overdueIncidentCount := (g.2.filter fun r => r.1.status = .overdue).length

/-- `ORDER BY used_limit DESC`, which is the text. -/
def getBuyerExposure (w : World) : List BuyerExposure :=
  ((Sql.groups buyerKey (Sql.leftJoin buyerOf w.invoices.rows w.buyers.rows)).map
    buyerExposure).insertionSort fun e e' => digits e'.usedLimit ≤ digits e.usedLimit

/-! ## What the reports should say -/

/-- Where a bucket stands in the analysis. -/
def AgingBucket.place : AgingBucket → ℕ
  | .current => 0
  | .watch => 1
  | .critical => 2
  | .dueToday => 3
  | .overdueWeek => 4
  | .overdueMore => 5

/-- The three reports of one moment agree. -/
structure Reconciles (now : ℤ) (w : World) : Prop where
  /-- What was funded is collected, outstanding or overdue. -/
  funded : (getPortfolioSummary now w).totalFunded =
    (getPortfolioSummary now w).totalCollected + (getPortfolioSummary now w).totalOutstanding +
      (getPortfolioSummary now w).totalOverdue
  /-- The buckets share out what is outstanding or overdue. -/
  aging : Sql.total AgingRow.totalAmount (getAgingAnalysis (now / dayMs) w) =
    (getPortfolioSummary now w).totalOutstanding + (getPortfolioSummary now w).totalOverdue
  /-- No bucket is listed twice, and the later due ones come first. -/
  buckets : ((getAgingAnalysis (now / dayMs) w).map AgingRow.bucket).Pairwise fun b b' => b.place < b'.place
  /-- The buyers share it out too. -/
  exposure : Sql.total BuyerExposure.usedLimit (getBuyerExposure w) =
    (getPortfolioSummary now w).totalOutstanding + (getPortfolioSummary now w).totalOverdue
  /-- No buyer is listed twice. -/
  once : ((getBuyerExposure w).map BuyerExposure.buyerId).Nodup
  /-- The counts are those of all invoices. -/
  counts : Sql.total StatusCount.count (getPortfolioSummary now w).invoiceCountsByStatus =
    w.invoices.rows.length
  /-- The overdue invoices of the buyers are the overdue ones of the summary. -/
  incidents : Sql.total BuyerExposure.overdueIncidentCount (getBuyerExposure w) =
    Sql.total StatusCount.count
      ((getPortfolioSummary now w).invoiceCountsByStatus.filter fun c => c.status = .overdue)
  /-- The top buyers are buyers of the exposure report, with the same amount. -/
  top : ∀ b ∈ (getPortfolioSummary now w).topBuyers,
    ∃ e ∈ getBuyerExposure w, e.buyerId = b.buyerId ∧ e.usedLimit = b.totalExposure
  /-- A buyer is among the top ones, or owes nothing, or owes no more than any of five top ones. -/
  largest : ∀ e ∈ getBuyerExposure w,
    (∃ b ∈ (getPortfolioSummary now w).topBuyers, b.buyerId = e.buyerId) ∨ e.usedLimit = 0 ∨
      ((getPortfolioSummary now w).topBuyers.length = 5 ∧
        ∀ b ∈ (getPortfolioSummary now w).topBuyers, e.usedLimit ≤ b.totalExposure)

variable {now today : ℤ} {w : World}

/-! ## Amounts -/

theorem faceWhen_eq (p : Invoice → Bool) (invoices : List Invoice) :
    faceWhen p invoices = Sql.total Invoice.faceValue (invoices.filter p) := by
  rw [faceWhen, Sql.sum_getD, Sql.total_filter]
  rfl

/-- What is outstanding or overdue is in use. -/
theorem outstanding_add_overdue :
    (getPortfolioSummary now w).totalOutstanding + (getPortfolioSummary now w).totalOverdue =
      Sql.total Invoice.faceValue (w.invoices.rows.filter inUse) := by
  have hdisjoint : ∀ i ∈ w.invoices.rows, ¬([InvoiceStatus.funded, .collecting].contains i.status = true ∧
      decide (i.status = .overdue) = true) := by
    rintro i - ⟨hout, hover⟩
    rw [of_decide_eq_true hover] at hout
    exact absurd hout (by decide)
  have hunion : inUse = fun i =>
      [InvoiceStatus.funded, .collecting].contains i.status || decide (i.status = .overdue) := by
    funext i
    rw [inUse]
    cases i.status <;> rfl
  rw [hunion, Sql.total_filter_or hdisjoint]
  exact congrArg₂ (· + ·) (faceWhen_eq _ _) (faceWhen_eq _ _)

theorem funded_eq :
    (getPortfolioSummary now w).totalFunded =
      (getPortfolioSummary now w).totalCollected + (getPortfolioSummary now w).totalOutstanding +
        (getPortfolioSummary now w).totalOverdue := by
  have hdisjoint : ∀ i ∈ w.invoices.rows, ¬(decide (i.status = .collected) = true ∧ inUse i = true) := by
    rintro i - ⟨hcollected, huse⟩
    rw [inUse, of_decide_eq_true hcollected] at huse
    exact absurd huse (by decide)
  have hunion : isReported = fun i => decide (i.status = .collected) || inUse i := by
    funext i
    rw [isReported, inUse]
    cases i.status <;> rfl
  have hcollected : (getPortfolioSummary now w).totalCollected =
      Sql.total Invoice.faceValue (w.invoices.rows.filter fun i => i.status = .collected) := faceWhen_eq _ _
  rw [add_assoc, outstanding_add_overdue, hcollected, ← Sql.total_filter_or hdisjoint, ← hunion]
  exact faceWhen_eq _ _

theorem counts_eq :
    Sql.total StatusCount.count (getPortfolioSummary now w).invoiceCountsByStatus = w.invoices.rows.length := by
  have hperm := ((Sql.groups Invoice.status w.invoices.rows).map fun g =>
    (⟨g.1, g.2.length⟩ : StatusCount)).perm_insertionSort fun c c' => digits c'.count ≤ digits c.count
  refine (Sql.total_perm _ hperm).trans ?_
  rw [Sql.total_map, ← Sql.total_one w.invoices.rows, ← Sql.total_groups Invoice.status]
  exact Sql.total_congr fun g _ => (Sql.total_one g.2).symm

/-! ## Buckets -/

/-- The later an invoice is due, the earlier its bucket. -/
theorem place_anti {i i' : Invoice} (h : daysToDue today i ≤ daysToDue today i') :
    (agingBucket today i').place ≤ (agingBucket today i).place := by
  have hover : ∀ j : Invoice, today - j.dueDate = -daysToDue today j := fun j => by
    rw [daysToDue]
    omega
  simp only [agingBucket, hover]
  split_ifs <;> simp only [AgingBucket.place] <;> omega

/-- Some row of a group has its earliest day. -/
theorem exists_minDays {g : AgingBucket × List Invoice} {invoices : List Invoice}
    (hg : g ∈ Sql.groups (agingBucket today) invoices) :
    ∃ i, agingBucket today i = g.1 ∧ daysToDue today i = minDays today g.2 := by
  obtain ⟨⟨i, hi, hkey⟩, hrows⟩ := Sql.mem_groups.1 hg
  have hmem : i ∈ g.2 := by
    rw [hrows]
    exact Sql.mem_group.2 ⟨hi, hkey⟩
  cases hmin : (g.2.map (daysToDue today)).min? with
  | none =>
    rw [List.min?_eq_none_iff, List.map_eq_nil_iff] at hmin
    rw [hmin] at hmem
    exact absurd hmem List.not_mem_nil
  | some d =>
    obtain ⟨j, hj, hd⟩ := List.mem_map.1 (List.min?_mem hmin)
    rw [hrows] at hj
    refine ⟨j, (Sql.mem_group.1 hj).2, ?_⟩
    rw [minDays, hmin, Option.getD_some, hd]

theorem buckets_ordered :
    ((getAgingAnalysis today w).map AgingRow.bucket).Pairwise fun b b' => b.place < b'.place := by
  have hinj : ∀ b b' : AgingBucket, b.place = b'.place → b = b' := by
    intro b b' h
    cases b <;> cases b' <;> first | rfl | cases h
  rw [getAgingAnalysis, List.map_map, List.pairwise_map]
  have hsorted := List.pairwise_insertionSort (fun g g' : AgingBucket × List Invoice =>
    minDays today g'.2 ≤ minDays today g.2)
    (Sql.groups (agingBucket today) (w.invoices.rows.filter inUse))
  have hperm := List.perm_insertionSort (fun g g' : AgingBucket × List Invoice =>
    minDays today g'.2 ≤ minDays today g.2)
    (Sql.groups (agingBucket today) (w.invoices.rows.filter inUse))
  have hdistinct := List.pairwise_map.1 ((hperm.map Prod.fst).nodup_iff.2 (Sql.nodup_groups _ _))
  refine List.Pairwise.imp_of_mem ?_ (hsorted.and hdistinct)
  rintro g g' hg hg' ⟨hdays, hne⟩
  obtain ⟨i, hi, hmin⟩ := exists_minDays (hperm.mem_iff.1 hg)
  obtain ⟨i', hi', hmin'⟩ := exists_minDays (hperm.mem_iff.1 hg')
  have hle : (agingBucket today i).place ≤ (agingBucket today i').place :=
    place_anti (by rw [hmin, hmin']; exact hdays)
  rw [hi, hi'] at hle
  exact lt_of_le_of_ne hle fun heq => hne (hinj _ _ heq)

theorem aging_eq :
    Sql.total AgingRow.totalAmount (getAgingAnalysis today w) =
      Sql.total Invoice.faceValue (w.invoices.rows.filter inUse) := by
  have hperm := List.perm_insertionSort (fun g g' : AgingBucket × List Invoice =>
    minDays today g'.2 ≤ minDays today g.2)
    (Sql.groups (agingBucket today) (w.invoices.rows.filter inUse))
  rw [getAgingAnalysis, Sql.total_map, Sql.total_perm _ hperm, ← Sql.total_groups (agingBucket today)]
  exact Sql.total_congr fun g _ => Sql.sum_getD _ _

/-! ## Buyers -/

/-- The join looks the buyer up. -/
theorem buyerJoin_eq (invoices : List Invoice) :
    Sql.leftJoin buyerOf invoices w.buyers.rows = invoices.map fun i => (i, w.buyers.get? i.buyerId) := by
  refine Sql.leftJoin_eq_map fun i _ => ?_
  exact Sql.partners_key w.buyers.keys_nodup i.buyerId

/-- The join of a part of the invoices is a part of the join. -/
theorem buyerJoin_filter (p : Invoice → Bool) (invoices : List Invoice) :
    Sql.leftJoin buyerOf (invoices.filter p) w.buyers.rows =
      (Sql.leftJoin buyerOf invoices w.buyers.rows).filter fun r => p r.1 := by
  rw [buyerJoin_eq, buyerJoin_eq, List.filter_map]
  rfl

theorem usedBy_eq (rows : List BuyerJoin) :
    usedBy rows = Sql.total (fun r => r.1.faceValue) (rows.filter fun r => inUse r.1) := by
  rw [usedBy, Sql.sum_getD, Sql.total_filter]
  rfl

theorem total_buyerJoin (f : Invoice → ℤ) (invoices : List Invoice) :
    Sql.total (fun r => f r.1) (Sql.leftJoin buyerOf invoices w.buyers.rows) = Sql.total f invoices := by
  rw [buyerJoin_eq, Sql.total_map]

/-- The order of the report does not matter for a sum over it. -/
theorem total_exposure {M : Type*} [AddCommMonoid M] (f : BuyerExposure → M) :
    Sql.total f (getBuyerExposure w) = Sql.total (fun g => f (buyerExposure g))
      (Sql.groups buyerKey (Sql.leftJoin buyerOf w.invoices.rows w.buyers.rows)) := by
  rw [getBuyerExposure, Sql.total_perm f (List.perm_insertionSort _ _), Sql.total_map]

theorem exposure_eq :
    Sql.total BuyerExposure.usedLimit (getBuyerExposure w) =
      Sql.total Invoice.faceValue (w.invoices.rows.filter inUse) := by
  have hused : ∀ g : (ℕ × Option String) × List BuyerJoin, (buyerExposure g).usedLimit =
      Sql.total (fun r => if inUse r.1 then r.1.faceValue else 0) g.2 := fun g => Sql.sum_getD _ _
  rw [total_exposure, Sql.total_congr fun g _ => hused g, Sql.total_groups,
    total_buyerJoin fun i => if inUse i then i.faceValue else 0, Sql.total_filter]

/-- A buyer has one name. -/
theorem name_of_key {r r' : BuyerJoin} (hr : r ∈ Sql.leftJoin buyerOf w.invoices.rows w.buyers.rows)
    (hr' : r' ∈ Sql.leftJoin buyerOf w.invoices.rows w.buyers.rows) (h : r.1.buyerId = r'.1.buyerId) :
    buyerKey r = buyerKey r' := by
  rw [buyerJoin_eq] at hr hr'
  obtain ⟨i, -, rfl⟩ := List.mem_map.1 hr
  obtain ⟨i', -, rfl⟩ := List.mem_map.1 hr'
  have hid : i.buyerId = i'.buyerId := h
  rw [buyerKey, buyerKey, hid]

theorem buyers_once : ((getBuyerExposure w).map BuyerExposure.buyerId).Nodup := by
  have hkeys := List.pairwise_map.1 (Sql.nodup_groups buyerKey
    (Sql.leftJoin buyerOf w.invoices.rows w.buyers.rows))
  rw [getBuyerExposure, ((List.perm_insertionSort _ _).map _).nodup_iff, List.map_map, List.Nodup,
    List.pairwise_map]
  refine hkeys.imp_of_mem ?_
  intro g g' hg hg' hne hid
  obtain ⟨⟨r, hr, hkey⟩, -⟩ := Sql.mem_groups.1 hg
  obtain ⟨⟨r', hr', hkey'⟩, -⟩ := Sql.mem_groups.1 hg'
  refine hne (hkey.symm.trans ((name_of_key hr hr' ?_).trans hkey'))
  calc r.1.buyerId = g.1.1 := congrArg Prod.fst hkey
    _ = g'.1.1 := hid
    _ = r'.1.buyerId := (congrArg Prod.fst hkey').symm

/-- The overdue invoices, each counted once. -/
def overdueOnes (invoices : List Invoice) : ℕ :=
  Sql.total (fun i => if i.status = .overdue then 1 else 0) invoices

theorem overdue_length (rows : List BuyerJoin) :
    (rows.filter fun r => r.1.status = .overdue).length =
      Sql.total (fun r => if r.1.status = .overdue then 1 else 0) rows := by
  rw [← Sql.total_one, Sql.total_filter]
  simp only [decide_eq_true_eq]

theorem incidents_exposure :
    Sql.total BuyerExposure.overdueIncidentCount (getBuyerExposure w) = overdueOnes w.invoices.rows := by
  have hcount : ∀ g : (ℕ × Option String) × List BuyerJoin, (buyerExposure g).overdueIncidentCount =
      Sql.total (fun r => if r.1.status = .overdue then 1 else 0) g.2 := fun g => overdue_length g.2
  rw [total_exposure, Sql.total_congr fun g _ => hcount g, Sql.total_groups, buyerJoin_eq, Sql.total_map]
  rfl

theorem incidents_summary :
    Sql.total StatusCount.count
        ((getPortfolioSummary now w).invoiceCountsByStatus.filter fun c => c.status = .overdue) =
      overdueOnes w.invoices.rows := by
  have hperm := ((Sql.groups Invoice.status w.invoices.rows).map fun g =>
    (⟨g.1, g.2.length⟩ : StatusCount)).perm_insertionSort fun c c' => digits c'.count ≤ digits c.count
  refine (Sql.total_perm _ (hperm.filter _)).trans ?_
  rw [Sql.total_filter, Sql.total_map, overdueOnes, ← Sql.total_groups Invoice.status]
  apply Sql.total_congr
  intro g hg
  -- all rows of the group have its status
  have hstatus : ∀ i ∈ g.2, i.status = g.1 := fun i hi => by
    rw [(Sql.mem_groups.1 hg).2] at hi
    exact (Sql.mem_group.1 hi).2
  rw [Sql.total_congr (g := fun _ => if g.1 = .overdue then 1 else 0) fun i hi => by rw [hstatus i hi]]
  by_cases hover : g.1 = .overdue
  · simp only [hover, decide_true, if_true]
    exact (Sql.total_one g.2).symm
  · simp only [hover, decide_false, if_false]
    exact (Sql.total_const 0 g.2).symm

/-! ## Top buyers -/

/-- The rows of a top buyer are the rows in use of the exposure report. -/
theorem mem_topGroups {g : (ℕ × Option String) × List BuyerJoin} :
    g ∈ Sql.groups buyerKey (Sql.leftJoin buyerOf (w.invoices.rows.filter inUse) w.buyers.rows) ↔
      ∃ g' ∈ Sql.groups buyerKey (Sql.leftJoin buyerOf w.invoices.rows w.buyers.rows),
        (∃ r ∈ g'.2, inUse r.1 = true) ∧ g = (g'.1, g'.2.filter fun r => inUse r.1) := by
  obtain ⟨k, rows⟩ := g
  rw [buyerJoin_filter, Sql.mem_groups, Sql.group_filter]
  constructor
  · rintro ⟨⟨r, hr, rfl⟩, hrows⟩
    obtain ⟨hr, huse⟩ := List.mem_filter.1 hr
    refine ⟨(buyerKey r, _), Sql.mem_groups.2 ⟨⟨r, hr, rfl⟩, rfl⟩, ⟨r, Sql.mem_group.2 ⟨hr, rfl⟩, huse⟩, ?_⟩
    exact congrArg (Prod.mk _) hrows
  · rintro ⟨⟨k', rows'⟩, hg', ⟨r, hr, huse⟩, heq⟩
    obtain ⟨rfl, rfl⟩ := Prod.mk.inj heq
    have hrows' := (Sql.mem_groups.1 hg').2
    dsimp only at hrows' hr ⊢
    subst hrows'
    obtain ⟨hr, hkey⟩ := Sql.mem_group.1 hr
    exact ⟨⟨r, List.mem_filter.2 ⟨hr, huse⟩, hkey⟩, rfl⟩

/-- The amount of a top buyer is what the exposure report has for it. -/
theorem totalExposure_eq (g : (ℕ × Option String) × List BuyerJoin) :
    (topBuyer (g.1, g.2.filter fun r => inUse r.1)).totalExposure = (buyerExposure g).usedLimit := by
  rw [topBuyer, Sql.sum_getD]
  exact (usedBy_eq g.2).symm

theorem mem_exposure {e : BuyerExposure} :
    e ∈ getBuyerExposure w ↔
      ∃ g ∈ Sql.groups buyerKey (Sql.leftJoin buyerOf w.invoices.rows w.buyers.rows), buyerExposure g = e := by
  rw [getBuyerExposure, List.mem_insertionSort, List.mem_map]

theorem mem_ranked {b : TopBuyer} :
    b ∈ rankedBuyers w ↔ ∃ g ∈ Sql.groups buyerKey (Sql.leftJoin buyerOf w.invoices.rows w.buyers.rows),
      (∃ r ∈ g.2, inUse r.1 = true) ∧ topBuyer (g.1, g.2.filter fun r => inUse r.1) = b := by
  rw [rankedBuyers, List.mem_insertionSort, List.mem_map]
  constructor
  · rintro ⟨g, hg, rfl⟩
    obtain ⟨g', hg', huse, rfl⟩ := mem_topGroups.1 hg
    exact ⟨g', hg', huse, rfl⟩
  · rintro ⟨g, hg, huse, rfl⟩
    exact ⟨_, mem_topGroups.2 ⟨g, hg, huse, rfl⟩, rfl⟩

theorem top_of_ranked {b : TopBuyer} (hb : b ∈ rankedBuyers w) :
    ∃ e ∈ getBuyerExposure w, e.buyerId = b.buyerId ∧ e.usedLimit = b.totalExposure := by
  obtain ⟨g, hg, -, rfl⟩ := mem_ranked.1 hb
  exact ⟨buyerExposure g, mem_exposure.2 ⟨g, hg, rfl⟩, rfl, (totalExposure_eq g).symm⟩

/-- Past the first five of a sorted list everything is as large at most. -/
theorem le_of_drop {b b' : TopBuyer} (hb : b ∈ (rankedBuyers w).drop 5) (hb' : b' ∈ (rankedBuyers w).take 5) :
    b.totalExposure ≤ b'.totalExposure := by
  have hsorted := List.pairwise_insertionSort (fun b b' : TopBuyer => b'.totalExposure ≤ b.totalExposure)
    ((Sql.groups buyerKey (Sql.leftJoin buyerOf (w.invoices.rows.filter inUse) w.buyers.rows)).map topBuyer)
  change (rankedBuyers w).Pairwise _ at hsorted
  rw [← List.take_append_drop 5 (rankedBuyers w), List.pairwise_append] at hsorted
  exact hsorted.2.2 b' hb' b hb

theorem largest_of_exposure {e : BuyerExposure} (he : e ∈ getBuyerExposure w) :
    (∃ b ∈ topBuyers w, b.buyerId = e.buyerId) ∨ e.usedLimit = 0 ∨
      ((topBuyers w).length = 5 ∧ ∀ b ∈ topBuyers w, e.usedLimit ≤ b.totalExposure) := by
  obtain ⟨g, hg, rfl⟩ := mem_exposure.1 he
  by_cases huse : ∃ r ∈ g.2, inUse r.1 = true
  · have hranked := mem_ranked.2 ⟨g, hg, huse, rfl⟩
    rw [← List.take_append_drop 5 (rankedBuyers w), List.mem_append] at hranked
    rcases hranked with htop | hrest
    · exact Or.inl ⟨_, htop, rfl⟩
    · refine Or.inr (Or.inr ⟨?_, fun b hb => ?_⟩)
      · have hpos := List.length_pos_of_mem hrest
        rw [List.length_drop] at hpos
        have hfive : 5 ≤ (rankedBuyers w).length := by omega
        exact List.length_take_of_le hfive
      · rw [← totalExposure_eq]
        exact le_of_drop hrest hb
  · have hnone : (g.2.filter fun r => inUse r.1) = [] :=
      List.filter_eq_nil_iff.2 fun r hr hin => huse ⟨r, hr, hin⟩
    refine Or.inr (Or.inl ?_)
    have hused : (buyerExposure g).usedLimit = usedBy g.2 := rfl
    rw [hused, usedBy_eq, hnone, Sql.total_nil]

/-- **The reports agree.** At every moment and in every state of the database, the summary, the aging analysis
and the buyer exposure share out the same money and the same invoices, list no group twice, and the top buyers
of the summary are the largest ones of the exposure report. -/
theorem reports_reconcile (now : ℤ) (w : World) : Reconciles now w where
  funded := funded_eq
  aging := aging_eq.trans outstanding_add_overdue.symm
  buckets := buckets_ordered
  exposure := exposure_eq.trans outstanding_add_overdue.symm
  once := buyers_once
  counts := counts_eq
  incidents := incidents_exposure.trans incidents_summary.symm
  top _ hb := top_of_ranked (List.mem_of_mem_take hb)
  largest _ he := largest_of_exposure he

/-! ## The money over a run -/

/-- The money of the invoices of one status. -/
def faceIn (status : InvoiceStatus) (w : World) : ℤ :=
  Sql.total Invoice.faceValue (w.invoices.rows.filter fun i => i.status = status)

/-- What becomes of an invoice in use. -/
def disbursed : List InvoiceStatus := [.funded, .collecting, .overdue, .collected, .defaulted, .withdrawn]

section Runs

open Platform

variable {cfg : Config} {s s' : Sys World Input Event RisError} {invoiceId : ℕ} {r : Invoice}

/-- No move leads out of these. -/
theorem disbursed_of_moves {e : Event} {st st' : Stage} (h : Moves invoiceId e st st')
    (hst : st.confirmed = true ∧ st.status ∈ disbursed) : st'.confirmed = true ∧ st'.status ∈ disbursed := by
  obtain ⟨hconfirmed, hstatus⟩ := hst
  cases h with
  | confirmed => cases hconfirmed
  | submitted | scored | priced | pricingRejected | approved | rejected | initiated | funded =>
    simp [disbursed] at hstatus
  | withdrawn | collecting | overdue | resolved | defaulted | paid =>
    exact ⟨hconfirmed, by simp [disbursed]⟩

theorem disbursed_of_path {es : List Event} {st st' : Stage} (h : Path invoiceId st es st')
    (hst : st.confirmed = true ∧ st.status ∈ disbursed) : st'.confirmed = true ∧ st'.status ∈ disbursed := by
  induction h with
  | refl => exact hst
  | snoc _ hmove ih => exact disbursed_of_moves hmove ih

/-- The buyer of an invoice in use has confirmed it. -/
theorem disbursed_of_inUse (hsound : (stageOf r).Sound) (huse : inUse r = true) :
    (stageOf r).confirmed = true ∧ (stageOf r).status ∈ disbursed := by
  have hstatus : r.status = .funded ∨ r.status = .collecting ∨ r.status = .overdue := by
    simpa [inUse] using huse
  constructor
  · by_contra hunconfirmed
    rw [Stage.Sound, if_neg hunconfirmed] at hsound
    have hstage : (stageOf r).status = r.status := rfl
    rw [hstage] at hsound
    rcases hstatus with h | h | h <;> rw [h] at hsound <;> simp at hsound
  · rcases hstatus with h | h | h <;> simp [stageOf, disbursed, h]

/-- The row of the invoice at a later moment. -/
def later (w' : World) (r : Invoice) : Invoice := (w'.invoices.get? r.id).getD r

/-- An invoice in use is there later, for the same money. -/
theorem later_inUse (hw : ∀ r ∈ w.invoices.rows, (stageOf r).Sound)
    (hs : Reaches (program cfg) always (Sys.init w) s) (hs' : Reaches (program cfg) always s s')
    (hr : r ∈ s.store.invoices.rows) (huse : inUse r = true) :
    later s'.store r ∈ s'.store.invoices.rows ∧ (later s'.store r).id = r.id ∧
      (later s'.store r).faceValue = r.faceValue ∧ (later s'.store r).status ∈ disbursed := by
  have hget := Table.get?_of_mem hr
  obtain ⟨r', hr', hfrozen, es, hpath⟩ := onward hs hs' r.id r hget
  have hlater : later s'.store r = r' := by
    rw [later, show s'.store.invoices.get? r.id = some r' from hr', Option.getD_some]
  have hdisbursed := disbursed_of_inUse (sound_reached hw hs hget) huse
  have hdraft : r.status ≠ .draft := by
    intro h
    rw [inUse, h] at huse
    exact absurd huse (by decide)
  rw [hlater]
  exact ⟨Table.mem_of_get? hr', hfrozen.id, congrArg Terms.faceValue (hfrozen.terms hdraft),
    (disbursed_of_path hpath hdisbursed).2⟩

/-- The money of the disbursed invoices. -/
theorem total_disbursed :
    Sql.total Invoice.faceValue (w.invoices.rows.filter fun i => disbursed.contains i.status) =
      (getPortfolioSummary now w).totalFunded + faceIn .defaulted w + faceIn .withdrawn w := by
  have hdefaulted : ∀ i ∈ w.invoices.rows,
      ¬(isReported i = true ∧ decide (i.status = .defaulted) = true) := by
    rintro i - ⟨hreported, h⟩
    rw [isReported, of_decide_eq_true h] at hreported
    exact absurd hreported (by decide)
  have hwithdrawn : ∀ i ∈ w.invoices.rows,
      ¬((isReported i || decide (i.status = .defaulted)) = true ∧ decide (i.status = .withdrawn) = true) := by
    rintro i - ⟨hrest, h⟩
    rw [isReported, of_decide_eq_true h] at hrest
    exact absurd hrest (by decide)
  have hunion : (fun i : Invoice => disbursed.contains i.status) = fun i =>
      (isReported i || decide (i.status = .defaulted)) || decide (i.status = .withdrawn) := by
    funext i
    rw [isReported]
    cases i.status <;> rfl
  rw [hunion, Sql.total_filter_or hwithdrawn, Sql.total_filter_or hdefaulted, ← faceWhen_eq]
  rfl

/-- **No money is lost from sight.** What is outstanding or overdue at one moment of a run is, at every later
moment, within what the summary has as funded, and what was written off or withdrawn; no invoice has a
negative face value, as the table demands. -/
theorem money_accounted (cfg : Config) (w : World) (hw : ∀ r ∈ w.invoices.rows, (stageOf r).Sound)
    (s s' : Sys World Input Event RisError) (hs : Reaches (program cfg) always (Sys.init w) s)
    (hs' : Reaches (program cfg) always s s') (hface : ∀ r ∈ s'.store.invoices.rows, 0 ≤ r.faceValue)
    (now now' : ℤ) :
    (getPortfolioSummary now s.store).totalOutstanding + (getPortfolioSummary now s.store).totalOverdue ≤
      (getPortfolioSummary now' s'.store).totalFunded + faceIn .defaulted s'.store +
        faceIn .withdrawn s'.store := by
  have hfacts := fun (r : Invoice) (hr : r ∈ s.store.invoices.rows.filter inUse) =>
    later_inUse hw hs hs' (List.mem_of_mem_filter hr) (List.of_mem_filter hr)
  -- the ids tell the later rows apart
  have hnodup : ((s.store.invoices.rows.filter inUse).map (later s'.store)).Nodup := by
    have hids := List.pairwise_map.1 s.store.invoices.keys_nodup
    refine List.pairwise_map.2 ((hids.filter inUse).imp_of_mem fun hr hr' hne heq => hne ?_)
    calc _ = (later s'.store _).id := (hfacts _ hr).2.1.symm
      _ = (later s'.store _).id := congrArg Invoice.id heq
      _ = _ := (hfacts _ hr').2.1
  have hsub : (s.store.invoices.rows.filter inUse).map (later s'.store) ⊆
      s'.store.invoices.rows.filter fun i => disbursed.contains i.status := by
    intro r' hr'
    obtain ⟨r, hr, rfl⟩ := List.mem_map.1 hr'
    obtain ⟨hmem, -, -, hstatus⟩ := hfacts r hr
    exact List.mem_filter.2 ⟨hmem, List.contains_iff_mem.2 hstatus⟩
  calc (getPortfolioSummary now s.store).totalOutstanding + (getPortfolioSummary now s.store).totalOverdue
      = Sql.total Invoice.faceValue (s.store.invoices.rows.filter inUse) := outstanding_add_overdue
    _ = Sql.total Invoice.faceValue ((s.store.invoices.rows.filter inUse).map (later s'.store)) := by
        rw [Sql.total_map]
        exact Sql.total_congr fun r hr => (hfacts r hr).2.2.1.symm
    _ ≤ Sql.total Invoice.faceValue (s'.store.invoices.rows.filter fun i => disbursed.contains i.status) :=
        Sql.total_le_of_subset hnodup hsub fun r hr => hface r (List.mem_of_mem_filter hr)
    _ = _ := total_disbursed

/-- A collecting invoice of 1,000 is paid by its buyer: the 1,000 stay funded. -/
theorem money_accounted_paid : ∃ s' : Sys World Input Event RisError,
    s'.store.invoices.rows.map Invoice.status = [.collected] ∧
      (getPortfolioSummary 0 (Exposure.worldOf .collecting 1000)).totalOutstanding +
          (getPortfolioSummary 0 (Exposure.worldOf .collecting 1000)).totalOverdue ≤
        (getPortfolioSummary 0 s'.store).totalFunded + faceIn .defaulted s'.store +
          faceIn .withdrawn s'.store := by
  obtain ⟨s', hs', hP⟩ := exists_reaches (program {}) always (Sys.init (Exposure.worldOf .collecting 1000))
    (Act.call (.invoicing (.collections (.recordPaymentReceived Exposure.buyerPays))) 0 (List.replicate 8 {}))
    (fun s => s.store.invoices.rows.map Invoice.status = [.collected] ∧
      ∀ r ∈ s.store.invoices.rows, 0 ≤ r.faceValue) (by decide)
  obtain ⟨hcollected, hface⟩ := of_decide_eq_true hP
  exact ⟨s', hcollected, money_accounted {} (Exposure.worldOf .collecting 1000) (by decide) _ s' .refl hs' hface
    0 0⟩

end Runs

end Ris.Reporting
