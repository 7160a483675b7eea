import RisPlatform.Facilities.Accrual
import RisPlatform.Facilities.Balance
import RisPlatform.Settlements.Service

/-!
# One live drawdown for each invoice

A settlement takes the newest drawdown of its invoice, and a repayment any active one: both ask that an
invoice has at most one drawdown that is not repaid. `createDrawdown` never looks for one, whatever the
facility, so the law holds along exactly those runs in which its callers do.
-/

namespace Ris.Facilities

open Relational Concurrent
open Settlements (findDrawdownForInvoice)

/-- No invoice has two drawdowns that are not repaid, and its settlement takes the one there is. -/
structure OneLive (w : World) : Prop where
  single : ∀ d ∈ w.facilityDrawdowns.rows, ∀ d' ∈ w.facilityDrawdowns.rows,
    d.invoiceId = d'.invoiceId → d.status ≠ .repaid → d'.status ≠ .repaid → d = d'
  settled : ∀ d ∈ w.facilityDrawdowns.rows, d.status ≠ .repaid →
    ∀ (p : Settlements.InitiateParams) (settlementId : ℕ), p.invoiceId = d.invoiceId →
      let row := p.row (findDrawdownForInvoice p.invoiceId w) settlementId
      row.drawdownId = some d.id ∧ row.facilityRepaymentAmount = d.principal ∧
        row.accruedInterest = d.accruedInterest

section Newest

variable {w w' : World} {d : FacilityDrawdown} {invoiceId : ℕ}

/-- The newest drawdown of an invoice is one of its drawdowns. -/
theorem mem_of_findDrawdownForInvoice (h : findDrawdownForInvoice invoiceId w = some d) :
    d ∈ w.facilityDrawdowns.rows ∧ d.invoiceId = invoiceId := by
  have hmem := List.mem_of_getLast? h
  rw [List.mem_filter, decide_eq_true_eq] at hmem
  exact hmem

/-- The law, said about the newest drawdowns. -/
theorem oneLive_iff_newest : OneLive w ↔ ∀ d ∈ w.facilityDrawdowns.rows, d.status ≠ .repaid →
    findDrawdownForInvoice d.invoiceId w = some d := by
  constructor
  · intro h d hd hlive
    let p : Settlements.InitiateParams :=
      { invoiceId := d.invoiceId, collectionId := 0, buyerPaymentAmount := 0, penaltyIncome := 0
        user := .system, req := {}, idempotencyKey := .derived 0 0 }
    have hrow := (h.settled d hd hlive p 0 rfl).1
    obtain ⟨found, hfound, hid⟩ := Option.map_eq_some_iff.1 hrow
    obtain rfl : found = d := Table.eq_of_mem (mem_of_findDrawdownForInvoice hfound).1 hd hid
    exact hfound
  · intro h
    refine ⟨fun d hd d' hd' hinvoice hlive hlive' => ?_, fun d hd hlive p settlementId hp => ?_⟩
    · have hfound := h d hd hlive
      rw [hinvoice, h d' hd' hlive'] at hfound
      exact (Option.some.inj hfound).symm
    · rw [hp, h d hd hlive]
      exact ⟨rfl, rfl, rfl⟩

/-- An update that leaves the invoices alone changes the newest drawdown as it changes the row. -/
theorem findDrawdownForInvoice_update {p : FacilityDrawdown → Bool}
    {f : FacilityDrawdown → FacilityDrawdown} {hf : ∀ r, (f r).id = r.id}
    (hinvoice : ∀ r, (f r).invoiceId = r.invoiceId)
    (h : w'.facilityDrawdowns = w.facilityDrawdowns.update p f hf) (invoiceId : ℕ) :
    findDrawdownForInvoice invoiceId w' =
      (findDrawdownForInvoice invoiceId w).map fun r => if p r then f r else r := by
  have hsame : (fun r : FacilityDrawdown => decide (r.invoiceId = invoiceId)) ∘
      (fun r => if p r then f r else r) = fun r => decide (r.invoiceId = invoiceId) := by
    funext r
    by_cases hp : p r = true <;> simp [hp, hinvoice]
  unfold findDrawdownForInvoice
  rw [h, Table.rows_update, List.filter_map, hsame, List.getLast?_map]

/-- The law is kept by an update that leaves the invoices alone and revives no drawdown. -/
theorem OneLive.update {p : FacilityDrawdown → Bool} {f : FacilityDrawdown → FacilityDrawdown}
    {hf : ∀ r, (f r).id = r.id} (hw : OneLive w) (hinvoice : ∀ r, (f r).invoiceId = r.invoiceId)
    (hrepaid : ∀ r, r.status = .repaid → (f r).status = .repaid)
    (h : w'.facilityDrawdowns = w.facilityDrawdowns.update p f hf) : OneLive w' := by
  rw [oneLive_iff_newest] at hw ⊢
  intro d hd hlive
  rw [h] at hd
  obtain ⟨r, hr, rfl⟩ := Table.mem_update.1 hd
  have hstays : (if p r then f r else r).invoiceId = r.invoiceId := by
    split
    · exact hinvoice r
    · rfl
  have hlive' : r.status ≠ .repaid := by
    intro hr'
    apply hlive
    split
    · exact hrepaid r hr'
    · exact hr'
  rw [hstays, findDrawdownForInvoice_update hinvoice h, hw r hr hlive']
  rfl

end Newest

/-! ## Runs -/

instance (w : World) : Decidable (OneLive w) := decidable_of_iff _ oneLive_iff_newest.symm

end Ris.Facilities
