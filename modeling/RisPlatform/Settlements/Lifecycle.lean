import RisPlatform.Common.Histories
import RisPlatform.Settlements.Protocol

/-!
# The lifecycle of a settlement

A settlement is meant to be `pending`, then `facility_repaid`, then `profit_booked`, then `closed`. Each
step checks the status when it looks at the settlement, and would set the new one whatever it is by then.
But the statement that sets it is refused, so no interleaving of the steps moves a settlement back: none
moves it at all.
-/

namespace Ris.Settlements

open Relational Concurrent

/-! ## The order of the statuses -/

/-- The place of a status in the lifecycle. -/
def place : SettlementStatus → ℕ
  | .pending => 0
  | .facilityRepaid => 1
  | .profitBooked => 2
  | .closed => 3

/-- The steps taken with the settlement, the latest first. -/
def steps (id : ℕ) (hist : List (ℕ × Option Event)) : List SettlementStatus :=
  hist.filterMap fun x =>
    match x.2.bind step? with
    | some (settlementId, status) => if settlementId = id then some status else none
    | none => none

/-- The steps lead from the first status to the second, one place at a time. -/
def Leads (start : SettlementStatus) : List SettlementStatus → SettlementStatus → Prop
  | [], status => status = start
  | step :: earlier, status =>
    status = step ∧ ∃ prev, Leads start earlier prev ∧ place step = place prev + 1

/-- The status of a settlement in the first store; a new one is pending. -/
def startOf (d : World) (id : ℕ) : SettlementStatus :=
  (d.settlements.get? id).elim .pending Settlement.status

/-- Every settlement is where its steps led it. -/
def KeepsOrder (d : World) (s : State World Event) : Prop :=
  ∀ r ∈ s.store.settlements.rows, Leads (startOf d r.id) (steps r.id s.hist) r.status

/-! ## What a run does -/

/-- No step was taken with a settlement: those of the first store are as they were, and new ones are
pending. -/
structure Unmoved (d : World) (s : State World Event) : Prop where
  kept : ∀ id, ∀ r ∈ d.settlements.get? id, s.store.settlements.get? id = some r
  fresh : ∀ r ∈ s.store.settlements.rows, r.status = startOf d r.id
  untaken : ∀ id, steps id s.hist = []

section Run

variable {d : World} {s : State World Event} {t : ℕ} {e : Event} {w : World}

theorem steps_record_of_none {x : Option Event} (hx : x.bind step? = none) (id : ℕ) :
    steps id (s.record t x w).hist = steps id s.hist := by
  simp [steps, hx]

/-- In the first store nothing has happened. -/
theorem unmoved_init (d : World) : Unmoved d ⟨d, []⟩ where
  kept _ _ hr := hr
  fresh r hr := by rw [startOf, Table.get?_of_mem hr, Option.elim_some]
  untaken _ := rfl

/-- A settlement that is added was not there at first. -/
theorem Unmoved.startOf_new (hs : Unmoved d s) {row : Settlement}
    (hfresh : s.store.settlements.get? row.id = none) : startOf d row.id = .pending := by
  have hnone : d.settlements.get? row.id = none := by
    by_contra hsome
    obtain ⟨r, hr⟩ := Option.ne_none_iff_exists'.1 hsome
    have hkept := hs.kept _ r hr
    rw [hfresh] at hkept
    cases hkept
  rw [startOf, hnone, Option.elim_none]

/-- The step lemma. -/
theorem Unmoved.record (hs : Unmoved d s) (h : Does s.store e w) : Unmoved d (s.record t (some e) w) where
  kept id r hr := h.get? (hs.kept id r hr)
  fresh r hr := by
    rcases h.settlements with hsame | ⟨row, hstatus, hinsert⟩
    · have hr' : r ∈ w.settlements.rows := hr
      rw [hsame] at hr'
      exact hs.fresh r hr'
    · rcases (Table.mem_insert? hinsert).1 hr with hold | rfl
      · exact hs.fresh r hold
      · rw [hstatus, hs.startOf_new (Table.get?_insert?_fresh hinsert)]
  untaken id := (steps_record_of_none (x := some e) h.step?_eq_none id).trans (hs.untaken id)

/-- Where no step was taken, every settlement is where it was. -/
theorem Unmoved.keepsOrder (hs : Unmoved d s) : KeepsOrder d s := by
  intro r hr
  rw [hs.untaken]
  exact hs.fresh r hr

end Run

/-- The run lemma. -/
theorem unmoved_of_reaches {cfg : Config} {d : World} {s : Sys World Input Event RisError}
    (hs : Reaches (program cfg) always (Sys.init d) s) : Unmoved d s.toState := by
  refine Protocol.invariant (P := Unmoved d) (program_implements cfg) trivial (unmoved_init d) ?_ hs
  intro s t e w hP hmove
  cases e with
  | some e => exact hP.record hmove.effect
  | none =>
    obtain rfl : w = s.store := hmove.effect
    exact ⟨hP.kept, hP.fresh, fun id => (steps_record_of_none rfl id).trans (hP.untaken id)⟩

/-- A settlement that is there stays as it is. -/
theorem settlement_kept {cfg : Config} {d : World} {s s' : Sys World Input Event RisError}
    (hs : Reaches (program cfg) always (Sys.init d) s) (hs' : Reaches (program cfg) always s s') {id : ℕ}
    {r : Settlement} (hr : s.store.settlements.get? id = some r) :
    s'.store.settlements.get? id = some r := by
  refine Protocol.persists (P := fun s => s.store.settlements.get? id = some r) (program_implements cfg)
    trivial ?_ hs hr hs'
  intro s t e w hP hmove
  cases e with
  | some e => exact Does.get? hmove.effect hP
  | none =>
    obtain rfl : w = s.store := hmove.effect
    exact hP

/-- **No settlement moves back.** In every run each settlement is where its steps led it, one place at a
time, and never behind a status that it had. For the statement that sets the status is refused, whoever
sends it and whatever the settlement is by then: no step is ever taken. -/
theorem settlements_keep_order (cfg : Config) (d : World) {s s' : Sys World Input Event RisError}
    (hs : Reaches (program cfg) always (Sys.init d) s) (hs' : Reaches (program cfg) always s s') :
    KeepsOrder d s'.toState ∧ (∀ id, steps id s'.hist = []) ∧
      ∀ id, ∀ r ∈ s.store.settlements.get? id, ∃ r' ∈ s'.store.settlements.get? id,
        place r.status ≤ place r'.status := by
  have hunmoved : Unmoved d s'.toState := unmoved_of_reaches (hs.trans hs')
  refine ⟨hunmoved.keepsOrder, hunmoved.untaken, fun id r hr => ?_⟩
  exact ⟨r, settlement_kept hs hs' hr, le_refl _⟩

/-! ## A paid invoice

The database has the columns that the audit rows name. With the repository's own migrations alone no
initiation commits. -/

def paidInvoice : World :=
  { World.empty with
    invoices := .single
      { id := 1, supplierId := 1, buyerId := 1, faceValue := 1000000, advanceAmount := some 800000
        discountAmount := some 50000, netPaymentToSupplier := some 750000, status := .funded
        tenorDays := some 30, dueDate := 30, amlFlagged := false, amlClearedAt := none
        pricingAcceptedAt := some 0, pricingAcceptedBy := some 9, pricingRejectedAt := none
        pricingRejectionReason := none, pricingDisputedAt := none, fundedAt := some 0 }
    collections := .single
      { id := 1, invoiceId := 1, buyerId := 1, faceValue := 1000000, amountDue := 1000000
        status := .collected, daysOverdue := 0, dailyPenaltyRate := 0, penaltyAmount := 0
        totalCollected := 1000000, createdAt := 0 } }

/-- The settlement of the invoice, and nothing done with it yet. -/
def pendingSettlement : World :=
  { paidInvoice with
    settlements := .single
      { id := 1, invoiceId := 1, collectionId := 1, drawdownId := none, buyerPaymentAmount := 1000000
        facilityRepaymentAmount := 0, accruedInterest := 0, penaltyIncome := 0
        idempotencyKey := .derived 1 1 } }

/-- The configuration of a database that has the columns. -/
def hasEntityColumns : Config := { entityColumnsRefused := false }

def repayment : Op := .repayFacility 1 800000 20000 5 {}

/-- Two repayments look at the pending settlement, and then each of them is refused. -/
theorem repayments_refused :
    ∃ s₁ s₂ : Sys World Input Event RisError,
      s₁.store.settlements.rows.map Settlement.status = [.pending] ∧
        endsWithError 0 s₂ = true ∧ endsWithError 1 s₂ = true ∧
          KeepsOrder pendingSettlement s₂.toState := by
  obtain ⟨s₁, s₂, hs₁, hs₂, hP⟩ :=
    exists_reaches_reaches (program hasEntityColumns) always (Sys.init pendingSettlement)
      [.start repayment, .start repayment, .move 0 {}, .move 1 {}] [.move 0 {}, .move 1 {}]
      (fun s₁ s₂ => s₁.store.settlements.rows.map Settlement.status = [.pending] ∧
        endsWithError 0 s₂ = true ∧ endsWithError 1 s₂ = true) (by decide)
  obtain ⟨hpending, hfirst, hsecond⟩ := of_decide_eq_true hP
  obtain ⟨horder, -⟩ := settlements_keep_order hasEntityColumns pendingSettlement hs₁ hs₂
  exact ⟨s₁, s₂, hpending, hfirst, hsecond, horder⟩

end Ris.Settlements
