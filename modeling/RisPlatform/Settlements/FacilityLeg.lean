import RisPlatform.Facilities.Frame
import RisPlatform.Settlements.Lifecycle

/-!
# The facility leg of a settlement

A repayment to the bank is to be recorded twice: by the facilities service, on the drawdown and in
`facility_repayments`, and by a request on the settlement, which carries amounts of its own. The request is
refused, with every statement that takes a settlement past `pending`. So the settlements that are past it
are those of the first store, and the facilities service leaves alone what was repaid.
-/

namespace Ris.Settlements

open Relational Concurrent

/-! ## The law -/

/-- The repayments of the drawdown: principal and interest of each. -/
def repaymentsOf (drawdownId : ℕ) (w : World) : List (ℤ × ℤ) :=
  (w.facilityRepayments.rows.filter fun r => r.drawdownId = drawdownId).map fun r =>
    (r.principal, r.interest)

/-- The drawdown is repaid, by a single repayment of these amounts. -/
structure RepaidBy (drawdownId : ℕ) (principal interest : ℤ) (w : World) : Prop where
  repaid : ∃ d ∈ w.facilityDrawdowns.get? drawdownId, d.status = .repaid
  single : repaymentsOf drawdownId w = [(principal, interest)]

/-- A settlement that is no longer pending carries the amounts by which its drawdown was repaid. -/
def LegAgrees (w : World) : Prop :=
  ∀ r ∈ w.settlements.rows, r.status = .facilityRepaid ∨ r.status = .profitBooked ∨ r.status = .closed →
    ∀ drawdownId ∈ r.drawdownId, RepaidBy drawdownId r.facilityRepaymentAmount r.accruedInterest w

instance (drawdownId : ℕ) (principal interest : ℤ) (w : World) :
    Decidable (RepaidBy drawdownId principal interest w) :=
  decidable_of_iff ((∃ d ∈ w.facilityDrawdowns.get? drawdownId, d.status = .repaid) ∧
    repaymentsOf drawdownId w = [(principal, interest)]) ⟨fun h => ⟨h.1, h.2⟩, fun h => ⟨h.repaid, h.single⟩⟩

instance (w : World) : Decidable (LegAgrees w) :=
  inferInstanceAs (Decidable (∀ r ∈ w.settlements.rows, _))

/-! ## What the facility ledger keeps -/

section Ledger

variable {w w' : World} {drawdownId : ℕ} {principal interest : ℤ}

theorem repaid_update {p : FacilityDrawdown → Bool} {f : FacilityDrawdown → FacilityDrawdown}
    {hf : ∀ r, (f r).id = r.id} (hstatus : ∀ r, r.status = .repaid → (f r).status = .repaid)
    (hupdate : w'.facilityDrawdowns = w.facilityDrawdowns.update p f hf)
    (h : ∃ d ∈ w.facilityDrawdowns.get? drawdownId, d.status = .repaid) :
    ∃ d ∈ w'.facilityDrawdowns.get? drawdownId, d.status = .repaid := by
  obtain ⟨d, hd, hrepaid⟩ := h
  rw [hupdate, Table.get?_update_of_get? hd]
  refine ⟨_, rfl, ?_⟩
  split
  · exact hstatus d hrepaid
  · exact hrepaid

theorem status_accruedDays (dailyInterest lastAccrued : ℤ) (days : ℕ) (d : FacilityDrawdown) :
    (Facilities.Interest.accruedDays dailyInterest lastAccrued days d).status = d.status := by
  cases days with
  | zero => rfl
  | succ days =>
    rw [Facilities.Interest.accruedDays_succ]
    rfl

/-- A drawdown that was repaid stays so, and by the same repayment. -/
theorem RepaidBy.step (h : RepaidBy drawdownId principal interest w)
    (hstep : Facilities.LoanStep w w') : RepaidBy drawdownId principal interest w' := by
  have hsame : w'.facilityRepayments = w.facilityRepayments →
      repaymentsOf drawdownId w' = [(principal, interest)] := by
    intro hrepayments
    unfold repaymentsOf
    rw [hrepayments]
    exact h.single
  cases hstep with
  | same hdrawdowns hrepayments =>
    refine ⟨?_, hsame hrepayments⟩
    rw [hdrawdowns]
    exact h.repaid
  | drawn d hinsert hrepayments =>
    refine ⟨?_, hsame hrepayments⟩
    obtain ⟨d₀, hd₀, hrepaid⟩ := h.repaid
    exact ⟨d₀, Table.get?_insert?_of_get? hinsert hd₀, hrepaid⟩
  | accrued _ dailyInterest lastAccrued days hdrawdowns hrepayments =>
    refine ⟨repaid_update (fun r hr => ?_) hdrawdowns h.repaid, hsame hrepayments⟩
    rw [status_accruedDays]
    exact hr
  | repaid d repayment hbefore hstatus hdrawdowns hdrawdown hinsert =>
    refine ⟨repaid_update (fun _ _ => rfl) hdrawdowns h.repaid, ?_⟩
    -- the new repayment is of a drawdown that was not repaid
    have hother : repayment.drawdownId ≠ drawdownId := by
      rintro rfl
      obtain ⟨d₀, hd₀, hrepaid⟩ := h.repaid
      rw [hdrawdown, hbefore] at hd₀
      obtain rfl := Option.some.inj hd₀
      exact hstatus hrepaid
    unfold repaymentsOf
    rw [Table.rows_insert? hinsert, List.filter_append, List.filter_singleton, decide_eq_false hother,
      cond_false, List.append_nil]
    exact h.single

theorem RepaidBy.congr (h : RepaidBy drawdownId principal interest w)
    (hdrawdowns : w'.facilityDrawdowns = w.facilityDrawdowns)
    (hrepayments : w'.facilityRepayments = w.facilityRepayments) :
    RepaidBy drawdownId principal interest w' := by
  obtain ⟨hrepaid, hsingle⟩ := h
  refine ⟨by rwa [hdrawdowns], ?_⟩
  unfold repaymentsOf
  rwa [hrepayments]

end Ledger

/-! ## The two services together -/

/-- What the two services do to the store. -/
inductive LegEffect (w : World) (e : Event) (w' : World) : Prop
  | idle (he : e.service? = none) (hframe : w' = { w with jobs := w'.jobs })
  | facility (h : Facilities.Writes w e w')
  | settlement (h : Effect w e w')

/-- Effects depend on the store alone; a call may return at any time. -/
def reconciling : Protocol World Event where
  inv _ := True
  effect s _ e d :=
    match e with
    | some event => LegEffect s.store event d
    | none => d = s.store
  inv_effect _ _ := trivial
  return_stable _ _ _ _ := rfl

theorem permissive_reconciling : Permissive reconciling where
  read _ _ := .idle rfl rfl
  threw _ _ := .idle rfl rfl
  logged _ _ _ := .idle rfl rfl
  enqueued _ _ _ := .idle rfl rfl
  leftJobs _ _ _ := .idle rfl rfl

/-- The operations on settlements, and those on the facility ledger. -/
abbrev SettlementOrFacility : Type := Op ⊕ Facilities.Op

/-- The body of each operation. -/
def settlementOrFacility (cfg : Config) : SettlementOrFacility → Call Unit :=
  Sum.elim (program cfg) (Facilities.program cfg)

/-- Every operation follows the protocol. -/
theorem settlementOrFacility_implements (cfg : Config) :
    reconciling.Implements (settlementOrFacility cfg) := by
  have hG := permissive_reconciling
  have hfree : ∀ op, Free reconciling (settlementOrFacility cfg op) := by
    intro op
    cases op with
    | inl op => exact free_program hG (fun _ _ _ _ _ h => .settlement h) op
    | inr op => exact Facilities.free_program_of_writes hG (fun _ _ _ _ _ h => .facility h) op
  exact fun op t => (hfree op t).conseq (fun _ _ _ => trivial) (fun _ _ _ _ => rfl) fun _ _ _ _ => rfl

section Steps

variable {w w' : World} {e : Event}

/-- The law is kept where the repaid drawdowns are, if no settlement gets past `pending`. -/
theorem LegAgrees.of_rows (hw : LegAgrees w)
    (hkeep : ∀ drawdownId principal interest,
      RepaidBy drawdownId principal interest w → RepaidBy drawdownId principal interest w')
    (hrows : ∀ r ∈ w'.settlements.rows, r ∈ w.settlements.rows ∨ r.status = .pending) : LegAgrees w' := by
  intro r hr hpast drawdownId hdrawdown
  rcases hrows r hr with hold | hpending
  · exact hkeep _ _ _ (hw r hold hpast drawdownId hdrawdown)
  · rw [hpending] at hpast
    rcases hpast with h | h | h <;> cases h

/-- The step lemma. -/
theorem LegAgrees.step (hw : LegAgrees w) (h : LegEffect w e w') : LegAgrees w' := by
  cases h with
  | idle he hframe =>
    refine hw.of_rows (fun _ _ _ h => h.congr (by rw [hframe]) (by rw [hframe])) fun r hr => Or.inl ?_
    rwa [hframe] at hr
  | facility h =>
    refine hw.of_rows (fun _ _ _ hrepaid => hrepaid.step h.loans) fun r hr => Or.inl ?_
    rwa [h.frame] at hr
  | settlement h =>
    obtain ⟨hdrawdowns, hrepayments⟩ := h.ledger
    refine hw.of_rows (fun _ _ _ h => h.congr hdrawdowns hrepayments) fun r hr => ?_
    rcases Does.settlements (Or.inl h) with hsame | ⟨row, hstatus, hinsert⟩
    · exact Or.inl (hsame ▸ hr)
    · rcases (Table.mem_insert? hinsert).1 hr with hold | rfl
      · exact Or.inl hold
      · exact Or.inr hstatus

end Steps

/-- **The two records of a repayment agree.** From a store in which they do, they do in every state of every
run of the settlements and the facility ledger. -/
theorem leg_agrees (cfg : Config) (w : World) (hw : LegAgrees w) {s : Sys World Input Event RisError}
    (hs : Reaches (settlementOrFacility cfg) always (Sys.init w) s) : LegAgrees s.store := by
  refine Protocol.invariant (P := fun s => LegAgrees s.store) (settlementOrFacility_implements cfg) trivial
    hw ?_ hs
  intro s t e d hP hmove
  cases e with
  | some e => exact hP.step hmove.effect
  | none =>
    obtain rfl : d = s.store := hmove.effect
    exact hP

/-! ## A settlement with a drawdown -/

/-- The invoice was drawn for, and its settlement is pending. -/
def pendingWithDrawdown : World :=
  { pendingSettlement with
    bankFacilities := .single
      { id := 1, facilityName := "Facility", bankName := "Bank", totalLimit := 1000000
        drawnAmount := 800000, annualRate := mkRat 1 10, interestRateAnnual := mkRat 1 10
        maturityDate := 90, status := .active, isActive := true }
    facilityDrawdowns := .single (Facilities.CreateDrawdownInput.row ⟨1, 1, 1, 800000, 0⟩ 0)
    settlements := .single
      { id := 1, invoiceId := 1, collectionId := 1, drawdownId := some 1, buyerPaymentAmount := 1000000
        facilityRepaymentAmount := 800000, accruedInterest := 0, penaltyIncome := 0
        idempotencyKey := .derived 1 1 } }

/-- The drawdown is repaid, and the request that repeats the amounts is refused. -/
theorem leg_agrees_after_repayment :
    ∃ s : Sys World Input Event RisError,
      s.store.facilityDrawdowns.rows.map FacilityDrawdown.status = [.repaid] ∧
        endsWithError 1 s = true ∧ LegAgrees s.store := by
  obtain ⟨s, hs, hP⟩ := exists_reaches (settlementOrFacility hasEntityColumns) always
    (Sys.init pendingWithDrawdown)
    (Act.call (.inr (.processRepayment 1 1 (.user 1))) 0 [{ uuid := 1 }, { uuid := 2 }] ++
      [.start (.inl (.repayFacility 1 800000 0 5 {})), .move 1 {}, .move 1 {}])
    (fun s => s.store.facilityDrawdowns.rows.map FacilityDrawdown.status = [.repaid] ∧
      endsWithError 1 s = true) (by decide)
  obtain ⟨hrepaid, hrefused⟩ := of_decide_eq_true hP
  exact ⟨s, hrepaid, hrefused, leg_agrees hasEntityColumns pendingWithDrawdown (by decide) hs⟩

end Ris.Settlements
