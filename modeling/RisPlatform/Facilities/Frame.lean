import RisPlatform.Facilities.Accrual

/-!
# The facilities service among others

What the facilities service may do to the store, whatever its calls have done before: `Writes`. Beside its
own tables it adds audit rows and jobs, and nothing else. A protocol for a larger system that allows these
writes is followed by every operation of the service (`free_program_of_writes`).
-/

namespace Ris.Facilities

open Relational Concurrent

/-! ## Writes -/

/-- The service has written to its own tables, the audit log and the queues. -/
def Beside (w w' : World) : Prop :=
  w' =
    { w with
      bankFacilities := w'.bankFacilities
      facilityDrawdowns := w'.facilityDrawdowns
      facilityRepayments := w'.facilityRepayments
      auditLogs := w'.auditLogs
      jobs := w'.jobs }

/-- What has happened to the drawdowns and their repayments. -/
inductive LoanStep (w w' : World) : Prop
  | same (hdrawdowns : w'.facilityDrawdowns = w.facilityDrawdowns)
      (hrepayments : w'.facilityRepayments = w.facilityRepayments)
  | drawn (d : FacilityDrawdown) (hinsert : w.facilityDrawdowns.insert? d = some w'.facilityDrawdowns)
      (hrepayments : w'.facilityRepayments = w.facilityRepayments)
  | repaid (d : FacilityDrawdown) (repayment : FacilityRepayment)
      (hbefore : w.facilityDrawdowns.get? d.id = some d) (hstatus : d.status ≠ .repaid)
      (hdrawdowns : w'.facilityDrawdowns =
        w.facilityDrawdowns.update (fun r => r.id = d.id) (setDrawdownStatus .repaid)
          (id_setDrawdownStatus .repaid))
      (hdrawdown : repayment.drawdownId = d.id)
      (hinsert : w.facilityRepayments.insert? repayment = some w'.facilityRepayments)
  | accrued (drawdownId : ℕ) (dailyInterest lastAccrued : ℤ) (days : ℕ)
      (hdrawdowns : w'.facilityDrawdowns =
        w.facilityDrawdowns.update (fun r => r.id = drawdownId)
          (Interest.accruedDays dailyInterest lastAccrued days)
          (Interest.id_accruedDays dailyInterest lastAccrued days))
      (hrepayments : w'.facilityRepayments = w.facilityRepayments)

/-- What an event of the service may do. -/
structure Writes (w : World) (e : Event) (w' : World) : Prop where
  loans : LoanStep w w'
  service : e.service? = some .facilities
  frame : Beside w w'

section Frame

variable {w w' w'' : World}

theorem Beside.refl (w : World) : Beside w w := rfl

theorem Beside.trans (h : Beside w w') (h' : Beside w' w'') : Beside w w'' := by
  unfold Beside at h h' ⊢
  rw [h']
  dsimp only
  rw [h]

end Frame

/-! ## Transactions -/

section Transactions

variable {cfg : Config} {i : Input} {w w' : World}

theorem beside_createAuditEntry {userId : Option Actor} {action tableName : String} {recordId : ℕ}
    {newValues : List (String × Json)} {u : Unit}
    (h : createAuditEntry userId action tableName recordId newValues i w = .ok (u, w')) :
    Beside w w' := by
  simp only [createAuditEntry, Txn.bind_ok, Txn.liftM_ok, Ris.createAuditEntry_ok] at h
  obtain ⟨_, _, ⟨-, rfl⟩, rfl⟩ := h
  rfl

theorem beside_updateFacilityStatusWithClient {facilityId : ℕ} {newStatus : FacilityStatus} {u : Unit}
    (h : updateFacilityStatusWithClient facilityId newStatus i w = .ok (u, w')) : Beside w w' := by
  simp only [updateFacilityStatusWithClient, Txn.write_ok] at h
  subst h
  rfl

theorem beside_updateDrawnAmountWithClient {facilityId : ℕ} {newDrawn : ℤ} {u : Unit}
    (h : updateDrawnAmountWithClient facilityId newDrawn i w = .ok (u, w')) : Beside w w' := by
  simp only [updateDrawnAmountWithClient, Txn.bind_ok, Txn.read_ok, id] at h
  obtain ⟨_, _, ⟨rfl, rfl⟩, h⟩ := h
  split at h
  · simp at h
  · simp only [Txn.write_ok] at h
    subst h
    rfl

theorem beside_queueUtilisationAlertTx {facilityId : ℕ} {utilisation : ℚ} {level : AlertLevel} {u : Unit}
    (h : queueUtilisationAlertTx cfg facilityId utilisation level i w = .ok (u, w')) :
    Beside w w' := by
  unfold queueUtilisationAlertTx at h
  split at h
  · rw [enqueueTx_ok] at h
    subst h
    rfl
  · obtain ⟨-, rfl⟩ := Txn.pure_ok.1 h
    rfl

theorem beside_handleUtilisationThresholds {facilityId : ℕ} {utilisation : ℚ} {u : Unit}
    (h : handleUtilisationThresholds cfg facilityId utilisation i w = .ok (u, w')) : Beside w w' := by
  unfold handleUtilisationThresholds at h
  cases hlevel : alertLevel utilisation with
  | none =>
    simp only [hlevel, Txn.pure_ok] at h
    obtain ⟨-, rfl⟩ := h
    rfl
  | some level =>
    cases level with
    | warning =>
      simp only [hlevel] at h
      exact beside_queueUtilisationAlertTx h
    | critical =>
      simp only [hlevel, Txn.bind_ok] at h
      obtain ⟨_, w₁, hstatus, h⟩ := h
      exact (beside_updateFacilityStatusWithClient hstatus).trans (beside_queueUtilisationAlertTx h)

/-- The drawdowns and repayments of an effect on the interest. -/
theorem LoanStep.of_drawdownCreated {facilityId drawdownId : ℕ}
    (h : Interest.Effect w (.drawdownCreated facilityId drawdownId) w') : LoanStep w w' := by
  cases h with
  | other he => cases he
  | drawdownCreated _ _ _ _ hinsert hrepayments => exact .drawn _ hinsert hrepayments

theorem LoanStep.of_repaymentRecorded {facilityId drawdownId : ℕ}
    (h : Interest.Effect w (.repaymentRecorded facilityId drawdownId) w') : LoanStep w w' := by
  cases h with
  | other he => cases he
  | repaymentRecorded _ _ hbefore hstatus hdrawdowns hdrawdown _ hinsert =>
    exact .repaid _ _ hbefore hstatus hdrawdowns hdrawdown hinsert

theorem createDrawdownTxn_writes {facilityId invoiceId : ℕ} {principal bankFees dueDate : ℤ}
    {userId : Actor} {drawdownId : ℕ}
    (h : createDrawdownTxn cfg facilityId invoiceId principal bankFees dueDate userId i w
      = .ok (drawdownId, w')) : Writes w (.drawdownCreated facilityId drawdownId) w' := by
  refine ⟨.of_drawdownCreated (Interest.createDrawdownTxn_effect h), rfl, ?_⟩
  obtain ⟨facility, w₁, w₂, w₃, _, -, -, hinsert, hdrawn, hthreshold, haudit⟩ :=
    createDrawdownTxn_cases h
  obtain ⟨_, -, -, hw₁⟩ := createDrawdownWithClient_ok hinsert
  have hinserted : Beside w w₁ := by
    unfold Beside
    rw [hw₁]
  exact ((hinserted.trans (beside_updateDrawnAmountWithClient hdrawn)).trans
    (beside_handleUtilisationThresholds hthreshold)).trans (beside_createAuditEntry haudit)

theorem beside_createRepaymentWithClient {row : FacilityRepayment} {u : Unit}
    (h : createRepaymentWithClient row i w = .ok (u, w')) : Beside w w' := by
  obtain ⟨-, repayments, -, rfl⟩ := createRepaymentWithClient_writes h
  rfl

theorem processRepaymentTxn_writes {facilityId drawdownId : ℕ} {userId : Actor}
    {result : RepaymentCalculation}
    (h : processRepaymentTxn facilityId drawdownId userId i w = .ok (result, w')) :
    Writes w (.repaymentRecorded facilityId drawdownId) w' := by
  refine ⟨.of_repaymentRecorded (Interest.processRepaymentTxn_effect h), rfl, ?_⟩
  obtain ⟨facility, drawdown, w₁, w₂, w₃, _, -, -, -, hinsert, hw₂, hdrawn, haudit⟩ :=
    processRepaymentTxn_cases h
  have hupdated : Beside w₁ w₂ := by
    subst hw₂
    rfl
  exact (((beside_createRepaymentWithClient hinsert).trans hupdated).trans
    (beside_updateDrawnAmountWithClient hdrawn)).trans (beside_createAuditEntry haudit)

theorem accrual_writes {d : FacilityDrawdown} {dailyInterest lastAccrued today : ℤ} {u : Unit}
    (h : (do
        accrueEachDay d.id dailyInterest lastAccrued (today - lastAccrued).toNat
        createAuditEntry none "INTEREST_ACCRUED" "facility_drawdowns" d.id
          [("facilityId", .id d.facilityId), ("dailyInterest", .int dailyInterest),
            ("accrualDate", .int today)] : Tx Unit) i w = .ok (u, w')) :
    Writes w (.interestAccrued d.id lastAccrued today) w' := by
  simp only [Txn.bind_ok] at h
  obtain ⟨_, w₁, hdays, haudit⟩ := h
  have hw₁ := Interest.accrueEachDay_eq hdays
  have hkeeps := Interest.keeps_createAuditEntry haudit
  refine ⟨.accrued d.id dailyInterest lastAccrued (today - lastAccrued).toNat ?_ ?_, rfl, ?_⟩
  · rw [hkeeps.drawdowns, hw₁]
  · rw [hkeeps.repayments, hw₁]
  · have haccrued : Beside w w₁ := by
      unfold Beside
      rw [hw₁]
    exact haccrued.trans (beside_createAuditEntry haudit)

theorem suspension_writes {facilityId : ℕ} {u : Unit}
    (h : updateFacilityStatusWithClient facilityId .suspended i w = .ok (u, w')) :
    Writes w (.facilitySuspended facilityId) w' := by
  refine ⟨?_, rfl, beside_updateFacilityStatusWithClient h⟩
  have hkeeps := Interest.keeps_updateFacilityStatusWithClient h
  exact .same hkeeps.drawdowns hkeeps.repayments

end Transactions

/-! ## Triples -/

section Service

variable {G : Protocol World Event} (hG : Permissive G) {cfg : Config} (hallow : Allows G Writes)

include hallow

theorem commits_of_writes : Commits G cfg where
  createDrawdown s t _ _ d hs h := hallow s t _ d hs (createDrawdownTxn_writes h)
  processRepayment s t _ _ d hs h := hallow s t _ d hs (processRepaymentTxn_writes h)
  suspend s t _ _ d hs h := hallow s t _ d hs (suspension_writes h)

include hG

/-- Every operation of the service follows a protocol that allows its writes. -/
theorem free_program_of_writes (op : Op) : Free G (program cfg op) := by
  have haccrue : ∀ today, Free G (accrueInterest today) :=
    free_accrueInterest hG fun s t i u d hs h => hallow s t _ d hs (accrual_writes h)
  exact free_program hG (commits_of_writes hallow) haccrue op

end Service

end Ris.Facilities
