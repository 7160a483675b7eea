import RisPlatform.Facilities.Ledger

/-!
# The facilities service follows the ledger

What each transaction of the facilities service commits, as an effect on the ledger, and then one
triple for each function of the service. The effects ask nothing of the call's past, so a triple
carries no assertion.
-/

namespace Ris.Facilities

open Relational Concurrent

variable {i : Input} {w w' : World}

/-! ## Updates of `bank_facilities` -/

/-- Writing a drawn amount that was computed from the facility's row posts the difference. -/
theorem posts_setDrawnAmount {facility : BankFacility} (hf : facility ∈ w.bankFacilities.rows) {δ : ℤ}
    {newDrawn : ℤ} (hnew : newDrawn = facility.drawnAmount + δ) :
    w.bankFacilities.Rowwise (Posted facility.id δ)
      (w.bankFacilities.update (fun f => f.id = facility.id) (setDrawnAmount newDrawn)
        (id_setDrawnAmount newDrawn)) := by
  refine Table.rowwise_update ?_ ?_
  · intro f hmem hid
    obtain rfl : f = facility := Table.eq_of_mem hmem hf (of_decide_eq_true hid)
    exact ⟨rfl, rfl, by rw [if_pos rfl, setDrawnAmount, hnew]⟩
  · intro f _ hid
    exact ⟨rfl, rfl, by rw [if_neg (of_decide_eq_false hid), add_zero]⟩

/-- A change of status posts nothing. -/
theorem posts_setFacilityStatus (k facilityId : ℕ) (status : FacilityStatus) :
    w.bankFacilities.Rowwise (Posted k 0)
      (w.bankFacilities.update (fun f => f.id = facilityId) (setFacilityStatus status)
        (id_setFacilityStatus status)) :=
  Table.rowwise_update (fun f _ _ => ⟨rfl, rfl, by simp [setFacilityStatus]⟩) fun f _ _ =>
    .refl k f

theorem updateDrawnAmountWithClient_ok {facilityId : ℕ} {newDrawn : ℤ} {u : Unit}
    (h : updateDrawnAmountWithClient facilityId newDrawn i w = .ok (u, w')) {facility : BankFacility}
    (hfacility : w.bankFacilities.get? facilityId = some facility) :
    0 ≤ newDrawn ∧
      w' =
        { w with
          bankFacilities := w.bankFacilities.update (fun f => f.id = facilityId)
            (setDrawnAmount newDrawn) (id_setDrawnAmount newDrawn) } := by
  simp only [updateDrawnAmountWithClient, Txn.bind_ok, Txn.read_ok, id] at h
  obtain ⟨_, _, ⟨rfl, rfl⟩, h⟩ := h
  by_cases hneg : newDrawn < 0
  · simp [hneg, hfacility] at h
  · simp only [hneg, false_and, if_false, Txn.write_ok] at h
    exact ⟨by omega, h.symm⟩

theorem queueUtilisationAlertTx_frame {cfg : Config} {facilityId : ℕ} {utilisation : ℚ}
    {level : AlertLevel}
    {u : Unit} (h : queueUtilisationAlertTx cfg facilityId utilisation level i w = .ok (u, w')) :
    w'.bankFacilities = w.bankFacilities ∧ w'.facilityDrawdowns = w.facilityDrawdowns := by
  unfold queueUtilisationAlertTx at h
  split at h
  · rw [enqueueTx_ok] at h
    subst h
    exact ⟨rfl, rfl⟩
  · obtain ⟨-, rfl⟩ := Txn.pure_ok.1 h
    exact ⟨rfl, rfl⟩

/-- Handling the thresholds posts nothing and leaves the drawdowns alone. -/
theorem handleUtilisationThresholds_ok {cfg : Config} {facilityId : ℕ} {utilisation : ℚ} {u : Unit}
    (h : handleUtilisationThresholds cfg facilityId utilisation i w = .ok (u, w')) (k : ℕ) :
    Posts k 0 w w' ∧ w'.facilityDrawdowns = w.facilityDrawdowns := by
  unfold handleUtilisationThresholds at h
  cases hlevel : alertLevel utilisation with
  | none =>
    simp only [hlevel, Txn.pure_ok] at h
    obtain ⟨-, rfl⟩ := h
    exact ⟨.refl (Posted.refl k) _, rfl⟩
  | some level =>
    cases level with
    | warning =>
      simp only [hlevel] at h
      obtain ⟨hfacilities, hdrawdowns⟩ := queueUtilisationAlertTx_frame h
      refine ⟨?_, hdrawdowns⟩
      rw [Posts, hfacilities]
      exact .refl (Posted.refl k) _
    | critical =>
      simp only [hlevel, updateFacilityStatusWithClient, Txn.bind_ok, Txn.write_ok] at h
      obtain ⟨_, w₁, rfl, h⟩ := h
      obtain ⟨hfacilities, hdrawdowns⟩ := queueUtilisationAlertTx_frame h
      refine ⟨?_, hdrawdowns⟩
      rw [Posts, hfacilities]
      exact posts_setFacilityStatus k facilityId .suspended

theorem createAuditEntry_frame {userId : Option Actor} {action tableName : String} {recordId : ℕ}
    {newValues : List (String × Json)} {u : Unit}
    (h : createAuditEntry userId action tableName recordId newValues i w = .ok (u, w')) :
    w'.bankFacilities = w.bankFacilities ∧ w'.facilityDrawdowns = w.facilityDrawdowns := by
  simp only [createAuditEntry, Txn.bind_ok, Txn.liftM_ok, Ris.createAuditEntry_ok] at h
  obtain ⟨_, _, ⟨-, rfl⟩, rfl⟩ := h
  exact ⟨rfl, rfl⟩

/-! ## A drawdown -/

@[simp] theorem getFacilityByIdWithClient_ok {facilityId : ℕ} {found : Option BankFacility} :
    getFacilityByIdWithClient facilityId i w = .ok (found, w') ↔
      w.bankFacilities.get? facilityId = found ∧ w = w' := by
  simp [getFacilityByIdWithClient, getFacilityById]

theorem validateFacilityForDrawdown_ok {facilityId : ℕ} {found : Option BankFacility}
    {facility : BankFacility}
    (h : validateFacilityForDrawdown facilityId found = .ok facility) :
    found = some facility ∧ facility.status = .active := by
  cases found with
  | none => cases h
  | some f =>
    simp only [validateFacilityForDrawdown] at h
    cases hstatus : f.status <;> simp only [hstatus] at h <;> cases h
    exact ⟨rfl, hstatus⟩

theorem validateAvailableAmount_ok {facility : BankFacility} {principal : ℤ} {u : Unit}
    (h : validateAvailableAmount facility principal = .ok u) :
    principal ≤ facility.availableAmount := by
  unfold validateAvailableAmount at h
  split at h
  · cases h
  · omega

theorem loadDrawdownFacility_ok {facilityId : ℕ} {dueDate principal : ℤ} {facility : BankFacility}
    (h : loadDrawdownFacility facilityId dueDate principal i w = .ok (facility, w')) :
    w.bankFacilities.get? facilityId = some facility ∧ principal ≤ facility.availableAmount ∧
      w = w' := by
  simp only [loadDrawdownFacility, Txn.bind_ok, getFacilityByIdWithClient_ok, Txn.liftM_ok,
    Txn.pure_ok] at h
  obtain ⟨_, _, ⟨rfl, rfl⟩, _, _, ⟨hvalid, rfl⟩, _, _, ⟨-, rfl⟩, _, _, ⟨havailable, rfl⟩, rfl, rfl⟩ := h
  exact ⟨(validateFacilityForDrawdown_ok hvalid).1, validateAvailableAmount_ok havailable, rfl⟩

theorem createDrawdownWithClient_ok {cfg : Config} {data : CreateDrawdownInput} {u : Unit}
    (h : createDrawdownWithClient cfg data i w = .ok (u, w')) :
    ∃ today, 0 < data.principal ∧
      w.facilityDrawdowns.insert? (data.row today) = some w'.facilityDrawdowns ∧
      w' = { w with facilityDrawdowns := w'.facilityDrawdowns } := by
  simp only [createDrawdownWithClient, currentDate, Txn.bind_ok, now_ok, Txn.pure_ok, Txn.read_ok,
    id] at h
  obtain ⟨today, _, ⟨_, _, ⟨rfl, rfl⟩, rfl, rfl⟩, _, _, ⟨rfl, rfl⟩, h⟩ := h
  cases hv : drawdownViolation cfg (data.row (i.now / dayMs)) with
  | some message => simp [hv] at h
  | none =>
    cases hins : w.facilityDrawdowns.insert? (data.row (i.now / dayMs)) with
    | none => simp [hv, hins] at h
    | some drawdowns =>
      simp only [hv, hins, Txn.write_ok] at h
      subst h
      refine ⟨_, ?_, hins, rfl⟩
      unfold drawdownViolation at hv
      split_ifs at hv with _ _ hpos
      simpa [CreateDrawdownInput.row] using hpos

/-- The statements of `createDrawdownTxn` and the stores between them. -/
theorem createDrawdownTxn_cases {cfg : Config} {facilityId invoiceId : ℕ}
    {principal bankFees dueDate : ℤ} {userId : Actor} {drawdownId : ℕ}
    (h : createDrawdownTxn cfg facilityId invoiceId principal bankFees dueDate userId i w
      = .ok (drawdownId, w')) :
    ∃ facility w₁ w₂ w₃ details, drawdownId = i.uuid ∧
      loadDrawdownFacility facilityId dueDate principal i w = .ok (facility, w) ∧
      createDrawdownWithClient cfg ⟨i.uuid, facilityId, invoiceId, principal, bankFees⟩ i w =
        .ok ((), w₁) ∧
      updateDrawnAmountWithClient facilityId (facility.drawnAmount + principal) i w₁ = .ok ((), w₂) ∧
      handleUtilisationThresholds cfg facilityId
        (calculateUtilisation (facility.drawnAmount + principal) facility.totalLimit) i w₂ =
          .ok ((), w₃) ∧
      createAuditEntry (some userId) "DRAWDOWN_CREATED" "facility_drawdowns" i.uuid details i w₃ =
        .ok ((), w') := by
  simp only [createDrawdownTxn, insertDrawdownTxn, Txn.bind_ok, Txn.input_ok, Txn.pure_ok] at h
  obtain ⟨facility, _, hload, _, _, ⟨rfl, rfl⟩, _, w₁, hinsert, _, w₂, hdrawn, _, w₃, hthreshold, _,
    w₄, haudit, rfl, rfl⟩ := h
  obtain ⟨-, -, rfl⟩ := loadDrawdownFacility_ok hload
  exact ⟨facility, w₁, w₂, w₃, _, rfl, hload, hinsert, hdrawn, hthreshold, haudit⟩

/-- The commit of `createDrawdown`. -/
theorem createDrawdownTxn_ok {cfg : Config} {facilityId invoiceId : ℕ}
    {principal bankFees dueDate : ℤ} {userId : Actor} {drawdownId : ℕ}
    (h : createDrawdownTxn cfg facilityId invoiceId principal bankFees dueDate userId i w
      = .ok (drawdownId, w')) : Effect w (.drawdownCreated facilityId drawdownId) w' := by
  obtain ⟨facility, w₁, w₂, w₃, _, rfl, hload, hinsert, hdrawn, hthreshold, haudit⟩ :=
    createDrawdownTxn_cases h
  obtain ⟨hfacility, havailable, -⟩ := loadDrawdownFacility_ok hload
  obtain ⟨today, hpos, hins, hw₁⟩ := createDrawdownWithClient_ok hinsert
  have hid : facility.id = facilityId := Table.key_of_get? hfacility
  have hsame : w₁.bankFacilities = w.bankFacilities := by rw [hw₁]
  have hfacility₁ : w₁.bankFacilities.get? facilityId = some facility := by rwa [hsame]
  obtain ⟨-, hw₂⟩ := updateDrawnAmountWithClient_ok hdrawn hfacility₁
  obtain ⟨hpost₃, hdraw₃⟩ := handleUtilisationThresholds_ok hthreshold facility.id
  obtain ⟨hfac₄, hdraw₄⟩ := createAuditEntry_frame haudit
  have hpost₂ : Posts facility.id principal w₁ w₂ := by
    rw [hw₂, ← hid]
    exact posts_setDrawnAmount (Table.mem_of_get? hfacility₁) rfl
  have hpost : Posts facility.id (principal + 0) w w' := by
    rw [Posts, hfac₄, ← hsame]
    exact hpost₂.trans hpost₃ fun _ _ _ => Posted.trans
  rw [add_zero] at hpost
  subst hid
  have hdraws : Draws w w' facility
      (CreateDrawdownInput.row ⟨i.uuid, facility.id, invoiceId, principal, bankFees⟩ today) :=
    ⟨Table.mem_of_get? hfacility, rfl, rfl, hpos, havailable, by rw [hins, hdraw₄, hdraw₃, hw₂], hpost⟩
  exact .drawdownCreated hdraws

/-! ## A repayment -/

theorem loadFacilityOrThrow_ok {facilityId : ℕ} {facility : BankFacility}
    (h : loadFacilityOrThrow facilityId i w = .ok (facility, w')) :
    w.bankFacilities.get? facilityId = some facility ∧ w = w' := by
  simp only [loadFacilityOrThrow, Txn.bind_ok, getFacilityByIdWithClient_ok] at h
  obtain ⟨_, _, ⟨rfl, rfl⟩, h⟩ := h
  cases hf : w.bankFacilities.get? facilityId with
  | none => simp [hf] at h
  | some f =>
    simp only [hf, Txn.pure_ok] at h
    exact ⟨congrArg some h.1, h.2⟩

theorem loadRepayableDrawdown_ok {drawdownId : ℕ} {drawdown : FacilityDrawdown}
    (h : loadRepayableDrawdown drawdownId i w = .ok (drawdown, w')) :
    w.facilityDrawdowns.get? drawdownId = some drawdown ∧ drawdown.status ≠ .repaid ∧ w = w' := by
  simp only [loadRepayableDrawdown, getDrawdownByIdWithClient, Txn.bind_ok, Txn.read_ok] at h
  obtain ⟨_, _, ⟨rfl, rfl⟩, h⟩ := h
  cases hd : w.facilityDrawdowns.get? drawdownId with
  | none => simp [hd] at h
  | some d =>
    by_cases hstatus : d.status = .repaid
    · simp [hd, hstatus] at h
    · simp only [hd, hstatus, if_false, Txn.pure_ok] at h
      obtain ⟨rfl, rfl⟩ := h
      exact ⟨rfl, hstatus, rfl⟩

theorem createRepaymentWithClient_writes {row : FacilityRepayment} {u : Unit}
    (h : createRepaymentWithClient row i w = .ok (u, w')) :
    repaymentViolation row = none ∧ ∃ repayments,
      w.facilityRepayments.insert? row = some repayments ∧
        w' = { w with facilityRepayments := repayments } := by
  simp only [createRepaymentWithClient, Txn.bind_ok, Txn.read_ok, id] at h
  obtain ⟨_, _, ⟨rfl, rfl⟩, h⟩ := h
  cases hv : repaymentViolation row with
  | some message => simp [hv] at h
  | none =>
    cases hins : w.facilityRepayments.insert? row with
    | none => simp [hv, hins] at h
    | some repayments =>
      simp only [hv, hins, Txn.write_ok] at h
      exact ⟨rfl, repayments, rfl, h.symm⟩

theorem createRepaymentWithClient_ok {row : FacilityRepayment} {u : Unit}
    (h : createRepaymentWithClient row i w = .ok (u, w')) :
    0 < row.principal ∧ w'.bankFacilities = w.bankFacilities ∧
      w'.facilityDrawdowns = w.facilityDrawdowns := by
  obtain ⟨hv, repayments, -, rfl⟩ := createRepaymentWithClient_writes h
  refine ⟨?_, rfl, rfl⟩
  unfold repaymentViolation at hv
  split_ifs at hv with _ _ hpos _
  omega

/-- The row of a full repayment. -/
def repaymentRow (repaymentId facilityId : ℕ) (drawdown : FacilityDrawdown) : FacilityRepayment where
  id := repaymentId
  drawdownId := drawdown.id
  facilityId := facilityId
  principal := drawdown.principal
  interest := drawdown.accruedInterest
  bankFees := drawdown.bankFees
  totalAmount := calculateTotal drawdown

/-- The statements of `processRepaymentTxn` and the stores between them. -/
theorem processRepaymentTxn_cases {facilityId drawdownId : ℕ} {userId : Actor}
    {result : RepaymentCalculation}
    (h : processRepaymentTxn facilityId drawdownId userId i w = .ok (result, w')) :
    ∃ facility drawdown w₁ w₂ w₃ details, w.bankFacilities.get? facilityId = some facility ∧
      w.facilityDrawdowns.get? drawdownId = some drawdown ∧ drawdown.status ≠ .repaid ∧
      createRepaymentWithClient (repaymentRow i.uuid facilityId drawdown) i w = .ok ((), w₁) ∧
      w₂ = { w₁ with
        facilityDrawdowns := w₁.facilityDrawdowns.update (fun d => d.id = drawdownId)
          (setDrawdownStatus .repaid) (id_setDrawdownStatus .repaid) } ∧
      updateDrawnAmountWithClient facilityId (facility.drawnAmount - drawdown.principal) i w₂ =
        .ok ((), w₃) ∧
      createAuditEntry (some userId) "REPAYMENT_RECORDED" "facility_repayments" i.uuid details i w₃ =
        .ok ((), w') := by
  simp only [processRepaymentTxn, recordRepaymentTxn, updateDrawdownStatusWithClient, Txn.bind_ok,
    Txn.input_ok, Txn.write_ok, Txn.pure_ok] at h
  obtain ⟨facility, _, hload, drawdown, _, hdrawdown, _, _, ⟨rfl, rfl⟩, _, w₁, hinsert, _, w₂, hw₂,
    _, w₃, hdrawn, _, w₄, haudit, -, rfl⟩ := h
  obtain ⟨hfacility, rfl⟩ := loadFacilityOrThrow_ok hload
  obtain ⟨hbefore, hstatus, rfl⟩ := loadRepayableDrawdown_ok hdrawdown
  obtain rfl : drawdown.id = drawdownId := Table.key_of_get? hbefore
  exact ⟨facility, drawdown, w₁, w₂, w₃, _, hfacility, hbefore, hstatus, hinsert, hw₂.symm, hdrawn,
    haudit⟩

/-- The commit of `processRepayment`: it posts to the facility it was given. -/
theorem processRepaymentTxn_ok {facilityId drawdownId : ℕ} {userId : Actor}
    {result : RepaymentCalculation}
    (h : processRepaymentTxn facilityId drawdownId userId i w = .ok (result, w')) :
    Effect w (.repaymentRecorded facilityId drawdownId) w' := by
  obtain ⟨facility, drawdown, w₁, w₂, w₃, _, hfacility, hbefore, hstatus, hinsert, hw₂, hdrawn, haudit⟩ :=
    processRepaymentTxn_cases h
  obtain ⟨hpos, hfac₁, hdraw₁⟩ := createRepaymentWithClient_ok hinsert
  have hid : facility.id = facilityId := Table.key_of_get? hfacility
  have hid' : drawdown.id = drawdownId := Table.key_of_get? hbefore
  have hsame : w₂.bankFacilities = w.bankFacilities := by rw [hw₂, hfac₁]
  have hfacility₂ : w₂.bankFacilities.get? facilityId = some facility := by rwa [hsame]
  obtain ⟨hnonneg, hw₃⟩ := updateDrawnAmountWithClient_ok hdrawn hfacility₂
  obtain ⟨hfac₄, hdraw₄⟩ := createAuditEntry_frame haudit
  have hpost : Posts facility.id (-drawdown.principal) w w' := by
    rw [Posts, hfac₄, ← hsame, hw₃, ← hid]
    exact posts_setDrawnAmount (Table.mem_of_get? hfacility₂) (Int.sub_eq_add_neg)
  subst hid hid'
  refine .repaymentRecorded
    ⟨Table.mem_of_get? hfacility, hbefore, hstatus, hpos, by omega, ?_, hpost⟩
  rw [hdraw₄, hw₃, hw₂, hdraw₁]

/-! ## Interest -/

/-- The days' interest leaves what the drawdowns owe alone; by induction on the number of days. -/
theorem accrueEachDay_ok {drawdownId : ℕ} {dailyInterest lastAccrued : ℤ} {days : ℕ} {u : Unit}
    (h : accrueEachDay drawdownId dailyInterest lastAccrued days i w = .ok (u, w')) :
    w'.bankFacilities = w.bankFacilities ∧
      w.facilityDrawdowns.Rowwise SameLoan w'.facilityDrawdowns := by
  induction days generalizing lastAccrued w with
  | zero =>
    obtain ⟨-, rfl⟩ := Txn.pure_ok.1 h
    exact ⟨rfl, .refl SameLoan.refl _⟩
  | succ days ih =>
    simp only [accrueEachDay, accrueDailyInterestWithClient, Txn.bind_ok, Txn.write_ok] at h
    obtain ⟨_, w₁, rfl, h⟩ := h
    obtain ⟨hfacilities, hrest⟩ := ih h
    have hday : w.facilityDrawdowns.Rowwise SameLoan
        (w.facilityDrawdowns.update (fun d => d.id = drawdownId)
          (addInterest dailyInterest (lastAccrued + 1))
          (id_addInterest dailyInterest (lastAccrued + 1))) :=
      Table.rowwise_update (fun _ _ _ => ⟨rfl, rfl, rfl, rfl⟩) fun d _ _ => .refl d
    exact ⟨hfacilities, hday.trans hrest fun _ _ _ => SameLoan.trans⟩

/-! ## Triples -/

/-- The transactions of the service commit effects of `G`, interest apart. -/
structure Commits (G : Protocol World Event) (cfg : Config) : Prop where
  createDrawdown : ∀ {facilityId invoiceId principal bankFees dueDate userId}
    (s : State World Event) (t : ℕ) (i : Input) (drawdownId : ℕ) (d : World), G.inv s →
    createDrawdownTxn cfg facilityId invoiceId principal bankFees dueDate userId i s.store
      = .ok (drawdownId, d) → G.effect s t (some (.drawdownCreated facilityId drawdownId)) d
  processRepayment : ∀ {facilityId drawdownId userId} (s : State World Event) (t : ℕ) (i : Input)
    (result : RepaymentCalculation) (d : World), G.inv s →
    processRepaymentTxn facilityId drawdownId userId i s.store = .ok (result, d) →
      G.effect s t (some (.repaymentRecorded facilityId drawdownId)) d
  suspend : ∀ {facilityId} (s : State World Event) (t : ℕ) (i : Input) (u : Unit) (d : World),
    G.inv s → updateFacilityStatusWithClient facilityId .suspended i s.store = .ok (u, d) →
      G.effect s t (some (.facilitySuspended facilityId)) d

section Service

variable {G : Protocol World Event} (hG : Permissive G) {cfg : Config} (hC : Commits G cfg)

include hG hC

theorem free_createDrawdown (facilityId invoiceId : ℕ) (principal bankFees dueDate : ℤ)
    (userId : Actor) :
    Free G (createDrawdown cfg facilityId invoiceId principal bankFees dueDate userId) :=
  free_bind (free_enqueuingTransaction hG.toQuiet hG.leftJobs hC.createDrawdown) fun _ =>
    free_bind (free_log hG _) fun _ => free_pure _

theorem free_processRepayment (facilityId drawdownId : ℕ) (userId : Actor) :
    Free G (processRepayment facilityId drawdownId userId) :=
  free_bind (free_transaction hG hC.processRepayment) fun _ =>
    free_bind (free_log hG _) fun _ => free_pure _

theorem free_handleRepaymentJob (invoiceId : ℕ) : Free G (handleRepaymentJob invoiceId) := by
  refine free_bind (free_statement hG ?_) fun drawdown => ?_
  · intro s t i a d _ h
    simp only [Txn.bind_ok, connect_ok, Txn.input_ok, Txn.read_ok] at h
    obtain ⟨_, _, ⟨-, rfl⟩, _, _, ⟨rfl, rfl⟩, -, rfl⟩ := h
    exact hG.read s t
  · cases drawdown with
    | none => exact free_log hG _
    | some drawdown =>
      exact free_bind (free_processRepayment hG hC _ _ _) fun _ => free_log hG _

theorem free_sendUtilisationAlert (facility : BankFacility) :
    Free G (sendUtilisationAlert cfg facility) := by
  unfold sendUtilisationAlert
  dsimp only
  cases alertLevel (calculateUtilisation facility.drawnAmount facility.totalLimit) with
  | none => exact free_pure _
  | some level =>
    cases level with
    | warning => exact free_enqueueOrWarn hG _ _ _
    | critical =>
      exact free_bind (free_transaction hG hC.suspend) fun _ => free_enqueueOrWarn hG _ _ _

omit hC in
theorem free_checkMaturityAlerts : Free G (checkMaturityAlerts cfg) := by
  refine free_bind (free_statement hG ?_) fun facilities =>
    free_forM fun _ => free_enqueueOrWarn hG _ _ _
  intro s t i a d _ h
  simp only [currentDate, Txn.bind_ok, connect_ok, now_ok, Txn.pure_ok, Txn.read_ok] at h
  obtain ⟨_, _, ⟨-, rfl⟩, _, _, ⟨_, _, ⟨-, rfl⟩, -, rfl⟩, -, rfl⟩ := h
  exact hG.read s t

omit hC in
/-- The accrual is free once its transaction commits an effect. -/
theorem free_accrueInterest
    (haccrual : ∀ {drawdown : FacilityDrawdown} {dailyInterest lastAccrued today : ℤ} (s : State World Event)
      (t : ℕ) (i : Input) (u : Unit) (d : World), G.inv s →
      (do
        accrueEachDay drawdown.id dailyInterest lastAccrued (today - lastAccrued).toNat
        createAuditEntry none "INTEREST_ACCRUED" "facility_drawdowns" drawdown.id
          [("facilityId", .id drawdown.facilityId), ("dailyInterest", .int dailyInterest),
            ("accrualDate", .int today)] : Tx Unit) i s.store = .ok (u, d) →
        G.effect s t (some (.interestAccrued drawdown.id lastAccrued today)) d)
    (today : ℤ) : Free G (accrueInterest today) := by
  refine free_bind (free_query hG.toQuiet _) fun _ => free_forM fun drawdown => ?_
  unfold accrueForDrawdown
  split
  · exact free_pure _
  · refine free_bind (free_query hG.toQuiet _) fun found => ?_
    cases found with
    | none => exact free_pure _
    | some facility =>
      refine free_bind (free_query hG.toQuiet _) fun _ => ?_
      exact free_tryCatch (free_transaction hG.toQuiet haccrual) fun _ => free_log hG.toQuiet _

/-- The service is free once its accrual is. -/
theorem free_program (haccrue : ∀ today, Free G (accrueInterest today)) (op : Op) :
    Free G (program cfg op) := by
  cases op with
  | createDrawdown => exact free_discard (free_createDrawdown hG hC _ _ _ _ _ _)
  | processRepayment => exact free_discard (free_processRepayment hG hC _ _ _)
  | handleRepaymentJob => exact free_handleRepaymentJob hG hC _
  | accrueInterest today => exact haccrue today
  | checkUtilisationAlerts =>
    exact free_bind (free_query hG _) fun _ => free_forM (free_sendUtilisationAlert hG hC)
  | checkMaturityAlerts => exact free_checkMaturityAlerts hG

end Service

/-! ## The ledger -/

theorem permissive : Permissive protocol where
  read _ _ := .read
  threw _ _ := .threw
  logged _ _ action := .logged action
  enqueued _ _ job := .enqueued job
  leftJobs _ _ jobs := .leftJobs jobs

theorem commits (cfg : Config) : Commits protocol cfg where
  createDrawdown _ _ _ _ _ _ h := createDrawdownTxn_ok h
  processRepayment _ _ _ _ _ _ h := processRepaymentTxn_ok h
  suspend s t i u d _ h := by
    simp only [updateFacilityStatusWithClient, Txn.write_ok] at h
    subst h
    exact .facilitySuspended _ (posts_setFacilityStatus 0 _ _) rfl

/-- Every operation follows the protocol. -/
theorem program_implements (cfg : Config) : protocol.Implements (program cfg) := by
  have haccrue : ∀ today, Free protocol (accrueInterest today) := by
    refine free_accrueInterest permissive fun s t i u d _ h => ?_
    obtain ⟨_, w₁, hdays, haudit⟩ := Txn.bind_ok.1 h
    obtain ⟨hfac₁, hloans⟩ := accrueEachDay_ok hdays
    obtain ⟨hfac₂, hdraw₂⟩ := createAuditEntry_frame haudit
    exact .interestAccrued _ _ _ (hfac₂.trans hfac₁) (hdraw₂ ▸ hloans)
  exact fun op t => (free_program permissive (commits cfg) haccrue op t).conseq
    (fun _ _ _ => trivial) (fun _ _ _ _ => rfl) fun _ _ _ _ => rfl

end Ris.Facilities
