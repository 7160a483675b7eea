import RisPlatform.Facilities.Conformance

/-!
# Interest as an effect

What each event does to the interest of a drawdown. An accrual adds the days between two dates that
the call read earlier, whatever the row holds by then; `Effect.interestAccrued` says exactly that.

The daily interest is fixed along a run: no event changes a facility's rate or a drawdown's principal.
So a call may compute it from rows it read at different times.
-/

namespace Ris.Facilities.Interest

open Relational Concurrent

/-! ## The daily interest -/

/-- The annual rate of the facility. -/
def rateOf (w : World) (facilityId : ℕ) : Option ℚ :=
  (w.bankFacilities.get? facilityId).map BankFacility.annualRate

/-- The interest of one day, at the rate of the drawdown's facility. -/
def dailyInterestOf (w : World) (d : FacilityDrawdown) : Option ℤ :=
  (rateOf w d.facilityId).map (calculateDailyInterest d.principal)

/-- The rates of `w'` are those of `w`. -/
abbrev SameRates (w w' : World) : Prop := ∀ facilityId, rateOf w' facilityId = rateOf w facilityId

theorem SameRates.dailyInterestOf_eq {w w' : World} (h : SameRates w w') {d d' : FacilityDrawdown}
    (hfacility : d'.facilityId = d.facilityId) (hprincipal : d'.principal = d.principal) :
    dailyInterestOf w' d' = dailyInterestOf w d := by
  rw [dailyInterestOf, dailyInterestOf, hfacility, hprincipal, h]

/-- An update of `bank_facilities` that assigns no rate. -/
theorem rateOf_update {w : World} {p : BankFacility → Bool} {f : BankFacility → BankFacility}
    (hf : ∀ r, (f r).id = r.id) (hrate : ∀ r, (f r).annualRate = r.annualRate) (facilityId : ℕ) :
    ((w.bankFacilities.update p f hf).get? facilityId).map BankFacility.annualRate =
      rateOf w facilityId := by
  rw [rateOf, Table.get?_update, Option.map_map]
  congr 1
  funext r
  by_cases hp : p r = true <;> simp [hp, hrate]

/-! ## Effects -/

/-- What each event may do to the interest of drawdowns. -/
inductive Effect (w : World) : Event → World → Prop
  | other {e : Event} {w' : World} (he : e.drawdown? = none) (hrates : SameRates w w')
      (hdrawdowns : w'.facilityDrawdowns = w.facilityDrawdowns)
      (hrepayments : w'.facilityRepayments = w.facilityRepayments) : Effect w e w'
  | drawdownCreated {w' : World} {d : FacilityDrawdown} (facilityId : ℕ) (hrates : SameRates w w')
      (hinterest : d.accruedInterest = 0) (hdate : d.lastAccruedDate = d.drawdownDate)
      (hinsert : w.facilityDrawdowns.insert? d = some w'.facilityDrawdowns)
      (hrepayments : w'.facilityRepayments = w.facilityRepayments) :
      Effect w (.drawdownCreated facilityId d.id) w'
  | repaymentRecorded {w' : World} {d : FacilityDrawdown} {repayment : FacilityRepayment}
      (facilityId : ℕ) (hrates : SameRates w w')
      (hbefore : w.facilityDrawdowns.get? d.id = some d) (hstatus : d.status ≠ .repaid)
      (hdrawdowns : w'.facilityDrawdowns =
        w.facilityDrawdowns.update (fun r => r.id = d.id) (setDrawdownStatus .repaid)
          (id_setDrawdownStatus .repaid))
      (hdrawdown : repayment.drawdownId = d.id) (hinterest : repayment.interest = d.accruedInterest)
      (hinsert : w.facilityRepayments.insert? repayment = some w'.facilityRepayments) :
      Effect w (.repaymentRecorded facilityId d.id) w'
  | interestAccrued {w' : World} {d : FacilityDrawdown} {dailyInterest : ℤ} (lastAccrued today : ℤ)
      (hrates : SameRates w w') (hbefore : w.facilityDrawdowns.get? d.id = some d)
      (hdaily : dailyInterestOf w d = some dailyInterest) (hlt : lastAccrued < today)
      (hdrawdowns : w'.facilityDrawdowns =
        w.facilityDrawdowns.update (fun r => r.id = d.id)
          (addInterest (dailyInterest * (today - lastAccrued)) today)
          (id_addInterest (dailyInterest * (today - lastAccrued)) today))
      (hrepayments : w'.facilityRepayments = w.facilityRepayments) :
      Effect w (.interestAccrued d.id lastAccrued today) w'

variable {w w' : World} {e : Event}

theorem Effect.rates (h : Effect w e w') : SameRates w w' := by
  cases h with
  | other _ hrates => exact hrates
  | drawdownCreated _ hrates => exact hrates
  | repaymentRecorded _ hrates => exact hrates
  | interestAccrued _ _ hrates => exact hrates

/-- A drawdown stays, with its facility and principal. -/
theorem Effect.row_stays (h : Effect w e w') {drawdownId : ℕ} {d : FacilityDrawdown}
    (hd : w.facilityDrawdowns.get? drawdownId = some d) :
    ∃ d', w'.facilityDrawdowns.get? drawdownId = some d' ∧ d'.facilityId = d.facilityId ∧
      d'.principal = d.principal := by
  cases h with
  | other _ _ hdrawdowns =>
    rw [hdrawdowns]
    exact ⟨d, hd, rfl, rfl⟩
  | drawdownCreated _ _ _ _ hinsert =>
    exact ⟨d, Table.get?_insert?_of_get? hinsert hd, rfl, rfl⟩
  | repaymentRecorded _ _ _ _ hdrawdowns =>
    rw [hdrawdowns, Table.get?_update_of_get? hd]
    split
    · exact ⟨_, rfl, rfl, rfl⟩
    · exact ⟨d, rfl, rfl, rfl⟩
  | interestAccrued _ _ _ _ _ _ hdrawdowns =>
    rw [hdrawdowns, Table.get?_update_of_get? hd]
    split
    · exact ⟨_, rfl, rfl, rfl⟩
    · exact ⟨d, rfl, rfl, rfl⟩

/-- Effects depend on the store alone, in a run whose rates are those of `w₀`. -/
def protocol (w₀ : World) : Protocol World Event where
  inv s := SameRates w₀ s.store
  effect s _ e d :=
    match e with
    | some event => Effect s.store event d
    | none => d = s.store
  inv_effect := by
    intro s t e d hs heff
    cases e with
    | none =>
      obtain rfl : d = s.store := heff
      exact hs
    | some event => exact fun facilityId => (Effect.rates heff facilityId).trans (hs facilityId)
  return_stable _ _ _ _ := rfl

theorem permissive (w₀ : World) : Permissive (protocol w₀) where
  read _ _ := .other rfl (fun _ => rfl) rfl rfl
  threw _ _ := .other rfl (fun _ => rfl) rfl rfl
  logged _ _ _ := .other rfl (fun _ => rfl) rfl rfl
  enqueued _ _ _ := .other rfl (fun _ => rfl) rfl rfl
  leftJobs _ _ _ := .other rfl (fun _ => rfl) rfl rfl

/-! ## What the transactions commit -/

variable {i : Input}

/-- A transaction step that assigns no rate, drawdown or repayment. -/
structure Keeps (w w' : World) : Prop where
  rates : SameRates w w'
  drawdowns : w'.facilityDrawdowns = w.facilityDrawdowns
  repayments : w'.facilityRepayments = w.facilityRepayments

theorem Keeps.trans {w'' : World} (h : Keeps w w') (h' : Keeps w' w'') : Keeps w w'' where
  rates facilityId := (h'.rates facilityId).trans (h.rates facilityId)
  drawdowns := h'.drawdowns.trans h.drawdowns
  repayments := h'.repayments.trans h.repayments

theorem keeps_createAuditEntry {userId : Option Actor} {action tableName : String} {recordId : ℕ}
    {newValues : List (String × Json)} {u : Unit}
    (h : createAuditEntry userId action tableName recordId newValues i w = .ok (u, w')) :
    Keeps w w' := by
  simp only [createAuditEntry, Txn.bind_ok, Txn.liftM_ok, Ris.createAuditEntry_ok] at h
  obtain ⟨_, _, ⟨-, rfl⟩, rfl⟩ := h
  exact ⟨fun _ => rfl, rfl, rfl⟩

theorem keeps_updateFacilityStatusWithClient {facilityId : ℕ} {newStatus : FacilityStatus} {u : Unit}
    (h : updateFacilityStatusWithClient facilityId newStatus i w = .ok (u, w')) : Keeps w w' := by
  simp only [updateFacilityStatusWithClient, Txn.write_ok] at h
  subst h
  exact ⟨rateOf_update (id_setFacilityStatus newStatus) fun _ => rfl, rfl, rfl⟩

theorem keeps_updateDrawnAmountWithClient {facilityId : ℕ} {newDrawn : ℤ} {u : Unit}
    (h : updateDrawnAmountWithClient facilityId newDrawn i w = .ok (u, w')) : Keeps w w' := by
  simp only [updateDrawnAmountWithClient, Txn.bind_ok, Txn.read_ok, id] at h
  obtain ⟨_, _, ⟨rfl, rfl⟩, h⟩ := h
  split at h
  · simp at h
  · simp only [Txn.write_ok] at h
    subst h
    exact ⟨rateOf_update (id_setDrawnAmount newDrawn) fun _ => rfl, rfl, rfl⟩

theorem keeps_queueUtilisationAlertTx {cfg : Config} {facilityId : ℕ} {utilisation : ℚ}
    {level : AlertLevel} {u : Unit}
    (h : queueUtilisationAlertTx cfg facilityId utilisation level i w = .ok (u, w')) :
    Keeps w w' := by
  unfold queueUtilisationAlertTx at h
  split at h
  · rw [enqueueTx_ok] at h
    subst h
    exact ⟨fun _ => rfl, rfl, rfl⟩
  · obtain ⟨-, rfl⟩ := Txn.pure_ok.1 h
    exact ⟨fun _ => rfl, rfl, rfl⟩

theorem keeps_handleUtilisationThresholds {cfg : Config} {facilityId : ℕ} {utilisation : ℚ} {u : Unit}
    (h : handleUtilisationThresholds cfg facilityId utilisation i w = .ok (u, w')) : Keeps w w' := by
  unfold handleUtilisationThresholds at h
  cases hlevel : alertLevel utilisation with
  | none =>
    simp only [hlevel, Txn.pure_ok] at h
    obtain ⟨-, rfl⟩ := h
    exact ⟨fun _ => rfl, rfl, rfl⟩
  | some level =>
    cases level with
    | warning =>
      simp only [hlevel] at h
      exact keeps_queueUtilisationAlertTx h
    | critical =>
      simp only [hlevel, Txn.bind_ok] at h
      obtain ⟨_, w₁, hstatus, h⟩ := h
      exact (keeps_updateFacilityStatusWithClient hstatus).trans (keeps_queueUtilisationAlertTx h)

theorem createDrawdownTxn_effect {cfg : Config} {facilityId invoiceId : ℕ}
    {principal bankFees dueDate : ℤ} {userId : Actor} {drawdownId : ℕ}
    (h : createDrawdownTxn cfg facilityId invoiceId principal bankFees dueDate userId i w
      = .ok (drawdownId, w')) : Effect w (.drawdownCreated facilityId drawdownId) w' := by
  obtain ⟨facility, w₁, w₂, w₃, _, rfl, -, hinsert, hdrawn, hthreshold, haudit⟩ :=
    createDrawdownTxn_cases h
  obtain ⟨today, -, hins, hw₁⟩ := createDrawdownWithClient_ok hinsert
  have hkeeps := ((keeps_updateDrawnAmountWithClient hdrawn).trans
    (keeps_handleUtilisationThresholds hthreshold)).trans (keeps_createAuditEntry haudit)
  have hrates : SameRates w w₁ := fun facilityId => by rw [rateOf, rateOf, hw₁]
  have hrepayments : w₁.facilityRepayments = w.facilityRepayments := by rw [hw₁]
  exact .drawdownCreated (d := CreateDrawdownInput.row
      ⟨i.uuid, facilityId, invoiceId, principal, bankFees⟩ today) facilityId
    (fun facilityId => (hkeeps.rates facilityId).trans (hrates facilityId)) rfl rfl
    (by rw [hins, hkeeps.drawdowns]) (hkeeps.repayments.trans hrepayments)

theorem processRepaymentTxn_effect {facilityId drawdownId : ℕ} {userId : Actor}
    {result : RepaymentCalculation}
    (h : processRepaymentTxn facilityId drawdownId userId i w = .ok (result, w')) :
    Effect w (.repaymentRecorded facilityId drawdownId) w' := by
  obtain ⟨facility, drawdown, w₁, w₂, w₃, _, -, hbefore, hstatus, hinsert, rfl, hdrawn, haudit⟩ :=
    processRepaymentTxn_cases h
  obtain rfl : drawdown.id = drawdownId := Table.key_of_get? hbefore
  have hkeeps := (keeps_updateDrawnAmountWithClient hdrawn).trans (keeps_createAuditEntry haudit)
  obtain ⟨-, repayments, hins, rfl⟩ := createRepaymentWithClient_writes hinsert
  have hrecorded : w.facilityRepayments.insert? (repaymentRow i.uuid facilityId drawdown) =
      some w'.facilityRepayments := by
    rw [hins, hkeeps.repayments]
  exact .repaymentRecorded facilityId hkeeps.rates hbefore hstatus hkeeps.drawdowns rfl rfl hrecorded

/-- What a drawdown is after the interest of `days` days. -/
def accruedDays (dailyInterest : ℤ) : ℤ → ℕ → FacilityDrawdown → FacilityDrawdown
  | _, 0, d => d
  | lastAccrued, days + 1, d =>
    accruedDays dailyInterest (lastAccrued + 1) days (addInterest dailyInterest (lastAccrued + 1) d)

theorem accruedDays_succ (dailyInterest lastAccrued : ℤ) (days : ℕ) (d : FacilityDrawdown) :
    accruedDays dailyInterest lastAccrued (days + 1) d =
      addInterest (dailyInterest * (days + 1)) (lastAccrued + (days + 1)) d := by
  induction days generalizing lastAccrued d with
  | zero => simp [accruedDays]
  | succ days ih =>
    rw [accruedDays, ih]
    simp only [addInterest]
    congr 1
    · push_cast
      ring
    · push_cast
      ring

theorem id_accruedDays (dailyInterest lastAccrued : ℤ) (days : ℕ) (d : FacilityDrawdown) :
    (accruedDays dailyInterest lastAccrued days d).id = d.id := by
  cases days with
  | zero => rfl
  | succ days => rw [accruedDays_succ, id_addInterest]

/-- Walking the days is one update; by induction on their number. -/
theorem accrueEachDay_eq {drawdownId : ℕ} {dailyInterest lastAccrued : ℤ} {days : ℕ} {u : Unit}
    (h : accrueEachDay drawdownId dailyInterest lastAccrued days i w = .ok (u, w')) :
    w' =
      { w with
        facilityDrawdowns := w.facilityDrawdowns.update (fun d => d.id = drawdownId)
          (accruedDays dailyInterest lastAccrued days)
          (id_accruedDays dailyInterest lastAccrued days) } := by
  induction days generalizing lastAccrued w with
  | zero =>
    obtain ⟨-, rfl⟩ := Txn.pure_ok.1 h
    have hid := Table.update_id w.facilityDrawdowns fun d => decide (d.id = drawdownId)
    simp only [accruedDays, hid]
  | succ days ih =>
    simp only [accrueEachDay, accrueDailyInterestWithClient, Txn.bind_ok, Txn.write_ok] at h
    obtain ⟨_, w₁, rfl, h⟩ := h
    rw [ih h]
    congr 1
    exact Table.update_update _ (id_addInterest dailyInterest (lastAccrued + 1))
      (id_accruedDays dailyInterest (lastAccrued + 1) days) fun d => by rw [id_addInterest]

theorem accrual_effect {d r : FacilityDrawdown} {dailyInterest today : ℤ} {u : Unit}
    (hlt : d.lastAccruedDate < today) (hr : w.facilityDrawdowns.get? d.id = some r)
    (hdaily : dailyInterestOf w r = some dailyInterest)
    (h : (do
        accrueEachDay d.id dailyInterest d.lastAccruedDate (today - d.lastAccruedDate).toNat
        createAuditEntry none "INTEREST_ACCRUED" "facility_drawdowns" d.id
          [("facilityId", .id d.facilityId), ("dailyInterest", .int dailyInterest),
            ("accrualDate", .int today)] : Tx Unit) i w = .ok (u, w')) :
    Effect w (.interestAccrued d.id d.lastAccruedDate today) w' := by
  simp only [Txn.bind_ok] at h
  obtain ⟨_, w₁, hdays, haudit⟩ := h
  have hw₁ := accrueEachDay_eq hdays
  have hkeeps := keeps_createAuditEntry haudit
  have hid : r.id = d.id := Table.key_of_get? hr
  obtain ⟨n, hn⟩ : ∃ n : ℕ, (today - d.lastAccruedDate).toNat = n + 1 :=
    ⟨(today - d.lastAccruedDate).toNat - 1, by omega⟩
  have hcast : (n : ℤ) + 1 = today - d.lastAccruedDate := by omega
  have hdays : accruedDays dailyInterest d.lastAccruedDate (today - d.lastAccruedDate).toNat =
      addInterest (dailyInterest * (today - d.lastAccruedDate)) today := by
    funext x
    rw [hn, accruedDays_succ, hcast]
    congr 1
    omega
  rw [← hid] at hr ⊢
  refine .interestAccrued d.lastAccruedDate today ?_ hr hdaily hlt ?_ ?_
  · intro facilityId
    rw [hkeeps.rates, rateOf, rateOf, hw₁]
  · rw [hkeeps.drawdowns, hw₁]
    simp only [hdays, hid]
  · rw [hkeeps.repayments, hw₁]

/-! ## Triples -/

variable {w₀ : World}

theorem commits (w₀ : World) (cfg : Config) : Commits (protocol w₀) cfg where
  createDrawdown _ _ _ _ _ _ h := createDrawdownTxn_effect h
  processRepayment _ _ _ _ _ _ h := processRepaymentTxn_effect h
  suspend _ _ _ _ _ _ h :=
    have hkeeps := keeps_updateFacilityStatusWithClient h
    .other rfl hkeeps.rates hkeeps.drawdowns hkeeps.repayments

/-- The drawdown that was read still has a row, with its facility and principal. -/
def Known (d : FacilityDrawdown) (s : State World Event) : Prop :=
  ∃ r, s.store.facilityDrawdowns.get? d.id = some r ∧ r.facilityId = d.facilityId ∧
    r.principal = d.principal

theorem steady_known (d : FacilityDrawdown) : (protocol w₀).Steady (Known d) := by
  rintro s u e w' - ⟨r, hr, hfacility, hprincipal⟩ heff
  cases e with
  | none =>
    obtain rfl : w' = s.store := heff
    exact ⟨r, hr, hfacility, hprincipal⟩
  | some event =>
    obtain ⟨r', hr', hfacility', hprincipal'⟩ := Effect.row_stays heff hr
    exact ⟨r', hr', hfacility'.trans hfacility, hprincipal'.trans hprincipal⟩

theorem triple_accrueForDrawdown (today : ℤ) (d : FacilityDrawdown) (t : ℕ) :
    (protocol w₀).Triple t (Known d) (accrueForDrawdown today d) (fun _ _ => True)
      fun _ _ => True := by
  have hG := permissive w₀
  have hsteady : (protocol w₀).Steady (Known d) := steady_known d
  unfold accrueForDrawdown
  split
  · exact .ret fun _ _ _ => trivial
  · rename_i hdate
    -- the facility is read in one state, the drawdown is updated in another
    refine .bind (R := fun found s => rateOf w₀ d.facilityId = found.map BankFacility.annualRate ∧
      Known d s) ?_ fun found => ?_
    · have hquery : Yields (protocol w₀) (query (getFacilityById d.facilityId)) fun found =>
          rateOf w₀ d.facilityId = found.map BankFacility.annualRate :=
        yields_query hG fun s hs => (hs d.facilityId).symm
      exact ((hquery t).frame hsteady).conseq (fun _ _ h => ⟨h, trivial⟩)
        (fun _ _ _ h => ⟨h.2, h.1⟩) fun _ _ _ _ => trivial
    · refine .assume (P := rateOf w₀ d.facilityId = found.map BankFacility.annualRate)
        (fun _ h => h.1) fun hrate => ?_
      cases found with
      | none => exact .ret fun _ _ _ => trivial
      | some facility =>
        refine .bind ((((free_query hG fun _ => ()).keeps hsteady t).conseq (fun _ _ h => h.2)
          (fun _ _ _ h => h) fun _ _ _ _ => trivial)) fun _ => ?_
        refine .tryCatch (R := fun _ _ => True) (triple_transaction hG hsteady t ?_) fun _ =>
          free_log hG _ t
        rintro s i u w' hs ⟨r, hr, hfacility, hprincipal⟩ h
        refine accrual_effect (by omega) hr ?_ h
        rw [dailyInterestOf, hs, hfacility, hprincipal, hrate]
        rfl

theorem free_accrueInterest (today : ℤ) : Free (protocol w₀) (accrueInterest today) := by
  intro t
  have hG := permissive w₀
  refine .bind (R := fun drawdowns s => ∀ d ∈ drawdowns, Known d s) (triple_query hG t ?_)
    fun drawdowns => ?_
  · intro s _ d hd
    have hmem : d ∈ s.store.facilityDrawdowns.rows := (List.mem_filter.1 hd).1
    exact ⟨d, Table.get?_of_mem hmem, rfl, rfl⟩
  · have hsteady : (protocol w₀).Steady fun s => ∀ d ∈ drawdowns, Known d s :=
      fun s u e w' hs h heff d hd => steady_known d s u e w' hs (h d hd) heff
    refine (Protocol.Triple.forM fun d hd => ?_).weaken (fun _ _ _ _ => trivial) fun _ _ _ h => h
    exact ((triple_accrueForDrawdown today d t).frame hsteady).conseq
      (fun s _ h => ⟨h, h d hd⟩) (fun _ _ _ h => h.1) fun _ _ _ _ => trivial

/-- Every operation follows the protocol. -/
theorem program_implements (w₀ : World) (cfg : Config) :
    (protocol w₀).Implements (program cfg) := fun op t =>
  (free_program (permissive w₀) (commits w₀ cfg) free_accrueInterest op t).conseq
    (fun _ _ _ => trivial) (fun _ _ _ _ => rfl) fun _ _ _ _ => rfl

end Ris.Facilities.Interest
