import RisPlatform.Common.Binary64Order
import RisPlatform.Facilities.Balance

/-!
# Active facilities and the critical utilisation

The percentage is a truncated quotient that goes through a double, yet the comparison with the threshold is
exact (`critical_iff`). A drawdown reads the facility, writes its drawn amount and suspends it in one
transaction; nothing else raises the drawn amount, and nothing makes a facility active again. So an active
facility stays below the threshold in every run.
-/

namespace Ris.Facilities

open Relational Concurrent

/-! ## The threshold -/

/-- Hundredths of a per cent as a percentage. -/
def percentage (n : ℤ) : ℚ := Binary64.div (Binary64.round n) 100

theorem percentage_mono {m n : ℤ} (h : m ≤ n) : percentage m ≤ percentage n := by
  have hcast : (m : ℚ) ≤ n := by exact_mod_cast h
  have hround := Binary64.round_mono hcast
  exact Binary64.round_mono (div_le_div_of_nonneg_right hround (by norm_num))

theorem percentage_9000 : percentage 9000 = 90 := by decide +kernel

theorem percentage_8999 : percentage 8999 < 90 := by decide +kernel

/-- The threshold is exact: a facility is critically utilised from nine tenths of its limit on. -/
theorem critical_iff {drawnAmount totalLimit : ℤ} (hlimit : 0 < totalLimit) :
    utilisationCritical ≤ calculateUtilisation drawnAmount totalLimit ↔
      totalLimit * 9 ≤ drawnAmount * 10 := by
  rw [calculateUtilisation, if_neg hlimit.ne']
  show 90 ≤ percentage ((drawnAmount * 10000).tdiv totalLimit) ↔ _
  constructor
  · intro h
    by_contra hlow
    have hquotient : (drawnAmount * 10000).tdiv totalLimit ≤ 8999 := by
      rcases le_or_gt 0 drawnAmount with hnonneg | hneg
      · rw [Int.tdiv_eq_ediv_of_nonneg (by omega)]
        have hlt : drawnAmount * 10000 / totalLimit < 9000 :=
          Int.ediv_lt_of_lt_mul hlimit (by omega)
        omega
      · have hneg' : drawnAmount * 10000 = -(-drawnAmount * 10000) := by ring
        have hnonneg := Int.tdiv_nonneg (show 0 ≤ -drawnAmount * 10000 by omega) hlimit.le
        rw [hneg', Int.neg_tdiv]
        omega
    have hbelow := percentage_mono hquotient
    exact absurd (h.trans hbelow) (not_le.2 percentage_8999)
  · intro h
    have hquotient : 9000 ≤ (drawnAmount * 10000).tdiv totalLimit := by
      rw [Int.tdiv_eq_ediv_of_nonneg (by omega)]
      exact (Int.le_ediv_iff_mul_le hlimit).2 (by omega)
    have habove := percentage_mono hquotient
    rwa [percentage_9000] at habove

/-! ## Effects -/

/-- What a drawdown of this principal makes of its facility. -/
def drawOn (principal : ℤ) (f : BankFacility) : BankFacility :=
  if utilisationCritical ≤ calculateUtilisation (f.drawnAmount + principal) f.totalLimit then
    setFacilityStatus .suspended (setDrawnAmount (f.drawnAmount + principal) f)
  else setDrawnAmount (f.drawnAmount + principal) f

theorem id_drawOn (principal : ℤ) (f : BankFacility) : (drawOn principal f).id = f.id := by
  unfold drawOn
  split <;> rfl

/-- What a repayment of this principal makes of the facility it is given. -/
def payBack (principal : ℤ) (f : BankFacility) : BankFacility :=
  setDrawnAmount (f.drawnAmount - principal) f

theorem id_payBack (principal : ℤ) (f : BankFacility) : (payBack principal f).id = f.id := rfl

/-- What each event may do to the facilities, and to the number of drawdowns. -/
inductive Utilises (w : World) : Event → World → Prop
  | other {e : Event} {w' : World} (he : ∀ facilityId, e ≠ .facilitySuspended facilityId)
      (hfacilities : w'.bankFacilities = w.bankFacilities)
      (hdrawdowns : w'.facilityDrawdowns.rows.length = w.facilityDrawdowns.rows.length) :
      Utilises w e w'
  | drawdownCreated {w' : World} {facility : BankFacility} {d : FacilityDrawdown}
      (hbefore : w.bankFacilities.get? facility.id = some facility) (hactive : facility.status = .active)
      (hfacility : d.facilityId = facility.id)
      (hinsert : w.facilityDrawdowns.insert? d = some w'.facilityDrawdowns)
      (hfacilities : w'.bankFacilities =
        w.bankFacilities.update (fun f => f.id = facility.id) (drawOn d.principal)
          (id_drawOn d.principal)) :
      Utilises w (.drawdownCreated facility.id d.id) w'
  | repaymentRecorded {w' : World} (facilityId drawdownId : ℕ) {principal : ℤ} (hpos : 0 < principal)
      (hdrawdowns : w'.facilityDrawdowns.rows.length = w.facilityDrawdowns.rows.length)
      (hfacilities : w'.bankFacilities =
        w.bankFacilities.update (fun f => f.id = facilityId) (payBack principal)
          (id_payBack principal)) :
      Utilises w (.repaymentRecorded facilityId drawdownId) w'
  | facilitySuspended (facilityId : ℕ) :
      Utilises w (.facilitySuspended facilityId)
        { w with
          bankFacilities := w.bankFacilities.update (fun f => f.id = facilityId)
            (setFacilityStatus .suspended) (id_setFacilityStatus .suspended) }

/-- Effects depend on the store alone; a call may return at any time. -/
def utilising : Protocol World Event where
  inv _ := True
  effect s _ e d :=
    match e with
    | some event => Utilises s.store event d
    | none => d = s.store
  inv_effect _ _ := trivial
  return_stable _ _ _ _ := rfl

section Steps

variable {cfg : Config} {i : Input} {w w' : World}

theorem alertLevel_eq_critical_iff {utilisation : ℚ} :
    alertLevel utilisation = some .critical ↔ utilisationCritical ≤ utilisation := by
  unfold alertLevel
  split
  · simp_all
  · split <;> simp_all

/-- Handling the thresholds suspends the facility at the critical level. -/
theorem handleUtilisationThresholds_eq {facilityId : ℕ} {utilisation : ℚ} {u : Unit}
    (h : handleUtilisationThresholds cfg facilityId utilisation i w = .ok (u, w')) :
    w'.facilityDrawdowns = w.facilityDrawdowns ∧
      w'.bankFacilities =
        if utilisationCritical ≤ utilisation then
          w.bankFacilities.update (fun f => f.id = facilityId) (setFacilityStatus .suspended)
            (id_setFacilityStatus .suspended)
        else w.bankFacilities := by
  have hiff : alertLevel utilisation = some .critical ↔ utilisationCritical ≤ utilisation :=
    alertLevel_eq_critical_iff
  unfold handleUtilisationThresholds at h
  cases hlevel : alertLevel utilisation with
  | none =>
    simp only [hlevel, Txn.pure_ok] at h
    obtain ⟨-, rfl⟩ := h
    rw [if_neg fun hcritical => by simpa [hlevel] using hiff.2 hcritical]
    exact ⟨rfl, rfl⟩
  | some level =>
    cases level with
    | warning =>
      simp only [hlevel] at h
      obtain ⟨hfacilities, hdrawdowns⟩ := queueUtilisationAlertTx_frame h
      rw [if_neg fun hcritical => by simpa [hlevel] using hiff.2 hcritical]
      exact ⟨hdrawdowns, hfacilities⟩
    | critical =>
      simp only [hlevel, updateFacilityStatusWithClient, Txn.bind_ok, Txn.write_ok] at h
      obtain ⟨_, w₁, rfl, h⟩ := h
      obtain ⟨hfacilities, hdrawdowns⟩ := queueUtilisationAlertTx_frame h
      rw [if_pos (hiff.1 hlevel)]
      exact ⟨hdrawdowns, hfacilities⟩

theorem loadDrawdownFacility_active {facilityId : ℕ} {dueDate principal : ℤ} {facility : BankFacility}
    (h : loadDrawdownFacility facilityId dueDate principal i w = .ok (facility, w')) :
    facility.status = .active := by
  simp only [loadDrawdownFacility, Txn.bind_ok, getFacilityByIdWithClient_ok, Txn.liftM_ok,
    Txn.pure_ok] at h
  obtain ⟨_, _, ⟨rfl, rfl⟩, _, _, ⟨hvalid, rfl⟩, _, _, -, _, _, -, rfl, -⟩ := h
  exact (validateFacilityForDrawdown_ok hvalid).2

/-- The commit of `createDrawdown`. -/
theorem createDrawdownTxn_utilises {facilityId invoiceId : ℕ} {principal bankFees dueDate : ℤ}
    {userId : Actor} {drawdownId : ℕ}
    (h : createDrawdownTxn cfg facilityId invoiceId principal bankFees dueDate userId i w
      = .ok (drawdownId, w')) : Utilises w (.drawdownCreated facilityId drawdownId) w' := by
  obtain ⟨facility, w₁, w₂, w₃, _, rfl, hload, hinsert, hdrawn, hthreshold, haudit⟩ :=
    createDrawdownTxn_cases h
  have hactive := loadDrawdownFacility_active hload
  obtain ⟨hfacility, -, -⟩ := loadDrawdownFacility_ok hload
  obtain ⟨today, -, hins, hw₁⟩ := createDrawdownWithClient_ok hinsert
  obtain rfl : facility.id = facilityId := Table.key_of_get? hfacility
  have hsame : w₁.bankFacilities = w.bankFacilities := by rw [hw₁]
  have hfacility₁ : w₁.bankFacilities.get? facility.id = some facility := by rwa [hsame]
  obtain ⟨-, hw₂⟩ := updateDrawnAmountWithClient_ok hdrawn hfacility₁
  obtain ⟨hdraw₃, hfac₃⟩ := handleUtilisationThresholds_eq hthreshold
  obtain ⟨hfac₄, hdraw₄⟩ := createAuditEntry_frame haudit
  -- the row that matches is the facility that was read
  have hrow : ∀ f ∈ w.bankFacilities.rows, decide (f.id = facility.id) = true → f = facility :=
    fun f hf hid => Table.eq_of_mem hf (Table.mem_of_get? hfacility) (of_decide_eq_true hid)
  refine .drawdownCreated (d := CreateDrawdownInput.row
    ⟨i.uuid, facility.id, invoiceId, principal, bankFees⟩ today) hfacility hactive rfl ?_ ?_
  · rw [hins, hdraw₄, hdraw₃, hw₂]
  · rw [hfac₄, hfac₃, hw₂, hsame]
    split
    · rename_i hcritical
      rw [Table.update_update _ (id_setDrawnAmount _) (id_setFacilityStatus _) fun _ => rfl]
      refine Table.update_congr _ _ fun f hf hid => ?_
      obtain rfl := hrow f hf hid
      exact (if_pos hcritical).symm
    · rename_i hlow
      refine Table.update_congr (id_setDrawnAmount _) _ fun f hf hid => ?_
      obtain rfl := hrow f hf hid
      exact (if_neg hlow).symm

/-- The commit of `processRepayment`. -/
theorem processRepaymentTxn_utilises {facilityId drawdownId : ℕ} {userId : Actor}
    {result : RepaymentCalculation}
    (h : processRepaymentTxn facilityId drawdownId userId i w = .ok (result, w')) :
    Utilises w (.repaymentRecorded facilityId drawdownId) w' := by
  obtain ⟨facility, drawdown, w₁, w₂, w₃, _, hfacility, -, -, hinsert, hw₂, hdrawn, haudit⟩ :=
    processRepaymentTxn_cases h
  obtain ⟨hpos, hfac₁, hdraw₁⟩ := createRepaymentWithClient_ok hinsert
  obtain rfl : facility.id = facilityId := Table.key_of_get? hfacility
  have hsame : w₂.bankFacilities = w.bankFacilities := by rw [hw₂, hfac₁]
  have hfacility₂ : w₂.bankFacilities.get? facility.id = some facility := by rwa [hsame]
  obtain ⟨-, hw₃⟩ := updateDrawnAmountWithClient_ok hdrawn hfacility₂
  obtain ⟨hfac₄, hdraw₄⟩ := createAuditEntry_frame haudit
  refine .repaymentRecorded facility.id drawdownId hpos ?_ ?_
  · rw [hdraw₄, hw₃, hw₂, Table.rows_update, List.length_map, hdraw₁]
  · rw [hfac₄, hw₃, hsame]
    refine Table.update_congr (id_setDrawnAmount _) _ fun f hf hid => ?_
    obtain rfl : f = facility :=
      Table.eq_of_mem hf (Table.mem_of_get? hfacility) (of_decide_eq_true hid)
    rfl

theorem permissive_utilising : Permissive utilising where
  read _ _ := .other nofun rfl rfl
  threw _ _ := .other nofun rfl rfl
  logged _ _ _ := .other nofun rfl rfl
  enqueued _ _ _ := .other nofun rfl rfl
  leftJobs _ _ _ := .other nofun rfl rfl

theorem commits_utilising (cfg : Config) : Commits utilising cfg where
  createDrawdown _ _ _ _ _ _ h := createDrawdownTxn_utilises h
  processRepayment _ _ _ _ _ _ h := processRepaymentTxn_utilises h
  suspend _ _ _ _ _ _ h := by
    simp only [updateFacilityStatusWithClient, Txn.write_ok] at h
    subst h
    exact .facilitySuspended _

/-- Every operation follows the protocol. -/
theorem program_implements_utilising (cfg : Config) : utilising.Implements (program cfg) := by
  have haccrue : ∀ today, Free utilising (accrueInterest today) := by
    refine free_accrueInterest permissive_utilising fun s t i u d _ h => ?_
    obtain ⟨_, w₁, hdays, haudit⟩ := Txn.bind_ok.1 h
    obtain ⟨hfac₁, hloans⟩ := accrueEachDay_ok hdays
    obtain ⟨hfac₂, hdraw₂⟩ := createAuditEntry_frame haudit
    exact .other nofun (hfac₂.trans hfac₁) (by rw [hdraw₂, hloans.length_eq])
  exact fun op t => (free_program permissive_utilising (commits_utilising cfg) haccrue op t).conseq
    (fun _ _ _ => trivial) (fun _ _ _ _ => rfl) fun _ _ _ _ => rfl

end Steps

/-! ## Runs -/

/-- No active facility is critically utilised. -/
def ActiveBelowCritical (w : World) : Prop :=
  ∀ f ∈ w.bankFacilities.rows, f.status = .active → f.drawnAmount * 10 < f.totalLimit * 9

instance (w : World) : Decidable (ActiveBelowCritical w) :=
  inferInstanceAs (Decidable (∀ f ∈ w.bankFacilities.rows, _))

/-- `chk_facilities_total_limit_positive`. -/
def LimitsPositive (w : World) : Prop := ∀ f ∈ w.bankFacilities.rows, 0 < f.totalLimit

instance (w : World) : Decidable (LimitsPositive w) :=
  inferInstanceAs (Decidable (∀ f ∈ w.bankFacilities.rows, _))

section Invariant

variable {w w' : World} {e : Event}

/-- An update keeps the invariant if each row that it makes active is below the threshold or no worse than
before. -/
theorem activeBelowCritical_update {p : BankFacility → Bool} {g : BankFacility → BankFacility}
    (hg : ∀ r, (g r).id = r.id) (hlimits : LimitsPositive w) (hw : ActiveBelowCritical w)
    (h : w'.bankFacilities = w.bankFacilities.update p g hg)
    (hlimit : ∀ f, (g f).totalLimit = f.totalLimit)
    (hrow : ∀ f, 0 < f.totalLimit → (g f).status = .active →
      (g f).drawnAmount * 10 < f.totalLimit * 9 ∨
        f.status = .active ∧ (g f).drawnAmount ≤ f.drawnAmount) :
    LimitsPositive w' ∧ ActiveBelowCritical w' := by
  constructor
  · intro f' hf'
    rw [h] at hf'
    obtain ⟨f, hf, rfl⟩ := Table.mem_update.1 hf'
    split
    · rw [hlimit]
      exact hlimits f hf
    · exact hlimits f hf
  · intro f' hf' hactive
    rw [h] at hf'
    obtain ⟨f, hf, rfl⟩ := Table.mem_update.1 hf'
    split at hactive
    · rename_i hp
      rw [if_pos hp, hlimit]
      rcases hrow f (hlimits f hf) hactive with hlow | ⟨hbefore, hless⟩
      · exact hlow
      · have hbelow := hw f hf hbefore
        omega
    · rename_i hp
      rw [if_neg hp]
      exact hw f hf hactive

/-- The step lemma. -/
theorem Utilises.activeBelowCritical (h : Utilises w e w')
    (hw : LimitsPositive w ∧ ActiveBelowCritical w) : LimitsPositive w' ∧ ActiveBelowCritical w' := by
  cases h with
  | other _ hfacilities =>
    unfold LimitsPositive ActiveBelowCritical
    rw [hfacilities]
    exact hw
  | @drawdownCreated _ facility d _ _ _ _ hfacilities =>
    refine activeBelowCritical_update _ hw.1 hw.2 hfacilities (fun f => ?_) fun f hlimit hactive => ?_
    · unfold drawOn
      split <;> rfl
    · unfold drawOn at hactive ⊢
      split at hactive
      · cases hactive
      · rename_i hlow
        rw [if_neg hlow]
        -- it would have been suspended at nine tenths
        rw [critical_iff hlimit] at hlow
        exact Or.inl (not_le.1 hlow)
  | repaymentRecorded facilityId drawdownId hpos _ hfacilities =>
    refine activeBelowCritical_update _ hw.1 hw.2 hfacilities (fun _ => rfl) fun f _ hactive =>
      Or.inr ⟨hactive, ?_⟩
    show f.drawnAmount - _ ≤ f.drawnAmount
    omega
  | facilitySuspended facilityId =>
    refine activeBelowCritical_update (id_setFacilityStatus .suspended) hw.1 hw.2 rfl (fun _ => rfl)
      fun f _ hactive => ?_
    cases hactive

/-- A drawdown that a step adds is on an active facility. -/
theorem Utilises.active_of_insert (h : Utilises w e w') {d : FacilityDrawdown}
    (hd : w.facilityDrawdowns.insert? d = some w'.facilityDrawdowns) :
    ∃ f, w.bankFacilities.get? d.facilityId = some f ∧ f.status = .active := by
  cases h with
  | other _ _ hlength => exact absurd hd (Table.insert?_ne_of_length hlength)
  | repaymentRecorded _ _ _ hlength => exact absurd hd (Table.insert?_ne_of_length hlength)
  | facilitySuspended => exact absurd hd (Table.insert?_ne_of_length rfl)
  | @drawdownCreated _ facility d' hbefore hactive hfacility hinsert _ =>
    have hrows := (Table.rows_insert? hinsert).symm.trans (Table.rows_insert? hd)
    obtain rfl := List.singleton_inj.1 (List.append_cancel_left hrows)
    rw [hfacility]
    exact ⟨facility, hbefore, hactive⟩

end Invariant

/-- **Active facilities stay below the critical utilisation.** From a store in which none is critically
utilised, no run of the facility ledger leaves one that is; and whatever step comes next, a drawdown that it
adds is on a facility that is active. -/
theorem active_below_critical (cfg : Config) (w : World) (hlimits : LimitsPositive w)
    (hw : ActiveBelowCritical w) (s : Sys World Input Event RisError)
    (hs : Reaches (program cfg) always (Sys.init w) s) :
    ActiveBelowCritical s.store ∧
      ∀ s' : Sys World Input Event RisError, Step (program cfg) always s s' → ∀ d,
        s.store.facilityDrawdowns.insert? d = some s'.store.facilityDrawdowns →
          ∃ f, s.store.bankFacilities.get? d.facilityId = some f ∧ f.status = .active := by
  have hprog := program_implements_utilising cfg
  have hinv : LimitsPositive s.store ∧ ActiveBelowCritical s.store := by
    refine Protocol.invariant hprog (d := w) trivial
      (P := fun s => LimitsPositive s.store ∧ ActiveBelowCritical s.store) ⟨hlimits, hw⟩ ?_ hs
    intro s t e d hs hmove
    cases e with
    | none =>
      obtain rfl : d = s.store := hmove.effect
      exact hs
    | some e => exact Utilises.activeBelowCritical hmove.effect hs
  refine ⟨hinv.2, fun s' hs' d hinsert => ?_⟩
  rcases Protocol.step_move hprog trivial hs hs' with heq | ⟨t, e, d', hmove, heq⟩
  · rw [heq] at hinsert
    exact absurd hinsert (Table.insert?_ne_of_length rfl)
  · rw [heq] at hinsert
    cases e with
    | none =>
      obtain rfl : d' = s.store := hmove.effect
      exact absurd hinsert (Table.insert?_ne_of_length rfl)
    | some e => exact Utilises.active_of_insert hmove.effect hinsert

/-- Two drawdowns bring a facility to nine tenths of its limit: it is suspended, and the other one stays
active. -/
theorem active_below_critical_of_suspended :
    ∃ s : Sys World Input Event RisError, ActiveBelowCritical s.store ∧
      s.store.bankFacilities.rows.map (fun f => (f.drawnAmount, f.status)) =
        [(900, .suspended), (200, .active)] := by
  obtain ⟨s, hs, hP⟩ := exists_reaches (program migration006) always (Sys.init undrawn)
    (drawAlone 0 1 1 300 ++ drawAlone 1 2 2 200 ++ drawAlone 2 1 3 600)
    (fun s => s.store.bankFacilities.rows.map (fun f => (f.drawnAmount, f.status)) =
      [(900, .suspended), (200, .active)]) (by decide +kernel)
  exact ⟨s, (active_below_critical migration006 undrawn (by decide) (by decide) s hs).1,
    of_decide_eq_true hP⟩

end Ris.Facilities
