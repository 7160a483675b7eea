import RisPlatform.Triples
import RisPlatform.Facilities.Service

/-!
# The facility ledger

What the facility tables are for: each facility's drawn amount is the principal of its outstanding
drawdowns, within its limit. `Effect` says what each event does to those tables, and
`Balanced.post` is the one argument behind every step: a posting that matches the change of the
outstanding principal keeps the ledger balanced.
-/

namespace Ris.Facilities

open Relational Concurrent

/-! ## Balance -/

/-- What a drawdown contributes to the outstanding principal of a facility. -/
def owed (facilityId : ℕ) (d : FacilityDrawdown) : ℤ :=
  if d.facilityId = facilityId ∧ d.status ≠ .repaid then d.principal else 0

/-- The principal of the facility's drawdowns that are not yet repaid. -/
def outstanding (w : World) (facilityId : ℕ) : ℤ := w.facilityDrawdowns.sum (owed facilityId)

/-- Every facility's drawn amount is its outstanding principal, and within its limit. -/
def Balanced (w : World) : Prop :=
  ∀ f ∈ w.bankFacilities.rows,
    f.drawnAmount = outstanding w f.id ∧ 0 ≤ f.drawnAmount ∧ f.drawnAmount ≤ f.totalLimit

instance (w : World) : Decidable (Balanced w) :=
  inferInstanceAs (Decidable (∀ f ∈ w.bankFacilities.rows, _ ∧ _))

/-- The drawn amount of the facility `k` changes by `δ`, that of the others by nothing. -/
structure Posted (k : ℕ) (δ : ℤ) (f f' : BankFacility) : Prop where
  id : f'.id = f.id
  totalLimit : f'.totalLimit = f.totalLimit
  drawnAmount : f'.drawnAmount = f.drawnAmount + if f.id = k then δ else 0

/-- The facilities of `w'` are those of `w` with `δ` posted to `k`. -/
abbrev Posts (k : ℕ) (δ : ℤ) (w w' : World) : Prop :=
  w.bankFacilities.Rowwise (Posted k δ) w'.bankFacilities

theorem Posted.refl (k : ℕ) (f : BankFacility) : Posted k 0 f f := ⟨rfl, rfl, by simp⟩

theorem Posted.trans {k : ℕ} {δ ε : ℤ} {f f' f'' : BankFacility} (h : Posted k δ f f')
    (h' : Posted k ε f' f'') : Posted k (δ + ε) f f'' where
  id := h'.id.trans h.id
  totalLimit := h'.totalLimit.trans h.totalLimit
  drawnAmount := by
    have hid := h.id
    have hfirst := h.drawnAmount
    have hsecond := h'.drawnAmount
    split_ifs at * <;> omega

/-- A posting that matches the change of the outstanding principal, and stays within the limit, keeps
the ledger balanced. -/
theorem Balanced.post {w w' : World} (h : Balanced w) {k : ℕ} {δ : ℤ} (hpost : Posts k δ w w')
    (hsum : ∀ j, outstanding w' j = outstanding w j + if j = k then δ else 0)
    (hrange : ∀ f ∈ w.bankFacilities.rows, f.id = k →
      0 ≤ f.drawnAmount + δ ∧ f.drawnAmount + δ ≤ f.totalLimit) : Balanced w' := by
  intro f' hf'
  obtain ⟨f, hf, hstep⟩ := hpost.exists_of_mem hf'
  obtain ⟨hdrawn, hnonneg, hlimit⟩ := h f hf
  have hamount := hstep.drawnAmount
  have hout := hsum f.id
  rw [hstep.id, hstep.totalLimit]
  by_cases hk : f.id = k
  · obtain ⟨hlow, hhigh⟩ := hrange f hf hk
    rw [if_pos hk] at hamount hout
    omega
  · rw [if_neg hk] at hamount hout
    omega

/-- Nothing is posted, and no drawdown changes what it owes. -/
theorem Balanced.keep {w w' : World} (h : Balanced w) (hpost : Posts 0 0 w w')
    (hsum : ∀ j, outstanding w' j = outstanding w j) : Balanced w' :=
  h.post hpost (fun j => by simp [hsum j]) fun f hf _ => by
    have hrange := (h f hf).2
    omega

/-- A posting that does not match the change of the outstanding principal of its facility unbalances
the ledger. -/
theorem Balanced.not_post {w w' : World} (h : Balanced w) {f : BankFacility} {δ : ℤ}
    (hf : f ∈ w.bankFacilities.rows) (hδ : δ ≠ 0) (hpost : Posts f.id δ w w')
    (hsum : outstanding w' f.id = outstanding w f.id) : ¬Balanced w' := by
  intro h'
  obtain ⟨f', hf', hstep⟩ := hpost.exists_of_mem_left hf
  have hdrawn := (h f hf).1
  have hdrawn' := (h' f' hf').1
  have hamount := hstep.drawnAmount
  rw [if_pos rfl] at hamount
  rw [hstep.id] at hdrawn'
  omega

/-! ## Effects -/

/-- Interest changes nothing about what a drawdown owes. -/
structure SameLoan (d d' : FacilityDrawdown) : Prop where
  id : d'.id = d.id
  facilityId : d'.facilityId = d.facilityId
  principal : d'.principal = d.principal
  status : d'.status = d.status

theorem SameLoan.refl (d : FacilityDrawdown) : SameLoan d d := ⟨rfl, rfl, rfl, rfl⟩

theorem SameLoan.trans {d d' d'' : FacilityDrawdown} (h : SameLoan d d') (h' : SameLoan d' d'') :
    SameLoan d d'' where
  id := h'.id.trans h.id
  facilityId := h'.facilityId.trans h.facilityId
  principal := h'.principal.trans h.principal
  status := h'.status.trans h.status

theorem SameLoan.owed_eq {d d' : FacilityDrawdown} (h : SameLoan d d') (facilityId : ℕ) :
    owed facilityId d' = owed facilityId d := by
  rw [owed, owed, h.facilityId, h.status, h.principal]

/-- What the commit of a drawdown does. -/
structure Draws (w w' : World) (facility : BankFacility) (drawdown : FacilityDrawdown) : Prop where
  facility_mem : facility ∈ w.bankFacilities.rows
  facilityId : drawdown.facilityId = facility.id
  status : drawdown.status = .active
  positive : 0 < drawdown.principal
  available : drawdown.principal ≤ facility.availableAmount
  insert : w.facilityDrawdowns.insert? drawdown = some w'.facilityDrawdowns
  post : Posts facility.id drawdown.principal w w'

/-- What the commit of a repayment does: the facility is the one the call was given. -/
structure Repays (w w' : World) (facility : BankFacility) (drawdown : FacilityDrawdown) : Prop where
  facility_mem : facility ∈ w.bankFacilities.rows
  before : w.facilityDrawdowns.get? drawdown.id = some drawdown
  status : drawdown.status ≠ .repaid
  positive : 0 < drawdown.principal
  nonneg : drawdown.principal ≤ facility.drawnAmount
  drawdowns : w'.facilityDrawdowns =
    w.facilityDrawdowns.update (fun d => d.id = drawdown.id) (setDrawdownStatus .repaid)
      (id_setDrawdownStatus .repaid)
  post : Posts facility.id (-drawdown.principal) w w'

/-- What each event may do to the facility tables. -/
inductive Effect (w : World) : Event → World → Prop
  | read : Effect w .read w
  | threw : Effect w .threw w
  | logged (action : String) : Effect w (.logged action) w
  | enqueued (job : Job) : Effect w (.enqueued job) { w with jobs := w.jobs ++ [job] }
  | leftJobs (jobs : List Job) : Effect w .leftJobs { w with jobs := jobs }
  | drawdownCreated {w' : World} {facility : BankFacility} {drawdown : FacilityDrawdown}
      (h : Draws w w' facility drawdown) : Effect w (.drawdownCreated facility.id drawdown.id) w'
  | repaymentRecorded {w' : World} {facility : BankFacility} {drawdown : FacilityDrawdown}
      (h : Repays w w' facility drawdown) : Effect w (.repaymentRecorded facility.id drawdown.id) w'
  | interestAccrued {w' : World} (drawdownId : ℕ) (lastAccrued today : ℤ)
      (hfacilities : w'.bankFacilities = w.bankFacilities)
      (hdrawdowns : w.facilityDrawdowns.Rowwise SameLoan w'.facilityDrawdowns) :
      Effect w (.interestAccrued drawdownId lastAccrued today) w'
  | facilitySuspended {w' : World} (facilityId : ℕ) (hpost : Posts 0 0 w w')
      (hdrawdowns : w'.facilityDrawdowns = w.facilityDrawdowns) :
      Effect w (.facilitySuspended facilityId) w'

/-- Effects depend on the store alone; a call may return at any time. -/
def protocol : Protocol World Event where
  inv _ := True
  effect s _ e d :=
    match e with
    | some event => Effect s.store event d
    | none => d = s.store
  inv_effect _ _ := trivial
  return_stable _ _ _ _ := rfl

/-! ## Outstanding principal -/

theorem Draws.outstanding_eq {w w' : World} {facility : BankFacility} {drawdown : FacilityDrawdown}
    (h : Draws w w' facility drawdown) (j : ℕ) :
    outstanding w' j = outstanding w j + if j = facility.id then drawdown.principal else 0 := by
  have howed : owed j drawdown = if j = facility.id then drawdown.principal else 0 := by
    rw [owed, h.facilityId, h.status]
    by_cases hj : j = facility.id
    · simp [hj]
    · simp [hj, Ne.symm hj]
  rw [outstanding, outstanding, Table.sum_insert? h.insert, howed]

/-- A repayment lowers the outstanding principal of the facility that was drawn on. -/
theorem Repays.outstanding_eq {w w' : World} {facility : BankFacility} {drawdown : FacilityDrawdown}
    (h : Repays w w' facility drawdown) (j : ℕ) :
    outstanding w' j
      = outstanding w j + if j = drawdown.facilityId then -drawdown.principal else 0 := by
  have hbefore : owed j drawdown = if j = drawdown.facilityId then drawdown.principal else 0 := by
    rw [owed]
    by_cases hj : j = drawdown.facilityId
    · simp [hj, h.status]
    · simp [hj, Ne.symm hj]
  have hafter : owed j (setDrawdownStatus .repaid drawdown) = 0 := by
    simp [owed, setDrawdownStatus]
  rw [outstanding, outstanding, h.drawdowns,
    Table.sum_update_key h.before (fun _ => of_decide_eq_true)
      (decide_eq_true (Table.key_of_get? h.before)), hbefore, hafter]
  by_cases hj : j = drawdown.facilityId
  · simp only [if_pos hj]
    omega
  · simp only [if_neg hj]
    omega

theorem outstanding_of_sameLoan {w w' : World}
    (h : w.facilityDrawdowns.Rowwise SameLoan w'.facilityDrawdowns) (j : ℕ) :
    outstanding w' j = outstanding w j :=
  h.sum_eq fun _ _ hloan => hloan.owed_eq j

end Ris.Facilities
