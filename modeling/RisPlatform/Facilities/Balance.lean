import RisPlatform.Facilities.Conformance

/-!
# The ledger stays balanced

`processRepayment` takes the facility and the drawdown apart and never compares them. The ledger stays
balanced exactly along the runs in which every repayment names the facility that was drawn on: a
repayment of another one lowers the wrong drawn amount.
-/

namespace Ris.Facilities

open Relational Concurrent

/-- Every repayment names the facility that its drawdown was drawn from. -/
def OwnFacility : Cond World Event := fun s _ e =>
  ∀ r ∈ e.repayment?, ∀ d ∈ s.store.facilityDrawdowns.get? r.2, d.facilityId = r.1

instance (s : State World Event) (t : ℕ) (e : Event) : Decidable (OwnFacility s t e) := by
  unfold OwnFacility
  infer_instance

/-- How often the drawdown was repaid. -/
def repaymentsOf (drawdownId : ℕ) (h : List (ℕ × Option Event)) : ℕ :=
  h.countP fun x => x.2.any (Event.repays drawdownId)

/-- The step takes an outstanding drawdown off the drawn amount of its own facility, and changes that
of no other. -/
def RepaysOwn (s s' : State World Event) (drawdownId : ℕ) : Prop :=
  ∃ d, s.store.facilityDrawdowns.get? drawdownId = some d ∧ d.status ≠ .repaid ∧
    (s'.store.facilityDrawdowns.get? drawdownId).map FacilityDrawdown.status = some .repaid ∧
    Posts d.facilityId (-d.principal) s.store s'.store

/-- A step that leaves the ledger balanced, with every drawdown repaid at most once, from its own
facility. -/
structure SoundStep (cfg : Config) (s s' : Sys World Input Event RisError) : Prop where
  step : Step (program cfg) always s s'
  balanced : Balanced s'.store
  once : ∀ drawdownId, repaymentsOf drawdownId s'.hist ≤ 1
  own : ∀ t facilityId drawdownId,
    s'.hist = (t, some (.repaymentRecorded facilityId drawdownId)) :: s.hist →
      RepaysOwn s.toState s'.toState drawdownId

/-! ## One step -/

/-- A repayment from the facility that was drawn on keeps the ledger balanced. -/
theorem Repays.balanced {w w' : World} {facility : BankFacility} {drawdown : FacilityDrawdown}
    (h : Repays w w' facility drawdown) (hown : drawdown.facilityId = facility.id)
    (hw : Balanced w) : Balanced w' := by
  refine hw.post h.post ?_ ?_
  · intro j
    rw [h.outstanding_eq, hown]
  · intro f hf hid
    obtain rfl : f = facility := Table.eq_of_mem hf h.facility_mem hid
    have hlimit := (hw f hf).2.2
    have hnonneg := h.nonneg
    have hpos := h.positive
    omega

/-- A repayment from another facility unbalances it. -/
theorem Repays.not_balanced {w w' : World} {facility : BankFacility} {drawdown : FacilityDrawdown}
    (h : Repays w w' facility drawdown) (hown : drawdown.facilityId ≠ facility.id)
    (hw : Balanced w) : ¬Balanced w' := by
  have hpos := h.positive
  refine hw.not_post h.facility_mem (by omega) h.post ?_
  rw [h.outstanding_eq, if_neg (Ne.symm hown), add_zero]

theorem Draws.balanced {w w' : World} {facility : BankFacility} {drawdown : FacilityDrawdown}
    (h : Draws w w' facility drawdown) (hw : Balanced w) : Balanced w' := by
  refine hw.post h.post h.outstanding_eq ?_
  intro f hf hid
  obtain rfl : f = facility := Table.eq_of_mem hf h.facility_mem hid
  have hnonneg := (hw f hf).2.1
  have hpos := h.positive
  have havailable := h.available
  rw [BankFacility.availableAmount] at havailable
  omega

/-- The step lemma: the ledger stays balanced exactly if the step meets the condition. -/
theorem Effect.balanced_iff {s : State World Event} {t : ℕ} {e : Event} {w' : World}
    (heff : Effect s.store e w') (hs : Balanced s.store) : Balanced w' ↔ OwnFacility s t e := by
  have hkeep : Posts 0 0 s.store s.store := .refl (Posted.refl 0) _
  cases heff with
  | read => simp [OwnFacility, Event.repayment?, hs]
  | threw => simp [OwnFacility, Event.repayment?, hs]
  | logged => simp [OwnFacility, Event.repayment?, hs]
  | enqueued job =>
    exact iff_of_true (hs.keep hkeep fun _ => rfl) (by simp [OwnFacility, Event.repayment?])
  | leftJobs jobs =>
    exact iff_of_true (hs.keep hkeep fun _ => rfl) (by simp [OwnFacility, Event.repayment?])
  | drawdownCreated h => exact iff_of_true (h.balanced hs) (by simp [OwnFacility, Event.repayment?])
  | repaymentRecorded h =>
    constructor
    · intro hbalanced
      have hown := not_imp_not.1 (fun hne => h.not_balanced hne hs) hbalanced
      simpa [OwnFacility, Event.repayment?, h.before] using hown
    · intro hown
      have hown := hown _ rfl _ h.before
      exact h.balanced hown hs
  | interestAccrued drawdownId lastAccrued today hfacilities hdrawdowns =>
    have hpost : Posts 0 0 s.store w' := by rwa [Posts, hfacilities]
    exact iff_of_true (hs.keep hpost (outstanding_of_sameLoan hdrawdowns))
      (by simp [OwnFacility, Event.repayment?])
  | facilitySuspended facilityId hpost hdrawdowns =>
    have hsum : ∀ j, outstanding w' j = outstanding s.store j := by
      intro j
      rw [outstanding, outstanding, hdrawdowns]
    exact iff_of_true (hs.keep hpost hsum) (by simp [OwnFacility, Event.repayment?])

/-- A drawdown that is repaid stays repaid. -/
theorem Effect.repaid_stays {w w' : World} {e : Event} (heff : Effect w e w') {drawdownId : ℕ}
    {d : FacilityDrawdown} (hd : w.facilityDrawdowns.get? drawdownId = some d)
    (hstatus : d.status = .repaid) :
    ∃ d', w'.facilityDrawdowns.get? drawdownId = some d' ∧ d'.status = .repaid := by
  cases heff with
  | read | threw | logged | enqueued | leftJobs => exact ⟨d, hd, hstatus⟩
  | drawdownCreated h =>
    exact ⟨d, Table.get?_insert?_of_get? h.insert hd, hstatus⟩
  | repaymentRecorded h =>
    rw [h.drawdowns, Table.get?_update_of_get? hd]
    split
    · exact ⟨_, rfl, rfl⟩
    · exact ⟨d, rfl, hstatus⟩
  | interestAccrued _ _ _ _ hdrawdowns =>
    obtain ⟨d', hd', hloan⟩ := hdrawdowns.exists_of_mem_left (Table.mem_of_get? hd)
    have hid : d'.id = drawdownId := hloan.id.trans (Table.key_of_get? hd)
    exact ⟨d', hid ▸ Table.get?_of_mem hd', hloan.status.trans hstatus⟩
  | facilitySuspended _ _ hdrawdowns =>
    rw [hdrawdowns]
    exact ⟨d, hd, hstatus⟩

/-! ## Repaid once -/

/-- A drawdown is repaid at most once, and is marked so. -/
def RepaidOnce (s : State World Event) : Prop :=
  ∀ drawdownId, repaymentsOf drawdownId s.hist = 0 ∨
    repaymentsOf drawdownId s.hist = 1 ∧
      ∃ d, s.store.facilityDrawdowns.get? drawdownId = some d ∧ d.status = .repaid

theorem RepaidOnce.le_one {s : State World Event} (h : RepaidOnce s) (drawdownId : ℕ) :
    repaymentsOf drawdownId s.hist ≤ 1 := by
  rcases h drawdownId with hzero | ⟨hone, -⟩ <;> omega

/-- The row that a repayment leaves. -/
theorem Repays.after {w w' : World} {facility : BankFacility} {drawdown : FacilityDrawdown}
    (h : Repays w w' facility drawdown) :
    w'.facilityDrawdowns.get? drawdown.id = some (setDrawdownStatus .repaid drawdown) := by
  rw [h.drawdowns, Table.get?_update_of_get? h.before]
  simp

/-- The first repayment of a drawdown is its only one so far. -/
theorem Repays.first {s : State World Event} (hs : RepaidOnce s) {w' : World}
    {facility : BankFacility} {drawdown : FacilityDrawdown}
    (h : Repays s.store w' facility drawdown) : repaymentsOf drawdown.id s.hist = 0 := by
  rcases hs drawdown.id with hzero | ⟨-, d, hd, hstatus⟩
  · exact hzero
  · rw [h.before, Option.some.injEq] at hd
    subst hd
    exact absurd hstatus h.status

/-- The step lemma: a repayment finds a drawdown that is not repaid, and leaves it repaid. -/
theorem RepaidOnce.step {s : State World Event} {t : ℕ} {e : Option Event} {w' : World}
    (h : RepaidOnce s) (heff : protocol.effect s t e w') : RepaidOnce (s.record t e w') := by
  intro drawdownId
  rw [State.record_hist, repaymentsOf, List.countP_cons, ← repaymentsOf]
  -- a drawdown that was repaid before this step, or is not repaid by it
  have hstays : e.any (Event.repays drawdownId) = false →
      repaymentsOf drawdownId s.hist + 0 = 0 ∨ repaymentsOf drawdownId s.hist + 0 = 1 ∧
        ∃ d, w'.facilityDrawdowns.get? drawdownId = some d ∧ d.status = .repaid := by
    intro _
    rcases h drawdownId with hzero | ⟨hone, d, hd, hstatus⟩
    · exact Or.inl hzero
    · refine Or.inr ⟨hone, ?_⟩
      cases e with
      | none =>
        obtain rfl : w' = s.store := heff
        exact ⟨d, hd, hstatus⟩
      | some event => exact Effect.repaid_stays heff hd hstatus
  cases hrepays : e.any (Event.repays drawdownId) with
  | false => exact hstays hrepays
  | true =>
    cases e with
    | none => cases hrepays
    | some event =>
      cases heff with
      | repaymentRecorded hrepay =>
        obtain rfl : _ = drawdownId := of_decide_eq_true hrepays
        have hfirst := hrepay.first h
        refine Or.inr ⟨?_, _, hrepay.after, rfl⟩
        rw [if_pos rfl]
        omega
      | _ => cases hrepays

/-! ## Runs -/

/-- What a sound step does, apart from being one. -/
structure Sound (s s' : State World Event) : Prop where
  balanced : Balanced s'.store
  once : ∀ drawdownId, repaymentsOf drawdownId s'.hist ≤ 1
  own : ∀ t facilityId drawdownId,
    s'.hist = (t, some (.repaymentRecorded facilityId drawdownId)) :: s.hist →
      RepaysOwn s s' drawdownId

theorem soundStep_iff {cfg : Config} {s s' : Sys World Input Event RisError} :
    SoundStep cfg s s' ↔ Step (program cfg) always s s' ∧ Sound s.toState s'.toState :=
  ⟨fun h => ⟨h.step, h.balanced, h.once, h.own⟩,
    fun ⟨hstep, h⟩ => ⟨hstep, h.balanced, h.once, h.own⟩⟩

/-- A statement that commits nothing, and a return, are sound. -/
theorem RepaidOnce.sound {s s' : State World Event} (h : RepaidOnce s') (hs : Balanced s.store)
    (hstore : s'.store = s.store) (hhist : ∀ t e, s'.hist ≠ (t, some e) :: s.hist) : Sound s s' where
  balanced := hstore ▸ hs
  once := h.le_one
  own t _ _ he := absurd he (hhist t _)

/-- The step lemma: a statement is sound exactly if it meets the condition. -/
theorem Effect.sound_iff {s : State World Event} {t : ℕ} {e : Event} {d : World}
    (heff : Effect s.store e d) (hs : Balanced s.store) (honce : RepaidOnce s) :
    Sound s (s.record t (some e) d) ↔ OwnFacility s t e := by
  constructor
  · intro h
    exact (heff.balanced_iff hs).1 h.balanced
  · intro hown
    have honce' : RepaidOnce (s.record t (some e) d) := honce.step heff
    refine ⟨(heff.balanced_iff hs).2 hown, honce'.le_one, ?_⟩
    intro u f drawdownId he
    rw [State.record_hist, List.cons.injEq, Prod.mk.injEq, Option.some.injEq] at he
    obtain ⟨⟨-, rfl⟩, -⟩ := he
    cases heff with
    | repaymentRecorded hrepay =>
      have hfacility := hown _ rfl _ hrepay.before
      refine ⟨_, hrepay.before, hrepay.status, by rw [State.record_store, hrepay.after]; rfl, ?_⟩
      rw [hfacility]
      exact hrepay.post

/-- **Facility ledger.** From a balanced ledger, the runs whose every step keeps it balanced and
repays each drawdown once, from its own facility, are exactly those in which every repayment names the
facility that its drawdown was drawn from. -/
theorem ledger_balanced_iff (cfg : Config) (w : World) (hw : Balanced w)
    (s : Sys World Input Event RisError) :
    Relation.ReflTransGen (SoundStep cfg) (Sys.init w) s ↔
      Reaches (program cfg) OwnFacility (Sys.init w) s := by
  have hsteps : SoundStep cfg =
      fun s s' => Step (program cfg) always s s' ∧ Sound s.toState s'.toState := by
    funext s s'
    exact propext soundStep_iff
  rw [hsteps]
  refine Protocol.runs_iff (program_implements cfg) trivial
    (P := fun s => Balanced s.store ∧ RepaidOnce s) ⟨hw, fun _ => Or.inl rfl⟩ ?_ ?_ ?_ ?_ s
  · intro s hs
    exact hs.2.sound hs.1 rfl fun t e he => by simp at he
  · intro s t d hs hmove
    have honce : RepaidOnce (s.record t none d) := hs.2.step hmove.effect
    exact honce.sound hs.1 hmove.effect fun u e he => by simp at he
  · intro s t e d hs hmove
    exact Effect.sound_iff hmove.effect hs.1 hs.2
  · intro s t e d hs hmove hsound
    exact ⟨hsound.balanced, hs.2.step hmove.effect⟩

/-! ## Runs on two facilities -/

def sampleFacility (id : ℕ) (drawnAmount : ℤ) : BankFacility where
  id := id
  facilityName := "Facility"
  bankName := "Bank"
  totalLimit := 1000
  drawnAmount := drawnAmount
  annualRate := mkRat (9 + id) 100
  interestRateAnnual := mkRat (9 + id) 100
  maturityDate := 90
  status := .active
  isActive := true

/-- Two facilities of 1000 on which nothing is drawn. -/
def undrawn : World :=
  { World.empty with bankFacilities := ⟨[sampleFacility 1 0, sampleFacility 2 0], by decide⟩ }

/-- The same with a drawdown of 300 on the first and of 200 on the second. -/
def drawn : World :=
  { World.empty with
    bankFacilities := ⟨[sampleFacility 1 300, sampleFacility 2 200], by decide⟩
    facilityDrawdowns :=
      ⟨[CreateDrawdownInput.row ⟨1, 1, 1, 300, 0⟩ 0, CreateDrawdownInput.row ⟨2, 2, 2, 200, 0⟩ 0],
        by decide⟩ }

/-- The tables of migration 006, on which an `INSERT` of a drawdown succeeds. -/
def migration006 : Config := { expectedRepaymentDateRequired := false }

/-- `createDrawdown` and `processRepayment`, each run alone as call `t`. -/
def drawAlone (t facilityId drawdownId : ℕ) (principal : ℤ) : List (Act Op Input) :=
  Act.call (.createDrawdown facilityId drawdownId principal 0 90 (.user 1)) t
    (List.replicate 2 { uuid := drawdownId })

def repayAlone (t facilityId drawdownId : ℕ) : List (Act Op Input) :=
  Act.call (.processRepayment facilityId drawdownId (.user 1)) t (List.replicate 2 { uuid := t })

/-- A run that draws on both facilities and repays the second drawdown where it was drawn. -/
theorem ledger_balanced_of_own_repayment :
    ∃ s : Sys World Input Event RisError,
      (s.store.facilityDrawdowns.get? 2).map FacilityDrawdown.status = some .repaid ∧
        Relation.ReflTransGen (SoundStep migration006) (Sys.init undrawn) s := by
  obtain ⟨s, hs, hP⟩ := exists_reaches (program migration006) OwnFacility (Sys.init undrawn)
    (drawAlone 0 1 1 300 ++ drawAlone 1 2 2 200 ++ repayAlone 2 2 2)
    (fun s => (s.store.facilityDrawdowns.get? 2).map FacilityDrawdown.status = some .repaid)
    (by decide +kernel)
  exact ⟨s, of_decide_eq_true hP, (ledger_balanced_iff migration006 undrawn (by decide) s).2 hs⟩

/-- Repaying the second drawdown against the first facility unbalances the ledger, from a balanced
ledger with both drawdowns and from one on which the run draws them first. -/
theorem repayment_misdirected :
    Balanced drawn ∧ Balanced undrawn ∧
      (∃ s : Sys World Input Event RisError, Reaches (program {}) always (Sys.init drawn) s ∧
        ¬Balanced s.store) ∧
      ∃ s : Sys World Input Event RisError,
        Reaches (program migration006) always (Sys.init undrawn) s ∧ ¬Balanced s.store := by
  obtain ⟨s, hs, hP⟩ := exists_reaches (program {}) always (Sys.init drawn) (repayAlone 0 1 2)
    (fun s => ¬Balanced s.store) (by decide)
  obtain ⟨s', hs', hP'⟩ := exists_reaches (program migration006) always (Sys.init undrawn)
    (drawAlone 0 1 1 300 ++ drawAlone 1 2 2 200 ++ repayAlone 2 1 2) (fun s => ¬Balanced s.store)
    (by decide +kernel)
  exact ⟨by decide, by decide, ⟨s, hs, of_decide_eq_true hP⟩,
    ⟨s', hs', of_decide_eq_true hP'⟩⟩

end Ris.Facilities
