import RisPlatform.Facilities.Accrual

/-!
# Each day's interest once

An accrual run reads the active drawdowns, and later adds to each the interest of the days since the
date it read. The `UPDATE` asks for neither that date nor the status. Each day is charged once, and
nothing after the repayment, exactly along the runs in which every accrual finds the row as it was
read: with that date, and not repaid.

`chargedDays` lists the days a run has charged, day by day; `Sound` ties it to the rows.
-/

namespace Ris.Facilities.Interest

open Relational Concurrent

/-! ## The law -/

/-- The days after `lastAccrued`, up to `today`. -/
def daysAfter (lastAccrued today : ℤ) : List ℤ :=
  (List.range (today - lastAccrued).toNat).map fun n : ℕ => lastAccrued + 1 + (n : ℤ)

/-- The days whose interest was added to the drawdown, the latest accrual first. -/
def chargedDays (drawdownId : ℕ) (h : List (ℕ × Option Event)) : List ℤ :=
  h.flatMap fun x => (x.2.bind Event.accrual?).elim [] fun a =>
    if a.1 = drawdownId then daysAfter a.2.1 a.2.2 else []

/-- The date from which a run from `w₀` charges the drawdown. -/
def startDate (w₀ : World) (d : FacilityDrawdown) : ℤ :=
  (w₀.facilityDrawdowns.get? d.id).elim d.drawdownDate FacilityDrawdown.lastAccruedDate

/-- The accrued interest is the daily interest times the days since the drawdown. -/
def Accrued (w : World) (d : FacilityDrawdown) : Prop :=
  ∀ dailyInterest ∈ dailyInterestOf w d,
    d.accruedInterest = dailyInterest * (d.lastAccruedDate - d.drawdownDate)

/-- The drawdown of the repayment is repaid, and the repayment is of its accrued interest. -/
def Settled (w : World) (r : FacilityRepayment) : Prop :=
  ∃ d, w.facilityDrawdowns.get? r.drawdownId = some d ∧ d.status = .repaid ∧
    r.interest = d.accruedInterest

/-- Interest accrued once a day, in a run from `w₀`. -/
structure InterestLaw (w₀ : World) (s : State World Event) : Prop where
  accrued : ∀ d ∈ s.store.facilityDrawdowns.rows, Accrued s.store d
  once : ∀ d ∈ s.store.facilityDrawdowns.rows, (chargedDays d.id s.hist).Nodup
  complete : ∀ d ∈ s.store.facilityDrawdowns.rows, ∀ day,
    day ∈ chargedDays d.id s.hist ↔ startDate w₀ d < day ∧ day ≤ d.lastAccruedDate
  settled : ∀ r ∈ s.store.facilityRepayments.rows, Settled s.store r

/-- A repaid drawdown does not change any more. -/
def RepaidStays (s s' : State World Event) : Prop :=
  ∀ d ∈ s.store.facilityDrawdowns.rows, d.status = .repaid →
    s'.store.facilityDrawdowns.get? d.id = some d

/-- Every accrual finds the row as it was read: not repaid, and accrued up to the same date. -/
def Unchanged : Cond World Event := fun s _ e =>
  ∀ a ∈ e.accrual?, ∀ d ∈ s.store.facilityDrawdowns.get? a.1,
    d.status ≠ .repaid ∧ d.lastAccruedDate = a.2.1

instance (s : State World Event) (t : ℕ) (e : Event) : Decidable (Unchanged s t e) := by
  unfold Unchanged
  infer_instance

/-! ## Days -/

theorem mem_daysAfter {lastAccrued today day : ℤ} :
    day ∈ daysAfter lastAccrued today ↔ lastAccrued < day ∧ day ≤ today := by
  simp only [daysAfter, List.mem_map, List.mem_range]
  constructor
  · rintro ⟨n, hn, rfl⟩
    omega
  · rintro ⟨hlow, hhigh⟩
    exact ⟨(day - lastAccrued - 1).toNat, by omega, by omega⟩

theorem nodup_daysAfter (lastAccrued today : ℤ) : (daysAfter lastAccrued today).Nodup := by
  refine List.Nodup.map ?_ List.nodup_range
  intro m n hmn
  simp only at hmn
  omega

@[simp] theorem chargedDays_nil (drawdownId : ℕ) : chargedDays drawdownId [] = [] := rfl

theorem chargedDays_accrual (drawdownId t : ℕ) (lastAccrued today : ℤ)
    (h : List (ℕ × Option Event)) :
    chargedDays drawdownId ((t, some (.interestAccrued drawdownId lastAccrued today)) :: h) =
      daysAfter lastAccrued today ++ chargedDays drawdownId h := by
  simp [chargedDays, Event.accrual?]

theorem chargedDays_other {drawdownId t : ℕ} {e : Event} (h : List (ℕ × Option Event))
    (he : ∀ a ∈ e.accrual?, a.1 ≠ drawdownId) :
    chargedDays drawdownId ((t, some e) :: h) = chargedDays drawdownId h := by
  cases hacc : e.accrual? with
  | none => simp [chargedDays, hacc]
  | some a => simp [chargedDays, hacc, he a (by rw [hacc]; rfl)]

/-! ## One row -/

/-- What a sound run says of one drawdown, charged with the days `h`. -/
structure RowLaw (w₀ w : World) (h : List (ℕ × Option Event)) (d : FacilityDrawdown) : Prop where
  accrued : Accrued w d
  once : (chargedDays d.id h).Nodup
  complete : ∀ day, day ∈ chargedDays d.id h ↔ startDate w₀ d < day ∧ day ≤ d.lastAccruedDate
  started : startDate w₀ d ≤ d.lastAccruedDate

/-- Nothing that interest depends on has changed. -/
structure SameInterest (d d' : FacilityDrawdown) : Prop where
  id : d'.id = d.id
  facilityId : d'.facilityId = d.facilityId
  principal : d'.principal = d.principal
  accruedInterest : d'.accruedInterest = d.accruedInterest
  drawdownDate : d'.drawdownDate = d.drawdownDate
  lastAccruedDate : d'.lastAccruedDate = d.lastAccruedDate

theorem SameInterest.refl (d : FacilityDrawdown) : SameInterest d d := ⟨rfl, rfl, rfl, rfl, rfl, rfl⟩

variable {w₀ w w' : World} {h h' : List (ℕ × Option Event)} {d d' : FacilityDrawdown}

theorem RowLaw.same (hd : RowLaw w₀ w h d) (hsame : SameInterest d d') (hrates : SameRates w w')
    (hdays : chargedDays d.id h' = chargedDays d.id h) : RowLaw w₀ w' h' d' := by
  have hstart : startDate w₀ d' = startDate w₀ d := by
    rw [startDate, startDate, hsame.id, hsame.drawdownDate]
  refine ⟨?_, ?_, ?_, ?_⟩
  · intro daily hdaily
    rw [hrates.dailyInterestOf_eq hsame.facilityId hsame.principal] at hdaily
    rw [hsame.accruedInterest, hsame.lastAccruedDate, hsame.drawdownDate]
    exact hd.accrued daily hdaily
  · rw [hsame.id, hdays]
    exact hd.once
  · intro day
    rw [hsame.id, hdays, hstart, hsame.lastAccruedDate]
    exact hd.complete day
  · rw [hstart, hsame.lastAccruedDate]
    exact hd.started

/-- A new drawdown owes no interest yet. -/
theorem RowLaw.fresh (hinterest : d.accruedInterest = 0) (hdate : d.lastAccruedDate = d.drawdownDate)
    (hdays : chargedDays d.id h = []) (hnew : w₀.facilityDrawdowns.get? d.id = none) :
    RowLaw w₀ w h d := by
  have hstart : startDate w₀ d = d.drawdownDate := by
    rw [startDate, hnew]
    rfl
  refine ⟨?_, by rw [hdays]; exact List.nodup_nil, ?_, by rw [hstart, hdate]⟩
  · intro daily _
    rw [hinterest, hdate, sub_self, mul_zero]
  · intro day
    rw [hdays, hstart, hdate]
    simp only [List.not_mem_nil, false_iff]
    omega

/-- An accrual that starts where the row stands. -/
theorem RowLaw.accrue (hd : RowLaw w₀ w h d) {dailyInterest today : ℤ} (t : ℕ)
    (hrates : SameRates w w') (hdaily : dailyInterestOf w d = some dailyInterest)
    (hlt : d.lastAccruedDate < today) :
    RowLaw w₀ w' ((t, some (.interestAccrued d.id d.lastAccruedDate today)) :: h)
      (addInterest (dailyInterest * (today - d.lastAccruedDate)) today d) := by
  have hstarted := hd.started
  refine ⟨?_, ?_, ?_, hstarted.trans hlt.le⟩
  · intro daily hdaily'
    have hsame : dailyInterestOf w' (addInterest (dailyInterest * (today - d.lastAccruedDate)) today d) =
        dailyInterestOf w d := hrates.dailyInterestOf_eq rfl rfl
    rw [hsame, hdaily] at hdaily'
    obtain rfl := Option.some.inj hdaily'
    have haccrued := hd.accrued dailyInterest (by rw [hdaily]; rfl)
    simp only [addInterest]
    rw [haccrued]
    ring
  · simp only [id_addInterest]
    rw [chargedDays_accrual, List.nodup_append]
    refine ⟨nodup_daysAfter _ _, hd.once, ?_⟩
    rintro day hnew _ hold rfl
    have hafter := (mem_daysAfter.1 hnew).1
    have hbefore := ((hd.complete day).1 hold).2
    omega
  · intro day
    simp only [id_addInterest]
    rw [chargedDays_accrual, List.mem_append, mem_daysAfter, hd.complete]
    have hstart : startDate w₀ (addInterest (dailyInterest * (today - d.lastAccruedDate)) today d) =
        startDate w₀ d := rfl
    rw [hstart]
    simp only [addInterest]
    omega

/-- An accrual that does not start where the row stands charges a day twice, or leaves one out. -/
theorem RowLaw.eq_of_accrued (hd : RowLaw w₀ w h d) {t : ℕ} {lastAccrued today : ℤ}
    (hlt : lastAccrued < today)
    (honce : (chargedDays d.id ((t, some (.interestAccrued d.id lastAccrued today)) :: h)).Nodup)
    (hcomplete : ∀ day,
      day ∈ chargedDays d.id ((t, some (.interestAccrued d.id lastAccrued today)) :: h) ↔
        startDate w₀ d < day ∧ day ≤ today) : d.lastAccruedDate = lastAccrued := by
  have hstarted := hd.started
  rw [chargedDays_accrual, List.nodup_append] at honce
  simp only [chargedDays_accrual, List.mem_append, mem_daysAfter, hd.complete] at hcomplete
  rcases lt_trichotomy d.lastAccruedDate lastAccrued with hgap | heq | hover
  · -- the day after the row's date is left out
    have hmissed := (hcomplete (d.lastAccruedDate + 1)).2 (by omega)
    omega
  · exact heq
  · -- the first day of the accrual was charged before
    have hfirst := (hcomplete (lastAccrued + 1)).1 (Or.inl (by omega))
    have hcharged := (hd.complete (lastAccrued + 1)).2 (by omega)
    have hnew : lastAccrued + 1 ∈ daysAfter lastAccrued today := mem_daysAfter.2 (by omega)
    exact absurd rfl (honce.2.2 _ hnew _ hcharged)

/-! ## The invariant -/

/-- The law of every row, with what every run keeps. -/
structure Sound (w₀ : World) (s : State World Event) : Prop where
  rows : ∀ d ∈ s.store.facilityDrawdowns.rows, RowLaw w₀ s.store s.hist d
  settled : ∀ r ∈ s.store.facilityRepayments.rows, Settled s.store r
  /-- Only drawdowns with a row were charged. -/
  known : ∀ drawdownId, s.store.facilityDrawdowns.get? drawdownId = none →
    chargedDays drawdownId s.hist = []
  kept : ∀ drawdownId, s.store.facilityDrawdowns.get? drawdownId = none →
    w₀.facilityDrawdowns.get? drawdownId = none

theorem Sound.law {s : State World Event} (hs : Sound w₀ s) : InterestLaw w₀ s where
  accrued d hd := (hs.rows d hd).accrued
  once d hd := (hs.rows d hd).once
  complete d hd := (hs.rows d hd).complete
  settled := hs.settled

/-- Every drawdown has accrued its days, and every repayment is of a repaid drawdown's interest. -/
structure Consistent (w : World) : Prop where
  accrued : ∀ d ∈ w.facilityDrawdowns.rows, Accrued w d
  settled : ∀ r ∈ w.facilityRepayments.rows, Settled w r

theorem Sound.init (hw : Consistent w₀) : Sound w₀ ⟨w₀, []⟩ where
  rows d hd := by
    have hstart : startDate w₀ d = d.lastAccruedDate := by
      rw [startDate, Table.get?_of_mem hd]
      rfl
    refine ⟨hw.accrued d hd, List.nodup_nil, fun day => ?_, hstart.le⟩
    rw [hstart, chargedDays_nil]
    simp only [List.not_mem_nil, false_iff]
    omega
  settled := hw.settled
  known _ _ := rfl
  kept _ hget := hget

/-- A return changes nothing. -/
theorem Sound.return {s : State World Event} (hs : Sound w₀ s) (t : ℕ) :
    Sound w₀ (s.record t none s.store) where
  rows d hd := (hs.rows d hd).same (.refl d) (fun _ => rfl) rfl
  settled := hs.settled
  known := hs.known
  kept := hs.kept

theorem Settled.same {r : FacilityRepayment} (hr : Settled w r)
    (hrows : ∀ d, w.facilityDrawdowns.get? r.drawdownId = some d → d.status = .repaid →
      w'.facilityDrawdowns.get? r.drawdownId = some d) : Settled w' r := by
  obtain ⟨d, hd, hstatus, hinterest⟩ := hr
  exact ⟨d, hrows d hd hstatus, hstatus, hinterest⟩

/-- The repaid drawdowns of one state are those of the next. -/
theorem Effect.repaidStays {s : State World Event} {t : ℕ} {e : Event} (heff : Effect s.store e w')
    (hcond : Unchanged s t e) : RepaidStays s (s.record t (some e) w') := by
  intro d hd hstatus
  have hget := Table.get?_of_mem hd
  cases heff with
  | other _ _ hdrawdowns =>
    rw [State.record_store, hdrawdowns]
    exact hget
  | drawdownCreated _ _ _ _ hinsert =>
    exact Table.get?_insert?_of_get? hinsert hget
  | @repaymentRecorded _ d₀ _ _ _ hbefore hunpaid hdrawdowns =>
    rw [State.record_store, hdrawdowns, Table.get?_update_of_get? hget, if_neg]
    intro hid
    rw [of_decide_eq_true hid, hbefore, Option.some.injEq] at hget
    exact hunpaid (hget ▸ hstatus)
  | @interestAccrued _ d₀ _ _ _ _ hbefore _ _ hdrawdowns =>
    rw [State.record_store, hdrawdowns, Table.get?_update_of_get? hget, if_neg]
    intro hid
    rw [of_decide_eq_true hid, hbefore, Option.some.injEq] at hget
    exact (hcond _ rfl d₀ hbefore).1 (hget ▸ hstatus)

/-- Only an event on a drawdown charges days. -/
theorem Event.accrual?_of_drawdown? {e : Event} (he : e.drawdown? = none) : e.accrual? = none := by
  cases e <;> simp_all [Event.accrual?, Event.drawdown?]

/-- A row that is gone after a step was not there before it. -/
theorem Effect.gone {w : World} {e : Event} (heff : Effect w e w') {drawdownId : ℕ}
    (hget : w'.facilityDrawdowns.get? drawdownId = none) :
    w.facilityDrawdowns.get? drawdownId = none := by
  cases hbefore : w.facilityDrawdowns.get? drawdownId with
  | none => rfl
  | some d =>
    obtain ⟨d', hd', -⟩ := heff.row_stays hbefore
    rw [hget] at hd'
    cases hd'

section Step

variable {s : State World Event} {t : ℕ} {e : Event}

/-- A step charges no drawdown without a row. -/
theorem Effect.chargedDays_unknown (heff : Effect s.store e w') {drawdownId : ℕ}
    (hget : s.store.facilityDrawdowns.get? drawdownId = none) :
    chargedDays drawdownId ((t, some e) :: s.hist) = chargedDays drawdownId s.hist := by
  refine chargedDays_other _ fun a ha => ?_
  cases heff with
  | other he => simp [Event.accrual?_of_drawdown? he] at ha
  | drawdownCreated => cases ha
  | repaymentRecorded => cases ha
  | interestAccrued _ _ _ hbefore =>
    obtain rfl := Option.some.inj ha
    rintro rfl
    rw [hget] at hbefore
    cases hbefore

/-- A step that meets the condition leaves the law of every row. -/
theorem Effect.rowLaw (heff : Effect s.store e w') (hs : Sound w₀ s) (hcond : Unchanged s t e) :
    ∀ d ∈ w'.facilityDrawdowns.rows, RowLaw w₀ w' ((t, some e) :: s.hist) d := by
  intro d' hd'
  cases heff with
  | other he hrates hdrawdowns =>
    rw [hdrawdowns] at hd'
    refine (hs.rows d' hd').same (.refl d') hrates (chargedDays_other _ fun a ha => ?_)
    simp [Event.accrual?_of_drawdown? he] at ha
  | @drawdownCreated _ d₀ facilityId hrates hinterest hdate hinsert =>
    have hdays : chargedDays d'.id ((t, some (.drawdownCreated facilityId d₀.id)) :: s.hist) =
        chargedDays d'.id s.hist := chargedDays_other _ (by simp [Event.accrual?])
    have hfresh := Table.get?_insert?_fresh hinsert
    rcases (Table.mem_insert? hinsert).1 hd' with hold | rfl
    · exact (hs.rows d' hold).same (.refl d') hrates hdays
    · exact .fresh hinterest hdate (hdays.trans (hs.known d'.id hfresh)) (hs.kept d'.id hfresh)
  | @repaymentRecorded _ d₀ repayment facilityId hrates hbefore hunpaid hdrawdowns =>
    rw [hdrawdowns] at hd'
    obtain ⟨d, hd, rfl⟩ := Table.mem_update.1 hd'
    refine (hs.rows d hd).same ?_ hrates (chargedDays_other _ (by simp [Event.accrual?]))
    split
    · exact ⟨rfl, rfl, rfl, rfl, rfl, rfl⟩
    · exact .refl d
  | @interestAccrued _ d₀ dailyInterest lastAccrued today hrates hbefore hdaily hlt hdrawdowns =>
    obtain ⟨-, rfl⟩ := hcond _ rfl d₀ hbefore
    rw [hdrawdowns] at hd'
    obtain ⟨d, hd, rfl⟩ := Table.mem_update.1 hd'
    by_cases hid : d.id = d₀.id
    · obtain rfl : d = d₀ := Table.eq_of_mem hd (Table.mem_of_get? hbefore) hid
      rw [if_pos (by simp)]
      exact (hs.rows d hd).accrue t hrates hdaily hlt
    · rw [if_neg (by simpa using hid)]
      refine (hs.rows d hd).same (.refl d) hrates (chargedDays_other _ fun a ha => ?_)
      obtain rfl := Option.some.inj ha
      exact Ne.symm hid

/-- A step that meets the condition leaves every repayment settled. -/
theorem Effect.settled (heff : Effect s.store e w') (hs : Sound w₀ s) (hcond : Unchanged s t e) :
    ∀ r ∈ w'.facilityRepayments.rows, Settled w' r := by
  have hstays := heff.repaidStays hcond
  have hold : ∀ r ∈ s.store.facilityRepayments.rows, Settled w' r := by
    intro r hr
    refine (hs.settled r hr).same fun d hd hstatus => ?_
    have hid : d.id = r.drawdownId := Table.key_of_get? hd
    exact hid ▸ hstays d (Table.mem_of_get? hd) hstatus
  intro r hr
  cases heff with
  | other _ _ _ hrepayments | drawdownCreated _ _ _ _ _ hrepayments
  | interestAccrued _ _ _ _ _ _ _ hrepayments =>
    rw [hrepayments] at hr
    exact hold r hr
  | @repaymentRecorded _ d₀ repayment _ _ hbefore _ hdrawdowns hdrawdown hinterest hinsert =>
    rcases (Table.mem_insert? hinsert).1 hr with hbefore' | rfl
    · exact hold r hbefore'
    · refine ⟨setDrawdownStatus .repaid d₀, ?_, rfl, hinterest⟩
      rw [hdrawdown, hdrawdowns, Table.get?_update_of_get? hbefore]
      simp

/-- The step lemma: a step that meets the condition keeps the law of every row. -/
theorem Sound.step (hs : Sound w₀ s) (heff : Effect s.store e w') (hcond : Unchanged s t e) :
    Sound w₀ (s.record t (some e) w') where
  rows := heff.rowLaw hs hcond
  settled := heff.settled hs hcond
  known drawdownId hget := by
    rw [State.record_hist, heff.chargedDays_unknown (heff.gone hget)]
    exact hs.known drawdownId (heff.gone hget)
  kept drawdownId hget := hs.kept drawdownId (heff.gone hget)

end Step

/-- The converse of the step lemma: a step that keeps the law meets the condition. -/
theorem Sound.unchanged {s : State World Event} {t : ℕ} {e : Event} (hs : Sound w₀ s)
    (heff : Effect s.store e w') (hlaw : InterestLaw w₀ (s.record t (some e) w'))
    (hstays : RepaidStays s (s.record t (some e) w')) : Unchanged s t e := by
  intro a ha d hd
  cases heff with
  | other he => simp [Event.accrual?_of_drawdown? he] at ha
  | drawdownCreated => cases ha
  | repaymentRecorded => cases ha
  | @interestAccrued _ d₀ dailyInterest lastAccrued today _ hbefore _ hlt hdrawdowns =>
    obtain rfl := Option.some.inj ha
    rw [hbefore] at hd
    obtain rfl := Option.some.inj hd
    have hafter : w'.facilityDrawdowns.get? d₀.id =
        some (addInterest (dailyInterest * (today - lastAccrued)) today d₀) := by
      rw [hdrawdowns, Table.get?_update_of_get? hbefore]
      simp
    have hmem := Table.mem_of_get? hafter
    have hmem₀ := Table.mem_of_get? hbefore
    have honce := hlaw.once _ hmem
    have hcomplete := hlaw.complete _ hmem
    have hlast : d₀.lastAccruedDate = lastAccrued :=
      (hs.rows d₀ hmem₀).eq_of_accrued hlt honce hcomplete
    refine ⟨fun hstatus => ?_, hlast⟩
    have hsame := hstays d₀ hmem₀ hstatus
    rw [State.record_store, hafter, Option.some.injEq] at hsame
    have hdate := congrArg FacilityDrawdown.lastAccruedDate hsame
    simp only [addInterest] at hdate
    omega

/-! ## Runs -/

/-- **Interest once a day.** From consistent facility tables, the runs along which every drawdown is
charged each day once, at its daily interest, and no longer once it is repaid, are exactly those in
which every accrual finds the row as it was read. -/
theorem interest_once_iff (cfg : Config) (w : World) (hw : Consistent w)
    (s : Sys World Input Event RisError) :
    Relation.ReflTransGen
      (fun s s' => Step (program cfg) always s s' ∧ InterestLaw w s'.toState ∧
        RepaidStays s.toState s'.toState)
      (Sys.init w) s ↔ Reaches (program cfg) Unchanged (Sys.init w) s := by
  refine Protocol.runs_iff (program_implements w cfg) (fun _ => rfl) (P := Sound w)
    (R := fun s s' => InterestLaw w s' ∧ RepaidStays s s') (.init hw) ?_ ?_ ?_ ?_ s
  · exact fun s hs => ⟨hs.law, fun d hd _ => Table.get?_of_mem hd⟩
  · intro s t d hs hmove
    obtain rfl : d = s.store := hmove.effect
    exact ⟨(hs.return t).law, fun d hd _ => Table.get?_of_mem hd⟩
  · intro s t e d hs hmove
    constructor
    · rintro ⟨hlaw, hstays⟩
      exact hs.unchanged hmove.effect hlaw hstays
    · intro hcond
      exact ⟨(hs.step hmove.effect hcond).law, Effect.repaidStays hmove.effect hcond⟩
  · rintro s t e d hs hmove ⟨hlaw, hstays⟩
    cases e with
    | some e => exact hs.step hmove.effect (hs.unchanged hmove.effect hlaw hstays)
    | none =>
      obtain rfl : d = s.store := hmove.effect
      exact hs.return t

/-! ## Runs on one drawdown -/

instance (w : World) (d : FacilityDrawdown) : Decidable (Accrued w d) := by
  unfold Accrued
  infer_instance

instance (w : World) (r : FacilityRepayment) : Decidable (Settled w r) :=
  inferInstanceAs (Decidable (∃ d ∈ w.facilityDrawdowns.get? r.drawdownId, _ ∧ _))

instance (w : World) : Decidable (Consistent w) :=
  decidable_of_iff
    ((∀ d ∈ w.facilityDrawdowns.rows, Accrued w d) ∧ ∀ r ∈ w.facilityRepayments.rows, Settled w r)
    ⟨fun h => ⟨h.1, h.2⟩, fun h => ⟨h.accrued, h.settled⟩⟩

/-- A drawdown of 365,000 at 10%, drawn on day 0: 100 a day. -/
def drawnOnce : World :=
  { World.empty with
    bankFacilities :=
      ⟨[{ id := 1, facilityName := "Facility", bankName := "Bank", totalLimit := 1000000
          drawnAmount := 365000, annualRate := mkRat 1 10, interestRateAnnual := mkRat 1 10
          maturityDate := 90, status := .active, isActive := true }], by decide⟩
    facilityDrawdowns := ⟨[CreateDrawdownInput.row ⟨1, 1, 1, 365000, 0⟩ 0], by decide⟩ }

/-- An accrual run up to day `today`, run alone as call `t`. -/
def accrueAlone (t : ℕ) (today : ℤ) : List (Act Op Input) :=
  Act.call (.accrueInterest today) t (List.replicate 4 {})

/-- Accrued to day 3, to day 5 after a missed run, and repaid; the last run finds nothing active. -/
theorem interest_once_of_daily_runs :
    ∃ s : Sys World Input Event RisError,
      s.store.facilityRepayments.rows.map FacilityRepayment.interest = [500] ∧
        Relation.ReflTransGen
          (fun s s' => Step (program {}) always s s' ∧ InterestLaw drawnOnce s'.toState ∧
            RepaidStays s.toState s'.toState)
          (Sys.init drawnOnce) s := by
  obtain ⟨s, hs, hP⟩ := exists_reaches (program {}) Unchanged (Sys.init drawnOnce)
    (accrueAlone 0 3 ++ accrueAlone 1 5 ++
      Act.call (.processRepayment 1 1 (.user 1)) 2 [{ uuid := 1 }, { uuid := 2 }] ++
      Act.call (.accrueInterest 9) 3 [{ now := 9 }])
    (fun s => s.store.facilityRepayments.rows.map FacilityRepayment.interest = [500])
    (by decide +kernel)
  exact ⟨s, of_decide_eq_true hP, (interest_once_iff {} drawnOnce (by decide +kernel) s).2 hs⟩

/-- Two runs for day 5 that read the drawdown before either has updated it charge ten days' interest;
and a run that read it before its repayment charges it afterwards. -/
theorem interest_charged_twice :
    Consistent drawnOnce ∧
      (∃ s : Sys World Input Event RisError,
        Reaches (program {}) always (Sys.init drawnOnce) s ∧ ¬InterestLaw drawnOnce s.toState ∧
          s.store.facilityDrawdowns.rows.map FacilityDrawdown.accruedInterest = [1000]) ∧
      ∃ s : Sys World Input Event RisError,
        Reaches (program {}) always (Sys.init drawnOnce) s ∧ ¬InterestLaw drawnOnce s.toState ∧
          s.store.facilityDrawdowns.rows.map FacilityDrawdown.accruedInterest = [500] ∧
          s.store.facilityRepayments.rows.map FacilityRepayment.interest = [0] := by
  obtain ⟨s, hs, hP⟩ := exists_reaches (program {}) always (Sys.init drawnOnce)
    ([.start (.accrueInterest 5), .start (.accrueInterest 5), .move 0 {}, .move 1 {}] ++
      List.replicate 3 (.move 0 {}) ++ List.replicate 3 (.move 1 {}))
    (fun s => ¬Consistent s.store ∧
      s.store.facilityDrawdowns.rows.map FacilityDrawdown.accruedInterest = [1000])
    (by decide +kernel)
  obtain ⟨s', hs', hP'⟩ := exists_reaches (program {}) always (Sys.init drawnOnce)
    ([.start (.accrueInterest 5), .move 0 {}, .start (.processRepayment 1 1 (.user 1)), .move 1 {}] ++
      List.replicate 3 (.move 0 {}))
    (fun s => ¬Consistent s.store ∧
      s.store.facilityDrawdowns.rows.map FacilityDrawdown.accruedInterest = [500] ∧
      s.store.facilityRepayments.rows.map FacilityRepayment.interest = [0])
    (by decide +kernel)
  obtain ⟨hbad, htwice⟩ := of_decide_eq_true hP
  obtain ⟨hbad', hafter⟩ := of_decide_eq_true hP'
  exact ⟨by decide +kernel,
    ⟨s, hs, fun hlaw => hbad ⟨hlaw.accrued, hlaw.settled⟩, htwice⟩,
    ⟨s', hs', fun hlaw => hbad' ⟨hlaw.accrued, hlaw.settled⟩, hafter⟩⟩

end Ris.Facilities.Interest
