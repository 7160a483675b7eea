import RisPlatform.Alone
import RisPlatform.Facilities.Interest

/-!
# Catching up on interest

A run of `accrueInterest` adds one day's interest to each active drawdown for every day since the date in
its row, with one `UPDATE` a day, and writes that day. So a run makes up for the runs before it, whether
they were made, failed on the way or were left out: what it leaves depends on its own date alone.
-/

namespace Ris.Facilities.Interest

open Relational Concurrent

/-! ## The loop over the days -/

/-- The loop of `accrueEachDay`, between instants in milliseconds; `none` if it is still running after
`fuel` turns. -/
def dayLoop (drawdownId : ℕ) (dailyInterest today : ℤ) : ℕ → ℤ → Option (Tx Unit)
  | 0, _ => none
  | fuel + 1, cursor =>
    if cursor < today then do
      -- `setDate(getDate() + 1)`: the process runs in UTC, so that local days are those of the date text
      let cursor := cursor + dayMs
      let rest ← dayLoop drawdownId dailyInterest today fuel cursor
      return do
        accrueDailyInterestWithClient drawdownId dailyInterest (cursor / dayMs)
        rest
    else some (pure ())

/-- The loop ends after the days between the two dates, none if the second is not later, and has charged
each of them; by induction on their number. -/
theorem dayLoop_eq (drawdownId : ℕ) (dailyInterest : ℤ) {lastAccrued today : ℤ} {days fuel : ℕ}
    (hdays : (today - lastAccrued).toNat = days) (hfuel : days < fuel) :
    dayLoop drawdownId dailyInterest (today * dayMs) fuel (lastAccrued * dayMs) =
      some (accrueEachDay drawdownId dailyInterest lastAccrued days) := by
  induction days generalizing lastAccrued fuel with
  | zero =>
    obtain ⟨fuel, rfl⟩ : ∃ n, fuel = n + 1 := Nat.exists_eq_succ_of_ne_zero (by omega)
    have hover : ¬lastAccrued * dayMs < today * dayMs := by
      unfold dayMs
      omega
    rw [dayLoop, if_neg hover, accrueEachDay]
  | succ days ih =>
    obtain ⟨fuel, rfl⟩ : ∃ n, fuel = n + 1 := Nat.exists_eq_succ_of_ne_zero (by omega)
    have hgoes : lastAccrued * dayMs < today * dayMs := by
      unfold dayMs
      omega
    have hnext : lastAccrued * dayMs + dayMs = (lastAccrued + 1) * dayMs := by ring
    have hdate : (lastAccrued + 1) * dayMs / dayMs = lastAccrued + 1 :=
      Int.mul_ediv_cancel _ (by decide)
    have hrest : dayLoop drawdownId dailyInterest (today * dayMs) fuel ((lastAccrued + 1) * dayMs) =
        some (accrueEachDay drawdownId dailyInterest (lastAccrued + 1) days) := ih (by omega) (by omega)
    rw [dayLoop, if_pos hgoes]
    simp only [hnext, hrest, hdate]
    rfl

/-! ## One row -/

/-- The drawdown after a run on that day: an active one has the interest of the days since the last one. -/
def accruedTo (w : World) (today : ℤ) (r : FacilityDrawdown) : FacilityDrawdown :=
  match dailyInterestOf w r with
  | none => r
  | some dailyInterest =>
    if r.status = .active ∧ r.lastAccruedDate < today then
      addInterest (dailyInterest * (today - r.lastAccruedDate)) today r
    else r

section Row

variable {w w' : World} {today d₁ d₂ : ℤ} {r : FacilityDrawdown}

theorem accruedTo_of_none (h : dailyInterestOf w r = none) : accruedTo w today r = r := by
  rw [accruedTo, h]

theorem accruedTo_of_not (h : ¬(r.status = .active ∧ r.lastAccruedDate < today)) :
    accruedTo w today r = r := by
  unfold accruedTo
  split
  · rfl
  · rw [if_neg h]

theorem accruedTo_of_lt {dailyInterest : ℤ} (hdaily : dailyInterestOf w r = some dailyInterest)
    (hactive : r.status = .active) (hlt : r.lastAccruedDate < today) :
    accruedTo w today r = addInterest (dailyInterest * (today - r.lastAccruedDate)) today r := by
  rw [accruedTo, hdaily]
  exact if_pos ⟨hactive, hlt⟩

theorem id_accruedTo (w : World) (today : ℤ) (r : FacilityDrawdown) :
    (accruedTo w today r).id = r.id := by
  unfold accruedTo
  split
  · rfl
  · split <;> rfl

/-- An earlier run changes nothing about a later one. -/
theorem accruedTo_accruedTo (h : d₁ ≤ d₂) : accruedTo w d₂ (accruedTo w d₁ r) = accruedTo w d₂ r := by
  cases hdaily : dailyInterestOf w r with
  | none =>
    have hsame : accruedTo w d₁ r = r := accruedTo_of_none hdaily
    rw [hsame]
  | some dailyInterest =>
    by_cases hfirst : r.status = .active ∧ r.lastAccruedDate < d₁
    · obtain ⟨hactive, hlt⟩ := hfirst
      rw [accruedTo_of_lt hdaily hactive hlt, accruedTo_of_lt hdaily hactive (by omega)]
      rcases h.lt_or_eq with hlater | rfl
      · rw [accruedTo_of_lt (r := addInterest (dailyInterest * (d₁ - r.lastAccruedDate)) d₁ r) hdaily hactive
          hlater]
        simp only [addInterest]
        congr 1
        ring
      · exact accruedTo_of_not fun hagain => lt_irrefl d₁ hagain.2
    · rw [accruedTo_of_not hfirst]

/-- The interest depends on the facilities alone. -/
theorem accruedTo_congr (h : w'.bankFacilities = w.bankFacilities) :
    accruedTo w' today = accruedTo w today := by
  funext r
  rw [accruedTo, accruedTo, dailyInterestOf, dailyInterestOf, rateOf, rateOf, h]

end Row

/-! ## One drawdown -/

/-- The drawdown's row is what a run on that day makes of it; the facilities are the same. -/
structure Turned (w : World) (today : ℤ) (r : FacilityDrawdown) (v v' : World) : Prop where
  facilities : v'.bankFacilities = v.bankFacilities
  drawdowns : v'.facilityDrawdowns =
    v.facilityDrawdowns.update (fun x => x.id = r.id) (accruedTo w today) (id_accruedTo w today)

section Drawdown

variable {w v v' : World} {i : Input} {today : ℤ} {r : FacilityDrawdown} {E : RisError → World → Prop}

/-- An update of the row that was read, by any function that does the same to it. -/
theorem update_accruedTo {f : FacilityDrawdown → FacilityDrawdown} (hf : ∀ x, (f x).id = x.id)
    (hr : v.facilityDrawdowns.get? r.id = some r) (h : f r = accruedTo w today r) :
    v.facilityDrawdowns.update (fun x => x.id = r.id) f hf =
      v.facilityDrawdowns.update (fun x => x.id = r.id) (accruedTo w today) (id_accruedTo w today) := by
  refine Table.update_congr _ _ fun x hx hid => ?_
  obtain rfl : x = r := Table.eq_of_mem hx (Table.mem_of_get? hr) (of_decide_eq_true hid)
  exact h

/-- A drawdown that is left alone. -/
theorem Turned.same (hr : v.facilityDrawdowns.get? r.id = some r) (h : accruedTo w today r = r) :
    Turned w today r v v where
  facilities := rfl
  drawdowns := by
    have hid := Table.update_id v.facilityDrawdowns fun x => decide (x.id = r.id)
    rw [← update_accruedTo (f := fun x => x) (fun _ => rfl) hr h.symm, hid]

theorem accrueEachDay_commits (drawdownId : ℕ) (dailyInterest lastAccrued : ℤ) (days : ℕ) (i : Input)
    (v : World) : ∃ d, accrueEachDay drawdownId dailyInterest lastAccrued days i v = .ok ((), d) := by
  induction days generalizing lastAccrued v with
  | zero => exact ⟨v, rfl⟩
  | succ days ih =>
    obtain ⟨d, hd⟩ := ih (lastAccrued + 1)
      { v with
        facilityDrawdowns := v.facilityDrawdowns.update (fun d => d.id = drawdownId)
          (addInterest dailyInterest (lastAccrued + 1)) (id_addInterest dailyInterest (lastAccrued + 1)) }
    exact ⟨d, Txn.bind_ok.2 ⟨(), _, rfl, hd⟩⟩

/-- The body of the transaction of `applyAccrualTxn`. -/
def accrualBody (r : FacilityDrawdown) (dailyInterest today : ℤ) : Tx Unit := do
  accrueEachDay r.id dailyInterest r.lastAccruedDate (today - r.lastAccruedDate).toNat
  createAuditEntry none "INTEREST_ACCRUED" "facility_drawdowns" r.id
    [("facilityId", .id r.facilityId), ("dailyInterest", .int dailyInterest), ("accrualDate", .int today)]

theorem accrualBody_commits (r : FacilityDrawdown) (dailyInterest today : ℤ) (i : Input) (v : World) :
    ∃ d, accrualBody r dailyInterest today i v = .ok ((), d) := by
  obtain ⟨d, hd⟩ := accrueEachDay_commits r.id dailyInterest r.lastAccruedDate
    (today - r.lastAccruedDate).toNat i v
  exact ⟨_, Txn.bind_ok.2 ⟨(), d, hd, rfl⟩⟩

/-- What the transaction commits. -/
theorem accrualBody_turned {dailyInterest : ℤ} {u : Unit}
    (h : accrualBody r dailyInterest today i v = .ok (u, v'))
    (hr : v.facilityDrawdowns.get? r.id = some r) (hdaily : dailyInterestOf w r = some dailyInterest)
    (hactive : r.status = .active) (hlt : r.lastAccruedDate < today) : Turned w today r v v' := by
  simp only [accrualBody, createAuditEntry, Txn.bind_ok, Txn.liftM_ok, Ris.createAuditEntry_ok] at h
  obtain ⟨_, v₁, hdays, _, _, ⟨-, rfl⟩, rfl⟩ := h
  have hv₁ := accrueEachDay_eq hdays
  obtain ⟨n, hn⟩ : ∃ n : ℕ, (today - r.lastAccruedDate).toNat = n + 1 :=
    Nat.exists_eq_succ_of_ne_zero (by omega)
  have hcast : (n : ℤ) + 1 = today - r.lastAccruedDate := by omega
  have hdate : r.lastAccruedDate + (today - r.lastAccruedDate) = today := by omega
  rw [hn] at hv₁
  refine ⟨by rw [hv₁], ?_⟩
  rw [← update_accruedTo (id_accruedDays dailyInterest r.lastAccruedDate (n + 1)) hr ?_, hv₁]
  rw [accruedDays_succ, accruedTo_of_lt hdaily hactive hlt, hcast, hdate]

/-- The turn of a drawdown makes of its row what a run does, or leaves the store where a statement
fails. -/
theorem ends_accrueForDrawdown {good : Input → Prop} {Q : World → Prop}
    (hv : v.bankFacilities = w.bankFacilities) (hr : v.facilityDrawdowns.get? r.id = some r)
    (hactive : r.status = .active) (hturned : ∀ v', Turned w today r v v' → Q v')
    (hfault : ∀ i, good i → ¬Healthy i → Q v ∧ ∀ e, E e v) :
    (accrueForDrawdown today r).Ends good (fun _ => Q) E v := by
  have hthrows : ∀ i, good i → ¬Healthy i → ∀ e, E e v := fun i hi hn => (hfault i hi hn).2
  unfold accrueForDrawdown
  split
  · rename_i hover
    have hsame : accruedTo w today r = r := accruedTo_of_not fun h => absurd h.2 (not_lt.2 hover)
    exact Proc.ends_pure (hturned v (.same hr hsame))
  · rename_i hlater
    refine ends_query_bind_of ?_ hthrows
    cases hfacility : getFacilityById r.facilityId v with
    | none =>
      have hnone : v.bankFacilities.get? r.facilityId = none := hfacility
      have hdaily : dailyInterestOf w r = none := by
        rw [dailyInterestOf, rateOf, ← hv, hnone]
        rfl
      exact Proc.ends_pure (hturned v (.same hr (accruedTo_of_none hdaily)))
    | some facility =>
      have hsome : v.bankFacilities.get? r.facilityId = some facility := hfacility
      have hdaily : dailyInterestOf w r =
          some (calculateDailyInterest r.principal facility.annualRate) := by
        rw [dailyInterestOf, rateOf, ← hv, hsome]
        rfl
      dsimp only
      unfold applyAccrualTxn
      refine ends_query_bind_of ?_ hthrows
      -- a failure of the transaction is caught and logged
      refine Proc.Ends.tryCatch (R := fun _ d => d = v ∧ Q v ∧ ∀ e, E e v)
        (ends_connected (fun i _ => ?_) fun i hi hn _ => ⟨rfl, hfault i hi hn⟩) ?_
      · obtain ⟨d, hd⟩ := accrualBody_commits r
          (calculateDailyInterest r.principal facility.annualRate) today i v
        exact ⟨(), d, hd, hturned d (accrualBody_turned hd hr hdaily hactive (not_le.1 hlater))⟩
      · rintro e _ ⟨rfl, hleft, herr⟩
        exact ends_any_log hleft herr

end Drawdown

/-! ## Runs -/

/-- A run that began at `w` and still has the drawdowns of `todo` before it: their rows are those of `w`,
and the others are as `S` says of a turn. -/
structure Progress (w : World) (S : FacilityDrawdown → FacilityDrawdown → Prop)
    (todo : List FacilityDrawdown) (v : World) : Prop where
  facilities : v.bankFacilities = w.bankFacilities
  drawdowns : w.facilityDrawdowns.Rowwise
    (fun r r' => r'.id = r.id ∧ if r ∈ todo then r' = r else S r r') v.facilityDrawdowns

section Runs

variable {w v v' : World} {today : ℤ} {r : FacilityDrawdown} {todo : List FacilityDrawdown}
  {S : FacilityDrawdown → FacilityDrawdown → Prop} {good : Input → Prop} {E : RisError → World → Prop}

theorem Progress.get? (h : Progress w S todo v) (hr : r ∈ w.facilityDrawdowns.rows) (htodo : r ∈ todo) :
    v.facilityDrawdowns.get? r.id = some r := by
  obtain ⟨r', hr', -, hsame⟩ := h.drawdowns.exists_of_mem_left hr
  rw [if_pos htodo] at hsame
  subst hsame
  exact Table.get?_of_mem hr'

/-- A turn takes one drawdown off the list. -/
theorem Progress.turned (h : Progress w S (r :: todo) v) (hr : r ∈ w.facilityDrawdowns.rows)
    (hnot : r ∉ todo) (hS : S r (accruedTo w today r)) (hturned : Turned w today r v v') :
    Progress w S todo v' := by
  refine ⟨hturned.facilities.trans h.facilities, ?_⟩
  rw [hturned.drawdowns]
  have hupdate : v.facilityDrawdowns.Rowwise
      (fun x x' => (x.id = r.id → x' = accruedTo w today x) ∧ (x.id ≠ r.id → x' = x))
      (v.facilityDrawdowns.update (fun x => x.id = r.id) (accruedTo w today) (id_accruedTo w today)) :=
    Table.rowwise_update (fun x _ hx => ⟨fun _ => rfl, fun hne => absurd (of_decide_eq_true hx) hne⟩)
      fun x _ hx => ⟨fun hid => absurd hid (of_decide_eq_false hx), fun _ => rfl⟩
  refine h.drawdowns.with_mem.trans hupdate ?_
  rintro a b c ⟨ha, hid, hab⟩ ⟨hsame, hother⟩
  by_cases har : a = r
  · subst har
    rw [if_pos List.mem_cons_self] at hab
    subst hab
    rw [hsame rfl, if_neg hnot]
    exact ⟨id_accruedTo w today b, hS⟩
  · have hne : b.id ≠ r.id := fun hbr => har (Table.eq_of_mem ha hr (hid.symm.trans hbr))
    have hmem : a ∈ r :: todo ↔ a ∈ todo := by simp [har]
    rw [hother hne]
    simp only [hmem] at hab
    exact ⟨hid, hab⟩

/-- Drawdowns may be taken off the list without a turn, if `S` allows a row to stay. -/
theorem Progress.mono {todo' : List FacilityDrawdown} (h : Progress w S todo v) (hS : ∀ r, S r r)
    (hsub : todo' ⊆ todo) : Progress w S todo' v := by
  refine ⟨h.facilities, h.drawdowns.trans (.refl (R := Eq) (fun _ => rfl) _) ?_⟩
  rintro a b _ ⟨hid, hab⟩ rfl
  refine ⟨hid, ?_⟩
  by_cases hmem : a ∈ todo'
  · rw [if_pos (hsub hmem)] at hab
    rwa [if_pos hmem]
  · rw [if_neg hmem]
    split at hab
    · exact hab ▸ hS a
    · exact hab

/-- The run lemma: by induction on the drawdowns that are left. -/
theorem ends_accrueAll (hactive : ∀ r ∈ todo, r ∈ w.facilityDrawdowns.rows ∧ r.status = .active)
    (hnodup : todo.Nodup) (hv : Progress w S todo v) (hS : ∀ r, S r (accruedTo w today r))
    (hfault : ∀ i, good i → ¬Healthy i → (∀ r, S r r) ∧ ∀ v, Progress w S [] v → ∀ e, E e v) :
    (todo.forM (accrueForDrawdown today)).Ends good (fun _ => Progress w S []) E v := by
  induction todo generalizing v with
  | nil => exact Proc.ends_pure hv
  | cons r todo ih =>
    obtain ⟨hr, hstatus⟩ := hactive r List.mem_cons_self
    obtain ⟨hnot, hrest⟩ := List.nodup_cons.1 hnodup
    have hactive' : ∀ x ∈ todo, x ∈ w.facilityDrawdowns.rows ∧ x.status = .active :=
      fun x hx => hactive x (List.mem_cons_of_mem r hx)
    refine Proc.Ends.bind (R := fun _ => Progress w S todo)
      (ends_accrueForDrawdown hv.facilities (hv.get? hr List.mem_cons_self) hstatus
        (fun v' => hv.turned hr hnot (hS r)) fun i hi hn => ?_) fun _ d hd => ih hactive' hrest hd
    obtain ⟨hstay, hthrows⟩ := hfault i hi hn
    exact ⟨hv.mono hstay (List.subset_cons_self r todo),
      hthrows v (hv.mono hstay (List.nil_subset _))⟩

/-- The run, from its first query. -/
theorem ends_accrueInterest (hS : ∀ r, S r (accruedTo w today r))
    (hidle : ∀ r, r.status ≠ .active → S r r)
    (hfault : ∀ i, good i → ¬Healthy i → (∀ r, S r r) ∧ ∀ v, Progress w S [] v → ∀ e, E e v) :
    (accrueInterest today).Ends good (fun _ => Progress w S []) E w := by
  have hrows : (getActiveDrawdowns w).Nodup :=
    (List.Nodup.of_map FacilityDrawdown.id w.facilityDrawdowns.keys_nodup).filter _
  have hstart : Progress w S (getActiveDrawdowns w) w := by
    refine ⟨rfl, List.forall₂_same.2 fun r hr => ⟨rfl, ?_⟩⟩
    split
    · rfl
    · rename_i hnot
      refine hidle r fun hactive => hnot (List.mem_filter.2 ⟨hr, decide_eq_true hactive⟩)
  unfold accrueInterest
  refine ends_query_bind_of (ends_accrueAll (fun r hr => ?_) hrows hstart hS hfault) fun i hi hn => ?_
  · obtain ⟨hmem, hactive⟩ := List.mem_filter.1 hr
    exact ⟨hmem, of_decide_eq_true hactive⟩
  · obtain ⟨hstay, hthrows⟩ := hfault i hi hn
    exact hthrows w (hstart.mono hstay (List.nil_subset _))

/-- What a run has done at its end. -/
theorem Progress.rows (h : Progress w S [] v) :
    List.Forall₂ S w.facilityDrawdowns.rows v.facilityDrawdowns.rows :=
  h.drawdowns.imp fun a b hab => by simpa using hab.2

/-- Two images of related rows. -/
theorem map_eq_of_forall₂ {α β γ : Type} {R : α → β → Prop} {l : List α} {l' : List β} {f : α → γ}
    {g : β → γ} (h : List.Forall₂ R l l') (hfg : ∀ a b, R a b → f a = g b) : l'.map g = l.map f := by
  have himages : List.Forall₂ Eq (l.map f) (l'.map g) :=
    List.forall₂_map_left_iff.2 (List.forall₂_map_right_iff.2 (h.imp hfg))
  rw [List.forall₂_eq_eq_eq] at himages
  exact himages.symm

/-- A run in which no statement fails. -/
theorem ends_accrueInterest_healthy :
    (accrueInterest today).Ends Healthy
      (fun _ v => v.bankFacilities = w.bankFacilities ∧
        v.facilityDrawdowns.rows = w.facilityDrawdowns.rows.map (accruedTo w today)) E w := by
  refine (ends_accrueInterest (S := fun r r' => accruedTo w today r = r') (fun _ => rfl) ?_ ?_).mono ?_
    fun _ _ h => h
  · exact fun r hr => accruedTo_of_not fun h => hr h.1
  · exact fun i hi hn => absurd hi hn
  · rintro _ v hv
    have hrows := map_eq_of_forall₂ (g := id) hv.rows fun _ _ hab => hab
    rw [List.map_id] at hrows
    exact ⟨hv.facilities, hrows⟩

/-- What any run leaves: each row as it was, or with the interest up to its day. -/
def Partly (w : World) (today : ℤ) (v : World) : Prop :=
  v.bankFacilities = w.bankFacilities ∧
    List.Forall₂ (fun r r' => r' = r ∨ r' = accruedTo w today r) w.facilityDrawdowns.rows
      v.facilityDrawdowns.rows

theorem ends_accrueInterest_any :
    (accrueInterest today).Ends (fun _ => True) (fun _ => Partly w today) (fun _ => Partly w today) w := by
  refine (ends_accrueInterest (S := fun r r' => r' = r ∨ r' = accruedTo w today r)
    (E := fun _ => Partly w today) (fun _ => .inr rfl) (fun _ _ => .inl rfl) ?_).mono
    (fun _ v hv => ⟨hv.facilities, hv.rows⟩) fun _ _ h => h
  exact fun i _ _ => ⟨fun _ => .inl rfl, fun v hv _ => ⟨hv.facilities, hv.rows⟩⟩

end Runs

/-! ## Path independence -/

/-- The call runs alone, no statement of it fails, and `P` holds at its end. -/
def Completes (P : World → Prop) (p : Call Unit) (w : World) : Prop :=
  p.Ends Healthy (fun _ => P) (fun _ _ => False) w

/-- The call runs alone and `P` holds at its end, whatever fails. -/
def Leaves (P : World → Prop) (p : Call Unit) (w : World) : Prop :=
  p.Ends (fun _ => True) (fun _ => P) (fun _ => P) w

/-- A run makes up for an earlier one, however that one ended. -/
theorem Partly.completes {w v : World} {d₁ d₂ : ℤ} (h : Partly w d₁ v) (hle : d₁ ≤ d₂) :
    Completes (fun w' => w'.facilityDrawdowns.rows = w.facilityDrawdowns.rows.map (accruedTo w d₂))
      (accrueInterest d₂) v := by
  refine ends_accrueInterest_healthy.mono ?_ fun _ _ h => h
  rintro _ w' ⟨-, hrows⟩
  rw [hrows, accruedTo_congr h.1]
  refine map_eq_of_forall₂ h.2 ?_
  rintro a _ (rfl | rfl)
  · rfl
  · exact (accruedTo_accruedTo hle).symm

/-- A second run on the same day leaves every row. -/
theorem leaves_again {w v : World} {d : ℤ} (hfacilities : v.bankFacilities = w.bankFacilities)
    (hrows : v.facilityDrawdowns.rows = w.facilityDrawdowns.rows.map (accruedTo w d)) :
    Leaves (fun w' => w'.facilityDrawdowns.rows = v.facilityDrawdowns.rows) (accrueInterest d) v := by
  have hsame : ∀ w', Partly v d w' → w'.facilityDrawdowns.rows = v.facilityDrawdowns.rows := by
    rintro w' ⟨-, hpartly⟩
    rw [hrows, List.forall₂_map_left_iff, accruedTo_congr hfacilities] at hpartly
    have himages := map_eq_of_forall₂ (f := accruedTo w d) (g := id) hpartly ?_
    · rw [hrows, ← himages, List.map_id]
    · rintro a _ (rfl | rfl)
      · rfl
      · exact (accruedTo_accruedTo le_rfl).symm
  exact ends_accrueInterest_any.mono (fun _ => hsame) fun _ => hsame

/-- **Path independence.** The loop over the days ends for every two dates. A run on `d₂` adds to each
active drawdown the days since its last date times its daily interest, and leaves the others; a second run
on the same day changes nothing; and an earlier run, however it ends, does not change what the run on `d₂`
leaves. -/
theorem accrual_path_independent (w : World) (d₁ d₂ : ℤ) (h : d₁ ≤ d₂) :
    (∀ (drawdownId : ℕ) (dailyInterest lastAccrued today : ℤ) (fuel : ℕ),
      (today - lastAccrued).toNat < fuel →
      dayLoop drawdownId dailyInterest (today * dayMs) fuel (lastAccrued * dayMs) =
        some (accrueEachDay drawdownId dailyInterest lastAccrued (today - lastAccrued).toNat)) ∧
    Completes
      (fun w₂ => w₂.facilityDrawdowns.rows = w.facilityDrawdowns.rows.map (accruedTo w d₂) ∧
        Leaves (fun w₃ => w₃.facilityDrawdowns.rows = w₂.facilityDrawdowns.rows) (accrueInterest d₂) w₂ ∧
        Leaves
          (Completes (fun w₃ => w₃.facilityDrawdowns.rows = w₂.facilityDrawdowns.rows) (accrueInterest d₂))
          (accrueInterest d₁) w)
      (accrueInterest d₂) w := by
  refine ⟨fun drawdownId dailyInterest lastAccrued today fuel => dayLoop_eq drawdownId dailyInterest rfl, ?_⟩
  refine ends_accrueInterest_healthy.mono ?_ fun _ _ h => h
  rintro _ w₂ ⟨hfacilities, hrows⟩
  have hlater : ∀ v, Partly w d₁ v → Completes
      (fun w₃ => w₃.facilityDrawdowns.rows = w₂.facilityDrawdowns.rows) (accrueInterest d₂) v := by
    intro v hv
    rw [hrows]
    exact hv.completes h
  exact ⟨hrows, leaves_again hfacilities hrows,
    ends_accrueInterest_any.mono (fun _ => hlater) fun _ => hlater⟩

/-- A drawdown of 100 a day that was last charged on day 0: five days later, with a run on day 3 or
without. -/
theorem accrual_path_independent_gap :
    Completes
      (fun w₂ => w₂.facilityDrawdowns.rows.map (fun r => (r.accruedInterest, r.lastAccruedDate)) = [(500, 5)] ∧
        Leaves
          (Completes (fun w₃ => w₃.facilityDrawdowns.rows = w₂.facilityDrawdowns.rows) (accrueInterest 5))
          (accrueInterest 3) drawnOnce)
      (accrueInterest 5) drawnOnce := by
  refine Proc.Ends.mono (accrual_path_independent drawnOnce 3 5 (by decide)).2 ?_ fun _ _ h => h
  rintro _ w₂ ⟨hrows, -, hlater⟩
  refine ⟨?_, hlater⟩
  rw [hrows]
  decide +kernel

end Ris.Facilities.Interest
