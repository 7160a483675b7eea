import Mathlib.Data.Int.Interval
import RisPlatform.Invoices.Repository

/-!
# `working-days.ts`

The loop goes on day by day and counts down on working days. A `Date` is a time value within 100,000,000
days of 1970, or invalid; an invalid one is on no weekend and no holiday, so that past the end of the range
every turn counts. So the loop always ends, and what it returns is the working day that the claim of its
name says as long as there are enough of them before the end of the range. None of this depends on which
days are holidays.
-/

namespace Ris.WorkingDays

open Invoices

/-! ## Dates -/

/-- The milliseconds since 1970-01-01T00:00Z, within the range of `Date`. -/
abbrev TimeValue : Type := { t : ℤ // |t| ≤ 8640000000000000 }

/-- Its value is `none` if it is an `Invalid Date`. -/
abbrev Date : Type := Option TimeValue

/-- The time value, or an invalid date outside of the range. -/
def timeClip (t : ℤ) : Date := if h : |t| ≤ 8640000000000000 then some ⟨t, h⟩ else none

/-- The day of a time value, from 1970-01-01 on. -/
def dayOf (t : TimeValue) : ℤ := t.1 / dayMs

def civil (t : TimeValue) : CivilDate := CivilDate.ofDays (dayOf t)

/-- 0 is Sunday. -/
def getUTCDay (d : Date) : Option ℤ := d.map fun t => (dayOf t + 4) % 7

def getUTCDate (d : Date) : Option ℤ := d.map fun t => (civil t).day

/-- The day so many days into the month, at the same time. -/
def setUTCDate (d : Date) (date : Option ℤ) : Date := do
  let t ← d
  let date ← date
  timeClip ((dayOf t - (civil t).day + date) * dayMs + t.1 % dayMs)

/-! ## Working days -/

/-- Year-agnostic (MM-DD): fixed-date Uganda public holidays. -/
def fixedHolidaysMmdd : List String :=
  ["01-01", "01-26", "03-08", "05-01", "06-03", "06-09", "10-09", "12-25", "12-26"]

def isWeekend (d : Date) : Bool := getUTCDay d = some 0 ∨ getUTCDay d = some 6

/-- `String(n).padStart(2, '0')`. -/
def padStart2 (n : ℤ) : String := if (toString n).length < 2 then "0" ++ toString n else toString n

/-- The days of the fixed holidays. -/
def fixedHoliday (day : ℤ) : Bool :=
  let date := CivilDate.ofDays day
  padStart2 date.month ++ "-" ++ padStart2 date.day ∈ fixedHolidaysMmdd

/-- The date is on a day of the set; `NaN-NaN` is none of them. -/
def isHoliday (holiday : ℤ → Bool) (d : Date) : Bool := d.any fun t => holiday (dayOf t)

/-- The loop of `addWorkingDays`, for so many turns at most. -/
def loop (holiday : ℤ → Bool) : ℕ → Date → ℕ → Option Date
  | _, result, 0 => some result
  | 0, _, _ + 1 => none
  | fuel + 1, result, remaining + 1 =>
    let result := setUTCDate result ((getUTCDate result).map (· + 1))
    if !isWeekend result && !isHoliday holiday result then loop holiday fuel result remaining
    else loop holiday fuel result (remaining + 1)

/-- Add `n` working days to a date; without a value, more turns are needed. -/
def addWorkingDays (holiday : ℤ → Bool) (fuel : ℕ) (fromDate : Date) (n : ℤ) :
    Except RisError (Option Date) :=
  if n < 0 then throw (.runtime "addWorkingDays does not support negative offsets")
  else pure (loop holiday fuel fromDate n.toNat)

/-- The function returns the date. -/
def Returns (holiday : ℤ → Bool) (d : Date) (n : ℤ) (r : Date) : Prop :=
  ∃ fuel, addWorkingDays holiday fuel d n = .ok (some r)

/-- Christmas Eve 2025 is a Wednesday; the third working day after it is Wednesday, the 31st. -/
example : loop fixedHoliday 10 (timeClip (20446 * dayMs + 5)) 3 = some (timeClip (20453 * dayMs + 5)) := by
  decide

/-! ## The law -/

section Law

variable (holiday : ℤ → Bool)

/-- From Monday to Friday, and no holiday. -/
def IsWorkingDay (day : ℤ) : Prop :=
  (day + 4) % 7 ≠ 0 ∧ (day + 4) % 7 ≠ 6 ∧ holiday day = false

instance : DecidablePred (IsWorkingDay holiday) := fun _ => inferInstanceAs (Decidable (_ ∧ _ ∧ _))

/-- How many working days there are after a day, up to another one. -/
def countWorking (first last : ℤ) : ℕ :=
  (List.range (last - first).toNat).countP fun i : ℕ => IsWorkingDay holiday (first + 1 + i)

/-- The last day on which there is a date at the time of this one. -/
def lastDay (t : TimeValue) : ℤ := (8640000000000000 - t.1 % dayMs) / dayMs

/-- The result is the date at the same time on a working day, so many of them later. -/
def Counts (t : TimeValue) (n : ℕ) : Prop :=
  ∃ r : TimeValue, Returns holiday (some t) n (some r) ∧ r.1 % dayMs = t.1 % dayMs ∧ dayOf t ≤ dayOf r ∧
    (0 < n → IsWorkingDay holiday (dayOf r)) ∧ countWorking holiday (dayOf t) (dayOf r) = n

end Law

/-! ## One turn -/

section Turns

variable {holiday : ℤ → Bool} {t : TimeValue}

theorem dayMs_pos : 0 < dayMs := by decide

/-- The next day, at the same time. -/
def next (d : Date) : Date := d.bind fun t => timeClip (t.1 + dayMs)

theorem setUTCDate_succ (d : Date) : setUTCDate d ((getUTCDate d).map (· + 1)) = next d := by
  cases d with
  | none => rfl
  | some t =>
    have hday : (dayOf t - (civil t).day + ((civil t).day + 1)) * dayMs + t.1 % dayMs = t.1 + dayMs := by
      have hsplit := Int.mul_ediv_add_emod t.1 dayMs
      unfold dayOf
      linarith
    simp only [setUTCDate, getUTCDate, next, Option.map_some, Option.bind_eq_bind, Option.bind_some, hday]

theorem dayOf_next {t' : TimeValue} (h : next (some t) = some t') :
    dayOf t' = dayOf t + 1 ∧ t'.1 % dayMs = t.1 % dayMs := by
  have hvalue : t'.1 = t.1 + dayMs := by
    simp only [next, timeClip, Option.bind_some] at h
    split at h
    · exact (congrArg Subtype.val (Option.some.inj h)).symm
    · cases h
  refine ⟨?_, ?_⟩
  · unfold dayOf
    rw [hvalue, Int.add_ediv_of_dvd_right (dvd_refl dayMs), Int.ediv_self dayMs_pos.ne']
  · rw [hvalue, Int.add_emod_right]

/-- There is no next day exactly on the last one. -/
theorem next_eq_none_iff (t : TimeValue) : next (some t) = none ↔ lastDay t ≤ dayOf t := by
  have hrange := abs_le.1 t.2
  have hmod := Int.emod_nonneg t.1 dayMs_pos.ne'
  have hlt := Int.emod_lt_of_pos t.1 dayMs_pos
  have hsplit := Int.mul_ediv_add_emod t.1 dayMs
  simp only [next, timeClip, Option.bind_some, lastDay, dayOf]
  rw [dite_eq_right_iff]
  simp only [reduceCtorEq, imp_false, abs_le, not_and, not_le]
  unfold dayMs at *
  omega

theorem lastDay_congr {t' : TimeValue} (h : t'.1 % dayMs = t.1 % dayMs) : lastDay t' = lastDay t := by
  rw [lastDay, h, lastDay]

theorem dayOf_le_lastDay (t : TimeValue) : dayOf t ≤ lastDay t := by
  have hrange := abs_le.1 t.2
  have hsplit := Int.mul_ediv_add_emod t.1 dayMs
  unfold lastDay dayOf
  unfold dayMs at *
  omega

/-- The turn counts. -/
def works (holiday : ℤ → Bool) (d : Date) : Bool := !isWeekend d && !isHoliday holiday d

theorem works_some : works holiday (some t) = true ↔ IsWorkingDay holiday (dayOf t) := by
  simp [works, isWeekend, isHoliday, getUTCDay, IsWorkingDay, and_assoc]

theorem loop_zero (fuel : ℕ) (d : Date) : loop holiday fuel d 0 = some d := by
  cases fuel <;> rfl

theorem loop_succ (fuel : ℕ) (d : Date) (m : ℕ) :
    loop holiday (fuel + 1) d (m + 1) =
      loop holiday fuel (next d) (if works holiday (next d) = true then m else m + 1) := by
  rw [loop, setUTCDate_succ]
  show (if works holiday (next d) = true then _ else _) = _
  split <;> rfl

theorem countWorking_self (day : ℤ) : countWorking holiday day day = 0 := by
  simp [countWorking]

theorem countWorking_of_le {first last : ℤ} (h : last ≤ first) :
    countWorking holiday first last = 0 := by
  have hnone : (last - first).toNat = 0 := by omega
  rw [countWorking, hnone, List.range_zero, List.countP_nil]

/-- The day after the first one counts, or not. -/
theorem countWorking_of_lt {first last : ℤ} (h : first < last) :
    countWorking holiday first last =
      (if IsWorkingDay holiday (first + 1) then 1 else 0) + countWorking holiday (first + 1) last := by
  have hdays : (last - first).toNat = (last - (first + 1)).toNat + 1 := by omega
  have hshift : ∀ i : ℕ, first + 1 + ((i + 1 : ℕ) : ℤ) = first + 1 + 1 + (i : ℤ) := by
    intro i
    omega
  simp only [countWorking, hdays, List.range_succ_eq_map, List.countP_cons, List.countP_map,
    Function.comp_def, hshift, Nat.succ_eq_add_one, Nat.cast_zero, add_zero, decide_eq_true_eq]
  exact Nat.add_comm _ _

theorem countWorking_mono {first last last' : ℤ} (h : last ≤ last') :
    countWorking holiday first last ≤ countWorking holiday first last' := by
  have hdays : (last - first).toNat ≤ (last' - first).toNat := by omega
  exact (List.range_sublist.2 hdays).countP_le

end Turns

/-! ## The loop -/

section Loop

variable {holiday : ℤ → Bool}

/-- An invalid date stays invalid. -/
theorem eq_none_of_loop {fuel m : ℕ} {r : Date} (h : loop holiday fuel none m = some r) : r = none := by
  induction fuel generalizing m with
  | zero =>
    cases m with
    | zero => exact (Option.some.inj h).symm
    | succ m => cases h
  | succ fuel ih =>
    cases m with
    | zero => exact (Option.some.inj h).symm
    | succ m =>
      rw [loop_succ] at h
      exact ih h

/-- A valid result counts the working days from the start. -/
theorem loop_spec {fuel m : ℕ} {t r : TimeValue} (h : loop holiday fuel (some t) m = some (some r)) :
    r.1 % dayMs = t.1 % dayMs ∧ dayOf t ≤ dayOf r ∧ (0 < m → IsWorkingDay holiday (dayOf r)) ∧
      countWorking holiday (dayOf t) (dayOf r) = m := by
  induction fuel generalizing t m with
  | zero =>
    cases m with
    | zero =>
      obtain rfl : t = r := by simpa [loop] using h
      exact ⟨rfl, le_rfl, fun hpos => absurd hpos (lt_irrefl _), countWorking_self _⟩
    | succ m => cases h
  | succ fuel ih =>
    cases m with
    | zero =>
      obtain rfl : t = r := by simpa [loop] using h
      exact ⟨rfl, le_rfl, fun hpos => absurd hpos (lt_irrefl _), countWorking_self _⟩
    | succ m =>
      rw [loop_succ] at h
      cases hnext : next (some t) with
      | none =>
        rw [hnext] at h
        cases eq_none_of_loop h
      | some t' =>
        rw [hnext] at h
        obtain ⟨hday, htime⟩ := dayOf_next hnext
        obtain ⟨hsame, hle, hworks, hcount⟩ := ih h
        rw [hday] at hle hcount
        have hlt : dayOf t < dayOf r := by omega
        refine ⟨hsame.trans htime, hlt.le, fun _ => ?_, ?_⟩
        · by_cases hcounts : works holiday (some t') = true
          · -- the last turn that counts is the one that ends the loop
            rw [if_pos hcounts] at h hworks
            cases m with
            | zero =>
              rw [loop_zero] at h
              obtain rfl : t' = r := by simpa using h
              exact works_some.1 hcounts
            | succ m => exact hworks (Nat.succ_pos m)
          · rw [if_neg hcounts] at hworks
            exact hworks (Nat.succ_pos m)
        · rw [countWorking_of_lt hlt, hcount, ← hday]
          by_cases hcounts : works holiday (some t') = true
          · rw [if_pos (works_some.1 hcounts), if_pos hcounts, Nat.add_comm]
          · rw [if_neg fun hworking => hcounts (works_some.2 hworking), if_neg hcounts, Nat.zero_add]

/-- The result is invalid only if there are too few working days before the end of the range. -/
theorem countWorking_lt_of_loop {fuel m : ℕ} {t : TimeValue}
    (h : loop holiday fuel (some t) m = some none) :
    countWorking holiday (dayOf t) (lastDay t) < m := by
  induction fuel generalizing t m with
  | zero => cases m <;> simp [loop] at h
  | succ fuel ih =>
    cases m with
    | zero => simp [loop] at h
    | succ m =>
      rw [loop_succ] at h
      cases hnext : next (some t) with
      | none =>
        rw [countWorking_of_le ((next_eq_none_iff t).1 hnext)]
        exact Nat.succ_pos m
      | some t' =>
        have hlt : dayOf t < lastDay t := by
          rw [← not_le, ← next_eq_none_iff, hnext]
          exact fun hnone => by cases hnone
        rw [hnext] at h
        obtain ⟨hday, htime⟩ := dayOf_next hnext
        have hrest := ih h
        rw [hday, lastDay_congr htime] at hrest
        rw [countWorking_of_lt hlt, ← hday]
        rw [← hday] at hrest
        by_cases hcounts : works holiday (some t') = true
        · rw [if_pos hcounts] at hrest
          rw [if_pos (works_some.1 hcounts)]
          omega
        · rw [if_neg hcounts] at hrest
          rw [if_neg fun hworking => hcounts (works_some.2 hworking)]
          omega

/-- On an invalid date every turn counts. -/
theorem loop_none (m : ℕ) : loop holiday m none m = some none := by
  induction m with
  | zero => rfl
  | succ m ih =>
    rw [loop_succ]
    exact ih

/-- The loop ends: in each turn it gets a day closer to the end of the range, or is past it. -/
theorem exists_loop (holiday : ℤ → Bool) (d : Date) (m : ℕ) :
    ∃ fuel r, loop holiday fuel d m = some r := by
  cases d with
  | none => exact ⟨m, none, loop_none m⟩
  | some t =>
    induction hleft : (lastDay t - dayOf t).toNat generalizing t m with
    | zero =>
      cases m with
      | zero => exact ⟨0, some t, rfl⟩
      | succ m =>
        have hnext : next (some t) = none := (next_eq_none_iff t).2 (by omega)
        refine ⟨m + 1, none, ?_⟩
        rw [loop_succ, hnext]
        exact loop_none m
    | succ left ih =>
      cases m with
      | zero => exact ⟨0, some t, rfl⟩
      | succ m =>
        cases hnext : next (some t) with
        | none => exact absurd ((next_eq_none_iff t).1 hnext) (by omega)
        | some t' =>
          obtain ⟨hday, htime⟩ := dayOf_next hnext
          have hcloser : (lastDay t' - dayOf t').toNat = left := by
            rw [hday, lastDay_congr htime]
            omega
          obtain ⟨fuel, r, hr⟩ := ih (if works holiday (some t') = true then m else m + 1) t' hcloser
          refine ⟨fuel + 1, r, ?_⟩
          rw [loop_succ, hnext]
          exact hr

/-- More turns do not change the result. -/
theorem loop_mono {fuel fuel' m : ℕ} {d r : Date} (h : loop holiday fuel d m = some r)
    (hle : fuel ≤ fuel') : loop holiday fuel' d m = some r := by
  induction fuel generalizing fuel' d m with
  | zero =>
    cases m with
    | zero => exact (loop_zero fuel' d).trans h
    | succ m => cases h
  | succ fuel ih =>
    cases m with
    | zero => exact (loop_zero fuel' d).trans h
    | succ m =>
      obtain ⟨more, rfl⟩ : ∃ more, fuel' = more + 1 := ⟨fuel' - 1, by omega⟩
      rw [loop_succ] at h ⊢
      exact ih h (Nat.le_of_succ_le_succ hle)

/-- Two loops, one after the other, are one. -/
theorem loop_add {fuel fuel' a b : ℕ} {d r r' : Date} (h : loop holiday fuel d a = some r)
    (h' : loop holiday fuel' r b = some r') : loop holiday (fuel + fuel') d (a + b) = some r' := by
  induction fuel generalizing d a with
  | zero =>
    cases a with
    | zero =>
      obtain rfl : d = r := Option.some.inj h
      rwa [Nat.zero_add, Nat.zero_add]
    | succ a => cases h
  | succ fuel ih =>
    cases a with
    | zero =>
      obtain rfl : d = r := Option.some.inj h
      rw [Nat.zero_add]
      exact loop_mono h' (Nat.le_add_left _ _)
    | succ a =>
      rw [loop_succ] at h
      rw [Nat.succ_add, Nat.succ_add, loop_succ]
      by_cases hcounts : works holiday (next d) = true
      · rw [if_pos hcounts] at h ⊢
        exact ih h
      · rw [if_neg hcounts] at h ⊢
        have hrest := ih h
        rwa [Nat.add_right_comm] at hrest

end Loop

/-! ## What the function returns -/

section Returns

variable {holiday : ℤ → Bool}

theorem returns_iff {d r : Date} {n : ℕ} :
    Returns holiday d n r ↔ ∃ fuel, loop holiday fuel d n = some r := by
  have hneg : ¬((n : ℤ) < 0) := by omega
  simp only [Returns, addWorkingDays, if_neg hneg, Int.toNat_natCast, pure, Except.pure, Except.ok.injEq]

theorem exists_returns (holiday : ℤ → Bool) (d : Date) (n : ℕ) : ∃ r, Returns holiday d n r := by
  obtain ⟨fuel, r, hr⟩ := exists_loop holiday d n
  exact ⟨r, returns_iff.2 ⟨fuel, hr⟩⟩

theorem Returns.unique {d r r' : Date} {n : ℕ} (h : Returns holiday d n r)
    (h' : Returns holiday d n r') :
    r = r' := by
  obtain ⟨fuel, hr⟩ := returns_iff.1 h
  obtain ⟨fuel', hr'⟩ := returns_iff.1 h'
  have hmax := (loop_mono hr (Nat.le_max_left fuel fuel')).symm.trans
    (loop_mono hr' (Nat.le_max_right fuel fuel'))
  exact Option.some.inj hmax

theorem Returns.add {d r r' : Date} {a b : ℕ} (h : Returns holiday d a r) (h' : Returns holiday r b r') :
    Returns holiday d ((a + b : ℕ) : ℤ) r' := by
  obtain ⟨fuel, hr⟩ := returns_iff.1 h
  obtain ⟨fuel', hr'⟩ := returns_iff.1 h'
  exact returns_iff.2 ⟨fuel + fuel', loop_add hr hr'⟩

theorem counts_iff (t : TimeValue) (n : ℕ) :
    Counts holiday t n ↔ n ≤ countWorking holiday (dayOf t) (lastDay t) := by
  constructor
  · rintro ⟨r, -, htime, -, -, hcount⟩
    have hlast := dayOf_le_lastDay r
    rw [lastDay_congr htime] at hlast
    exact hcount ▸ countWorking_mono hlast
  · intro hle
    obtain ⟨fuel, r, hr⟩ := exists_loop holiday (some t) n
    cases r with
    | none => exact absurd (countWorking_lt_of_loop hr) (not_lt.2 hle)
    | some r => exact ⟨r, returns_iff.2 ⟨fuel, hr⟩, loop_spec hr⟩

end Returns

/-- Whatever days are holidays, the function returns one date; it is the working day `n` working days after
the start if and only if so many are left in the range; and two additions are one. -/
theorem addWorkingDays_law (holiday : ℤ → Bool) :
    (∀ (d : Date) (n : ℕ), ∃! r, Returns holiday d n r) ∧
      (∀ (t : TimeValue) (n : ℕ),
        Counts holiday t n ↔ n ≤ countWorking holiday (dayOf t) (lastDay t)) ∧
      ∀ (d r r' : Date) (a b : ℕ), Returns holiday d a r → Returns holiday r b r' →
        Returns holiday d ((a + b : ℕ) : ℤ) r' := by
  refine ⟨fun d n => ?_, counts_iff, fun d r r' a b h h' => h.add h'⟩
  obtain ⟨r, hr⟩ := exists_returns holiday d n
  exact ⟨r, hr, fun r' hr' => hr'.unique hr⟩

/-- The last moment in the range, at midnight on Saturday, the 13th of September 275760. -/
def lastMoment : TimeValue := ⟨8640000000000000, by decide⟩

/-- No working day is left after it. -/
theorem no_working_day_left : ¬∀ (t : TimeValue) (n : ℕ), Counts fixedHoliday t n := by
  intro h
  obtain ⟨r, -, htime, -, -, hcount⟩ := h lastMoment 1
  have hlast := dayOf_le_lastDay r
  rw [lastDay_congr htime] at hlast
  have hle : dayOf r ≤ dayOf lastMoment := hlast.trans (by decide)
  rw [countWorking_of_le hle] at hcount
  cases hcount

end Ris.WorkingDays
