import RisPlatform.Payments.Service
import RisPlatform.Shared.WorkingDays

/-!
# Business hours

`getEatHour` takes the hour of a `Date` and goes on three hours modulo a day, `getEatDay` takes the weekday
of the `Date` three hours later. Both read one clock, which is three hours ahead of UTC (`eat_clock`). In
the last three hours of the range of `Date` there is no `Date` three hours later and so no weekday; it is
after midnight there, so the test of `checkBusinessHours` still has the right answer.
-/

namespace Ris.Payments.BusinessHours

open Invoices WorkingDays

/-! ## The source -/

def getUTCHours (d : Date) : Option ℤ := d.map fun t => t.1 % dayMs / 3600000

/-- The hour in East Africa Time (UTC+3). -/
def getEatHour (date : Date) : Option ℤ := (getUTCHours date).map fun utcHour => (utcHour + 3).tmod 24

/-- The day of the week in East Africa Time, 0 = Sunday. -/
def getEatDay (date : Date) : Option ℤ :=
  getUTCDay (date.bind fun t => timeClip (t.1 + 3 * 60 * 60 * 1000))

/-- The test of `checkBusinessHours`; no comparison holds of a missing number. -/
def isAfterHours (now : Date) : Bool :=
  let eatHour := getEatHour now
  let eatDay := getEatDay now
  let isWeekend := eatDay = some 0 ∨ eatDay = some 6
  let isOutsideHours := eatHour.any (· < 7) ∨ eatHour.any (20 ≤ ·)
  isWeekend ∨ isOutsideHours

/-! ## Clocks -/

/-- What a clock shows: the day, from 1970-01-01 on, and the time of the day. -/
structure Clock where
  day : ℤ
  hour : Fin 24
  minute : Fin 60
  second : Fin 60
  millisecond : Fin 1000
  deriving DecidableEq

namespace Clock

def value (c : Clock) : ℤ :=
  (((c.day * 24 + c.hour.val) * 60 + c.minute.val) * 60 + c.second.val) * 1000 + c.millisecond.val

/-- A remainder as a digit. -/
def digit (n : ℕ) [NeZero n] (x : ℤ) : Fin n := Fin.ofNat n (x % n).toNat

def ofValue (t : ℤ) : Clock where
  day := t / 1000 / 60 / 60 / 24
  hour := digit 24 (t / 1000 / 60 / 60)
  minute := digit 60 (t / 1000 / 60)
  second := digit 60 (t / 1000)
  millisecond := digit 1000 t

theorem digit_val (n : ℕ) [NeZero n] (x : ℤ) : ((digit n x).val : ℤ) = x % n := by
  have hpos : (0 : ℤ) < n := Int.natCast_pos.2 (Nat.pos_of_neZero n)
  have hnonneg := Int.emod_nonneg x hpos.ne'
  have hlt := Int.emod_lt_of_pos x hpos
  rw [digit, Fin.val_ofNat, Nat.mod_eq_of_lt (by omega), Int.toNat_of_nonneg hnonneg]

/-- Every value is shown. -/
theorem value_ofValue (t : ℤ) : (ofValue t).value = t := by
  simp only [value, ofValue, digit_val]
  omega

/-- No two clocks show one value. -/
theorem ofValue_value (c : Clock) : ofValue c.value = c := by
  obtain ⟨day, hour, minute, second, millisecond⟩ := c
  have hhour := hour.isLt
  have hminute := minute.isLt
  have hsecond := second.isLt
  have hmillisecond := millisecond.isLt
  rw [ofValue, mk.injEq, ← Fin.val_inj, ← Fin.val_inj, ← Fin.val_inj, ← Fin.val_inj]
  simp only [← Int.natCast_inj, digit_val, value]
  refine ⟨?_, ?_, ?_, ?_, ?_⟩ <;> omega

/-- 0 is Sunday; 1970 began on a Thursday. -/
def weekday (c : Clock) : ℤ := (c.day + 4) % 7

theorem weekday_bounds (c : Clock) : 0 ≤ c.weekday ∧ c.weekday < 7 :=
  ⟨Int.emod_nonneg _ (by decide), Int.emod_lt_of_pos _ (by decide)⟩

/-- Mon-Fri 07:00-20:00 -/
def InBusinessHours (c : Clock) : Prop :=
  1 ≤ c.weekday ∧ c.weekday ≤ 5 ∧ 7 ≤ c.hour.val ∧ c.hour.val < 20

/-- What a clock in Kampala shows: UTC, three hours on. -/
def kampala (t : ℤ) : Clock := ofValue (t + 3 * 60 * 60 * 1000)

theorem kampala_hour (t : ℤ) :
    ((kampala t).hour.val : ℤ) = (t + 3 * 60 * 60 * 1000) / 1000 / 60 / 60 % 24 :=
  digit_val 24 _

end Clock

/-! ## The clock that both functions read -/

open Clock

/-- Three hours modulo a day on the hour are three hours on the instant. -/
theorem getEatHour_eq (t : TimeValue) : getEatHour (some t) = some ((kampala t.1).hour.val : ℤ) := by
  have hhour : (t.1 % dayMs / 3600000 + 3).tmod 24 = (t.1 + 3 * 60 * 60 * 1000) / 1000 / 60 / 60 % 24 := by
    have hnonneg := Int.emod_nonneg t.1 dayMs_pos.ne'
    have hquot : 0 ≤ t.1 % dayMs / 3600000 := Int.ediv_nonneg hnonneg (by decide)
    -- no hour is negative, also before 1970, so that both remainders agree
    rw [Int.tmod_eq_emod_of_nonneg (by omega)]
    unfold dayMs
    omega
  rw [getEatHour, getUTCHours, Option.map_some, Option.map_some, hhour, kampala_hour]

theorem weekday_kampala (t : ℤ) :
    (kampala t).weekday = ((t + 3 * 60 * 60 * 1000) / dayMs + 4) % 7 := by
  have hday : (t + 3 * 60 * 60 * 1000) / 1000 / 60 / 60 / 24 = (t + 3 * 60 * 60 * 1000) / dayMs := by
    unfold dayMs
    omega
  rw [weekday, kampala, ofValue, hday]

/-- The weekday, as long as there is a `Date` three hours later. -/
theorem getEatDay_eq (t : TimeValue) :
    getEatDay (some t) =
      if t.1 + 3 * 60 * 60 * 1000 ≤ 8640000000000000 then some (kampala t.1).weekday else none := by
  have hrange := abs_le.1 t.2
  rw [getEatDay, Option.bind_some, timeClip]
  by_cases h : t.1 + 3 * 60 * 60 * 1000 ≤ 8640000000000000
  · rw [if_pos h, dif_pos (abs_le.2 ⟨by omega, h⟩), weekday_kampala]
    rfl
  · rw [if_neg h, dif_neg fun habs => h (abs_le.1 habs).2]
    rfl

/-- Past the last weekday it is before seven o'clock. -/
theorem hour_of_getEatDay_none {t : TimeValue} (h : getEatDay (some t) = none) :
    (kampala t.1).hour.val < 7 := by
  have hrange := abs_le.1 t.2
  rw [getEatDay_eq, ite_eq_right_iff] at h
  have hlate : 8640000000000000 < t.1 + 3 * 60 * 60 * 1000 := by
    by_contra hle
    exact Option.some_ne_none _ (h (not_lt.1 hle))
  have hhour := kampala_hour t.1
  omega

theorem isAfterHours_iff (t : TimeValue) :
    isAfterHours (some t) = true ↔ ¬ (kampala t.1).InBusinessHours := by
  have hweek := (kampala t.1).weekday_bounds
  have hday : getEatDay (some t) = some (kampala t.1).weekday ∨
      (getEatDay (some t) = none ∧ (kampala t.1).hour.val < 7) := by
    cases hcase : getEatDay (some t) with
    | none => exact Or.inr ⟨rfl, hour_of_getEatDay_none hcase⟩
    | some day =>
        rw [getEatDay_eq] at hcase
        split at hcase
        · exact Or.inl hcase.symm
        · exact absurd hcase.symm (Option.some_ne_none day)
  simp only [isAfterHours, getEatHour_eq, Option.any_some, decide_eq_true_eq, InBusinessHours]
  -- with a weekday both test the same; without one the hour alone decides
  obtain hsome | ⟨hnone, hhour⟩ := hday
  · rw [hsome, Option.some_inj, Option.some_inj]
    omega
  · rw [hnone]
    have hnever : ∀ day : ℤ, (none : Option ℤ) ≠ some day := fun day => (Option.some_ne_none day).symm
    simp only [hnever, or_self, false_or]
    omega

/-- Both functions read one clock in Kampala, the weekday as long as a `Date` can hold it, and the test
finds out when that clock shows business hours. -/
theorem eat_clock (t : TimeValue) :
    (kampala t.1).value = t.1 + 3 * 60 * 60 * 1000 ∧
    getEatHour (some t) = some ((kampala t.1).hour.val : ℤ) ∧
    getEatDay (some t) =
      (if t.1 + 3 * 60 * 60 * 1000 ≤ 8640000000000000 then some (kampala t.1).weekday else none) ∧
    (isAfterHours (some t) = true ↔ ¬ (kampala t.1).InBusinessHours) :=
  ⟨value_ofValue _, getEatHour_eq t, getEatDay_eq t, isAfterHours_iff t⟩

/-- The last `Date` has an hour in Kampala and no weekday. -/
theorem getEatDay_last :
    ¬ ∀ t : TimeValue, getEatHour (some t) = some ((kampala t.1).hour.val : ℤ) ∧
      getEatDay (some t) = some (kampala t.1).weekday := by
  intro h
  have hlast := (h ⟨8640000000000000, by decide⟩).2
  exact absurd hlast (by decide)

/-- The payments' own test, on instants without a range, is the one on dates. -/
theorem isAfterHours_eq (t : TimeValue) : isAfterHours (some t) = Payments.isAfterHours t.1 := by
  have hhour : Payments.getEatHour t.1 = (kampala t.1).hour.val := by
    rw [kampala_hour, Payments.getEatHour]
    omega
  have hday : Payments.getEatDay t.1 = (kampala t.1).weekday := (weekday_kampala t.1).symm
  have hweek := (kampala t.1).weekday_bounds
  rw [Bool.eq_iff_iff, isAfterHours_iff, Payments.isAfterHours, hhour, hday]
  simp only [InBusinessHours, decide_eq_true_eq]
  omega

end Ris.Payments.BusinessHours
