import RisPlatform.Common.ScaledDecimal
import RisPlatform.Facilities.Service

/-!
# The daily interest of a facility's rate

`calculateDailyInterest` takes the principal and the annual rate as texts. The service's model reads them as
the numbers they denote; here the texts are read as the source reads them, and the two agree on every
decimal text (`calculateDailyInterest_text`). Of a rate with at most nine places nothing is lost, and the
result is the exact floor (`dailyInterest_exact`).
-/

namespace Ris.Facilities.Texts

open Utf16 ScaledDecimal

def parseRateToScaled (rateStr : Text) : Option ℤ := parseScaled 9 ratePrecision rateStr

/-- `none` stands for the `SyntaxError` of a text that is no number. -/
def calculateDailyInterest (principal annualRate : Text) : Option Text := do
  let p ← bigInt? principal
  if p = 0 then return units "0"
  let rateScaled ← parseRateToScaled annualRate
  return intText ((p * rateScaled).tdiv (daysPerYear * ratePrecision))

variable {n n' : Numeral} {p p' : ℕ}

theorem parseRateToScaled_text (n : Numeral) :
    parseRateToScaled n.text = some (Facilities.parseRateToScaled n.value) := by
  have hprecision : ratePrecision = 10 ^ 9 := by decide
  rw [parseRateToScaled, Facilities.parseRateToScaled, hprecision, parseScaled_text]
  push_cast
  rfl

/-- The texts are read as the numbers they denote. -/
theorem calculateDailyInterest_text (p : ℕ) (n : Numeral) :
    calculateDailyInterest (natText p) n.text =
      some (intText (Facilities.calculateDailyInterest p n.value)) := by
  unfold calculateDailyInterest Facilities.calculateDailyInterest
  rw [bigInt?_natText]
  by_cases hp : p = 0
  · subst hp
    rfl
  · have hcast : (p : ℤ) ≠ 0 := by omega
    simp only [Option.bind_eq_bind, Option.bind_some, if_neg hcast, parseRateToScaled_text]
    rfl

theorem parseRateToScaled_eq (h : n.places.length ≤ 9) :
    (Facilities.parseRateToScaled n.value : ℚ) = n.value * 10 ^ 9 := by
  have hprecision : (ratePrecision : ℚ) = 10 ^ 9 := by norm_num [ratePrecision]
  rw [Facilities.parseRateToScaled, hprecision]
  exact floor_scaled h

/-- One division of the scaled product is one of the product. -/
theorem calculateDailyInterest_eq (p : ℕ) (h : n.places.length ≤ 9) :
    Facilities.calculateDailyInterest p n.value = ⌊p * n.value / 365⌋ := by
  have hscaled := parseRateToScaled_eq h
  have hnonneg : 0 ≤ Facilities.parseRateToScaled n.value := scaled_nonneg n (by decide)
  unfold Facilities.calculateDailyInterest
  split
  · rename_i hp
    obtain rfl : p = 0 := by exact_mod_cast hp
    simp
  · rw [tdiv_eq_floor (by positivity) (by decide)]
    congr 1
    push_cast
    rw [hscaled, daysPerYear, ratePrecision]
    push_cast
    ring

/-- The rate is read without loss, the interest of a day is the floor of the exact product, and it is
monotone in both. -/
theorem dailyInterest_exact :
    (∀ (p : ℕ) (n : Numeral), n.places.length ≤ 9 →
      (∃ s, parseRateToScaled n.text = some s ∧ (s : ℚ) = n.value * 10 ^ 9) ∧
        calculateDailyInterest (natText p) n.text = some (intText ⌊p * n.value / 365⌋)) ∧
      ∀ (p p' : ℕ) (n n' : Numeral), n.places.length ≤ 9 → n'.places.length ≤ 9 → p ≤ p' →
        n.value ≤ n'.value → ∃ daily daily', calculateDailyInterest (natText p) n.text = some (intText daily) ∧
          calculateDailyInterest (natText p') n'.text = some (intText daily') ∧ daily ≤ daily' := by
  have hexact : ∀ (p : ℕ) (n : Numeral), n.places.length ≤ 9 →
      calculateDailyInterest (natText p) n.text = some (intText ⌊p * n.value / 365⌋) := by
    intro p n h
    rw [calculateDailyInterest_text, calculateDailyInterest_eq p h]
  constructor
  · intro p n h
    exact ⟨⟨_, parseRateToScaled_text n, parseRateToScaled_eq h⟩, hexact p n h⟩
  · intro p p' n n' h h' hp hvalue
    refine ⟨_, _, hexact p n h, hexact p' n' h', ?_⟩
    apply Int.floor_le_floor
    have hcast : (p : ℚ) ≤ p' := by exact_mod_cast hp
    have hnonneg := n.value_nonneg
    gcongr

/-- Eighteen per cent. -/
def eighteenPercent : Numeral := .proper [1, 8] (by decide)

/-- A year's interest of eighteen per cent, a day's share of it. -/
theorem dailyInterest_exact_percent :
    eighteenPercent.text = units "0.18" ∧ eighteenPercent.places.length ≤ 9 ∧
      calculateDailyInterest (natText 1000) eighteenPercent.text =
        some (intText ⌊(1000 : ℕ) * eighteenPercent.value / 365⌋) :=
  ⟨by decide, by decide, (dailyInterest_exact.1 1000 eighteenPercent (by decide)).2⟩

example : calculateDailyInterest (units "1000000") (units "0.18") = some (units "493") := by
  decide +kernel

end Ris.Facilities.Texts
