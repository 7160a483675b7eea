import RisPlatform.Collections.Service
import RisPlatform.Common.ScaledDecimal

/-!
# The penalty of an overdue invoice

`calculatePenalty` takes the face value and the daily rate as texts. As with the daily interest of a
facility, the texts are read as the numbers they denote (`calculatePenalty_text`), nothing is lost of a rate
with at most six places, and the one division gives the floor of the exact product (`penalty_exact`).
-/

namespace Ris.Collections.Texts

open Utf16 ScaledDecimal

/-- `none` stands for the `SyntaxError` of a text that is no number; `daysOverdue` is a whole number. -/
def calculatePenalty (faceValue : Text) (daysOverdue : ℤ) (dailyPenaltyRate : Text) : Option Text := do
  let fv ← bigInt? faceValue
  let rateInt ← parseScaled 6 penaltyPrecision dailyPenaltyRate
  return intText ((fv * rateInt * daysOverdue).tdiv penaltyPrecision)

variable {n n' : Numeral}

/-- The texts are read as the numbers they denote. -/
theorem calculatePenalty_text (face : ℕ) (days : ℤ) (n : Numeral) :
    calculatePenalty (natText face) days n.text =
      some (intText (Collections.calculatePenalty face days n.value)) := by
  have hprecision : penaltyPrecision = 10 ^ 6 := by decide
  have hrate : parseScaled 6 penaltyPrecision n.text = some (parseRate n.value) := by
    rw [parseRate, hprecision, parseScaled_text]
    push_cast
    rfl
  unfold calculatePenalty
  rw [bigInt?_natText, hrate]
  rfl

theorem parseRate_eq (h : n.places.length ≤ 6) : (parseRate n.value : ℚ) = n.value * 10 ^ 6 := by
  have hprecision : (penaltyPrecision : ℚ) = 10 ^ 6 := by norm_num [penaltyPrecision]
  rw [parseRate, hprecision]
  exact floor_scaled h

theorem calculatePenalty_eq (face days : ℕ) (h : n.places.length ≤ 6) :
    Collections.calculatePenalty face days n.value = ⌊face * n.value * days⌋ := by
  have hscaled := parseRate_eq h
  have hnonneg : 0 ≤ parseRate n.value := scaled_nonneg n (by decide)
  rw [Collections.calculatePenalty, tdiv_eq_floor (by positivity) (by decide)]
  congr 1
  push_cast
  rw [hscaled, penaltyPrecision]
  push_cast
  ring

/-- The penalty is the floor of the exact product, it is monotone in the face value, the rate and the days,
and what two periods give apart is at most one unit less than what they give as one. -/
theorem penalty_exact :
    (∀ (face days : ℕ) (n : Numeral), n.places.length ≤ 6 →
      calculatePenalty (natText face) days n.text = some (intText ⌊face * n.value * days⌋)) ∧
      (∀ (face face' days days' : ℕ) (n n' : Numeral), n.places.length ≤ 6 → n'.places.length ≤ 6 →
        face ≤ face' → days ≤ days' → n.value ≤ n'.value →
          ∃ penalty penalty', calculatePenalty (natText face) days n.text = some (intText penalty) ∧
            calculatePenalty (natText face') days' n'.text = some (intText penalty') ∧
              penalty ≤ penalty') ∧
      ∀ (face d₁ d₂ : ℕ) (n : Numeral), n.places.length ≤ 6 →
        ∃ first second both, calculatePenalty (natText face) d₁ n.text = some (intText first) ∧
          calculatePenalty (natText face) d₂ n.text = some (intText second) ∧
          calculatePenalty (natText face) (d₁ + d₂ : ℕ) n.text = some (intText both) ∧
            first + second ≤ both ∧ both ≤ first + second + 1 := by
  have hexact : ∀ (face days : ℕ) (n : Numeral), n.places.length ≤ 6 →
      calculatePenalty (natText face) days n.text = some (intText ⌊face * n.value * days⌋) := by
    intro face days n h
    rw [calculatePenalty_text, calculatePenalty_eq face days h]
  refine ⟨hexact, ?_, ?_⟩
  · intro face face' days days' n n' h h' hface hdays hvalue
    refine ⟨_, _, hexact face days n h, hexact face' days' n' h', ?_⟩
    apply Int.floor_le_floor
    have hface' : (face : ℚ) ≤ face' := by exact_mod_cast hface
    have hdays' : (days : ℚ) ≤ days' := by exact_mod_cast hdays
    have hdaily : face * n.value ≤ face' * n'.value :=
      mul_le_mul hface' hvalue n.value_nonneg face'.cast_nonneg
    exact mul_le_mul hdaily hdays' days.cast_nonneg (mul_nonneg face'.cast_nonneg n'.value_nonneg)
  · intro face d₁ d₂ n h
    have hsum : face * n.value * d₁ + face * n.value * d₂ = face * n.value * (d₁ + d₂ : ℕ) := by
      push_cast
      ring
    refine ⟨_, _, _, hexact face d₁ n h, hexact face d₂ n h, hexact face (d₁ + d₂) n h, ?_, ?_⟩
    · rw [← hsum]
      exact Int.le_floor_add _ _
    · have hfloor := Int.le_floor_add_floor (face * n.value * d₁) (face * n.value * d₂)
      rw [hsum] at hfloor
      omega

/-- The fallback rate, a tenth of a per cent. -/
def tenthPercent : Numeral := .proper [0, 0, 1] (by decide)

theorem penalty_exact_fallback :
    tenthPercent.text = units "0.001" ∧ tenthPercent.places.length ≤ 6 ∧
      calculatePenalty (natText 1500) (3 : ℕ) tenthPercent.text =
        some (intText ⌊(1500 : ℕ) * tenthPercent.value * (3 : ℕ)⌋) :=
  ⟨by decide, by decide, penalty_exact.1 1500 3 tenthPercent (by decide)⟩

example : calculatePenalty (units "1500") 3 (units "0.001") = some (units "4") := by decide +kernel

end Ris.Collections.Texts
