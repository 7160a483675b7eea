import Mathlib.Algebra.Order.Round
import Mathlib.Tactic.Linarith
import Mathlib.Tactic.Ring

/-!
# Rounding to the nearest integer, halves away from zero

`round` rounds halves up, so that the two differ at the negative halves. Away from the halves, rounding
commutes with adding an integer and with subtracting from one.
-/

variable {α : Type*} [Field α] [LinearOrder α] [FloorRing α] {x : α} {n : ℤ}

/-- Half-way between two integers. -/
def IsHalf (x : α) : Prop := ∃ n : ℤ, x = n + 1 / 2

/-- The nearest integer, and the one further from zero if there are two. -/
def roundAway (x : α) : ℤ := if x < 0 then -round (-x) else round x

theorem roundAway_of_nonneg (h : 0 ≤ x) : roundAway x = round x := if_neg h.not_gt

theorem roundAway_of_neg (h : x < 0) : roundAway x = -round (-x) := if_pos h

/-! ## Halves -/

theorem IsHalf.intCast_add (h : IsHalf x) : IsHalf (n + x) := by
  obtain ⟨k, rfl⟩ := h
  refine ⟨n + k, ?_⟩
  push_cast
  ring

theorem IsHalf.neg (h : IsHalf x) : IsHalf (-x) := by
  obtain ⟨k, rfl⟩ := h
  refine ⟨-k - 1, ?_⟩
  push_cast
  ring

theorem isHalf_neg : IsHalf (-x) ↔ IsHalf x :=
  ⟨fun h => neg_neg x ▸ h.neg, IsHalf.neg⟩

theorem isHalf_intCast_add : IsHalf (n + x) ↔ IsHalf x := by
  refine ⟨fun h => ?_, IsHalf.intCast_add⟩
  have hback : IsHalf (((-n : ℤ) : α) + (n + x)) := h.intCast_add
  rwa [Int.cast_neg, neg_add_cancel_left] at hback

/-! ## Rounding -/

variable [IsStrictOrderedRing α]

@[simp]
theorem roundAway_neg (x : α) : roundAway (-x) = -roundAway x := by
  rcases lt_trichotomy x 0 with h | rfl | h
  · rw [roundAway_of_neg h, roundAway_of_nonneg (neg_nonneg.2 h.le), neg_neg]
  · rw [neg_zero, roundAway_of_nonneg le_rfl, round_zero, neg_zero]
  · rw [roundAway_of_neg (neg_lt_zero.2 h), roundAway_of_nonneg h.le, neg_neg]

@[simp]
theorem roundAway_intCast (n : ℤ) : roundAway (n : α) = n := by
  unfold roundAway
  split
  · rw [← Int.cast_neg, round_intCast, neg_neg]
  · exact round_intCast n

theorem abs_roundAway_sub_le (x : α) : |roundAway x - x| ≤ 1 / 2 := by
  rcases lt_or_ge x 0 with h | h
  · have hflip : -(round (-x) : α) - x = -x - round (-x) := by ring
    rw [roundAway_of_neg h, Int.cast_neg, hflip]
    exact abs_sub_round (-x)
  · rw [roundAway_of_nonneg h, abs_sub_comm]
    exact abs_sub_round x

theorem round_neg_of_not_isHalf (h : ¬ IsHalf x) : round (-x) = -round x := by
  obtain ⟨hlo, hhi⟩ := round_eq_iff.1 (rfl : round x = round x)
  -- the lower bound is not reached, for there is a half
  have hne : (round x : α) - 1 / 2 ≠ x := by
    intro heq
    refine h ⟨round x - 1, ?_⟩
    push_cast
    linarith
  have hlt := lt_of_le_of_ne hlo hne
  refine round_eq_iff.2 ⟨?_, ?_⟩
  · push_cast
    linarith
  · push_cast
    linarith

theorem roundAway_eq_round (h : ¬ IsHalf x) : roundAway x = round x := by
  unfold roundAway
  split
  · rw [round_neg_of_not_isHalf h, neg_neg]
  · rfl

theorem roundAway_intCast_add (h : ¬ IsHalf x) (n : ℤ) : roundAway (n + x) = n + roundAway x := by
  rw [roundAway_eq_round (mt isHalf_intCast_add.1 h), roundAway_eq_round h, round_intCast_add]

theorem roundAway_intCast_sub (h : ¬ IsHalf x) (n : ℤ) : roundAway (n - x) = n - roundAway x := by
  rw [sub_eq_add_neg, roundAway_intCast_add (mt isHalf_neg.1 h), roundAway_neg, ← sub_eq_add_neg]

theorem roundAway_half_of_nonneg (hn : 0 ≤ n) : roundAway (n + 1 / 2 : α) = n + 1 := by
  have hhalf : round (1 / 2 : α) = 1 := by
    rw [one_div, round_two_inv]
  rw [roundAway_of_nonneg (by positivity), round_intCast_add, hhalf]

theorem roundAway_half_of_neg (hn : n < 0) : roundAway (n + 1 / 2 : α) = n := by
  have hflip : (n + 1 / 2 : α) = -(((-n - 1 : ℤ) : α) + 1 / 2) := by
    push_cast
    ring
  rw [hflip, roundAway_neg, roundAway_half_of_nonneg (by omega)]
  omega

theorem roundAway_nonneg (h : 0 ≤ x) : 0 ≤ roundAway x := by
  rw [roundAway_of_nonneg h, round_eq, Int.floor_nonneg]
  exact add_nonneg h (by norm_num)

theorem roundAway_mono {y : α} (h : x ≤ y) : roundAway x ≤ roundAway y := by
  have hround : ∀ {a b : α}, a ≤ b → round a ≤ round b := fun hab => by
    rw [round_eq, round_eq]
    exact Int.floor_le_floor (add_le_add_left hab _)
  rcases lt_or_ge x 0 with hx | hx
  · have hneg : roundAway x ≤ 0 := by
      rw [← neg_neg x, roundAway_neg]
      exact neg_nonpos.2 (roundAway_nonneg (neg_nonneg.2 hx.le))
    rcases lt_or_ge y 0 with hy | hy
    · rw [roundAway_of_neg hx, roundAway_of_neg hy]
      exact neg_le_neg (hround (neg_le_neg h))
    · exact hneg.trans (roundAway_nonneg hy)
  · rw [roundAway_of_nonneg hx, roundAway_of_nonneg (hx.trans h)]
    exact hround h
