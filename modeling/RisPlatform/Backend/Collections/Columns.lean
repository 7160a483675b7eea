import Mathlib.Data.Rat.Floor
import RisPlatform.Backend.Collections.Views
import RisPlatform.Common.RoundAway

/-!
# Amounts in whole cents

What the columns of amounts make of a decimal: they store its number of cents.
-/

namespace Ris.Backend.Collections

open DecimalContext (ulp)

variable {q x : ℚ} {n : ℤ}

/-- The cents that a column stores for an amount. -/
def cents (q : ℚ) : ℤ := roundAway (q * 100)

theorem abs_cents (q : ℚ) : |cents q| = ⌊|q| * 100 + 1 / 2⌋ := by
  have hround : ∀ x : ℚ, 0 ≤ x → 0 ≤ round x := fun x hx => by
    rw [round_eq, Int.floor_nonneg]
    linarith
  unfold cents
  rcases lt_or_ge q 0 with h | h
  · rw [roundAway_of_neg (by linarith), abs_neg, abs_of_nonneg (hround _ (by linarith)), abs_of_neg h,
      round_eq, neg_mul]
  · rw [roundAway_of_nonneg (by linarith), abs_of_nonneg (hround _ (by linarith)), abs_of_nonneg h, round_eq]

theorem abs_cents_le (h : |x| ≤ |q|) : |cents x| ≤ |cents q| := by
  rw [abs_cents, abs_cents]
  apply Int.floor_le_floor
  linarith

theorem cents_mono (h : x ≤ q) : cents x ≤ cents q := roundAway_mono (by linarith)

theorem cents_nonneg (hq : 0 ≤ q) : 0 ≤ cents q := by
  rw [cents, roundAway_of_nonneg (by linarith), round_eq, Int.floor_nonneg]
  linarith

theorem cents_neg (q : ℚ) : cents (-q) = -cents q := by
  rw [cents, neg_mul, roundAway_neg, cents]

/-- The column has the sign of the amount. -/
theorem signed_cents (q : ℚ) : (if q < 0 then -|cents q| else |cents q|) = cents q := by
  split
  · next h =>
    have hneg := cents_nonneg (neg_nonneg.2 h.le)
    rw [cents_neg] at hneg
    rw [abs_of_nonpos (by omega), neg_neg]
  · next h => exact abs_of_nonneg (cents_nonneg (not_lt.1 h))

theorem numeric_eq (q : ℚ) :
    numeric q = if |cents q| < 10 ^ 18 then some ((cents q : ℚ) / 100) else none := by
  have hfloor : (|q| * 100 + 1 / 2).floor = |cents q| := (abs_cents q).symm
  have hlimit : ((|cents q| : ℤ) : ℚ) / 100 < 10 ^ 16 ↔ |cents q| < 10 ^ 18 := by
    rw [div_lt_iff₀ (by norm_num), ← Int.cast_lt (R := ℚ)]
    norm_num
  have hsign : (if q < 0 then -(((|cents q| : ℤ) : ℚ) / 100) else ((|cents q| : ℤ) : ℚ) / 100) =
      (cents q : ℚ) / 100 := by
    conv_rhs => rw [← signed_cents q]
    split
    · push_cast
      ring
    · rfl
  unfold numeric
  simp only [hfloor, hlimit, hsign]

theorem numeric_eq_some_iff : numeric q = some x ↔ x = cents q / 100 ∧ |cents q| < 10 ^ 18 := by
  rw [numeric_eq]
  split
  · next h => exact ⟨fun hx => ⟨(Option.some.inj hx).symm, h⟩, fun hx => hx.1 ▸ rfl⟩
  · next h => exact ⟨fun hx => (by cases hx), fun hx => absurd hx.2 h⟩

theorem isSome_numeric : (numeric q).isSome ↔ |cents q| < 10 ^ 18 := by
  rw [numeric_eq]
  split
  · next h => exact iff_of_true rfl h
  · next h => exact iff_of_false Bool.false_ne_true h

theorem eq_cents_of_numeric (h : numeric q = some x) : x = cents q / 100 := (numeric_eq_some_iff.1 h).1

/-! ## Cents of sums -/

@[simp]
theorem cents_div (n : ℤ) : cents (n / 100) = n := by
  rw [cents, div_mul_cancel₀ _ (by norm_num), roundAway_intCast]

theorem cents_div_sub (h : ¬ IsHalf (q * 100)) (n : ℤ) : cents (n / 100 - q) = n - cents q := by
  rw [cents, sub_mul, div_mul_cancel₀ _ (by norm_num), roundAway_intCast_sub h, cents]

theorem cents_half_of_nonneg (hn : 0 ≤ n) : cents ((n + 1 / 2) / 100) = n + 1 := by
  rw [cents, div_mul_cancel₀ _ (by norm_num), roundAway_half_of_nonneg hn]

theorem cents_half_of_neg (hn : n < 0) : cents ((n + 1 / 2) / 100) = n := by
  rw [cents, div_mul_cancel₀ _ (by norm_num), roundAway_half_of_neg hn]

/-! ## Cents of rounded sums -/

/-- What a column drops of an amount, with its sign. -/
def dropped (q : ℚ) : ℚ := q - cents q / 100

theorem abs_dropped_le (q : ℚ) : |dropped q| ≤ 1 / 200 := by
  have h := abs_le.1 (abs_roundAway_sub_le (q * 100))
  rw [abs_le, dropped, cents]
  constructor <;> linarith

theorem cents_le_iff (hn : 0 ≤ n) : cents q ≤ n ↔ q < (n + 1 / 2) / 100 := by
  rw [lt_div_iff₀ (by norm_num), cents]
  rcases lt_or_ge (q * 100) 0 with h | h
  · have hneg := roundAway_mono h.le
    rw [← Int.cast_zero, roundAway_intCast] at hneg
    have hcast : (0 : ℚ) ≤ n := by exact_mod_cast hn
    exact iff_of_true (by omega) (by linarith)
  · rw [roundAway_of_nonneg h, round_eq, ← Int.lt_add_one_iff, Int.floor_lt]
    push_cast
    constructor <;> intro <;> linarith

theorem fix_half (hn : |n| < 10 ^ 20) : fix ((n + 1 / 2) / 100) = (n + 1 / 2) / 100 := by
  refine fix_of_digits (m := 10 * n + 5) 3 ?_ ?_
  · push_cast
    ring
  · rw [abs_lt] at hn ⊢
    omega

/-- A sum is stored as at most so many cents if it is below the next half of one with half a unit of its
28th digit on top. -/
theorem cents_fix_le_iff (hn : 0 ≤ n) (hlt : n < 10 ^ 20) :
    cents (fix q) ≤ n ↔ q + ulp 28 q / 2 < (n + 1 / 2) / 100 := by
  have hcast : (0 : ℚ) ≤ n := by exact_mod_cast hn
  have hsmall : (n : ℚ) < 10 ^ 20 := by exact_mod_cast hlt
  have hulp := DecimalContext.ulp_pos 28 q
  rw [cents_le_iff hn]
  rcases lt_or_ge |q| (10 ^ (22 + 1)) with h | h
  · have hlog := DecimalContext.log_lt_of_lt h
    have heq : ((n + 1 / 2) / 100 : ℚ) = ((10 * n + 5 : ℤ) : ℚ) / 10 ^ 3 := by
      push_cast
      ring
    rw [heq]
    exact DecimalContext.round_lt_div_iff (by push_cast; omega)
  · rcases lt_or_ge q 0 with hneg | hpos
    · -- far below zero
      have hle := DecimalContext.ulp_le 28 hneg.ne
      norm_num [abs_of_neg hneg] at hle
      have hfix : fix q ≤ 0 := DecimalContext.round_nonpos hneg.le
      exact iff_of_true (by linarith) (by linarith)
    · -- far above any amount
      rw [abs_of_nonneg hpos] at h
      have hdown := fix_mono h
      rw [fix_of_digits (m := 10 ^ 23) 0 (by norm_num) (by norm_num)] at hdown
      norm_num at h hdown hsmall
      refine iff_of_false (fun hfix => ?_) fun hfix => ?_ <;> linarith

theorem le_cents_fix_iff (hn : 0 < n) (hlt : n < 10 ^ 20) :
    n ≤ cents (fix q) ↔ (n - 1 / 2) / 100 ≤ q + ulp 28 q / 2 := by
  have hhalf : (((n - 1 : ℤ) : ℚ) + 1 / 2) / 100 = (n - 1 / 2) / 100 := by
    push_cast
    ring
  rw [← not_lt, ← Int.le_sub_one_iff, cents_fix_le_iff (by omega) (by omega), hhalf, not_lt]

theorem cents_fix_neg (q : ℚ) : cents (fix (-q)) = -cents (fix q) := by
  rw [fix, DecimalContext.round_neg, cents_neg, fix]

/-- It is stored as at least so many cents if it is no less than the half of one before. -/
theorem le_cents_fix (hn : 0 ≤ n) (hlt : n < 10 ^ 20) (hq : 0 ≤ q) (h : (n - 1 / 2) / 100 ≤ q) :
    n ≤ cents (fix q) := by
  rcases hn.eq_or_lt with rfl | hpos
  · exact cents_nonneg (DecimalContext.round_nonneg hq)
  · have hhalf : ((n - 1 / 2) / 100 : ℚ) = (((n - 1 : ℤ) : ℚ) + 1 / 2) / 100 := by
      push_cast
      ring
    rw [hhalf] at h
    have hmono := cents_mono (fix_mono h)
    rw [fix_half (abs_lt.2 ⟨by omega, by omega⟩), cents_half_of_nonneg (by omega)] at hmono
    omega

/-- A sum that is nearest to so many cents is stored as that, unless half a unit of its 28th digit on top takes
it to the next half of one. -/
theorem cents_fix_eq_iff (hn : 0 ≤ n) (hlt : n < 10 ^ 20) (hq : 0 ≤ q) (h : (n - 1 / 2) / 100 ≤ q) :
    cents (fix q) = n ↔ q - n / 100 + ulp 28 q / 2 < 1 / 200 := by
  have hle := le_cents_fix hn hlt hq h
  rw [le_antisymm_iff, and_iff_left hle, cents_fix_le_iff hn hlt]
  constructor <;> intro <;> linarith

theorem cents_fix_eq_iff_of_pos (hn : 0 < n) (hlt : n < 10 ^ 20) :
    cents (fix q) = n ↔ q - n / 100 + ulp 28 q / 2 < 1 / 200 ∧ -1 / 200 ≤ q - n / 100 + ulp 28 q / 2 := by
  rw [le_antisymm_iff, cents_fix_le_iff hn.le hlt, le_cents_fix_iff hn hlt]
  constructor <;> rintro ⟨_, _⟩ <;> constructor <;> linarith

theorem cents_fix_eq_zero_iff :
    cents (fix q) = 0 ↔ q + ulp 28 q / 2 < 1 / 200 ∧ -q + ulp 28 q / 2 < 1 / 200 := by
  have hflip : 0 ≤ cents (fix q) ↔ cents (fix (-q)) ≤ 0 := by rw [cents_fix_neg, neg_nonpos]
  rw [le_antisymm_iff, hflip, cents_fix_le_iff le_rfl (by norm_num), cents_fix_le_iff le_rfl (by norm_num),
    DecimalContext.ulp_neg, Int.cast_zero]
  norm_num

/-! ## Stored values -/

/-- A column stores the value as it is. -/
def IsStored (x : ℚ) : Prop := numeric x = some x

instance : Decidable (IsStored x) := inferInstanceAs (Decidable (numeric x = some x))

theorem isStored_div (h : |n| < 10 ^ 18) : IsStored (n / 100) :=
  numeric_eq_some_iff.2 (by rw [cents_div]; exact ⟨rfl, h⟩)

theorem isStored_of_numeric (h : numeric q = some x) : IsStored x := by
  obtain ⟨rfl, hlt⟩ := numeric_eq_some_iff.1 h
  exact isStored_div hlt

theorem isStored_zero : IsStored 0 := by
  have h : IsStored (((0 : ℤ) : ℚ) / 100) := isStored_div (by norm_num)
  rwa [Int.cast_zero, zero_div] at h

theorem IsStored.eq_cents (h : IsStored x) : x = cents x / 100 := eq_cents_of_numeric h

/-- The context holds the digits of both parts of a discount. -/
theorem IsStored.fix_parts (h : IsStored x) :
    fix (x * (65 / 100)) = x * (65 / 100) ∧ fix (x - x * (65 / 100)) = x - x * (65 / 100) := by
  have hlt := abs_lt.1 (numeric_eq_some_iff.1 h).2
  constructor
  · refine fix_of_digits (m := 65 * cents x) 4 ?_ (abs_lt.2 ⟨by omega, by omega⟩)
    conv_lhs => rw [h.eq_cents]
    push_cast
    ring
  · refine fix_of_digits (m := 35 * cents x) 4 ?_ (abs_lt.2 ⟨by omega, by omega⟩)
    conv_lhs => rw [h.eq_cents]
    push_cast
    ring

theorem IsStored.nonneg_iff (h : IsStored x) : 0 ≤ x ↔ 0 ≤ cents x := by
  rw [h.eq_cents, cents_div, le_div_iff₀ (by norm_num), zero_mul, Int.cast_nonneg_iff]

theorem IsStored.eq_zero_iff (h : IsStored x) : x = 0 ↔ cents x = 0 := by
  rw [h.eq_cents, cents_div, div_eq_zero_iff]
  norm_num

end Ris.Backend.Collections
