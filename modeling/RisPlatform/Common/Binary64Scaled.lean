import Mathlib.Tactic.GCongr
import RisPlatform.Common.Binary64Order

/-!
# Scaled decimals as doubles

A decimal with `m` parts to the unit, held in a double: multiplying by `m` and rounding gives the number of
its parts back (`nearestInt_mul_round`), and comparing doubles compares the numbers of parts
(`round_div_le_iff`), as long as these are well below the precision of a double.
-/

namespace Binary64

/-- An integer of at most 53 bits is a double. -/
theorem round_natCast {n : ℕ} (hn : n < 2 ^ 53) : round (n : ℚ) = n := by
  rcases Nat.eq_zero_or_pos n with rfl | hpos
  · simp
  · have hq : (0 : ℚ) < n := by exact_mod_cast hpos
    have hexp : exponent (n : ℚ) ≤ 52 := by
      have hlt : pow2 (exponent (n : ℚ)) < pow2 53 := by
        calc pow2 (exponent (n : ℚ)) ≤ n := pow2_exponent_le hq
          _ < 2 ^ 53 := by exact_mod_cast hn
          _ = pow2 53 := by rw [pow2_eq_zpow]; norm_num
      by_contra hnot
      exact absurd (pow2_le_pow2 (by omega : 53 ≤ exponent (n : ℚ))) (not_le.2 hlt)
    -- the unit divides one
    obtain ⟨k, hk⟩ : ∃ k : ℕ, exponent (n : ℚ) - 52 = -(k : ℤ) :=
      ⟨(52 - exponent (n : ℚ)).toNat, by omega⟩
    have hunit : pow2 (exponent (n : ℚ) - 52) = 1 / 2 ^ k := by
      rw [pow2_eq_zpow, hk, zpow_neg, zpow_natCast, one_div]
    have hparts : (n : ℚ) / pow2 (exponent (n : ℚ) - 52) = ((n * 2 ^ k : ℕ) : ℤ) := by
      rw [hunit]
      push_cast
      field_simp
    rw [round_of_pos hq, hparts, roundEven_intCast, ← hparts, div_mul_cancel₀ _ (pow2_pos _).ne']

variable {m : ℕ}

/-- The number of parts comes back. -/
theorem nearestInt_mul_round (hm : 0 < m) {n : ℤ} (hn : |n| < 2 ^ 48) :
    nearestInt (mul (round (n / m)) m) = n := by
  have hmpos : (0 : ℚ) < m := by exact_mod_cast hm
  have hn' : |(n : ℚ)| < 2 ^ 48 := by exact_mod_cast hn
  have hfirst := abs_round_sub_le ((n : ℚ) / m)
  have hsecond := abs_round_sub_le (round ((n : ℚ) / m) * m)
  generalize round ((n : ℚ) / m) = x at hfirst hsecond ⊢
  -- the first error in parts
  have hparts : |x * m - n| ≤ |(n : ℚ)| / 2 ^ 53 := by
    calc |x * m - n| = |x - n / m| * m := by
          rw [← abs_of_pos hmpos, ← abs_mul, abs_of_pos hmpos, sub_mul, div_mul_cancel₀ _ hmpos.ne']
      _ ≤ |(n : ℚ) / m| / 2 ^ 53 * m := mul_le_mul_of_nonneg_right hfirst hmpos.le
      _ = |(n : ℚ)| / 2 ^ 53 := by
        rw [abs_div, abs_of_pos hmpos]
        field_simp
  have hsize : |x * m| ≤ 2 ^ 49 := by
    have htri : |x * m| ≤ |x * m - n| + |(n : ℚ)| := by
      have h := abs_add_le (x * m - n) (n : ℚ)
      rwa [sub_add_cancel] at h
    have hsmall : |(n : ℚ)| / 2 ^ 53 ≤ |(n : ℚ)| := div_le_self (abs_nonneg _) (by norm_num)
    linarith
  apply nearestInt_eq
  rw [mul]
  calc |round (x * m) - n| ≤ |round (x * m) - x * m| + |x * m - n| := by
        have h := abs_add_le (round (x * m) - x * m) (x * m - n)
        rwa [sub_add_sub_cancel] at h
    _ ≤ |x * m| / 2 ^ 53 + |(n : ℚ)| / 2 ^ 53 := add_le_add hsecond hparts
    _ ≤ 2 ^ 49 / 2 ^ 53 + 2 ^ 48 / 2 ^ 53 := by gcongr
    _ < 1 / 2 := by norm_num

/-- A double up to a power of two is that close to its number. -/
theorem abs_round_sub_le_of_le {q : ℚ} {e : ℤ} (hq : 0 ≤ q) (hle : q ≤ pow2 e) :
    |round q - q| ≤ pow2 (e - 53) / 2 := by
  obtain rfl | hpos := hq.eq_or_lt
  · have h := pow2_pos (e - 53)
    simp only [round_zero, sub_zero, abs_zero]
    linarith
  · have hunit := pow2_pos (exponent q - 52)
    obtain hexp | hexp := lt_or_ge (exponent q) e
    · calc |round q - q|
          = |(roundEven (q / pow2 (exponent q - 52)) : ℚ) - q / pow2 (exponent q - 52)| *
              pow2 (exponent q - 52) := by
            rw [round_of_pos hpos, ← abs_of_pos hunit, ← abs_mul, abs_of_pos hunit, sub_mul,
              div_mul_cancel₀ _ hunit.ne']
        _ ≤ 1 / 2 * pow2 (exponent q - 52) :=
            mul_le_mul_of_nonneg_right (abs_roundEven_sub_le _) hunit.le
        _ ≤ 1 / 2 * pow2 (e - 53) :=
            mul_le_mul_of_nonneg_left (pow2_le_pow2 (by omega)) (by norm_num)
        _ = pow2 (e - 53) / 2 := by ring
    · -- Only the power of two itself is left, and it is a double.
      have heq : q = pow2 (exponent q) :=
        le_antisymm (hle.trans (pow2_le_pow2 hexp)) (pow2_exponent_le hpos)
      have hparts := pow2_div_unit (exponent q) 0
      rw [Nat.cast_zero, add_zero, ← heq] at hparts
      have hround : round q = q := by
        rw [round_of_pos hpos, hparts, roundEven_intCast, ← hparts, div_mul_cancel₀ _ hunit.ne']
      have h := pow2_pos (e - 53)
      rw [hround, sub_self, abs_zero]
      linarith

section Compare

variable {e j k n : ℕ} (hm : 0 < m) (hfine : m * 2 ^ e < 2 ^ 53) (hk : k ≤ m * 2 ^ e)
include hm hfine hk

/-- Different decimals are different doubles, up to where doubles are no coarser than decimals. -/
theorem round_div_lt (hjk : j < k) : round ((j : ℚ) / m) < round ((k : ℚ) / m) := by
  have hmpos : (0 : ℚ) < m := by exact_mod_cast hm
  have hpow : pow2 e = 2 ^ e := by rw [pow2_eq_zpow, zpow_natCast]
  have hnear {i : ℕ} (hi : i ≤ m * 2 ^ e) : |round ((i : ℚ) / m) - i / m| ≤ pow2 ((e : ℤ) - 53) / 2 := by
    apply abs_round_sub_le_of_le (by positivity)
    rw [hpow, div_le_iff₀ hmpos, mul_comm]
    exact_mod_cast hi
  have hj := (abs_le.1 (hnear (hjk.le.trans hk))).2
  have hk := (abs_le.1 (hnear hk)).1
  have hstep : (j : ℚ) / m + 1 / m ≤ k / m := by
    rw [← add_div]
    gcongr
    exact_mod_cast hjk
  have hgap : pow2 ((e : ℤ) - 53) < 1 / m := by
    have hsub : pow2 ((e : ℤ) - 53) = 2 ^ e / 2 ^ 53 := by
      rw [← hpow]
      exact pow2_sub e 53
    rw [hsub, div_lt_div_iff₀ (by positivity) hmpos, one_mul, mul_comm]
    exact_mod_cast hfine
  linarith

/-- A decimal is compared with a quotient of any size by the numbers of their parts. -/
theorem round_div_le_iff : round ((k : ℚ) / m) ≤ round (round (n : ℚ) / m) ↔ k ≤ n := by
  have hmpos : (0 : ℚ) < m := by exact_mod_cast hm
  constructor
  · intro h
    by_contra hnot
    have hnk : n < k := not_le.1 hnot
    rw [round_natCast (by omega : n < 2 ^ 53)] at h
    exact absurd h (not_le.2 (round_div_lt hm hfine hk hnk))
  · intro h
    apply round_mono
    have hround : (k : ℚ) ≤ round n := by
      rw [← round_natCast (by omega : k < 2 ^ 53)]
      apply round_mono
      exact_mod_cast h
    gcongr

end Compare

end Binary64
