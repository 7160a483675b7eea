import Mathlib.Data.Int.Log
import RisPlatform.Common.Binary64Order

/-!
# Decimals of bounded precision

`round p` is the result of an operation in a context of `p` significant digits, ties to even; exponents
are not bounded. It is within half a unit of the exact result, exact on numbers of `p` digits, and
monotone.
-/

namespace DecimalContext

open Binary64

variable {p : ℕ} {q x y : ℚ}

/-- The unit of the last of `p` digits. -/
def ulp (p : ℕ) (q : ℚ) : ℚ := (10 : ℚ) ^ (Int.log 10 |q| + 1 - p)

/-- The decimal of `p` digits nearest to `q`. -/
def round (p : ℕ) (q : ℚ) : ℚ := roundEven (q / ulp p q) * ulp p q

/-- The integral multiple of `10 ^ (-places)` nearest to `q`: `q.quantize`, where the precision is enough. -/
def quantize (places : ℕ) (q : ℚ) : ℚ := roundEven (q * 10 ^ places) / 10 ^ places

theorem ulp_pos (p : ℕ) (q : ℚ) : 0 < ulp p q := zpow_pos (by norm_num) _

theorem ulp_neg (p : ℕ) (q : ℚ) : ulp p (-q) = ulp p q := by
  rw [ulp, abs_neg, ulp]

theorem round_neg (p : ℕ) (q : ℚ) : round p (-q) = -round p q := by
  rw [round, ulp_neg, neg_div, roundEven_neg, Int.cast_neg, neg_mul, round]

@[simp]
theorem round_zero (p : ℕ) : round p 0 = 0 := by
  have h : roundEven (((0 : ℤ) : ℚ)) = 0 := roundEven_intCast 0
  rw [round, zero_div, ← Int.cast_zero, h, Int.cast_zero, zero_mul]

/-! ## Error -/

theorem abs_round_sub_le_ulp (p : ℕ) (q : ℚ) : |round p q - q| ≤ ulp p q / 2 := by
  have hpos := ulp_pos p q
  have hscaled := mul_le_mul_of_nonneg_right (abs_roundEven_sub_le (q / ulp p q)) hpos.le
  calc |round p q - q| = |(roundEven (q / ulp p q) : ℚ) - q / ulp p q| * ulp p q := by
        rw [← abs_of_pos hpos, ← abs_mul, abs_of_pos hpos, sub_mul, div_mul_cancel₀ _ hpos.ne', round]
    _ ≤ ulp p q / 2 := by linarith

/-- The unit is largest beside a number that begins with 1. -/
theorem ulp_le (p : ℕ) (hq : q ≠ 0) : ulp p q ≤ |q| * (10 : ℚ) ^ (1 - p : ℤ) := by
  have hlog := Int.zpow_log_le_self (b := 10) (by norm_num) (abs_pos.2 hq)
  rw [ulp, add_sub_assoc, zpow_add₀ (by norm_num)]
  exact mul_le_mul_of_nonneg_right (by exact_mod_cast hlog) (zpow_nonneg (by norm_num) _)

/-- The relative error is at most half a unit in the last place of a number that begins with 1. -/
theorem abs_round_sub_le (p : ℕ) (q : ℚ) : |round p q - q| ≤ |q| * (10 : ℚ) ^ (1 - p : ℤ) / 2 := by
  rcases eq_or_ne q 0 with rfl | hne
  · simp
  · linarith [abs_round_sub_le_ulp p q, ulp_le p hne]

/-! ## Exact results -/

/-- A multiple of the unit stays as it is. -/
theorem round_eq_self_of_mul {n : ℤ} (h : q = n * ulp p q) : round p q = q := by
  have hpos := ulp_pos p q
  have hscaled : q / ulp p q = n := (div_eq_iff hpos.ne').2 h
  rw [round, hscaled, roundEven_intCast, ← h]

/-- A number of at most `p` digits stays as it is, wherever its point is. -/
theorem round_of_digits {m : ℤ} {n : ℕ} (hm : |m| < 10 ^ p) : round p (m / 10 ^ n) = m / 10 ^ n := by
  rcases eq_or_ne m 0 with rfl | hne
  · simp
  · set q : ℚ := m / 10 ^ n with hq
    have hpos : 0 < |q| := abs_pos.2 (div_ne_zero (by exact_mod_cast hne) (by positivity))
    have hlog : (10 : ℚ) ^ Int.log 10 |q| ≤ |q| := by
      exact_mod_cast Int.zpow_log_le_self (b := 10) (by norm_num) hpos
    have habs : |q| < (10 : ℚ) ^ (p - n : ℤ) := by
      rw [hq, abs_div, abs_of_pos (by positivity : (0 : ℚ) < 10 ^ n), zpow_sub₀ (by norm_num), zpow_natCast,
        zpow_natCast]
      exact div_lt_div_of_pos_right (by exact_mod_cast hm) (by positivity)
    have hlt : Int.log 10 |q| < p - n := (zpow_lt_zpow_iff_right₀ (by norm_num)).1 (hlog.trans_lt habs)
    -- the unit is a power of ten, at most that of the last digit
    obtain ⟨k, hk⟩ : ∃ k : ℕ, (-n : ℤ) = Int.log 10 |q| + 1 - p + k :=
      ⟨(p - n - 1 - Int.log 10 |q|).toNat, by omega⟩
    refine round_eq_self_of_mul (n := m * 10 ^ k) ?_
    have hunit : ulp p q * 10 ^ k = ((10 : ℚ) ^ n)⁻¹ := by
      rw [ulp, ← zpow_natCast, ← zpow_add₀ (by norm_num), ← hk, zpow_neg, zpow_natCast]
    push_cast
    rw [mul_assoc, mul_comm _ (ulp p q), hunit, hq, div_eq_mul_inv]

/-! ## Order -/

theorem round_nonneg (hq : 0 ≤ q) : 0 ≤ round p q := by
  refine mul_nonneg ?_ (ulp_pos p q).le
  have h := roundEven_mono (div_nonneg hq (ulp_pos p q).le)
  rw [← Int.cast_zero, roundEven_intCast] at h
  exact_mod_cast h

theorem round_nonpos (hq : q ≤ 0) : round p q ≤ 0 := by
  have h := round_nonneg (p := p) (neg_nonneg.2 hq)
  rw [round_neg] at h
  exact neg_nonneg.1 h

/-- A number between two powers of ten is rounded to one between them. -/
theorem round_mem_decade (hp : 1 ≤ p) (hq : 0 < q) :
    (10 : ℚ) ^ Int.log 10 |q| ≤ round p q ∧ round p q ≤ (10 : ℚ) ^ (Int.log 10 |q| + 1) := by
  have hpos := ulp_pos p q
  have hlow : (10 : ℚ) ^ Int.log 10 |q| ≤ q := by
    have h := Int.zpow_log_le_self (b := 10) (by norm_num) (abs_pos.2 hq.ne')
    rw [abs_of_pos hq] at h ⊢
    exact_mod_cast h
  have hhigh : q ≤ (10 : ℚ) ^ (Int.log 10 |q| + 1) := by
    have h := (Int.lt_zpow_succ_log_self (b := 10) (by norm_num) |q|).le
    rw [abs_of_pos hq] at h ⊢
    exact_mod_cast h
  have hscale : ∀ k : ℕ, (10 : ℚ) ^ (Int.log 10 |q| + 1 - p + k) = ((10 ^ k : ℤ) : ℚ) * ulp p q := by
    intro k
    rw [zpow_add₀ (by norm_num), zpow_natCast, ulp, mul_comm]
    push_cast
    rfl
  have hbottom : (10 : ℚ) ^ Int.log 10 |q| = ((10 ^ (p - 1) : ℤ) : ℚ) * ulp p q := by
    rw [← hscale]
    congr 1
    omega
  have htop : (10 : ℚ) ^ (Int.log 10 |q| + 1) = ((10 ^ p : ℤ) : ℚ) * ulp p q := by
    rw [← hscale]
    congr 1
    omega
  constructor
  · rw [hbottom, round]
    refine mul_le_mul_of_nonneg_right ?_ hpos.le
    rw [Int.cast_le, ← roundEven_intCast (10 ^ (p - 1))]
    exact roundEven_mono ((le_div_iff₀ hpos).2 (hbottom ▸ hlow))
  · rw [htop, round]
    refine mul_le_mul_of_nonneg_right ?_ hpos.le
    rw [Int.cast_le, ← roundEven_intCast (10 ^ p)]
    exact roundEven_mono ((div_le_iff₀ hpos).2 (htop ▸ hhigh))

theorem round_mono_of_pos (hp : 1 ≤ p) (hx : 0 < x) (h : x ≤ y) : round p x ≤ round p y := by
  have hy := hx.trans_le h
  have hlog : Int.log 10 |x| ≤ Int.log 10 |y| := by
    rw [abs_of_pos hx, abs_of_pos hy]
    exact Int.log_mono_right hx h
  rcases hlog.eq_or_lt with heq | hlt
  · have hulp : ulp p x = ulp p y := by rw [ulp, heq, ulp]
    rw [round, round, hulp]
    refine mul_le_mul_of_nonneg_right ?_ (ulp_pos p y).le
    exact_mod_cast roundEven_mono (div_le_div_of_nonneg_right h (ulp_pos p y).le)
  · calc round p x ≤ (10 : ℚ) ^ (Int.log 10 |x| + 1) := (round_mem_decade hp hx).2
      _ ≤ (10 : ℚ) ^ Int.log 10 |y| := zpow_le_zpow_right₀ (by norm_num) hlt
      _ ≤ round p y := (round_mem_decade hp hy).1

theorem round_mono (hp : 1 ≤ p) (h : x ≤ y) : round p x ≤ round p y := by
  rcases lt_or_ge 0 x with hx | hx
  · exact round_mono_of_pos hp hx h
  · rcases le_or_gt 0 y with hy | hy
    · exact (round_nonpos hx).trans (round_nonneg hy)
    · have hflip := round_mono_of_pos hp (neg_pos.2 hy) (neg_le_neg h)
      rw [round_neg, round_neg] at hflip
      exact neg_le_neg_iff.1 hflip

theorem round_pos (hp : 1 ≤ p) (hq : 0 < q) : 0 < round p q :=
  (zpow_pos (by norm_num) _).trans_le (round_mem_decade hp hq).1

theorem round_nonpos_iff (hp : 1 ≤ p) : round p q ≤ 0 ↔ q ≤ 0 :=
  ⟨fun h => not_lt.1 fun hq => (round_pos hp hq).not_ge h, round_nonpos⟩

theorem ulp_mono (hx : x ≠ 0) (h : |x| ≤ |y|) : ulp p x ≤ ulp p y := by
  have hlog : Int.log 10 |x| ≤ Int.log 10 |y| := Int.log_mono_right (abs_pos.2 hx) h
  exact zpow_le_zpow_right₀ (by norm_num) (by omega)

theorem quantize_mono (places : ℕ) (h : x ≤ y) : quantize places x ≤ quantize places y := by
  refine div_le_div_of_nonneg_right ?_ (by positivity)
  exact_mod_cast roundEven_mono (mul_le_mul_of_nonneg_right h (by positivity))

/-! ## Ties -/

theorem roundEven_add_half (n : ℤ) : roundEven (n + 1 / 2 : ℚ) = if Even n then n else n + 1 := by
  have hhalf : mkRat 1 2 = (1 / 2 : ℚ) := by norm_num
  have hfloor : (n + 1 / 2 : ℚ).floor = n := by
    show ⌊(n + 1 / 2 : ℚ)⌋ = n
    rw [Int.floor_eq_iff]
    constructor <;> linarith
  unfold roundEven
  simp only [hfloor, hhalf, add_sub_cancel_left, lt_irrefl, if_false, Int.even_iff]

/-- The nearest integer is above `n` if the number is, by more than one half, or by one half and `n` is
odd. -/
theorem roundEven_le_iff {n : ℤ} : roundEven q ≤ n ↔ q < n + 1 / 2 ∨ q = n + 1 / 2 ∧ Even n := by
  have herror := abs_le.1 (abs_roundEven_sub_le q)
  rcases lt_trichotomy q (n + 1 / 2) with hlt | rfl | hgt
  · have hround : (roundEven q : ℚ) < n + 1 := by linarith
    have hle : roundEven q < n + 1 := by exact_mod_cast hround
    exact iff_of_true (by omega) (Or.inl hlt)
  · rw [roundEven_add_half]
    by_cases heven : Even n <;> simp [heven]
  · have hround : (n : ℚ) < roundEven q := by linarith
    have hlt : n < roundEven q := by exact_mod_cast hround
    refine iff_of_false (by omega) ?_
    rintro (h | ⟨h, -⟩) <;> linarith

/-! ## Comparison with shorter decimals -/

/-- A number below an even multiple of its unit is rounded to one below it, unless it is within half a unit. -/
theorem round_lt_mul_iff {m : ℤ} (hm : Even m) :
    round p q < m * ulp p q ↔ q + ulp p q / 2 < m * ulp p q := by
  have hpos := ulp_pos p q
  have hodd : ¬Even (m - 1) := by
    rw [Int.even_sub_one, not_not]
    exact hm
  have hhalf : (((m - 1 : ℤ) : ℚ) + 1 / 2) * ulp p q = m * ulp p q - ulp p q / 2 := by
    push_cast
    ring
  rw [round, mul_lt_mul_iff_left₀ hpos, Int.cast_lt, ← Int.le_sub_one_iff, roundEven_le_iff, or_iff_left fun h => hodd h.2,
    div_lt_iff₀ hpos, hhalf, lt_sub_iff_add_lt]

/-- The same for a decimal with fewer digits after the point. -/
theorem round_lt_div_iff {c : ℤ} {i : ℕ} (h : Int.log 10 |q| + i + 1 < p) :
    round p q < c / 10 ^ i ↔ q + ulp p q / 2 < c / 10 ^ i := by
  obtain ⟨k, hk⟩ : ∃ k : ℕ, (-i : ℤ) = Int.log 10 |q| + 1 - p + (k + 1 : ℕ) :=
    ⟨(p - i - 2 - Int.log 10 |q|).toNat, by push_cast; omega⟩
  have hunit : ulp p q * 10 ^ (k + 1) = ((10 : ℚ) ^ i)⁻¹ := by
    rw [ulp, ← zpow_natCast, ← zpow_add₀ (by norm_num), ← hk, zpow_neg, zpow_natCast]
  have heq : (c : ℚ) / 10 ^ i = (c * 10 ^ (k + 1) : ℤ) * ulp p q := by
    push_cast
    rw [mul_assoc, mul_comm _ (ulp p q), hunit, div_eq_mul_inv]
  have heven : Even (c * 10 ^ (k + 1)) := Even.mul_left (Even.pow_of_ne_zero (by decide) k.succ_ne_zero) c
  rw [heq, round_lt_mul_iff heven]

theorem log_lt_of_lt {j : ℕ} (h : |q| < 10 ^ (j + 1)) : Int.log 10 |q| < j + 1 := by
  rcases eq_or_ne q 0 with rfl | hne
  · rw [abs_zero, Int.log_zero_right]
    omega
  · rw [← Int.lt_zpow_iff_log_lt (by norm_num) (abs_pos.2 hne)]
    exact_mod_cast h

end DecimalContext
