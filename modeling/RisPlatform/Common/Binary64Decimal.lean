import Mathlib.Tactic.Linarith
import Mathlib.Tactic.FieldSimp
import Mathlib.Tactic.Ring
import Mathlib.Tactic.NormNum
import Mathlib.Tactic.Positivity
import RisPlatform.Common.Binary64

/-!
# Decimals that survive a double

A short decimal that is read as a double, printed as its shortest text and stored in a column of its
scale is the decimal again (`numeric_round`).

Shape of the proof: `round` has a relative error of at most `2 ^ -53`; so has the shortest text, which
reads back as the double. Their sum is far less than half a unit of the column.
-/

namespace Binary64

/-! ## Powers of two -/

theorem pow2_eq_zpow (e : ℤ) : pow2 e = (2 : ℚ) ^ e := by
  cases e with
  | ofNat n =>
    show ((2 ^ n : ℕ) : ℚ) = _
    push_cast
    rfl
  | negSucc n =>
    show mkRat 1 (2 ^ (n + 1)) = _
    rw [zpow_negSucc, Rat.mkRat_eq_div]
    push_cast
    rw [one_div]

theorem pow2_pos (e : ℤ) : 0 < pow2 e := by
  rw [pow2_eq_zpow]
  exact zpow_pos (by norm_num) e

theorem pow2_sub (e : ℤ) (n : ℕ) : pow2 (e - n) = pow2 e / 2 ^ n := by
  rw [pow2_eq_zpow, pow2_eq_zpow, zpow_sub₀ (by norm_num), zpow_natCast]

/-- The exponent of a positive number is below its binary logarithm. -/
theorem pow2_exponent_le {q : ℚ} (hq : 0 < q) : pow2 (exponent q) ≤ q := by
  unfold exponent
  dsimp only
  split
  · assumption
  · have hnum : 0 < q.num := Rat.num_pos.2 hq
    have habs : ((q.num.natAbs : ℕ) : ℚ) = q.num := by
      rw [← Int.cast_natCast, Int.natAbs_of_nonneg hnum.le]
    -- the numerator is at least its power of two, the denominator less than the next one
    have hlow : (2 : ℚ) ^ (Nat.log2 q.num.natAbs) ≤ q.num := by
      rw [← habs]
      exact_mod_cast Nat.log2_self_le (by omega)
    have hhigh : (q.den : ℚ) < 2 ^ (Nat.log2 q.den + 1) := by
      exact_mod_cast Nat.lt_log2_self
    have hden : (0 : ℚ) < q.den := by exact_mod_cast q.den_pos
    have hsplit : (Nat.log2 q.num.natAbs : ℤ) - (Nat.log2 q.den : ℤ) - 1 =
        (Nat.log2 q.num.natAbs : ℤ) - ((Nat.log2 q.den + 1 : ℕ) : ℤ) := by
      push_cast
      ring
    rw [hsplit, pow2_sub, pow2_eq_zpow, zpow_natCast, div_le_iff₀ (by positivity)]
    calc (2 : ℚ) ^ (Nat.log2 q.num.natAbs) ≤ q.num := hlow
      _ = q * q.den := (Rat.mul_den_eq_num q).symm
      _ ≤ q * 2 ^ (Nat.log2 q.den + 1) := by
        exact mul_le_mul_of_nonneg_left hhigh.le hq.le

/-! ## The error of rounding -/

theorem abs_roundEven_sub_le (q : ℚ) : |(roundEven q : ℚ) - q| ≤ 1 / 2 := by
  have hhalf : mkRat 1 2 = (1 / 2 : ℚ) := by norm_num
  have hle : (q.floor : ℚ) ≤ q := Rat.floor_le q
  have hlt : q < q.floor + 1 := by exact_mod_cast Rat.lt_floor_add_one q
  unfold roundEven
  simp only [hhalf]
  rw [abs_le]
  split_ifs with h₁ h₂ h₃
  · constructor <;> linarith
  · push_cast
    constructor <;> linarith
  · constructor <;> linarith
  · push_cast
    constructor <;> linarith

/-- The relative error of a double. -/
theorem abs_round_sub_le (q : ℚ) : |round q - q| ≤ |q| / 2 ^ 53 := by
  have habs : (if q < 0 then -q else q) = |q| := by
    split
    · exact (abs_of_neg ‹_›).symm
    · exact (abs_of_nonneg (not_lt.1 ‹_›)).symm
  unfold round
  rw [habs]
  by_cases hzero : q = 0
  · simp [hzero]
  · rw [if_neg hzero]
    dsimp only
    have hunit := pow2_pos (exponent |q| - 52)
    have hle : pow2 (exponent |q| - 52) ≤ |q| / 2 ^ 52 := by
      have h := pow2_sub (exponent |q|) 52
      push_cast at h
      rw [h]
      exact div_le_div_of_nonneg_right (pow2_exponent_le (abs_pos.2 hzero)) (by positivity)
    generalize pow2 (exponent |q| - 52) = unit at hunit hle
    have herr := abs_roundEven_sub_le (q / unit)
    calc |(roundEven (q / unit) : ℚ) * unit - q|
        = |(roundEven (q / unit) : ℚ) - q / unit| * |unit| := by
          rw [← abs_mul, sub_mul, div_mul_cancel₀ _ hunit.ne']
      _ = |(roundEven (q / unit) : ℚ) - q / unit| * unit := by rw [abs_of_pos hunit]
      _ ≤ 1 / 2 * unit := mul_le_mul_of_nonneg_right herr hunit.le
      _ ≤ 1 / 2 * (|q| / 2 ^ 52) := mul_le_mul_of_nonneg_left hle (by norm_num)
      _ = |q| / 2 ^ 53 := by ring

/-- A number that the double is of, is as close to the double. -/
theorem abs_sub_le_of_round_eq {q x : ℚ} (h : round q = x) : |q - x| ≤ |x| / 2 ^ 52 := by
  have herr := abs_round_sub_le q
  rw [h, abs_sub_comm] at herr
  -- `|q| ≤ |x| + |q| / 2 ^ 53`
  have htri : |q| ≤ |q - x| + |x| := by
    have h := abs_add_le (q - x) x
    rwa [sub_add_cancel] at h
  have hnn := abs_nonneg q
  have hbound : |q| ≤ 2 * |x| := by
    have hsmall : |q| / 2 ^ 53 ≤ |q| / 2 := by
      exact div_le_div_of_nonneg_left hnn (by norm_num) (by norm_num)
    linarith
  calc |q - x| ≤ |q| / 2 ^ 53 := herr
    _ ≤ 2 * |x| / 2 ^ 53 := div_le_div_of_nonneg_right hbound (by positivity)
    _ = |x| / 2 ^ 52 := by ring

/-- The shortest text reads back as the double, unless it is the double. -/
theorem shortest_eq_or_round (x : ℚ) : shortest x = x ∨ round (shortest x) = x := by
  unfold shortest
  cases hfind : ((List.range 17).map fun n => significant (n + 1) x).find? fun q => round q = x with
  | none => exact Or.inl rfl
  | some q =>
    refine Or.inr ?_
    have hq := List.find?_some hfind
    simpa using hq

theorem abs_shortest_sub_le (x : ℚ) : |shortest x - x| ≤ |x| / 2 ^ 52 := by
  rcases shortest_eq_or_round x with heq | hround
  · rw [heq, sub_self, abs_zero]
    positivity
  · exact abs_sub_le_of_round_eq hround

/-! ## Columns -/

/-- What is closer than one half to an integer is rounded to it. -/
theorem nearestInt_eq {x : ℚ} {n : ℤ} (h : |x - n| < 1 / 2) : nearestInt x = n := by
  have hhalf : mkRat 1 2 = (1 / 2 : ℚ) := by norm_num
  obtain ⟨hlow, hhigh⟩ := abs_lt.1 h
  rw [nearestInt, hhalf]
  show ⌊x + 1 / 2⌋ = n
  rw [Int.floor_eq_iff]
  constructor
  · linarith
  · linarith

/-- The column keeps what is close to one of its values. -/
theorem nearestInt_shortest {scale : ℕ} {n : ℤ} {x : ℚ} (hn : |n| < 2 ^ 48)
    (hx : |x - n / 10 ^ scale| ≤ |(n : ℚ) / 10 ^ scale| / 2 ^ 53) :
    nearestInt (shortest x * 10 ^ scale) = n := by
  have hten : (0 : ℚ) < 10 ^ scale := by positivity
  have hshort := abs_shortest_sub_le x
  -- both errors in units of the column
  have hunits : |(n : ℚ) / 10 ^ scale| * 10 ^ scale = |(n : ℚ)| := by
    rw [abs_div, abs_of_pos hten, div_mul_cancel₀ _ hten.ne']
  have habs : |x| ≤ 2 * |(n : ℚ) / 10 ^ scale| := by
    have htri : |x| ≤ |x - n / 10 ^ scale| + |(n : ℚ) / 10 ^ scale| := by
      have h := abs_add_le (x - (n : ℚ) / 10 ^ scale) (n / 10 ^ scale)
      rwa [sub_add_cancel] at h
    have hsmall : |(n : ℚ) / 10 ^ scale| / 2 ^ 53 ≤ |(n : ℚ) / 10 ^ scale| := by
      exact div_le_self (abs_nonneg _) (by norm_num)
    linarith
  have hdist : |shortest x - n / 10 ^ scale| ≤ |(n : ℚ) / 10 ^ scale| / 2 ^ 50 := by
    have htri : |shortest x - n / 10 ^ scale| ≤ |shortest x - x| + |x - n / 10 ^ scale| := by
      have h := abs_add_le (shortest x - x) (x - (n : ℚ) / 10 ^ scale)
      rwa [sub_add_sub_cancel] at h
    have hnn := abs_nonneg ((n : ℚ) / 10 ^ scale)
    have hfirst : |shortest x - x| ≤ 2 * |(n : ℚ) / 10 ^ scale| / 2 ^ 52 :=
      hshort.trans (div_le_div_of_nonneg_right habs (by positivity))
    calc |shortest x - n / 10 ^ scale|
        ≤ 2 * |(n : ℚ) / 10 ^ scale| / 2 ^ 52 + |(n : ℚ) / 10 ^ scale| / 2 ^ 53 := by linarith
      _ = |(n : ℚ) / 10 ^ scale| * (2 / 2 ^ 52 + 1 / 2 ^ 53) := by ring
      _ ≤ |(n : ℚ) / 10 ^ scale| * (1 / 2 ^ 50) := mul_le_mul_of_nonneg_left (by norm_num) hnn
      _ = |(n : ℚ) / 10 ^ scale| / 2 ^ 50 := by ring
  have hn' : |(n : ℚ)| < 2 ^ 48 := by exact_mod_cast hn
  refine nearestInt_eq ?_
  calc |shortest x * 10 ^ scale - n| = |shortest x - n / 10 ^ scale| * |(10 : ℚ) ^ scale| := by
        rw [← abs_mul, sub_mul, div_mul_cancel₀ _ hten.ne']
    _ = |shortest x - n / 10 ^ scale| * 10 ^ scale := by rw [abs_of_pos hten]
    _ ≤ |(n : ℚ) / 10 ^ scale| / 2 ^ 50 * 10 ^ scale := mul_le_mul_of_nonneg_right hdist hten.le
    _ = |(n : ℚ)| / 2 ^ 50 := by rw [div_mul_eq_mul_div, hunits]
    _ < 1 / 2 := by
      rw [div_lt_iff₀ (by positivity)]
      calc |(n : ℚ)| < 2 ^ 48 := hn'
        _ ≤ 1 / 2 * 2 ^ 50 := by norm_num

/-- A short decimal is stored as itself in a column of its scale. -/
theorem numeric_round {scale : ℕ} {n : ℤ} (hn : |n| < 2 ^ 48) :
    numeric scale (round (n / 10 ^ scale)) = n / 10 ^ scale := by
  have hten : (0 : ℚ) < 10 ^ scale := by positivity
  have herr := abs_round_sub_le ((n : ℚ) / 10 ^ scale)
  generalize round ((n : ℚ) / 10 ^ scale) = x at herr
  -- the double has the sign of the decimal
  have hhalf : |(n : ℚ) / 10 ^ scale| / 2 ^ 53 ≤ |(n : ℚ) / 10 ^ scale| / 2 :=
    div_le_div_of_nonneg_left (abs_nonneg _) (by norm_num) (by norm_num)
  obtain ⟨hlow, hhigh⟩ := abs_le.1 (herr.trans hhalf)
  rcases lt_trichotomy n 0 with hneg | hzero | hpos
  · have hq : (n : ℚ) / 10 ^ scale < 0 := div_neg_of_neg_of_pos (by exact_mod_cast hneg) hten
    rw [abs_of_neg hq] at hlow hhigh
    have hx : x < 0 := by linarith
    have hflip : |(-x) - ((-n : ℤ) : ℚ) / 10 ^ scale| ≤ |((-n : ℤ) : ℚ) / 10 ^ scale| / 2 ^ 53 := by
      rw [Int.cast_neg, neg_div, abs_neg, neg_sub_neg, abs_sub_comm]
      exact herr
    have hstored := nearestInt_shortest (by rwa [abs_neg]) hflip
    simp only [numeric, if_neg hx.ne, if_pos hx, hstored]
    rw [Int.cast_neg, neg_div, neg_neg]
  · subst hzero
    simp only [Int.cast_zero, zero_div, abs_zero] at hlow hhigh ⊢
    have hx : x = 0 := by linarith
    rw [hx, numeric, if_pos rfl]
  · have hq : 0 < (n : ℚ) / 10 ^ scale := div_pos (by exact_mod_cast hpos) hten
    rw [abs_of_pos hq] at hlow hhigh
    have hx : 0 < x := by linarith
    have hstored := nearestInt_shortest hn herr
    simp only [numeric, if_neg hx.ne', if_neg hx.le.not_gt, hstored]

end Binary64
