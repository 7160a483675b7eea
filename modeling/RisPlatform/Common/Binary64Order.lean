import RisPlatform.Common.Binary64Decimal

/-!
# Rounding is monotone

A larger number is rounded to a larger double (`round_mono`), so sums and products of doubles are
monotone as those of numbers are. Within one binade the unit is the same; between two, the power of two
that separates the numbers separates their doubles.
-/

namespace Binary64

/-! ## Integers -/

theorem roundEven_mono {x y : ℚ} (h : x ≤ y) : roundEven x ≤ roundEven y := by
  by_contra hlt
  -- both are within one half of their numbers, so the numbers are equal
  have hstep : (roundEven y : ℚ) + 1 ≤ roundEven x := by exact_mod_cast not_le.1 hlt
  have hx := abs_le.1 (abs_roundEven_sub_le x)
  have hy := abs_le.1 (abs_roundEven_sub_le y)
  obtain rfl : x = y := by linarith
  exact hlt le_rfl

theorem roundEven_intCast (n : ℤ) : roundEven n = n := by
  have h := abs_roundEven_sub_le (n : ℚ)
  have hlt : |((roundEven n - n : ℤ) : ℚ)| < 1 := by
    push_cast
    exact h.trans_lt (by norm_num)
  have hzero : |roundEven (n : ℚ) - n| < 1 := by exact_mod_cast hlt
  have := Int.abs_lt_one_iff.1 hzero
  omega

theorem roundEven_neg (q : ℚ) : roundEven (-q) = -roundEven q := by
  have hhalf : mkRat 1 2 = (1 / 2 : ℚ) := by norm_num
  by_cases hint : (q.floor : ℚ) = q
  · rw [← hint, ← Int.cast_neg, roundEven_intCast, roundEven_intCast]
  · -- the fractional parts add up to one
    have hle : (q.floor : ℚ) ≤ q := Rat.floor_le q
    have hlt : q < q.floor + 1 := by exact_mod_cast Rat.lt_floor_add_one q
    have hpos : (q.floor : ℚ) < q := lt_of_le_of_ne hle hint
    have hfloor : (-q).floor = -q.floor - 1 := by
      show ⌊-q⌋ = -q.floor - 1
      rw [Int.floor_eq_iff]
      push_cast
      constructor <;> linarith
    unfold roundEven
    simp only [hhalf, hfloor]
    push_cast
    split_ifs <;> first | omega | (exfalso; linarith)

/-! ## Binades -/

/-- The exponent of a positive number is its binary logarithm. -/
theorem lt_pow2_exponent {q : ℚ} (hq : 0 < q) : q < pow2 (exponent q + 1) := by
  unfold exponent
  dsimp only
  split
  · have hnum : 0 < q.num := Rat.num_pos.2 hq
    have habs : ((q.num.natAbs : ℕ) : ℚ) = q.num := by
      rw [← Int.cast_natCast, Int.natAbs_of_nonneg hnum.le]
    have hhigh : (q.num : ℚ) < 2 ^ (Nat.log2 q.num.natAbs + 1) := by
      rw [← habs]
      exact_mod_cast Nat.lt_log2_self
    have hlow : (2 : ℚ) ^ (Nat.log2 q.den) ≤ q.den := by
      exact_mod_cast Nat.log2_self_le q.den_ne_zero
    have hsplit : (Nat.log2 q.num.natAbs : ℤ) - (Nat.log2 q.den : ℤ) + 1 =
        ((Nat.log2 q.num.natAbs + 1 : ℕ) : ℤ) - (Nat.log2 q.den : ℕ) := by
      push_cast
      ring
    rw [hsplit, pow2_sub, pow2_eq_zpow, zpow_natCast, lt_div_iff₀ (by positivity)]
    calc q * 2 ^ (Nat.log2 q.den) ≤ q * q.den := mul_le_mul_of_nonneg_left hlow hq.le
      _ = q.num := Rat.mul_den_eq_num q
      _ < 2 ^ (Nat.log2 q.num.natAbs + 1) := hhigh
  · rw [sub_add_cancel]
    exact not_le.1 ‹_›

theorem pow2_le_pow2 {e f : ℤ} (h : e ≤ f) : pow2 e ≤ pow2 f := by
  rw [pow2_eq_zpow, pow2_eq_zpow]
  exact zpow_le_zpow_right₀ (by norm_num) h

theorem exponent_mono {x y : ℚ} (hx : 0 < x) (h : x ≤ y) : exponent x ≤ exponent y := by
  have hlt : pow2 (exponent x) < pow2 (exponent y + 1) :=
    (pow2_exponent_le hx).trans_lt (h.trans_lt (lt_pow2_exponent (hx.trans_le h)))
  by_contra hnot
  exact absurd (pow2_le_pow2 (by omega : exponent y + 1 ≤ exponent x)) (not_le.2 hlt)

/-! ## Doubles -/

theorem round_of_pos {q : ℚ} (hq : 0 < q) :
    round q = roundEven (q / pow2 (exponent q - 52)) * pow2 (exponent q - 52) := by
  rw [round, if_neg hq.ne', if_neg hq.le.not_gt]

@[simp] theorem round_zero : round 0 = 0 := rfl

theorem round_neg (q : ℚ) : round (-q) = -round q := by
  rcases lt_trichotomy q 0 with hneg | rfl | hpos
  · have hnot : ¬-q < 0 := not_lt.2 (neg_nonneg.2 hneg.le)
    simp only [round, neg_eq_zero, if_neg hneg.ne, if_neg hnot, if_pos hneg, neg_div, roundEven_neg]
    push_cast
    ring
  · rw [neg_zero, round_zero, neg_zero]
  · have hnot : ¬q < 0 := not_lt.2 hpos.le
    simp only [round, neg_eq_zero, if_neg hpos.ne', if_pos (neg_neg_of_pos hpos), if_neg hnot, neg_neg, neg_div,
      roundEven_neg]
    push_cast
    ring

/-- The unit of a binade divides its ends. -/
theorem pow2_div_unit (e : ℤ) (n : ℕ) : pow2 (e + n) / pow2 (e - 52) = ((2 ^ (52 + n) : ℕ) : ℤ) := by
  rw [pow2_eq_zpow, pow2_eq_zpow, ← zpow_sub₀ (by norm_num)]
  have hexp : e + n - (e - 52) = ((52 + n : ℕ) : ℤ) := by
    push_cast
    ring
  rw [hexp, zpow_natCast]
  norm_cast

/-- Rounding does not leave the closed binade. -/
theorem round_mem_binade {q : ℚ} (hq : 0 < q) :
    pow2 (exponent q) ≤ round q ∧ round q ≤ pow2 (exponent q + 1) := by
  have hunit := pow2_pos (exponent q - 52)
  have hends : ∀ n : ℕ, ((roundEven (pow2 (exponent q + n) / pow2 (exponent q - 52)) : ℤ) : ℚ) *
      pow2 (exponent q - 52) = pow2 (exponent q + n) := by
    intro n
    rw [pow2_div_unit, roundEven_intCast, ← pow2_div_unit, div_mul_cancel₀ _ hunit.ne']
  have hlow := hends 0
  have hhigh := hends 1
  simp only [Nat.cast_zero, add_zero, Nat.cast_one] at hlow hhigh
  rw [round_of_pos hq]
  constructor
  · rw [← hlow]
    refine mul_le_mul_of_nonneg_right ?_ hunit.le
    exact_mod_cast roundEven_mono (div_le_div_of_nonneg_right (pow2_exponent_le hq) hunit.le)
  · rw [← hhigh]
    refine mul_le_mul_of_nonneg_right ?_ hunit.le
    exact_mod_cast roundEven_mono (div_le_div_of_nonneg_right (lt_pow2_exponent hq).le hunit.le)

theorem round_pos {q : ℚ} (hq : 0 < q) : 0 < round q :=
  (pow2_pos _).trans_le (round_mem_binade hq).1

theorem round_nonneg {q : ℚ} (hq : 0 ≤ q) : 0 ≤ round q := by
  rcases hq.eq_or_lt with rfl | hpos
  · exact le_rfl
  · exact (round_pos hpos).le

theorem round_mono_of_pos {x y : ℚ} (hx : 0 < x) (h : x ≤ y) : round x ≤ round y := by
  have hy := hx.trans_le h
  rcases (exponent_mono hx h).eq_or_lt with heq | hlt
  · -- the same unit
    have hunit := pow2_pos (exponent y - 52)
    rw [round_of_pos hx, round_of_pos hy, heq]
    refine mul_le_mul_of_nonneg_right ?_ hunit.le
    exact_mod_cast roundEven_mono (div_le_div_of_nonneg_right h hunit.le)
  · calc round x ≤ pow2 (exponent x + 1) := (round_mem_binade hx).2
      _ ≤ pow2 (exponent y) := pow2_le_pow2 (by omega)
      _ ≤ round y := (round_mem_binade hy).1

theorem round_mono {x y : ℚ} (h : x ≤ y) : round x ≤ round y := by
  rcases lt_or_ge 0 x with hx | hx
  · exact round_mono_of_pos hx h
  · rcases le_or_gt 0 y with hy | hy
    · have hneg := round_nonneg (neg_nonneg.2 hx)
      rw [round_neg] at hneg
      exact (neg_nonneg.1 hneg).trans (round_nonneg hy)
    · have hflip := round_mono_of_pos (neg_pos.2 hy) (neg_le_neg h)
      rw [round_neg, round_neg] at hflip
      exact neg_le_neg_iff.1 hflip

theorem add_mono {x x' y y' : ℚ} (hx : x ≤ x') (hy : y ≤ y') : add x y ≤ add x' y' :=
  round_mono (add_le_add hx hy)

theorem mul_mono_left {x y w : ℚ} (h : x ≤ y) (hw : 0 ≤ w) : mul x w ≤ mul y w :=
  round_mono (mul_le_mul_of_nonneg_right h hw)

theorem mul_anti_left {x y w : ℚ} (h : x ≤ y) (hw : w ≤ 0) : mul y w ≤ mul x w :=
  round_mono (mul_le_mul_of_nonpos_right h hw)

theorem le_nearestInt {n : ℤ} {x : ℚ} : n ≤ nearestInt x ↔ n - mkRat 1 2 ≤ x := by
  show n ≤ ⌊x + mkRat 1 2⌋ ↔ _
  rw [Int.le_floor, sub_le_iff_le_add]

theorem nearestInt_le {n : ℤ} {x : ℚ} : nearestInt x ≤ n ↔ x < n + mkRat 1 2 := by
  have hhalf : mkRat 1 2 = (1 / 2 : ℚ) := by norm_num
  show ⌊x + mkRat 1 2⌋ ≤ n ↔ _
  rw [← Int.lt_add_one_iff, Int.floor_lt, hhalf]
  push_cast
  constructor <;> intro h <;> linarith

/-! ## Sums -/

/-- The relative error of a double that is not negative. -/
theorem round_le_of_nonneg {x : ℚ} (hx : 0 ≤ x) : round x ≤ x * (1 + 1 / 2 ^ 53) := by
  have h := (abs_le.1 (abs_round_sub_le x)).2
  rw [abs_of_nonneg hx] at h
  linarith

theorem le_round_of_nonneg {x : ℚ} (hx : 0 ≤ x) : x * (1 - 1 / 2 ^ 53) ≤ round x := by
  have h := (abs_le.1 (abs_round_sub_le x)).1
  rw [abs_of_nonneg hx] at h
  linarith

/-- A sum of doubles, term by term, is monotone in its terms. -/
theorem foldl_add_mono {α : Type*} {f g : α → ℚ} {as : List α} (h : ∀ a ∈ as, f a ≤ g a) {x y : ℚ}
    (hxy : x ≤ y) : as.foldl (fun sum a => add sum (f a)) x ≤ as.foldl (fun sum a => add sum (g a)) y := by
  induction as generalizing x y with
  | nil => exact hxy
  | cons a as ih =>
    exact ih (fun b hb => h b (List.mem_cons_of_mem _ hb))
      (add_mono hxy (h a List.mem_cons_self))

section Foldl

variable {α : Type*} {f : α → ℚ} {as : List α}

/-- Each addition may add its relative error. -/
theorem foldl_add_le (hf : ∀ a ∈ as, 0 ≤ f a) {x : ℚ} (hx : 0 ≤ x) :
    as.foldl (fun sum a => add sum (f a)) x ≤ (x + (as.map f).sum) * (1 + 1 / 2 ^ 53) ^ as.length := by
  induction as generalizing x with
  | nil => simp
  | cons a as ih =>
    have ha := hf a List.mem_cons_self
    have hrest : ∀ b ∈ as, 0 ≤ f b := fun b hb => hf b (List.mem_cons_of_mem _ hb)
    have hsum : 0 ≤ (as.map f).sum := List.sum_nonneg (by simpa using hrest)
    have hadd : add x (f a) ≤ (x + f a) * (1 + 1 / 2 ^ 53) := round_le_of_nonneg (by positivity)
    calc as.foldl (fun sum a => add sum (f a)) (add x (f a))
        ≤ (add x (f a) + (as.map f).sum) * (1 + 1 / 2 ^ 53) ^ as.length :=
          ih hrest (round_nonneg (by positivity))
      _ ≤ ((x + f a) * (1 + 1 / 2 ^ 53) + (as.map f).sum * (1 + 1 / 2 ^ 53)) *
            (1 + 1 / 2 ^ 53) ^ as.length := by
          refine mul_le_mul_of_nonneg_right (add_le_add hadd ?_) (by positivity)
          exact le_mul_of_one_le_right hsum (by norm_num)
      _ = (x + ((a :: as).map f).sum) * (1 + 1 / 2 ^ 53) ^ (a :: as).length := by
          rw [List.map_cons, List.sum_cons, List.length_cons, pow_succ]
          ring

/-- Each addition may lose its relative error. -/
theorem le_foldl_add (hf : ∀ a ∈ as, 0 ≤ f a) {x : ℚ} (hx : 0 ≤ x) :
    (x + (as.map f).sum) * (1 - 1 / 2 ^ 53) ^ as.length ≤ as.foldl (fun sum a => add sum (f a)) x := by
  induction as generalizing x with
  | nil => simp
  | cons a as ih =>
    have ha := hf a List.mem_cons_self
    have hrest : ∀ b ∈ as, 0 ≤ f b := fun b hb => hf b (List.mem_cons_of_mem _ hb)
    have hsum : 0 ≤ (as.map f).sum := List.sum_nonneg (by simpa using hrest)
    have hadd : (x + f a) * (1 - 1 / 2 ^ 53) ≤ add x (f a) := le_round_of_nonneg (by positivity)
    have hfactor : (0 : ℚ) ≤ 1 - 1 / 2 ^ 53 := by norm_num
    calc (x + ((a :: as).map f).sum) * (1 - 1 / 2 ^ 53) ^ (a :: as).length
        = ((x + f a) * (1 - 1 / 2 ^ 53) + (as.map f).sum * (1 - 1 / 2 ^ 53)) *
            (1 - 1 / 2 ^ 53) ^ as.length := by
          rw [List.map_cons, List.sum_cons, List.length_cons, pow_succ]
          ring
      _ ≤ (add x (f a) + (as.map f).sum) * (1 - 1 / 2 ^ 53) ^ as.length := by
          refine mul_le_mul_of_nonneg_right (add_le_add hadd ?_) (pow_nonneg hfactor _)
          exact mul_le_of_le_one_right hsum (by norm_num)
      _ ≤ as.foldl (fun sum a => add sum (f a)) (add x (f a)) := ih hrest (round_nonneg (by positivity))

end Foldl

end Binary64
