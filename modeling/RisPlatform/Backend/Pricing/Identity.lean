import Mathlib.Data.Nat.Prime.Int
import Mathlib.Tactic.NormNum.Prime
import RisPlatform.Backend.Pricing.Calculator

/-!
# The figures of a priced invoice

In whole cents: the advance is rounded once, by its column; the fee for the time twice by the decimals and
then to cents; and what is left is their difference, unless that is negative. The stored figures fit
together exactly if the fee is not above the advance as it is stored. The two roundings of the decimals do
not matter: the exact fee is a multiple of 1/3650000 of a cent, and where it is half-way between two cents
around the advance, they leave it as it is. There the tenor is one of whole fifths of a year, but for two
invoices of a few shillings.
-/

namespace Ris.Backend.Pricing

open Backend.Collections
open Backend.Invoices (RiskGrade)

/-! ## The law -/

/-- The net advance is the advance less the fee, none of it negative. -/
structure Consistent (invoice : Invoices.Invoice) : Prop where
  identity : invoice.netAdvanceUgx = invoice.advanceAmountUgx - invoice.discountFeeUgx
  nonneg : 0 ≤ invoice.netAdvanceUgx
  fee_le : invoice.discountFeeUgx ≤ invoice.advanceAmountUgx

/-- Face value times annual rate times tenor over 365, in cents. -/
def exactFee (invoice : Invoices.Invoice) (grade : RiskGrade) : ℚ :=
  cents invoice.faceValueUgx * annualRate grade * calculateTenorDays invoice / 3650000

/-- The advance in cents, before it is rounded. -/
def exactAdvance (invoice : Invoices.Invoice) (grade : RiskGrade) : ℚ :=
  cents invoice.faceValueUgx * advanceRate grade / 100

/-- The longest tenor of a grade for which the exact fee is not above the exact advance. -/
def longestTenor : RiskGrade → ℤ
  | .low => 2001
  | .medium => 1743
  | .high => 1578
  | .critical => 1424

/-- From 61 shillings on, the tenor is at most the longest of the grade. Below, the exact fee is less than
half a cent above the rounded advance, or half a cent and the advance is even in cents; and no negative
advance is half-way between two cents. -/
def Covered (invoice : Invoices.Invoice) (grade : RiskGrade) : Prop :=
  if 61 ≤ invoice.faceValueUgx then calculateTenorDays invoice ≤ longestTenor grade
  else
    (exactFee invoice grade < roundAway (exactAdvance invoice grade) + 1 / 2 ∨
      exactFee invoice grade = roundAway (exactAdvance invoice grade) + 1 / 2 ∧
        Even (roundAway (exactAdvance invoice grade))) ∧
      ¬(invoice.faceValueUgx < 0 ∧ IsHalf (exactAdvance invoice grade))

/-- The fee has more digits than its column. -/
def TooLarge (invoice : Invoices.Invoice) (grade : RiskGrade) : Prop :=
  10 ^ 18 - 1 / 2 < |exactFee invoice grade|

/-! ## The fee -/

section Fee

variable {F t : ℤ} {grade : RiskGrade}

/-- The fee in cents, before it is rounded to cents. -/
def rawFee (F : ℤ) (grade : RiskGrade) (t : ℤ) : ℚ :=
  discountFee ((F : ℚ) / 100) ((annualRate grade : ℚ) / 100) t * 100

theorem fix_annualRate (grade : RiskGrade) :
    fix ((annualRate grade : ℚ) / 100 / 100) = annualRate grade / 10 ^ 4 := by
  refine (fix_of_digits (m := annualRate grade) 4 ?_ ?_).trans ?_
  · ring
  · obtain ⟨hpos, hle⟩ := abs_annualRate_le grade
    rw [abs_of_pos hpos]
    linarith
  · ring

theorem fix_yearly (hF : |F| < 10 ^ 18) :
    fix ((F : ℚ) / 100 * (annualRate grade / 10 ^ 4)) = F * annualRate grade / 10 ^ 6 := by
  refine (fix_of_digits (m := F * annualRate grade) 6 ?_ ?_).trans ?_
  · push_cast
    ring
  · obtain ⟨hpos, hle⟩ := abs_annualRate_le grade
    rw [abs_mul, abs_of_pos hpos]
    nlinarith [abs_nonneg F]
  · ring

theorem rawFee_eq (hF : |F| < 10 ^ 18) :
    rawFee F grade t = fix (F * annualRate grade / 10 ^ 6 * fix (t / 365)) * 100 := by
  rw [rawFee, discountFee, fix_annualRate, fix_yearly hF]

theorem abs_fix_sub_le (q : ℚ) : |fix q - q| ≤ |q| / 10 ^ 27 / 2 := by
  have h := DecimalContext.abs_round_sub_le 28 q
  have hpower : (10 : ℚ) ^ (1 - (28 : ℕ) : ℤ) = 1 / 10 ^ 27 := by norm_num
  rw [hpower, mul_one_div] at h
  exact h

/-- The two roundings move the fee by very little. -/
theorem abs_rawFee_sub_le (grade : RiskGrade) (t : ℤ) (hF : |F| < 10 ^ 18) :
    |rawFee F grade t - F * annualRate grade * t / 3650000| ≤
      |(F * annualRate grade * t / 3650000 : ℚ)| / 10 ^ 26 := by
  set base : ℚ := F * annualRate grade / 10 ^ 6 with hbase
  set fee : ℚ := base * (t / 365) with hfeeEq
  have hcents : (F * annualRate grade * t / 3650000 : ℚ) = fee * 100 := by
    rw [hfeeEq, hbase]
    ring
  have hfactor : |base * fix (t / 365) - fee| ≤ |fee| / 10 ^ 27 / 2 := by
    have h := mul_le_mul_of_nonneg_left (abs_fix_sub_le ((t : ℚ) / 365)) (abs_nonneg base)
    rw [← abs_mul, mul_sub, ← hfeeEq] at h
    refine h.trans (le_of_eq ?_)
    rw [hfeeEq, abs_mul]
    ring
  have hproduct := abs_fix_sub_le (base * fix (t / 365))
  have hsize : |base * fix (t / 365)| ≤ 2 * |fee| := by
    have htriangle := abs_add_le (base * fix (t / 365) - fee) fee
    rw [sub_add_cancel] at htriangle
    linarith [abs_nonneg fee]
  have htotal := abs_add_le (fix (base * fix (t / 365)) - base * fix (t / 365))
    (base * fix (t / 365) - fee)
  rw [sub_add_sub_cancel] at htotal
  rw [rawFee_eq hF, ← hbase, hcents, ← sub_mul, abs_mul, abs_mul, abs_of_pos (by norm_num : (0 : ℚ) < 100)]
  linarith [abs_nonneg fee]

/-- For a tenor of whole fifths of a year, nothing is rounded. -/
theorem rawFee_of_dvd (hF : |F| < 10 ^ 18) (ht : |t| ≤ 3700000) (hdvd : 73 ∣ t) :
    rawFee F grade t = F * annualRate grade * t / 3650000 := by
  obtain ⟨s, rfl⟩ := hdvd
  have hs : |s| ≤ 51000 := by
    rw [abs_le] at ht ⊢
    omega
  obtain ⟨hpos, hle⟩ := abs_annualRate_le grade
  have hfactor : fix (((73 * s : ℤ) : ℚ) / 365) = 2 * s / 10 := by
    refine (fix_of_digits (m := 2 * s) 1 ?_ ?_).trans ?_
    · push_cast
      ring
    · rw [abs_mul, abs_two]
      omega
    · push_cast
      ring
  have hproduct : fix (F * annualRate grade / 10 ^ 6 * (2 * s / 10)) =
      F * annualRate grade / 10 ^ 6 * (2 * s / 10) := by
    refine fix_of_digits (m := F * annualRate grade * (2 * s)) 7 ?_ ?_
    · push_cast
      ring
    · have hcoefficient : |annualRate grade * (2 * s)| ≤ 2050 * 102000 := by
        rw [abs_mul, abs_mul, abs_of_pos hpos, abs_two]
        nlinarith [abs_nonneg s]
      rw [mul_assoc, abs_mul]
      nlinarith [abs_nonneg F, abs_nonneg (annualRate grade * (2 * s))]
  rw [rawFee_eq hF, hfactor, hproduct]
  push_cast
  ring

/-- What is near a number that is clearly below a bound is below it. -/
theorem lt_of_near {x y b : ℚ} (hb : |b| ≤ 10 ^ 18 + 1) (hgap : x + 1 / 7300000 ≤ b)
    (hnear : |y - x| ≤ |x| / 10 ^ 26) : y < b := by
  have hy := (abs_le.1 hnear).2
  have hbounds := abs_le.1 hb
  rcases le_or_gt |x| (4 * 10 ^ 18) with hsmall | hlarge
  · linarith
  · -- then it is far below
    have hneg : x < 0 := by
      by_contra hnonneg
      rw [abs_of_nonneg (not_lt.1 hnonneg)] at hlarge
      linarith
    rw [abs_of_neg hneg] at hlarge hy
    linarith

/-- Two multiples of a part of a cent are at least one such part apart. -/
theorem add_part_le {x y : ℚ} {m k : ℤ} (hx : x * 7300000 = m) (hy : y * 7300000 = k) (h : x < y) :
    x + 1 / 7300000 ≤ y := by
  have hscaled := mul_lt_mul_of_pos_right h (show (0 : ℚ) < 7300000 by norm_num)
  rw [hx, hy] at hscaled
  have hint : m + 1 ≤ k := by exact_mod_cast hscaled
  have hcast : (m : ℚ) + 1 ≤ k := by exact_mod_cast hint
  linarith

/-- Where ties are not rounded before, the fee in whole cents is the exact one. -/
theorem roundEven_rawFee_le_iff {n : ℤ} (hF : |F| < 10 ^ 18) (hn : |n| ≤ 10 ^ 18)
    (htie : (F * annualRate grade * t / 3650000 : ℚ) = n + 1 / 2 →
      rawFee F grade t = F * annualRate grade * t / 3650000) :
    Binary64.roundEven (rawFee F grade t) ≤ n ↔
      (F * annualRate grade * t / 3650000 : ℚ) < n + 1 / 2 ∨
        (F * annualRate grade * t / 3650000 : ℚ) = n + 1 / 2 ∧ Even n := by
  have hnear := abs_rawFee_sub_le grade t hF
  set fee : ℚ := F * annualRate grade * t / 3650000 with hfee
  have hcast : |(n : ℚ)| ≤ 10 ^ 18 := by exact_mod_cast hn
  have hbound : |(n : ℚ) + 1 / 2| ≤ 10 ^ 18 + 1 := by
    have := abs_le.1 hcast
    rw [abs_le]
    constructor <;> linarith
  have hscaled : fee * 7300000 = ((2 * (F * annualRate grade * t) : ℤ) : ℚ) := by
    rw [hfee]
    push_cast
    ring
  have hhalf : ((n : ℚ) + 1 / 2) * 7300000 = ((3650000 * (2 * n + 1) : ℤ) : ℚ) := by
    push_cast
    ring
  rw [DecimalContext.roundEven_le_iff]
  -- on either side of the tie, what is rounded stays there
  rcases lt_trichotomy fee (n + 1 / 2) with hlt | heq | hgt
  · have hbelow := lt_of_near hbound (add_part_le hscaled hhalf hlt) hnear
    exact iff_of_true (Or.inl hbelow) (Or.inl hlt)
  · rw [htie heq]
  · have hgap := add_part_le hhalf hscaled hgt
    have habove : (n : ℚ) + 1 / 2 < rawFee F grade t := by
      refine neg_lt_neg_iff.1 (lt_of_near (x := -fee) (by rwa [abs_neg]) (by linarith) ?_)
      rw [← neg_sub', abs_neg, abs_neg]
      exact hnear
    refine iff_of_false ?_ ?_
    · rintro (h | ⟨h, -⟩) <;> linarith
    · rintro (h | ⟨h, -⟩) <;> linarith

/-! ## Ties -/

theorem prime_73 : Prime (73 : ℤ) := Nat.prime_iff_prime_int.1 (by norm_num)

theorem not_dvd_annualRate (grade : RiskGrade) : ¬(73 : ℤ) ∣ annualRate grade := by
  cases grade <;> decide

/-- For a face value of `73 * j` cents, the fee is above the advance by `j * excess / 100000` cents. -/
def excess (grade : RiskGrade) (t : ℤ) : ℤ := 2 * annualRate grade * t - 73000 * advanceRate grade

/-- There the fee is above the advance by at most a cent, and half-way between two. -/
def tiesAt (grade : RiskGrade) (j t : ℤ) : Bool :=
  0 ≤ j * excess grade t && j * excess grade t ≤ 100000 && j * annualRate grade * t % 50000 == 25000

/-- The two ties in the weeks around the longest tenor. -/
def isKnownTie (grade : RiskGrade) (j t : ℤ) : Bool :=
  grade == .medium && j == 4 && t == 1750 || grade == .critical && j == 20 && t == 1425

theorem tiesAt_imp : ∀ grade ∈ [RiskGrade.low, .medium, .high, .critical], ∀ a < 80,
    let t := longestTenor grade - 40 + (a : ℕ)
    ∀ b < 100000 / (excess grade t).natAbs + 1,
      tiesAt grade ((excess grade t).sign * (b : ℕ)) t = true →
        isKnownTie grade ((excess grade t).sign * (b : ℕ)) t = true := by
  decide +kernel

theorem tie_cases {j n : ℤ} (htie : 2 * (j * annualRate grade * t) = 50000 * (2 * n + 1))
    (hround : |100 * n - 73 * j * advanceRate grade| ≤ 50) : isKnownTie grade j t = true := by
  have hbounds := abs_le.1 hround
  have hproduct : j * excess grade t = 1000 * (100 * n - 73 * j * advanceRate grade) + 50000 := by
    rw [excess]
    linarith
  have hj : j ≠ 0 := by
    rintro rfl
    rw [zero_mul, zero_mul, mul_zero] at htie
    omega
  have hc : excess grade t ≠ 0 := by
    cases grade <;> simp only [excess, annualRate, advanceRate] <;> omega
  have hmul : (j * excess grade t).natAbs ≤ 100000 := by omega
  rw [Int.natAbs_mul] at hmul
  -- the excess is at most that of a few weeks, and then it bounds the face value
  have hweeks : longestTenor grade - 40 ≤ t ∧ t < longestTenor grade + 40 := by
    have hle := (Nat.le_mul_of_pos_left _ (Int.natAbs_pos.2 hj)).trans hmul
    cases grade <;> simp only [excess, annualRate, advanceRate, longestTenor] at * <;> omega
  have hface : j.natAbs ≤ 100000 / (excess grade t).natAbs :=
    (Nat.le_div_iff_mul_le (Int.natAbs_pos.2 hc)).2 hmul
  have hsign : (excess grade t).sign * j.natAbs = j := by
    have hpos : 0 < j * excess grade t := lt_of_le_of_ne (by omega) (mul_ne_zero hj hc).symm
    rcases pos_and_pos_or_neg_and_neg_of_mul_pos hpos with ⟨hjpos, hcpos⟩ | ⟨hjneg, hcneg⟩
    · rw [Int.sign_eq_one_of_pos hcpos]
      omega
    · rw [Int.sign_eq_neg_one_of_neg hcneg]
      omega
  have hday : longestTenor grade - 40 + ((t - (longestTenor grade - 40)).toNat : ℤ) = t := by omega
  have hknown :=
    tiesAt_imp grade (by cases grade <;> decide) (t - (longestTenor grade - 40)).toNat (by omega)
  rw [hday] at hknown
  have hthis := hknown j.natAbs (Nat.lt_succ_of_le hface)
  rw [hsign] at hthis
  apply hthis
  have hrest : j * annualRate grade * t % 50000 = 25000 := by omega
  simp only [tiesAt, Bool.and_eq_true, decide_eq_true_eq, beq_iff_eq]
  exact ⟨⟨by omega, by omega⟩, hrest⟩

theorem rawFee_medium : rawFee 292 .medium 1750 = 469 / 2 := by
  decide +kernel

theorem rawFee_critical : rawFee 1460 .critical 1425 = 2337 / 2 := by
  decide +kernel

/-- A fee that is half-way between two cents, in whole numbers. -/
theorem tie_intCast {n : ℤ} (htie : (F * annualRate grade * t / 3650000 : ℚ) = n + 1 / 2) :
    2 * (F * annualRate grade * t) = 3650000 * (2 * n + 1) := by
  have h : ((2 * (F * annualRate grade * t) : ℤ) : ℚ) = ((3650000 * (2 * n + 1) : ℤ) : ℚ) := by
    push_cast
    rw [div_eq_iff (by norm_num)] at htie
    linarith
  exact_mod_cast h

/-- If the fee is half-way between two cents at the advance, it is not rounded before. -/
theorem rawFee_of_tie {n : ℤ} (hF : |F| < 10 ^ 18) (ht : |t| ≤ 3700000)
    (htie : (F * annualRate grade * t / 3650000 : ℚ) = n + 1 / 2)
    (hround : |100 * n - F * advanceRate grade| ≤ 50) :
    rawFee F grade t = F * annualRate grade * t / 3650000 := by
  have hint := tie_intCast htie
  -- 73 divides the product, but no rate: it divides the tenor or the face value
  by_cases hdvd : 73 ∣ t
  · exact rawFee_of_dvd hF ht hdvd
  · have hprod : (73 : ℤ) ∣ F * annualRate grade * t := by omega
    obtain ⟨j, rfl⟩ : (73 : ℤ) ∣ F := by
      rcases prime_73.dvd_or_dvd hprod with hleft | hright
      · exact (prime_73.dvd_or_dvd hleft).resolve_right (not_dvd_annualRate grade)
      · exact absurd hright hdvd
    have hscaled : 73 * (2 * (j * annualRate grade * t)) = 73 * (50000 * (2 * n + 1)) := by linarith
    have hknown := tie_cases (t := t) (n := n) (mul_left_cancel₀ (by norm_num) hscaled) hround
    simp only [isKnownTie, Bool.or_eq_true, Bool.and_eq_true, beq_iff_eq] at hknown
    obtain ⟨⟨rfl, rfl⟩, rfl⟩ | ⟨⟨rfl, rfl⟩, rfl⟩ := hknown
    · refine Eq.trans rawFee_medium ?_
      norm_num [annualRate]
    · refine Eq.trans rawFee_critical ?_
      norm_num [annualRate]

/-- The fee is not half-way between the greatest that is stored and the least that is not. -/
theorem no_tie_limit {n : ℤ} (hn : n = 10 ^ 18 - 1 ∨ n = -10 ^ 18)
    (htie : (F * annualRate grade * t / 3650000 : ℚ) = n + 1 / 2) : False := by
  have hint := tie_intCast htie
  have hsplit : F * annualRate grade * t = annualRate grade * (F * t) := by ring
  rw [hsplit] at hint
  -- each rate has a prime factor, 31, 67, 37 or 41, that the other side has not
  generalize F * t = x at hint
  rcases hn with rfl | rfl <;> cases grade <;> simp only [annualRate] at hint <;> omega

end Fee

/-! ## The net advance -/

section Net

variable {a : ℚ} {D : ℤ}

theorem le_of_le_half {k : ℤ} (h : (D : ℚ) ≤ k + 1 / 2) : D ≤ k := by
  by_contra hlt
  have hle : (k : ℚ) + 1 ≤ D := by exact_mod_cast not_le.1 hlt
  linarith

theorem neg_of_half_neg {k : ℤ} (h : (k : ℚ) + 1 / 2 < 0) : k < 0 := by
  have hlt : (k : ℚ) < 0 := by linarith
  exact_mod_cast hlt

/-- Whole cents may be taken off before the rounding, unless a negative half would become a positive one. -/
theorem roundAway_sub (h : ¬(a < 0 ∧ IsHalf a)) (hD : (D : ℚ) ≤ a) :
    roundAway (a - D) = roundAway a - D := by
  by_cases hhalf : IsHalf a
  · have hnonneg : 0 ≤ a := not_lt.1 fun hneg => h ⟨hneg, hhalf⟩
    obtain ⟨k, rfl⟩ := hhalf
    have hk : 0 ≤ k := le_of_le_half (by rwa [Int.cast_zero])
    have hDk : D ≤ k := le_of_le_half hD
    have hcast : (k : ℚ) + 1 / 2 - D = ((k - D : ℤ) : ℚ) + 1 / 2 := by
      push_cast
      ring
    rw [hcast, roundAway_half_of_nonneg (by omega), roundAway_half_of_nonneg hk]
    ring
  · have hcast : a - D = ((-D : ℤ) : ℚ) + a := by
      push_cast
      ring
    rw [hcast, roundAway_intCast_add hhalf]
    ring

theorem le_roundAway (hD : (D : ℚ) ≤ a) : D ≤ roundAway a := by
  have herror := abs_le.1 (abs_roundAway_sub_le a)
  by_contra hlt
  have hle : (roundAway a : ℚ) + 1 ≤ D := by exact_mod_cast not_le.1 hlt
  linarith

/-- What the column of the net advance stores is the difference, exactly if the fee is not above the
advance. -/
theorem net_iff : (roundAway (if a < D then 0 else a - D) = roundAway a - D ∧ D ≤ roundAway a) ↔
    D ≤ roundAway a ∧ ¬(a < 0 ∧ IsHalf a) := by
  have herror := abs_le.1 (abs_roundAway_sub_le a)
  split
  · next hlt =>
    have hzero : roundAway (0 : ℚ) = 0 := by exact_mod_cast roundAway_intCast (α := ℚ) 0
    -- the two can only be equal
    have hup : roundAway a ≤ D := by
      by_contra hgt
      have hle : (D : ℚ) + 1 ≤ roundAway a := by exact_mod_cast not_le.1 hgt
      linarith
    rw [hzero]
    constructor
    · rintro ⟨-, hle⟩
      refine ⟨hle, ?_⟩
      rintro ⟨hneg, k, rfl⟩
      rw [roundAway_half_of_neg (neg_of_half_neg hneg)] at hle
      have hcast : (D : ℚ) ≤ k := by exact_mod_cast hle
      linarith
    · rintro ⟨hle, -⟩
      exact ⟨by omega, hle⟩
  · next hge =>
    have hle := not_lt.1 hge
    constructor
    · rintro ⟨heq, -⟩
      refine ⟨le_roundAway hle, ?_⟩
      rintro ⟨hneg, k, rfl⟩
      have hDk : D ≤ k := le_of_le_half hle
      have hcast : (k : ℚ) + 1 / 2 - D = ((k - D : ℤ) : ℚ) + 1 / 2 := by
        push_cast
        ring
      rw [hcast, roundAway_half_of_nonneg (by omega), roundAway_half_of_neg (neg_of_half_neg hneg)] at heq
      omega
    · rintro ⟨-, hnot⟩
      exact ⟨roundAway_sub hnot hle, le_roundAway hle⟩

end Net

/-! ## What is stored -/

section Stored

variable {invoice saved : Invoices.Invoice} {grade : RiskGrade}

/-- The fee in whole cents, as the calculator rounds it. -/
def feeCents (invoice : Invoices.Invoice) (grade : RiskGrade) : ℤ :=
  Binary64.roundEven (rawFee (cents invoice.faceValueUgx) grade (calculateTenorDays invoice))

/-- The net advance in cents, before its column rounds it. -/
def rawNet (invoice : Invoices.Invoice) (grade : RiskGrade) : ℚ :=
  if exactAdvance invoice grade < feeCents invoice grade then 0
  else exactAdvance invoice grade - feeCents invoice grade

theorem abs_calculateTenorDays_le (invoice : Invoices.Invoice) :
    |calculateTenorDays invoice| ≤ 3700000 := by
  have hdays : ∀ d : DateTime, -720500 ≤ ordinal d ∧ ordinal d ≤ 2940000 := by
    intro d
    have hyear := d.year.isLt
    have hmonth := d.month.isLt
    have hday := d.day.isLt
    simp only [ordinal, Ris.Invoices.CivilDate.toDays]
    split <;> split <;> omega
  have hissue := hdays invoice.issueDate
  have hdue := hdays invoice.dueDate
  rw [calculateTenorDays, abs_le]
  omega

theorem abs_cents_lt (hface : IsStored invoice.faceValueUgx) : |cents invoice.faceValueUgx| < 10 ^ 18 :=
  (numeric_eq_some_iff.1 hface).2

theorem faceValue_eq (hface : IsStored invoice.faceValueUgx) :
    invoice.faceValueUgx = (cents invoice.faceValueUgx : ℚ) / 100 := hface.eq_cents

theorem rawNet_eq_max (invoice : Invoices.Invoice) (grade : RiskGrade) :
    rawNet invoice grade = max (exactAdvance invoice grade - feeCents invoice grade) 0 := by
  rw [max_def_lt, rawNet]
  simp only [sub_neg]

theorem pricing_advance (grade : RiskGrade) (hface : IsStored invoice.faceValueUgx) :
    (calculateInvoicePricing invoice grade).advanceAmountUgx = exactAdvance invoice grade / 100 := by
  rw [advanceAmountUgx_eq, faceValue_eq hface, fix_advance grade (abs_cents_lt hface), exactAdvance]
  ring

theorem pricing_fee (grade : RiskGrade) (hface : IsStored invoice.faceValueUgx) :
    (calculateInvoicePricing invoice grade).discountFeeUgx = (feeCents invoice grade : ℚ) / 100 := by
  rw [discountFeeUgx_eq, DecimalContext.quantize, feeCents, rawFee, ← faceValue_eq hface]
  norm_num

/-- The difference has four places after the point. -/
theorem fix_net (hface : IsStored invoice.faceValueUgx) (hfee : |feeCents invoice grade| < 10 ^ 18) :
    fix (exactAdvance invoice grade / 100 - (feeCents invoice grade : ℚ) / 100) =
      exactAdvance invoice grade / 100 - (feeCents invoice grade : ℚ) / 100 := by
  refine fix_of_digits
    (m := cents invoice.faceValueUgx * advanceRate grade - 100 * feeCents invoice grade) 4 ?_ ?_
  · rw [exactAdvance]
    push_cast
    ring
  · obtain ⟨hpos, hle⟩ := advanceRate_le grade
    have hF := abs_cents_lt hface
    refine (abs_sub _ _).trans_lt ?_
    rw [abs_mul, abs_mul, abs_of_pos hpos, abs_of_pos (by norm_num : (0 : ℤ) < 100)]
    nlinarith [abs_nonneg (cents invoice.faceValueUgx)]

theorem pricing_net (hface : IsStored invoice.faceValueUgx) (hfee : |feeCents invoice grade| < 10 ^ 18) :
    (calculateInvoicePricing invoice grade).netAdvanceUgx = rawNet invoice grade / 100 := by
  have hzero : (0 : ℚ) = 0 / 100 := by norm_num
  rw [netAdvanceUgx_eq, pricing_advance grade hface, pricing_fee grade hface, fix_net hface hfee, ← sub_div,
    hzero, max_div_div_right (by norm_num), rawNet_eq_max]

/-! ## Sizes -/

theorem rawFee_nonneg {F t : ℤ} (hF : |F| < 10 ^ 18) (hnonneg : 0 ≤ F) (ht : 0 ≤ t) :
    0 ≤ rawFee F grade t := by
  have hrate := (abs_annualRate_le grade).1
  rw [rawFee_eq hF]
  refine mul_nonneg (DecimalContext.round_nonneg ?_) (by norm_num)
  have hcast : (0 : ℚ) ≤ (F : ℚ) * annualRate grade := by exact_mod_cast mul_nonneg hnonneg hrate.le
  exact mul_nonneg (div_nonneg hcast (by norm_num)) (DecimalContext.round_nonneg (by positivity))

theorem rawFee_nonpos {F t : ℤ} (hF : |F| < 10 ^ 18) (hnonpos : F ≤ 0) (ht : 0 ≤ t) :
    rawFee F grade t ≤ 0 := by
  have hrate := (abs_annualRate_le grade).1
  rw [rawFee_eq hF]
  refine mul_nonpos_of_nonpos_of_nonneg (DecimalContext.round_nonpos ?_) (by norm_num)
  have hcast : (F : ℚ) * annualRate grade ≤ 0 := by
    exact_mod_cast mul_nonpos_of_nonpos_of_nonneg hnonpos hrate.le
  exact mul_nonpos_of_nonpos_of_nonneg (div_nonpos_of_nonpos_of_nonneg hcast (by norm_num))
    (DecimalContext.round_nonneg (by positivity))

theorem tenor_pos (invoice : Invoices.Invoice) : 0 < calculateTenorDays invoice :=
  Int.lt_of_lt_of_le Int.one_pos (le_max_right _ _)

/-- The fee has the sign of the face value. -/
theorem feeCents_sign (grade : RiskGrade) (hface : IsStored invoice.faceValueUgx) :
    (0 ≤ cents invoice.faceValueUgx ∧ 0 ≤ feeCents invoice grade) ∨
      (cents invoice.faceValueUgx ≤ 0 ∧ feeCents invoice grade ≤ 0) := by
  have hzero : Binary64.roundEven 0 = 0 := Binary64.roundEven_intCast 0
  rcases le_total 0 (cents invoice.faceValueUgx) with hnonneg | hnonpos
  · refine Or.inl ⟨hnonneg, ?_⟩
    rw [← hzero]
    exact Binary64.roundEven_mono (rawFee_nonneg (abs_cents_lt hface) hnonneg (tenor_pos invoice).le)
  · refine Or.inr ⟨hnonpos, ?_⟩
    rw [← hzero]
    exact Binary64.roundEven_mono (rawFee_nonpos (abs_cents_lt hface) hnonpos (tenor_pos invoice).le)

theorem exactAdvance_mul (invoice : Invoices.Invoice) (grade : RiskGrade) :
    exactAdvance invoice grade * 100 = ((cents invoice.faceValueUgx * advanceRate grade : ℤ) : ℚ) := by
  rw [exactAdvance]
  push_cast
  ring

theorem abs_exactAdvance_le (grade : RiskGrade) (hface : IsStored invoice.faceValueUgx) :
    |exactAdvance invoice grade| ≤ 10 ^ 18 - 1 := by
  obtain ⟨hpos, hle⟩ := advanceRate_le grade
  have hF := abs_cents_lt hface
  have hint : |cents invoice.faceValueUgx * advanceRate grade| ≤ (10 ^ 18 - 1) * 100 := by
    rw [abs_mul, abs_of_pos hpos]
    nlinarith [abs_nonneg (cents invoice.faceValueUgx)]
  have hundred : (0 : ℚ) < 100 := by norm_num
  refine le_of_mul_le_mul_right ?_ hundred
  calc |exactAdvance invoice grade| * 100
      = |exactAdvance invoice grade * 100| := by rw [abs_mul, abs_of_pos hundred]
    _ = |((cents invoice.faceValueUgx * advanceRate grade : ℤ) : ℚ)| := by rw [exactAdvance_mul]
    _ ≤ (10 ^ 18 - 1) * 100 := by exact_mod_cast hint

theorem exactAdvance_nonpos (grade : RiskGrade) (h : cents invoice.faceValueUgx ≤ 0) :
    exactAdvance invoice grade ≤ 0 := by
  have hint : cents invoice.faceValueUgx * advanceRate grade ≤ 0 :=
    mul_nonpos_of_nonpos_of_nonneg h (advanceRate_le grade).1.le
  have hrat : exactAdvance invoice grade * 100 ≤ 0 := by
    rw [exactAdvance_mul]
    exact_mod_cast hint
  linarith

theorem rawNet_bounds (hface : IsStored invoice.faceValueUgx)
    (hfee : |feeCents invoice grade| < 10 ^ 18) :
    0 ≤ rawNet invoice grade ∧ rawNet invoice grade ≤ 10 ^ 18 - 1 := by
  have hadvance := abs_le.1 (abs_exactAdvance_le grade hface)
  have hlow : -(10 ^ 18 - 1 : ℚ) ≤ feeCents invoice grade := by
    have hint : -(10 ^ 18 - 1) ≤ feeCents invoice grade := by
      have := (abs_lt.1 hfee).1
      omega
    exact_mod_cast hint
  rw [rawNet]
  split
  · norm_num
  · next hge =>
    refine ⟨by linarith, ?_⟩
    rcases feeCents_sign grade hface with ⟨-, hnonneg⟩ | ⟨hnonpos, -⟩
    · have hcast : (0 : ℚ) ≤ feeCents invoice grade := by exact_mod_cast hnonneg
      linarith
    · linarith [exactAdvance_nonpos grade hnonpos]

theorem numeric_cents {a : ℚ} (h : |a| ≤ 10 ^ 18 - 1) :
    numeric (a / 100) = some ((roundAway a : ℚ) / 100) := by
  have hcents : cents (a / 100) = roundAway a := by rw [cents, div_mul_cancel₀ _ (by norm_num)]
  have herror := abs_le.1 (abs_roundAway_sub_le a)
  obtain ⟨hlow, hhigh⟩ := abs_le.1 h
  refine numeric_eq_some_iff.2 ⟨by rw [hcents], ?_⟩
  have hcast : |(roundAway a : ℚ)| < 10 ^ 18 := by
    rw [abs_lt]
    constructor <;> linarith
  rw [hcents]
  exact_mod_cast hcast

/-- The figures of an invoice whose fee fits into its column. -/
theorem createPriced_eq (hface : IsStored invoice.faceValueUgx)
    (hfee : |feeCents invoice grade| < 10 ^ 18) :
    createPriced invoice grade = some { invoice with
      riskGrade := grade
      advanceRatePct := (calculateInvoicePricing invoice grade).advanceRatePct
      advanceAmountUgx := (roundAway (exactAdvance invoice grade) : ℚ) / 100
      discountFeeUgx := (feeCents invoice grade : ℚ) / 100
      netAdvanceUgx := (roundAway (rawNet invoice grade) : ℚ) / 100 } := by
  obtain ⟨hnonneg, hle⟩ := rawNet_bounds hface hfee
  have hadvance := numeric_cents (abs_exactAdvance_le grade hface)
  have hnet := numeric_cents (abs_le.2 ⟨by linarith, hle⟩)
  have hstored := isStored_div hfee
  simp only [createPriced, savePricing]
  rw [pricing_advance grade hface, pricing_fee grade hface, pricing_net hface hfee, hadvance, hstored, hnet]
  rfl

theorem createPriced_eq_none (hface : IsStored invoice.faceValueUgx)
    (hfee : ¬|feeCents invoice grade| < 10 ^ 18) : createPriced invoice grade = none := by
  have hadvance := numeric_cents (abs_exactAdvance_le grade hface)
  have hrefused : numeric ((feeCents invoice grade : ℚ) / 100) = none := by
    rw [numeric_eq, cents_div, if_neg hfee]
  simp only [createPriced, savePricing]
  rw [pricing_advance grade hface, pricing_fee grade hface, hadvance, hrefused]
  rfl

/-! ## Exactly when the figures fit together -/

theorem feeCents_le_iff {n : ℤ} (grade : RiskGrade) (hface : IsStored invoice.faceValueUgx)
    (hn : |n| ≤ 10 ^ 18) (htie : exactFee invoice grade = n + 1 / 2 →
      rawFee (cents invoice.faceValueUgx) grade (calculateTenorDays invoice) = exactFee invoice grade) :
    feeCents invoice grade ≤ n ↔
      exactFee invoice grade < n + 1 / 2 ∨ exactFee invoice grade = n + 1 / 2 ∧ Even n :=
  roundEven_rawFee_le_iff (abs_cents_lt hface) hn htie

theorem tooLarge_iff (hface : IsStored invoice.faceValueUgx) :
    TooLarge invoice grade ↔ ¬|feeCents invoice grade| < 10 ^ 18 := by
  have hhigh := feeCents_le_iff (n := 10 ^ 18 - 1) grade hface (by norm_num)
    fun htie => (no_tie_limit (.inl rfl) htie).elim
  have hlow := feeCents_le_iff (n := -10 ^ 18) grade hface (by norm_num)
    fun htie => (no_tie_limit (.inr rfl) htie).elim
  have hnotHigh : exactFee invoice grade ≠ ((10 ^ 18 - 1 : ℤ) : ℚ) + 1 / 2 := no_tie_limit (.inl rfl)
  have hnotLow : exactFee invoice grade ≠ ((-10 ^ 18 : ℤ) : ℚ) + 1 / 2 := no_tie_limit (.inr rfl)
  rw [or_iff_left fun h => hnotHigh h.1] at hhigh
  rw [or_iff_left fun h => hnotLow h.1] at hlow
  have hbound : |feeCents invoice grade| < 10 ^ 18 ↔
      feeCents invoice grade ≤ 10 ^ 18 - 1 ∧ ¬feeCents invoice grade ≤ -10 ^ 18 := by
    rw [abs_lt]
    omega
  rw [hbound, hhigh, hlow, TooLarge, lt_abs]
  push_cast at *
  constructor
  · rintro (h | h) ⟨hlt, hge⟩
    · linarith
    · exact hge (by linarith)
  · intro h
    by_contra hnone
    rw [not_or, not_lt, not_lt] at hnone
    refine h ⟨lt_of_le_of_ne (by linarith) hnotHigh, fun hlt => ?_⟩
    linarith [hnone.2]

/-- From 61 shillings on, a day more than the longest tenor costs more than a cent. -/
theorem fee_le_iff_tenor (hlarge : 6100 ≤ cents invoice.faceValueUgx) :
    (exactFee invoice grade < roundAway (exactAdvance invoice grade) + 1 / 2 ∨
      exactFee invoice grade = roundAway (exactAdvance invoice grade) + 1 / 2 ∧
        Even (roundAway (exactAdvance invoice grade))) ↔
      calculateTenorDays invoice ≤ longestTenor grade := by
  set F := cents invoice.faceValueUgx with hF
  set t := calculateTenorDays invoice with ht
  have herror := abs_le.1 (abs_roundAway_sub_le (exactAdvance invoice grade))
  have hdiff : exactFee invoice grade - exactAdvance invoice grade =
      (F : ℚ) * (annualRate grade * t - 36500 * advanceRate grade : ℤ) / 3650000 := by
    rw [exactFee, exactAdvance, ← hF, ← ht]
    push_cast
    ring
  have hcast : (6100 : ℚ) ≤ F := by exact_mod_cast hlarge
  -- past the longest tenor the difference is at least 600 in 3650000, which is a cent of 6100 and more
  rcases le_or_gt t (longestTenor grade) with hle | hgt
  · have hneg : annualRate grade * t - 36500 * advanceRate grade < 0 := by
      cases grade <;> simp only [annualRate, advanceRate, longestTenor] at * <;> omega
    have hless : exactFee invoice grade - exactAdvance invoice grade < 0 := by
      rw [hdiff]
      refine div_neg_of_neg_of_pos (mul_neg_of_pos_of_neg (by linarith) ?_) (by norm_num)
      exact_mod_cast hneg
    exact iff_of_true (Or.inl (by linarith)) hle
  · have hday : 600 ≤ annualRate grade * t - 36500 * advanceRate grade := by
      cases grade <;> simp only [annualRate, advanceRate, longestTenor] at * <;> omega
    have hmore : 1 < exactFee invoice grade - exactAdvance invoice grade := by
      have hdayCast : (600 : ℚ) ≤ (annualRate grade * t - 36500 * advanceRate grade : ℤ) := by
        exact_mod_cast hday
      rw [hdiff, lt_div_iff₀ (by norm_num)]
      nlinarith
    refine iff_of_false ?_ (by omega)
    rintro (h | ⟨h, -⟩) <;> linarith

theorem abs_hundred_sub_le (invoice : Invoices.Invoice) (grade : RiskGrade) :
    |100 * roundAway (exactAdvance invoice grade) - cents invoice.faceValueUgx * advanceRate grade| ≤ 50 := by
  have herror := abs_le.1 (abs_roundAway_sub_le (exactAdvance invoice grade))
  have hcast : |((100 * roundAway (exactAdvance invoice grade) -
      cents invoice.faceValueUgx * advanceRate grade : ℤ) : ℚ)| ≤ 50 := by
    rw [exactAdvance] at *
    push_cast
    rw [abs_le]
    constructor <;> linarith
  exact_mod_cast hcast

theorem exactAdvance_neg_iff (hface : IsStored invoice.faceValueUgx) :
    exactAdvance invoice grade < 0 ↔ invoice.faceValueUgx < 0 := by
  have hrate : (0 : ℚ) < advanceRate grade := by exact_mod_cast (advanceRate_le grade).1
  have hproduct : exactAdvance invoice grade = invoice.faceValueUgx * advanceRate grade := by
    rw [exactAdvance]
    nth_rewrite 2 [faceValue_eq hface]
    ring
  rw [hproduct]
  constructor
  · intro h
    by_contra hnonneg
    linarith [mul_nonneg (not_lt.1 hnonneg) hrate.le]
  · intro h
    exact mul_neg_of_neg_of_pos h hrate

/-- The condition is that the fee as rounded is not above the advance as rounded. -/
theorem covered_iff (hface : IsStored invoice.faceValueUgx) :
    Covered invoice grade ↔ feeCents invoice grade ≤ roundAway (exactAdvance invoice grade) ∧
      ¬(exactAdvance invoice grade < 0 ∧ IsHalf (exactAdvance invoice grade)) := by
  have herror := abs_le.1 (abs_roundAway_sub_le (exactAdvance invoice grade))
  have hround : |roundAway (exactAdvance invoice grade)| ≤ 10 ^ 18 := by
    have hcast : |(roundAway (exactAdvance invoice grade) : ℚ)| ≤ 10 ^ 18 := by
      have hadvance := abs_le.1 (abs_exactAdvance_le grade hface)
      rw [abs_le]
      constructor <;> linarith
    exact_mod_cast hcast
  have hfee := feeCents_le_iff grade hface hround fun htie =>
    rawFee_of_tie (abs_cents_lt hface) (abs_calculateTenorDays_le invoice) htie
      (abs_hundred_sub_le invoice grade)
  rw [Covered, exactAdvance_neg_iff hface, hfee]
  split
  · next hlarge =>
    have hcents : 6100 ≤ cents invoice.faceValueUgx := by
      rw [faceValue_eq hface, le_div_iff₀ (by norm_num)] at hlarge
      norm_num at hlarge
      exact_mod_cast hlarge
    rw [fee_le_iff_tenor hcents, and_iff_left]
    rintro ⟨hneg, -⟩
    linarith
  · exact Iff.rfl

theorem consistent_iff (hface : IsStored invoice.faceValueUgx)
    (hfee : |feeCents invoice grade| < 10 ^ 18)
    (hsaved : saved ∈ createPriced invoice grade) : Consistent saved ↔ Covered invoice grade := by
  rw [createPriced_eq hface hfee, Option.mem_some_iff] at hsaved
  subst hsaved
  have hnonneg : 0 ≤ roundAway (rawNet invoice grade) := by
    have hcast := le_roundAway (D := 0) (by simpa using (rawNet_bounds hface hfee).1)
    exact hcast
  rw [covered_iff hface, ← net_iff, ← rawNet]
  constructor
  · rintro ⟨hidentity, -, hle⟩
    rw [← sub_div, div_left_inj' (by norm_num)] at hidentity
    rw [div_le_div_iff_of_pos_right (by norm_num)] at hle
    exact ⟨by exact_mod_cast hidentity, by exact_mod_cast hle⟩
  · rintro ⟨hnet, hle⟩
    refine ⟨?_, ?_, ?_⟩
    · rw [← sub_div, div_left_inj' (by norm_num), hnet]
      push_cast
      rfl
    · exact div_nonneg (by exact_mod_cast hnonneg) (by norm_num)
    · rw [div_le_div_iff_of_pos_right (by norm_num)]
      exact_mod_cast hle

/-- What is stored fits together, whenever it is stored, exactly for the invoices whose fee is covered or too
large to be stored. -/
theorem pricing_identity_iff (invoice : Invoices.Invoice) (grade : RiskGrade)
    (hface : IsStored invoice.faceValueUgx) :
    (∀ saved ∈ createPriced invoice grade, Consistent saved) ↔
      Covered invoice grade ∨ TooLarge invoice grade := by
  by_cases hfee : |feeCents invoice grade| < 10 ^ 18
  · have hsmall : ¬TooLarge invoice grade := fun h => (tooLarge_iff hface).1 h hfee
    rw [or_iff_left hsmall]
    constructor
    · intro h
      have hsaved := createPriced_eq hface hfee
      exact (consistent_iff hface hfee hsaved).1 (h _ hsaved)
    · intro hcovered saved hsaved
      exact (consistent_iff hface hfee hsaved).2 hcovered
  · refine iff_of_true ?_ (Or.inr ((tooLarge_iff hface).2 hfee))
    intro saved hsaved
    rw [createPriced_eq_none hface hfee] at hsaved
    cases hsaved

end Stored

/-! ## Two invoices -/

/-- An invoice over a hundred million shillings, from the first of January 2026 on. -/
def sixMonths : Invoices.Invoice where
  id := 1
  supplier := 1
  buyer := 1
  faceValueUgx := 100000000
  issueDate := DateTime.ofNat 2026 1 1 0 0 0 0
  dueDate := DateTime.ofNat 2026 7 1 0 0 0 0

theorem sixMonths_isStored : IsStored sixMonths.faceValueUgx := by decide +kernel

theorem sixMonths_consistent :
    ∃ saved ∈ createPriced sixMonths .low, Consistent saved := by
  have hcovered : Covered sixMonths .low := by
    rw [Covered, if_pos (by decide +kernel)]
    decide
  obtain ⟨saved, hsaved⟩ : ∃ saved, createPriced sixMonths .low = some saved :=
    Option.isSome_iff_exists.1 (by decide +kernel)
  have hconsistent := (pricing_identity_iff sixMonths .low sixMonths_isStored).2 (.inl hcovered)
  exact ⟨saved, hsaved, hconsistent saved hsaved⟩

/-- The same invoice, due six years after it is issued. -/
def sixYears : Invoices.Invoice := { sixMonths with dueDate := DateTime.ofNat 2032 1 1 0 0 0 0 }

/-- The fee is more than the advance; it is stored with a net advance of zero. -/
theorem sixYears_not_consistent : IsStored sixYears.faceValueUgx ∧
    ∃ saved ∈ createPriced sixYears .low, ¬Consistent saved := by
  have hfigures : (createPriced sixYears .low).map
      (fun saved => (saved.advanceAmountUgx, saved.discountFeeUgx, saved.netAdvanceUgx)) =
        some (85000000, 372169863 / 4, 0) := by
    decide +kernel
  obtain ⟨saved, hsaved, hsavedFigures⟩ := Option.map_eq_some_iff.1 hfigures
  obtain ⟨hadvance, hfee, -⟩ : saved.advanceAmountUgx = 85000000 ∧ saved.discountFeeUgx = 372169863 / 4 ∧
      saved.netAdvanceUgx = 0 := by
    simpa using hsavedFigures
  refine ⟨sixMonths_isStored, saved, hsaved, fun h => ?_⟩
  have hle := h.fee_le
  rw [hadvance, hfee] at hle
  norm_num at hle

end Ris.Backend.Pricing
