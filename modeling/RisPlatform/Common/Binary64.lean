import Mathlib.Data.Rat.Floor
import Mathlib.Algebra.Order.Round
import Mathlib.Data.Nat.Log

/-!
# Binary64 numbers as rationals

A double is the rational it denotes. `round` is the rounding of the exact result of an operation to
the nearest double, ties to even; overflow, subnormal numbers and negative zero are left out. The
operations are those of a language whose only number type is the double.
-/

namespace Binary64

/-- `2 ^ e`. -/
def pow2 : ℤ → ℚ
  | .ofNat n => (2 ^ n : ℕ)
  | .negSucc n => mkRat 1 (2 ^ (n + 1))

/-- `⌊log₂ q⌋` of a positive `q`. -/
def exponent (q : ℚ) : ℤ :=
  let e : ℤ := (Nat.log2 q.num.natAbs : ℤ) - (Nat.log2 q.den : ℤ)
  if pow2 e ≤ q then e else e - 1

/-- The nearest integer, ties to even. -/
def roundEven (q : ℚ) : ℤ :=
  let rest := q - q.floor
  if rest < mkRat 1 2 then q.floor
  else if mkRat 1 2 < rest then q.floor + 1
  else if q.floor % 2 = 0 then q.floor
  else q.floor + 1

/-- The double nearest to `q`: 53 significant bits. -/
def round (q : ℚ) : ℚ :=
  if q = 0 then 0
  else
    let unit := pow2 (exponent (if q < 0 then -q else q) - 52)
    roundEven (q / unit) * unit

/-- The sum of two doubles. -/
def add (x y : ℚ) : ℚ := round (x + y)

/-- The product of two doubles. -/
def mul (x y : ℚ) : ℚ := round (x * y)

/-- The quotient of two doubles. -/
def div (x y : ℚ) : ℚ := round (x / y)

/-- The nearest integer, ties up. -/
def nearestInt (x : ℚ) : ℤ := (x + mkRat 1 2).floor

/-- The decimal digits of `n`, at least `width` of them. -/
def digits (n width : ℕ) : String :=
  let text := Nat.repr n
  String.ofList (List.replicate (width - text.length) '0') ++ text

/-- Fixed-point notation with `d` digits after the point, ties away from zero. -/
def toFixed (d : ℕ) (x : ℚ) : String :=
  let n := (nearestInt ((if x < 0 then -x else x) * 10 ^ d)).toNat
  (if x < 0 then "-" else "") ++ digits (n / 10 ^ d) 1 ++
    if d = 0 then "" else "." ++ digits (n % 10 ^ d) d

/-! ## Decimal texts -/

/-- `10 ^ e`. -/
def pow10 : ℤ → ℚ
  | .ofNat n => (10 ^ n : ℕ)
  | .negSucc n => mkRat 1 (10 ^ (n + 1))

/-- `⌊log₁₀ x⌋` of a positive `x`. -/
def log10 (x : ℚ) : ℤ :=
  if 1 ≤ x then Nat.log 10 x.floor.toNat else -(Nat.clog 10 (1 / x).ceil.toNat : ℤ)

/-- The decimal with `n` significant digits that is nearest to a positive `x`. -/
def significant (n : ℕ) (x : ℚ) : ℚ :=
  let unit := pow10 (log10 x - n + 1)
  nearestInt (x / unit) * unit

/-- The decimal with the fewest significant digits that reads back as the positive double `x`. -/
def shortest (x : ℚ) : ℚ :=
  (((List.range 17).map fun n => significant (n + 1) x).find? fun q => round q = x).getD x

/-- `Number.prototype.toString` of a double in the range of fixed-point notation. -/
def toText (x : ℚ) : String :=
  if x = 0 then "0"
  else
    let q := shortest (if x < 0 then -x else x)
    let d := ((List.range 24).find? fun d => (q * 10 ^ d).den = 1).getD 24
    (if x < 0 then "-" else "") ++ toFixed d q

/-- The value of a `NUMERIC` column with `scale` digits after the point, given a double as its text:
ties away from zero. -/
def numeric (scale : ℕ) (x : ℚ) : ℚ :=
  if x = 0 then 0
  else
    let q := shortest (if x < 0 then -x else x)
    let n : ℚ := nearestInt (q * 10 ^ scale) / 10 ^ scale
    if x < 0 then -n else n

example : toText (add (round (mkRat 1 10)) (round (mkRat 1 20))) = "0.15000000000000002" := by
  decide +kernel

example : add (add (round (mkRat 1 20)) (round (mkRat 1 20))) (round (mkRat 1 20)) >
    round (mkRat 3 20) := by decide +kernel

end Binary64
