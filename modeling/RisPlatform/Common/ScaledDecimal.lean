import Mathlib.Data.Rat.Floor
import Mathlib.Tactic.FieldSimp
import Mathlib.Tactic.Linarith
import Mathlib.Tactic.Positivity
import Mathlib.Tactic.Ring
import RisPlatform.Common.FixedWidth
import RisPlatform.Common.Utf16

/-!
# Decimal texts at a fixed scale

`bigInt?` reads an integer off a text, and `parseScaled` a decimal text as an integer at a fixed scale: the
digits before the point, and the first `scale` digits after it, filled up with zeros.

Filling up and cutting off is a truncation of the value (`parseScaled_text`), which loses nothing of a text
with at most `scale` digits after the point (`floor_scaled`).
-/

namespace ScaledDecimal

open Utf16 FixedWidth

/-! ## Integers of texts -/

/-- The value of a digit up to the base of sixteen. -/
def digitValue (x : UInt16) : Option ℕ :=
  if 48 ≤ x ∧ x ≤ 57 then some (x.toNat - 48)
  else if 65 ≤ x ∧ x ≤ 70 then some (x.toNat - 55)
  else if 97 ≤ x ∧ x ≤ 102 then some (x.toNat - 87)
  else none

def readDigits (base : ℕ) : Text → Option (List ℕ)
  | [] => some []
  | x :: t => do
    let d ← digitValue x
    if d < base then
      let ds ← readDigits base t
      return d :: ds
    else none

/-- One digit or more. -/
def natural? (base : ℕ) (t : Text) : Option ℕ :=
  if t = [] then none else (readDigits base t).map fun ds => Nat.ofDigits base ds.reverse

/-- Digits to the base of ten, perhaps with a sign. -/
def signed? : Text → Option ℤ
  | 45 :: t => (natural? 10 t).map fun n => -n
  | 43 :: t => (natural? 10 t).map fun n => n
  | t => (natural? 10 t).map fun n => n

/-- The base that a text announces. -/
def radix? : Text → Option ℕ
  | 48 :: x :: _ =>
    if x = 120 ∨ x = 88 then some 16
    else if x = 111 ∨ x = 79 then some 8
    else if x = 98 ∨ x = 66 then some 2
    else none
  | _ => none

/-- Without the white space at both ends. -/
def trim (t : Text) : Text := (t.dropWhile isSpace).rdropWhile isSpace

/-- `BigInt(text)`; `none` stands for its `SyntaxError`. -/
def bigInt? (text : Text) : Option ℤ :=
  let t := trim text
  if t = [] then some 0
  else
    match radix? t with
    | some base => (natural? base (t.drop 2)).map fun n => n
    | none => signed? t

example : (bigInt? (units " -012 "), bigInt? (units "0x1f"), bigInt? (units ""), bigInt? (units "-"),
    bigInt? (units "1.5")) = (some (-12), some 31, some 0, none, none) := by decide

/-! ## Decimal digits -/

def digitUnit (d : ℕ) : UInt16 := .ofNat (48 + d)

/-- `String(n)` of a natural number. -/
def natText (n : ℕ) : Text := (decimal n).map digitUnit

/-- `toString` of an integer. -/
def intText : ℤ → Text
  | .ofNat n => natText n
  | .negSucc n => 45 :: natText (n + 1)

variable {ds : List ℕ} {d base : ℕ}

theorem toNat_digitUnit (h : d < 10) : (digitUnit d).toNat = 48 + d := by
  rw [digitUnit, UInt16.toNat_ofNat_of_lt']
  simp only [UInt16.size]
  omega

theorem digitValue_digitUnit (h : d < 10) : digitValue (digitUnit d) = some d := by
  have hrange : 48 ≤ digitUnit d ∧ digitUnit d ≤ 57 := by
    rw [UInt16.le_iff_toNat_le, UInt16.le_iff_toNat_le, toNat_digitUnit h]
    show 48 ≤ 48 + d ∧ 48 + d ≤ 57
    omega
  rw [digitValue, if_pos hrange, toNat_digitUnit h, Nat.add_sub_cancel_left]

theorem digitUnit_ne (h : d < 10) {x : UInt16} (hx : x.toNat < 48 ∨ 57 < x.toNat) : digitUnit d ≠ x := by
  rintro rfl
  rw [toNat_digitUnit h] at hx
  omega

theorem isSpace_digitUnit (h : d < 10) : isSpace (digitUnit d) = false := by
  interval_cases d <;> decide

theorem readDigits_map (h : ∀ d ∈ ds, d < 10) : readDigits 10 (ds.map digitUnit) = some ds := by
  induction ds with
  | nil => rfl
  | cons d ds ih =>
    have hd : d < 10 := h d List.mem_cons_self
    have htail := ih fun x hx => h x (List.mem_cons_of_mem _ hx)
    simp [readDigits, digitValue_digitUnit hd, hd, htail]

theorem trim_map (h : ∀ d ∈ ds, d < 10) : trim (ds.map digitUnit) = ds.map digitUnit := by
  have hspace : ∀ x ∈ ds.map digitUnit, isSpace x = false := by
    intro x hx
    obtain ⟨d, hd, rfl⟩ := List.mem_map.1 hx
    exact isSpace_digitUnit (h d hd)
  rw [trim, List.dropWhile_eq_self_iff.2, List.rdropWhile_eq_self_iff]
  · intro hne
    rw [hspace _ (List.getLast_mem hne)]
    decide
  · intro hpos
    rw [hspace _ (List.getElem_mem hpos)]
    decide

theorem radix?_map (h : ∀ d ∈ ds, d < 10) : radix? (ds.map digitUnit) = none := by
  match ds with
  | [] => rfl
  | [_] =>
    unfold radix?
    split
    · rename_i heq
      simp at heq
    · rfl
  | _ :: e :: ds =>
    have he : e < 10 := h e (by simp)
    unfold radix?
    split
    · rename_i x _ heq
      obtain ⟨-, rfl, -⟩ : _ ∧ digitUnit e = x ∧ _ := by simpa using heq
      have hne : ∀ x : UInt16, 57 < x.toNat → digitUnit e ≠ x := fun x hx => digitUnit_ne he (Or.inr hx)
      rw [if_neg, if_neg, if_neg]
      · exact not_or.2 ⟨hne _ (by decide), hne _ (by decide)⟩
      · exact not_or.2 ⟨hne _ (by decide), hne _ (by decide)⟩
      · exact not_or.2 ⟨hne _ (by decide), hne _ (by decide)⟩
    · rfl

/-- Digits are read as their value; no digits, as zero. -/
theorem bigInt?_map (h : ∀ d ∈ ds, d < 10) : bigInt? (ds.map digitUnit) = some (value ds : ℤ) := by
  unfold bigInt?
  dsimp only
  rw [trim_map h, radix?_map h]
  cases ds with
  | nil => rfl
  | cons d ds =>
    have hd : d < 10 := h d List.mem_cons_self
    rw [if_neg (by simp)]
    have hnatural : natural? 10 ((d :: ds).map digitUnit) = some (value (d :: ds)) := by
      rw [natural?, if_neg (by simp), readDigits_map h]
      rfl
    show signed? ((d :: ds).map digitUnit) = _
    -- a digit is no sign
    rw [signed?.eq_3, hnatural]
    · rfl
    · intro t heq
      exact digitUnit_ne hd (Or.inl (by decide)) (List.cons.inj heq).1
    · intro t heq
      exact digitUnit_ne hd (Or.inl (by decide)) (List.cons.inj heq).1

@[simp] theorem bigInt?_natText (n : ℕ) : bigInt? (natText n) = some (n : ℤ) := by
  rw [natText, bigInt?_map fun d hd => decimal_lt hd, value_decimal]

/-! ## Decimal texts -/

/-- The decimal point. -/
def point : UInt16 := 46

/-- A decimal without a sign: digits, and perhaps a point with further digits. -/
structure Numeral where
  whole : List ℕ
  fraction : Option (List ℕ)
  whole_lt : ∀ d ∈ whole, d < 10
  fraction_lt : ∀ d ∈ fraction.getD [], d < 10

namespace Numeral

/-- A numeral below one. -/
def proper (digits : List ℕ) (h : ∀ d ∈ digits, d < 10) : Numeral := ⟨[0], some digits, by simp, h⟩

/-- The digits after the point. -/
def places (n : Numeral) : List ℕ := n.fraction.getD []

def text (n : Numeral) : Text :=
  n.whole.map digitUnit ++ (n.fraction.map fun ds => point :: ds.map digitUnit).getD []

def value (n : Numeral) : ℚ := FixedWidth.value n.whole +
    FixedWidth.value n.places / 10 ^ n.places.length

theorem value_nonneg (n : Numeral) : 0 ≤ n.value := by
  unfold value
  positivity

end Numeral

/-- The text before the first point and the first `scale` places after it, filled up with zeros, as one
integer; `precision` is `10 ^ scale`. -/
def parseScaled (scale : ℕ) (precision : ℤ) (text : Text) : Option ℤ := do
  let parts := text.splitOn point
  let intPart := parts[0]?.getD (units "0")
  let decPart := (padEnd (digitUnit 0) scale (parts[1]?.getD [])).take scale
  return (← bigInt? intPart) * precision + (← bigInt? decPart)

/-- Appended digits. -/
theorem value_append (ds es : List ℕ) : value (ds ++ es) = value ds * 10 ^ es.length + value es := by
  rw [value, List.reverse_append, Nat.ofDigits_append, List.length_reverse, value, value]
  ring

theorem value_lt (h : ∀ d ∈ ds, d < 10) : value ds < 10 ^ ds.length := by
  have hlt := Nat.ofDigits_lt_base_pow_length (b := 10) (by omega) (l := ds.reverse)
    fun d hd => h d (List.mem_reverse.1 hd)
  rwa [List.length_reverse] at hlt

/-- Filling up to `scale` places and cutting off after them is a truncation. -/
theorem value_take_padEnd (scale : ℕ) (h : ∀ d ∈ ds, d < 10) :
    (value ((padEnd 0 scale ds).take scale) : ℤ) = ⌊(value ds : ℚ) / 10 ^ ds.length * 10 ^ scale⌋ := by
  symm
  rcases le_total ds.length scale with hle | hle
  · have htake : (padEnd 0 scale ds).take scale = ds ++ List.replicate (scale - ds.length) 0 := by
      apply List.take_of_length_le
      rw [length_padEnd]
      omega
    have hzero : value (List.replicate (scale - ds.length) 0) = 0 := by
      rw [value, List.reverse_replicate, Nat.ofDigits_replicate_zero]
    have hpow : (10 : ℚ) ^ scale = 10 ^ ds.length * 10 ^ (scale - ds.length) := by
      rw [← pow_add]
      congr 1
      omega
    rw [htake, value_append, hzero, List.length_replicate, hpow, Int.floor_eq_iff]
    push_cast
    field_simp
    constructor
    · simp
    · linarith
  · have hsplit : ds = ds.take scale ++ ds.drop scale := (List.take_append_drop scale ds).symm
    have htake : (padEnd 0 scale ds).take scale = ds.take scale := by
      rw [padEnd, List.take_append_of_le_length hle]
    have hrest : value (ds.drop scale) < 10 ^ (ds.length - scale) := by
      rw [← List.length_drop]
      exact value_lt fun d hd => h d (List.mem_of_mem_drop hd)
    have hvalue : value ds = value (ds.take scale) * 10 ^ (ds.length - scale) + value (ds.drop scale) := by
      conv_lhs => rw [hsplit, value_append, List.length_drop]
    have hpow : (10 : ℚ) ^ ds.length = 10 ^ scale * 10 ^ (ds.length - scale) := by
      rw [← pow_add]
      congr 1
      omega
    have hcast : (value (ds.drop scale) : ℚ) < 10 ^ (ds.length - scale) := by exact_mod_cast hrest
    have hpos : (0 : ℚ) < 10 ^ (ds.length - scale) := by positivity
    rw [htake, hvalue, hpow, Int.floor_eq_iff]
    push_cast
    generalize (10 : ℚ) ^ (ds.length - scale) = y at hpos hcast ⊢
    have hmul : ∀ x : ℚ, x / (10 ^ scale * y) * 10 ^ scale = x / y := fun x => by field_simp
    rw [hmul, add_div, mul_div_assoc, div_self hpos.ne', mul_one]
    constructor
    · have hnonneg : (0 : ℚ) ≤ value (ds.drop scale) / y := by positivity
      linarith
    · have hone : (value (ds.drop scale) : ℚ) / y < 1 := (div_lt_one hpos).2 hcast
      linarith

theorem point_not_mem (h : ∀ d ∈ ds, d < 10) : point ∉ ds.map digitUnit := by
  intro hmem
  obtain ⟨d, hd, heq⟩ := List.mem_map.1 hmem
  exact digitUnit_ne (h d hd) (Or.inl (by decide)) heq

/-- The parts before and after the point. -/
theorem splitOn_text (n : Numeral) :
    (n.text.splitOn point)[0]?.getD (units "0") = n.whole.map digitUnit ∧
      (n.text.splitOn point)[1]?.getD [] = n.places.map digitUnit := by
  obtain ⟨whole, fraction, hwhole, hfraction⟩ := n
  cases fraction with
  | none =>
    have htext : (⟨whole, none, hwhole, hfraction⟩ : Numeral).text = whole.map digitUnit := by
      simp [Numeral.text]
    rw [htext, List.splitOn_eq_singleton (point_not_mem hwhole)]
    exact ⟨rfl, rfl⟩
  | some ds =>
    have htext : (⟨whole, some ds, hwhole, hfraction⟩ : Numeral).text =
        whole.map digitUnit ++ point :: ds.map digitUnit := rfl
    have hds : point ∉ ds.map digitUnit := point_not_mem hfraction
    rw [htext, List.splitOn_append_cons_self_of_not_mem (point_not_mem hwhole),
      List.splitOn_eq_singleton hds]
    exact ⟨rfl, rfl⟩

/-- A decimal text is truncated to `scale` places. -/
theorem parseScaled_text (scale : ℕ) (n : Numeral) :
    parseScaled scale (10 ^ scale) n.text = some ⌊n.value * 10 ^ scale⌋ := by
  obtain ⟨hint, hdec⟩ := splitOn_text n
  have hplaces : ∀ d ∈ n.places, d < 10 := n.fraction_lt
  have hpad : (padEnd (digitUnit 0) scale (n.places.map digitUnit)).take scale =
      ((padEnd 0 scale n.places).take scale).map digitUnit := by
    simp [padEnd, List.map_take]
  have hdigits : ∀ d ∈ (padEnd 0 scale n.places).take scale, d < 10 := fun d hd =>
    (forall_mem_padEnd (by omega)).2 hplaces d (List.mem_of_mem_take hd)
  have hfloor : ⌊n.value * 10 ^ scale⌋ =
      value n.whole * 10 ^ scale + (value ((padEnd 0 scale n.places).take scale) : ℤ) := by
    rw [value_take_padEnd scale hplaces, Numeral.value, add_mul]
    have hcast : (value n.whole : ℚ) * 10 ^ scale = ((value n.whole * 10 ^ scale : ℤ) : ℚ) := by
      push_cast; rfl
    rw [hcast, Int.floor_intCast_add]
  unfold parseScaled
  dsimp only
  rw [hint, hdec, hpad, bigInt?_map n.whole_lt, bigInt?_map hdigits, hfloor]
  rfl

/-- Nothing is lost of a text with at most `scale` places. -/
theorem floor_scaled {scale : ℕ} {n : Numeral} (h : n.places.length ≤ scale) :
    (⌊n.value * 10 ^ scale⌋ : ℚ) = n.value * 10 ^ scale := by
  have hpow : (10 : ℚ) ^ scale = 10 ^ n.places.length * 10 ^ (scale - n.places.length) := by
    rw [← pow_add]
    congr 1
    omega
  have hvalue : n.value * 10 ^ scale =
      ((value n.whole * 10 ^ scale + value n.places * 10 ^ (scale - n.places.length) : ℕ) : ℚ) := by
    rw [Numeral.value, add_mul]
    push_cast
    congr 1
    rw [hpow]
    field_simp
  rw [hvalue, Int.floor_natCast, Int.cast_natCast]

theorem scaled_nonneg (n : Numeral) {scale : ℤ} (h : 0 ≤ scale) : 0 ≤ ⌊n.value * scale⌋ :=
  Int.floor_nonneg.2 (mul_nonneg n.value_nonneg (Int.cast_nonneg h))

/-! ## Division -/

/-- Truncating division of a natural dividend is the floor of the quotient. -/
theorem tdiv_eq_floor {a b : ℤ} (ha : 0 ≤ a) (hb : 0 < b) : a.tdiv b = ⌊(a : ℚ) / b⌋ := by
  lift b to ℕ using hb.le
  rw [Int.tdiv_eq_ediv_of_nonneg ha, Int.cast_natCast, Rat.floor_intCast_div_natCast]

end ScaledDecimal
