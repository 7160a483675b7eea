import RisPlatform.Common.Utf16

/-!
# Base64

Three bytes as four digits. `encode` pads the last group with `=`. `decode` skips every unit that is no
digit, takes the digits of the URL alphabet as well, and leaves out a last byte that is not complete.
-/

namespace Base64

open Utf16

/-- `A` to `Z`, `a` to `z`, `0` to `9`, `+` and `/`. -/
def digit (n : ℕ) : UInt16 :=
  if n < 26 then .ofNat (65 + n)
  else if n < 52 then .ofNat (71 + n)
  else if n < 62 then .ofNat (n - 4)
  else if n = 62 then 43
  else 47

/-- The value of a digit; `-` and `_` stand for `+` and `/`. -/
def value (x : UInt16) : Option ℕ :=
  if 65 ≤ x.toNat ∧ x.toNat ≤ 90 then some (x.toNat - 65)
  else if 97 ≤ x.toNat ∧ x.toNat ≤ 122 then some (x.toNat - 71)
  else if 48 ≤ x.toNat ∧ x.toNat ≤ 57 then some (x.toNat + 4)
  else if x.toNat = 43 ∨ x.toNat = 45 then some 62
  else if x.toNat = 47 ∨ x.toNat = 95 then some 63
  else none

/-- `=` -/
def pad : UInt16 := 61

def encode : List UInt8 → Text
  | a :: b :: c :: bs =>
    digit (a.toNat / 4) :: digit (a.toNat % 4 * 16 + b.toNat / 16) ::
      digit (b.toNat % 16 * 4 + c.toNat / 64) :: digit (c.toNat % 64) :: encode bs
  | [a, b] =>
    [digit (a.toNat / 4), digit (a.toNat % 4 * 16 + b.toNat / 16), digit (b.toNat % 16 * 4), pad]
  | [a] => [digit (a.toNat / 4), digit (a.toNat % 4 * 16), pad, pad]
  | [] => []

/-- The bytes of the values, six bits each. -/
def ofValues : List ℕ → List UInt8
  | a :: b :: c :: d :: vs =>
    .ofNat (a * 4 + b / 16) :: .ofNat (b % 16 * 16 + c / 4) :: .ofNat (c % 4 * 64 + d) :: ofValues vs
  | [a, b, c] => [.ofNat (a * 4 + b / 16), .ofNat (b % 16 * 16 + c / 4)]
  | [a, b] => [.ofNat (a * 4 + b / 16)]
  | _ => []

def decode (t : Text) : List UInt8 := ofValues (t.filterMap value)

theorem toNat_digit {n : ℕ} (h : n < 64) :
    (digit n).toNat =
      if n < 26 then 65 + n else if n < 52 then 71 + n else if n < 62 then n - 4
        else if n = 62 then 43 else 47 := by
  unfold digit
  have hnat : ∀ k, k < 65536 → (UInt16.ofNat k).toNat = k := fun k hk => UInt16.toNat_ofNat_of_lt' hk
  split
  · exact hnat _ (by omega)
  · split
    · exact hnat _ (by omega)
    · split
      · exact hnat _ (by omega)
      · split <;> rfl

theorem value_digit {n : ℕ} (h : n < 64) : value (digit n) = some n := by
  rw [value, toNat_digit h]
  grind

theorem value_pad : value pad = none := rfl

/-- What is written is read back. -/
theorem decode_encode (bs : List UInt8) : decode (encode bs) = bs := by
  unfold decode
  induction bs using encode.induct with
  | case1 a b c bs ih =>
    have ha := a.toNat_lt
    have hb := b.toNat_lt
    have hc := c.toNat_lt
    have h₁ : a.toNat / 4 * 4 + (a.toNat % 4 * 16 + b.toNat / 16) / 16 = a.toNat := by omega
    have h₂ : (a.toNat % 4 * 16 + b.toNat / 16) % 16 * 16 + (b.toNat % 16 * 4 + c.toNat / 64) / 4 =
        b.toNat := by omega
    have h₃ : (b.toNat % 16 * 4 + c.toNat / 64) % 4 * 64 + c.toNat % 64 = c.toNat := by omega
    rw [encode, List.filterMap_cons_some (value_digit (by omega)),
      List.filterMap_cons_some (value_digit (by omega)),
      List.filterMap_cons_some (value_digit (by omega)),
      List.filterMap_cons_some (value_digit (by omega)), ofValues, ih, h₁, h₂, h₃,
      UInt8.ofNat_toNat, UInt8.ofNat_toNat, UInt8.ofNat_toNat]
  | case2 a b =>
    have ha := a.toNat_lt
    have hb := b.toNat_lt
    have h₁ : a.toNat / 4 * 4 + (a.toNat % 4 * 16 + b.toNat / 16) / 16 = a.toNat := by omega
    have h₂ : (a.toNat % 4 * 16 + b.toNat / 16) % 16 * 16 + b.toNat % 16 * 4 / 4 = b.toNat := by omega
    rw [encode, List.filterMap_cons_some (value_digit (by omega)),
      List.filterMap_cons_some (value_digit (by omega)),
      List.filterMap_cons_some (value_digit (by omega)), List.filterMap_cons_none value_pad,
      List.filterMap_nil, ofValues, h₁, h₂, UInt8.ofNat_toNat, UInt8.ofNat_toNat]
  | case3 a =>
    have ha := a.toNat_lt
    have h₁ : a.toNat / 4 * 4 + a.toNat % 4 * 16 / 16 = a.toNat := by omega
    rw [encode, List.filterMap_cons_some (value_digit (by omega)),
      List.filterMap_cons_some (value_digit (by omega)), List.filterMap_cons_none value_pad,
      List.filterMap_cons_none value_pad, List.filterMap_nil, ofValues, h₁, UInt8.ofNat_toNat]
  | case4 => rfl

theorem toNat_digit_lt (n : ℕ) (h : n < 64) : (digit n).toNat < 128 := by
  rw [toNat_digit h]
  grind

theorem lt_of_mem_encode {bs : List UInt8} {x : UInt16} (hx : x ∈ encode bs) : x.toNat < 128 := by
  have hpad : pad.toNat < 128 := by decide
  induction bs using encode.induct with
  | case1 a b c bs ih =>
    have ha := a.toNat_lt
    have hb := b.toNat_lt
    have hc := c.toNat_lt
    simp only [encode, List.mem_cons] at hx
    rcases hx with rfl | rfl | rfl | rfl | hx
    · exact toNat_digit_lt _ (by omega)
    · exact toNat_digit_lt _ (by omega)
    · exact toNat_digit_lt _ (by omega)
    · exact toNat_digit_lt _ (by omega)
    · exact ih hx
  | case2 a b =>
    have ha := a.toNat_lt
    have hb := b.toNat_lt
    simp only [encode, List.mem_cons, List.not_mem_nil, or_false] at hx
    rcases hx with rfl | rfl | rfl | rfl
    · exact toNat_digit_lt _ (by omega)
    · exact toNat_digit_lt _ (by omega)
    · exact toNat_digit_lt _ (by omega)
    · exact hpad
  | case3 a =>
    have ha := a.toNat_lt
    simp only [encode, List.mem_cons, List.not_mem_nil, or_false] at hx
    rcases hx with rfl | rfl | rfl | rfl
    · exact toNat_digit_lt _ (by omega)
    · exact toNat_digit_lt _ (by omega)
    · exact hpad
    · exact hpad
  | case4 => cases hx

/-- What is written has no surrogates. -/
theorem isWellFormed_encode (bs : List UInt8) : isWellFormed (encode bs) = true :=
  isWellFormed_of_lt fun x hx => (lt_of_mem_encode hx).trans (by decide)

end Base64
