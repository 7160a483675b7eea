import Mathlib.Tactic.IntervalCases

/-!
# Strings of UTF-16 code units

Texts are lists of code units, so a surrogate may stand alone. `toUtf8` writes such a one as U+FFFD, and
`fromUtf8` reads bytes that are no UTF-8 as U+FFFD, one for each longest part of a character, so the
round trip gives the text with its lone surrogates replaced (`fromUtf8_toUtf8`). `fromHex` reads pairs of
digits up to the first pair that is none.
-/

namespace Utf16

abbrev Text := List UInt16

/-- The units of a literal. -/
def units (s : String) : Text := s.toList.map fun c => c.toNat.toUInt16

/-- White space and the ends of lines. -/
def isSpace (x : UInt16) : Bool :=
  (9 ≤ x && x ≤ 13) || (0x2000 ≤ x && x ≤ 0x200A) ||
    [32, 0xA0, 0x1680, 0x2028, 0x2029, 0x202F, 0x205F, 0x3000, 0xFEFF].contains x

theorem units_append (s s' : String) : units (s ++ s') = units s ++ units s' := by
  rw [units, String.toList_append, List.map_append]
  rfl

/-! ## Code points -/

def isHigh (x : UInt16) : Bool := 0xD800 ≤ x && x ≤ 0xDBFF

def isLow (x : UInt16) : Bool := 0xDC00 ≤ x && x ≤ 0xDFFF

/-- A unit that stands alone. -/
def single (x : UInt16) : UInt16 := if isHigh x || isLow x then 0xFFFD else x

/-- The text without lone surrogates. -/
def toWellFormed : Text → Text
  | [] => []
  | [x] => [single x]
  | x :: y :: t =>
    if isHigh x && isLow y then x :: y :: toWellFormed t else single x :: toWellFormed (y :: t)

def isWellFormed : Text → Bool
  | [] => true
  | [x] => single x == x
  | x :: y :: t => if isHigh x && isLow y then isWellFormed t else single x == x && isWellFormed (y :: t)

def codePoints : Text → List ℕ
  | [] => []
  | [x] => [(single x).toNat]
  | x :: y :: t =>
    if isHigh x && isLow y then
      (0x10000 + (x.toNat - 0xD800) * 1024 + (y.toNat - 0xDC00)) :: codePoints t
    else (single x).toNat :: codePoints (y :: t)

def codePointUnits (c : ℕ) : Text :=
  if c < 0x10000 then [.ofNat c]
  else [.ofNat (0xD800 + (c - 0x10000) / 1024), .ofNat (0xDC00 + (c - 0x10000) % 1024)]

/-- Below the surrogates. -/
theorem isWellFormed_of_lt {t : Text} (h : ∀ x ∈ t, x.toNat < 0xD800) : isWellFormed t = true := by
  have hlow : ∀ x ∈ t, isHigh x = false ∧ isLow x = false := by
    intro x hx
    have hlt : x < 0xD800 := UInt16.lt_iff_toNat_lt.2 (h x hx)
    have hlt' : x < 0xDC00 := UInt16.lt_iff_toNat_lt.2 ((h x hx).trans (by decide))
    refine ⟨?_, ?_⟩
    · rw [isHigh, decide_eq_false (UInt16.not_le.2 hlt), Bool.false_and]
    · rw [isLow, decide_eq_false (UInt16.not_le.2 hlt'), Bool.false_and]
  have hsingle : ∀ x ∈ t, single x = x := by
    intro x hx
    rw [single, (hlow x hx).1, (hlow x hx).2]
    rfl
  clear h
  induction t using isWellFormed.induct with
  | case1 => rfl
  | case2 x => exact beq_iff_eq.2 (hsingle x List.mem_cons_self)
  | case3 x y t hpair ih =>
    rw [(hlow x List.mem_cons_self).1] at hpair
    cases hpair
  | case4 x y t hpair ih =>
    rw [isWellFormed, if_neg hpair, Bool.and_eq_true, beq_iff_eq]
    exact ⟨hsingle x List.mem_cons_self, ih (fun z hz => hlow z (List.mem_cons_of_mem x hz))
      fun z hz => hsingle z (List.mem_cons_of_mem x hz)⟩

/-- The code points of characters. -/
def IsScalar (c : ℕ) : Prop := c < 0xD800 ∨ 0xE000 ≤ c ∧ c < 0x110000

theorem toWellFormed_of_isWellFormed {t : Text} (h : isWellFormed t = true) : toWellFormed t = t := by
  induction t using isWellFormed.induct with
  | case1 => rfl
  | case2 x => rw [toWellFormed, beq_iff_eq.1 h]
  | case3 x y t hpair ih =>
    rw [isWellFormed, if_pos hpair] at h
    rw [toWellFormed, if_pos hpair, ih h]
  | case4 x y t hpair ih =>
    rw [isWellFormed, if_neg hpair, Bool.and_eq_true, beq_iff_eq] at h
    rw [toWellFormed, if_neg hpair, h.1, ih h.2]

theorem codePointUnits_single (x : UInt16) : codePointUnits (single x).toNat = [single x] := by
  rw [codePointUnits, if_pos (single x).toNat_lt, UInt16.ofNat_toNat]

theorem isHigh_iff {x : UInt16} : isHigh x = true ↔ 0xD800 ≤ x.toNat ∧ x.toNat ≤ 0xDBFF := by
  rw [isHigh, Bool.and_eq_true, decide_eq_true_iff, decide_eq_true_iff, UInt16.le_iff_toNat_le,
    UInt16.le_iff_toNat_le]
  rfl

theorem isLow_iff {x : UInt16} : isLow x = true ↔ 0xDC00 ≤ x.toNat ∧ x.toNat ≤ 0xDFFF := by
  rw [isLow, Bool.and_eq_true, decide_eq_true_iff, decide_eq_true_iff, UInt16.le_iff_toNat_le,
    UInt16.le_iff_toNat_le]
  rfl

theorem isScalar_single (x : UInt16) : IsScalar (single x).toNat := by
  have hx := x.toNat_lt
  unfold single
  split
  · exact Or.inr (by decide)
  · next h =>
    rw [Bool.or_eq_true, isHigh_iff, isLow_iff] at h
    unfold IsScalar
    omega

theorem codePointUnits_pair {x y : UInt16} (h : (isHigh x && isLow y) = true) :
    codePointUnits (0x10000 + (x.toNat - 0xD800) * 1024 + (y.toNat - 0xDC00)) = [x, y] := by
  rw [Bool.and_eq_true, isHigh_iff, isLow_iff] at h
  have hhigh : 0xD800 + (0x10000 + (x.toNat - 0xD800) * 1024 + (y.toNat - 0xDC00) - 0x10000) / 1024 =
      x.toNat := by omega
  have hlow : 0xDC00 + (0x10000 + (x.toNat - 0xD800) * 1024 + (y.toNat - 0xDC00) - 0x10000) % 1024 =
      y.toNat := by omega
  rw [codePointUnits, if_neg (by omega), hhigh, hlow, UInt16.ofNat_toNat, UInt16.ofNat_toNat]

theorem flatMap_codePoints (t : Text) : (codePoints t).flatMap codePointUnits = toWellFormed t := by
  induction t using codePoints.induct with
  | case1 => rfl
  | case2 x =>
    rw [codePoints, List.flatMap_cons, codePointUnits_single]
    rfl
  | case3 x y t hpair ih =>
    rw [codePoints, toWellFormed, if_pos hpair, if_pos hpair, List.flatMap_cons, codePointUnits_pair hpair, ih]
    rfl
  | case4 x y t hpair ih =>
    rw [codePoints, toWellFormed, if_neg hpair, if_neg hpair, List.flatMap_cons, codePointUnits_single, ih]
    rfl

theorem isScalar_of_mem_codePoints {t : Text} {c : ℕ} (h : c ∈ codePoints t) : IsScalar c := by
  induction t using codePoints.induct with
  | case1 => exact absurd h List.not_mem_nil
  | case2 x =>
    rw [codePoints, List.mem_singleton] at h
    rw [h]
    exact isScalar_single x
  | case3 x y t hpair ih =>
    rw [codePoints, if_pos hpair, List.mem_cons] at h
    rcases h with h | h
    · rw [Bool.and_eq_true, isHigh_iff, isLow_iff] at hpair
      unfold IsScalar
      omega
    · exact ih h
  | case4 x y t hpair ih =>
    rw [codePoints, if_neg hpair, List.mem_cons] at h
    rcases h with h | h
    · rw [h]
      exact isScalar_single x
    · exact ih h

/-! ## UTF-8 -/

def utf8Bytes (c : ℕ) : List UInt8 :=
  if c < 0x80 then [.ofNat c]
  else if c < 0x800 then [.ofNat (0xC0 + c / 64), .ofNat (0x80 + c % 64)]
  else if c < 0x10000 then [.ofNat (0xE0 + c / 4096), .ofNat (0x80 + c / 64 % 64), .ofNat (0x80 + c % 64)]
  else [.ofNat (0xF0 + c / 262144), .ofNat (0x80 + c / 4096 % 64), .ofNat (0x80 + c / 64 % 64),
    .ofNat (0x80 + c % 64)]

def toUtf8 (t : Text) : List UInt8 := (codePoints t).flatMap utf8Bytes

/-- A character that is not complete: its bits so far, how many bytes it still needs, and the bounds of
the next one. -/
structure Pending where
  bits : ℕ
  needed : ℕ
  lower : ℕ
  upper : ℕ

/-- What a byte gives that begins a character. -/
def lead (b : ℕ) : List ℕ × Option Pending :=
  if b < 0x80 then ([b], none)
  else if 0xC2 ≤ b ∧ b ≤ 0xDF then ([], some ⟨b - 0xC0, 1, 0x80, 0xBF⟩)
  else if 0xE0 ≤ b ∧ b ≤ 0xEF then
    ([], some ⟨b - 0xE0, 2, if b = 0xE0 then 0xA0 else 0x80, if b = 0xED then 0x9F else 0xBF⟩)
  else if 0xF0 ≤ b ∧ b ≤ 0xF4 then
    ([], some ⟨b - 0xF0, 3, if b = 0xF0 then 0x90 else 0x80, if b = 0xF4 then 0x8F else 0xBF⟩)
  else ([0xFFFD], none)

/-- The code points of the bytes. A byte that does not go on with a character begins the next. -/
def decodeUtf8 : Option Pending → List UInt8 → List ℕ
  | none, [] => []
  | some _, [] => [0xFFFD]
  | none, b :: bs => (lead b.toNat).1 ++ decodeUtf8 (lead b.toNat).2 bs
  | some p, b :: bs =>
    if p.lower ≤ b.toNat ∧ b.toNat ≤ p.upper then
      if p.needed = 1 then (p.bits * 64 + b.toNat % 64) :: decodeUtf8 none bs
      else decodeUtf8 (some ⟨p.bits * 64 + b.toNat % 64, p.needed - 1, 0x80, 0xBF⟩) bs
    else 0xFFFD :: ((lead b.toNat).1 ++ decodeUtf8 (lead b.toNat).2 bs)

def fromUtf8 (bs : List UInt8) : Text := (decodeUtf8 none bs).flatMap codePointUnits

section Decoding

variable {n k v lo hi : ℕ} {bs : List UInt8}

theorem toNat_ofNat_of_lt (h : n < 256) : (UInt8.ofNat n).toNat = n := UInt8.toNat_ofNat_of_lt' h

theorem decodeUtf8_lead (h : n < 256) :
    decodeUtf8 none (.ofNat n :: bs) = (lead n).1 ++ decodeUtf8 (lead n).2 bs := by
  rw [decodeUtf8, toNat_ofNat_of_lt h]

theorem decodeUtf8_last (hn : n < 64) (h : lo ≤ 0x80 + n ∧ 0x80 + n ≤ hi) :
    decodeUtf8 (some ⟨v, 1, lo, hi⟩) (.ofNat (0x80 + n) :: bs) = (v * 64 + n) :: decodeUtf8 none bs := by
  have hbits : (0x80 + n) % 64 = n := by omega
  rw [decodeUtf8, toNat_ofNat_of_lt (by omega), if_pos h, if_pos rfl, hbits]

theorem decodeUtf8_more (hn : n < 64) (hk : 0 < k) (h : lo ≤ 0x80 + n ∧ 0x80 + n ≤ hi) :
    decodeUtf8 (some ⟨v, k + 1, lo, hi⟩) (.ofNat (0x80 + n) :: bs) =
      decodeUtf8 (some ⟨v * 64 + n, k, 0x80, 0xBF⟩) bs := by
  have hbits : (0x80 + n) % 64 = n := by omega
  rw [decodeUtf8, toNat_ofNat_of_lt (by omega), if_pos h, if_neg (by show ¬ k + 1 = 1; omega), hbits]
  rfl

/-- Its own bytes give a character back, however many they are. -/
theorem decodeUtf8_utf8Bytes {c : ℕ} (hc : IsScalar c) :
    decodeUtf8 none (utf8Bytes c ++ bs) = c :: decodeUtf8 none bs := by
  unfold IsScalar at hc
  unfold utf8Bytes
  split
  · next h =>
    rw [List.singleton_append, decodeUtf8_lead (by omega), lead, if_pos h]
    rfl
  split
  · next h₁ h =>
    rw [List.cons_append, List.singleton_append, decodeUtf8_lead (by omega), lead, if_neg (by omega),
      if_pos (by omega)]
    show decodeUtf8 (some ⟨_, 1, _, _⟩) _ = _
    rw [decodeUtf8_last (by omega) (by omega)]
    congr 1
    omega
  split
  · next h₁ h₂ h =>
    rw [List.cons_append, List.cons_append, List.singleton_append, decodeUtf8_lead (by omega), lead,
      if_neg (by omega), if_neg (by omega), if_pos (by omega)]
    show decodeUtf8 (some ⟨_, 2, _, _⟩) _ = _
    rw [decodeUtf8_more (by omega) (by omega) (by split <;> split <;> omega),
      decodeUtf8_last (by omega) (by omega)]
    congr 1
    omega
  · next h₁ h₂ h =>
    rw [List.cons_append, List.cons_append, List.cons_append, List.singleton_append,
      decodeUtf8_lead (by omega), lead, if_neg (by omega), if_neg (by omega), if_neg (by omega),
      if_pos (by omega)]
    show decodeUtf8 (some ⟨_, 3, _, _⟩) _ = _
    rw [decodeUtf8_more (by omega) (by omega) (by split <;> split <;> omega),
      decodeUtf8_more (by omega) (by omega) (by omega), decodeUtf8_last (by omega) (by omega)]
    congr 1
    omega

end Decoding

theorem fromUtf8_toUtf8 (t : Text) : fromUtf8 (toUtf8 t) = toWellFormed t := by
  have hdecode : ∀ cs : List ℕ, (∀ c ∈ cs, IsScalar c) → decodeUtf8 none (cs.flatMap utf8Bytes) = cs := by
    intro cs hcs
    induction cs with
    | nil => rfl
    | cons c cs ih =>
      obtain ⟨hc, hcs⟩ := List.forall_mem_cons.1 hcs
      rw [List.flatMap_cons, decodeUtf8_utf8Bytes hc, ih hcs]
  rw [fromUtf8, toUtf8, hdecode _ fun c => isScalar_of_mem_codePoints, flatMap_codePoints]

/-! ## Hexadecimal digits -/

def hexDigit (n : ℕ) : UInt16 := if n < 10 then .ofNat (48 + n) else .ofNat (87 + n)

def toHex (bs : List UInt8) : Text :=
  bs.flatMap fun b => [hexDigit (b.toNat / 16), hexDigit (b.toNat % 16)]

def unhex (x : UInt16) : Option ℕ :=
  if 48 ≤ x.toNat ∧ x.toNat ≤ 57 then some (x.toNat - 48)
  else if 65 ≤ x.toNat ∧ x.toNat ≤ 70 then some (x.toNat - 55)
  else if 97 ≤ x.toNat ∧ x.toNat ≤ 102 then some (x.toNat - 87)
  else none

/-- The bytes up to the first pair of units that are no two digits. -/
def fromHex : Text → List UInt8
  | x :: y :: t =>
    match unhex x, unhex y with
    | some m, some n => .ofNat (16 * m + n) :: fromHex t
    | _, _ => []
  | _ => []

theorem toNat_hexDigit {n : ℕ} (h : n < 16) :
    (hexDigit n).toNat = if n < 10 then 48 + n else 87 + n := by
  unfold hexDigit
  split <;> exact UInt16.toNat_ofNat_of_lt' (by show _ < 65536; omega)

theorem unhex_hexDigit {n : ℕ} (h : n < 16) : unhex (hexDigit n) = some n := by
  rw [unhex, toNat_hexDigit h]
  split
  · rw [if_pos (by omega), Nat.add_sub_cancel_left]
  · rw [if_neg (by omega), if_neg (by omega), if_pos (by omega), Nat.add_sub_cancel_left]

theorem fromHex_toHex (bs : List UInt8) : fromHex (toHex bs) = bs := by
  induction bs with
  | nil => rfl
  | cons b bs ih =>
    have hb : b.toNat < 256 := b.toNat_lt
    have hbyte : 16 * (b.toNat / 16) + b.toNat % 16 = b.toNat := by omega
    show fromHex (hexDigit _ :: hexDigit _ :: toHex bs) = _
    rw [fromHex, unhex_hexDigit (by omega), unhex_hexDigit (by omega), ih]
    show UInt8.ofNat _ :: bs = _
    rw [hbyte, UInt8.ofNat_toNat]

theorem length_toHex (bs : List UInt8) : (toHex bs).length = 2 * bs.length := by
  induction bs with
  | nil => rfl
  | cons b bs ih =>
    show (toHex bs).length + 1 + 1 = 2 * (bs.length + 1)
    omega

theorem isDigit_of_mem_toHex {bs : List UInt8} {x : UInt16} (h : x ∈ toHex bs) :
    48 ≤ x.toNat ∧ x.toNat ≤ 57 ∨ 97 ≤ x.toNat ∧ x.toNat ≤ 102 := by
  obtain ⟨b, -, hx⟩ := List.mem_flatMap.1 h
  have hb : b.toNat < 256 := b.toNat_lt
  have hdigit : ∀ n, n < 16 → 48 ≤ (hexDigit n).toNat ∧ (hexDigit n).toNat ≤ 57 ∨
      97 ≤ (hexDigit n).toNat ∧ (hexDigit n).toNat ≤ 102 := by
    intro n hn
    rw [toNat_hexDigit hn]
    split <;> omega
  rcases List.mem_cons.1 hx with rfl | hx
  · exact hdigit _ (by omega)
  · rw [List.mem_singleton.1 hx]
    exact hdigit _ (by omega)

/-! ## Decimal numbers -/

def isDecimal (x : UInt16) : Bool := 48 ≤ x && x ≤ 57

/-- The number that the digits at the head give, if there is one. -/
def leadingNumber (t : Text) : Option ℤ :=
  if t.takeWhile isDecimal = [] then none
  else some ((t.takeWhile isDecimal).foldl (fun n x => 10 * n + (x.toNat - 48)) 0 : ℕ)

/-- The number at the head of a text, read to the base of ten; what follows it is not read. -/
def parseInt (t : Text) : Option ℤ :=
  match t.dropWhile isSpace with
  | 45 :: t => (leadingNumber t).map fun n => -n
  | 43 :: t => leadingNumber t
  | t => leadingNumber t

example : parseInt (units " +01abc") = some 1 := by decide

end Utf16
