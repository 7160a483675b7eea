import Mathlib.Data.Int.Notation
import Mathlib.Data.List.Basic
import RisPlatform.Common.DecimalContext

/-!
# Texts, moments, decimals and values of JSON

What the apps of the backend share.
-/

namespace Ris.Backend

/-- Texts by their characters: what has lone surrogates cannot be encoded, nor stored. -/
abbrev Text := List Char

/-- A number with at least `w` digits; only the last `w` are written. -/
def pad : ℕ → ℕ → Text
  | 0, _ => []
  | w + 1, n => pad w (n / 10) ++ [Char.ofNat (48 + n % 10)]

def hexDigits : ℕ → ℕ → Text
  | 0, _ => []
  | w + 1, n =>
    hexDigits w (n / 16) ++
      [if n % 16 < 10 then Char.ofNat (48 + n % 16) else Char.ofNat (87 + n % 16)]

/-! ## Time -/

/-- A moment in UTC. -/
structure DateTime where
  year : Fin 10000
  month : Fin 13
  day : Fin 32
  hour : Fin 24
  minute : Fin 60
  second : Fin 60
  microsecond : Fin 1000000
  deriving DecidableEq

/-- The moment with these numbers, where they are in their ranges. -/
def DateTime.ofNat (year month day hour minute second microsecond : ℕ) : DateTime where
  year := ⟨year % 10000, Nat.mod_lt _ (Nat.succ_pos _)⟩
  month := ⟨month % 13, Nat.mod_lt _ (Nat.succ_pos _)⟩
  day := ⟨day % 32, Nat.mod_lt _ (Nat.succ_pos _)⟩
  hour := ⟨hour % 24, Nat.mod_lt _ (Nat.succ_pos _)⟩
  minute := ⟨minute % 60, Nat.mod_lt _ (Nat.succ_pos _)⟩
  second := ⟨second % 60, Nat.mod_lt _ (Nat.succ_pos _)⟩
  microsecond := ⟨microsecond % 1000000, Nat.mod_lt _ (Nat.succ_pos _)⟩

/-- The place of a moment among all. -/
def DateTime.rank (t : DateTime) : ℕ :=
  (((((t.year * 13 + t.month) * 32 + t.day) * 24 + t.hour) * 60 + t.minute) * 60 + t.second) * 1000000 +
    t.microsecond

/-- The microseconds are left out if there are none. -/
def DateTime.isoformat (t : DateTime) : Text :=
  pad 4 t.year ++ '-' :: pad 2 t.month ++ '-' :: pad 2 t.day ++ 'T' :: pad 2 t.hour ++ ':' ::
    pad 2 t.minute ++ ':' :: pad 2 t.second ++
    (if t.microsecond.val = 0 then [] else '.' :: pad 6 t.microsecond) ++ "+00:00".toList

def daysInMonth (year month : ℕ) : ℕ :=
  if month = 2 then
    if year % 4 = 0 ∧ (year % 100 ≠ 0 ∨ year % 400 = 0) then 29 else 28
  else if month = 4 ∨ month = 6 ∨ month = 9 ∨ month = 11 then 30
  else 31

/-- The same time of the next day. -/
def DateTime.nextDay (t : DateTime) : DateTime :=
  if t.day.val < daysInMonth t.year t.month then
    .ofNat t.year t.month (t.day + 1) t.hour t.minute t.second t.microsecond
  else if t.month.val < 12 then .ofNat t.year (t.month + 1) 1 t.hour t.minute t.second t.microsecond
  else .ofNat (t.year + 1) 1 1 t.hour t.minute t.second t.microsecond

/-! ## Decimals -/

/-- The result of an operation on decimals in the default context, of 28 digits. -/
def fix (q : ℚ) : ℚ := DecimalContext.round 28 q

/-- A number of up to 28 digits is not rounded. -/
theorem fix_of_digits {q : ℚ} {m : ℤ} (n : ℕ) (h : q = m / 10 ^ n) (hm : |m| < 10 ^ 28) : fix q = q := by
  rw [h]
  exact DecimalContext.round_of_digits hm

theorem fix_mono {x y : ℚ} (h : x ≤ y) : fix x ≤ fix y := DecimalContext.round_mono (by norm_num) h

/-! ## JSON -/

/-- A value of JSON; floats by their text. -/
inductive Json where
  | null
  | bool (b : Bool)
  | int (n : ℤ)
  | float (repr : Text)
  | str (s : Text)
  | arr (items : List Json)
  | obj (fields : List (Text × Json))

/-- What counts as true in a condition. -/
def Json.truthy : Json → Bool
  | .null => false
  | .bool b => b
  | .int n => n != 0
  | .float repr => repr != "0.0".toList && repr != "-0.0".toList
  | .str s => !s.isEmpty
  | .arr items => !items.isEmpty
  | .obj fields => !fields.isEmpty

/-- A field of the body that goes into a column of text, which writes any value but null as a text. -/
inductive Field where
  | absent
  | null
  | text (s : Text)
  deriving DecidableEq

/-- `data.get(field, default)` as such a column takes it: it refuses null. -/
def Field.stored (field : Field) (default : String) : Option Text :=
  match field with
  | .absent => some default.toList
  | .null => none
  | .text s => some s

/-- The same in a formatted text. -/
def Field.formatted (field : Field) (default : String) :
    Text := (field.stored default).getD "None".toList

/-! ## Answers -/

/-- The status of an answer, and its message or error if it has one. -/
structure Reply where
  status : ℕ
  message : Text := []
  deriving DecidableEq

end Ris.Backend
