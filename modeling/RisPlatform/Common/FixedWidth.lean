import Mathlib.Data.List.DropRight
import Mathlib.Data.Nat.Digits.Lemmas

/-!
# Fixed-width records

Records that are written as padded columns and read back by position, over any alphabet: padding and
stripping, columns of a concatenation of fields, decimal digits, and lines ended by a separator.

Padding only lengthens a field, so a column is right exactly when its field fits; each lemma here says
for which fields reading inverts writing.
-/

namespace FixedWidth

variable {α : Type*}

/-! ## Padding -/

/-- Lengthen to `len` with `pad` on the right. -/
def padEnd (pad : α) (len : ℕ) (s : List α) : List α := s ++ List.replicate (len - s.length) pad

/-- Lengthen to `len` with `pad` on the left. -/
def padStart (pad : α) (len : ℕ) (s : List α) : List α := List.replicate (len - s.length) pad ++ s

@[simp] theorem length_padEnd (pad : α) (len : ℕ) (s : List α) :
    (padEnd pad len s).length = max len s.length := by
  simp only [padEnd, List.length_append, List.length_replicate]
  omega

@[simp] theorem length_padStart (pad : α) (len : ℕ) (s : List α) :
    (padStart pad len s).length = max len s.length := by
  simp only [padStart, List.length_append, List.length_replicate]
  omega

/-- Padding keeps a property of all units that the pad has. -/
theorem forall_mem_padEnd {pad : α} {len : ℕ} {s : List α} {P : α → Prop} (hpad : P pad) :
    (∀ c ∈ padEnd pad len s, P c) ↔ ∀ c ∈ s, P c := by
  simp only [padEnd, List.mem_append, List.mem_replicate]
  constructor
  · intro h c hc
    exact h c (Or.inl hc)
  · rintro h c (hc | ⟨-, rfl⟩)
    · exact h c hc
    · exact hpad

variable [DecidableEq α]

/-- Drop the trailing `pad`s. -/
def strip (pad : α) (s : List α) : List α := s.rdropWhile (· = pad)

/-- Stripping undoes padding, up to what the field itself ends with. -/
@[simp] theorem strip_padEnd (pad : α) (len : ℕ) (s : List α) :
    strip pad (padEnd pad len s) = strip pad s := by
  rw [padEnd]
  induction len - s.length with
  | zero => simp
  | succ n ih =>
    rw [List.replicate_succ', ← List.append_assoc, strip, List.rdropWhile_concat_pos _ _ _ (by simp)]
    exact ih

/-- A field is its own stripping when it does not end with the pad. -/
theorem strip_eq_self {pad : α} {s : List α} : strip pad s = s ↔ s.getLast? ≠ some pad := by
  rw [strip, List.rdropWhile_eq_self_iff]
  constructor
  · intro h hlast
    obtain ⟨init, rfl⟩ := List.getLast?_eq_some_iff.1 hlast
    exact h (by simp) (by simp)
  · intro h hne hpad
    rw [List.getLast?_eq_some_getLast hne] at h
    exact h (congrArg some (of_decide_eq_true hpad))

/-- A truncated field is read back when it fits and does not end with the pad. -/
theorem strip_take_eq_self {pad : α} {len : ℕ} {s : List α} :
    strip pad (s.take len) = s ↔ s.length ≤ len ∧ s.getLast? ≠ some pad := by
  constructor
  · intro h
    have hprefix : strip pad (s.take len) <+: s.take len := List.rdropWhile_prefix _ _
    have hle := hprefix.length_le
    rw [h, List.length_take] at hle
    have hlen : s.length ≤ len := by omega
    rw [List.take_of_length_le hlen] at h
    exact ⟨hlen, strip_eq_self.1 h⟩
  · rintro ⟨hlen, hlast⟩
    rw [List.take_of_length_le hlen, strip_eq_self.2 hlast]

/-! ## Columns -/

omit [DecidableEq α] in
/-- Positions `first` to `last` of a line, counted from 1. -/
def columns (first last : ℕ) (line : List α) : List α :=
  (line.drop (first - 1)).take (last + 1 - first)

omit [DecidableEq α] in
/-- A field stands in the columns after the fields before it. -/
theorem columns_append (pre field post : List α) {first last : ℕ} (hfirst : first = pre.length + 1)
    (hlast : last = pre.length + field.length) :
    columns first last (pre ++ (field ++ post)) = field := by
  subst hfirst hlast
  rw [columns, Nat.add_sub_cancel, List.drop_left, List.take_left']
  omega

/-! ## Decimal numbers -/

/-- The decimal digits, most significant first; `0` has one. -/
def decimal (n : ℕ) : List ℕ := if n = 0 then [0] else (Nat.digits 10 n).reverse

/-- The number with these decimal digits. -/
def value (digits : List ℕ) : ℕ := Nat.ofDigits 10 digits.reverse

theorem decimal_lt {n d : ℕ} (hd : d ∈ decimal n) : d < 10 := by
  unfold decimal at hd
  split at hd
  · rw [List.mem_singleton] at hd
    omega
  · exact Nat.digits_lt_base (by omega) (List.mem_reverse.1 hd)

@[simp] theorem value_decimal (n : ℕ) : value (decimal n) = n := by
  unfold decimal
  split
  · rename_i hn
    simp [value, hn]
  · rw [value, List.reverse_reverse, Nat.ofDigits_digits]

/-- Leading zeros do not count. -/
@[simp] theorem value_padStart (len : ℕ) (digits : List ℕ) :
    value (padStart 0 len digits) = value digits := by
  rw [value, padStart, List.reverse_append, List.reverse_replicate, Nat.ofDigits_append_replicate_zero,
    value]

/-- A number fits into `k` digits when it is below `10 ^ k`. -/
theorem length_decimal_le_iff {n k : ℕ} (hk : 0 < k) : (decimal n).length ≤ k ↔ n < 10 ^ k := by
  unfold decimal
  split
  · rename_i hn
    have hpos : 0 < 10 ^ k := by positivity
    simp only [List.length_singleton, hn]
    omega
  · rw [List.length_reverse, Nat.digits_length_le_iff (by omega)]

/-! ## Lines -/

omit [DecidableEq α] in
/-- The lines, each ended by the separator. -/
def unlines (sep : α) (lines : List (List α)) : List α := lines.flatMap fun line => line ++ [sep]

omit [DecidableEq α] in
theorem intercalate_concat (sep : α) {lines : List (List α)} (hne : lines ≠ []) :
    List.intercalate [sep] lines ++ [sep] = unlines sep lines := by
  induction lines with
  | nil => exact absurd rfl hne
  | cons line rest ih =>
    cases rest with
    | nil => simp [unlines]
    | cons next rest =>
      have ih := ih (by simp)
      rw [unlines, List.flatMap_cons, ← unlines, ← ih, List.intercalate_cons_cons]
      simp

/-- The separators are those between the lines and those inside them. -/
theorem count_unlines (sep : α) (lines : List (List α)) :
    (unlines sep lines).count sep = lines.length + (lines.map (List.count sep)).sum := by
  induction lines with
  | nil => simp [unlines]
  | cons line rest ih =>
    rw [unlines, List.flatMap_cons, ← unlines, List.count_append, ih, List.count_append,
      List.count_singleton_self, List.map_cons, List.sum_cons, List.length_cons]
    omega

omit [DecidableEq α] in
/-- The first separator ends the first line. -/
theorem append_cons_inj {sep : α} {l l' z z' : List α} (h : sep ∉ l) (h' : sep ∉ l')
    (heq : l ++ sep :: z = l' ++ sep :: z') : l = l' ∧ z = z' := by
  induction l generalizing l' with
  | nil =>
    cases l' with
    | nil => simpa using heq
    | cons c' l' =>
      rw [List.nil_append, List.cons_append, List.cons.injEq] at heq
      exact absurd (by simp [heq.1]) h'
  | cons c l ih =>
    cases l' with
    | nil =>
      rw [List.nil_append, List.cons_append, List.cons.injEq] at heq
      exact absurd (by simp [heq.1]) h
    | cons c' l' =>
      simp only [List.cons_append, List.cons.injEq] at heq
      obtain ⟨rfl, heq⟩ := heq
      obtain ⟨rfl, rfl⟩ := ih (fun hmem => h (List.mem_cons_of_mem _ hmem))
        (fun hmem => h' (List.mem_cons_of_mem _ hmem)) heq
      exact ⟨rfl, rfl⟩

omit [DecidableEq α] in
/-- Lines without separators are determined by the text. -/
theorem unlines_injective {sep : α} {lines lines' : List (List α)} (h : ∀ l ∈ lines, sep ∉ l)
    (h' : ∀ l ∈ lines', sep ∉ l) (heq : unlines sep lines = unlines sep lines') : lines = lines' := by
  induction lines generalizing lines' with
  | nil =>
    cases lines' with
    | nil => rfl
    | cons line' rest' => simp [unlines] at heq
  | cons line rest ih =>
    cases lines' with
    | nil => simp [unlines] at heq
    | cons line' rest' =>
      simp only [unlines, List.flatMap_cons, List.append_assoc, List.singleton_append] at heq
      obtain ⟨hline, hrest⟩ := append_cons_inj (h line (by simp)) (h' line' (by simp)) heq
      rw [hline, ih (fun l hl => h l (List.mem_cons_of_mem _ hl))
        (fun l hl => h' l (List.mem_cons_of_mem _ hl)) hrest]

/-- As many separators as lines: then no line holds one. -/
theorem not_mem_of_count {sep : α} {lines : List (List α)} {n : ℕ}
    (h : (unlines sep lines).count sep = n) (hn : lines.length = n) : ∀ l ∈ lines, sep ∉ l := by
  rw [count_unlines, hn, Nat.add_eq_left, List.sum_eq_zero_iff_forall_eq_nat] at h
  intro l hl
  exact List.count_eq_zero.1 (h _ (List.mem_map.2 ⟨l, hl, rfl⟩))

end FixedWidth
