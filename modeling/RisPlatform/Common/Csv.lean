import Mathlib.Tactic.Common

/-!
# Comma-separated values

`records` reads a text by RFC 4180: fields stand between commas, a record ends at a carriage return, a
line feed or both, and between quotes every character stands for itself, a doubled quote for one. It has
no result where a quoted field does not end, where a quote stands inside a field without quotes, and where
a closing quote is followed by more text. Characters that the grammar does not name stand for themselves.

`render` writes rows with a rule that says which fields are quoted. The rows are read back exactly when no
field that the rule leaves without quotes has the end of a line in it (`records_render_iff`).
-/

namespace Csv

variable {α : Type*}

/-- The characters that the grammar names. -/
structure Alphabet (α : Type*) where
  comma : α
  quote : α
  cr : α
  lf : α
  nodup : [comma, quote, cr, lf].Nodup

namespace Alphabet

variable (a : Alphabet α)

theorem comma_ne_quote : a.comma ≠ a.quote := fun h => by simpa [h] using a.nodup
theorem comma_ne_cr : a.comma ≠ a.cr := fun h => by simpa [h] using a.nodup
theorem comma_ne_lf : a.comma ≠ a.lf := fun h => by simpa [h] using a.nodup
theorem quote_ne_cr : a.quote ≠ a.cr := fun h => by simpa [h] using a.nodup
theorem quote_ne_lf : a.quote ≠ a.lf := fun h => by simpa [h] using a.nodup
theorem lf_ne_cr : a.lf ≠ a.cr := fun h => by simpa [h] using a.nodup

/-- No character of the text has a meaning of its own. -/
def Plain (f : List α) : Prop :=
  a.comma ∉ f ∧ a.quote ∉ f ∧ a.cr ∉ f ∧ a.lf ∉ f

theorem Plain.cons {a : Alphabet α} {c : α} {f : List α} (h : a.Plain (c :: f)) :
    (c ≠ a.comma ∧ c ≠ a.quote ∧ c ≠ a.cr ∧ c ≠ a.lf) ∧ a.Plain f := by
  obtain ⟨hcomma, hquote, hcr, hlf⟩ := h
  simp only [List.mem_cons, not_or] at hcomma hquote hcr hlf
  exact ⟨⟨Ne.symm hcomma.1, Ne.symm hquote.1, Ne.symm hcr.1, Ne.symm hlf.1⟩,
    hcomma.2, hquote.2, hcr.2, hlf.2⟩

end Alphabet

/-! ## Reading -/

/-- Where the reader stands: before a record, and then whether the last character was a carriage return,
before a field, in a field without quotes, between quotes, or after a quote that may be the closing one. -/
inductive Mode where
  | record (afterCr : Bool)
  | field
  | plain
  | quoted
  | closed
  deriving DecidableEq

/-- A field may start here. -/
def Mode.Fresh (m : Mode) : Prop := m = .record false ∨ m = .field

theorem Mode.Fresh.ne {m : Mode} (hm : m.Fresh) :
    m ≠ .quoted ∧ m ≠ .closed ∧ m ≠ .plain ∧ m ≠ .record true := by
  obtain rfl | rfl := hm
  · exact ⟨by decide, by decide, by decide, by decide⟩
  · exact ⟨by decide, by decide, by decide, by decide⟩

variable [DecidableEq α] (a : Alphabet α)

/-- The records of the rest of a text, with the fields of the current record and the characters of the
current field that are read already. -/
def go : Mode → List (List α) → List α → List α → Option (List (List (List α)))
  | .record _, _, _, [] => some []
  | .quoted, _, _, [] => none
  | _, row, f, [] => some [row ++ [f]]
  | m, row, f, c :: s =>
    if m = .quoted then
      if c = a.quote then go .closed row f s else go .quoted row (f ++ [c]) s
    -- the line feed of a carriage return ends no second record
    else if m = .record true ∧ c = a.lf then go (.record false) [] [] s
    else if c = a.comma then go .field (row ++ [f]) [] s
    else if c = a.cr then (go (.record true) [] [] s).map (List.cons (row ++ [f]))
    else if c = a.lf then (go (.record false) [] [] s).map (List.cons (row ++ [f]))
    else if c = a.quote then
      -- a quote opens a field, or doubles the quote before it
      if m = .plain then none
      else if m = .closed then go .quoted row (f ++ [c]) s
      else go .quoted row [] s
    else if m = .closed then none
    else go .plain row (f ++ [c]) s

/-- The records of a text. -/
def records (s : List α) : Option (List (List (List α))) :=
  go a (.record false) [] [] s

/-! ## Writing -/

variable (quoted : List α → Bool)

/-- Every quote twice. -/
def double (f : List α) : List α :=
  f.flatMap fun c => if c = a.quote then [a.quote, a.quote] else [c]

def encode (f : List α) : List α :=
  if quoted f then a.quote :: double a f ++ [a.quote] else f

/-- The fields of a row, joined by commas. -/
def line (row : List (List α)) : List α :=
  List.intercalate [a.comma] (row.map (encode a quoted))

/-- The rows, each ended by a line feed. -/
def render (rows : List (List (List α))) : List α :=
  rows.flatMap fun row => line a quoted row ++ [a.lf]

omit [DecidableEq α] in
/-- Lines that are joined by an end of a line, with another one at the end. -/
theorem intercalate_append (x : α) {rows : List (List α)} (hne : rows ≠ []) :
    List.intercalate [x] rows ++ [x] = rows.flatMap fun row => row ++ [x] := by
  induction rows with
  | nil => exact absurd rfl hne
  | cons row rows ih =>
      cases rows with
      | nil => rw [List.intercalate_singleton, List.flatMap_cons, List.flatMap_nil, List.append_nil]
      | cons row' rows =>
          rw [List.intercalate_cons_cons, List.append_assoc, ih (List.cons_ne_nil row' rows)]
          rfl

/-! ## One character -/

variable {a} {m : Mode} {r : List (List α)} {f : List α}

theorem go_comma (hm : m ≠ .quoted) (s : List α) :
    go a m r f (a.comma :: s) = go a .field (r ++ [f]) [] s := by
  rw [go, if_neg hm, if_neg fun h => a.comma_ne_lf h.2, if_pos rfl]

theorem go_cr (hm : m ≠ .quoted) (s : List α) :
    go a m r f (a.cr :: s) = (go a (.record true) [] [] s).map (List.cons (r ++ [f])) := by
  rw [go, if_neg hm, if_neg fun h => a.lf_ne_cr h.2.symm, if_neg a.comma_ne_cr.symm, if_pos rfl]

theorem go_lf (hm : m ≠ .quoted) (hm' : m ≠ .record true) (s : List α) :
    go a m r f (a.lf :: s) = (go a (.record false) [] [] s).map (List.cons (r ++ [f])) := by
  rw [go, if_neg hm, if_neg fun h => hm' h.1, if_neg a.comma_ne_lf.symm, if_neg a.lf_ne_cr,
    if_pos rfl]

/-- An end of a line ends the record, whatever is made of the rest. -/
theorem go_break {b : α} (hm : m ≠ .quoted) (hm' : m ≠ .record true) (hb : b = a.cr ∨ b = a.lf)
    (s : List α) : ∃ m', go a m r f (b :: s) = (go a m' [] [] s).map (List.cons (r ++ [f])) := by
  obtain rfl | rfl := hb
  · exact ⟨_, go_cr hm s⟩
  · exact ⟨_, go_lf hm hm' s⟩

theorem go_other {c : α} (hm : m ≠ .quoted) (hm' : m ≠ .closed)
    (hc : c ≠ a.comma ∧ c ≠ a.quote ∧ c ≠ a.cr ∧ c ≠ a.lf) (s : List α) :
    go a m r f (c :: s) = go a .plain r (f ++ [c]) s := by
  obtain ⟨hcomma, hquote, hcr, hlf⟩ := hc
  rw [go, if_neg hm, if_neg fun h => hlf h.2, if_neg hcomma, if_neg hcr, if_neg hlf, if_neg hquote,
    if_neg hm']

/-- A quote before a field opens it. -/
theorem go_open (hm : m.Fresh) (s : List α) :
    go a m r f (a.quote :: s) = go a .quoted r [] s := by
  obtain ⟨hquoted, hclosed, hplain, -⟩ := hm.ne
  rw [go, if_neg hquoted, if_neg fun h => a.quote_ne_lf h.2, if_neg a.comma_ne_quote.symm,
    if_neg a.quote_ne_cr, if_neg a.quote_ne_lf, if_pos rfl, if_neg hplain, if_neg hclosed]

/-- A quote after a quote stands for one. -/
theorem go_doubled (s : List α) :
    go a .quoted r f (a.quote :: a.quote :: s) = go a .quoted r (f ++ [a.quote]) s := by
  have hclosed : go a .quoted r f (a.quote :: a.quote :: s) = go a .closed r f (a.quote :: s) := by
    rw [go, if_pos rfl, if_pos rfl]
  rw [hclosed, go, if_neg (by simp), if_neg (by simp), if_neg a.comma_ne_quote.symm,
    if_neg a.quote_ne_cr, if_neg a.quote_ne_lf, if_pos rfl, if_neg (by simp), if_pos rfl]

/-! ## One field -/

theorem go_double (x s : List α) :
    go a .quoted r f (double a x ++ a.quote :: s) = go a .closed r (f ++ x) s := by
  induction x generalizing f with
  | nil =>
      rw [double, List.flatMap_nil, List.nil_append, List.append_nil, go, if_pos rfl, if_pos rfl]
  | cons c x ih =>
      have hsplit : double a (c :: x) = (if c = a.quote then [a.quote, a.quote] else [c]) ++ double a x :=
        List.flatMap_cons
      rw [hsplit, List.append_cons f c x]
      by_cases hc : c = a.quote
      · -- the doubled quote comes first, and is one quote of the field
        subst hc
        rw [if_pos rfl]
        exact (go_doubled _).trans ih
      · rw [if_neg hc, List.cons_append, List.nil_append, List.cons_append, go, if_pos rfl, if_neg hc]
        exact ih

/-- A text without special characters is read as it stands. -/
theorem go_plain {x : List α} (hx : a.Plain x) (hm : m ≠ .quoted) (hm' : m ≠ .closed) :
    ∃ m', m' ≠ .quoted ∧ (m ≠ .record true → m' ≠ .record true) ∧
      ∀ s, go a m r f (x ++ s) = go a m' r (f ++ x) s := by
  induction x generalizing m f with
  | nil =>
      refine ⟨m, hm, id, ?_⟩
      intro s
      rw [List.nil_append, List.append_nil]
  | cons c x ih =>
      obtain ⟨hc, hx⟩ := hx.cons
      obtain ⟨m', hquoted, hrecord, hgo⟩ := ih (f := f ++ [c]) hx (m := .plain) (by simp) (by simp)
      refine ⟨m', hquoted, fun _ => hrecord (by simp), ?_⟩
      intro s
      rw [List.cons_append, go_other hm hm' hc, hgo s, ← List.append_cons]

variable {quoted}

/-- A field is read up to its end, where it is quoted or plain. -/
theorem go_encode (hm : m.Fresh) (h : quoted f = false → a.Plain f) :
    ∃ m', m' ≠ .quoted ∧ m' ≠ .record true ∧
      ∀ s, go a m r [] (encode a quoted f ++ s) = go a m' r f s := by
  by_cases hq : quoted f = true
  · refine ⟨.closed, by simp, by simp, ?_⟩
    intro s
    rw [encode, if_pos hq, List.append_assoc, List.cons_append, go_open hm]
    exact go_double f s
  · obtain ⟨hquoted, hclosed, -, hrecord⟩ := hm.ne
    obtain ⟨m', hquoted', hrecord', hgo⟩ :=
      go_plain (r := r) (f := []) (h (by simpa using hq)) hquoted hclosed
    refine ⟨m', hquoted', hrecord' hrecord, ?_⟩
    intro s
    rw [encode, if_neg hq]
    exact hgo s

/-! ## One line -/

variable (a quoted) in
theorem line_cons_cons (x y : List α) (fs : List (List α)) :
    line a quoted (x :: y :: fs) = encode a quoted x ++ a.comma :: line a quoted (y :: fs) := by
  rw [line, line, List.map_cons, List.map_cons, List.intercalate_cons_cons, List.append_assoc,
    List.cons_append, List.nil_append]

/-- The line of the rest of a row, from the place where its first field starts. -/
theorem go_line (hm : m.Fresh) {fs : List (List α)} (hne : fs ≠ [])
    (h : ∀ x ∈ fs, quoted x = false → a.Plain x) (s : List α) :
    go a m r [] (line a quoted fs ++ a.lf :: s) =
      (go a (.record false) [] [] s).map (List.cons (r ++ fs)) := by
  induction fs generalizing m r with
  | nil => exact absurd rfl hne
  | cons x fs ih =>
      obtain ⟨m', hquoted, hrecord, hgo⟩ := go_encode (r := r) hm (h x List.mem_cons_self)
      cases fs with
      | nil =>
          rw [line, List.map_cons, List.map_nil, List.intercalate_singleton, hgo, go_lf hquoted hrecord]
      | cons y fs =>
          rw [line_cons_cons, List.append_assoc, List.cons_append, hgo, go_comma hquoted,
            ih (Or.inr rfl) (List.cons_ne_nil y fs) fun z hz => h z (List.mem_cons_of_mem x hz),
            ← List.append_cons]

/-- The part of a field before its first end of a line. -/
theorem exists_break {x : List α} (hcomma : a.comma ∉ x) (hquote : a.quote ∉ x)
    (hbreak : a.cr ∈ x ∨ a.lf ∈ x) :
    ∃ p b t, x = p ++ b :: t ∧ (b = a.cr ∨ b = a.lf) ∧ a.Plain p := by
  obtain ⟨b, hb⟩ : ∃ b, x.find? (fun c => c = a.cr ∨ c = a.lf) = some b := by
    rw [← Option.isSome_iff_exists, List.find?_isSome]
    obtain h | h := hbreak
    · exact ⟨a.cr, h, by simp⟩
    · exact ⟨a.lf, h, by simp⟩
  obtain ⟨hbreak, p, t, hx, hp⟩ := List.find?_eq_some_iff_append.1 hb
  refine ⟨p, b, t, hx, by simpa using hbreak, fun h => hcomma ?_, fun h => hquote ?_, fun h => ?_,
    fun h => ?_⟩
  · rw [hx]
    exact List.mem_append_left _ h
  · rw [hx]
    exact List.mem_append_left _ h
  · simpa using hp a.cr h
  · simpa using hp a.lf h

/-- A field without quotes that has the end of a line in it is cut there. -/
theorem go_cut (hm : m.Fresh) {x : List α} (hq : quoted x = false)
    (hcomma : a.comma ∉ x) (hquote : a.quote ∉ x) (hbreak : a.cr ∈ x ∨ a.lf ∈ x) (s : List α)
    (rest : List (List (List α))) (fs : List (List α)) :
    go a m r [] (encode a quoted x ++ s) ≠ some ((r ++ x :: fs) :: rest) := by
  obtain ⟨p, b, t, hx, hb, hplain⟩ := exists_break hcomma hquote hbreak
  obtain ⟨hquoted, hclosed, -, hrecord⟩ := hm.ne
  obtain ⟨m', hquoted', hrecord', hgo⟩ := go_plain (r := r) (f := []) hplain hquoted hclosed
  obtain ⟨m₁, hcut⟩ := go_break (r := r) (f := p) hquoted' (hrecord' hrecord) hb (t ++ s)
  have hrun : go a m r [] (encode a quoted x ++ s) =
      (go a m₁ [] [] (t ++ s)).map (List.cons (r ++ [p])) := by
    rw [encode, if_neg (by simp [hq]), hx, List.append_assoc, List.cons_append, hgo, List.nil_append]
    exact hcut
  rw [hrun]
  intro h
  obtain ⟨rows, -, hrows⟩ := Option.map_eq_some_iff.1 h
  have hrow : [p] = x :: fs := List.append_cancel_left (List.cons.inj hrows).1
  -- but the field goes on after its first part
  have hlen := congrArg List.length ((List.cons.inj hrow).1.trans hx)
  rw [List.length_append, List.length_cons] at hlen
  omega

/-! ## The rows

The rule quotes every field with a comma or a quote in it.
-/

variable (a quoted) in
/-- Nothing that the rule leaves without quotes has the end of a line in it. -/
def Unbroken (fs : List (List α)) : Prop :=
  ∀ x ∈ fs, quoted x = false → a.cr ∉ x ∧ a.lf ∉ x

/-- A row that is not unbroken is not read back. -/
theorem go_line_cut (hrule : ∀ x, quoted x = false → a.comma ∉ x ∧ a.quote ∉ x) (hm : m.Fresh)
    {fs : List (List α)} (h : ¬ Unbroken a quoted fs) (s : List α) (rest : List (List (List α))) :
    go a m r [] (line a quoted fs ++ a.lf :: s) ≠ some ((r ++ fs) :: rest) := by
  induction fs generalizing m r with
  | nil => exact absurd (fun x hx => absurd hx List.not_mem_nil) h
  | cons x fs ih =>
      by_cases hx : quoted x = false ∧ (a.cr ∈ x ∨ a.lf ∈ x)
      · have hline : ∃ t, line a quoted (x :: fs) ++ a.lf :: s = encode a quoted x ++ t := by
          cases fs with
          | nil => exact ⟨_, by rw [line, List.map_cons, List.map_nil, List.intercalate_singleton]⟩
          | cons y fs => exact ⟨_, by rw [line_cons_cons, List.append_assoc]⟩
        obtain ⟨t, ht⟩ := hline
        rw [ht]
        exact go_cut hm hx.1 (hrule x hx.1).1 (hrule x hx.1).2 hx.2 t rest fs
      · -- this field is read as it stands, so a later one is cut
        have hhead : quoted x = false → a.cr ∉ x ∧ a.lf ∉ x := by
          intro hq
          rw [← not_or]
          exact fun hb => hx ⟨hq, hb⟩
        have htail : ¬ Unbroken a quoted fs := fun ht => h (List.forall_mem_cons.2 ⟨hhead, ht⟩)
        have hplain : quoted x = false → a.Plain x := fun hq =>
          ⟨(hrule x hq).1, (hrule x hq).2, hhead hq⟩
        obtain ⟨m', hquoted, -, hgo⟩ := go_encode (r := r) hm hplain
        cases fs with
        | nil => exact absurd (fun x hx => absurd hx List.not_mem_nil) htail
        | cons y fs =>
            rw [line_cons_cons, List.append_assoc, List.cons_append, hgo, go_comma hquoted,
              List.append_cons r x (y :: fs)]
            exact ih (Or.inr rfl) htail

/-- The rows come back exactly when each of them is unbroken. -/
theorem records_render_iff (hrule : ∀ x, quoted x = false → a.comma ∉ x ∧ a.quote ∉ x)
    {rows : List (List (List α))} (hne : ∀ fs ∈ rows, fs ≠ []) :
    records a (render a quoted rows) = some rows ↔ ∀ fs ∈ rows, Unbroken a quoted fs := by
  induction rows with
  | nil =>
      refine iff_of_true ?_ (List.forall_mem_nil _)
      rw [records, render, List.flatMap_nil, go]
  | cons fs rows ih =>
      have hrender : render a quoted (fs :: rows) =
          line a quoted fs ++ a.lf :: render a quoted rows := by
        rw [render, List.flatMap_cons, List.append_assoc, List.cons_append, List.nil_append]
        rfl
      rw [List.forall_mem_cons, hrender, records]
      have hfresh : (Mode.record false).Fresh := Or.inl rfl
      by_cases hfs : Unbroken a quoted fs
      · have hplain : ∀ x ∈ fs, quoted x = false → a.Plain x := fun x hx hq =>
          ⟨(hrule x hq).1, (hrule x hq).2, hfs x hx hq⟩
        rw [go_line hfresh (hne fs List.mem_cons_self) hplain, List.nil_append, and_iff_right hfs,
          ← ih fun gs hgs => hne gs (List.mem_cons_of_mem fs hgs), records]
        constructor
        · intro h
          obtain ⟨rows', hrows, hcons⟩ := Option.map_eq_some_iff.1 h
          rw [hrows, (List.cons.inj hcons).2]
        · intro h
          rw [h, Option.map_some]
      · refine iff_of_false ?_ fun h => hfs h.1
        exact go_line_cut (r := []) hrule hfresh hfs _ rows

end Csv
