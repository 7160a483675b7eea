import Mathlib.Algebra.BigOperators.Group.List.Basic
import Mathlib.Data.List.Nodup
import Mathlib.Tactic.Abel

/-!
# Tables with a primary key

A `Table key` is a finite list of rows in insertion order in which no two rows share the value of the
column `key`. Its operations are those of SQL: look a row up by its key, scan for the first row with a
property, update the rows that match a condition, insert a row whose key is fresh.

The lemmas say what each operation does to a lookup and to a sum over the rows.
-/

namespace Relational

/-- A table whose primary key is the column `key`. -/
structure Table {ρ κ : Type*} (key : ρ → κ) where
  /-- The rows, oldest first. -/
  rows : List ρ
  /-- The primary key constraint. -/
  keys_nodup : (rows.map key).Nodup

namespace Table

variable {ρ κ : Type*} {key : ρ → κ}

/-- The table without rows. -/
def empty : Table key := ⟨[], List.nodup_nil⟩

/-- The table with one row. -/
def single (r : ρ) : Table key := ⟨[r], List.nodup_singleton _⟩

/-- `UPDATE … SET f WHERE p`, for an assignment `f` that leaves the key alone. -/
def update (T : Table key) (p : ρ → Bool) (f : ρ → ρ) (hf : ∀ r, key (f r) = key r) : Table key where
  rows := T.rows.map fun r => if p r then f r else r
  keys_nodup := by
    have h : key ∘ (fun r => if p r then f r else r) = key := by
      funext r
      by_cases hp : p r <;> simp [hp, hf]
    rw [List.map_map, h]
    exact T.keys_nodup

@[simp] theorem rows_update (T : Table key) (p : ρ → Bool) (f : ρ → ρ)
    (hf : ∀ r, key (f r) = key r) :
    (T.update p f hf).rows = T.rows.map fun r => if p r then f r else r := rfl

/-- A row of an updated table is a row of the old one, rewritten if it matched. -/
theorem mem_update {T : Table key} {p : ρ → Bool} {f : ρ → ρ} {hf : ∀ r, key (f r) = key r} {r : ρ} :
    r ∈ (T.update p f hf).rows ↔ ∃ r₀ ∈ T.rows, (if p r₀ then f r₀ else r₀) = r := by
  simp only [rows_update, List.mem_map]

theorem ext_rows {T T' : Table key} (h : T.rows = T'.rows) : T = T' := by
  cases T
  cases T'
  simpa using h

/-- An update that assigns nothing. -/
theorem update_id (T : Table key) (p : ρ → Bool) : T.update p (fun r => r) (fun _ => rfl) = T :=
  ext_rows (by simp)

/-- An update asks for its assignment at the rows that match alone. -/
theorem update_congr {T : Table key} {p : ρ → Bool} {f g : ρ → ρ} (hf : ∀ r, key (f r) = key r)
    (hg : ∀ r, key (g r) = key r) (h : ∀ r ∈ T.rows, p r = true → f r = g r) :
    T.update p f hf = T.update p g hg := by
  apply ext_rows
  rw [rows_update, rows_update]
  refine List.map_congr_left fun r hr => ?_
  by_cases hp : p r = true
  · rw [if_pos hp, if_pos hp, h r hr hp]
  · rw [if_neg hp, if_neg hp]

/-- Two updates of the same rows are one, if the first leaves their condition alone. -/
theorem update_update (T : Table key) {p : ρ → Bool} {f g : ρ → ρ} (hf : ∀ r, key (f r) = key r)
    (hg : ∀ r, key (g r) = key r) (hp : ∀ r, p (f r) = p r) :
    (T.update p f hf).update p g hg =
      T.update p (fun r => g (f r)) (fun r => (hg (f r)).trans (hf r)) := by
  apply ext_rows
  rw [rows_update, rows_update, rows_update, List.map_map]
  congr 1
  funext r
  by_cases hr : p r = true <;> simp [hr, hp]

/-- The sum of `f` over the rows. -/
def sum {R : Type*} [AddCommMonoid R] (T : Table key) (f : ρ → R) : R := (T.rows.map f).sum

variable [DecidableEq κ]

/-- `SELECT … WHERE key = k`. -/
def get? (T : Table key) (k : κ) : Option ρ := T.rows.find? fun r => key r = k

/-- `SELECT … WHERE p LIMIT 1`, the oldest matching row. -/
def find? (T : Table key) (p : ρ → Bool) : Option ρ := T.rows.find? p

/-- `INSERT`, refused when the key is already there. -/
def insert? (T : Table key) (r : ρ) : Option (Table key) :=
  if h : key r ∈ T.rows.map key then none
  else some
    { rows := T.rows ++ [r]
      keys_nodup := by
        rw [List.map_append, List.map_singleton]
        exact T.keys_nodup.append (List.nodup_singleton _) (by simpa using h) }

/-- `DELETE … WHERE key = k`. -/
def delete (T : Table key) (k : κ) : Table key where
  rows := T.rows.filter fun r => key r ≠ k
  keys_nodup := T.keys_nodup.sublist (List.filter_sublist.map key)

/-- Store a row under its key, in place of the one that is there. -/
def put (T : Table key) (r : ρ) : Table key where
  rows := (T.delete (key r)).rows ++ [r]
  keys_nodup := by
    rw [List.map_append, List.map_singleton]
    refine (T.delete (key r)).keys_nodup.append (List.nodup_singleton _) ?_
    simp [delete]

/-! ## Lookups -/

/-- The primary key makes a lookup the membership of a row. -/
theorem get?_eq_some {T : Table key} {k : κ} {r : ρ} :
    T.get? k = some r ↔ r ∈ T.rows ∧ key r = k := by
  obtain ⟨rows, hnd⟩ := T
  simp only [get?]
  induction rows with
  | nil => simp
  | cons x xs ih =>
    rw [List.map_cons, List.nodup_cons] at hnd
    by_cases hx : key x = k
    · rw [List.find?_cons_of_pos (by simpa using hx), Option.some.injEq, List.mem_cons]
      constructor
      · rintro rfl
        exact ⟨Or.inl rfl, hx⟩
      · rintro ⟨rfl | hr, hk⟩
        · rfl
        · exact absurd (List.mem_map.2 ⟨r, hr, hk.trans hx.symm⟩) hnd.1
    · rw [List.find?_cons_of_neg (by simpa using hx), ih hnd.2, List.mem_cons]
      constructor
      · rintro ⟨hr, hk⟩
        exact ⟨Or.inr hr, hk⟩
      · rintro ⟨rfl | hr, hk⟩
        · exact absurd hk hx
        · exact ⟨hr, hk⟩

theorem mem_of_get? {T : Table key} {k : κ} {r : ρ} (h : T.get? k = some r) : r ∈ T.rows :=
  (get?_eq_some.1 h).1

theorem key_of_get? {T : Table key} {k : κ} {r : ρ} (h : T.get? k = some r) : key r = k :=
  (get?_eq_some.1 h).2

theorem get?_of_mem {T : Table key} {r : ρ} (h : r ∈ T.rows) : T.get? (key r) = some r :=
  get?_eq_some.2 ⟨h, rfl⟩

/-- Two rows with one key are the same row. -/
theorem eq_of_mem {T : Table key} {r r' : ρ} (h : r ∈ T.rows) (h' : r' ∈ T.rows)
    (hk : key r = key r') : r = r' := by
  have hr := get?_of_mem h
  rw [hk, get?_of_mem h'] at hr
  exact (Option.some.inj hr).symm

theorem get?_eq_none {T : Table key} {k : κ} : T.get? k = none ↔ ∀ r ∈ T.rows, key r ≠ k := by
  simp [get?]

/-- An update rewrites the row a lookup finds, if it matches. -/
theorem get?_update (T : Table key) (p : ρ → Bool) (f : ρ → ρ) (hf : ∀ r, key (f r) = key r) (k : κ) :
    (T.update p f hf).get? k = (T.get? k).map fun r => if p r then f r else r := by
  have hkey : (fun r => decide (key r = k)) ∘ (fun r => if p r then f r else r)
      = fun r => decide (key r = k) := by
    funext r
    by_cases hp : p r <;> simp [hp, hf]
  rw [get?, rows_update, List.find?_map, hkey, get?]

/-- An update adds no key. -/
theorem get?_update_of_none {T : Table key} {p : ρ → Bool} {f : ρ → ρ}
    {hf : ∀ r, key (f r) = key r} {k : κ} (h : T.get? k = none) :
    (T.update p f hf).get? k = none := by
  rw [get?_update, h]
  rfl

/-- The condition of an update may be evaluated on the row found. -/
theorem get?_update_of_get? {T : Table key} {p : ρ → Bool} {f : ρ → ρ}
    {hf : ∀ r, key (f r) = key r} {k : κ} {r : ρ} (h : T.get? k = some r) :
    (T.update p f hf).get? k = some (if p r then f r else r) := by
  rw [get?_update, h]
  rfl

/-- An update that does not match the row with key `k` leaves its lookup alone. -/
theorem get?_update_of_not {T : Table key} {p : ρ → Bool} {f : ρ → ρ} {hf : ∀ r, key (f r) = key r}
    {k : κ} (h : ∀ r, T.get? k = some r → p r = false) : (T.update p f hf).get? k = T.get? k := by
  rw [get?_update]
  cases hr : T.get? k with
  | none => rfl
  | some r => simp [h r hr]

/-- An update of the row with the key `k` writes that row. -/
theorem get?_update_key {T : Table key} {f : ρ → ρ} {hf : ∀ r, key (f r) = key r} {k : κ} :
    (T.update (fun r => key r = k) f hf).get? k = (T.get? k).map f := by
  rw [get?_update]
  refine Option.map_congr fun r hr => ?_
  exact if_pos (decide_eq_true (key_of_get? hr))

/-- It leaves the others. -/
theorem get?_update_key_of_ne {T : Table key} {f : ρ → ρ} {hf : ∀ r, key (f r) = key r} {k j : κ}
    (hj : j ≠ k) : (T.update (fun r => key r = k) f hf).get? j = T.get? j :=
  get?_update_of_not fun _ hr => decide_eq_false fun h => hj ((key_of_get? hr).symm.trans h)

/-- What an accepted insert appended. -/
theorem rows_insert? {T T' : Table key} {r : ρ} (h : T.insert? r = some T') :
    T'.rows = T.rows ++ [r] := by
  unfold insert? at h
  split at h
  · cases h
  · cases h
    rfl

/-- A table that is as long as the old one has no new row. -/
theorem insert?_ne_of_length {T T' : Table key} {r : ρ} (h : T'.rows.length = T.rows.length) :
    T.insert? r ≠ some T' := by
  intro hinsert
  have hlength := congrArg List.length (rows_insert? hinsert)
  rw [List.length_append, List.length_singleton] at hlength
  omega

/-- The key of an accepted insert was fresh. -/
theorem get?_insert?_fresh {T T' : Table key} {r : ρ} (h : T.insert? r = some T') :
    T.get? (key r) = none := by
  unfold insert? at h
  split at h
  · cases h
  · rename_i hk
    exact get?_eq_none.2 fun r' hr' he => hk (List.mem_map.2 ⟨r', hr', he⟩)

/-- A refused insert met a row with its key. -/
theorem exists_of_insert?_none {T : Table key} {r : ρ} (h : T.insert? r = none) :
    ∃ r', T.get? (key r) = some r' := by
  unfold insert? at h
  split at h
  · rename_i hk
    obtain ⟨r', hr', he⟩ := List.mem_map.1 hk
    exact ⟨r', get?_eq_some.2 ⟨hr', he⟩⟩
  · cases h

/-- A lookup after an insert finds the new row under its key, and the old rows elsewhere. -/
theorem get?_insert? {T T' : Table key} {r : ρ} (h : T.insert? r = some T') (k : κ) :
    T'.get? k = if k = key r then some r else T.get? k := by
  have hfresh := get?_insert?_fresh h
  rw [get?, rows_insert? h, List.find?_append]
  by_cases hk : k = key r
  · rw [if_pos hk, hk]
    have hnone : List.find? (fun r' => decide (key r' = key r)) T.rows = none := hfresh
    rw [hnone]
    simp
  · have hlast : List.find? (fun r' => decide (key r' = k)) [r] = none := by
      simpa using fun he => hk he.symm
    rw [if_neg hk, hlast, Option.or_none]
    rfl

theorem mem_insert? {T T' : Table key} {r x : ρ} (h : T.insert? r = some T') :
    x ∈ T'.rows ↔ x ∈ T.rows ∨ x = r := by
  rw [rows_insert? h]
  simp

/-- The key of an accepted insert is new. -/
theorem key_ne_of_insert? {T T' : Table key} {r x : ρ} (h : T.insert? r = some T') (hx : x ∈ T.rows) :
    key x ≠ key r := get?_eq_none.1 (get?_insert?_fresh h) x hx

/-- What was found is found after an insert. -/
theorem get?_insert?_of_get? {T T' : Table key} {r x : ρ} {k : κ} (h : T.insert? r = some T')
    (hx : T.get? k = some x) : T'.get? k = some x := by
  have hk : k ≠ key r := by
    rintro rfl
    rw [get?_insert?_fresh h] at hx
    cases hx
  rw [get?_insert? h, if_neg hk, hx]

/-! ## Rewriting one row -/

/-- `T'` is `T` with the row `old` under the key `k` replaced by `new`. -/
structure Rewrites (T T' : Table key) (k : κ) (old new : ρ) : Prop where
  before : T.get? k = some old
  after : T'.get? k = some new
  others : ∀ j, j ≠ k → T'.get? j = T.get? j

/-- An update that matches no row with another key rewrites the row it finds. -/
theorem rewrites_update {T : Table key} {k : κ} {r : ρ} (h : T.get? k = some r) {p : ρ → Bool}
    (hk : ∀ x, p x = true → key x = k) (hp : p r = true) (f : ρ → ρ)
    (hf : ∀ r, key (f r) = key r) : T.Rewrites (T.update p f hf) k r (f r) where
  before := h
  after := by rw [get?_update_of_get? h, if_pos hp]
  others j hj := get?_update_of_not fun x hx =>
    Bool.eq_false_iff.2 fun hpx => hj ((key_of_get? hx).symm.trans (hk x hpx))

/-- After a rewrite a row is the new one, or an old one under another key. -/
theorem Rewrites.get?_eq_some {T T' : Table key} {k : κ} {old new : ρ} (h : T.Rewrites T' k old new)
    {j : κ} {r : ρ} : T'.get? j = some r ↔ j = k ∧ r = new ∨ j ≠ k ∧ T.get? j = some r := by
  by_cases hj : j = k
  · subst hj
    simp [h.after, eq_comm]
  · simp [hj, h.others j hj]

/-- A rewrite adds no key. -/
theorem Rewrites.get?_none {T T' : Table key} {k : κ} {old new : ρ} (h : T.Rewrites T' k old new)
    {j : κ} (hj : T.get? j = none) : T'.get? j = none := by
  by_cases hjk : j = k
  · rw [hjk, h.before] at hj
    cases hj
  · rw [h.others j hjk, hj]

/-- A row before a rewrite has a successor after it. -/
theorem Rewrites.successor {T T' : Table key} {k : κ} {old new : ρ} (h : T.Rewrites T' k old new)
    {j : κ} {r : ρ} (hr : T.get? j = some r) :
    j ≠ k ∧ T'.get? j = some r ∨ j = k ∧ r = old ∧ T'.get? j = some new := by
  by_cases hj : j = k
  · subst hj
    rw [h.before, Option.some.injEq] at hr
    exact Or.inr ⟨rfl, hr.symm, h.after⟩
  · exact Or.inl ⟨hj, (h.others j hj).trans hr⟩

/-- Two rewrites of one row are a rewrite of it. -/
theorem Rewrites.trans {T T' T'' : Table key} {k : κ} {r r' r'' : ρ} (h : T.Rewrites T' k r r')
    (h' : T'.Rewrites T'' k r' r'') : T.Rewrites T'' k r r'' where
  before := h.before
  after := h'.after
  others j hj := (h'.others j hj).trans (h.others j hj)

/-! ## Row by row -/

omit [DecidableEq κ] in
/-- The rows of `T'` are those of `T` in their order, each related to its old version by `R`. -/
def Rowwise (R : ρ → ρ → Prop) (T T' : Table key) : Prop := List.Forall₂ R T.rows T'.rows

omit [DecidableEq κ] in
theorem Rowwise.refl {R : ρ → ρ → Prop} (hR : ∀ r, R r r) (T : Table key) : T.Rowwise R T :=
  List.forall₂_same.2 fun r _ => hR r

omit [DecidableEq κ] in
theorem Rowwise.trans {R S Q : ρ → ρ → Prop} {T T' T'' : Table key} (h : T.Rowwise R T')
    (h' : T'.Rowwise S T'') (hQ : ∀ a b c, R a b → S b c → Q a c) : T.Rowwise Q T'' := by
  obtain ⟨rows, hnd⟩ := T
  obtain ⟨rows', hnd'⟩ := T'
  obtain ⟨rows'', hnd''⟩ := T''
  simp only [Rowwise] at h h' ⊢
  clear hnd hnd' hnd''
  induction h generalizing rows'' with
  | nil =>
    cases h'
    exact .nil
  | cons hab _ ih =>
    cases h' with
    | cons hbc hrest => exact .cons (hQ _ _ _ hab hbc) (ih _ hrest)

omit [DecidableEq κ] in
/-- An update relates the rows that match to their new versions, and the others to themselves. -/
theorem rowwise_update {R : ρ → ρ → Prop} {T : Table key} {p : ρ → Bool} {f : ρ → ρ}
    {hf : ∀ r, key (f r) = key r} (hp : ∀ r ∈ T.rows, p r = true → R r (f r))
    (hnp : ∀ r ∈ T.rows, p r = false → R r r) : T.Rowwise R (T.update p f hf) := by
  rw [Rowwise, rows_update, List.forall₂_map_right_iff, List.forall₂_same]
  intro r hr
  by_cases hpr : p r = true
  · rw [if_pos hpr]
    exact hp r hr hpr
  · rw [if_neg hpr]
    exact hnp r hr (Bool.eq_false_iff.2 hpr)

omit [DecidableEq κ] in
/-- The old versions are rows of the old table. -/
theorem Rowwise.with_mem {R : ρ → ρ → Prop} {T T' : Table key} (h : T.Rowwise R T') :
    T.Rowwise (fun r r' => r ∈ T.rows ∧ R r r') T' :=
  (List.forall₂_and_left _ _).2 ⟨fun _ hr => hr, h⟩

omit [DecidableEq κ] in
/-- A row after the step has an old version. -/
theorem Rowwise.exists_of_mem {R : ρ → ρ → Prop} {T T' : Table key} (h : T.Rowwise R T') {r' : ρ}
    (hr' : r' ∈ T'.rows) : ∃ r ∈ T.rows, R r r' := by
  obtain ⟨i, hi, rfl⟩ := List.getElem_of_mem hr'
  have hlen := List.Forall₂.length_eq h
  exact ⟨_, List.getElem_mem (hlen ▸ hi), (List.forall₂_iff_get.1 h).2 i (hlen ▸ hi) hi⟩

omit [DecidableEq κ] in
/-- A row before the step has a new version. -/
theorem Rowwise.exists_of_mem_left {R : ρ → ρ → Prop} {T T' : Table key} (h : T.Rowwise R T') {r : ρ}
    (hr : r ∈ T.rows) : ∃ r' ∈ T'.rows, R r r' := by
  obtain ⟨i, hi, rfl⟩ := List.getElem_of_mem hr
  have hlen := List.Forall₂.length_eq h
  exact ⟨_, List.getElem_mem (hlen ▸ hi), (List.forall₂_iff_get.1 h).2 i hi (hlen ▸ hi)⟩

omit [DecidableEq κ] in
/-- A step that keeps a condition and a column keeps what a scan for the condition finds in it. -/
theorem Rowwise.find?_map {β : Type*} {R : ρ → ρ → Prop} {T T' : Table key} (h : T.Rowwise R T')
    {p : ρ → Bool} {f : ρ → β} (hp : ∀ r r', R r r' → p r' = p r)
    (hf : ∀ r r', R r r' → f r' = f r) :
    (T'.rows.find? p).map f = (T.rows.find? p).map f := by
  obtain ⟨rows, hnd⟩ := T
  obtain ⟨rows', hnd'⟩ := T'
  simp only [Rowwise] at h ⊢
  clear hnd hnd'
  induction h with
  | nil => rfl
  | @cons r r' rs rs' hstep _ ih =>
    by_cases hr : p r = true
    · have hr' : p r' = true := (hp r r' hstep).trans hr
      rw [List.find?_cons_of_pos hr, List.find?_cons_of_pos hr', Option.map_some, Option.map_some,
        hf r r' hstep]
    · have hr' : ¬p r' = true := by rwa [hp r r' hstep]
      rw [List.find?_cons_of_neg hr, List.find?_cons_of_neg hr', ih]

/-- A step that keeps the key and a column keeps what a lookup finds in it. -/
theorem Rowwise.get?_map {β : Type*} {R : ρ → ρ → Prop} {T T' : Table key} (h : T.Rowwise R T')
    {f : ρ → β} (hkey : ∀ r r', R r r' → key r' = key r) (hf : ∀ r r', R r r' → f r' = f r) (k : κ) :
    (T'.get? k).map f = (T.get? k).map f :=
  h.find?_map (fun r r' hstep => by rw [hkey r r' hstep]) hf

/-- A row that is found after the step is found before it, in its old version. -/
theorem Rowwise.exists_of_get? {R : ρ → ρ → Prop} {T T' : Table key} (h : T.Rowwise R T')
    (hkey : ∀ r r', R r r' → key r' = key r) {k : κ} {r' : ρ} (hr' : T'.get? k = some r') :
    ∃ r, T.get? k = some r ∧ R r r' := by
  obtain ⟨r, hr, hstep⟩ := h.exists_of_mem (mem_of_get? hr')
  have hk : key r = k := (hkey r r' hstep).symm.trans (key_of_get? hr')
  exact ⟨r, hk ▸ get?_of_mem hr, hstep⟩

/-- A row that is found before the step is found after it, in its new version. -/
theorem Rowwise.exists_of_get?_left {R : ρ → ρ → Prop} {T T' : Table key} (h : T.Rowwise R T')
    (hkey : ∀ r r', R r r' → key r' = key r) {k : κ} {r : ρ} (hr : T.get? k = some r) :
    ∃ r', T'.get? k = some r' ∧ R r r' := by
  obtain ⟨r', hr', hstep⟩ := h.exists_of_mem_left (mem_of_get? hr)
  have hk : key r' = k := (hkey r r' hstep).trans (key_of_get? hr)
  exact ⟨r', hk ▸ get?_of_mem hr', hstep⟩

omit [DecidableEq κ] in
/-- A step that keeps a condition, and a column of the rows that satisfy it, keeps that column of the
rows that are selected. -/
theorem Rowwise.filter_map {β : Type*} {R : ρ → ρ → Prop} {T T' : Table key} (h : T.Rowwise R T')
    {p : ρ → Bool} {f : ρ → β} (hp : ∀ r r', R r r' → p r' = p r)
    (hf : ∀ r r', R r r' → p r = true → f r' = f r) :
    (T'.rows.filter p).map f = (T.rows.filter p).map f := by
  obtain ⟨rows, hnd⟩ := T
  obtain ⟨rows', hnd'⟩ := T'
  simp only [Rowwise] at h ⊢
  clear hnd hnd'
  induction h with
  | nil => rfl
  | @cons r r' rs rs' hstep _ ih =>
    by_cases hr : p r = true
    · have hr' : p r' = true := (hp r r' hstep).trans hr
      rw [List.filter_cons_of_pos hr, List.filter_cons_of_pos hr', List.map_cons, List.map_cons,
        hf r r' hstep hr, ih]
    · have hr' : ¬p r' = true := by rwa [hp r r' hstep]
      rw [List.filter_cons_of_neg hr, List.filter_cons_of_neg hr', ih]

/-! ## Sums -/

section Sum

variable {R : Type*} [AddCommGroup R]

omit [DecidableEq κ] in
@[simp] theorem sum_empty (f : ρ → R) : (empty : Table key).sum f = 0 := rfl

/-- An insert adds the new row's term. -/
theorem sum_insert? {T T' : Table key} {r : ρ} (h : T.insert? r = some T') (f : ρ → R) :
    T'.sum f = T.sum f + f r := by
  simp [sum, rows_insert? h]

omit [DecidableEq κ] in
/-- Sums agree when their terms agree on the rows. -/
theorem sum_congr {T : Table key} {f g : ρ → R} (h : ∀ r ∈ T.rows, f r = g r) :
    T.sum f = T.sum g := by
  rw [sum, sum, List.map_congr_left h]

omit [DecidableEq κ] in
/-- A step that keeps each row's term keeps the sum. -/
theorem Rowwise.sum_eq {Q : ρ → ρ → Prop} {T T' : Table key} (h : T.Rowwise Q T') {f : ρ → R}
    (hf : ∀ r r', Q r r' → f r' = f r) : T'.sum f = T.sum f := by
  obtain ⟨rows, hnd⟩ := T
  obtain ⟨rows', hnd'⟩ := T'
  simp only [Rowwise, sum] at h ⊢
  clear hnd hnd'
  induction h with
  | nil => rfl
  | cons hab _ ih => rw [List.map_cons, List.map_cons, List.sum_cons, List.sum_cons, hf _ _ hab, ih]

omit [DecidableEq κ] in
/-- An update changes a sum by the change of the matching rows' terms. -/
theorem sum_update (T : Table key) (p : ρ → Bool) (g : ρ → ρ) (hg : ∀ r, key (g r) = key r)
    (f : ρ → R) :
    (T.update p g hg).sum f = T.sum f + T.sum fun r => if p r then f (g r) - f r else 0 := by
  obtain ⟨rows, hnd⟩ := T
  simp only [sum, rows_update, List.map_map]
  clear hnd
  induction rows with
  | nil => simp
  | cons x xs ih =>
    simp only [List.map_cons, List.sum_cons, ih, Function.comp]
    by_cases hx : p x = true
    · simp only [hx, if_true]
      abel
    · simp only [hx, Bool.false_eq_true, if_false]
      abel

/-- A sum supported on one key is the term of the row with that key. -/
theorem sum_key (T : Table key) (k : κ) (f : ρ → R) :
    (T.sum fun r => if key r = k then f r else 0) = (T.get? k).elim 0 f := by
  obtain ⟨rows, hnd⟩ := T
  simp only [sum, get?]
  induction rows with
  | nil => rfl
  | cons x xs ih =>
    rw [List.map_cons, List.nodup_cons] at hnd
    rw [List.map_cons, List.sum_cons, ih hnd.2]
    by_cases hx : key x = k
    · have hnone : xs.find? (fun r => decide (key r = k)) = none := by
        rw [List.find?_eq_none]
        intro r hr he
        exact hnd.1 (List.mem_map.2 ⟨r, hr, (of_decide_eq_true he).trans hx.symm⟩)
      rw [if_pos hx, hnone, List.find?_cons_of_pos (by simpa using hx)]
      simp
    · rw [if_neg hx, List.find?_cons_of_neg (by simpa using hx), zero_add]

/-- An update of the single row with key `k` exchanges its term. -/
theorem sum_update_key {T : Table key} {k : κ} {r : ρ} (h : T.get? k = some r) {p : ρ → Bool}
    (hk : ∀ x, p x = true → key x = k) (hp : p r = true) (g : ρ → ρ) (hg : ∀ r, key (g r) = key r)
    (f : ρ → R) : (T.update p g hg).sum f = T.sum f - f r + f (g r) := by
  have hterm : (T.sum fun x => if p x then f (g x) - f x else 0) = f (g r) - f r := by
    rw [sum_congr (g := fun x => if key x = k then f (g x) - f x else 0) fun x hx => ?_, sum_key, h]
    · rfl
    · by_cases hpx : p x = true
      · rw [if_pos hpx, if_pos (hk x hpx)]
      · rw [if_neg hpx, if_neg]
        intro hkey
        have hxr : x = r := eq_of_mem hx (mem_of_get? h) (hkey.trans (key_of_get? h).symm)
        exact hpx (hxr ▸ hp)
  rw [sum_update, hterm]
  abel

end Sum

end Table

end Relational
