import Mathlib.Data.List.Infix

/-!
# Tables under migration

The definition of a table (the types of its text columns and its `CHECK` constraints) and the statements
of a migration that change it. Constraints have names, and a statement may drop one by a pattern for its
name; `mem_checks_migrate` says that a constraint stays until a statement drops its name.

A row gives each column its text, or `NULL`. A test may then be unknown, and a constraint refuses a row
only if its test is false.
-/

namespace Relational

/-- `text LIKE pattern`, for a pattern without escapes. -/
def like : List Char → List Char → Bool
  | [], text => text.isEmpty
  | p :: pattern, text =>
    if p = '%' then text.tails.any (like pattern)
    else
      match text with
      | [] => false
      | c :: rest => (p = '_' || p = c) && like pattern rest

/-! ## Rows -/

/-- The text of each column; `none` is `NULL`. -/
abbrev Texts : Type := String → Option String

/-- The type of a text column. -/
inductive TextType
  | enum (labels : List String)
  | varchar (length : ℕ)
  | text
  deriving DecidableEq

/-- The type has this text. -/
def TextType.has : TextType → String → Bool
  | .enum labels, value => value ∈ labels
  | .varchar length, value => value.length ≤ length
  | .text, _ => true

/-- A boolean expression over a row. -/
inductive Test
  /-- `column IN (values)`. -/
  | oneOf (column : String) (values : List String)
  /-- `char_length(column) >= length`. -/
  | minLength (column : String) (length : ℕ)
  /-- `column IS NULL OR char_length(column) BETWEEN lower AND upper`. -/
  | nullOrLength (column : String) (lower upper : ℕ)
  deriving DecidableEq

/-- The value of the expression; `none` is unknown. -/
def Test.eval (row : Texts) : Test → Option Bool
  | .oneOf column values => (row column).map fun value => value ∈ values
  | .minLength column length => (row column).map fun value => length ≤ value.length
  | .nullOrLength column lower upper =>
    match row column with
    | none => some true
    | some value => some (lower ≤ value.length ∧ value.length ≤ upper)

/-- A `CHECK` constraint. -/
structure Check where
  name : String
  test : Test
  deriving DecidableEq

/-- The constraint refuses the row. -/
def Check.Refuses (c : Check) (row : Texts) : Prop := c.test.eval row = some false

instance (c : Check) (row : Texts) : Decidable (c.Refuses row) :=
  inferInstanceAs (Decidable (_ = _))

/-- What a table asks of its rows. -/
structure TableDef where
  columns : List (String × TextType)
  checks : List Check
  deriving DecidableEq

/-- The table takes the row. -/
structure TableDef.Takes (t : TableDef) (row : Texts) : Prop where
  typed : ∀ column ∈ t.columns, ∀ value ∈ row column.1, column.2.has value = true
  checked : ∀ c ∈ t.checks, ¬c.Refuses row

theorem TableDef.takes_iff {t : TableDef} {row : Texts} :
    t.Takes row ↔ (∀ column ∈ t.columns, ∀ value ∈ row column.1, column.2.has value = true) ∧
      ∀ c ∈ t.checks, ¬c.Refuses row :=
  ⟨fun h => ⟨h.typed, h.checked⟩, fun h => ⟨h.1, h.2⟩⟩

instance (t : TableDef) (row : Texts) : Decidable (t.Takes row) :=
  decidable_of_iff _ TableDef.takes_iff.symm

/-! ## Changes -/

/-- A statement of a migration about one table. -/
inductive SchemaChange
  | createTable (columns : List (String × TextType)) (checks : List Check)
  | createTableIfNotExists (columns : List (String × TextType)) (checks : List Check)
  /-- `ADD COLUMN IF NOT EXISTS`, with the constraint that stands beside the column. -/
  | addColumnIfNotExists (column : String) (type : TextType) (check : Check)
  | alterColumnType (column : String) (type : TextType)
  | addConstraint (check : Check)
  | dropConstraintIfExists (name : String)
  /-- Look for one constraint whose name is like the pattern, and drop it if there is one. -/
  | dropConstraintLike (pattern : String)

/-- The statement may drop the constraint of this name. -/
def SchemaChange.drops (name : String) : SchemaChange → Bool
  | .dropConstraintIfExists dropped => dropped = name
  | .dropConstraintLike pattern => like pattern.toList name.toList
  | _ => false

namespace TableDef

/-- The table without the constraint of this name. -/
def dropCheck (name : String) (t : TableDef) : TableDef :=
  { t with checks := t.checks.filter fun c => c.name ≠ name }

/-- The table with one more constraint, whose name must be new. -/
def addCheck? (check : Check) (t : TableDef) : Option TableDef :=
  if ∃ c ∈ t.checks, c.name = check.name then none
  else some { t with checks := t.checks ++ [check] }

/-- What a statement makes of a table that is there; `none` if it fails. -/
def change? (t : TableDef) : SchemaChange → Option TableDef
  | .createTable _ _ => none
  | .createTableIfNotExists _ _ => some t
  | .addColumnIfNotExists column type check =>
    if ∃ c ∈ t.columns, c.1 = column then some t
    else { t with columns := t.columns ++ [(column, type)] }.addCheck? check
  | .alterColumnType column type =>
    if ∃ c ∈ t.columns, c.1 = column then
      some { t with columns := t.columns.map fun c => if c.1 = column then (column, type) else c }
    else none
  | .addConstraint check => t.addCheck? check
  | .dropConstraintIfExists name => some (t.dropCheck name)
  | .dropConstraintLike pattern =>
    match t.checks.find? fun c => like pattern.toList c.name.toList with
    | none => some t
    | some c => some (t.dropCheck c.name)

/-- What the statements make of it, one after the other. -/
def migrate? (t : TableDef) : List SchemaChange → Option TableDef
  | [] => some t
  | change :: changes => (t.change? change).bind fun t' => t'.migrate? changes

end TableDef

/-- What the statements make of a database without the table. -/
def create? : List SchemaChange → Option TableDef
  | .createTable columns checks :: changes
  | .createTableIfNotExists columns checks :: changes =>
    ({ columns, checks } : TableDef).migrate? changes
  | _ => none

namespace TableDef

variable {t t' : TableDef} {c : Check}

theorem mem_checks_addCheck {check : Check} (h : t.addCheck? check = some t') :
    c ∈ t'.checks ↔ c ∈ t.checks ∨ c = check := by
  unfold addCheck? at h
  split at h
  · cases h
  · obtain rfl := Option.some.inj h
    simp

theorem mem_checks_dropCheck {name : String} :
    c ∈ (t.dropCheck name).checks ↔ c ∈ t.checks ∧ c.name ≠ name := by
  simp [dropCheck]

/-- A constraint stays under a statement that does not drop its name. -/
theorem mem_checks_change {change : SchemaChange} (hc : c ∈ t.checks)
    (hkeep : change.drops c.name = false) (h : t.change? change = some t') : c ∈ t'.checks := by
  cases change with
  | createTable columns checks => cases h
  | createTableIfNotExists columns checks =>
    obtain rfl := Option.some.inj h
    exact hc
  | addColumnIfNotExists column type check =>
    simp only [change?] at h
    split at h
    · obtain rfl := Option.some.inj h
      exact hc
    · exact (mem_checks_addCheck h).2 (Or.inl hc)
  | alterColumnType column type =>
    simp only [change?] at h
    split at h
    · obtain rfl := Option.some.inj h
      exact hc
    · cases h
  | addConstraint check => exact (mem_checks_addCheck h).2 (Or.inl hc)
  | dropConstraintIfExists name =>
    obtain rfl := Option.some.inj h
    refine mem_checks_dropCheck.2 ⟨hc, fun hname => ?_⟩
    simp [SchemaChange.drops, hname] at hkeep
  | dropConstraintLike pattern =>
    simp only [change?] at h
    split at h
    · obtain rfl := Option.some.inj h
      exact hc
    · rename_i dropped hfind
      obtain rfl := Option.some.inj h
      refine mem_checks_dropCheck.2 ⟨hc, fun hname => ?_⟩
      -- the name that was found is like the pattern, and `c`'s is not
      have hlike := List.find?_some hfind
      simp only [SchemaChange.drops, hname, hlike, Bool.true_eq_false] at hkeep

/-- The run lemma: a constraint stays until a statement drops its name. -/
theorem mem_checks_migrate {changes : List SchemaChange} (hc : c ∈ t.checks)
    (hkeep : ∀ change ∈ changes, change.drops c.name = false) (h : t.migrate? changes = some t') :
    c ∈ t'.checks := by
  induction changes generalizing t with
  | nil =>
    obtain rfl := Option.some.inj h
    exact hc
  | cons change changes ih =>
    obtain ⟨t₁, h₁, h₂⟩ := Option.bind_eq_some_iff.1 h
    have hc₁ := mem_checks_change hc (hkeep change List.mem_cons_self) h₁
    exact ih hc₁ (fun later hlater => hkeep later (List.mem_cons_of_mem _ hlater)) h₂

/-- Migrations one after the other. -/
theorem migrate_append (changes later : List SchemaChange) :
    t.migrate? (changes ++ later) = (t.migrate? changes).bind fun t' => t'.migrate? later := by
  induction changes generalizing t with
  | nil => rfl
  | cons change changes ih =>
    show (t.change? change).bind _ = ((t.change? change).bind _).bind _
    rw [Option.bind_assoc]
    exact Option.bind_congr fun t' _ => ih

/-- A constraint that one statement adds and none after it drops is there in the end, whatever stands
before. -/
theorem mem_checks_of_added {changes later : List SchemaChange} {check : Check}
    (hkeep : ∀ change ∈ later, change.drops check.name = false)
    (h : t.migrate? (changes ++ .addConstraint check :: later) = some t') : check ∈ t'.checks := by
  rw [migrate_append] at h
  obtain ⟨t₁, -, h₁⟩ := Option.bind_eq_some_iff.1 h
  obtain ⟨t₂, h₂, h₃⟩ := Option.bind_eq_some_iff.1 h₁
  exact mem_checks_migrate ((mem_checks_addCheck h₂).2 (Or.inr rfl)) hkeep h₃

end TableDef

end Relational
