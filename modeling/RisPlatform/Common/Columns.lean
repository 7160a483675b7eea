import Mathlib.Data.List.Basic

/-!
# Columns under migration

The columns of a table and the statements of a migration that make and add columns. `mem_migrate` says that
a column stays as the first statement made it, and `exists_of_name_mem` that a name comes from a statement.
-/

namespace Relational

/-! ## Types -/

/-- A hexadecimal digit. -/
def isHexDigit (c : Char) : Bool :=
  c.isDigit || ('a' ≤ c && c ≤ 'f') || ('A' ≤ c && c ≤ 'F')

/-- Read `n` bytes of two digits each; what is left. A hyphen may follow every second byte but the last. -/
def readBytes : ℕ → List Char → Option (List Char)
  | 0, rest => some rest
  | n + 1, a :: b :: rest =>
    if isHexDigit a && isHexDigit b then
      match rest with
      | '-' :: rest' => if n % 2 = 0 ∧ 0 < n then readBytes n rest' else readBytes n rest
      | _ => readBytes n rest
    else none
  | _ + 1, _ => none

/-- The text can be read as a UUID: sixteen bytes, perhaps in braces. -/
def readsUuid (text : String) : Bool :=
  match text.toList with
  | '\x7b' :: rest => readBytes 16 rest = some ['\x7d']
  | rest => readBytes 16 rest = some []

/-- The type of a column. -/
inductive ColumnType
  | uuid
  | varchar (length : ℕ)
  /-- A type whose texts are not looked at. -/
  | other (name : String)
  deriving DecidableEq

/-- The type may take this text. -/
def ColumnType.reads : ColumnType → String → Bool
  | .uuid, text => readsUuid text
  | .varchar length, text => text.length ≤ length
  | .other _, _ => true

/-! ## Tables -/

structure Column where
  name : String
  type : ColumnType
  notNull : Bool := false
  hasDefault : Bool := false
  deriving DecidableEq

/-- An `INSERT` has to give the column a value. -/
def Column.Required (c : Column) : Prop := c.notNull = true ∧ c.hasDefault = false

instance (c : Column) : Decidable c.Required := inferInstanceAs (Decidable (_ ∧ _))

namespace Columns

variable {columns columns' : List Column} {c : Column} {name : String}

/-! ## Changes -/

/-- A statement of a migration about the columns of one table. -/
inductive Change
  | createTable (columns : List Column)
  | createTableIfNotExists (columns : List Column)
  | addColumnIfNotExists (column : Column)

/-- The columns that a statement may make. -/
def Change.makes : Change → List Column
  | .createTable columns => columns
  | .createTableIfNotExists columns => columns
  | .addColumnIfNotExists column => [column]

/-- What a statement makes of a table that is there; `none` if it fails. -/
def change? (columns : List Column) : Change → Option (List Column)
  | .createTable _ => none
  | .createTableIfNotExists _ => some columns
  | .addColumnIfNotExists column =>
    if ∃ c ∈ columns, c.name = column.name then some columns else some (columns ++ [column])

/-- What the statements make of it, one after the other. -/
def migrate? (columns : List Column) : List Change → Option (List Column)
  | [] => some columns
  | change :: changes => (change? columns change).bind fun columns' => migrate? columns' changes

/-- What the statements make of a database without the table. -/
def create? : List Change → Option (List Column)
  | .createTable columns :: changes | .createTableIfNotExists columns :: changes =>
    migrate? columns changes
  | _ => none

/-- A column stays. -/
theorem mem_change {change : Change} (hc : c ∈ columns) (h : change? columns change = some columns') :
    c ∈ columns' := by
  cases change with
  | createTable made => cases h
  | createTableIfNotExists made =>
    obtain rfl := Option.some.inj h
    exact hc
  | addColumnIfNotExists column =>
    simp only [change?] at h
    split at h
    · obtain rfl := Option.some.inj h
      exact hc
    · obtain rfl := Option.some.inj h
      exact List.mem_append_left _ hc

/-- A column was there or is made. -/
theorem mem_of_change {change : Change} (hc : c ∈ columns')
    (h : change? columns change = some columns') : c ∈ columns ∨ c ∈ change.makes := by
  cases change with
  | createTable made => cases h
  | createTableIfNotExists made =>
    obtain rfl := Option.some.inj h
    exact Or.inl hc
  | addColumnIfNotExists column =>
    simp only [change?] at h
    split at h
    · obtain rfl := Option.some.inj h
      exact Or.inl hc
    · obtain rfl := Option.some.inj h
      exact List.mem_append.1 hc

theorem mem_migrate {changes : List Change} (hc : c ∈ columns)
    (h : migrate? columns changes = some columns') : c ∈ columns' := by
  induction changes generalizing columns with
  | nil =>
    obtain rfl := Option.some.inj h
    exact hc
  | cons change changes ih =>
    obtain ⟨columns₁, h₁, h₂⟩ := Option.bind_eq_some_iff.1 h
    exact ih (mem_change hc h₁) h₂

theorem mem_of_migrate {changes : List Change} (hc : c ∈ columns')
    (h : migrate? columns changes = some columns') :
    c ∈ columns ∨ ∃ change ∈ changes, c ∈ change.makes := by
  induction changes generalizing columns with
  | nil =>
    obtain rfl := Option.some.inj h
    exact Or.inl hc
  | cons change changes ih =>
    obtain ⟨columns₁, h₁, h₂⟩ := Option.bind_eq_some_iff.1 h
    obtain hmem | ⟨later, hlater, hmem⟩ := ih h₂
    · exact (mem_of_change hmem h₁).imp id fun hmade => ⟨change, List.mem_cons_self, hmade⟩
    · exact Or.inr ⟨later, List.mem_cons_of_mem _ hlater, hmem⟩

/-- A column of the statement that made the table is there in the end. -/
theorem mem_of_created {made : List Column} {changes : List Change} (hc : c ∈ made)
    (h : create? (.createTable made :: changes) = some columns) : c ∈ columns :=
  mem_migrate hc h

/-- A name is there in the end only if a statement makes a column of that name. -/
theorem exists_of_name_mem {changes : List Change} (h : create? changes = some columns)
    (hname : name ∈ columns.map Column.name) :
    ∃ change ∈ changes, ∃ c ∈ change.makes, c.name = name := by
  obtain ⟨c, hc, rfl⟩ := List.mem_map.1 hname
  cases changes with
  | nil => cases h
  | cons change changes =>
    have hcases : c ∈ change.makes ∨ ∃ later ∈ changes, c ∈ later.makes := by
      cases change with
      | createTable made => exact mem_of_migrate hc h
      | createTableIfNotExists made => exact mem_of_migrate hc h
      | addColumnIfNotExists column => cases h
    obtain hmem | ⟨later, hlater, hmem⟩ := hcases
    · exact ⟨change, List.mem_cons_self, c, hmem, rfl⟩
    · exact ⟨later, List.mem_cons_of_mem _ hlater, c, hmem, rfl⟩

end Columns

end Relational
