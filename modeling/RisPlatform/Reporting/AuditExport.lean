import RisPlatform.Common.Csv
import RisPlatform.Common.Utf16

/-!
# `reporting.service.ts`: the audit trail as CSV

`exportToCsv` quotes a field with a comma, a quote or a line feed in it, and not one with a carriage
return, where a reader ends the record all the same. The export is read back exactly when no entry has a
carriage return in a field without one of the other three (`exportToCsv_iff`).
-/

namespace Ris.Reporting

open Utf16

/-! ## `exportToCsv` -/

/-- A row of the export. The columns the source types as strings may be null too, and `exportToCsv` reads
every one of them as if it may. -/
structure AuditExportRow where
  id : Option Text
  userId : Option Text
  action : Option Text
  tableName : Option Text
  recordId : Option Text
  oldValues : Option Text
  newValues : Option Text
  ipAddress : Option Text
  userAgent : Option Text
  createdAt : Option Text
  deriving DecidableEq

structure AuditExport where
  entries : List AuditExportRow

/-- `keyof AuditExportRow` -/
inductive AuditKey
  | id | userId | action | tableName | recordId | oldValues | newValues | ipAddress | userAgent | createdAt
  deriving DecidableEq

def AuditKey.name : AuditKey → Text
  | .id => units "id"
  | .userId => units "user_id"
  | .action => units "action"
  | .tableName => units "table_name"
  | .recordId => units "record_id"
  | .oldValues => units "old_values"
  | .newValues => units "new_values"
  | .ipAddress => units "ip_address"
  | .userAgent => units "user_agent"
  | .createdAt => units "created_at"

/-- `entry[h]` -/
def AuditExportRow.get (entry : AuditExportRow) : AuditKey → Option Text
  | .id => entry.id
  | .userId => entry.userId
  | .action => entry.action
  | .tableName => entry.tableName
  | .recordId => entry.recordId
  | .oldValues => entry.oldValues
  | .newValues => entry.newValues
  | .ipAddress => entry.ipAddress
  | .userAgent => entry.userAgent
  | .createdAt => entry.createdAt

def headers : List AuditKey :=
  [.id, .userId, .action, .tableName, .recordId, .oldValues, .newValues, .ipAddress, .userAgent, .createdAt]

/-- `str.includes(',') || str.includes('"') || str.includes('\n')` -/
def needsQuotes (str : Text) : Bool := str.contains 44 || str.contains 34 || str.contains 10

/-- `str.replace(/"/g, '""')` -/
def doubleQuotes (str : Text) : Text := str.flatMap fun c => if c = 34 then [34, 34] else [c]

def csvField : Option Text → Text
  | none => []
  | some str => if needsQuotes str then 34 :: doubleQuotes str ++ [34] else str

def exportToCsv (data : AuditExport) : Text :=
  let headerLine := List.intercalate [44] (headers.map AuditKey.name)
  if data.entries.length = 0 then headerLine ++ [10]
  else
    let rows := data.entries.map fun entry =>
      List.intercalate [44] (headers.map fun h => csvField (entry.get h))
    headerLine ++ [10] ++ List.intercalate [10] rows ++ [10]

/-! ## What a reader gets -/

/-- The comma, the quote, the carriage return and the line feed. -/
def rfc4180 : Csv.Alphabet UInt16 := ⟨44, 34, 13, 10, by decide⟩

/-- The fields of an entry, a null as the empty text. -/
def AuditExportRow.fields (entry : AuditExportRow) : List Text :=
  headers.map fun h => (entry.get h).getD []

/-- A reader gets the header and one record with the same fields for each entry. -/
def RoundTrips (data : AuditExport) : Prop :=
  Csv.records rfc4180 (exportToCsv data) =
    some (headers.map AuditKey.name :: data.entries.map AuditExportRow.fields)

instance (data : AuditExport) : Decidable (RoundTrips data) :=
  inferInstanceAs (Decidable (_ = _))

theorem csvField_eq (val : Option Text) :
    csvField val = Csv.encode rfc4180 needsQuotes (val.getD []) := by
  cases val with
  | none => rfl
  | some str => rfl

theorem line_fields (entry : AuditExportRow) :
    Csv.line rfc4180 needsQuotes entry.fields =
      List.intercalate [44] (headers.map fun h => csvField (entry.get h)) := by
  rw [Csv.line, AuditExportRow.fields, List.map_map]
  apply congrArg (List.intercalate [44])
  apply List.map_congr_left
  intro h _
  rw [csvField_eq]
  rfl

/-- The names of the columns are written as they stand. -/
theorem line_headers :
    Csv.line rfc4180 needsQuotes (headers.map AuditKey.name) =
      List.intercalate [44] (headers.map AuditKey.name) := by
  rw [Csv.line, List.map_map]
  apply congrArg (List.intercalate [44])
  apply List.map_congr_left
  intro h _
  have hname : needsQuotes h.name = false := by cases h <;> decide
  rw [Function.comp_apply, Csv.encode, hname]
  rfl

/-- The export is the header and the entries, each on a line. -/
theorem exportToCsv_eq (data : AuditExport) :
    exportToCsv data = Csv.render rfc4180 needsQuotes
      (headers.map AuditKey.name :: data.entries.map AuditExportRow.fields) := by
  rw [Csv.render, List.flatMap_cons, line_headers, List.flatMap_map, exportToCsv]
  by_cases hempty : data.entries.length = 0
  · rw [if_pos hempty, List.length_eq_zero_iff.1 hempty, List.flatMap_nil, List.append_nil]
    rfl
  · have hne : data.entries ≠ [] := fun h => hempty (List.length_eq_zero_iff.2 h)
    rw [if_neg hempty, List.append_assoc, Csv.intercalate_append 10 (by simpa using hne), List.flatMap_map]
    congr 1
    congr 1
    funext entry
    rw [line_fields]
    rfl

/-! ## The round trip -/

theorem needsQuotes_eq_false {str : Text} (h : needsQuotes str = false) :
    (44 : UInt16) ∉ str ∧ (34 : UInt16) ∉ str ∧ (10 : UInt16) ∉ str := by
  rw [needsQuotes, Bool.or_eq_false_iff, Bool.or_eq_false_iff] at h
  obtain ⟨⟨hcomma, hquote⟩, hlf⟩ := h
  simp only [← Bool.not_eq_true, List.contains_iff_mem] at hcomma hquote hlf
  exact ⟨hcomma, hquote, hlf⟩

/-- Every field of the entry with a carriage return is quoted for another character. -/
def AuditExportRow.ReturnsQuoted (entry : AuditExportRow) : Prop :=
  ∀ h ∈ headers, ∀ str, entry.get h = some str → (13 : UInt16) ∈ str → needsQuotes str = true

theorem unbroken_fields_iff (entry : AuditExportRow) :
    Csv.Unbroken rfc4180 needsQuotes entry.fields ↔ entry.ReturnsQuoted := by
  rw [Csv.Unbroken, AuditExportRow.fields, List.forall_mem_map]
  refine forall₂_congr fun h _ => ?_
  constructor
  · intro hunbroken str hstr hcr
    by_contra hq
    rw [Bool.not_eq_true] at hq
    rw [hstr, Option.getD_some] at hunbroken
    exact (hunbroken hq).1 hcr
  · intro hquoted hq
    -- a line feed is quoted in any case
    refine ⟨fun hcr => ?_, (needsQuotes_eq_false hq).2.2⟩
    cases hget : entry.get h with
    | none =>
        rw [hget, Option.getD_none] at hcr
        exact absurd hcr List.not_mem_nil
    | some str =>
        rw [hget, Option.getD_some] at hcr hq
        rw [hquoted str hget hcr] at hq
        exact Bool.noConfusion hq

theorem unbroken_headers : Csv.Unbroken rfc4180 needsQuotes (headers.map AuditKey.name) := by
  rw [Csv.Unbroken, List.forall_mem_map]
  intro h _ _
  cases h <;> decide

/-- The export is read back exactly when every carriage return in it stands between quotes. -/
theorem exportToCsv_iff (data : AuditExport) :
    RoundTrips data ↔ ∀ entry ∈ data.entries, entry.ReturnsQuoted := by
  -- the rule of the source has the comma and the quote, so that only line ends can go wrong
  have hrule : ∀ str, needsQuotes str = false → rfc4180.comma ∉ str ∧ rfc4180.quote ∉ str :=
    fun str h => ⟨(needsQuotes_eq_false h).1, (needsQuotes_eq_false h).2.1⟩
  have hne : ∀ fs ∈ headers.map AuditKey.name :: data.entries.map AuditExportRow.fields, fs ≠ [] := by
    rw [List.forall_mem_cons, List.forall_mem_map]
    exact ⟨by decide, fun entry _ => List.cons_ne_nil _ _⟩
  rw [RoundTrips, exportToCsv_eq, Csv.records_render_iff hrule hne, List.forall_mem_cons,
    and_iff_right unbroken_headers, List.forall_mem_map]
  exact forall₂_congr fun entry _ => unbroken_fields_iff entry

/-- A carriage return in the user agent ends the record there. -/
theorem exportToCsv_carriage_return :
    ¬ RoundTrips ⟨[⟨some (units "1"), some (units "2"), some (units "LOGIN"), some (units "users"), none,
      none, none, some (units "10.0.0.1"), some (units "Mozilla\rFirefox"), some (units "2025-01-01")⟩]⟩ := by
  decide +kernel

end Ris.Reporting
