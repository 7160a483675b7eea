import RisPlatform.Common.KeyedTree
import RisPlatform.Common.Utf16

/-!
# `lib/case-convert.ts`: the keys of bodies and responses

The keys of a response are made camelCase, those of a request body snake_case, at every depth. Keys are
lists of code units, as the two patterns read them; the fields of an object stand in the order in which they
were assigned.

A response goes through both conversions unchanged just when none of its keys has a capital or a digit behind
an underscore and none names the prototype (`deepSnakeCase_deepCamelCase_iff`), a body just when none has a
small letter or a digit behind one and none is `_Proto__`, which would name it
(`deepCamelCase_deepSnakeCase_iff`).
-/

namespace Ris.CaseConvert

open Utf16

/-! ## Keys -/

/-- `_` -/
def underscore : UInt16 := 95

/-- `[A-Z]` -/
def isCapital (c : UInt16) : Bool := 65 ≤ c && c ≤ 90

/-- `[0-9]` -/
def isDigit (c : UInt16) : Bool := 48 ≤ c && c ≤ 57

/-- `[a-z0-9]` -/
def isLetterOrDigit (c : UInt16) : Bool := (97 ≤ c && c ≤ 122) || isDigit c

/-- `c.toUpperCase()`, of what the first pattern captures. -/
def toUpperCase (c : UInt16) : UInt16 := if 97 ≤ c ∧ c ≤ 122 then c - 32 else c

/-- `letter.toLowerCase()`, of what the second pattern matches. -/
def toLowerCase (c : UInt16) : UInt16 := c + 32

/-- `str.replace(/_([a-z0-9])/g, (_match, c) => c.toUpperCase())` -/
def snakeToCamel : Text → Text
  | [] => []
  | [c] => [c]
  | c :: d :: s =>
    if c = underscore ∧ isLetterOrDigit d = true then toUpperCase d :: snakeToCamel s
    else c :: snakeToCamel (d :: s)

/-- `str.replace(/[A-Z]/g, (letter) => _${letter.toLowerCase()})` -/
def camelToSnake : Text → Text
  | [] => []
  | c :: s => if isCapital c then underscore :: toLowerCase c :: camelToSnake s else c :: camelToSnake s

/-! ## Values -/

/-- What is returned as it is. -/
inductive Leaf
  | null
  | undefined
  | boolean (b : Bool)
  | number (bits : UInt64)
  | string (value : Text)
  | date (time : ℤ)
  | formData (id : ℕ)
  deriving DecidableEq

abbrev Value : Type := KeyedTree Text Leaf

/-- The name under which an assignment makes no field: it sets the prototype. -/
def isProto (key : Text) : Bool := key = units "__proto__"

def deepCamelCase (obj : Value) : Value := obj.rename isProto snakeToCamel

def deepSnakeCase (obj : Value) : Value := obj.rename isProto camelToSnake

/-! ## Which keys come back -/

/-- No capital, and no digit behind an underscore. -/
def isSnake : Text → Bool
  | [] => true
  | [c] => !isCapital c
  | c :: d :: s => !isCapital c && !(c = underscore && isDigit d) && isSnake (d :: s)

/-- No small letter and no digit behind an underscore. -/
def isCamel : Text → Bool
  | [] => true
  | [_] => true
  | c :: d :: s => !(c = underscore && isLetterOrDigit d) && isCamel (d :: s)

section Units

variable {c d : UInt16} {s : Text}

theorem isCapital_iff : isCapital c = true ↔ 65 ≤ c ∧ c ≤ 90 := by simp [isCapital]

theorem isDigit_iff : isDigit c = true ↔ 48 ≤ c ∧ c ≤ 57 := by simp [isDigit]

theorem isLetterOrDigit_iff : isLetterOrDigit c = true ↔ (97 ≤ c ∧ c ≤ 122) ∨ (48 ≤ c ∧ c ≤ 57) := by
  simp [isLetterOrDigit, isDigit]

theorem not_capital (h : isLetterOrDigit d = true) : isCapital d = false := by
  rw [Bool.eq_false_iff, ne_eq, isCapital_iff]
  rw [isLetterOrDigit_iff] at h
  grind

theorem not_underscore (h : isLetterOrDigit d = true) : d ≠ underscore := by
  rw [isLetterOrDigit_iff] at h
  unfold underscore
  grind

theorem capital_not_letterOrDigit (h : isCapital c = true) : isLetterOrDigit c = false := by
  rw [Bool.eq_false_iff, ne_eq, isLetterOrDigit_iff]
  rw [isCapital_iff] at h
  grind

/-- The capital of a letter, and the letter of a capital. -/
theorem upper_letter (h : isLetterOrDigit d = true) (hdigit : isDigit d = false) :
    isCapital (toUpperCase d) = true ∧ toLowerCase (toUpperCase d) = d := by
  have hletter : 97 ≤ d ∧ d ≤ 122 := by
    rw [isLetterOrDigit_iff] at h
    rw [Bool.eq_false_iff, ne_eq, isDigit_iff] at hdigit
    exact h.resolve_right hdigit
  rw [toUpperCase, if_pos hletter, isCapital_iff, toLowerCase]
  grind

theorem upper_digit (h : isDigit d = true) : toUpperCase d = d := by
  rw [isDigit_iff] at h
  rw [toUpperCase, if_neg]
  grind

theorem lower_capital (h : isCapital c = true) :
    isLetterOrDigit (toLowerCase c) = true ∧ toUpperCase (toLowerCase c) = c := by
  rw [isCapital_iff] at h
  rw [isLetterOrDigit_iff, toUpperCase, toLowerCase]
  grind

theorem upper_not_underscore (h : isLetterOrDigit d = true) : toUpperCase d ≠ underscore := by
  cases hdigit : isDigit d with
  | true =>
    rw [upper_digit hdigit]
    exact not_underscore h
  | false =>
    intro heq
    have hcapital := (upper_letter h hdigit).1
    rw [heq] at hcapital
    cases hcapital

theorem letterOrDigit_of_digit (h : isDigit d = true) : isLetterOrDigit d = true := by
  rw [isLetterOrDigit, h, Bool.or_true]

/-! ## One key -/

theorem isSnake_cons (hcapital : isCapital d = false) (hunderscore : d ≠ underscore) :
    isSnake (d :: s) = isSnake s := by
  cases s with
  | nil => simp [isSnake, hcapital]
  | cons e s => simp [isSnake, hcapital, hunderscore]

theorem isCamel_cons (hunderscore : d ≠ underscore) : isCamel (d :: s) = isCamel s := by
  cases s with
  | nil => rfl
  | cons e s => simp [isCamel, hunderscore]

theorem camelToSnake_of_capital (h : isCapital c = true) :
    camelToSnake (c :: s) = underscore :: toLowerCase c :: camelToSnake s := by
  rw [camelToSnake, if_pos h]

theorem camelToSnake_of_not (h : isCapital c = false) : camelToSnake (c :: s) = c :: camelToSnake s := by
  rw [camelToSnake, if_neg (by rw [h]; exact Bool.false_ne_true)]

end Units

/-- The snake_case keys are those that come back. The induction is that of the first pattern. -/
theorem camelToSnake_snakeToCamel_iff (key : Text) : camelToSnake (snakeToCamel key) = key ↔ isSnake key = true := by
  induction key using snakeToCamel.induct with
  | case1 => exact iff_of_true rfl rfl
  | case2 c =>
    rw [snakeToCamel, isSnake]
    cases hcapital : isCapital c with
    | true =>
      rw [camelToSnake_of_capital hcapital]
      exact iff_of_false (fun h => by cases congrArg List.length h) Bool.false_ne_true
    | false =>
      rw [camelToSnake_of_not hcapital]
      exact iff_of_true rfl rfl
  | case3 c d s h ih =>
    obtain ⟨rfl, hd⟩ := h
    rw [snakeToCamel, if_pos ⟨rfl, hd⟩]
    cases hdigit : isDigit d with
    | true =>
      -- the underscore is gone
      have hcapital := not_capital hd
      rw [upper_digit hdigit, camelToSnake_of_not hcapital]
      refine iff_of_false (fun h => not_underscore hd (List.cons.inj h).1) ?_
      simp [isSnake, hdigit]
    | false =>
      obtain ⟨hcapital, hlower⟩ := upper_letter hd hdigit
      rw [camelToSnake_of_capital hcapital, hlower, List.cons_eq_cons, List.cons_eq_cons, ih, isSnake,
        isSnake_cons (not_capital hd) (not_underscore hd), hdigit]
      simp [show isCapital underscore = false from rfl]
  | case4 c d s h ih =>
    rw [snakeToCamel, if_neg h]
    cases hcapital : isCapital c with
    | true =>
      rw [camelToSnake_of_capital hcapital]
      refine iff_of_false (fun h => ?_) (by simp [isSnake, hcapital])
      have hc : underscore = c := (List.cons.inj h).1
      rw [← hc] at hcapital
      cases hcapital
    | false =>
      have hkept : (decide (c = underscore) && isDigit d) = false := by
        rw [Bool.eq_false_iff, ne_eq, Bool.and_eq_true, decide_eq_true_eq]
        exact fun ⟨hc, hd⟩ => h ⟨hc, letterOrDigit_of_digit hd⟩
      rw [camelToSnake_of_not hcapital, List.cons_eq_cons, ih, isSnake, hcapital, hkept]
      simp

/-- The first pattern finds nothing at a unit that is no underscore. -/
theorem snakeToCamel_cons {c : UInt16} (hc : c ≠ underscore) (s : Text) :
    snakeToCamel (c :: s) = c :: snakeToCamel s := by
  cases s with
  | nil => rfl
  | cons d s => rw [snakeToCamel, if_neg fun h => hc h.1]

/-- Nor in front of what is neither a small letter nor a digit. -/
theorem snakeToCamel_of_not {c d : UInt16} {s : Text} (hd : isLetterOrDigit d = false) :
    snakeToCamel (c :: d :: s) = c :: snakeToCamel (d :: s) := by
  rw [snakeToCamel, if_neg]
  rw [hd]
  exact fun h => Bool.false_ne_true h.2

/-- The camelCase keys are those that come back. -/
theorem snakeToCamel_camelToSnake_iff (key : Text) : snakeToCamel (camelToSnake key) = key ↔ isCamel key = true := by
  induction key with
  | nil => exact iff_of_true rfl rfl
  | cons c s ih =>
    cases hcapital : isCapital c with
    | true =>
      obtain ⟨hletter, hupper⟩ := lower_capital hcapital
      have hc : c ≠ underscore := by
        rintro rfl
        cases hcapital
      rw [camelToSnake_of_capital hcapital, snakeToCamel, if_pos ⟨rfl, hletter⟩, hupper, List.cons_eq_cons, ih,
        isCamel_cons hc]
      exact and_iff_right rfl
    | false =>
      rw [camelToSnake_of_not hcapital]
      by_cases hc : c = underscore
      · subst hc
        cases s with
        | nil => exact iff_of_true rfl rfl
        | cons d s =>
          cases hd : isCapital d with
          | true =>
            -- two underscores: the first is no match
            rw [camelToSnake_of_capital hd] at ih ⊢
            rw [snakeToCamel_of_not rfl, List.cons_eq_cons, ih, isCamel, capital_not_letterOrDigit hd]
            simp
          | false =>
            rw [camelToSnake_of_not hd] at ih ⊢
            cases hletter : isLetterOrDigit d with
            | true =>
              rw [snakeToCamel, if_pos ⟨rfl, hletter⟩]
              refine iff_of_false (fun h => upper_not_underscore hletter (List.cons.inj h).1) ?_
              simp [isCamel, hletter]
            | false =>
              rw [snakeToCamel_of_not hletter, List.cons_eq_cons, ih, isCamel, hletter]
              simp
      · rw [snakeToCamel_cons hc, List.cons_eq_cons, ih, isCamel_cons hc]
        exact and_iff_right rfl

/-! ## Every key of a value -/

/-- The first unit of a result: it was captured behind an underscore, or stood at the beginning of the key,
and if that was an underscore, then nothing could be captured there. -/
theorem snakeToCamel_eq_cons {key t : Text} {x : UInt16} (h : snakeToCamel key = x :: t) :
    (∃ d, isLetterOrDigit d = true ∧ x = toUpperCase d) ∨
      ∃ s, key = x :: s ∧ snakeToCamel s = t ∧
        (x = underscore → ∀ d s', s = d :: s' → isLetterOrDigit d = false) := by
  match key with
  | [] => cases h
  | [c] =>
    obtain ⟨rfl, rfl⟩ := List.cons.inj h
    exact Or.inr ⟨[], rfl, rfl, fun _ d s' hs => by cases hs⟩
  | c :: d :: s =>
    rw [snakeToCamel] at h
    split at h
    · rename_i hmatch
      exact Or.inl ⟨d, hmatch.2, (List.cons.inj h).1.symm⟩
    · rename_i hno
      obtain ⟨rfl, rfl⟩ := List.cons.inj h
      refine Or.inr ⟨d :: s, rfl, rfl, fun hx e s' hs => ?_⟩
      obtain ⟨rfl, -⟩ := List.cons.inj hs
      exact Bool.eq_false_iff.2 fun hd => hno ⟨hx, hd⟩

/-- Nothing has a small letter for its capital. -/
theorem upper_ne_small {d x : UInt16} (hx : 97 ≤ x) (hx' : x ≤ 122) : x ≠ toUpperCase d := by
  unfold toUpperCase
  grind

/-- In a result no small letter is behind an underscore, so none names the prototype. -/
theorem isProto_snakeToCamel (key : Text) : isProto (snakeToCamel key) = false := by
  refine decide_eq_false fun h => ?_
  have hproto : units "__proto__" = underscore :: underscore :: 112 :: units "roto__" := by decide
  rw [hproto] at h
  rcases snakeToCamel_eq_cons h with ⟨d, hd, heq⟩ | ⟨s, -, hs, -⟩
  · exact upper_not_underscore hd heq.symm
  rcases snakeToCamel_eq_cons hs with ⟨d, hd, heq⟩ | ⟨s', -, hs', hnone⟩
  · exact upper_not_underscore hd heq.symm
  rcases snakeToCamel_eq_cons hs' with ⟨d, -, heq⟩ | ⟨s'', rfl, -, -⟩
  · exact upper_ne_small (by decide) (by decide) heq
  · cases hnone rfl 112 s'' rfl

theorem isProto_camelToSnake_iff {key : Text} (h : snakeToCamel (camelToSnake key) = key) :
    isProto (camelToSnake key) = true ↔ key = units "_Proto__" := by
  constructor
  · intro hproto
    rw [← h, of_decide_eq_true hproto]
    decide
  · rintro rfl
    decide

/-- The name of the prototype has a small letter behind an underscore. -/
theorem isProto_of_isCamel {key : Text} (h : isCamel key = true) : isProto key = false := by
  refine decide_eq_false ?_
  rintro rfl
  revert h
  decide

/-- A response comes through both conversions unchanged if and only if none of its keys has a capital, or a
digit behind an underscore, or is the prototype's name. -/
theorem deepSnakeCase_deepCamelCase_iff (response : Value) (hdistinct : response.Distinct) :
    deepSnakeCase (deepCamelCase response) = response ↔
      ∀ key ∈ response.keys, isSnake key = true ∧ key ≠ units "__proto__" := by
  refine (KeyedTree.rename_rename_iff isProto snakeToCamel camelToSnake response hdistinct).trans ?_
  refine forall₂_congr fun key _ => ?_
  rw [camelToSnake_snakeToCamel_iff, and_iff_left (isProto_snakeToCamel key), and_comm]
  exact and_congr_right fun _ => decide_eq_false_iff_not

/-- A body does if and only if none of its keys has a small letter or a digit behind an underscore, or is
the one that becomes the prototype's name. -/
theorem deepCamelCase_deepSnakeCase_iff (body : Value) (hdistinct : body.Distinct) :
    deepCamelCase (deepSnakeCase body) = body ↔
      ∀ key ∈ body.keys, isCamel key = true ∧ key ≠ units "_Proto__" := by
  refine (KeyedTree.rename_rename_iff isProto camelToSnake snakeToCamel body hdistinct).trans ?_
  refine forall₂_congr fun key _ => ?_
  rw [← snakeToCamel_camelToSnake_iff, and_comm]
  refine and_congr_right fun hkey => ?_
  rw [and_iff_right (isProto_of_isCamel ((snakeToCamel_camelToSnake_iff key).1 hkey)), Bool.eq_false_iff, ne_eq,
    isProto_camelToSnake_iff hkey]

/-- A row with a key that comes back without its last underscore. -/
def approvalRow : Value :=
  .record [(units "invoice_id", .leaf (.string (units "a"))),
    (units "signers", .list [.record [(units "dual_auth_user_1", .leaf .null)]])]

theorem distinct_approvalRow : approvalRow.Distinct := by
  refine ⟨by decide, trivial, ⟨⟨by decide, trivial, trivial⟩, trivial⟩, trivial⟩

theorem deepSnakeCase_deepCamelCase_approvalRow :
    (deepSnakeCase (deepCamelCase approvalRow) = approvalRow ↔
      ∀ key ∈ approvalRow.keys, isSnake key = true ∧ key ≠ units "__proto__") ∧
      isSnake (units "dual_auth_user_1") = false :=
  ⟨deepSnakeCase_deepCamelCase_iff approvalRow distinct_approvalRow, by decide⟩

/-- The body of a request to confirm with a token. -/
def confirmationBody : Value :=
  .record [(units "confirmationToken", .leaf (.string (units "x"))), (units "tier3Escalations", .leaf .null)]

theorem deepCamelCase_deepSnakeCase_confirmationBody :
    (deepCamelCase (deepSnakeCase confirmationBody) = confirmationBody ↔
        ∀ key ∈ confirmationBody.keys, isCamel key = true ∧ key ≠ units "_Proto__") ∧
      ∀ key ∈ confirmationBody.keys, isCamel key = true ∧ key ≠ units "_Proto__" :=
  ⟨deepCamelCase_deepSnakeCase_iff confirmationBody ⟨by decide, trivial, trivial, trivial⟩, by decide⟩

end Ris.CaseConvert
