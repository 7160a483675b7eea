import Mathlib.Data.List.Basic

/-!
# Parameters of a statement

A statement may be sent without the types of its parameters, which the database then deduces: the first
context that asks a type of a parameter decides it, and a context that asks another one is an error. So a
statement is refused, or not, by its text alone: `conflict?_eq_none_iff` says that it needs one type for
each parameter.
-/

namespace Relational

/-- A context of a statement that asks a type of a parameter. -/
structure ParamUse (τ : Type) where
  param : ℕ
  type : τ
  deriving DecidableEq

namespace Parameters

variable {τ ε : Type} {uses : List (ParamUse τ)} {u v : ParamUse τ} {param : ℕ}

/-- The type of a parameter, with the contexts in the order in which the database comes to them. -/
def deduced? (uses : List (ParamUse τ)) (param : ℕ) : Option τ :=
  (uses.find? fun u => u.param = param).map ParamUse.type

/-- The type is one that a context asks, and every parameter that is used has one. -/
theorem exists_deduced (hu : u ∈ uses) :
    ∃ v ∈ uses, v.param = u.param ∧ deduced? uses u.param = some v.type := by
  cases hfound : uses.find? fun v => v.param = u.param with
  | none =>
    rw [List.find?_eq_none] at hfound
    exact absurd (decide_eq_true rfl) (hfound u hu)
  | some v =>
    have hparam : v.param = u.param := by simpa using List.find?_some hfound
    exact ⟨v, List.mem_of_find?_eq_some hfound, hparam, by rw [deduced?, hfound, Option.map_some]⟩

variable [DecidableEq τ]

/-- The first parameter of which a context asks another type than the deduced one. -/
def conflict? (uses : List (ParamUse τ)) : Option ℕ :=
  (uses.find? fun u => deduced? uses u.param ≠ some u.type).map ParamUse.param

/-- The analysis of a statement, with the error for a parameter in conflict. -/
def analyse (inconsistent : ℕ → ε) (uses : List (ParamUse τ)) : Except ε Unit :=
  match conflict? uses with
  | some param => throw (inconsistent param)
  | none => pure ()

/-- A statement has no conflict exactly if all the contexts of a parameter ask the same type of it. -/
theorem conflict?_eq_none_iff :
    conflict? uses = none ↔ ∀ u ∈ uses, ∀ v ∈ uses, u.param = v.param → u.type = v.type := by
  have hnone : conflict? uses = none ↔ ∀ u ∈ uses, deduced? uses u.param = some u.type := by
    simp [conflict?]
  rw [hnone]
  constructor
  · intro h u hu v hv hparam
    have hsame : some u.type = some v.type := by rw [← h u hu, ← h v hv, hparam]
    exact Option.some.inj hsame
  · intro h u hu
    obtain ⟨v, hv, hparam, hdeduced⟩ := exists_deduced hu
    rw [hdeduced, h v hv u hu hparam]

/-- A statement that uses a parameter at two types is refused. -/
theorem analyse_eq_error (inconsistent : ℕ → ε) (hu : u ∈ uses) (hv : v ∈ uses)
    (hparam : u.param = v.param) (htype : u.type ≠ v.type) :
    ∃ e, analyse inconsistent uses = .error e := by
  cases hconflict : conflict? uses with
  | none => exact absurd (conflict?_eq_none_iff.1 hconflict u hu v hv hparam) htype
  | some param => exact ⟨inconsistent param, by rw [analyse, hconflict]; rfl⟩

end Parameters

end Relational
