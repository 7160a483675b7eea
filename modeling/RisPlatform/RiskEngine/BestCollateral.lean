import Mathlib.Data.List.MinMax
import RisPlatform.RiskEngine.Service

/-!
# The collateral that is scored

The query and the scorer rank the types independently. On the five types that the `CASE` lists the ranks
agree with the scores. The two types that it does not list come last in the order, but score more than
three of the listed ones, and among themselves they are not ordered at all; and the query does not ask
whether an item is deleted. So the query selects an item of the highest score exactly when no deleted item
comes first, and no unlisted item loses to one that scores less.
-/

namespace Ris.RiskEngine.BestCollateral

open Relational

variable {invoiceId supplierId : ℕ} {w : World} {rows : List Collateral}

/-! ## The law -/

def IsLive (c : Collateral) : Prop := c.deletedAt = none

instance : DecidablePred IsLive := fun c => inferInstanceAs (Decidable (c.deletedAt = none))

/-- The items that may count: the active ones that are not deleted. -/
def live (rows : List Collateral) : List Collateral := rows.filter fun c => IsLive c

theorem mem_live {c : Collateral} : c ∈ live rows ↔ c ∈ rows ∧ IsLive c := by
  simp [live]

def score (c : Collateral) : ℤ := calculateCollateralRaw c.collateralType

/-- What is selected is one of the items and has the highest score; nothing is, if there are none. -/
def SelectsBest (items : List Collateral) : Option Collateral → Prop
  | some c => c ∈ items ∧ ∀ d ∈ items, score d ≤ score c
  | none => items = []

/-! ## The order of the query -/

/-- The types that the scorer ranks highest, as the query does. -/
def Strong (c : Collateral) : Prop :=
  c.collateralType = .bankGuarantee ∨ c.collateralType = .fixedDepositLien

/-- The types that the `CASE` does not list. -/
def Unlisted (c : Collateral) : Prop :=
  c.collateralType = .assignmentOfReceivables ∨ c.collateralType = .performanceBond

def Before (invoiceId : ℕ) (c d : Collateral) : Prop :=
  collateralOrder invoiceId c < collateralOrder invoiceId d

/-- The items for which the order of the query is as good as that of the scores. -/
structure Orderly (invoiceId : ℕ) (rows : List Collateral) : Prop where
  /-- Before every deleted item there is one that is not. -/
  deleted : ∀ d ∈ rows, ¬IsLive d → ∃ c ∈ rows, IsLive c ∧ Before invoiceId c d
  /-- An unlisted item is there only with a stronger one, or with its like. -/
  unlisted : ∀ d ∈ live rows, Unlisted d → (∃ c ∈ live rows, Strong c) ∨ ∀ c ∈ live rows, Unlisted c
  /-- Among unlisted items, every bond has an assignment before it, if there are assignments. -/
  bonds : (∀ c ∈ live rows, Unlisted c) →
    ∀ a ∈ live rows, a.collateralType = .assignmentOfReceivables →
      ∀ b ∈ live rows, b.collateralType = .performanceBond →
        ∃ c ∈ live rows, c.collateralType = .assignmentOfReceivables ∧ Before invoiceId c b

/-- The row may be the first in the order. -/
def First (invoiceId : ℕ) (rows : List Collateral) (c : Collateral) : Prop :=
  c ∈ rows ∧ ∀ d ∈ rows, collateralOrder invoiceId c ≤ collateralOrder invoiceId d

theorem exists_first (invoiceId : ℕ) (h : rows ≠ []) : ∃ c, First invoiceId rows c := by
  cases hmin : rows.argmin (collateralOrder invoiceId) with
  | none => exact absurd (List.argmin_eq_none.1 hmin) h
  | some c => exact ⟨c, List.argmin_mem hmin, fun d hd => List.le_of_mem_argmin hd hmin⟩

/-- The query selects any row that may be the first, and nothing if there is none. -/
theorem forall_findBestCollateral_iff {P : Option Collateral → Prop} :
    (∀ choice, P (findBestCollateral invoiceId supplierId choice w)) ↔
      (collateralFor invoiceId supplierId w = [] → P none) ∧
        ∀ c, First invoiceId (collateralFor invoiceId supplierId w) c → P (some c) := by
  set rows := collateralFor invoiceId supplierId w with hrows
  set first := rows.filter fun c =>
    ∀ c' ∈ rows, collateralOrder invoiceId c ≤ collateralOrder invoiceId c' with hfirst
  have hmem : ∀ c, c ∈ first ↔ First invoiceId rows c := fun c => by simp [hfirst, First]
  have hfind : ∀ choice, findBestCollateral invoiceId supplierId choice w = first[choice % first.length]? :=
    fun _ => rfl
  constructor
  · intro h
    constructor
    · intro hnil
      have hnone := h 0
      rw [hfind, hfirst, hnil] at hnone
      exact hnone
    · intro c hc
      obtain ⟨i, hi, rfl⟩ := List.getElem_of_mem ((hmem c).2 hc)
      have hsome := h i
      rwa [hfind, Nat.mod_eq_of_lt hi, List.getElem?_eq_getElem hi] at hsome
  · rintro ⟨hnone, hsome⟩ choice
    rw [hfind]
    by_cases hlength : 0 < first.length
    · have hi := Nat.mod_lt choice hlength
      rw [List.getElem?_eq_getElem hi]
      exact hsome _ ((hmem _).1 (List.getElem_mem hi))
    · have hnil : first = [] := List.length_eq_zero_iff.1 (by omega)
      rw [hnil]
      -- no row is first, so there is no row
      refine hnone (not_not.1 fun hne => ?_)
      obtain ⟨c, hc⟩ := exists_first invoiceId hne
      rw [← hmem, hnil] at hc
      exact List.not_mem_nil hc

/-! ## Ranks and scores -/

theorem rank_le_of_order_le {c d : Collateral}
    (h : collateralOrder invoiceId c ≤ collateralOrder invoiceId d) :
    collateralRank c.collateralType ≤ collateralRank d.collateralType := by
  unfold collateralOrder at h
  split_ifs at h <;> omega

/-- On the listed types a lower rank is a higher score. -/
theorem score_le_of_order_le {c d : Collateral} (hd : ¬Unlisted d)
    (h : collateralOrder invoiceId c ≤ collateralOrder invoiceId d) : score d ≤ score c := by
  have hrank := rank_le_of_order_le h
  unfold Unlisted at hd
  unfold score
  revert hrank hd
  cases c.collateralType <;> cases d.collateralType <;> decide

/-- A strong item comes before every item that is not, and scores more. -/
theorem Strong.of_order_le {c d : Collateral} (hc : Strong c)
    (h : collateralOrder invoiceId d ≤ collateralOrder invoiceId c) : Strong d := by
  have hrank := rank_le_of_order_le h
  unfold Strong at hc ⊢
  revert hrank hc
  cases c.collateralType <;> cases d.collateralType <;> decide

theorem score_le_of_strong {c d : Collateral} (hc : Strong c) (hd : Unlisted d) : score d ≤ score c := by
  unfold Strong at hc
  unfold Unlisted at hd
  unfold score
  revert hc hd
  cases c.collateralType <;> cases d.collateralType <;> decide

/-- An unlisted item scores more than every listed one that is not strong. -/
theorem strong_or_unlisted_of_score_le {c d : Collateral} (hd : Unlisted d) (h : score d ≤ score c) :
    Strong c ∨ Unlisted c := by
  unfold score at h
  unfold Unlisted at hd ⊢
  unfold Strong
  revert h hd
  cases c.collateralType <;> cases d.collateralType <;> decide

theorem assignment_of_score_le {c d : Collateral} (hd : d.collateralType = .assignmentOfReceivables)
    (hc : Unlisted c) (h : score d ≤ score c) : c.collateralType = .assignmentOfReceivables := by
  unfold score at h
  unfold Unlisted at hc
  rw [hd] at h
  revert h hc
  cases c.collateralType <;> decide

theorem score_le_of_unlisted {c d : Collateral} (hc : c.collateralType = .assignmentOfReceivables)
    (hd : Unlisted d) : score d ≤ score c := by
  unfold score
  unfold Unlisted at hd
  rw [hc]
  revert hd
  cases d.collateralType <;> decide

/-- What comes no earlier than an unlisted item is unlisted. -/
theorem Unlisted.of_order_le {c d : Collateral} (hc : Unlisted c)
    (h : collateralOrder invoiceId c ≤ collateralOrder invoiceId d) : Unlisted d := by
  have hrank := rank_le_of_order_le h
  unfold Unlisted at hc ⊢
  revert hrank hc
  cases c.collateralType <;> cases d.collateralType <;> decide

/-! ## The first row -/

theorem First.isLive {c : Collateral} (hc : First invoiceId rows c) (h : Orderly invoiceId rows) :
    IsLive c := by
  by_contra hdeleted
  obtain ⟨d, hd, -, hbefore⟩ := h.deleted c hc.1 hdeleted
  exact absurd (hc.2 d hd) (not_le.2 hbefore)

/-- If the items are orderly, the first one has the highest score. -/
theorem First.score_le {c d : Collateral} (hc : First invoiceId rows c) (h : Orderly invoiceId rows)
    (hd : d ∈ live rows) : score d ≤ score c := by
  have hle : collateralOrder invoiceId c ≤ collateralOrder invoiceId d := hc.2 d (mem_live.1 hd).1
  have hlive : c ∈ live rows := mem_live.2 ⟨hc.1, hc.isLive h⟩
  by_cases hunlisted : Unlisted d
  · rcases h.unlisted d hd hunlisted with ⟨e, he, hstrong⟩ | hall
    · exact score_le_of_strong (hstrong.of_order_le (hc.2 e (mem_live.1 he).1)) hunlisted
    · -- all are unlisted: the first one is an assignment, or nobody is
      rcases hall c hlive with hassigned | hbond
      · exact score_le_of_unlisted hassigned hunlisted
      · rcases hunlisted with hd' | hd'
        · obtain ⟨a, ha, -, hbefore⟩ := h.bonds hall d hd hd' c hlive hbond
          exact absurd (hc.2 a (mem_live.1 ha).1) (not_le.2 hbefore)
        · simp [score, hbond, hd']
  · exact score_le_of_order_le hunlisted hle

/-- If every first item is live and has the highest score, then the items are orderly. -/
theorem orderly_of_first (h : ∀ c, First invoiceId rows c → IsLive c ∧ ∀ d ∈ live rows, score d ≤ score c) :
    Orderly invoiceId rows where
  deleted d hd hdeleted := by
    obtain ⟨c, hc⟩ := exists_first invoiceId (List.ne_nil_of_mem hd)
    refine ⟨c, hc.1, (h c hc).1, lt_of_le_of_ne (hc.2 d hd) fun heq => hdeleted ?_⟩
    exact (h d ⟨hd, fun e he => heq ▸ hc.2 e he⟩).1
  unlisted d hd hunlisted := by
    obtain ⟨c, hc⟩ := exists_first invoiceId (List.ne_nil_of_mem (mem_live.1 hd).1)
    have hlive : c ∈ live rows := mem_live.2 ⟨hc.1, (h c hc).1⟩
    rcases strong_or_unlisted_of_score_le hunlisted ((h c hc).2 d hd) with hstrong | hlast
    · exact Or.inl ⟨c, hlive, hstrong⟩
    · refine Or.inr fun e he => ?_
      exact hlast.of_order_le (hc.2 e (mem_live.1 he).1)
  bonds hall a ha hassigned b hb hbond := by
    obtain ⟨c, hc⟩ := exists_first invoiceId (List.ne_nil_of_mem (mem_live.1 ha).1)
    have hlive : c ∈ live rows := mem_live.2 ⟨hc.1, (h c hc).1⟩
    have hfirst := assignment_of_score_le hassigned (hall c hlive) ((h c hc).2 a ha)
    refine ⟨c, hlive, hfirst, lt_of_le_of_ne (hc.2 b (mem_live.1 hb).1) fun heq => ?_⟩
    -- a bond that is as early may be the first as well
    have hlast := (h b ⟨(mem_live.1 hb).1, fun e he => heq ▸ hc.2 e he⟩).2 a ha
    simp [score, hassigned, hbond, calculateCollateralRaw] at hlast

/-- The query selects an item of the highest score if and only if the items are orderly. -/
theorem findBestCollateral_selectsBest_iff (invoiceId supplierId : ℕ) (w : World) :
    (∀ choice, SelectsBest (live (collateralFor invoiceId supplierId w))
        (findBestCollateral invoiceId supplierId choice w)) ↔
      Orderly invoiceId (collateralFor invoiceId supplierId w) := by
  rw [forall_findBestCollateral_iff]
  constructor
  · rintro ⟨-, hsome⟩
    exact orderly_of_first fun c hc => ⟨(mem_live.1 (hsome c hc).1).2, (hsome c hc).2⟩
  · intro h
    refine ⟨fun hnil => by rw [hnil]; rfl, fun c hc => ⟨?_, fun d hd => hc.score_le h hd⟩⟩
    exact mem_live.2 ⟨hc.1, hc.isLive h⟩

/-! ## Not for every set of items -/

/-- An active item of invoice 1. -/
def pledge (id : ℕ) (type : CollateralType) : Collateral where
  id := id
  invoiceId := some 1
  value := 60000000
  isActive := true
  deletedAt := none
  collateralType := type

/-- A cheque and an assignment of receivables secure the invoice. -/
def chequeAndAssignment : World :=
  { World.empty with
    collateral :=
      { rows := [pledge 5 .postDatedChequeFullValue, pledge 6 .assignmentOfReceivables]
        keys_nodup := by decide } }

/-- The cheque is selected, and the assignment scores more. -/
theorem cheque_is_selected :
    ¬∀ invoiceId supplierId choice w, SelectsBest (live (collateralFor invoiceId supplierId w))
      (findBestCollateral invoiceId supplierId choice w) := by
  intro h
  obtain ⟨-, hbest⟩ : SelectsBest (live (collateralFor 1 2 chequeAndAssignment))
    (some (pledge 5 .postDatedChequeFullValue)) := h 1 2 0 chequeAndAssignment
  have hle := hbest (pledge 6 .assignmentOfReceivables) (by simp [mem_live, collateralFor,
    chequeAndAssignment, pledge, IsLive])
  exact absurd hle (by decide)

end Ris.RiskEngine.BestCollateral
