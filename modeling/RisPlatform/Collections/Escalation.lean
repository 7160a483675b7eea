import RisPlatform.Collections.Conformance

/-!
# Escalation levels and the SAR flag

Three operations write the level of a collection: the batch sets the level of a number of days, a user
adds one up to 3, and a user takes one off what is above 0. The first two raise the flag in the
transaction that sets level 3, if the invoice is large enough; nothing lowers it.
-/

namespace Ris.Collections

open Relational Concurrent

/-! ## The law -/

/-- A collection at level 3 on an invoice at or above the AML threshold is flagged for SAR review. -/
def Flagged (cfg : Config) (w : World) : Prop :=
  ∀ c ∈ w.collections.rows, c.escalationLevel = 3 → AboveThreshold cfg w c.invoiceId →
    c.sarFlagged = true

/-! ## One step -/

section Step

variable {cfg : Config} {w₀ w w' : World} {e : Event}

/-- The invoices above the threshold are those at the start. -/
theorem Inv.aboveThreshold_iff (h : Inv w₀ w) (invoiceId : ℕ) :
    AboveThreshold cfg w invoiceId ↔ AboveThreshold cfg w₀ invoiceId := by
  rw [AboveThreshold, AboveThreshold, h.faceValue]

/-- The step lemma: a collection that is at level 3 after the event was there before it and keeps its
flag, or was escalated by it and got one. -/
theorem Effect.flagged (h : Effect cfg w₀ w e w') (hb : Bounded w₀) (hinv : Inv w₀ w)
    (hs : Flagged cfg w) : Flagged cfg w' := by
  intro c' hc' hthree habove
  have habove₀ : AboveThreshold cfg w₀ c'.invoiceId :=
    ((hinv.effect h).aboveThreshold_iff c'.invoiceId).1 habove
  rcases h.rows.row_cases hc' with ⟨hold, -⟩ | ⟨hopens, -⟩ | ⟨c, hc, hstep⟩
  · exact hs c' hold hthree ((hinv.aboveThreshold_iff c'.invoiceId).2 habove₀)
  · have hzero := hopens.level
    omega
  · rw [hstep.invoiceId] at habove₀
    rcases hstep.three hb hthree with hbefore | hescalated
    · exact hstep.flag (hs c hc hbefore ((hinv.aboveThreshold_iff c.invoiceId).2 habove₀))
    · exact hstep.sar hescalated habove₀

/-- The collection has a row, which is flagged. -/
def IsFlagged (collectionId : ℕ) (w : World) : Prop :=
  ∃ c ∈ w.collections.rows, c.id = collectionId ∧ c.sarFlagged = true

/-- A flag stays. -/
theorem Effect.isFlagged (h : Effect cfg w₀ w e w') {collectionId : ℕ}
    (hflag : IsFlagged collectionId w) : IsFlagged collectionId w' := by
  obtain ⟨c, hc, hid, hflagged⟩ := hflag
  rcases h.rows.row_stays hc with ⟨hstay, -⟩ | ⟨c', hc', hstep⟩
  · exact ⟨c, hstay, hid, hflagged⟩
  · exact ⟨c', hc', hstep.id.trans hid, hstep.flag hflagged⟩

end Step

/-! ## Runs -/

/-- The levels are within their bounds, and whoever is at level 3 and has to be flagged is. -/
structure EscalationConsistent (cfg : Config) (w : World) : Prop where
  bounded : Bounded w
  flagged : Flagged cfg w

section Runs

variable {cfg : Config} {w : World} {s s₁ s₂ : Sys World Input Event RisError}

/-- The run lemma of the level and the flag. -/
theorem escalationConsistent_of_reaches (hw : EscalationConsistent cfg w)
    (hs : Reaches (program cfg) always (Sys.init w) s) : EscalationConsistent cfg s.store := by
  have hinv : Inv w s.store := (Protocol.simulates (program_implements cfg w) (Inv.init w) hs).1.inv
  refine ⟨hinv.bounded hw.bounded, ?_⟩
  refine Protocol.invariant (C := always) (program_implements cfg w) (Inv.init w)
    (P := fun s => Flagged cfg s.store) hw.flagged ?_ hs
  intro s t e d hs hmove
  cases e with
  | none =>
    obtain rfl : d = s.store := hmove.effect
    exact hs
  | some e => exact Effect.flagged hmove.effect hw.bounded hmove.inv hs

/-- A flag stays to the end of the run. -/
theorem isFlagged_of_reaches {collectionId : ℕ}
    (h₁ : Reaches (program cfg) always (Sys.init w) s₁) (hflag : IsFlagged collectionId s₁.store)
    (h₂ : Reaches (program cfg) always s₁ s₂) : IsFlagged collectionId s₂.store := by
  refine Protocol.persists (program_implements cfg w) (Inv.init w)
    (P := fun s => IsFlagged collectionId s.store) ?_ h₁ hflag h₂
  intro s t e d hs hmove
  cases e with
  | none =>
    obtain rfl : d = s.store := hmove.effect
    exact hs
  | some e => exact Effect.isFlagged hmove.effect hs

end Runs

/-- **Escalation bounds and the AML flag.** In every state that a run reaches, the escalation levels are
0 to 3; and a collection that is at level 3 there, on an invoice at or above the AML threshold, is
flagged for SAR review in every state that the run reaches from there. -/
theorem escalation_bounded_and_flagged (cfg : Config) (w : World) (hw : EscalationConsistent cfg w)
    (s₁ s₂ : Sys World Input Event RisError) (h₁ : Reaches (program cfg) always (Sys.init w) s₁)
    (h₂ : Reaches (program cfg) always s₁ s₂) :
    (∀ c ∈ s₁.store.collections.rows, 0 ≤ c.escalationLevel ∧ c.escalationLevel ≤ 3) ∧
      ∀ c ∈ s₁.store.collections.rows, c.escalationLevel = 3 →
        AboveThreshold cfg s₁.store c.invoiceId →
        ∃ c' ∈ s₂.store.collections.rows, c'.id = c.id ∧ c'.sarFlagged = true := by
  have hs₁ := escalationConsistent_of_reaches hw h₁
  refine ⟨hs₁.bounded, fun c hc hthree habove => ?_⟩
  exact isFlagged_of_reaches h₁ ⟨c, hc, rfl, hs₁.flagged c hc hthree habove⟩ h₂

/-! ## A run on one collection -/

instance (cfg : Config) (w : World) : Decidable (Flagged cfg w) := by
  unfold Flagged
  infer_instance

instance (cfg : Config) (w : World) : Decidable (EscalationConsistent cfg w) :=
  decidable_of_iff (Bounded w ∧ Flagged cfg w) ⟨fun h => ⟨h.1, h.2⟩, fun h => ⟨h.bounded, h.flagged⟩⟩

/-- The collection goes from level 2 to 3 and back to 2; the flag stays. -/
theorem flagged_after_deescalation :
    ∃ s₁ s₂ : Sys World Input Event RisError,
      s₁.store.collections.rows.map Collection.escalationLevel = [3] ∧
        s₂.store.collections.rows.map Collection.escalationLevel = [2] ∧
        ∃ c' ∈ s₂.store.collections.rows, c'.id = 1 ∧ c'.sarFlagged = true := by
  obtain ⟨s₁, s₂, h₁, h₂, hP⟩ := exists_reaches_reaches (program { amlFlagThreshold := 1000 }) always
    (Sys.init (exampleWorld .overdue (exampleCollection 1 .escalated 7 2)))
    (Act.call (.escalateCollection 1 9 "no reply") 0 (List.replicate 3 {}))
    (Act.call (.deescalateCollection 1 9 "agreed") 1 (List.replicate 3 {}))
    (fun s₁ s₂ => s₁.store.collections.rows.map Collection.escalationLevel = [3] ∧
      s₂.store.collections.rows.map Collection.escalationLevel = [2] ∧
      ∃ c ∈ s₁.store.collections.rows, c.id = 1 ∧ c.escalationLevel = 3 ∧
        AboveThreshold { amlFlagThreshold := 1000 } s₁.store c.invoiceId) (by decide)
  obtain ⟨hthree, htwo, c, hc, hid, hlevel, habove⟩ := of_decide_eq_true hP
  refine ⟨s₁, s₂, hthree, htwo, ?_⟩
  rw [← hid]
  exact (escalation_bounded_and_flagged _ _ (by decide) s₁ s₂ h₁ h₂).2 c hc hlevel habove

end Ris.Collections
