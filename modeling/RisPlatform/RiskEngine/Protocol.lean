import RisPlatform.Pricing.Transactions
import RisPlatform.RiskEngine.Service
import RisPlatform.Triples

/-!
# The risk engine

What its one event that writes does to the store. A protocol for a larger system that allows it is
followed by `scoreInvoice` (`free_program`).
-/

namespace Ris.RiskEngine

open Relational Concurrent

/-! ## Effects -/

/-- What an event does to the store. -/
inductive Effect (w : World) : Event → World → Prop
  | scored (result : RiskScoreResult) (id : ℕ) (riskScores : Table RiskScore.id) (now : ℤ)
      (hinsert : w.riskScores.insert? (result.insert id).row = some riskScores) :
      Effect w (.invoiceScored result.invoiceId result.recommendation)
        { w with
          riskScores := riskScores
          invoices := Pricing.moveById result.invoiceId .buyerConfirmed
            (scoredStatus result.recommendation) now w.invoices
          auditLogs := w.auditLogs ++ [scoredAudit result] }

section Transactions

variable {i : Input} {w w' : World} {u : Unit}

theorem saveRiskScoreWithClient_ok {data : RiskScoreInsert}
    (h : saveRiskScoreWithClient data i w = .ok (u, w')) :
    w.riskScores.insert? data.row = some w'.riskScores ∧
      w' = { w with riskScores := w'.riskScores } := by
  simp only [saveRiskScoreWithClient, Txn.bind_ok, Txn.read_ok, id] at h
  obtain ⟨_, _, ⟨rfl, rfl⟩, h⟩ := h
  cases hviolation : riskScoreViolation w data.row with
  | some message => simp [hviolation] at h
  | none =>
    cases hins : w.riskScores.insert? data.row with
    | none => simp [hviolation, hins] at h
    | some riskScores =>
      simp only [hviolation, hins, Txn.write_ok] at h
      subst h
      exact ⟨rfl, rfl⟩

/-- The commit of `persistScore`. -/
theorem persistScoreTxn_ok {result : RiskScoreResult} (h : persistScoreTxn result i w = .ok (u, w')) :
    Effect w (.invoiceScored result.invoiceId result.recommendation) w' := by
  simp only [persistScoreTxn, updateInvoiceStatusWithClient, Txn.bind_ok, Txn.input_ok, Txn.pure_ok,
    createAuditEntry_ok] at h
  obtain ⟨_, _, ⟨rfl, rfl⟩, _, w₁, hsave, _, w₂, ⟨_, _, hmove, -, rfl⟩, rfl⟩ := h
  obtain ⟨hinsert, hw₁⟩ := saveRiskScoreWithClient_ok hsave
  have hw₂ := Payments.updateInvoiceStatusWithClient_ok hmove
  rw [hw₂, hw₁]
  exact .scored result _ _ _ hinsert

end Transactions

/-! ## The operation -/

section Calls

variable {G : Protocol World Event} (hG : Permissive G) {cfg : Config}

include hG

theorem free_getRiskConfig : Free G getRiskConfig := by
  refine free_statement hG.toQuiet fun s t i a d _ h => ?_
  simp only [Txn.bind_ok, Txn.input_ok, Txn.pure_ok] at h
  obtain ⟨_, _, ⟨-, rfl⟩, -, rfl⟩ := h
  exact hG.read s t

theorem free_rawScore (ctx : ScoringContext) (factor : Factor) : Free G (rawScore ctx factor) := by
  cases factor with
  | buyerCredit => exact free_pure _
  | tenor => exact free_pure _
  | trackRecord => exact free_bind (free_query hG.toQuiet _) fun _ => free_pure _
  | concentration => exact free_bind (free_query hG.toQuiet _) fun _ => free_pure _
  | collateral =>
    refine free_bind (free_statement hG.toQuiet fun s t i a d _ h => ?_) fun _ => free_pure _
    simp only [Txn.bind_ok, connect_ok, Txn.input_ok, Txn.read_ok] at h
    obtain ⟨_, _, ⟨-, rfl⟩, _, _, ⟨-, rfl⟩, -, rfl⟩ := h
    exact hG.read s t

theorem free_calculate (ctx : ScoringContext) (factor : Factor) : Free G (calculate ctx factor) := by
  refine free_tryCatch ?_ fun _ => ?_
  · exact free_bind (free_getRiskConfig hG) fun _ => free_bind (free_rawScore hG _ _) fun _ => free_pure _
  · exact free_bind (free_log hG.toQuiet _) fun _ => free_pure _

theorem free_runAllFactors (ctx : ScoringContext) : Free G (runAllFactors ctx) :=
  free_bind (free_calculate hG _ _) fun _ => free_bind (free_calculate hG _ _) fun _ =>
    free_bind (free_calculate hG _ _) fun _ => free_bind (free_calculate hG _ _) fun _ =>
      free_bind (free_calculate hG _ _) fun _ => free_pure _

theorem free_fetchAndValidateInvoice (invoiceId : ℕ) : Free G (fetchAndValidateInvoice invoiceId) :=
  free_bind (free_query hG.toQuiet _) fun _ => free_bind (free_lift _) fun _ =>
    free_bind (free_query hG.toQuiet _) fun _ => free_bind (free_lift _) fun _ => free_pure _

theorem free_queueNext (invoiceId : ℕ) (recommendation : RiskRecommendation) :
    Free G (queueNext cfg invoiceId recommendation) :=
  free_ite (free_enqueueOrWarn hG _ _ _) (free_enqueueOrWarn hG _ _ _)

variable (hallow : Allows G Effect)

include hallow

theorem free_scoreInvoice (invoiceId : ℕ) : Free G (scoreInvoice cfg invoiceId) := by
  have hconfig := free_getRiskConfig hG
  refine free_bind (free_fetchAndValidateInvoice hG _) fun invoice =>
    free_bind (free_query hG.toQuiet _) fun _ => free_bind (free_lift _) fun buyer =>
      free_bind hconfig fun _ => free_bind (free_lift _) fun _ =>
        free_bind (free_runAllFactors hG _) fun factors => free_bind hconfig fun _ =>
          free_bind hconfig fun _ => free_bind hconfig fun _ => ?_
  refine free_bind (free_transaction hG.toQuiet ?_) fun _ =>
    free_bind (free_queueNext hG _ _) fun _ => free_bind (free_log hG.toQuiet _) fun _ => free_pure _
  intro s t i u d hs h
  exact hallow s t _ d hs (persistScoreTxn_ok h)

/-- The operation follows a protocol that allows its effect. -/
theorem free_program (op : Op) : Free G (program cfg op) := by
  cases op with
  | scoreInvoice => exact free_discard (free_scoreInvoice hG hallow _)

end Calls

end Ris.RiskEngine
