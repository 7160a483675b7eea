import RisPlatform.Pricing.Transactions
import RisPlatform.Triples

/-!
# The pricing service

The operations that write, and what their events do to the store. Each operation looks at the invoice
before its transaction, and the transaction writes whatever it finds. A protocol for a larger system
that allows these effects is followed by every operation of the service (`free_program`).
-/

namespace Ris.Pricing

open Relational Concurrent

/-! ## The system -/

/-- The operations of the pricing service that write. -/
inductive Op
  | priceInvoice (invoiceId : ℕ)
  | acceptPricing (invoiceId userId : ℕ) (req : Request)
  | rejectPricing (invoiceId userId : ℕ) (reason : String) (req : Request)
  | disputePricing (invoiceId userId : ℕ) (payload : PricingDisputePayload) (req : Request)

/-- The body of each operation. -/
def program (cfg : Config) : Op → Call Unit
  | .priceInvoice invoiceId => (priceInvoice cfg invoiceId).discard
  | .acceptPricing invoiceId userId req => acceptPricing cfg invoiceId userId req
  | .rejectPricing invoiceId userId reason req => rejectPricing invoiceId userId reason req
  | .disputePricing invoiceId userId payload req =>
    (disputePricing invoiceId userId payload req).discard

/-! ## Effects -/

/-- The row of `risk_scores` with this id belongs to the invoice. -/
def ScoreOf (w : World) (invoiceId riskScoreId : ℕ) : Prop :=
  ∃ r ∈ w.riskScores.rows, r.id = riskScoreId ∧ r.invoiceId = invoiceId

/-- What an event does to the store. -/
inductive Effect (w : World) : Event → World → Prop
  | read : Effect w .read w
  | threw : Effect w .threw w
  | logged (action : String) : Effect w (.logged action) w
  | enqueued (job : Job) : Effect w (.enqueued job) { w with jobs := w.jobs ++ [job] }
  | leftJobs (jobs : List Job) : Effect w .leftJobs { w with jobs := jobs }
  | priced (invoiceId riskScoreId : ℕ) (input : PricingCalculationInput) (now : ℤ)
      (hscore : ScoreOf w invoiceId riskScoreId) :
      Effect w (.invoicePriced invoiceId input)
        { w with
          riskScores := w.riskScores.update (fun r => r.id = riskScoreId)
            (setScorePricing (pricingUpdate input)) (id_setScorePricing _)
          invoices := moveById invoiceId .scored .priced now
            (updateById invoiceId (setAmounts (pricingUpdate input)) (id_setAmounts _) w.invoices)
          auditLogs := w.auditLogs ++ [pricedAudit invoiceId (pricingUpdate input)] }
  | accepted (invoiceId userId : ℕ) (req : Request) (now : ℤ) (net : Option ℤ)
      (hnet : net = (w.invoices.get? invoiceId).bind Invoice.netPaymentToSupplier) :
      Effect w (.pricingAccepted invoiceId net)
        { w with
          invoices := updateById invoiceId (setAccepted userId now) (id_setAccepted userId now)
            w.invoices
          auditLogs := w.auditLogs ++ [acceptedAudit invoiceId userId req] }
  | rejected (invoiceId userId : ℕ) (reason : String) (req : Request) (now : ℤ) :
      Effect w (.pricingRejected invoiceId)
        { w with
          invoices := moveById invoiceId .priced .rejected now
            (updateById invoiceId (setRejected reason now) (id_setRejected reason now) w.invoices)
          auditLogs := w.auditLogs ++ [rejectedAudit invoiceId userId reason req] }
  | disputed (invoiceId userId : ℕ) (payload : PricingDisputePayload) (req : Request) (now : ℤ)
      (row : PricingDispute) (disputes : Table PricingDispute.id) (hrow : row.invoiceId = invoiceId)
      (hinsert : w.pricingDisputes.insert? row = some disputes) :
      Effect w (.pricingDisputed invoiceId)
        { w with
          invoices := updateById invoiceId (setDisputed now) (id_setDisputed now) w.invoices
          pricingDisputes := disputes
          auditLogs := w.auditLogs ++ [disputedAudit row userId payload req] }

/-- An effect other than a pricing. -/
def DecisionEffect (w : World) (e : Event) (w' : World) : Prop :=
  Effect w e w' ∧ ∀ invoiceId input, e ≠ .invoicePriced invoiceId input

/-- The row of an invoice's score stays its own. -/
theorem Effect.scoreOf {w w' : World} {e : Event} (h : Effect w e w') {invoiceId riskScoreId : ℕ}
    (hscore : ScoreOf w invoiceId riskScoreId) : ScoreOf w' invoiceId riskScoreId := by
  cases h with
  | priced i k input now _ =>
    obtain ⟨r, hr, hid, hinvoice⟩ := hscore
    refine ⟨if r.id = k then setScorePricing (pricingUpdate input) r else r, ?_, ?_, ?_⟩
    · rw [Table.mem_update]
      exact ⟨r, hr, by simp⟩
    · split
      · exact hid
      · exact hid
    · split
      · exact hinvoice
      · exact hinvoice
  | _ => exact hscore

/-! ## The operations -/

section Calls

variable {G : Protocol World Event} (hG : Permissive G) {cfg : Config}

include hG

theorem free_fetchAndValidateInvoice (invoiceId : ℕ) : Free G (fetchAndValidateInvoice invoiceId) :=
  free_bind (free_query hG _) fun _ => free_lift _

theorem free_fetchActiveFacility : Free G fetchActiveFacility := by
  refine free_bind (free_statement hG ?_) fun found => free_lift _
  intro s t i a d _ h
  simp only [Txn.bind_ok, connect_ok, Txn.input_ok, Txn.read_ok] at h
  obtain ⟨_, _, ⟨-, rfl⟩, _, _, ⟨-, rfl⟩, -, rfl⟩ := h
  exact hG.read s t

theorem free_fetchBuyerMargin (buyerId : ℕ) : Free G (fetchBuyerMargin buyerId) :=
  free_bind (free_query hG _) fun _ => free_lift _

theorem free_resolveSupplier (userId : ℕ) : Free G (resolveSupplier userId) := by
  refine free_bind (free_query hG _) fun found => ?_
  cases found with
  | none => exact free_throw _
  | some supplier => exact free_pure _

theorem free_fetchAndValidatePricingAcceptance (invoiceId supplierId : ℕ) :
    Free G (fetchAndValidatePricingAcceptance invoiceId supplierId) :=
  free_bind (free_query hG _) fun _ => free_lift _

/-- The score that passes the validation is one of the invoice. -/
theorem triple_fetchAndValidateRiskScore (invoiceId t : ℕ) :
    G.Triple t (fun _ => True) (fetchAndValidateRiskScore invoiceId)
      (fun score s => ScoreOf s.store invoiceId score.id) fun _ _ => True := by
  refine .bind (R := fun found s => ∀ r ∈ found, ScoreOf s.store invoiceId r.id)
    (triple_query hG t ?_) fun found => .lift ?_ fun _ _ _ _ _ => trivial
  · intro s _ r hr
    have hfind : s.store.riskScores.rows.find? (fun r => r.invoiceId = invoiceId) = some r := hr
    exact ⟨r, List.mem_of_find?_eq_some hfind, rfl, by simpa using List.find?_some hfind⟩
  · intro score s hvalid _ hscore
    cases found with
    | none => cases hvalid
    | some r =>
      simp only [validateRiskScore] at hvalid
      split at hvalid
      · cases hvalid
      · cases hvalid
        exact hscore _ rfl

section Decisions

variable (hallow : Allows G DecisionEffect)

include hallow

theorem free_acceptPricing (invoiceId userId : ℕ) (req : Request) :
    Free G (acceptPricing cfg invoiceId userId req) := by
  refine free_bind (free_resolveSupplier hG userId) fun supplierId =>
    free_bind (free_fetchAndValidatePricingAcceptance hG _ _) fun invoice =>
      free_bind (free_lift _) fun _ => ?_
  refine free_bind (free_transaction hG ?_) fun _ =>
    free_bind (free_enqueueOrWarn hG _ _ _) fun _ => free_log hG _
  intro s t i net d hs h
  obtain ⟨hd, hnet⟩ := persistAcceptanceTxn_ok h
  refine hallow s t _ d hs ⟨?_, fun _ _ => by simp⟩
  have hshown : net = (s.store.invoices.get? invoiceId).bind Invoice.netPaymentToSupplier := by
    rw [hnet, hd]
    dsimp only
    rw [updateById, Table.get?_update, Option.bind_map]
    congr 1
    funext r
    simp only [Function.comp]
    split <;> rfl
  rw [hd]
  exact .accepted _ _ _ _ _ hshown

theorem free_rejectPricing (invoiceId userId : ℕ) (reason : String) (req : Request) :
    Free G (rejectPricing invoiceId userId reason req) := by
  refine free_bind (free_resolveSupplier hG userId) fun supplierId =>
    free_bind (free_fetchAndValidatePricingAcceptance hG _ _) fun invoice =>
      free_bind (free_lift _) fun _ => ?_
  refine free_bind (free_transaction hG ?_) fun _ => free_log hG _
  intro s t i u d hs h
  rw [persistRejectionTxn_ok h]
  exact hallow s t _ _ hs ⟨.rejected _ _ _ _ _, fun _ _ => by simp⟩

theorem free_disputePricing (invoiceId userId : ℕ) (payload : PricingDisputePayload) (req : Request) :
    Free G (disputePricing invoiceId userId payload req) := by
  refine free_bind (free_resolveSupplier hG userId) fun supplierId =>
    free_bind (free_fetchAndValidatePricingAcceptance hG _ _) fun invoice =>
      free_bind (free_lift _) fun _ => free_bind (free_lift _) fun _ =>
        free_bind (free_lift _) fun _ => ?_
  refine free_bind (free_transaction hG ?_) fun _ => free_bind (free_log hG _) fun _ => free_pure _
  intro s t i row d hs h
  obtain ⟨hrow, hinsert, hd⟩ := persistDisputeTxn_ok h
  rw [hd]
  exact hallow s t _ _ hs ⟨.disputed _ _ _ _ _ row _ hrow hinsert, fun _ _ => by simp⟩

end Decisions

section All

variable (hallow : Allows G Effect)
  (hsteady : ∀ invoiceId riskScoreId, G.Steady fun s => ScoreOf s.store invoiceId riskScoreId)

include hallow hsteady

theorem free_priceInvoice (invoiceId : ℕ) : Free G (priceInvoice cfg invoiceId) := by
  intro t
  refine .bind (free_fetchAndValidateInvoice hG invoiceId t) fun invoice =>
    .bind (triple_fetchAndValidateRiskScore hG invoiceId t) fun score => ?_
  -- the row of the score is kept up to the transaction
  have hscore := hsteady invoiceId score.id
  refine .bind ((free_fetchActiveFacility hG).carries hscore t) fun facility =>
    .bind ((free_fetchBuyerMargin hG _).carries hscore t) fun margin =>
      .bind ((free_lift _).carries hscore t) fun tenorDays =>
        .bind ((free_lift _).carries hscore t) fun _ => ?_
  refine .bind (triple_transaction hG hscore t ?_) fun _ => ?_
  · intro s i u d hs hrow h
    rw [persistPricingTxn_ok h]
    exact hallow s t _ _ hs (.priced _ _ _ _ hrow)
  · exact .bind (free_log hG _ t) fun _ =>
      .bind (free_enqueueOrWarn hG _ _ _ t) fun _ => free_pure _ t

/-- Every operation of the service follows a protocol that allows its effects. -/
theorem free_program (op : Op) : Free G (program cfg op) := by
  have hdecisions : Allows G DecisionEffect := hallow.mono fun _ _ _ h => h.1
  cases op with
  | priceInvoice => exact free_discard (free_priceInvoice hG hallow hsteady _)
  | acceptPricing => exact free_acceptPricing hG hdecisions _ _ _
  | rejectPricing => exact free_rejectPricing hG hdecisions _ _ _ _
  | disputePricing => exact free_discard (free_disputePricing hG hdecisions _ _ _ _)

end All

end Calls

/-! ## The protocol of the service -/

/-- Effects depend on the store alone; a call may return at any time. -/
def protocol : Protocol World Event where
  inv _ := True
  effect s _ e d :=
    match e with
    | some event => Effect s.store event d
    | none => d = s.store
  inv_effect _ _ := trivial
  return_stable _ _ _ _ := rfl

theorem permissive : Permissive protocol where
  read _ _ := .read
  threw _ _ := .threw
  logged _ _ action := .logged action
  enqueued _ _ job := .enqueued job
  leftJobs _ _ jobs := .leftJobs jobs

theorem steady_scoreOf (invoiceId riskScoreId : ℕ) :
    protocol.Steady fun s => ScoreOf s.store invoiceId riskScoreId := by
  intro s t e d _ h heff
  cases e with
  | none =>
    obtain rfl : d = s.store := heff
    exact h
  | some event => exact Effect.scoreOf heff h

/-- Every operation follows the protocol. -/
theorem program_implements (cfg : Config) : protocol.Implements (program cfg) := fun op t =>
  (free_program permissive (fun _ _ _ _ _ h => h) steady_scoreOf op t).conseq (fun _ _ _ => trivial)
    (fun _ _ _ _ => rfl) fun _ _ _ _ => rfl

end Ris.Pricing
