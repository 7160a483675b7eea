import RisPlatform.Approvals.Queue
import RisPlatform.Approvals.Transactions
import RisPlatform.Triples

/-!
# Decisions on an invoice

The approvals service as a system of calls. `Effect` is what each event does to the store. No event
changes what the tier of an invoice is computed from, so its tier is the one it has at the start.

A `Docket` is what the store says about the decisions on one invoice, and `DocketStep` the machine that
it runs through: `Effect.docketStep` is the refinement. The laws of the tiers are proved about that
machine.
-/

namespace Ris.Approvals

open Relational Concurrent

/-! ## The system -/

/-- The operations of the approvals service on an invoice. -/
inductive Op
  | approveInvoice (invoiceId : ℕ) (approver : Approver) (req : Request)
  | rejectInvoice (invoiceId : ℕ) (approver : Approver) (req : Request)
  | resetTier3RejectionCount (invoiceId : ℕ) (userId : Actor) (req : Request)
  | getCommitteeStatus (invoiceId : ℕ)
  | getApprovalQueue (officerId : Actor)

/-- The body of each operation. -/
def program (cfg : Config) : Op → Call Unit
  | .approveInvoice invoiceId approver req => (approveInvoice cfg invoiceId approver req).discard
  | .rejectInvoice invoiceId approver req => (rejectInvoice cfg invoiceId approver req).discard
  | .resetTier3RejectionCount invoiceId userId req => resetTier3RejectionCount invoiceId userId req
  | .getCommitteeStatus invoiceId => (getCommitteeStatus invoiceId).discard
  | .getApprovalQueue officerId => (getApprovalQueue officerId).discard

/-! ## The tier -/

/-- The tier of an invoice that has a score. -/
def tierOf (w : World) (invoiceId : ℕ) : Option ApprovalTier := do
  let invoice ← getInvoiceForApproval invoiceId w
  let riskScore ← getRiskScoreForApproval invoiceId w
  return determineTier invoice riskScore

/-- What the tier is computed from, besides the score. -/
def routing (r : Invoice) : ℤ × Bool := (r.faceValue, r.amlFlagged)

theorem determineTier_congr {r r' : Invoice} (h : routing r = routing r') (riskScore : RiskScore) :
    determineTier r riskScore = determineTier r' riskScore := by
  obtain ⟨hface, hflag⟩ := Prod.mk.inj h
  unfold determineTier
  rw [hface, hflag]

/-- What the tiers are computed from is as in `w₀`. -/
structure Inv (w₀ w : World) : Prop where
  routing : ∀ invoiceId, (w.invoices.get? invoiceId).map routing =
    (w₀.invoices.get? invoiceId).map routing
  riskScores : w.riskScores = w₀.riskScores

theorem Inv.init (w₀ : World) : Inv w₀ w₀ := ⟨fun _ => rfl, rfl⟩

/-- The tier that a call computes from what it has read is the tier at the start. -/
theorem Inv.tierOf_eq {w₀ w : World} (h : Inv w₀ w) {invoiceId : ℕ} {invoice : Invoice}
    (hinvoice : w.invoices.get? invoiceId = some invoice) {riskScore : RiskScore}
    (hscore : getRiskScoreForApproval invoiceId w₀ = some riskScore) :
    tierOf w₀ invoiceId = some (determineTier invoice riskScore) := by
  have hrouting := h.routing invoiceId
  rw [hinvoice, Option.map_some, eq_comm, Option.map_eq_some_iff] at hrouting
  obtain ⟨invoice₀, hinvoice₀, hsame⟩ := hrouting
  have hfound : getInvoiceForApproval invoiceId w₀ = some invoice₀ := hinvoice₀
  simp only [tierOf, hfound, hscore, Option.bind_eq_bind, Option.bind_some]
  exact congrArg some (determineTier_congr hsame riskScore)

/-! ## Effects -/

/-- What a reset of the rejection count writes. -/
structure Resets (invoiceId : ℕ) (w w' : World) : Prop where
  invoices : w'.invoices =
    w.invoices.update (fun r => r.id = invoiceId) resetRejections id_resetRejections
  frame : w' = { w with invoices := w'.invoices, auditLogs := w'.auditLogs }
  audit : ∃ entry : AuditLog, w'.auditLogs = w.auditLogs ++ [entry] ∧ entry.action ≠ "INVOICE_APPROVED"

/-- The commit of `resetTier3RejectionCount`. -/
theorem persistRejectionCountResetTxn_ok {i : Input} {w w' : World} {invoice : Invoice}
    {userId : Actor} {req : Request} {u : Unit}
    (h : persistRejectionCountResetTxn invoice userId req i w = .ok (u, w')) :
    Resets invoice.id w w' := by
  simp only [persistRejectionCountResetTxn, resetTier3RejectionCountWithClient, Txn.bind_ok,
    Txn.write_ok, Txn.liftM_ok, createAuditEntry_ok] at h
  obtain ⟨_, w₁, rfl, user, _, ⟨-, rfl⟩, rfl⟩ := h
  exact ⟨rfl, rfl, _, rfl, by simp⟩

/-- What an event does to the store, in a run from `w₀`. -/
inductive Effect (cfg : Config) (w₀ w : World) : Event → World → Prop
  | read : Effect cfg w₀ w .read w
  | threw : Effect cfg w₀ w .threw w
  | logged (action : String) : Effect cfg w₀ w (.logged action) w
  | leftJobs (jobs : List Job) : Effect cfg w₀ w .leftJobs { w with jobs := jobs }
  | approval (invoiceId : ℕ) (userId : Actor) (role : String) (quorumReached : Bool)
      (tier : ApprovalTier) (now : ℤ) (w' : World) (htier : tierOf w₀ invoiceId = some tier)
      (h : ApprovalWrites cfg tier invoiceId userId role quorumReached now w w') :
      Effect cfg w₀ w (if quorumReached then .invoiceApproved invoiceId userId role
        else .approvalRecorded invoiceId userId role) w'
  | rejection (invoiceId : ℕ) (userId : Actor) (rejects : Bool) (tier : ApprovalTier) (now : ℤ)
      (w' : World) (htier : tierOf w₀ invoiceId = some tier)
      (h : RejectionWrites cfg tier invoiceId userId rejects now w w') :
      Effect cfg w₀ w (if rejects then .invoiceRejected invoiceId userId
        else .rejectionRecorded invoiceId userId) w'
  | reset (invoiceId : ℕ) (w' : World) (h : Resets invoiceId w w') :
      Effect cfg w₀ w (.rejectionCountReset invoiceId) w'

section Invoices

variable {invoiceId : ℕ} {T : Table Invoice.id}

theorem get?_moveFromPriced (newStatus : InvoiceStatus) (now : ℤ) (j : ℕ) :
    (moveFromPriced invoiceId newStatus now T).get? j = (T.get? j).map fun r =>
      if r.id = invoiceId ∧ r.status = .priced then Payments.setInvoiceStatus newStatus now r
      else r := by
  simp [moveFromPriced, Table.get?_update]

theorem get?_countIfTier3 (tier : ApprovalTier) (j : ℕ) :
    (countIfTier3 tier invoiceId T).get? j = (T.get? j).map fun r =>
      if r.id = invoiceId ∧ tier = .tier3 then countRejection r else r := by
  by_cases hthree : tier = .tier3
  · simp [countIfTier3, hthree, Table.get?_update]
  · simp [countIfTier3, hthree]

/-- Neither of them touches what the tier is computed from. -/
theorem routing_moveFromPriced (newStatus : InvoiceStatus) (now : ℤ) (j : ℕ) :
    ((moveFromPriced invoiceId newStatus now T).get? j).map routing = (T.get? j).map routing := by
  rw [get?_moveFromPriced, Option.map_map]
  congr 1
  funext r
  simp only [Function.comp]
  split <;> rfl

theorem routing_countIfTier3 (tier : ApprovalTier) (j : ℕ) :
    ((countIfTier3 tier invoiceId T).get? j).map routing = (T.get? j).map routing := by
  rw [get?_countIfTier3, Option.map_map]
  congr 1
  funext r
  simp only [Function.comp]
  split <;> rfl

end Invoices

/-- The step lemma of the tier. -/
theorem Inv.effect {cfg : Config} {w₀ w w' : World} {e : Event} (h : Inv w₀ w)
    (heff : Effect cfg w₀ w e w') : Inv w₀ w' := by
  have hkeep : (∀ j, (w'.invoices.get? j).map Approvals.routing =
      (w.invoices.get? j).map Approvals.routing) → w'.riskScores = w.riskScores → Inv w₀ w' :=
    fun hinvoices hscores => ⟨fun j => (hinvoices j).trans (h.routing j), hscores.trans h.riskScores⟩
  cases heff with
  | read | threw | logged action => exact h
  | leftJobs jobs => exact ⟨h.routing, h.riskScores⟩
  | approval i u role quorumReached tier now w' htier hwrites =>
    refine hkeep (fun j => ?_) hwrites.riskScores
    rw [hwrites.invoices]
    split
    · exact routing_moveFromPriced _ _ j
    · rfl
  | rejection i u rejects tier now w' htier hwrites =>
    refine hkeep (fun j => ?_) hwrites.riskScores
    rw [hwrites.invoices]
    split
    · exact (routing_moveFromPriced _ _ j).trans (routing_countIfTier3 tier j)
    · exact routing_countIfTier3 tier j
  | reset i w' hresets =>
    refine hkeep (fun j => ?_) (by rw [hresets.frame])
    rw [hresets.invoices, Table.get?_update, Option.map_map]
    congr 1
    funext r
    simp only [Function.comp]
    split <;> rfl

/-- Effects depend on the store alone; a call may return at any time. -/
def protocol (cfg : Config) (w₀ : World) : Protocol World Event where
  inv s := Inv w₀ s.store
  effect s _ e d :=
    match e with
    | some event => Effect cfg w₀ s.store event d
    | none => d = s.store
  inv_effect := by
    intro s t e d hs heff
    cases e with
    | none =>
      obtain rfl : d = s.store := heff
      exact hs
    | some event => exact Inv.effect hs heff
  return_stable _ _ _ _ := rfl

theorem quiet (cfg : Config) (w₀ : World) : Quiet (protocol cfg w₀) where
  read _ _ := .read
  threw _ _ := .threw
  logged _ _ action := .logged action

/-! ## The calls follow the protocol -/

section Calls

variable {cfg : Config} {w₀ : World}

/-- What a decision knows of the invoice it is about. -/
theorem yields_fetchAndValidate (invoiceId : ℕ) :
    Yields (protocol cfg w₀) (fetchAndValidate invoiceId)
      fun x => x.1.id = invoiceId ∧ tierOf w₀ invoiceId = some (determineTier x.1 x.2) := by
  have hG := quiet cfg w₀
  -- the invoice and the score are read in different stores; both have the routing of `w₀`
  refine Yields.bind (R := fun found => ∀ invoice ∈ found, invoice.id = invoiceId ∧
    ∀ riskScore, getRiskScoreForApproval invoiceId w₀ = some riskScore →
      tierOf w₀ invoiceId = some (determineTier invoice riskScore)) (yields_query hG ?_)
    fun found hfound => ?_
  · intro s hs invoice hinvoice
    exact ⟨Table.key_of_get? hinvoice, fun riskScore hscore => Inv.tierOf_eq hs hinvoice hscore⟩
  refine Yields.bind (R := fun invoice => found = some invoice) (yields_lift ?_)
    fun invoice hinvoice => ?_
  · intro invoice hvalid
    unfold validateInvoice at hvalid
    cases found with
    | none => cases hvalid
    | some r =>
      dsimp only at hvalid
      split at hvalid
      · cases hvalid
      · cases hvalid
        rfl
  obtain ⟨hid, htier⟩ := hfound invoice hinvoice
  refine Yields.bind (R := fun score => score = getRiskScoreForApproval invoiceId w₀)
    (yields_query hG ?_) fun score hscore => ?_
  · intro s hs
    unfold getRiskScoreForApproval
    rw [(show Inv w₀ s.store from hs).riskScores]
  refine Yields.bind (R := fun riskScore => score = some riskScore) (yields_lift ?_)
    fun riskScore hriskScore => ?_
  · intro riskScore hvalid
    unfold validateRiskScore at hvalid
    cases score with
    | none => cases hvalid
    | some r =>
      cases hvalid
      rfl
  · exact fun t => .ret fun _ _ _ => ⟨hid, htier riskScore (hscore.symm.trans hriskScore)⟩

theorem free_approveInvoice (invoiceId : ℕ) (approver : Approver) (req : Request) :
    Free (protocol cfg w₀) (approveInvoice cfg invoiceId approver req) := by
  have hG := quiet cfg w₀
  refine Yields.bind (yields_fetchAndValidate invoiceId) ?_
  rintro ⟨invoice, riskScore⟩ ⟨hid, htier⟩
  obtain rfl : invoice.id = invoiceId := hid
  refine free_bind (free_lift _) fun _ => free_bind (free_lift _) fun _ => ?_
  refine free_bind (free_enqueuingTransaction hG (fun _ _ jobs => .leftJobs jobs) ?_) fun _ =>
    free_bind (free_log hG _) fun _ => free_pure _
  intro s t i result d _ h
  exact .approval _ _ _ _ _ i.now d htier (executeApprovalTxn_ok h)

theorem free_rejectInvoice (invoiceId : ℕ) (approver : Approver) (req : Request) :
    Free (protocol cfg w₀) (rejectInvoice cfg invoiceId approver req) := by
  have hG := quiet cfg w₀
  refine Yields.bind (yields_fetchAndValidate invoiceId) ?_
  rintro ⟨invoice, riskScore⟩ ⟨hid, htier⟩
  obtain rfl : invoice.id = invoiceId := hid
  refine free_bind (free_lift _) fun _ => free_bind (free_lift _) fun _ => ?_
  refine free_bind (free_enqueuingTransaction hG (fun _ _ jobs => .leftJobs jobs) ?_) fun _ =>
    free_bind (free_log hG _) fun _ => free_pure _
  intro s t i result d _ h
  exact .rejection _ _ _ _ i.now d htier (executeRejectionTxn_ok h)

theorem free_resetTier3RejectionCount (invoiceId : ℕ) (userId : Actor) (req : Request) :
    Free (protocol cfg w₀) (resetTier3RejectionCount invoiceId userId req) := by
  have hG := quiet cfg w₀
  refine free_bind (free_query hG _) fun _ => free_bind (free_lift _) fun invoice => ?_
  refine free_bind (free_transaction hG ?_) fun _ => free_log hG _
  intro s t i u d _ h
  exact .reset _ _ (persistRejectionCountResetTxn_ok h)

theorem free_getCommitteeStatus (invoiceId : ℕ) :
    Free (protocol cfg w₀) (getCommitteeStatus invoiceId) := by
  have hG := quiet cfg w₀
  exact free_bind (free_query hG _) fun _ => free_bind (free_lift _) fun _ =>
    free_bind (free_query hG _) fun _ => free_bind (free_lift _) fun _ =>
      free_bind (free_query hG _) fun _ => free_pure _

theorem free_program (op : Op) : Free (protocol cfg w₀) (program cfg op) := by
  cases op with
  | approveInvoice => exact free_discard (free_approveInvoice _ _ _)
  | rejectInvoice => exact free_discard (free_rejectInvoice _ _ _)
  | resetTier3RejectionCount => exact free_resetTier3RejectionCount _ _ _
  | getCommitteeStatus => exact free_discard (free_getCommitteeStatus _)
  | getApprovalQueue => exact free_discard (free_query (quiet cfg w₀) _)

/-- Every operation follows the protocol. -/
theorem program_implements (cfg : Config) (w₀ : World) :
    (protocol cfg w₀).Implements (program cfg) := fun op t =>
  (free_program op t).conseq (fun _ _ _ => trivial) (fun _ _ _ _ => rfl) fun _ _ _ _ => rfl

end Calls

end Ris.Approvals
