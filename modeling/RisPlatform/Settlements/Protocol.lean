import RisPlatform.Settlements.Service
import RisPlatform.Triples

/-!
# The settlements service

What the events of the service do to the store: a lookup returns a settlement, and an initiation inserts
one or returns the one that has its key. The later steps leave no event, as their transactions are refused.
Every operation follows a protocol that allows these effects (`free_program`).
-/

namespace Ris.Settlements

open Relational Concurrent

/-! ## Effects -/

/-- The audit row of an initiation. -/
structure Initiation (invoiceId settlementId : ℕ) (entry : AuditLog) : Prop where
  action : entry.action = "SETTLEMENT_INITIATED"
  recordId : entry.recordId = .id settlementId
  newValues : entry.newValues =
    [("invoiceId", .id invoiceId), ("status", .text SettlementStatus.pending.text)]

/-- What an event does to the store. -/
inductive Effect (w : World) : Event → World → Prop
  | read : Effect w .read w
  | replayed (invoiceId : ℕ) (r : Settlement) (hr : r ∈ w.settlements.rows)
      (hkey : r.idempotencyKey.invoiceId = invoiceId) :
      Effect w (.settlementReplayed invoiceId r.id) w
  | initiated (row : Settlement) (settlements : Table Settlement.id) (entry : AuditLog)
      (hkey : row.idempotencyKey.invoiceId = row.invoiceId) (hstatus : row.status = .pending)
      (hfirst : ∀ r ∈ w.settlements.rows, r.invoiceId ≠ row.invoiceId)
      (hinsert : w.settlements.insert? row = some settlements)
      (hentry : Initiation row.invoiceId row.id entry) :
      Effect w (.settlementInitiated row.invoiceId row.id row.id)
        { w with
          settlements := settlements
          auditLogs := w.auditLogs ++ [entry] }
  | conflicted (invoiceId settlementId : ℕ) (r : Settlement) (entry : AuditLog)
      (hr : r ∈ w.settlements.rows) (hkey : r.idempotencyKey.invoiceId = invoiceId)
      (hentry : Initiation invoiceId settlementId entry) :
      Effect w (.settlementInitiated invoiceId settlementId r.id)
        { w with auditLogs := w.auditLogs ++ [entry] }

/-- What a statement of the service does: an effect, or one that leaves everything but the jobs. -/
def Does (w : World) (e : Event) (w' : World) : Prop :=
  Effect w e w' ∨ e.service? = none ∧ w' = { w with jobs := w'.jobs }

/-- The settlement that an event takes a step with, and its new status. -/
def step? : Event → Option (ℕ × SettlementStatus)
  | .facilityRepaid settlementId => some (settlementId, .facilityRepaid)
  | .profitBooked settlementId => some (settlementId, .profitBooked)
  | .settlementClosed settlementId => some (settlementId, .closed)
  | _ => none

section Effect

variable {w w' : World} {e : Event}

/-- No event takes a step. -/
theorem Does.step?_eq_none (h : Does w e w') : step? e = none := by
  rcases h with h | ⟨hnone, -⟩
  · cases h <;> rfl
  · cases e <;> first | rfl | cases hnone

/-- The settlements stay as they are, and one may be added that is pending. -/
theorem Does.settlements (h : Does w e w') : w'.settlements = w.settlements ∨
    ∃ row : Settlement, row.status = .pending ∧ w.settlements.insert? row = some w'.settlements := by
  rcases h with h | ⟨-, hframe⟩
  · cases h with
    | initiated row settlements entry hkey hstatus hfirst hinsert hentry =>
      exact Or.inr ⟨row, hstatus, hinsert⟩
    | _ => exact Or.inl rfl
  · exact Or.inl (by rw [hframe])

/-- A settlement that is there stays as it is. -/
theorem Does.get? (h : Does w e w') {id : ℕ} {r : Settlement} (hr : w.settlements.get? id = some r) :
    w'.settlements.get? id = some r := by
  rcases h.settlements with hsame | ⟨row, -, hinsert⟩
  · rwa [hsame]
  · exact Table.get?_insert?_of_get? hinsert hr

theorem Does.profitBookings (h : Does w e w') : w'.profitBookings = w.profitBookings := by
  rcases h with h | ⟨-, hframe⟩
  · cases h <;> rfl
  · rw [hframe]

/-- No event touches the drawdowns or their repayments. -/
theorem Effect.ledger (h : Effect w e w') : w'.facilityDrawdowns = w.facilityDrawdowns ∧
    w'.facilityRepayments = w.facilityRepayments := by
  cases h <;> exact ⟨rfl, rfl⟩

end Effect

/-! ## The transactions -/

section Transactions

variable {cfg : Config} {i : Input} {w w' : World}

theorem createAuditEntryWithClient_ok {user : Actor} {action : String} {settlementId : ℕ}
    {oldValues newValues : List (String × Json)} {req : Request} {u : Unit}
    (h : createAuditEntryWithClient cfg user action settlementId oldValues newValues req i w =
      .ok (u, w')) :
    ∃ entry : AuditLog, entry.action = action ∧ entry.recordId = .id settlementId ∧
      entry.newValues = newValues ∧ w' = { w with auditLogs := w.auditLogs ++ [entry] } := by
  unfold createAuditEntryWithClient at h
  split at h
  · cases h
  · simp only [Txn.bind_ok, Txn.liftM_ok, createAuditEntry_ok] at h
    obtain ⟨userId, _, ⟨-, rfl⟩, rfl⟩ := h
    exact ⟨_, rfl, rfl, rfl, rfl⟩

theorem mem_of_key {idempotencyKey : SettlementKey} {r : Settlement}
    (h : getSettlementByIdempotencyKey idempotencyKey w = some r) :
    r ∈ w.settlements.rows ∧ r.idempotencyKey = idempotencyKey :=
  ⟨List.mem_of_find?_eq_some h, by simpa using List.find?_some h⟩

/-- Either the row of the key is returned, or the new row is the first of its invoice. -/
theorem createSettlementWithClient_ok {row r : Settlement}
    (h : createSettlementWithClient row i w = .ok (r, w')) :
    (r ∈ w.settlements.rows ∧ r.idempotencyKey = row.idempotencyKey ∧ w' = w) ∨
      ∃ settlements, r = row ∧ (∀ r ∈ w.settlements.rows, r.invoiceId ≠ row.invoiceId) ∧
        w.settlements.insert? row = some settlements ∧ w' = { w with settlements := settlements } := by
  simp only [createSettlementWithClient, Txn.bind_ok, Txn.read_ok, id] at h
  obtain ⟨_, _, ⟨rfl, rfl⟩, h⟩ := h
  cases hcheck : settlementCheck row with
  | some message => simp [hcheck] at h
  | none =>
    cases hfound : getSettlementByIdempotencyKey row.idempotencyKey w with
    | some existing =>
      simp only [hcheck, hfound, Txn.pure_ok] at h
      obtain ⟨rfl, rfl⟩ := h
      obtain ⟨hmem, hkey⟩ := mem_of_key hfound
      exact Or.inl ⟨hmem, hkey, rfl⟩
    | none =>
      cases hviolation : settlementViolation w row with
      | some message => simp [hcheck, hfound, hviolation] at h
      | none =>
        cases hinsert : w.settlements.insert? row with
        | none => simp [hcheck, hfound, hviolation, hinsert] at h
        | some settlements =>
          simp only [hcheck, hfound, hviolation, hinsert, Txn.bind_ok, Txn.write_ok, Txn.pure_ok] at h
          obtain ⟨_, _, rfl, rfl, rfl⟩ := h
          refine Or.inr ⟨settlements, rfl, ?_, rfl, rfl⟩
          intro r hr hinvoice
          have hsome : (getSettlementByInvoiceId row.invoiceId w).isSome = true :=
            List.find?_isSome.2 ⟨r, hr, by simpa using hinvoice⟩
          simp [settlementViolation, hsome] at hviolation

theorem executeInitiateTxn_ok {p : InitiateParams}
    {drawdown : Option FacilityDrawdown} {result : ℕ × Settlement}
    (hkey : p.idempotencyKey.invoiceId = p.invoiceId)
    (h : executeInitiateTxn cfg p drawdown i w = .ok (result, w')) :
    Effect w (.settlementInitiated p.invoiceId result.1 result.2.id) w' := by
  simp only [executeInitiateTxn, Txn.bind_ok, Txn.input_ok, Txn.pure_ok] at h
  obtain ⟨_, _, ⟨rfl, rfl⟩, r, w₁, hcreate, _, w₂, haudit, rfl, rfl⟩ := h
  obtain ⟨entry, haction, hrecord, hvalues, rfl⟩ := createAuditEntryWithClient_ok haudit
  rcases createSettlementWithClient_ok hcreate with ⟨hr, hrkey, rfl⟩ | ⟨settlements, rfl, hfirst, hinsert, rfl⟩
  · refine .conflicted _ _ _ _ hr ?_ ⟨haction, hrecord, hvalues⟩
    rw [hrkey]
    exact hkey
  · exact .initiated (p.row drawdown i.uuid) _ _ hkey rfl hfirst hinsert ⟨haction, hrecord, hvalues⟩

end Transactions

/-! ## The operations -/

section Calls

variable {G : Protocol World Event} (hG : Permissive G) {cfg : Config} (hallow : Allows G Effect)

include hG

theorem free_getSettlementOrThrow (id : ℕ) : Free G (getSettlementOrThrow id) :=
  free_bind (free_query hG.toQuiet _) fun _ => free_lift _

theorem free_repayFacility (settlementId : ℕ) (facilityRepaymentAmount accruedInterest : ℤ) (userId : ℕ)
    (req : Request) :
    Free G (repayFacility cfg settlementId facilityRepaymentAmount accruedInterest userId req) := by
  refine free_bind (free_getSettlementOrThrow hG settlementId) fun settlement =>
    free_bind (free_lift _) fun _ => ?_
  refine free_bind (free_transaction_refused hG.toQuiet (executeRepayFacilityTxn_refused _ _ _ _ _ _ _))
    fun updated => ?_
  exact free_bind (free_log hG.toQuiet _) fun _ => free_pure _

theorem free_bookProfit (settlementId : ℕ) (discountEarned bankCostPaid : ℤ) (userId : ℕ)
    (req : Request) : Free G (bookProfit cfg settlementId discountEarned bankCostPaid userId req) := by
  refine free_bind (free_getSettlementOrThrow hG settlementId) fun settlement =>
    free_bind (free_lift _) fun _ => ?_
  refine free_bind (free_transaction_refused hG.toQuiet (executeBookProfitTxn_refused _ _ _ _ _))
    fun updated => ?_
  exact free_bind (free_log hG.toQuiet _) fun _ => free_pure _

theorem free_closeSettlement (settlementId userId : ℕ) (req : Request) :
    Free G (closeSettlement cfg settlementId userId req) := by
  refine free_bind (free_getSettlementOrThrow hG settlementId) fun settlement =>
    free_bind (free_lift _) fun _ => ?_
  refine free_bind (free_transaction_refused hG.toQuiet (executeCloseTxn_refused _ _ _ _ _))
    fun updated => ?_
  exact free_bind (free_log hG.toQuiet _) fun _ => free_bind (free_lift _) fun _ =>
    free_bind (free_enqueueOrWarn hG _ _ _) fun _ => free_pure _

include hallow

theorem free_initiateSettlement {p : InitiateParams} (hkey : p.idempotencyKey.invoiceId = p.invoiceId) :
    Free G (initiateSettlement cfg p) := by
  have hquiet := hG.toQuiet
  refine free_bind (free_statement hquiet fun s t i replay d hs h => ?_) fun replay => ?_
  · simp only [Txn.bind_ok, connect_ok, Txn.read_ok] at h
    obtain ⟨_, _, ⟨-, rfl⟩, hfound, rfl⟩ := h
    cases replay with
    | none => exact hallow s t _ _ hs .read
    | some r =>
      obtain ⟨hr, hrkey⟩ := mem_of_key hfound
      exact hallow s t _ _ hs (.replayed _ r hr (by rw [hrkey]; exact hkey))
  · cases replay with
    | some replay => exact free_bind (free_log hquiet _) fun _ => free_pure _
    | none =>
      refine free_bind (free_query hquiet _) fun existing => ?_
      cases existing with
      | some existing => exact free_throw _
      | none =>
        refine free_bind (free_query hquiet _) fun drawdown =>
          free_bind (free_transaction hquiet fun s t i result d hs h =>
            hallow s t _ _ hs (executeInitiateTxn_ok hkey h)) ?_
        rintro ⟨_, settlement⟩
        exact free_bind (free_log hquiet _) fun _ => free_pure _

/-- Every operation of the service follows a protocol that allows its effects. -/
theorem free_program (op : Op) : Free G (program cfg op) := by
  cases op with
  | handleSettlementJob => exact free_discard (free_initiateSettlement hG hallow rfl)
  | initiateHandler => exact free_discard (free_initiateSettlement hG hallow rfl)
  | repayFacility => exact free_discard (free_repayFacility hG _ _ _ _ _)
  | bookProfit => exact free_discard (free_bookProfit hG _ _ _ _ _)
  | closeSettlement => exact free_discard (free_closeSettlement hG _ _ _)

end Calls

/-! ## The protocol -/

/-- Effects depend on the store alone; a call may return at any time. -/
def protocol : Protocol World Event where
  inv _ := True
  effect s _ e w :=
    match e with
    | some event => Does s.store event w
    | none => w = s.store
  inv_effect _ _ := trivial
  return_stable _ _ _ _ := rfl

theorem permissive : Permissive protocol where
  read _ _ := Or.inr ⟨rfl, rfl⟩
  threw _ _ := Or.inr ⟨rfl, rfl⟩
  logged _ _ _ := Or.inr ⟨rfl, rfl⟩
  enqueued _ _ _ := Or.inr ⟨rfl, rfl⟩
  leftJobs _ _ _ := Or.inr ⟨rfl, rfl⟩

/-- Every operation follows the protocol. -/
theorem program_implements (cfg : Config) : protocol.Implements (program cfg) := fun op t =>
  (free_program permissive (fun _ _ _ _ _ h => Or.inl h) op t).conseq (fun _ _ _ => trivial)
    (fun _ _ _ _ => rfl) fun _ _ _ _ => rfl

end Ris.Settlements
