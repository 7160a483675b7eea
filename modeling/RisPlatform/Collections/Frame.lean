import RisPlatform.Collections.Conformance

/-!
# The collections service among others

What the collections service may do to the store, whatever its calls have done before: `Touches`. Beside its
own tables it moves an invoice to the status that the event says, and nothing else; only the payment of a
buyer writes to `buyers`, and what it writes depends on the invoice that was read before (`PaymentWrites`).
A protocol for a larger system that allows both is followed by every operation of the service
(`free_program_of_touches`).
-/

namespace Ris.Collections

open Relational Concurrent

/-! ## Writes -/

/-- What an event other than a payment may do to an invoice row. -/
inductive InvoiceStep (e : Event) (r : Invoice) : Invoice → Prop
  | same : InvoiceStep e r r
  | moved (new : InvoiceStatus) (now : ℤ) (hnew : nextInvoiceStatus e r.id r.status = new) :
      InvoiceStep e r (Payments.setInvoiceStatus new now r)

/-- A collection that is marked as defaulted was so before. -/
def Unmarking (T T' : Table Collection.id) : Prop :=
  ∀ c' ∈ T'.rows, c'.status = .defaulted → ∃ c ∈ T.rows, c.id = c'.id ∧ c.status = .defaulted

/-- The service has written to its own tables and the audit log, and has marked no collection as
defaulted. -/
structure Beside (w w' : World) : Prop where
  frame : w' =
    { w with
      collections := w'.collections
      collectionPayments := w'.collectionPayments
      auditLogs := w'.auditLogs }
  unmarked : Unmarking w.collections w'.collections

/-- What an event other than a payment may do. -/
structure Touches (w : World) (e : Event) (w' : World) : Prop where
  invoices : w.invoices.Rowwise (InvoiceStep e) w'.invoices
  service : e.Of .collections
  unpaid : ∀ invoiceId collectionId amount, e ≠ .paymentReceived invoiceId collectionId amount
  frame : w' =
    { w with
      invoices := w'.invoices
      collections := w'.collections
      collectionPayments := w'.collectionPayments
      auditLogs := w'.auditLogs }
  unmarked : Unmarking w.collections w'.collections

theorem of_collections {e : Event} (h : e.service? = some .collections) : e.Of .collections := by
  rintro s hs
  rw [h] at hs
  exact (Option.some.inj hs).symm

variable {cfg : Config} {i : Input} {w w' w'' : World} {e : Event}

theorem Unmarking.refl (T : Table Collection.id) : Unmarking T T := fun c hc hstatus => ⟨c, hc, rfl, hstatus⟩

theorem Unmarking.trans {T T' T'' : Table Collection.id} (h : Unmarking T T') (h' : Unmarking T' T'') :
    Unmarking T T'' := by
  intro c'' hc'' hstatus''
  obtain ⟨c', hc', hid', hstatus'⟩ := h' c'' hc'' hstatus''
  obtain ⟨c, hc, hid, hstatus⟩ := h c' hc' hstatus'
  exact ⟨c, hc, hid.trans hid', hstatus⟩

/-- An assignment that does not mark. -/
theorem Unmarking.update {T : Table Collection.id} {P : Collection → Bool} {f : Collection → Collection}
    (hf : ∀ c, (f c).id = c.id) (hmarks : ∀ c, (f c).status = .defaulted → c.status = .defaulted) :
    Unmarking T (T.update P f hf) := by
  intro c' hc' hstatus
  obtain ⟨c, hc, rfl⟩ := Table.mem_update.1 hc'
  split at hstatus
  · exact ⟨c, hc, by simp [*], hmarks c hstatus⟩
  · exact ⟨c, hc, by simp [*], hstatus⟩

theorem Unmarking.insert {T T' : Table Collection.id} {c : Collection} (h : T.insert? c = some T')
    (hmarks : c.status ≠ .defaulted) : Unmarking T T' := by
  intro c' hc' hstatus
  rcases (Table.mem_insert? h).1 hc' with hold | rfl
  · exact ⟨c', hold, rfl, hstatus⟩
  · exact absurd hstatus hmarks

theorem Beside.refl (w : World) : Beside w w := ⟨rfl, .refl _⟩

theorem Beside.trans (h : Beside w w') (h' : Beside w' w'') : Beside w w'' where
  frame := by rw [h'.frame, h.frame]
  unmarked := h.unmarked.trans h'.unmarked

/-- Statements that leave the collections. -/
theorem Beside.of_unchanged
    (h : w' = { w with collectionPayments := w'.collectionPayments, auditLogs := w'.auditLogs }) :
    Beside w w' := by
  have hcollections : w'.collections = w.collections := by rw [h]
  refine ⟨?_, ?_⟩
  · rw [hcollections]
    exact h
  · rw [hcollections]
    exact .refl _

/-- Nothing but the own tables. -/
theorem Beside.touches (h : Beside w w') (hservice : e.Of .collections)
    (hunpaid : ∀ invoiceId collectionId amount, e ≠ .paymentReceived invoiceId collectionId amount) :
    Touches w e w' where
  invoices := by
    rw [h.frame]
    exact .refl (fun _ => .same) _
  service := hservice
  unpaid := hunpaid
  frame := by
    have hinvoices : w'.invoices = w.invoices := by rw [h.frame]
    rw [hinvoices]
    exact h.frame
  unmarked := h.unmarked

/-- Own tables, then an invoice, then own tables. -/
theorem touches_of_move {w₁ w₂ : World} (h : Beside w w₁)
    (hmove : w₂ = { w₁ with invoices := w₂.invoices })
    (hrows : w₁.invoices.Rowwise (InvoiceStep e) w₂.invoices) (h' : Beside w₂ w')
    (hservice : e.Of .collections)
    (hunpaid : ∀ invoiceId collectionId amount, e ≠ .paymentReceived invoiceId collectionId amount) :
    Touches w e w' where
  invoices := by
    have hbefore : w₁.invoices = w.invoices := by rw [h.frame]
    have hafter : w'.invoices = w₂.invoices := by rw [h'.frame]
    rw [hafter, ← hbefore]
    exact hrows
  service := hservice
  unpaid := hunpaid
  frame := by rw [h'.frame, hmove, h.frame]
  unmarked := by
    have hcollections : w₂.collections = w₁.collections := by rw [hmove]
    have hlast := h'.unmarked
    rw [hcollections] at hlast
    exact h.unmarked.trans hlast

/-! ## Statements -/

theorem beside_updateCollection {collectionId : ℕ} {f : Collection → Collection}
    {hf : ∀ c, (f c).id = c.id} {u : Unit}
    (h : Repo.updateCollection collectionId f hf i w = .ok (u, w'))
    (hmarks : ∀ c, (f c).status = .defaulted → c.status = .defaulted) : Beside w w' := by
  simp only [Repo.updateCollection, Txn.write_ok] at h
  subst h
  exact ⟨rfl, .update hf hmarks⟩

/-- An update whose assignment asks for the time. -/
theorem beside_updateCollection_now {collectionId : ℕ} {f : ℤ → Collection → Collection}
    {hf : ∀ t c, (f t c).id = c.id} {u : Unit}
    (h : (do let t ← now; Repo.updateCollection collectionId (f t) (hf t)) i w = .ok (u, w'))
    (hmarks : ∀ t c, (f t c).status = .defaulted → c.status = .defaulted) : Beside w w' := by
  simp only [Txn.bind_ok, now_ok] at h
  obtain ⟨_, _, ⟨rfl, rfl⟩, h⟩ := h
  exact beside_updateCollection h (hmarks _)

theorem beside_insertCollection {data : Repo.CreateCollectionInput} {status : CollectionStatus}
    {u : Unit} (h : Repo.insertCollection data status i w = .ok (u, w')) (hmarks : status ≠ .defaulted) :
    Beside w w' := by
  obtain ⟨hinsert, hw'⟩ := insertCollection_ok h
  refine ⟨?_, .insert hinsert hmarks⟩
  rw [hw']

theorem beside_recordPaymentReceived {collectionId : Option ℕ} {amount : ℤ}
    {paymentMethod : CollectionPaymentMethod} {paidBy : String} {paidAt : ℤ} {recordedBy : ℕ}
    {paymentReference notes : Option String} {u : Unit}
    (h : Repo.recordPaymentReceived collectionId amount paymentMethod paidBy paidAt recordedBy
      paymentReference notes i w = .ok (u, w')) : Beside w w' := by
  obtain ⟨_, _, -, -, -, -, -, hw'⟩ := recordPaymentReceived_ok h
  exact .of_unchanged (by rw [hw'])

theorem beside_createAuditEntry {userId : Option Actor} {action : String} {recordId : ℕ}
    {oldValues newValues : List (String × Json)} {u : Unit}
    (h : createAuditEntry cfg userId action recordId oldValues newValues i w = .ok (u, w')) :
    Beside w w' :=
  .of_unchanged (by rw [createAuditEntry_ok h])

theorem beside_flagIf {flagged : Bool} {collectionId : ℕ} {u : Unit}
    (h : flagIf flagged collectionId i w = .ok (u, w')) : Beside w w' := by
  cases flagged with
  | true => exact beside_updateCollection (i := i) h fun _ hmarked => hmarked
  | false =>
    obtain ⟨-, rfl⟩ := Txn.pure_ok.1 h
    exact .refl w

theorem beside_flagManualEscalation {collectionId invoiceId : ℕ} {newLevel : ℤ} {u : Unit}
    (h : flagManualEscalation cfg collectionId invoiceId newLevel i w = .ok (u, w')) : Beside w w' := by
  unfold flagManualEscalation at h
  split at h
  · simp only [Txn.bind_ok, Txn.read_ok] at h
    obtain ⟨_, _, ⟨rfl, rfl⟩, h⟩ := h
    exact beside_flagIf h
  · obtain ⟨-, rfl⟩ := Txn.pure_ok.1 h
    exact .refl w

theorem beside_markOverdueAtZero {collectionId : ℕ} {newLevel : ℤ} {u : Unit}
    (h : markOverdueAtZero collectionId newLevel i w = .ok (u, w')) : Beside w w' := by
  unfold markOverdueAtZero at h
  split at h
  · exact beside_updateCollection h fun _ hmarked => by cases hmarked
  · obtain ⟨-, rfl⟩ := Txn.pure_ok.1 h
    exact .refl w

theorem beside_saveOverdueRecord {invoice : Invoice} {existing : Option Collection} {collectionId : ℕ}
    {penaltyAmount : ℤ} {u : Unit}
    (h : saveOverdueRecord invoice existing collectionId penaltyAmount i w = .ok (u, w')) :
    Beside w w' := by
  obtain ⟨-, dailyPenaltyRate, hinsert⟩ | ⟨collection, v, -, hfirst, hsecond⟩ :=
    saveOverdueRecord_cases h
  · exact beside_insertCollection hinsert (by decide)
  · exact (beside_updateCollection hfirst fun _ hmarked => by cases hmarked).trans
      (beside_updateCollection_now hsecond fun _ _ hmarked => hmarked)

/-- The update of an invoice's status, under an event that says so. -/
theorem updateInvoiceStatus_rowwise {invoiceId : ℕ} {new expected : InvoiceStatus} {updated : Bool}
    (h : Repo.updateInvoiceStatus invoiceId new expected i w = .ok (updated, w'))
    (hnext : nextInvoiceStatus e invoiceId expected = new) :
    w' = { w with invoices := w'.invoices } ∧ w.invoices.Rowwise (InvoiceStep e) w'.invoices := by
  refine ⟨(updateInvoiceStatus_ok h).1, ?_⟩
  simp only [Repo.updateInvoiceStatus, Payments.updateInvoiceStatusWithClient, Txn.bind_ok, now_ok,
    Txn.read_ok, Txn.write_ok, Txn.pure_ok, id] at h
  obtain ⟨_, _, ⟨_, _, ⟨rfl, rfl⟩, _, _, ⟨rfl, rfl⟩, _, _, rfl, -, rfl⟩, -, rfl⟩ := h
  show w.invoices.Rowwise _ (w.invoices.update (fun r => r.id = invoiceId ∧ r.status = expected)
    (Payments.setInvoiceStatus new i.now) (Payments.id_setInvoiceStatus new i.now))
  refine Table.rowwise_update (fun r _ hmatch => ?_) fun r _ _ => .same
  obtain ⟨hid, hstatus⟩ := of_decide_eq_true hmatch
  exact .moved new i.now (by rw [hid, hstatus, hnext])

/-! ## Transactions -/

theorem executeOverdueTxn_touches {invoice : Invoice} {existing : Option Collection} {penaltyAmount : ℤ}
    {notifyUserId : Actor} {collectionId : ℕ}
    (h : executeOverdueTxn cfg invoice existing penaltyAmount notifyUserId i w
      = .ok (collectionId, w')) : Touches w (.collectionOverdue collectionId invoice.id) w' := by
  obtain ⟨-, _, w₁, w₂, _, _, hsave, hmove, haudit⟩ := executeOverdueTxn_cases h
  obtain ⟨hw₂, hrows⟩ := updateInvoiceStatus_rowwise
    (e := .collectionOverdue collectionId invoice.id) hmove (if_pos ⟨rfl, rfl⟩)
  exact touches_of_move (beside_saveOverdueRecord hsave) hw₂ hrows (beside_createAuditEntry haudit)
    (of_collections rfl) (by simp)

theorem executeCollectionStartedTxn_touches {invoice : Invoice} {dailyRate : ℚ}
    {paymentId collectionId : ℕ}
    (h : executeCollectionStartedTxn cfg invoice dailyRate paymentId i w = .ok (collectionId, w')) :
    Touches w (.collectionStarted collectionId invoice.id) w' := by
  simp only [executeCollectionStartedTxn, Repo.createPendingCollectionRecord, Txn.bind_ok,
    Txn.input_ok, Txn.pure_ok] at h
  obtain ⟨_, _, ⟨rfl, rfl⟩, _, w₁, hinsert, _, w₂, hmove, _, w₃, haudit, rfl, rfl⟩ := h
  obtain ⟨hw₂, hrows⟩ := updateInvoiceStatus_rowwise (e := .collectionStarted i.uuid invoice.id) hmove
    (if_pos ⟨rfl, rfl⟩)
  exact touches_of_move (beside_insertCollection hinsert (by decide)) hw₂ hrows (beside_createAuditEntry haudit)
    (of_collections rfl) (by simp)

theorem executeEscalationTxn_touches {collection : Collection} {invoice : Invoice}
    {newLevel daysOverdue penalty : ℤ} {u : Unit}
    (h : executeEscalationTxn cfg collection invoice newLevel daysOverdue penalty i w = .ok (u, w')) :
    Touches w (.collectionEscalated collection.id newLevel) w' := by
  simp only [executeEscalationTxn, Repo.updateCollectionStatus, Txn.bind_ok] at h
  obtain ⟨_, w₁, hstatus, _, w₂, hescalation, _, w₃, hflag, haudit⟩ := h
  have hbeside := (beside_updateCollection hstatus fun _ hmarked => by cases hmarked).trans
    (beside_updateCollection_now hescalation fun _ _ hmarked => hmarked)
  exact ((hbeside.trans (beside_flagIf hflag)).trans (beside_createAuditEntry haudit)).touches
    (of_collections rfl) (by simp)

theorem executeCollectionPaymentTxn_touches {collectionId : ℕ} {input : FrontendRecordPaymentInput}
    {userId : ℕ} {prevStatus : CollectionStatus} {u : Unit}
    (h : executeCollectionPaymentTxn cfg collectionId input userId prevStatus i w = .ok (u, w')) :
    Touches w (.collectionPaid collectionId input.amount) w' := by
  simp only [executeCollectionPaymentTxn, Txn.bind_ok] at h
  obtain ⟨_, w₁, hpayment, _, w₂, hadd, haudit⟩ := h
  have hbeside := (beside_recordPaymentReceived hpayment).trans
    (beside_updateCollection_now hadd fun _ _ hmarked => hmarked)
  exact (hbeside.trans (beside_createAuditEntry haudit)).touches (of_collections rfl) (by simp)

theorem setLevel_unmarked (level now : ℤ) (c : Collection) :
    (Repo.setLevel level now c).status = .defaulted → c.status = .defaulted := by
  unfold Repo.setLevel
  by_cases hpositive : 0 < level
  · simp [hpositive]
  · simp [hpositive]

theorem executeManualEscalationTxn_touches {collectionId invoiceId : ℕ} {currentLevel newLevel : ℤ}
    {userId : ℕ} {reason : String} {u : Unit}
    (h : executeManualEscalationTxn cfg collectionId invoiceId currentLevel newLevel userId reason i w
      = .ok (u, w')) : Touches w (.collectionEscalated collectionId newLevel) w' := by
  simp only [executeManualEscalationTxn, Txn.bind_ok] at h
  obtain ⟨_, w₁, hset, _, w₂, hflag, haudit⟩ := h
  have hbeside := (beside_updateCollection_now hset (setLevel_unmarked newLevel)).trans (beside_flagManualEscalation hflag)
  exact (hbeside.trans (beside_createAuditEntry haudit)).touches (of_collections rfl) (by simp)

theorem executeDeescalationTxn_touches {collectionId : ℕ} {currentLevel newLevel : ℤ} {userId : ℕ}
    {reason : String} {u : Unit}
    (h : executeDeescalationTxn cfg collectionId currentLevel newLevel userId reason i w
      = .ok (u, w')) : Touches w (.collectionDeescalated collectionId newLevel) w' := by
  simp only [executeDeescalationTxn, Txn.bind_ok] at h
  obtain ⟨_, w₁, hset, _, w₂, hmark, haudit⟩ := h
  have hbeside := (beside_updateCollection_now hset (setLevel_unmarked newLevel)).trans (beside_markOverdueAtZero hmark)
  exact (hbeside.trans (beside_createAuditEntry haudit)).touches (of_collections rfl) (by simp)

theorem executeResolveTxn_touches {collectionId invoiceId : ℕ} {prevStatus : CollectionStatus}
    {userId : ℕ} {u : Unit}
    (h : executeResolveTxn cfg collectionId invoiceId prevStatus userId i w = .ok (u, w'))
    (hprev : prevStatus ≠ .collected) : Touches w (.collectionResolved collectionId invoiceId prevStatus) w' := by
  simp only [executeResolveTxn, Repo.resolveCollectionById, Txn.bind_ok, Txn.liftM_ok] at h
  obtain ⟨_, w₁, hresolve, expected, _, ⟨hexpected, rfl⟩, _, w₂, hmove, haudit⟩ := h
  obtain rfl := asInvoiceStatus_resolvedFrom hexpected hprev
  obtain ⟨hw₂, hrows⟩ := updateInvoiceStatus_rowwise (e := .collectionResolved collectionId invoiceId prevStatus)
    hmove (if_pos ⟨rfl, rfl⟩)
  exact touches_of_move (beside_updateCollection hresolve fun _ hmarked => by cases hmarked) hw₂ hrows (beside_createAuditEntry haudit)
    (of_collections rfl) (by simp)

theorem executeDefaultTxn_touches {collectionId invoiceId : ℕ} {u : Unit}
    (h : executeDefaultTxn cfg collectionId invoiceId i w = .ok (u, w')) :
    Touches w (.collectionDefaulted collectionId invoiceId) w' := by
  simp only [executeDefaultTxn, Repo.updateCollectionStatus, Txn.bind_ok] at h
  obtain ⟨_, w₁, hstatus, _, w₂, hmove, haudit⟩ := h
  obtain ⟨hw₂, hrows⟩ := updateInvoiceStatus_rowwise (e := .collectionDefaulted collectionId invoiceId)
    hmove (if_pos ⟨rfl, rfl⟩)
  exact touches_of_move (beside_updateCollection hstatus fun _ hmarked => by cases hmarked) hw₂ hrows (beside_createAuditEntry haudit)
    (of_collections rfl) (by simp)

/-- The payment of a buyer closes a collection and marks none. -/
theorem PaymentWrites.unmarked {input : RecordPaymentInput} {invoice : Invoice} {collectionId : ℕ}
    {now : ℤ} (h : PaymentWrites input invoice collectionId now w w') :
    Unmarking w.collections w'.collections := by
  obtain ⟨c, hrewrites⟩ := h.collection
  intro c' hc' hstatus
  rcases hrewrites.get?_eq_some.1 (Table.get?_of_mem hc') with ⟨-, rfl⟩ | ⟨-, hold⟩
  · exact nomatch hstatus
  · exact ⟨c', Table.mem_of_get? hold, rfl, hstatus⟩

/-- The payment of a buyer for an invoice that was read before: only a row that has still the status that
was read is collected. -/
structure Pays (input : RecordPaymentInput) (invoice : Invoice) (collectionId : ℕ) (now : ℤ)
    (w w' : World) :
    Prop extends PaymentWrites input invoice collectionId now w w' where
  invoices : w'.invoices =
    w.invoices.update (fun r => r.id = input.invoiceId ∧ r.status = invoice.status)
      (Payments.setInvoiceStatus .collected now) (Payments.id_setInvoiceStatus .collected now)

theorem assertInvoiceCollectedTransition_invoices {invoiceId : ℕ} {expected : InvoiceStatus} {u : Unit}
    (h : assertInvoiceCollectedTransition invoiceId expected i w = .ok (u, w')) :
    w'.invoices = w.invoices.update (fun r => r.id = invoiceId ∧ r.status = expected)
      (Payments.setInvoiceStatus .collected i.now) (Payments.id_setInvoiceStatus .collected i.now) := by
  simp only [assertInvoiceCollectedTransition, Txn.bind_ok] at h
  obtain ⟨transitioned, w₁, hmove, h⟩ := h
  cases transitioned with
  | false => cases h
  | true =>
    obtain ⟨-, rfl⟩ := Txn.pure_ok.1 h
    simp only [Repo.updateInvoiceStatus, Payments.updateInvoiceStatusWithClient, Txn.bind_ok, now_ok,
      Txn.read_ok, Txn.write_ok, Txn.pure_ok, id] at hmove
    obtain ⟨_, _, ⟨_, _, ⟨rfl, rfl⟩, _, _, ⟨rfl, rfl⟩, _, _, rfl, -, rfl⟩, -, rfl⟩ := hmove
    rfl

theorem executePaymentReceivedTxn_pays {input : RecordPaymentInput} {invoice : Invoice}
    {collection : Option Collection} {u : Unit}
    (h : executePaymentReceivedTxn cfg input invoice collection i w = .ok (u, w')) :
    ∃ c, collection = some c ∧ Pays input invoice c.id i.now w w' := by
  obtain ⟨c, hc, hwrites⟩ := executePaymentReceivedTxn_writes h
  refine ⟨c, hc, hwrites, ?_⟩
  simp only [executePaymentReceivedTxn, Repo.adjustBuyerPaymentScore, Txn.bind_ok, Txn.write_ok] at h
  obtain ⟨_, w₁, hassert, _, w₂, hpayment, _, w₃, hlimit, _, w₄, hscore, _, w₅, hresolve, haudit⟩ := h
  rw [← assertInvoiceCollectedTransition_invoices hassert]
  -- none of the later statements writes to the invoices
  obtain ⟨_, _, -, -, -, -, -, hw₂⟩ := recordPaymentReceived_ok hpayment
  have hw₃ := reduceBuyerUsedLimit_ok hlimit
  obtain ⟨c', hrow⟩ := hwrites.collection
  have hc₄ : w₄.collections.get? c.id = some c' := by
    rw [← hscore, hw₃, hw₂]
    have hw₁ := (assertInvoiceCollectedTransition_ok hassert).1
    rw [hw₁]
    exact hrow.before
  subst hc
  have hw₅ := (updateCollection_now_ok hresolve hc₄).world
  rw [createAuditEntry_ok haudit]
  show w₅.invoices = w₁.invoices
  rw [hw₅, ← hscore, hw₃, hw₂]

/-! ## The operations -/

section Calls

variable {G : Protocol World Event} (hG : Permissive G) (hallow : Allows G Touches)

include hG hallow

theorem free_processOverdueInvoice_of (invoiceId : ℕ) (notifyUserId : Actor) :
    Free G (processOverdueInvoice cfg invoiceId notifyUserId) := by
  refine (yields_getInvoiceForCollection hG.toQuiet invoiceId).bind fun found hfound => ?_
  cases found with
  | none => exact free_throw _
  | some invoice =>
    obtain rfl := hfound invoice rfl
    dsimp only
    split
    · exact free_pure _
    · refine free_bind (free_getDailyPenaltyRate hG) fun rate =>
        free_bind (free_getCollectionByInvoiceId hG _) fun existing =>
          free_bind (free_transaction hG ?_) fun _ =>
            free_bind (free_log hG _) fun _ => free_queueNotification hG _ _
      intro s t i collectionId d hs h
      exact hallow s t _ d hs (executeOverdueTxn_touches h)

theorem free_processEscalation_of (invoiceId : ℕ) (daysOverdue : ℤ) :
    Free G (processEscalation cfg invoiceId daysOverdue) := by
  refine free_bind (free_query hG _) fun found => ?_
  cases found with
  | none => exact free_throw _
  | some invoice =>
    refine free_bind (free_getCollectionByInvoiceId hG _) fun existing => ?_
    cases existing with
    | none => exact free_throw _
    | some collection =>
      dsimp only
      split
      · exact free_pure _
      · refine free_bind (free_getDailyPenaltyRate hG) fun rate =>
          free_bind (free_transaction hG ?_) fun _ => free_bind (free_log hG _) fun _ =>
            free_bind (free_queueNotification hG _ _) fun _ => free_autoGenerateDraft hG _
        intro s t i u d hs h
        exact hallow s t _ d hs (executeEscalationTxn_touches h)

theorem free_recordCollectionPayment_of (collectionId : ℕ) (input : FrontendRecordPaymentInput)
    (userId : ℕ) : Free G (recordCollectionPayment cfg collectionId input userId) := by
  refine free_bind (free_query hG _) fun found => ?_
  cases found with
  | none => exact free_throw _
  | some collection =>
    dsimp only
    split
    · exact free_throw _
    · refine free_bind (free_transaction hG ?_) fun _ => free_log hG _
      intro s t i u d hs h
      exact hallow s t _ d hs (executeCollectionPaymentTxn_touches h)

theorem free_escalateCollection_of (collectionId userId : ℕ) (reason : String) :
    Free G (escalateCollection cfg collectionId userId reason) := by
  refine free_bind (free_query hG _) fun found => ?_
  cases found with
  | none => exact free_throw _
  | some collection =>
    dsimp only
    split
    · exact free_throw _
    · refine free_bind (free_transaction hG ?_) fun _ => free_log hG _
      intro s t i u d hs h
      exact hallow s t _ d hs (executeManualEscalationTxn_touches h)

theorem free_deescalateCollection_of (collectionId userId : ℕ) (reason : String) :
    Free G (deescalateCollection cfg collectionId userId reason) := by
  refine free_bind (free_query hG _) fun found => ?_
  cases found with
  | none => exact free_throw _
  | some collection =>
    dsimp only
    split
    · exact free_throw _
    · refine free_bind (free_transaction hG ?_) fun _ => free_log hG _
      intro s t i u d hs h
      exact hallow s t _ d hs (executeDeescalationTxn_touches h)

theorem free_resolveCollectionById_of (collectionId userId : ℕ) :
    Free G (resolveCollectionById cfg collectionId userId) := by
  refine free_bind (free_query hG _) fun found => ?_
  cases found with
  | none => exact free_throw _
  | some collection =>
    dsimp only
    split
    · exact free_throw _
    · rename_i hopen
      refine free_bind (free_transaction hG ?_) fun _ => free_log hG _
      intro s t i u d hs h
      exact hallow s t _ d hs (executeResolveTxn_touches h hopen)

theorem free_processSingleReminder_of (inv : Invoice × Repo.ReminderType) :
    Free G (processSingleReminder cfg inv) := by
  refine free_tryCatch (free_bind (free_queueNotification hG _ _) fun _ => ?_) fun _ => free_log hG _
  have hremind : ∀ u : PUnit, Free G (do
      if inv.2 = .tMinus3 then
        queueNotification cfg "buyer-payment-escalation"
          [("invoiceId", .id inv.1.id), ("buyerId", .id inv.1.buyerId),
            ("type", .text "credit_officer_escalation"),
            ("message", .text "Buyer has not responded to payment reminder at T-3")]) := by
    intro _
    split
    · exact free_queueNotification hG _ _
    · exact free_pure _
  unfold handleReminderEscalation
  dsimp only
  split
  · exact free_bind (free_tryCatch (free_processOverdueInvoice_of hG hallow _ _) fun _ =>
      free_log hG _) hremind
  · exact hremind ⟨⟩

theorem free_defaultSingleCollection_of (collectionId invoiceId : ℕ) :
    Free G (defaultSingleCollection cfg collectionId invoiceId) := by
  refine free_bind (free_transaction hG ?_) fun _ =>
    free_bind (free_log hG _) fun _ => free_queueNotification hG _ _
  intro s t i u d hs h
  exact hallow s t _ d hs (executeDefaultTxn_touches h)

theorem free_overdueProcessing_of : Free G (overdueProcessing cfg) := by
  refine free_bind (free_bind (free_queryToday hG _) fun _ => free_bind (free_forM fun _ => ?_)
    fun _ => free_log hG _) fun _ => free_bind (free_query hG _) fun _ =>
      free_bind (free_forM fun _ => ?_) fun _ => free_log hG _
  · exact free_tryCatch (free_processOverdueInvoice_of hG hallow _ _) fun _ => free_log hG _
  · exact free_tryCatch (free_processEscalation_of hG hallow _ _) fun _ => free_log hG _

section Payment

variable {Seen : Invoice → World → Prop}
  (hsteady : ∀ r, G.Steady fun s => Seen r s.store)
  (hseen : ∀ s invoiceId r, G.inv s → s.store.invoices.get? invoiceId = some r → Seen r s.store)
  (hpaid : ∀ (s : State World Event) t input invoice collectionId now d, G.inv s →
    invoice.id = input.invoiceId → invoice.status ≠ .collected → Seen invoice s.store →
    Pays input invoice collectionId now s.store d →
    G.effect s t (some (.paymentReceived input.invoiceId collectionId input.amount)) d)
  (hrefused : ∀ (s : State World Event) t invoiceId, G.inv s →
    G.effect s t (some (.paymentRefused invoiceId)) s.store)

include hsteady hseen hpaid hrefused

omit hallow in
/-- What is steady of a row that was read, the payment may rely on. -/
theorem free_recordPaymentReceived_of (input : RecordPaymentInput) :
    Free G (recordPaymentReceived cfg input) := by
  intro t
  refine Protocol.Triple.bind (R := fun found s => ∀ r ∈ found, r.id = input.invoiceId ∧ Seen r s.store)
    ?_ fun found => ?_
  · refine triple_query hG t fun s hs r hr => ⟨Table.key_of_get? hr, ?_⟩
    exact hseen s input.invoiceId r hs hr
  · cases found with
    | none => exact (free_throw _).of _ t
    | some invoice =>
      dsimp only
      split
      · exact (free_throw _).of _ t
      · rename_i hopen
        have hB : G.Steady fun s => ∀ r ∈ some invoice, r.id = input.invoiceId ∧ Seen r s.store := by
          intro s u e d hs h heff r hr
          exact ⟨(h r hr).1, hsteady r s u e d hs (h r hr).2 heff⟩
        refine Protocol.Triple.bind
          (((free_getCollectionByInvoiceId hG input.invoiceId).keeps hB t).weaken (fun _ _ _ h => h)
            fun _ _ _ _ => trivial) fun collection => ?_
        refine Protocol.Triple.bind (R := fun _ _ => True) ?_ fun _ => (free_bind (free_log hG _) fun _ =>
          free_dispatchPostPaymentJobs hG _ _ _) t
        refine .transaction (hB.stable t) ?_ ?_
        · intro s i u d hs hread h
          simp only [Txn.bind_ok, connect_ok] at h
          obtain ⟨_, _, ⟨-, rfl⟩, h⟩ := h
          obtain ⟨c, rfl, hpays⟩ := executePaymentReceivedTxn_pays h
          obtain ⟨hid, hrow⟩ := hread invoice rfl
          exact ⟨hpaid s t input invoice c.id i.now d hs hid hopen hrow hpays, trivial⟩
        · intro s i e hs _ _
          refine ⟨?_, trivial⟩
          cases e with
          | businessRule => exact hrefused s t _ hs
          | _ => exact hG.threw s t

/-- Every operation follows a protocol that allows its writes. -/
theorem free_program_of (op : Op) : Free G (program cfg op) := by
  cases op with
  | startCollectionMonitoring invoiceId paymentId =>
    refine free_startCollectionMonitoring_of hG.toQuiet invoiceId paymentId ?_
    rintro s t i invoice dailyRate collectionId d hs rfl h
    exact hallow s t _ d hs (executeCollectionStartedTxn_touches h)
  | processOverdueInvoice => exact free_processOverdueInvoice_of hG hallow _ _
  | processEscalation => exact free_processEscalation_of hG hallow _ _
  | recordPaymentReceived => exact free_recordPaymentReceived_of hG hsteady hseen hpaid hrefused _
  | recordCollectionPayment => exact free_recordCollectionPayment_of hG hallow _ _ _
  | escalateCollection => exact free_escalateCollection_of hG hallow _ _ _
  | deescalateCollection => exact free_deescalateCollection_of hG hallow _ _ _
  | resolveCollectionById => exact free_resolveCollectionById_of hG hallow _ _
  | processReminders =>
    exact free_tryCatch (free_bind (free_queryToday hG _) fun _ =>
      free_forM (free_processSingleReminder_of hG hallow)) fun _ => free_log hG _
  | processDefaulted =>
    exact free_bind (free_query hG _) fun _ => free_forM fun _ =>
      free_tryCatch (free_defaultSingleCollection_of hG hallow _ _) fun _ => free_log hG _
  | overdueProcessing => exact free_overdueProcessing_of hG hallow

end Payment

end Calls

end Ris.Collections
