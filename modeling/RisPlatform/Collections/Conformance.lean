import RisPlatform.Collections.Protocol

/-!
# The collections service follows its protocol

What each transaction of the collections service commits, as an effect on the tables, and then one
triple for each function of the service. What a call has read about a collection and its invoice can
only be used where no other call changes it: that the collection has a row, of that invoice, and the
invoice's face value.
-/

namespace Ris.Collections

open Relational Concurrent

variable {cfg : Config} {i : Input} {w₀ w w' : World}

/-! ## Statements -/

/-- The row of the collection was rewritten, and nothing else. -/
structure Writes (collectionId : ℕ) (c c' : Collection) (w w' : World) : Prop where
  world : w' = { w with collections := w'.collections }
  row : w.collections.Rewrites w'.collections collectionId c c'

theorem Writes.trans {collectionId : ℕ} {c c' c'' : Collection} {v : World}
    (h : Writes collectionId c c' w v) (h' : Writes collectionId c' c'' v w') :
    Writes collectionId c c'' w w' where
  world := by rw [h'.world, h.world]
  row := h.row.trans h'.row

/-- An update of a collection that has a row. -/
theorem updateCollection_ok {collectionId : ℕ} {f : Collection → Collection}
    {hf : ∀ c, (f c).id = c.id} {u : Unit}
    (h : Repo.updateCollection collectionId f hf i w = .ok (u, w')) {c : Collection}
    (hc : w.collections.get? collectionId = some c) : Writes collectionId c (f c) w w' := by
  simp only [Repo.updateCollection, Txn.write_ok] at h
  subst h
  exact ⟨rfl, Table.rewrites_update hc (fun _ hx => of_decide_eq_true hx)
    (by simp [Table.key_of_get? hc]) f hf⟩

/-- An update of a collection whose assignment asks for the time. -/
theorem updateCollection_now_ok {collectionId : ℕ} {f : ℤ → Collection → Collection}
    {hf : ∀ t c, (f t c).id = c.id} {u : Unit}
    (h : (do let t ← now; Repo.updateCollection collectionId (f t) (hf t)) i w = .ok (u, w'))
    {c : Collection} (hc : w.collections.get? collectionId = some c) :
    Writes collectionId c (f i.now c) w w' := by
  simp only [Txn.bind_ok, now_ok] at h
  obtain ⟨_, _, ⟨rfl, rfl⟩, h⟩ := h
  exact updateCollection_ok h hc

theorem createAuditEntry_appends {userId : Option Actor} {action : String} {recordId : ℕ}
    {oldValues newValues : List (String × Json)} {u : Unit}
    (h : createAuditEntry cfg userId action recordId oldValues newValues i w = .ok (u, w')) :
    ∃ entry, w' = { w with auditLogs := w.auditLogs ++ [entry] } := by
  simp only [createAuditEntry, Txn.bind_ok, Txn.liftM_ok, Ris.createAuditEntry_ok] at h
  obtain ⟨user, _, ⟨-, rfl⟩, rfl⟩ := h
  exact ⟨_, rfl⟩

theorem createAuditEntry_ok {userId : Option Actor} {action : String} {recordId : ℕ}
    {oldValues newValues : List (String × Json)} {u : Unit}
    (h : createAuditEntry cfg userId action recordId oldValues newValues i w = .ok (u, w')) :
    w' = { w with auditLogs := w'.auditLogs } := by
  obtain ⟨_, rfl⟩ := createAuditEntry_appends h
  rfl

/-- The invoice moved from the status it was expected to have, if it had it. -/
structure Moves (invoiceId : ℕ) (expected new : InvoiceStatus) (w w' : World) : Prop where
  status : ∀ j, statusOf w' j =
    (statusOf w j).map fun status => if invoiceId = j ∧ status = expected then new else status
  faceValue : ∀ j, faceValueOf w' j = faceValueOf w j

theorem statusOf_congr (h : w'.invoices = w.invoices) (j : ℕ) : statusOf w' j = statusOf w j := by
  rw [statusOf, statusOf, h]

theorem faceValueOf_congr (h : w'.invoices = w.invoices) (j : ℕ) :
    faceValueOf w' j = faceValueOf w j := by
  rw [faceValueOf, faceValueOf, h]

/-- A move depends on the table `invoices` alone. -/
theorem Moves.congr {invoiceId : ℕ} {expected new : InvoiceStatus} {w₁ w₂ : World}
    (h : Moves invoiceId expected new w₁ w₂) (hbefore : w₁.invoices = w.invoices)
    (hafter : w'.invoices = w₂.invoices) : Moves invoiceId expected new w w' where
  status j := by rw [statusOf_congr hafter, h.status, statusOf_congr hbefore]
  faceValue j := by rw [faceValueOf_congr hafter, h.faceValue, faceValueOf_congr hbefore]

/-- An update of an invoice's status moves it, and says whether it did. -/
theorem updateInvoiceStatus_ok {invoiceId : ℕ} {new expected : InvoiceStatus} {updated : Bool}
    (h : Repo.updateInvoiceStatus invoiceId new expected i w = .ok (updated, w')) :
    w' = { w with invoices := w'.invoices } ∧ Moves invoiceId expected new w w' ∧
      (updated = true ↔ statusOf w invoiceId = some expected) := by
  simp only [Repo.updateInvoiceStatus, Payments.updateInvoiceStatusWithClient, Txn.bind_ok, now_ok,
    Txn.read_ok, Txn.write_ok, Txn.pure_ok, id] at h
  obtain ⟨found, _, ⟨_, _, ⟨rfl, rfl⟩, _, _, ⟨rfl, rfl⟩, _, _, rfl, rfl, rfl⟩, rfl, rfl⟩ := h
  refine ⟨rfl, ⟨fun j => ?_, fun j => ?_⟩, ?_⟩
  · rw [statusOf, statusOf, Table.get?_update]
    cases hr : w.invoices.get? j with
    | none => rfl
    | some r =>
      have hid : r.id = j := Table.key_of_get? hr
      by_cases hmatch : j = invoiceId ∧ r.status = expected
      · simp [hid, hmatch.1, hmatch.2, Payments.setInvoiceStatus]
      · have hmatch' : ¬(invoiceId = j ∧ r.status = expected) := fun h => hmatch ⟨h.1.symm, h.2⟩
        simp [hid, hmatch, hmatch']
  · rw [faceValueOf, faceValueOf, Table.get?_update]
    cases hr : w.invoices.get? j with
    | none => rfl
    | some r =>
      simp only [Option.map_some]
      split <;> rfl
  · rw [Option.isSome_map, List.isSome_head?, statusOf, Option.map_eq_some_iff]
    constructor
    · intro hne
      obtain ⟨r, hmem, hid, hstatus⟩ :
          ∃ r, r ∈ w.invoices.rows ∧ r.id = invoiceId ∧ r.status = expected := by
        simpa using hne
      exact ⟨r, Table.get?_eq_some.2 ⟨hmem, hid⟩, hstatus⟩
    · rintro ⟨r, hr, hstatus⟩
      have hmem : r ∈ w.invoices.rows.filter fun r => r.id = invoiceId ∧ r.status = expected :=
        List.mem_filter.2 ⟨Table.mem_of_get? hr, by simp [Table.key_of_get? hr, hstatus]⟩
      simpa using List.ne_nil_of_mem hmem

/-- The update of an invoice that has the expected status rewrites its row. -/
theorem updateInvoiceStatus_rewrites {invoiceId : ℕ} {new expected : InvoiceStatus} {updated : Bool}
    (h : Repo.updateInvoiceStatus invoiceId new expected i w = .ok (updated, w')) {r : Invoice}
    (hr : w.invoices.get? invoiceId = some r) (hstatus : r.status = expected) :
    w.invoices.Rewrites w'.invoices invoiceId r (Payments.setInvoiceStatus new i.now r) := by
  simp only [Repo.updateInvoiceStatus, Payments.updateInvoiceStatusWithClient, Txn.bind_ok, now_ok,
    Txn.read_ok, Txn.write_ok, Txn.pure_ok, id] at h
  obtain ⟨_, _, ⟨_, _, ⟨rfl, rfl⟩, _, _, ⟨rfl, rfl⟩, _, _, rfl, -, rfl⟩, -, rfl⟩ := h
  refine Table.rewrites_update hr (fun _ hx => (of_decide_eq_true hx).1) ?_
    (Payments.setInvoiceStatus new i.now) fun _ => rfl
  simp [Table.key_of_get? hr, hstatus]

/-- Rewriting the row of an invoice that has the status it was expected to have. -/
theorem Moves.of_rewrites {invoiceId : ℕ} {new : InvoiceStatus} {r : Invoice} {t : ℤ}
    (h : w.invoices.Rewrites w'.invoices invoiceId r (Payments.setInvoiceStatus new t r)) :
    Moves invoiceId r.status new w w' where
  status j := by
    by_cases hj : j = invoiceId
    · subst hj
      simp [statusOf, h.after, h.before, Payments.setInvoiceStatus]
    · simp [statusOf, h.others j hj, Ne.symm hj, Function.comp_def]
  faceValue j := by
    by_cases hj : j = invoiceId
    · subst hj
      simp [faceValueOf, h.after, h.before, Payments.setInvoiceStatus]
    · simp [faceValueOf, h.others j hj]

theorem insertCollection_ok {data : Repo.CreateCollectionInput} {status : CollectionStatus} {u : Unit}
    (h : Repo.insertCollection data status i w = .ok (u, w')) :
    w.collections.insert? (data.row status i.now) = some w'.collections ∧
      w' = { w with collections := w'.collections } := by
  simp only [Repo.insertCollection, Txn.bind_ok, now_ok, Txn.read_ok, id] at h
  obtain ⟨_, _, ⟨rfl, rfl⟩, _, _, ⟨rfl, rfl⟩, h⟩ := h
  cases hv : Repo.collectionViolation w (data.row status i.now) with
  | some message => simp [hv] at h
  | none =>
    cases hins : w.collections.insert? (data.row status i.now) with
    | none => simp [hv, hins] at h
    | some collections =>
      simp only [hv, hins, Txn.write_ok] at h
      subst h
      exact ⟨rfl, rfl⟩

/-- A recorded payment is a positive amount on a collection that has a row. -/
theorem recordPaymentReceived_ok {collectionId : Option ℕ} {amount : ℤ}
    {paymentMethod : CollectionPaymentMethod} {paidBy : String} {paidAt : ℤ} {recordedBy : ℕ}
    {paymentReference notes : Option String} {u : Unit}
    (h : Repo.recordPaymentReceived collectionId amount paymentMethod paidBy paidAt recordedBy
      paymentReference notes i w = .ok (u, w')) :
    ∃ p c, collectionId = some p.collectionId ∧ p.amount = amount ∧ 0 < amount ∧
      w.collections.get? p.collectionId = some c ∧
      w.collectionPayments.insert? p = some w'.collectionPayments ∧
      w' = { w with collectionPayments := w'.collectionPayments } := by
  simp only [Repo.recordPaymentReceived, Txn.bind_ok, Txn.input_ok, Txn.read_ok, id] at h
  obtain ⟨_, _, ⟨rfl, rfl⟩, _, _, ⟨rfl, rfl⟩, h⟩ := h
  cases collectionId with
  | none => simp at h
  | some collectionId =>
    simp only [Txn.bind_ok, Txn.liftM_ok] at h
    obtain ⟨amount', _, ⟨hamount, rfl⟩, h⟩ := h
    obtain rfl : amount = amount' := by
      unfold Repo.bigint at hamount
      split at hamount
      · cases hamount
      · exact Except.ok.inj hamount
    -- the CHECK on the amount and the reference to `collections`
    generalize hrow : (⟨i.uuid, collectionId, amount, paymentMethod, paymentReference, paidBy, paidAt,
      recordedBy, notes⟩ : CollectionPayment) = row at h
    cases hv : Repo.paymentViolation w row with
    | some message => simp [hv] at h
    | none =>
      cases hins : w.collectionPayments.insert? row with
      | none => simp [hv, hins] at h
      | some payments =>
        simp only [hv, hins, Txn.write_ok] at h
        subst h hrow
        unfold Repo.paymentViolation at hv
        split_ifs at hv with hpos hrow
        cases hc : w.collections.get? collectionId with
        | none => simp [hc] at hrow
        | some c => exact ⟨_, c, rfl, rfl, by simpa using hpos, hc, hins, rfl⟩

/-! ## Effects from their parts -/

/-- An effect on `collections` depends on that table alone. -/
theorem RowsEffect.congr {e : Event} {v : World} (h : RowsEffect cfg w₀ w e v)
    (hafter : w'.collections = v.collections) : RowsEffect cfg w₀ w e w' := by
  cases h with
  | same he hrows => exact .same he (hafter.trans hrows)
  | opened c hopens hinsert => exact .opened c hopens (hafter ▸ hinsert)
  | changed c c' hstep hrow => exact .changed c c' hstep (hafter ▸ hrow)

/-- An event that moves an invoice and records no payment. -/
theorem effect_of_moves {e : Event} {invoiceId : ℕ} {expected new : InvoiceStatus}
    (hrows : RowsEffect cfg w₀ w e w') (hpayments : w'.collectionPayments = w.collectionPayments)
    (he : paymentOf e = none) (hmoves : Moves invoiceId expected new w w')
    (hnext : ∀ j status, nextInvoiceStatus e j status =
      if invoiceId = j ∧ status = expected then new else status) : Effect cfg w₀ w e w' where
  rows := hrows
  status j := by
    rw [hmoves.status]
    congr 1
    funext status
    exact (hnext j status).symm
  faceValue := hmoves.faceValue
  unpaid _ := hpayments
  paid _ _ h := by simp [he] at h
  open_ _ _ _ h := by simp [h, paymentOf] at he

/-- An event that leaves the invoices alone. -/
theorem effect_of_rows {e : Event} (hrows : RowsEffect cfg w₀ w e w')
    (hinvoices : w'.invoices = w.invoices) (he : invoiceOf e = none)
    (hunpaid : paymentOf e = none → w'.collectionPayments = w.collectionPayments)
    (hpaid : ∀ collectionId amount, paymentOf e = some (collectionId, amount) → ∃ p,
      p.collectionId = collectionId ∧ p.amount = amount ∧ 0 < amount ∧
        w.collectionPayments.insert? p = some w'.collectionPayments) : Effect cfg w₀ w e w' where
  rows := hrows
  status j := by
    have hid : nextInvoiceStatus e j = id := by
      funext status
      cases e <;> simp_all [nextInvoiceStatus, invoiceOf]
    rw [hid, Option.map_id, id, statusOf_congr hinvoices]
  faceValue j := faceValueOf_congr hinvoices j
  unpaid := hunpaid
  paid := hpaid
  open_ _ _ _ h := by simp [h, invoiceOf] at he

/-! ## Transactions -/

/-- An event that rewrites the row of a collection, where the audit entry and a move of the invoice
come after it. -/
theorem Writes.changed {e : Event} {collectionId : ℕ} {c c' : Collection} {w₁ : World}
    (h : Writes collectionId c c' w w₁) (hafter : w'.collections = w₁.collections)
    (hstep : CollectionStep cfg w₀ e c c') : RowsEffect cfg w₀ w e w' := by
  have hid : c.id = collectionId := Table.key_of_get? h.row.before
  refine .changed c c' hstep ?_
  rw [hafter, hid]
  exact h.row

/-- Without a collection one is inserted; one that was found is marked in two updates. -/
theorem saveOverdueRecord_cases {invoice : Invoice} {existing : Option Collection} {collectionId : ℕ}
    {penaltyAmount : ℤ} {u : Unit}
    (h : saveOverdueRecord invoice existing collectionId penaltyAmount i w = .ok (u, w')) :
    (existing = none ∧ ∃ dailyPenaltyRate,
      Repo.createOverdueRecord
        { id := collectionId
          invoiceId := invoice.id
          buyerId := invoice.buyerId
          faceValue := invoice.faceValue
          amountDue := invoice.faceValue
          daysOverdue := 1
          dailyPenaltyRate
          penaltyAmount } i w = .ok (u, w')) ∨
      ∃ collection v, existing = some collection ∧
        Repo.updateCollectionStatus collectionId .overdue i w = .ok ((), v) ∧
          Repo.updateEscalationLevel collectionId 0 1 penaltyAmount i v = .ok (u, w') := by
  cases existing with
  | none =>
    simp only [saveOverdueRecord, getDailyPenaltyRateTx, Txn.bind_ok, Txn.input_ok, Txn.pure_ok] at h
    obtain ⟨_, _, ⟨_, _, ⟨rfl, rfl⟩, rfl, rfl⟩, hinsert⟩ := h
    exact .inl ⟨rfl, _, hinsert⟩
  | some collection =>
    simp only [saveOverdueRecord, Txn.bind_ok] at h
    obtain ⟨_, v, hfirst, hsecond⟩ := h
    exact .inr ⟨collection, v, rfl, hfirst, hsecond⟩

/-- The row that `processOverdueInvoice` writes. -/
theorem saveOverdueRecord_ok {invoice : Invoice} {existing : Option Collection} {collectionId : ℕ}
    {penaltyAmount : ℤ} {u : Unit}
    (h : saveOverdueRecord invoice existing collectionId penaltyAmount i w = .ok (u, w'))
    (hid : ∀ c ∈ existing, c.id = collectionId)
    (hbelongs : ∀ c ∈ existing, Belongs w c.id invoice.id) :
    w' = { w with collections := w'.collections } ∧
      RowsEffect cfg w₀ w (.collectionOverdue collectionId invoice.id) w' := by
  obtain ⟨rfl, dailyPenaltyRate, hinsert⟩ | ⟨collection, v, rfl, hfirst, hsecond⟩ :=
    saveOverdueRecord_cases h
  · obtain ⟨hinsert, hw'⟩ := insertCollection_ok hinsert
    exact ⟨hw', .opened _ (.overdue rfl rfl rfl rfl) hinsert⟩
  · obtain ⟨c, hc, hinvoice⟩ := hbelongs collection rfl
    obtain rfl := hid collection rfl
    have hstatus := updateCollection_ok hfirst hc
    have hwrites := hstatus.trans (updateCollection_now_ok hsecond hstatus.row.after)
    refine ⟨hwrites.world, hwrites.changed rfl ?_⟩
    have hcid : c.id = collection.id := Table.key_of_get? hc
    exact
      { event := by simp [Event.collection?, hcid]
        existing := fun _ _ => by simp
        invoice := fun j hj => by simpa [hinvoice, invoiceOf] using hj.symm
        id := rfl
        invoiceId := rfl
        status := fun _ => rfl
        level := rfl
        bounded := fun _ _ => ⟨le_rfl, (by decide : (0 : ℤ) ≤ 3)⟩
        three := fun _ hc => absurd hc (by decide : (0 : ℤ) ≠ 3)
        total := rfl
        penalty := fun h => by simp [keepsPenalty] at h
        flag := fun h => h
        sar := fun h => by simp [escalatedTo] at h }

/-- The statements of `executeOverdueTxn` and the stores between them. -/
theorem executeOverdueTxn_cases {invoice : Invoice} {existing : Option Collection} {penaltyAmount : ℤ}
    {notifyUserId : Actor} {collectionId : ℕ}
    (h : executeOverdueTxn cfg invoice existing penaltyAmount notifyUserId i w
      = .ok (collectionId, w')) :
    (∀ c ∈ existing, c.id = collectionId) ∧ ∃ moved w₁ w₂ oldValues newValues,
      saveOverdueRecord invoice existing collectionId penaltyAmount i w = .ok ((), w₁) ∧
      Repo.updateInvoiceStatus invoice.id .overdue .collecting i w₁ = .ok (moved, w₂) ∧
      createAuditEntry cfg (some notifyUserId) "INVOICE_OVERDUE" invoice.id oldValues newValues i w₂ =
        .ok ((), w') := by
  simp only [executeOverdueTxn, Txn.bind_ok, Txn.input_ok, Txn.pure_ok] at h
  obtain ⟨_, _, ⟨rfl, rfl⟩, _, w₁, hsave, _, w₂, hmove, _, w₃, haudit, rfl, rfl⟩ := h
  refine ⟨?_, _, w₁, w₂, _, _, hsave, hmove, haudit⟩
  rintro c rfl
  rfl

/-- The commit of `processOverdueInvoice`. -/
theorem executeOverdueTxn_ok {invoice : Invoice} {existing : Option Collection} {penaltyAmount : ℤ}
    {notifyUserId : Actor} {collectionId : ℕ}
    (h : executeOverdueTxn cfg invoice existing penaltyAmount notifyUserId i w
      = .ok (collectionId, w'))
    (hbelongs : ∀ c ∈ existing, Belongs w c.id invoice.id) :
    Effect cfg w₀ w (.collectionOverdue collectionId invoice.id) w' := by
  obtain ⟨hid, _, w₁, w₂, _, _, hsave, hmove, haudit⟩ := executeOverdueTxn_cases h
  have hsaved : w₁ = { w with collections := w₁.collections } ∧
      RowsEffect cfg w₀ w (.collectionOverdue _ invoice.id) w₁ :=
    saveOverdueRecord_ok hsave hid hbelongs
  obtain ⟨hw₁, hrows⟩ := hsaved
  obtain ⟨hw₂, hmoves, -⟩ := updateInvoiceStatus_ok hmove
  have hw₃ := createAuditEntry_ok haudit
  refine effect_of_moves ?_ (by rw [hw₃, hw₂, hw₁]) rfl
    (hmoves.congr (by rw [hw₁]) (by rw [hw₃])) fun _ _ => rfl
  exact hrows.congr (by rw [hw₃, hw₂])

/-- The commit of `startCollectionMonitoring`. -/
theorem executeCollectionStartedTxn_ok {invoice : Invoice} {dailyRate : ℚ} {paymentId : ℕ}
    {collectionId : ℕ}
    (h : executeCollectionStartedTxn cfg invoice dailyRate paymentId i w = .ok (collectionId, w')) :
    Effect cfg w₀ w (.collectionStarted collectionId invoice.id) w' := by
  simp only [executeCollectionStartedTxn, Repo.createPendingCollectionRecord, Txn.bind_ok,
    Txn.input_ok, Txn.pure_ok] at h
  obtain ⟨_, _, ⟨rfl, rfl⟩, _, w₁, hinsert, _, w₂, hmove, _, w₃, haudit, rfl, rfl⟩ := h
  obtain ⟨hinsert, hw₁⟩ := insertCollection_ok hinsert
  obtain ⟨hw₂, hmoves, -⟩ := updateInvoiceStatus_ok hmove
  have hw₃ := createAuditEntry_ok haudit
  have hrows : RowsEffect cfg w₀ w (.collectionStarted i.uuid invoice.id) w₁ :=
    .opened _ (.started rfl rfl rfl rfl) hinsert
  exact effect_of_moves (hrows.congr (by rw [hw₃, hw₂])) (by rw [hw₃, hw₂, hw₁]) rfl
    (hmoves.congr (by rw [hw₁]) (by rw [hw₃])) fun _ _ => rfl

theorem Writes.refl {collectionId : ℕ} {c : Collection}
    (hc : w.collections.get? collectionId = some c) : Writes collectionId c c w w :=
  ⟨rfl, hc, hc, fun _ _ => rfl⟩

theorem flagIf_ok {flagged : Bool} {collectionId : ℕ} {u : Unit}
    (h : flagIf flagged collectionId i w = .ok (u, w')) {c : Collection}
    (hc : w.collections.get? collectionId = some c) :
    Writes collectionId c (if flagged then Repo.setSarFlagged c else c) w w' := by
  cases flagged with
  | true => exact updateCollection_ok (i := i) h hc
  | false =>
    obtain ⟨-, rfl⟩ := Txn.pure_ok.1 h
    exact .refl hc

/-- An escalation to a level within the bounds that flags what has to be flagged. -/
theorem escalates {collectionId : ℕ} {level : ℤ} {c c₁ : Collection} {flagged : Bool} {w₁ : World}
    (h : Writes collectionId c (if flagged then Repo.setSarFlagged c₁ else c₁) w w₁)
    (hw' : w' = { w₁ with auditLogs := w'.auditLogs }) (hid : c₁.id = c.id)
    (hinvoice : c₁.invoiceId = c.invoiceId) (hstatus : Bounded w₀ → c₁.status = .escalated)
    (hlevel : c₁.escalationLevel = level) (hbounded : Bounded w₀ → 0 ≤ level ∧ level ≤ 3)
    (htotal : c₁.totalCollected = c.totalCollected) (hflag : c₁.sarFlagged = c.sarFlagged)
    (hsar : level = 3 → AboveThreshold cfg w₀ c.invoiceId → flagged = true) :
    Effect cfg w₀ w (.collectionEscalated collectionId level) w' := by
  have hcid : c.id = collectionId := Table.key_of_get? h.row.before
  refine effect_of_rows (h.changed (by rw [hw']) ?_) (by rw [hw', h.world]) rfl
    (fun _ => by rw [hw', h.world]) fun _ _ hp => by simp [paymentOf] at hp
  exact
    { event := by simp [Event.collection?, hcid]
      existing := fun _ _ => by simp
      invoice := fun j hj => by simp [invoiceOf] at hj
      id := by cases flagged <;> exact hid
      invoiceId := by cases flagged <;> exact hinvoice
      status := fun hb => by cases flagged <;> exact hstatus hb
      level := by cases flagged <;> exact hlevel
      bounded := fun hb _ => by
        have hb' := hbounded hb
        rw [← hlevel] at hb'
        cases flagged <;> exact hb'
      three := fun _ hthree => by
        have hthree' : c₁.escalationLevel = 3 := by cases flagged <;> exact hthree
        exact Or.inr (by rw [escalatedTo, ← hlevel, hthree'])
      total := by cases flagged <;> exact htotal
      penalty := fun h => by simp [keepsPenalty] at h
      flag := fun hc => by
        cases flagged with
        | true => rfl
        | false => exact hflag.trans hc
      sar := fun hthree habove => by
        have hthree' : level = 3 := by simpa [escalatedTo] using hthree
        rw [hsar hthree' habove]
        rfl }

/-- The collection after `executeEscalationTxn`. -/
def escalatedRow (cfg : Config) (invoice : Invoice) (newLevel daysOverdue penalty now : ℤ)
    (c : Collection) : Collection :=
  let escalated := Repo.setEscalation newLevel daysOverdue penalty now (Repo.setStatus .escalated c)
  if checkSarFlag cfg newLevel invoice.faceValue then Repo.setSarFlagged escalated else escalated

/-- The statements of `executeEscalationTxn` rewrite one row, before the audit row. -/
theorem executeEscalationTxn_writes {collection c : Collection} {invoice : Invoice}
    {newLevel daysOverdue penalty : ℤ} {u : Unit}
    (h : executeEscalationTxn cfg collection invoice newLevel daysOverdue penalty i w = .ok (u, w'))
    (hc : w.collections.get? collection.id = some c) :
    ∃ w₃, Writes collection.id c (escalatedRow cfg invoice newLevel daysOverdue penalty i.now c) w w₃ ∧
      w' = { w₃ with auditLogs := w'.auditLogs } := by
  simp only [executeEscalationTxn, Repo.updateCollectionStatus, Txn.bind_ok] at h
  obtain ⟨_, w₁, hstatus, _, w₂, hescalation, _, w₃, hflag, haudit⟩ := h
  have hw₁ := updateCollection_ok hstatus hc
  have hw₂ := hw₁.trans (updateCollection_now_ok hescalation hw₁.row.after)
  have hw₃ := hw₂.trans (flagIf_ok hflag hw₂.row.after)
  exact ⟨w₃, hw₃, createAuditEntry_ok haudit⟩

/-- The commit of `processEscalation`. -/
theorem executeEscalationTxn_ok {collection : Collection} {invoice : Invoice}
    {newLevel daysOverdue penalty : ℤ} {u : Unit}
    (h : executeEscalationTxn cfg collection invoice newLevel daysOverdue penalty i w = .ok (u, w'))
    (hbelongs : Belongs w collection.id invoice.id)
    (hface : faceValueOf w₀ invoice.id = some invoice.faceValue)
    (hlevel : 0 ≤ newLevel ∧ newLevel ≤ 3) :
    Effect cfg w₀ w (.collectionEscalated collection.id newLevel) w' := by
  obtain ⟨c, hc, hinvoice⟩ := hbelongs
  obtain ⟨w₃, hw₃, haudit⟩ := executeEscalationTxn_writes h hc
  refine escalates hw₃ haudit rfl rfl (fun _ => rfl) rfl (fun _ => hlevel) rfl rfl
    ?_
  rintro rfl ⟨face, hface', habove⟩
  rw [hinvoice, hface, Option.mem_some_iff] at hface'
  simp [checkSarFlag, hface', habove]

/-- The flag of a manual escalation. -/
theorem flagManualEscalation_ok {collectionId invoiceId : ℕ} {newLevel : ℤ} {u : Unit}
    (h : flagManualEscalation cfg collectionId invoiceId newLevel i w = .ok (u, w')) {c : Collection}
    (hc : w.collections.get? collectionId = some c) :
    ∃ flagged : Bool, Writes collectionId c (if flagged then Repo.setSarFlagged c else c) w w' ∧
      (newLevel = 3 → AboveThreshold cfg w invoiceId → flagged = true) := by
  unfold flagManualEscalation at h
  split at h
  · simp only [Txn.bind_ok, Txn.read_ok] at h
    obtain ⟨_, _, ⟨rfl, rfl⟩, h⟩ := h
    refine ⟨_, flagIf_ok h hc, ?_⟩
    rintro - ⟨face, hface, habove⟩
    obtain ⟨invoice, hinvoice, rfl⟩ := Option.map_eq_some_iff.1 hface
    simp [Repo.getInvoiceForCollection, hinvoice, habove]
  · rename_i hlow
    obtain ⟨-, rfl⟩ := Txn.pure_ok.1 h
    exact ⟨false, .refl hc, fun hthree => absurd hthree.ge hlow⟩

/-- The commit of `escalateCollection`. -/
theorem executeManualEscalationTxn_ok {collectionId invoiceId : ℕ} {currentLevel newLevel : ℤ}
    {userId : ℕ} {reason : String} {u : Unit}
    (h : executeManualEscalationTxn cfg collectionId invoiceId currentLevel newLevel userId reason i w
      = .ok (u, w')) (hw : Inv w₀ w) (hbelongs : Belongs w collectionId invoiceId)
    (hlevel : Bounded w₀ → 0 < newLevel ∧ newLevel ≤ 3) :
    Effect cfg w₀ w (.collectionEscalated collectionId newLevel) w' := by
  simp only [executeManualEscalationTxn, Txn.bind_ok] at h
  obtain ⟨_, w₁, hset, _, w₂, hflag, haudit⟩ := h
  obtain ⟨c, hc, hinvoice⟩ := hbelongs
  have hw₁ := updateCollection_now_ok hset hc
  obtain ⟨flagged, hwrites, hsar⟩ := flagManualEscalation_ok hflag hw₁.row.after
  refine escalates (hw₁.trans hwrites) (createAuditEntry_ok haudit) rfl rfl ?_ rfl
    (fun hb => ⟨(hlevel hb).1.le, (hlevel hb).2⟩) rfl rfl ?_
  · intro hb
    exact if_pos (hlevel hb).1
  · intro hthree habove
    have hsame : faceValueOf w₁ invoiceId = faceValueOf w₀ invoiceId :=
      (faceValueOf_congr (by rw [hw₁.world]) invoiceId).trans (hw.faceValue invoiceId)
    rw [hinvoice] at habove
    exact hsar hthree (by rwa [AboveThreshold, hsame])

theorem markOverdueAtZero_ok {collectionId : ℕ} {newLevel : ℤ} {u : Unit}
    (h : markOverdueAtZero collectionId newLevel i w = .ok (u, w')) {c : Collection}
    (hc : w.collections.get? collectionId = some c) :
    Writes collectionId c (if newLevel = 0 then Repo.setStatus .overdue c else c) w w' := by
  unfold markOverdueAtZero at h
  split at h
  · rename_i hzero
    rw [if_pos hzero]
    exact updateCollection_ok h hc
  · rename_i hne
    obtain ⟨-, rfl⟩ := Txn.pure_ok.1 h
    rw [if_neg hne]
    exact .refl hc

/-- The commit of `deescalateCollection`. -/
theorem executeDeescalationTxn_ok {collectionId : ℕ} {currentLevel newLevel : ℤ} {userId : ℕ}
    {reason : String} {u : Unit}
    (h : executeDeescalationTxn cfg collectionId currentLevel newLevel userId reason i w
      = .ok (u, w')) {c : Collection} (hc : w.collections.get? collectionId = some c)
    (hnonneg : 0 ≤ newLevel) (hlevel : Bounded w₀ → newLevel < 3) :
    Effect cfg w₀ w (.collectionDeescalated collectionId newLevel) w' := by
  simp only [executeDeescalationTxn, Txn.bind_ok] at h
  obtain ⟨_, w₁, hset, _, w₂, hmark, haudit⟩ := h
  have hw₁ := updateCollection_now_ok hset hc
  have hwrites := hw₁.trans (markOverdueAtZero_ok hmark hw₁.row.after)
  have hw' := createAuditEntry_ok haudit
  have hcid : c.id = collectionId := Table.key_of_get? hc
  refine effect_of_rows (hwrites.changed (by rw [hw']) ?_) (by rw [hw', hwrites.world]) rfl
    (fun _ => by rw [hw', hwrites.world]) fun _ _ hp => by simp [paymentOf] at hp
  exact
    { event := by simp [Event.collection?, hcid]
      existing := fun _ _ => by simp
      invoice := fun j hj => by simp [invoiceOf] at hj
      id := by split <;> rfl
      invoiceId := by split <;> rfl
      status := fun _ => by
        -- a level that is not 0 is positive
        by_cases hzero : newLevel = 0
        · simp [hzero, nextStatus, statusAfter, Repo.setStatus]
        · have hpos : 0 < newLevel := by omega
          simp [hzero, hpos, nextStatus, statusAfter, Repo.setLevel]
      level := by split <;> rfl
      bounded := fun hb _ => by split <;> exact ⟨hnonneg, (hlevel hb).le⟩
      three := fun hb hthree => by
        have hthree' : newLevel = 3 := by split at hthree <;> exact hthree
        exact absurd hthree' (hlevel hb).ne
      total := by split <;> rfl
      penalty := fun _ => by split <;> rfl
      flag := fun hflag => by split <;> exact hflag
      sar := fun hsar => by simp [escalatedTo] at hsar }

theorem reduceBuyerUsedLimit_ok {buyerId : ℕ} {amount : ℤ} {u : Unit}
    (h : Repo.reduceBuyerUsedLimit buyerId amount i w = .ok (u, w')) :
    w' = { w with
      buyers := w.buyers.update (fun b => b.id = buyerId) (Repo.subUsedLimit amount)
        (Repo.id_subUsedLimit amount) } := by
  simp only [Repo.reduceBuyerUsedLimit, Txn.bind_ok, Txn.read_ok, id] at h
  obtain ⟨_, _, ⟨rfl, rfl⟩, h⟩ := h
  split at h
  · cases h
  · exact (Txn.write_ok.1 h).symm

/-- The transition finds the invoice in the status that it expects. -/
theorem assertInvoiceCollectedTransition_ok {invoiceId : ℕ} {expected : InvoiceStatus} {u : Unit}
    (h : assertInvoiceCollectedTransition invoiceId expected i w = .ok (u, w')) :
    w' = { w with invoices := w'.invoices } ∧ ∃ r, r.status = expected ∧
      w.invoices.Rewrites w'.invoices invoiceId r (Payments.setInvoiceStatus .collected i.now r) := by
  simp only [assertInvoiceCollectedTransition, Txn.bind_ok] at h
  obtain ⟨transitioned, w₁, hmove, h⟩ := h
  cases transitioned with
  | false => simp at h
  | true =>
    obtain ⟨-, rfl⟩ := Txn.pure_ok.1 h
    obtain ⟨hw₁, -, hstatus⟩ := updateInvoiceStatus_ok hmove
    obtain ⟨r, hr, rfl⟩ := Option.map_eq_some_iff.1 (hstatus.1 rfl)
    exact ⟨hw₁, r, rfl, updateInvoiceStatus_rewrites hmove hr rfl⟩

/-- What the transaction of `recordPaymentReceived` writes. -/
structure PaymentWrites (input : RecordPaymentInput) (invoice : Invoice) (collectionId : ℕ) (t : ℤ)
    (w w' : World) : Prop where
  moved : ∃ r, r.status = invoice.status ∧
    w.invoices.Rewrites w'.invoices input.invoiceId r (Payments.setInvoiceStatus .collected t r)
  payment : ∃ p, p.collectionId = collectionId ∧ p.amount = input.amount ∧ 0 < input.amount ∧
    w.collectionPayments.insert? p = some w'.collectionPayments
  buyers : w'.buyers =
    (w.buyers.update (fun b => b.id = invoice.buyerId) (Repo.subUsedLimit invoice.faceValue)
      (Repo.id_subUsedLimit invoice.faceValue)).update (fun b => b.id = invoice.buyerId)
      (Repo.adjustScore (Repo.scoreAdjustment (calculateDaysLate input.paymentDate invoice.dueDate)))
      (Repo.id_adjustScore
        (Repo.scoreAdjustment (calculateDaysLate input.paymentDate invoice.dueDate)))
  collection : ∃ c,
    w.collections.Rewrites w'.collections collectionId c (Repo.setCollected input.amount t c)
  audit : ∃ entry, w'.auditLogs = w.auditLogs ++ [entry]
  rest : w' = { w with
    invoices := w'.invoices
    buyers := w'.buyers
    collections := w'.collections
    collectionPayments := w'.collectionPayments
    auditLogs := w'.auditLogs }

/-- The commit of `recordPaymentReceived`: there was a collection, and each table was written once. -/
theorem executePaymentReceivedTxn_writes {input : RecordPaymentInput} {invoice : Invoice}
    {collection : Option Collection} {u : Unit}
    (h : executePaymentReceivedTxn cfg input invoice collection i w = .ok (u, w')) :
    ∃ c, collection = some c ∧ PaymentWrites input invoice c.id i.now w w' := by
  simp only [executePaymentReceivedTxn, Repo.adjustBuyerPaymentScore, Txn.bind_ok, Txn.write_ok] at h
  obtain ⟨_, w₁, hassert, _, w₂, hpayment, _, w₃, hlimit, _, w₄, hscore, _, w₅, hresolve, haudit⟩ := h
  obtain ⟨hw₁, r, hstatus, hrewrites⟩ := assertInvoiceCollectedTransition_ok hassert
  obtain ⟨p, c, hid, hamount, hpos, hc, hinsert, hw₂⟩ := recordPaymentReceived_ok hpayment
  have hw₃ := reduceBuyerUsedLimit_ok hlimit
  obtain ⟨collection, rfl, hpid⟩ := Option.map_eq_some_iff.1 hid
  have hc₄ : w₄.collections.get? collection.id = some c := by
    rw [← hscore, hw₃, hw₂, hpid]
    exact hc
  have hwrites := updateCollection_now_ok hresolve hc₄
  obtain ⟨entry, rfl⟩ := createAuditEntry_appends haudit
  have hw₅ := hwrites.world
  -- each of the six statements writes a table of its own, but for the two on `buyers`
  have hinvoices : w₅.invoices = w₁.invoices := by rw [hw₅, ← hscore, hw₃, hw₂]
  have hpayments : w₅.collectionPayments = w₂.collectionPayments := by rw [hw₅, ← hscore, hw₃]
  have hcollections : w₄.collections = w.collections := by rw [← hscore, hw₃, hw₂, hw₁]
  refine ⟨collection, rfl, ⟨r, hstatus, ?_⟩, ⟨p, hpid.symm, hamount, hpos, ?_⟩, ?_, ⟨c, ?_⟩, ⟨entry, ?_⟩,
    ?_⟩
  · show w.invoices.Rewrites w₅.invoices _ _ _
    rw [hinvoices]
    exact hrewrites
  · show w.collectionPayments.insert? p = some w₅.collectionPayments
    rw [hpayments, ← hinsert, hw₁]
  · show w₅.buyers = _
    rw [hw₅, ← hscore, hw₃, hw₂, hw₁]
  · show w.collections.Rewrites w₅.collections _ _ _
    rw [← hcollections]
    exact hwrites.row
  · show w₅.auditLogs ++ [entry] = w.auditLogs ++ [entry]
    rw [hw₅, ← hscore, hw₃, hw₂, hw₁]
  · rw [hw₅, ← hscore, hw₃, hw₂, hw₁]

/-- The commit of `recordPaymentReceived`, as an effect. -/
theorem executePaymentReceivedTxn_ok {input : RecordPaymentInput} {invoice : Invoice}
    {collection : Option Collection} {u : Unit}
    (h : executePaymentReceivedTxn cfg input invoice collection i w = .ok (u, w'))
    (hopen : invoice.status ≠ .collected)
    (hbelongs : ∀ c ∈ collection, Belongs w c.id input.invoiceId) :
    Effect cfg w₀ w (paymentEvent input collection) w' := by
  obtain ⟨collection, rfl, hwrites⟩ := executePaymentReceivedTxn_writes h
  obtain ⟨r, hstatus, hinvoice⟩ := hwrites.moved
  obtain ⟨p, hpid, hamount, hpos, hinsert⟩ := hwrites.payment
  obtain ⟨c, hrow⟩ := hwrites.collection
  obtain ⟨c', hc', hbelongs⟩ := hbelongs collection rfl
  obtain rfl : c' = c := Option.some.inj (hc'.symm.trans hrow.before)
  have hmoves := Moves.of_rewrites hinvoice
  have hcid : c'.id = collection.id := Table.key_of_get? hrow.before
  have hfound : statusOf w input.invoiceId = some invoice.status := by
    rw [statusOf, hinvoice.before, Option.map_some, hstatus]
  have hresolved : Writes collection.id c' (Repo.setCollected input.amount i.now c') w
      { w with collections := w'.collections } := ⟨rfl, hrow⟩
  refine ⟨hresolved.changed rfl ?_, ?_, ?_, ?_, ?_, ?_⟩
  · exact
        { event := by simp [paymentEvent, Event.collection?, hcid]
          existing := fun _ _ => by simp [paymentEvent]
          invoice := fun j hj => by simpa [paymentEvent, hbelongs, invoiceOf] using hj.symm
          id := rfl
          invoiceId := rfl
          status := fun _ => rfl
          level := rfl
          bounded := fun _ _ => ⟨le_rfl, (by decide : (0 : ℤ) ≤ 3)⟩
          three := fun _ hc => absurd hc (by decide : (0 : ℤ) ≠ 3)
          total := rfl
          penalty := fun _ => rfl
          flag := fun hflag => hflag
          sar := fun hsar => by simp [paymentEvent, escalatedTo] at hsar }
  · intro j
    rw [hmoves.status]
    by_cases hj : input.invoiceId = j
    · subst hj
      simp [hfound, hstatus, paymentEvent, nextInvoiceStatus]
    · have hid : nextInvoiceStatus (paymentEvent input (some collection)) j = id := by
        funext status
        simp [paymentEvent, nextInvoiceStatus, hj]
      simp [hj, hid]
  · exact hmoves.faceValue
  · intro hnone
    simp [paymentEvent, paymentOf] at hnone
  · intro collectionId amount hp
    simp only [paymentEvent, paymentOf, Option.some.injEq, Prod.mk.injEq] at hp
    obtain ⟨rfl, rfl⟩ := hp
    exact ⟨p, hpid, hamount, hpos, hinsert⟩
  · intro invoiceId collectionId amount he
    simp only [paymentEvent, Event.paymentReceived.injEq] at he
    obtain ⟨rfl, -, -⟩ := he
    exact ⟨_, hfound, hopen⟩

/-- The commit of `recordCollectionPayment`. -/
theorem executeCollectionPaymentTxn_ok {collectionId : ℕ} {input : FrontendRecordPaymentInput}
    {userId : ℕ} {prevStatus : CollectionStatus} {u : Unit}
    (h : executeCollectionPaymentTxn cfg collectionId input userId prevStatus i w = .ok (u, w')) :
    Effect cfg w₀ w (.collectionPaid collectionId input.amount) w' := by
  simp only [executeCollectionPaymentTxn, Txn.bind_ok] at h
  obtain ⟨_, w₁, hpayment, _, w₂, hadd, haudit⟩ := h
  obtain ⟨p, c, hid, hamount, hpos, hc, hinsert, hw₁⟩ := recordPaymentReceived_ok hpayment
  obtain rfl := Option.some.inj hid
  have hc₁ : w₁.collections.get? p.collectionId = some c := by rwa [hw₁]
  have hwrites := updateCollection_now_ok hadd hc₁
  have hw' := createAuditEntry_ok haudit
  have hcid : c.id = p.collectionId := Table.key_of_get? hc
  have hcollections : w₁.collections = w.collections := by rw [hw₁]
  have hadded : Writes p.collectionId c (Repo.addCollected input.amount i.now c) w
      { w with collections := w₂.collections } := ⟨rfl, hcollections ▸ hwrites.row⟩
  refine effect_of_rows (hadded.changed (by rw [hw']) ?_) (by rw [hw', hwrites.world, hw₁]) rfl
    (fun hnone => by simp [paymentOf] at hnone) ?_
  · exact
      { event := by simp [Event.collection?, hcid]
        existing := fun _ _ => by simp
        invoice := fun j hj => by simp [invoiceOf] at hj
        id := rfl
        invoiceId := rfl
        status := fun _ => rfl
        level := rfl
        bounded := fun _ hc => hc
        three := fun _ hc => Or.inl hc
        total := rfl
        penalty := fun _ => rfl
        flag := fun hflag => hflag
        sar := fun hsar => by simp [escalatedTo] at hsar }
  · intro collectionId amount hp
    obtain ⟨rfl, rfl⟩ := Prod.mk.inj (Option.some.inj hp)
    refine ⟨p, rfl, hamount, hpos, ?_⟩
    rw [hw', hwrites.world, ← hinsert]

/-- An event that sets the status of its collection, and no more of it. -/
theorem collectionStep_setStatus {e : Event} {c : Collection} {status : CollectionStatus}
    (hevent : e.collection? = some c.id)
    (hexisting : ∀ collectionId invoiceId, e ≠ .collectionStarted collectionId invoiceId)
    (hinvoice : invoiceOf e = some c.invoiceId) (hstatus : statusAfter e = some status)
    (hlevel : ∀ level, nextLevel e level = level) (htotal : ∀ total, nextTotal e total = total)
    (hescalated : escalatedTo e = none) :
    CollectionStep cfg w₀ e c (Repo.setStatus status c) where
  event := hevent
  existing := hexisting
  invoice j hj := Option.some.inj (hj.symm.trans hinvoice)
  id := rfl
  invoiceId := rfl
  status _ := by rw [nextStatus, hstatus, Option.getD_some, Repo.setStatus]
  level := (hlevel c.escalationLevel).symm
  bounded _ hc := hc
  three _ hc := Or.inl hc
  total := (htotal c.totalCollected).symm
  penalty _ := rfl
  flag hflag := hflag
  sar hsar := by simp [hescalated] at hsar

/-- No other status of an open collection is a value of `invoice_status`. -/
theorem asInvoiceStatus_resolvedFrom {prevStatus : CollectionStatus} {expected : InvoiceStatus}
    (h : asInvoiceStatus (if prevStatus = .escalated then .overdue else prevStatus) = .ok expected)
    (hprev : prevStatus ≠ .collected) : expected = resolvedFrom prevStatus := by
  cases prevStatus with
  | overdue | escalated | defaulted => exact (Except.ok.inj h).symm
  | collected => exact absurd rfl hprev
  | pending | reminderSent | partialPayment | reminded | badDebt => cases h

/-- The commit of `resolveCollectionById`: the status that was read is one that an invoice may have. -/
theorem executeResolveTxn_ok {collectionId invoiceId : ℕ} {prevStatus : CollectionStatus}
    {userId : ℕ} {u : Unit}
    (h : executeResolveTxn cfg collectionId invoiceId prevStatus userId i w = .ok (u, w'))
    (hprev : prevStatus ≠ .collected) (hbelongs : Belongs w collectionId invoiceId) :
    Effect cfg w₀ w (.collectionResolved collectionId invoiceId prevStatus) w' := by
  simp only [executeResolveTxn, Repo.resolveCollectionById, Txn.bind_ok, Txn.liftM_ok] at h
  obtain ⟨_, w₁, hresolve, expected, _, ⟨hexpected, rfl⟩, _, w₂, hmove, haudit⟩ := h
  obtain ⟨c, hc, hinvoice⟩ := hbelongs
  obtain rfl := asInvoiceStatus_resolvedFrom hexpected hprev
  have hwrites := updateCollection_ok hresolve hc
  obtain ⟨hw₂, hmoves, -⟩ := updateInvoiceStatus_ok hmove
  have hw' := createAuditEntry_ok haudit
  have hcid : c.id = collectionId := Table.key_of_get? hc
  have hstep : CollectionStep cfg w₀ (.collectionResolved collectionId invoiceId prevStatus) c
      (Repo.setStatus .collected c) :=
    collectionStep_setStatus (by simp [Event.collection?, hcid]) (by simp)
      (by simp [invoiceOf, hinvoice]) rfl (fun _ => rfl) (fun _ => rfl) rfl
  exact effect_of_moves (hwrites.changed (by rw [hw', hw₂]) hstep) (by rw [hw', hw₂, hwrites.world]) rfl
    (hmoves.congr (by rw [hwrites.world]) (by rw [hw'])) fun _ _ => rfl

/-- The commit of `defaultSingleCollection`. -/
theorem executeDefaultTxn_ok {collectionId invoiceId : ℕ} {u : Unit}
    (h : executeDefaultTxn cfg collectionId invoiceId i w = .ok (u, w'))
    (hbelongs : Belongs w collectionId invoiceId) :
    Effect cfg w₀ w (.collectionDefaulted collectionId invoiceId) w' := by
  simp only [executeDefaultTxn, Repo.updateCollectionStatus, Txn.bind_ok] at h
  obtain ⟨_, w₁, hstatus, _, w₂, hmove, haudit⟩ := h
  obtain ⟨c, hc, hinvoice⟩ := hbelongs
  have hwrites := updateCollection_ok hstatus hc
  obtain ⟨hw₂, hmoves, -⟩ := updateInvoiceStatus_ok hmove
  have hw' := createAuditEntry_ok haudit
  have hcid : c.id = collectionId := Table.key_of_get? hc
  have hstep : CollectionStep cfg w₀ (.collectionDefaulted collectionId invoiceId) c
      (Repo.setStatus .badDebt c) :=
    collectionStep_setStatus (by simp [Event.collection?, hcid]) (by simp)
      (by simp [invoiceOf, hinvoice]) rfl (fun _ => rfl) (fun _ => rfl) rfl
  exact effect_of_moves (hwrites.changed (by rw [hw', hw₂]) hstep) (by rw [hw', hw₂, hwrites.world]) rfl
    (hmoves.congr (by rw [hwrites.world]) (by rw [hw'])) fun _ _ => rfl

/-! ## Triples -/

section Quiet

variable {G : Protocol World Event} (hG : Quiet G)

include hG

theorem free_getDailyPenaltyRate : Free G getDailyPenaltyRate := by
  refine free_bind (free_statement hG ?_) fun value => ?_
  · intro s t i a d _ h
    simp only [Txn.bind_ok, Txn.input_ok, Txn.pure_ok] at h
    obtain ⟨_, _, ⟨-, rfl⟩, -, rfl⟩ := h
    exact hG.read s t
  · cases value with
    | some rate => exact free_pure _
    | none => exact free_bind (free_log hG _) fun _ => free_pure _

theorem free_queryToday {α : Type} (f : ℤ → World → α) : Free G (queryToday f) := by
  refine free_statement hG ?_
  intro s t i a d _ h
  simp only [currentDate, Txn.bind_ok, connect_ok, now_ok, Txn.pure_ok, Txn.read_ok] at h
  obtain ⟨_, _, ⟨-, rfl⟩, _, _, ⟨_, _, ⟨-, rfl⟩, -, rfl⟩, -, rfl⟩ := h
  exact hG.read s t

theorem free_getCollectionByInvoiceId (invoiceId : ℕ) :
    Free G (getCollectionByInvoiceId invoiceId) := by
  refine free_statement hG ?_
  intro s t i a d _ h
  simp only [Txn.bind_ok, connect_ok, Txn.input_ok, Txn.read_ok] at h
  obtain ⟨_, _, ⟨-, rfl⟩, _, _, ⟨rfl, rfl⟩, -, rfl⟩ := h
  exact hG.read s t

theorem yields_getInvoiceForCollection (invoiceId : ℕ) :
    Yields G (query (Repo.getInvoiceForCollection invoiceId)) fun found =>
      ∀ r ∈ found, r.id = invoiceId :=
  yields_query hG fun _ _ _ hr => Table.key_of_get? hr

/-- `startCollectionMonitoring` follows a protocol that allows its commit. -/
theorem free_startCollectionMonitoring_of (invoiceId paymentId : ℕ)
    (hstarted : ∀ (s : State World Event) t i invoice dailyRate collectionId d, G.inv s →
      invoice.id = invoiceId →
      executeCollectionStartedTxn cfg invoice dailyRate paymentId i s.store = .ok (collectionId, d) →
      G.effect s t (some (.collectionStarted collectionId invoiceId)) d) :
    Free G (startCollectionMonitoring cfg invoiceId paymentId) := by
  refine free_bind (free_getCollectionByInvoiceId hG invoiceId) fun existing => ?_
  cases existing with
  | some _ => exact free_log hG _
  | none =>
    refine (yields_getInvoiceForCollection hG invoiceId).bind fun found hfound => ?_
    cases found with
    | none => exact free_throw _
    | some invoice =>
      obtain rfl := hfound invoice rfl
      dsimp only
      split
      · exact free_log hG _
      · refine free_bind ?_ fun _ => free_log hG _
        refine free_bind (free_getDailyPenaltyRate hG) fun rate =>
          free_bind (free_transaction hG ?_) fun _ => free_pure _
        intro s t i collectionId d hs h
        exact hstarted s t i invoice rate collectionId d hs rfl h

end Quiet

section Permissive

variable {G : Protocol World Event} (hG : Permissive G)

include hG

theorem free_queueNotification (name : String) (data : List (String × Json)) :
    Free G (queueNotification cfg name data) :=
  free_enqueueOrWarn hG _ _ _

theorem free_autoGenerateDraft (level : ℤ) : Free G (autoGenerateDraft level) := by
  unfold autoGenerateDraft
  split
  · exact free_log hG _
  · exact free_pure _

theorem free_queueFacilityRepayment (invoiceId : ℕ) :
    Free G (queueFacilityRepayment cfg invoiceId) := by
  unfold queueFacilityRepayment
  split
  · refine free_bind (free_statement hG ?_) fun _ => free_enqueueWithContext hG _
    intro s t i a d _ h
    simp only [Txn.bind_ok, connect_ok, Txn.input_ok, Txn.read_ok] at h
    obtain ⟨_, _, ⟨-, rfl⟩, _, _, ⟨rfl, rfl⟩, -, rfl⟩ := h
    exact hG.read s t
  · exact free_log hG _

theorem free_dispatchPostPaymentJobs (input : RecordPaymentInput) (invoice : Invoice)
    (collection : Option Collection) :
    Free G (dispatchPostPaymentJobs cfg input invoice collection) :=
  free_bind (free_queueFacilityRepayment hG _) fun _ =>
    free_bind (free_enqueueOrWarn hG _ _ _) fun _ => free_queueNotification hG _ _

end Permissive

section Service

variable (cfg : Config) (w₀ : World)

/-- An invoice that was read has the face value it had at the start. -/
theorem yields_invoice (invoiceId : ℕ) :
    Yields (protocol cfg w₀) (query (Repo.getInvoiceForCollection invoiceId)) fun found =>
      ∀ r ∈ found, r.id = invoiceId ∧ faceValueOf w₀ r.id = some r.faceValue := by
  refine yields_query (permissive cfg w₀) fun s hs r hr => ?_
  have hid : r.id = invoiceId := Table.key_of_get? hr
  refine ⟨hid, ?_⟩
  rw [← hs.faceValue r.id, faceValueOf, hid]
  exact congrArg (Option.map Invoice.faceValue) hr

/-- The row that was read exists, is of the invoice, and has a level within the bounds. -/
def Found (collectionId : ℕ) (found : Option Collection) (s : State World Event) : Prop :=
  ∀ c ∈ found, Belongs s.store collectionId c.invoiceId ∧
    (Bounded w₀ → 0 ≤ c.escalationLevel ∧ c.escalationLevel ≤ 3)

theorem steady_found (collectionId : ℕ) (found : Option Collection) :
    (protocol cfg w₀).Steady (Found w₀ collectionId found) := by
  intro s u e d hs h heff c hc
  exact ⟨steady_belongs cfg w₀ _ _ s u e d hs (h c hc).1 heff, (h c hc).2⟩

theorem triple_getCollectionById (collectionId t : ℕ) :
    (protocol cfg w₀).Triple t (fun _ => True) (query (Repo.getCollectionById collectionId))
      (Found w₀ collectionId) fun _ _ => True := by
  refine triple_query (permissive cfg w₀) t fun s hs c hc => ⟨⟨c, hc, rfl⟩, fun hb => ?_⟩
  exact hs.bounded hb c (Table.mem_of_get? hc)

/-- The row that was read exists and is of the invoice. -/
def FoundOf (invoiceId : ℕ) (found : Option Collection) (s : State World Event) : Prop :=
  ∀ c ∈ found, Belongs s.store c.id invoiceId

theorem steady_foundOf (invoiceId : ℕ) (found : Option Collection) :
    (protocol cfg w₀).Steady (FoundOf invoiceId found) := by
  intro s u e d hs h heff c hc
  exact steady_belongs cfg w₀ _ _ s u e d hs (h c hc) heff

/-- The latest collection of an invoice is one of its collections. -/
theorem getCollectionByInvoiceId_some {w : World} {invoiceId choice : ℕ} {c : Collection}
    (h : Repo.getCollectionByInvoiceId invoiceId choice w = some c) :
    c ∈ w.collections.rows ∧ c.invoiceId = invoiceId := by
  have hmem := List.mem_of_getElem? h
  obtain ⟨hrow, hmatch⟩ := List.mem_filter.1 hmem
  exact ⟨hrow, (of_decide_eq_true hmatch).1⟩

theorem triple_getCollectionByInvoiceId (invoiceId t : ℕ) :
    (protocol cfg w₀).Triple t (fun _ => True) (getCollectionByInvoiceId invoiceId)
      (FoundOf invoiceId) fun _ _ => True := by
  have hG := permissive cfg w₀
  refine triple_statement hG (fun _ _ _ _ _ _ _ => trivial) t fun s i found d hs _ h => ?_
  simp only [Txn.bind_ok, connect_ok, Txn.input_ok, Txn.read_ok] at h
  obtain ⟨_, _, ⟨-, rfl⟩, _, _, ⟨rfl, rfl⟩, rfl, rfl⟩ := h
  refine ⟨hG.read s t, fun c hc => ?_⟩
  obtain ⟨hrow, hinvoice⟩ := getCollectionByInvoiceId_some hc
  exact ⟨c, Table.get?_of_mem hrow, hinvoice⟩

theorem free_processOverdueInvoice (invoiceId : ℕ) (notifyUserId : Actor) :
    Free (protocol cfg w₀) (processOverdueInvoice cfg invoiceId notifyUserId) := by
  have hG := permissive cfg w₀
  refine (yields_invoice cfg w₀ invoiceId).bind fun found hfound => ?_
  cases found with
  | none => exact free_throw _
  | some invoice =>
    obtain ⟨rfl, -⟩ := hfound invoice rfl
    dsimp only
    split
    · exact free_pure _
    · refine free_bind (free_getDailyPenaltyRate hG) fun rate => ?_
      refine fun t => (triple_getCollectionByInvoiceId cfg w₀ invoice.id t).bind fun existing => ?_
      refine (triple_transaction hG (steady_foundOf cfg w₀ _ existing) t ?_).bind fun _ =>
        (free_bind (free_log hG _) fun _ => free_queueNotification hG _ _) t
      intro s i collectionId d _ hbelongs h
      exact executeOverdueTxn_ok h hbelongs

theorem free_startCollectionMonitoring (invoiceId paymentId : ℕ) :
    Free (protocol cfg w₀) (startCollectionMonitoring cfg invoiceId paymentId) := by
  refine free_startCollectionMonitoring_of (permissive cfg w₀) invoiceId paymentId ?_
  rintro s t i invoice dailyRate collectionId d - rfl h
  exact executeCollectionStartedTxn_ok h

/-- The level of a number of days overdue is within the bounds. -/
theorem determineEscalationLevel_bounded (daysOverdue : ℤ) :
    0 ≤ determineEscalationLevel daysOverdue ∧ determineEscalationLevel daysOverdue ≤ 3 := by
  unfold determineEscalationLevel
  split_ifs <;> decide

theorem free_processEscalation (invoiceId : ℕ) (daysOverdue : ℤ) :
    Free (protocol cfg w₀) (processEscalation cfg invoiceId daysOverdue) := by
  have hG := permissive cfg w₀
  refine (yields_invoice cfg w₀ invoiceId).bind fun found hfound => ?_
  cases found with
  | none => exact free_throw _
  | some invoice =>
    obtain ⟨rfl, hface⟩ := hfound invoice rfl
    refine fun t => (triple_getCollectionByInvoiceId cfg w₀ invoice.id t).bind fun existing => ?_
    cases existing with
    | none => exact (free_throw _).of _ t
    | some collection =>
      dsimp only
      split
      · exact (free_pure _).of _ t
      · have hsteady := steady_foundOf cfg w₀ invoice.id (some collection)
        refine ((free_getDailyPenaltyRate hG).keeps hsteady t).weaken (fun _ _ _ h => h)
          (fun _ _ _ _ => trivial) |>.bind fun rate => ?_
        refine (triple_transaction hG hsteady t ?_).bind fun _ =>
          (free_bind (free_log hG _) fun _ => free_bind (free_queueNotification hG _ _) fun _ =>
            free_autoGenerateDraft hG _) t
        intro s i u d _ hbelongs h
        exact executeEscalationTxn_ok h (hbelongs collection rfl) hface
          (determineEscalationLevel_bounded daysOverdue)

theorem free_recordPaymentReceived (input : RecordPaymentInput) :
    Free (protocol cfg w₀) (recordPaymentReceived cfg input) := by
  have hG := permissive cfg w₀
  refine free_bind (free_query hG _) fun found => ?_
  cases found with
  | none => exact free_throw _
  | some invoice =>
    dsimp only
    split
    · exact free_throw _
    · rename_i hopen
      refine fun t =>
        (triple_getCollectionByInvoiceId cfg w₀ input.invoiceId t).bind fun collection => ?_
      refine Protocol.Triple.bind (R := fun _ _ => True) ?_ fun _ => (free_bind (free_log hG _) fun _ =>
        free_dispatchPostPaymentJobs hG _ _ _) t
      refine .transaction ((steady_foundOf cfg w₀ _ collection).stable t) ?_ ?_
      · intro s i u d _ hbelongs h
        simp only [Txn.bind_ok, connect_ok] at h
        obtain ⟨_, _, ⟨-, rfl⟩, h⟩ := h
        exact ⟨executePaymentReceivedTxn_ok h hopen hbelongs, trivial⟩
      · intro s i e _ _ _
        refine ⟨.silent ?_ rfl rfl rfl, trivial⟩
        cases e <;> rfl

theorem free_recordCollectionPayment (collectionId : ℕ) (input : FrontendRecordPaymentInput)
    (userId : ℕ) : Free (protocol cfg w₀) (recordCollectionPayment cfg collectionId input userId) := by
  have hG := permissive cfg w₀
  refine free_bind (free_query hG _) fun found => ?_
  cases found with
  | none => exact free_throw _
  | some collection =>
    dsimp only
    split
    · exact free_throw _
    · refine free_bind (free_transaction hG ?_) fun _ => free_log hG _
      intro s t i u d _ h
      exact executeCollectionPaymentTxn_ok h

theorem free_escalateCollection (collectionId userId : ℕ) (reason : String) :
    Free (protocol cfg w₀) (escalateCollection cfg collectionId userId reason) := by
  have hG := permissive cfg w₀
  refine fun t => (triple_getCollectionById cfg w₀ collectionId t).bind fun found => ?_
  cases found with
  | none => exact (free_throw _).of _ t
  | some collection =>
    dsimp only
    split
    · exact (free_throw _).of _ t
    · refine (triple_transaction hG (steady_found cfg w₀ _ _) t ?_).bind fun _ => free_log hG _ t
      intro s i u d hs hfound h
      obtain ⟨hbelongs, hlevel⟩ := hfound collection rfl
      refine executeManualEscalationTxn_ok h hs hbelongs fun hb => ?_
      have hlevel' := hlevel hb
      omega

theorem free_deescalateCollection (collectionId userId : ℕ) (reason : String) :
    Free (protocol cfg w₀) (deescalateCollection cfg collectionId userId reason) := by
  have hG := permissive cfg w₀
  refine fun t => (triple_getCollectionById cfg w₀ collectionId t).bind fun found => ?_
  cases found with
  | none => exact (free_throw _).of _ t
  | some collection =>
    dsimp only
    split
    · exact (free_throw _).of _ t
    · refine (triple_transaction hG (steady_found cfg w₀ _ _) t ?_).bind fun _ => free_log hG _ t
      intro s i u d _ hfound h
      obtain ⟨⟨c, hc, -⟩, hlevel⟩ := hfound collection rfl
      refine executeDeescalationTxn_ok h hc (by omega) fun hb => ?_
      have hlevel' := hlevel hb
      omega

theorem free_resolveCollectionById (collectionId userId : ℕ) :
    Free (protocol cfg w₀) (resolveCollectionById cfg collectionId userId) := by
  have hG := permissive cfg w₀
  refine fun t => (triple_getCollectionById cfg w₀ collectionId t).bind fun found => ?_
  cases found with
  | none => exact (free_throw _).of _ t
  | some collection =>
    dsimp only
    split
    · exact (free_throw _).of _ t
    · rename_i hopen
      refine (triple_transaction hG (steady_found cfg w₀ _ _) t ?_).bind fun _ => free_log hG _ t
      intro s i u d _ hfound h
      exact executeResolveTxn_ok h hopen (hfound collection rfl).1

theorem free_processSingleReminder (inv : Invoice × Repo.ReminderType) :
    Free (protocol cfg w₀) (processSingleReminder cfg inv) := by
  have hG := permissive cfg w₀
  have hoverdue : Free (protocol cfg w₀) (tryCatch (processOverdueInvoice cfg inv.1.id .system)
      fun _ => log "T+1 overdue processing skipped") :=
    free_tryCatch (free_processOverdueInvoice cfg w₀ _ _) fun _ => free_log hG _
  have hremind : ∀ u : PUnit, Free (protocol cfg w₀) (do
      if inv.2 = .tMinus3 then
        queueNotification cfg "buyer-payment-escalation"
          [("invoiceId", .id inv.1.id), ("buyerId", .id inv.1.buyerId),
            ("type", .text "credit_officer_escalation"),
            ("message", .text "Buyer has not responded to payment reminder at T-3")]) := by
    intro _
    split
    · exact free_queueNotification hG _ _
    · exact free_pure _
  refine free_tryCatch ?_ fun _ => free_log hG _
  refine free_bind (free_queueNotification hG _ _) fun _ => ?_
  unfold handleReminderEscalation
  dsimp only
  split
  · exact free_bind hoverdue hremind
  · exact hremind ⟨⟩

theorem free_processReminders : Free (protocol cfg w₀) (processReminders cfg) :=
  free_tryCatch (free_bind (free_queryToday (permissive cfg w₀) _) fun _ =>
    free_forM (free_processSingleReminder cfg w₀)) fun _ => free_log (permissive cfg w₀) _

/-- The list of a batch: its collections have rows, of these invoices. -/
def AllFound (collections : List Collection) (s : State World Event) : Prop :=
  ∀ c ∈ collections, Belongs s.store c.id c.invoiceId

theorem steady_allFound (collections : List Collection) :
    (protocol cfg w₀).Steady (AllFound collections) := by
  intro s u e d hs h heff c hc
  exact steady_belongs cfg w₀ _ _ s u e d hs (h c hc) heff

theorem triple_defaultSingleCollection (collectionId invoiceId t : ℕ) :
    (protocol cfg w₀).Triple t (fun s => Belongs s.store collectionId invoiceId)
      (defaultSingleCollection cfg collectionId invoiceId) (fun _ _ => True) fun _ _ => True := by
  have hG := permissive cfg w₀
  refine (triple_transaction hG (steady_belongs cfg w₀ _ _) t ?_).bind fun _ =>
    free_bind (free_log hG _) (fun _ => free_queueNotification hG _ _) t
  intro s i u d _ hbelongs h
  exact executeDefaultTxn_ok h hbelongs

theorem free_processDefaulted : Free (protocol cfg w₀) (processDefaulted cfg) := by
  have hG := permissive cfg w₀
  intro t
  refine Protocol.Triple.bind (R := AllFound) ?_ fun collections => ?_
  · refine triple_query hG t fun s _ c hc => ⟨c, Table.get?_of_mem ?_, rfl⟩
    rw [Repo.getDefaultableCollections, List.mem_insertionSort] at hc
    exact List.mem_of_mem_filter hc
  · have hsteady := steady_allFound cfg w₀ collections
    refine (Protocol.Triple.forM fun c hc => ?_).weaken (fun _ _ _ _ => trivial) fun _ _ _ h => h
    have hone := (triple_defaultSingleCollection cfg w₀ c.id c.invoiceId t).tryCatch fun _ =>
      free_log hG "Auto-default failed" t
    exact (hone.frame hsteady).conseq (fun _ _ h => ⟨h, h c hc⟩) (fun _ _ _ h => h.1)
      fun _ _ _ _ => trivial

theorem free_overdueProcessing : Free (protocol cfg w₀) (overdueProcessing cfg) := by
  have hG := permissive cfg w₀
  refine free_bind (free_bind (free_queryToday hG _) fun _ => free_bind (free_forM fun _ => ?_)
    fun _ => free_log hG _) fun _ => free_bind (free_query hG _) fun _ =>
      free_bind (free_forM fun _ => ?_) fun _ => free_log hG _
  · exact free_tryCatch (free_processOverdueInvoice cfg w₀ _ _) fun _ => free_log hG _
  · exact free_tryCatch (free_processEscalation cfg w₀ _ _) fun _ => free_log hG _

theorem free_program (op : Op) : Free (protocol cfg w₀) (program cfg op) := by
  cases op with
  | startCollectionMonitoring => exact free_startCollectionMonitoring cfg w₀ _ _
  | processOverdueInvoice => exact free_processOverdueInvoice cfg w₀ _ _
  | processEscalation => exact free_processEscalation cfg w₀ _ _
  | recordPaymentReceived => exact free_recordPaymentReceived cfg w₀ _
  | recordCollectionPayment => exact free_recordCollectionPayment cfg w₀ _ _ _
  | escalateCollection => exact free_escalateCollection cfg w₀ _ _ _
  | deescalateCollection => exact free_deescalateCollection cfg w₀ _ _ _
  | resolveCollectionById => exact free_resolveCollectionById cfg w₀ _ _
  | processReminders => exact free_processReminders cfg w₀
  | processDefaulted => exact free_processDefaulted cfg w₀
  | overdueProcessing => exact free_overdueProcessing cfg w₀

/-- Every operation follows the protocol. -/
theorem program_implements : (protocol cfg w₀).Implements (program cfg) := fun op t =>
  (free_program cfg w₀ op t).conseq (fun _ _ _ => trivial) (fun _ _ _ _ => rfl) fun _ _ _ _ => rfl

end Service

end Ris.Collections
