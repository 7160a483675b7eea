import RisPlatform.Payments.Service

/-!
# What the payment transactions commit

One lemma for each transaction of the payments service: from its commit, the rows it found and the
store it left. Later modules never unfold a transaction again.
-/

namespace Ris.Payments

open Relational Concurrent

variable {i : Input} {w w' : World}

/-! ## Updates of `payments` -/

theorem updatePayments_ok {p : Payment → Bool} {f : Payment → Payment} {hf : ∀ r, (f r).id = r.id}
    {rows : List Payment} (h : updatePayments p f hf i w = .ok (rows, w')) :
    (∀ r ∈ w.payments.rows, p r = true → violation r (f r) = none) ∧
      rows = (w.payments.rows.filter p).map f ∧
      w' = { w with payments := w.payments.update p f hf } := by
  simp only [updatePayments, Txn.bind_ok, Txn.read_ok, id] at h
  obtain ⟨w₁, w₂, ⟨rfl, rfl⟩, h⟩ := h
  cases hv : (w.payments.rows.filter p).findSome? fun r => violation r (f r) with
  | some message => simp [hv] at h
  | none =>
    simp only [hv, Txn.bind_ok, Txn.write_ok, Txn.pure_ok] at h
    obtain ⟨u, w₁, rfl, rfl, rfl⟩ := h
    refine ⟨fun r hr hp => ?_, rfl, rfl⟩
    exact List.findSome?_eq_none_iff.1 hv r (List.mem_filter.2 ⟨hr, hp⟩)

/-- An update of one payment that returned a row rewrote that row. -/
theorem updatePayment_ok {paymentId : ℕ} {p : Payment → Bool} {f : Payment → Payment}
    {hf : ∀ r, (f r).id = r.id} {result : Option Payment}
    (h : updatePayment paymentId p f hf i w = .ok (result, w')) {old : Payment}
    (hold : w.payments.get? paymentId = some old) (hp : p old = true) :
    w.payments.Rewrites w'.payments paymentId old (f old) ∧ violation old (f old) = none ∧
      w' = { w with payments := w'.payments } := by
  unfold updatePayment at h
  simp only [Txn.bind_ok, Txn.pure_ok] at h
  obtain ⟨rows, w₁, h, -, rfl⟩ := h
  obtain ⟨hviol, -, rfl⟩ := updatePayments_ok h
  have hid : old.id = paymentId := Table.key_of_get? hold
  have hmatch : decide (old.id = paymentId ∧ p old = true) = true := by simp [hid, hp]
  refine ⟨Table.rewrites_update hold (fun x hx => (of_decide_eq_true hx).1) hmatch f hf, ?_, rfl⟩
  exact hviol old (Table.mem_of_get? hold) hmatch

/-! ## Locks and guards -/

@[simp] theorem lockPaymentOrThrow_ok {paymentId : ℕ} {payment : Payment} :
    lockPaymentOrThrow paymentId i w = .ok (payment, w') ↔
      i.lockNotAvailable = false ∧ w.payments.get? paymentId = some payment ∧ w = w' := by
  unfold lockPaymentOrThrow getPaymentByIdForUpdate
  cases hl : i.lockNotAvailable <;> cases hp : w.payments.get? paymentId <;> simp [hl, hp]

@[simp] theorem validatePaymentStatus_ok {payment : Payment} {expected : PaymentStatus} {u : Unit} :
    validatePaymentStatus payment expected = .ok u ↔ payment.status = expected := by
  unfold validatePaymentStatus
  split <;> simp_all [throw, throwThe, MonadExceptOf.throw, pure, Except.pure]

@[simp] theorem guardDifferentAuthoriser_ok {payment : Payment} {userId : ℕ} {u : Unit} :
    guardDifferentAuthoriser payment userId = .ok u ↔ payment.dualAuthUser1 ≠ some userId := by
  unfold guardDifferentAuthoriser
  split <;> simp_all [throw, throwThe, MonadExceptOf.throw, pure, Except.pure]

@[simp] theorem updatedOr_ok {message : String} {result : Option Payment} {updated : Payment} :
    updatedOr message result = .ok updated ↔ result = some updated := by
  cases result <;> simp [updatedOr, throw, throwThe, MonadExceptOf.throw, pure, Except.pure]

/-! ## Transactions on one payment -/

/-- One payment row is rewritten, lawfully, and one audit row is added. -/
structure RewritesPayment (w w' : World) (paymentId : ℕ) (old new : Payment) (entry : AuditLog) :
    Prop where
  row : w.payments.Rewrites w'.payments paymentId old new
  lawful : violation old new = none
  frame : w' = { w with payments := w'.payments, auditLogs := w.auditLogs ++ [entry] }

/-- `UPDATE` of one payment that the transaction holds, then its audit row. -/
theorem RewritesPayment.of_update {paymentId : ℕ} {p : Payment → Bool} {f : Payment → Payment}
    {hf : ∀ r, (f r).id = r.id} {result : Option Payment} {w₁ : World} {entry : AuditLog}
    (h : updatePayment paymentId p f hf i w = .ok (result, w₁)) {old : Payment}
    (hold : w.payments.get? paymentId = some old) (hp : p old = true)
    (hw : { w₁ with auditLogs := w₁.auditLogs ++ [entry] } = w') :
    RewritesPayment w w' paymentId old (f old) entry := by
  obtain ⟨hrow, hlawful, hframe⟩ := updatePayment_ok h hold hp
  subst hw
  refine ⟨hrow, hlawful, ?_⟩
  rw [hframe]

theorem recordFirstAuthTxn_ok {paymentId userId : ℕ} {req : Request} {comment : Option String}
    {updated : Payment} (h : recordFirstAuthTxn paymentId userId req comment i w = .ok (updated, w')) :
    ∃ old, old.status = .pendingFirstAuth ∧
      RewritesPayment w w' paymentId old (setFirstAuth userId i.now old)
        (authorisationAudit "PAYMENT_FIRST_AUTH" paymentId userId req comment
          .pendingFirstAuth .pendingSecondAuth) := by
  simp only [recordFirstAuthTxn, recordFirstAuthWithClient, Txn.bind_ok, lockPaymentOrThrow_ok,
    Txn.liftM_ok, validatePaymentStatus_ok, updatedOr_ok, now_ok, createAuditEntry_ok,
    Txn.pure_ok] at h
  obtain ⟨old, _, ⟨-, hold, rfl⟩, -, _, ⟨hstatus, rfl⟩, _, w₁, ⟨_, _, ⟨rfl, rfl⟩, hupd⟩, _, _,
    ⟨rfl, rfl⟩, -, _, hw, -, rfl⟩ := h
  exact ⟨old, hstatus, .of_update hupd hold (by simpa using hstatus) hw⟩

theorem recordSecondAuthTxn_ok {paymentId userId : ℕ} {req : Request} {comment : Option String}
    {updated : Payment}
    (h : recordSecondAuthTxn paymentId userId req comment i w = .ok (updated, w')) :
    ∃ old, old.status = .pendingSecondAuth ∧ old.dualAuthUser1 ≠ some userId ∧
      RewritesPayment w w' paymentId old (setSecondAuth userId i.now old)
        (authorisationAudit "PAYMENT_SECOND_AUTH" paymentId userId req comment
          .pendingSecondAuth .executing) := by
  simp only [recordSecondAuthTxn, recordSecondAuthWithClient, Txn.bind_ok, lockPaymentOrThrow_ok,
    Txn.liftM_ok, validatePaymentStatus_ok, guardDifferentAuthoriser_ok, updatedOr_ok, now_ok,
    createAuditEntry_ok, Txn.pure_ok] at h
  obtain ⟨old, _, ⟨-, hold, rfl⟩, -, _, ⟨hstatus, rfl⟩, -, _, ⟨huser, rfl⟩, _, w₁,
    ⟨_, _, ⟨rfl, rfl⟩, hupd⟩, _, _, ⟨rfl, rfl⟩, -, _, hw, -, rfl⟩ := h
  exact ⟨old, hstatus, huser, .of_update hupd hold (by simpa using hstatus) hw⟩

/-- The audit row of `handleFailedPayment`. -/
def failedAudit (payment : Payment) : AuditLog :=
  paymentAudit "PAYMENT_FAILED" payment [("status", .text PaymentStatus.failed.text)]

/-- A failure is recorded on the row the call loaded, whatever has become of it. -/
theorem failedPaymentTxn_ok {payment : Payment} {result : PaymentProviderResult} {u : Unit}
    (hr : result.success = false) (h : failedPaymentTxn payment result i w = .ok (u, w'))
    {old : Payment} (hold : w.payments.get? payment.id = some old) :
    RewritesPayment w w' payment.id old
      (setFailed (result.failureReason.getD "Unknown error") old) (failedAudit payment) := by
  simp only [failedPaymentTxn, updatePaymentResultWithClient, hr, Bool.false_eq_true, if_false,
    Txn.bind_ok, now_ok, createAuditEntry_ok, Txn.pure_ok] at h
  obtain ⟨-, w₁, ⟨_, _, ⟨rfl, rfl⟩, _, _, hupd, -, rfl⟩, hw⟩ := h
  exact .of_update hupd hold rfl hw

/-- The audit row of `handlePendingConfirmation`. -/
def pendingAudit (payment : Payment) (result : PaymentProviderResult) : AuditLog :=
  paymentAudit "PAYMENT_PENDING_CONFIRMATION" payment
    [("status", .text PaymentStatus.executing.text),
      ("transactionReference", .text result.transactionReference),
      ("provider", .text payment.provider.text)]

theorem pendingConfirmationTxn_ok {payment : Payment} {result : PaymentProviderResult} {u : Unit}
    (h : pendingConfirmationTxn payment result i w = .ok (u, w')) {old : Payment}
    (hold : w.payments.get? payment.id = some old) :
    RewritesPayment w w' payment.id old (setReferences result old) (pendingAudit payment result) := by
  simp only [pendingConfirmationTxn, recordPendingConfirmationWithClient, Txn.bind_ok,
    createAuditEntry_ok, Txn.pure_ok] at h
  obtain ⟨-, _, ⟨_, _, hupd, -, rfl⟩, hw⟩ := h
  exact .of_update hupd hold rfl hw

/-! ## The success transaction -/

/-- What `recordSuccessfulPaymentTxn` commits: the payment row is funded whatever its status, and an
invoice that is still `approved` becomes funded. -/
structure RecordsSuccess (w w' : World) (payment : Payment) (result : PaymentProviderResult) (now : ℤ)
    (old : Payment) : Prop where
  row : w.payments.Rewrites w'.payments payment.id old (setFunded result now old)
  lawful : violation old (setFunded result now old) = none
  invoices : w'.invoices =
    w.invoices.update (fun r => r.id = payment.invoiceId ∧ r.status = .approved)
      (setInvoiceStatus .funded now) (id_setInvoiceStatus .funded now)
  frame : w' =
    { w with
      payments := w'.payments
      invoices := w'.invoices
      auditLogs := w.auditLogs ++
        [paymentAudit "PAYMENT_FUNDED" payment
          [("status", .text PaymentStatus.funded.text),
            ("transactionReference", .text result.transactionReference)]] }

theorem updateInvoiceStatusWithClient_ok {invoiceId : ℕ} {newStatus expectedStatus : InvoiceStatus}
    {result : Option ℕ}
    (h : updateInvoiceStatusWithClient invoiceId newStatus expectedStatus i w = .ok (result, w')) :
    w' =
      { w with
        invoices := w.invoices.update (fun r => r.id = invoiceId ∧ r.status = expectedStatus)
          (setInvoiceStatus newStatus i.now) (id_setInvoiceStatus newStatus i.now) } := by
  simp only [updateInvoiceStatusWithClient, Txn.bind_ok, now_ok, Txn.read_ok, Txn.write_ok,
    Txn.pure_ok, id] at h
  obtain ⟨_, _, ⟨rfl, rfl⟩, _, _, ⟨rfl, rfl⟩, -, _, rfl, -, rfl⟩ := h
  rfl

theorem recordSuccessfulPaymentTxn_ok {payment : Payment} {result : PaymentProviderResult} {u : Unit}
    (hr : result.success = true) (h : recordSuccessfulPaymentTxn payment result i w = .ok (u, w'))
    {old : Payment} (hold : w.payments.get? payment.id = some old) :
    RecordsSuccess w w' payment result i.now old := by
  simp only [recordSuccessfulPaymentTxn, updatePaymentResultWithClient, hr, if_true, Txn.bind_ok,
    now_ok, createAuditEntry_ok, Txn.pure_ok] at h
  obtain ⟨_, w₁, ⟨_, _, ⟨rfl, rfl⟩, _, _, hupd, -, rfl⟩, _, w₂, hinv, rfl⟩ := h
  obtain ⟨hrow, hlawful, hframe⟩ := updatePayment_ok hupd hold rfl
  have hw₂ := updateInvoiceStatusWithClient_ok hinv
  refine ⟨?_, hlawful, ?_, ?_⟩
  · rw [hw₂]
    exact hrow
  · rw [hw₂, hframe]
  · rw [hw₂, hframe]

/-! ## Creating a payment -/

/-- What `createPaymentTxn` commits: a fresh row, and the invoice moved if it was `approved`. -/
structure Creates (w w' : World) (payment : Payment) (invoice : Invoice) (now : ℤ) : Prop where
  row : payment = CreatePaymentInput.row
    { id := payment.id
      invoiceId := payment.invoiceId
      amount := some payment.amount
      provider := payment.provider
      idempotencyKey := payment.idempotencyKey } payment.amount
  amount : invoice.advanceAmount = some payment.amount
  positive : 0 < payment.amount
  invoice_fresh : ∀ r ∈ w.payments.rows, r.invoiceId ≠ payment.invoiceId
  key_fresh : ∀ r ∈ w.payments.rows, r.idempotencyKey ≠ payment.idempotencyKey
  insert : w.payments.insert? payment = some w'.payments
  invoices : w'.invoices =
    w.invoices.update (fun r => r.id = payment.invoiceId ∧ r.status = .approved)
      (setInvoiceStatus .pendingFirstAuth now) (id_setInvoiceStatus .pendingFirstAuth now)
  frame : w' =
    { w with
      payments := w'.payments
      invoices := w'.invoices
      auditLogs := w.auditLogs ++ [createdAudit payment invoice] }

/-- The approved invoice of a created payment is `pending_first_auth` afterwards. -/
theorem Creates.invoice_moved {payment : Payment} {invoice current : Invoice} {now : ℤ}
    (h : Creates w w' payment invoice now)
    (hcurrent : w.invoices.get? payment.invoiceId = some current)
    (hstatus : current.status = .approved) :
    w'.invoices.get? payment.invoiceId = some (setInvoiceStatus .pendingFirstAuth now current) := by
  have hid : current.id = payment.invoiceId := Table.key_of_get? hcurrent
  rw [h.invoices, Table.get?_update_of_get? hcurrent, if_pos (by simp [hid, hstatus])]

theorem createPaymentWithClient_ok {data : CreatePaymentInput} {payment : Payment}
    (h : createPaymentWithClient data i w = .ok (payment, w')) :
    ∃ amount, data.amount = some amount ∧ payment = data.row amount ∧
      insertViolation w payment = none ∧ w.payments.insert? payment = some w'.payments ∧
      w' = { w with payments := w'.payments } := by
  simp only [createPaymentWithClient, Txn.bind_ok, Txn.read_ok, id] at h
  obtain ⟨_, _, ⟨rfl, rfl⟩, h⟩ := h
  cases ha : data.amount with
  | none => simp [ha] at h
  | some amount =>
    cases hv : insertViolation w (data.row amount) with
    | some message => simp [ha, hv] at h
    | none =>
      cases hins : w.payments.insert? (data.row amount) with
      | none => simp [ha, hv, hins] at h
      | some payments =>
        simp only [ha, hv, hins, Txn.bind_ok, Txn.write_ok, Txn.pure_ok] at h
        obtain ⟨-, _, rfl, rfl, rfl⟩ := h
        exact ⟨amount, rfl, rfl, hv, hins, rfl⟩

/-- A lawful insert has a positive amount and a fresh invoice and key. -/
theorem insertViolation_eq_none {payment : Payment} (h : insertViolation w payment = none) :
    0 < payment.amount ∧ (∀ r ∈ w.payments.rows, r.invoiceId ≠ payment.invoiceId) ∧
      ∀ r ∈ w.payments.rows, r.idempotencyKey ≠ payment.idempotencyKey := by
  unfold insertViolation at h
  split at h
  · cases h
  · rename_i hamount
    split at h
    · cases h
    · rename_i hinvoice
      split at h
      · cases h
      · rename_i hkey
        simp only [Table.find?, List.find?_isSome, decide_eq_true_eq, not_exists, not_and] at hinvoice
        simp only [Table.find?, List.find?_isSome, decide_eq_true_eq, not_exists, not_and] at hkey
        exact ⟨not_le.1 hamount, hinvoice, hkey⟩

theorem insertPaymentAndAuditWithClient_ok {invoiceId : ℕ} {invoice : Invoice}
    {provider : PaymentProvider} {result : Payment × Option ℕ}
    (h : insertPaymentAndAuditWithClient invoiceId invoice provider i w = .ok (result, w')) :
    result.1.invoiceId = invoiceId ∧ Creates w w' result.1 invoice i.now := by
  simp only [insertPaymentAndAuditWithClient, Txn.bind_ok, Txn.input_ok, createAuditEntry_ok,
    Txn.pure_ok] at h
  obtain ⟨_, _, ⟨rfl, rfl⟩, payment, w₁, hcreate, moved, w₂, hmove, -, _, rfl, rfl, rfl⟩ := h
  obtain ⟨amount, hamount, rfl, hviol, hinsert, hframe⟩ := createPaymentWithClient_ok hcreate
  obtain ⟨hpos, hinvoice, hkey⟩ := insertViolation_eq_none hviol
  have hw₂ := updateInvoiceStatusWithClient_ok hmove
  refine ⟨rfl, rfl, hamount, hpos, hinvoice, hkey, ?_, ?_, ?_⟩
  · rw [hw₂]
    exact hinsert
  · rw [hw₂, hframe]
    rfl
  · rw [hw₂, hframe]

/-! ## What the validation found -/

theorem getInvoiceForPayment_eq_some {invoiceId : ℕ} {w : World} {found : Invoice × String}
    (h : getInvoiceForPayment invoiceId w = some found) :
    w.invoices.get? invoiceId = some found.1 := by
  simp only [getInvoiceForPayment, Option.bind_eq_bind, Option.bind_eq_some_iff] at h
  obtain ⟨invoice, hinvoice, supplier, -, h⟩ := h
  obtain rfl := Option.some.inj h
  exact hinvoice

theorem guardInvoiceApproved_ok {invoice : Invoice} {u : Unit}
    (h : guardInvoiceApproved invoice = .ok u) : invoice.status = .approved := by
  by_contra hne
  simp [guardInvoiceApproved, hne, throw, throwThe, MonadExceptOf.throw] at h

/-! ## The kill switch -/

/-- `payment_kill_switch` is on. -/
def KillSwitchActive (w : World) : Prop := getSystemSetting "payment_kill_switch" w = some "true"

instance (w : World) : Decidable (KillSwitchActive w) := by
  unfold KillSwitchActive
  infer_instance

/-- After the upsert the setting has the value. -/
theorem setSystemSettingWithClient_ok {key value : String} {u : Unit}
    (h : setSystemSettingWithClient key value i w = .ok (u, w')) :
    getSystemSetting key w' = some value ∧ w' = { w with systemSettings := w'.systemSettings } := by
  simp only [setSystemSettingWithClient, Txn.write_ok] at h
  subst h
  refine ⟨?_, rfl⟩
  cases hins : w.systemSettings.insert? { key, value } with
  | some settings => simp [getSystemSetting, Table.get?_insert? hins]
  | none =>
    obtain ⟨r, hr⟩ := Table.exists_of_insert?_none hins
    have hkey : r.key = key := Table.key_of_get? hr
    simp [getSystemSetting, Table.get?_update_of_get? hr, hkey]

/-- What `activateKillSwitch` commits. -/
structure Activates (w w' : World) (suspendedIds : List ℕ) : Prop where
  active : KillSwitchActive w'
  payments : w'.payments =
    w.payments.update (fun r => r.status = .executing)
      (setFailed "Suspended by payment kill switch") (id_setFailed _)
  suspended : suspendedIds = (w.payments.rows.filter fun r => r.status = .executing).map Payment.id
  audits : ∃ userId req values, w'.auditLogs =
    w.auditLogs ++ suspendedIds.map (suspendedAudit userId req) ++
      [killSwitchAudit "KILL_SWITCH_ACTIVATED" userId req false values]
  frame : w' =
    { w with
      systemSettings := w'.systemSettings
      payments := w'.payments
      auditLogs := w'.auditLogs }

theorem activateKillSwitchTxn_ok {userId : ℕ} {reason : String} {req : Request}
    {suspendedIds : List ℕ}
    (h : activateKillSwitchTxn userId reason req i w = .ok (suspendedIds, w')) :
    Activates w w' suspendedIds := by
  simp only [activateKillSwitchTxn, failExecutingPaymentsWithClient, Txn.bind_ok, Txn.write_ok,
    createAuditEntry_ok, Txn.pure_ok] at h
  obtain ⟨_, w₁, hset, ids, w₂, ⟨rows, w₃, hfail, rfl, rfl⟩, _, _, rfl, _, _, rfl, rfl, rfl⟩ := h
  obtain ⟨hactive, hw₁⟩ := setSystemSettingWithClient_ok hset
  obtain ⟨-, hrows, hw₃⟩ := updatePayments_ok hfail
  have hpayments : w₁.payments = w.payments := by rw [hw₁]
  have haudits : w₃.auditLogs = w.auditLogs := by rw [hw₃, hw₁]
  refine ⟨?_, ?_, ?_, ⟨userId, req, [("active", .bool true), ("reason", .text reason),
    ("suspendedCount", .int (rows.map Payment.id).length)], ?_⟩, ?_⟩
  · rw [hw₃]
    exact hactive
  · rw [hw₃, ← hpayments]
  · rw [hrows, ← hpayments, List.map_map]
    rfl
  · rw [← haudits]
  · rw [hw₃, hw₁]

theorem deactivateKillSwitchTxn_ok {userId : ℕ} {reason : String} {req : Request} {u : Unit}
    (h : deactivateKillSwitchTxn userId reason req i w = .ok (u, w')) :
    w' =
      { w with
        systemSettings := w'.systemSettings
        auditLogs := w.auditLogs ++
          [killSwitchAudit "KILL_SWITCH_DEACTIVATED" userId req true
            [("active", .bool false), ("reason", .text reason)]] } := by
  simp only [deactivateKillSwitchTxn, Txn.bind_ok, createAuditEntry_ok] at h
  obtain ⟨_, w₁, hset, rfl⟩ := h
  obtain ⟨-, hw₁⟩ := setSystemSettingWithClient_ok hset
  rw [hw₁]

/-! ## After hours -/

theorem flagAfterHoursTxn_ok {userId paymentId : ℕ} {req : Request} {flagged : Bool}
    (h : flagAfterHoursTxn userId paymentId req i w = .ok (flagged, w')) :
    flagged = false ∧ w' = w ∨
      flagged = true ∧
        w' = { w with auditLogs := w.auditLogs ++ [afterHoursAudit userId paymentId req i.now] } := by
  simp only [flagAfterHoursTxn, Txn.bind_ok, now_ok] at h
  obtain ⟨_, _, ⟨rfl, rfl⟩, h⟩ := h
  cases hah : isAfterHours i.now with
  | false =>
    simp only [hah, Bool.false_eq_true, if_false, Txn.pure_ok] at h
    exact Or.inl ⟨h.1.symm, h.2.symm⟩
  | true =>
    simp only [hah, if_true, Txn.bind_ok, connect_ok, createAuditEntry_ok, Txn.pure_ok] at h
    obtain ⟨-, _, ⟨-, rfl⟩, -, _, rfl, rfl, rfl⟩ := h
    exact Or.inr ⟨rfl, rfl⟩

end Ris.Payments
