import RisPlatform.Payments.Protocol
import RisPlatform.Triples

/-!
# The payments service among others

What the payments service may do to the store, whatever its calls have done before: `Writes`. Beside
its own tables it moves approved invoices, and nothing else. A protocol for a larger system that allows
these writes is followed by every operation of the service (`free_program`).
-/

namespace Ris.Payments

open Relational Concurrent

/-! ## Writes -/

/-- What an event of the service may do. -/
structure Writes (w : World) (e : Event) (w' : World) : Prop where
  invoices : w.invoices.Rowwise (InvoiceStep (some e)) w'.invoices
  created : ∀ p, e.created? = some p → ∃ invoice now, Creates w w' p invoice now
  payments : e.created? = none → w.payments.Rowwise SameOrder w'.payments
  service : e.Of .payments
  frame : w' =
    { w with
      invoices := w'.invoices
      payments := w'.payments
      systemSettings := w'.systemSettings
      auditLogs := w'.auditLogs }

/-- What an event other than the creation of a payment may do. -/
structure Updates (w : World) (e : Event) (w' : World) : Prop extends Writes w e w' where
  created_none : e.created? = none

theorem of_payments {e : Event} (h : e.service? = some .payments) : e.Of .payments := by
  rintro s hs
  rw [h] at hs
  exact (Option.some.inj hs).symm

theorem of_read : Event.read.Of .payments := by
  rintro s ⟨⟩

theorem SameOrder.refl (r : Payment) : SameOrder r r := ⟨rfl, rfl, rfl, rfl⟩

variable {w w' : World} {e : Event} {i : Input}

/-- The rows of payments stay orders of the same amounts; no invoice changes. -/
structure KeepsOrders (w w' : World) : Prop where
  payments : w.payments.Rowwise SameOrder w'.payments
  frame : w' =
    { w with
      payments := w'.payments
      systemSettings := w'.systemSettings
      auditLogs := w'.auditLogs }

theorem KeepsOrders.refl (w : World) : KeepsOrders w w := ⟨.refl SameOrder.refl _, rfl⟩

theorem KeepsOrders.updates (h : KeepsOrders w w') (hcreated : e.created? = none)
    (hservice : e.Of .payments) : Updates w e w' where
  invoices := by
    rw [h.frame]
    exact .refl (fun _ => .same) _
  created p hp := by
    rw [hcreated] at hp
    cases hp
  payments _ := h.payments
  service := hservice
  frame := by rw [h.frame]
  created_none := hcreated

/-! ## Transactions -/

section Transactions

theorem updatePayments_keepsOrders {p : Payment → Bool} {f : Payment → Payment}
    {hf : ∀ r, (f r).id = r.id} {rows : List Payment}
    (h : updatePayments p f hf i w = .ok (rows, w')) (horder : ∀ r, SameOrder r (f r)) :
    KeepsOrders w w' := by
  obtain ⟨-, -, hw'⟩ := updatePayments_ok h
  have hpayments : w'.payments = w.payments.update p f hf := by rw [hw']
  refine ⟨?_, ?_⟩
  · rw [hpayments]
    exact Table.rowwise_update (fun r _ _ => horder r) fun r _ _ => .refl r
  · rw [hw']

theorem updatePayment_keepsOrders {paymentId : ℕ} {p : Payment → Bool} {f : Payment → Payment}
    {hf : ∀ r, (f r).id = r.id} {result : Option Payment}
    (h : updatePayment paymentId p f hf i w = .ok (result, w')) (horder : ∀ r, SameOrder r (f r)) :
    KeepsOrders w w' := by
  simp only [updatePayment, Txn.bind_ok, Txn.pure_ok] at h
  obtain ⟨rows, _, hrows, -, rfl⟩ := h
  exact updatePayments_keepsOrders hrows horder

/-- An audit row more. -/
theorem KeepsOrders.audited (h : KeepsOrders w w') (entries : List AuditLog) :
    KeepsOrders w { w' with auditLogs := entries } := by
  refine ⟨h.payments, ?_⟩
  dsimp only
  rw [h.frame]

theorem updatePaymentResultWithClient_keepsOrders {paymentId : ℕ} {result : PaymentProviderResult}
    {u : Unit} (h : updatePaymentResultWithClient paymentId result i w = .ok (u, w')) :
    KeepsOrders w w' := by
  simp only [updatePaymentResultWithClient, Txn.bind_ok, now_ok] at h
  obtain ⟨_, _, ⟨rfl, rfl⟩, h⟩ := h
  split at h
  · simp only [Txn.bind_ok, Txn.pure_ok] at h
    obtain ⟨_, _, hupdate, -, rfl⟩ := h
    exact updatePayment_keepsOrders hupdate fun r => ⟨rfl, rfl, rfl, rfl⟩
  · simp only [Txn.bind_ok, Txn.pure_ok] at h
    obtain ⟨_, _, hupdate, -, rfl⟩ := h
    exact updatePayment_keepsOrders hupdate fun r => ⟨rfl, rfl, rfl, rfl⟩

theorem recordFirstAuthTxn_keepsOrders {paymentId userId : ℕ} {req : Request}
    {comment : Option String} {updated : Payment}
    (h : recordFirstAuthTxn paymentId userId req comment i w = .ok (updated, w')) :
    KeepsOrders w w' := by
  simp only [recordFirstAuthTxn, recordFirstAuthWithClient, Txn.bind_ok, lockPaymentOrThrow_ok,
    Txn.liftM_ok, now_ok, createAuditEntry_ok, Txn.pure_ok] at h
  obtain ⟨_, _, ⟨-, -, rfl⟩, _, _, ⟨-, rfl⟩, _, w₁, ⟨_, _, ⟨-, rfl⟩, hupdate⟩, _, _, ⟨-, rfl⟩, -, _,
    rfl, -, rfl⟩ := h
  exact (updatePayment_keepsOrders hupdate fun r => ⟨rfl, rfl, rfl, rfl⟩).audited _

theorem recordSecondAuthTxn_keepsOrders {paymentId userId : ℕ} {req : Request}
    {comment : Option String} {updated : Payment}
    (h : recordSecondAuthTxn paymentId userId req comment i w = .ok (updated, w')) :
    KeepsOrders w w' := by
  simp only [recordSecondAuthTxn, recordSecondAuthWithClient, Txn.bind_ok, lockPaymentOrThrow_ok,
    Txn.liftM_ok, now_ok, createAuditEntry_ok, Txn.pure_ok] at h
  obtain ⟨_, _, ⟨-, -, rfl⟩, _, _, ⟨-, rfl⟩, _, _, ⟨-, rfl⟩, _, w₁, ⟨_, _, ⟨-, rfl⟩, hupdate⟩, _, _,
    ⟨-, rfl⟩, -, _, rfl, -, rfl⟩ := h
  exact (updatePayment_keepsOrders hupdate fun r => ⟨rfl, rfl, rfl, rfl⟩).audited _

theorem failedPaymentTxn_keepsOrders {payment : Payment} {result : PaymentProviderResult} {u : Unit}
    (h : failedPaymentTxn payment result i w = .ok (u, w')) : KeepsOrders w w' := by
  simp only [failedPaymentTxn, Txn.bind_ok, createAuditEntry_ok] at h
  obtain ⟨_, w₁, hupdate, rfl⟩ := h
  exact (updatePaymentResultWithClient_keepsOrders hupdate).audited _

theorem pendingConfirmationTxn_keepsOrders {payment : Payment} {result : PaymentProviderResult}
    {u : Unit} (h : pendingConfirmationTxn payment result i w = .ok (u, w')) : KeepsOrders w w' := by
  simp only [pendingConfirmationTxn, recordPendingConfirmationWithClient, Txn.bind_ok, Txn.pure_ok,
    createAuditEntry_ok] at h
  obtain ⟨_, _, ⟨_, _, hupdate, -, rfl⟩, rfl⟩ := h
  exact (updatePayment_keepsOrders hupdate fun r => ⟨rfl, rfl, rfl, rfl⟩).audited _

theorem Activates.keepsOrders {ids : List ℕ} (h : Activates w w' ids) : KeepsOrders w w' := by
  refine ⟨?_, ?_⟩
  · rw [h.payments]
    exact Table.rowwise_update (fun r _ _ => ⟨rfl, rfl, rfl, rfl⟩) fun r _ _ => .refl r
  · rw [h.frame]

/-- A success is recorded on the payment, and moves its invoice if that is still approved. -/
theorem recordSuccessfulPaymentTxn_updates {payment : Payment} {result : PaymentProviderResult}
    {u : Unit} (h : recordSuccessfulPaymentTxn payment result i w = .ok (u, w')) :
    Updates w (.paymentFunded payment) w' := by
  simp only [recordSuccessfulPaymentTxn, Txn.bind_ok, createAuditEntry_ok] at h
  obtain ⟨_, w₁, hupdate, _, w₂, hmove, rfl⟩ := h
  have hkeeps := updatePaymentResultWithClient_keepsOrders hupdate
  have hw₂ := updateInvoiceStatusWithClient_ok hmove
  have hinvoices : w₂.invoices =
      w.invoices.update (fun r => r.id = payment.invoiceId ∧ r.status = .approved)
        (setInvoiceStatus .funded i.now) (id_setInvoiceStatus .funded i.now) := by
    rw [hw₂, hkeeps.frame]
  refine ⟨⟨?_, fun p hp => (by cases hp), fun _ => ?_, of_payments rfl, ?_⟩, rfl⟩
  · dsimp only
    rw [hinvoices]
    refine Table.rowwise_update (fun r _ hmatch => ?_) fun r _ _ => .same
    obtain ⟨hid, hstatus⟩ := of_decide_eq_true hmatch
    exact .funded payment i.now rfl hid.symm hstatus
  · rw [hw₂]
    exact hkeeps.payments
  · rw [hw₂, hkeeps.frame]

theorem Creates.writes {p : Payment} {invoice : Invoice} {now : ℤ} (h : Creates w w' p invoice now) :
    Writes w (.paymentCreated p) w' where
  invoices := by
    rw [h.invoices]
    refine Table.rowwise_update (fun r _ hmatch => ?_) fun r _ _ => .same
    obtain ⟨hid, hstatus⟩ := of_decide_eq_true hmatch
    exact .initiated p now rfl hid.symm hstatus
  created q hq := by
    obtain rfl : p = q := Option.some.inj hq
    exact ⟨invoice, now, h⟩
  payments hnone := by cases hnone
  service := of_payments rfl
  frame := by rw [h.frame]

end Transactions

/-! ## The operations -/

section Calls

variable {G : Protocol World Event} (hG : Permissive G) {cfg : Config}

include hG

theorem free_checkKillSwitch : Free G checkKillSwitch := by
  refine free_bind (free_query hG _) fun value => ?_
  split
  · exact free_throw _
  · exact free_pure _

theorem free_getMinCoverageRatio : Free G Collateral.getMinCoverageRatio := by
  refine free_bind (free_statement hG ?_) fun value => ?_
  · intro s t i a d _ h
    simp only [Txn.bind_ok, Txn.input_ok, Txn.pure_ok] at h
    obtain ⟨_, _, ⟨rfl, rfl⟩, -, rfl⟩ := h
    exact hG.read s t
  · cases value with
    | none => exact free_bind (free_log hG _) fun _ => free_pure _
    | some ratio =>
      dsimp only
      split
      · exact free_bind (free_log hG _) fun _ => free_pure _
      · exact free_pure _

theorem free_guardCollateralSufficient (invoiceId : ℕ) (amount : Option ℤ) :
    Free G (guardCollateralSufficient invoiceId amount) := by
  refine free_bind (free_lift _) fun required => free_bind ?_ fun _ => free_lift _
  refine free_bind (free_query hG _) fun total => ?_
  split
  · exact free_pure _
  · exact free_bind (free_getMinCoverageRatio hG) fun _ => free_pure _

theorem free_checkFacilityAvailability (amount : Option ℤ) :
    Free G (checkFacilityAvailability amount) :=
  free_bind (free_query hG _) fun _ => free_lift _

theorem free_fetchCreatedPayment (paymentId : ℕ) : Free G (fetchCreatedPayment paymentId) := by
  refine free_bind (free_query hG _) fun found => ?_
  cases found with
  | none => exact free_throw _
  | some created => exact free_pure _

theorem free_check2faRecency (userId : ℕ) : Free G (check2faRecency userId) := by
  refine free_bind (free_transaction hG ?_) fun found => free_lift _
  intro s t i found d _ h
  simp only [Txn.bind_ok, Txn.read_ok, now_ok, Txn.pure_ok] at h
  obtain ⟨_, _, ⟨rfl, rfl⟩, _, _, ⟨rfl, rfl⟩, rfl, rfl⟩ := h
  exact hG.read s t

theorem free_notifyPaymentFunded (payment : Payment) : Free G (notifyPaymentFunded cfg payment) :=
  free_bind (free_log hG _) fun _ => free_bind (free_enqueueOrWarn hG _ _ _) fun _ =>
    free_bind (free_enqueueOrWarn hG _ _ _) fun _ => free_enqueueOrWarn hG _ _ _

section Initiate

variable {B : World → Prop} (hB : G.Steady fun s => B s.store)

include hB

/-- The invoice that passes the validation was approved and, where the flag asks for it, cleared. -/
theorem triple_validateInvoiceForPayment_of {invoiceId t : ℕ}
    (hvalid : ∀ s found, G.inv s → getInvoiceForPayment invoiceId s.store = some found →
      guardInvoiceApproved found.1 = .ok () → guardAmlCleared cfg found.1 = .ok () → B s.store) :
    G.Triple t (fun _ => True) (validateInvoiceForPayment cfg invoiceId) (fun _ s => B s.store)
      fun _ _ => True := by
  refine .bind
    (R := fun found s => ∀ x ∈ found, guardInvoiceApproved x.1 = .ok () →
      guardAmlCleared cfg x.1 = .ok () → B s.store)
    (Ris.triple_query hG t fun s hs x hx => hvalid s x hs hx) fun found => ?_
  cases found with
  | none => exact .throw fun _ _ _ => trivial
  | some found =>
    -- no statement stands between the query and the two guards
    refine .bind (R := fun _ s => guardAmlCleared cfg found.1 = .ok () → B s.store)
      (.lift (fun _ _ happroved _ h => h found rfl happroved) fun _ _ _ _ _ => trivial) fun _ => ?_
    refine .bind (R := fun _ s => B s.store)
      (.lift (fun _ _ hcleared _ h => h hcleared) fun _ _ _ _ _ => trivial) fun _ => ?_
    exact .bind ((free_guardCollateralSufficient hG _ _).carries hB t) fun _ => .ret fun _ _ h => h

theorem triple_createPaymentTxn_of {invoiceId t : ℕ} {invoice : Invoice} {provider : PaymentProvider}
    (hcreate : ∀ s p now d, G.inv s → B s.store → p.invoiceId = invoiceId →
      Creates s.store d p invoice now → G.effect s t (some (.paymentCreated p)) d) :
    G.Triple t (fun s => B s.store) (createPaymentTxn invoiceId invoice provider)
      (fun _ _ => True) fun _ _ => True := by
  refine .bind (triple_transaction hG hB t fun s i result d hs hBs h => ?_) fun created => ?_
  · obtain ⟨hinvoice, hcreates⟩ := insertPaymentAndAuditWithClient_ok h
    exact hcreate s _ _ d hs hBs hinvoice hcreates
  · obtain ⟨payment, transitioned⟩ := created
    dsimp only
    split
    · exact .bind (free_log hG _ t) fun _ => .bind (free_log hG _ t) fun _ => free_pure _ t
    · exact .bind (free_log hG _ t) fun _ => free_pure _ t

/-- `initiatePayment` follows a protocol that lets it create a payment where what the validation found
still holds. -/
theorem free_initiatePayment_of {invoiceId : ℕ}
    (hvalid : ∀ s found, G.inv s → getInvoiceForPayment invoiceId s.store = some found →
      guardInvoiceApproved found.1 = .ok () → guardAmlCleared cfg found.1 = .ok () → B s.store)
    (hcreate : ∀ s t p invoice now d, G.inv s → B s.store → p.invoiceId = invoiceId →
      Creates s.store d p invoice now → G.effect s t (some (.paymentCreated p)) d) :
    Free G (initiatePayment cfg invoiceId) := by
  intro t
  refine .bind (free_checkKillSwitch hG t) fun _ =>
    .bind (triple_validateInvoiceForPayment_of hG hB hvalid) ?_
  rintro ⟨invoice, method⟩
  refine .bind ((free_checkFacilityAvailability hG _).carries hB t) fun _ =>
    .bind ((free_query hG _).carries hB t) fun found => ?_
  cases found with
  | some existing => exact (free_pure _).of _ t
  | none =>
    exact .bind (triple_createPaymentTxn_of hG hB fun s p now d => hcreate s t p _ now d) fun _ =>
      free_fetchCreatedPayment hG _ t

end Initiate

section Updates

variable (hallow : Allows G Updates)

include hallow

/-- A statement that keeps the orders. -/
theorem free_keepsOrders {α : Type} {body : Tx α} {committed : α → Event}
    (hcreated : ∀ a, (committed a).created? = none) (hservice : ∀ a, (committed a).Of .payments)
    (h : ∀ i w a w', body i w = .ok (a, w') → KeepsOrders w w') :
    Free G (transaction body committed) :=
  free_transaction hG fun s t i a d hs hx =>
    hallow s t _ d hs ((h i s.store a d hx).updates (hcreated a) (hservice a))

theorem free_checkBusinessHours (userId paymentId : ℕ) (req : Request) :
    Free G (checkBusinessHours userId paymentId req) := by
  refine free_bind (free_statement hG ?_) fun _ => free_pure _
  intro s t i flagged d hs h
  rcases flagAfterHoursTxn_ok h with ⟨rfl, rfl⟩ | ⟨rfl, rfl⟩
  · exact hG.read s t
  · exact hallow s t _ _ hs (((KeepsOrders.refl s.store).audited _).updates rfl (of_payments rfl))

theorem free_authoriseFirstAuth (paymentId userId : ℕ) (req : Request) (comment : Option String) :
    Free G (authoriseFirstAuth paymentId userId req comment) :=
  free_bind (free_check2faRecency hG userId) fun _ =>
    free_bind (free_checkBusinessHours hG hallow userId paymentId req) fun _ =>
      free_bind (free_keepsOrders hG hallow (fun _ => rfl) (fun _ => of_payments rfl) fun _ _ _ _ h =>
          recordFirstAuthTxn_keepsOrders h) fun _ =>
        free_bind (free_log hG _) fun _ => free_pure _

theorem free_authoriseSecondAuth (paymentId userId : ℕ) (req : Request) (comment : Option String) :
    Free G (authoriseSecondAuth paymentId userId req comment) :=
  free_bind (free_check2faRecency hG userId) fun _ =>
    free_bind (free_checkBusinessHours hG hallow userId paymentId req) fun _ =>
      free_bind (free_keepsOrders hG hallow (fun _ => rfl) (fun _ => of_payments rfl) fun _ _ _ _ h =>
          recordSecondAuthTxn_keepsOrders h) fun _ =>
        free_bind (free_log hG _) fun _ => free_pure _

/-- A statement that writes nothing, under an event of the service. -/
theorem free_silent {α : Type} {x : Tx α} {committed : α → Event}
    (hcreated : ∀ a, (committed a).created? = none) (hservice : ∀ a, (committed a).Of .payments)
    (h : ∀ i w a w', x i w = .ok (a, w') → w' = w) :
    Free G (.transaction x committed fun _ => .threw) :=
  free_statement hG fun s t i a d hs hx => by
    rw [h i s.store a d hx]
    exact hallow s t _ _ hs ((KeepsOrders.refl s.store).updates (hcreated a) (hservice a))

theorem free_loadExecutablePayment (paymentId : ℕ) : Free G (loadExecutablePayment paymentId) := by
  refine free_bind (free_silent hG hallow ?_ ?_ ?_) fun found => ?_
  · intro found
    cases found with
    | none => rfl
    | some p =>
      dsimp only
      split <;> rfl
  · intro found
    cases found with
    | none => exact of_read
    | some p =>
      dsimp only
      split
      · exact of_payments rfl
      · exact of_read
  · intro i w a w' h
    simp only [Txn.bind_ok, connect_ok, Txn.read_ok] at h
    obtain ⟨_, _, ⟨-, rfl⟩, -, rfl⟩ := h
    rfl
  · cases found with
    | none => exact free_throw _
    | some payment => exact free_bind (free_lift _) fun _ => free_pure _

theorem free_checkIdempotency (payment : Payment) : Free G (checkIdempotency payment) := by
  refine free_bind (free_silent hG hallow ?_ ?_ ?_) fun _ => free_pure _
  · intro found
    split <;> rfl
  · intro found
    split
    · exact of_payments rfl
    · exact of_read
  · intro i w a w' h
    simp only [Txn.bind_ok, connect_ok, Txn.read_ok] at h
    obtain ⟨_, _, ⟨-, rfl⟩, -, rfl⟩ := h
    rfl

theorem free_askProvider (payment : Payment) : Free G (askProvider payment) := by
  refine free_silent hG hallow (fun _ => rfl) (fun _ => of_payments rfl) ?_
  intro i w a w' h
  simp only [Txn.bind_ok, connect_ok, Txn.input_ok, Txn.pure_ok] at h
  obtain ⟨_, _, ⟨-, rfl⟩, _, _, ⟨-, rfl⟩, -, rfl⟩ := h
  rfl

theorem free_handleFailedPayment (payment : Payment) (result : PaymentProviderResult) :
    Free G (handleFailedPayment cfg payment result) := by
  refine free_bind (fun t => .transaction (fun _ _ _ _ _ _ _ _ => trivial) ?_ ?_) fun _ =>
    free_bind (free_log hG _) fun _ => ?_
  · intro s i a d hs _ h
    simp only [Txn.bind_ok, connect_ok] at h
    obtain ⟨_, _, ⟨-, rfl⟩, h⟩ := h
    exact ⟨hallow s t _ d hs ((failedPaymentTxn_keepsOrders h).updates rfl (of_payments rfl)), trivial⟩
  · intro s i err hs _ _
    exact ⟨hallow s t _ _ hs ((KeepsOrders.refl s.store).updates rfl (of_payments rfl)), trivial⟩
  · split
    · exact free_enqueueWithContext hG _
    · exact free_pure _

theorem free_routeProviderResult (payment : Payment) (result : PaymentProviderResult) :
    Free G (routeProviderResult cfg payment result) := by
  unfold routeProviderResult
  split
  · exact free_bind (free_keepsOrders hG hallow (fun _ => rfl) (fun _ => of_payments rfl) fun _ _ _ _ h =>
      pendingConfirmationTxn_keepsOrders h) fun _ => free_log hG _
  · split
    · refine free_bind (free_transaction hG ?_) fun _ => free_notifyPaymentFunded hG payment
      intro s t i u d hs h
      exact hallow s t _ d hs (recordSuccessfulPaymentTxn_updates h)
    · exact free_handleFailedPayment hG hallow payment result

theorem free_executePayment (paymentId : ℕ) : Free G (executePayment cfg paymentId) := by
  refine free_bind (free_loadExecutablePayment hG hallow paymentId) fun payment =>
    free_bind (free_checkIdempotency hG hallow payment) fun found => ?_
  cases found with
  | some result => exact free_pure _
  | none =>
    refine free_bind (free_lift _) fun _ => free_tryCatch ?_ fun err => ?_
    · exact free_bind (free_askProvider hG hallow payment) fun result =>
        free_bind (free_routeProviderResult hG hallow payment result) fun _ => free_pure _
    · exact free_bind (free_handleFailedPayment hG hallow payment _) fun _ => free_pure _

theorem free_activateKillSwitch (userId : ℕ) (reason : String) (req : Request) :
    Free G (activateKillSwitch userId reason req) :=
  free_bind (free_keepsOrders hG hallow (fun _ => rfl) (fun _ => of_payments rfl) fun _ _ _ _ h =>
      (activateKillSwitchTxn_ok h).keepsOrders) fun _ =>
    free_bind (free_log hG _) fun _ => free_pure _

theorem free_deactivateKillSwitch (userId : ℕ) (reason : String) (req : Request) :
    Free G (deactivateKillSwitch userId reason req) := by
  refine free_bind (free_keepsOrders hG hallow (fun _ => rfl) (fun _ => of_payments rfl) ?_) fun _ => free_log hG _
  intro i w u w' h
  rw [deactivateKillSwitchTxn_ok h]
  exact ⟨.refl SameOrder.refl _, rfl⟩

/-- Every operation of the service follows a protocol that allows its updates, if `initiatePayment`
does. -/
theorem free_program_of (hinitiate : ∀ invoiceId, Free G (initiatePayment cfg invoiceId)) (op : Op) :
    Free G (program cfg op) := by
  cases op with
  | initiatePayment => exact free_discard (hinitiate _)
  | authoriseFirstAuth => exact free_discard (free_authoriseFirstAuth hG hallow _ _ _ _)
  | authoriseSecondAuth => exact free_discard (free_authoriseSecondAuth hG hallow _ _ _ _)
  | executePayment => exact free_discard (free_executePayment hG hallow _)
  | activateKillSwitch => exact free_discard (free_activateKillSwitch hG hallow _ _ _)
  | deactivateKillSwitch => exact free_discard (free_deactivateKillSwitch hG hallow _ _ _)

end Updates

/-- Every operation of the service follows a protocol that allows its writes. -/
theorem free_program (hallow : Allows G Writes) (op : Op) : Free G (program cfg op) := by
  refine free_program_of hG (hallow.mono fun _ _ _ h => h.toWrites) (fun invoiceId => ?_) op
  refine free_initiatePayment_of hG (B := fun _ => True) (fun _ _ _ _ _ _ _ => trivial)
    (fun _ _ _ _ _ _ => trivial) ?_
  exact fun s t p invoice now d hs _ _ h => hallow s t _ d hs h.writes

end Calls

end Ris.Payments
