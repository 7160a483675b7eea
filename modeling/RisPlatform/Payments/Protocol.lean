import RisPlatform.Common.RelyGuarantee
import RisPlatform.Payments.Transactions

/-!
# The payments protocol

`Effect` says what each event of the payments service does to the store and what the call that
performs it has done before. `program_implements` proves that the six operations follow it under any
interference from each other, so that every run of the service is a run of the protocol
(`Protocol.simulates`).

`RowStep` and `InvoiceStep` are the lifecycle that the protocol imposes on one payment row and on one
invoice row: an inversion of `Effect`, once, for the safety proofs that follow.
-/

namespace Ris.Payments

open Relational Concurrent

/-! ## What a call knows from its own history -/

/-- The history of an execution that has loaded `p` and found its key unused. -/
def readyToAsk (p : Payment) : List (Option Event) :=
  [some (.idempotencyChecked p), some (.executionLoaded p)]

/-- The history speaks of no provider but for the payment `p`. -/
def OnlyAsks (p : Payment) (h : List (Option Event)) : Prop :=
  ∀ q r, some (.providerReplied q r) ∈ h → q = p

/-- The call is about to record a failure of `p`: the provider refused, or something was thrown. -/
structure Handling (p : Payment) (h : List (Option Event)) : Prop where
  checked : some (.idempotencyChecked p) ∈ h
  only : OnlyAsks p h
  head : h.head? = some (some .threw) ∨ h.head? = some (some (.failureUnrecorded p)) ∨
    ∃ r, r.success = false ∧ h.head? = some (some (.providerReplied p r))

/-- The call has recorded what became of the payment `p`, or has failed to record a failure. -/
def Recorded (p : Payment) (h : List (Option Event)) : Prop :=
  some (.paymentFunded p) ∈ h ∨ some (.confirmationPending p) ∈ h ∨ some (.paymentFailed p) ∈ h ∨
    some (.failureUnrecorded p) ∈ h

/-- A call may return once it has recorded every instruction the provider accepted. -/
def Settled (h : List (Option Event)) : Prop :=
  ∀ p r, some (.providerReplied p r) ∈ h → r.success = true → Recorded p h

/-! ## Effects -/

/-- What the call `t` may do in the state `s`, and the store it leaves. -/
inductive Effect (s : State World Event) (t : ℕ) : Option Event → World → Prop
  | returned (h : Settled (own t s.hist)) : Effect s t none s.store
  | read : Effect s t (some .read) s.store
  | threw : Effect s t (some .threw) s.store
  | logged (action : String) : Effect s t (some (.logged action)) s.store
  | enqueued (job : Job)
      (h : job.name = "payment_failed" →
        ∃ p, job = failureNotification p ∧ some (.paymentFailed p) ∈ own t s.hist) :
      Effect s t (some (.enqueued job)) { s.store with jobs := s.store.jobs ++ [job] }
  | afterHours (paymentId userId : ℕ) (req : Request) (now : ℤ) :
      Effect s t (some (.afterHours paymentId userId))
        { s.store with
          auditLogs := s.store.auditLogs ++ [afterHoursAudit userId paymentId req now] }
  | paymentCreated {p : Payment} {invoice current : Invoice} {now : ℤ} {d : World}
      {facility : BankFacility} {rest : List BankFacility} (h : Creates s.store d p invoice now)
      (hcurrent : s.store.invoices.get? p.invoiceId = some current)
      (happroved : current.status = .approved)
      (hamount : current.advanceAmount = invoice.advanceAmount)
      (hfacility : Facilities.getActiveFacilities s.store = facility :: rest)
      (havailable : p.amount ≤ facility.availableAmount) :
      Effect s t (some (.paymentCreated p)) d
  | firstAuthorised {paymentId userId : ℕ} {req : Request} {comment : Option String} {now : ℤ}
      {old : Payment} {d : World} (hstatus : old.status = .pendingFirstAuth)
      (h : RewritesPayment s.store d paymentId old (setFirstAuth userId now old)
        (authorisationAudit "PAYMENT_FIRST_AUTH" paymentId userId req comment
          .pendingFirstAuth .pendingSecondAuth)) :
      Effect s t (some (.firstAuthorised paymentId userId)) d
  | secondAuthorised {paymentId userId : ℕ} {req : Request} {comment : Option String} {now : ℤ}
      {old : Payment} {d : World} (hstatus : old.status = .pendingSecondAuth)
      (huser : old.dualAuthUser1 ≠ some userId)
      (h : RewritesPayment s.store d paymentId old (setSecondAuth userId now old)
        (authorisationAudit "PAYMENT_SECOND_AUTH" paymentId userId req comment
          .pendingSecondAuth .executing)) :
      Effect s t (some (.secondAuthorised paymentId userId)) d
  | executionLoaded {p : Payment} (hown : own t s.hist = [])
      (hrow : s.store.payments.get? p.id = some p) (hstatus : p.status = .executing) :
      Effect s t (some (.executionLoaded p)) s.store
  | idempotencyChecked {p : Payment} (hown : own t s.hist = [some (.executionLoaded p)])
      (hunused : idempotentResult (getByIdempotencyKey p.idempotencyKey s.store) = none) :
      Effect s t (some (.idempotencyChecked p)) s.store
  | providerReplied {p : Payment} (r : PaymentProviderResult) (hown : own t s.hist = readyToAsk p) :
      Effect s t (some (.providerReplied p r)) s.store
  | paymentFunded {p old : Payment} {r : PaymentProviderResult} {now : ℤ} {d : World}
      (hown : own t s.hist = some (.providerReplied p r) :: readyToAsk p)
      (hsuccess : r.success = true) (hpending : r.pendingConfirmation = false)
      (hinvoice : old.invoiceId = p.invoiceId) (h : RecordsSuccess s.store d p r now old) :
      Effect s t (some (.paymentFunded p)) d
  | confirmationPending {p old : Payment} {r : PaymentProviderResult} {d : World}
      (hown : own t s.hist = some (.providerReplied p r) :: readyToAsk p)
      (hsuccess : r.success = true) (hpending : r.pendingConfirmation = true)
      (h : RewritesPayment s.store d p.id old (setReferences r old) (pendingAudit p r)) :
      Effect s t (some (.confirmationPending p)) d
  | paymentFailed {p old : Payment} {reason : String} {d : World} (hown : Handling p (own t s.hist))
      (h : RewritesPayment s.store d p.id old (setFailed reason old) (failedAudit p)) :
      Effect s t (some (.paymentFailed p)) d
  | failureUnrecorded {p : Payment} (hown : Handling p (own t s.hist)) :
      Effect s t (some (.failureUnrecorded p)) s.store
  | killSwitchActivated {ids : List ℕ} {d : World} (h : Activates s.store d ids) :
      Effect s t (some (.killSwitchActivated ids)) d
  | killSwitchDeactivated {d : World} (userId : ℕ) (req : Request) (values : List (String × Json))
      (h : d =
        { s.store with
          systemSettings := d.systemSettings
          auditLogs := s.store.auditLogs ++
            [killSwitchAudit "KILL_SWITCH_DEACTIVATED" userId req true values] }) :
      Effect s t (some .killSwitchDeactivated) d

/-- The protocol of the payments service. -/
def protocol : Protocol World Event where
  inv := fun _ => True
  effect := Effect
  inv_effect := fun _ _ => trivial
  return_stable := by
    intro s t u e d hu _ hret _
    cases hret with
    | returned h =>
      refine Effect.returned (s := s.record u e d) ?_
      rwa [State.record_hist, own_cons_of_ne hu]

/-! ## The lifecycle of a payment row -/

/-- What an event may do to one payment row. -/
inductive RowStep (e : Option Event) (r : Payment) : Payment → Prop
  | same : RowStep e r r
  | firstAuthorised (userId : ℕ) (now : ℤ) (he : e = some (.firstAuthorised r.id userId))
      (hstatus : r.status = .pendingFirstAuth) : RowStep e r (setFirstAuth userId now r)
  | secondAuthorised (userId : ℕ) (now : ℤ) (he : e = some (.secondAuthorised r.id userId))
      (hstatus : r.status = .pendingSecondAuth) (huser : r.dualAuthUser1 ≠ some userId) :
      RowStep e r (setSecondAuth userId now r)
  | funded (p : Payment) (result : PaymentProviderResult) (now : ℤ)
      (he : e = some (.paymentFunded p)) (hid : p.id = r.id) (hinvoice : p.invoiceId = r.invoiceId)
      (hlawful : violation r (setFunded result now r) = none) : RowStep e r (setFunded result now r)
  | pending (p : Payment) (result : PaymentProviderResult)
      (he : e = some (.confirmationPending p)) (hid : p.id = r.id)
      (hlawful : violation r (setReferences result r) = none) : RowStep e r (setReferences result r)
  | failed (p : Payment) (reason : String) (he : e = some (.paymentFailed p)) (hid : p.id = r.id) :
      RowStep e r (setFailed reason r)
  | suspended (ids : List ℕ) (reason : String) (he : e = some (.killSwitchActivated ids))
      (hids : r.id ∈ ids) (hstatus : r.status = .executing) : RowStep e r (setFailed reason r)

/-- A row that one event rewrites goes through one step, the others through none. -/
theorem rowStep_of_rewrites {T T' : Table Payment.id} {e : Option Event} {k : ℕ} {old new : Payment}
    (h : T.Rewrites T' k old new) (hstep : RowStep e old new) {j : ℕ} {r : Payment}
    (hr : T.get? j = some r) : ∃ r', T'.get? j = some r' ∧ RowStep e r r' := by
  rcases h.successor hr with ⟨-, hr'⟩ | ⟨-, rfl, hr'⟩
  · exact ⟨r, hr', .same⟩
  · exact ⟨new, hr', hstep⟩

variable {s : State World Event} {t : ℕ} {e : Option Event} {d : World}

/-- The step lemma of payment rows: a row stays, and goes through one lifecycle step at most. -/
theorem Effect.row_step (h : Effect s t e d) {j : ℕ} {r : Payment}
    (hr : s.store.payments.get? j = some r) :
    ∃ r', d.payments.get? j = some r' ∧ RowStep e r r' := by
  cases h with
  | paymentCreated h =>
    exact ⟨r, Table.get?_insert?_of_get? h.insert hr, .same⟩
  | firstAuthorised hstatus h =>
    have hid := Table.key_of_get? h.row.before
    exact rowStep_of_rewrites h.row (.firstAuthorised _ _ (by rw [hid]) hstatus) hr
  | secondAuthorised hstatus huser h =>
    have hid := Table.key_of_get? h.row.before
    exact rowStep_of_rewrites h.row (.secondAuthorised _ _ (by rw [hid]) hstatus huser) hr
  | paymentFunded hown hsuccess hpending hinvoice h =>
    have hid := Table.key_of_get? h.row.before
    exact rowStep_of_rewrites h.row (.funded _ _ _ rfl hid.symm hinvoice.symm h.lawful) hr
  | confirmationPending hown hsuccess hpending h =>
    have hid := Table.key_of_get? h.row.before
    exact rowStep_of_rewrites h.row (.pending _ _ rfl hid.symm h.lawful) hr
  | paymentFailed hown h =>
    have hid := Table.key_of_get? h.row.before
    exact rowStep_of_rewrites h.row (.failed _ _ rfl hid.symm) hr
  | killSwitchActivated h =>
    rw [h.payments, Table.get?_update_of_get? hr]
    by_cases hstatus : r.status = .executing
    · refine ⟨_, rfl, ?_⟩
      rw [if_pos (by simpa using hstatus)]
      refine .suspended _ _ rfl ?_ hstatus
      rw [h.suspended]
      exact List.mem_map.2 ⟨r, List.mem_filter.2 ⟨Table.mem_of_get? hr, by simpa using hstatus⟩, rfl⟩
    · refine ⟨_, rfl, ?_⟩
      rw [if_neg (by simpa using hstatus)]
      exact .same
  | killSwitchDeactivated _ _ _ h =>
    rw [h]
    exact ⟨r, hr, .same⟩
  | _ => exact ⟨r, hr, .same⟩

/-- The only event that adds a row is its creation. -/
theorem Effect.row_none (h : Effect s t e d) {j : ℕ} (hr : s.store.payments.get? j = none) :
    d.payments.get? j = none ∨ ∃ p, e = some (.paymentCreated p) ∧ d.payments.get? j = some p := by
  cases h with
  | paymentCreated h =>
    rw [Table.get?_insert? h.insert]
    split
    · exact Or.inr ⟨_, rfl, rfl⟩
    · exact Or.inl hr
  | firstAuthorised _ h => exact Or.inl (h.row.get?_none hr)
  | secondAuthorised _ _ h => exact Or.inl (h.row.get?_none hr)
  | paymentFunded _ _ _ _ h => exact Or.inl (h.row.get?_none hr)
  | confirmationPending _ _ _ h => exact Or.inl (h.row.get?_none hr)
  | paymentFailed _ h => exact Or.inl (h.row.get?_none hr)
  | killSwitchActivated h =>
    rw [h.payments]
    exact Or.inl (Table.get?_update_of_none hr)
  | killSwitchDeactivated _ _ _ h =>
    rw [h]
    exact Or.inl hr
  | _ => exact Or.inl hr

/-- A row is the one this event creates, or the successor of a row that was there. -/
theorem Effect.row_origin (h : Effect s t e d) {j : ℕ} {r' : Payment}
    (hr' : d.payments.get? j = some r') :
    (e = some (.paymentCreated r') ∧ s.store.payments.get? j = none) ∨
      ∃ r, s.store.payments.get? j = some r ∧ RowStep e r r' := by
  cases hr : s.store.payments.get? j with
  | some r =>
    obtain ⟨r'', hr'', hstep⟩ := h.row_step hr
    rw [hr', Option.some.injEq] at hr''
    exact Or.inr ⟨r, rfl, hr'' ▸ hstep⟩
  | none =>
    rcases h.row_none hr with hnone | ⟨p, he, hp⟩
    · rw [hr'] at hnone
      cases hnone
    · rw [hr', Option.some.injEq] at hp
      exact Or.inl ⟨hp ▸ he, rfl⟩

/-- What a step never changes in a payment row. -/
structure SameOrder (r r' : Payment) : Prop where
  id : r'.id = r.id
  invoiceId : r'.invoiceId = r.invoiceId
  amount : r'.amount = r.amount
  idempotencyKey : r'.idempotencyKey = r.idempotencyKey

theorem RowStep.sameOrder {r r' : Payment} (h : RowStep e r r') : SameOrder r r' := by
  cases h <;> exact ⟨rfl, rfl, rfl, rfl⟩

/-! ## The lifecycle of an invoice row -/

/-- What an event may do to one invoice row. -/
inductive InvoiceStep (e : Option Event) (r : Invoice) : Invoice → Prop
  | same : InvoiceStep e r r
  | initiated (p : Payment) (now : ℤ) (he : e = some (.paymentCreated p)) (hid : p.invoiceId = r.id)
      (hstatus : r.status = .approved) : InvoiceStep e r (setInvoiceStatus .pendingFirstAuth now r)
  | funded (p : Payment) (now : ℤ) (he : e = some (.paymentFunded p)) (hid : p.invoiceId = r.id)
      (hstatus : r.status = .approved) : InvoiceStep e r (setInvoiceStatus .funded now r)

/-- The step lemma of invoice rows. -/
theorem Effect.invoice_step (h : Effect s t e d) {j : ℕ} {r : Invoice}
    (hr : s.store.invoices.get? j = some r) :
    ∃ r', d.invoices.get? j = some r' ∧ InvoiceStep e r r' := by
  cases h with
  | paymentCreated h =>
    rw [h.invoices, Table.get?_update_of_get? hr]
    refine ⟨_, rfl, ?_⟩
    split
    · rename_i hmatch
      obtain ⟨hid, hstatus⟩ := of_decide_eq_true hmatch
      exact .initiated _ _ rfl hid.symm hstatus
    · exact .same
  | paymentFunded _ _ _ _ h =>
    rw [h.invoices, Table.get?_update_of_get? hr]
    refine ⟨_, rfl, ?_⟩
    split
    · rename_i hmatch
      obtain ⟨hid, hstatus⟩ := of_decide_eq_true hmatch
      exact .funded _ _ rfl hid.symm hstatus
    · exact .same
  | firstAuthorised _ h =>
    rw [h.frame]
    exact ⟨r, hr, .same⟩
  | secondAuthorised _ _ h =>
    rw [h.frame]
    exact ⟨r, hr, .same⟩
  | confirmationPending _ _ _ h =>
    rw [h.frame]
    exact ⟨r, hr, .same⟩
  | paymentFailed _ h =>
    rw [h.frame]
    exact ⟨r, hr, .same⟩
  | killSwitchActivated h =>
    rw [h.frame]
    exact ⟨r, hr, .same⟩
  | killSwitchDeactivated _ _ _ h =>
    rw [h]
    exact ⟨r, hr, .same⟩
  | _ => exact ⟨r, hr, .same⟩

/-- No event of the service touches the facilities. -/
theorem Effect.bankFacilities (h : Effect s t e d) : d.bankFacilities = s.store.bankFacilities := by
  cases h with
  | paymentCreated h => rw [h.frame]
  | paymentFunded _ _ _ _ h => rw [h.frame]
  | firstAuthorised _ h => rw [h.frame]
  | secondAuthorised _ _ h => rw [h.frame]
  | confirmationPending _ _ _ h => rw [h.frame]
  | paymentFailed _ h => rw [h.frame]
  | killSwitchActivated h => rw [h.frame]
  | killSwitchDeactivated _ _ _ h => rw [h]
  | _ => rfl

/-! ## Facts that no call can falsify -/

/-- The row of the payment `p` exists and is for the same invoice. -/
def RowOf (p : Payment) (s : State World Event) : Prop :=
  ∃ r, s.store.payments.get? p.id = some r ∧ r.invoiceId = p.invoiceId

theorem steady_rowOf (p : Payment) : protocol.Steady (RowOf p) := by
  rintro s u e d - ⟨r, hr, hinvoice⟩ heff
  obtain ⟨r', hr', hstep⟩ := Effect.row_step heff hr
  exact ⟨r', hr', hstep.sameOrder.invoiceId.trans hinvoice⟩

/-- The invoice has a payment. -/
def HasPayment (invoiceId : ℕ) (s : State World Event) : Prop :=
  ∃ r ∈ s.store.payments.rows, r.invoiceId = invoiceId

/-- A payment of the invoice is kept by every step. -/
theorem steady_hasPayment (invoiceId : ℕ) : protocol.Steady (HasPayment invoiceId) := by
  rintro s u e d - ⟨r, hr, hinvoice⟩ heff
  obtain ⟨r', hr', hstep⟩ := Effect.row_step heff (Table.get?_of_mem hr)
  exact ⟨r', Table.mem_of_get? hr', hstep.sameOrder.invoiceId.trans hinvoice⟩

/-- The invoice was read as approved: it still is, or it has a payment by now. -/
def ReadApproved (invoiceId : ℕ) (invoice : Invoice) (s : State World Event) : Prop :=
  ∃ current, s.store.invoices.get? invoiceId = some current ∧
    current.advanceAmount = invoice.advanceAmount ∧
    (current.status = .approved ∨ ∃ r ∈ s.store.payments.rows, r.invoiceId = invoiceId)

theorem steady_readApproved (invoiceId : ℕ) (invoice : Invoice) :
    protocol.Steady (ReadApproved invoiceId invoice) := by
  rintro s u e d hs ⟨current, hcurrent, hamount, hstate⟩ heff
  obtain ⟨current', hcurrent', hstep⟩ := Effect.invoice_step heff hcurrent
  have hid : current.id = invoiceId := Table.key_of_get? hcurrent
  have hpaid : HasPayment invoiceId s → HasPayment invoiceId (s.record u e d) :=
    fun h => steady_hasPayment invoiceId s u e d hs h heff
  cases hstep with
  | same => exact ⟨current, hcurrent', hamount, hstate.imp_right hpaid⟩
  | initiated p now he hpid hstatus =>
    refine ⟨_, hcurrent', hamount, Or.inr ?_⟩
    subst he
    cases heff with
    | paymentCreated h =>
      exact ⟨p, (Table.mem_insert? h.insert).2 (Or.inr rfl), hpid.trans hid⟩
  | funded p now he hpid hstatus =>
    refine ⟨_, hcurrent', hamount, Or.inr ?_⟩
    subst he
    cases heff with
    | paymentFunded _ _ _ hinvoice h =>
      exact ⟨_, Table.mem_of_get? h.row.after, hinvoice.trans (hpid.trans hid)⟩

/-- The first active facility has the amount available. -/
def Covered (amount : Option ℤ) (s : State World Event) : Prop :=
  ∃ required facility rest, amount = some required ∧
    Facilities.getActiveFacilities s.store = facility :: rest ∧ required ≤ facility.availableAmount

theorem steady_covered (amount : Option ℤ) : protocol.Steady (Covered amount) := by
  rintro s u e d - ⟨required, facility, rest, hamount, hfacility, havailable⟩ heff
  refine ⟨required, facility, rest, hamount, ?_, havailable⟩
  rw [State.record_store, Facilities.getActiveFacilities, Effect.bankFacilities heff]
  exact hfacility

end Ris.Payments
