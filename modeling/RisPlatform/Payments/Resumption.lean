import RisPlatform.Payments.KillSwitch

/-!
# Payments that the kill switch has failed

`deactivateKillSwitch` leaves the failed payments to be retried by hand, under two new authorisations. No
operation does so: `failed` is a status that only the reply to an execution in flight can change, an
authorisation wants another one, and the unique constraint on `invoice_id` keeps a second payment of the
invoice out. `suspended_not_resumable` says that no such payment can be resumed.
-/

namespace Ris.Payments

open Relational Concurrent

/-! ## Resumption -/

/-- The payment was failed by an activation of the kill switch before the provider accepted it, and the
switch is off again. -/
structure Suspended (s : State World Event) (p : Payment) : Prop where
  activated : ∃ t ids, (t, some (.killSwitchActivated ids)) ∈ s.hist ∧ p.id ∈ ids
  unaccepted : ∀ t q r, (t, some (.providerReplied q r)) ∈ s.hist → q.id = p.id → r.success = false
  deactivated : ¬KillSwitchActive s.store
  row : s.store.payments.get? p.id = some p
  failed : p.status = .failed

/-- Since `s`, a payment of the invoice was authorised by two different users. -/
def FreshlyAuthorised (invoiceId : ℕ) (s s' : State World Event) : Prop :=
  ∃ since, s'.hist = since ++ s.hist ∧ ∃ q ∈ s'.store.payments.rows, q.invoiceId = invoiceId ∧
    ∃ t t' u v, u ≠ v ∧ (t, some (.firstAuthorised q.id u)) ∈ since ∧
      (t', some (.secondAuthorised q.id v)) ∈ since

/-- The payment of the invoice is funded. -/
def FundedFor (invoiceId : ℕ) (s : State World Event) : Prop :=
  ∃ q ∈ s.store.payments.rows, q.invoiceId = invoiceId ∧ q.status = .funded

/-- Some operations, with two new authorisations among them, fund the invoice's payment; without them none
do. -/
def Resumable (cfg : Config) (invoiceId : ℕ) (s : Sys World Input Event RisError) : Prop :=
  (∃ s', Reaches (program cfg) always s s' ∧ FreshlyAuthorised invoiceId s.toState s'.toState ∧
      FundedFor invoiceId s'.toState) ∧
    ∀ s', Reaches (program cfg) always s s' → FundedFor invoiceId s'.toState →
      FreshlyAuthorised invoiceId s.toState s'.toState

/-! ## One payment per invoice -/

/-- `payments_invoice_id_key`. -/
def OnePerInvoice (w : World) : Prop :=
  ∀ p ∈ w.payments.rows, ∀ q ∈ w.payments.rows, p.invoiceId = q.invoiceId → p.id = q.id

section Step

variable {s : State World Event} {t : ℕ} {e : Option Event} {d : World} {p : Payment}

theorem onePerInvoice_step (h : OnePerInvoice s.store) (heff : Effect s t e d) : OnePerInvoice d := by
  -- a row is new, or the successor of a row of the same invoice
  have horigin : ∀ r' ∈ d.payments.rows, e = some (.paymentCreated r') ∨
      ∃ r ∈ s.store.payments.rows, r.id = r'.id ∧ r.invoiceId = r'.invoiceId := by
    intro r' hr'
    rcases heff.row_origin (Table.get?_of_mem hr') with ⟨he, -⟩ | ⟨r, hr, hstep⟩
    · exact Or.inl he
    · refine Or.inr ⟨r, Table.mem_of_get? hr, hstep.sameOrder.id.symm, hstep.sameOrder.invoiceId.symm⟩
  have hfresh : ∀ p', e = some (.paymentCreated p') →
      ∀ r ∈ s.store.payments.rows, r.invoiceId ≠ p'.invoiceId := by
    rintro p' rfl r hr
    cases heff with
    | paymentCreated hcreates => exact hcreates.invoice_fresh r hr
  intro p' hp' q' hq' hsame
  rcases horigin p' hp' with he | ⟨r, hr, hid, hinvoice⟩
  · rcases horigin q' hq' with he' | ⟨r', hr', hid', hinvoice'⟩
    · rw [he, Option.some.injEq, Event.paymentCreated.injEq] at he'
      rw [he']
    · exact absurd (hinvoice'.trans hsame.symm) (hfresh p' he r' hr')
  · rcases horigin q' hq' with he' | ⟨r', hr', hid', hinvoice'⟩
    · exact absurd (hinvoice.trans hsame) (hfresh q' he' r hr)
    · rw [← hid, ← hid']
      exact h r hr r' hr' (by rw [hinvoice, hinvoice', hsame])

/-! ## No way back -/

/-- The payment has failed or, by a reply in flight, been funded since. -/
def Ended (p : Payment) (s : State World Event) : Prop :=
  ∃ r, s.store.payments.get? p.id = some r ∧ r.invoiceId = p.invoiceId ∧
    (r.status = .failed ∨ r.status = .funded)

theorem Ended.step (h : Ended p s) (heff : Effect s t e d) : Ended p (s.record t e d) := by
  obtain ⟨r, hr, hinvoice, hstatus⟩ := h
  obtain ⟨r', hr', hstep⟩ := heff.row_step hr
  refine ⟨r', hr', hstep.sameOrder.invoiceId.trans hinvoice, ?_⟩
  cases hstep with
  | same => exact hstatus
  | firstAuthorised userId now he hold => simp [hold] at hstatus
  | secondAuthorised userId now he hold => simp [hold] at hstatus
  | funded q result now he hid => exact Or.inr rfl
  | pending q result he hid => exact hstatus
  | failed q reason he hid => exact Or.inl rfl
  | suspended ids reason he hids hold => simp [hold] at hstatus

/-- A payment that has ended is not authorised. -/
theorem Ended.unauthorised (h : Ended p s) (heff : Effect s t e d) (userId : ℕ) :
    e ≠ some (.firstAuthorised p.id userId) := by
  rintro rfl
  obtain ⟨r, hr, -, hstatus⟩ := h
  cases heff with
  | firstAuthorised hold hrewrites =>
    obtain rfl := Option.some.inj (hr.symm.trans hrewrites.row.before)
    simp [hold] at hstatus

end Step

/-- From a state in which the payment has ended, no run authorises the invoice's payment again. -/
theorem Ended.not_freshlyAuthorised {cfg : Config} {w : World} (hw : OnePerInvoice w) {p : Payment}
    {s s' : Sys World Input Event RisError} (hs : Reaches (program cfg) always (Sys.init w) s)
    (h : Ended p s.toState) (hs' : Reaches (program cfg) always s s') :
    ¬FreshlyAuthorised p.invoiceId s.toState s'.toState := by
  have hone : OnePerInvoice s.store :=
    Protocol.invariant (P := fun x => OnePerInvoice x.store) (program_implements cfg) trivial hw
      (fun _ _ _ _ hx hmove => onePerInvoice_step hx hmove.effect) hs
  have hrun := Protocol.persists (program_implements cfg) trivial
    (P := fun x => Ended p x ∧ OnePerInvoice x.store ∧ ∃ since, x.hist = since ++ s.hist ∧
      ∀ t u, (t, some (.firstAuthorised p.id u)) ∉ since)
    ?_ hs ⟨h, hone, [], rfl, fun _ _ => List.not_mem_nil⟩ hs'
  · rintro ⟨since, hhist, q, hq, hinvoice, t, t', u, v, -, hfirst, -⟩
    obtain ⟨⟨r, hr, hrinvoice, -⟩, hone', since', hhist', hnone⟩ := hrun
    obtain rfl := List.append_cancel_right (hhist.symm.trans hhist')
    have hid : q.id = r.id := hone' q hq r (Table.mem_of_get? hr) (hinvoice.trans hrinvoice.symm)
    rw [hid, Table.key_of_get? hr] at hfirst
    exact hnone t u hfirst
  · rintro x t e d ⟨hended, hone', since, hhist, hnone⟩ hmove
    refine ⟨hended.step hmove.effect, onePerInvoice_step hone' hmove.effect, (t, e) :: since, ?_, ?_⟩
    · rw [State.record_hist, hhist, List.cons_append]
    · intro t' u hmem
      rcases List.mem_cons.1 hmem with heq | hmem
      · exact hended.unauthorised hmove.effect u (Prod.mk.inj heq).2.symm
      · exact hnone t' u hmem

theorem Suspended.ended {s : State World Event} {p : Payment} (h : Suspended s p) : Ended p s :=
  ⟨p, h.row, rfl, Or.inl h.failed⟩

/-- **No resumption.** In no state of any run can a payment be resumed that the kill switch has failed. -/
theorem suspended_not_resumable (cfg : Config) (w : World) (hw : OnePerInvoice w)
    (s : Sys World Input Event RisError) (hs : Reaches (program cfg) always (Sys.init w) s) (p : Payment)
    (hp : Suspended s.toState p) : ¬Resumable cfg p.invoiceId s := by
  rintro ⟨⟨s', hs', hfresh, -⟩, -⟩
  exact hp.ended.not_freshlyAuthorised hw hs hs' hfresh

/-! ## A payment that is suspended in flight -/

/-- No reply in the history accepts a payment. -/
def noneAccepted (s : State World Event) : Bool :=
  s.hist.all fun x =>
    match x.2 with
    | some (.providerReplied _ r) => !r.success
    | _ => true

theorem suspended_of {s : State World Event} {t : ℕ} {p : Payment}
    (hactivated : (t, some (.killSwitchActivated [p.id])) ∈ s.hist) (hnone : noneAccepted s = true)
    (hoff : ¬KillSwitchActive s.store) (hrow : s.store.payments.get? p.id = some p)
    (hfailed : p.status = .failed) : Suspended s p where
  activated := ⟨t, [p.id], hactivated, List.mem_singleton_self _⟩
  unaccepted := by
    intro u q r hmem _
    have hr := List.all_eq_true.1 hnone _ hmem
    simpa using hr
  deactivated := hoff
  row := hrow
  failed := hfailed

/-- Payment 1 is suspended while an execution is about to ask the provider, and the switch is turned off
again. -/
def suspendInFlight : List (Act Op Input) :=
  initiateAlone 0 1 "K" ++ authoriseAlone 1 1 ++
    .start (.executePayment 1) :: List.replicate 2 (.move 3 (quietInput 0 "")) ++
    Act.call (.activateKillSwitch 7 "incident" {}) 4 (List.replicate 2 (quietInput 0 "")) ++
    Act.call (.deactivateKillSwitch 7 "resolved" {}) 5 (List.replicate 2 (quietInput 0 ""))

theorem suspended_not_resumable_inFlight :
    ∃ (s : Sys World Input Event RisError) (p : Payment), Suspended s.toState p ∧
      ¬Resumable {} p.invoiceId s := by
  obtain ⟨s, hs, hP⟩ := exists_reaches (program {}) always (Sys.init smallWorld) suspendInFlight
    (fun s => (4, some (.killSwitchActivated [1])) ∈ s.hist ∧ noneAccepted s.toState = true ∧
      ¬KillSwitchActive s.store ∧ (s.store.payments.get? 1).map Payment.status = some .failed)
    (by decide +kernel)
  obtain ⟨hactivated, hnone, hoff, hfailed⟩ := of_decide_eq_true hP
  obtain ⟨p, hrow, hfailed⟩ := Option.map_eq_some_iff.1 hfailed
  have hid : p.id = 1 := Table.key_of_get? hrow
  rw [← hid] at hactivated hrow
  have hp : Suspended s.toState p := suspended_of hactivated hnone hoff hrow hfailed
  exact ⟨s, p, hp, suspended_not_resumable {} smallWorld (fun q hq => absurd hq List.not_mem_nil) s hs p hp⟩

/-- The reply to the execution in flight funds the suspended payment, and nobody has authorised it anew. -/
theorem resumed_unauthorised :
    ∃ (s s' : Sys World Input Event RisError) (p : Payment),
      Reaches (program {}) always (Sys.init smallWorld) s ∧ Suspended s.toState p ∧
      Reaches (program {}) always s s' ∧ FundedFor p.invoiceId s'.toState ∧
      ¬FreshlyAuthorised p.invoiceId s.toState s'.toState ∧ ¬Resumable {} p.invoiceId s := by
  obtain ⟨s, s', hs, hs', hP⟩ := exists_reaches_reaches (program {}) always (Sys.init smallWorld)
    suspendInFlight (List.replicate 2 (.move 3 { quietInput 0 "" with reply := transferred }))
    (fun s s' => (4, some (.killSwitchActivated [1])) ∈ s.hist ∧ noneAccepted s.toState = true ∧
      ¬KillSwitchActive s.store ∧ (s.store.payments.get? 1).map Payment.status = some .failed ∧
      (s.store.payments.get? 1).map Payment.invoiceId = some 1 ∧
      ∃ q ∈ s'.store.payments.rows, q.invoiceId = 1 ∧ q.status = .funded)
    (by decide +kernel)
  obtain ⟨hactivated, hnone, hoff, hfailed, hinvoice, hfunded⟩ := of_decide_eq_true hP
  obtain ⟨p, hrow, hfailed⟩ := Option.map_eq_some_iff.1 hfailed
  obtain ⟨p', hrow', hinvoice⟩ := Option.map_eq_some_iff.1 hinvoice
  obtain rfl : p = p' := Option.some.inj (hrow.symm.trans hrow')
  have hid : p.id = 1 := Table.key_of_get? hrow
  rw [← hid] at hactivated hrow
  have hp : Suspended s.toState p := suspended_of hactivated hnone hoff hrow hfailed
  have hnever : ¬FreshlyAuthorised p.invoiceId s.toState s'.toState :=
    hp.ended.not_freshlyAuthorised (w := smallWorld) (fun q hq => absurd hq List.not_mem_nil) hs hs'
  rw [← hinvoice] at hfunded
  exact ⟨s, s', p, hs, hp, hs', hfunded, hnever, fun h => hnever (h.2 s' hs' hfunded)⟩

end Ris.Payments
