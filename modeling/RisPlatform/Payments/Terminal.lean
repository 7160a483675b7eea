import RisPlatform.Payments.InFlight

/-!
# Funded is terminal

A payment committed as funded should stay so, with its references, and leave no record or notification
of a failure. The success path runs inside the `try` block whose handler records a failure, and no
`UPDATE` of a result looks at the row's status: whatever throws after the commit fails the payment, and
so does a second execution of it. `Undisturbed` excludes both.
-/

namespace Ris.Payments

open Relational Concurrent

/-- No statement of an execution fails after its success has committed, and an execution passes its
check only if no other is in flight for the payment. -/
def Undisturbed : Cond World Event := fun s t e =>
  (e = .threw → ∀ x ∈ own t s.hist, x.bind Event.funded? = none) ∧ ∀ p ∈ e.checked?, Vacant s p.id

instance (s : State World Event) (t : ℕ) (e : Event) : Decidable (Undisturbed s t e) := by
  unfold Undisturbed
  infer_instance

/-- The audit rows that record a failure of the payment `j`. -/
def failureRecords (w : World) (j : ℕ) : List AuditLog :=
  w.auditLogs.filter fun a => a.action = "PAYMENT_FAILED" ∧ a.recordId = .id j

/-- The jobs that notify a failure of the payment `j`. -/
def failureNotifications (w : World) (j : ℕ) : List Job :=
  w.jobs.filter fun job => job.name = "payment_failed" ∧ ("paymentId", Json.id j) ∈ job.data

variable {s : State World Event} {t : ℕ} {e : Option Event} {d : World}

/-! ## Idempotency keys -/

/-- Idempotency keys are unique. -/
def Keyed (s : State World Event) : Prop :=
  ∀ j k r r', s.store.payments.get? j = some r → s.store.payments.get? k = some r' →
    r.idempotencyKey = r'.idempotencyKey → j = k

theorem Keyed.step (h : Keyed s) (heff : Effect s t e d) : Keyed (s.record t e d) := by
  -- the unique index refuses a new row whose key is taken
  have hfresh {p r' : Payment} {j : ℕ} (he : e = some (.paymentCreated p))
      (hr : s.store.payments.get? j = some r') : r'.idempotencyKey ≠ p.idempotencyKey := by
    subst he
    cases heff with
    | paymentCreated hcreates => exact hcreates.key_fresh r' (Table.mem_of_get? hr)
  intro j k r' r₂' hr' hr₂' hkey
  rcases Effect.row_origin heff hr' with ⟨he, -⟩ | ⟨r, hr, hstep⟩
  · rcases Effect.row_origin heff hr₂' with ⟨he₂, -⟩ | ⟨r₂, hr₂, hstep₂⟩
    · rw [he, Option.some.injEq, Event.paymentCreated.injEq] at he₂
      rw [← Table.key_of_get? hr', ← Table.key_of_get? hr₂', he₂]
    · rw [hstep₂.sameOrder.idempotencyKey] at hkey
      exact absurd hkey.symm (hfresh he hr₂)
  · rcases Effect.row_origin heff hr₂' with ⟨he₂, -⟩ | ⟨r₂, hr₂, hstep₂⟩
    · rw [hstep.sameOrder.idempotencyKey] at hkey
      exact absurd hkey (hfresh he₂ hr)
    · rw [hstep.sameOrder.idempotencyKey, hstep₂.sameOrder.idempotencyKey] at hkey
      exact h j k r r₂ hr hr₂ hkey

/-- The check recognises a funded row by its key. -/
theorem Keyed.idempotentResult_ne_none (h : Keyed s) {j : ℕ} {r : Payment}
    (hr : s.store.payments.get? j = some r) (hstatus : r.status = .funded) :
    idempotentResult (getByIdempotencyKey r.idempotencyKey s.store) ≠ none := by
  cases hfound : getByIdempotencyKey r.idempotencyKey s.store with
  | none =>
    have hnone := List.find?_eq_none.1 hfound r (Table.mem_of_get? hr)
    simp at hnone
  | some x =>
    have hkey : x.idempotencyKey = r.idempotencyKey := by simpa using List.find?_some hfound
    have hx := Table.get?_of_mem (List.mem_of_find?_eq_some hfound)
    obtain rfl := h x.id j x r hx hr hkey
    rw [hr, Option.some.injEq] at hx
    simp [idempotentResult, ← hx, hstatus]

/-! ## The invariant -/

/-- The newest entry of the history does not lead to the failure handler. -/
def Quiet (h : List (Option Event)) : Prop :=
  ∀ p, ¬Handling p h

/-- The execution `t` has funded `p`: the row is funded, no other execution of it is in flight, and `t`
neither has failed it nor is about to. -/
structure Final (s : State World Event) (t : ℕ) (p : Payment) : Prop where
  row : ∃ r, s.store.payments.get? p.id = some r ∧ r.status = .funded
  alone : ∀ u, InFlight s u p.id → u = t
  quiet : Quiet (own t s.hist)
  unfailed : ∀ q, (t, some (.paymentFailed q)) ∉ s.hist

/-- What is known of every success. -/
structure Terminal (s : State World Event) : Prop where
  traced : Traced s
  exclusive : Exclusive s
  keyed : Keyed s
  final : ∀ t p, (t, some (.paymentFunded p)) ∈ s.hist → Final s t p

/-- No running call is about to record an outcome of a payment that has been funded. -/
theorem Final.not_recording {p : Payment} (h : Final s t p)
    (hfunded : (t, some (.paymentFunded p)) ∈ s.hist) {u : ℕ} (hrun : s.Running u) {q : Payment}
    (hq : q.id = p.id) :
    ¬Handling q (own u s.hist) ∧ ∀ r, own u s.hist ≠ some (.providerReplied q r) :: readyToAsk q := by
  constructor
  · intro hhandling
    obtain rfl := h.alone u ⟨hrun, q, hq, mem_own.1 hhandling.checked⟩
    exact h.quiet q hhandling
  · intro r hown
    have hchecked : (u, some (.idempotencyChecked q)) ∈ s.hist :=
      mem_own.1 (by rw [hown]; simp [readyToAsk])
    obtain rfl := h.alone u ⟨hrun, q, hq, hchecked⟩
    have hmem := mem_own.2 hfunded
    rw [hown] at hmem
    simp [readyToAsk] at hmem

/-- The row of a funded payment does not change. -/
theorem Final.row_unchanged {p : Payment} (h : Final s t p)
    (hfunded : (t, some (.paymentFunded p)) ∈ s.hist) {u : ℕ} (hrun : s.Running u)
    (heff : Effect s u e d) {r : Payment} (hr : s.store.payments.get? p.id = some r)
    (hstatus : r.status = .funded) : d.payments.get? p.id = some r := by
  obtain ⟨r', hr', hstep⟩ := Effect.row_step heff hr
  have hid : r.id = p.id := Table.key_of_get? hr
  cases hstep with
  | same => exact hr'
  | firstAuthorised userId now he hold =>
    rw [hstatus] at hold
    cases hold
  | secondAuthorised userId now he hold huser =>
    rw [hstatus] at hold
    cases hold
  | funded q result now he hq =>
    subst he
    cases heff with
    | paymentFunded hown => exact absurd hown ((h.not_recording hfunded hrun (hq.trans hid)).2 _)
  | pending q result he hq =>
    subst he
    cases heff with
    | confirmationPending hown => exact absurd hown ((h.not_recording hfunded hrun (hq.trans hid)).2 _)
  | failed q reason he hq =>
    subst he
    cases heff with
    | paymentFailed hown => exact absurd hown (h.not_recording hfunded hrun (hq.trans hid)).1
  | suspended ids reason he hids hold =>
    rw [hstatus] at hold
    cases hold

/-- An execution that has just funded `p`. -/
theorem Terminal.final_of_funding (h : Terminal s) {p : Payment} (hrun : s.Running t)
    (heff : Effect s t (some (.paymentFunded p)) d) :
    Final (s.record t (some (.paymentFunded p)) d) t p := by
  cases heff with
  | paymentFunded hown hsuccess hpending hinvoice hrecords =>
    have hchecked : (t, some (.idempotencyChecked p)) ∈ s.hist :=
      mem_own.1 (by rw [hown]; simp [readyToAsk])
    refine ⟨⟨_, hrecords.row.after, rfl⟩, ?_, ?_, ?_⟩
    · intro u hu
      rcases hu.before with hu | ⟨rfl, -⟩
      · exact h.exclusive u t p.id hu ⟨hrun, p, rfl, hchecked⟩
      · rfl
    · rintro q ⟨-, -, hhead⟩
      simp at hhead
    · intro q hmem
      rw [State.record_hist, List.mem_cons] at hmem
      rcases hmem with hmem | hmem
      · cases hmem
      · have hmem := mem_own.2 hmem
        rw [hown] at hmem
        simp [readyToAsk] at hmem

/-- What a running execution that has funded a payment does next does not lead to the handler. -/
theorem Final.quiet_step {p : Payment} (h : Final s t p)
    (hfunded : (t, some (.paymentFunded p)) ∈ s.hist) (hmove : protocol.Moves Undisturbed s t e d) :
    Quiet (e :: own t s.hist) := by
  have hmem := mem_own.2 hfunded
  rintro q ⟨-, -, hhead | hhead | ⟨r, -, hhead⟩⟩
  · obtain rfl : e = some .threw := by simpa using hhead
    cases (hmove.cond _ rfl).1 rfl _ hmem
  · obtain rfl : e = some (.failureUnrecorded q) := by simpa using hhead
    cases hmove.effect with
    | failureUnrecorded hown => exact h.quiet q hown
  · obtain rfl : e = some (.providerReplied q r) := by simpa using hhead
    cases hmove.effect with
    | providerReplied _ hown =>
      rw [hown] at hmem
      simp [readyToAsk] at hmem

/-- The step lemma of a success. -/
theorem Terminal.final_step (h : Terminal s) {p : Payment}
    (hfunded : (t, some (.paymentFunded p)) ∈ s.hist) {u : ℕ}
    (hmove : protocol.Moves Undisturbed s u e d) : Final (s.record u e d) t p := by
  have hfinal := h.final t p hfunded
  obtain ⟨r, hr, hstatus⟩ := hfinal.row
  refine ⟨⟨r, hfinal.row_unchanged hfunded hmove.running hmove.effect hr hstatus, hstatus⟩, ?_, ?_, ?_⟩
  · intro v hv
    rcases hv.before with hv | ⟨rfl, q, hq, rfl⟩
    · exact hfinal.alone v hv
    · -- the key of a funded payment is in use
      cases hmove.effect with
      | idempotencyChecked hown hunused =>
        obtain ⟨r', hr', horder⟩ := h.traced.row v q (mem_own.1 (by rw [hown]; simp))
        rw [hq, hr, Option.some.injEq] at hr'
        subst hr'
        rw [← horder.idempotencyKey] at hunused
        exact absurd hunused (h.keyed.idempotentResult_ne_none hr hstatus)
  · by_cases hu : u = t
    · subst hu
      rw [State.record_hist, own_cons_self]
      exact hfinal.quiet_step hfunded hmove
    · rw [State.record_hist, own_cons_of_ne hu]
      exact hfinal.quiet
  · intro q hmem
    rw [State.record_hist, List.mem_cons, Prod.mk.injEq] at hmem
    rcases hmem with ⟨rfl, rfl⟩ | hmem
    · cases hmove.effect with
      | paymentFailed hown => exact hfinal.quiet q hown
    · exact hfinal.unfailed q hmem

theorem Terminal.step (h : Terminal s) (hmove : protocol.Moves Undisturbed s t e d) :
    Terminal (s.record t e d) where
  traced := h.traced.step hmove.effect
  exclusive := h.exclusive.step fun p he => (hmove.cond _ he).2 p rfl
  keyed := h.keyed.step hmove.effect
  final := by
    intro u p hmem
    rw [State.record_hist, List.mem_cons, Prod.mk.injEq] at hmem
    rcases hmem with ⟨rfl, rfl⟩ | hmem
    · exact h.final_of_funding hmove.running hmove.effect
    · exact h.final_step hmem hmove

/-! ## Records and notifications of failures -/

theorem failureRecords_append {w w' : World} {j : ℕ} {entries : List AuditLog}
    (h : w'.auditLogs = w.auditLogs ++ entries)
    (hentries : ∀ a ∈ entries, ¬(a.action = "PAYMENT_FAILED" ∧ a.recordId = .id j)) :
    failureRecords w' j = failureRecords w j := by
  have hnone : entries.filter (fun a => a.action = "PAYMENT_FAILED" ∧ a.recordId = .id j) = [] :=
    List.filter_eq_nil_iff.2 (by simpa using hentries)
  rw [failureRecords, h, List.filter_append, hnone, List.append_nil, failureRecords]

/-- Only the failure handler and the kill switch write a failure record. -/
theorem Effect.failureRecords_eq (h : Effect s t e d) {j : ℕ}
    (hfailed : ∀ q, e = some (.paymentFailed q) → q.id ≠ j)
    (hsuspended : ∀ ids, e = some (.killSwitchActivated ids) → j ∉ ids) :
    failureRecords d j = failureRecords s.store j := by
  cases h with
  | afterHours paymentId userId req now =>
    exact failureRecords_append rfl (by simp [afterHoursAudit])
  | paymentCreated h =>
    exact failureRecords_append (congrArg World.auditLogs h.frame) (by simp [createdAudit])
  | firstAuthorised _ h =>
    exact failureRecords_append (congrArg World.auditLogs h.frame) (by simp [authorisationAudit])
  | secondAuthorised _ _ h =>
    exact failureRecords_append (congrArg World.auditLogs h.frame) (by simp [authorisationAudit])
  | paymentFunded _ _ _ _ h =>
    exact failureRecords_append (congrArg World.auditLogs h.frame) (by simp [paymentAudit])
  | confirmationPending _ _ _ h =>
    exact failureRecords_append (congrArg World.auditLogs h.frame)
      (by simp [pendingAudit, paymentAudit])
  | paymentFailed _ h =>
    exact failureRecords_append (congrArg World.auditLogs h.frame)
      (by simp [failedAudit, paymentAudit, hfailed])
  | killSwitchActivated h =>
    obtain ⟨userId, req, values, haudits⟩ := h.audits
    rw [List.append_assoc] at haudits
    refine failureRecords_append haudits ?_
    intro a ha
    rw [List.mem_append, List.mem_map, List.mem_singleton] at ha
    rcases ha with ⟨k, hk, rfl⟩ | rfl
    · rintro ⟨-, hrecord⟩
      obtain rfl : k = j := by simpa [suspendedAudit] using hrecord
      exact hsuspended _ rfl hk
    · simp [killSwitchAudit]
  | killSwitchDeactivated userId req values h =>
    exact failureRecords_append (congrArg World.auditLogs h) (by simp [killSwitchAudit])
  | _ => rfl

/-- Only a call that has recorded a failure notifies it. -/
theorem Effect.failureNotifications_eq (h : Effect s t e d) {j : ℕ}
    (hfailed : ∀ q, some (.paymentFailed q) ∈ own t s.hist → q.id ≠ j) :
    failureNotifications d j = failureNotifications s.store j := by
  cases h with
  | enqueued job hjob =>
    have hother : ¬(job.name = "payment_failed" ∧ ("paymentId", Json.id j) ∈ job.data) := by
      rintro ⟨hname, hdata⟩
      obtain ⟨q, rfl, hmem⟩ := hjob hname
      have hid : j = q.id := by simpa [failureNotification] using hdata
      exact hfailed q hmem hid.symm
    have hnone : [job].filter
        (fun job => job.name = "payment_failed" ∧ ("paymentId", Json.id j) ∈ job.data) = [] :=
      List.filter_eq_nil_iff.2 (by simpa using hother)
    rw [failureNotifications, List.filter_append, hnone, List.append_nil, failureNotifications]
  | paymentCreated h => rw [h.frame]; rfl
  | firstAuthorised _ h => rw [h.frame]; rfl
  | secondAuthorised _ _ h => rw [h.frame]; rfl
  | paymentFunded _ _ _ _ h => rw [h.frame]; rfl
  | confirmationPending _ _ _ h => rw [h.frame]; rfl
  | paymentFailed _ h => rw [h.frame]; rfl
  | killSwitchActivated h => rw [h.frame]; rfl
  | killSwitchDeactivated _ _ _ h => rw [h]; rfl
  | _ => rfl

/-- While a payment stays funded no record and no notification of a failure is added. -/
theorem Terminal.records_unchanged (h : Terminal s) {p : Payment}
    (hfunded : (t, some (.paymentFunded p)) ∈ s.hist) {u : ℕ}
    (hmove : protocol.Moves Undisturbed s u e d) :
    failureRecords d p.id = failureRecords s.store p.id ∧
      failureNotifications d p.id = failureNotifications s.store p.id := by
  have hfinal := h.final t p hfunded
  obtain ⟨r, hr, hstatus⟩ := hfinal.row
  constructor
  · refine Effect.failureRecords_eq hmove.effect ?_ ?_
    · rintro q rfl hq
      cases hmove.effect with
      | paymentFailed hown => exact (hfinal.not_recording hfunded hmove.running hq).1 hown
    · rintro ids rfl hids
      cases hmove.effect with
      | killSwitchActivated hactivates =>
        -- the handler only suspends executing rows
        rw [hactivates.suspended] at hids
        obtain ⟨x, hx, hid⟩ := List.mem_map.1 hids
        obtain ⟨hmem, hexec⟩ := List.mem_filter.1 hx
        have hxr := Table.get?_of_mem hmem
        rw [hid, hr, Option.some.injEq] at hxr
        subst hxr
        simp [hstatus] at hexec
  · refine Effect.failureNotifications_eq hmove.effect ?_
    intro q hmem hq
    have hmem := mem_own.1 hmem
    obtain rfl := hfinal.alone u ⟨hmove.running, q, hq, h.traced.recorded u q (Or.inr hmem)⟩
    exact hfinal.unfailed q hmem

/-! ## Runs -/

theorem terminal_of_reaches {cfg : Config} {w : World} (hw : w.payments.rows = [])
    {s : Sys World Input Event RisError} (hs : Reaches (program cfg) Undisturbed (Sys.init w) s) :
    Terminal s.toState := by
  refine Protocol.invariant (P := Terminal) (program_implements cfg) trivial ?_
    (fun _ _ _ _ h hmove => h.step hmove) hs
  refine ⟨traced_init w, ?_, ?_, ?_⟩
  · rintro t u j ⟨-, p, -, hmem⟩
    cases hmem
  · intro j k r r' hr
    have hmem := Table.mem_of_get? hr
    rw [hw] at hmem
    cases hmem
  · intro t p hmem
    cases hmem

/-- **Funded is terminal.** In every undisturbed run, once an execution has committed the success of a
payment its row stays funded and the same, and no record or notification of a failure is added. -/
theorem funded_is_terminal (cfg : Config) (w : World) (hw : w.payments.rows = [])
    (s s' : Sys World Input Event RisError)
    (hs : Reaches (program cfg) Undisturbed (Sys.init w) s)
    (hs' : Reaches (program cfg) Undisturbed s s') (t : ℕ) (p : Payment)
    (hfunded : (t, some (.paymentFunded p)) ∈ s.hist) :
    ∃ r, r.status = .funded ∧ s.store.payments.get? p.id = some r ∧
      s'.store.payments.get? p.id = some r ∧
      failureRecords s'.store p.id = failureRecords s.store p.id ∧
      failureNotifications s'.store p.id = failureNotifications s.store p.id := by
  have hterminal := terminal_of_reaches hw hs
  obtain ⟨r, hr, hstatus⟩ := (hterminal.final t p hfunded).row
  refine ⟨r, hstatus, hr, ?_⟩
  have hrun := Protocol.persists
    (P := fun x => Terminal x ∧ (t, some (.paymentFunded p)) ∈ x.hist ∧
      x.store.payments.get? p.id = some r ∧
      failureRecords x.store p.id = failureRecords s.store p.id ∧
      failureNotifications x.store p.id = failureNotifications s.store p.id)
    (program_implements cfg) trivial ?_ hs ⟨hterminal, hfunded, hr, rfl, rfl⟩ hs'
  · exact hrun.2.2
  · rintro x u e d ⟨hx, hmem, hrow, hrecords, hnotifications⟩ hmove
    obtain ⟨hrecords', hnotifications'⟩ := hx.records_unchanged hmem hmove
    exact ⟨hx.step hmove, List.mem_cons_of_mem _ hmem,
      (hx.final t p hmem).row_unchanged hmem hmove.running hmove.effect hrow hstatus,
      hrecords'.trans hrecords, hnotifications'.trans hnotifications⟩

/-- `executePayment`, up to the commit of the success of a payment. -/
def executeToCommit (t paymentId : ℕ) : List (Act Op Input) :=
  .start (.executePayment paymentId) ::
    List.replicate 4 (.move t { quietInput 0 "" with reply := transferred })

/-- A success, then the rest of the execution and an activation of the kill switch. -/
theorem funded_is_terminal_despite_kill_switch :
    ∃ s s' : Sys World Input Event RisError, KillSwitchActive s'.store ∧
      ∃ r, r.status = .funded ∧ s.store.payments.get? 1 = some r ∧
        s'.store.payments.get? 1 = some r := by
  obtain ⟨s, s', hs, hs', hP⟩ := exists_reaches_reaches (program {}) Undisturbed (Sys.init smallWorld)
    (initiateAlone 0 1 "K" ++ authoriseAlone 1 1 ++ executeToCommit 3 1)
    (List.replicate 4 (.move 3 (quietInput 0 "")) ++ [.ret 3] ++
      Act.call (.activateKillSwitch 7 "incident" {}) 4 (List.replicate 2 (quietInput 0 "")))
    (fun s s' => KillSwitchActive s'.store ∧
      s.hist.any fun x => x.1 = 3 ∧ (x.2.bind Event.funded?).any fun p => p.id = 1) (by decide +kernel)
  simp only [Bool.decide_and, Bool.and_eq_true, decide_eq_true_eq, List.any_eq_true,
    Option.any_eq_true] at hP
  obtain ⟨hactive, ⟨t, e⟩, hx, rfl, p, hp, hid⟩ := hP
  obtain ⟨e, rfl, he⟩ := Option.bind_eq_some_iff.1 hp
  obtain rfl := Event.funded?_eq_some.1 he
  obtain ⟨r, hstatus, hr, hr', -⟩ := funded_is_terminal {} smallWorld rfl s s' hs hs' 3 p hx
  rw [hid] at hr hr'
  exact ⟨s, s', hactive, r, hstatus, hr, hr'⟩

/-- A log line or a queue that fails after the commit fails the payment, and the failure is recorded
and notified. -/
theorem funded_overwritten :
    ∃ s s' : Sys World Input Event RisError, ∃ p,
      Reaches (program {}) always (Sys.init smallWorld) s ∧ Reaches (program {}) always s s' ∧
      (3, some (.paymentFunded p)) ∈ s.hist ∧
      (s.store.payments.get? p.id).map Payment.status = some .funded ∧
      (s'.store.payments.get? p.id).map Payment.status = some .failed ∧
      (failureRecords s.store p.id).length < (failureRecords s'.store p.id).length ∧
      (failureNotifications s.store p.id).length < (failureNotifications s'.store p.id).length := by
  obtain ⟨s, s', hs, hs', hP⟩ := exists_reaches_reaches (program {}) always (Sys.init smallWorld)
    (initiateAlone 0 1 "K" ++ authoriseAlone 1 1 ++ executeToCommit 3 1)
    (.move 3 { quietInput 0 "" with fault := some "queue unavailable" } ::
      List.replicate 3 (.move 3 (quietInput 0 "")) ++ [.ret 3])
    (fun s s' => s.hist.any fun x => x.1 = 3 ∧ (x.2.bind Event.funded?).any fun p =>
      (s.store.payments.get? p.id).map Payment.status = some .funded ∧
        (s'.store.payments.get? p.id).map Payment.status = some .failed ∧
        (failureRecords s.store p.id).length < (failureRecords s'.store p.id).length ∧
        (failureNotifications s.store p.id).length < (failureNotifications s'.store p.id).length)
    (by decide +kernel)
  obtain ⟨⟨t, e⟩, hx, hP⟩ := List.any_eq_true.1 hP
  obtain ⟨rfl, hP⟩ := of_decide_eq_true hP
  obtain ⟨p, hp, hP⟩ := (Option.any_eq_true _ _).1 hP
  obtain ⟨e, rfl, he⟩ := Option.bind_eq_some_iff.1 hp
  obtain rfl := Event.funded?_eq_some.1 he
  exact ⟨s, s', p, hs, hs', hx, of_decide_eq_true hP⟩

end Ris.Payments
