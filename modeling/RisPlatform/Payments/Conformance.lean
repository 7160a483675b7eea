import RisPlatform.Payments.Protocol

/-!
# The payments service follows its protocol

One triple for each function of the service, composed as the functions call each other. A call that
asks no provider only has to stay `Idle`; an execution carries its exact history up to the provider's
reply, and `Handling` through the failure handler.
-/

namespace Ris.Payments

open Relational Concurrent

variable {t : ℕ}

/-- The call has asked no provider. -/
def Idle (t : ℕ) (s : State World Event) : Prop :=
  ∀ p r, some (.providerReplied p r) ∉ own t s.hist

theorem stable_idle : protocol.Stable t (Idle t) :=
  Protocol.Stable.own t fun h => ∀ p r, some (Event.providerReplied p r) ∉ h

/-- What the call does besides asking a provider keeps it idle. -/
theorem Idle.record {s : State World Event} (h : Idle t s) {e : Event}
    (he : ∀ p r, e ≠ .providerReplied p r) (d : World) : Idle t (s.record t (some e) d) := by
  intro p r hmem
  rw [State.record_hist, own_cons_self, List.mem_cons, Option.some.injEq] at hmem
  rcases hmem with hmem | hmem
  · exact he p r hmem.symm
  · exact h p r hmem

theorem Idle.settled {s : State World Event} (h : Idle t s) : Settled (own t s.hist) :=
  fun p r hmem => absurd hmem (h p r)

/-- The assertion of a call that may return. -/
def MayReturn (t : ℕ) (s : State World Event) : Prop := Settled (own t s.hist)

/-- A triple that keeps the call idle, whatever it returns or throws. -/
abbrev KeepsIdle {α : Type} (t : ℕ) (p : Call α) : Prop :=
  protocol.Triple t (Idle t) p (fun _ => Idle t) fun _ => Idle t

/-! ## Statements -/

@[simp] theorem query_txn_ok {α : Type} {f : World → α} {i : Input} {w d : World} {a : α} :
    (do connect; Txn.read f : Tx α) i w = .ok (a, d) ↔ i.fault = none ∧ f w = a ∧ w = d := by
  simp [and_assoc]

/-- A query: the event is allowed, and the assertions after it follow from the history it leaves. -/
theorem triple_query {α : Type} {f : World → α} {seen : α → Event} {A : State World Event → Prop}
    {Q : α → State World Event → Prop} {E : RisError → State World Event → Prop}
    (hA : protocol.Stable t A)
    (heff : ∀ s, A s → Effect s t (some (seen (f s.store))) s.store)
    (hQ : ∀ s, A s → Q (f s.store) (s.record t (some (seen (f s.store))) s.store))
    (hE : ∀ e s, A s → E e (s.record t (some .threw) s.store)) :
    protocol.Triple t A (query f seen) Q E := by
  refine .transaction hA ?_ ?_
  · intro s i a d _ hAs h
    obtain ⟨-, rfl, rfl⟩ := query_txn_ok.1 h
    exact ⟨heff s hAs, hQ s hAs⟩
  · intro s i e _ hAs _
    exact ⟨.threw, hE e s hAs⟩

theorem keepsIdle_query {α : Type} (f : World → α) : KeepsIdle t (query f) :=
  triple_query stable_idle (fun _ _ => .read) (fun _ h => h.record (by simp) _)
    fun _ _ h => h.record (by simp) _

/-- A log line. -/
theorem triple_log {action : String} {A : State World Event → Prop}
    {Q : Unit → State World Event → Prop} {E : RisError → State World Event → Prop}
    (hA : protocol.Stable t A)
    (hQ : ∀ s, A s → Q () (s.record t (some (.logged action)) s.store))
    (hE : ∀ e s, A s → E e (s.record t (some .threw) s.store)) :
    protocol.Triple t A (log action) Q E := by
  refine .transaction hA ?_ ?_
  · intro s i a d _ hAs h
    obtain ⟨-, rfl⟩ := connect_ok.1 h
    exact ⟨.logged action, hQ s hAs⟩
  · intro s i e _ hAs _
    exact ⟨.threw, hE e s hAs⟩

theorem keepsIdle_log (action : String) : KeepsIdle t (log action) :=
  triple_log stable_idle (fun _ h => h.record (by simp) _) fun _ _ h => h.record (by simp) _

/-- A job on a queue; a failure notification needs a recorded failure. -/
theorem triple_enqueue {job : Job} {A : State World Event → Prop}
    {Q : Unit → State World Event → Prop} {E : RisError → State World Event → Prop}
    (hA : protocol.Stable t A)
    (hjob : ∀ s, A s → job.name = "payment_failed" →
      ∃ p, job = failureNotification p ∧ some (.paymentFailed p) ∈ own t s.hist)
    (hQ : ∀ s d, A s → Q () (s.record t (some (.enqueued job)) d))
    (hE : ∀ e s, A s → E e (s.record t (some .threw) s.store)) :
    protocol.Triple t A (enqueueWithContext job) Q E := by
  refine .transaction hA ?_ ?_
  · intro s i a d _ hAs h
    simp only [Txn.bind_ok, connect_ok, Txn.write_ok] at h
    obtain ⟨-, _, ⟨-, rfl⟩, rfl⟩ := h
    exact ⟨.enqueued job (hjob s hAs), hQ s _ hAs⟩
  · intro s i e _ hAs _
    exact ⟨.threw, hE e s hAs⟩

/-- A transaction that keeps the call idle: its commit is an allowed effect. -/
theorem keepsIdle_transaction {α : Type} {body : Tx α} {committed : α → Event}
    (he : ∀ a p r, committed a ≠ .providerReplied p r)
    (h : ∀ (s : State World Event) i a d, body i s.store = .ok (a, d) →
      Effect s t (some (committed a)) d) : KeepsIdle t (transaction body committed) := by
  refine .transaction stable_idle ?_ ?_
  · intro s i a d _ hidle hx
    simp only [Txn.bind_ok, connect_ok] at hx
    obtain ⟨-, _, ⟨-, rfl⟩, hx⟩ := hx
    exact ⟨h s i a d hx, hidle.record (he a) d⟩
  · intro s i e _ hidle _
    exact ⟨.threw, hidle.record (by simp) _⟩

/-- A check keeps the call idle. -/
theorem keepsIdle_lift {α : Type} (x : Except RisError α) : KeepsIdle t (monadLift x : Call α) :=
  .lift (fun _ _ _ _ h => h) fun _ _ _ _ h => h

theorem keepsIdle_throw {α : Type} (e : RisError) : KeepsIdle t (throw e : Call α) :=
  .throw fun _ _ h => h

theorem keepsIdle_pure {α : Type} (a : α) : KeepsIdle t (pure a : Call α) :=
  .ret fun _ _ h => h

theorem keepsIdle_bind {α β : Type} {p : Call α} {f : α → Call β} (hp : KeepsIdle t p)
    (hf : ∀ a, KeepsIdle t (f a)) : KeepsIdle t (p >>= f) :=
  .bind hp hf

/-! ## The kill switch -/

theorem keepsIdle_checkKillSwitch : KeepsIdle t checkKillSwitch := by
  refine keepsIdle_bind (keepsIdle_query _) fun value => ?_
  split
  · exact keepsIdle_throw _
  · exact keepsIdle_pure _

theorem keepsIdle_activateKillSwitch (userId : ℕ) (reason : String) (req : Request) :
    KeepsIdle t (activateKillSwitch userId reason req) := by
  refine keepsIdle_bind (keepsIdle_transaction (by simp) ?_) fun ids =>
    keepsIdle_bind (keepsIdle_log _) fun _ => keepsIdle_pure _
  intro s i ids d h
  exact .killSwitchActivated (activateKillSwitchTxn_ok h)

theorem keepsIdle_deactivateKillSwitch (userId : ℕ) (reason : String) (req : Request) :
    KeepsIdle t (deactivateKillSwitch userId reason req) := by
  refine keepsIdle_bind (keepsIdle_transaction (by simp) ?_) fun _ => keepsIdle_log _
  intro s i _ d h
  exact .killSwitchDeactivated userId req _ (deactivateKillSwitchTxn_ok h)

/-! ## Authorisation -/

theorem keepsIdle_check2faRecency (userId : ℕ) : KeepsIdle t (check2faRecency userId) := by
  refine keepsIdle_bind (keepsIdle_transaction (by simp) ?_) fun found => keepsIdle_lift _
  intro s i found d h
  simp only [Txn.bind_ok, Txn.read_ok, now_ok, Txn.pure_ok] at h
  obtain ⟨_, _, ⟨rfl, rfl⟩, _, _, ⟨rfl, rfl⟩, rfl, rfl⟩ := h
  exact .read

theorem keepsIdle_checkBusinessHours (userId paymentId : ℕ) (req : Request) :
    KeepsIdle t (checkBusinessHours userId paymentId req) := by
  refine keepsIdle_bind ?_ fun _ => keepsIdle_pure _
  refine .transaction stable_idle ?_ ?_
  · intro s i flagged d _ hidle h
    rcases flagAfterHoursTxn_ok h with ⟨rfl, rfl⟩ | ⟨rfl, rfl⟩
    · exact ⟨.read, hidle.record (by simp) _⟩
    · exact ⟨.afterHours paymentId userId req i.now, hidle.record (by simp) _⟩
  · intro s i e _ hidle _
    exact ⟨.threw, hidle.record (by simp) _⟩

theorem keepsIdle_authoriseFirstAuth (paymentId userId : ℕ) (req : Request)
    (comment : Option String) : KeepsIdle t (authoriseFirstAuth paymentId userId req comment) := by
  refine keepsIdle_bind (keepsIdle_check2faRecency userId) fun _ =>
    keepsIdle_bind (keepsIdle_checkBusinessHours userId paymentId req) fun _ =>
      keepsIdle_bind (keepsIdle_transaction (by simp) ?_) fun _ =>
        keepsIdle_bind (keepsIdle_log _) fun _ => keepsIdle_pure _
  intro s i updated d h
  obtain ⟨old, hstatus, hrow⟩ := recordFirstAuthTxn_ok h
  exact .firstAuthorised hstatus hrow

theorem keepsIdle_authoriseSecondAuth (paymentId userId : ℕ) (req : Request)
    (comment : Option String) : KeepsIdle t (authoriseSecondAuth paymentId userId req comment) := by
  refine keepsIdle_bind (keepsIdle_check2faRecency userId) fun _ =>
    keepsIdle_bind (keepsIdle_checkBusinessHours userId paymentId req) fun _ =>
      keepsIdle_bind (keepsIdle_transaction (by simp) ?_) fun _ =>
        keepsIdle_bind (keepsIdle_log _) fun _ => keepsIdle_pure _
  intro s i updated d h
  obtain ⟨old, hstatus, huser, hrow⟩ := recordSecondAuthTxn_ok h
  exact .secondAuthorised hstatus huser hrow

/-! ## Initiation -/

theorem keepsIdle_getMinCoverageRatio : KeepsIdle t Collateral.getMinCoverageRatio := by
  refine keepsIdle_bind ?_ fun value => ?_
  · refine .transaction stable_idle ?_ ?_
    · intro s i a d _ hidle h
      simp only [Txn.bind_ok, Txn.input_ok, Txn.pure_ok] at h
      obtain ⟨_, _, ⟨rfl, rfl⟩, rfl, rfl⟩ := h
      exact ⟨.read, hidle.record (by simp) _⟩
    · intro s i e _ hidle _
      exact ⟨.threw, hidle.record (by simp) _⟩
  · cases value with
    | none => exact keepsIdle_bind (keepsIdle_log _) fun _ => keepsIdle_pure _
    | some ratio =>
      dsimp only
      split
      · exact keepsIdle_bind (keepsIdle_log _) fun _ => keepsIdle_pure _
      · exact keepsIdle_pure _

theorem keepsIdle_checkCoverageRatio (invoiceId : ℕ) (amount : ℤ) :
    KeepsIdle t (Collateral.checkCoverageRatio invoiceId amount) := by
  refine keepsIdle_bind (keepsIdle_query _) fun total => ?_
  split
  · exact keepsIdle_pure _
  · exact keepsIdle_bind keepsIdle_getMinCoverageRatio fun _ => keepsIdle_pure _

theorem keepsIdle_guardCollateralSufficient (invoiceId : ℕ) (amount : Option ℤ) :
    KeepsIdle t (guardCollateralSufficient invoiceId amount) :=
  keepsIdle_bind (keepsIdle_lift _) fun _ =>
    keepsIdle_bind (keepsIdle_checkCoverageRatio invoiceId _) fun _ => keepsIdle_lift _

theorem guardFacilityAvailable_ok {amount : Option ℤ} {facilities : List BankFacility} {u : Unit}
    (h : guardFacilityAvailable amount facilities = .ok u) :
    ∃ required facility rest, amount = some required ∧ facilities = facility :: rest ∧
      required ≤ facility.availableAmount := by
  cases facilities with
  | nil => simp [guardFacilityAvailable, throw, throwThe, MonadExceptOf.throw] at h
  | cons facility rest =>
    cases amount with
    | none => cases h
    | some required =>
      refine ⟨required, facility, rest, rfl, rfl, ?_⟩
      by_contra hlt
      have hthrow : guardFacilityAvailable (some required) (facility :: rest) =
          .error (PaymentErrorCode.facilityInsufficient.error
            "Insufficient facility balance for this disbursement") :=
        if_pos (not_le.1 hlt)
      rw [hthrow] at h
      cases h

/-- A validated invoice was read as approved. -/
theorem triple_validateInvoiceForPayment (cfg : Config) (invoiceId : ℕ) :
    protocol.Triple t (Idle t) (validateInvoiceForPayment cfg invoiceId)
      (fun found s => ReadApproved invoiceId found.1 s ∧ Idle t s) fun _ => Idle t := by
  refine .bind (R := fun found s =>
      (∀ x, found = some x → s.store.invoices.get? invoiceId = some x.1) ∧ Idle t s)
    (triple_query stable_idle (fun _ _ => .read) ?_ fun _ _ h => h.record (by simp) _) ?_
  · exact fun s h => ⟨fun x hx => getInvoiceForPayment_eq_some hx, h.record (by simp) _⟩
  · intro found
    cases found with
    | none => exact .throw fun _ _ h => h.2
    | some found =>
      -- the guard sees the state of the read, so what it checks was true then
      refine .bind (R := fun _ s => ReadApproved invoiceId found.1 s ∧ Idle t s)
        (.lift ?_ fun _ _ _ _ h => h.2) fun _ => ?_
      · intro u s hu _ h
        exact ⟨⟨found.1, h.1 found rfl, rfl, Or.inl (guardInvoiceApproved_ok hu)⟩, h.2⟩
      · have hrest : protocol.Triple t (Idle t) (do
            guardAmlCleared cfg found.1
            guardCollateralSufficient invoiceId found.1.advanceAmount
            return found : Call (Invoice × String)) (fun a s => a = found ∧ Idle t s) fun _ => Idle t :=
          .bind (keepsIdle_lift _) fun _ =>
            .bind (keepsIdle_guardCollateralSufficient invoiceId _) fun _ =>
              .ret fun _ _ h => ⟨rfl, h⟩
        refine (hrest.frame (steady_readApproved invoiceId found.1)).weaken ?_ fun _ _ _ h => h.2
        rintro a s - ⟨hread, rfl, hidle⟩
        exact ⟨hread, hidle⟩

theorem triple_checkFacilityAvailability (amount : Option ℤ) :
    protocol.Triple t (Idle t) (checkFacilityAvailability amount)
      (fun _ s => Covered amount s ∧ Idle t s) fun _ => Idle t := by
  refine .bind (R := fun facilities s => Facilities.getActiveFacilities s.store = facilities ∧ Idle t s)
    (triple_query stable_idle (fun _ _ => .read) (fun s h => ⟨rfl, h.record (by simp) _⟩)
      fun _ _ h => h.record (by simp) _) fun facilities => ?_
  refine .lift ?_ fun _ _ _ _ h => h.2
  intro u s hu _ h
  obtain ⟨required, facility, rest, hamount, hfacilities, havailable⟩ := guardFacilityAvailable_ok hu
  exact ⟨⟨required, facility, rest, hamount, h.1.trans hfacilities, havailable⟩, h.2⟩

/-- The transaction that creates a payment: no payment of the invoice was there, so the invoice is
still approved. -/
theorem triple_createPaymentTxn (invoiceId : ℕ) (invoice : Invoice) (provider : PaymentProvider) :
    protocol.Triple t
      (fun s => (ReadApproved invoiceId invoice s ∧ Covered invoice.advanceAmount s) ∧ Idle t s)
      (createPaymentTxn invoiceId invoice provider) (fun _ s => HasPayment invoiceId s ∧ Idle t s)
      fun _ => Idle t := by
  refine .bind (R := fun _ s => HasPayment invoiceId s ∧ Idle t s) (.transaction ?_ ?_ ?_) ?_
  · exact (((steady_readApproved invoiceId invoice).and (steady_covered _)).stable t).and stable_idle
  · rintro s i r d - ⟨⟨hread, hcovered⟩, hidle⟩ hx
    simp only [Txn.bind_ok, connect_ok] at hx
    obtain ⟨-, _, ⟨-, rfl⟩, hx⟩ := hx
    obtain ⟨hinvoice, hcreates⟩ := insertPaymentAndAuditWithClient_ok hx
    have hpaid : HasPayment invoiceId (s.record t (some (.paymentCreated r.1)) d) :=
      ⟨r.1, (Table.mem_insert? hcreates.insert).2 (Or.inr rfl), hinvoice⟩
    subst hinvoice
    obtain ⟨current, hcurrent, hamount, happroved | ⟨r', hr', hpaid'⟩⟩ := hread
    · obtain ⟨required, facility, rest, hrequired, hfacility, havailable⟩ := hcovered
      rw [hcreates.amount, Option.some.injEq] at hrequired
      subst hrequired
      exact ⟨.paymentCreated hcreates hcurrent happroved hamount hfacility havailable, hpaid,
        hidle.record (by simp) _⟩
    · exact absurd hpaid' (hcreates.invoice_fresh r' hr')
  · intro s i e _ h _
    exact ⟨.threw, h.2.record (by simp) _⟩
  · rintro ⟨payment, transitioned⟩
    have hrest : KeepsIdle t (do
        if transitioned = none then
          log "Invoice already past approved status — possible duplicate payment row"
        log "PAYMENT_CREATED"
        return payment.id : Call ℕ) := by
      split
      · exact keepsIdle_bind (keepsIdle_log _) fun _ =>
          keepsIdle_bind (keepsIdle_log _) fun _ => keepsIdle_pure _
      · exact keepsIdle_bind (keepsIdle_log _) fun _ => keepsIdle_pure _
    exact (hrest.frame (steady_hasPayment invoiceId)).weaken (fun _ _ _ h => h) fun _ _ _ h => h.2

theorem keepsIdle_fetchCreatedPayment (paymentId : ℕ) :
    KeepsIdle t (fetchCreatedPayment paymentId) := by
  refine keepsIdle_bind (keepsIdle_query _) fun found => ?_
  cases found with
  | none => exact keepsIdle_throw _
  | some created => exact keepsIdle_pure _

/-- A call that returns a payment leaves the invoice with one. -/
theorem triple_initiatePayment (cfg : Config) (invoiceId : ℕ) :
    protocol.Triple t (Idle t) (initiatePayment cfg invoiceId)
      (fun _ s => HasPayment invoiceId s ∧ Idle t s) fun _ => Idle t := by
  refine .bind keepsIdle_checkKillSwitch fun _ =>
    .bind (triple_validateInvoiceForPayment cfg invoiceId) ?_
  rintro ⟨invoice, method⟩
  have hread := steady_readApproved invoiceId invoice
  refine .bind (R := fun _ s =>
      (ReadApproved invoiceId invoice s ∧ Covered invoice.advanceAmount s) ∧ Idle t s)
    (((triple_checkFacilityAvailability invoice.advanceAmount).frame hread).weaken
      (fun _ _ _ h => ⟨⟨h.1, h.2.1⟩, h.2.2⟩) fun _ _ _ h => h.2) fun _ => ?_
  have hquery : protocol.Triple t (Idle t) (query (getPaymentByInvoiceId invoiceId))
      (fun found s => (∀ existing, found = some existing → HasPayment invoiceId s) ∧ Idle t s)
      fun _ => Idle t := by
    refine triple_query stable_idle (fun _ _ => .read) (fun s h => ⟨?_, h.record (by simp) _⟩)
      fun _ _ h => h.record (by simp) _
    intro existing hexisting
    have hfound : s.store.payments.rows.find? (fun r => r.invoiceId = invoiceId) = some existing :=
      hexisting
    exact ⟨existing, List.mem_of_find?_eq_some hfound, by simpa using List.find?_some hfound⟩
  refine .bind ((hquery.frame (hread.and (steady_covered _))).weaken
    (fun _ _ _ h => h) fun _ _ _ h => h.2) fun found => ?_
  cases found with
  | some existing => exact .ret fun _ _ h => ⟨h.2.1 existing rfl, h.2.2⟩
  | none =>
    refine .bind ((triple_createPaymentTxn invoiceId invoice _).conseq (fun _ _ h => ⟨h.1, h.2.2⟩)
      (fun _ _ _ h => h) fun _ _ _ h => h) fun paymentId => ?_
    exact ((keepsIdle_fetchCreatedPayment paymentId).frame (steady_hasPayment invoiceId)).weaken
      (fun _ _ _ h => h) fun _ _ _ h => h.2

theorem keepsIdle_initiatePayment (cfg : Config) (invoiceId : ℕ) :
    KeepsIdle t (initiatePayment cfg invoiceId) :=
  (triple_initiatePayment cfg invoiceId).weaken (fun _ _ _ h => h.2) fun _ _ _ h => h

/-! ## Execution -/

/-- The call's history is `h`. -/
def Did (t : ℕ) (h : List (Option Event)) (s : State World Event) : Prop := own t s.hist = h

theorem stable_did (h : List (Option Event)) : protocol.Stable t (Did t h) :=
  Protocol.Stable.own t fun h' => h' = h

theorem Did.record {h : List (Option Event)} {s : State World Event} (hs : Did t h s) (e : Event)
    (d : World) : Did t (some e :: h) (s.record t (some e) d) := by
  rw [Did, State.record_hist, own_cons_self, hs]

/-- A history without replies may be returned from. -/
theorem Did.mayReturn {h : List (Option Event)} {s : State World Event} (hs : Did t h s)
    (hh : ∀ p r, some (.providerReplied p r) ∉ h) : MayReturn t s := by
  rw [MayReturn, hs]
  exact fun p r hmem => absurd hmem (hh p r)

/-- The history of a call that may return satisfies what it must. -/
theorem MayReturn.returned {s : State World Event} (h : MayReturn t s) : Effect s t none s.store :=
  .returned h

theorem OnlyAsks.cons {p : Payment} {h : List (Option Event)} (hh : OnlyAsks p h) {e : Event}
    (he : ∀ q r, e = .providerReplied q r → q = p) : OnlyAsks p (some e :: h) := by
  intro q r hmem
  rw [List.mem_cons, Option.some.injEq] at hmem
  rcases hmem with hmem | hmem
  · exact he q r hmem.symm
  · exact hh q r hmem

theorem onlyAsks_readyToAsk (p : Payment) : OnlyAsks p (readyToAsk p) := by
  intro q r hmem
  simp [readyToAsk] at hmem

/-- Once the one payment that the call asked for is recorded, the call may return. -/
theorem settled_of_recorded {p : Payment} {h : List (Option Event)} (hp : OnlyAsks p h)
    (hr : Recorded p h) : Settled h := by
  intro q r hmem _
  rw [hp q r hmem]
  exact hr

theorem Recorded.cons {p : Payment} {h : List (Option Event)} (hr : Recorded p h) (e : Option Event) :
    Recorded p (e :: h) := by
  rcases hr with hr | hr | hr | hr
  · exact Or.inl (List.mem_cons_of_mem _ hr)
  · exact Or.inr (Or.inl (List.mem_cons_of_mem _ hr))
  · exact Or.inr (Or.inr (Or.inl (List.mem_cons_of_mem _ hr)))
  · exact Or.inr (Or.inr (Or.inr (List.mem_cons_of_mem _ hr)))

/-- The call has asked for `p` and recorded the outcome; it may log and enqueue, or throw. -/
structure Done (t : ℕ) (p : Payment) (s : State World Event) : Prop where
  checked : some (.idempotencyChecked p) ∈ own t s.hist
  only : OnlyAsks p (own t s.hist)
  recorded : Recorded p (own t s.hist)

/-- The call is about to handle a failure of `p`. -/
def Handles (t : ℕ) (p : Payment) (s : State World Event) : Prop := Handling p (own t s.hist)

theorem stable_done (p : Payment) : protocol.Stable t (Done t p) := by
  intro s u e d hu _ h _
  obtain ⟨hchecked, honly, hrecorded⟩ := h
  rw [← own_cons_of_ne hu e s.hist] at hchecked honly hrecorded
  exact ⟨hchecked, honly, hrecorded⟩

theorem stable_handles (p : Payment) : protocol.Stable t (Handles t p) :=
  Protocol.Stable.own t (Handling p)

theorem Done.mayReturn {p : Payment} {s : State World Event} (h : Done t p s) : MayReturn t s :=
  settled_of_recorded h.only h.recorded

/-- What a call does after recording, it still has recorded. -/
theorem Done.record {p : Payment} {s : State World Event} (h : Done t p s) {e : Event}
    (he : ∀ q r, e ≠ .providerReplied q r) (d : World) : Done t p (s.record t (some e) d) := by
  refine ⟨?_, ?_, ?_⟩ <;> rw [State.record_hist, own_cons_self]
  · exact List.mem_cons_of_mem _ h.checked
  · exact h.only.cons fun q r hq => absurd hq (he q r)
  · exact h.recorded.cons _

/-- A statement that throws leaves the call handling a failure. -/
theorem handles_of_threw {p : Payment} {s : State World Event}
    (hchecked : some (.idempotencyChecked p) ∈ own t s.hist) (honly : OnlyAsks p (own t s.hist))
    (d : World) : Handles t p (s.record t (some .threw) d) := by
  rw [Handles, State.record_hist, own_cons_self]
  exact ⟨List.mem_cons_of_mem _ hchecked, honly.cons (by simp), Or.inl rfl⟩

/-- After recording, a throw leaves the call both done and handling a failure. -/
theorem Done.threw {p : Payment} {s : State World Event} (h : Done t p s) :
    Done t p (s.record t (some .threw) s.store) ∧ Handles t p (s.record t (some .threw) s.store) :=
  ⟨h.record (by simp) _, handles_of_threw h.checked h.only _⟩

/-- The triple of a step after the outcome is recorded. -/
abbrev KeepsDone {α : Type} (t : ℕ) (p : Payment) (c : Call α) : Prop :=
  protocol.Triple t (Done t p) c (fun _ => Done t p) fun _ s => Done t p s ∧ Handles t p s

theorem keepsDone_log (p : Payment) (action : String) : KeepsDone t p (log action) :=
  triple_log (stable_done p) (fun _ h => h.record (by simp) _) fun _ _ h => h.threw

theorem keepsDone_enqueueOrWarn (p : Payment) (cfg : Config) {job : Job}
    (hjob : job.name ≠ "payment_failed") (warning : String) :
    KeepsDone t p (enqueueOrWarn cfg job warning) := by
  unfold enqueueOrWarn
  split
  · exact triple_enqueue (stable_done p) (fun _ _ h => absurd h hjob)
      (fun _ _ h => h.record (by simp) _) fun _ _ h => h.threw
  · exact keepsDone_log p warning

theorem keepsDone_notifyPaymentFunded (p q : Payment) (cfg : Config) :
    KeepsDone t p (notifyPaymentFunded cfg q) :=
  .bind (keepsDone_log p _) fun _ =>
    .bind (keepsDone_enqueueOrWarn p cfg (by simp) _) fun _ =>
      .bind (keepsDone_enqueueOrWarn p cfg (by simp) _) fun _ =>
        keepsDone_enqueueOrWarn p cfg (by simp) _

/-- The history of an execution of `p` whose provider answered `r`. -/
def answered (p : Payment) (r : PaymentProviderResult) : List (Option Event) :=
  some (.providerReplied p r) :: readyToAsk p

theorem onlyAsks_answered (p : Payment) (r : PaymentProviderResult) : OnlyAsks p (answered p r) :=
  (onlyAsks_readyToAsk p).cons fun q r' h => by
    cases h
    rfl

theorem checked_mem_answered (p : Payment) (r : PaymentProviderResult) :
    some (Event.idempotencyChecked p) ∈ answered p r := by
  simp [answered, readyToAsk]

/-- Recording an outcome leaves the call done. -/
theorem done_of_recording {p : Payment} {s : State World Event}
    (hchecked : some (.idempotencyChecked p) ∈ own t s.hist) (honly : OnlyAsks p (own t s.hist))
    {e : Event} (he : ∀ q r, e ≠ .providerReplied q r) (hrec : Recorded p [some e]) (d : World) :
    Done t p (s.record t (some e) d) := by
  refine ⟨?_, ?_, ?_⟩ <;> rw [State.record_hist, own_cons_self]
  · exact List.mem_cons_of_mem _ hchecked
  · exact honly.cons fun q r hq => absurd hq (he q r)
  · simp only [Recorded, List.mem_singleton, Option.some.injEq] at hrec
    simp only [Recorded, List.mem_cons, Option.some.injEq]
    tauto

theorem Did.checked {p : Payment} {r : PaymentProviderResult} {s : State World Event}
    (h : Did t (answered p r) s) : some (.idempotencyChecked p) ∈ own t s.hist := by
  rw [h]
  exact checked_mem_answered p r

theorem Did.only {p : Payment} {r : PaymentProviderResult} {s : State World Event}
    (h : Did t (answered p r) s) : OnlyAsks p (own t s.hist) := by
  rw [h]
  exact onlyAsks_answered p r

/-- An execution that has loaded `p` and knows its row. -/
theorem triple_handlePendingConfirmation (p : Payment) (r : PaymentProviderResult)
    (hsuccess : r.success = true) (hpending : r.pendingConfirmation = true) :
    protocol.Triple t (fun s => RowOf p s ∧ Did t (answered p r) s) (handlePendingConfirmation p r)
      (fun _ => Done t p) fun _ => Handles t p := by
  refine .bind (R := fun _ => Done t p) (.transaction ?_ ?_ ?_) fun _ =>
    (keepsDone_log p _).weaken (fun _ _ _ h => h) fun _ _ _ h => h.2
  · exact ((steady_rowOf p).stable t).and (stable_did _)
  · rintro s i u d - ⟨⟨old, hold, -⟩, hdid⟩ hx
    simp only [Txn.bind_ok, connect_ok] at hx
    obtain ⟨-, _, ⟨-, rfl⟩, hx⟩ := hx
    exact ⟨.confirmationPending hdid hsuccess hpending (pendingConfirmationTxn_ok hx hold),
      done_of_recording hdid.checked hdid.only (by simp) (Or.inr (Or.inl (by simp))) d⟩
  · rintro s i e - ⟨-, hdid⟩ -
    exact ⟨.threw, handles_of_threw hdid.checked hdid.only _⟩

theorem triple_handleSuccessfulPayment (cfg : Config) (p : Payment) (r : PaymentProviderResult)
    (hsuccess : r.success = true) (hpending : r.pendingConfirmation = false) :
    protocol.Triple t (fun s => RowOf p s ∧ Did t (answered p r) s) (handleSuccessfulPayment cfg p r)
      (fun _ => Done t p) fun _ => Handles t p := by
  refine .bind (R := fun _ => Done t p) (.transaction ?_ ?_ ?_) fun _ =>
    (keepsDone_notifyPaymentFunded p p cfg).weaken (fun _ _ _ h => h) fun _ _ _ h => h.2
  · exact ((steady_rowOf p).stable t).and (stable_did _)
  · rintro s i u d - ⟨⟨old, hold, hinvoice⟩, hdid⟩ hx
    simp only [Txn.bind_ok, connect_ok] at hx
    obtain ⟨-, _, ⟨-, rfl⟩, hx⟩ := hx
    exact ⟨.paymentFunded hdid hsuccess hpending hinvoice
        (recordSuccessfulPaymentTxn_ok hsuccess hx hold),
      done_of_recording hdid.checked hdid.only (by simp) (Or.inl (by simp)) d⟩
  · rintro s i e - ⟨-, hdid⟩ -
    exact ⟨.threw, handles_of_threw hdid.checked hdid.only _⟩

/-- The failure handler: recording the failure, or failing to, leaves the call done. -/
theorem triple_handleFailedPayment (cfg : Config) (p : Payment) (r : PaymentProviderResult)
    (hsuccess : r.success = false) :
    protocol.Triple t (fun s => RowOf p s ∧ Handles t p s) (handleFailedPayment cfg p r)
      (fun _ => Done t p) fun _ s => Done t p s ∧ Handles t p s := by
  have hstable : protocol.Stable t fun s => Done t p s ∧ some (.paymentFailed p) ∈ own t s.hist :=
    (stable_done p).and (.own t fun h => some (Event.paymentFailed p) ∈ h)
  refine .bind (R := fun _ s => Done t p s ∧ some (.paymentFailed p) ∈ own t s.hist)
    (.transaction ?_ ?_ ?_) fun _ => .bind (R := fun _ s => Done t p s ∧
      some (.paymentFailed p) ∈ own t s.hist) (triple_log hstable ?_ fun _ _ h => h.1.threw) fun _ => ?_
  · exact ((steady_rowOf p).stable t).and (stable_handles p)
  · rintro s i u d - ⟨⟨old, hold, -⟩, hhandles⟩ hx
    simp only [Txn.bind_ok, connect_ok] at hx
    obtain ⟨-, _, ⟨-, rfl⟩, hx⟩ := hx
    refine ⟨.paymentFailed hhandles (failedPaymentTxn_ok hsuccess hx hold),
      done_of_recording hhandles.checked hhandles.only (by simp) ?_ d, ?_⟩
    · exact Or.inr (Or.inr (Or.inl (by simp)))
    · simp
  · rintro s i e - ⟨-, hhandles⟩ -
    refine ⟨.failureUnrecorded hhandles,
      done_of_recording hhandles.checked hhandles.only (by simp) ?_ _, ?_⟩
    · exact Or.inr (Or.inr (Or.inr (by simp)))
    · rw [Handles, State.record_hist, own_cons_self]
      exact ⟨List.mem_cons_of_mem _ hhandles.checked, hhandles.only.cons (by simp), Or.inr (Or.inl rfl)⟩
  · intro s h
    exact ⟨h.1.record (by simp) _, by simp [h.2]⟩
  · split
    · exact triple_enqueue hstable (fun s h _ => ⟨p, rfl, h.2⟩) (fun s d h => h.1.record (by simp) _)
        fun _ _ h => h.1.threw
    · exact .ret fun _ _ h => h.1

theorem triple_routeProviderResult (cfg : Config) (p : Payment) (r : PaymentProviderResult) :
    protocol.Triple t (fun s => RowOf p s ∧ Did t (answered p r) s) (routeProviderResult cfg p r)
      (fun _ => Done t p) fun _ => Handles t p := by
  unfold routeProviderResult
  cases hsuccess : r.success with
  | false =>
    refine (triple_handleFailedPayment cfg p r hsuccess).conseq ?_ (fun _ _ _ h => h)
      fun _ _ _ h => h.2
    rintro s - ⟨hrow, hdid⟩
    refine ⟨hrow, hdid.checked, hdid.only, Or.inr (Or.inr ⟨r, hsuccess, ?_⟩)⟩
    rw [hdid]
    rfl
  | true =>
    cases hpending : r.pendingConfirmation with
    | true => exact triple_handlePendingConfirmation p r hsuccess hpending
    | false => exact triple_handleSuccessfulPayment cfg p r hsuccess hpending

/-- The `try` block and its handler: whatever is thrown, the outcome is recorded or the call has failed
to record a failure. -/
theorem triple_callProviderAndHandle (cfg : Config) (p : Payment) :
    protocol.Triple t (fun s => RowOf p s ∧ Did t (readyToAsk p) s) (callProviderAndHandle cfg p)
      (fun _ => Done t p) fun _ => Done t p := by
  have hask : protocol.Triple t (fun s => RowOf p s ∧ Did t (readyToAsk p) s) (askProvider p)
      (fun r s => RowOf p s ∧ Did t (answered p r) s) fun _ s => RowOf p s ∧ Handles t p s := by
    refine .transaction (((steady_rowOf p).stable t).and (stable_did _)) ?_ ?_
    · rintro s i r d - ⟨hrow, hdid⟩ hx
      simp only [Txn.bind_ok, connect_ok, Txn.input_ok, Txn.pure_ok] at hx
      obtain ⟨-, _, ⟨-, rfl⟩, _, _, ⟨rfl, rfl⟩, rfl, rfl⟩ := hx
      exact ⟨.providerReplied _ hdid, hrow, hdid.record _ _⟩
    · rintro s i e - ⟨hrow, hdid⟩ -
      refine ⟨.threw, hrow, handles_of_threw ?_ ?_ _⟩
      · rw [hdid]
        simp [readyToAsk]
      · rw [hdid]
        exact onlyAsks_readyToAsk p
  refine .tryCatch (R := fun _ s => RowOf p s ∧ Handles t p s) ?_ fun err => ?_
  · refine .bind hask fun r => .bind (R := fun _ => Done t p)
      (((triple_routeProviderResult cfg p r).frame (steady_rowOf p)).conseq
        (fun _ _ h => ⟨h.1, h⟩) (fun _ _ _ h => h.2) fun _ _ _ h => h) fun _ => .ret fun _ _ h => h
  · exact .bind ((triple_handleFailedPayment cfg p _ rfl).weaken (fun _ _ _ h => h) fun _ _ _ h => h.1)
      fun _ => .ret fun _ _ h => h

/-- What is known of the row that `executePayment` read. -/
def Loaded (t : ℕ) (found : Option Payment) (s : State World Event) : Prop :=
  match found with
  | some p =>
    if p.status = .executing then RowOf p s ∧ Did t [some (.executionLoaded p)] s else MayReturn t s
  | none => MayReturn t s

theorem guardExecuting_ok {payment : Payment} (u : Unit) :
    guardExecuting payment = .ok u ↔ payment.status = .executing := by
  unfold guardExecuting
  split <;> simp_all [throw, throwThe, MonadExceptOf.throw, pure, Except.pure]

theorem triple_loadExecutablePayment (paymentId : ℕ) :
    protocol.Triple t (Did t []) (loadExecutablePayment paymentId)
      (fun p s => RowOf p s ∧ Did t [some (.executionLoaded p)] s) fun _ => MayReturn t := by
  refine .bind (R := Loaded t) (triple_query (stable_did []) ?_ ?_ ?_) fun found => ?_
  · intro s hdid
    cases hrow : getPaymentById paymentId s.store with
    | none => exact .read
    | some p =>
      have hid : p.id = paymentId := Table.key_of_get? hrow
      dsimp only
      split
      · rename_i hstatus
        exact .executionLoaded hdid (hid ▸ hrow) hstatus
      · exact .read
  · intro s hdid
    cases hrow : getPaymentById paymentId s.store with
    | none => exact (hdid.record .read s.store).mayReturn (by simp)
    | some p =>
      have hid : p.id = paymentId := Table.key_of_get? hrow
      by_cases hstatus : p.status = .executing
      · simp only [Loaded, if_pos hstatus]
        exact ⟨⟨p, hid ▸ hrow, rfl⟩, hdid.record _ _⟩
      · simp only [Loaded, if_neg hstatus]
        exact (hdid.record .read s.store).mayReturn (by simp)
  · intro e s hdid
    exact (hdid.record .threw s.store).mayReturn (by simp)
  · cases found with
    | none => exact .throw fun _ _ h => h
    | some p =>
      refine .bind (R := fun _ s => RowOf p s ∧ Did t [some (.executionLoaded p)] s)
        (.lift ?_ ?_) fun _ => .ret fun _ _ h => h
      · intro u s hu _ h
        rwa [Loaded, if_pos ((guardExecuting_ok u).1 hu)] at h
      · intro e s he _ h
        have hstatus : p.status ≠ .executing := by
          intro hstatus
          rw [(guardExecuting_ok ()).2 hstatus] at he
          cases he
        rwa [Loaded, if_neg hstatus] at h

theorem triple_executePayment (cfg : Config) (paymentId : ℕ) :
    protocol.Triple t (Did t []) (executePayment cfg paymentId) (fun _ => MayReturn t)
      fun _ => MayReturn t := by
  have hcheck (p : Payment) : protocol.Triple t (Did t [some (.executionLoaded p)]) (checkIdempotency p)
      (fun found s => if found = none then Did t (readyToAsk p) s else MayReturn t s)
      fun _ => MayReturn t := by
    refine .bind (R := fun existing s => if idempotentResult existing = none then
      Did t (readyToAsk p) s else MayReturn t s) (triple_query (stable_did _) ?_ ?_ ?_) fun existing =>
        .ret fun _ _ h => h
    · intro s hdid
      split
      · rename_i hunused
        exact .idempotencyChecked hdid hunused
      · exact .read
    · intro s hdid
      split
      · exact hdid.record _ _
      · exact (hdid.record .read s.store).mayReturn (by simp)
    · intro e s hdid
      exact (hdid.record .threw s.store).mayReturn (by simp)
  refine .bind (triple_loadExecutablePayment paymentId) fun p =>
    .bind (((hcheck p).frame (steady_rowOf p)).weaken (fun _ _ _ h => h) fun _ _ _ h => h.2)
      fun found => ?_
  cases found with
  | some result => exact .ret fun _ _ h => by simpa using h.2
  | none =>
    refine .bind (R := fun _ s => RowOf p s ∧ Did t (readyToAsk p) s) (.lift ?_ ?_) fun _ =>
      (triple_callProviderAndHandle cfg p).weaken (fun _ _ _ h => h.mayReturn)
        fun _ _ _ h => h.mayReturn
    · exact fun _ s _ _ h => by simpa using h
    · rintro e s - - ⟨-, h⟩
      exact Did.mayReturn (by simpa using h) (by simp [readyToAsk])

/-! ## The service -/

/-- Every operation of the payments service follows the protocol. -/
theorem program_implements (cfg : Config) : protocol.Implements (program cfg) := by
  have hidle {α : Type} {c : Call α} {t : ℕ} (h : KeepsIdle t c) :
      protocol.Triple t (fun s => own t s.hist = []) c.discard (fun _ s => Effect s t none s.store)
        fun _ s => Effect s t none s.store := by
    refine (Protocol.Triple.discard (B := Idle t)
      (h.conseq ?_ (fun _ _ _ h => h) fun _ _ _ h => h)).weaken
      (fun _ _ _ h => .returned h.settled) fun _ _ _ h => .returned h.settled
    intro s _ hs p r
    simp [hs]
  intro op t
  cases op with
  | initiatePayment invoiceId => exact hidle (keepsIdle_initiatePayment cfg invoiceId)
  | authoriseFirstAuth paymentId userId req comment =>
    exact hidle (keepsIdle_authoriseFirstAuth paymentId userId req comment)
  | authoriseSecondAuth paymentId userId req comment =>
    exact hidle (keepsIdle_authoriseSecondAuth paymentId userId req comment)
  | executePayment paymentId =>
    exact (Protocol.Triple.discard (triple_executePayment cfg paymentId)).weaken
      (fun _ _ _ h => .returned h) fun _ _ _ h => .returned h
  | activateKillSwitch userId reason req => exact hidle (keepsIdle_activateKillSwitch userId reason req)
  | deactivateKillSwitch userId reason req =>
    exact hidle (keepsIdle_deactivateKillSwitch userId reason req)

end Ris.Payments
