import RisPlatform.Collections.Conformance

/-!
# One payment for an invoice

The transaction of `recordPaymentReceived` begins with the update of the invoice: from the status that
the call has read to `collected`. Only one call finds that status there. The others are refused by this
update, before they have written anything, or have read `collected` and never open the transaction.
-/

namespace Ris.Collections

open Relational Concurrent

/-! ## The law -/

/-- The calls that pay the invoice. -/
def paymentsOf (cfg : Config) (invoiceId : ℕ) (input : RecordPaymentInput) : Call Unit :=
  program cfg (.recordPaymentReceived { input with invoiceId })

/-- The event is the commit of a payment. -/
def pays : Event → Bool
  | .paymentReceived _ _ _ => true
  | _ => false

/-- The payments that were committed, and by which call. -/
def commits (h : List (ℕ × Option Event)) : List (ℕ × Option Event) := h.filter fun x => x.2.any pays

/-- What one payment does to the tables: it moves the invoice to `collected`, takes the face value off
the buyer's used limit, adjusts the score, records the payment, resolves the collection and writes an
audit entry. -/
structure PaidOnce (w : World) (invoiceId collectionId : ℕ) (amount : ℤ) (w' : World) : Prop where
  invoice : ∃ r now paymentDate, r.status ≠ .collected ∧
    w.invoices.Rewrites w'.invoices invoiceId r (Payments.setInvoiceStatus .collected now r) ∧
    w'.buyers =
      (w.buyers.update (fun b => b.id = r.buyerId) (Repo.subUsedLimit r.faceValue)
        (Repo.id_subUsedLimit r.faceValue)).update (fun b => b.id = r.buyerId)
        (Repo.adjustScore (Repo.scoreAdjustment (calculateDaysLate paymentDate r.dueDate)))
        (Repo.id_adjustScore (Repo.scoreAdjustment (calculateDaysLate paymentDate r.dueDate)))
  payment : ∃ p, p.collectionId = collectionId ∧ p.amount = amount ∧
    w.collectionPayments.insert? p = some w'.collectionPayments
  collection : ∃ c now,
    w.collections.Rewrites w'.collections collectionId c (Repo.setCollected amount now c)
  audit : ∃ entry, w'.auditLogs = w.auditLogs ++ [entry]
  rest : w' = { w with
    invoices := w'.invoices
    buyers := w'.buyers
    collections := w'.collections
    collectionPayments := w'.collectionPayments
    auditLogs := w'.auditLogs
    jobs := w'.jobs }

/-- Nothing was committed and the tables are those of `w₀`, or one payment was. -/
def PaysOnce (w₀ : World) (invoiceId : ℕ) (s : State World Event) : Prop :=
  (commits s.hist = [] ∧ SameTables w₀ s.store) ∨
    ∃ t collectionId amount,
      commits s.hist = [(t, some (.paymentReceived invoiceId collectionId amount))] ∧
        PaidOnce w₀ invoiceId collectionId amount s.store

/-- A payment was committed, or the call failed on its own: one of its statements threw, or there was no
invoice to pay. -/
def Accounted (w₀ : World) (invoiceId t : ℕ) (s : State World Event) : Prop :=
  commits s.hist ≠ [] ∨ (t, some .threw) ∈ s.hist ∨ statusOf w₀ invoiceId = none ∨
    statusOf w₀ invoiceId = some .collected

/-! ## Tables -/

/-- A payment does not depend on the jobs. -/
theorem PaidOnce.congr {w v w' v' : World} {invoiceId collectionId : ℕ} {amount : ℤ}
    (h : PaidOnce w invoiceId collectionId amount w') (hw : SameTables v w) (hw' : SameTables w' v') :
    PaidOnce v invoiceId collectionId amount v' := by
  rw [hw] at h
  rw [hw']
  exact ⟨h.invoice, h.payment, h.collection, h.audit,
    congrArg (fun u : World => { u with jobs := v'.jobs }) h.rest⟩

/-- A paid invoice is not paid again. -/
theorem PaidOnce.not_twice {w w₁ w₂ : World} {invoiceId c c' : ℕ} {amount amount' : ℤ}
    (h : PaidOnce w invoiceId c amount w₁) : ¬PaidOnce w₁ invoiceId c' amount' w₂ := by
  intro h'
  obtain ⟨r, now, _, -, hrow, -⟩ := h.invoice
  obtain ⟨r', _, _, hopen, hrow', -⟩ := h'.invoice
  have hsame := hrow.after.symm.trans hrow'.before
  rw [Option.some.injEq] at hsame
  exact hopen (by rw [← hsame, Payments.setInvoiceStatus])

theorem commits_cons (x : ℕ × Option Event) (h : List (ℕ × Option Event)) :
    commits (x :: h) = if x.2.any pays then x :: commits h else commits h := by
  rw [commits, List.filter_cons]
  rfl

theorem commits_ne_nil {x : ℕ × Option Event} {h : List (ℕ × Option Event)} (hne : commits h ≠ []) :
    commits (x :: h) ≠ [] := by
  rw [commits_cons]
  split
  · simp
  · exact hne

/-! ## The transaction -/

section Transaction

variable {cfg : Config} {i : Input} {w w' : World}

/-- The commit applies one payment. -/
theorem executePaymentReceivedTxn_paidOnce {input : RecordPaymentInput} {invoice : Invoice}
    {collection : Option Collection} {u : Unit}
    (h : executePaymentReceivedTxn cfg input invoice collection i w = .ok (u, w'))
    (hopen : invoice.status ≠ .collected)
    (hrow : ∀ r, w.invoices.get? input.invoiceId = some r →
      r.buyerId = invoice.buyerId ∧ r.faceValue = invoice.faceValue ∧ r.dueDate = invoice.dueDate) :
    ∃ collectionId, paymentEvent input collection =
        .paymentReceived input.invoiceId collectionId input.amount ∧
      PaidOnce w input.invoiceId collectionId input.amount w' := by
  obtain ⟨collection, rfl, hwrites⟩ := executePaymentReceivedTxn_writes h
  obtain ⟨r, hstatus, hinvoice⟩ := hwrites.moved
  obtain ⟨p, hpid, hamount, -, hinsert⟩ := hwrites.payment
  obtain ⟨c, hcollection⟩ := hwrites.collection
  obtain ⟨hbuyer, hface, hdue⟩ := hrow r hinvoice.before
  have hbuyers := hwrites.buyers
  rw [← hbuyer, ← hface, ← hdue] at hbuyers
  refine ⟨collection.id, rfl, ⟨r, i.now, input.paymentDate, ?_, hinvoice, hbuyers⟩,
    ⟨p, hpid, hamount, hinsert⟩, ⟨c, i.now, hcollection⟩, hwrites.audit, ?_⟩
  · rw [hstatus]
    exact hopen
  · rw [hwrites.rest]

end Transaction

/-! ## Refusals -/

/-- The transaction fails only where the database refuses it. -/
def FailsRuntime {α : Type} (x : Tx α) : Prop :=
  ∀ i w e, x i w = .error e → ∃ message, e = .runtime message

section FailsRuntime

variable {α β : Type}

theorem failsRuntime_bind {x : Tx α} {f : α → Tx β} (hx : FailsRuntime x)
    (hf : ∀ a, FailsRuntime (f a)) : FailsRuntime (x >>= f) := by
  intro i w e h
  rcases Txn.bind_error.1 h with h | ⟨a, w₁, -, h⟩
  · exact hx i w e h
  · exact hf a i w₁ e h

theorem failsRuntime_abort (message : String) : FailsRuntime (Txn.abort (.runtime message) : Tx α) :=
  fun _ _ _ h => ⟨message, (Except.error.inj h).symm⟩

/-- A statement that cannot fail. -/
theorem failsRuntime_of_ok {x : Tx α} (h : ∀ i w, ∃ r, x i w = .ok r) : FailsRuntime x := by
  intro i w e he
  obtain ⟨r, hr⟩ := h i w
  rw [hr] at he
  cases he

theorem failsRuntime_input : FailsRuntime (Txn.input : Tx Input) :=
  failsRuntime_of_ok fun _ _ => ⟨_, rfl⟩

theorem failsRuntime_read (f : World → α) : FailsRuntime (Txn.read f) :=
  failsRuntime_of_ok fun _ _ => ⟨_, rfl⟩

theorem failsRuntime_write (f : World → World) : FailsRuntime (Txn.write f) :=
  failsRuntime_of_ok fun _ _ => ⟨_, rfl⟩

theorem failsRuntime_now : FailsRuntime now := failsRuntime_of_ok fun _ _ => ⟨_, rfl⟩

theorem failsRuntime_connect : FailsRuntime connect := by
  refine failsRuntime_bind failsRuntime_input fun i => ?_
  cases hfault : i.fault with
  | none => exact failsRuntime_of_ok fun _ _ => ⟨_, rfl⟩
  | some message => exact failsRuntime_abort message

theorem failsRuntime_recordPaymentReceived (collectionId : Option ℕ) (amount : ℤ)
    (paymentMethod : CollectionPaymentMethod) (paidBy : String) (paidAt : ℤ) (recordedBy : ℕ)
    (paymentReference notes : Option String) :
    FailsRuntime (Repo.recordPaymentReceived collectionId amount paymentMethod paidBy paidAt recordedBy
      paymentReference notes) := by
  refine failsRuntime_bind failsRuntime_input fun i => ?_
  refine failsRuntime_bind (failsRuntime_read _) fun w => ?_
  cases collectionId with
  | none => exact failsRuntime_abort _
  | some collectionId =>
    refine failsRuntime_bind ?_ fun amount => ?_
    · intro i w e h
      unfold Repo.bigint at h
      split at h
      · exact ⟨_, (Except.error.inj h).symm⟩
      · cases h
    · dsimp only
      split
      · exact failsRuntime_abort _
      · split
        · exact failsRuntime_abort _
        · exact failsRuntime_write _

theorem failsRuntime_reduceBuyerUsedLimit (buyerId : ℕ) (amount : ℤ) :
    FailsRuntime (Repo.reduceBuyerUsedLimit buyerId amount) := by
  refine failsRuntime_bind (failsRuntime_read _) fun w => ?_
  split
  · exact failsRuntime_abort _
  · exact failsRuntime_write _

theorem failsRuntime_resolvePaidCollection (collection : Option Collection) (amount : ℤ) :
    FailsRuntime (resolvePaidCollection collection amount) := by
  cases collection with
  | none => exact failsRuntime_of_ok fun _ _ => ⟨_, rfl⟩
  | some collection => exact failsRuntime_bind failsRuntime_now fun _ => failsRuntime_write _

/-- The service refuses a payment only because the invoice has left the status that was read. -/
theorem executePaymentReceivedTxn_refused {cfg : Config} {i : Input} {w : World}
    {input : RecordPaymentInput} {invoice : Invoice} {collection : Option Collection}
    {code message : String}
    (h : executePaymentReceivedTxn cfg input invoice collection i w
      = .error (.businessRule code message)) : statusOf w input.invoiceId ≠ some invoice.status := by
  intro hstatus
  rcases Txn.bind_error.1 h with h | ⟨_, w₁, -, h⟩
  · -- the update matches the invoice, and the check after it passes
    rcases Txn.bind_error.1 h with h | ⟨transitioned, w₁, hmove, h⟩
    · cases h
    · have hmoved := (updateInvoiceStatus_ok hmove).2.2.2 hstatus
      rw [hmoved] at h
      cases h
  · have hrest : FailsRuntime (do
        Repo.recordPaymentReceived (collection.map Collection.id) input.amount input.paymentMethod
          input.paidBy input.paymentDate input.receivedBy input.paymentReference input.notes
        Repo.reduceBuyerUsedLimit invoice.buyerId invoice.faceValue
        Repo.adjustBuyerPaymentScore invoice.buyerId
          (calculateDaysLate input.paymentDate invoice.dueDate)
        resolvePaidCollection collection input.amount
        createAuditEntry cfg (some (.user input.receivedBy)) "PAYMENT_RECEIVED" input.invoiceId
          [("status", .text invoice.status.text)]
          [("status", .text "collected"), ("amount", .int input.amount),
            ("paymentDate", .int input.paymentDate)]) :=
      failsRuntime_bind (failsRuntime_recordPaymentReceived _ _ _ _ _ _ _ _) fun _ =>
        failsRuntime_bind (failsRuntime_reduceBuyerUsedLimit _ _) fun _ =>
          failsRuntime_bind (failsRuntime_write _) fun _ =>
            failsRuntime_bind (failsRuntime_resolvePaidCollection _ _) fun _ =>
              failsRuntime_of_ok fun _ _ => ⟨_, rfl⟩
    obtain ⟨_, he⟩ := hrest i w₁ _ h
    cases he

end FailsRuntime

/-! ## The protocol of the calls -/

/-- One payment may be committed; no other event changes a table. -/
def onceProtocol (w₀ : World) (invoiceId : ℕ) : Protocol World Event where
  inv := PaysOnce w₀ invoiceId
  effect s t e d :=
    match e with
    | none => d = s.store ∧ Accounted w₀ invoiceId t s
    | some (.paymentReceived j collectionId amount) =>
        j = invoiceId ∧ PaidOnce s.store invoiceId collectionId amount d
    | some (.paymentRefused _) => d = s.store ∧ commits s.hist ≠ []
    | some _ => SameTables s.store d
  inv_effect := by
    intro s t e d hs heff
    -- whoever does not pay leaves the tables and the commits
    have hquiet : SameTables s.store d → (∀ ev, e = some ev → pays ev = false) →
        PaysOnce w₀ invoiceId (s.record t e d) := by
      intro hsame hpays
      have hcommits : commits ((t, e) :: s.hist) = commits s.hist := by
        rw [commits_cons]
        cases e with
        | none => rfl
        | some ev => simp [hpays ev rfl]
      rcases hs with ⟨hnone, htables⟩ | ⟨u, c, amount, hone, hpaid⟩
      · exact Or.inl ⟨hcommits.trans hnone, htables.trans hsame⟩
      · exact Or.inr ⟨u, c, amount, hcommits.trans hone, hpaid.congr (.refl w₀) hsame⟩
    cases e with
    | none =>
      obtain ⟨rfl, -⟩ := heff
      exact hquiet (.refl _) fun _ h => by cases h
    | some ev =>
      cases ev with
      | paymentReceived j c amount =>
        obtain ⟨rfl, hpaid⟩ := heff
        rcases hs with ⟨hnone, htables⟩ | ⟨u, c', amount', -, hbefore⟩
        · refine Or.inr ⟨t, c, amount, ?_, hpaid.congr htables (.refl d)⟩
          rw [State.record_hist, commits_cons, hnone]
          rfl
        · exact absurd hpaid hbefore.not_twice
      | paymentRefused j =>
        obtain ⟨rfl, -⟩ := heff
        exact hquiet (.refl _) fun _ h => by cases h; rfl
      | _ => exact hquiet heff fun _ h => by cases h; rfl
  return_stable := by
    rintro s t u e d - - ⟨-, haccounted⟩ -
    refine ⟨rfl, ?_⟩
    rcases haccounted with hcommits | hthrew | hinvoice
    · exact Or.inl (commits_ne_nil hcommits)
    · exact Or.inr (Or.inl (List.mem_cons_of_mem _ hthrew))
    · exact Or.inr (Or.inr hinvoice)

section Calls

variable (cfg : Config) (w₀ : World) (invoiceId : ℕ)

theorem permissive_once : Permissive (onceProtocol w₀ invoiceId) where
  read _ _ := .refl _
  threw _ _ := .refl _
  logged _ _ _ := .refl _
  enqueued _ _ _ := rfl
  leftJobs _ _ _ := rfl

/-- What the call has read of the invoice: only its status can have changed, by a payment. -/
def Seen (invoice : Invoice) (s : State World Event) : Prop :=
  (∃ r, w₀.invoices.get? invoiceId = some r ∧ r.buyerId = invoice.buyerId ∧
      r.faceValue = invoice.faceValue ∧ r.dueDate = invoice.dueDate) ∧
    (statusOf s.store invoiceId = some invoice.status ∨ commits s.hist ≠ [])

/-- A row of the invoice that is read at any time is the one at the start, but for its status. -/
theorem PaysOnce.seen {s : State World Event} (hs : PaysOnce w₀ invoiceId s) {r : Invoice}
    (hr : s.store.invoices.get? invoiceId = some r) : Seen w₀ invoiceId r s := by
  have hstatus : statusOf s.store invoiceId = some r.status := by
    rw [statusOf, hr, Option.map_some]
  rcases hs with ⟨-, htables⟩ | ⟨t, c, amount, -, hpaid⟩
  · rw [htables] at hr
    exact ⟨⟨r, hr, rfl, rfl, rfl⟩, Or.inl hstatus⟩
  · obtain ⟨r₀, now, _, -, hrow, -⟩ := hpaid.invoice
    have hsame := hr.symm.trans hrow.after
    rw [Option.some.injEq] at hsame
    refine ⟨⟨r₀, hrow.before, ?_, ?_, ?_⟩, Or.inl hstatus⟩
    all_goals rw [hsame, Payments.setInvoiceStatus]

/-- The invoice's status stays, or a payment is committed. -/
theorem steady_seen (invoice : Invoice) :
    (onceProtocol w₀ invoiceId).Steady (Seen w₀ invoiceId invoice) := by
  rintro s u e d - ⟨hstatic, hstatus⟩ heff
  refine ⟨hstatic, ?_⟩
  rcases hstatus with hstatus | hcommits
  · have hsame : SameTables s.store d → statusOf d invoiceId = some invoice.status := by
      intro hsame
      rw [hsame]
      exact hstatus
    cases e with
    | none => exact Or.inl (hsame (heff.1 ▸ .refl _))
    | some ev =>
      cases ev with
      | paymentReceived j c amount =>
        refine Or.inr ?_
        rw [State.record_hist, commits_cons]
        simp [pays]
      | paymentRefused j => exact Or.inl (hsame (heff.1 ▸ .refl _))
      | _ => exact Or.inl (hsame heff)
  · exact Or.inr (commits_ne_nil hcommits)

theorem steady_commits : (onceProtocol w₀ invoiceId).Steady fun s => commits s.hist ≠ [] :=
  fun _ _ _ _ _ h _ => commits_ne_nil h

/-- A statement that may throw is accounted for when it does. -/
theorem triple_accounted {α : Type} {B : State World Event → Prop}
    (hB : (onceProtocol w₀ invoiceId).Steady B) {x : Tx α} {committed : α → Event}
    {Q : α → State World Event → Prop} (t : ℕ)
    (h : ∀ s i a d, PaysOnce w₀ invoiceId s → B s → x i s.store = .ok (a, d) →
      (onceProtocol w₀ invoiceId).effect s t (some (committed a)) d ∧
        Q a (s.record t (some (committed a)) d)) :
    (onceProtocol w₀ invoiceId).Triple t B (.transaction x committed fun _ => .threw) Q
      fun _ => Accounted w₀ invoiceId t :=
  .transaction (hB.stable t) h fun _ _ _ _ _ _ =>
    ⟨.refl _, Or.inr (Or.inl List.mem_cons_self)⟩

/-- What the read of the invoice says: there is none to pay, or it is seen open. -/
def InvoiceRead (t : ℕ) (found : Option Invoice) (s : State World Event) : Prop :=
  match found with
  | none => Accounted w₀ invoiceId t s
  | some invoice =>
      (invoice.status = .collected → Accounted w₀ invoiceId t s) ∧ Seen w₀ invoiceId invoice s

theorem triple_readInvoice (t : ℕ) :
    (onceProtocol w₀ invoiceId).Triple t (fun _ => True)
      (query (Repo.getInvoiceForCollection invoiceId)) (InvoiceRead w₀ invoiceId t)
      fun _ => Accounted w₀ invoiceId t := by
  refine triple_accounted w₀ invoiceId (fun _ _ _ _ _ _ _ => trivial) t ?_
  intro s i found d hs _ h
  simp only [Txn.bind_ok, connect_ok, Txn.read_ok] at h
  obtain ⟨_, _, ⟨-, rfl⟩, rfl, rfl⟩ := h
  refine ⟨.refl _, ?_⟩
  cases hr : Repo.getInvoiceForCollection invoiceId s.store with
  | none =>
    rcases hs with ⟨-, htables⟩ | ⟨_, _, _, -, hpaid⟩
    · rw [htables] at hr
      refine Or.inr (Or.inr (Or.inl ?_))
      rw [statusOf, Option.map_eq_none_iff]
      exact hr
    · obtain ⟨_, _, _, -, hrow, -⟩ := hpaid.invoice
      have hsome := hr.symm.trans hrow.after
      cases hsome
  | some invoice =>
    refine ⟨fun hcollected => ?_, ?_⟩
    · rcases hs with ⟨-, htables⟩ | ⟨u, c, amount, hone, -⟩
      · rw [htables] at hr
        refine Or.inr (Or.inr (Or.inr ?_))
        rw [← hcollected]
        exact congrArg (Option.map Invoice.status) hr
      · exact Or.inl (commits_ne_nil (by simp [hone]))
    · obtain ⟨hstatic, hstatus⟩ := hs.seen w₀ invoiceId hr
      exact ⟨hstatic, hstatus.imp_right commits_ne_nil⟩

/-- The read of the collection leaves what was seen. -/
theorem triple_readCollection (invoice : Invoice) (t : ℕ) :
    (onceProtocol w₀ invoiceId).Triple t (Seen w₀ invoiceId invoice)
      (getCollectionByInvoiceId invoiceId) (fun _ => Seen w₀ invoiceId invoice)
      fun _ => Accounted w₀ invoiceId t := by
  have hsteady := steady_seen w₀ invoiceId invoice
  refine triple_accounted w₀ invoiceId hsteady t fun s i found d hs hseen h => ?_
  simp only [Txn.bind_ok, connect_ok, Txn.input_ok, Txn.read_ok] at h
  obtain ⟨_, _, ⟨-, rfl⟩, _, _, ⟨rfl, rfl⟩, -, rfl⟩ := h
  exact ⟨.refl _, hsteady s t _ _ hs hseen (.refl _)⟩

/-- The transaction pays, or is refused after somebody else's payment, or throws. -/
theorem triple_payment {input : RecordPaymentInput} (hid : input.invoiceId = invoiceId)
    {invoice : Invoice} (hopen : invoice.status ≠ .collected) (collection : Option Collection) (t : ℕ) :
    (onceProtocol w₀ invoiceId).Triple t (Seen w₀ invoiceId invoice)
      (.transaction (do connect; executePaymentReceivedTxn cfg input invoice collection)
        (fun _ => paymentEvent input collection) (paymentFailure input.invoiceId))
      (fun _ s => commits s.hist ≠ []) fun _ => Accounted w₀ invoiceId t := by
  subst hid
  refine .transaction ((steady_seen w₀ _ invoice).stable t) ?_ ?_
  · intro s i u d hs hseen h
    simp only [Txn.bind_ok, connect_ok] at h
    obtain ⟨_, _, ⟨-, rfl⟩, h⟩ := h
    -- the row of the invoice has the buyer, face value and due date that were read
    have hrow : ∀ r, s.store.invoices.get? input.invoiceId = some r →
        r.buyerId = invoice.buyerId ∧ r.faceValue = invoice.faceValue ∧
          r.dueDate = invoice.dueDate := by
      intro r hr
      obtain ⟨⟨r₀, hr₀, hbuyer, hface, hdue⟩, -⟩ := hseen
      obtain ⟨⟨r₁, hr₁, hbuyer', hface', hdue'⟩, -⟩ := hs.seen w₀ _ hr
      obtain rfl : r₀ = r₁ := Option.some.inj (hr₀.symm.trans hr₁)
      exact ⟨hbuyer'.symm.trans hbuyer, hface'.symm.trans hface, hdue'.symm.trans hdue⟩
    obtain ⟨collectionId, hevent, hpaid⟩ := executePaymentReceivedTxn_paidOnce h hopen hrow
    rw [hevent]
    refine ⟨⟨rfl, hpaid⟩, ?_⟩
    rw [State.record_hist, commits_cons]
    simp [pays]
  · intro s i e hs hseen h
    have hthrew : ∀ ev, ev = .threw →
        (onceProtocol w₀ input.invoiceId).effect s t (some ev) s.store ∧
          Accounted w₀ input.invoiceId t (s.record t (some ev) s.store) := by
      rintro ev rfl
      exact ⟨.refl _, Or.inr (Or.inl List.mem_cons_self)⟩
    cases e with
    | businessRule code message =>
      -- the service refuses only after another call has moved the invoice
      have hcommits : commits s.hist ≠ [] := by
        rcases Txn.bind_error.1 h with h | ⟨_, _, hconnect, h⟩
        · obtain ⟨_, he⟩ := failsRuntime_connect i _ _ h
          cases he
        · obtain ⟨-, rfl⟩ := connect_ok.1 hconnect
          exact hseen.2.resolve_left (executePaymentReceivedTxn_refused h)
      exact ⟨⟨rfl, hcommits⟩, Or.inl (commits_ne_nil hcommits)⟩
    | _ => exact hthrew _ rfl

theorem triple_recordPaymentReceived {input : RecordPaymentInput} (hid : input.invoiceId = invoiceId)
    (t : ℕ) :
    (onceProtocol w₀ invoiceId).Triple t (fun _ => True) (recordPaymentReceived cfg input)
      (fun _ => Accounted w₀ invoiceId t) fun _ => Accounted w₀ invoiceId t := by
  have hG := permissive_once w₀ invoiceId
  subst hid
  refine (triple_readInvoice w₀ _ t).bind fun found => ?_
  cases found with
  | none => exact .throw fun _ _ h => h
  | some invoice =>
    dsimp only
    split
    · rename_i hcollected
      exact .throw fun _ _ h => h.1 hcollected
    · rename_i hopen
      refine Protocol.Triple.conseq (A := Seen w₀ input.invoiceId invoice) ?_ (fun _ _ h => h.2)
        (fun _ _ _ h => h) fun _ _ _ h => h
      refine (triple_readCollection w₀ _ invoice t).bind fun collection => ?_
      refine (triple_payment cfg w₀ _ rfl hopen collection t).bind fun _ => ?_
      -- from its commit on, the call is accounted for
      have hfree : Free (onceProtocol w₀ input.invoiceId) (do
          log "PAYMENT_RECEIVED"
          dispatchPostPaymentJobs cfg input invoice collection) :=
        free_bind (free_log hG _) fun _ => free_dispatchPostPaymentJobs hG _ _ _
      exact (hfree.keeps (steady_commits w₀ _) t).weaken (fun _ _ _ h => Or.inl h)
        fun _ _ _ h => Or.inl h

theorem paymentsOf_implements :
    (onceProtocol w₀ invoiceId).Implements (paymentsOf cfg invoiceId) := by
  intro input t
  have hid : ({ input with invoiceId } : RecordPaymentInput).invoiceId = invoiceId := rfl
  exact (triple_recordPaymentReceived cfg w₀ invoiceId hid t).conseq (fun _ _ _ => trivial)
    (fun _ _ _ h => ⟨rfl, h⟩) fun _ _ _ h => ⟨rfl, h⟩

end Calls

/-! ## Runs -/

/-- A call ends with a value only after its payment was committed. -/
theorem paymentsOf_okAfter (cfg : Config) (invoiceId : ℕ) (input : RecordPaymentInput) :
    (paymentsOf cfg invoiceId input).OkAfter fun e => pays e = true := by
  refine Proc.okAfter_bind fun found => ?_
  cases found with
  | none => exact Proc.okAfter_throw _
  | some invoice =>
    dsimp only
    split
    · exact Proc.okAfter_throw _
    · refine Proc.okAfter_bind fun collection => Proc.OkAfter.bind (Proc.okAfter_transaction ?_)
      intro i w u w' h
      obtain ⟨_, _, -, hcommit⟩ := Txn.bind_ok.1 h
      obtain ⟨collection, rfl, -⟩ := executePaymentReceivedTxn_writes hcommit
      rfl

/-- A call that has returned is accounted for. -/
theorem accounted_of_returned {cfg : Config} {w : World} {invoiceId : ℕ}
    {s : Sys World Input Event RisError}
    (hs : Reaches (paymentsOf cfg invoiceId) always (Sys.init w) s) :
    ∀ t, (t, none) ∈ s.hist → Accounted w invoiceId t s.toState := by
  refine Protocol.invariant (C := always) (paymentsOf_implements cfg w invoiceId)
    (Or.inl ⟨rfl, .refl w⟩) (P := fun s => ∀ t, (t, none) ∈ s.hist → Accounted w invoiceId t s)
    (by simp) ?_ hs
  intro s u e d hP hmove t ht
  have haccounted : Accounted w invoiceId t s := by
    rcases List.mem_cons.1 ht with heq | hold
    · obtain ⟨rfl, rfl⟩ := Prod.mk.inj heq
      exact hmove.effect.2
    · exact hP t hold
  rcases haccounted with hcommits | hthrew | hinvoice
  · exact Or.inl (commits_ne_nil hcommits)
  · exact Or.inr (Or.inl (List.mem_cons_of_mem _ hthrew))
  · exact Or.inr (Or.inr hinvoice)

/-- **Single application of a payment.** In every state that any number of payments of an invoice reach
together, either none is committed and the tables are as they were, or one is and it has been applied
to the tables once. A call that is about to end with a value is the one that paid. A call that has
returned found a payment committed, or failed on its own. -/
theorem payment_applied_once (cfg : Config) (w : World) (invoiceId : ℕ)
    (s : Sys World Input Event RisError)
    (hs : Reaches (paymentsOf cfg invoiceId) always (Sys.init w) s) :
    PaysOnce w invoiceId s.toState ∧
      (∀ t, s.calls[t]? = some (some (.done (.ok ()))) → ∃ collectionId amount,
        commits s.hist = [(t, some (.paymentReceived invoiceId collectionId amount))]) ∧
      ∀ t, (t, none) ∈ s.hist → Accounted w invoiceId t s.toState := by
  have honce : PaysOnce w invoiceId s.toState :=
    (Protocol.simulates (paymentsOf_implements cfg w invoiceId) (Or.inl ⟨rfl, .refl w⟩) hs).1.inv
  refine ⟨honce, fun t ht => ?_, accounted_of_returned hs⟩
  obtain ⟨e, he, hpays⟩ := exists_of_ok (paymentsOf_okAfter cfg invoiceId) hs ht
  have hmem : (t, some e) ∈ commits s.hist := List.mem_filter.2 ⟨he, hpays⟩
  rcases honce with ⟨hnone, -⟩ | ⟨u, c, amount, hone, -⟩
  · rw [hnone] at hmem
    cases hmem
  · rw [hone, List.mem_singleton] at hmem
    obtain ⟨rfl, -⟩ := Prod.mk.inj hmem
    exact ⟨c, amount, hone⟩

/-! ## Runs on one invoice -/

/-- A payment of the invoice of the small world. -/
def payment (amount : ℤ) : RecordPaymentInput := ⟨1, amount, 0, 9, .bankTransfer, "Buyer", none, none⟩

/-- Both calls read the invoice before either pays it. -/
theorem second_payment_refused :
    ∃ s : Sys World Input Event RisError,
      (1, some (.paymentRefused 1)) ∈ s.hist ∧ s.store.buyers.rows.map Buyer.usedLimit = [0] ∧
        PaysOnce (exampleWorld .overdue (exampleCollection 1 .overdue 1 0)) 1 s.toState := by
  obtain ⟨s, hs, hP⟩ := exists_reaches (paymentsOf {} 1) always
    (Sys.init (exampleWorld .overdue (exampleCollection 1 .overdue 1 0)))
    [.start (payment 1000), .start (payment 1000), .move 0 {}, .move 1 {}, .move 0 {}, .move 1 {},
      .move 0 {}, .move 1 {}, .ret 1]
    (fun s => (1, some (.paymentRefused 1)) ∈ s.hist ∧
      s.store.buyers.rows.map Buyer.usedLimit = [0]) (by decide)
  obtain ⟨hrefused, hlimit⟩ := of_decide_eq_true hP
  exact ⟨s, hrefused, hlimit, (payment_applied_once {} _ 1 s hs).1⟩

/-- The only payment of an overdue invoice is one of 0, which the database refuses: nobody pays. -/
theorem nobody_pays :
    ∃ s : Sys World Input Event RisError,
      Reaches (paymentsOf {} 1) always
        (Sys.init (exampleWorld .overdue (exampleCollection 1 .overdue 1 0))) s ∧
        s.calls.length = 1 ∧ (0, none) ∈ s.hist ∧ commits s.hist = [] ∧
        statusOf s.store 1 = some .overdue := by
  obtain ⟨s, hs, hP⟩ := exists_reaches (paymentsOf {} 1) always
    (Sys.init (exampleWorld .overdue (exampleCollection 1 .overdue 1 0)))
    (Act.call (payment 0) 0 [{}, {}, {}])
    (fun s => s.calls.length = 1 ∧ (0, none) ∈ s.hist ∧ commits s.hist = [] ∧
      statusOf s.store 1 = some .overdue) (by decide)
  exact ⟨s, hs, of_decide_eq_true hP⟩

end Ris.Collections
