import RisPlatform.Triples
import RisPlatform.Collections.Service

/-!
# What a collections event does

An event of the collections service writes at most one row of `collections`, moves at most one invoice
and adds at most one payment. The functions `next…` say how an event changes the columns that the laws
of the service are about; `Effect` is what it may do to the tables.

The escalation levels are within their bounds in every run that starts so. An `Effect` says of some
columns only what it does in such a run.
-/

namespace Ris.Collections

open Relational Concurrent

/-! ## Columns after an event -/

/-- The status that the resolution of a collection expects of its invoice. -/
def resolvedFrom : CollectionStatus → InvoiceStatus
  | .defaulted => .defaulted
  | _ => .overdue

/-- The status of the invoice after the event. -/
def nextInvoiceStatus (e : Event) (invoiceId : ℕ) (status : InvoiceStatus) : InvoiceStatus :=
  match e with
  | .collectionStarted _ i => if i = invoiceId ∧ status = .funded then .collecting else status
  | .collectionOverdue _ i => if i = invoiceId ∧ status = .collecting then .overdue else status
  | .paymentReceived i _ _ => if i = invoiceId then .collected else status
  | .collectionResolved _ i prevStatus =>
    if i = invoiceId ∧ status = resolvedFrom prevStatus then .collected else status
  | .collectionDefaulted _ i => if i = invoiceId ∧ status = .overdue then .defaulted else status
  | _ => status

/-- The status that the event gives its collection, whatever it was. -/
def statusAfter : Event → Option CollectionStatus
  | .collectionStarted _ _ => some .pending
  | .collectionOverdue _ _ => some .overdue
  | .collectionEscalated _ _ => some .escalated
  | .collectionDeescalated _ level => some (if 0 < level then .escalated else .overdue)
  | .paymentReceived _ _ _ => some .collected
  | .collectionResolved _ _ _ => some .collected
  | .collectionDefaulted _ _ => some .badDebt
  | _ => none

/-- The status of the event's collection after it. -/
def nextStatus (e : Event) (status : CollectionStatus) : CollectionStatus :=
  (statusAfter e).getD status

/-- The escalation level of the event's collection after it. -/
def nextLevel (e : Event) (level : ℤ) : ℤ :=
  match e with
  | .collectionOverdue _ _ => 0
  | .collectionEscalated _ newLevel => newLevel
  | .collectionDeescalated _ newLevel => newLevel
  | .paymentReceived _ _ _ => 0
  | _ => level

/-- The total of the event's collection after it. -/
def nextTotal (e : Event) (total : ℤ) : ℤ :=
  match e with
  | .paymentReceived _ _ amount => amount
  | .collectionPaid _ amount => total + amount
  | _ => total

/-- The collection and the amount of the payment that the event recorded. -/
def paymentOf : Event → Option (ℕ × ℤ)
  | .paymentReceived _ collectionId amount => some (collectionId, amount)
  | .collectionPaid collectionId amount => some (collectionId, amount)
  | _ => none

/-- The invoice that the event names. -/
def invoiceOf : Event → Option ℕ
  | .collectionStarted _ invoiceId => some invoiceId
  | .collectionOverdue _ invoiceId => some invoiceId
  | .paymentReceived invoiceId _ _ => some invoiceId
  | .collectionResolved _ invoiceId _ => some invoiceId
  | .collectionDefaulted _ invoiceId => some invoiceId
  | _ => none

/-- The event leaves the penalty of its collection alone. -/
def keepsPenalty : Event → Bool
  | .collectionOverdue _ _ => false
  | .collectionEscalated _ _ => false
  | _ => true

/-- The level that the event escalated to. -/
def escalatedTo : Event → Option ℤ
  | .collectionEscalated _ level => some level
  | _ => none

/-! ## What the laws read -/

def statusOf (w : World) (invoiceId : ℕ) : Option InvoiceStatus :=
  (w.invoices.get? invoiceId).map Invoice.status

def faceValueOf (w : World) (invoiceId : ℕ) : Option ℤ :=
  (w.invoices.get? invoiceId).map Invoice.faceValue

/-- The invoice of a collection. -/
def invoiceIdOf (w : World) (collectionId : ℕ) : Option ℕ :=
  (w.collections.get? collectionId).map Collection.invoiceId

/-- Every escalation level is one of 0, 1, 2 and 3. -/
def Bounded (w : World) : Prop :=
  ∀ c ∈ w.collections.rows, 0 ≤ c.escalationLevel ∧ c.escalationLevel ≤ 3

instance (w : World) : Decidable (Bounded w) := by
  unfold Bounded
  infer_instance

/-- The invoice is one that a SAR review looks at. -/
def AboveThreshold (cfg : Config) (w : World) (invoiceId : ℕ) : Prop :=
  ∃ face ∈ faceValueOf w invoiceId, cfg.amlFlagThreshold ≤ face

instance (cfg : Config) (w : World) (invoiceId : ℕ) : Decidable (AboveThreshold cfg w invoiceId) := by
  unfold AboveThreshold
  infer_instance

/-- The collection has a row, of this invoice. -/
def Belongs (w : World) (collectionId invoiceId : ℕ) : Prop :=
  ∃ c, w.collections.get? collectionId = some c ∧ c.invoiceId = invoiceId

/-- The tables are the same; jobs may have been enqueued. -/
def SameTables (w w' : World) : Prop := w' = { w with jobs := w'.jobs }

theorem SameTables.refl (w : World) : SameTables w w := rfl

theorem SameTables.trans {w w₁ w₂ : World} (h : SameTables w w₁) (h' : SameTables w₁ w₂) :
    SameTables w w₂ := by
  rw [SameTables, h', h]

/-! ## Effects -/

section Effect

variable (cfg : Config) (w₀ w : World)

/-- What an event does to its collection, in a run from `w₀`. -/
structure CollectionStep (e : Event) (c c' : Collection) : Prop where
  event : e.collection? = some c.id
  existing : ∀ collectionId invoiceId, e ≠ .collectionStarted collectionId invoiceId
  invoice : ∀ invoiceId, invoiceOf e = some invoiceId → invoiceId = c.invoiceId
  id : c'.id = c.id
  invoiceId : c'.invoiceId = c.invoiceId
  status : Bounded w₀ → c'.status = nextStatus e c.status
  level : c'.escalationLevel = nextLevel e c.escalationLevel
  bounded : Bounded w₀ → 0 ≤ c.escalationLevel ∧ c.escalationLevel ≤ 3 →
    0 ≤ c'.escalationLevel ∧ c'.escalationLevel ≤ 3
  /-- Only an escalation raises a collection to level 3. -/
  three : Bounded w₀ → c'.escalationLevel = 3 → c.escalationLevel = 3 ∨ escalatedTo e = some 3
  total : c'.totalCollected = nextTotal e c.totalCollected
  penalty : keepsPenalty e = true → c'.penaltyAmount = c.penaltyAmount
  flag : c.sarFlagged = true → c'.sarFlagged = true
  sar : escalatedTo e = some 3 → AboveThreshold cfg w₀ c.invoiceId → c'.sarFlagged = true

/-- The event made the row `c`. -/
inductive Opens (e : Event) (c : Collection) : Prop
  | started (he : e = .collectionStarted c.id c.invoiceId) (hstatus : c.status = .pending)
      (hlevel : c.escalationLevel = 0) (htotal : c.totalCollected = 0)
  | overdue (he : e = .collectionOverdue c.id c.invoiceId) (hstatus : c.status = .overdue)
      (hlevel : c.escalationLevel = 0) (htotal : c.totalCollected = 0)

/-- What an event does to the table `collections`. -/
inductive RowsEffect (e : Event) (w' : World) : Prop
  | same (he : e.collection? = none) (hrows : w'.collections = w.collections)
  | opened (c : Collection) (hopens : Opens e c)
      (hinsert : w.collections.insert? c = some w'.collections)
  | changed (c c' : Collection) (hstep : CollectionStep cfg w₀ e c c')
      (hrow : w.collections.Rewrites w'.collections c.id c c')

/-- What an event may do to the tables of the collections service, in a run from `w₀`. -/
structure Effect (e : Event) (w' : World) : Prop where
  rows : RowsEffect cfg w₀ w e w'
  status : ∀ invoiceId,
    statusOf w' invoiceId = (statusOf w invoiceId).map (nextInvoiceStatus e invoiceId)
  faceValue : ∀ invoiceId, faceValueOf w' invoiceId = faceValueOf w invoiceId
  unpaid : paymentOf e = none → w'.collectionPayments = w.collectionPayments
  paid : ∀ collectionId amount, paymentOf e = some (collectionId, amount) → ∃ p,
    p.collectionId = collectionId ∧ p.amount = amount ∧ 0 < amount ∧
      w.collectionPayments.insert? p = some w'.collectionPayments
  /-- A payment that closes a collection found its invoice with another status. -/
  open_ : ∀ invoiceId collectionId amount, e = .paymentReceived invoiceId collectionId amount →
    ∃ status, statusOf w invoiceId = some status ∧ status ≠ .collected

/-- No event moves an invoice out of `collected`. -/
theorem Effect.collected_stays {cfg : Config} {w₀ w w' : World} {e : Event}
    (h : Effect cfg w₀ w e w') {invoiceId : ℕ} (hstatus : statusOf w invoiceId = some .collected) :
    statusOf w' invoiceId = some .collected := by
  have hnext : nextInvoiceStatus e invoiceId .collected = .collected := by
    cases e <;> simp [nextInvoiceStatus]
  rw [h.status, hstatus, Option.map_some, hnext]

end Effect

section Rows

variable {cfg : Config} {w₀ w w' : World} {e : Event} {c c' : Collection}

theorem Opens.event (h : Opens e c) : e.collection? = some c.id := by
  rcases h with ⟨rfl, -, -, -⟩ | ⟨rfl, -, -, -⟩ <;> rfl

theorem Opens.invoice (h : Opens e c) : invoiceOf e = some c.invoiceId := by
  rcases h with ⟨rfl, -, -, -⟩ | ⟨rfl, -, -, -⟩ <;> rfl

theorem Opens.level (h : Opens e c) : c.escalationLevel = 0 := by
  cases h <;> assumption

theorem Opens.total (h : Opens e c) : c.totalCollected = 0 := by
  cases h <;> assumption

/-- A row after the event is one that it left alone, one that it made, or one that it changed. -/
theorem RowsEffect.row_cases (h : RowsEffect cfg w₀ w e w') (hc' : c' ∈ w'.collections.rows) :
    (c' ∈ w.collections.rows ∧ e.collection? ≠ some c'.id) ∨
      (Opens e c' ∧ w.collections.insert? c' = some w'.collections) ∨
      ∃ c ∈ w.collections.rows, CollectionStep cfg w₀ e c c' := by
  cases h with
  | same he hrows =>
    rw [hrows] at hc'
    exact Or.inl ⟨hc', by simp [he]⟩
  | opened c hopens hinsert =>
    rcases (Table.mem_insert? hinsert).1 hc' with hold | rfl
    · refine Or.inl ⟨hold, fun he => ?_⟩
      rw [hopens.event, Option.some.injEq] at he
      exact Table.key_ne_of_insert? hinsert hold he.symm
    · exact Or.inr (Or.inl ⟨hopens, hinsert⟩)
  | changed c d hstep hrow =>
    rcases hrow.get?_eq_some.1 (Table.get?_of_mem hc') with ⟨hid, rfl⟩ | ⟨hid, hget⟩
    · exact Or.inr (Or.inr ⟨c, Table.mem_of_get? hrow.before, hstep⟩)
    · refine Or.inl ⟨Table.mem_of_get? hget, fun he => hid ?_⟩
      rw [hstep.event, Option.some.injEq] at he
      exact he.symm

/-- A row before the event is left alone by it, or changed by it. -/
theorem RowsEffect.row_stays (h : RowsEffect cfg w₀ w e w') (hc : c ∈ w.collections.rows) :
    (c ∈ w'.collections.rows ∧ e.collection? ≠ some c.id) ∨
      ∃ c' ∈ w'.collections.rows, CollectionStep cfg w₀ e c c' := by
  cases h with
  | same he hrows => exact Or.inl ⟨by rwa [hrows], by simp [he]⟩
  | opened d hopens hinsert =>
    refine Or.inl ⟨(Table.mem_insert? hinsert).2 (Or.inl hc), fun he => ?_⟩
    rw [hopens.event, Option.some.injEq] at he
    exact Table.key_ne_of_insert? hinsert hc he.symm
  | changed d d' hstep hrow =>
    rcases hrow.successor (Table.get?_of_mem hc) with ⟨hid, hget⟩ | ⟨-, rfl, hget⟩
    · refine Or.inl ⟨Table.mem_of_get? hget, fun he => hid ?_⟩
      rw [hstep.event, Option.some.injEq] at he
      exact he.symm
    · exact Or.inr ⟨d', Table.mem_of_get? hget, hstep⟩

/-- The collection of a payment had a row, which the payment changed. -/
theorem RowsEffect.exists_of_payment (h : RowsEffect cfg w₀ w e w') {collectionId : ℕ} {amount : ℤ}
    (hp : paymentOf e = some (collectionId, amount)) :
    ∃ c ∈ w.collections.rows, ∃ c' ∈ w'.collections.rows,
      c.id = collectionId ∧ CollectionStep cfg w₀ e c c' := by
  have hevent : e.collection? = some collectionId := by
    cases e <;> simp_all [paymentOf, Event.collection?]
  cases h with
  | same he _ => simp [he] at hevent
  | opened c hopens _ => rcases hopens with ⟨rfl, -, -, -⟩ | ⟨rfl, -, -, -⟩ <;> cases hp
  | changed c c' hstep hrow =>
    refine ⟨c, Table.mem_of_get? hrow.before, c', Table.mem_of_get? hrow.after, ?_, hstep⟩
    rw [hstep.event, Option.some.injEq] at hevent
    exact hevent

end Rows

/-! ## The protocol -/

/-- The face values are those of `w₀`, and the levels stay within their bounds. -/
structure Inv (w₀ w : World) : Prop where
  faceValue : ∀ invoiceId, faceValueOf w invoiceId = faceValueOf w₀ invoiceId
  bounded : Bounded w₀ → Bounded w

theorem Inv.init (w₀ : World) : Inv w₀ w₀ := ⟨fun _ => rfl, id⟩

/-- The step lemma of the bounds. -/
theorem Inv.effect {cfg : Config} {w₀ w w' : World} {e : Event} (h : Inv w₀ w)
    (heff : Effect cfg w₀ w e w') : Inv w₀ w' where
  faceValue invoiceId := (heff.faceValue invoiceId).trans (h.faceValue invoiceId)
  bounded hw c' hc' := by
    rcases heff.rows.row_cases hc' with ⟨hold, -⟩ | ⟨hopens, -⟩ | ⟨c, hc, hstep⟩
    · exact h.bounded hw c' hold
    · have hlevel := hopens.level
      omega
    · exact hstep.bounded hw (h.bounded hw c hc)

/-- Effects depend on the store alone; a call may return at any time. -/
def protocol (cfg : Config) (w₀ : World) : Protocol World Event where
  inv s := Inv w₀ s.store
  effect s _ e d :=
    match e with
    | some event => Effect cfg w₀ s.store event d
    | none => d = s.store
  inv_effect := by
    intro s t e d hs heff
    cases e with
    | none =>
      obtain rfl : d = s.store := heff
      exact hs
    | some event => exact hs.effect heff
  return_stable _ _ _ _ := rfl

/-- An event about no collection leaves the tables alone. -/
theorem Effect.silent {cfg : Config} {w₀ w w' : World} {e : Event} (he : e.collection? = none)
    (hcollections : w'.collections = w.collections)
    (hpayments : w'.collectionPayments = w.collectionPayments) (hinvoices : w'.invoices = w.invoices) :
    Effect cfg w₀ w e w' where
  rows := .same he hcollections
  status invoiceId := by
    have hid : nextInvoiceStatus e invoiceId = id := by
      funext status
      cases e <;> simp_all [nextInvoiceStatus, Event.collection?]
    rw [hid, Option.map_id, id, statusOf, hinvoices, statusOf]
  faceValue invoiceId := by rw [faceValueOf, hinvoices, faceValueOf]
  unpaid _ := hpayments
  paid collectionId amount h := by cases e <;> simp_all [paymentOf, Event.collection?]
  open_ invoiceId collectionId amount h := by simp [h, Event.collection?] at he

theorem permissive (cfg : Config) (w₀ : World) : Permissive (protocol cfg w₀) where
  read _ _ := .silent rfl rfl rfl rfl
  threw _ _ := .silent rfl rfl rfl rfl
  logged _ _ _ := .silent rfl rfl rfl rfl
  enqueued _ _ _ := .silent rfl rfl rfl rfl
  leftJobs _ _ _ := .silent rfl rfl rfl rfl

/-- A collection keeps its row and its invoice. -/
theorem Belongs.effect {cfg : Config} {w₀ w w' : World} {e : Event} {collectionId invoiceId : ℕ}
    (h : Belongs w collectionId invoiceId) (heff : Effect cfg w₀ w e w') :
    Belongs w' collectionId invoiceId := by
  obtain ⟨c, hc, hinvoice⟩ := h
  obtain rfl : c.id = collectionId := Table.key_of_get? hc
  rcases heff.rows.row_stays (Table.mem_of_get? hc) with ⟨hstay, -⟩ | ⟨c', hc', hstep⟩
  · exact ⟨c, Table.get?_of_mem hstay, hinvoice⟩
  · refine ⟨c', ?_, hstep.invoiceId.trans hinvoice⟩
    rw [← hstep.id]
    exact Table.get?_of_mem hc'

theorem steady_belongs (cfg : Config) (w₀ : World) (collectionId invoiceId : ℕ) :
    (protocol cfg w₀).Steady fun s => Belongs s.store collectionId invoiceId := by
  intro s u e d _ h heff
  cases e with
  | none =>
    obtain rfl : d = s.store := heff
    exact h
  | some event => exact h.effect heff

/-! ## A small world

One invoice of 1,000 with its buyer and its collection: the store from which the example runs start. -/

def exampleInvoice (status : InvoiceStatus) : Invoice where
  id := 1
  supplierId := 1
  buyerId := 1
  faceValue := 1000
  advanceAmount := some 800
  discountAmount := some 20
  netPaymentToSupplier := some 780
  status := status
  tenorDays := some 90
  dueDate := 0
  amlFlagged := false
  amlClearedAt := none
  pricingAcceptedAt := some 0
  pricingAcceptedBy := some 9
  pricingRejectedAt := none
  pricingRejectionReason := none
  pricingDisputedAt := none
  fundedAt := some 0

def exampleCollection (id : ℕ) (status : CollectionStatus) (daysOverdue escalationLevel : ℤ) :
    Collection where
  id := id
  invoiceId := 1
  buyerId := 1
  faceValue := 1000
  amountDue := 1000
  status := status
  daysOverdue := daysOverdue
  dailyPenaltyRate := mkRat 1 1000
  penaltyAmount := daysOverdue
  escalationLevel := escalationLevel
  createdAt := 0

def exampleWorld (status : InvoiceStatus) (c : Collection) : World :=
  { World.empty with
    invoices := ⟨[exampleInvoice status], by simp⟩
    buyers := ⟨[{ id := 1, risMarginRate := mkRat 2 100, usedLimit := 1000, paymentScore := 50 }],
      by simp⟩
    collections := ⟨[c], by simp⟩ }

/-- Each operation, run alone as call `t`. -/
def payAlone (t : ℕ) (amount : ℤ) : List (Act Op Input) :=
  Act.call (.recordPaymentReceived ⟨1, amount, 0, 1, .bankTransfer, "Buyer", none, none⟩) t
    (List.replicate 8 { uuid := t })

def payInstalmentAlone (t : ℕ) (amount : ℤ) : List (Act Op Input) :=
  Act.call (.recordCollectionPayment 1 ⟨amount, .bankTransfer, none, "Buyer", 0, none⟩ 1) t
    (List.replicate 3 { uuid := t })

end Ris.Collections
