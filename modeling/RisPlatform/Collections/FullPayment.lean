import RisPlatform.Collections.Conformance

/-!
# What a collected invoice was paid

`recordPaymentReceived` collects an invoice for any amount and from any status but `collected`;
`resolveCollectionById` collects an overdue one for nothing. Here is when they collect what is due.
-/

namespace Ris.Collections

open Relational Concurrent

/-! ## The law -/

/-- The invoice awaits its payment. -/
def Payable (w : World) (invoiceId : ℕ) : Prop :=
  statusOf w invoiceId = some .collecting ∨ statusOf w invoiceId = some .overdue

/-- What was received for the invoice, over both ways to record a payment. -/
def received (w : World) (invoiceId : ℕ) : ℤ :=
  w.collectionPayments.sum fun p =>
    if invoiceIdOf w p.collectionId = some invoiceId then p.amount else 0

/-- The amount covers the face value of the invoice, and the accrued penalty of its collection. -/
def Covers (w : World) (invoiceId : ℕ) (amount : ℤ) : Prop :=
  ∃ face ∈ faceValueOf w invoiceId, face ≤ amount ∧
    ∀ c ∈ w.collections.rows, c.invoiceId = invoiceId → face + c.penaltyAmount ≤ amount

/-- An invoice becomes `collected` only from a payable status and only when what was received for it
covers what is due; a payment is recorded only for an invoice in a payable status. -/
structure CollectedPaid (w w' : World) : Prop where
  collected : ∀ invoiceId, statusOf w' invoiceId = some .collected →
    statusOf w invoiceId ≠ some .collected →
      Payable w invoiceId ∧ Covers w' invoiceId (received w' invoiceId)
  recorded : ∀ p ∈ w'.collectionPayments.rows, p ∉ w.collectionPayments.rows →
    ∀ invoiceId ∈ invoiceIdOf w p.collectionId, Payable w invoiceId

/-- A closing payment is for a payable invoice and brings what was received up to what is due; an
instalment is for a payable invoice; a payable invoice is resolved when it has been paid. -/
def PaidDue : Cond World Event := fun s _ e =>
  match e with
  | .paymentReceived invoiceId _ amount => Payable s.store invoiceId ∧
      Covers s.store invoiceId (received s.store invoiceId + amount)
  | .collectionPaid collectionId _ =>
      ∀ invoiceId ∈ invoiceIdOf s.store collectionId, Payable s.store invoiceId
  | .collectionResolved _ invoiceId prevStatus =>
      statusOf s.store invoiceId = some (resolvedFrom prevStatus) →
        Payable s.store invoiceId ∧ Covers s.store invoiceId (received s.store invoiceId)
  | _ => True

/-! ## One step -/

section Step

variable {cfg : Config} {w₀ w w' : World} {e : Event}

/-- The event neither makes a collection nor changes a penalty. -/
def KeepsDue (e : Event) : Prop :=
  keepsPenalty e = true ∧ ∀ collectionId invoiceId, e ≠ .collectionStarted collectionId invoiceId

theorem KeepsDue.not_opens (he : KeepsDue e) {c : Collection} : ¬Opens e c := by
  rintro (⟨rfl, -, -, -⟩ | ⟨rfl, -, -, -⟩)
  · exact he.2 _ _ rfl
  · cases he.1

/-- Such an event leaves the invoice of each collection alone. -/
theorem Effect.invoiceIdOf_eq (h : Effect cfg w₀ w e w') (he : KeepsDue e) (collectionId : ℕ) :
    invoiceIdOf w' collectionId = invoiceIdOf w collectionId := by
  cases h.rows with
  | same _ hrows => rw [invoiceIdOf, hrows, invoiceIdOf]
  | opened c hopens _ => exact absurd hopens he.not_opens
  | changed c c' hstep hrow =>
    by_cases hid : collectionId = c.id
    · rw [invoiceIdOf, invoiceIdOf, hid, hrow.before, hrow.after, Option.map_some, Option.map_some,
        hstep.invoiceId]
    · rw [invoiceIdOf, invoiceIdOf, hrow.others _ hid]

/-- Such an event keeps what is due. -/
theorem Effect.covers_iff (h : Effect cfg w₀ w e w') (he : KeepsDue e) (invoiceId : ℕ) (amount : ℤ) :
    Covers w' invoiceId amount ↔ Covers w invoiceId amount := by
  have hrows : ∀ face : ℤ,
      (∀ c ∈ w'.collections.rows, c.invoiceId = invoiceId → face + c.penaltyAmount ≤ amount) ↔
        ∀ c ∈ w.collections.rows, c.invoiceId = invoiceId → face + c.penaltyAmount ≤ amount := by
    intro face
    constructor
    · intro hdue c hc hid
      rcases h.rows.row_stays hc with ⟨hstay, -⟩ | ⟨c', hc', hstep⟩
      · exact hdue c hstay hid
      · rw [← hstep.penalty he.1]
        exact hdue c' hc' (hstep.invoiceId.trans hid)
    · intro hdue c' hc' hid
      rcases h.rows.row_cases hc' with ⟨hold, -⟩ | ⟨hopens, -⟩ | ⟨c, hc, hstep⟩
      · exact hdue c' hold hid
      · exact absurd hopens he.not_opens
      · rw [hstep.penalty he.1]
        exact hdue c hc (hstep.invoiceId.symm.trans hid)
  simp only [Covers, h.faceValue, hrows]

/-- What was received for an invoice changes by the event's payment. -/
theorem Effect.received_eq (h : Effect cfg w₀ w e w') (he : KeepsDue e) (invoiceId : ℕ) :
    received w' invoiceId = received w invoiceId +
      (paymentOf e).elim 0 fun p => if invoiceIdOf w p.1 = some invoiceId then p.2 else 0 := by
  cases hp : paymentOf e with
  | none =>
    simp only [received, h.unpaid hp, h.invoiceIdOf_eq he]
    simp
  | some payment =>
    obtain ⟨p, hid, hamount, -, hinsert⟩ := h.paid payment.1 payment.2 hp
    simp only [received, h.invoiceIdOf_eq he]
    rw [Table.sum_insert? hinsert, hid, hamount]
    rfl

/-- The invoice of a closing payment's collection. -/
theorem Effect.invoiceIdOf_paid (h : Effect cfg w₀ w e w') {invoiceId collectionId : ℕ} {amount : ℤ}
    (he : e = .paymentReceived invoiceId collectionId amount) :
    invoiceIdOf w collectionId = some invoiceId := by
  subst he
  obtain ⟨c, hc, _, _, hid, hstep⟩ := h.rows.exists_of_payment rfl
  rw [invoiceIdOf, ← hid, Table.get?_of_mem hc, Option.map_some, ← hstep.invoice invoiceId rfl]

/-- An invoice that an event makes `collected` got its closing payment, or was resolved. -/
theorem Effect.collected_cases (h : Effect cfg w₀ w e w') {invoiceId : ℕ}
    (hafter : statusOf w' invoiceId = some .collected)
    (hbefore : statusOf w invoiceId ≠ some .collected) :
    (∃ collectionId amount, e = .paymentReceived invoiceId collectionId amount) ∨
      ∃ collectionId prevStatus, e = .collectionResolved collectionId invoiceId prevStatus ∧
        statusOf w invoiceId = some (resolvedFrom prevStatus) := by
  rw [h.status, Option.map_eq_some_iff] at hafter
  obtain ⟨status, hstatus, hnext⟩ := hafter
  have hne : status ≠ .collected := fun hs => hbefore (hs ▸ hstatus)
  cases e with
  | paymentReceived i collectionId amount =>
    simp only [nextInvoiceStatus] at hnext
    split at hnext
    · rename_i hi
      exact Or.inl ⟨collectionId, amount, by rw [hi]⟩
    · exact absurd hnext hne
  | collectionResolved collectionId i prevStatus =>
    simp only [nextInvoiceStatus] at hnext
    split at hnext
    · rename_i hi
      exact Or.inr ⟨collectionId, prevStatus, by rw [hi.1], by rw [hstatus, hi.2]⟩
    · exact absurd hnext hne
  | collectionStarted | collectionOverdue | collectionDefaulted =>
    simp only [nextInvoiceStatus] at hnext
    split at hnext
    · cases hnext
    · exact absurd hnext hne
  | _ => exact absurd hnext hne

/-- A new row is of the event's payment. -/
theorem Effect.paymentOf_new (h : Effect cfg w₀ w e w') {p : CollectionPayment}
    (hp : p ∈ w'.collectionPayments.rows) (hnew : p ∉ w.collectionPayments.rows) :
    ∃ amount, paymentOf e = some (p.collectionId, amount) := by
  cases hpay : paymentOf e with
  | none =>
    rw [h.unpaid hpay] at hp
    exact absurd hp hnew
  | some payment =>
    obtain ⟨q, hid, -, -, hinsert⟩ := h.paid payment.1 payment.2 hpay
    rcases (Table.mem_insert? hinsert).1 hp with hold | rfl
    · exact absurd hold hnew
    · exact ⟨payment.2, by rw [hid]⟩

/-- A recorded payment is a new row. -/
theorem Effect.exists_new_payment (h : Effect cfg w₀ w e w') {collectionId : ℕ} {amount : ℤ}
    (hp : paymentOf e = some (collectionId, amount)) :
    ∃ p ∈ w'.collectionPayments.rows, p ∉ w.collectionPayments.rows ∧
      p.collectionId = collectionId := by
  obtain ⟨p, hid, -, -, hinsert⟩ := h.paid collectionId amount hp
  exact ⟨p, (Table.mem_insert? hinsert).2 (Or.inr rfl), fun hold => Table.key_ne_of_insert? hinsert hold rfl, hid⟩

/-- What a closing payment leaves received covers what is due if it did with the payment. -/
theorem Effect.covers_paid {invoiceId collectionId : ℕ} {amount : ℤ}
    (h : Effect cfg w₀ w (.paymentReceived invoiceId collectionId amount) w') :
    Covers w' invoiceId (received w' invoiceId) ↔
      Covers w invoiceId (received w invoiceId + amount) := by
  have hkeeps : KeepsDue (.paymentReceived invoiceId collectionId amount) := ⟨rfl, by simp⟩
  rw [h.covers_iff hkeeps, h.received_eq hkeeps]
  simp [paymentOf, h.invoiceIdOf_paid rfl]

/-- A resolution changes neither what is due nor what was received. -/
theorem Effect.covers_resolved {invoiceId collectionId : ℕ} {prevStatus : CollectionStatus}
    (h : Effect cfg w₀ w (.collectionResolved collectionId invoiceId prevStatus) w') :
    Covers w' invoiceId (received w' invoiceId) ↔ Covers w invoiceId (received w invoiceId) := by
  have hkeeps : KeepsDue (.collectionResolved collectionId invoiceId prevStatus) := ⟨rfl, by simp⟩
  rw [h.covers_iff hkeeps, h.received_eq hkeeps]
  simp [paymentOf]

/-- A step that collects and records as it should meets the condition. -/
theorem Effect.paidDue {s : State World Event} {t : ℕ} (h : Effect cfg w₀ s.store e w')
    (hlaw : CollectedPaid s.store w') : PaidDue s t e := by
  obtain ⟨hcollected, hrecorded⟩ := hlaw
  cases e with
  | paymentReceived invoiceId collectionId amount =>
    obtain ⟨status, hstatus, hopen⟩ := h.open_ invoiceId collectionId amount rfl
    have hafter : statusOf w' invoiceId = some .collected := by
      rw [h.status, hstatus]
      simp [nextInvoiceStatus]
    have hbefore : statusOf s.store invoiceId ≠ some .collected := by
      rw [hstatus]
      exact fun heq => hopen (Option.some.inj heq)
    obtain ⟨hpayable, hcovers⟩ := hcollected invoiceId hafter hbefore
    exact ⟨hpayable, h.covers_paid.1 hcovers⟩
  | collectionPaid collectionId amount =>
    intro invoiceId hinvoice
    -- the law speaks about new rows, the condition about the event
    obtain ⟨p, hp, hnew, rfl⟩ := h.exists_new_payment rfl
    exact hrecorded p hp hnew invoiceId hinvoice
  | collectionResolved collectionId invoiceId prevStatus =>
    intro hexpected
    have hafter : statusOf w' invoiceId = some .collected := by
      rw [h.status, hexpected]
      simp [nextInvoiceStatus]
    have hbefore : statusOf s.store invoiceId ≠ some .collected := by
      rw [hexpected]
      cases prevStatus <;> simp [resolvedFrom]
    obtain ⟨hpayable, hcovers⟩ := hcollected invoiceId hafter hbefore
    exact ⟨hpayable, h.covers_resolved.1 hcovers⟩
  | _ => trivial

/-- A step that meets the condition collects and records as it should. -/
theorem Effect.collectedPaid {s : State World Event} {t : ℕ} (h : Effect cfg w₀ s.store e w')
    (hcond : PaidDue s t e) : CollectedPaid s.store w' := by
  constructor
  · intro invoiceId hafter hbefore
    rcases h.collected_cases hafter hbefore with ⟨collectionId, amount, rfl⟩ | ⟨c, prevStatus, rfl, hexpected⟩
    · exact ⟨hcond.1, h.covers_paid.2 hcond.2⟩
    · obtain ⟨hpayable, hcovers⟩ := hcond hexpected
      exact ⟨hpayable, h.covers_resolved.2 hcovers⟩
  · intro p hp hnew invoiceId hinvoice
    obtain ⟨amount, hpay⟩ := h.paymentOf_new hp hnew
    cases e with
    | paymentReceived i collectionId amount' =>
      obtain ⟨rfl, rfl⟩ := Prod.mk.inj (Option.some.inj hpay)
      rw [h.invoiceIdOf_paid rfl] at hinvoice
      obtain rfl := Option.some.inj hinvoice
      exact hcond.1
    | collectionPaid collectionId amount' =>
      obtain ⟨rfl, rfl⟩ := Prod.mk.inj (Option.some.inj hpay)
      exact hcond invoiceId hinvoice
    | _ => cases hpay

/-- The step lemma: a step collects and records as it should exactly if it meets the condition. -/
theorem Effect.collectedPaid_iff {s : State World Event} {t : ℕ} (h : Effect cfg w₀ s.store e w') :
    CollectedPaid s.store w' ↔ PaidDue s t e := ⟨h.paidDue, h.collectedPaid⟩

end Step

/-! ## Runs -/

/-- **Collected means paid.** The runs along which every invoice is collected from a payable status and
for what is due, and every payment is recorded for an invoice in a payable status, are exactly those in
which each closing payment, instalment and resolution finds it so. -/
theorem collected_paid_iff (cfg : Config) (w : World) (s : Sys World Input Event RisError) :
    Relation.ReflTransGen (fun s s' => Step (program cfg) always s s' ∧ CollectedPaid s.store s'.store)
      (Sys.init w) s ↔ Reaches (program cfg) PaidDue (Sys.init w) s := by
  have hsame : ∀ w : World, CollectedPaid w w := fun w =>
    ⟨fun _ hafter hbefore => absurd hafter hbefore, fun _ hp hnew => absurd hp hnew⟩
  refine Protocol.runs_iff (program_implements cfg w) (Inv.init w) (P := fun _ => True)
    (R := fun s s' => CollectedPaid s.store s'.store) trivial (fun s _ => hsame s.store) ?_ ?_
    (fun _ _ _ _ _ _ _ => trivial) s
  · intro s t d _ hmove
    obtain rfl : d = s.store := hmove.effect
    exact hsame s.store
  · intro s t e d _ hmove
    exact Effect.collectedPaid_iff hmove.effect

/-! ## Runs on one invoice -/

instance (w : World) (invoiceId : ℕ) : Decidable (Payable w invoiceId) := by
  unfold Payable
  infer_instance

instance (w : World) (invoiceId : ℕ) (amount : ℤ) : Decidable (Covers w invoiceId amount) := by
  unfold Covers
  infer_instance

instance (s : State World Event) (t : ℕ) (e : Event) : Decidable (PaidDue s t e) := by
  unfold PaidDue
  induction e using Event.casesOn <;> infer_instance

/-- A payment of the face value and the penalty; and an instalment, a closing payment of the rest. -/
theorem collected_when_paid :
    ∃ s : Sys World Input Event RisError, statusOf s.store 1 = some .collected ∧
      received s.store 1 = 1001 ∧
      Relation.ReflTransGen
        (fun s s' => Step (program {}) always s s' ∧ CollectedPaid s.store s'.store)
        (Sys.init (exampleWorld .overdue (exampleCollection 1 .overdue 1 0))) s := by
  obtain ⟨s, hs, hP⟩ := exists_reaches (program {}) PaidDue
    (Sys.init (exampleWorld .overdue (exampleCollection 1 .overdue 1 0)))
    (payInstalmentAlone 0 400 ++ payAlone 1 601)
    (fun s => statusOf s.store 1 = some .collected ∧ received s.store 1 = 1001) (by decide)
  obtain ⟨hcollected, hreceived⟩ := of_decide_eq_true hP
  exact ⟨s, hcollected, hreceived, (collected_paid_iff {} _ s).2 hs⟩

/-- A payment of 1 closes an overdue invoice of 1,000, and one of 1,000 an invoice in default. -/
theorem collects_for_one :
    (∃ s₁ s₂ : Sys World Input Event RisError,
      Reaches (program {}) always
          (Sys.init (exampleWorld .overdue (exampleCollection 1 .overdue 1 0))) s₁ ∧
        Step (program {}) always s₁ s₂ ∧ received s₂.store 1 = 1 ∧
        ¬CollectedPaid s₁.store s₂.store) ∧
    ∃ s₁ s₂ : Sys World Input Event RisError,
      Reaches (program {}) always
          (Sys.init (exampleWorld .defaulted (exampleCollection 1 .badDebt 90 3))) s₁ ∧
        Step (program {}) always s₁ s₂ ∧ statusOf s₁.store 1 = some .defaulted ∧
        ¬CollectedPaid s₁.store s₂.store := by
  constructor
  · obtain ⟨s₁, s₂, h₁, h₂, hP⟩ := exists_step (program {}) always
      (Sys.init (exampleWorld .overdue (exampleCollection 1 .overdue 1 0)))
      ((payAlone 0 1).take 3) (.move 0 {})
      (fun s₁ s₂ => statusOf s₁.store 1 = some .overdue ∧ statusOf s₂.store 1 = some .collected ∧
        received s₂.store 1 = 1 ∧ ¬Covers s₂.store 1 1) (by decide)
    obtain ⟨hbefore, hafter, hreceived, hdue⟩ := of_decide_eq_true hP
    refine ⟨s₁, s₂, h₁, h₂, hreceived, fun hpaid => hdue ?_⟩
    have hcovers := (hpaid.collected 1 hafter (by simp [hbefore])).2
    rwa [hreceived] at hcovers
  · obtain ⟨s₁, s₂, h₁, h₂, hP⟩ := exists_step (program {}) always
      (Sys.init (exampleWorld .defaulted (exampleCollection 1 .badDebt 90 3)))
      ((payAlone 0 1000).take 3) (.move 0 {})
      (fun s₁ s₂ => statusOf s₁.store 1 = some .defaulted ∧ statusOf s₂.store 1 = some .collected)
      (by decide)
    obtain ⟨hbefore, hafter⟩ := of_decide_eq_true hP
    refine ⟨s₁, s₂, h₁, h₂, hbefore, fun hpaid => ?_⟩
    rcases (hpaid.collected 1 hafter (by simp [hbefore])).1 with h | h
    · rw [hbefore] at h
      cases h
    · rw [hbefore] at h
      cases h

end Ris.Collections
