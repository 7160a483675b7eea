import RisPlatform.Payments.Conformance

/-!
# Payments and invoices on funding

A funded payment should belong to an invoice that is funded or further. The transaction that creates a
payment moves its invoice from `approved` to `pending_first_auth`; the success transaction moves it to
`funded` only from `approved`, and ignores that no row matched. So every success commits a funded
payment whose invoice stays `pending_first_auth`.
-/

namespace Ris.Payments

open Relational Concurrent

/-- The statuses of an invoice from its funding on. -/
def FundedOrLater (status : InvoiceStatus) : Prop :=
  status ∈ [InvoiceStatus.funded, .collecting, .overdue, .collected, .defaulted]

/-- The invoice with this id is funded, or further. -/
def InvoiceFunded (w : World) (invoiceId : ℕ) : Prop :=
  ∃ r, w.invoices.get? invoiceId = some r ∧ FundedOrLater r.status

/-- Every funded payment belongs to an invoice that is funded or further. -/
def FundingAgrees (s : State World Event) : Prop :=
  ∀ p ∈ s.store.payments.rows, p.status = .funded → InvoiceFunded s.store p.invoiceId

/-- The step funds a payment exactly when it funds its invoice. -/
def FundsTogether (s s' : State World Event) : Prop :=
  ∀ p ∈ s.store.payments.rows, ∀ p', s'.store.payments.get? p.id = some p' →
    (p.status ≠ .funded ∧ p'.status = .funded ↔
      ¬InvoiceFunded s.store p.invoiceId ∧ InvoiceFunded s'.store p.invoiceId)

/-- No success transaction commits. -/
def NoSuccess : Cond World Event := fun _ _ e => e.funded? = none

instance (s : State World Event) (t : ℕ) (e : Event) : Decidable (NoSuccess s t e) :=
  inferInstanceAs (Decidable (e.funded? = none))

/-! ## The invoice of a payment -/

/-- The invoice of every payment is `pending_first_auth`. -/
def InvoicesAwait (s : State World Event) : Prop :=
  ∀ p ∈ s.store.payments.rows,
    ∃ r, s.store.invoices.get? p.invoiceId = some r ∧ r.status = .pendingFirstAuth

theorem InvoicesAwait.not_funded {s : State World Event} (h : InvoicesAwait s) {p : Payment}
    (hp : p ∈ s.store.payments.rows) : ¬InvoiceFunded s.store p.invoiceId := by
  rintro ⟨r, hr, hfunded⟩
  obtain ⟨r', hr', hstatus⟩ := h p hp
  rw [hr, Option.some.injEq] at hr'
  subst hr'
  rw [hstatus] at hfunded
  simp [FundedOrLater] at hfunded

/-- An invoice that is `pending_first_auth` stays so: both transactions look for `approved`. -/
theorem InvoiceStep.status_of_pendingFirstAuth {e : Option Event} {r r' : Invoice}
    (h : InvoiceStep e r r') (hstatus : r.status = .pendingFirstAuth) :
    r'.status = .pendingFirstAuth := by
  cases h with
  | same => exact hstatus
  | initiated p now he hid happroved => rfl
  | funded p now he hid happroved =>
    rw [hstatus] at happroved
    cases happroved

/-- The step lemma of the invoices of payments. -/
theorem InvoicesAwait.step {s : State World Event} {t : ℕ} {e : Option Event} {d : World}
    (h : InvoicesAwait s) (heff : Effect s t e d) : InvoicesAwait (s.record t e d) := by
  intro p' hp'
  rcases Effect.row_origin heff (Table.get?_of_mem hp') with ⟨rfl, -⟩ | ⟨p, hp, hstep⟩
  · cases heff with
    | paymentCreated hcreates hcurrent happroved hamount hfacility havailable =>
      exact ⟨_, hcreates.invoice_moved hcurrent happroved, rfl⟩
  · obtain ⟨r, hr, hstatus⟩ := h p (Table.mem_of_get? hp)
    obtain ⟨r', hr', hinv⟩ := Effect.invoice_step heff hr
    rw [hstep.sameOrder.invoiceId]
    exact ⟨r', hr', hinv.status_of_pendingFirstAuth hstatus⟩

theorem invoicesAwait_of_reaches {cfg : Config} {w : World} (hw : w.payments.rows = [])
    {s : Sys World Input Event RisError} (hs : Reaches (program cfg) always (Sys.init w) s) :
    InvoicesAwait s.toState := by
  refine Protocol.invariant (P := InvoicesAwait) (program_implements cfg) trivial ?_
    (fun s t e d h hmove => h.step hmove.effect) hs
  intro p hp
  rw [hw] at hp
  cases hp

/-! ## Steps -/

/-- A row becomes funded only when a success commits. -/
theorem RowStep.funded_iff {e : Option Event} {r r' : Payment} (h : RowStep e r r')
    (hfunded : r'.status = .funded) : r.status = .funded ∨ ∃ p, e = some (.paymentFunded p) := by
  cases h with
  | same => exact Or.inl hfunded
  | firstAuthorised userId now he hstatus => cases hfunded
  | secondAuthorised userId now he hstatus huser => cases hfunded
  | funded p result now he hid => exact Or.inr ⟨p, he⟩
  | pending p result he hid => exact Or.inl hfunded
  | failed p reason he hid => cases hfunded
  | suspended ids reason he hids hstatus => cases hfunded

/-- No payment is funded. -/
def NoneFunded (s : State World Event) : Prop := ∀ p ∈ s.store.payments.rows, p.status ≠ .funded

/-- Where payments and invoices agree, no payment is funded: its invoice is not. -/
theorem InvoicesAwait.noneFunded {s : State World Event} (h : InvoicesAwait s)
    (hagrees : FundingAgrees s) : NoneFunded s :=
  fun p hp hfunded => h.not_funded hp (hagrees p hp hfunded)

/-- Two states between which a payment keeps its invoice, without a funded payment in the second. -/
theorem agrees_of_noneFunded {s s' : State World Event} (hs' : InvoicesAwait s')
    (hnone : NoneFunded s')
    (hinvoice : ∀ p ∈ s.store.payments.rows, ∀ p', s'.store.payments.get? p.id = some p' →
      p'.invoiceId = p.invoiceId) : FundingAgrees s' ∧ FundsTogether s s' := by
  constructor
  · intro p hp hfunded
    exact absurd hfunded (hnone p hp)
  · intro p hp p' hp'
    have hmem := Table.mem_of_get? hp'
    constructor
    · rintro ⟨-, hfunded⟩
      exact absurd hfunded (hnone p' hmem)
    · rintro ⟨-, hfunded⟩
      rw [← hinvoice p hp p' hp'] at hfunded
      exact absurd hfunded (hs'.not_funded hmem)

section Step

variable {s : State World Event} {t : ℕ} {d : World}

/-- The step lemma: who does not commit a success funds no payment. -/
theorem NoneFunded.step {e : Option Event} (h : NoneFunded s) (heff : Effect s t e d)
    (he : ∀ p, e ≠ some (.paymentFunded p)) : NoneFunded (s.record t e d) := by
  intro p' hp' hfunded
  rcases Effect.row_origin heff (Table.get?_of_mem hp') with ⟨rfl, -⟩ | ⟨p, hp, hstep⟩
  · cases heff with
    | paymentCreated hcreates =>
      rw [hcreates.row] at hfunded
      cases hfunded
  · rcases hstep.funded_iff hfunded with hfunded | ⟨q, rfl⟩
    · exact h p (Table.mem_of_get? hp) hfunded
    · exact he q rfl

/-- Who does not commit a success keeps payments and invoices in agreement. -/
theorem Effect.agrees {e : Option Event} (heff : Effect s t e d) (hs : InvoicesAwait s)
    (hnone : NoneFunded s) (he : ∀ p, e ≠ some (.paymentFunded p)) :
    FundingAgrees (s.record t e d) ∧ FundsTogether s (s.record t e d) := by
  refine agrees_of_noneFunded (hs.step heff) (hnone.step heff he) fun p hp p' hp' => ?_
  obtain ⟨p'', hp'', hrow⟩ := Effect.row_step heff (Table.get?_of_mem hp)
  obtain rfl : p'' = p' := Option.some.inj (hp''.symm.trans hp')
  exact hrow.sameOrder.invoiceId

/-- A success leaves a funded payment whose invoice is not funded. -/
theorem Effect.not_agrees_of_success {p : Payment} (heff : Effect s t (some (.paymentFunded p)) d)
    (hs : InvoicesAwait s) : ¬FundingAgrees (s.record t (some (.paymentFunded p)) d) := by
  have hawait := hs.step heff
  cases heff with
  | paymentFunded hown hsuccess hpending hinvoice h =>
    intro hagrees
    have hmem := Table.mem_of_get? h.row.after
    exact hawait.not_funded hmem (hagrees _ hmem rfl)

end Step

/-! ## Runs -/

/-- A step of a run along which payments and invoices agree on funding. -/
def AgreeingStep (cfg : Config) (s s' : Sys World Input Event RisError) : Prop :=
  Step (program cfg) always s s' ∧ FundingAgrees s'.toState ∧ FundsTogether s.toState s'.toState

/-- **Agreement on funding.** From the empty payments table, the runs along which payments and
invoices agree are exactly those in which no success transaction commits. -/
theorem funding_agrees_iff (cfg : Config) (w : World) (hw : w.payments.rows = [])
    (s : Sys World Input Event RisError) :
    Relation.ReflTransGen (AgreeingStep cfg) (Sys.init w) s ↔
      Reaches (program cfg) NoSuccess (Sys.init w) s := by
  have hempty : InvoicesAwait ⟨w, []⟩ ∧ NoneFunded ⟨w, []⟩ := by
    constructor <;> intro p hp <;> rw [hw] at hp <;> cases hp
  refine Protocol.runs_iff (program_implements cfg) trivial
    (P := fun s => InvoicesAwait s ∧ NoneFunded s)
    (R := fun s s' => FundingAgrees s' ∧ FundsTogether s s') hempty ?_ ?_ ?_ ?_ s
  · rintro s ⟨hawait, hnone⟩
    refine agrees_of_noneFunded hawait hnone fun p hp p' hp' => ?_
    rw [Table.get?_of_mem hp, Option.some.injEq] at hp'
    rw [hp']
  · rintro s t d ⟨hawait, hnone⟩ hmove
    exact Effect.agrees hmove.effect hawait hnone fun _ he => by cases he
  · rintro s t e d ⟨hawait, hnone⟩ hmove
    constructor
    · rintro ⟨hagrees, -⟩
      by_contra hfunded
      obtain ⟨p, hp⟩ := Option.ne_none_iff_exists'.1 hfunded
      obtain rfl := Event.funded?_eq_some.1 hp
      exact Effect.not_agrees_of_success hmove.effect hawait hagrees
    · intro hC
      refine Effect.agrees hmove.effect hawait hnone fun p he => ?_
      obtain rfl := Option.some.inj he
      cases hC
  · rintro s t e d ⟨hawait, -⟩ hmove ⟨hagrees, -⟩
    have hawait' := hawait.step hmove.effect
    exact ⟨hawait', hawait'.noneFunded hagrees⟩

/-- A run without a success: the payment is executing, and nothing is funded yet. -/
theorem funding_agrees_before_success :
    ∃ s : Sys World Input Event RisError,
      (s.store.payments.get? 1).map Payment.status = some .executing ∧
        Relation.ReflTransGen (AgreeingStep {}) (Sys.init smallWorld) s := by
  obtain ⟨s, hs, hP⟩ := exists_reaches (program {}) NoSuccess (Sys.init smallWorld)
    (initiateAlone 0 1 "K" ++ authoriseAlone 1 1)
    (fun s => (s.store.payments.get? 1).map Payment.status = some .executing) (by decide +kernel)
  exact ⟨s, of_decide_eq_true hP, (funding_agrees_iff {} smallWorld rfl s).2 hs⟩

/-- The payment of the run is funded and its invoice is still `pending_first_auth`. -/
theorem funded_payment_of_unfunded_invoice :
    ∃ s : Sys World Input Event RisError, Reaches (program {}) always (Sys.init smallWorld) s ∧
      ¬FundingAgrees s.toState := by
  obtain ⟨s, hs, hP⟩ := exists_reaches (program {}) always (Sys.init smallWorld)
    (initiateAlone 0 1 "K" ++ authoriseAlone 1 1 ++ executeAlone 3 1)
    (fun s => s.store.payments.rows.any fun p => p.status = .funded) (by decide +kernel)
  obtain ⟨p, hp, hstatus⟩ := List.any_eq_true.1 hP
  refine ⟨s, hs, fun h => ?_⟩
  exact (invoicesAwait_of_reaches (w := smallWorld) rfl hs).not_funded hp
    (h p hp (of_decide_eq_true hstatus))

end Ris.Payments
