import RisPlatform.Origination.Conformance

/-!
# Funding without consent

Approval looks at the invoice's status alone, and so does payment initiation. A supplier's consent to
funding therefore holds exactly along the runs in which each approval finds the pricing accepted, and
no rejection commits on an invoice that is already on its way to funding.
-/

namespace Ris.Origination

open Relational Concurrent Pricing

/-- The supplier has accepted the pricing of the invoice, and has not rejected it. -/
def Accepted (r : Invoice) : Prop := r.pricingAcceptedAt ≠ none ∧ r.pricingRejectedAt = none

/-- The invoice is approved or has a payment row. -/
def OnItsWay (w : World) (r : Invoice) : Prop :=
  r.status = .approved ∨ ∃ p ∈ w.payments.rows, p.invoiceId = r.id

/-- Every invoice that is approved or has a payment row is one whose pricing was accepted. -/
def Consented (w : World) : Prop := ∀ r ∈ w.invoices.rows, OnItsWay w r → Accepted r

instance (r : Invoice) : Decidable (Accepted r) := by
  unfold Accepted
  infer_instance

instance (w : World) (r : Invoice) : Decidable (OnItsWay w r) := by
  unfold OnItsWay
  infer_instance

instance (w : World) : Decidable (Consented w) := by
  unfold Consented
  infer_instance

/-- An approval that moves an invoice finds its pricing accepted, and a rejection finds the invoice
neither approved nor with a payment. -/
def DecidedFirst : Cond World Event := fun s _ e =>
  (∀ i ∈ e.approved?, ∀ r ∈ s.store.invoices.get? i, r.status = .priced → Accepted r) ∧
    ∀ i ∈ e.rejected?, ∀ r ∈ s.store.invoices.get? i, ¬OnItsWay s.store r

instance (s : State World Event) (t : ℕ) (e : Event) : Decidable (DecidedFirst s t e) := by
  unfold DecidedFirst
  infer_instance

/-! ## One step -/

variable {w₀ w w' : World} {e : Event} {r r' : Invoice}

/-- Only a rejection takes the consent away. -/
theorem InvoiceStep.accepted_iff (h : InvoiceStep e r r') (he : e ≠ .pricingRejected r.id)
    (hr : Accepted r) : Accepted r' := by
  obtain ⟨haccepted, hrejected⟩ := hr
  cases h with
  | rejected _ _ he' => exact absurd he' he
  | accepted => exact ⟨by simp [setAccepted], hrejected⟩
  | other | priced | disputed | approved | initiated =>
    simp [Accepted, setAmounts, setDisputed, haccepted, hrejected]

/-- A payment row after the step was there before, or was created by it. -/
theorem Effect.payment_origin (h : Effect w₀ w e w') {p : Payment} (hp : p ∈ w'.payments.rows) :
    p ∈ w.payments.rows ∨ e.created? = some p := by
  cases hcreated : e.created? with
  | none =>
    rw [h.unpaid hcreated] at hp
    exact Or.inl hp
  | some q =>
    obtain ⟨hinsert, -, -⟩ := h.paid q hcreated
    rcases (Table.mem_insert? hinsert).1 hp with hold | rfl
    · exact Or.inl hold
    · exact Or.inr rfl

/-- A payment row stays. -/
theorem Effect.payment_stays (h : Effect w₀ w e w') {p : Payment} (hp : p ∈ w.payments.rows) :
    p ∈ w'.payments.rows := by
  cases hcreated : e.created? with
  | none =>
    rw [h.unpaid hcreated]
    exact hp
  | some q => exact (Table.mem_insert? (h.paid q hcreated).1).2 (Or.inl hp)

/-- An invoice is on its way because it was so before, or because this step approves it. -/
theorem Effect.onItsWay_origin (h : Effect w₀ w e w') (hr : r ∈ w.invoices.rows)
    (hstep : InvoiceStep e r r') (hway : OnItsWay w' r') :
    OnItsWay w r ∨ e.approved? = some r.id ∧ r.status = .priced := by
  rcases hway with hstatus | ⟨p, hp, hinvoice⟩
  · cases hstep with
    | approved approverId role now he =>
      by_cases hpriced : r.status = .priced
      · exact Or.inr ⟨by rw [he]; rfl, hpriced⟩
      · refine Or.inl (Or.inl ?_)
        simpa [hpriced] using hstatus
    | other | accepted | disputed => exact Or.inl (Or.inl hstatus)
    | priced =>
      rw [moveStatus_status] at hstatus
      split at hstatus
      · cases hstatus
      · exact Or.inl (Or.inl hstatus)
    | rejected =>
      rw [moveStatus_status] at hstatus
      split at hstatus
      · cases hstatus
      · exact Or.inl (Or.inl hstatus)
    | initiated =>
      rw [moveStatus_status] at hstatus
      split at hstatus
      · cases hstatus
      · exact Or.inl (Or.inl hstatus)
  · rw [hstep.id] at hinvoice
    refine Or.inl ?_
    rcases h.payment_origin hp with hold | hcreated
    · exact Or.inr ⟨p, hold, hinvoice⟩
    · -- the invoice of a created payment was approved
      obtain ⟨-, -, current, hcurrent, hstatus⟩ := h.paid p hcreated
      rw [hinvoice, Table.get?_of_mem hr, Option.some.injEq] at hcurrent
      exact Or.inl (hcurrent ▸ hstatus)

/-- The step lemma: consent is kept exactly if the step meets the condition. -/
theorem Effect.consented_iff {s : State World Event} {t : ℕ} (h : Effect w₀ s.store e w')
    (hs : Consented s.store) : Consented w' ↔ DecidedFirst s t e := by
  constructor
  · intro hconsented
    refine ⟨fun i hi r hr hpriced => ?_, fun i hi r hr hway => ?_⟩
    · obtain ⟨r', hr', hstep⟩ := h.invoices.exists_of_mem_left (Table.mem_of_get? hr)
      have hid : r.id = i := Table.key_of_get? hr
      cases hstep with
      | approved approverId role now he =>
        have haccepted := hconsented _ hr' (Or.inl (by simp [hpriced]))
        simpa [Accepted] using haccepted
      | other he => cases e <;> simp_all [Event.approved?, Event.invoice?]
      | priced _ _ he | accepted _ _ _ he | rejected _ _ he | disputed _ he | initiated _ _ he _ =>
        subst he
        cases hi
    · obtain ⟨r', hr', hstep⟩ := h.invoices.exists_of_mem_left (Table.mem_of_get? hr)
      have hid : r.id = i := Table.key_of_get? hr
      cases hstep with
      | rejected reason now he =>
        have hway' : OnItsWay w' (moveStatus .priced .rejected now (setRejected reason now r)) := by
          rcases hway with hstatus | ⟨p, hp, hinvoice⟩
          · exact Or.inl (by simp [setRejected, hstatus])
          · exact Or.inr ⟨p, h.payment_stays hp, by simpa [setRejected] using hinvoice⟩
        have haccepted := hconsented _ hr' hway'
        simp [Accepted, setRejected] at haccepted
      | other he => cases e <;> simp_all [Event.rejected?, Event.invoice?]
      | priced _ _ he | accepted _ _ _ he | approved _ _ _ he | disputed _ he | initiated _ _ he _ =>
        subst he
        cases hi
  · rintro ⟨happroves, hrejects⟩ r' hr' hway
    obtain ⟨r, hr, hstep⟩ := h.invoices.exists_of_mem hr'
    have hget := Table.get?_of_mem hr
    rcases h.onItsWay_origin hr hstep hway with hbefore | ⟨happroved, hpriced⟩
    · refine hstep.accepted_iff ?_ (hs r hr hbefore)
      rintro rfl
      exact hrejects r.id rfl r hget hbefore
    · refine hstep.accepted_iff ?_ (happroves r.id happroved r hget hpriced)
      rintro rfl
      cases happroved

/-! ## Runs -/

/-- **Consent to funding.** From a state with consent, the runs along which every invoice that is
approved or has a payment row is one whose pricing was accepted and not rejected are exactly those in
which each approval finds it so and no rejection comes after. -/
theorem funding_consented_iff (cfg : Config) (w : World) (hw : Consented w)
    (s : Sys World Input Event RisError) :
    Relation.ReflTransGen (fun s s' => Step (program cfg) always s s' ∧ Consented s'.store)
      (Sys.init w) s ↔ Reaches (program cfg) DecidedFirst (Sys.init w) s := by
  refine Protocol.runs_iff (program_implements w cfg) (Inv.init w)
    (P := fun s => Consented s.store) (R := fun _ s' => Consented s'.store) hw (fun _ hs => hs) ?_ ?_
    (fun _ _ _ _ _ _ hgood => hgood) s
  · intro s t d hs hmove
    obtain rfl : d = s.store := hmove.effect
    exact hs
  · intro s t e d hs hmove
    exact Effect.consented_iff hmove.effect hs

/-- Priced, accepted, approved and initiated in this order: consent holds throughout. -/
theorem consented_of_accepted_run :
    ∃ s : Sys World Input Event RisError, s.store.payments.rows ≠ [] ∧
      Relation.ReflTransGen (fun s s' => Step (program {}) always s s' ∧ Consented s'.store)
        (Sys.init (scoredWorld 90)) s := by
  obtain ⟨s, hs, hP⟩ := exists_reaches (program {}) DecidedFirst (Sys.init (scoredWorld 90))
    (priceAlone 0 ++ acceptAlone 1 ++ approveAlone 2 ++ initiateAlone 3)
    (fun s => s.store.payments.rows ≠ []) (by decide +kernel)
  exact ⟨s, of_decide_eq_true hP,
    (funding_consented_iff {} (scoredWorld 90) (by decide) s).2 hs⟩

/-- An invoice that its supplier never accepted is approved and gets a payment row; and one whose
pricing was accepted stays approved when the supplier rejects it afterwards. -/
theorem funding_without_consent :
    Consented (scoredWorld 90) ∧
      (∃ s : Sys World Input Event RisError,
        Reaches (program {}) always (Sys.init (scoredWorld 90)) s ∧ ¬Consented s.store ∧
          s.store.payments.rows ≠ [] ∧
          ∀ r ∈ s.store.invoices.rows, r.pricingAcceptedAt = none) ∧
      ∃ s : Sys World Input Event RisError,
        Reaches (program {}) always (Sys.init (scoredWorld 90)) s ∧ ¬Consented s.store ∧
          ∀ r ∈ s.store.invoices.rows, r.status = .approved ∧ r.pricingRejectedAt ≠ none := by
  obtain ⟨s, hs, hP⟩ := exists_reaches (program {}) always (Sys.init (scoredWorld 90))
    (priceAlone 0 ++ approveAlone 1 ++ initiateAlone 2)
    (fun s => ¬Consented s.store ∧ s.store.payments.rows ≠ [] ∧
      ∀ r ∈ s.store.invoices.rows, r.pricingAcceptedAt = none) (by decide +kernel)
  obtain ⟨s', hs', hP'⟩ := exists_reaches (program {}) always (Sys.init (scoredWorld 90))
    (priceAlone 0 ++ acceptAlone 1 ++ approveAlone 2 ++ rejectAlone 3)
    (fun s => ¬Consented s.store ∧
      ∀ r ∈ s.store.invoices.rows, r.status = .approved ∧ r.pricingRejectedAt ≠ none)
    (by decide +kernel)
  exact ⟨by decide, ⟨s, hs, of_decide_eq_true hP⟩, ⟨s', hs', of_decide_eq_true hP'⟩⟩

end Ris.Origination
