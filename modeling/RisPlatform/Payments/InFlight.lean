import RisPlatform.Payments.Conformance

/-!
# Executions in flight

An execution is in flight for a payment from its check of the idempotency key to its return. The check
reads the row without locking it, so executions of one payment may overlap; in the runs where none
passes the check while another is in flight, at most one is in flight at any time.
-/

namespace Ris.Payments

open Relational Concurrent

variable {s : State World Event} {t : ℕ} {e : Option Event} {d : World}

/-! ## What the history of an execution tells -/

/-- The stages of an execution come in order, and the row it loaded is still the same order. -/
structure Traced (s : State World Event) : Prop where
  row : ∀ t p, (t, some (.executionLoaded p)) ∈ s.hist →
    ∃ r, s.store.payments.get? p.id = some r ∧ SameOrder p r
  loaded : ∀ t p, (t, some (.idempotencyChecked p)) ∈ s.hist →
    (t, some (.executionLoaded p)) ∈ s.hist
  checked : ∀ t p r, (t, some (.providerReplied p r)) ∈ s.hist →
    (t, some (.idempotencyChecked p)) ∈ s.hist
  recorded : ∀ t p, (t, some (.paymentFunded p)) ∈ s.hist ∨ (t, some (.paymentFailed p)) ∈ s.hist →
    (t, some (.idempotencyChecked p)) ∈ s.hist

theorem SameOrder.trans {r r' r'' : Payment} (h : SameOrder r r') (h' : SameOrder r' r'') :
    SameOrder r r'' where
  id := h'.id.trans h.id
  invoiceId := h'.invoiceId.trans h.invoiceId
  amount := h'.amount.trans h.amount
  idempotencyKey := h'.idempotencyKey.trans h.idempotencyKey

theorem Traced.step (h : Traced s) (heff : Effect s t e d) : Traced (s.record t e d) where
  row := by
    intro u p hmem
    rw [State.record_hist, List.mem_cons, Prod.mk.injEq] at hmem
    rcases hmem with ⟨-, rfl⟩ | hmem
    · cases heff with
      | executionLoaded hown hrow hstatus => exact ⟨p, hrow, rfl, rfl, rfl, rfl⟩
    · obtain ⟨r, hr, horder⟩ := h.row u p hmem
      obtain ⟨r', hr', hstep⟩ := Effect.row_step heff hr
      exact ⟨r', hr', horder.trans hstep.sameOrder⟩
  loaded := by
    intro u p hmem
    rw [State.record_hist, List.mem_cons, Prod.mk.injEq] at hmem
    rcases hmem with ⟨rfl, rfl⟩ | hmem
    · cases heff with
      | idempotencyChecked hown =>
        exact List.mem_cons_of_mem _ (mem_own.1 (by rw [hown]; simp))
    · exact List.mem_cons_of_mem _ (h.loaded u p hmem)
  checked := by
    intro u p r hmem
    rw [State.record_hist, List.mem_cons, Prod.mk.injEq] at hmem
    rcases hmem with ⟨rfl, rfl⟩ | hmem
    · cases heff with
      | providerReplied _ hown =>
        exact List.mem_cons_of_mem _ (mem_own.1 (by rw [hown]; simp [readyToAsk]))
    · exact List.mem_cons_of_mem _ (h.checked u p r hmem)
  recorded := by
    intro u p hmem
    rw [State.record_hist, List.mem_cons, List.mem_cons, Prod.mk.injEq, Prod.mk.injEq] at hmem
    rcases hmem with (⟨rfl, rfl⟩ | hmem) | ⟨rfl, rfl⟩ | hmem
    · cases heff with
      | paymentFunded hown =>
        exact List.mem_cons_of_mem _ (mem_own.1 (by rw [hown]; simp [readyToAsk]))
    · exact List.mem_cons_of_mem _ (h.recorded u p (Or.inl hmem))
    · cases heff with
      | paymentFailed hown => exact List.mem_cons_of_mem _ (mem_own.1 hown.checked)
    · exact List.mem_cons_of_mem _ (h.recorded u p (Or.inr hmem))

theorem traced_init (w : World) : Traced ⟨w, []⟩ where
  row := by simp
  loaded := by simp
  checked := by simp
  recorded := by simp

/-! ## In flight -/

/-- The execution `t` has checked the key of the payment `j` and has not returned. -/
structure InFlight (s : State World Event) (t j : ℕ) : Prop where
  running : s.Running t
  checked : ∃ p, p.id = j ∧ (t, some (.idempotencyChecked p)) ∈ s.hist

/-- No execution is in flight for the payment `j`. -/
def Vacant (s : State World Event) (j : ℕ) : Prop := ∀ t, ¬InFlight s t j

/-- The event is a check of the key of the payment `j`. -/
def checks (j : ℕ) : Option Event → Bool
  | some (.idempotencyChecked p) => p.id = j
  | _ => false

theorem checks_iff {j : ℕ} {e : Option Event} :
    checks j e = true ↔ ∃ p, p.id = j ∧ e = some (.idempotencyChecked p) := by
  unfold checks
  split
  · simp
  · rename_i h
    constructor
    · intro h'
      cases h'
    · rintro ⟨p, -, rfl⟩
      exact absurd rfl (h p)

theorem vacant_iff {j : ℕ} :
    Vacant s j ↔ ∀ x ∈ s.hist, checks j x.2 = true → (x.1, none) ∈ s.hist := by
  constructor
  · intro h x hx hj
    obtain ⟨p, hp, he⟩ := checks_iff.1 hj
    by_contra hrun
    refine h x.1 ⟨fun hret => hrun (mem_own.1 hret), p, hp, ?_⟩
    rwa [← he]
  · rintro h u ⟨hrun, p, hp, hmem⟩
    exact hrun (mem_own.2 (h _ hmem (checks_iff.2 ⟨p, hp, rfl⟩)))

instance (s : State World Event) (j : ℕ) : Decidable (Vacant s j) := decidable_of_iff' _ vacant_iff

/-- A call is in flight after a step if it was before, or if the step is its check. -/
theorem InFlight.before {u j : ℕ} (h : InFlight (s.record t e d) u j) :
    InFlight s u j ∨ u = t ∧ ∃ p, p.id = j ∧ e = some (.idempotencyChecked p) := by
  obtain ⟨hrun, p, hp, hmem⟩ := h
  rw [State.record_hist, List.mem_cons, Prod.mk.injEq] at hmem
  rcases hmem with ⟨hu, he⟩ | hmem
  · exact Or.inr ⟨hu, p, hp, he.symm⟩
  · refine Or.inl ⟨fun hret => hrun ?_, p, hp, hmem⟩
    exact mem_own.2 (List.mem_cons_of_mem _ (mem_own.1 hret))

/-- A call that has asked the provider is in flight until it returns. -/
theorem Traced.inFlight (h : Traced s) (hrun : s.Running t) {p : Payment} {r : PaymentProviderResult}
    (hasked : (t, some (.providerReplied p r)) ∈ s.hist) : InFlight s t p.id :=
  ⟨hrun, p, rfl, h.checked t p r hasked⟩

/-! ## One execution at a time -/

/-- At most one execution is in flight for each payment. -/
def Exclusive (s : State World Event) : Prop :=
  ∀ t u j, InFlight s t j → InFlight s u j → t = u

/-- The step lemma: exclusion is kept when a check finds the payment vacant. -/
theorem Exclusive.step (h : Exclusive s)
    (hC : ∀ p, e = some (.idempotencyChecked p) → Vacant s p.id) : Exclusive (s.record t e d) := by
  intro u v j hu hv
  rcases hu.before with hu₀ | ⟨rfl, p, rfl, rfl⟩
  · rcases hv.before with hv₀ | ⟨rfl, p, rfl, rfl⟩
    · exact h u v j hu₀ hv₀
    · exact absurd hu₀ (hC p rfl u)
  · rcases hv.before with hv₀ | ⟨rfl, -⟩
    · exact absurd hv₀ (hC p rfl v)
    · rfl

end Ris.Payments
