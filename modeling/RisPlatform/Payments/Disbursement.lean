import RisPlatform.Payments.InFlight

/-!
# One accepted instruction

The provider should be asked to transfer a payment again only while it has accepted no instruction for
it. `executePayment` looks for a funded row with the payment's key and then asks: a second execution
that passes the check before the first has recorded the reply asks too, and so does one that finds the
row still executing because the bank has yet to confirm the first instruction, or because recording the
failure failed. `AskGuarded` is what would have to be checked.
-/

namespace Ris.Payments

open Relational Concurrent

/-! ## Accepted instructions -/

/-- The event is an accepted instruction for the payment `j`: transferred, or awaiting confirmation. -/
def accepts (j : ℕ) : Option Event → Bool
  | some (.providerReplied p r) => p.id = j ∧ r.success = true
  | _ => false

theorem accepts_iff {j : ℕ} {e : Option Event} :
    accepts j e = true ↔ ∃ p r, p.id = j ∧ r.success = true ∧ e = some (.providerReplied p r) := by
  unfold accepts
  split
  · rename_i p r
    simp only [Bool.decide_and, Bool.and_eq_true, decide_eq_true_eq, Option.some.injEq,
      Event.providerReplied.injEq]
    constructor
    · rintro ⟨hp, hr⟩
      exact ⟨p, r, hp, hr, rfl, rfl⟩
    · rintro ⟨p, r, hp, hr, rfl, rfl⟩
      exact ⟨hp, hr⟩
  · rename_i h
    constructor
    · intro h'
      cases h'
    · rintro ⟨p, r, -, -, rfl⟩
      exact absurd rfl (h p r)

/-- The provider has accepted an instruction for the payment `j`. -/
def Accepted (s : State World Event) (j : ℕ) : Prop := ∃ x ∈ s.hist, accepts j x.2 = true

instance (s : State World Event) (j : ℕ) : Decidable (Accepted s j) := by
  unfold Accepted
  infer_instance

/-- The row cannot be executed any more, or bears the reference of an instruction. -/
def Blocked (r : Payment) : Prop :=
  r.transactionReference ≠ none ∨ r.status ∈ [PaymentStatus.funded, .failed, .reversed]

instance (r : Payment) : Decidable (Blocked r) := by
  unfold Blocked
  infer_instance

/-- An execution passes its check only if no other is in flight for the payment and the row is
executing without a reference; recording a failure fails only where nothing was accepted or the row is
blocked. -/
def AskGuarded : Cond World Event := fun s _ e =>
  (∀ p ∈ e.checked?, Vacant s p.id ∧ ∀ r ∈ s.store.payments.rows, r.id = p.id →
      r.status = .executing ∧ r.transactionReference = none) ∧
    ∀ p ∈ e.unrecorded?, Accepted s p.id →
      ∀ r ∈ s.store.payments.rows, r.id = p.id → Blocked r

instance (s : State World Event) (t : ℕ) (e : Event) : Decidable (AskGuarded s t e) := by
  unfold AskGuarded
  infer_instance

/-! ## Blocked rows -/

/-- A blocked row stays blocked. -/
theorem RowStep.blocked {e : Option Event} {r r' : Payment} (hstep : RowStep e r r')
    (h : Blocked r) : Blocked r' := by
  cases hstep with
  | same => exact h
  | firstAuthorised userId now he hstatus =>
    rcases h with h | h
    · exact Or.inl h
    · simp [hstatus] at h
  | secondAuthorised userId now he hstatus huser =>
    rcases h with h | h
    · exact Or.inl h
    · simp [hstatus] at h
  | funded p result now he hid => exact Or.inl (by simp [setFunded])
  | pending p result he hid => exact Or.inl (by simp [setReferences])
  | failed p reason he hid => exact Or.inr (by simp [setFailed])
  | suspended ids reason he hids hstatus => exact Or.inr (by simp [setFailed])

/-- The row of the payment `j` is blocked. -/
def BlockedRow (s : State World Event) (j : ℕ) : Prop :=
  ∃ r, s.store.payments.get? j = some r ∧ Blocked r

variable {s : State World Event} {t : ℕ} {e : Option Event} {d : World}

theorem BlockedRow.step {j : ℕ} (h : BlockedRow s j) (heff : Effect s t e d) :
    BlockedRow (s.record t e d) j := by
  obtain ⟨r, hr, hblocked⟩ := h
  obtain ⟨r', hr', hstep⟩ := Effect.row_step heff hr
  exact ⟨r', hr', hstep.blocked hblocked⟩

/-- Recorded in one more event: recorded before, or by this event. -/
theorem recorded_cons {p : Payment} {h : List (Option Event)} (hrec : Recorded p (e :: h)) :
    Recorded p h ∨ e = some (.paymentFunded p) ∨ e = some (.confirmationPending p) ∨
      e = some (.paymentFailed p) ∨ e = some (.failureUnrecorded p) := by
  simp only [Recorded, List.mem_cons] at hrec ⊢
  tauto

/-- Recording what became of an accepted instruction blocks the row. -/
theorem blockedRow_of_recording (htraced : Traced s) (heff : Effect s t e d)
    (hC : ∀ ev, e = some ev → AskGuarded s t ev) {p : Payment} {r : PaymentProviderResult}
    (hasked : (t, some (.providerReplied p r)) ∈ s.hist) (hr : r.success = true)
    (he : e = some (.paymentFunded p) ∨ e = some (.confirmationPending p) ∨
      e = some (.paymentFailed p) ∨ e = some (.failureUnrecorded p)) :
    BlockedRow (s.record t e d) p.id := by
  rcases he with rfl | rfl | rfl | rfl
  · cases heff with
    | paymentFunded hown hsuccess hpending hinvoice h =>
      exact ⟨_, h.row.after, Or.inl (by simp [setFunded])⟩
  · cases heff with
    | confirmationPending hown hsuccess hpending h =>
      exact ⟨_, h.row.after, Or.inl (by simp [setReferences])⟩
  · cases heff with
    | paymentFailed hown h => exact ⟨_, h.row.after, Or.inr (by simp [setFailed])⟩
  · have hloaded := htraced.loaded t p (htraced.checked t p r hasked)
    obtain ⟨row, hrow, -⟩ := htraced.row t p hloaded
    have hblocked : BlockedRow s p.id :=
      ⟨row, hrow, (hC _ rfl).2 p rfl ⟨_, hasked, accepts_iff.2 ⟨p, r, rfl, hr, rfl⟩⟩ row
        (Table.mem_of_get? hrow) (Table.key_of_get? hrow)⟩
    exact hblocked.step heff

/-! ## The invariant -/

/-- Where each payment's instructions stand: an execution that has yet to ask finds nothing accepted,
and what was accepted has blocked the row or is still in the hands of a running execution. -/
structure AskedOnce (s : State World Event) : Prop where
  traced : Traced s
  exclusive : Exclusive s
  unasked : ∀ t j, InFlight s t j → (∀ p r, (t, some (.providerReplied p r)) ∉ s.hist) →
    ¬Accepted s j
  recorded : ∀ t p r, (t, some (.providerReplied p r)) ∈ s.hist → r.success = true →
    Recorded p (own t s.hist) → BlockedRow s p.id
  settled : ∀ t p r, (t, some (.providerReplied p r)) ∈ s.hist → r.success = true →
    BlockedRow s p.id ∨ s.Running t

theorem askedOnce_init (w : World) : AskedOnce ⟨w, []⟩ where
  traced := traced_init w
  exclusive := by
    rintro t u j ⟨-, p, -, hmem⟩
    cases hmem
  unasked := by
    rintro t j ⟨-, p, -, hmem⟩
    cases hmem
  recorded := by simp
  settled := by simp

/-- A check that is guarded finds nothing accepted. -/
theorem AskedOnce.not_accepted_of_guarded (h : AskedOnce s) {p : Payment}
    (hC : AskGuarded s t (.idempotencyChecked p)) : ¬Accepted s p.id := by
  rintro ⟨⟨u, ev⟩, hmem, haccepts⟩
  obtain ⟨q, r, hq, hr, rfl⟩ := accepts_iff.1 haccepts
  rcases h.settled u q r hmem hr with ⟨row, hrow, hblocked⟩ | hrun
  · rw [hq] at hrow
    obtain ⟨hstatus, href⟩ := (hC.1 p rfl).2 row (Table.mem_of_get? hrow) (Table.key_of_get? hrow)
    rcases hblocked with hblocked | hblocked
    · exact hblocked href
    · simp [hstatus] at hblocked
  · exact (hC.1 p rfl).1 u (hq ▸ h.traced.inFlight hrun hmem)

/-- An execution asks only while nothing is accepted. -/
theorem AskedOnce.not_accepted_of_asking (h : AskedOnce s) {p : Payment} (hrun : s.Running t)
    (hown : own t s.hist = readyToAsk p) : ¬Accepted s p.id := by
  refine h.unasked t p.id ⟨hrun, p, rfl, mem_own.1 (by rw [hown]; simp [readyToAsk])⟩ ?_
  intro q r hmem
  have hmem := mem_own.2 hmem
  rw [hown] at hmem
  simp [readyToAsk] at hmem

/-- The step lemma. -/
theorem AskedOnce.step (h : AskedOnce s) (hmove : protocol.Moves AskGuarded s t e d) :
    AskedOnce (s.record t e d) where
  traced := h.traced.step hmove.effect
  exclusive := h.exclusive.step fun p he => ((hmove.cond _ he).1 p rfl).1
  unasked := by
    rintro u j hu hunasked ⟨x, hmem, haccepts⟩
    have hunasked₀ : ∀ p r, (u, some (Event.providerReplied p r)) ∉ s.hist :=
      fun p r hasked => hunasked p r (List.mem_cons_of_mem _ hasked)
    rcases hu.before with hu₀ | ⟨rfl, p, rfl, rfl⟩
    · rcases List.mem_cons.1 hmem with rfl | hmem
      · -- the new instruction is of the one execution in flight, and that has asked now
        obtain ⟨q, r, rfl, -, rfl⟩ := accepts_iff.1 haccepts
        have hinflight : InFlight s t q.id := by
          refine ⟨hmove.running, q, rfl, ?_⟩
          cases hmove.effect with
          | providerReplied _ hown => exact mem_own.1 (by rw [hown]; simp [readyToAsk])
        obtain rfl := h.exclusive t u q.id hinflight hu₀
        exact hunasked q r (by simp)
      · exact h.unasked u j hu₀ hunasked₀ ⟨x, hmem, haccepts⟩
    · rcases List.mem_cons.1 hmem with rfl | hmem
      · cases haccepts
      · exact h.not_accepted_of_guarded (hmove.cond _ rfl) ⟨x, hmem, haccepts⟩
  recorded := by
    intro u p r hmem hr hrec
    by_cases hu : u = t
    · subst hu
      rw [State.record_hist, own_cons_self] at hrec
      rcases List.mem_cons.1 hmem with heq | hmem
      · -- an execution that is about to ask has recorded nothing
        obtain ⟨-, rfl⟩ := Prod.mk.injEq .. ▸ heq
        cases hmove.effect with
        | providerReplied _ hown =>
          rw [hown] at hrec
          simp [Recorded, readyToAsk] at hrec
      · rcases recorded_cons hrec with hrec | he
        · exact (h.recorded u p r hmem hr hrec).step hmove.effect
        · exact blockedRow_of_recording h.traced hmove.effect hmove.cond hmem hr he
    · rw [State.record_hist, own_cons_of_ne (Ne.symm hu)] at hrec
      rcases List.mem_cons.1 hmem with heq | hmem
      · exact absurd (Prod.mk.inj heq).1 hu
      · exact (h.recorded u p r hmem hr hrec).step hmove.effect
  settled := by
    intro u p r hmem hr
    by_cases he : u = t ∧ e = none
    · obtain ⟨rfl, rfl⟩ := he
      cases hmove.effect with
      | returned hsettled =>
        rcases List.mem_cons.1 hmem with heq | hmem
        · cases heq
        · have hrec := hsettled p r (mem_own.2 hmem) hr
          exact Or.inl ((h.recorded u p r hmem hr hrec).step (.returned hsettled))
    · have hrun (hrun : s.Running u) : (s.record t e d).Running u := by
        intro hret
        rcases List.mem_cons.1 (mem_own.1 hret) with heq | hret
        · exact he ⟨(Prod.mk.inj heq).1, (Prod.mk.inj heq).2.symm⟩
        · exact hrun (mem_own.2 hret)
      rcases List.mem_cons.1 hmem with heq | hmem
      · obtain ⟨rfl, -⟩ := Prod.mk.inj heq
        exact Or.inr (hrun hmove.running)
      · exact (h.settled u p r hmem hr).imp (fun hblocked => hblocked.step hmove.effect) hrun

/-! ## Runs -/

theorem askedOnce_of_reaches {cfg : Config} {w : World} {s : Sys World Input Event RisError}
    (hs : Reaches (program cfg) AskGuarded (Sys.init w) s) : AskedOnce s.toState :=
  Protocol.invariant (P := AskedOnce) (program_implements cfg) trivial (askedOnce_init w)
    (fun _ _ _ _ h hmove => h.step hmove) hs

/-- In a run whose steps are guarded, the provider is asked only while nothing is accepted. -/
theorem not_accepted_of_ask {cfg : Config} {w : World} {s s' : Sys World Input Event RisError}
    (hs : Reaches (program cfg) AskGuarded (Sys.init w) s) (hstep : Step (program cfg) AskGuarded s s')
    {t : ℕ} {p : Payment} {r : PaymentProviderResult}
    (he : s'.hist = (t, some (.providerReplied p r)) :: s.hist) : ¬Accepted s.toState p.id := by
  rcases Protocol.step_move (program_implements cfg) trivial hs hstep with
    heq | ⟨u, e, d, ⟨-, hrun, heff, -⟩, heq⟩
  · rw [heq] at he
    simp at he
  · rw [heq, State.record_hist, List.cons.injEq, Prod.mk.injEq] at he
    obtain ⟨⟨rfl, rfl⟩, -⟩ := he
    cases heff with
    | providerReplied _ hown => exact (askedOnce_of_reaches hs).not_accepted_of_asking hrun hown

/-- One more accepted instruction, when there was none. -/
theorem length_accepts_cons {h : List (ℕ × Option Event)} {x : ℕ × Option Event} {j : ℕ}
    (hx : accepts j x.2 = true → ∀ y ∈ h, accepts j y.2 ≠ true)
    (hle : (h.filter fun x => accepts j x.2).length ≤ 1) :
    ((x :: h).filter fun x => accepts j x.2).length ≤ 1 := by
  by_cases haccepts : accepts j x.2 = true
  · have hnone : (h.filter fun x => accepts j x.2) = [] := List.filter_eq_nil_iff.2 (hx haccepts)
    simp [haccepts, hnone]
  · simpa [List.filter_cons, haccepts] using hle

/-- **One accepted instruction.** In every run whose steps are guarded, the provider is asked to
transfer a payment only if it has accepted no instruction for it, and so it accepts at most one. -/
theorem provider_asked_once (cfg : Config) (w : World) (s : Sys World Input Event RisError)
    (hs : Reaches (program cfg) AskGuarded (Sys.init w) s) :
    (∀ s' t p r, Step (program cfg) AskGuarded s s' →
        s'.hist = (t, some (.providerReplied p r)) :: s.hist → ¬Accepted s.toState p.id) ∧
      ∀ j, (s.hist.filter fun x => accepts j x.2).length ≤ 1 := by
  refine ⟨fun s' t p r hstep he => not_accepted_of_ask hs hstep he, fun j => ?_⟩
  induction hs with
  | refl => simp [Sys.init]
  | tail hrun hstep ih =>
    obtain ⟨a, ha, -⟩ := id hstep
    rcases step_hist ha with heq | ⟨⟨t, e⟩, heq⟩
    · rwa [heq]
    · rw [heq]
      refine length_accepts_cons ?_ ih
      intro haccepts y hy hyaccepts
      obtain ⟨p, r, rfl, hr, rfl⟩ := accepts_iff.1 haccepts
      exact not_accepted_of_ask hrun hstep heq ⟨y, hy, hyaccepts⟩

/-- What `BankEftProvider.execute` answers: the instruction is generated, and the bank confirms later. -/
def BankEftProvider.execute (idempotencyKey : String) : PaymentProviderResult where
  success := true
  transactionReference := idempotencyKey
  providerReference := "EFT-" ++ String.ofList (idempotencyKey.toList.take 8)
  pendingConfirmation := true

/-- One execution, up to the record of the bank's pending reply, and its return. -/
def executePending (t paymentId : ℕ) (key : String) : List (Act Op Input) :=
  Act.call (.executePayment paymentId) t
    (List.replicate 5 { quietInput 0 "" with reply := BankEftProvider.execute key })

/-- A guarded run with one instruction. -/
theorem provider_asked_once_of_eft :
    ∃ s : Sys World Input Event RisError, Accepted s.toState 1 ∧
      (s.hist.filter fun x => accepts 1 x.2).length ≤ 1 := by
  obtain ⟨s, hs, hP⟩ := exists_reaches (program {}) AskGuarded (Sys.init smallWorld)
    (initiateAlone 0 1 "K" ++ authoriseAlone 1 1 ++ executePending 3 1 "K")
    (fun s => Accepted s.toState 1) (by decide +kernel)
  exact ⟨s, of_decide_eq_true hP, (provider_asked_once {} smallWorld s hs).2 1⟩

/-- A retry while the bank's confirmation is pending is accepted as a second instruction. -/
theorem provider_asked_twice :
    ∃ s : Sys World Input Event RisError, Reaches (program {}) always (Sys.init smallWorld) s ∧
      (s.hist.filter fun x => accepts 1 x.2).length = 2 := by
  obtain ⟨s, hs, hP⟩ := exists_reaches (program {}) always (Sys.init smallWorld)
    (initiateAlone 0 1 "K" ++ authoriseAlone 1 1 ++ executePending 3 1 "K" ++ executePending 4 1 "K")
    (fun s => (s.hist.filter fun x => accepts 1 x.2).length = 2) (by decide +kernel)
  exact ⟨s, hs, of_decide_eq_true hP⟩

end Ris.Payments
