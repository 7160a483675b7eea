import RisPlatform.Payments.Conformance

/-!
# The kill switch

While the switch is active no payment should move into `executing` or `funded`, and a payment that its
handler has failed should stay out of both. Only `initiatePayment` looks at the switch: the second
authorisation and the success transaction do not, and the success transaction does not look at the
row's status either. `SwitchRespected` is the condition that those two transactions do not check.
-/

namespace Ris.Payments

open Relational Concurrent

/-- While the switch is active, the step moves no payment into `executing` or `funded`. -/
def HaltsTransfers (s s' : State World Event) : Prop :=
  KillSwitchActive s.store → ∀ j r r', s.store.payments.get? j = some r →
    s'.store.payments.get? j = some r' →
      (r'.status = .executing → r.status = .executing) ∧ (r'.status = .funded → r.status = .funded)

/-- A payment that the handler of the kill switch has failed is not executing and not funded. -/
def StaysSuspended (s : State World Event) : Prop :=
  ∀ t ids j r, (t, some (.killSwitchActivated ids)) ∈ s.hist → j ∈ ids →
    s.store.payments.get? j = some r → r.status ≠ .executing ∧ r.status ≠ .funded

/-- The payments that the event suspends. -/
def suspendedIds : Option Event → List ℕ
  | some (.killSwitchActivated ids) => ids
  | _ => []

/-- A second authorisation commits only while the switch is off; a success commits only for a payment
that no handler has failed, and while the switch is on only for one that is funded already. -/
def SwitchRespected : Cond World Event := fun s _ e =>
  (e.secondAuthorises = true → ¬KillSwitchActive s.store) ∧
    ∀ p ∈ e.funded?,
      (KillSwitchActive s.store → ∀ r ∈ s.store.payments.rows, r.id = p.id → r.status = .funded) ∧
        ∀ x ∈ s.hist, p.id ∉ suspendedIds x.2

instance (s : State World Event) (t : ℕ) (e : Event) : Decidable (SwitchRespected s t e) := by
  unfold SwitchRespected
  infer_instance

/-- Every payment the handler has failed is still `failed`. -/
def SuspendedFailed (s : State World Event) : Prop :=
  ∀ t ids j, (t, some (.killSwitchActivated ids)) ∈ s.hist → j ∈ ids →
    ∃ r, s.store.payments.get? j = some r ∧ r.status = .failed

/-- Under the condition a failed row that a handler has suspended stays failed. -/
theorem RowStep.failed_of_respected {s : State World Event} {t u : ℕ} {e : Option Event}
    {ids : List ℕ} {r r' : Payment} (hstep : RowStep e r r')
    (hmem : (u, some (.killSwitchActivated ids)) ∈ s.hist) (hr : r.id ∈ ids)
    (hC : ∀ ev, e = some ev → SwitchRespected s t ev) (hstatus : r.status = .failed) :
    r'.status = .failed := by
  cases hstep with
  | same => exact hstatus
  | firstAuthorised userId now he h => rw [hstatus] at h; cases h
  | secondAuthorised userId now he h => rw [hstatus] at h; cases h
  | funded p result now he hid => exact absurd (hid ▸ hr) (((hC _ he).2 p rfl).2 _ hmem)
  | pending p result he hid => exact hstatus
  | failed p reason he hid => rfl
  | suspended ids reason he hids h => rfl

/-- The handler leaves `failed` every payment whose id it returns. -/
theorem Activates.failed {w w' : World} {ids : List ℕ} (h : Activates w w' ids) {j : ℕ}
    (hj : j ∈ ids) : ∃ r, w'.payments.get? j = some r ∧ r.status = .failed := by
  rw [h.suspended] at hj
  obtain ⟨r, hr, rfl⟩ := List.mem_map.1 hj
  obtain ⟨hmem, hstatus⟩ := List.mem_filter.1 hr
  refine ⟨setFailed "Suspended by payment kill switch" r, ?_, rfl⟩
  rw [h.payments, Table.get?_update_of_get? (Table.get?_of_mem hmem), if_pos hstatus]

/-- The step lemma of suspended payments. -/
theorem SuspendedFailed.step {s : State World Event} {t : ℕ} {e : Option Event} {d : World}
    (h : SuspendedFailed s) (heff : Effect s t e d)
    (hC : ∀ ev, e = some ev → SwitchRespected s t ev) : SuspendedFailed (s.record t e d) := by
  intro u ids j hmem hj
  rw [State.record_hist, List.mem_cons, Prod.mk.injEq] at hmem
  rcases hmem with ⟨-, rfl⟩ | hmem
  · cases heff with
    | killSwitchActivated h => exact h.failed hj
  · obtain ⟨r, hr, hstatus⟩ := h u ids j hmem hj
    have hid : r.id = j := Table.key_of_get? hr
    obtain ⟨r', hr', hstep⟩ := Effect.row_step heff hr
    exact ⟨r', hr', hstep.failed_of_respected hmem (hid ▸ hj) hC hstatus⟩

/-- A protocol move under the condition halts transfers. -/
theorem haltsTransfers_of_effect {s : State World Event} {t : ℕ} {e : Option Event} {d : World}
    (heff : Effect s t e d) (hC : ∀ ev, e = some ev → SwitchRespected s t ev) :
    HaltsTransfers s (s.record t e d) := by
  intro hactive j r r' hr hr'
  obtain ⟨r'', hr'', hstep⟩ := Effect.row_step heff hr
  rw [State.record_store, hr'', Option.some.injEq] at hr'
  subst hr'
  cases hstep with
  | same => exact ⟨id, id⟩
  | firstAuthorised userId now he h => exact ⟨nofun, nofun⟩
  | secondAuthorised userId now he h => exact absurd hactive ((hC _ he).1 rfl)
  | funded p result now he hid =>
    have hstatus := ((hC _ he).2 p rfl).1 hactive r (Table.mem_of_get? hr) hid.symm
    exact ⟨nofun, fun _ => hstatus⟩
  | pending p result he hid => exact ⟨id, id⟩
  | failed p reason he hid => exact ⟨nofun, nofun⟩
  | suspended ids reason he hids h => exact ⟨nofun, nofun⟩

/-- **The kill switch.** In every run whose second authorisations and successes respect the switch,
payments that it suspended stay out of `executing` and `funded`, and no step that is taken while it is
active moves a payment into either. -/
theorem kill_switch_halts (cfg : Config) (w : World) (s : Sys World Input Event RisError)
    (hs : Reaches (program cfg) SwitchRespected (Sys.init w) s) :
    StaysSuspended s.toState ∧
      ∀ s', Step (program cfg) SwitchRespected s s' → HaltsTransfers s.toState s'.toState := by
  have hsusp : SuspendedFailed s.toState :=
    Protocol.invariant (program_implements cfg) trivial (fun t ids j hmem => by cases hmem)
      (fun s t e d h hmove => h.step hmove.effect hmove.cond) hs
  constructor
  · intro t ids j r hmem hj hr
    obtain ⟨r', hr', hstatus⟩ := hsusp t ids j hmem hj
    rw [hr, Option.some.injEq] at hr'
    subst hr'
    simp [hstatus]
  · intro s' hs'
    rcases Protocol.step_move (program_implements cfg) trivial hs hs' with
      heq | ⟨t, e, d, hmove, heq⟩
    · rw [heq]
      rintro - j r r' hr hr'
      rw [hr, Option.some.injEq] at hr'
      subst hr'
      exact ⟨id, id⟩
    · rw [heq]
      exact haltsTransfers_of_effect hmove.effect hmove.cond

/-- A run that respects the switch: a payment is executing when the switch is activated. -/
def suspendExecuting : List (Act Op Input) :=
  initiateAlone 0 1 "K" ++ authoriseAlone 1 1 ++
    Act.call (.activateKillSwitch 7 "incident" {}) 3 (List.replicate 2 (quietInput 0 ""))

theorem kill_switch_halts_suspended_run :
    ∃ s : Sys World Input Event RisError, KillSwitchActive s.store ∧ StaysSuspended s.toState := by
  obtain ⟨s, hs, hactive⟩ := exists_reaches (program {}) SwitchRespected
    (Sys.init smallWorld) suspendExecuting (fun s => decide (KillSwitchActive s.store))
    (by decide +kernel)
  exact ⟨s, of_decide_eq_true hactive, (kill_switch_halts {} smallWorld s hs).1⟩

/-- Without the condition both parts fail: a second authorisation after the activation makes a payment
executing, and a reply that was in flight funds a payment that the handler had failed. -/
theorem kill_switch_ignored :
    (∃ s s' : Sys World Input Event RisError, Reaches (program {}) always (Sys.init smallWorld) s ∧
        Step (program {}) always s s' ∧ ¬HaltsTransfers s.toState s'.toState) ∧
      ∃ s : Sys World Input Event RisError, Reaches (program {}) always (Sys.init smallWorld) s ∧
        ¬StaysSuspended s.toState := by
  constructor
  · obtain ⟨s, s', hs, hs', hP⟩ := exists_step (program {}) always (Sys.init smallWorld)
      (initiateAlone 0 1 "K" ++
        Act.call (.authoriseFirstAuth 1 1 {} none) 1 (List.replicate 4 (quietInput 0 "")) ++
        Act.call (.activateKillSwitch 7 "incident" {}) 2 (List.replicate 2 (quietInput 0 "")) ++
        .start (.authoriseSecondAuth 1 2 {} none) :: List.replicate 2 (.move 3 (quietInput 0 "")))
      (.move 3 (quietInput 0 ""))
      (fun s s' => KillSwitchActive s.store ∧
        (s.store.payments.get? 1).map Payment.status = some .pendingSecondAuth ∧
        (s'.store.payments.get? 1).map Payment.status = some .executing) (by decide +kernel)
    simp only [decide_eq_true_eq, Option.map_eq_some_iff] at hP
    obtain ⟨hactive, ⟨r, hr, hstatus⟩, r', hr', hstatus'⟩ := hP
    refine ⟨s, s', hs, hs', fun h => ?_⟩
    have hexec := (h hactive 1 r r' hr hr').1 hstatus'
    rw [hstatus] at hexec
    cases hexec
  · obtain ⟨s, hs, hP⟩ := exists_reaches (program {}) always (Sys.init smallWorld)
      (initiateAlone 0 1 "K" ++ authoriseAlone 1 1 ++
        .start (.executePayment 1) ::
          List.replicate 3 (.move 3 { quietInput 0 "" with reply := transferred }) ++
        Act.call (.activateKillSwitch 7 "incident" {}) 4 (List.replicate 2 (quietInput 0 "")) ++
        [.move 3 (quietInput 0 "")])
      (fun s => (4, some (.killSwitchActivated [1])) ∈ s.hist ∧
        (s.store.payments.get? 1).map Payment.status = some .funded) (by decide +kernel)
    simp only [decide_eq_true_eq, Option.map_eq_some_iff] at hP
    obtain ⟨hmem, r, hr, hstatus⟩ := hP
    exact ⟨s, hs, fun h => (h 4 [1] 1 r hmem (by simp) hr).2 hstatus⟩

end Ris.Payments
