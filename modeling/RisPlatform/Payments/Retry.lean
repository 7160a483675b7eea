import RisPlatform.Alone
import RisPlatform.Payments.Resumption

/-!
# A second `initiatePayment`

The call looks for an existing payment of the invoice only after it has checked the switch, the invoice
and the facility. A call that creates the payment moves the invoice out of `approved`, so a retry fails at
the first of these checks and never gets to the payment that it should return. `repeats_iff` says in which
states a retry is harmless: those in which every check still passes.
-/

namespace Ris.Payments

open Relational Concurrent

/-! ## The checks -/

/-- The threshold that `getMinCoverageRatio` uses. -/
def minCoverageRatio : Option ℚ → ℚ
  | some ratio => if ratio < 0 then Collateral.coverageRatioFallback else ratio
  | none => Collateral.coverageRatioFallback

/-- Every check of `initiatePayment` passes. -/
structure Eligible (cfg : Config) (coverage : Option ℚ) (invoiceId : ℕ) (w : World) : Prop where
  running : ¬KillSwitchActive w
  approved : ∃ found ∈ getInvoiceForPayment invoiceId w, found.1.status = .approved ∧
    (cfg.amlFlagThreshold ≤ found.1.faceValue → found.1.amlFlagged = true → found.1.amlClearedAt ≠ none) ∧
    ∃ amount ∈ found.1.advanceAmount, amount ≠ 0 ∧
      minCoverageRatio coverage ≤
        Collateral.coverageRatio (Collateral.getTotalCollateralValueForInvoice invoiceId w) amount ∧
      ∃ facility ∈ (Facilities.getActiveFacilities w).head?, amount ≤ facility.availableAmount

section Checks

variable {i : Input} {w w' : World}

theorem outcome_checkKillSwitch_ok {u : Unit} :
    checkKillSwitch.outcome i w = (.ok u, w') ↔ i.fault = none ∧ ¬KillSwitchActive w ∧ w = w' := by
  simp only [checkKillSwitch, Proc.outcome_bind_ok, outcome_query_ok, KillSwitchActive]
  constructor
  · rintro ⟨value, w₁, ⟨hfault, rfl, rfl⟩, h⟩
    split at h
    · simp at h
    · rename_i hoff
      obtain ⟨-, rfl⟩ := Proc.outcome_pure_ok.1 h
      exact ⟨hfault, hoff, rfl⟩
  · rintro ⟨hfault, hoff, rfl⟩
    refine ⟨_, w, ⟨hfault, rfl, rfl⟩, ?_⟩
    rw [if_neg hoff]
    exact Proc.outcome_pure_ok.2 ⟨rfl, rfl⟩

theorem outcome_getMinCoverageRatio_ok {ratio : ℚ} :
    Collateral.getMinCoverageRatio.outcome i w = (.ok ratio, w') ↔
      (i.fault = none ∨ ∃ r ∈ i.coverageRatio, 0 ≤ r) ∧ minCoverageRatio i.coverageRatio = ratio ∧
        w = w' := by
  simp only [Collateral.getMinCoverageRatio, Proc.outcome_bind_ok, Proc.outcome_transaction_ok, Txn.bind_ok,
    Txn.input_ok, Txn.pure_ok]
  constructor
  · rintro ⟨value, w₁, ⟨_, _, ⟨rfl, rfl⟩, rfl, rfl⟩, h⟩
    cases hc : i.coverageRatio with
    | none =>
      simp only [hc, Proc.outcome_bind_ok, outcome_log_ok, Proc.outcome_pure_ok] at h
      obtain ⟨_, _, ⟨hfault, rfl⟩, rfl, rfl⟩ := h
      exact ⟨Or.inl hfault, rfl, rfl⟩
    | some r =>
      simp only [hc] at h
      split at h
      · rename_i hneg
        simp only [Proc.outcome_bind_ok, outcome_log_ok, Proc.outcome_pure_ok] at h
        obtain ⟨_, _, ⟨hfault, rfl⟩, rfl, rfl⟩ := h
        exact ⟨Or.inl hfault, if_pos hneg, rfl⟩
      · rename_i hneg
        obtain ⟨rfl, rfl⟩ := Proc.outcome_pure_ok.1 h
        exact ⟨Or.inr ⟨r, rfl, not_lt.1 hneg⟩, if_neg hneg, rfl⟩
  · rintro ⟨hread, rfl, rfl⟩
    refine ⟨i.coverageRatio, w, ⟨i, w, ⟨rfl, rfl⟩, rfl, rfl⟩, ?_⟩
    cases hc : i.coverageRatio with
    | none =>
      have hfault : i.fault = none := by simpa [hc] using hread
      simp [hfault, minCoverageRatio, Proc.outcome_bind_ok]
    | some r =>
      by_cases hneg : r < 0
      · have hfault : i.fault = none := by simpa [hc, not_le.2 hneg] using hread
        simp [hneg, hfault, minCoverageRatio, Proc.outcome_bind_ok]
      · simp [hneg, minCoverageRatio]

theorem guardCoverage_ok {c : Collateral.CoverageCheckResult} {u : Unit} :
    guardCoverage c = .ok u ↔ c.sufficient = true := by
  unfold guardCoverage
  split <;> simp_all [throw, throwThe, MonadExceptOf.throw, pure, Except.pure]

theorem guardInvoiceApproved_ok_iff {invoice : Invoice} {u : Unit} :
    guardInvoiceApproved invoice = .ok u ↔ invoice.status = .approved := by
  refine ⟨guardInvoiceApproved_ok, fun h => ?_⟩
  simp [guardInvoiceApproved, h, pure, Except.pure]

theorem guardAmlCleared_ok_iff {cfg : Config} {invoice : Invoice} {u : Unit} :
    guardAmlCleared cfg invoice = .ok u ↔
      (cfg.amlFlagThreshold ≤ invoice.faceValue → invoice.amlFlagged = true →
        invoice.amlClearedAt ≠ none) := by
  unfold guardAmlCleared
  dsimp only
  split <;> simp_all [throw, throwThe, MonadExceptOf.throw, pure, Except.pure]

/-- What `checkCoverageRatio` computes. -/
def coverageFor (coverage : Option ℚ) (invoiceId : ℕ) (amount : ℤ) (w : World) :
    Collateral.CoverageCheckResult :=
  let total := Collateral.getTotalCollateralValueForInvoice invoiceId w
  if amount = 0 then { totalCollateral := total, faceValue := amount, ratio := 0, sufficient := false }
  else
    let ratio := Collateral.coverageRatio total amount
    { totalCollateral := total, faceValue := amount, ratio, sufficient := minCoverageRatio coverage ≤ ratio }

variable (hi : i.fault = none)

include hi

theorem outcome_checkCoverageRatio_ok {invoiceId : ℕ} {amount : ℤ} {c : Collateral.CoverageCheckResult} :
    (Collateral.checkCoverageRatio invoiceId amount).outcome i w = (.ok c, w') ↔
      coverageFor i.coverageRatio invoiceId amount w = c ∧ w = w' := by
  simp only [Collateral.checkCoverageRatio, coverageFor, Proc.outcome_bind_ok, outcome_query_ok]
  by_cases hzero : amount = 0
  · simp [hi, hzero]
  · simp only [if_neg hzero, Proc.outcome_bind_ok, outcome_getMinCoverageRatio_ok, Proc.outcome_pure_ok]
    constructor
    · rintro ⟨_, _, ⟨-, rfl, rfl⟩, _, _, ⟨-, rfl, rfl⟩, rfl, rfl⟩
      exact ⟨rfl, rfl⟩
    · rintro ⟨rfl, rfl⟩
      exact ⟨_, w, ⟨hi, rfl, rfl⟩, _, w, ⟨Or.inl hi, rfl, rfl⟩, rfl, rfl⟩

theorem outcome_guardCollateralSufficient_ok {invoiceId : ℕ} {advance : Option ℤ} {u : Unit} :
    (guardCollateralSufficient invoiceId advance).outcome i w = (.ok u, w') ↔
      (∃ amount ∈ advance, amount ≠ 0 ∧ minCoverageRatio i.coverageRatio ≤
        Collateral.coverageRatio (Collateral.getTotalCollateralValueForInvoice invoiceId w) amount) ∧
      w = w' := by
  simp only [guardCollateralSufficient, Proc.outcome_bind_ok, Proc.outcome_lift_ok,
    outcome_checkCoverageRatio_ok hi, guardCoverage_ok]
  cases advance with
  | none => simp [toBigInt, throw, throwThe, MonadExceptOf.throw]
  | some amount =>
    by_cases hzero : amount = 0
    · simp [toBigInt, pure, Except.pure, coverageFor, hzero]
    · simp [toBigInt, pure, Except.pure, coverageFor, hzero]

theorem outcome_validateInvoiceForPayment_ok {cfg : Config} {invoiceId : ℕ} {found : Invoice × String} :
    (validateInvoiceForPayment cfg invoiceId).outcome i w = (.ok found, w') ↔
      (getInvoiceForPayment invoiceId w = some found ∧ found.1.status = .approved ∧
        (cfg.amlFlagThreshold ≤ found.1.faceValue → found.1.amlFlagged = true →
          found.1.amlClearedAt ≠ none) ∧
        ∃ amount ∈ found.1.advanceAmount, amount ≠ 0 ∧ minCoverageRatio i.coverageRatio ≤
          Collateral.coverageRatio (Collateral.getTotalCollateralValueForInvoice invoiceId w) amount) ∧
      w = w' := by
  simp only [validateInvoiceForPayment, Proc.outcome_bind_ok, outcome_query_ok]
  constructor
  · rintro ⟨_, _, ⟨-, rfl, rfl⟩, h⟩
    cases hfound : getInvoiceForPayment invoiceId w with
    | none => simp [hfound] at h
    | some x =>
      simp only [hfound, Proc.outcome_bind_ok, Proc.outcome_lift_ok, guardInvoiceApproved_ok_iff,
        guardAmlCleared_ok_iff, outcome_guardCollateralSufficient_ok hi, Proc.outcome_pure_ok] at h
      obtain ⟨_, _, ⟨happroved, rfl⟩, _, _, ⟨haml, rfl⟩, _, _, ⟨hcovered, rfl⟩, rfl, rfl⟩ := h
      exact ⟨⟨rfl, happroved, haml, hcovered⟩, rfl⟩
  · rintro ⟨⟨hfound, happroved, haml, hcovered⟩, rfl⟩
    refine ⟨some found, w, ⟨hi, hfound, rfl⟩, ?_⟩
    simp only [Proc.outcome_bind_ok, Proc.outcome_lift_ok, guardInvoiceApproved_ok_iff,
      guardAmlCleared_ok_iff, outcome_guardCollateralSufficient_ok hi, Proc.outcome_pure_ok]
    exact ⟨(), w, ⟨happroved, rfl⟩, (), w, ⟨haml, rfl⟩, (), w, ⟨hcovered, rfl⟩, trivial, rfl⟩

theorem outcome_checkFacilityAvailability_ok {amount : Option ℤ} {u : Unit} :
    (checkFacilityAvailability amount).outcome i w = (.ok u, w') ↔
      (∃ required ∈ amount, ∃ facility ∈ (Facilities.getActiveFacilities w).head?,
        required ≤ facility.availableAmount) ∧ w = w' := by
  simp only [checkFacilityAvailability, Proc.outcome_bind_ok, outcome_query_ok, Proc.outcome_lift_ok]
  constructor
  · rintro ⟨_, _, ⟨-, rfl, rfl⟩, h, rfl⟩
    obtain ⟨required, facility, rest, hamount, hfacilities, havailable⟩ := guardFacilityAvailable_ok h
    exact ⟨⟨required, hamount, facility, by rw [hfacilities]; rfl, havailable⟩, rfl⟩
  · rintro ⟨⟨required, hamount, facility, hfacility, havailable⟩, rfl⟩
    refine ⟨_, w, ⟨hi, rfl, rfl⟩, ?_, rfl⟩
    obtain ⟨rest, hrest⟩ := List.head?_eq_some_iff.1 hfacility
    rw [hrest, Option.mem_def.1 hamount]
    exact if_neg (not_lt.2 havailable)

/-- In a state in which the invoice has a payment, the call returns it and leaves the store alone, or
fails. -/
theorem outcome_initiatePayment_ok {cfg : Config} {invoiceId : ℕ} {p : Payment}
    (hp : getPaymentByInvoiceId invoiceId w = some p) :
    (initiatePayment cfg invoiceId).outcome i w = (.ok p, w) ↔
      Eligible cfg i.coverageRatio invoiceId w := by
  simp only [initiatePayment, Proc.outcome_bind_ok, outcome_checkKillSwitch_ok,
    outcome_validateInvoiceForPayment_ok hi, outcome_checkFacilityAvailability_ok hi, outcome_query_ok]
  constructor
  · rintro ⟨_, _, ⟨-, hoff, rfl⟩, found, _, ⟨⟨hfound, happroved, haml, amount, hamount, hzero, hcovered⟩, rfl⟩,
      _, _, ⟨⟨required, hrequired, hfacility⟩, rfl⟩, -⟩
    obtain rfl := Option.mem_unique hamount hrequired
    exact ⟨hoff, found, hfound, happroved, haml, amount, hamount, hzero, hcovered, hfacility⟩
  · rintro ⟨hoff, found, hfound, happroved, haml, amount, hamount, hzero, hcovered, hfacility⟩
    refine ⟨(), w, ⟨hi, hoff, rfl⟩, found, w,
      ⟨⟨hfound, happroved, haml, amount, hamount, hzero, hcovered⟩, rfl⟩, ?_⟩
    refine ⟨(), w, ⟨⟨amount, hamount, hfacility⟩, rfl⟩, _, w, ⟨hi, hp, rfl⟩, ?_⟩
    exact Proc.outcome_pure_ok.2 ⟨rfl, rfl⟩

end Checks

/-! ## Runs -/

section Runs

variable {cfg : Config} {w : World} {invoiceId t : ℕ} {s s' : Sys World Input Event RisError}

theorem hasPayment_of_succeeded
    (hs : Protocol.Succeeded (program cfg) always w (.initiatePayment invoiceId) t s) :
    HasPayment invoiceId s.toState := by
  refine Protocol.of_succeeded (program_implements cfg) trivial (steady_hasPayment invoiceId) ?_ hs
  have hcall : protocol.Triple t (fun x => own t x.hist = []) (initiatePayment cfg invoiceId)
      (fun _ => HasPayment invoiceId) fun _ _ => True := by
    refine (triple_initiatePayment cfg invoiceId).conseq ?_ (fun _ _ _ h => h.1) fun _ _ _ _ => trivial
    intro x _ hx q r
    simp [hx]
  exact hcall.discard

/-- The payment of the invoice. -/
theorem exists_getPaymentByInvoiceId {x : State World Event} (h : HasPayment invoiceId x) :
    ∃ p, getPaymentByInvoiceId invoiceId x.store = some p ∧ x.store.payments.get? p.id = some p ∧
      p.invoiceId = invoiceId := by
  obtain ⟨r, hr, hinvoice⟩ := h
  have hsome : (x.store.payments.rows.find? fun r => r.invoiceId = invoiceId).isSome = true :=
    List.find?_isSome.2 ⟨r, hr, decide_eq_true hinvoice⟩
  obtain ⟨p, hp⟩ := Option.isSome_iff_exists.1 hsome
  exact ⟨p, hp, Table.get?_of_mem (List.mem_of_find?_eq_some hp), by simpa using List.find?_some hp⟩

/-- **A retry.** After a call that has succeeded, and whatever is done since, the same call returns the
same payment and leaves the store alone if and only if every one of its checks still passes. -/
theorem repeats_iff (hw : OnePerInvoice w)
    (hs : Protocol.Succeeded (program cfg) always w (.initiatePayment invoiceId) t s)
    (hs' : Reaches (program cfg) always s s') (i : Input) (hi : i.fault = none) :
    ∃ p p', s.store.payments.get? p.id = some p ∧ p.invoiceId = invoiceId ∧
      s'.store.payments.get? p.id = some p' ∧
      ((initiatePayment cfg invoiceId).outcome i s'.store = (.ok p', s'.store) ↔
        Eligible cfg i.coverageRatio invoiceId s'.store) := by
  have hpaid := hasPayment_of_succeeded hs
  obtain ⟨p, -, hp, hinvoice⟩ := exists_getPaymentByInvoiceId hpaid
  -- the payment of the invoice stays one row
  have hrun := Protocol.persists (program_implements cfg) trivial
    (P := fun x => OnePerInvoice x.store ∧ ∃ p', x.store.payments.get? p.id = some p' ∧
      p'.invoiceId = invoiceId)
    ?_ hs.reaches ⟨?_, p, hp, hinvoice⟩ hs'
  · obtain ⟨hone, p', hp', hinvoice'⟩ := hrun
    obtain ⟨q, hq, hqrow, hqinvoice⟩ :=
      exists_getPaymentByInvoiceId ⟨p', Table.mem_of_get? hp', hinvoice'⟩
    have hid : q.id = p'.id := hone q (Table.mem_of_get? hqrow) p' (Table.mem_of_get? hp')
      (hqinvoice.trans hinvoice'.symm)
    rw [hid, Table.key_of_get? hp', hp', Option.some.injEq] at hqrow
    subst hqrow
    exact ⟨p, p', hp, hinvoice, hp', outcome_initiatePayment_ok hi hq⟩
  · rintro x u e d ⟨hone, p', hp', hinvoice'⟩ hmove
    obtain ⟨p'', hp'', hstep⟩ := hmove.effect.row_step hp'
    exact ⟨onePerInvoice_step hone hmove.effect, p'', hp'', hstep.sameOrder.invoiceId.trans hinvoice'⟩
  · exact Protocol.invariant (P := fun x => OnePerInvoice x.store) (program_implements cfg) trivial hw
      (fun _ _ _ _ hx hmove => onePerInvoice_step hx hmove.effect) hs.reaches

/-- An invoice that has a payment is there, and not approved. -/
def LeftApproved (invoiceId : ℕ) (x : State World Event) : Prop :=
  HasPayment invoiceId x → ∃ invoice, x.store.invoices.get? invoiceId = some invoice ∧
    invoice.status ≠ .approved

theorem leftApproved_step {x : State World Event} {u : ℕ} {e : Option Event} {d : World}
    (h : LeftApproved invoiceId x) (heff : Effect x u e d) : LeftApproved invoiceId (x.record u e d) := by
  rintro ⟨r', hr', rfl⟩
  rcases heff.row_origin (Table.get?_of_mem hr') with ⟨rfl, -⟩ | ⟨r, hr, hstep⟩
  · cases heff with
    | @paymentCreated _ _ current now _ _ _ hcreates hcurrent happroved =>
      have hid : current.id = r'.invoiceId := Table.key_of_get? hcurrent
      refine ⟨setInvoiceStatus .pendingFirstAuth now current, ?_, nofun⟩
      rw [State.record_store, hcreates.invoices, Table.get?_update_of_get? hcurrent,
        if_pos (decide_eq_true ⟨hid, happroved⟩)]
  · obtain ⟨invoice, hinvoice, hleft⟩ := h ⟨r, Table.mem_of_get? hr, hstep.sameOrder.invoiceId.symm⟩
    obtain ⟨invoice', hinvoice', hstep'⟩ := heff.invoice_step hinvoice
    refine ⟨invoice', hinvoice', ?_⟩
    cases hstep' with
    | same => exact hleft
    | initiated p now he hid hstatus => exact nofun
    | funded p now he hid hstatus => exact nofun

/-- Where the invoice had no payment at the beginning, no retry is harmless. -/
theorem initiated_not_eligible (hw : ∀ r ∈ w.payments.rows, r.invoiceId ≠ invoiceId)
    (hs : Protocol.Succeeded (program cfg) always w (.initiatePayment invoiceId) t s)
    (hs' : Reaches (program cfg) always s s') (coverage : Option ℚ) :
    ¬Eligible cfg coverage invoiceId s'.store := by
  have hpaid : HasPayment invoiceId s'.toState :=
    Protocol.persists (program_implements cfg) trivial
      (fun x u e d hx hmove => steady_hasPayment invoiceId x u e d trivial hx hmove.effect) hs.reaches
      (hasPayment_of_succeeded hs) hs'
  have hleft : LeftApproved invoiceId s'.toState := by
    refine Protocol.invariant (P := LeftApproved invoiceId) (program_implements cfg) trivial ?_
      (fun _ _ _ _ hx hmove => leftApproved_step hx hmove.effect) (hs.reaches.trans hs')
    rintro ⟨r, hr, hinvoice⟩
    exact absurd hinvoice (hw r hr)
  rintro ⟨-, found, hfound, happroved, -⟩
  obtain ⟨invoice, hinvoice, hnot⟩ := hleft hpaid
  obtain rfl := Option.some.inj (hinvoice.symm.trans (getInvoiceForPayment_eq_some hfound))
  exact hnot happroved

end Runs

/-! ## A retried job -/

/-- The call is at its end with a value. -/
def endedOk (t : ℕ) (s : Sys World Input Event RisError) : Bool :=
  match s.calls[t]? with
  | some (some (.done (.ok ()))) => true
  | _ => false

theorem of_endedOk {t : ℕ} {s : Sys World Input Event RisError} (h : endedOk t s = true) :
    s.calls[t]? = some (some (.done (.ok ()))) := by
  unfold endedOk at h
  split at h
  · assumption
  · cases h

/-- `initiatePayment` of invoice 1 has been called. -/
def started : Sys World Input Event RisError :=
  { store := smallWorld, hist := [], calls := [some (program {} (.initiatePayment 1))] }

theorem exists_initiated :
    ∃ s : Sys World Input Event RisError,
      Protocol.Succeeded (program {}) always smallWorld (.initiatePayment 1) 0 s ∧
      s.store.payments.rows.map Payment.id = [1] ∧
      ((initiatePayment {} 1).outcome (quietInput 2 "L") s.store).1 =
        .error (PaymentErrorCode.invoiceWrongStatus.error
          "Invoice status is 'pending_first_auth', expected 'approved'") := by
  obtain ⟨s, hs, hP⟩ := exists_reaches (program {}) always started
    (List.replicate 9 (.move 0 (quietInput 1 "K")))
    (fun s => endedOk 0 s = true ∧ s.store.payments.rows.map Payment.id = [1] ∧
      ((initiatePayment {} 1).outcome (quietInput 2 "L") s.store).1 =
        .error (PaymentErrorCode.invoiceWrongStatus.error
          "Invoice status is 'pending_first_auth', expected 'approved'"))
    (by decide +kernel)
  obtain ⟨hend, hids, herror⟩ := of_decide_eq_true hP
  exact ⟨s, ⟨Sys.init smallWorld, Relation.ReflTransGen.refl, rfl, hs, of_endedOk hend⟩, hids, herror⟩

/-- A call creates the payment of invoice 1 and succeeds; a second one says that the invoice is not
approved. -/
theorem retry_fails :
    ∃ s : Sys World Input Event RisError,
      Protocol.Succeeded (program {}) always smallWorld (.initiatePayment 1) 0 s ∧
      ((initiatePayment {} 1).outcome (quietInput 2 "L") s.store).1 =
        .error (PaymentErrorCode.invoiceWrongStatus.error
          "Invoice status is 'pending_first_auth', expected 'approved'") := by
  obtain ⟨s, hs, -, herror⟩ := exists_initiated
  exact ⟨s, hs, herror⟩

theorem repeats_iff_retried :
    ∃ (s : Sys World Input Event RisError) (p p' : Payment), s.store.payments.get? 1 = some p ∧
      s.store.payments.get? p.id = some p' ∧
      ((initiatePayment {} 1).outcome (quietInput 2 "L") s.store = (.ok p', s.store) ↔
        Eligible {} (some 0) 1 s.store) := by
  obtain ⟨s, hs, hids, -⟩ := exists_initiated
  obtain ⟨p, p', hp, -, hp', hiff⟩ := repeats_iff (w := smallWorld)
    (fun q hq => absurd hq List.not_mem_nil) hs .refl (quietInput 2 "L") rfl
  have hid : p.id = 1 := by
    have hmem : p.id ∈ s.store.payments.rows.map Payment.id := List.mem_map_of_mem (Table.mem_of_get? hp)
    rw [hids] at hmem
    exact List.mem_singleton.1 hmem
  rw [hid] at hp
  exact ⟨s, p, p', hp, hid ▸ hp', hiff⟩

end Ris.Payments
