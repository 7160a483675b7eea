import RisPlatform.Alone
import RisPlatform.Invoices.Transactions

/-!
# Submission through a draft

`submitInvoice` takes an invoice at once; `saveDraft` and `submitDraft` take it in two steps. Each way has
its own list of checks. Both ask for the supplier's KYC, an active buyer with credit left, a tenor in the
range and a number that the supplier has not used. Only the first asks about structuring and about the
velocity, and only the first stores the EFRIS reference; so they never agree on an invoice that one of
them takes.
-/

namespace Ris.Invoices

open Relational Concurrent

/-! ## What is asked -/

/-- The tenor is in the allowed range. -/
def TenorAllowed (cfg : Config) (tenorDays : ℤ) : Prop :=
  cfg.minTenorDays ≤ tenorDays ∧ tenorDays ≤ cfg.maxTenorDays

/-- The last 30 days do not show structuring. -/
def StructuringClear (cfg : Config) (supplierId buyerId : ℕ) (faceValue now : ℤ) (w : World) : Prop :=
  ¬(cfg.amlFlagThreshold ≤ (get30DayRollingTotal supplierId buyerId now w).1 + faceValue ∧
    faceValue < cfg.amlFlagThreshold)

/-- The current month does not show a velocity spike. -/
def VelocityClear (supplierId : ℕ) (now : ℤ) (w : World) : Prop :=
  get6MonthVelocityAverage supplierId now w < 6 ∨
    getCurrentMonthCount supplierId now w < (get6MonthVelocityAverage supplierId now w + 5) / 6 * 3

/-- What both ways ask. The id is the one that is drawn for the row. -/
structure Admissible (w : World) (userId : ℕ) (data : InvoiceSubmission) (id : ℕ) (faceValue : ℤ)
    (supplier : Supplier) (buyer : Buyer) : Prop where
  found : Pricing.findSupplierByUserId userId w = some supplier
  kyc : supplier.kycStatus = .approved
  listed : findBuyerWithLimits data.buyerId w = some buyer
  active : buyer.isActive = true
  credit : faceValue + buyer.usedLimit ≤ buyer.approvedLimit
  positive : 0 < faceValue
  unused : findInvoiceByNumberAndSupplier data.invoiceNumber supplier.id w = none
  fresh : w.invoices.get? id = none

/-- What `submitInvoice` asks. -/
def DirectAccepts (cfg : Config) (i : Input) (w : World) (userId : ℕ)
    (data : InvoiceSubmission) : Prop :=
  ∃ faceValue supplier buyer, bigIntOfNumber data.faceValue = .ok faceValue ∧
    Admissible w userId data i.uuid faceValue supplier buyer ∧
    TenorAllowed cfg (computeTenorDays data.dueDate i.now) ∧
    StructuringClear cfg supplier.id data.buyerId faceValue i.now w ∧
    VelocityClear supplier.id i.now w ∧ ∀ days ∈ data.fundingTimelineDays, 0 < days

/-- What `saveDraft` and `submitDraft` ask; the due date has lost its time of day. -/
def DraftAccepts (cfg : Config) (i : Input) (w : World) (userId : ℕ) (data : InvoiceSubmission) : Prop :=
  ∃ faceValue supplier buyer, bigintOfText data.faceValue = .ok faceValue ∧
    Admissible w userId data i.uuid faceValue supplier buyer ∧
    TenorAllowed cfg (computeTenorDays (data.dueDate / dayMs * dayMs) i.now)

/-! ## The checks -/

section Checks

variable {i : Input} {w w' : World} {cfg : Config}

@[simp] theorem outcome_requireStep_ok {α : Type} {step : ValidationStep} {code : ValidationErrorCode}
    {message : String} {userId : ℕ} {results : List ValidationResult} {req : Request} {found : Option α}
    {x : α × List ValidationResult} :
    (requireStep step code message userId results req found).outcome i w = (.ok x, w') ↔
      ∃ a, found = some a ∧ (a, results ++ [.of step code true]) = x ∧ w = w' := by
  cases found with
  | none => simp [requireStep, Proc.outcome_bind_ok]
  | some a => simp [requireStep]

theorem outcome_validateSupplierActive_ok {userId : ℕ} {req : Request} {supplier : Supplier}
    {results : List ValidationResult} :
    (validateSupplierActive userId req).outcome i w = (.ok (supplier, results), w') ↔
      i.fault = none ∧ Pricing.findSupplierByUserId userId w = some supplier ∧
        supplier.kycStatus = .approved ∧
          [.of .supplierActiveCheck .supplierNotApproved true] = results ∧ w = w' := by
  simp only [validateSupplierActive, Proc.outcome_bind_ok, outcome_query_ok, outcome_requireStep_ok,
    Option.filter_eq_some_iff, List.nil_append, Prod.mk.injEq, decide_eq_true_eq]
  constructor
  · rintro ⟨_, _, ⟨hfault, rfl, rfl⟩, _, ⟨hfound, hkyc⟩, ⟨rfl, rfl⟩, rfl⟩
    exact ⟨hfault, hfound, hkyc, rfl, rfl⟩
  · rintro ⟨hfault, hfound, hkyc, rfl, rfl⟩
    exact ⟨_, _, ⟨hfault, rfl, rfl⟩, supplier, ⟨hfound, hkyc⟩, ⟨rfl, rfl⟩, rfl⟩

theorem outcome_validateNoDuplicate_ok {invoiceNumber : String} {supplierId userId : ℕ}
    {results results' : List ValidationResult} {req : Request} :
    (validateNoDuplicate invoiceNumber supplierId userId results req).outcome i w =
        (.ok ((), results'), w') ↔
      i.fault = none ∧ findInvoiceByNumberAndSupplier invoiceNumber supplierId w = none ∧
        results ++ [.of .duplicateCheck .duplicateInvoice true] = results' ∧ w = w' := by
  simp only [validateNoDuplicate, Proc.outcome_bind_ok, outcome_query_ok, outcome_requireStep_ok,
    Prod.mk.injEq]
  constructor
  · rintro ⟨_, _, ⟨hfault, rfl, rfl⟩, _, hnone, ⟨-, rfl⟩, rfl⟩
    split at hnone
    next h => exact ⟨hfault, Option.isNone_iff_eq_none.1 h, rfl, rfl⟩
    next => cases hnone
  · rintro ⟨hfault, hnone, rfl, rfl⟩
    exact ⟨_, _, ⟨hfault, rfl, rfl⟩, (), if_pos (Option.isNone_iff_eq_none.2 hnone), ⟨trivial, rfl⟩, rfl⟩

theorem outcome_validateBuyerEligibility_ok {buyerId userId : ℕ}
    {results results' : List ValidationResult}
    {req : Request} {buyer : Buyer} {now : ℤ} :
    (validateBuyerEligibility buyerId userId results req).outcome i w =
        (.ok ((buyer, now), results'), w') ↔
      i.fault = none ∧ findBuyerWithLimits buyerId w = some buyer ∧ buyer.isActive = true ∧
        i.now = now ∧ results ++ [.of .buyerEligibility .buyerNotApproved true] = results' ∧ w = w' := by
  simp only [validateBuyerEligibility, Proc.outcome_bind_ok, outcome_queryNow_ok,
    outcome_requireStep_ok, Option.map_eq_some_iff, Option.filter_eq_some_iff, Prod.mk.injEq]
  constructor
  · rintro ⟨_, _, ⟨hfault, rfl, rfl⟩, _, ⟨_, ⟨hfound, hactive⟩, rfl⟩, ⟨⟨rfl, rfl⟩, rfl⟩, rfl⟩
    exact ⟨hfault, hfound, hactive, rfl, rfl, rfl⟩
  · rintro ⟨hfault, hfound, hactive, rfl, rfl, rfl⟩
    exact ⟨_, _, ⟨hfault, rfl, rfl⟩, _, ⟨buyer, ⟨hfound, hactive⟩, rfl⟩, ⟨rfl, rfl⟩, rfl⟩

@[simp] theorem outcome_auditAndThrowCompliance_ok {action message : String} {userId supplierId : ℕ}
    {details : List (String × Json)} {req : Request} {u : Unit} :
    (auditAndThrowCompliance action message userId supplierId details req).outcome i w = (.ok u, w') ↔
      False := by
  simp [auditAndThrowCompliance, Proc.outcome_bind_ok]

theorem outcome_checkStructuring_ok {supplierId buyerId : ℕ} {faceValue : ℤ} {userId : ℕ}
    {req : Request} :
    (checkStructuring cfg supplierId buyerId faceValue userId req).outcome i w = (.ok (), w') ↔
      i.fault = none ∧ StructuringClear cfg supplierId buyerId faceValue i.now w ∧ w = w' := by
  simp only [checkStructuring, Proc.outcome_bind_ok, outcome_queryNow_ok, StructuringClear]
  constructor
  · rintro ⟨x, _, ⟨hfault, rfl, rfl⟩, h⟩
    dsimp only at h
    split at h
    · exact (outcome_auditAndThrowCompliance_ok.1 h).elim
    next hclear => exact ⟨hfault, hclear, (Proc.outcome_pure_ok.1 h).2⟩
  · rintro ⟨hfault, hclear, rfl⟩
    refine ⟨_, _, ⟨hfault, rfl, rfl⟩, ?_⟩
    dsimp only
    rw [if_neg hclear]
    exact Proc.outcome_pure_ok.2 ⟨rfl, rfl⟩

theorem outcome_checkVelocitySpike_ok {supplierId userId : ℕ} {req : Request} :
    (checkVelocitySpike supplierId userId req).outcome i w = (.ok (), w') ↔
      i.fault = none ∧ VelocityClear supplierId i.now w ∧ w = w' := by
  simp only [checkVelocitySpike, Proc.outcome_bind_ok, outcome_queryNow_ok, VelocityClear]
  constructor
  · rintro ⟨x, _, ⟨hfault, rfl, rfl⟩, h⟩
    dsimp only at h
    split at h
    next hfew => exact ⟨hfault, Or.inl hfew, (Proc.outcome_pure_ok.1 h).2⟩
    next hfew =>
      obtain ⟨x, _, hquery, h⟩ := Proc.outcome_bind_ok.1 h
      obtain ⟨-, rfl, rfl⟩ := outcome_queryNow_ok.1 hquery
      dsimp only at h
      split at h
      · exact (outcome_auditAndThrowCompliance_ok.1 h).elim
      next hcount => exact ⟨hfault, Or.inr (by simpa using hcount), (Proc.outcome_pure_ok.1 h).2⟩
  · rintro ⟨hfault, hclear, rfl⟩
    refine ⟨_, _, ⟨hfault, rfl, rfl⟩, ?_⟩
    dsimp only
    by_cases hfew : get6MonthVelocityAverage supplierId i.now w < 6
    · rw [if_pos hfew]
      exact Proc.outcome_pure_ok.2 ⟨rfl, rfl⟩
    · have hcount := hclear.resolve_left hfew
      rw [if_neg hfew, Proc.outcome_bind_ok]
      refine ⟨_, _, outcome_queryNow_ok.2 ⟨hfault, rfl, rfl⟩, ?_⟩
      dsimp only
      rw [if_neg (by simpa using hcount)]
      exact Proc.outcome_pure_ok.2 ⟨rfl, rfl⟩

theorem validateTenor_ok_iff {dueDate now tenorDays : ℤ} {results results' : List ValidationResult} :
    validateTenor cfg dueDate now results = .ok (tenorDays, results') ↔
      TenorAllowed cfg tenorDays ∧ tenorDays = computeTenorDays dueDate now ∧
        results' = results ++ [.of .tenorCheck .tenorOutOfRange true (.numbers
          [("actual_days", tenorDays), ("min_days", cfg.minTenorDays), ("max_days", cfg.maxTenorDays)])] := by
  simp only [validateTenor, TenorAllowed]
  split
  next hrange =>
    constructor
    · intro h
      obtain ⟨rfl, rfl⟩ := Prod.mk.inj (Except.ok.inj h)
      exact ⟨hrange, rfl, rfl⟩
    · rintro ⟨-, rfl, rfl⟩
      rfl
  next hrange =>
    refine iff_of_false nofun ?_
    rintro ⟨hallowed, rfl, -⟩
    exact hrange hallowed

theorem validateCreditLimit_ok {faceValue : ℤ} {buyer : Buyer} {results results' : List ValidationResult}
    (h : validateCreditLimit faceValue buyer results = .ok results') :
    faceValue + buyer.usedLimit ≤ buyer.approvedLimit := by
  simp only [validateCreditLimit] at h
  split at h
  next hcredit => exact hcredit
  next => cases h

theorem validateCreditLimit_of_le {faceValue : ℤ} {buyer : Buyer} (results : List ValidationResult)
    (h : faceValue + buyer.usedLimit ≤ buyer.approvedLimit) :
    ∃ results', validateCreditLimit faceValue buyer results = .ok results' := by
  simp only [validateCreditLimit, if_pos h]
  exact ⟨_, rfl⟩

theorem validateForSubmit_ok_iff {faceValue dueDate now : ℤ} {found : Option Buyer} {u : Unit} :
    validateForSubmit cfg faceValue dueDate now found = .ok u ↔
      ∃ buyer, found = some buyer ∧ buyer.isActive = true ∧
        TenorAllowed cfg (computeTenorDays (dueDate * dayMs) now) ∧
          faceValue + buyer.usedLimit ≤ buyer.approvedLimit := by
  cases found with
  | none => simp [validateForSubmit, throw, throwThe, MonadExceptOf.throw]
  | some buyer =>
    simp only [validateForSubmit, TenorAllowed, Option.some.injEq, exists_eq_left']
    split
    next hactive => exact iff_of_false nofun fun h => hactive h.1
    next hactive =>
      split
      next hrange => exact iff_of_false nofun fun h => by omega
      next hrange =>
        split
        next hcredit => exact iff_of_false nofun fun h => by omega
        next hcredit => exact iff_of_true rfl ⟨not_not.1 hactive, by omega, by omega⟩

end Checks

/-! ## The rows -/

section Rows

variable {i : Input} {w w' : World} {u : Unit} {cfg : Config}

/-- Why nothing speaks against a new row. -/
theorem invoiceViolation_eq_none {row : Invoice} :
    invoiceViolation w row = none ↔ 0 < row.faceValue ∧ (∀ days ∈ row.fundingTimelineDays, 0 < days) ∧
      findInvoiceByNumberAndSupplier row.invoiceNumber row.supplierId w = none ∧
        (w.buyers.get? row.buyerId).isSome := by
  unfold invoiceViolation
  split
  next h => exact iff_of_false (Option.some_ne_none _) fun h' => by omega
  next h =>
    split
    next hdays =>
      obtain ⟨days, hdays, hle⟩ := hdays
      refine iff_of_false (Option.some_ne_none _) fun h' => ?_
      have := h'.2.1 days hdays
      omega
    next hdays =>
      split
      next hsome =>
        refine iff_of_false (Option.some_ne_none _) fun h' => ?_
        rw [h'.2.2.1] at hsome
        cases hsome
      next hsome =>
        have hunused := Option.not_isSome_iff_eq_none.1 hsome
        split
        next hbuyer =>
          refine iff_of_false (Option.some_ne_none _) fun h' => ?_
          rw [Option.isNone_iff_eq_none] at hbuyer
          simp [hbuyer] at h'
        next hbuyer =>
          refine iff_of_true rfl ⟨by omega, fun days hmem => ?_, hunused, ?_⟩
          · by_contra hle
            exact hdays ⟨days, hmem, by omega⟩
          · simpa [Option.isSome_iff_ne_none] using hbuyer

/-- Nothing speaks against the row. -/
def Insertable (w : World) (row : Invoice) : Prop :=
  invoiceViolation w row = none ∧ w.invoices.get? row.id = none

theorem insertInvoice_of {row : Invoice} (h : Insertable w row) :
    ∃ invoices, w.invoices.insert? row = some invoices ∧
      insertInvoice row i w = .ok ((), { w with invoices := invoices }) := by
  obtain ⟨hviolation, hfresh⟩ := h
  cases hins : w.invoices.insert? row with
  | none =>
    obtain ⟨r, hr⟩ := Table.exists_of_insert?_none hins
    rw [hfresh] at hr
    cases hr
  | some invoices => exact ⟨invoices, rfl, by simp [insertInvoice, hviolation, hins]⟩

theorem insertable_of_insert? {row : Invoice} {invoices : Table Invoice.id}
    (hviolation : invoiceViolation w row = none) (h : w.invoices.insert? row = some invoices) :
    Insertable w row :=
  ⟨hviolation, Table.get?_insert?_fresh h⟩

/-- A transaction that only writes audit rows and the flag commits. -/
theorem auditValidationResultsWithClient_of (p : SubmitTxParams) (invoiceId : ℕ) :
    ∃ w', auditValidationResultsWithClient p invoiceId i w = .ok ((), w') := by
  unfold auditValidationResultsWithClient
  generalize p.validationResults = results
  induction results generalizing w with
  | nil => exact ⟨w, rfl⟩
  | cons result results ih =>
    obtain ⟨w', hw'⟩ := ih (w := { w with auditLogs := w.auditLogs ++ [_] })
    exact ⟨w', Txn.bind_ok.2 ⟨(), _, createAuditEntry_ok.2 rfl, hw'⟩⟩

theorem applyAmlFlagWithClient_of (cfg : Config) (p : SubmitTxParams) (invoiceId : ℕ) :
    ∃ w', applyAmlFlagWithClient cfg p invoiceId i w = .ok ((), w') := by
  unfold applyAmlFlagWithClient
  split
  · exact ⟨w, rfl⟩
  · exact ⟨_, rfl⟩

theorem executeSubmitTransaction_of (cfg : Config) {p : SubmitTxParams}
    (h : Insertable w ((p.input i.uuid).submittedRow i.now)) :
    ∃ w', executeSubmitTransaction cfg p i w = .ok (i.uuid, w') := by
  obtain ⟨invoices, -, hinsert⟩ := insertInvoice_of (i := i) h
  obtain ⟨w₂, haudits⟩ :=
    auditValidationResultsWithClient_of (i := i) (w := { w with invoices := invoices }) p i.uuid
  obtain ⟨w₄, hflag⟩ := applyAmlFlagWithClient_of (i := i)
    (w := { w₂ with auditLogs := w₂.auditLogs ++ [submittedAudit p i.uuid] }) cfg p i.uuid
  refine ⟨w₄, ?_⟩
  simp only [executeSubmitTransaction, createInvoiceWithClient, Txn.bind_ok, Txn.input_ok, now_ok,
    createAuditEntry_ok, Txn.pure_ok]
  exact ⟨_, _, ⟨rfl, rfl⟩, (), _, ⟨_, _, ⟨rfl, rfl⟩, hinsert⟩, (), w₂, haudits, (), _, rfl, (), w₄, hflag,
    rfl, rfl⟩

/-- Setting the flag loses no row and no EFRIS reference. -/
theorem get?_flagAbove (cfg : Config) (faceValue : ℤ) {invoiceId k : ℕ} {invoices : Table Invoice.id}
    {row : Invoice} (h : invoices.get? k = some row) :
    ∃ row', (flagAbove cfg faceValue invoiceId invoices).get? k = some row' ∧
      row'.uraEfrisRef = row.uraEfrisRef := by
  unfold flagAbove
  split
  · refine ⟨_, Table.get?_update_of_get? h, ?_⟩
    split <;> rfl
  · exact ⟨row, h, rfl⟩

end Rows

/-! ## At once -/

section Direct

variable {i : Input} {w w' : World} {cfg : Config} {userId : ℕ} {data : InvoiceSubmission} {req : Request}

/-- After the commit nothing fails on its own. -/
theorem passes_notifyAmlCompliance (hi : i.fault = none) (invoiceId : ℕ) (faceValue : ℤ) :
    Passes i (notifyAmlCompliance cfg invoiceId faceValue) :=
  passes_ite (passes_pure ()) ((passes_log hi _).bind fun _ =>
    passes_ite (passes_enqueueWithContext hi _) (passes_pure ()))

theorem passes_queueBuyerConfirmation (hi : i.fault = none) (invoiceId buyerId : ℕ) :
    Passes i (queueBuyerConfirmation cfg invoiceId buyerId) :=
  passes_ite ((passes_enqueueWithContext hi _).bind fun _ => passes_log hi _) (passes_log hi _)

theorem passes_scheduleAssessmentReminders (hi : i.fault = none) (invoiceId supplierId : ℕ) :
    Passes i (scheduleAssessmentReminders cfg invoiceId supplierId) :=
  passes_ite ((passes_enqueueWithContext hi _).bind fun _ => passes_enqueueWithContext hi _)
    (passes_log hi _)

theorem passes_scheduleFundingTimelineReminder (hi : i.fault = none) (invoiceId supplierId : ℕ)
    (timelineDays : Option ℤ) :
    Passes i (scheduleFundingTimelineReminder cfg invoiceId supplierId timelineDays) := by
  cases timelineDays with
  | none => exact passes_pure ()
  | some days => exact passes_ite (passes_pure ()) (passes_enqueueOrWarn hi cfg _ _)

/-- `submitInvoice` takes what `DirectAccepts`, and stores the EFRIS reference. -/
theorem outcome_submitInvoice_ok {invoiceId : ℕ}
    (h : (submitInvoice cfg userId data req).outcome i w = (.ok invoiceId, w')) :
    (i.fault = none ∧ DirectAccepts cfg i w userId data) ∧
      ∃ row, w'.invoices.get? invoiceId = some row ∧ row.uraEfrisRef = some data.uraEfrisRef := by
  obtain ⟨faceValue, _, hstep, h⟩ := Proc.outcome_bind_ok.1 h
  obtain ⟨hvalue, rfl⟩ := Proc.outcome_lift_ok.1 hstep
  obtain ⟨⟨supplier, results⟩, _, hstep, h⟩ := Proc.outcome_bind_ok.1 h
  obtain ⟨hfault, hfound, hkyc, -, rfl⟩ := outcome_validateSupplierActive_ok.1 hstep
  obtain ⟨⟨_, results⟩, _, hstep, h⟩ := Proc.outcome_bind_ok.1 h
  obtain ⟨-, hunused, -, rfl⟩ := outcome_validateNoDuplicate_ok.1 hstep
  obtain ⟨⟨⟨buyer, now⟩, results⟩, _, hstep, h⟩ := Proc.outcome_bind_ok.1 h
  obtain ⟨-, hlisted, hactive, rfl, -, rfl⟩ := outcome_validateBuyerEligibility_ok.1 hstep
  obtain ⟨⟨tenorDays, results⟩, _, hstep, h⟩ := Proc.outcome_bind_ok.1 h
  obtain ⟨htenor, rfl⟩ := Proc.outcome_lift_ok.1 hstep
  obtain ⟨hallowed, rfl, -⟩ := validateTenor_ok_iff.1 htenor
  obtain ⟨results, _, hstep, h⟩ := Proc.outcome_bind_ok.1 h
  obtain ⟨hcredit, rfl⟩ := Proc.outcome_lift_ok.1 hstep
  obtain ⟨_, _, hstep, h⟩ := Proc.outcome_bind_ok.1 h
  obtain ⟨-, hstructuring, rfl⟩ := outcome_checkStructuring_ok.1 hstep
  obtain ⟨_, _, hstep, h⟩ := Proc.outcome_bind_ok.1 h
  obtain ⟨-, hvelocity, rfl⟩ := outcome_checkVelocitySpike_ok.1 hstep
  obtain ⟨id, w₁, hstep, h⟩ := Proc.outcome_bind_ok.1 h
  obtain ⟨-, hcommit⟩ := outcome_transactionOf_ok.1 hstep
  obtain ⟨invoices, rfl, hviolation, hinsert, hw₁⟩ := executeSubmitTransaction_ok hcommit
  obtain ⟨hpositive, hdays, -, -⟩ := invoiceViolation_eq_none.1 hviolation
  -- what comes after the commit leaves the invoices alone
  obtain ⟨_, w₂, htail, h⟩ := Proc.outcome_bind_ok.1 h
  obtain ⟨_, w₃, hnotify, h⟩ := Proc.outcome_bind_ok.1 h
  obtain ⟨_, w₄, hqueue, h⟩ := Proc.outcome_bind_ok.1 h
  obtain ⟨_, w₅, hassess, h⟩ := Proc.outcome_bind_ok.1 h
  obtain ⟨_, w₆, hfunding, h⟩ := Proc.outcome_bind_ok.1 h
  obtain ⟨rfl, rfl⟩ := Proc.outcome_pure_ok.1 h
  have hframe : w₆.invoices = w₁.invoices := by
    rw [(passes_scheduleFundingTimelineReminder hfault _ _ _).of_outcome hfunding,
      (passes_scheduleAssessmentReminders hfault _ _).of_outcome hassess,
      (passes_queueBuyerConfirmation hfault _ _).of_outcome hqueue,
      (passes_notifyAmlCompliance hfault _ _).of_outcome hnotify,
      (passes_log hfault _).of_outcome htail]
  have hrow := Table.get?_insert? hinsert i.uuid
  rw [if_pos (by rfl)] at hrow
  obtain ⟨row, hrow, href⟩ := get?_flagAbove cfg faceValue hrow
  refine ⟨⟨hfault, faceValue, supplier, buyer, hvalue, ⟨hfound, hkyc, hlisted, hactive,
    validateCreditLimit_ok hcredit, hpositive, hunused, Table.get?_insert?_fresh hinsert⟩, hallowed,
    hstructuring, hvelocity, hdays⟩, row, ?_, href⟩
  rw [hframe, hw₁]
  exact hrow

theorem returns_submitInvoice (req : Request) (hi : i.fault = none)
    (h : DirectAccepts cfg i w userId data) :
    (submitInvoice cfg userId data req).Returns i w := by
  obtain ⟨faceValue, supplier, buyer, hvalue, hadmissible, hallowed, hstructuring, hvelocity, hdays⟩ := h
  refine Proc.returns_bind (Proc.outcome_lift_ok.2 ⟨hvalue, rfl⟩) ?_
  refine Proc.returns_bind (outcome_validateSupplierActive_ok.2
    ⟨hi, hadmissible.found, hadmissible.kyc, rfl, rfl⟩) ?_
  refine Proc.returns_bind (outcome_validateNoDuplicate_ok.2
    ⟨hi, hadmissible.unused, rfl, rfl⟩) ?_
  refine Proc.returns_bind (outcome_validateBuyerEligibility_ok.2
    ⟨hi, hadmissible.listed, hadmissible.active, rfl, rfl, rfl⟩) ?_
  refine Proc.returns_bind (Proc.outcome_lift_ok.2 ⟨validateTenor_ok_iff.2 ⟨hallowed, rfl, rfl⟩, rfl⟩) ?_
  obtain ⟨results, hcredit⟩ := validateCreditLimit_of_le _ hadmissible.credit
  refine Proc.returns_bind (Proc.outcome_lift_ok.2 ⟨hcredit, rfl⟩) ?_
  refine Proc.returns_bind (outcome_checkStructuring_ok.2 ⟨hi, hstructuring, rfl⟩) ?_
  refine Proc.returns_bind (outcome_checkVelocitySpike_ok.2 ⟨hi, hvelocity, rfl⟩) ?_
  have hinsertable (tenorDays : ℤ) (results : List ValidationResult) : Insertable w
      ((SubmitTxParams.input ⟨userId, data, supplier.id, faceValue, tenorDays, results, req⟩
        i.uuid).submittedRow i.now) := by
    refine ⟨invoiceViolation_eq_none.2 ⟨hadmissible.positive, hdays, hadmissible.unused, ?_⟩,
      hadmissible.fresh⟩
    exact Option.isSome_of_eq_some hadmissible.listed
  obtain ⟨w', hcommit⟩ := executeSubmitTransaction_of cfg (hinsertable _ results)
  refine Proc.returns_bind (outcome_transactionOf_ok.2 ⟨hi, hcommit⟩) ?_
  exact ((passes_log hi _).bind fun _ => (passes_notifyAmlCompliance hi _ _).bind fun _ =>
    (passes_queueBuyerConfirmation hi _ _).bind fun _ =>
      (passes_scheduleAssessmentReminders hi _ _).bind fun _ =>
        (passes_scheduleFundingTimelineReminder hi _ _ _).bind fun _ => passes_pure _).returns

end Direct

/-! ## In two steps -/

/-- Create a draft with the data, then submit it. -/
def throughDraft (cfg : Config) (userId : ℕ) (data : InvoiceSubmission) (req : Request) :
    Call Invoice := do
  let invoiceId ← saveDraft userId data req
  submitDraft cfg invoiceId userId req

section Drafts

variable {i : Input} {w w' : World} {cfg : Config} {userId : ℕ} {data : InvoiceSubmission} {req : Request}

/-- A guard that hands the row on if it is there and as it must be. -/
theorem guard_ok_iff {ρ ε : Type*} (guard : Option ρ → Except ε ρ) (p : ρ → Prop) [DecidablePred p]
    {refusal : ρ → ε} {found : Option ρ} {r : ρ} (hnone : ∃ e, guard none = .error e)
    (hsome : ∀ r, guard (some r) = if ¬p r then .error (refusal r) else .ok r) :
    guard found = .ok r ↔ found = some r ∧ p r := by
  cases found with
  | none =>
    obtain ⟨e, he⟩ := hnone
    rw [he]
    exact iff_of_false nofun fun h => Option.some_ne_none r h.1.symm
  | some x =>
    rw [hsome, Option.some.injEq]
    split
    · next hnot => exact iff_of_false nofun fun h => hnot (h.1 ▸ h.2)
    · next hp =>
      rw [Except.ok.injEq]
      exact ⟨fun h => ⟨h, h ▸ not_not.1 hp⟩, And.left⟩

theorem guardDraft_ok_iff {invoiceId : ℕ} {message : String} {found : Option Invoice} {r : Invoice} :
    guardDraft invoiceId message found = .ok r ↔ found = some r ∧ r.status = .draft :=
  guard_ok_iff (guardDraft invoiceId message) (fun r => r.status = .draft) ⟨_, rfl⟩ fun _ => rfl

theorem guardOwner_ok_iff {invoice : Invoice} {found : Option Supplier} {s : Supplier} :
    guardOwner invoice found = .ok s ↔ found = some s ∧ s.id = invoice.supplierId :=
  guard_ok_iff (guardOwner invoice) (fun s => s.id = invoice.supplierId) ⟨_, rfl⟩ fun _ => rfl

theorem guardSubmitDraftKyc_ok_iff {found : Option Supplier} {s : Supplier} :
    guardSubmitDraftKyc found = .ok s ↔ found = some s ∧ s.kycStatus = .approved :=
  guard_ok_iff guardSubmitDraftKyc (fun s => s.kycStatus = .approved) ⟨_, rfl⟩ fun _ => rfl

theorem outcome_guardDraftOwnership_ok {invoiceId supplierId : ℕ} {message : String} {r : Invoice}
    {now : ℤ} :
    (guardDraftOwnership invoiceId userId message).outcome i w = (.ok (r, supplierId, now), w') ↔
      i.fault = none ∧ findInvoiceById invoiceId w = some r ∧ r.status = .draft ∧
        (∃ supplier, Pricing.findSupplierByUserId userId w = some supplier ∧
          supplier.id = r.supplierId ∧ supplier.id = supplierId) ∧ i.now = now ∧ w = w' := by
  simp only [guardDraftOwnership, Proc.outcome_bind_ok, outcome_query_ok, outcome_queryNow_ok]
  constructor
  · rintro ⟨_, _, ⟨hfault, rfl, rfl⟩, _, _, hstep, _, _, ⟨-, rfl, rfl⟩, _, _, hstep', h⟩
    obtain ⟨hdraft, rfl⟩ := Proc.outcome_lift_ok.1 hstep
    obtain ⟨hfound, hstatus⟩ := guardDraft_ok_iff.1 hdraft
    obtain ⟨howner, rfl⟩ := Proc.outcome_lift_ok.1 hstep'
    obtain ⟨howner, hsupplier⟩ := guardOwner_ok_iff.1 howner
    obtain ⟨hvalues, rfl⟩ := Proc.outcome_pure_ok.1 h
    simp only [Prod.mk.injEq] at hvalues
    obtain ⟨rfl, rfl, rfl⟩ := hvalues
    exact ⟨hfault, hfound, hstatus, ⟨_, howner, hsupplier, rfl⟩, rfl, rfl⟩
  · rintro ⟨hfault, hfound, hstatus, ⟨supplier, howner, hsupplier, rfl⟩, rfl, rfl⟩
    exact ⟨_, w, ⟨hfault, rfl, rfl⟩, r, w,
      Proc.outcome_lift_ok.2 ⟨guardDraft_ok_iff.2 ⟨hfound, hstatus⟩, rfl⟩, _, w, ⟨hfault, rfl, rfl⟩,
      supplier, w, Proc.outcome_lift_ok.2 ⟨guardOwner_ok_iff.2 ⟨howner, hsupplier⟩, rfl⟩,
      Proc.outcome_pure_ok.2 ⟨rfl, rfl⟩⟩

/-- The row of a draft of the data. -/
def InvoiceSubmission.draft (data : InvoiceSubmission) (supplierId : ℕ) (faceValue : ℤ) (i : Input) :
    Invoice :=
  (data.input i.uuid supplierId (computeTenorDays data.dueDate i.now) faceValue).draftRow i.now

/-- What `saveDraft` leaves. -/
theorem outcome_saveDraft_ok {invoiceId : ℕ}
    (h : (saveDraft userId data req).outcome i w = (.ok invoiceId, w')) :
    ∃ supplier faceValue, i.fault = none ∧ i.uuid = invoiceId ∧
      Pricing.findSupplierByUserId userId w = some supplier ∧
        bigintOfText data.faceValue = .ok faceValue ∧
          Insertable w (data.draft supplier.id faceValue i) ∧
            w.invoices.insert? (data.draft supplier.id faceValue i) = some w'.invoices ∧
              w' =
                { w with
                  invoices := w'.invoices
                  auditLogs := w'.auditLogs
                  jobs := w'.jobs } := by
  obtain ⟨⟨found, now⟩, _, hstep, h⟩ := Proc.outcome_bind_ok.1 h
  obtain ⟨hfault, hpair, rfl⟩ := outcome_queryNow_ok.1 hstep
  obtain ⟨hfound, rfl⟩ := Prod.mk.inj hpair
  cases found with
  | none => exact (Proc.outcome_throw_ok.1 h).elim
  | some supplier =>
    obtain ⟨id, w₁, hstep, h⟩ := Proc.outcome_bind_ok.1 h
    obtain ⟨-, hcommit⟩ := outcome_transactionOf_ok.1 hstep
    simp only [Txn.bind_ok, Txn.input_ok, Txn.pure_ok] at hcommit
    obtain ⟨_, _, ⟨rfl, rfl⟩, _, w₁, hcreate, rfl, rfl⟩ := hcommit
    obtain ⟨faceValue, hvalue, hviolation, hinsert, hw₁⟩ := createDraftInvoice_ok hcreate
    obtain ⟨_, w₂, haudit, h⟩ := Proc.outcome_bind_ok.1 h
    obtain ⟨hid, rfl⟩ := Proc.outcome_pure_ok.1 h
    have hw₂ := (passes_auditAlone hfault _).of_outcome haudit
    have hsame : w₂.invoices = w₁.invoices := by rw [hw₂]
    refine ⟨supplier, faceValue, hfault, hid, hfound, hvalue, insertable_of_insert? hviolation hinsert,
      ?_, ?_⟩
    · rw [hsame]
      exact hinsert
    · rw [hw₂, hw₁]

theorem returns_saveDraft (req : Request) {supplier : Supplier} {faceValue : ℤ} (hi : i.fault = none)
    (hfound : Pricing.findSupplierByUserId userId w = some supplier)
    (hvalue : bigintOfText data.faceValue = .ok faceValue)
    (hrow : Insertable w (data.draft supplier.id faceValue i)) :
    (saveDraft userId data req).Returns i w := by
  obtain ⟨invoices, -, hinsert⟩ := insertInvoice_of (i := i) hrow
  refine Proc.returns_bind (outcome_queryNow_ok.2 ⟨hi, rfl, rfl⟩) ?_
  rw [hfound]
  have hcommit : createDraftInvoice (data.input i.uuid supplier.id (computeTenorDays data.dueDate i.now))
      data.faceValue i w = .ok ((), { w with invoices := invoices }) := by
    simp only [createDraftInvoice, Txn.bind_ok, Txn.liftM_ok, now_ok]
    exact ⟨faceValue, w, ⟨hvalue, rfl⟩, _, w, ⟨rfl, rfl⟩, hinsert⟩
  have hbody : (do
      let i ← Txn.input
      createDraftInvoice (data.input i.uuid supplier.id (computeTenorDays data.dueDate i.now)) data.faceValue
      return i.uuid : Tx ℕ) i w = .ok (i.uuid, { w with invoices := invoices }) :=
    Txn.bind_ok.2 ⟨i, w, Txn.input_ok.2 ⟨rfl, rfl⟩,
      Txn.bind_ok.2 ⟨(), _, hcommit, Txn.pure_ok.2 ⟨rfl, rfl⟩⟩⟩
  refine Proc.returns_bind (outcome_transactionOf_ok.2 ⟨hi, hbody⟩) ?_
  exact ((passes_auditAlone hi _).bind fun _ => passes_pure _).returns

theorem outcome_submitDraft_ok {invoiceId : ℕ} {row : Invoice}
    (h : (submitDraft cfg invoiceId userId req).outcome i w = (.ok row, w')) :
    (∃ draft supplier buyer, findInvoiceById invoiceId w = some draft ∧
      Pricing.findSupplierByUserId userId w = some supplier ∧ supplier.kycStatus = .approved ∧
        findBuyerWithLimits draft.buyerId w = some buyer ∧ buyer.isActive = true ∧
          TenorAllowed cfg (computeTenorDays (draft.dueDate * dayMs) i.now) ∧
            draft.faceValue + buyer.usedLimit ≤ buyer.approvedLimit ∧
              row.uraEfrisRef = draft.uraEfrisRef) ∧
      w'.invoices.get? invoiceId = some row := by
  obtain ⟨⟨draft, supplierId, now⟩, _, hstep, h⟩ := Proc.outcome_bind_ok.1 h
  obtain ⟨hfault, hfound, hstatus, -, rfl, rfl⟩ := outcome_guardDraftOwnership_ok.1 hstep
  obtain ⟨_, _, hstep, h⟩ := Proc.outcome_bind_ok.1 h
  obtain ⟨-, rfl, rfl⟩ := outcome_query_ok.1 hstep
  obtain ⟨supplier, _, hstep, h⟩ := Proc.outcome_bind_ok.1 h
  obtain ⟨hsupplier, rfl⟩ := Proc.outcome_lift_ok.1 hstep
  obtain ⟨hsupplier, hkyc⟩ := guardSubmitDraftKyc_ok_iff.1 hsupplier
  obtain ⟨⟨_, _⟩, _, hstep, h⟩ := Proc.outcome_bind_ok.1 h
  obtain ⟨-, hpair, rfl⟩ := outcome_queryNow_ok.1 hstep
  obtain ⟨rfl, rfl⟩ := Prod.mk.inj hpair
  obtain ⟨_, _, hstep, h⟩ := Proc.outcome_bind_ok.1 h
  obtain ⟨hchecks, rfl⟩ := Proc.outcome_lift_ok.1 hstep
  obtain ⟨buyer, hbuyer, hactive, htenor, hcredit⟩ := validateForSubmit_ok_iff.1 hchecks
  obtain ⟨_, w₁, hstep, h⟩ := Proc.outcome_bind_ok.1 h
  obtain ⟨-, hcommit⟩ := outcome_transactionOf_ok.1 hstep
  have hw₁ := executePromoteTransaction_ok hcommit
  obtain ⟨_, w₂, hlog, h⟩ := Proc.outcome_bind_ok.1 h
  have hw₂ := (passes_log hfault _).of_outcome hlog
  obtain ⟨_, _, hstep, h⟩ := Proc.outcome_bind_ok.1 h
  obtain ⟨-, rfl, rfl⟩ := outcome_query_ok.1 hstep
  obtain ⟨hread, rfl⟩ := Proc.outcome_lift_ok.1 h
  -- the row that is read back is the draft, promoted
  have hpromoted : (promote invoiceId i.now w.invoices).get? invoiceId = some _ :=
    Table.get?_update_of_get? hfound
  obtain ⟨row', hrow', href⟩ := get?_flagAbove cfg draft.faceValue hpromoted
  have hfinal : findInvoiceById invoiceId w₂ = some row' := by
    rw [findInvoiceById, hw₂, hw₁]
    exact hrow'
  rw [hfinal] at hread
  obtain rfl := Except.ok.inj hread
  refine ⟨⟨draft, supplier, buyer, hfound, hsupplier, hkyc, hbuyer, hactive, htenor, hcredit, ?_⟩, hfinal⟩
  rw [href]
  split <;> rfl

/-- The promotion of a draft fails on nothing. -/
theorem executePromoteTransaction_of (cfg : Config) (invoiceId userId : ℕ) (faceValue : ℤ)
    (req : Request) :
    ∃ w', executePromoteTransaction cfg invoiceId userId faceValue req i w = .ok ((), w') := by
  simp only [executePromoteTransaction, promoteToSubmitted, Txn.bind_ok, now_ok, Txn.write_ok,
    createAuditEntry_ok]
  by_cases habove : cfg.amlFlagThreshold < faceValue
  · rw [if_pos habove]
    exact ⟨_, (), _, ⟨_, _, ⟨rfl, rfl⟩, rfl⟩, (), _, rfl, rfl⟩
  · rw [if_neg habove]
    exact ⟨_, (), _, ⟨_, _, ⟨rfl, rfl⟩, rfl⟩, (), _, rfl, rfl⟩

theorem returns_submitDraft {invoiceId : ℕ} {draft : Invoice} (supplier : Supplier)
    (hi : i.fault = none) (hfound : findInvoiceById invoiceId w = some draft)
    (hstatus : draft.status = .draft) (hsupplier : Pricing.findSupplierByUserId userId w = some supplier)
    (howner : supplier.id = draft.supplierId) (hkyc : supplier.kycStatus = .approved)
    (hchecks : validateForSubmit cfg draft.faceValue draft.dueDate i.now
      (findBuyerWithLimits draft.buyerId w) = .ok ()) :
    (submitDraft cfg invoiceId userId req).Returns i w := by
  refine Proc.returns_bind (outcome_guardDraftOwnership_ok.2
    ⟨hi, hfound, hstatus, ⟨supplier, hsupplier, howner, rfl⟩, rfl, rfl⟩) ?_
  refine Proc.returns_bind (outcome_query_ok.2 ⟨hi, hsupplier, rfl⟩) ?_
  refine Proc.returns_bind (Proc.outcome_lift_ok.2 ⟨guardSubmitDraftKyc_ok_iff.2 ⟨rfl, hkyc⟩, rfl⟩) ?_
  refine Proc.returns_bind (outcome_queryNow_ok.2 ⟨hi, rfl, rfl⟩) ?_
  refine Proc.returns_bind (Proc.outcome_lift_ok.2 ⟨hchecks, rfl⟩) ?_
  obtain ⟨w₁, hcommit⟩ := executePromoteTransaction_of (i := i) (w := w) cfg invoiceId userId
    draft.faceValue req
  refine Proc.returns_bind (outcome_transactionOf_ok.2 ⟨hi, hcommit⟩) ?_
  obtain ⟨_, w₂, hlog, hw₂⟩ := passes_log hi "INVOICE_SUBMITTED" w₁
  refine Proc.returns_bind hlog (Proc.returns_bind (outcome_query_ok.2 ⟨hi, rfl, rfl⟩) ?_)
  have hpromoted : (promote invoiceId i.now w.invoices).get? invoiceId = some _ :=
    Table.get?_update_of_get? hfound
  obtain ⟨row, hrow, -⟩ := get?_flagAbove cfg draft.faceValue hpromoted
  have hfinal : findInvoiceById invoiceId w₂ = some row := by
    rw [findInvoiceById, hw₂, executePromoteTransaction_ok hcommit]
    exact hrow
  rw [hfinal]
  exact ⟨row, w₂, rfl⟩

/-- The draft way takes what `DraftAccepts`, and stores no EFRIS reference. -/
theorem outcome_throughDraft_ok {row : Invoice}
    (h : (throughDraft cfg userId data req).outcome i w = (.ok row, w')) :
    (i.fault = none ∧ DraftAccepts cfg i w userId data) ∧
      w'.invoices.get? i.uuid = some row ∧ row.uraEfrisRef = none := by
  obtain ⟨_, w₁, hsave, hsubmit⟩ := Proc.outcome_bind_ok.1 h
  obtain ⟨supplier, faceValue, hfault, rfl, hfound, hvalue, hrow, hinsert, hw₁⟩ :=
    outcome_saveDraft_ok hsave
  obtain ⟨⟨draft, supplier', buyer, hdraft, hfound', hkyc, hlisted, hactive, htenor, hcredit, href⟩,
    hfinal⟩ := outcome_submitDraft_ok hsubmit
  -- the draft that is read is the one that was saved
  have hsaved := Table.get?_insert? hinsert i.uuid
  rw [if_pos (by rfl)] at hsaved
  obtain rfl := Option.some.inj (hsaved.symm.trans hdraft)
  rw [hw₁] at hfound' hlisted
  obtain rfl := Option.some.inj (hfound.symm.trans hfound')
  obtain ⟨hpositive, -, hunused, -⟩ := invoiceViolation_eq_none.1 hrow.1
  exact ⟨⟨hfault, faceValue, supplier, buyer, hvalue,
    ⟨hfound, hkyc, hlisted, hactive, hcredit, hpositive, hunused, hrow.2⟩, htenor⟩, hfinal, href⟩

theorem returns_throughDraft (req : Request) (hi : i.fault = none)
    (h : DraftAccepts cfg i w userId data) :
    (throughDraft cfg userId data req).Returns i w := by
  obtain ⟨faceValue, supplier, buyer, hvalue, hadmissible, hallowed⟩ := h
  have hrow : Insertable w (data.draft supplier.id faceValue i) :=
    ⟨invoiceViolation_eq_none.2 ⟨hadmissible.positive, nofun, hadmissible.unused,
      Option.isSome_of_eq_some hadmissible.listed⟩, hadmissible.fresh⟩
  obtain ⟨invoiceId, w₁, hsave⟩ := returns_saveDraft req hi hadmissible.found hvalue hrow
  obtain ⟨supplier', faceValue', -, rfl, hfound', hvalue', -, hinsert, hw₁⟩ := outcome_saveDraft_ok hsave
  obtain rfl := Option.some.inj (hadmissible.found.symm.trans hfound')
  obtain rfl := Except.ok.inj (hvalue.symm.trans hvalue')
  have hsaved := Table.get?_insert? hinsert i.uuid
  rw [if_pos (by rfl)] at hsaved
  refine Proc.returns_bind hsave (returns_submitDraft supplier hi hsaved rfl ?_ rfl
    hadmissible.kyc (validateForSubmit_ok_iff.2 ⟨buyer, ?_, hadmissible.active, hallowed,
      hadmissible.credit⟩))
  · rw [hw₁]
    exact hadmissible.found
  · rw [hw₁]
    exact hadmissible.listed

end Drafts

/-! ## The law -/

/-- Both ways end with an invoice, or neither does; and then both leave the same row. -/
def SameLaw (cfg : Config) (i : Input) (w : World) (userId : ℕ) (data : InvoiceSubmission)
    (req : Request) : Prop :=
  ((throughDraft cfg userId data req).Returns i w ↔ (submitInvoice cfg userId data req).Returns i w) ∧
    ∀ invoiceId row w₁ w₂, (submitInvoice cfg userId data req).outcome i w = (.ok invoiceId, w₁) →
      (throughDraft cfg userId data req).outcome i w = (.ok row, w₂) →
        w₁.invoices.get? invoiceId = w₂.invoices.get? row.id

theorem returns_submitInvoice_iff {cfg : Config} {i : Input} {w : World} {userId : ℕ}
    {data : InvoiceSubmission}
    {req : Request} : (submitInvoice cfg userId data req).Returns i w ↔
      i.fault = none ∧ DirectAccepts cfg i w userId data := by
  constructor
  · rintro ⟨invoiceId, w', h⟩
    exact (outcome_submitInvoice_ok h).1
  · rintro ⟨hi, h⟩
    exact returns_submitInvoice req hi h

theorem returns_throughDraft_iff {cfg : Config} {i : Input} {w : World} {userId : ℕ}
    {data : InvoiceSubmission}
    {req : Request} : (throughDraft cfg userId data req).Returns i w ↔
      i.fault = none ∧ DraftAccepts cfg i w userId data := by
  constructor
  · rintro ⟨row, w', h⟩
    exact (outcome_throughDraft_ok h).1
  · rintro ⟨hi, h⟩
    exact returns_throughDraft req hi h

/-- What each way takes; and that they follow the same law only where neither takes anything. -/
theorem sameLaw_iff (cfg : Config) (i : Input) (w : World) (userId : ℕ) (data : InvoiceSubmission)
    (req : Request) :
    ((submitInvoice cfg userId data req).Returns i w ↔
        i.fault = none ∧ DirectAccepts cfg i w userId data) ∧
      ((throughDraft cfg userId data req).Returns i w ↔
        i.fault = none ∧ DraftAccepts cfg i w userId data) ∧
      (SameLaw cfg i w userId data req ↔
        i.fault ≠ none ∨ ¬DirectAccepts cfg i w userId data ∧ ¬DraftAccepts cfg i w userId data) := by
  refine ⟨returns_submitInvoice_iff, returns_throughDraft_iff, ?_⟩
  rw [SameLaw, returns_submitInvoice_iff, returns_throughDraft_iff]
  constructor
  · rintro ⟨hiff, hrows⟩
    by_cases hi : i.fault = none
    · refine Or.inr ?_
      -- were both to take it, the rows would have the same EFRIS reference
      have hneither : ¬DirectAccepts cfg i w userId data := by
        intro haccepts
        obtain ⟨invoiceId, w₁, h₁⟩ := returns_submitInvoice req hi haccepts
        obtain ⟨row, w₂, h₂⟩ := returns_throughDraft req hi (hiff.2 ⟨hi, haccepts⟩).2
        obtain ⟨-, row₁, hrow₁, href₁⟩ := outcome_submitInvoice_ok h₁
        obtain ⟨-, hrow₂, href₂⟩ := outcome_throughDraft_ok h₂
        have hsame := hrows invoiceId row w₁ w₂ h₁ h₂
        rw [Table.key_of_get? hrow₂, hrow₁, hrow₂, Option.some.injEq] at hsame
        rw [hsame, href₂] at href₁
        cases href₁
      exact ⟨hneither, fun haccepts => hneither (hiff.1 ⟨hi, haccepts⟩).2⟩
    · exact Or.inl hi
  · intro h
    have hdirect' : ¬(i.fault = none ∧ DirectAccepts cfg i w userId data) := by
      rintro ⟨hi, haccepts⟩
      rcases h with hfault | ⟨hneither, -⟩
      · exact hfault hi
      · exact hneither haccepts
    have hdraft' : ¬(i.fault = none ∧ DraftAccepts cfg i w userId data) := by
      rintro ⟨hi, haccepts⟩
      rcases h with hfault | ⟨-, hneither⟩
      · exact hfault hi
      · exact hneither haccepts
    refine ⟨iff_of_false hdraft' hdirect', fun invoiceId row w₁ w₂ h₁ _ => ?_⟩
    exact (hdirect' (outcome_submitInvoice_ok h₁).1).elim

/-- An approved supplier that has sent the buyer 60,000,000 shillings within the last 30 days. -/
def belowThreshold : World :=
  { World.empty with
    suppliers :=
      .single { id := 3, userId := 9, preferredPaymentMethod := "EFT", kycStatus := .approved }
    buyers := .single { id := 5, risMarginRate := 0, approvedLimit := 1000000000 }
    invoices := .single
      { id := 1, supplierId := 3, buyerId := 5, faceValue := 60000000, advanceAmount := none
        discountAmount := none, netPaymentToSupplier := none, status := .submitted, tenorDays := some 30
        dueDate := 20030, amlFlagged := false, amlClearedAt := none, pricingAcceptedAt := none
        pricingAcceptedBy := none, pricingRejectedAt := none, pricingRejectionReason := none
        pricingDisputedAt := none, fundedAt := none, invoiceNumber := "INV-1"
        createdAt := 19999 * dayMs } }

/-- Another 50,000,000, due in 30 days. -/
def secondHalf : InvoiceSubmission where
  invoiceNumber := "INV-2"
  buyerId := 5
  faceValue := 50000000
  dueDate := 20030 * dayMs
  description := "Second half"
  uraEfrisRef := "EFRIS-2"

/-- Refused as structuring when it is submitted at once, the invoice is taken as a draft. -/
theorem structuring_passes_as_draft :
    ¬SameLaw {} { now := 20000 * dayMs, uuid := 2 } belowThreshold 9 secondHalf {} := by
  intro h
  have hdraft : (throughDraft {} 9 secondHalf {}).Returns { now := 20000 * dayMs, uuid := 2 }
      belowThreshold := by decide +kernel
  have hdirect : ¬(submitInvoice {} 9 secondHalf {}).Returns { now := 20000 * dayMs, uuid := 2 }
      belowThreshold := by decide
  exact hdirect (h.1.1 hdraft)

end Ris.Invoices
