import RisPlatform.Approvals.Quorum
import RisPlatform.Common.Constraints

/-!
# What the migrations leave on `approvals`

The statements of the migrations 001, 004, 007 and 013 about `approvals`, as far as they are about the
texts of a row. 004 creates a table that is there. 007 adds `chk_approvals_tier`, which knows three tiers;
013 means to replace it, but looks for a name that begins with `approvals_tier` and finds none, so both
constraints stand. A row of `TIER_4` is refused, and no decision on an invoice of Tier 4 is ever recorded.
-/

namespace Ris.Approvals

open Relational Concurrent

/-! ## The migrations -/

/-- `001_initial_schema.sql`. -/
def initialSchema : List SchemaChange :=
  [.createTable
    [("tier", .enum ["auto", "credit_manager", "credit_committee"]),
      ("decision", .enum ["approved", "rejected", "escalated"]), ("comments", .text)]
    [⟨"chk_approvals_comments_length", .minLength "comments" 1⟩]]

/-- `004_create_approvals_table.sql`, with the names that PostgreSQL makes up. -/
def createApprovalsTable : List SchemaChange :=
  [.createTableIfNotExists
    [("tier", .varchar 10), ("decision", .varchar 10), ("comments", .text)]
    [⟨"approvals_tier_check", .oneOf "tier" ["AUTO", "TIER_2", "TIER_3"]⟩,
      ⟨"approvals_decision_check", .oneOf "decision" ["APPROVED", "REJECTED", "ESCALATED"]⟩]]

/-- The constraint of the tier in 007. -/
def chkApprovalsTier : Check := ⟨"chk_approvals_tier", .oneOf "tier" ["AUTO", "TIER_2", "TIER_3"]⟩

/-- `007_reconcile_schema_conflicts.sql` before it adds the constraint of the tier. -/
def reconcileTypes : List SchemaChange :=
  [.dropConstraintIfExists "approvals_approver_id_fkey", .alterColumnType "tier" (.varchar 10)]

/-- `007_reconcile_schema_conflicts.sql` after that. -/
def reconcileDecision : List SchemaChange :=
  [.alterColumnType "decision" (.varchar 10),
    .addConstraint
      ⟨"chk_approvals_decision", .oneOf "decision" ["APPROVED", "REJECTED", "ESCALATED"]⟩]

/-- `013_checkers_gap_closure.sql`. -/
def checkersGapClosure : List SchemaChange :=
  [.addColumnIfNotExists "credit_memo" .text
      ⟨"approvals_credit_memo_check", .nullOrLength "credit_memo" 50 5000⟩,
    .dropConstraintLike "approvals_tier%",
    .addConstraint ⟨"approvals_tier_check", .oneOf "tier" ["AUTO", "TIER_2", "TIER_3", "TIER_4"]⟩]

/-- The migrations in their order. -/
def migrations : List SchemaChange :=
  initialSchema ++ createApprovalsTable ++ reconcileTypes ++
    .addConstraint chkApprovalsTier :: (reconcileDecision ++ checkersGapClosure)

/-- What they leave. -/
def approvalsTable : TableDef where
  columns :=
    [("tier", .varchar 10), ("decision", .varchar 10), ("comments", .text), ("credit_memo", .text)]
  checks :=
    [⟨"chk_approvals_comments_length", .minLength "comments" 1⟩,
      chkApprovalsTier,
      ⟨"chk_approvals_decision", .oneOf "decision" ["APPROVED", "REJECTED", "ESCALATED"]⟩,
      ⟨"approvals_credit_memo_check", .nullOrLength "credit_memo" 50 5000⟩,
      ⟨"approvals_tier_check", .oneOf "tier" ["AUTO", "TIER_2", "TIER_3", "TIER_4"]⟩]

theorem create_migrations : create? migrations = some approvalsTable := by decide

/-- 013 drops no constraint of 007. -/
theorem chkApprovalsTier_mem : chkApprovalsTier ∈ approvalsTable.checks := by
  have hkeep : ∀ change ∈ reconcileDecision ++ checkersGapClosure,
      change.drops chkApprovalsTier.name = false := by decide
  have hmigrated : TableDef.migrate?
      { columns :=
          [("tier", .enum ["auto", "credit_manager", "credit_committee"]),
            ("decision", .enum ["approved", "rejected", "escalated"]), ("comments", .text)]
        checks := [⟨"chk_approvals_comments_length", .minLength "comments" 1⟩] }
      ((createApprovalsTable ++ reconcileTypes) ++
        .addConstraint chkApprovalsTier :: (reconcileDecision ++ checkersGapClosure)) =
      some approvalsTable := create_migrations
  exact TableDef.mem_checks_of_added hkeep hmigrated

/-! ## The service's rows -/

/-- The texts of a row. -/
def texts (row : Approval) : Texts
  | "tier" => some row.tier.text
  | "decision" => some row.decision.text
  | "comments" => some row.comments
  | "credit_memo" => row.creditMemo
  | _ => none

/-- The constraint of 007 refuses the rows of Tier 4 and no others. -/
theorem chkApprovalsTier_refuses_iff {row : Approval} :
    chkApprovalsTier.Refuses (texts row) ↔ row.tier = .tier4 := by
  cases htier : row.tier <;>
    simp [Check.Refuses, chkApprovalsTier, Test.eval, texts, htier, ApprovalTier.text]

/-- The configuration with the schema that the migrations leave. -/
def migrated (cfg : Config) : Config :=
  { cfg with tier4Refused := chkApprovalsTier ∈ approvalsTable.checks }

@[simp] theorem tier4Refused_migrated (cfg : Config) : (migrated cfg).tier4Refused = true :=
  decide_eq_true chkApprovalsTier_mem

/-- An insert fails with the name of a constraint that refuses its row. -/
theorem refuses_of_approvalViolation {cfg : Config} {row : Approval} {message : String}
    (h : approvalViolation (migrated cfg) row = some message) :
    ∃ c ∈ approvalsTable.checks, c.Refuses (texts row) ∧
      message = "new row violates check constraint " ++ c.name := by
  unfold approvalViolation at h
  split at h
  · rename_i hmemo
    obtain ⟨memo, hmemo, hlength⟩ := hmemo
    refine ⟨⟨"approvals_credit_memo_check", .nullOrLength "credit_memo" 50 5000⟩, ?_, ?_, ?_⟩
    · simp [approvalsTable]
    · rw [Option.mem_def] at hmemo
      simp only [Check.Refuses, Test.eval, texts, hmemo, Option.some.injEq, decide_eq_false_iff_not]
      omega
    · exact (Option.some.inj h).symm
  · split at h
    · rename_i hcomments
      refine ⟨⟨"chk_approvals_comments_length", .minLength "comments" 1⟩, ?_, ?_, ?_⟩
      · simp [approvalsTable]
      · simpa [Check.Refuses, Test.eval, texts] using hcomments
      · exact (Option.some.inj h).symm
    · split at h
      · rename_i htier
        exact ⟨chkApprovalsTier, chkApprovalsTier_mem, chkApprovalsTier_refuses_iff.2 htier.2,
          (Option.some.inj h).symm⟩
      · cases h

theorem not_violates {cfg : Config} {row : Approval} (h : approvalViolation (migrated cfg) row = none) :
    (¬∃ memo ∈ row.creditMemo, memo.length < 50 ∨ 5000 < memo.length) ∧ ¬row.comments.length < 1 ∧
      row.tier ≠ .tier4 := by
  unfold approvalViolation at h
  split at h
  · cases h
  · rename_i hmemo
    split at h
    · cases h
    · rename_i hcomments
      split at h
      · cases h
      · rename_i htier
        exact ⟨hmemo, hcomments, fun htier4 => htier ⟨tier4Refused_migrated cfg, htier4⟩⟩

/-- An insert goes through exactly if the table that the migrations leave takes the row. -/
theorem approvalViolation_eq_none_iff {cfg : Config} {row : Approval} :
    approvalViolation (migrated cfg) row = none ↔ approvalsTable.Takes (texts row) := by
  constructor
  · intro h
    obtain ⟨hmemo, hcomments, htier⟩ := not_violates h
    constructor
    · intro column hcolumn value hvalue
      simp only [approvalsTable, List.mem_cons, List.not_mem_nil, or_false] at hcolumn
      rcases hcolumn with rfl | rfl | rfl | rfl
      · obtain rfl := Option.some.inj hvalue
        cases row.tier <;> decide
      · obtain rfl := Option.some.inj hvalue
        cases row.decision <;> decide
      · rfl
      · rfl
    · intro c hc hrefuses
      simp only [approvalsTable, List.mem_cons, List.not_mem_nil, or_false] at hc
      rcases hc with rfl | rfl | rfl | rfl | rfl
      · exact hcomments (by simpa [Check.Refuses, Test.eval, texts] using hrefuses)
      · exact htier (chkApprovalsTier_refuses_iff.1 hrefuses)
      · cases hdecision : row.decision <;>
          simp [Check.Refuses, Test.eval, texts, hdecision, ApprovalDecision.text] at hrefuses
      · cases hm : row.creditMemo with
        | none => simp [Check.Refuses, Test.eval, texts, hm] at hrefuses
        | some memo =>
          simp only [Check.Refuses, Test.eval, texts, hm, Option.some.injEq,
            decide_eq_false_iff_not] at hrefuses
          exact hmemo ⟨memo, hm, by omega⟩
      · cases htier' : row.tier <;>
          simp [Check.Refuses, Test.eval, texts, htier', ApprovalTier.text] at hrefuses
  · intro htakes
    cases h : approvalViolation (migrated cfg) row with
    | none => rfl
    | some message =>
      obtain ⟨c, hc, hrefuses, -⟩ := refuses_of_approvalViolation h
      exact absurd hrefuses (htakes.checked c hc)

/-! ## Decisions of Tier 4 -/

/-- No statement fails, and no other review holds the invoice. -/
structure Unlocked (i : Input) : Prop where
  healthy : Healthy i
  free : i.lockNotAvailable = false

/-- The error is that of an insert that a constraint of the table refuses. -/
def RefusedByCheck (e : RisError) : Prop :=
  ∃ c ∈ approvalsTable.checks, e = .runtime ("new row violates check constraint " ++ c.name)

/-- The transaction fails at such an insert. -/
def Refused {α : Type} (i : Input) (w : World) (x : Tx α) : Prop :=
  ∃ e, x i w = .error e ∧ RefusedByCheck e

/-- The service's checks before the transaction of a decision pass. -/
structure Reviewable (approver : Approver) (invoiceId : ℕ) (w : World) : Prop where
  priced : statusOf invoiceId w = some .priced
  summary : validateReviewSummary .tier4 approver.reviewSummary = .ok ()
  memo : validateCreditMemo .tier4 approver.creditMemo = .ok ()

section Transactions

variable {α β : Type} {cfg : Config} {i : Input} {w w' : World} {approver : Approver}

theorem Refused.bind {x : Tx α} {f : α → Tx β} (h : Refused i w x) : Refused i w (x >>= f) := by
  obtain ⟨e, hx, hrefused⟩ := h
  exact ⟨e, Txn.bind_error.2 (Or.inl hx), hrefused⟩

theorem refused_bind {x : Tx α} {f : α → Tx β} {a : α} (hx : x i w = .ok (a, w'))
    (h : Refused i w' (f a)) : Refused i w (x >>= f) := by
  obtain ⟨e, hf, hrefused⟩ := h
  exact ⟨e, Txn.bind_error.2 (Or.inr ⟨a, w', hx, hf⟩), hrefused⟩

theorem refused_createApprovalWithClient {row : Approval} (htier : row.tier = .tier4) :
    Refused i w (createApprovalWithClient (migrated cfg) row) := by
  cases h : approvalViolation (migrated cfg) row with
  | none => exact absurd htier (not_violates h).2.2
  | some message =>
    obtain ⟨c, hc, -, rfl⟩ := refuses_of_approvalViolation h
    refine refused_bind (Txn.read_ok.2 ⟨rfl, rfl⟩) ⟨_, ?_, c, hc, rfl⟩
    rw [h]
    rfl

theorem lockInvoice_unlocked {r : Invoice} (hi : Unlocked i) (hr : w.invoices.get? r.id = some r) :
    lockInvoice r.id i w = .ok ((), w) := by
  have hread : lockInvoiceForReview r.id i w = .ok (some r, w) := by
    refine Txn.bind_ok.2 ⟨i, w, rfl, ?_⟩
    rw [if_neg (by simp [hi.free])]
    exact Txn.read_ok.2 ⟨hr, rfl⟩
  exact Txn.bind_ok.2 ⟨some r, w, hread, rfl⟩

/-- The transaction of an approval by an eligible officer fails at its insert. -/
theorem refused_executeApprovalTxn {invoice : Invoice} {riskScore : RiskScore} {req : Request}
    (hi : Unlocked i) (hinvoice : w.invoices.get? invoice.id = some invoice)
    (hofficer : validateTier4Officer approver (getApprovalsByInvoiceId invoice.id w) = .ok ()) :
    Refused i w (executeApprovalTxn (migrated cfg) invoice riskScore .tier4 approver req) := by
  refine refused_bind (lockInvoice_unlocked hi hinvoice) (refused_bind (Txn.read_ok.2 ⟨rfl, rfl⟩) ?_)
  refine Refused.bind (refused_bind (Txn.liftM_ok.2 ⟨hofficer, rfl⟩) ?_)
  exact refused_bind (Txn.input_ok.2 ⟨rfl, rfl⟩) (refused_createApprovalWithClient rfl).bind

/-- So does the transaction of a rejection. -/
theorem refused_executeRejectionTxn {invoice : Invoice} {req : Request} (hi : Unlocked i)
    (hinvoice : w.invoices.get? invoice.id = some invoice) :
    Refused i w (executeRejectionTxn (migrated cfg) invoice .tier4 approver req) := by
  refine refused_bind (lockInvoice_unlocked hi hinvoice) ?_
  exact refused_bind (Txn.input_ok.2 ⟨rfl, rfl⟩) (refused_createApprovalWithClient rfl).bind

end Transactions

section Calls

variable {cfg : Config} {w : World} {invoiceId : ℕ} {approver : Approver} {req : Request}
  {α : Type} {g : Invoice × RiskScore → Call α} {Q : α → World → Prop} {E : RisError → World → Prop}

theorem Reviewable.found (h : Reviewable approver invoiceId w) {tier : ApprovalTier}
    (htier : tierOf w invoiceId = some tier) :
    ∃ invoice riskScore, w.invoices.get? invoiceId = some invoice ∧ invoice.status = .priced ∧
      getRiskScoreForApproval invoiceId w = some riskScore ∧ determineTier invoice riskScore = tier := by
  obtain ⟨invoice, hinvoice, hscore⟩ := Option.bind_eq_some_iff.1 htier
  obtain ⟨riskScore, hriskScore, hdetermined⟩ := Option.bind_eq_some_iff.1 hscore
  have hpriced := h.priced
  unfold statusOf at hpriced
  rw [show w.invoices.get? invoiceId = some invoice from hinvoice, Option.map_some] at hpriced
  exact ⟨invoice, riskScore, hinvoice, Option.some.inj hpriced, hriskScore, Option.some.inj hdetermined⟩

/-- The two reads of a decision, for a priced invoice. -/
theorem ends_fetchAndValidate {invoice : Invoice} {riskScore : RiskScore}
    (hinvoice : w.invoices.get? invoiceId = some invoice) (hpriced : invoice.status = .priced)
    (hscore : getRiskScoreForApproval invoiceId w = some riskScore)
    (h : (g (invoice, riskScore)).Ends Unlocked Q E w) :
    (fetchAndValidate invoiceId >>= g).Ends Unlocked Q E w := by
  have hhealthy : ∀ i, Unlocked i → Healthy i := fun i hi => hi.healthy
  refine Proc.Ends.bind (R := fun x d => x = (invoice, riskScore) ∧ d = w) ?_ ?_
  · refine ends_healthy_query_bind hhealthy (ends_bind_ok (a := invoice) ?_ ?_)
    · show validateInvoice invoiceId (w.invoices.get? invoiceId) = .ok invoice
      simp [hinvoice, validateInvoice, hpriced, pure, Except.pure]
    · refine ends_healthy_query_bind hhealthy (ends_bind_ok (a := riskScore) ?_ ?_)
      · rw [hscore]
        rfl
      · exact Proc.ends_pure ⟨rfl, rfl⟩
  · rintro x d ⟨rfl, rfl⟩
    exact h

/-- What an officer gets who decides on an invoice of Tier 4: the error of the insert. The store is left
alone. -/
def GetsRefused {α : Type} (p : Call α) (w : World) : Prop :=
  p.Ends Unlocked (fun _ _ => False) (fun e w' => RefusedByCheck e ∧ w' = w) w

theorem getsRefused_approveInvoice (htier : tierOf w invoiceId = some .tier4)
    (hreview : Reviewable approver invoiceId w)
    (hofficer : validateTier4Officer approver (getApprovalsByInvoiceId invoiceId w) = .ok ()) :
    GetsRefused (approveInvoice (migrated cfg) invoiceId approver req) w := by
  obtain ⟨invoice, riskScore, hinvoice, hpriced, hscore, hdetermined⟩ := hreview.found htier
  obtain rfl : invoice.id = invoiceId := Table.key_of_get? hinvoice
  refine ends_fetchAndValidate hinvoice hpriced hscore ?_
  refine ends_bind_ok (a := ()) (by rw [hdetermined]; exact hreview.summary) ?_
  refine ends_bind_ok (a := ()) (by rw [hdetermined]; exact hreview.memo) ?_
  refine ends_enqueuingTransaction_bind (fun i hi => hi.healthy) fun i hi => ?_
  obtain ⟨e, he, hrefused⟩ := refused_executeApprovalTxn hi hinvoice hofficer
  exact ⟨e, by rw [hdetermined]; exact he, hrefused, rfl⟩

theorem getsRefused_rejectInvoice (htier : tierOf w invoiceId = some .tier4)
    (hreview : Reviewable approver invoiceId w) :
    GetsRefused (rejectInvoice (migrated cfg) invoiceId approver req) w := by
  obtain ⟨invoice, riskScore, hinvoice, hpriced, hscore, hdetermined⟩ := hreview.found htier
  obtain rfl : invoice.id = invoiceId := Table.key_of_get? hinvoice
  refine ends_fetchAndValidate hinvoice hpriced hscore ?_
  refine ends_bind_ok (a := ()) (by rw [hdetermined]; exact hreview.summary) ?_
  refine ends_bind_ok (a := ()) (by rw [hdetermined]; exact hreview.memo) ?_
  refine ends_enqueuingTransaction_bind (fun i hi => hi.healthy) fun i hi => ?_
  obtain ⟨e, he, hrefused⟩ := refused_executeRejectionTxn hi hinvoice
  exact ⟨e, by rw [hdetermined]; exact he, hrefused, rfl⟩

end Calls

/-! ## Runs -/

/-- No row of Tier 4 is taken. -/
theorem not_tierAccepted (cfg : Config) : ¬TierAccepted (migrated cfg) .tier4 := by
  rintro ⟨row, htier, hnone⟩
  exact (not_violates hnone).2.2 htier

/-- The step lemma: no event is a decision on an invoice of Tier 4. -/
theorem Effect.undecided {cfg : Config} {w₀ w w' : World} {e : Event} {invoiceId : ℕ}
    (heff : Effect (migrated cfg) w₀ w e w') (htier : tierOf w₀ invoiceId = some .tier4) :
    e.approval? invoiceId = none ∧ e.rejection? invoiceId = none := by
  cases heff with
  | read | threw | logged | leftJobs | reset => exact ⟨rfl, rfl⟩
  | approval i userId role quorumReached tier now w' htier' h =>
    refine ⟨?_, rejection?_of_approval⟩
    rw [approval?_of_approval, if_neg]
    rintro rfl
    obtain rfl : .tier4 = tier := Option.some.inj (htier.symm.trans htier')
    exact not_tierAccepted cfg h.accepted
  | rejection i userId rejects tier now w' htier' h =>
    refine ⟨approval?_of_rejection, ?_⟩
    rw [rejection?_of_rejection, if_neg]
    rintro rfl
    obtain rfl : .tier4 = tier := Option.some.inj (htier.symm.trans htier')
    exact not_tierAccepted cfg h.accepted

/-- What a step of the docket's machine that is no decision leaves alone. -/
theorem Docket.Step.undecided {cfg : Config} {tier : ApprovalTier} {invoiceId : ℕ} {d d' : Docket}
    {e : Event} (h : d.Step cfg tier invoiceId e d')
    (he : e.approval? invoiceId = none ∧ e.rejection? invoiceId = none) :
    d'.status = d.status ∧ d'.decisions = d.decisions := by
  cases h with
  | elsewhere | leftJobs | reset => exact ⟨rfl, rfl⟩
  | approval _ userId role row happroval =>
    rw [he.1] at happroval
    cases happroval
  | rejection _ userId rejects row hrejection =>
    rw [he.2] at hrejection
    cases hrejection

/-- The run lemma: the invoice keeps its status and has the decisions that it had at the start. -/
theorem undecided_of_reaches {cfg : Config} {w : World} {invoiceId : ℕ}
    (htier : tierOf w invoiceId = some .tier4) {s : Sys World Input Event RisError}
    (hs : Reaches (program (migrated cfg)) always (Sys.init w) s) :
    tierOf s.store invoiceId = some .tier4 ∧ statusOf invoiceId s.store = statusOf invoiceId w ∧
      getApprovalsByInvoiceId invoiceId s.store = getApprovalsByInvoiceId invoiceId w := by
  refine Protocol.invariant (program_implements (migrated cfg) w) (Inv.init w)
    (P := fun s => tierOf s.store invoiceId = some .tier4 ∧
      statusOf invoiceId s.store = statusOf invoiceId w ∧
      getApprovalsByInvoiceId invoiceId s.store = getApprovalsByInvoiceId invoiceId w)
    ⟨htier, rfl, rfl⟩ ?_ hs
  rintro s t e d ⟨hbefore, hstatus, hdecisions⟩ hmove
  cases e with
  | none =>
    obtain rfl : d = s.store := hmove.effect
    exact ⟨hbefore, hstatus, hdecisions⟩
  | some e =>
    obtain ⟨hstep, -, hafter⟩ := tieredStep_of_moves hmove htier
    obtain ⟨hstatus', hdecisions'⟩ := hstep.undecided (Effect.undecided hmove.effect htier)
    exact ⟨hafter, hstatus'.trans hstatus, hdecisions'.trans hdecisions⟩

/-- **Tier 4 is never stored.** Whatever run the service has made, an invoice of Tier 4 has the status and
the decisions that it had at the start; and an approval by an eligible officer and a rejection that pass
every check of the service are refused by a constraint of the table. -/
theorem tier4_never_stored (cfg : Config) (w : World) (invoiceId : ℕ)
    (htier : tierOf w invoiceId = some .tier4) (s : Sys World Input Event RisError)
    (hs : Reaches (program (migrated cfg)) always (Sys.init w) s) :
    statusOf invoiceId s.store = statusOf invoiceId w ∧
      getApprovalsByInvoiceId invoiceId s.store = getApprovalsByInvoiceId invoiceId w ∧
      ∀ (approver : Approver) (req : Request), Reviewable approver invoiceId s.store →
        (validateTier4Officer approver (getApprovalsByInvoiceId invoiceId s.store) = .ok () →
          GetsRefused (approveInvoice (migrated cfg) invoiceId approver req) s.store) ∧
          GetsRefused (rejectInvoice (migrated cfg) invoiceId approver req) s.store := by
  obtain ⟨hbefore, hstatus, hdecisions⟩ := undecided_of_reaches htier hs
  refine ⟨hstatus, hdecisions, fun approver req hreview => ⟨fun hofficer => ?_, ?_⟩⟩
  · exact getsRefused_approveInvoice hbefore hreview hofficer
  · exact getsRefused_rejectInvoice hbefore hreview

theorem reviewable_tier4World (userId : ℕ) (role : String) :
    Reviewable (exampleApprover userId role) 1 tier4World where
  priced := by decide
  summary := rfl
  memo := by
    have hlong : ¬trimmedLength exampleMemo < 50 := by decide
    simp [validateCreditMemo, exampleApprover, hlong, pure, Except.pure]

/-- The call `t` is an approval that fails in its transaction. -/
def attemptAlone (t userId : ℕ) (role : String) : List (Act Op Input) :=
  Act.call (.approveInvoice 1 (exampleApprover userId role) {}) t (List.replicate 3 {})

/-- A credit officer has tried to approve the invoice, and a management user cannot do it either. -/
theorem tier4_never_stored_after_attempt :
    ∃ s : Sys World Input Event RisError, s.hist ≠ [] ∧
      getApprovalsByInvoiceId 1 s.store = [] ∧
      GetsRefused (approveInvoice (migrated {}) 1 (exampleApprover 8 "management") {}) s.store := by
  obtain ⟨s, hs, hP⟩ := exists_reaches (program (migrated {})) always (Sys.init tier4World)
    (attemptAlone 0 7 "credit_officer")
    (fun s => s.hist ≠ [] ∧ statusOf 1 s.store = some .priced) (by decide)
  obtain ⟨hhist, hpriced⟩ := of_decide_eq_true hP
  obtain ⟨-, hdecisions, hrefused⟩ := tier4_never_stored {} tier4World 1 (by decide) s hs
  have hnone : getApprovalsByInvoiceId 1 s.store = [] := hdecisions
  have hreview : Reviewable (exampleApprover 8 "management") 1 s.store :=
    ⟨hpriced, rfl, (reviewable_tier4World 8 "management").memo⟩
  refine ⟨s, hhist, hnone, (hrefused _ {} hreview).1 ?_⟩
  rw [hnone]
  rfl

/-- A credit officer and a management user approve an invoice of Tier 4, one after the other. Both pass
every check, both get an error of the database, and no row is stored. -/
theorem tier4_approvals_lost :
    (∀ role ∈ ["credit_officer", "management"], ∀ userId,
      Reviewable (exampleApprover userId role) 1 tier4World ∧
        validateTier4Officer (exampleApprover userId role) [] = .ok ()) ∧
      ∃ s : Sys World Input Event RisError,
        Reaches (program (migrated {})) always (Sys.init tier4World) s ∧
          s.hist = [(1, none), (1, some .threw), (1, some .read), (1, some .read), (0, none),
            (0, some .threw), (0, some .read), (0, some .read)] ∧
          getApprovalsByInvoiceId 1 s.store = [] ∧ statusOf 1 s.store = some .priced := by
  refine ⟨fun role hrole userId => ⟨reviewable_tier4World userId role, ?_⟩, ?_⟩
  · simp only [List.mem_cons, List.not_mem_nil, or_false] at hrole
    rcases hrole with rfl | rfl <;> rfl
  · obtain ⟨s, hs, hP⟩ := exists_reaches (program (migrated {})) always (Sys.init tier4World)
      (attemptAlone 0 7 "credit_officer" ++ attemptAlone 1 8 "management")
      (fun s => s.hist = [(1, none), (1, some .threw), (1, some .read), (1, some .read), (0, none),
          (0, some .threw), (0, some .read), (0, some .read)] ∧
        (getApprovalsByInvoiceId 1 s.store).isEmpty = true ∧ statusOf 1 s.store = some .priced)
      (by decide)
    obtain ⟨hhist, hnone, hpriced⟩ := of_decide_eq_true hP
    exact ⟨s, hs, hhist, List.isEmpty_iff.1 hnone, hpriced⟩

end Ris.Approvals
