import Mathlib.Data.Finset.Card
import RisPlatform.Approvals.Quorum

/-!
# Tiers and committees

A larger or riskier invoice is in no lower tier, and a higher tier needs no fewer people. How many it
needs depends on who may approve: a management user alone makes the quorum of Tier 3, by two approvals,
and without a management user there is no quorum in Tier 4.
-/

namespace Ris.Approvals

open Relational Concurrent

/-! ## The tier of an invoice -/

/-- The place of a tier in their order. -/
def tierLevel : ApprovalTier → ℕ
  | .auto => 0
  | .tier2 => 1
  | .tier3 => 2
  | .tier4 => 3

/-- The first invoice is at most as large and as risky as the second. -/
structure NoRiskier (invoice invoice' : Invoice) (riskScore riskScore' : RiskScore) : Prop where
  faceValue : invoice.faceValue ≤ invoice'.faceValue
  score : riskScore'.finalScore ≤ riskScore.finalScore
  amlFlagged : invoice.amlFlagged = true → invoice'.amlFlagged = true

theorem determineTier_mono {invoice invoice' : Invoice} {riskScore riskScore' : RiskScore}
    (h : NoRiskier invoice invoice' riskScore riskScore') :
    tierLevel (determineTier invoice riskScore) ≤ tierLevel (determineTier invoice' riskScore') := by
  obtain ⟨hface, hscore, hflag⟩ := h
  unfold determineTier
  -- each test that the first invoice meets, the second meets or comes later
  by_cases hfour : 200000000 < invoice'.faceValue ∨ riskScore'.finalScore < 30
  · simp only [if_pos hfour, tierLevel]
    split_ifs <;> simp
  · have hfour' : ¬(200000000 < invoice.faceValue ∨ riskScore.finalScore < 30) := by omega
    simp only [if_neg hfour, if_neg hfour']
    by_cases hthree : 50000000 < invoice'.faceValue ∨ riskScore'.finalScore < 50
    · simp only [if_pos hthree, tierLevel]
      split_ifs <;> simp
    · have hthree' : ¬(50000000 < invoice.faceValue ∨ riskScore.finalScore < 50) := by omega
      simp only [if_neg hthree, if_neg hthree']
      by_cases htwo : 10000000 ≤ invoice.faceValue ∨
          50 ≤ riskScore.finalScore ∧ riskScore.finalScore < 75 ∨ invoice.amlFlagged = true
      · have htwo' : 10000000 ≤ invoice'.faceValue ∨
            50 ≤ riskScore'.finalScore ∧ riskScore'.finalScore < 75 ∨ invoice'.amlFlagged = true := by
          rcases htwo with h | h | h
          · exact Or.inl (h.trans hface)
          · exact Or.inr (Or.inl (by omega))
          · exact Or.inr (Or.inr (hflag h))
        rw [if_pos htwo, if_pos htwo']
      · rw [if_neg htwo]
        exact Nat.zero_le _

/-! ## Approvals are by people -/

/-- An approval that is committed was given by a user: the audit row has a `UUID`. -/
def ByUser (e : Event) : Prop :=
  ∀ invoiceId, ∀ approval ∈ e.approval? invoiceId, ∃ user, approval.1 = .user user

/-- Every event is by a user. -/
def users : Protocol World Event where
  inv _ := True
  effect s _ e d :=
    match e with
    | some event => ByUser event
    | none => d = s.store
  inv_effect _ _ := trivial
  return_stable _ _ _ _ := rfl

theorem quiet_users : Quiet users where
  read _ _ := fun _ _ h => by cases h
  threw _ _ := fun _ _ h => by cases h
  logged _ _ _ := fun _ _ h => by cases h

theorem uuid_of_executeApprovalTxn {cfg : Config} {invoice : Invoice} {riskScore : RiskScore}
    {tier : ApprovalTier} {approver : Approver} {req : Request} {result : ApprovalResult} {i : Input}
    {w w' : World} (h : executeApprovalTxn cfg invoice riskScore tier approver req i w = .ok (result, w')) :
    ∃ user, approver.userId = .user user := by
  simp only [executeApprovalTxn, auditApproval, Txn.bind_ok, Txn.liftM_ok] at h
  obtain ⟨_, _, -, _, _, -, _, _, -, _, _, ⟨user, _, ⟨huser, -⟩, -⟩, -⟩ := h
  cases hactor : approver.userId with
  | user user => exact ⟨user, rfl⟩
  | system =>
    rw [hactor] at huser
    cases huser

theorem byUser_approval {invoiceId : ℕ} {actor : Actor} {role : String} {quorumReached : Bool}
    (h : ∃ user, actor = .user user) :
    ByUser (if quorumReached = true then .invoiceApproved invoiceId actor role
      else .approvalRecorded invoiceId actor role) := by
  intro j approval happroval
  rw [approval?_of_approval] at happroval
  split at happroval
  · obtain rfl := Option.mem_some_iff.1 happroval
    exact h
  · cases happroval

theorem byUser_rejection {invoiceId : ℕ} {actor : Actor} {rejects : Bool} :
    ByUser (if rejects = true then .invoiceRejected invoiceId actor
      else .rejectionRecorded invoiceId actor) := by
  intro j approval happroval
  rw [approval?_of_rejection] at happroval
  cases happroval

theorem free_users_fetchAndValidate (invoiceId : ℕ) : Free users (fetchAndValidate invoiceId) := by
  have hG := quiet_users
  exact free_bind (free_query hG _) fun _ => free_bind (free_lift _) fun _ =>
    free_bind (free_query hG _) fun _ => free_bind (free_lift _) fun _ => free_pure _

theorem program_users (cfg : Config) : users.Implements (program cfg) := by
  have hG := quiet_users
  have hjobs : ∀ (s : State World Event) t jobs,
      users.effect s t (some .leftJobs) { s.store with jobs := jobs } := fun _ _ _ _ _ h => by cases h
  have hfree : ∀ op, Free users (program cfg op) := by
    intro op
    cases op with
    | approveInvoice invoiceId approver req =>
      refine free_discard (free_bind (free_users_fetchAndValidate _) fun found => ?_)
      refine free_bind (free_lift _) fun _ => free_bind (free_lift _) fun _ => ?_
      refine free_bind (free_enqueuingTransaction hG hjobs ?_) fun _ =>
        free_bind (free_log hG _) fun _ => free_pure _
      intro s t i result d _ h
      exact byUser_approval (uuid_of_executeApprovalTxn h)
    | rejectInvoice invoiceId approver req =>
      refine free_discard (free_bind (free_users_fetchAndValidate _) fun found => ?_)
      refine free_bind (free_lift _) fun _ => free_bind (free_lift _) fun _ => ?_
      refine free_bind (free_enqueuingTransaction hG hjobs ?_) fun _ =>
        free_bind (free_log hG _) fun _ => free_pure _
      intro s t i result d _ h
      exact byUser_rejection
    | resetTier3RejectionCount invoiceId userId req =>
      refine free_bind (free_query hG _) fun _ => free_bind (free_lift _) fun invoice => ?_
      refine free_bind (free_transaction hG ?_) fun _ => free_log hG _
      intro s t i u d _ h j approval happroval
      cases happroval
    | getCommitteeStatus invoiceId =>
      exact free_discard (free_bind (free_query hG _) fun _ => free_bind (free_lift _) fun _ =>
        free_bind (free_query hG _) fun _ => free_bind (free_lift _) fun _ =>
          free_bind (free_query hG _) fun _ => free_pure _)
    | getApprovalQueue officerId => exact free_discard (free_query hG _)
  exact fun op t => (hfree op t).conseq (fun _ _ _ => trivial) (fun _ _ _ _ => rfl) fun _ _ _ _ => rfl

/-! ## Who has approved -/

def userOf : Actor → Option ℕ
  | .system => none
  | .user id => some id

/-- The users whose approval is among the decisions. -/
def approversOf (decisions : List Approval) : Finset ℕ :=
  ((decisions.filter fun a => a.decision = .approved).filterMap fun a => userOf a.approverId).toFinset

theorem approversOf_approved {decisions : List Approval} {row : Approval} {user : ℕ}
    (hdecision : row.decision = .approved) (hby : row.approverId = .user user) :
    approversOf (decisions ++ [row]) = insert user (approversOf decisions) := by
  ext u
  simp [approversOf, List.filter_append, hdecision, hby, userOf]

theorem approversOf_rejected {decisions : List Approval} {row : Approval}
    (hdecision : row.decision = .rejected) : approversOf (decisions ++ [row]) = approversOf decisions := by
  simp [approversOf, List.filter_append, hdecision]

/-- Who has approved has decided. -/
theorem alreadyDecided_of_mem {decisions : List Approval} {user : ℕ} (h : user ∈ approversOf decisions) :
    alreadyDecided decisions (.user user) = true := by
  simp only [approversOf, List.mem_toFinset, List.mem_filterMap, List.mem_filter] at h
  obtain ⟨a, ⟨hmem, -⟩, huser⟩ := h
  refine List.any_eq_true.2 ⟨a, hmem, decide_eq_true ?_⟩
  cases hactor : a.approverId with
  | system => simp [hactor, userOf] at huser
  | user id => simpa [hactor, userOf] using huser

/-! ## The committees of a run -/

section Committees

variable {allowed : String → Prop} {tier : ApprovalTier} {cfg : Config} {d d' : Docket} {invoiceId : ℕ}

/-- Only officers with an allowed role approve the invoice. -/
def ByRoles (allowed : String → Prop) (invoiceId : ℕ) : Cond World Event := fun _ _ e =>
  ∀ approval ∈ e.approval? invoiceId, allowed approval.2.1

instance [DecidablePred allowed] (s : State World Event) (t : ℕ) (e : Event) :
    Decidable (ByRoles allowed invoiceId s t e) := by
  unfold ByRoles
  infer_instance

/-- How many approvals make the quorum. -/
def quorumSize : ApprovalTier → ℕ
  | .auto => 0
  | .tier2 => 1
  | .tier3 | .tier4 => 2

/-- Every approval is by another user than those before. -/
def OneEach (allowed : String → Prop) : ApprovalTier → Prop
  | .auto | .tier2 => False
  | .tier3 => ¬allowed "management"
  | .tier4 => True

/-- What holds of the docket along the run, in the tiers where people approve. -/
structure Staffed (allowed : String → Prop) (tier : ApprovalTier) (d : Docket) : Prop where
  oneEach : OneEach allowed tier → d.approvals ≤ (approversOf d.decisions).card
  quorum : d.status = some .approved → quorumSize tier ≤ d.approvals
  someone : d.status = some .approved → 0 < (approversOf d.decisions).card
  management : d.status = some .approved → tier = .tier4 → allowed "management"

/-- The rules of the tier, as far as the number of people goes. -/
theorem not_alreadyDecided_of_oneEach {actor : Actor} {role : String} {decisions : List Approval}
    (hmay : MayApprove tier actor role decisions) (hrole : allowed role) (h : OneEach allowed tier) :
    alreadyDecided decisions actor = false := by
  cases tier with
  | auto | tier2 => exact h.elim
  | tier3 => exact hmay.resolve_left fun hmanagement => h (hmanagement ▸ hrole)
  | tier4 => exact hmay.1

theorem quorumSize_le_of_makesQuorum {role : String} {decisions : List Approval}
    (h : makesQuorum tier role decisions = true) : quorumSize tier ≤ countApprovals decisions + 1 := by
  cases tier with
  | auto => exact Nat.zero_le _
  | tier2 => exact Nat.le_add_left _ _
  | tier3 => exact of_decide_eq_true h
  | tier4 => exact (of_decide_eq_true h).1

theorem Staffed.step (h : Staffed allowed tier d) (hpeople : tier ≠ .auto) {e : Event}
    (hstep : d.Step cfg tier invoiceId e d') (huser : ByUser e)
    (hrole : ∀ approval ∈ e.approval? invoiceId, allowed approval.2.1) : Staffed allowed tier d' := by
  cases hstep with
  | elsewhere | leftJobs | reset => exact ⟨h.oneEach, h.quorum, h.someone, h.management⟩
  | rejection _ actor rejects row _ _ hdecision _ =>
    have happrovers : approversOf (d.reject tier row rejects).decisions = approversOf d.decisions :=
      approversOf_rejected hdecision
    have hcount : (d.reject tier row rejects).approvals = d.approvals :=
      Docket.approvals_reject hdecision rejects
    constructor
    · rw [happrovers, hcount]
      exact h.oneEach
    · rw [Docket.approved_reject, hcount]
      exact h.quorum
    · rw [Docket.approved_reject, happrovers]
      exact h.someone
    · rw [Docket.approved_reject]
      exact h.management
  | approval _ actor role row he _ hmay hdecision hby =>
    obtain ⟨user, rfl⟩ := huser invoiceId _ he
    have hallowed : allowed role := hrole _ he
    have happrovers : approversOf (d.approve cfg row (makesQuorum tier role d.decisions)).decisions =
        insert user (approversOf d.decisions) := approversOf_approved hdecision (hby hpeople)
    have hcount : (d.approve cfg row (makesQuorum tier role d.decisions)).approvals = d.approvals + 1 :=
      Docket.approvals_approve hdecision _
    constructor
    · intro hone
      have hnew : user ∉ approversOf d.decisions := fun hmem => by
        have hdecided := alreadyDecided_of_mem hmem
        rw [not_alreadyDecided_of_oneEach hmay hallowed hone] at hdecided
        cases hdecided
      rw [happrovers, hcount, Finset.card_insert_of_notMem hnew]
      exact Nat.add_le_add_right (h.oneEach hone) 1
    · rw [Docket.approved_approve, hcount]
      rintro (happroved | ⟨hquorum, -⟩)
      · exact (h.quorum happroved).trans (Nat.le_succ _)
      · exact quorumSize_le_of_makesQuorum hquorum
    · rw [happrovers]
      exact fun _ => Finset.card_pos.2 ⟨user, Finset.mem_insert_self _ _⟩
    · rw [Docket.approved_approve]
      rintro (happroved | ⟨hquorum, -⟩) rfl
      · exact h.management happroved rfl
      · have hmanagement : role = "management" := (of_decide_eq_true hquorum).2
        exact hmanagement ▸ hallowed

end Committees

/-! ## How many people a tier needs -/

section Required

variable {allowed : String → Prop} {tier : ApprovalTier} {people : ℕ}

/-- An invoice of the tier was priced and nobody had decided on it; it is approved in a run in which only
the allowed roles approve, and this many users have approved it. -/
def ApprovedBy (allowed : String → Prop) (tier : ApprovalTier) (people : ℕ) : Prop :=
  ∃ (cfg : Config) (w : World) (invoiceId : ℕ) (s : Sys World Input Event RisError),
    tierOf w invoiceId = some tier ∧ statusOf invoiceId w = some .priced ∧
      getApprovalsByInvoiceId invoiceId w = [] ∧
      Reaches (program cfg) (ByRoles allowed invoiceId) (Sys.init w) s ∧
      statusOf invoiceId s.store = some .approved ∧
      (approversOf (getApprovalsByInvoiceId invoiceId s.store)).card = people

theorem staffed_of_reaches {cfg : Config} {w : World} {invoiceId : ℕ} (hpeople : tier ≠ .auto)
    (htier : tierOf w invoiceId = some tier) (hpriced : statusOf invoiceId w = some .priced)
    (hnone : getApprovalsByInvoiceId invoiceId w = []) {s : Sys World Input Event RisError}
    (hs : Reaches (program cfg) (ByRoles allowed invoiceId) (Sys.init w) s) :
    Staffed allowed tier (docketOf invoiceId s.store) := by
  induction hs with
  | refl =>
    have happrovals : (docketOf invoiceId w).approvals = 0 := by
      simp [Docket.approvals, docketOf, hnone, countApprovals]
    have hstatus : (docketOf invoiceId w).status ≠ some .approved := by
      show statusOf invoiceId w ≠ _
      rw [hpriced]
      decide
    exact ⟨fun _ => happrovals.le.trans (Nat.zero_le _), fun h => absurd h hstatus,
      fun h => absurd h hstatus, fun h => absurd h hstatus⟩
  | @tail s s' hpre hlast ih =>
    rcases (protocol cfg w).step_move (program_implements cfg w) (Inv.init w) hpre hlast with
      heq | ⟨t, e, store, hmove, heq⟩
    · have hstore : s'.store = s.store := congrArg State.store heq
      rwa [hstore]
    · rcases users.step_move (program_users cfg) trivial hpre hlast with heq' | ⟨t', e', store', hmove', heq'⟩
      · have hstore : s'.store = s.store := congrArg State.store heq'
        rwa [hstore]
      · -- both protocols speak of the same event
        have hsame := heq.symm.trans heq'
        simp only [State.record, State.mk.injEq, List.cons.injEq, Prod.mk.injEq, and_true] at hsame
        obtain ⟨rfl, rfl, rfl⟩ := hsame
        have hstore : s'.store = store := congrArg State.store heq
        rw [hstore]
        cases e with
        | none =>
          obtain rfl : store = s.store := hmove.effect
          exact ih
        | some event =>
          obtain ⟨hstep, -, -⟩ := tieredStep_of_moves hmove htier
          exact ih.step hpeople hstep hmove'.effect (hmove.cond event rfl)

/-- A tier that people approve needs one of them, and where every approval is by another, its quorum. -/
theorem ApprovedBy.le (h : ApprovedBy allowed tier people) (hpeople : tier ≠ .auto) :
    1 ≤ people ∧ (OneEach allowed tier → quorumSize tier ≤ people) ∧
      (tier = .tier4 → allowed "management") := by
  obtain ⟨cfg, w, invoiceId, s, htier, hpriced, hnone, hs, happroved, rfl⟩ := h
  have hstaffed := staffed_of_reaches hpeople htier hpriced hnone hs
  exact ⟨hstaffed.someone happroved,
    fun hone => (hstaffed.quorum happroved).trans (hstaffed.oneEach hone),
    hstaffed.management happroved⟩

/-- More roles may approve whatever fewer may. -/
theorem ApprovedBy.mono {allowed' : String → Prop} (h : ApprovedBy allowed tier people)
    (hroles : ∀ role, allowed role → allowed' role) : ApprovedBy allowed' tier people := by
  obtain ⟨cfg, w, invoiceId, s, htier, hpriced, hnone, hs, happroved, hcard⟩ := h
  have hs' : Reaches (program cfg) (ByRoles allowed' invoiceId) (Sys.init w) s :=
    hs.mono fun s t e hby approval happroval => hroles _ (hby approval happroval)
  exact ⟨cfg, w, invoiceId, s, htier, hpriced, hnone, hs', happroved, hcard⟩

/-- The schema on which the rows of Tier 4 are taken. -/
def tier4Accepted : Config := { tier4Refused := false }

/-- A schedule on the example invoice that ends with its approval. -/
theorem approvedBy_of_run [DecidablePred allowed] {w : World} (as : List (Act Op Input))
    (h : tierOf w 1 = some tier ∧ statusOf 1 w = some .priced ∧ (getApprovalsByInvoiceId 1 w).isEmpty = true)
    (hrun : (run (program tier4Accepted) (ByRoles allowed 1) (Sys.init w) as).any (fun s =>
      statusOf 1 s.store = some .approved ∧
        (approversOf (getApprovalsByInvoiceId 1 s.store)).card = people) = true) :
    ApprovedBy allowed tier people := by
  obtain ⟨s, hs, hP⟩ := exists_reaches (program tier4Accepted) (ByRoles allowed 1) (Sys.init w) as _ hrun
  obtain ⟨happroved, hcard⟩ := of_decide_eq_true hP
  exact ⟨tier4Accepted, w, 1, s, h.1, h.2.1, List.isEmpty_iff.1 h.2.2, hs, happroved, hcard⟩

end Required

/-- Any role. -/
def anyone (_ : String) : Prop := True

/-- Any role but management. -/
def officers (role : String) : Prop := role ≠ "management"

instance : DecidablePred anyone := fun _ => inferInstanceAs (Decidable True)

instance : DecidablePred officers := fun role => inferInstanceAs (Decidable (role ≠ "management"))

/-- The fewest people that may approve an invoice of the tier. -/
def leastPeople : ApprovalTier → ℕ
  | .auto => 0
  | .tier2 | .tier3 => 1
  | .tier4 => 2

/-- The fewest people without a management user, where they can approve it at all. -/
def leastOfficers : ApprovalTier → ℕ
  | .auto => 0
  | .tier2 => 1
  | .tier3 | .tier4 => 2

/-- An invoice that is approved automatically. -/
def smallWorld : World := decisionWorld .priced 5000000 80 false

/-- An invoice of Tier 2. -/
def tier2World : World := decisionWorld .priced 20000000 80 false

theorem leastOfficers_attained {tier : ApprovalTier} (h : tier ≠ .tier4) :
    ApprovedBy officers tier (leastOfficers tier) := by
  cases tier with
  | auto =>
    exact approvedBy_of_run (w := smallWorld) (approveAlone 0 7 "credit_officer") (by decide) (by decide)
  | tier2 =>
    exact approvedBy_of_run (w := tier2World) (approveAlone 0 7 "credit_officer") (by decide) (by decide)
  | tier3 =>
    exact approvedBy_of_run (w := tier3World)
      (approveAlone 0 7 "credit_officer" ++ approveAlone 1 8 "credit_officer") (by decide) (by decide)
  | tier4 => exact absurd rfl h

theorem leastPeople_attained (tier : ApprovalTier) : ApprovedBy anyone tier (leastPeople tier) := by
  cases tier with
  | auto =>
    have hofficers : ApprovedBy officers .auto 0 := leastOfficers_attained (by decide)
    exact hofficers.mono fun _ _ => trivial
  | tier2 =>
    have hofficers : ApprovedBy officers .tier2 1 := leastOfficers_attained (by decide)
    exact hofficers.mono fun _ _ => trivial
  | tier3 =>
    -- a management user approves twice
    exact approvedBy_of_run (w := tier3World)
      (approveAlone 0 7 "management" ++ approveAlone 1 7 "management") (by decide) (by decide)
  | tier4 =>
    exact approvedBy_of_run (w := tier4World)
      (approveAlone 0 7 "credit_officer" ++ approveAlone 1 8 "management") (by decide) (by decide)

/-- Nobody approves an invoice with fewer people. -/
theorem leastPeople_le {tier : ApprovalTier} {people : ℕ} (h : ApprovedBy anyone tier people) :
    leastPeople tier ≤ people := by
  cases tier with
  | auto => exact Nat.zero_le _
  | tier2 | tier3 => exact (h.le (by decide)).1
  | tier4 => exact (h.le (by decide)).2.1 trivial

theorem leastOfficers_le {tier : ApprovalTier} {people : ℕ} (h : ApprovedBy officers tier people) :
    tier ≠ .tier4 ∧ leastOfficers tier ≤ people := by
  cases tier with
  | auto => exact ⟨by decide, Nat.zero_le _⟩
  | tier2 => exact ⟨by decide, (h.le (by decide)).1⟩
  | tier3 => exact ⟨by decide, (h.le (by decide)).2.1 fun hmanagement => hmanagement rfl⟩
  | tier4 => exact absurd rfl ((h.le (by decide)).2.2 rfl)

/-- How many people a tier needs. -/
theorem isLeast_people (tier : ApprovalTier) :
    IsLeast {n | ApprovedBy anyone tier n} (leastPeople tier) :=
  ⟨leastPeople_attained tier, fun _ h => leastPeople_le h⟩

/-- A tier is approved by no fewer people than those under it. -/
def NeedsNoFewer (allowed : String → Prop) : Prop :=
  ∀ tier tier', tierLevel tier ≤ tierLevel tier' → ∀ people', ApprovedBy allowed tier' people' →
    ∃ people ≤ people', ApprovedBy allowed tier people

theorem needsNoFewer_anyone : NeedsNoFewer anyone := by
  intro tier tier' hlevel people' happroved
  refine ⟨leastPeople tier, le_trans ?_ (leastPeople_le happroved), leastPeople_attained tier⟩
  revert hlevel
  cases tier <;> cases tier' <;> decide

theorem needsNoFewer_officers : NeedsNoFewer officers := by
  intro tier tier' hlevel people' happroved
  obtain ⟨hpossible, hle⟩ := leastOfficers_le happroved
  have htier : tier ≠ .tier4 ∧ leastOfficers tier ≤ leastOfficers tier' := by
    revert hlevel hpossible
    cases tier <;> cases tier' <;> decide
  exact ⟨leastOfficers tier, htier.2.trans hle, leastOfficers_attained htier.1⟩

/-- **Tiers are monotone.** A larger or riskier invoice is in no lower tier; and a higher tier is approved
by no fewer people, whether or not a management user is among them. -/
theorem tiers_monotone :
    (∀ (invoice invoice' : Invoice) (riskScore riskScore' : RiskScore),
      NoRiskier invoice invoice' riskScore riskScore' →
        tierLevel (determineTier invoice riskScore) ≤ tierLevel (determineTier invoice' riskScore')) ∧
      NeedsNoFewer anyone ∧ NeedsNoFewer officers :=
  ⟨fun _ _ _ _ h => determineTier_mono h, needsNoFewer_anyone, needsNoFewer_officers⟩

end Ris.Approvals
