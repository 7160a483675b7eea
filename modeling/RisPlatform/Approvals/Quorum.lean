import RisPlatform.Approvals.Docket

/-!
# The quorums of Tier 3 and Tier 4

Who may approve an invoice is decided at each approval, from the role of the officer who approves and
the number of approvals before. The committee status counts the approvals. The laws say what the
documented quorums are; each is kept by exactly those approvals that the count gets right.
-/

namespace Ris.Approvals

open Relational Concurrent

/-- The number of approvals in the docket. -/
def Docket.approvals (d : Docket) : ℕ := countApprovals d.decisions

theorem countApprovals_append (existing new : List Approval) :
    countApprovals (existing ++ new) = countApprovals existing + countApprovals new := by
  unfold countApprovals
  rw [List.filter_append, List.length_append]

namespace Docket

variable {cfg : Config} {tier : ApprovalTier} {d : Docket} {row : Approval}

@[simp] theorem approvals_approve (hdecision : row.decision = .approved) (quorumReached : Bool) :
    (d.approve cfg row quorumReached).approvals = d.approvals + 1 := by
  unfold approvals approve
  rw [countApprovals_append]
  simp [countApprovals, hdecision]

@[simp] theorem approvals_reject (hdecision : row.decision = .rejected) (rejects : Bool) :
    (d.reject tier row rejects).approvals = d.approvals := by
  unfold approvals reject
  rw [countApprovals_append]
  simp [countApprovals, hdecision]

/-- The invoice is approved after an approval exactly if it was before or the quorum finds it priced. -/
theorem approved_approve {quorumReached : Bool} :
    (d.approve cfg row quorumReached).status = some .approved ↔
      d.status = some .approved ∨ quorumReached = true ∧ d.status = some .priced := by
  unfold approve
  dsimp only
  split
  · rename_i h
    exact iff_of_true rfl (Or.inr h)
  · rename_i h
    simp [h]

/-- A rejection neither approves an invoice nor takes an approval back. -/
theorem approved_reject {rejects : Bool} :
    (d.reject tier row rejects).status = some .approved ↔ d.status = some .approved := by
  unfold reject
  dsimp only
  split
  · rename_i h
    simp [h.2]
  · rfl

/-- Only an approval approves an invoice or counts as one. -/
theorem Step.of_no_approval {invoiceId : ℕ} {e : Event} {d' : Docket}
    (h : Step cfg tier invoiceId d e d') (he : e.approval? invoiceId = none) :
    (d'.status = some .approved ↔ d.status = some .approved) ∧ d'.approvals = d.approvals := by
  cases h with
  | elsewhere | leftJobs | reset => exact ⟨Iff.rfl, rfl⟩
  | approval _ userId role row happroval =>
    rw [he] at happroval
    cases happroval
  | rejection _ userId rejects row _ _ hdecision =>
    exact ⟨approved_reject, approvals_reject hdecision rejects⟩

/-- What an approval does, and who may give it. -/
theorem Step.of_approval {invoiceId : ℕ} {e : Event} {d' : Docket}
    (h : Step cfg tier invoiceId d e d') {userId : Actor} {role : String} {quorumReached : Bool}
    (he : e.approval? invoiceId = some (userId, role, quorumReached)) :
    quorumReached = makesQuorum tier role d.decisions ∧ MayApprove tier userId role d.decisions ∧
      ∃ row : Approval, row.decision = .approved ∧ (tier ≠ .auto → row.approverId = userId) ∧
        d' = d.approve cfg row quorumReached := by
  cases h with
  | elsewhere _ happroval =>
    rw [he] at happroval
    cases happroval
  | leftJobs | reset => cases he
  | approval _ userId' role' row happroval _ hmay hdecision hby =>
    rw [he] at happroval
    obtain ⟨rfl, rfl, rfl⟩ : userId = userId' ∧ role = role' ∧ _ := by simpa using happroval
    exact ⟨rfl, hmay, row, hdecision, hby, rfl⟩
  | rejection _ _ _ _ _ happroval =>
    rw [he] at happroval
    cases happroval

end Docket

/-! ## Tier 3 -/

/-- Another user's approval is among the decisions. -/
def ApprovedByOther (userId : Actor) (decisions : List Approval) : Prop :=
  ∃ a ∈ decisions, a.decision = .approved ∧ a.approverId ≠ userId

/-- The documented quorum of Tier 3, about a step: an approval leaves the invoice approved exactly if it
is by management or another user has approved before; and the committee status reports the quorum
exactly if the invoice is approved. -/
structure Tier3Quorum (invoiceId : ℕ) (s s' : State World Event) : Prop where
  approves : ∀ t e userId role quorumReached, s'.hist = (t, some e) :: s.hist →
    e.approval? invoiceId = some (userId, role, quorumReached) →
    (statusOf invoiceId s'.store = some .approved ↔
      role = "management" ∨ ApprovedByOther userId (getApprovalsByInvoiceId invoiceId s.store))
  reported : ReportsQuorum invoiceId s'.store (statusOf invoiceId s'.store = some .approved)

/-- The first approval is not by management, and the second finds the invoice `priced`. -/
def OfficersInTurn (invoiceId : ℕ) : Cond World Event := fun s _ e =>
  ∀ approval ∈ e.approval? invoiceId,
    (countApprovals (getApprovalsByInvoiceId invoiceId s.store) = 0 → approval.2.1 ≠ "management") ∧
      (countApprovals (getApprovalsByInvoiceId invoiceId s.store) = 1 →
        statusOf invoiceId s.store = some .priced)

instance (invoiceId : ℕ) (s : State World Event) (t : ℕ) (e : Event) :
    Decidable (OfficersInTurn invoiceId s t e) := by
  unfold OfficersInTurn
  infer_instance

section Tier3

variable {cfg : Config} {d d' : Docket} {invoiceId : ℕ} {e : Event}

/-- An officer who has not decided is preceded by another as soon as anyone has approved. -/
theorem approvedByOther_of_fresh {userId : Actor} {decisions : List Approval}
    (hfresh : alreadyDecided decisions userId = false) (hcount : 1 ≤ countApprovals decisions) :
    ApprovedByOther userId decisions := by
  obtain ⟨a, ha⟩ := List.exists_mem_of_length_pos (show 0 < (decisions.filter _).length from hcount)
  obtain ⟨hmem, hdecision⟩ := List.mem_filter.1 ha
  refine ⟨a, hmem, of_decide_eq_true hdecision, fun hby => ?_⟩
  have hdecided : alreadyDecided decisions userId = true :=
    List.any_eq_true.2 ⟨a, hmem, decide_eq_true hby⟩
  rw [hfresh] at hdecided
  cases hdecided

theorem not_approvedByOther_of_none {userId : Actor} {decisions : List Approval}
    (hcount : countApprovals decisions = 0) : ¬ApprovedByOther userId decisions := by
  rintro ⟨a, hmem, hdecision, -⟩
  have hpos : 0 < (decisions.filter fun a => a.decision = .approved).length :=
    List.length_pos_of_mem (List.mem_filter.2 ⟨hmem, decide_eq_true hdecision⟩)
  have hzero : (decisions.filter fun a => a.decision = .approved).length = 0 := hcount
  omega

/-- An approval on a docket whose count of approvals fits its status, by the number before it. -/
theorem tier3_approval_iff (hfit : 2 ≤ d.approvals ↔ d.status = some .approved)
    (hstep : d.Step cfg .tier3 invoiceId e d') {userId : Actor} {role : String} {quorumReached : Bool}
    (he : e.approval? invoiceId = some (userId, role, quorumReached)) :
    ((d'.status = some .approved ↔ role = "management" ∨ ApprovedByOther userId d.decisions) ∧
      (2 ≤ d'.approvals ↔ d'.status = some .approved)) ↔
      (d.approvals = 0 → role ≠ "management") ∧ (d.approvals = 1 → d.status = some .priced) := by
  obtain ⟨rfl, hmay, row, hdecision, -, rfl⟩ := hstep.of_approval he
  have hquorum : makesQuorum .tier3 role d.decisions = true ↔ 1 ≤ d.approvals := by
    show decide (2 ≤ d.approvals + 1) = true ↔ _
    rw [decide_eq_true_eq]
    omega
  rw [Docket.approvals_approve hdecision, Docket.approved_approve, hquorum]
  have hby : 1 ≤ d.approvals → (role = "management" ∨ ApprovedByOther userId d.decisions) :=
    fun hcount => hmay.imp_right fun hfresh => approvedByOther_of_fresh hfresh hcount
  rcases Nat.lt_trichotomy d.approvals 1 with hzero | hone | hmore
  · -- the first approval leaves the status, and no other is there
    have hcount : d.approvals = 0 := by omega
    have hnot : ¬d.status = some .approved := fun happroved => by
      have htwo := hfit.2 happroved
      omega
    have hother : ¬ApprovedByOther userId d.decisions := not_approvedByOther_of_none hcount
    simp [hcount, hnot, hother]
  · -- the second makes the quorum, and the status follows if it is still `priced`
    have hnot : ¬d.status = some .approved := fun happroved => by
      have htwo := hfit.2 happroved
      omega
    have hright := hby hone.ge
    simp [hone, hnot, hright]
  · -- from then on the invoice is approved
    have happroved : d.status = some .approved := hfit.1 hmore
    have hright := hby hmore.le
    have hne₀ : d.approvals ≠ 0 := by omega
    have hne₁ : d.approvals ≠ 1 := by omega
    have htwo : 2 ≤ d.approvals + 1 := by omega
    simp [happroved, hright, hne₀, hne₁, htwo]

end Tier3

section Runs

variable {cfg : Config} {w w' : World} {invoiceId : ℕ} {tier : ApprovalTier} {s : State World Event}
  {t : ℕ} {e : Event}

/-- What a move does to the docket of an invoice with a tier, which it keeps. -/
theorem tieredStep_of_moves {C : Cond World Event} (hmove : (protocol cfg w).Moves C s t (some e) w')
    (htier : tierOf w invoiceId = some tier) :
    (docketOf invoiceId s.store).Step cfg tier invoiceId e (docketOf invoiceId w') ∧
      tierOf s.store invoiceId = some tier ∧ tierOf w' invoiceId = some tier := by
  have hinv : Inv w s.store := hmove.inv
  have hinv' : Inv w w' := hinv.effect hmove.effect
  refine ⟨docketStep_of_moves hmove fun tier' htier' => ?_, ?_, ?_⟩
  · rw [htier, Option.mem_some_iff] at htier'
    exact htier'.symm
  · rw [hinv.tierOf_congr, htier]
  · rw [hinv'.tierOf_congr, htier]

end Runs

/-- **Tier 3 quorum.** From a state in which the committee status fits an invoice of Tier 3, the runs
along which its quorum is the documented one are exactly those in which the first approval is not by
management and the second finds the invoice `priced`. -/
theorem tier3_quorum_iff (cfg : Config) (w : World) (invoiceId : ℕ)
    (htier : tierOf w invoiceId = some .tier3)
    (hw : ReportsQuorum invoiceId w (statusOf invoiceId w = some .approved))
    (s : Sys World Input Event RisError) :
    Relation.ReflTransGen (fun s s' => Step (program cfg) always s s' ∧
        Tier3Quorum invoiceId s.toState s'.toState) (Sys.init w) s ↔
      Reaches (program cfg) (OfficersInTurn invoiceId) (Sys.init w) s := by
  refine Protocol.runs_iff (program_implements cfg w) (Inv.init w)
    (P := fun s => ReportsQuorum invoiceId s.store (statusOf invoiceId s.store = some .approved))
    (R := Tier3Quorum invoiceId) hw ?_ ?_ ?_ (fun _ _ _ _ _ _ hgood => hgood.reported) s
  · refine fun s hs => ⟨fun t e userId role quorumReached hhist => ?_, hs⟩
    simp at hhist
  · intro s t d hs hmove
    obtain rfl : d = s.store := hmove.effect
    refine ⟨fun u e userId role quorumReached hhist => ?_, hs⟩
    simp at hhist
  · intro s t e d hs hmove
    obtain ⟨hstep, hbefore, hafter⟩ := tieredStep_of_moves hmove htier
    have hfit := (reportsQuorum_iff hbefore).1 hs
    have hreported := reportsQuorum_iff hafter (P := statusOf invoiceId d = some .approved)
    cases happroval : e.approval? invoiceId with
    | none =>
      obtain ⟨hstatus, hcount⟩ := hstep.of_no_approval happroval
      refine iff_of_true ⟨fun u e' userId role quorumReached hhist he => ?_, ?_⟩ ?_
      · obtain ⟨rfl, rfl⟩ : t = u ∧ e = e' := by simpa using hhist
        rw [happroval] at he
        cases he
      · refine hreported.2 (Iff.trans ?_ (hfit.trans hstatus.symm))
        exact iff_of_eq (congrArg (2 ≤ ·) hcount)
      · intro approval he
        rw [happroval] at he
        cases he
    | some approval =>
      obtain ⟨userId, role, quorumReached⟩ := approval
      have hiff := tier3_approval_iff hfit hstep happroval
      constructor
      · intro hgood approval he
        rw [happroval, Option.mem_some_iff] at he
        subst he
        exact hiff.1 ⟨hgood.approves t e userId role quorumReached rfl happroval,
          hreported.1 hgood.reported⟩
      · intro hcond
        obtain ⟨happroves, hshown⟩ := hiff.2 (hcond _ happroval)
        refine ⟨fun u e' userId' role' quorumReached' hhist he => ?_, hreported.2 hshown⟩
        obtain ⟨rfl, rfl⟩ : t = u ∧ e = e' := by simpa using hhist
        rw [happroval] at he
        cases he
        exact happroves

/-- An invoice of Tier 3. -/
def tier3World : World := decisionWorld .priced 60000000 80 false

theorem tier3World_fits : tierOf tier3World 1 = some .tier3 ∧
    ReportsQuorum 1 tier3World (statusOf 1 tier3World = some .approved) := by
  have htier : tierOf tier3World 1 = some .tier3 := by decide
  exact ⟨htier, (reportsQuorum_iff htier).2 (by decide)⟩

/-- Two credit officers approve one after the other. -/
theorem tier3_quorum_of_two_officers :
    ∃ s : Sys World Input Event RisError, statusOf 1 s.store = some .approved ∧
      Relation.ReflTransGen (fun s s' => Step (program {}) always s s' ∧
        Tier3Quorum 1 s.toState s'.toState) (Sys.init tier3World) s := by
  obtain ⟨s, hs, hP⟩ := exists_reaches (program {}) (OfficersInTurn 1) (Sys.init tier3World)
    (approveAlone 0 7 "credit_officer" ++ approveAlone 1 8 "credit_officer")
    (fun s => statusOf 1 s.store = some .approved) (by decide)
  exact ⟨s, of_decide_eq_true hP,
    (tier3_quorum_iff {} tier3World 1 tier3World_fits.1 tier3World_fits.2 s).2 hs⟩

/-- A management user approves, first and alone, and the invoice stays `priced`. -/
theorem management_alone_leaves_priced :
    (tierOf tier3World 1 = some .tier3 ∧
      ReportsQuorum 1 tier3World (statusOf 1 tier3World = some .approved)) ∧
      ∃ s₁ s₂ : Sys World Input Event RisError,
        Reaches (program {}) always (Sys.init tier3World) s₁ ∧ Step (program {}) always s₁ s₂ ∧
          statusOf 1 s₂.store = some .priced ∧ ¬Tier3Quorum 1 s₁.toState s₂.toState := by
  obtain ⟨s₁, s₂, h₁, h₂, hP⟩ := exists_step (program {}) always (Sys.init tier3World)
    [.start (.approveInvoice 1 (exampleApprover 7 "management") {}), .move 0 {}, .move 0 {}] (.move 0 {})
    (fun s₁ s₂ => s₂.hist = (0, some (.approvalRecorded 1 (.user 7) "management")) :: s₁.hist ∧
      statusOf 1 s₂.store = some .priced) (by decide)
  obtain ⟨hhist, hpriced⟩ := of_decide_eq_true hP
  refine ⟨tier3World_fits, s₁, s₂, h₁, h₂, hpriced, fun hquorum => ?_⟩
  have happroved := (hquorum.approves _ _ _ _ _ hhist rfl).2 (Or.inl rfl)
  rw [hpriced] at happroved
  cases happroved

/-! ## Tier 4 -/

/-- The approvals of the invoice recorded so far, newest first: who gave them, in which role. -/
def recorded (invoiceId : ℕ) (hist : List (ℕ × Option Event)) : List (Actor × String) :=
  hist.filterMap fun x => (x.2.bind (Event.approval? invoiceId)).map fun a => (a.1, a.2.1)

/-- Distinct approvers, at least one a credit officer and at least one of the management. -/
def BothRoles (approvals : List (Actor × String)) : Prop :=
  ∃ u v, u ≠ v ∧ (u, "credit_officer") ∈ approvals ∧ (v, "management") ∈ approvals

/-- The documented quorum of Tier 4, about a state: the invoice is approved, and the committee status
reports the quorum, exactly if both roles have approved. -/
structure Tier4Quorum (invoiceId : ℕ) (s : State World Event) : Prop where
  approved : statusOf invoiceId s.store = some .approved ↔ BothRoles (recorded invoiceId s.hist)
  reported : ReportsQuorum invoiceId s.store (BothRoles (recorded invoiceId s.hist))

/-- An approval after exactly one other is by management, the other one by a credit officer, and the
invoice is still `priced`. -/
def ManagementSecond (invoiceId : ℕ) : Cond World Event := fun s _ e =>
  ∀ approval ∈ e.approval? invoiceId, (recorded invoiceId s.hist).length = 1 →
    approval.2.1 = "management" ∧
      (∀ first ∈ recorded invoiceId s.hist, first.2 = "credit_officer") ∧
        statusOf invoiceId s.store = some .priced

instance (invoiceId : ℕ) (s : State World Event) (t : ℕ) (e : Event) :
    Decidable (ManagementSecond invoiceId s t e) := by
  unfold ManagementSecond
  infer_instance

/-- The approvals of the history are those of the docket; they are by different users, each in one of
the two roles. -/
structure Tallied (approvals : List (Actor × String)) (d : Docket) : Prop where
  count : d.approvals = approvals.length
  distinct : (approvals.map Prod.fst).Nodup
  decided : ∀ a ∈ approvals, alreadyDecided d.decisions a.1 = true
  roles : ∀ a ∈ approvals, a.2 = "management" ∨ a.2 = "credit_officer"

theorem recorded_cons {invoiceId t : ℕ} {e : Option Event} {hist : List (ℕ × Option Event)} :
    recorded invoiceId ((t, e) :: hist) =
      ((e.bind (Event.approval? invoiceId)).map fun a => (a.1, a.2.1)).toList ++
        recorded invoiceId hist := by
  unfold recorded
  rw [List.filterMap_cons]
  cases (e.bind (Event.approval? invoiceId)).map fun a => (a.1, a.2.1) with
  | none => rfl
  | some a => rfl

section Tier4

variable {cfg : Config} {d d' : Docket} {invoiceId : ℕ} {e : Event}
  {approvals : List (Actor × String)}

theorem alreadyDecided_append (existing new : List Approval) (userId : Actor) :
    alreadyDecided (existing ++ new) userId =
      (alreadyDecided existing userId || alreadyDecided new userId) := by
  unfold alreadyDecided
  rw [List.any_append]

/-- What is tallied stays so when an approval is recorded. -/
theorem Tallied.approval (h : Tallied approvals d) (hstep : d.Step cfg .tier4 invoiceId e d')
    {userId : Actor} {role : String} {quorumReached : Bool}
    (he : e.approval? invoiceId = some (userId, role, quorumReached)) :
    Tallied ((userId, role) :: approvals) d' := by
  obtain ⟨-, ⟨hfresh, hrole⟩, row, hdecision, hby, rfl⟩ := hstep.of_approval he
  have hdecisions : (d.approve cfg row quorumReached).decisions = d.decisions ++ [row] := rfl
  refine ⟨?_, ?_, ?_, ?_⟩
  · rw [Docket.approvals_approve hdecision, h.count, List.length_cons]
  · rw [List.map_cons, List.nodup_cons]
    refine ⟨fun hmem => ?_, h.distinct⟩
    obtain ⟨a, ha, hsame⟩ := List.mem_map.1 hmem
    have hdecided := h.decided a ha
    rw [hsame, hfresh] at hdecided
    cases hdecided
  · intro a ha
    rw [hdecisions, alreadyDecided_append, Bool.or_eq_true]
    rcases List.mem_cons.1 ha with rfl | ha
    · exact Or.inr (by simpa [alreadyDecided] using hby (by simp))
    · exact Or.inl (h.decided a ha)
  · intro a ha
    rcases List.mem_cons.1 ha with rfl | ha
    · exact hrole
    · exact h.roles a ha

/-- Nothing else changes the tally. -/
theorem Tallied.of_no_approval (h : Tallied approvals d) (hstep : d.Step cfg .tier4 invoiceId e d')
    (he : e.approval? invoiceId = none) : Tallied approvals d' := by
  obtain ⟨-, hcount⟩ := hstep.of_no_approval he
  refine ⟨hcount.trans h.count, h.distinct, fun a ha => ?_, h.roles⟩
  have hdecided := h.decided a ha
  cases hstep with
  | elsewhere | leftJobs | reset => exact hdecided
  | approval _ _ _ _ happroval =>
    rw [he] at happroval
    cases happroval
  | rejection _ userId rejects row =>
    show alreadyDecided (d.decisions ++ [row]) a.1 = true
    rw [alreadyDecided_append, hdecided, Bool.true_or]

theorem BothRoles.two_le (h : BothRoles approvals) : 2 ≤ approvals.length := by
  obtain ⟨u, v, hne, hu, hv⟩ := h
  match approvals, hu, hv with
  | [a], hu, hv =>
    have hu := List.mem_singleton.1 hu
    have hv := List.mem_singleton.1 hv
    exact absurd (congrArg Prod.fst (hu.trans hv.symm)) hne
  | _ :: _ :: _, _, _ => simp

theorem BothRoles.cons (h : BothRoles approvals) (a : Actor × String) : BothRoles (a :: approvals) := by
  obtain ⟨u, v, hne, hu, hv⟩ := h
  exact ⟨u, v, hne, List.mem_cons_of_mem _ hu, List.mem_cons_of_mem _ hv⟩

/-- Two approvals have both roles exactly if they are by different users in different roles. -/
theorem bothRoles_pair {a b : Actor × String} (hne : a.1 ≠ b.1) :
    BothRoles [a, b] ↔ a.2 = "credit_officer" ∧ b.2 = "management" ∨
      a.2 = "management" ∧ b.2 = "credit_officer" := by
  obtain ⟨u, role⟩ := a
  obtain ⟨v, role'⟩ := b
  constructor
  · rintro ⟨u', v', hne', hu, hv⟩
    simp only [List.mem_cons, List.not_mem_nil, or_false, Prod.mk.injEq] at hu hv
    grind
  · rintro (⟨rfl, rfl⟩ | ⟨rfl, rfl⟩)
    · exact ⟨u, v, hne, by simp, by simp⟩
    · exact ⟨v, u, hne.symm, by simp, by simp⟩

/-- An approval on a docket that has the quorum exactly with both roles, by the number before it. -/
theorem tier4_approval_iff (htally : Tallied approvals d)
    (hfit : d.status = some .approved ↔ BothRoles approvals)
    (hshown : 2 ≤ d.approvals ↔ BothRoles approvals) (hstep : d.Step cfg .tier4 invoiceId e d')
    {userId : Actor} {role : String} {quorumReached : Bool}
    (he : e.approval? invoiceId = some (userId, role, quorumReached)) :
    ((d'.status = some .approved ↔ BothRoles ((userId, role) :: approvals)) ∧
      (2 ≤ d'.approvals ↔ BothRoles ((userId, role) :: approvals))) ↔
      (approvals.length = 1 → role = "management" ∧
        (∀ first ∈ approvals, first.2 = "credit_officer") ∧ d.status = some .priced) := by
  have htally' := htally.approval hstep he
  obtain ⟨rfl, -, row, hdecision, -, rfl⟩ := hstep.of_approval he
  have hquorum : makesQuorum .tier4 role d.decisions = true ↔
      1 ≤ approvals.length ∧ role = "management" := by
    show decide (2 ≤ d.approvals + 1 ∧ role = "management") = true ↔ _
    rw [decide_eq_true_eq, htally.count]
    exact and_congr_left' (by omega)
  rw [Docket.approvals_approve hdecision, Docket.approved_approve, hquorum, htally.count]
  rw [htally.count] at hshown
  match approvals, htally', hfit, hshown with
  | [], _, hfit, _ =>
    -- one approval has not both roles, and leaves the status
    have hnone : ¬BothRoles [(userId, role)] := fun h => absurd h.two_le (by simp)
    have hnot : ¬d.status = some .approved := fun h => absurd (hfit.1 h).two_le (by simp)
    simp [hnone, hnot]
  | [first], htally', hfit, _ =>
    -- the second is where the count and the roles may differ
    have hne : userId ≠ first.1 := by
      have hdistinct := htally'.distinct
      simp only [List.map_cons, List.map_nil, List.nodup_cons, List.mem_singleton] at hdistinct
      exact hdistinct.1
    have hnot : ¬d.status = some .approved := fun h => absurd (hfit.1 h).two_le (by simp)
    rw [bothRoles_pair hne]
    simp only [hnot, List.length_singleton, List.mem_singleton, forall_eq, true_imp_iff]
    grind
  | _ :: _ :: _, _, hfit, hshown =>
    -- with two the quorum is there already
    have hboth := hshown.1 (by simp)
    have happroved := hfit.2 hboth
    have hboth' := hboth.cons (userId, role)
    simp [happroved, hboth']

end Tier4

/-- **Tier 4 quorum.** From a state with no approval of an invoice of Tier 4, the runs along which it is
approved and shown so exactly with the approvals of both roles are those in which every approval after
exactly one other is by management, the other by a credit officer, and the invoice still `priced`. -/
theorem tier4_quorum_iff (cfg : Config) (w : World) (invoiceId : ℕ)
    (htier : tierOf w invoiceId = some .tier4) (hstatus : statusOf invoiceId w ≠ some .approved)
    (hnone : countApprovals (getApprovalsByInvoiceId invoiceId w) = 0)
    (s : Sys World Input Event RisError) :
    Relation.ReflTransGen (fun s s' => Step (program cfg) always s s' ∧
        Tier4Quorum invoiceId s'.toState) (Sys.init w) s ↔
      Reaches (program cfg) (ManagementSecond invoiceId) (Sys.init w) s := by
  refine Protocol.runs_iff (program_implements cfg w) (Inv.init w)
    (P := fun s => Tier4Quorum invoiceId s ∧
      Tallied (recorded invoiceId s.hist) (docketOf invoiceId s.store))
    (R := fun _ s' => Tier4Quorum invoiceId s') ?_ (fun _ hs => hs.1) ?_ ?_ ?_ s
  · have hzero : ¬BothRoles (recorded invoiceId []) := fun h => absurd h.two_le (by simp [recorded])
    refine ⟨⟨iff_of_false hstatus hzero, (reportsQuorum_iff htier).2 (iff_of_false ?_ hzero)⟩,
      hnone, List.nodup_nil, ?_, ?_⟩
    · show ¬2 ≤ countApprovals (getApprovalsByInvoiceId invoiceId w)
      omega
    · intro a ha
      cases ha
    · intro a ha
      cases ha
  · intro s t d hs hmove
    obtain rfl : d = s.store := hmove.effect
    have hsame : recorded invoiceId ((t, none) :: s.hist) = recorded invoiceId s.hist := by
      rw [recorded_cons]
      rfl
    exact ⟨hsame ▸ hs.1.approved, hsame ▸ hs.1.reported⟩
  · intro s t e d ⟨hs, htally⟩ hmove
    obtain ⟨hstep, hbefore, hafter⟩ := tieredStep_of_moves hmove htier
    have hshown := (reportsQuorum_iff hbefore).1 hs.reported
    cases happroval : e.approval? invoiceId with
    | none =>
      obtain ⟨hstatus', hcount⟩ := hstep.of_no_approval happroval
      have hsame : recorded invoiceId ((t, some e) :: s.hist) = recorded invoiceId s.hist := by
        rw [recorded_cons, Option.bind_some, happroval]
        rfl
      refine iff_of_true ⟨?_, ?_⟩ ?_
      · rw [State.record_hist, hsame]
        exact hstatus'.trans hs.approved
      · rw [State.record_hist, hsame]
        refine (reportsQuorum_iff hafter).2 (Iff.trans ?_ hshown)
        exact iff_of_eq (congrArg (2 ≤ ·) hcount)
      · intro approval he
        rw [happroval] at he
        cases he
    | some approval =>
      obtain ⟨userId, role, quorumReached⟩ := approval
      have hrecorded : recorded invoiceId ((t, some e) :: s.hist) =
          (userId, role) :: recorded invoiceId s.hist := by
        rw [recorded_cons, Option.bind_some, happroval]
        rfl
      have hiff := tier4_approval_iff htally hs.approved hshown hstep happroval
      rw [← hrecorded] at hiff
      constructor
      · intro hgood approval he
        rw [happroval, Option.mem_some_iff] at he
        subst he
        exact hiff.1 ⟨hgood.approved, (reportsQuorum_iff hafter).1 hgood.reported⟩
      · intro hcond
        obtain ⟨happroved, hreported⟩ := hiff.2 (hcond _ happroval)
        exact ⟨happroved, (reportsQuorum_iff hafter).2 hreported⟩
  · intro s t e d ⟨hs, htally⟩ hmove hgood
    refine ⟨hgood, ?_⟩
    cases e with
    | none =>
      obtain rfl : d = s.store := hmove.effect
      rw [State.record_hist, recorded_cons]
      exact htally
    | some e =>
      obtain ⟨hstep, -, -⟩ := tieredStep_of_moves hmove htier
      rw [State.record_hist, recorded_cons, Option.bind_some]
      cases happroval : e.approval? invoiceId with
      | none => exact htally.of_no_approval hstep happroval
      | some approval => exact htally.approval hstep happroval

/-- An invoice of Tier 4. -/
def tier4World : World := decisionWorld .priced 250000000 80 false

/-- A credit officer approves, then a management user. -/
theorem tier4_quorum_of_management_second :
    ∃ s : Sys World Input Event RisError, statusOf 1 s.store = some .approved ∧
      Relation.ReflTransGen (fun s s' => Step (program { tier4Refused := false }) always s s' ∧
        Tier4Quorum 1 s'.toState) (Sys.init tier4World) s := by
  obtain ⟨s, hs, hP⟩ := exists_reaches (program { tier4Refused := false }) (ManagementSecond 1)
    (Sys.init tier4World) (approveAlone 0 7 "credit_officer" ++ approveAlone 1 8 "management")
    (fun s => statusOf 1 s.store = some .approved) (by decide)
  exact ⟨s, of_decide_eq_true hP,
    (tier4_quorum_iff { tier4Refused := false } tier4World 1 (by decide) (by decide)
      (by decide) s).2 hs⟩

/-- A management user approves, then a credit officer: the invoice stays `priced`. Two management users
approve: the invoice is approved. -/
theorem tier4_quorum_depends_on_order :
    (∃ s : Sys World Input Event RisError,
      Reaches (program { tier4Refused := false }) always (Sys.init tier4World) s ∧
        recorded 1 s.hist = [(.user 8, "credit_officer"), (.user 7, "management")] ∧
        statusOf 1 s.store = some .priced ∧ ¬Tier4Quorum 1 s.toState) ∧
      ∃ s : Sys World Input Event RisError,
        Reaches (program { tier4Refused := false }) always (Sys.init tier4World) s ∧
          recorded 1 s.hist = [(.user 8, "management"), (.user 7, "management")] ∧
          statusOf 1 s.store = some .approved ∧ ¬Tier4Quorum 1 s.toState := by
  obtain ⟨s, hs, hP⟩ := exists_reaches (program { tier4Refused := false }) always
    (Sys.init tier4World) (approveAlone 0 7 "management" ++ approveAlone 1 8 "credit_officer")
    (fun s => recorded 1 s.hist = [(.user 8, "credit_officer"), (.user 7, "management")] ∧
      statusOf 1 s.store = some .priced) (by decide)
  obtain ⟨s', hs', hP'⟩ := exists_reaches (program { tier4Refused := false }) always
    (Sys.init tier4World) (approveAlone 0 7 "management" ++ approveAlone 1 8 "management")
    (fun s => recorded 1 s.hist = [(.user 8, "management"), (.user 7, "management")] ∧
      statusOf 1 s.store = some .approved) (by decide)
  obtain ⟨hrecorded, hpriced⟩ := of_decide_eq_true hP
  obtain ⟨hrecorded', happroved⟩ := of_decide_eq_true hP'
  refine ⟨⟨s, hs, hrecorded, hpriced, fun h => ?_⟩, s', hs', hrecorded', happroved, fun h => ?_⟩
  · have hboth : BothRoles (recorded 1 s.hist) := by
      rw [hrecorded]
      exact ⟨.user 8, .user 7, by decide, by simp, by simp⟩
    have happroved := h.approved.2 hboth
    rw [hpriced] at happroved
    cases happroved
  · have hboth := h.approved.1 happroved
    rw [hrecorded', bothRoles_pair (by decide)] at hboth
    simp at hboth

end Ris.Approvals
