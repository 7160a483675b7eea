import Mathlib.Data.List.Dedup
import RisPlatform.Approvals.Quorum

/-!
# What decisions lead to

The effects of the decisions on one invoice: the payment that an approval enqueues, its audit row, and
the rejections that add up to an automatic one. The status is read before the row is locked, and the
`UPDATE` under the lock changes it only from `priced`; what else the transaction does, it does anyway.
-/

namespace Ris.Approvals

open Relational Concurrent

/-! ## The effects of an approval -/

/-- The payment of the invoice is enqueued exactly if it is approved, and once; every approval has its
audit row. -/
structure EffectsMatch (d : Docket) : Prop where
  jobs : d.paymentJobs = if d.status = some .approved then 1 else 0
  audits : d.approvalAudits = d.approvals

/-- A step enqueues the payment exactly if it approves the invoice, adds an audit row exactly if it
records an approval, and approves no rejected invoice. -/
structure EffectsOf (d d' : Docket) : Prop where
  jobs : d'.paymentJobs = d.paymentJobs +
    if d.status ≠ some .approved ∧ d'.status = some .approved then 1 else 0
  audits : d'.approvalAudits + d.approvals = d.approvalAudits + d'.approvals
  final : d.status = some .rejected → d'.status ≠ some .approved

/-- An approval that makes the quorum finds the invoice `priced`, and the queue of the payments is set;
no transaction fails after it has enqueued a job. -/
def QuorumWhilePriced (cfg : Config) (invoiceId : ℕ) : Cond World Event := fun s _ e =>
  e ≠ .leftJobs ∧ ∀ approval ∈ e.approval? invoiceId, ∀ tier ∈ tierOf s.store invoiceId,
    makesQuorum tier approval.2.1 (getApprovalsByInvoiceId invoiceId s.store) = true →
      statusOf invoiceId s.store = some .priced ∧ QueueName.payments ∈ cfg.queues

instance (cfg : Config) (invoiceId : ℕ) (s : State World Event) (t : ℕ) (e : Event) :
    Decidable (QuorumWhilePriced cfg invoiceId s t e) := by
  unfold QuorumWhilePriced
  infer_instance

section Effects

variable {cfg : Config} {tier : ApprovalTier} {invoiceId : ℕ} {d d' : Docket} {e : Event}

/-- A rejected invoice stays rejected, and an approved one approved. -/
theorem Docket.Step.status_stays (h : d.Step cfg tier invoiceId e d')
    (hdecided : d.status ≠ some .priced) : d'.status = d.status := by
  cases h with
  | elsewhere | leftJobs | reset => rfl
  | approval => simp [approve, hdecided]
  | rejection => simp [reject, hdecided]

/-- The step lemma. -/
theorem Docket.Step.effectsOf (h : d.Step cfg tier invoiceId e d') (hleft : e ≠ .leftJobs)
    (hquorum : ∀ approval ∈ e.approval? invoiceId,
      makesQuorum tier approval.2.1 d.decisions = true →
        d.status = some .priced ∧ QueueName.payments ∈ cfg.queues) : EffectsOf d d' := by
  have hfinal : d.status = some .rejected → d'.status ≠ some .approved := by
    intro hrejected happroved
    rw [h.status_stays (by simp [hrejected]), hrejected] at happroved
    cases happroved
  refine ⟨?_, ?_, hfinal⟩
  · cases h with
    | elsewhere | reset => simp
    | leftJobs => exact absurd rfl hleft
    | approval _ userId role row happroval =>
      have hpriced := hquorum _ happroval
      dsimp only at hpriced
      simp only [Docket.approved_approve]
      by_cases hmakes : makesQuorum tier role d.decisions = true
      · obtain ⟨hstatus, hset⟩ := hpriced hmakes
        simp [Docket.approve, hmakes, hstatus, hset]
      · simp [Docket.approve, hmakes]
    | rejection =>
      simp only [Docket.approved_reject]
      simp [Docket.reject]
  · cases h with
    | elsewhere | reset => rfl
    | leftJobs => exact absurd rfl hleft
    | approval _ userId role row _ _ _ hdecision =>
      rw [Docket.approvals_approve hdecision]
      show d.approvalAudits + 1 + d.approvals = _
      omega
    | rejection _ userId rejects row _ _ hdecision =>
      rw [Docket.approvals_reject hdecision]
      rfl

/-- What matches before such a step matches after it. -/
theorem EffectsOf.effectsMatch (h : EffectsOf d d') (hstay : d.status = some .approved →
    d'.status = some .approved) (hd : EffectsMatch d) : EffectsMatch d' := by
  constructor
  · rw [h.jobs, hd.jobs]
    by_cases hbefore : d.status = some .approved
    · simp [hbefore, hstay hbefore]
    · simp [hbefore]
  · have haudits := h.audits
    rw [hd.audits] at haudits
    omega

end Effects

section Runs

variable {cfg : Config} {w : World} {invoiceId : ℕ} {s s' : State World Event}

/-- Whether or not the invoice has a tier, a statement is a step of its docket. -/
theorem someStep_of_moves (invoiceId : ℕ) {C : Cond World Event} {t : ℕ} {e : Event} {d : World}
    (hmove : (protocol cfg w).Moves C s t (some e) d) :
    (docketOf invoiceId s.store).Step cfg ((tierOf w invoiceId).getD .auto) invoiceId e
      (docketOf invoiceId d) := by
  refine docketStep_of_moves hmove fun tier htier => ?_
  rw [Option.mem_def.1 htier, Option.getD_some]

/-- Once it is not `priced`, no call changes the status. -/
theorem status_stays_of_moves {C : Cond World Event} {t : ℕ} {e : Option Event} {d : World}
    {status : InvoiceStatus} (hmove : (protocol cfg w).Moves C s t e d)
    (hstatus : statusOf invoiceId s.store = some status) (hdecided : status ≠ .priced) :
    statusOf invoiceId d = some status := by
  cases e with
  | none =>
    obtain rfl : d = s.store := hmove.effect
    exact hstatus
  | some e =>
    have hstep := someStep_of_moves invoiceId hmove
    have hne : (docketOf invoiceId s.store).status ≠ some .priced := by
      show statusOf invoiceId s.store ≠ some .priced
      rw [hstatus]
      exact fun h => hdecided (Option.some.inj h)
    exact (hstep.status_stays hne).trans hstatus

/-- The step lemma for a call of the service. -/
theorem effectsOf_of_moves {t : ℕ} {e : Option Event} {d : World}
    (hmove : (protocol cfg w).Moves (QuorumWhilePriced cfg invoiceId) s t e d) :
    EffectsOf (docketOf invoiceId s.store) (docketOf invoiceId d) ∧
      (statusOf invoiceId s.store = some .approved → statusOf invoiceId d = some .approved) := by
  cases e with
  | none =>
    obtain rfl : d = s.store := hmove.effect
    exact ⟨⟨by simp, rfl, fun h h' => by simp [h] at h'⟩, fun h => h⟩
  | some e =>
    have hstep := someStep_of_moves invoiceId hmove
    obtain ⟨hleft, hquorum⟩ := hmove.cond e rfl
    have hinv : Inv w s.store := hmove.inv
    refine ⟨hstep.effectsOf hleft fun approval happroval hmakes => ?_,
      fun happroved => status_stays_of_moves hmove happroved (by decide)⟩
    · -- a decision is taken only on an invoice that has a tier
      obtain ⟨tier, htier⟩ := Effect.tierOf_of_approval hmove.effect happroval
      rw [htier, Option.getD_some] at hmakes
      refine hquorum approval happroval tier ?_ hmakes
      rw [hinv.tierOf_congr, htier, Option.mem_some_iff]

end Runs

/-- **Effects of an approval.** In every run in which each approval that makes the quorum finds the
invoice `priced` and no transaction fails after it has enqueued a job: each step enqueues the payment
exactly if it approves the invoice and audits exactly the approvals it records; the payment is enqueued
once if the invoice is approved and otherwise not at all. In every run, whatever its steps, a rejected
invoice is not approved in any later state. -/
theorem approval_effects_match (cfg : Config) (w : World) (invoiceId : ℕ) :
    (∀ s, Reaches (program cfg) (QuorumWhilePriced cfg invoiceId) (Sys.init w) s →
      Relation.ReflTransGen (fun s s' => Step (program cfg) always s s' ∧
          EffectsOf (docketOf invoiceId s.store) (docketOf invoiceId s'.store)) (Sys.init w) s ∧
        (EffectsMatch (docketOf invoiceId w) → EffectsMatch (docketOf invoiceId s.store))) ∧
      ∀ s s', Reaches (program cfg) always (Sys.init w) s → Reaches (program cfg) always s s' →
        statusOf invoiceId s.store = some .rejected → statusOf invoiceId s'.store ≠ some .approved := by
  have hprog := program_implements cfg w
  refine ⟨fun s hs => ⟨?_, fun hw => ?_⟩, fun s s' hs hs' hrejected happroved => ?_⟩
  · induction hs with
    | refl => exact .refl
    | tail hpre hlast ih =>
      refine ih.tail ⟨hlast.always, ?_⟩
      rcases Protocol.step_move hprog (Inv.init w) hpre hlast with heq | ⟨t, e, d, hmove, heq⟩
      · rw [heq]
        exact ⟨by simp, rfl, fun h h' => by simp [h] at h'⟩
      · rw [heq]
        exact (effectsOf_of_moves hmove).1
  · refine Protocol.invariant (P := fun s => EffectsMatch (docketOf invoiceId s.store)) hprog
      (Inv.init w) hw (fun s t e d hmatch hmove => ?_) hs
    obtain ⟨heffects, hstay⟩ := effectsOf_of_moves hmove
    exact heffects.effectsMatch hstay hmatch
  · have hstays := Protocol.persists (P := fun s => statusOf invoiceId s.store = some .rejected) hprog
      (Inv.init w) (fun s t e d hrejected hmove => ?_) hs hrejected hs'
    · rw [hstays] at happroved
      cases happroved
    · exact status_stays_of_moves hmove hrejected (by decide)

instance (d : Docket) : Decidable (EffectsMatch d) :=
  decidable_of_iff ((d.paymentJobs = if d.status = some .approved then 1 else 0) ∧
    d.approvalAudits = d.approvals) ⟨fun h => ⟨h.1, h.2⟩, fun h => ⟨h.jobs, h.audits⟩⟩

/-- Two officers approve an invoice of Tier 3: two audit rows, one payment. -/
theorem approval_effects_of_two_officers :
    ∃ s : Sys World Input Event RisError, EffectsMatch (docketOf 1 s.store) ∧
      (docketOf 1 s.store).status = some .approved ∧ (docketOf 1 s.store).approvalAudits = 2 := by
  obtain ⟨s, hs, hP⟩ := exists_reaches (program {}) (QuorumWhilePriced {} 1) (Sys.init tier3World)
    (approveAlone 0 7 "credit_officer" ++ approveAlone 1 8 "credit_officer")
    (fun s => (docketOf 1 s.store).status = some .approved ∧ (docketOf 1 s.store).approvalAudits = 2)
    (by decide)
  obtain ⟨happroved, haudits⟩ := of_decide_eq_true hP
  exact ⟨s, ((approval_effects_match {} tier3World 1).1 s hs).2 (by decide), happroved, haudits⟩

/-- The first approval in Tier 3 is audited as `INVOICE_APPROVED` and leaves the invoice `priced`. -/
theorem first_approval_is_audited :
    ∃ s : Sys World Input Event RisError,
      Reaches (program {}) always (Sys.init tier3World) s ∧
        (docketOf 1 s.store).approvalAudits = 1 ∧ (docketOf 1 s.store).paymentJobs = 0 ∧
          (docketOf 1 s.store).status = some .priced := by
  obtain ⟨s, hs, hP⟩ := exists_reaches (program {}) always (Sys.init tier3World)
    (approveAlone 0 7 "credit_officer")
    (fun s => (docketOf 1 s.store).approvalAudits = 1 ∧ (docketOf 1 s.store).paymentJobs = 0 ∧
      (docketOf 1 s.store).status = some .priced) (by decide)
  exact ⟨s, hs, of_decide_eq_true hP⟩

/-! ## One decision each -/

/-- The officer whose decision on the invoice the event records. -/
def decidedBy (invoiceId : ℕ) (e : Event) : Option Actor :=
  ((e.approval? invoiceId).map Prod.fst).or ((e.rejection? invoiceId).map Prod.fst)

/-- The officers who rejected the invoice. -/
def Docket.rejecters (d : Docket) : List Actor :=
  (d.decisions.filter fun a => a.decision = .rejected).map Approval.approverId

/-- No officer has two decisions, and the rejections counted are by that many different officers. -/
structure OneDecisionEach (d : Docket) : Prop where
  distinct : (d.decisions.map Approval.approverId).Nodup
  counted : d.rejectionCount ≤ d.rejecters.dedup.length

/-- Whoever decides has not decided before. -/
def DecidesFirst (invoiceId : ℕ) : Cond World Event := fun s _ e =>
  ∀ userId ∈ decidedBy invoiceId e,
    alreadyDecided (getApprovalsByInvoiceId invoiceId s.store) userId = false

instance (invoiceId : ℕ) (s : State World Event) (t : ℕ) (e : Event) :
    Decidable (DecidesFirst invoiceId s t e) := by
  unfold DecidesFirst
  infer_instance

section OneDecision

variable {cfg : Config} {tier : ApprovalTier} {invoiceId : ℕ} {d d' : Docket} {e : Event}

theorem alreadyDecided_eq_false {decisions : List Approval} {userId : Actor} :
    alreadyDecided decisions userId = false ↔ userId ∉ decisions.map Approval.approverId := by
  simp [alreadyDecided]

/-- One more decision keeps them distinct exactly if its officer has none. -/
theorem nodup_append_iff {decisions : List Approval} {row : Approval}
    (h : (decisions.map Approval.approverId).Nodup) :
    ((decisions ++ [row]).map Approval.approverId).Nodup ↔
      alreadyDecided decisions row.approverId = false := by
  rw [List.map_append, List.map_singleton, List.nodup_append, alreadyDecided_eq_false]
  constructor
  · rintro ⟨-, -, hdisjoint⟩ hmem
    exact hdisjoint _ hmem _ (List.mem_singleton_self _) rfl
  · intro hfresh
    refine ⟨h, List.nodup_singleton _, fun a ha b hb hab => hfresh ?_⟩
    rwa [← List.mem_singleton.1 hb, ← hab]

theorem rejecters_append_approved {decisions : List Approval} {row : Approval}
    (hdecision : row.decision = .approved) :
    ((decisions ++ [row]).filter fun a => a.decision = .rejected).map Approval.approverId =
      (decisions.filter fun a => a.decision = .rejected).map Approval.approverId := by
  simp [hdecision]

/-- A new officer's rejection counts one more officer. -/
theorem length_rejecters_append {decisions : List Approval} {row : Approval}
    (hdecision : row.decision = .rejected) (hfresh : alreadyDecided decisions row.approverId = false) :
    (((decisions ++ [row]).filter fun a => a.decision = .rejected).map
        Approval.approverId).dedup.length =
      ((decisions.filter fun a => a.decision = .rejected).map Approval.approverId).dedup.length + 1 := by
  have hdisjoint : ((decisions.filter fun a => a.decision = .rejected).map Approval.approverId).Disjoint
      [row.approverId] := by
    rw [List.disjoint_singleton]
    intro hmem
    obtain ⟨a, ha, hby⟩ := List.mem_map.1 hmem
    refine alreadyDecided_eq_false.1 hfresh (hby ▸ List.mem_map_of_mem ?_)
    exact (List.mem_filter.1 ha).1
  have hrow : [row].filter (fun a => a.decision = .rejected) = [row] := by simp [hdecision]
  rw [List.filter_append, hrow, List.map_append, List.map_singleton,
    List.Disjoint.dedup_append hdisjoint, List.length_append]
  rfl

/-- The step lemma: the law is kept exactly if whoever decides has not decided before. -/
theorem Docket.Step.oneDecisionEach_iff (h : d.Step cfg tier invoiceId e d') (htier : tier ≠ .auto)
    (hd : OneDecisionEach d) :
    OneDecisionEach d' ↔ ∀ userId ∈ decidedBy invoiceId e, alreadyDecided d.decisions userId = false := by
  cases h with
  | elsewhere _ happroval hrejection =>
    refine iff_of_true hd fun userId hby => ?_
    simp [decidedBy, happroval, hrejection] at hby
  | leftJobs => exact iff_of_true ⟨hd.distinct, hd.counted⟩ fun userId hby => by cases hby
  | reset =>
    refine iff_of_true ⟨hd.distinct, ?_⟩ fun userId hby => by cases hby
    exact Int.natCast_nonneg _
  | approval _ userId role row happroval hrejection hmay hdecision hby =>
    have hdecided : decidedBy invoiceId e = some userId := by simp [decidedBy, happroval]
    simp only [hdecided, Option.mem_some_iff, forall_eq']
    rw [← hby htier]
    constructor
    · exact fun h => (nodup_append_iff hd.distinct).1 h.distinct
    · refine fun hfresh => ⟨(nodup_append_iff hd.distinct).2 hfresh, ?_⟩
      show d.rejectionCount ≤ _
      unfold rejecters approve
      rw [rejecters_append_approved hdecision]
      exact hd.counted
  | rejection _ userId rejects row hrejection happroval hdecision hby =>
    have hdecided : decidedBy invoiceId e = some userId := by simp [decidedBy, happroval, hrejection]
    simp only [hdecided, Option.mem_some_iff, forall_eq']
    rw [← hby]
    constructor
    · exact fun h => (nodup_append_iff hd.distinct).1 h.distinct
    · refine fun hfresh => ⟨(nodup_append_iff hd.distinct).2 hfresh, ?_⟩
      have hcounted := hd.counted
      unfold rejecters at hcounted ⊢
      show d.rejectionCount + (if tier = .tier3 then 1 else 0) ≤ _
      unfold reject
      rw [length_rejecters_append hdecision hfresh]
      split <;> push_cast <;> omega

end OneDecision

/-- **One decision per officer.** From a state in which the law holds of an invoice of Tier 3 or Tier 4,
the runs along which no officer has two decisions and the rejections counted are by that many different
officers are exactly those in which nobody decides a second time. -/
theorem one_decision_iff (cfg : Config) (w : World) (invoiceId : ℕ)
    (htier : tierOf w invoiceId = some .tier3 ∨ tierOf w invoiceId = some .tier4)
    (hw : OneDecisionEach (docketOf invoiceId w)) (s : Sys World Input Event RisError) :
    Relation.ReflTransGen (fun s s' => Step (program cfg) always s s' ∧
        OneDecisionEach (docketOf invoiceId s'.store)) (Sys.init w) s ↔
      Reaches (program cfg) (DecidesFirst invoiceId) (Sys.init w) s := by
  obtain ⟨tier, hsome, hne⟩ : ∃ tier, tierOf w invoiceId = some tier ∧ tier ≠ .auto := by
    rcases htier with htier | htier
    · exact ⟨_, htier, by decide⟩
    · exact ⟨_, htier, by decide⟩
  refine Protocol.runs_iff (program_implements cfg w) (Inv.init w)
    (P := fun s => OneDecisionEach (docketOf invoiceId s.store))
    (R := fun _ s' => OneDecisionEach (docketOf invoiceId s'.store)) hw (fun _ hs => hs) ?_ ?_
    (fun _ _ _ _ _ _ hgood => hgood) s
  · intro s t d hs hmove
    obtain rfl : d = s.store := hmove.effect
    exact hs
  · intro s t e d hs hmove
    exact (tieredStep_of_moves hmove hsome).1.oneDecisionEach_iff hne hs

instance (d : Docket) : Decidable (OneDecisionEach d) :=
  decidable_of_iff ((d.decisions.map Approval.approverId).Nodup ∧
    d.rejectionCount ≤ d.rejecters.dedup.length) ⟨fun h => ⟨h.1, h.2⟩, fun h => ⟨h.distinct, h.counted⟩⟩

/-- Three officers reject an invoice of Tier 3, which rejects it. -/
theorem one_decision_of_three_officers :
    ∃ s : Sys World Input Event RisError, statusOf 1 s.store = some .rejected ∧
      Relation.ReflTransGen (fun s s' => Step (program {}) always s s' ∧
        OneDecisionEach (docketOf 1 s'.store)) (Sys.init tier3World) s := by
  obtain ⟨s, hs, hP⟩ := exists_reaches (program {}) (DecidesFirst 1) (Sys.init tier3World)
    (rejectAlone 0 7 "credit_officer" ++ rejectAlone 1 8 "credit_officer" ++
      rejectAlone 2 9 "management")
    (fun s => statusOf 1 s.store = some .rejected) (by decide)
  exact ⟨s, of_decide_eq_true hP,
    (one_decision_iff {} tier3World 1 (Or.inl (by decide)) (by decide) s).2 hs⟩

/-- One officer rejects an invoice of Tier 3 three times, which rejects it. -/
theorem one_officer_rejects_alone :
    OneDecisionEach (docketOf 1 tier3World) ∧
      ∃ s : Sys World Input Event RisError, Reaches (program {}) always (Sys.init tier3World) s ∧
        statusOf 1 s.store = some .rejected ∧ (docketOf 1 s.store).rejectionCount = 3 ∧
          (docketOf 1 s.store).rejecters.dedup = [.user 7] ∧ ¬OneDecisionEach (docketOf 1 s.store) := by
  obtain ⟨s, hs, hP⟩ := exists_reaches (program {}) always (Sys.init tier3World)
    (rejectAlone 0 7 "credit_officer" ++ rejectAlone 1 7 "credit_officer" ++
      rejectAlone 2 7 "credit_officer")
    (fun s => statusOf 1 s.store = some .rejected ∧ (docketOf 1 s.store).rejectionCount = 3 ∧
      (docketOf 1 s.store).rejecters.dedup = [.user 7] ∧ ¬OneDecisionEach (docketOf 1 s.store))
    (by decide)
  exact ⟨by decide, s, hs, of_decide_eq_true hP⟩

end Ris.Approvals
