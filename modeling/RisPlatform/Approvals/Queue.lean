import RisPlatform.Approvals.Service
import RisPlatform.Alone

/-!
# The approval queue

What officers are shown: the queue of `approvals.repository.ts`, and the list, its tier filter and the detail
page of `approvals-facade.routes.ts`. Each classifies invoices with its own conditions. `determineTier` is
what a decision uses, and `fetchAndValidate` says which invoices a decision may be about.

The rows of a table stand in the order of their creation, which is the order of the queue.
-/

namespace Ris.Approvals

open Relational Concurrent

/-! ## The queries -/

/-- `invoices JOIN risk_scores`. -/
def joinScores (w : World) : List (Invoice × RiskScore) :=
  w.invoices.rows.flatMap fun i =>
    (w.riskScores.rows.filter fun r => r.invoiceId = i.id).map fun r => (i, r)

/-- The `CASE` of the queue and of the SLA query. -/
def caseTier (faceValue finalScore : ℤ) (amlFlagged : Bool) : ApprovalTier :=
  if 50000000 < faceValue ∨ finalScore < 50 then .tier3
  else if 10000000 ≤ faceValue ∨ 50 ≤ finalScore ∧ finalScore < 75 ∨ amlFlagged = true then .tier2
  else .auto

structure ApprovalQueueItem where
  invoiceId : ℕ
  faceValue : ℤ
  supplierId : ℕ
  buyerId : ℕ
  finalScore : ℤ
  amlFlagged : Bool
  status : InvoiceStatus
  tier : ApprovalTier

/-- The officer has no decision on the invoice. -/
def undecidedBy (officerId : Actor) (invoiceId : ℕ) (w : World) : Bool :=
  w.approvals.rows.all fun a => ¬(a.invoiceId = invoiceId ∧ a.approverId = officerId)

/-- The pending invoices of an officer. -/
def getPendingApprovalsByOfficer (officerId : Actor) (w : World) : List ApprovalQueueItem :=
  ((joinScores w).filter fun p =>
    p.1.status = .scored ∧ undecidedBy officerId p.1.id w = true).map fun p =>
    { invoiceId := p.1.id
      faceValue := p.1.faceValue
      supplierId := p.1.supplierId
      buyerId := p.1.buyerId
      finalScore := p.2.finalScore
      amlFlagged := p.1.amlFlagged
      status := p.1.status
      tier := caseTier p.1.faceValue p.2.finalScore p.1.amlFlagged }

/-- Get the approval queue for a credit officer. -/
def getApprovalQueue (officerId : Actor) : Call (List ApprovalQueueItem) :=
  query (getPendingApprovalsByOfficer officerId)

/-! ## The facade -/

/-- `invoices LEFT JOIN risk_scores`. -/
def leftJoinScores (w : World) : List (Invoice × Option RiskScore) :=
  w.invoices.rows.flatMap fun i =>
    match w.riskScores.rows.filter fun r => r.invoiceId = i.id with
    | [] => [(i, none)]
    | scores => scores.map fun r => (i, some r)

/-- `COALESCE(rs.final_score, 0)`, and `risk?.final_score ?? 0`. -/
def scoreOrZero (riskScore : Option RiskScore) : ℤ := (riskScore.map RiskScore.finalScore).getD 0

/-- The `tab` parameter. -/
inductive ApprovalTab
  | pending | approved | rejected | all
  deriving DecidableEq

/-- The status filter of the tab. -/
def buildTabFilter : ApprovalTab → InvoiceStatus → Bool
  | .approved, status => status = .approved
  | .rejected, status => status = .rejected
  | .all, status => status ∈ [.scored, .approved, .rejected]
  | .pending, status => status = .scored

/-- The condition of the `tier` parameter; on a missing score only a comparison of the face value can
hold. -/
def buildTierCondition (tier : ℕ) (invoice : Invoice) (riskScore : Option RiskScore) : Bool :=
  match tier, riskScore with
  | 3, riskScore => 50000000 < invoice.faceValue ∨ ∃ r ∈ riskScore, r.finalScore < 50
  | 2, some r =>
    10000000 ≤ invoice.faceValue ∧ invoice.faceValue ≤ 50000000 ∧ 50 ≤ r.finalScore ∧ r.finalScore < 75
  | _, some r => invoice.faceValue < 10000000 ∧ 75 ≤ r.finalScore ∧ invoice.amlFlagged = false
  | _, none => false

def riskLevel (score : ℤ) : String :=
  if 75 ≤ score then "low" else if 50 ≤ score then "medium" else "high"

structure ApprovalListRow where
  invoiceId : ℕ
  faceValue : ℤ
  riskScore : ℤ
  riskLevel : String
  status : InvoiceStatus
  currentTier : ApprovalTier

/-- The approvals list: the rows of the tab, and of the tier if one is asked for. -/
def queryApprovalList (tab : ApprovalTab) (tier : Option ℕ) (w : World) : List ApprovalListRow :=
  ((leftJoinScores w).filter fun p =>
    buildTabFilter tab p.1.status = true ∧ ∀ t ∈ tier, buildTierCondition t p.1 p.2 = true).map fun p =>
    { invoiceId := p.1.id
      faceValue := p.1.faceValue
      riskScore := scoreOrZero p.2
      riskLevel := riskLevel (scoreOrZero p.2)
      status := p.1.status
      currentTier := caseTier p.1.faceValue (scoreOrZero p.2) p.1.amlFlagged }

/-- The tier on the detail page. -/
def computeTierFromInvoice (invoice : Invoice) (risk : Option RiskScore) : ApprovalTier :=
  if 50000000 < invoice.faceValue ∨ scoreOrZero risk < 50 then .tier3
  else if 10000000 ≤ invoice.faceValue ∨ 50 ≤ scoreOrZero risk ∧ scoreOrZero risk < 75 then .tier2
  else .auto

/-! ## Agreement of the tiers -/

/-- The tier that the `tier` parameter asks for. -/
def filteredTier : ℕ → ApprovalTier
  | 3 => .tier3
  | 2 => .tier2
  | _ => .auto

/-- Every classification of the invoice is that of the decision. -/
structure TiersAgree (invoice : Invoice) (riskScore : RiskScore) : Prop where
  /-- The queue, the SLA query and the facade's list. -/
  listed : caseTier invoice.faceValue riskScore.finalScore invoice.amlFlagged
    = determineTier invoice riskScore
  /-- The facade's detail page. -/
  detail : computeTierFromInvoice invoice (some riskScore) = determineTier invoice riskScore
  /-- The facade's filter. -/
  filtered : ∀ tier ∈ [1, 2, 3], buildTierCondition tier invoice (some riskScore) = true ↔
    determineTier invoice riskScore = filteredTier tier

/-- The invoice is not of Tier 4; and if it is not of Tier 3, its face value and its score put it in the
same tier, which the flag does not raise. -/
structure Unambiguous (invoice : Invoice) (riskScore : RiskScore) : Prop where
  faceValue : invoice.faceValue ≤ 200000000
  score : 30 ≤ riskScore.finalScore
  same : invoice.faceValue ≤ 50000000 → 50 ≤ riskScore.finalScore →
    (10000000 ≤ invoice.faceValue ↔ riskScore.finalScore < 75)
  flag : invoice.faceValue < 10000000 → 75 ≤ riskScore.finalScore → invoice.amlFlagged = false

section Tiers

variable {invoice : Invoice} {riskScore : RiskScore}

/-- The `CASE` misses Tier 4 and nothing else. -/
theorem caseTier_eq_iff :
    caseTier invoice.faceValue riskScore.finalScore invoice.amlFlagged
      = determineTier invoice riskScore ↔
      invoice.faceValue ≤ 200000000 ∧ 30 ≤ riskScore.finalScore := by
  unfold caseTier determineTier
  dsimp only
  by_cases hfour : 200000000 < invoice.faceValue ∨ riskScore.finalScore < 30
  · have hthree : 50000000 < invoice.faceValue ∨ riskScore.finalScore < 50 := by omega
    rw [if_pos hthree, if_pos hfour]
    constructor
    · intro h
      cases h
    · omega
  · rw [if_neg hfour]
    refine iff_of_true rfl ?_
    omega

/-- The filter on the tier selects by `determineTier` exactly where the tiers are unambiguous. -/
theorem buildTierCondition_iff (hface : invoice.faceValue ≤ 200000000)
    (hscore : 30 ≤ riskScore.finalScore) :
    (∀ tier ∈ [1, 2, 3], buildTierCondition tier invoice (some riskScore) = true ↔
      determineTier invoice riskScore = filteredTier tier) ↔ Unambiguous invoice riskScore := by
  have hfour : ¬(200000000 < invoice.faceValue ∨ riskScore.finalScore < 30) := by omega
  constructor
  · intro h
    have h₂ := h 2 (by simp)
    simp only [buildTierCondition, determineTier, filteredTier, if_neg hfour, decide_eq_true_eq] at h₂
    refine ⟨hface, hscore, fun hlow hfifty => ?_, fun hsmall hgood => ?_⟩
    · -- below the bounds of Tier 3 the invoice is of Tier 2 if one of the two says so
      have hthree : ¬(50000000 < invoice.faceValue ∨ riskScore.finalScore < 50) := by omega
      rw [if_neg hthree] at h₂
      by_cases hten : 10000000 ≤ invoice.faceValue
      · rw [if_pos (Or.inl hten)] at h₂
        have hselected := h₂.2 rfl
        omega
      · by_cases hmiddle : riskScore.finalScore < 75
        · rw [if_pos (Or.inr (Or.inl ⟨hfifty, hmiddle⟩))] at h₂
          have hselected := h₂.2 rfl
          omega
        · omega
    · by_contra hflag
      have hthree : ¬(50000000 < invoice.faceValue ∨ riskScore.finalScore < 50) := by omega
      rw [if_neg hthree, if_pos (Or.inr (Or.inr (by simpa using hflag)))] at h₂
      have hselected := h₂.2 rfl
      omega
  · rintro ⟨-, -, hsame, hflag⟩ tier htier
    simp only [List.mem_cons, List.not_mem_nil, or_false] at htier
    simp only [determineTier, if_neg hfour]
    rcases htier with rfl | rfl | rfl
    · simp only [buildTierCondition, filteredTier, decide_eq_true_eq]
      grind
    · simp only [buildTierCondition, filteredTier, decide_eq_true_eq]
      grind
    · simp only [buildTierCondition, filteredTier, decide_eq_true_eq, Option.mem_some, exists_eq_left']
      grind

/-- Exactly there all the classifications are that of the decision. -/
theorem tiersAgree_iff : TiersAgree invoice riskScore ↔ Unambiguous invoice riskScore := by
  constructor
  · rintro ⟨hlisted, -, hfiltered⟩
    obtain ⟨hface, hscore⟩ := caseTier_eq_iff.1 hlisted
    exact (buildTierCondition_iff hface hscore).1 hfiltered
  · intro h
    have hlisted := caseTier_eq_iff.2 ⟨h.faceValue, h.score⟩
    refine ⟨hlisted, ?_, (buildTierCondition_iff h.faceValue h.score).2 h⟩
    rw [← hlisted]
    have hflag := h.flag
    simp only [computeTierFromInvoice, caseTier, scoreOrZero, Option.map_some, Option.getD_some]
    grind

end Tiers

/-! ## What is listed and what may be decided -/

/-- The invoice is on the officer's queue. -/
def Listed (officerId : Actor) (invoiceId : ℕ) (w : World) : Prop :=
  ∃ item ∈ getPendingApprovalsByOfficer officerId w, item.invoiceId = invoiceId

/-- The validation of a decision, run alone on the store, passes. -/
def AcceptsDecision (invoiceId : ℕ) (w : World) : Prop :=
  (fetchAndValidate invoiceId).Ends Healthy (fun _ _ => True) (fun _ _ => False) w

section Queue

variable {officerId : Actor} {invoiceId : ℕ} {w : World}

theorem mem_joinScores {p : Invoice × RiskScore} :
    p ∈ joinScores w ↔ p.1 ∈ w.invoices.rows ∧ p.2 ∈ w.riskScores.rows ∧ p.2.invoiceId = p.1.id := by
  obtain ⟨i, r⟩ := p
  simp only [joinScores, List.mem_flatMap, List.mem_map, List.mem_filter, decide_eq_true_eq,
    Prod.mk.injEq]
  constructor
  · rintro ⟨i, hi, r, ⟨hr, hid⟩, rfl, rfl⟩
    exact ⟨hi, hr, hid⟩
  · rintro ⟨hi, hr, hid⟩
    exact ⟨i, hi, r, ⟨hr, hid⟩, rfl, rfl⟩

theorem listed_iff : Listed officerId invoiceId w ↔
    ∃ p ∈ joinScores w, p.1.id = invoiceId ∧ p.1.status = .scored ∧
      undecidedBy officerId invoiceId w = true := by
  simp only [Listed, getPendingApprovalsByOfficer, List.mem_map, List.mem_filter, decide_eq_true_eq]
  constructor
  · rintro ⟨item, ⟨p, ⟨hp, hscored, hundecided⟩, rfl⟩, rfl⟩
    exact ⟨p, hp, rfl, hscored, hundecided⟩
  · rintro ⟨p, hp, rfl, hscored, hundecided⟩
    exact ⟨_, ⟨p, ⟨hp, hscored, hundecided⟩, rfl⟩, rfl⟩

/-- Joined pairs with one id are about one invoice. -/
theorem eq_of_mem_joinScores {p q : Invoice × RiskScore} (hp : p ∈ joinScores w)
    (hq : q ∈ joinScores w) (hid : p.1.id = q.1.id) : p.1 = q.1 :=
  Table.eq_of_mem (mem_joinScores.1 hp).1 (mem_joinScores.1 hq).1 hid

/-- A decision is accepted exactly on a priced invoice with a score. -/
theorem acceptsDecision_iff : AcceptsDecision invoiceId w ↔
    ∃ p ∈ joinScores w, p.1.id = invoiceId ∧ p.1.status = .priced := by
  unfold AcceptsDecision fetchAndValidate
  rw [ends_query_bind]
  cases hfound : getInvoiceForApproval invoiceId w with
  | none =>
    refine iff_of_false (fun h => h) ?_
    rintro ⟨p, hp, rfl, -⟩
    exact Table.get?_eq_none.1 hfound p.1 (mem_joinScores.1 hp).1 rfl
  | some invoice =>
    have hmem : invoice ∈ w.invoices.rows := Table.mem_of_get? hfound
    have hid : invoice.id = invoiceId := Table.key_of_get? hfound
    -- the invoice of a joined pair with this id is the one that was found
    have hsame : ∀ p ∈ joinScores w, p.1.id = invoiceId → p.1 = invoice := fun p hp hpid =>
      Table.eq_of_mem (mem_joinScores.1 hp).1 hmem (hpid.trans hid.symm)
    by_cases hpriced : invoice.status = .priced
    · have hvalid : validateInvoice invoiceId (some invoice) = .ok invoice := by
        simp only [validateInvoice, hpriced, ne_eq, not_true_eq_false, if_false]
        rfl
      rw [hvalid]
      refine Iff.trans (b := ∃ r ∈ w.riskScores.rows, r.invoiceId = invoiceId) ?_ ?_
      · refine ends_query_bind.trans ?_
        cases hscore : getRiskScoreForApproval invoiceId w with
        | none =>
          refine iff_of_false (fun h => h) ?_
          rintro ⟨r, hr, hrid⟩
          have hnone := List.find?_eq_none.1 hscore r hr
          simp [hrid] at hnone
        | some r =>
          have hrid := List.find?_some hscore
          exact iff_of_true trivial ⟨r, List.mem_of_find?_eq_some hscore, of_decide_eq_true hrid⟩
      · constructor
        · rintro ⟨r, hr, hrid⟩
          exact ⟨(invoice, r), mem_joinScores.2 ⟨hmem, hr, hrid.trans hid.symm⟩, hid, hpriced⟩
        · rintro ⟨p, hp, hpid, -⟩
          obtain ⟨-, hr, hrid⟩ := mem_joinScores.1 hp
          exact ⟨p.2, hr, hrid.trans hpid⟩
    · refine iff_of_false ?_ ?_
      · have hinvalid : validateInvoice invoiceId (some invoice) =
            .error (ApprovalErrorCode.invoiceWrongStatus.error
              ("Invoice status is '" ++ invoice.status.text ++ "', expected 'priced'")) := by
          simp only [validateInvoice, hpriced, ne_eq, not_false_eq_true, if_true]
          rfl
        rw [hinvalid]
        exact fun h => h
      · rintro ⟨p, hp, hpid, hstatus⟩
        rw [hsame p hp hpid] at hstatus
        exact hpriced hstatus

/-- No priced invoice waits for a decision, and no scored one is shown to the officer. -/
def NothingWaits (officerId : Actor) (w : World) : Prop :=
  ∀ p ∈ joinScores w, p.1.status ≠ .priced ∧
    (p.1.status = .scored → undecidedBy officerId p.1.id w = false)

/-- The queue asks for `scored` and a decision for `priced`, so the two agree only on no invoice. -/
theorem listed_iff_acceptsDecision :
    (∀ invoiceId, Listed officerId invoiceId w ↔ AcceptsDecision invoiceId w) ↔
      NothingWaits officerId w := by
  constructor
  · intro h p hp
    refine ⟨fun hpriced => ?_, fun hscored => ?_⟩
    · have hlisted := (h p.1.id).2 (acceptsDecision_iff.2 ⟨p, hp, rfl, hpriced⟩)
      obtain ⟨q, hq, hid, hscored, -⟩ := listed_iff.1 hlisted
      rw [eq_of_mem_joinScores hq hp hid, hpriced] at hscored
      cases hscored
    · by_contra hundecided
      rw [Bool.not_eq_false] at hundecided
      have haccepts := (h p.1.id).1 (listed_iff.2 ⟨p, hp, rfl, hscored, hundecided⟩)
      obtain ⟨q, hq, hid, hpriced⟩ := acceptsDecision_iff.1 haccepts
      rw [eq_of_mem_joinScores hq hp hid, hscored] at hpriced
      cases hpriced
  · intro h invoiceId
    rw [listed_iff, acceptsDecision_iff]
    refine iff_of_false ?_ ?_
    · rintro ⟨p, hp, rfl, hscored, hundecided⟩
      rw [(h p hp).2 hscored] at hundecided
      cases hundecided
    · rintro ⟨p, hp, -, hpriced⟩
      exact (h p hp).1 hpriced

end Queue

/-- **The queue and the decision.** The tiers shown are those of the decision, and the queue lists what
a decision would be accepted on, exactly if every invoice with a score is unambiguous and nothing
waits. -/
theorem queue_agrees_iff (officerId : Actor) (w : World) :
    ((∀ p ∈ joinScores w, TiersAgree p.1 p.2) ∧
      ∀ invoiceId, Listed officerId invoiceId w ↔ AcceptsDecision invoiceId w) ↔
      (∀ p ∈ joinScores w, Unambiguous p.1 p.2) ∧ NothingWaits officerId w :=
  and_congr (forall₂_congr fun _ _ => tiersAgree_iff) listed_iff_acceptsDecision

/-! ## A small world -/

/-- One invoice with a score. -/
def decisionInvoice (status : InvoiceStatus) (faceValue : ℤ) (amlFlagged : Bool) : Invoice where
  id := 1
  supplierId := 1
  buyerId := 1
  faceValue := faceValue
  advanceAmount := some 800000
  discountAmount := some 20000
  netPaymentToSupplier := some 780000
  status := status
  tenorDays := some 90
  dueDate := 90
  amlFlagged := amlFlagged
  amlClearedAt := none
  pricingAcceptedAt := none
  pricingAcceptedBy := none
  pricingRejectedAt := none
  pricingRejectionReason := none
  pricingDisputedAt := none
  fundedAt := none

def decisionScore (finalScore : ℤ) : RiskScore where
  id := 1
  invoiceId := 1
  finalScore := finalScore
  maxAdvancePct := mkRat 80 100
  riskPremiumRate := mkRat 3 100
  bankCostRate := none
  risMarginRate := none
  totalDiscountRate := none
  advanceAmount := none
  discountAmount := none
  netPaymentToSupplier := none

def decisionWorld (status : InvoiceStatus) (faceValue finalScore : ℤ) (amlFlagged : Bool) : World :=
  { World.empty with
    invoices := .single (decisionInvoice status faceValue amlFlagged)
    riskScores := .single (decisionScore finalScore) }

/-- An invoice of 250,000,000 is shown as Tier 3 and decided as Tier 4; a flagged one of 1,000,000 with
the score 80 is shown as AUTO on the detail page and decided as Tier 2. A priced invoice that can be
decided is on nobody's queue, and a scored one that is on the queue cannot be decided. -/
theorem queue_disagrees :
    ¬TiersAgree (decisionInvoice .priced 250000000 false) (decisionScore 80) ∧
      ¬TiersAgree (decisionInvoice .priced 1000000 true) (decisionScore 80) ∧
      (∀ officerId, AcceptsDecision 1 (decisionWorld .priced 1000000 80 false) ∧
        ¬Listed officerId 1 (decisionWorld .priced 1000000 80 false)) ∧
      ∀ officerId, Listed officerId 1 (decisionWorld .scored 1000000 80 false) ∧
        ¬AcceptsDecision 1 (decisionWorld .scored 1000000 80 false) := by
  have hpair : ∀ status, ∀ p ∈ joinScores (decisionWorld status 1000000 80 false),
      p.1.status = status := by
    intro status p hp
    obtain ⟨hi, -, -⟩ := mem_joinScores.1 hp
    rw [List.mem_singleton.1 hi]
    rfl
  have hmem : ∀ status, (decisionInvoice status 1000000 false, decisionScore 80) ∈
      joinScores (decisionWorld status 1000000 80 false) := fun status =>
    mem_joinScores.2 ⟨List.mem_singleton.2 rfl, List.mem_singleton.2 rfl, rfl⟩
  refine ⟨?_, ?_, fun officerId => ⟨?_, ?_⟩, fun officerId => ⟨?_, ?_⟩⟩
  · intro h
    have hface := (tiersAgree_iff.1 h).faceValue
    exact absurd hface (by decide)
  · intro h
    have hflag := (tiersAgree_iff.1 h).flag (by decide) (by decide)
    cases hflag
  · exact acceptsDecision_iff.2 ⟨_, hmem .priced, rfl, rfl⟩
  · intro h
    obtain ⟨p, hp, -, hscored, -⟩ := listed_iff.1 h
    rw [hpair .priced p hp] at hscored
    cases hscored
  · exact listed_iff.2 ⟨_, hmem .scored, rfl, rfl, rfl⟩
  · intro h
    obtain ⟨p, hp, -, hpriced⟩ := acceptsDecision_iff.1 h
    rw [hpair .scored p hp] at hpriced
    cases hpriced

end Ris.Approvals
