import RisPlatform.Alone
import RisPlatform.Pricing.Protocol

/-!
# The supplier's decision on a price

What the events of the pricing service do to the decision on one invoice. Each operation looks at the
timestamps before its transaction, and at its own only, except a dispute.

A dispute is raised before the supplier decides, and leaves the offer open.
-/

namespace Ris.Pricing

open Relational Concurrent

/-! ## The offer -/

/-- What an invoice says about the supplier's decision. -/
structure Decision where
  acceptedAt : Option ℤ
  acceptedBy : Option ℕ
  rejectedAt : Option ℤ
  rejectionReason : Option String
  disputedAt : Option ℤ

def decisionOf (r : Invoice) : Decision where
  acceptedAt := r.pricingAcceptedAt
  acceptedBy := r.pricingAcceptedBy
  rejectedAt := r.pricingRejectedAt
  rejectionReason := r.pricingRejectionReason
  disputedAt := r.pricingDisputedAt

/-- The supplier has accepted or rejected the price. -/
def Decided (r : Invoice) : Prop := r.pricingAcceptedAt ≠ none ∨ r.pricingRejectedAt ≠ none

instance (r : Invoice) : Decidable (Decided r) := by
  unfold Decided
  infer_instance

/-- The audit row of an acceptance or a rejection of the invoice's price. -/
def isDecisionAudit (invoiceId : ℕ) (entry : AuditLog) : Bool :=
  (entry.action = "PRICING_ACCEPTED" ∨ entry.action = "PRICING_REJECTED") ∧
    entry.recordId = .id invoiceId

/-- The audit row of a dispute of the invoice's price. -/
def isDisputeAudit (invoiceId : ℕ) (entry : AuditLog) : Bool :=
  entry.action = "PRICING_DISPUTED" ∧ ("invoiceId", Json.id invoiceId) ∈ entry.newValues

/-- What the store says about the decision on one invoice. -/
structure Offer where
  decision : Option Decision
  decisionAudits : ℕ
  disputeAudits : ℕ
  /-- How many rows of `pricing_disputes` there are. -/
  disputes : ℕ

def offerOf (invoiceId : ℕ) (w : World) : Offer where
  decision := (w.invoices.get? invoiceId).map decisionOf
  decisionAudits := w.auditLogs.countP (isDecisionAudit invoiceId)
  disputeAudits := w.auditLogs.countP (isDisputeAudit invoiceId)
  disputes := (w.pricingDisputes.rows.filter fun r => r.invoiceId = invoiceId).length

/-- What an event does to the offer. -/
inductive OfferStep (invoiceId : ℕ) (o : Offer) : Event → Offer → Prop
  | other (e : Event) (haccepted : ∀ net, e ≠ .pricingAccepted invoiceId net)
      (hrejected : e ≠ .pricingRejected invoiceId) (hdisputed : e ≠ .pricingDisputed invoiceId) :
      OfferStep invoiceId o e o
  | accepted (userId : ℕ) (now : ℤ) (net : Option ℤ) :
      OfferStep invoiceId o (.pricingAccepted invoiceId net)
        { o with
          decision :=
            o.decision.map fun d => { d with acceptedAt := some now, acceptedBy := some userId }
          decisionAudits := o.decisionAudits + 1 }
  | rejected (reason : String) (now : ℤ) :
      OfferStep invoiceId o (.pricingRejected invoiceId)
        { o with
          decision := o.decision.map fun d =>
            { d with rejectedAt := some now, rejectionReason := some reason }
          decisionAudits := o.decisionAudits + 1 }
  | disputed (now : ℤ) :
      OfferStep invoiceId o (.pricingDisputed invoiceId)
        { o with
          decision := o.decision.map fun d => { d with disputedAt := some now }
          disputeAudits := o.disputeAudits + 1
          disputes := o.disputes + 1 }

section Offer

variable {invoiceId j : ℕ} {T : Table Invoice.id}

/-- A change of the status does not touch the decision. -/
theorem decisionOf_moveById {expected new : InvoiceStatus} {now : ℤ} :
    ((moveById invoiceId expected new now T).get? j).map decisionOf = (T.get? j).map decisionOf := by
  rw [moveById, Table.get?_update, Option.map_map]
  congr 1
  funext r
  simp only [Function.comp]
  split <;> rfl

/-- An assignment to the row with one id, as one to its decision. -/
theorem decisionOf_updateById (T : Table Invoice.id) (invoiceId j : ℕ) {f : Invoice → Invoice}
    (hf : ∀ r, (f r).id = r.id) (g : Decision → Decision) (hg : ∀ r, decisionOf (f r) = g (decisionOf r)) :
    ((updateById invoiceId f hf T).get? j).map decisionOf =
      if j = invoiceId then ((T.get? j).map decisionOf).map g else (T.get? j).map decisionOf := by
  rw [updateById, Table.get?_update]
  cases hr : T.get? j with
  | none => simp
  | some r =>
    have hid : r.id = j := Table.key_of_get? hr
    by_cases hj : j = invoiceId
    · simp [hid, hj, hg]
    · simp [hid, hj]

theorem countP_append_one {α : Type} (p : α → Bool) (l : List α) (a : α) :
    (l ++ [a]).countP p = l.countP p + if p a = true then 1 else 0 := by
  rw [List.countP_append, List.countP_singleton]

end Offer

/-- The refinement: every effect is a step of the offer. -/
theorem Effect.offerStep {w w' : World} {e : Event} (h : Effect w e w') (j : ℕ) :
    OfferStep j (offerOf j w) e (offerOf j w') := by
  -- an effect that leaves the offer, of an event that is no decision on this invoice
  have hother : (∀ net, e ≠ .pricingAccepted j net) → e ≠ .pricingRejected j →
      e ≠ .pricingDisputed j → offerOf j w' = offerOf j w → OfferStep j (offerOf j w) e (offerOf j w') :=
    fun haccepted hrejected hdisputed hsame => hsame ▸ .other e haccepted hrejected hdisputed
  cases h with
  | read | threw | logged | enqueued | leftJobs =>
    exact hother (by simp) (by simp) (by simp) rfl
  | priced invoiceId riskScoreId input now _ =>
    have hdecision := decisionOf_updateById w.invoices invoiceId j
      (id_setAmounts (pricingUpdate input)) id fun r => rfl
    rw [Option.map_id, id, ite_self] at hdecision
    refine hother (by simp) (by simp) (by simp) ?_
    unfold offerOf
    simp only [decisionOf_moveById, countP_append_one, hdecision]
    simp [isDecisionAudit, isDisputeAudit, pricedAudit]
  | accepted invoiceId userId req now net _ =>
    have hdecision := decisionOf_updateById w.invoices invoiceId j (id_setAccepted userId now)
      (fun d => { d with acceptedAt := some now, acceptedBy := some userId }) fun r => rfl
    by_cases hj : j = invoiceId
    · subst hj
      rw [if_pos rfl] at hdecision
      have haccepted : OfferStep j (offerOf j w) (.pricingAccepted j net) _ := .accepted userId now net
      unfold offerOf at haccepted ⊢
      simp only [countP_append_one, hdecision]
      simpa [isDecisionAudit, isDisputeAudit, acceptedAudit, decisionAudit] using haccepted
    · rw [if_neg hj] at hdecision
      refine hother ?_ (by simp) (by simp) ?_
      · simp [Ne.symm hj]
      · unfold offerOf
        simp only [countP_append_one, hdecision]
        simp [isDecisionAudit, isDisputeAudit, acceptedAudit, decisionAudit, Ne.symm hj]
  | rejected invoiceId userId reason req now =>
    have hdecision := decisionOf_updateById w.invoices invoiceId j (id_setRejected reason now)
      (fun d => { d with rejectedAt := some now, rejectionReason := some reason }) fun r => rfl
    by_cases hj : j = invoiceId
    · subst hj
      rw [if_pos rfl] at hdecision
      have hrejected : OfferStep j (offerOf j w) (.pricingRejected j) _ := .rejected reason now
      unfold offerOf at hrejected ⊢
      simp only [decisionOf_moveById, countP_append_one, hdecision]
      simpa [isDecisionAudit, isDisputeAudit, rejectedAudit, decisionAudit] using hrejected
    · rw [if_neg hj] at hdecision
      refine hother (by simp) ?_ (by simp) ?_
      · simp [Ne.symm hj]
      · unfold offerOf
        simp only [decisionOf_moveById, countP_append_one, hdecision]
        simp [isDecisionAudit, isDisputeAudit, rejectedAudit, decisionAudit, Ne.symm hj]
  | disputed invoiceId userId payload req now row disputes hrow hinsert =>
    have hdecision := decisionOf_updateById w.invoices invoiceId j (id_setDisputed now)
      (fun d => { d with disputedAt := some now }) fun r => rfl
    have hrows := Table.rows_insert? hinsert
    by_cases hj : j = invoiceId
    · subst hj
      rw [if_pos rfl] at hdecision
      have hdisputed : OfferStep j (offerOf j w) (.pricingDisputed j) _ := .disputed now
      unfold offerOf at hdisputed ⊢
      simp only [countP_append_one, hdecision, hrows, List.filter_append, List.length_append]
      simpa [isDecisionAudit, isDisputeAudit, disputedAudit, decisionAudit, hrow] using hdisputed
    · rw [if_neg hj] at hdecision
      refine hother (by simp) (by simp) ?_ ?_
      · simp [Ne.symm hj]
      · unfold offerOf
        simp only [countP_append_one, hdecision, hrows, List.filter_append, List.length_append]
        simp [isDecisionAudit, isDisputeAudit, disputedAudit, decisionAudit, hrow, Ne.symm hj, hj]

/-! ## Exclusive decisions -/

/-- The supplier has accepted or rejected the price. -/
def Decision.Decided (d : Decision) : Prop := d.acceptedAt ≠ none ∨ d.rejectedAt ≠ none

/-- A step after which at most one decision is there, that changes nothing about the offer once a
decision is there, and disputes it at most once. -/
structure Exclusive (o o' : Offer) : Prop where
  one : ∀ d ∈ o'.decision, d.acceptedAt = none ∨ d.rejectedAt = none
  kept : ∀ d ∈ o.decision, d.Decided → o' = o
  disputedOnce : ∀ d ∈ o.decision, d.disputedAt ≠ none →
    o'.disputes = o.disputes ∧ o'.disputeAudits = o.disputeAudits ∧
      ∀ d' ∈ o'.decision, d'.disputedAt = d.disputedAt

/-- The event is an acceptance or a rejection of the invoice's price. -/
def decides (invoiceId : ℕ) : Event → Bool
  | .pricingAccepted i _ => i = invoiceId
  | .pricingRejected i => i = invoiceId
  | _ => false

/-- A decision finds the invoice undecided, a dispute finds it moreover undisputed. -/
def OnOpenOffer (invoiceId : ℕ) : Cond World Event := fun s _ e =>
  ∀ r ∈ s.store.invoices.get? invoiceId,
    (decides invoiceId e = true → ¬Decided r) ∧
      (e = .pricingDisputed invoiceId → ¬Decided r ∧ r.pricingDisputedAt = none)

instance (invoiceId : ℕ) (s : State World Event) (t : ℕ) (e : Event) :
    Decidable (OnOpenOffer invoiceId s t e) := by
  unfold OnOpenOffer
  infer_instance

/-- A decision that is recorded in the offer is the only one exactly if there was none. -/
theorem exclusive_decision_iff {o : Offer} {f : Decision → Decision}
    (hone : ∀ d, ¬d.Decided → (f d).acceptedAt = none ∨ (f d).rejectedAt = none)
    (hdisputed : ∀ d, (f d).disputedAt = d.disputedAt) :
    Exclusive o { o with decision := o.decision.map f, decisionAudits := o.decisionAudits + 1 } ↔
      ∀ d ∈ o.decision, ¬d.Decided := by
  constructor
  · intro hexclusive d hd hdecided
    -- a second decision would leave one more audit row
    have hsame := congrArg Offer.decisionAudits (hexclusive.kept d hd hdecided)
    simp at hsame
  · intro hundecided
    refine ⟨?_, fun d hd hdecided => absurd hdecided (hundecided d hd), ?_⟩
    · intro d' hd'
      obtain ⟨d, hd, rfl⟩ := Option.map_eq_some_iff.1 hd'
      exact hone d (hundecided d hd)
    · intro d hd _
      refine ⟨rfl, rfl, fun d' hd' => ?_⟩
      obtain ⟨d₁, hd₁, rfl⟩ := Option.map_eq_some_iff.1 hd'
      rw [hdisputed, Option.mem_unique hd₁ hd]

/-- The step lemma: a step of the offer is exclusive exactly if it decides on an open one. -/
theorem OfferStep.exclusive_iff {invoiceId : ℕ} {o o' : Offer} {e : Event}
    (h : OfferStep invoiceId o e o') (hone : ∀ d ∈ o.decision, d.acceptedAt = none ∨ d.rejectedAt = none) :
    Exclusive o o' ↔ ∀ d ∈ o.decision, (decides invoiceId e = true → ¬d.Decided) ∧
      (e = .pricingDisputed invoiceId → ¬d.Decided ∧ d.disputedAt = none) := by
  cases h with
  | other _ haccepted hrejected hdisputed =>
    have hnone : decides invoiceId e = false := by
      cases e with
      | pricingAccepted i net =>
        rw [decides, decide_eq_false_iff_not]
        rintro rfl
        exact haccepted net rfl
      | pricingRejected i =>
        rw [decides, decide_eq_false_iff_not]
        rintro rfl
        exact hrejected rfl
      | _ => rfl
    refine iff_of_true ⟨hone, fun _ _ _ => rfl, ?_⟩ ?_
    · intro d hd _
      refine ⟨rfl, rfl, fun d' hd' => ?_⟩
      rw [Option.mem_unique hd' hd]
    · simp [hnone, hdisputed]
  | accepted userId now net =>
    refine Iff.trans (exclusive_decision_iff ?_ ?_) (by simp [decides])
    · intro d hd
      exact Or.inr (not_not.1 (not_or.1 hd).2)
    · intro d
      rfl
  | rejected reason now =>
    refine Iff.trans (exclusive_decision_iff ?_ ?_) (by simp [decides])
    · intro d hd
      exact Or.inl (not_not.1 (not_or.1 hd).1)
    · intro d
      rfl
  | disputed now =>
    constructor
    · intro hexclusive d hd
      refine ⟨by simp [decides], fun _ => ⟨fun hdecided => ?_, ?_⟩⟩
      · have hsame := congrArg Offer.disputeAudits (hexclusive.kept d hd hdecided)
        simp at hsame
      · by_contra hdisputed
        have hsame := (hexclusive.disputedOnce d hd hdisputed).1
        simp at hsame
    · intro hopen
      refine ⟨?_, fun d hd hdecided => absurd hdecided ((hopen d hd).2 rfl).1,
        fun d hd hdisputed => absurd ((hopen d hd).2 rfl).2 hdisputed⟩
      intro d' hd'
      obtain ⟨d, hd, rfl⟩ := Option.map_eq_some_iff.1 hd'
      exact hone d hd

/-! ## A call alone -/

section Alone

variable {cfg : Config} {w : World} {invoiceId userId : ℕ} {req : Request}

/-- However its statements go, the call that runs alone fails and changes nothing. -/
def Refused {α : Type} (p : Call α) (w : World) : Prop :=
  p.Ends (fun _ => True) (fun _ _ => False) (fun _ w' => w' = w) w

theorem ends_resolveSupplier :
    (resolveSupplier userId).Ends (fun _ => True) (fun _ w' => w' = w) (fun _ w' => w' = w) w := by
  refine ends_bind_query ?_ fun _ => rfl
  cases findSupplierByUserId userId w with
  | none => exact rfl
  | some supplier => exact rfl

/-- The invoice that passes the validation is the one in the store. -/
theorem ends_fetchAndValidatePricingAcceptance {r : Invoice} {supplierId : ℕ}
    (hr : w.invoices.get? invoiceId = some r) :
    (fetchAndValidatePricingAcceptance invoiceId supplierId).Ends (fun _ => True)
      (fun invoice w' => invoice = r ∧ w' = w) (fun _ w' => w' = w) w := by
  refine ends_bind_query ?_ fun _ => rfl
  unfold getInvoicePricingStatus
  rw [hr, Option.filter_some]
  split
  · unfold validatePricingAcceptance
    dsimp only
    split
    · exact rfl
    · exact ⟨rfl, rfl⟩
  · exact rfl

/-- An operation on the decision whose guards throw is refused. -/
theorem refused_of_guard {r : Invoice} (hr : w.invoices.get? invoiceId = some r)
    {α : Type} {rest : Invoice → Call α} (hguard : Refused (rest r) w) :
    Refused (do
      let supplierId ← resolveSupplier userId
      let invoice ← fetchAndValidatePricingAcceptance invoiceId supplierId
      rest invoice) w := by
  refine ends_resolveSupplier.bind ?_
  rintro supplierId _ rfl
  refine (ends_fetchAndValidatePricingAcceptance hr).bind ?_
  rintro _ _ ⟨rfl, rfl⟩
  exact hguard

theorem guardNotAccepted_error {r : Invoice} (h : r.pricingAcceptedAt ≠ none) :
    guardNotAccepted r = .error (PricingErrorCode.alreadyAccepted.error "Pricing already accepted") :=
  if_pos h

theorem guardNotRejected_error {r : Invoice} (h : r.pricingRejectedAt ≠ none) :
    guardNotRejected r = .error (PricingErrorCode.alreadyRejected.error "Pricing already rejected") :=
  if_pos h

/-- An acceptance of an accepted price is refused. -/
theorem refused_acceptPricing {r : Invoice} (hr : w.invoices.get? invoiceId = some r)
    (haccepted : r.pricingAcceptedAt ≠ none) : Refused (acceptPricing cfg invoiceId userId req) w :=
  refused_of_guard hr (ends_bind_error (guardNotAccepted_error haccepted) rfl)

/-- A rejection of a rejected price is refused. -/
theorem refused_rejectPricing {r : Invoice} {reason : String} (hr : w.invoices.get? invoiceId = some r)
    (hrejected : r.pricingRejectedAt ≠ none) : Refused (rejectPricing invoiceId userId reason req) w :=
  refused_of_guard hr (ends_bind_error (guardNotRejected_error hrejected) rfl)

/-- A dispute of a price that is decided or disputed is refused. -/
theorem refused_disputePricing {r : Invoice} {payload : PricingDisputePayload}
    (hr : w.invoices.get? invoiceId = some r) (hclosed : Decided r ∨ r.pricingDisputedAt ≠ none) :
    Refused (disputePricing invoiceId userId payload req) w := by
  refine refused_of_guard hr ?_
  by_cases haccepted : r.pricingAcceptedAt = none
  · have hpass : guardNotAccepted r = .ok () := by simp [guardNotAccepted, haccepted, pure, Except.pure]
    refine ends_bind_ok hpass ?_
    by_cases hrejected : r.pricingRejectedAt = none
    · have hpass' : guardNotRejected r = .ok () := by
        simp [guardNotRejected, hrejected, pure, Except.pure]
      have hdisputed : r.pricingDisputedAt ≠ none := by
        simpa [Decided, haccepted, hrejected] using hclosed
      exact ends_bind_ok hpass' (ends_bind_error (if_pos hdisputed) rfl)
    · exact ends_bind_error (guardNotRejected_error hrejected) rfl
  · exact ends_bind_error (guardNotAccepted_error haccepted) rfl

end Alone

/-! ## Runs -/

/-- A call that runs alone on a decided offer, if it is of the kind of the decision or a dispute, is
refused; so is a second dispute. -/
structure Guarded (cfg : Config) (invoiceId : ℕ) (w : World) (r : Invoice) : Prop where
  accept : r.pricingAcceptedAt ≠ none → ∀ userId req, Refused (acceptPricing cfg invoiceId userId req) w
  reject : r.pricingRejectedAt ≠ none → ∀ userId reason req,
    Refused (rejectPricing invoiceId userId reason req) w
  dispute : Decided r ∨ r.pricingDisputedAt ≠ none → ∀ userId payload req,
    Refused (disputePricing invoiceId userId payload req) w

/-- **Exclusive decisions.** A call of the kind of the decision that is there, or a dispute after a
decision or a dispute, fails and changes nothing if it runs alone. The runs of calls side by side along
which at most one decision is there, nothing follows it and only one dispute comes before it are those
in which every decision and every dispute commits on an offer that is open for it. -/
theorem pricing_decision_exclusive_iff (cfg : Config) (w : World) (invoiceId : ℕ)
    (hw : ∀ r ∈ w.invoices.get? invoiceId, r.pricingAcceptedAt = none ∨ r.pricingRejectedAt = none) :
    (∀ w' r, w'.invoices.get? invoiceId = some r → Guarded cfg invoiceId w' r) ∧
      ∀ s : Sys World Input Event RisError,
        Relation.ReflTransGen (fun s s' => Step (program cfg) always s s' ∧
            Exclusive (offerOf invoiceId s.store) (offerOf invoiceId s'.store)) (Sys.init w) s ↔
          Reaches (program cfg) (OnOpenOffer invoiceId) (Sys.init w) s := by
  refine ⟨fun w' r hr => ⟨?_, ?_, ?_⟩, fun s => ?_⟩
  · exact fun haccepted userId req => refused_acceptPricing hr haccepted
  · exact fun hrejected userId reason req => refused_rejectPricing hr hrejected
  · exact fun hclosed userId payload req => refused_disputePricing hr hclosed
  have hself : ∀ o : Offer, (∀ d ∈ o.decision, d.acceptedAt = none ∨ d.rejectedAt = none) →
      Exclusive o o := by
    refine fun o hone => ⟨hone, fun _ _ _ => rfl, fun d hd _ => ⟨rfl, rfl, fun d' hd' => ?_⟩⟩
    rw [Option.mem_unique hd' hd]
  refine Protocol.runs_iff (program_implements cfg) trivial
    (P := fun s => ∀ d ∈ (offerOf invoiceId s.store).decision, d.acceptedAt = none ∨ d.rejectedAt = none)
    (R := fun s s' => Exclusive (offerOf invoiceId s.store) (offerOf invoiceId s'.store)) ?_
    (fun s hs => hself _ hs) ?_ ?_ (fun _ _ _ _ _ _ hgood => hgood.one) s
  · intro d hd
    obtain ⟨r, hr, rfl⟩ := Option.map_eq_some_iff.1 hd
    exact hw r hr
  · intro s t d hs hmove
    obtain rfl : d = s.store := hmove.effect
    exact hself _ hs
  · intro s t e d hs hmove
    have hstep : OfferStep invoiceId (offerOf invoiceId s.store) e (offerOf invoiceId d) :=
      Effect.offerStep hmove.effect invoiceId
    refine (hstep.exclusive_iff hs).trans ?_
    unfold OnOpenOffer offerOf
    simp only [Option.mem_map, forall_exists_index, and_imp, forall_apply_eq_imp_iff₂]
    rfl

/-! ## A small world -/

/-- A priced invoice of 1,000,000. -/
def offeredInvoice : Invoice where
  id := 1
  supplierId := 1
  buyerId := 1
  faceValue := 1000000
  advanceAmount := some 800000
  discountAmount := some 20000
  netPaymentToSupplier := some 780000
  status := .priced
  tenorDays := some 90
  dueDate := 90
  amlFlagged := false
  amlClearedAt := none
  pricingAcceptedAt := none
  pricingAcceptedBy := none
  pricingRejectedAt := none
  pricingRejectionReason := none
  pricingDisputedAt := none
  fundedAt := none

/-- The invoice, with its supplier. -/
def offerWorld : World :=
  { World.empty with
    invoices := .single offeredInvoice
    suppliers := .single { id := 1, userId := 9, preferredPaymentMethod := "EFT" } }

/-- The supplier disputes the price, and then accepts it. -/
def disputeThenAccept : List (Act Op Input) :=
  Act.call (.disputePricing 1 9 { reason := .rateTooHigh } {}) 0 (List.replicate 4 { now := 1 }) ++
    Act.call (.acceptPricing 1 9 {}) 1 (List.replicate 5 { now := 2 })

/-- The acceptance is the one decision. -/
theorem exclusive_of_dispute_then_accept :
    ∃ s : Sys World Input Event RisError, (offerOf 1 s.store).decisionAudits = 1 ∧
      Relation.ReflTransGen (fun s s' => Step (program {}) always s s' ∧
        Exclusive (offerOf 1 s.store) (offerOf 1 s'.store)) (Sys.init offerWorld) s := by
  obtain ⟨s, hs, hP⟩ := exists_reaches (program {}) (OnOpenOffer 1) (Sys.init offerWorld)
    disputeThenAccept (fun s => (offerOf 1 s.store).decisionAudits = 1) (by decide)
  exact ⟨s, of_decide_eq_true hP,
    ((pricing_decision_exclusive_iff {} offerWorld 1 (by decide)).2 s).2 hs⟩

/-- Both calls commit: the invoice is disputed and accepted, and there is an audit row of each. -/
theorem dispute_does_not_close_the_offer :
    ∃ s : Sys World Input Event RisError, Reaches (program {}) always (Sys.init offerWorld) s ∧
      (0, some (.pricingDisputed 1)) ∈ s.hist ∧
        (1, some (.pricingAccepted 1 (some 780000))) ∈ s.hist ∧
          (offerOf 1 s.store).disputeAudits = 1 ∧ (offerOf 1 s.store).decisionAudits = 1 := by
  obtain ⟨s, hs, hP⟩ := exists_reaches (program {}) always (Sys.init offerWorld) disputeThenAccept
    (fun s => (0, some (.pricingDisputed 1)) ∈ s.hist ∧
      (1, some (.pricingAccepted 1 (some 780000))) ∈ s.hist ∧
        (offerOf 1 s.store).disputeAudits = 1 ∧ (offerOf 1 s.store).decisionAudits = 1)
    (by decide)
  exact ⟨s, hs, of_decide_eq_true hP⟩

end Ris.Pricing
