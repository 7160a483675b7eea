import RisPlatform.Auth.Protocol
import RisPlatform.Collateral.Service
import RisPlatform.Collections.Exposure
import RisPlatform.Facilities.Frame
import RisPlatform.Origination.Withdrawal
import RisPlatform.Settlements.Protocol

/-!
# The life of an invoice

The services that write the status of an invoice, and those that share its tables with them, side by side:
invoices, verification, risk engine, pricing, approvals, payments, compliance, collections, settlements,
facilities, collateral and authentication. Not among them are the assignment, the bank details, the requests
for information, the jobs for breaches and reminders, the reports on suspicion, onboarding, administration,
complaints and notifications, which write no status of an invoice.

`Moves` is the automaton that the status is meant to follow: each event of these services that may move it,
from where and to where. In every run, whatever the calls and their order, each invoice follows it
(`lifecycle_followed`).

What the automaton guarantees, the services therefore do: from a start whose invoices are where they can be
(`Stage.Sound`) nothing becomes of an invoice that the steps before it have not prepared
(`funding_provenance`) and no invoice goes back (`stage_never_back`), and from any start what was agreed on
stays (`terms_frozen`).
-/

namespace Ris.Platform

open Relational Concurrent

/-! ## The system -/

/-- The operations of these services. -/
inductive Op
  | invoicing (op : Exposure.Op)
  | settlements (op : Settlements.Op)
  | facilities (op : Facilities.Op)
  | collateral (op : Collateral.Op)
  | auth (op : Auth.Op)

/-- The body of each operation. -/
def program (cfg : Config) : Op → Call Unit
  | .invoicing op => Exposure.program cfg op
  | .settlements op => Settlements.program cfg op
  | .facilities op => Facilities.program cfg op
  | .collateral op => Collateral.program op
  | .auth op => Auth.program cfg op

/-! ## The automaton -/

/-- Where an invoice stands: its status, and whether its buyer has confirmed it. -/
structure Stage where
  status : InvoiceStatus
  confirmed : Bool
  deriving DecidableEq

/-- The moves of the invoice. A withdrawal and the payment of a buyer ask for no status, and a confirmation
asks only that there was none before. -/
inductive Moves (invoiceId : ℕ) : Event → Stage → Stage → Prop
  | submitted (faceValue : ℤ) (c : Bool) :
      Moves invoiceId (.draftSubmitted invoiceId faceValue) ⟨.draft, c⟩ ⟨.submitted, c⟩
  | withdrawn (st : Stage) : Moves invoiceId (.invoiceWithdrawn invoiceId) st ⟨.withdrawn, st.confirmed⟩
  | confirmed (status : InvoiceStatus) :
      Moves invoiceId (.buyerConfirmed invoiceId) ⟨status, false⟩ ⟨.buyerConfirmed, true⟩
  | scored (recommendation : RiskRecommendation) (c : Bool) :
      Moves invoiceId (.invoiceScored invoiceId recommendation) ⟨.buyerConfirmed, c⟩
        ⟨RiskEngine.scoredStatus recommendation, c⟩
  | priced (input : PricingCalculationInput) (c : Bool) :
      Moves invoiceId (.invoicePriced invoiceId input) ⟨.scored, c⟩ ⟨.priced, c⟩
  | pricingRejected (c : Bool) :
      Moves invoiceId (.pricingRejected invoiceId) ⟨.priced, c⟩ ⟨.rejected, c⟩
  | approved (approverId : Actor) (role : String) (c : Bool) :
      Moves invoiceId (.invoiceApproved invoiceId approverId role) ⟨.priced, c⟩ ⟨.approved, c⟩
  | rejected (approverId : Actor) (c : Bool) :
      Moves invoiceId (.invoiceRejected invoiceId approverId) ⟨.priced, c⟩ ⟨.rejected, c⟩
  | initiated (p : Payment) (hp : p.invoiceId = invoiceId) (c : Bool) :
      Moves invoiceId (.paymentCreated p) ⟨.approved, c⟩ ⟨.pendingFirstAuth, c⟩
  | funded (p : Payment) (hp : p.invoiceId = invoiceId) (c : Bool) :
      Moves invoiceId (.paymentFunded p) ⟨.approved, c⟩ ⟨.funded, c⟩
  | collecting (collectionId : ℕ) (c : Bool) :
      Moves invoiceId (.collectionStarted collectionId invoiceId) ⟨.funded, c⟩ ⟨.collecting, c⟩
  | overdue (collectionId : ℕ) (c : Bool) :
      Moves invoiceId (.collectionOverdue collectionId invoiceId) ⟨.collecting, c⟩ ⟨.overdue, c⟩
  | resolved (collectionId : ℕ) (prevStatus : CollectionStatus) (c : Bool) :
      Moves invoiceId (.collectionResolved collectionId invoiceId prevStatus)
        ⟨Collections.resolvedFrom prevStatus, c⟩ ⟨.collected, c⟩
  | defaulted (collectionId : ℕ) (c : Bool) :
      Moves invoiceId (.collectionDefaulted collectionId invoiceId) ⟨.overdue, c⟩ ⟨.defaulted, c⟩
  | paid (collectionId : ℕ) (amount : ℤ) (st : Stage) :
      Moves invoiceId (.paymentReceived invoiceId collectionId amount) st ⟨.collected, st.confirmed⟩

/-- A sequence of moves, made by these events in this order. -/
inductive Path (invoiceId : ℕ) : Stage → List Event → Stage → Prop
  | refl (st : Stage) : Path invoiceId st [] st
  | snoc {st st' st'' : Stage} {es : List Event} {e : Event} (hpath : Path invoiceId st es st')
      (hmove : Moves invoiceId e st' st'') : Path invoiceId st (es ++ [e]) st''

/-- An invoice of this status is closed. -/
def Closed (status : InvoiceStatus) : Prop :=
  status = .rejected ∨ status = .withdrawn ∨ status = .collected

instance : DecidablePred Closed := fun status => by
  unfold Closed
  infer_instance

/-- Without a confirmation an invoice is not past its submission, and with one it is. -/
def Stage.Sound (st : Stage) : Prop :=
  if st.confirmed then st.status ≠ .draft ∧ st.status ≠ .submitted
  else st.status = .draft ∨ st.status = .submitted ∨ st.status = .withdrawn ∨ st.status = .collected

instance : DecidablePred Stage.Sound := fun st => by
  unfold Stage.Sound
  infer_instance

/-- How far a confirmed invoice has come. -/
def distance : InvoiceStatus → ℕ
  | .draft | .submitted => 0
  | .buyerConfirmed => 2
  | .scored => 3
  | .priced => 4
  | .approved => 5
  | .pendingFirstAuth | .pendingSecondAuth | .executing | .funded => 6
  | .collecting => 7
  | .overdue => 8
  | .defaulted | .cancelled => 9
  | .rejected | .withdrawn | .collected => 10

/-- How far an invoice has come. Before the confirmation, being withdrawn is no end: the buyer may still
confirm. -/
def Stage.rank (st : Stage) : ℕ :=
  if st.confirmed then distance st.status else if st.status = .draft then 0 else 1

section Automaton

variable {invoiceId : ℕ} {e : Event} {st st' st'' : Stage} {es es' : List Event}

theorem Path.trans (h : Path invoiceId st es st') (h' : Path invoiceId st' es' st'') :
    Path invoiceId st (es ++ es') st'' := by
  induction h' with
  | refl =>
    rw [List.append_nil]
    exact h
  | snoc _ hmove ih =>
    rw [← List.append_assoc]
    exact .snoc ih hmove

theorem distance_le (status : InvoiceStatus) : distance status ≤ 10 := by
  cases status <;> simp [distance]

theorem rank_unconfirmed (status : InvoiceStatus) : Stage.rank ⟨status, false⟩ ≤ 1 := by
  by_cases hdraft : status = .draft
  · subst hdraft
    exact Nat.zero_le 1
  · simp [Stage.rank, hdraft]

/-- Past the confirmation nothing but a closed invoice can be closed again. -/
theorem rank_le_of_closed (hst : st.Sound) {new : InvoiceStatus} (hnew : new = .withdrawn ∨ new = .collected) :
    st.rank ≤ Stage.rank ⟨new, st.confirmed⟩ := by
  obtain ⟨status, c⟩ := st
  cases c with
  | false =>
    have hone : Stage.rank ⟨new, false⟩ = 1 := by
      rcases hnew with rfl | rfl <;> rfl
    rw [hone]
    exact rank_unconfirmed status
  | true =>
    have hten : Stage.rank ⟨new, true⟩ = 10 := by
      rcases hnew with rfl | rfl <;> rfl
    rw [hten]
    exact distance_le status

theorem sound_closed (c : Bool) {new : InvoiceStatus} (hnew : new = .withdrawn ∨ new = .collected) :
    Stage.Sound ⟨new, c⟩ := by
  rcases hnew with rfl | rfl <;> cases c <;> decide

theorem Moves.sound (h : Moves invoiceId e st st') (hst : st.Sound) : st'.Sound := by
  cases h with
  | withdrawn => exact sound_closed _ (Or.inl rfl)
  | paid => exact sound_closed _ (Or.inr rfl)
  | confirmed => exact (by decide : Stage.Sound ⟨.buyerConfirmed, true⟩)
  | submitted _ c => cases c <;> simp_all [Stage.Sound]
  | scored recommendation c =>
    cases c with
    | false => simp [Stage.Sound] at hst
    | true => cases recommendation <;> simp [Stage.Sound, RiskEngine.scoredStatus]
  | priced _ c | pricingRejected c | approved _ _ c | rejected _ c | initiated _ _ c | funded _ _ c
  | collecting _ c | overdue _ c | defaulted _ c => cases c <;> simp_all [Stage.Sound]
  | resolved => exact sound_closed _ (Or.inr rfl)

/-- A move leads on, or closes an invoice that cannot come any farther. -/
theorem Moves.rank (h : Moves invoiceId e st st') (hst : st.Sound) :
    st.rank < st'.rank ∨ st.rank = st'.rank ∧ Closed st'.status := by
  cases h with
  | withdrawn =>
    exact (rank_le_of_closed hst (Or.inl rfl)).lt_or_eq.imp_right fun h => ⟨h, Or.inr (Or.inl rfl)⟩
  | paid =>
    exact (rank_le_of_closed hst (Or.inr rfl)).lt_or_eq.imp_right fun h => ⟨h, Or.inr (Or.inr rfl)⟩
  | confirmed status =>
    have htwo : Stage.rank ⟨.buyerConfirmed, true⟩ = 2 := rfl
    rw [htwo]
    exact Or.inl (Nat.lt_succ_of_le (rank_unconfirmed status))
  | submitted _ c => cases c <;> simp_all [Stage.Sound, Stage.rank]
  | scored recommendation c =>
    cases c with
    | false => simp [Stage.Sound] at hst
    | true => cases recommendation <;> simp [Stage.rank, distance, RiskEngine.scoredStatus]
  | priced _ c | pricingRejected c | approved _ _ c | rejected _ c | initiated _ _ c | funded _ _ c
  | collecting _ c | overdue _ c | defaulted _ c =>
    cases c <;> simp_all [Stage.Sound, Stage.rank, distance]
  | resolved =>
    exact (rank_le_of_closed hst (Or.inr rfl)).lt_or_eq.imp_right fun h => ⟨h, Or.inr (Or.inr rfl)⟩

theorem Path.sound (h : Path invoiceId st es st') (hst : st.Sound) : st'.Sound := by
  induction h with
  | refl => exact hst
  | snoc _ hmove ih => exact hmove.sound ih

/-- No sequence of moves leads back. -/
theorem Path.rank (h : Path invoiceId st es st') (hst : st.Sound) :
    st.rank < st'.rank ∨ st.rank = st'.rank ∧ (st' = st ∨ Closed st'.status) := by
  induction h with
  | refl => exact Or.inr ⟨rfl, Or.inl rfl⟩
  | snoc hpath hmove ih =>
    rcases hmove.rank (hpath.sound hst) with hlt | ⟨heq, hclosed⟩
    · refine Or.inl ?_
      rcases ih with hlt' | ⟨heq', -⟩ <;> omega
    · rcases ih with hlt' | ⟨heq', -⟩
      · exact Or.inl (heq ▸ hlt')
      · exact Or.inr ⟨heq'.trans heq, Or.inr hclosed⟩

end Automaton

/-! ## What a status rests on -/

/-- Events with these properties are among the events, in this order. -/
def Occurred (ps : List (Event → Prop)) (es : List Event) : Prop :=
  ∃ es', es'.Sublist es ∧ List.Forall₂ (fun p e => p e) ps es'

/-- The buyer has confirmed the invoice. -/
def IsConfirmation (invoiceId : ℕ) (e : Event) : Prop := e = .buyerConfirmed invoiceId

/-- The invoice was scored, and not for a rejection. -/
def IsScore (invoiceId : ℕ) (e : Event) : Prop :=
  ∃ recommendation ≠ .reject, e = .invoiceScored invoiceId recommendation

def IsPricing (invoiceId : ℕ) (e : Event) : Prop := ∃ input, e = .invoicePriced invoiceId input

/-- An approval has made the quorum. -/
def IsApproval (invoiceId : ℕ) (e : Event) : Prop :=
  ∃ approverId role, e = .invoiceApproved invoiceId approverId role

def IsInitiation (invoiceId : ℕ) (e : Event) : Prop :=
  ∃ p : Payment, p.invoiceId = invoiceId ∧ e = .paymentCreated p

/-- A transfer of a payment of the invoice has succeeded. -/
def IsFunding (invoiceId : ℕ) (e : Event) : Prop :=
  ∃ p : Payment, p.invoiceId = invoiceId ∧ e = .paymentFunded p

def IsStart (invoiceId : ℕ) (e : Event) : Prop := ∃ collectionId, e = .collectionStarted collectionId invoiceId

def IsOverdue (invoiceId : ℕ) (e : Event) : Prop := ∃ collectionId, e = .collectionOverdue collectionId invoiceId

def IsDefault (invoiceId : ℕ) (e : Event) : Prop :=
  ∃ collectionId, e = .collectionDefaulted collectionId invoiceId

/-- The steps that an invoice of the status has behind it. -/
def stepsTo (invoiceId : ℕ) : InvoiceStatus → List (Event → Prop)
  | .buyerConfirmed => [IsConfirmation invoiceId]
  | .scored => [IsConfirmation invoiceId, IsScore invoiceId]
  | .priced => [IsConfirmation invoiceId, IsScore invoiceId, IsPricing invoiceId]
  | .approved => [IsConfirmation invoiceId, IsScore invoiceId, IsPricing invoiceId, IsApproval invoiceId]
  | .pendingFirstAuth =>
    [IsConfirmation invoiceId, IsScore invoiceId, IsPricing invoiceId, IsApproval invoiceId,
      IsInitiation invoiceId]
  | .funded =>
    [IsConfirmation invoiceId, IsScore invoiceId, IsPricing invoiceId, IsApproval invoiceId,
      IsFunding invoiceId]
  | .collecting =>
    [IsConfirmation invoiceId, IsScore invoiceId, IsPricing invoiceId, IsApproval invoiceId,
      IsFunding invoiceId, IsStart invoiceId]
  | .overdue =>
    [IsConfirmation invoiceId, IsScore invoiceId, IsPricing invoiceId, IsApproval invoiceId,
      IsFunding invoiceId, IsStart invoiceId, IsOverdue invoiceId]
  | .defaulted =>
    [IsConfirmation invoiceId, IsScore invoiceId, IsPricing invoiceId, IsApproval invoiceId,
      IsFunding invoiceId, IsStart invoiceId, IsOverdue invoiceId, IsDefault invoiceId]
  | _ => []

section Provenance

variable {invoiceId : ℕ} {e : Event} {st st' : Stage} {es es' : List Event} {ps : List (Event → Prop)}
  {p : Event → Prop}

theorem occurred_nil (es : List Event) : Occurred [] es := ⟨[], List.nil_sublist es, .nil⟩

theorem Occurred.mono (h : Occurred ps es) (hsub : es.Sublist es') : Occurred ps es' := by
  obtain ⟨fs, hfs, hps⟩ := h
  exact ⟨fs, hfs.trans hsub, hps⟩

theorem Occurred.snoc (h : Occurred ps es) (hp : p e) : Occurred (ps ++ [p]) (es ++ [e]) := by
  obtain ⟨fs, hfs, hps⟩ := h
  exact ⟨fs ++ [e], hfs.append (List.Sublist.refl [e]), List.rel_append hps (.cons hp .nil)⟩

theorem occurred_single (hp : p e) : Occurred [p] (es ++ [e]) :=
  ⟨[e], List.sublist_append_right es [e], .cons hp .nil⟩

/-- A move adds its own step to those that it rests on, or its target rests on none. -/
theorem Moves.occurred (h : Moves invoiceId e st st') (hst : Occurred (stepsTo invoiceId st.status) es) :
    Occurred (stepsTo invoiceId st'.status) (es ++ [e]) := by
  cases h with
  | submitted | withdrawn | pricingRejected | rejected | resolved | paid => exact occurred_nil _
  | confirmed => exact occurred_single rfl
  | scored recommendation =>
    by_cases hreject : recommendation = .reject
    · subst hreject
      exact occurred_nil _
    · have hscored : RiskEngine.scoredStatus recommendation = .scored := if_neg hreject
      rw [hscored]
      exact hst.snoc ⟨recommendation, hreject, rfl⟩
  | priced input => exact hst.snoc ⟨input, rfl⟩
  | approved approverId role => exact hst.snoc ⟨approverId, role, rfl⟩
  | initiated p hp => exact hst.snoc ⟨p, hp, rfl⟩
  | funded p hp => exact hst.snoc ⟨p, hp, rfl⟩
  | collecting collectionId => exact hst.snoc ⟨collectionId, rfl⟩
  | overdue collectionId => exact hst.snoc ⟨collectionId, rfl⟩
  | defaulted collectionId => exact hst.snoc ⟨collectionId, rfl⟩

/-- From an invoice that nobody has confirmed, every status has its steps behind it. -/
theorem Path.occurred (h : Path invoiceId st es st') (hst : st.Sound) (hnone : st.confirmed = false) :
    Occurred (stepsTo invoiceId st'.status) es := by
  induction h with
  | refl =>
    have hsteps : stepsTo invoiceId st.status = [] := by
      rw [Stage.Sound, if_neg (by simp [hnone])] at hst
      rcases hst with h | h | h | h <;> rw [h] <;> rfl
    rw [hsteps]
    exact occurred_nil _
  | snoc _ hmove ih => exact hmove.occurred ih

end Provenance

/-! ## Invoice rows -/

def stageOf (r : Invoice) : Stage := ⟨r.status, r.buyerConfirmedAt.isSome⟩

/-- The columns that are never written again. -/
structure Identity where
  id : ℕ
  supplierId : ℕ
  buyerId : ℕ
  invoiceNumber : String
  uraEfrisRef : Option String
  fundingTimelineDays : Option ℤ
  createdAt : ℤ

def identityOf (r : Invoice) : Identity where
  id := r.id
  supplierId := r.supplierId
  buyerId := r.buyerId
  invoiceNumber := r.invoiceNumber
  uraEfrisRef := r.uraEfrisRef
  fundingTimelineDays := r.fundingTimelineDays
  createdAt := r.createdAt

/-- The columns that may be edited while the invoice is a draft. -/
structure Terms where
  faceValue : ℤ
  dueDate : ℤ
  tenorDays : Option ℤ
  description : String

def termsOf (r : Invoice) : Terms where
  faceValue := r.faceValue
  dueDate := r.dueDate
  tenorDays := r.tenorDays
  description := r.description

/-- A column that is written at most once. -/
def Once {α : Type} (x x' : Option α) : Prop := ∀ a, x = some a → x' = some a

/-- What an invoice was submitted with stays, and what has happened to it once. -/
structure Frozen (r r' : Invoice) : Prop where
  identity : identityOf r' = identityOf r
  submitted : r.status ≠ .draft → r'.status ≠ .draft
  terms : r.status ≠ .draft → termsOf r' = termsOf r
  buyerConfirmedAt : Once r.buyerConfirmedAt r'.buyerConfirmedAt
  amlClearedAt : Once r.amlClearedAt r'.amlClearedAt
  fundedAt : Once r.fundedAt r'.fundedAt

/-- What an event may do to an invoice. -/
structure Advances (e : Event) (r r' : Invoice) : Prop extends Frozen r r' where
  stage : stageOf r' = stageOf r ∨ Moves r.id e (stageOf r) (stageOf r')

section Rows

variable {e : Event} {r r' r'' : Invoice} {α : Type} {x x' x'' : Option α}

theorem Once.refl (x : Option α) : Once x x := fun _ h => h

theorem Once.trans (h : Once x x') (h' : Once x' x'') : Once x x'' := fun a ha => h' a (h a ha)

theorem Frozen.refl (r : Invoice) : Frozen r r where
  identity := rfl
  submitted h := h
  terms _ := rfl
  buyerConfirmedAt := .refl _
  amlClearedAt := .refl _
  fundedAt := .refl _

theorem Frozen.trans (h : Frozen r r') (h' : Frozen r' r'') : Frozen r r'' where
  identity := h'.identity.trans h.identity
  submitted hr := h'.submitted (h.submitted hr)
  terms hr := (h'.terms (h.submitted hr)).trans (h.terms hr)
  buyerConfirmedAt := h.buyerConfirmedAt.trans h'.buyerConfirmedAt
  amlClearedAt := h.amlClearedAt.trans h'.amlClearedAt
  fundedAt := h.fundedAt.trans h'.fundedAt

theorem Frozen.id (h : Frozen r r') : r'.id = r.id := congrArg Identity.id h.identity

/-- Nothing of an invoice that matters here is written. -/
structure Untouched (r r' : Invoice) : Prop extends Frozen r r' where
  stage : stageOf r' = stageOf r

theorem Untouched.same (hidentity : identityOf r' = identityOf r) (hterms : termsOf r' = termsOf r)
    (hstatus : r'.status = r.status) (hconfirmed : r'.buyerConfirmedAt = r.buyerConfirmedAt)
    (hcleared : r'.amlClearedAt = r.amlClearedAt) (hfunded : r'.fundedAt = r.fundedAt) : Untouched r r' where
  identity := hidentity
  submitted h := by rwa [hstatus]
  terms _ := hterms
  buyerConfirmedAt := hconfirmed ▸ .refl _
  amlClearedAt := hcleared ▸ .refl _
  fundedAt := hfunded ▸ .refl _
  stage := by rw [stageOf, hstatus, hconfirmed, stageOf]

theorem Untouched.refl (r : Invoice) : Untouched r r := .same rfl rfl rfl rfl rfl rfl

theorem Untouched.advances (h : Untouched r r') : Advances e r r' := ⟨h.toFrozen, Or.inl h.stage⟩

theorem Advances.refl (r : Invoice) : Advances e r r := ⟨.refl r, Or.inl rfl⟩

/-- Other columns are written before the move, -/
theorem Untouched.trans_advances (h : Untouched r r') (h' : Advances e r' r'') : Advances e r r'' := by
  refine ⟨h.toFrozen.trans h'.toFrozen, ?_⟩
  rw [← h.stage, ← h.id]
  exact h'.stage

/-- or after it. -/
theorem Advances.trans_untouched (h : Advances e r r') (h' : Untouched r' r'') : Advances e r r'' := by
  refine ⟨h.toFrozen.trans h'.toFrozen, ?_⟩
  rw [h'.stage]
  exact h.stage

theorem once_fundedAt (new : InvoiceStatus) (now : ℤ) (r : Invoice) :
    Once r.fundedAt (Payments.setInvoiceStatus new now r).fundedAt := by
  intro t ht
  simp [Payments.setInvoiceStatus, ht]

/-- A submitted invoice gets another status. -/
theorem Advances.moved {new : InvoiceStatus} {now : ℤ} (hnew : new ≠ .draft)
    (hmove : Moves r.id e (stageOf r) ⟨new, r.buyerConfirmedAt.isSome⟩) :
    Advances e r (Payments.setInvoiceStatus new now r) where
  identity := rfl
  submitted _ := hnew
  terms _ := rfl
  buyerConfirmedAt := .refl _
  amlClearedAt := .refl _
  fundedAt := once_fundedAt new now r
  stage := Or.inr hmove

/-- The same from the one status that the `UPDATE` expects. -/
theorem Advances.moved_from {expected new : InvoiceStatus} {now : ℤ} (hstatus : r.status = expected)
    (hnew : new ≠ .draft) (hmove : ∀ c, Moves r.id e ⟨expected, c⟩ ⟨new, c⟩) :
    Advances e r (Payments.setInvoiceStatus new now r) := by
  apply Advances.moved hnew
  rw [stageOf, hstatus]
  exact hmove _

end Rows

/-! ## Effects -/

/-- The event creates the invoice. -/
inductive Creates (r : Invoice) : Event → Prop
  | submitted (invoiceId : ℕ) (hid : r.id = invoiceId) (hstage : stageOf r = ⟨.submitted, false⟩) :
      Creates r (.invoiceSubmitted invoiceId r.faceValue)
  | drafted (invoiceId : ℕ) (hid : r.id = invoiceId) (hstage : stageOf r = ⟨.draft, false⟩) :
      Creates r (.draftSaved invoiceId)

/-- What an event does to the invoices: some advance, or one is new. -/
inductive InvoiceEffect (w : World) (e : Event) (w' : World) : Prop
  | rows (h : w.invoices.Rowwise (Advances e) w'.invoices)
  | new (r : Invoice) (T : Table Invoice.id) (hr : Creates r e) (hinsert : w.invoices.insert? r = some T)
      (h : T.Rowwise Untouched w'.invoices)

/-- What the calls of other services rely on besides. -/
structure Keeps (w w' : World) : Prop where
  signedTokens : ∀ token ∈ w.signedTokens, token ∈ w'.signedTokens
  scores : ∀ invoiceId riskScoreId, Pricing.ScoreOf w invoiceId riskScoreId →
    Pricing.ScoreOf w' invoiceId riskScoreId

/-- What an event may do. -/
structure Effect (w : World) (e : Event) (w' : World) : Prop where
  invoices : InvoiceEffect w e w'
  keeps : Keeps w w'

section Effects

variable {cfg : Config} {w w' : World} {e : Event} {T : Table Invoice.id}

theorem Keeps.same (htokens : w'.signedTokens = w.signedTokens) (hscores : w'.riskScores = w.riskScores) :
    Keeps w w' where
  signedTokens token h := by rwa [htokens]
  scores _ _ h := by rwa [Pricing.ScoreOf, hscores]

theorem Effect.of_rows (hrows : w.invoices.Rowwise (Advances e) w'.invoices) (hkeeps : Keeps w w') :
    Effect w e w' := ⟨.rows hrows, hkeeps⟩

theorem Effect.of_untouched (hrows : w.invoices.Rowwise Untouched w'.invoices) (hkeeps : Keeps w w') :
    Effect w e w' := .of_rows (hrows.imp fun _ _ h => h.advances) hkeeps

/-- The invoices are left alone. -/
theorem Effect.silent (hinvoices : w'.invoices = w.invoices) (hkeeps : Keeps w w') : Effect w e w' := by
  refine .of_rows ?_ hkeeps
  rw [hinvoices]
  exact .refl .refl _

/-- The rows that match advance. -/
theorem advances_update {p : Invoice → Bool} {f : Invoice → Invoice} (hf : ∀ r, (f r).id = r.id)
    (hstep : ∀ r, p r = true → Advances e r (f r)) : T.Rowwise (Advances e) (T.update p f hf) :=
  Table.rowwise_update (fun r _ hr => hstep r hr) fun r _ _ => .refl r

/-- Other columns of the rows that match are written. -/
theorem untouched_update {p : Invoice → Bool} {f : Invoice → Invoice} (hf : ∀ r, (f r).id = r.id)
    (hsame : ∀ r, p r = true → Untouched r (f r)) : T.Rowwise Untouched (T.update p f hf) :=
  Table.rowwise_update (fun r _ hr => hsame r hr) fun r _ _ => .refl r

/-- A conditional `UPDATE` of the status. -/
theorem advances_moveById {invoiceId : ℕ} {expected new : InvoiceStatus} {now : ℤ} (hnew : new ≠ .draft)
    (hmove : ∀ c, Moves invoiceId e ⟨expected, c⟩ ⟨new, c⟩) :
    T.Rowwise (Advances e) (Pricing.moveById invoiceId expected new now T) := by
  refine advances_update _ fun r hr => ?_
  obtain ⟨rfl, hstatus⟩ := of_decide_eq_true hr
  exact .moved_from hstatus hnew hmove

/-- The columns of the row that the flag is set on. -/
theorem untouched_flagAbove (faceValue : ℤ) (invoiceId : ℕ) (T : Table Invoice.id) :
    T.Rowwise Untouched (Invoices.flagAbove cfg faceValue invoiceId T) := by
  unfold Invoices.flagAbove
  split
  · exact untouched_update _ fun r _ => .same rfl rfl rfl rfl rfl rfl
  · exact .refl .refl _

/-- The effects of the invoices service. -/
theorem Effect.of_invoices (h : Invoices.Effect cfg (fun _ _ => True) w e w') : Effect w e w' := by
  cases h with
  | read => exact .silent rfl (.same rfl rfl)
  | submitted data now invoices auditLogs href hinsert =>
    exact ⟨.new _ invoices (.submitted data.id rfl rfl) hinsert (untouched_flagAbove _ _ _), .same rfl rfl⟩
  | saved data now invoices hinsert =>
    exact ⟨.new _ invoices (.drafted data.id rfl rfl) hinsert (.refl .refl _), .same rfl rfl⟩
  | updated invoiceId supplierId fields =>
    refine .of_rows (advances_update (Invoices.id_setDraftFields fields) fun r hr => ?_) (.same rfl rfl)
    obtain ⟨-, -, hdraft⟩ := of_decide_eq_true hr
    refine ⟨⟨rfl, fun h => h, fun h => absurd hdraft h, .refl _, .refl _, .refl _⟩, Or.inl rfl⟩
  | promoted invoiceId faceValue now entry hdraft =>
    have hpromoted : w.invoices.Rowwise (Advances (.draftSubmitted invoiceId faceValue))
        (Invoices.promote invoiceId now w.invoices) := by
      refine advances_update _ fun r hr => ?_
      obtain ⟨rfl, hdraft⟩ := of_decide_eq_true hr
      refine ⟨⟨rfl, fun h => absurd hdraft h, fun h => absurd hdraft h, .refl _, .refl _, .refl _⟩, Or.inr ?_⟩
      rw [stageOf, hdraft]
      exact .submitted _ _
    exact .of_rows (hpromoted.trans (untouched_flagAbove _ _ _) fun _ _ _ => .trans_untouched) (.same rfl rfl)
  | withdrawn invoiceId entry =>
    refine .of_rows (advances_update Invoices.id_setWithdrawn fun r hr => ?_) (.same rfl rfl)
    obtain rfl : r.id = invoiceId := of_decide_eq_true hr
    refine ⟨⟨rfl, fun _ => ?_, fun _ => rfl, .refl _, .refl _, .refl _⟩, Or.inr (.withdrawn (stageOf r))⟩
    simp [Invoices.setWithdrawn]

/-- The effects of the verification service. -/
theorem Effect.of_verification (h : Verification.Effect w e w') : Effect w e w' := by
  cases h with
  | tokenGenerated invoiceId token expiresAt entry =>
    exact .of_untouched (untouched_update (Verification.id_setToken token expiresAt) fun r _ =>
      .same rfl rfl rfl rfl rfl rfl) (.same rfl rfl)
  | confirmed invoiceId now entry href =>
    refine .of_rows (advances_update (Verification.id_setConfirmed now) fun r hr => ?_) (.same rfl rfl)
    obtain ⟨rfl, hnone⟩ := of_decide_eq_true hr
    refine ⟨⟨rfl, fun _ => ?_, fun _ => rfl, fun t ht => ?_, .refl _, .refl _⟩, Or.inr ?_⟩
    · simp [Verification.setConfirmed]
    · rw [hnone] at ht
      cases ht
    · rw [stageOf, hnone]
      exact .confirmed _
  | disputed invoiceId disputeId disputes entry => exact .silent rfl (.same rfl rfl)

/-- The effect of the risk engine. -/
theorem Effect.of_riskEngine (h : RiskEngine.Effect w e w') : Effect w e w' := by
  cases h with
  | scored result id riskScores now hinsert =>
    refine .of_rows (advances_moveById ?_ fun c => .scored _ c) ⟨fun _ h => h, ?_⟩
    · unfold RiskEngine.scoredStatus
      split <;> simp
    · rintro invoiceId riskScoreId ⟨r, hr, hid, hinvoice⟩
      exact ⟨r, (Table.mem_insert? hinsert).2 (Or.inl hr), hid, hinvoice⟩

/-- The effect of a clearance. -/
theorem Effect.of_compliance (h : Compliance.Effect w e w') : Effect w e w' := by
  cases h with
  | cleared invoiceId officerId reason now entry =>
    refine .of_rows (advances_update (Compliance.id_setCleared officerId reason now) fun r hr => ?_) (.same rfl rfl)
    obtain ⟨-, -, hnone⟩ := of_decide_eq_true hr
    refine ⟨⟨rfl, fun h => h, fun _ => rfl, .refl _, fun t ht => ?_, .refl _⟩, Or.inl rfl⟩
    rw [hnone] at ht
    cases ht

/-- The effects of the pricing service. -/
theorem Effect.of_pricing (h : Pricing.Effect w e w') : Effect w e w' := by
  have hscores : ∀ i k, Pricing.ScoreOf w i k → Pricing.ScoreOf w' i k := fun _ _ => h.scoreOf
  have hsame : ∀ (T : Table Invoice.id) {p : Invoice → Bool} {f : Invoice → Invoice} (hf : ∀ r, (f r).id = r.id),
      (∀ r, Untouched r (f r)) → T.Rowwise Untouched (T.update p f hf) :=
    fun T p f hf h => untouched_update hf fun r _ => h r
  cases h with
  | read | threw | logged | enqueued | leftJobs => exact .silent rfl (.same rfl rfl)
  | priced invoiceId riskScoreId input now hscore =>
    exact .of_rows ((hsame _ (Pricing.id_setAmounts _) fun r => .same rfl rfl rfl rfl rfl rfl).trans
      (advances_moveById (by simp) fun c => .priced input c) fun _ _ _ => Untouched.trans_advances)
      ⟨fun _ h => h, hscores⟩
  | accepted invoiceId userId req now =>
    exact .of_untouched (untouched_update (Pricing.id_setAccepted userId now) fun r _ =>
      .same rfl rfl rfl rfl rfl rfl) (.same rfl rfl)
  | rejected invoiceId userId reason req now =>
    exact .of_rows ((hsame _ (Pricing.id_setRejected reason now) fun r => .same rfl rfl rfl rfl rfl rfl).trans
      (advances_moveById (by simp) fun c => .pricingRejected c) fun _ _ _ => Untouched.trans_advances) (.same rfl rfl)
  | disputed invoiceId userId payload req now =>
    exact .of_untouched (untouched_update (Pricing.id_setDisputed now) fun r _ =>
      .same rfl rfl rfl rfl rfl rfl) (.same rfl rfl)

/-- The commits of the approvals service. -/
theorem Effect.of_approvals (h : Approvals.Commits cfg w e w') : Effect w e w' := by
  cases h with
  | approval h =>
    refine .of_rows ?_ (.same (by rw [h.frame]) (by rw [h.frame]))
    rw [h.invoices]
    split
    · exact advances_update _ fun r hr => by
        obtain ⟨rfl, hstatus⟩ := of_decide_eq_true hr
        exact .moved_from hstatus (by simp) fun c => .approved _ _ c
    · exact .refl .refl _
  | @rejection tier invoiceId userId rejects now w' h =>
    have hcount : w.invoices.Rowwise Untouched (Approvals.countIfTier3 tier invoiceId w.invoices) := by
      unfold Approvals.countIfTier3
      split
      · exact untouched_update _ fun r _ => .same rfl rfl rfl rfl rfl rfl
      · exact .refl .refl _
    refine .of_rows ?_ (.same (by rw [h.frame]) (by rw [h.frame]))
    rw [h.invoices]
    split
    · refine hcount.trans (advances_update _ fun r hr => ?_) fun _ _ _ => Untouched.trans_advances
      obtain ⟨rfl, hstatus⟩ := of_decide_eq_true hr
      exact .moved_from hstatus (by simp) fun c => .rejected _ c
    · exact hcount.imp fun _ _ h => h.advances
  | reset h =>
    refine .of_untouched ?_ (.same (by rw [h.frame]) (by rw [h.frame]))
    rw [h.invoices]
    exact untouched_update _ fun r _ => .same rfl rfl rfl rfl rfl rfl

/-- A write of the payments service. -/
theorem Effect.of_payments (h : Payments.Writes w e w') : Effect w e w' := by
  refine .of_rows (h.invoices.imp fun r r' hstep => ?_) (.same (by rw [h.frame]) (by rw [h.frame]))
  cases hstep with
  | same => exact .refl r
  | initiated p now he hid hstatus =>
    cases he
    exact .moved_from hstatus (by simp) fun c => .initiated p hid c
  | funded p now he hid hstatus =>
    cases he
    exact .moved_from hstatus (by simp) fun c => .funded p hid c

/-- A conditional move, as the events of the collections service make it. -/
theorem advances_moveIf {r : Invoice} {invoiceId : ℕ} {expected new : InvoiceStatus} {now : ℤ}
    (hnew : new ≠ .draft) (hmove : ∀ c, Moves invoiceId e ⟨expected, c⟩ ⟨new, c⟩) :
    Advances e r (Payments.setInvoiceStatus
      (if invoiceId = r.id ∧ r.status = expected then new else r.status) now r) := by
  by_cases hmatch : invoiceId = r.id ∧ r.status = expected
  · rw [if_pos hmatch]
    obtain ⟨rfl, hstatus⟩ := hmatch
    exact .moved_from hstatus hnew hmove
  · rw [if_neg hmatch]
    exact ⟨⟨rfl, fun h => h, fun _ => rfl, .refl _, .refl _, once_fundedAt r.status now r⟩, Or.inl rfl⟩

/-- A write of the collections service other than a payment. -/
theorem Effect.of_collections (h : Collections.Touches w e w') : Effect w e w' := by
  refine .of_rows (h.invoices.imp fun r r' hstep => ?_) (.same (by rw [h.frame]) (by rw [h.frame]))
  cases hstep with
  | same => exact .refl r
  | moved new now hnew =>
    subst hnew
    have hsame : Advances e r (Payments.setInvoiceStatus r.status now r) :=
      ⟨⟨rfl, fun h => h, fun _ => rfl, .refl _, .refl _, once_fundedAt r.status now r⟩, Or.inl rfl⟩
    cases e with
    | paymentReceived invoiceId collectionId amount => exact absurd rfl (h.unpaid _ _ _)
    | collectionStarted collectionId invoiceId => exact advances_moveIf (by simp) fun c => .collecting _ c
    | collectionOverdue collectionId invoiceId => exact advances_moveIf (by simp) fun c => .overdue _ c
    | collectionResolved collectionId invoiceId prevStatus =>
      exact advances_moveIf (by simp) fun c => .resolved _ prevStatus c
    | collectionDefaulted collectionId invoiceId => exact advances_moveIf (by simp) fun c => .defaulted _ c
    | _ => exact hsame

/-- The payment of a buyer. -/
theorem Effect.of_pays {input : Collections.RecordPaymentInput} {invoice : Invoice} {collectionId : ℕ}
    {now : ℤ} (h : Collections.Pays input invoice collectionId now w w') :
    Effect w (.paymentReceived input.invoiceId collectionId input.amount) w' := by
  refine .of_rows ?_ (.same (by rw [h.rest]) (by rw [h.rest]))
  rw [h.invoices]
  refine advances_update _ fun r hr => ?_
  obtain ⟨hid, -⟩ := of_decide_eq_true hr
  refine .moved (by simp) ?_
  rw [← hid]
  exact .paid collectionId input.amount (stageOf r)

/-- A write of the facilities service. -/
theorem Effect.of_facilities (h : Facilities.Writes w e w') : Effect w e w' :=
  .silent (by rw [h.frame]) (.same (by rw [h.frame]) (by rw [h.frame]))

/-- An effect of the settlements service. -/
theorem Effect.of_settlements (h : Settlements.Effect w e w') : Effect w e w' := by
  cases h <;> exact .silent rfl (.same rfl rfl)

/-- An effect of the authentication service. -/
theorem Effect.of_auth {s : State World Event} {t : ℕ} (h : Auth.Effect cfg s t e w') :
    Effect s.store e w' := by
  cases h with
  | tokenIssued | tokenRotated =>
    exact .of_rows (.refl .refl _) ⟨fun token htoken => List.mem_append_left _ htoken, fun _ _ h => h⟩
  | _ => exact .silent rfl (.same rfl rfl)

/-- Whatever happens, an invoice that is there stays, as it advances. -/
theorem Effect.advances (h : Effect w e w') {invoiceId : ℕ} {r : Invoice}
    (hr : w.invoices.get? invoiceId = some r) :
    ∃ r', w'.invoices.get? invoiceId = some r' ∧ Advances e r r' := by
  cases h.invoices with
  | rows hrows => exact hrows.exists_of_get?_left (fun _ _ h => h.id) hr
  | new x T hx hinsert hrows =>
    obtain ⟨r', hr', hsame⟩ :=
      hrows.exists_of_get?_left (fun _ _ h => h.id) (Table.get?_insert?_of_get? hinsert hr)
    exact ⟨r', hr', hsame.advances⟩

/-- An invoice that was not there has been created. -/
theorem Effect.created (h : Effect w e w') {invoiceId : ℕ} {r' : Invoice}
    (hr : w.invoices.get? invoiceId = none) (hr' : w'.invoices.get? invoiceId = some r') :
    ∃ x, x.id = invoiceId ∧ Creates x e ∧ Untouched x r' := by
  cases h.invoices with
  | rows hrows =>
    obtain ⟨r, hfound, -⟩ := hrows.exists_of_get? (fun _ _ h => h.id) hr'
    rw [hr] at hfound
    cases hfound
  | new x T hx hinsert hrows =>
    obtain ⟨r, hfound, hsame⟩ := hrows.exists_of_get? (fun _ _ h => h.id) hr'
    rw [Table.get?_insert? hinsert] at hfound
    split at hfound
    · next hid =>
      obtain rfl := Option.some.inj hfound
      exact ⟨x, hid.symm, hx, hsame⟩
    · rw [hr] at hfound
      cases hfound

end Effects

/-! ## The collateral service among the others -/

/-- What the collateral service may do. -/
structure CollateralWrites (w : World) (e : Event) (w' : World) : Prop where
  service : e.service? = some .collateral
  frame : w' = { w with collateral := w'.collateral, collateralDocuments := w'.collateralDocuments }

section Collateral

variable {G : Protocol World Event} (hG : Auditing G) (hallow : Allows G CollateralWrites)

include hG

theorem free_validateInvoiceAccess (invoiceId userId : ℕ) (role : String) :
    Free G (Collateral.validateInvoiceAccess invoiceId userId role) :=
  free_ite (free_pure _) (free_query hG.toQuiet _)

theorem free_guardCollateralAccess (userId : ℕ) (role : String) (existing : Collateral) :
    Free G (Collateral.guardCollateralAccess userId role existing) := by
  unfold Collateral.guardCollateralAccess
  split
  · exact free_pure _
  · exact free_bind (free_validateInvoiceAccess hG _ _ _) fun _ => free_lift _

theorem free_guardDeletion (existing : Collateral) : Free G (Collateral.guardDeletion existing) := by
  unfold Collateral.guardDeletion
  split
  · exact free_pure _
  · exact free_bind (free_query hG.toQuiet _) fun _ => free_lift _

theorem free_auditDeletion (userId collateralId : ℕ) (existing : Collateral) (req : Request) :
    Free G (Collateral.auditDeletion userId collateralId existing req) :=
  free_statement hG.toQuiet fun s t i u d _ h => by
    simp only [Txn.bind_ok, connect_ok, now_ok, createAuditEntry_ok] at h
    obtain ⟨_, _, ⟨-, rfl⟩, now, _, ⟨-, rfl⟩, rfl⟩ := h
    exact hG.audited s t (Collateral.collateralAudit userId "COLLATERAL_DELETED" collateralId
      [("value", .text (toString existing.value)), ("type", .text existing.collateralType.text)]
      [("deleted_at", .int now)] req)

include hallow

theorem free_collateral (op : Collateral.Op) : Free G (Collateral.program op) := by
  cases op with
  | createCollateral userId role input req =>
    refine free_discard (free_bind (free_query hG.toQuiet _) fun _ => free_bind (free_lift _) fun _ =>
      free_bind (free_validateInvoiceAccess hG _ _ _) fun _ => free_bind (free_lift _) fun _ =>
        free_bind (free_transaction hG.toQuiet ?_) fun _ => free_bind (free_auditAlone hG _) fun _ =>
          free_bind (free_log hG.toQuiet _) fun _ => free_pure _)
    intro s t i id d hs h
    refine hallow s t _ d hs ⟨rfl, ?_⟩
    simp only [Collateral.createCollateralTxn, Txn.bind_ok, Txn.input_ok, Txn.read_ok] at h
    obtain ⟨_, _, ⟨rfl, rfl⟩, _, _, ⟨rfl, rfl⟩, h⟩ := h
    generalize s.store.collateral.insert? _ = inserted at h
    cases inserted with
    | none => cases h
    | some collateral =>
      simp only [Collateral.insertDocuments, Txn.bind_ok, Txn.write_ok, Txn.pure_ok] at h
      obtain ⟨_, _, rfl, _, _, rfl, -, rfl⟩ := h
      rfl
  | updateCollateral userId role collateralId input req =>
    refine free_discard (free_bind (free_query hG.toQuiet _) fun _ => free_bind (free_lift _) fun existing =>
      free_bind (free_guardCollateralAccess hG _ _ _) fun _ => free_bind ?_ fun _ => free_bind ?_ fun _ =>
        free_bind (free_auditAlone hG _) fun _ => free_bind (free_log hG.toQuiet _) fun _ => free_pure _)
    · refine free_ite (free_bind (free_transaction hG.toQuiet ?_) fun _ => free_lift _) (free_pure _)
      intro s t i updated d hs h
      refine hallow s t _ d hs ⟨rfl, ?_⟩
      simp only [Collateral.updateCollateralFields, Txn.bind_ok, Txn.write_ok, Txn.read_ok] at h
      obtain ⟨_, _, rfl, -, rfl⟩ := h
      rfl
    · unfold Collateral.replaceDocuments
      split
      · exact free_pure _
      · refine free_transaction hG.toQuiet ?_
        intro s t i u d hs h
        refine hallow s t _ d hs ⟨rfl, ?_⟩
        simp only [Collateral.replaceDocumentsTxn, Collateral.insertDocuments, Txn.bind_ok, Txn.write_ok] at h
        obtain ⟨_, _, rfl, rfl⟩ := h
        rfl
  | deleteCollateral userId role collateralId req =>
    refine free_bind (free_query hG.toQuiet _) fun _ => free_bind (free_lift _) fun existing =>
      free_bind (free_guardCollateralAccess hG _ _ _) fun _ => free_bind (free_guardDeletion hG _) fun _ =>
        free_bind (free_transaction hG.toQuiet ?_) fun _ => free_bind (free_auditDeletion hG _ _ _ _) fun _ =>
          free_log hG.toQuiet _
    intro s t i u d hs h
    refine hallow s t _ d hs ⟨rfl, ?_⟩
    simp only [Collateral.softDelete, Txn.bind_ok, now_ok, Txn.write_ok] at h
    obtain ⟨_, _, ⟨-, rfl⟩, rfl⟩ := h
    rfl

end Collateral

/-! ## The system follows the effects -/

/-- Effects depend on the store alone; a call may return at any time. -/
def protocol : Protocol World Event where
  inv _ := True
  effect s _ e d :=
    match e with
    | some event => Effect s.store event d
    | none => d = s.store
  inv_effect _ _ := trivial
  return_stable _ _ _ _ := rfl

theorem auditing : Auditing protocol where
  read _ _ := .silent rfl (.same rfl rfl)
  threw _ _ := .silent rfl (.same rfl rfl)
  logged _ _ _ := .silent rfl (.same rfl rfl)
  enqueued _ _ _ := .silent rfl (.same rfl rfl)
  leftJobs _ _ _ := .silent rfl (.same rfl rfl)
  audited _ _ _ := .silent rfl (.same rfl rfl)

/-- What every effect leaves, calls may rely on. -/
theorem steady_of_effect {P : World → Prop} (hP : ∀ w e w', Effect w e w' → P w → P w') :
    protocol.Steady fun s => P s.store := by
  intro s t e d _ h heff
  cases e with
  | some event => exact hP _ _ _ heff h
  | none =>
    obtain rfl : d = s.store := heff
    exact h

theorem steady_referenced (invoiceId : ℕ) :
    protocol.Steady fun s => Verification.Referenced invoiceId s.store := by
  refine steady_of_effect fun w e w' heff ⟨r, hr, href⟩ => ?_
  obtain ⟨r', hr', hadvances⟩ := heff.advances hr
  have hsame : r'.uraEfrisRef = r.uraEfrisRef := congrArg Identity.uraEfrisRef hadvances.identity
  exact ⟨r', hr', by rwa [hsame]⟩

/-- Every operation follows the protocol. -/
theorem program_implements (cfg : Config) : protocol.Implements (program cfg) := by
  have hG := auditing
  have hscores : ∀ invoiceId riskScoreId, protocol.Steady fun s =>
      Pricing.ScoreOf s.store invoiceId riskScoreId :=
    fun _ _ => steady_of_effect fun _ _ _ heff => heff.keeps.scores _ _
  have htriple : ∀ op t, protocol.Triple t (fun s => own t s.hist = []) (program cfg op)
      (fun _ _ => True) fun _ _ => True := by
    intro op t
    cases op with
    | invoicing op =>
      cases op with
      | origination op =>
        cases op with
        | invoices op =>
          exact (Invoices.free_program hG (fun _ _ _ _ _ h => .of_invoices h) (fun _ _ _ _ _ _ => trivial)
            (fun _ _ _ _ _ _ _ _ => trivial) op).of _ t
        | verification op =>
          exact (Verification.free_program hG (fun _ _ _ _ _ h => .of_verification h) steady_referenced op).of _ t
        | riskEngine op =>
          exact (RiskEngine.free_program hG.toPermissive (fun _ _ _ _ _ h => .of_riskEngine h) op).of _ t
        | compliance op =>
          exact (Compliance.free_program hG.toPermissive (fun _ _ _ _ _ h => .of_compliance h) op).of _ t
        | pricing op =>
          exact (Pricing.free_program hG.toPermissive (fun _ _ _ _ _ h => .of_pricing h) hscores op).of _ t
        | approvals op =>
          exact (Approvals.free_program_of_commits hG.toPermissive (fun _ _ _ _ _ h => .of_approvals h)
            op).of _ t
        | payments op =>
          exact (Payments.free_program hG.toPermissive (fun _ _ _ _ _ h => .of_payments h) op).of _ t
      | collections op =>
        refine (@Collections.free_program_of cfg _ hG.toPermissive (fun _ _ _ _ _ h => .of_collections h)
          (fun _ _ => True) ?_ ?_ ?_ ?_ op).of _ t
        · exact fun _ _ _ _ _ _ _ _ => trivial
        · exact fun _ _ _ _ _ => trivial
        · exact fun _ _ _ _ _ _ _ _ _ _ _ hpays => .of_pays hpays
        · exact fun _ _ _ _ => .silent rfl (.same rfl rfl)
    | settlements op =>
      exact (Settlements.free_program hG.toPermissive (fun _ _ _ _ _ h => .of_settlements h) op).of _ t
    | facilities op =>
      exact (Facilities.free_program_of_writes hG.toPermissive (fun _ _ _ _ _ h => .of_facilities h) op).of _ t
    | collateral op =>
      refine (free_collateral hG (fun _ _ _ _ _ h => ?_) op).of _ t
      exact .silent (by rw [h.frame]) (.same (by rw [h.frame]) (by rw [h.frame]))
    | auth op =>
      refine Auth.triple_program hG (fun s t e d _ h => .of_auth h) (fun token => ?_) op t
      exact steady_of_effect fun w e w' heff => heff.keeps.signedTokens token
  exact fun op t => (htriple op t).conseq (fun _ _ h => h) (fun _ _ _ _ => rfl) fun _ _ _ _ => rfl

/-! ## Runs -/

/-- What has happened, oldest first. -/
def events (hist : List (ℕ × Option Event)) : List Event := hist.reverse.filterMap Prod.snd

/-- How an invoice has come to be as it is since the store was `w`. -/
inductive Life (w : World) (invoiceId : ℕ) (happened : List Event) (r : Invoice) : Prop
  | old (r₀ : Invoice) (es : List Event) (hr₀ : w.invoices.get? invoiceId = some r₀)
      (hsub : es.Sublist happened) (hpath : Path invoiceId (stageOf r₀) es (stageOf r)) (hfrozen : Frozen r₀ r)
  | new (x : Invoice) (e : Event) (es : List Event) (hnone : w.invoices.get? invoiceId = none)
      (hid : x.id = invoiceId) (hcreates : Creates x e) (hsub : (e :: es).Sublist happened)
      (hpath : Path invoiceId (stageOf x) es (stageOf r)) (hfrozen : Frozen x r)

/-- Every invoice follows the automaton, and none is lost. -/
structure Followed (w : World) (s : State World Event) : Prop where
  life : ∀ invoiceId r, s.store.invoices.get? invoiceId = some r → Life w invoiceId (events s.hist) r
  stays : ∀ invoiceId r₀, w.invoices.get? invoiceId = some r₀ →
    ∃ r, s.store.invoices.get? invoiceId = some r

section Runs

variable {cfg : Config} {w d : World} {s s' : Sys World Input Event RisError} {st : State World Event}
  {invoiceId t : ℕ} {r r' : Invoice} {e : Event} {happened : List Event}

theorem events_record (st : State World Event) (t : ℕ) (e : Event) (d : World) :
    events (st.record t (some e) d).hist = events st.hist ++ [e] := by
  simp [events, State.record]

theorem events_return (st : State World Event) (t : ℕ) (d : World) :
    events (st.record t none d).hist = events st.hist := by
  simp [events, State.record]

/-- The path goes on, after what had happened before it. -/
theorem Path.advances {st : Stage} {es : List Event} (hpath : Path invoiceId st es (stageOf r))
    (before : List Event) (hid : r.id = invoiceId) (h : Advances e r r') (hsub : (before ++ es).Sublist happened) :
    ∃ es', (before ++ es').Sublist (happened ++ [e]) ∧ Path invoiceId st es' (stageOf r') := by
  rcases h.stage with hsame | hmove
  · rw [hsame]
    exact ⟨es, hsub.trans (List.sublist_append_left _ _), hpath⟩
  · rw [hid] at hmove
    refine ⟨es ++ [e], ?_, .snoc hpath hmove⟩
    rw [← List.append_assoc]
    exact hsub.append (List.Sublist.refl [e])

/-- The life goes on. -/
theorem Life.advances (h : Life w invoiceId happened r) (hid : r.id = invoiceId) (hr : Advances e r r') :
    Life w invoiceId (happened ++ [e]) r' := by
  cases h with
  | old r₀ es hr₀ hsub hpath hfrozen =>
    obtain ⟨es', hsub', hpath'⟩ := hpath.advances [] hid hr hsub
    exact .old r₀ es' hr₀ hsub' hpath' (hfrozen.trans hr.toFrozen)
  | new x e₀ es hnone hx hcreates hsub hpath hfrozen =>
    obtain ⟨es', hsub', hpath'⟩ := hpath.advances [e₀] hid hr hsub
    exact .new x e₀ es' hnone hx hcreates hsub' hpath' (hfrozen.trans hr.toFrozen)

/-- The step lemma. -/
theorem Followed.effect (h : Followed w st) (heff : Effect st.store e d) :
    Followed w (st.record t (some e) d) where
  life invoiceId r' hr' := by
    rw [events_record]
    cases hr : st.store.invoices.get? invoiceId with
    | some r =>
      obtain ⟨r'', hr'', hadvances⟩ := heff.advances hr
      obtain rfl : r'' = r' := Option.some.inj (hr''.symm.trans hr')
      exact (h.life invoiceId r hr).advances (Table.key_of_get? hr) hadvances
    | none =>
      obtain ⟨x, hid, hcreates, hsame⟩ := heff.created hr hr'
      refine .new x e [] ?_ hid hcreates (List.sublist_append_right _ _) ?_ hsame.toFrozen
      · by_contra hne
        obtain ⟨r₀, hr₀⟩ := Option.ne_none_iff_exists'.1 hne
        obtain ⟨r, hfound⟩ := h.stays invoiceId r₀ hr₀
        rw [hr] at hfound
        cases hfound
      · rw [hsame.stage]
        exact .refl _
  stays invoiceId r₀ hr₀ := by
    obtain ⟨r, hr⟩ := h.stays invoiceId r₀ hr₀
    obtain ⟨r', hr', -⟩ := heff.advances hr
    exact ⟨r', hr'⟩

theorem followed (hs : Reaches (program cfg) always (Sys.init w) s) : Followed w s.toState := by
  refine Protocol.invariant (program_implements cfg) trivial (P := fun s => Followed w s) ?_ ?_ hs
  · exact ⟨fun invoiceId r hr => .old r [] hr (List.nil_sublist _) (.refl _) (.refl r),
      fun invoiceId r₀ hr₀ => ⟨r₀, hr₀⟩⟩
  · intro s t e d h hmove
    cases e with
    | some e => exact h.effect hmove.effect
    | none =>
      obtain rfl : d = s.store := hmove.effect
      exact ⟨fun invoiceId r hr => by rw [events_return]; exact h.life invoiceId r hr, h.stays⟩

/-- **Every invoice follows the automaton.** In every state that the platform reaches, every invoice has come
to its stage by moves of the automaton, made by events of the run in their order, from the stage it had in
the beginning or with which an event of the run created it; and no invoice is lost. -/
theorem lifecycle_followed (cfg : Config) (w : World) (s : Sys World Input Event RisError)
    (hs : Reaches (program cfg) always (Sys.init w) s) (invoiceId : ℕ) :
    (∀ r, s.store.invoices.get? invoiceId = some r → Life w invoiceId (events s.hist) r) ∧
      ∀ r₀, w.invoices.get? invoiceId = some r₀ → ∃ r, s.store.invoices.get? invoiceId = some r :=
  ⟨(followed hs).life invoiceId, (followed hs).stays invoiceId⟩

theorem stageOf_created {x : Invoice} (h : Creates x e) : (stageOf x).Sound ∧ (stageOf x).confirmed = false := by
  cases h with
  | submitted invoiceId hid hstage =>
    rw [hstage]
    exact ⟨by decide, rfl⟩
  | drafted invoiceId hid hstage =>
    rw [hstage]
    exact ⟨by decide, rfl⟩

/-! ### One invoice -/

/-- An operation run alone as call `t`, of `n` statements. -/
def alone (op : AmlHold.Op) (t n : ℕ) : List (Act Op Input) :=
  Act.call (.invoicing (.origination op)) t
    (List.replicate n { uuid := t + 1, key := "token", coverageRatio := some 0 })

/-- From the submission of an invoice to the initiation of its payment. -/
def submittedToPayment : List (Act Op Input) :=
  alone (.invoices (.submitInvoice 9 (AmlHold.largeInvoice 90000000) {})) 0 11 ++
    alone (.verification (.resendConfirmation 1 7 {})) 1 7 ++
    alone (.verification (.confirmInvoice "token" {} {})) 2 5 ++
    alone (.riskEngine (.scoreInvoice 1)) 3 18 ++
    alone (.pricing (.priceInvoice 1)) 4 7 ++
    alone (.pricing (.acceptPricing 1 9 {})) 5 5 ++
    alone (.approvals (.approveInvoice 1 (AmlHold.officer 5) {})) 6 4 ++
    alone (.approvals (.approveInvoice 1 (AmlHold.officer 6) {})) 7 4 ++
    alone (.payments (.initiatePayment 1)) 8 9

theorem exists_paid : ∃ s : Sys World Input Event RisError,
    Reaches (program {}) always (Sys.init AmlHold.largeWorld) s ∧
      (s.store.invoices.get? 1).map Invoice.status = some .pendingFirstAuth := by
  obtain ⟨s, hs, hP⟩ := exists_reaches (program {}) always (Sys.init AmlHold.largeWorld) submittedToPayment
    (fun s => (s.store.invoices.get? 1).map Invoice.status = some .pendingFirstAuth) (by decide +kernel)
  exact ⟨s, hs, of_decide_eq_true hP⟩

/-- From the submission to the payment: the invoice was not there, so its life starts in the run. -/
theorem lifecycle_followed_paid : ∃ s : Sys World Input Event RisError,
    ∃ r, s.store.invoices.get? 1 = some r ∧ r.status = .pendingFirstAuth ∧
      Life AmlHold.largeWorld 1 (events s.hist) r := by
  obtain ⟨s, hs, hstatus⟩ := exists_paid
  obtain ⟨r, hr, hpending⟩ := Option.map_eq_some_iff.1 hstatus
  exact ⟨s, r, hr, hpending, (lifecycle_followed {} AmlHold.largeWorld s hs 1).1 r hr⟩

/-- **What a status rests on.** If nobody had confirmed the invoice in the beginning, or it was not there,
then the steps up to its status are among the events of the run, in their order: an invoice that is funded
was confirmed by its buyer, then scored, then priced, then approved, and then the transfer of a payment for it
succeeded. -/
theorem funding_provenance (cfg : Config) (w : World) (invoiceId : ℕ)
    (hw : ∀ r ∈ w.invoices.get? invoiceId, (stageOf r).Sound ∧ r.buyerConfirmedAt = none)
    (s : Sys World Input Event RisError) (hs : Reaches (program cfg) always (Sys.init w) s) (r : Invoice)
    (hr : s.store.invoices.get? invoiceId = some r) :
    Occurred (stepsTo invoiceId r.status) (events s.hist) := by
  cases (followed hs).life invoiceId r hr with
  | old r₀ es hr₀ hsub hpath hfrozen =>
    obtain ⟨hsound, hnone⟩ := hw r₀ hr₀
    exact (hpath.occurred hsound (by rw [stageOf, hnone]; rfl)).mono hsub
  | new x e es hnone hid hcreates hsub hpath hfrozen =>
    obtain ⟨hsound, hunconfirmed⟩ := stageOf_created hcreates
    exact (hpath.occurred hsound hunconfirmed).mono ((List.sublist_cons_self e es).trans hsub)

/-- The payment of the invoice was initiated after its confirmation, score, pricing and approval. -/
theorem funding_provenance_paid : ∃ s : Sys World Input Event RisError,
    Occurred [IsConfirmation 1, IsScore 1, IsPricing 1, IsApproval 1, IsInitiation 1] (events s.hist) := by
  obtain ⟨s, hs, hstatus⟩ := exists_paid
  obtain ⟨r, hr, hpending⟩ := Option.map_eq_some_iff.1 hstatus
  have hsteps := funding_provenance {} AmlHold.largeWorld 1 (by rintro _ ⟨⟩) s hs r hr
  rw [hpending] at hsteps
  exact ⟨s, hsteps⟩

/-- Every invoice stays, on a path of the automaton, with its terms. -/
def Onward (w w' : World) : Prop :=
  ∀ invoiceId, ∀ r ∈ w.invoices.get? invoiceId, ∃ r' ∈ w'.invoices.get? invoiceId, Frozen r r' ∧
    ∃ es, Path invoiceId (stageOf r) es (stageOf r')

theorem onward (hs : Reaches (program cfg) always (Sys.init w) s) (hs' : Reaches (program cfg) always s s') :
    Onward s.store s'.store := by
  refine Protocol.persists (program_implements cfg) trivial (P := fun s' => Onward s.store s'.store) ?_ hs
    (fun _ r hr => ⟨r, hr, .refl r, [], .refl _⟩) hs'
  intro s₁ t e d h hmove
  cases e with
  | none =>
    obtain rfl : d = s₁.store := hmove.effect
    exact h
  | some e =>
    intro invoiceId r hr
    obtain ⟨r₁, hr₁, hfrozen, es, hpath⟩ := h invoiceId r hr
    obtain ⟨r', hr', hadvances⟩ := Effect.advances hmove.effect hr₁
    obtain ⟨es', -, hpath'⟩ := hpath.advances [] (Table.key_of_get? hr₁) hadvances
      (List.Sublist.refl es)
    exact ⟨r', hr', hfrozen.trans hadvances.toFrozen, es', hpath'⟩

theorem sound_reached (hw : ∀ r ∈ w.invoices.rows, (stageOf r).Sound)
    (hs : Reaches (program cfg) always (Sys.init w) s) (hr : s.store.invoices.get? invoiceId = some r) :
    (stageOf r).Sound := by
  cases (followed hs).life invoiceId r hr with
  | old r₀ es hr₀ hsub hpath hfrozen => exact hpath.sound (hw r₀ (Table.mem_of_get? hr₀))
  | new x e es hnone hid hcreates hsub hpath hfrozen => exact hpath.sound (stageOf_created hcreates).1

/-- **No way back.** From any state of a run to any later one, every invoice has come farther, or stands where
it stood, or is closed. -/
theorem stage_never_back (cfg : Config) (w : World) (hw : ∀ r ∈ w.invoices.rows, (stageOf r).Sound)
    (s s' : Sys World Input Event RisError) (hs : Reaches (program cfg) always (Sys.init w) s)
    (hs' : Reaches (program cfg) always s s') (invoiceId : ℕ) (r : Invoice)
    (hr : s.store.invoices.get? invoiceId = some r) :
    ∃ r', s'.store.invoices.get? invoiceId = some r' ∧
      ((stageOf r).rank < (stageOf r').rank ∨ (stageOf r).rank = (stageOf r').rank ∧
        (stageOf r' = stageOf r ∨ Closed r'.status)) := by
  obtain ⟨r', hr', -, es, hpath⟩ := onward hs hs' invoiceId r hr
  exact ⟨r', hr', hpath.rank (sound_reached hw hs hr)⟩

/-- Before and after the confirmation of a submitted invoice. -/
theorem exists_confirmed : ∃ (s s' : Sys World Input Event RisError) (r : Invoice),
    Reaches (program {}) always (Sys.init Withdrawal.awaitingConfirmation) s ∧
      Reaches (program {}) always s s' ∧ s.store.invoices.get? 1 = some r ∧ r.status = .submitted ∧
        (s'.store.invoices.get? 1).map Invoice.status = some .buyerConfirmed := by
  obtain ⟨s', hs', hP⟩ := exists_reaches (program {}) always (Sys.init Withdrawal.awaitingConfirmation)
    (alone (.verification (.confirmInvoice "token" {} {})) 0 5)
    (fun s => (s.store.invoices.get? 1).map Invoice.status = some .buyerConfirmed) (by decide)
  exact ⟨_, s', _, .refl, hs', rfl, rfl, of_decide_eq_true hP⟩

theorem stage_never_back_confirmed : ∃ (s s' : Sys World Input Event RisError) (r : Invoice),
    s.store.invoices.get? 1 = some r ∧ ∃ r', s'.store.invoices.get? 1 = some r' ∧
      r'.status = .buyerConfirmed ∧
      ((stageOf r).rank < (stageOf r').rank ∨ (stageOf r).rank = (stageOf r').rank ∧
        (stageOf r' = stageOf r ∨ Closed r'.status)) := by
  obtain ⟨s, s', r, hs, hs', hr, -, hconfirmed⟩ := exists_confirmed
  obtain ⟨r', hr', hrank⟩ := stage_never_back {} Withdrawal.awaitingConfirmation
    (by simp [Withdrawal.awaitingConfirmation, Table.single, stageOf, Stage.Sound]) s s' hs hs' 1 r hr
  rw [hr'] at hconfirmed
  exact ⟨s, s', r, hr, r', hr', Option.some.inj hconfirmed, hrank⟩

/-- **The terms stay.** From any state of a run to any later one, every invoice keeps its parties, its number
and its references; past `draft` it keeps its face value, due date, tenor and description, and never becomes a
draft again; and the times of its confirmation, its clearance and its funding are never rewritten. -/
theorem terms_frozen (cfg : Config) (w : World) (s s' : Sys World Input Event RisError)
    (hs : Reaches (program cfg) always (Sys.init w) s) (hs' : Reaches (program cfg) always s s')
    (invoiceId : ℕ) (r : Invoice) (hr : s.store.invoices.get? invoiceId = some r) :
    ∃ r', s'.store.invoices.get? invoiceId = some r' ∧ Frozen r r' := by
  obtain ⟨r', hr', hfrozen, -⟩ := onward hs hs' invoiceId r hr
  exact ⟨r', hr', hfrozen⟩

/-- The confirmed invoice has the terms it was submitted with. -/
theorem terms_frozen_confirmed : ∃ (s s' : Sys World Input Event RisError) (r : Invoice),
    s.store.invoices.get? 1 = some r ∧ r.status = .submitted ∧
      ∃ r', s'.store.invoices.get? 1 = some r' ∧ r'.status = .buyerConfirmed ∧ Frozen r r' := by
  obtain ⟨s, s', r, hs, hs', hr, hsubmitted, hconfirmed⟩ := exists_confirmed
  obtain ⟨r', hr', hfrozen⟩ := terms_frozen {} Withdrawal.awaitingConfirmation s s' hs hs' 1 r hr
  rw [hr'] at hconfirmed
  exact ⟨s, s', r, hr, hsubmitted, r', hr', Option.some.inj hconfirmed, hfrozen⟩

end Runs

end Ris.Platform
