import RisPlatform.Backend.Approvals.Views
import RisPlatform.Backend.Collections.Views
import RisPlatform.Backend.Invoices.Views
import RisPlatform.Backend.Payments.Disbursement

/-!
# When the lifecycle of an invoice only moves forward

Requests to the views of five apps that set the status of one invoice or disburse its payment, one after
the other. No view reads the status that it starts from. The lifecycle only moves forward after those
sequences in which every request comes in a status that `Guard` lists for its view, and in which the
payment is disbursed after the buyer has verified the invoice.
-/

namespace Ris.Backend.Lifecycle

open Approvals Collections Invoices Payments

/-! ## Requests -/

/-- An invoice and the rows about it. -/
structure State where
  invoice : Invoice
  approval : Option ApprovalRequest := none
  payment : Option PaymentRecord := none
  case : Option CollectionCase := none
  settlement : Option Settlement := none

/-- Requests with their bodies and users, the clock readings and random identifiers that they draw. -/
inductive Request where
  | pricing
  | approve (comments : Field)
  | reject (comments : Field)
  | confirm (body : ConfirmVerificationView.Body) (now : DateTime)
  | dispute (reason disputeType : Field)
  | approveAction (user : ℕ) (body : ApproveInvoiceActionView.Body) (now : DateTime) (paymentId : ℕ)
      (queuedAt : DateTime)
  | rejectAction (user : ℕ) (comments : Field) (now : DateTime)
  | authorise (user : ℕ) (inputs : Inputs) (now : DateTime)
  | recordPayment (amount : Amount) (now : DateTime)
  | escalate (targetLevel snakeCased : Text) (reason : Field) (now : DateTime)
  | deescalate (targetLevel snakeCased : Text)
  | resolve

variable (calculate : Invoice → Pricing)

/-- The answer to a request, and the rows after it. -/
def handle (s : State) : Request → Reply × State
  | .pricing =>
    let answer := InvoicePricingView.post calculate s.invoice
    (answer.1, { s with invoice := answer.2 })
  | .approve comments =>
    let answer := InvoiceApproveView.post s.invoice comments
    (answer.1, { s with invoice := answer.2 })
  | .reject comments =>
    let answer := InvoiceRejectView.post s.invoice comments
    (answer.1, { s with invoice := answer.2 })
  | .confirm body now =>
    let answer := ConfirmVerificationView.post s.invoice body now
    (answer.1, { s with invoice := answer.2 })
  | .dispute reason disputeType =>
    let answer := DisputeVerificationView.post s.invoice reason disputeType
    (answer.1, { s with invoice := answer.2 })
  | .approveAction user body now paymentId queuedAt =>
    let answer :=
      ApproveInvoiceActionView.post s.invoice s.approval s.payment user body now paymentId queuedAt
    (answer.1,
      { s with invoice := answer.2.1, approval := some answer.2.2.1, payment := answer.2.2.2 })
  | .rejectAction user comments now =>
    let answer := RejectInvoiceActionView.post s.invoice s.approval user comments now
    (answer.1, { s with invoice := answer.2.1, approval := some answer.2.2 })
  | .authorise user inputs now =>
    match s.payment with
    | none => (⟨404, []⟩, s)
    | some payment =>
      let answer := Payments.post payment s.invoice user inputs now
      (answer.2.2.reply.getD ⟨500, []⟩, { s with payment := some answer.1, invoice := answer.2.1 })
  | .recordPayment amount now =>
    match s.case with
    | none => (⟨404, []⟩, s)
    | some case =>
      let answer := RecordPaymentActionView.post case s.invoice s.settlement amount now
      (answer.1,
        { s with case := some answer.2.1, invoice := answer.2.2.1, settlement := answer.2.2.2 })
  | .escalate targetLevel snakeCased reason now =>
    match s.case with
    | none => (⟨404, []⟩, s)
    | some case =>
      let answer := EscalateActionView.post case targetLevel snakeCased reason now
      (answer.1, { s with case := some answer.2 })
  | .deescalate targetLevel snakeCased =>
    match s.case with
    | none => (⟨404, []⟩, s)
    | some case =>
      let answer := DeescalateActionView.post case targetLevel snakeCased
      (answer.1, { s with case := some answer.2 })
  | .resolve =>
    match s.case with
    | none => (⟨404, []⟩, s)
    | some case =>
      let answer := ResolveActionView.post case
      (answer.1, { s with case := some answer.2 })

/-- The rows after these requests. -/
def after (s : State) (requests : List Request) : State :=
  requests.foldl (fun s request => (handle calculate s request).2) s

/-! ## What is to hold -/

/-- The place of a status on the way. -/
def rank : InvoiceStatus → Option ℕ
  | .submitted => some 0
  | .verified => some 1
  | .priced => some 2
  | .approved => some 3
  | .funded => some 4
  | .collected => some 5
  | _ => none

/-- Forward on the way, or from a status before funded to rejected. -/
def Forward (a b : InvoiceStatus) : Prop :=
  a = b ∨ (∃ i j, rank a = some i ∧ rank b = some j ∧ i < j) ∨
    (b = .rejected ∧ ∃ i, rank a = some i ∧ i < 4)

attribute [local simp] Forward rank

def State.Disbursed (s : State) : Prop := ∃ payment, s.payment = some payment ∧ payment.status = .disbursed

structure Proper (s₀ : State) (requests : List Request) : Prop where
  forward : ∀ before between, before ++ between <+: requests →
    Forward (after calculate s₀ before).invoice.status
      (after calculate s₀ (before ++ between)).invoice.status
  kept : ∀ before between, before ++ between <+: requests →
    (after calculate s₀ before).invoice.status = .rejected ∨
      (after calculate s₀ before).invoice.status = .collected →
    (after calculate s₀ (before ++ between)).invoice.status = (after calculate s₀ before).invoice.status
  disbursed : ∀ before request, before ++ [request] <+: requests →
    ¬ (after calculate s₀ before).Disbursed → (after calculate s₀ (before ++ [request])).Disbursed →
    (after calculate s₀ before).invoice.status ≠ .rejected ∧
      (after calculate s₀ before).invoice.verifiedAt.isSome = true

def unfunded : List InvoiceStatus := [.submitted, .verified, .priced, .approved]

/-- The statuses in which a request does no harm. A comment that is null, an unconfirmed declaration, a
signature that is not the second, and a payment that does not clear the case leave the invoice alone. -/
def Guard (s : State) : Request → Prop
  | .pricing => s.invoice.status ∈ [.submitted, .verified, .priced]
  | .approve comments => comments ≠ .null → s.invoice.status ∈ unfunded
  | .reject comments => comments ≠ .null → s.invoice.status ∈ .rejected :: unfunded
  | .confirm body _ => body.confirmed = true → s.invoice.status ∈ [.submitted, .verified]
  | .dispute _ _ => s.invoice.status ∈ .rejected :: unfunded
  | .approveAction _ body _ _ _ =>
    body.comments ≠ .null → body.creditMemo ≠ .null → body.reviewSummary ≠ .null →
      s.invoice.status ∈ unfunded
  | .rejectAction _ comments _ => comments ≠ .null → s.invoice.status ∈ .rejected :: unfunded
  | .authorise user _ _ => ∀ payment first, s.payment = some payment → payment.dualAuthUser1 = some first →
    first ≠ user → s.invoice.status ∈ .funded :: unfunded ∧
      (payment.status = .disbursed ∨ s.invoice.verifiedAt.isSome = true)
  | .recordPayment amount _ => ∀ case, s.case = some case →
    RecordPaymentActionView.clears case amount = true →
      s.invoice.status ∈ .collected :: .funded :: unfunded
  | _ => True

/-! ## The order of the statuses -/

theorem Forward.refl (a : InvoiceStatus) : Forward a a := Or.inl rfl

theorem Forward.trans {a b c : InvoiceStatus} (hab : Forward a b) (hbc : Forward b c) : Forward a c := by
  rcases hab with rfl | ⟨i, j, hi, hj, hij⟩ | ⟨rfl, hi⟩
  · exact hbc
  · rcases hbc with rfl | ⟨j', k, hj', hk, hjk⟩ | ⟨rfl, j', hj', hlt⟩
    · exact Or.inr (Or.inl ⟨i, j, hi, hj, hij⟩)
    · obtain rfl := Option.some.inj (hj.symm.trans hj')
      exact Or.inr (Or.inl ⟨i, k, hi, hk, by omega⟩)
    · obtain rfl := Option.some.inj (hj.symm.trans hj')
      exact Or.inr (Or.inr ⟨rfl, i, hi, by omega⟩)
  · rcases hbc with rfl | ⟨j, k, hj, -⟩ | ⟨rfl, j, hj, -⟩
    · exact Or.inr (Or.inr ⟨rfl, hi⟩)
    · cases hj
    · cases hj

/-- Nothing is after rejected and collected. -/
theorem Forward.eq_of_last {a b : InvoiceStatus} (h : Forward a b)
    (ha : a = .rejected ∨ a = .collected) :
    b = a := by
  rcases h with rfl | ⟨i, j, hi, hj, hij⟩ | ⟨-, i, hi, hlt⟩
  · rfl
  · have hlast : j ≤ 5 := by
      cases b <;> simp at hj <;> omega
    rcases ha with rfl | rfl
    · cases hi
    · obtain rfl := Option.some.inj hi
      omega
  · rcases ha with rfl | rfl
    · cases hi
    · obtain rfl := Option.some.inj hi
      omega

theorem forward_priced {a : InvoiceStatus} : Forward a .priced ↔ a ∈ [.submitted, .verified, .priced] := by
  cases a <;> simp

theorem forward_verified {a : InvoiceStatus} : Forward a .verified ↔ a ∈ [.submitted, .verified] := by
  cases a <;> simp

theorem forward_approved {a : InvoiceStatus} : Forward a .approved ↔ a ∈ unfunded := by
  cases a <;> simp [unfunded]

theorem forward_rejected {a : InvoiceStatus} : Forward a .rejected ↔ a ∈ .rejected :: unfunded := by
  cases a <;> simp [unfunded]

theorem forward_funded {a : InvoiceStatus} : Forward a .funded ↔ a ∈ .funded :: unfunded := by
  cases a <;> simp [unfunded]

theorem forward_collected {a : InvoiceStatus} :
    Forward a .collected ↔ a ∈ .collected :: .funded :: unfunded := by
  cases a <;> simp [unfunded]

/-! ## One request -/

/-- What a request may do. -/
structure Allowed (s s' : State) : Prop where
  forward : Forward s.invoice.status s'.invoice.status
  disbursed : ¬ s.Disbursed → s'.Disbursed →
    s.invoice.status ≠ .rejected ∧ s.invoice.verifiedAt.isSome = true

theorem allowed_iff_of_payment {s s' : State} (h : s'.Disbursed → s.Disbursed) :
    Allowed s s' ↔ Forward s.invoice.status s'.invoice.status :=
  ⟨Allowed.forward, fun hforward => ⟨hforward, fun hnot hs' => absurd (h hs') hnot⟩⟩

theorem disbursed_of_payment_eq {s s' : State} (h : s'.payment = s.payment) :
    s'.Disbursed → s.Disbursed := by
  rintro ⟨payment, hpayment, hstatus⟩
  exact ⟨payment, h ▸ hpayment, hstatus⟩

theorem allowed_of_eq {s s' : State} (hinvoice : s'.invoice = s.invoice)
    (hpayment : s'.payment = s.payment) :
    Allowed s s' :=
  (allowed_iff_of_payment (disbursed_of_payment_eq hpayment)).2 (hinvoice ▸ .refl _)

/-- A request that may be without effect on the status. -/
theorem allowed_iff_of_effect {s s' : State} {b : InvoiceStatus} {effect : Prop} [Decidable effect]
    (hpayment : s'.Disbursed → s.Disbursed)
    (hstatus : s'.invoice.status = if effect then b else s.invoice.status) :
    Allowed s s' ↔ (effect → Forward s.invoice.status b) := by
  rw [allowed_iff_of_payment hpayment, hstatus]
  by_cases heffect : effect
  · rw [if_pos heffect, imp_iff_right heffect]
  · rw [if_neg heffect]
    exact iff_of_true (.refl _) fun h => absurd h heffect

variable {calculate} {s : State}

/-- One that writes nothing but the invoice. -/
theorem allowed_invoice_iff {invoice : Invoice} {b : InvoiceStatus} {effect : Prop} [Decidable effect]
    (hstatus : invoice.status = if effect then b else s.invoice.status) :
    Allowed s { s with invoice } ↔ (effect → Forward s.invoice.status b) :=
  allowed_iff_of_effect (disbursed_of_payment_eq rfl) hstatus

theorem status_approve (invoice : Invoice) (comments : Field) :
    (InvoiceApproveView.post invoice comments).2.status =
      if comments ≠ .null then .approved else invoice.status := by
  cases comments <;> rfl

theorem status_reject (invoice : Invoice) (comments : Field) :
    (InvoiceRejectView.post invoice comments).2.status =
      if comments ≠ .null then .rejected else invoice.status := by
  cases comments <;> rfl

theorem status_confirm (invoice : Invoice) (body : ConfirmVerificationView.Body) (now : DateTime) :
    (ConfirmVerificationView.post invoice body now).2.status =
      if body.confirmed = true then .verified else invoice.status := by
  unfold ConfirmVerificationView.post
  split <;> rfl

theorem status_rejectAction (invoice : Invoice) (approval : Option ApprovalRequest) (user : ℕ)
    (comments : Field) (now : DateTime) :
    (RejectInvoiceActionView.post invoice approval user comments now).2.1.status =
      if comments ≠ .null then .rejected else invoice.status := by
  cases comments <;> rfl

section ApproveAction

variable (invoice : Invoice) (approval : Option ApprovalRequest) (payment : Option PaymentRecord) (user : ℕ)
  (body : ApproveInvoiceActionView.Body) (now : DateTime) (paymentId : ℕ) (queuedAt : DateTime)

theorem status_approveAction :
    (ApproveInvoiceActionView.post invoice approval payment user body now paymentId queuedAt).2.1.status =
      if body.comments ≠ .null ∧ body.creditMemo ≠ .null ∧ body.reviewSummary ≠ .null then .approved
      else invoice.status := by
  unfold ApproveInvoiceActionView.post
  rcases body with ⟨comments, creditMemo, reviewSummary⟩
  cases comments <;> cases creditMemo <;> cases reviewSummary <;> rfl

/-- A payment that is queued is not disbursed. -/
theorem disbursed_approveAction (p : PaymentRecord) (hp : p.status = .disbursed)
    (h : (ApproveInvoiceActionView.post invoice approval payment user body now paymentId queuedAt).2.2.2 =
      some p) : payment = some p := by
  unfold ApproveInvoiceActionView.post at h
  split at h
  · cases payment with
    | some payment => exact h
    | none =>
      obtain rfl := Option.some.inj h
      cases hp
  · exact h

end ApproveAction

theorem status_recordPayment (case : CollectionCase) (invoice : Invoice) (settlement : Option Settlement)
    (amount : Amount) (now : DateTime) :
    (RecordPaymentActionView.post case invoice settlement amount now).2.2.1.status =
      if RecordPaymentActionView.clears case amount = true then .collected else invoice.status := by
  unfold RecordPaymentActionView.post
  split
  · dsimp only
    split <;> rfl
  · split <;> rfl

/-- The second signature is the one that moves the invoice and disburses the payment. -/
theorem allowed_authorise_iff {payment : PaymentRecord} {user : ℕ} {inputs : Inputs} {now : DateTime}
    (hpayment : s.payment = some payment) :
    Allowed s (handle calculate s (.authorise user inputs now)).2 ↔
      ∀ first, payment.dualAuthUser1 = some first → first ≠ user →
        s.invoice.status ∈ .funded :: unfunded ∧
          (payment.status = .disbursed ∨ s.invoice.verifiedAt.isSome = true) := by
  simp only [handle, hpayment, Payments.post]
  cases hsign : sign payment user inputs with
  | first signed =>
    obtain ⟨hnone, rfl⟩ := eq_of_first hsign
    refine iff_of_true ⟨.refl _, fun hnot hs' => ?_⟩ fun first h => by rw [hnone] at h; cases h
    obtain ⟨p, hp, hstatus⟩ := hs'
    obtain rfl := Option.some.inj hp
    cases hstatus
  | refused =>
    have huser := refused_iff.1 hsign
    refine iff_of_true ⟨.refl _, fun hnot hs' => ?_⟩ fun first h hne => ?_
    · obtain ⟨p, hp, hstatus⟩ := hs'
      obtain rfl := Option.some.inj hp
      exact absurd ⟨_, hpayment, hstatus⟩ hnot
    · exact absurd (Option.some.inj (h.symm.trans huser)) hne
  | second signed =>
    obtain ⟨⟨first, hfirst, hne⟩, rfl⟩ := eq_of_second hsign
    have hdisbursed : s.Disbursed ↔ payment.status = .disbursed := by
      constructor
      · rintro ⟨p, hp, hstatus⟩
        obtain rfl := Option.some.inj (hpayment.symm.trans hp)
        exact hstatus
      · exact fun hstatus => ⟨payment, hpayment, hstatus⟩
    constructor
    · intro h _ _ _
      refine ⟨forward_funded.1 h.forward, or_iff_not_imp_left.2 fun hstatus => ?_⟩
      exact (h.disbursed (mt hdisbursed.1 hstatus) ⟨_, rfl, rfl⟩).2
    · intro h
      obtain ⟨hmem, hor⟩ := h first hfirst hne
      refine ⟨forward_funded.2 hmem, fun hnot _ => ⟨?_, hor.resolve_left (mt hdisbursed.2 hnot)⟩⟩
      intro hrejected
      rw [hrejected] at hmem
      exact absurd hmem (by decide)

/-- A payment that clears the case collects the invoice, whether its other rows are stored or not. -/
theorem allowed_recordPayment_iff {case : CollectionCase} {amount : Amount} {now : DateTime}
    (hrow : s.case = some case) :
    Allowed s (handle calculate s (.recordPayment amount now)).2 ↔
      (RecordPaymentActionView.clears case amount = true →
        s.invoice.status ∈ .collected :: .funded :: unfunded) := by
  have hpayment : (handle calculate s (.recordPayment amount now)).2.payment = s.payment := by
    simp only [handle, hrow]
  have hstatus : (handle calculate s (.recordPayment amount now)).2.invoice.status =
      if RecordPaymentActionView.clears case amount = true then .collected else s.invoice.status := by
    simp only [handle, hrow]
    exact status_recordPayment case s.invoice s.settlement amount now
  rw [allowed_iff_of_effect (disbursed_of_payment_eq hpayment) hstatus, forward_collected]

/-- An approval in the queue does not disburse the payment that it queues. -/
theorem allowed_approveAction_iff {user : ℕ} {body : ApproveInvoiceActionView.Body}
    {now queuedAt : DateTime}
    {paymentId : ℕ} :
    Allowed s (handle calculate s (.approveAction user body now paymentId queuedAt)).2 ↔
      (body.comments ≠ .null ∧ body.creditMemo ≠ .null ∧ body.reviewSummary ≠ .null →
        s.invoice.status ∈ unfunded) := by
  have hpayment : (handle calculate s (.approveAction user body now paymentId queuedAt)).2.Disbursed →
      s.Disbursed := by
    rintro ⟨payment, hpayment, hstatus⟩
    exact ⟨payment, disbursed_approveAction _ _ _ _ _ _ _ _ payment hstatus hpayment, hstatus⟩
  rw [allowed_iff_of_effect hpayment
    (status_approveAction s.invoice s.approval s.payment user body now paymentId queuedAt), forward_approved]

/-- A request is one that does no harm if and only if it comes in a status for its view. -/
theorem allowed_handle_iff (request : Request) :
    Allowed s (handle calculate s request).2 ↔ Guard s request := by
  cases request with
  | pricing =>
    refine Iff.trans (allowed_iff_of_payment (disbursed_of_payment_eq ?_)) forward_priced
    rfl
  | approve comments =>
    refine (allowed_invoice_iff (status_approve s.invoice comments)).trans ?_
    rw [forward_approved]
    exact Iff.rfl
  | reject comments =>
    refine (allowed_invoice_iff (status_reject s.invoice comments)).trans ?_
    rw [forward_rejected]
    exact Iff.rfl
  | confirm body now =>
    refine (allowed_invoice_iff (status_confirm s.invoice body now)).trans ?_
    rw [forward_verified]
    exact Iff.rfl
  | dispute reason disputeType =>
    refine Iff.trans (allowed_iff_of_payment (disbursed_of_payment_eq ?_)) forward_rejected
    rfl
  | approveAction user body now paymentId queuedAt =>
    rw [allowed_approveAction_iff, and_imp, and_imp]
    exact Iff.rfl
  | rejectAction user comments now =>
    have hpayment : (handle calculate s (.rejectAction user comments now)).2.payment = s.payment := rfl
    rw [allowed_iff_of_effect (disbursed_of_payment_eq hpayment)
      (status_rejectAction s.invoice s.approval user comments now), forward_rejected]
    exact Iff.rfl
  | authorise user inputs now =>
    cases hpayment : s.payment with
    | none =>
      simp only [handle, hpayment, Guard]
      exact iff_of_true (allowed_of_eq rfl rfl) fun _ _ h => by cases h
    | some payment =>
      rw [allowed_authorise_iff hpayment]
      constructor
      · intro h p first hp
        obtain rfl := Option.some.inj (hpayment.symm.trans hp)
        exact h first
      · exact fun h first => h payment first hpayment
  | recordPayment amount now =>
    cases hrow : s.case with
    | none =>
      simp only [handle, hrow, Guard]
      exact iff_of_true (allowed_of_eq rfl rfl) fun _ h => by cases h
    | some case =>
      rw [allowed_recordPayment_iff hrow]
      constructor
      · intro h row hsome
        obtain rfl := Option.some.inj (hrow.symm.trans hsome)
        exact h
      · exact fun h => h case hrow
  | escalate targetLevel snakeCased reason now =>
    refine iff_of_true ?_ trivial
    simp only [handle]
    split <;> exact allowed_of_eq rfl rfl
  | deescalate targetLevel snakeCased =>
    refine iff_of_true ?_ trivial
    simp only [handle]
    split <;> exact allowed_of_eq rfl rfl
  | resolve =>
    refine iff_of_true ?_ trivial
    simp only [handle]
    split <;> exact allowed_of_eq rfl rfl

/-! ## Runs -/

open Runs

variable {s₀ : State} {requests : List Request}

/-- The requests as steps that are always possible. -/
def step (calculate : Invoice → Pricing) (s : State) (request : Request) : Option State :=
  some (handle calculate s request).2

theorem run_eq : run (step calculate) s requests = some (after calculate s requests) := run_total

theorem after_append (before between : List Request) :
    after calculate s (before ++ between) = after calculate (after calculate s before) between :=
  List.foldl_append

theorem Proper.of_each (h : Each (step calculate) Guard s₀ requests) : Proper calculate s₀ requests := by
  have hallowed :
      Each (step calculate) (fun s request => Allowed s (handle calculate s request).2) s₀ requests :=
    h.mono fun s request => (allowed_handle_iff request).2
  have hforward : ∀ before between, before ++ between <+: requests →
      Forward (after calculate s₀ before).invoice.status
        (after calculate s₀ (before ++ between)).invoice.status := by
    intro before between hpre
    have hbetween := (each_append.1 (hallowed.of_prefix hpre)).2 _ run_eq
    rw [after_append]
    refine Each.related (R := fun s s' => Forward s.invoice.status s'.invoice.status) (fun s => .refl _)
      (fun _ _ _ => .trans) (hbetween.mono fun s request hs s' hs' => ?_) run_eq
    rw [← Option.some.inj hs']
    exact hs.forward
  constructor
  · exact hforward
  · intro before between hpre hlast
    exact (hforward before between hpre).eq_of_last hlast
  · intro before request hpre
    have hlast := each_iff.1 hallowed before request _ hpre run_eq
    rw [after_append]
    exact hlast.disbursed

theorem Proper.each (h : Proper calculate s₀ requests) : Each (step calculate) Guard s₀ requests := by
  refine each_iff.2 fun before request s₁ hpre hrun => ?_
  obtain rfl := Option.some.inj (run_eq.symm.trans hrun)
  refine (@allowed_handle_iff calculate _ request).1 ⟨?_, ?_⟩
  · have hforward := h.forward before [request] hpre
    rw [after_append] at hforward
    exact hforward
  · have hdisbursed := h.disbursed before request hpre
    rw [after_append] at hdisbursed
    exact hdisbursed

/-- From whatever rows and whatever the requests are, the lifecycle is proper if and only if every request
comes in a status for its view. -/
theorem lifecycle_proper_iff (calculate : Invoice → Pricing) (s₀ : State) (requests : List Request) :
    Proper calculate s₀ requests ↔ Each (step calculate) Guard s₀ requests :=
  ⟨Proper.each, Proper.of_each⟩

/-! ## The payment -/

/-- What is known of a payment that requests interleave for holds of the one that is queued. -/
def State.Sound (s : State) : Prop := ∀ payment, s.payment = some payment → payment.Sound

theorem sound_post {payment : PaymentRecord} (h : payment.Sound) (invoice : Invoice) (user : ℕ)
    (inputs : Inputs) (now : DateTime) : (Payments.post payment invoice user inputs now).1.Sound := by
  unfold Payments.post
  cases hsign : sign payment user inputs with
  | first signed => exact sound_first h hsign
  | refused => exact h
  | second signed => exact sound_second hsign

theorem sound_handle (hs : s.Sound) (request : Request) : (handle calculate s request).2.Sound := by
  cases request with
  | approveAction user body now paymentId queuedAt =>
    intro payment hpayment
    simp only [handle, ApproveInvoiceActionView.post] at hpayment
    split at hpayment
    · cases hqueued : s.payment with
      | some queued =>
        rw [hqueued] at hpayment
        exact hs payment (hqueued.trans hpayment)
      | none =>
        rw [hqueued] at hpayment
        obtain rfl := Option.some.inj hpayment
        exact ⟨fun _ => rfl, fun h => by cases h⟩
    · exact hs payment hpayment
  | authorise user inputs now =>
    cases hpayment : s.payment with
    | none =>
      simp only [handle, hpayment]
      exact hs
    | some payment =>
      intro signed hsigned
      simp only [handle, hpayment] at hsigned
      obtain rfl := Option.some.inj hsigned
      exact sound_post (hs payment hpayment) s.invoice user inputs now
  | recordPayment amount now =>
    simp only [handle]
    split <;> exact hs
  | escalate targetLevel snakeCased reason now =>
    simp only [handle]
    split <;> exact hs
  | deescalate targetLevel snakeCased =>
    simp only [handle]
    split <;> exact hs
  | resolve =>
    simp only [handle]
    split <;> exact hs
  | _ => exact hs

/-- Whatever was requested before, the payment is one whose signatures are given in turn, and which has
two signers if it is disbursed. -/
theorem sound_after (hs : s₀.Sound) (requests : List Request) : (after calculate s₀ requests).Sound := by
  induction requests generalizing s₀ with
  | nil => exact hs
  | cons request requests ih => exact ih (sound_handle hs request)

/-! ## Samples -/

/-- A submitted invoice, its payment queued, disputed by its buyer, and paid out. -/
def sampleRequests : List Request :=
  [.approveAction 1 {} (sampleTime 8) 1 (sampleTime 8), .dispute .absent .absent,
    .authorise 2 (sampleInputs 9) (sampleTime 9), .authorise 3 (sampleInputs 10) (sampleTime 10)]

def sampleState : State := { invoice := { sampleInvoice with status := .submitted } }

/-- Nothing stops the payment of an invoice that the buyer has never verified, and then disputed. -/
theorem rejected_funded :
    ¬ Proper (fun _ => ⟨.null, 0, 0, 0, 0⟩) sampleState sampleRequests ∧
      (let s := after (fun _ => ⟨.null, 0, 0, 0, 0⟩) sampleState sampleRequests
      (s.invoice.status, s.invoice.verifiedAt, s.payment.map PaymentRecord.status) =
        (.funded, none, some .disbursed)) := by
  refine ⟨fun h => ?_, by decide⟩
  have hforward := h.kept (sampleRequests.take 2) (sampleRequests.drop 2) (List.prefix_refl _)
    (Or.inl (by decide))
  exact absurd hforward (by decide)

end Ris.Backend.Lifecycle
