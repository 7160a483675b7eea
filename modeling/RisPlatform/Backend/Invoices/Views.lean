import Mathlib.Data.Rat.Defs
import RisPlatform.Backend.Core

/-!
# Pricing, deciding and verifying an invoice in the backend

`Invoice` of the app `invoices`, with the columns that the views of its lifecycle read and write. The views
of the app that set the status, and those of the app `verification`, by which the buyer confirms or
disputes, each read the invoice and write it back; none reads the status. What the calculator of the app
`pricing` makes of an invoice is a parameter. Answers that show the invoice have no message here.
-/

namespace Ris.Backend.Invoices

inductive InvoiceStatus where
  | draft
  | submitted
  | verified
  | priced
  | approved
  | funded
  | collecting
  | collected
  | overdue
  | defaulted
  | rejected
  deriving DecidableEq

inductive RiskGrade where
  | low
  | medium
  | high
  | critical
  deriving DecidableEq

structure Invoice where
  id : ℕ
  supplier : ℕ
  buyer : ℕ
  faceValueUgx : ℚ
  advanceRatePct : ℚ := 80
  advanceAmountUgx : ℚ := 0
  discountFeeUgx : ℚ := 0
  netAdvanceUgx : ℚ := 0
  issueDate : DateTime
  dueDate : DateTime
  fundedAt : Option DateTime := none
  collectedAt : Option DateTime := none
  status : InvoiceStatus := .submitted
  riskGrade : RiskGrade := .low
  pricingBreakdown : Json := .obj []
  verifiedAt : Option DateTime := none
  noticeOfAssignmentSigned : Bool := false
  rejectionReason : Text := []
  creditOfficerNotes : Text := []

/-- What the calculator returns, and its figures as the columns store them. -/
structure Pricing where
  breakdown : Json
  advanceRatePct : ℚ
  advanceAmountUgx : ℚ
  discountFeeUgx : ℚ
  netAdvanceUgx : ℚ

namespace InvoicePricingView

def post (calculate : Invoice → Pricing) (invoice : Invoice) : Reply × Invoice :=
  let pricing := calculate invoice
  (⟨200, []⟩,
    { invoice with
      pricingBreakdown := pricing.breakdown
      advanceRatePct := pricing.advanceRatePct
      advanceAmountUgx := pricing.advanceAmountUgx
      discountFeeUgx := pricing.discountFeeUgx
      netAdvanceUgx := pricing.netAdvanceUgx
      status := .priced })

end InvoicePricingView

namespace InvoiceApproveView

def post (invoice : Invoice) (comments : Field) : Reply × Invoice :=
  match comments.stored "Approved according to credit delegation matrix." with
  | none => (⟨500, []⟩, invoice)
  | some comments => (⟨200, []⟩, { invoice with status := .approved, creditOfficerNotes := comments })

end InvoiceApproveView

namespace InvoiceRejectView

def post (invoice : Invoice) (comments : Field) : Reply × Invoice :=
  match comments.stored "Declined per risk policy." with
  | none => (⟨500, []⟩, invoice)
  | some comments => (⟨200, []⟩, { invoice with status := .rejected, rejectionReason := comments })

end InvoiceRejectView

namespace ConfirmVerificationView

/-- The declarations of the buyer; what is absent is declared. -/
structure Body where
  invoiceIsValid : Option Json := none
  amountIsCorrect : Option Json := none
  agreesToPayRis : Option Json := none

def Body.confirmed (body : Body) : Bool :=
  (body.invoiceIsValid.getD (.bool true)).truthy && (body.amountIsCorrect.getD (.bool true)).truthy &&
    (body.agreesToPayRis.getD (.bool true)).truthy

def post (invoice : Invoice) (body : Body) (now : DateTime) : Reply × Invoice :=
  if body.confirmed then
    (⟨200, "Invoice successfully verified and Notice of Assignment acknowledged.".toList⟩,
      { invoice with status := .verified, verifiedAt := some now, noticeOfAssignmentSigned := true })
  else
    (⟨400, "All 4 verification and Notice of Assignment declarations must be confirmed.".toList⟩, invoice)

end ConfirmVerificationView

namespace DisputeVerificationView

def post (invoice : Invoice) (reason disputeType : Field) : Reply × Invoice :=
  (⟨200, "Dispute recorded. The commercial invoice has been flagged for credit officer review.".toList⟩,
    { invoice with
      status := .rejected
      rejectionReason := "Buyer Dispute [".toList ++ disputeType.formatted "incorrect_amount" ++ "]: ".toList ++
        reason.formatted "Buyer reported dispute on goods / amount." })

end DisputeVerificationView

end Ris.Backend.Invoices
