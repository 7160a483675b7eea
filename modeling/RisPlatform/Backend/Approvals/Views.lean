import RisPlatform.Backend.Payments.Views

/-!
# The approval queue of the backend

`ApproveInvoiceActionView` and `RejectInvoiceActionView` of the app `approvals`. An approval queues the
payment of the invoice, unless it has one.
-/

namespace Ris.Backend.Approvals

open Invoices (Invoice)
open Payments (PaymentRecord)

inductive ApprovalStatus where
  | pending
  | approved
  | rejected
  | infoRequested
  deriving DecidableEq

structure ApprovalRequest where
  invoice : ℕ
  tier : ℕ := 1
  status : ApprovalStatus := .pending
  requestedBy : Option ℕ := none
  approvedBy : Option ℕ := none
  approvedAt : Option DateTime := none
  comments : Text := []
  creditMemo : Text := []
  reviewSummary : Text := []

/-- `ApprovalRequest.objects.get_or_create(invoice=invoice)` -/
def getOrCreate (approval : Option ApprovalRequest) (invoice : Invoice) : ApprovalRequest :=
  approval.getD { invoice := invoice.id }

/-- `PaymentRecord.objects.get_or_create(invoice=invoice)` with the defaults of the view; the deadline is 72
hours from now. -/
def queuePayment (payment : Option PaymentRecord) (invoice : Invoice) (id : ℕ) (now : DateTime) :
    PaymentRecord :=
  payment.getD
    { id
      invoice := invoice.id
      supplier := invoice.supplier
      buyer := invoice.buyer
      amountUgx := invoice.netAdvanceUgx
      provider := .eft
      status := .pendingSignature
      slaDeadline := now.nextDay.nextDay.nextDay }

namespace ApproveInvoiceActionView

structure Body where
  comments : Field := .absent
  creditMemo : Field := .absent
  reviewSummary : Field := .absent

def post (invoice : Invoice) (approval : Option ApprovalRequest) (payment : Option PaymentRecord)
    (user : ℕ)
    (body : Body) (now : DateTime) (paymentId : ℕ) (queuedAt : DateTime) :
    Reply × Invoice × ApprovalRequest × Option PaymentRecord :=
  let approval := getOrCreate approval invoice
  match body.comments.stored "", body.creditMemo.stored "", body.reviewSummary.stored "" with
  | some comments, some creditMemo, some reviewSummary =>
    let approval := { approval with
      status := .approved
      approvedBy := some user
      approvedAt := some now
      comments
      creditMemo
      reviewSummary }
    (⟨200, "Credit approval granted. Payment queued for two-officer dual authorization.".toList⟩,
      { invoice with status := .approved }, approval, some (queuePayment payment invoice paymentId queuedAt))
  | _, _, _ => (⟨500, []⟩, invoice, approval, payment)

end ApproveInvoiceActionView

namespace RejectInvoiceActionView

def post (invoice : Invoice) (approval : Option ApprovalRequest) (user : ℕ) (comments : Field)
    (now : DateTime) : Reply × Invoice × ApprovalRequest :=
  let approval := getOrCreate approval invoice
  match comments.stored "Declined per credit policy." with
  | none => (⟨500, []⟩, invoice, approval)
  | some comments =>
    (⟨200, "Invoice credit approval rejected.".toList⟩,
      { invoice with status := .rejected, rejectionReason := comments },
      { approval with status := .rejected, approvedBy := some user, approvedAt := some now, comments })

end RejectInvoiceActionView

end Ris.Backend.Approvals
