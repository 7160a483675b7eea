import Mathlib.Algebra.Order.Field.Rat
import RisPlatform.Backend.Invoices.Views

/-!
# Recovering an invoice in the backend

The views of the app `collections` that write a case. The one that records a payment sets the invoice to
collected when nothing is outstanding, and creates its settlement. The rows are written one after the
other: what was written before a refusal stays. Sums and products have the digits of the default context.
Drafts of documents, which write neither the case nor the invoice, are left out.
-/

namespace Ris.Backend.Collections

open Invoices (Invoice)

inductive CaseStatus where
  | active
  | disputed
  | resolved
  | writtenOff
  deriving DecidableEq

structure CollectionCase where
  invoice : ℕ
  outstandingAmountUgx : ℚ
  collectedAmountUgx : ℚ := 0
  escalationLevel : Text := "none".toList
  status : CaseStatus := .active
  notes : Text := []

inductive SettlementStatus where
  | pending
  | facilityRepaid
  | profitBooked
  | closed
  deriving DecidableEq

structure Settlement where
  invoice : ℕ
  supplier : ℕ
  buyer : ℕ
  faceValueUgx : ℚ
  collectedAmountUgx : ℚ
  advanceAmountUgx : ℚ
  discountEarnedUgx : ℚ
  facilityRepaymentUgx : ℚ
  bankCostPaidUgx : ℚ
  netProfitUgx : ℚ
  status : SettlementStatus := .pending

/-! ## Columns -/

/-- A column of eighteen digits, two of them places: it rounds halves away from zero, and refuses what is
too large. -/
def numeric (q : ℚ) : Option ℚ :=
  let rounded := ((|q| * 100 + 1 / 2).floor : ℚ) / 100
  if rounded < 10 ^ 16 then some (if q < 0 then -rounded else rounded) else none

def varchar (maxLength : ℕ) (s : Text) : Option Text := if s.length ≤ maxLength then some s else none

/-! ## Payments -/

/-- What `Decimal(str(amount))` reads in an amount that counts as true. A finite one that is too large for the
context, so that the first sum fails, is among the unreadable. -/
inductive Amount where
  | absent
  | finite (q : ℚ)
  | infinite (negative : Bool)
  | nan
  | unreadable

namespace RecordPaymentActionView

/-- `Settlement.objects.get_or_create(invoice=invoice)` with the defaults of the view. -/
def settle (settlement : Option Settlement) (invoice : Invoice) (amount : ℚ) : Option Settlement :=
  match settlement with
  | some settlement => some settlement
  | none =>
    let netProfit := fix (invoice.discountFeeUgx * (65 / 100))
    match numeric amount, numeric netProfit, numeric (fix (invoice.discountFeeUgx - netProfit)) with
    | some collected, some netProfit, some bankCost => some
        { invoice := invoice.id
          supplier := invoice.supplier
          buyer := invoice.buyer
          faceValueUgx := invoice.faceValueUgx
          collectedAmountUgx := collected
          advanceAmountUgx := invoice.netAdvanceUgx
          discountEarnedUgx := invoice.discountFeeUgx
          facilityRepaymentUgx := invoice.netAdvanceUgx
          bankCostPaidUgx := bankCost
          netProfitUgx := netProfit
          status := .pending }
    | _, _, _ => none

/-- The amount that is recorded. -/
def amountOf (case : CollectionCase) : Amount → Option ℚ
  | .absent => some case.outstandingAmountUgx
  | .finite q => some q
  | _ => none

def collectedAfter (case : CollectionCase) (amount : ℚ) : ℚ := fix (case.collectedAmountUgx + amount)

def outstandingAfter (case : CollectionCase) (amount : ℚ) :
    ℚ := max (fix (case.outstandingAmountUgx - amount)) 0

/-- Nothing is outstanding after the payment. -/
def clears (case : CollectionCase) : Amount → Bool
  | .absent => outstandingAfter case case.outstandingAmountUgx = 0
  | .finite q => outstandingAfter case q = 0
  | .infinite negative => !negative
  | _ => false

/-- `case.save()` -/
def save (case : CollectionCase) (status : CaseStatus) (amount : ℚ) : Reply × CollectionCase :=
  match numeric (outstandingAfter case amount), numeric (collectedAfter case amount) with
  | some outstanding, some collected =>
    (⟨200, []⟩,
      { case with outstandingAmountUgx := outstanding, collectedAmountUgx := collected, status })
  | _, _ => (⟨500, []⟩, case)

/-- The message of the answer, which shows the amount, is left out. -/
def post (case : CollectionCase) (invoice : Invoice) (settlement : Option Settlement) (amount : Amount)
    (now : DateTime) : Reply × CollectionCase × Invoice × Option Settlement :=
  if clears case amount then
    let invoice := { invoice with status := .collected, collectedAt := some now }
    -- an infinite amount is not stored, neither in a settlement nor in the case
    match (amountOf case amount).bind fun q =>
      (settle settlement invoice q).map fun settlement => (q, settlement) with
    | none => (⟨500, []⟩, case, invoice, settlement)
    | some (q, settlement) =>
      let (reply, case) := save case .resolved q
      (reply, case, invoice, some settlement)
  else
    match amountOf case amount with
    | none => (⟨500, []⟩, case, invoice, settlement)
    | some q =>
      let (reply, case) := save case case.status q
      (reply, case, invoice, settlement)

end RecordPaymentActionView

/-! ## Escalation -/

namespace EscalateActionView

/-- The first of the two fields that counts as true, or the default. -/
def level (targetLevel snakeCased : Text) (default : String) : Text :=
  if targetLevel ≠ [] then targetLevel else if snakeCased ≠ [] then snakeCased else default.toList

def stamp (now : DateTime) : Text :=
  pad 4 now.year ++ '-' :: pad 2 now.month ++ '-' :: pad 2 now.day ++ ' ' :: pad 2 now.hour ++ ':' ::
    pad 2 now.minute

def post (case : CollectionCase) (targetLevel snakeCased : Text) (reason : Field) (now : DateTime) :
    Reply × CollectionCase :=
  let target := level targetLevel snakeCased "formal_notice"
  match varchar 30 target with
  | none => (⟨500, []⟩, case)
  | some escalationLevel =>
    (⟨200, "Collection case escalated to ".toList ++ escalationLevel ++ ['.']⟩,
      { case with
        escalationLevel
        notes := case.notes ++ '\n' :: '[' :: stamp now ++ "] Escalated to ".toList ++ target ++ ": ".toList ++
          reason.formatted "Debtor failed to honour agreed settlement date." })

end EscalateActionView

namespace DeescalateActionView

def post (case : CollectionCase) (targetLevel snakeCased : Text) : Reply × CollectionCase :=
  match varchar 30 (EscalateActionView.level targetLevel snakeCased "none") with
  | none => (⟨500, []⟩, case)
  | some escalationLevel =>
    (⟨200, "Collection case de-escalated to ".toList ++ escalationLevel ++ ['.']⟩,
      { case with escalationLevel })

end DeescalateActionView

namespace ResolveActionView

def post (case : CollectionCase) : Reply × CollectionCase :=
  (⟨200, "Collection case marked as fully resolved.".toList⟩,
    { case with status := .resolved, outstandingAmountUgx := 0 })

end ResolveActionView

end Ris.Backend.Collections
